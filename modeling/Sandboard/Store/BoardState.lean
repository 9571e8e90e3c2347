import Sandboard.Library.SecondaryIndex
import Sandboard.Machine

/-!
# The board state

The cards, the stories and the two hot indexes, with the reads and the updates that happen
under one lock.  `transitionLocked` is the single write path of a card's state.
-/

namespace Sandboard

open Std

structure StoryLine where
  atTime : Time
  text : String
  deriving DecidableEq

/-- The board behind the lock. -/
structure BoardState where
  nextId : ItemId
  items : ExtTreeMap ItemId WorkItem
  /-- Per-goal running narrative. -/
  stories : ExtTreeMap ItemId (List StoryLine)
  /-- Ids of the sandbox profile catalog. -/
  sandboxProfileIds : List String
  /-- Parent → child ids. -/
  childrenByParent : SecondaryIndex ItemId ItemId
  /-- State → item ids. -/
  idsByState : SecondaryIndex State ItemId

namespace BoardState

/-- The state of a new board. -/
def empty : BoardState where
  nextId := 1
  items := ∅
  stories := ∅
  sandboxProfileIds := []
  childrenByParent := ∅
  idsByState := ∅

/-! ## Indexes -/

/-- File a card in the hot indexes. -/
def indexLinkItem (s : BoardState) (item : WorkItem) : BoardState :=
  { s with
    childrenByParent := match item.parent with
      | some p => s.childrenByParent.link p item.id
      | none => s.childrenByParent
    idsByState := s.idsByState.link item.state item.id }

/-- Take a card out of the hot indexes. -/
def indexUnlinkItem (s : BoardState) (item : WorkItem) : BoardState :=
  { s with
    childrenByParent := match item.parent with
      | some p => s.childrenByParent.unlink p item.id
      | none => s.childrenByParent
    idsByState := s.idsByState.unlink item.state item.id }

/-- Refile a card whose state changed. -/
def indexSetState (s : BoardState) (id : ItemId) (source target : State) : BoardState :=
  { s with idsByState := s.idsByState.move id source target }

/-- Rebuild the secondary indexes from the cards. -/
def rebuildHotIndexes (s : BoardState) : BoardState :=
  (s.items.toList.map Prod.snd).foldl indexLinkItem
    { s with childrenByParent := ∅, idsByState := ∅ }

/-- Insert a new card and update the hot indexes. -/
def insertItem (s : BoardState) (item : WorkItem) : BoardState :=
  let s := s.indexLinkItem item
  { s with items := s.items.insert item.id item }

/-- Remove a card and update the hot indexes. -/
def removeItem (s : BoardState) (id : ItemId) : BoardState :=
  match s.items[id]? with
  | none => s
  | some item => { s with items := s.items.erase id }.indexUnlinkItem item

/-- Change the card `id` in place, when it is on the board. -/
def editItem (s : BoardState) (id : ItemId) (f : WorkItem → WorkItem) : BoardState :=
  { s with items := s.items.modify id f }

/-! ## Reads -/

/-- The cards in the order of their ids. -/
def cards (s : BoardState) : List WorkItem :=
  s.items.toList.map Prod.snd

/-- Children by the index. -/
def childrenOfIndexed (s : BoardState) (id : ItemId) : List ItemId :=
  s.childrenByParent.bucket id

/-- How many children of `id` are not Retired. -/
def nonRetiredChildCount (s : BoardState) (id : ItemId) : ℕ :=
  (s.childrenOfIndexed id).countP fun cid =>
    (s.items[cid]?.map fun i => decide (i.state ≠ .retired)).getD false

/-- The card is a container: some child of it is not Retired. -/
def hasChildren (s : BoardState) (id : ItemId) : Bool :=
  decide (0 < s.nonRetiredChildCount id)

/-- The blocker `b` is on the board and neither Done nor Retired. -/
def isUnresolved (s : BoardState) (b : ItemId) : Bool :=
  (s.items[b]?.map fun i => !i.state.isTerminal).getD false

/-- The blockers of a card that are still open. -/
def unresolvedBlockers (s : BoardState) (item : WorkItem) : List ItemId :=
  item.blockedBy.filter s.isUnresolved

/-- Fill in the summaries of a card's blockers, as every read of a card does. -/
def populateBlockers (s : BoardState) (item : WorkItem) : WorkItem :=
  { item with
    blockers := item.blockedBy.filterMap fun bid =>
      s.items[bid]?.map fun b => ⟨b.id, b.title, b.state⟩ }

/-- The ancestors of `id`, itself included, root first; cut after 33 steps against cycles. -/
def chain (s : BoardState) (id : ItemId) : List ItemId :=
  (walk 33 (some id)).reverse
where
  /-- Follow the parents for at most the given number of steps. -/
  walk : ℕ → Option ItemId → List ItemId
    | 0, _ => []
    | _, none => []
    | n + 1, some c => c :: walk n (s.items[c]?.bind WorkItem.parent)

/-- The Project a card belongs to. -/
def goalOf (s : BoardState) (id : ItemId) : ItemId :=
  (s.chain id).head?.getD id

/-- The Initial plan Task of a Project, the oldest one when there are several. -/
def initialPlanOf (s : BoardState) (projectId : ItemId) : Option WorkItem :=
  s.cards.find? fun i => i.parent == some projectId && i.isInitialPlanTask

/-! ## Transitions -/

end BoardState

/-- States that imply no agent is holding the card. -/
def releasesLease : State → Bool
  | .backlog | .needsHuman | .done | .retired | .shaping => true
  | _ => false

/-- The card after a transition: the history grows, and entering a state drops what that
state does not keep. -/
def WorkItem.moved (item : WorkItem) (now : Time) (target : State) (byWhom : String)
    (reason : Option String) : WorkItem :=
  let entry : Transition := ⟨now, item.state, target, byWhom, reason⟩
  let backlog := decide (target = .backlog)
  let byHuman := backlog && byWhom == "human"
  { item with
    history := item.history ++ [entry]
    state := target
    enteredStateAt := if item.state ≠ target then now else item.enteredStateAt
    lease := if releasesLease target then none else item.lease
    runDeadlineAt := if releasesLease target then none else item.runDeadlineAt
    progress := if backlog then 0 else item.progress
    -- Bounce, park, halt and deadline expiry all land in Backlog: never auto-start again.
    awaitingDispatch := !(backlog || target.isTerminal) && item.awaitingDispatch
    rebaseRequested := !(backlog || target.isTerminal) && item.rebaseRequested
    runFailures := if byHuman then 0 else item.runFailures
    escalation := if byHuman then none else item.escalation
    lastBounceReason := if byHuman then none else item.lastBounceReason
    -- Terminal cards discard the session and the sandbox.
    conversationId := if target.isTerminal then none else item.conversationId
    parked := !target.isTerminal && item.parked
    environment := if target.isTerminal then none else item.environment }

@[simp] lemma WorkItem.moved_id (i : WorkItem) (now : Time) (target : State) (byWhom : String)
    (reason : Option String) : (i.moved now target byWhom reason).id = i.id := rfl

@[simp] lemma WorkItem.moved_parent (i : WorkItem) (now : Time) (target : State) (byWhom : String)
    (reason : Option String) : (i.moved now target byWhom reason).parent = i.parent := rfl

@[simp] lemma WorkItem.moved_state (i : WorkItem) (now : Time) (target : State) (byWhom : String)
    (reason : Option String) : (i.moved now target byWhom reason).state = target := rfl

namespace BoardState

/-- The check of a transition of `item`, with what only the board knows. -/
def checkMove (s : BoardState) (id : ItemId) (item : WorkItem) (target : State) :
    Except TransitionError Unit :=
  check item target (s.hasChildren id) (s.unresolvedBlockers item)

/-- The board after the card `id`, which is `item`, made a transition. -/
def moveItem (s : BoardState) (id : ItemId) (item : WorkItem) (now : Time) (target : State)
    (byWhom : String) (reason : Option String) : BoardState :=
  (s.editItem id fun i => i.moved now target byWhom reason).indexSetState id item.state target

/-- The single write path of a card's state: check the transition, and make it.  A refused
transition changes nothing. -/
def transitionLocked (s : BoardState) (now : Time) (id : ItemId) (target : State)
    (byWhom : String) (reason : Option String) :
    Except TransitionError (WorkItem × BoardState) :=
  match s.items[id]? with
  | none => .error (.noSuchItem id)
  | some item =>
    match s.checkMove id item target with
    | .error e => .error e
    | .ok () =>
      let s := s.moveItem id item now target byWhom reason
      .ok (s.populateBlockers (item.moved now target byWhom reason), s)

/-! ## What the updates do to the cards -/

variable {s : BoardState} {id k : ItemId}

lemma items_editItem (f : WorkItem → WorkItem) :
    (s.editItem id f).items[k]? = if k = id then s.items[k]?.map f else s.items[k]? := by
  unfold editItem
  rw [ExtTreeMap.getElem?_modify]
  by_cases h : k = id
  · subst h
    simp
  · simp [h, Ne.symm h]

@[simp] lemma items_editItem_self (f : WorkItem → WorkItem) :
    (s.editItem id f).items[id]? = s.items[id]?.map f := by
  rw [items_editItem, if_pos rfl]

lemma items_editItem_of_ne (h : k ≠ id) (f : WorkItem → WorkItem) :
    (s.editItem id f).items[k]? = s.items[k]? := by
  rw [items_editItem, if_neg h]

/-- An edit that changes nothing. -/
lemma editItem_id (s : BoardState) (id : ItemId) : s.editItem id (fun i => i) = s := by
  have hitems : s.items.modify id (fun i => i) = s.items := by
    refine ExtTreeMap.ext_getElem? fun k => ?_
    change (s.editItem id fun i => i).items[k]? = _
    rw [items_editItem]
    simp
  exact congrArg (fun items => { s with items := items }) hitems

/-- Two edits of one card are one edit. -/
lemma editItem_editItem (f g : WorkItem → WorkItem) :
    (s.editItem id f).editItem id g = s.editItem id fun i => g (f i) := by
  have hitems : ((s.editItem id f).editItem id g).items =
      (s.editItem id fun i => g (f i)).items := by
    refine ExtTreeMap.ext_getElem? fun k => ?_
    simp only [items_editItem]
    split
    · rw [Option.map_map]
      rfl
    · rfl
  exact congrArg (fun items => { s with items := items }) hitems

/-- Editing a card that is not there changes nothing. -/
lemma editItem_of_none (h : s.items[id]? = none) (f : WorkItem → WorkItem) :
    s.editItem id f = s := by
  have hitems : s.items.modify id f = s.items := by
    refine ExtTreeMap.ext_getElem? fun k => ?_
    change (s.editItem id f).items[k]? = _
    rw [items_editItem]
    split
    · rename_i hk
      subst hk
      rw [h, Option.map_none]
    · rfl
  exact congrArg (fun items => { s with items := items }) hitems

lemma items_moveItem (item : WorkItem) (now : Time) (target : State) (byWhom : String)
    (reason : Option String) :
    (s.moveItem id item now target byWhom reason).items[k]? =
      if k = id then s.items[k]?.map fun i => i.moved now target byWhom reason
      else s.items[k]? :=
  items_editItem _

lemma items_removeItem :
    (s.removeItem id).items[k]? = if k = id then none else s.items[k]? := by
  unfold removeItem
  cases hc : s.items[id]? with
  | none =>
    by_cases hk : k = id
    · rw [if_pos hk, hk, hc]
    · rw [if_neg hk]
  | some item =>
    simp only [indexUnlinkItem, ExtTreeMap.getElem?_erase, LawfulEqCmp.compare_eq_iff_eq]
    exact if_congr eq_comm rfl rfl

/-- A transition succeeds exactly when the card is there and the check passes. -/
lemma transitionLocked_eq_ok_iff {now : Time} {target : State} {byWhom : String}
    {reason : Option String} {item' : WorkItem} {s' : BoardState} :
    s.transitionLocked now id target byWhom reason = .ok (item', s') ↔
      ∃ item, s.items[id]? = some item ∧ s.checkMove id item target = .ok () ∧
        s' = s.moveItem id item now target byWhom reason ∧
        item' = s'.populateBlockers (item.moved now target byWhom reason) := by
  unfold transitionLocked
  cases s.items[id]? with
  | none => simp
  | some item =>
    cases hcheck : s.checkMove id item target with
    | error e => simp [hcheck]
    | ok u =>
      simp only [hcheck, Except.ok.injEq, Prod.mk.injEq, Option.some.injEq, exists_eq_left',
        true_and]
      constructor
      · rintro ⟨rfl, rfl⟩
        exact ⟨rfl, rfl⟩
      · rintro ⟨rfl, rfl⟩
        exact ⟨rfl, rfl⟩

lemma transitionLocked_of_none (h : s.items[id]? = none) (now : Time) (target : State)
    (byWhom : String) (reason : Option String) :
    s.transitionLocked now id target byWhom reason = .error (.noSuchItem id) := by
  unfold transitionLocked
  rw [h]

lemma transitionLocked_of_error {item : WorkItem} {target : State} {e : TransitionError}
    (h : s.items[id]? = some item) (hcheck : s.checkMove id item target = .error e) (now : Time)
    (byWhom : String) (reason : Option String) :
    s.transitionLocked now id target byWhom reason = .error e := by
  unfold transitionLocked
  rw [h]
  simp only [hcheck]

lemma transitionLocked_of_ok {item : WorkItem} {target : State}
    (h : s.items[id]? = some item) (hcheck : s.checkMove id item target = .ok ()) (now : Time)
    (byWhom : String) (reason : Option String) :
    s.transitionLocked now id target byWhom reason =
      .ok ((s.moveItem id item now target byWhom reason).populateBlockers
        (item.moved now target byWhom reason), s.moveItem id item now target byWhom reason) := by
  unfold transitionLocked
  rw [h]
  simp only [hcheck]

end BoardState

end Sandboard

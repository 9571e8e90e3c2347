import Sandboard.Lifecycle
import Sandboard.Store.Refusals
import Sandboard.Store.Structural

/-!
# The board as a population of cards

`WorkItem.standing` is the abstraction: it forgets of a card what `Lifecycle` is not about.
Seen through it, a board is a population of standings, and this file has the rules by which
the sections and the methods let it evolve.  The methods that create cards leave the old ones
as they stand (`Grows`), and a transition is one move followed by such growth.
-/

namespace Sandboard

open Std

/-! ## The standing of a card -/

namespace WorkItem

/-- What the life of the card is about. -/
def standing (i : WorkItem) : Standing where
  state := i.state
  expiry := i.lease.map Lease.expiresAt
  deadline := i.runDeadlineAt
  asks := i.escalation.isSome
  session := i.conversationId.isSome
  sandbox := i.environment.isSome
  parked := i.parked
  awaiting := i.awaitingDispatch
  rebase := i.rebaseRequested

variable (i : WorkItem)

@[simp] lemma standing_state : i.standing.state = i.state := rfl

@[simp] lemma standing_moved (now : Time) (target : State) (byWhom : String)
    (reason : Option String) :
    (i.moved now target byWhom reason).standing = i.standing.entered target (byWhom == "human") := by
  cases target <;> cases hby : byWhom == "human" <;>
    simp [standing, moved, Standing.entered, releasesLease, State.isTerminal, hby]

@[simp] lemma standing_queued : i.queued.standing = i.standing.queued := rfl

@[simp] lemma standing_unqueued : i.unqueued.standing = i.standing.unqueued := rfl

@[simp] lemma standing_catchingUp : i.catchingUp.standing = i.standing.catchingUp := rfl

@[simp] lemma standing_unheld : i.unheld.standing = i.standing.unheld := rfl

@[simp] lemma standing_wiped : i.wiped.standing = i.standing.wiped := rfl

@[simp] lemma standing_unleased : i.unleased.standing = i.standing.unleased := rfl

@[simp] lemma standing_asking (question : String) (options : List EscalationOption)
    (recommended : ℕ) (now : Time) :
    (i.asking question options recommended now).standing = i.standing.asking := rfl

@[simp] lemma standing_steered (text : String) (now : Time) :
    (i.steered text now).standing = i.standing.settled := rfl

@[simp] lemma standing_answered (choice : String) (now : Time) :
    (i.answered choice now).standing = i.standing.settled := rfl

@[simp] lemma standing_reviewed (byWhom text : String) (now : Time) :
    (i.reviewed byWhom text now).standing = i.standing.settled := rfl

@[simp] lemma standing_rebasedClean : i.rebasedClean.standing = i.standing.unqueued := rfl

@[simp] lemma standing_heldForHost (now : Time) :
    (Board.heldForHost now i).standing = i.standing.held := rfl

@[simp] lemma standing_leased (agentId : String) (now deadline : Time) :
    (i.leased agentId now deadline).standing = i.standing.leased deadline := rfl

@[simp] lemma standing_granted (agentId : String) (now deadline : Time) (model : Option String) :
    (i.granted agentId now deadline model).standing =
      { i.standing.leased deadline with parked := false, rebase := false } := rfl

@[simp] lemma standing_inSandbox (sandbox : Option String) :
    (i.inSandbox sandbox).standing = i.standing.inSandbox sandbox.isSome := rfl

@[simp] lemma standing_inConversation (conversationId : Option String) :
    (i.inConversation conversationId).standing = i.standing.inSession conversationId.isSome := rfl

/-- A heartbeat does not move the lease. -/
@[simp] lemma standing_beaten (now : Time) (progress : ℚ) :
    (i.beaten now progress).standing = i.standing := by
  cases hlease : i.lease <;> simp [standing, beaten, hlease]

@[simp] lemma standing_notedPark (reason : Option String) (now : Time) :
    (Board.notedPark reason now i).standing = i.standing := by
  cases reason <;> rfl

end WorkItem

/-- The edit leaves every standing alone. -/
def StandsStill (f : WorkItem → WorkItem) : Prop :=
  ∀ i, (f i).standing = i.standing

/-! ## The board as a population -/

namespace BoardState

/-- The standings of the cards, under their ids. -/
def standing (s : BoardState) (k : ItemId) : Option Standing :=
  s.items[k]?.map WorkItem.standing

variable {s s' s'' : BoardState} {id k : ItemId} {c c' : WorkItem}

lemma standing_of_items (hc : s.items[k]? = some c) : s.standing k = some c.standing := by
  rw [standing, hc, Option.map_some]

lemma standing_editItem (f : WorkItem → WorkItem) :
    (s.editItem id f).standing k =
      if k = id then s.items[k]?.map fun i => (f i).standing else s.standing k := by
  unfold standing
  rw [items_editItem]
  split
  · rw [Option.map_map]
    rfl
  · rfl

/-- The board evolves by steps of the life of a card, under the given grants. -/
def Evolves (grants : Grant → Prop) (s s' : BoardState) : Prop :=
  Population.Evolves Standing.IsFresh (Standing.Step grants) s.standing s'.standing

namespace Evolves

variable {grants grants' : Grant → Prop}

lemma refl (s : BoardState) : Evolves grants s s := Population.Evolves.refl _

lemma trans (h : Evolves grants s s') (h' : Evolves grants s' s'') : Evolves grants s s'' :=
  Population.Evolves.trans h h'

lemma mono (hgrants : ∀ k, grants k → grants' k) (h : Evolves grants s s') : Evolves grants' s s' :=
  Population.Evolves.mono (fun _ _ => Standing.Step.mono hgrants) h

lemma of_standing (h : s'.standing = s.standing) : Evolves grants s s' := by
  unfold Evolves
  rw [h]
  exact Population.Evolves.refl _

lemma of_items (h : s'.items = s.items) : Evolves grants s s' :=
  of_standing (funext fun k => by rw [standing, standing, h])

/-- One card takes a step; the others stand still. -/
lemma of_one (hc : s.items[id]? = some c) (hc' : s'.items[id]? = some c')
    (hstep : Standing.Step grants c.standing c'.standing)
    (hne : ∀ k, k ≠ id → s'.items[k]? = s.items[k]?) : Evolves grants s s' := by
  refine Population.Evolves.of_one (i := id) ?_ fun k hk => ?_
  · rw [standing_of_items hc, standing_of_items hc']
    exact .of_step hstep
  · rw [standing, standing, hne k hk]

lemma edit {f : WorkItem → WorkItem}
    (hf : ∀ c, s.items[id]? = some c → Standing.Step grants c.standing (f c).standing) :
    Evolves grants s (s.editItem id f) := by
  cases hc : s.items[id]? with
  | none =>
    rw [editItem_of_none hc]
    exact refl s
  | some c =>
    exact of_one hc (by simp [hc]) (hf c hc) fun k hk => items_editItem_of_ne hk f

lemma move {target : State} {byWhom : String} (hc : s.items[id]? = some c)
    (hstep : Standing.Step grants c.standing (c.standing.entered target (byWhom == "human")))
    (now : Time) (reason : Option String) :
    Evolves grants s (s.moveItem id c now target byWhom reason) := by
  refine of_one hc (by rw [items_moveItem, if_pos rfl, hc, Option.map_some]) ?_ fun k hk => ?_
  · rw [WorkItem.standing_moved]
    exact hstep
  · rw [items_moveItem, if_neg hk]

/-- The board after an edit and an allowed move of one card. -/
lemma edited_move {f : WorkItem → WorkItem} {target : State} {now : Time} {byWhom : String}
    {reason : Option String} (hc : s.items[id]? = some c)
    (hstep : Standing.Step grants c.standing ((f c).standing.entered target (byWhom == "human"))) :
    Evolves grants s ((s.editItem id f).moveItem id (f c) now target byWhom reason) := by
  have hmoved : ((s.editItem id f).moveItem id (f c) now target byWhom reason).items[id]? =
      some ((f c).moved now target byWhom reason) := by
    rw [items_moveItem, if_pos rfl, items_editItem_self, hc]
    rfl
  refine .of_one hc hmoved ?_ fun k hk => ?_
  · rw [WorkItem.standing_moved]
    exact hstep
  · rw [items_moveItem, if_neg hk, items_editItem_of_ne hk]

end Evolves

/-! ## Steady sections -/

/-- Every card stands as it did, and no card was created. -/
structure Steady (s s' : BoardState) : Prop where
  standing : s'.standing = s.standing
  nextId : s'.nextId = s.nextId

namespace Steady

lemma refl (s : BoardState) : Steady s s := ⟨rfl, rfl⟩

lemma trans (h : Steady s s') (h' : Steady s' s'') : Steady s s'' :=
  ⟨h'.standing.trans h.standing, h'.nextId.trans h.nextId⟩

lemma of_items (hitems : s'.items = s.items) (hnext : s'.nextId = s.nextId) : Steady s s' :=
  ⟨funext fun k => by rw [BoardState.standing, BoardState.standing, hitems], hnext⟩

lemma edit {f : WorkItem → WorkItem} (hf : StandsStill f) (id : ItemId) :
    Steady s (s.editItem id f) := by
  refine ⟨funext fun k => ?_, rfl⟩
  rw [standing_editItem]
  split
  · unfold BoardState.standing
    congr 1
    exact funext hf
  · rfl

lemma tryEdit {ε : Type} {f : WorkItem → WorkItem} (hf : StandsStill f) (id : ItemId) (e : ε) :
    Steady s (s.tryEdit id e f).2 := by
  unfold BoardState.tryEdit
  split
  · exact refl s
  · exact edit hf id

lemma lax : Lax Steady where
  aside hitems hnext _ _ := of_items hitems hnext

lemma evolves {grants : Grant → Prop} (h : Steady s s') : Evolves grants s s' :=
  .of_standing h.standing

end Steady

/-! ## Growth -/

/-- New cards on their way into Backlog joined; the old ones stand as they did. -/
structure Grows (s s' : BoardState) : Prop where
  kept : ∀ k σ, s.standing k = some σ → s'.standing k = some σ
  born : ∀ k σ, s.standing k = none → s'.standing k = some σ → σ.IsFresh
  fresh : ∀ k σ, s'.standing k = some σ → k < s'.nextId

namespace Grows

lemma refl (h : s.WellFormed) : Grows s s where
  kept _ _ hk := hk
  born k σ hnone hsome := by
    rw [hnone] at hsome
    cases hsome
  fresh k σ hk := by
    obtain ⟨c, hc, -⟩ := Option.map_eq_some_iff.1 hk
    exact h.fresh k c hc

lemma steady (h : Grows s s') (h' : Steady s' s'') : Grows s s'' where
  kept k σ hk := by
    rw [h'.standing]
    exact h.kept k σ hk
  born k σ hnone hsome := by
    rw [h'.standing] at hsome
    exact h.born k σ hnone hsome
  fresh k σ hk := by
    rw [h'.standing] at hk
    rw [h'.nextId]
    exact h.fresh k σ hk

/-- The next id is none of an old card. -/
lemma standing_nextId (h : Grows s s') : s.standing s'.nextId = none := by
  cases hk : s.standing s'.nextId with
  | none => rfl
  | some σ => exact absurd (h.fresh _ _ (h.kept _ _ hk)) (lt_irrefl _)

/-- A new card joins. -/
lemma insert (h : Grows s s') {item : WorkItem} (hid : item.id = s'.nextId)
    (hfresh : item.standing.IsFresh) :
    Grows s ({ s' with nextId := s'.nextId + 1 }.insertItem item) := by
  have hstanding : ∀ k, ({ s' with nextId := s'.nextId + 1 }.insertItem item).standing k =
      if k = s'.nextId then some item.standing else s'.standing k := by
    intro k
    simp only [BoardState.standing, insertItem, indexLinkItem, ExtTreeMap.getElem?_insert,
      LawfulEqCmp.compare_eq_iff_eq, hid, eq_comm (a := s'.nextId)]
    split <;> rfl
  constructor
  · intro k σ hk
    rw [hstanding, if_neg]
    · exact h.kept k σ hk
    · rintro rfl
      rw [h.standing_nextId] at hk
      cases hk
  · intro k σ hnone hsome
    rw [hstanding] at hsome
    split at hsome
    · cases hsome
      exact hfresh
    · exact h.born k σ hnone hsome
  · intro k σ hk
    change k < s'.nextId + 1
    rw [hstanding] at hk
    split at hk
    · rename_i heq
      rw [heq]
      exact Nat.lt_succ_self _
    · exact Nat.lt_succ_of_lt (h.fresh k σ hk)

/-- A new card goes on to Shaping or Backlog. -/
lemma tryMove (h : Grows s s') (hnew : s.standing id = none) {target : State}
    (htarget : target = .shaping ∨ target = .backlog) (now : Time) (byWhom : String)
    (reason : Option String) : Grows s (s'.tryMove now id target byWhom reason).2 := by
  cases hc : s'.items[id]? with
  | none =>
    rw [tryMove_missing hc]
    exact h
  | some c =>
    by_cases hcheck : s'.checkMove id c target = .ok ()
    · rw [tryMove_allowed hc hcheck]
      have hstanding : ∀ k, (s'.moveItem id c now target byWhom reason).standing k =
          if k = id then some (c.standing.entered target (byWhom == "human"))
          else s'.standing k := by
        intro k
        simp only [BoardState.standing, items_moveItem]
        split
        · rename_i heq
          rw [heq, hc, Option.map_some, Option.map_some, WorkItem.standing_moved]
        · rfl
      constructor
      · intro k σ hk
        rw [hstanding, if_neg]
        · exact h.kept k σ hk
        · rintro rfl
          rw [hnew] at hk
          cases hk
      · intro k σ hnone hsome
        rw [hstanding] at hsome
        split at hsome
        · cases hsome
          have hidle := (h.born id _ hnew (standing_of_items hc)).idle
          rcases htarget with rfl | rfl
          · rw [hidle]
            exact ⟨rfl, Or.inr (Or.inl rfl)⟩
          · rw [hidle]
            refine ⟨?_, Or.inr (Or.inr rfl)⟩
            simp [Standing.entered, Standing.idle]
        · exact h.born k σ hnone hsome
      · intro k σ hk
        change k < s'.nextId
        rw [hstanding] at hk
        split at hk
        · rename_i heq
          exact heq ▸ h.fresh id _ (standing_of_items hc)
        · exact h.fresh k σ hk
    · obtain ⟨e, hmove⟩ := tryMove_refused hc hcheck now byWhom reason
      rw [hmove]
      exact h

lemma evolves {grants : Grant → Prop} (h : Grows s s') : Evolves grants s s' := by
  intro k
  cases hk : s.standing k with
  | some σ =>
    rw [h.kept k σ hk]
    exact .refl _
  | none =>
    cases hk' : s'.standing k with
    | none => exact .refl _
    | some σ => exact .of_born (h.born k σ hk hk')

end Grows

end BoardState

/-! ## Methods that only add cards -/

/-- From a board that has grown from `s`, the method grows it further. -/
structure Growing {ε α : Type} (s : BoardState) (m : Method ε α) : Prop where
  keeps : m.Keeps fun b => BoardState.Grows s b.state

namespace Board

open BoardState

variable {ε ε' α β : Type} {s : BoardState} {b : Board}

/-- A growing method that runs on a well-formed board. -/
lemma Growing.run {m : Method ε α} (hm : ∀ s, Growing s m) (hb : b.state.WellFormed) :
    Grows b.state (m.run b).2.state :=
  (hm b.state).keeps.run (.refl hb)

lemma growing_pure (a : α) : Growing s (pure a : Method ε α) := ⟨.pure a⟩

lemma growing_fail (e : ε) : Growing s (Locked.fail e : Method ε α) := ⟨.fail e⟩

lemma growing_bind {m : Method ε α} {k : α → Method ε β} (hm : Growing s m)
    (hk : ∀ a, Growing s (k a)) : Growing s (m >>= k) :=
  ⟨.bind hm.keeps fun a => (hk a).keeps⟩

lemma growing_attempt {m : Method ε α} (hm : Growing s m) :
    Growing s (m.attempt : Method ε' _) :=
  ⟨.attempt hm.keeps⟩

lemma growing_mapErr {f : ε → ε'} {m : Method ε α} (hm : Growing s m) :
    Growing s (m.mapErr f) :=
  ⟨.mapErr hm.keeps⟩

lemma growing_when {c : Prop} [Decidable c] {m : Method ε Unit} (hm : Growing s m) :
    Growing s (Locked.when c m) := by
  unfold Locked.when
  split
  · exact hm
  · exact growing_pure ()

lemma growing_onSome {o : Option β} {f : β → Method ε Unit} (hf : ∀ b, Growing s (f b)) :
    Growing s (Locked.onSome o f) := by
  cases o with
  | none => exact growing_pure ()
  | some b => exact hf b

lemma growing_foldlM {xs : List β} {f : α → β → Method ε α} (hf : ∀ a x, Growing s (f a x))
    (a : α) : Growing s (xs.foldlM f a) :=
  ⟨.foldlM (fun a x _ => (hf a x).keeps) a⟩

lemma growing_forM {xs : List β} {f : β → Method ε Unit} (hf : ∀ x, Growing s (f x)) :
    Growing s (xs.forM f) :=
  ⟨.forM fun x _ => (hf x).keeps⟩

/-- Steady sections add nothing. -/
lemma growing_of_steady {m : Method ε α} (hm : Within Steady m) : Growing s m :=
  ⟨.of_sections (hm.sections.mono fun _ _ hsteady hs => hs.steady hsteady)⟩

lemma steady_editIf {id : ItemId} {wanted : WorkItem → Bool} {f : WorkItem → WorkItem}
    (hf : StandsStill f) : Within Steady (editIf id wanted f : Method ε Unit) :=
  within_editIf Steady.lax fun _ => .edit hf id

lemma steady_editOr {id : ItemId} {e : ε} {f : Time → WorkItem → WorkItem}
    (hf : ∀ now, StandsStill (f now)) : Within Steady (editOr id e f) :=
  within_editOr Steady.lax fun _ now => .edit (hf now) id

/-- A new card goes on to Shaping or Backlog. -/
lemma growing_transitionOn {id : ItemId} {target : State} {byWhom : String}
    {reason : Option String} (hnew : s.standing id = none)
    (htarget : target = .shaping ∨ target = .backlog) :
    Growing s (transitionOn id target byWhom reason) := by
  refine growing_bind ⟨.of_sections (.atomic fun b hs => ?_)⟩ fun item => ?_
  · exact Grows.tryMove hs hnew htarget _ _ _
  · refine growing_bind (growing_of_steady (within_emit Steady.lax item)) fun _ => ?_
    have hdone : target ≠ .done := by
      rcases htarget with rfl | rfl <;> decide
    rw [Locked.when, if_neg hdone]
    exact growing_bind (growing_pure ()) fun _ =>
      growing_bind (growing_of_steady (within_get Steady.lax id)) fun _ => growing_pure _

lemma items_insertNew (schema : Schema) (now : Time) (c : NewCard) (s : BoardState) :
    (insertNew schema now c s).2.items[s.nextId]? = some (c.toItem schema now s.nextId) := by
  simp [insertNew, insertItem, indexLinkItem, NewCard.toItem, WorkItem.new]

lemma Grows.insertNew {s' : BoardState} (h : Grows s s') (schema : Schema) (now : Time)
    (c : NewCard) : Grows s (Board.insertNew schema now c s').2 :=
  h.insert rfl ⟨rfl, Or.inl rfl⟩

/-- Creating a card adds it, whatever its seeding adds. -/
lemma growing_createWith {seed : ItemId → Method String WorkItem}
    (hseed : ∀ id, Growing s (seed id)) (c : NewCard) : Growing s (createWith seed c) :=
  growing_bind (growing_of_steady (within_read Steady.lax _)) fun _ =>
    growing_bind (growing_of_steady (within_ret _)) fun _ =>
      growing_bind (growing_of_steady (within_readSchema Steady.lax)) fun schema =>
        growing_bind ⟨.of_sections (.atomic fun _ hs => Grows.insertNew hs schema _ c)⟩ fun item =>
          growing_bind (growing_of_steady (within_emit Steady.lax item)) fun _ =>
            growing_bind (growing_when (growing_bind (growing_attempt (hseed item.id)) fun _ =>
              growing_pure ())) fun _ =>
              growing_bind (growing_of_steady (within_get Steady.lax _)) fun _ => growing_pure _

lemma run_createUnder_error {c : NewCard} {e : String}
    (hcheck : checkParent b.state c.parent = .error e) :
    (createUnder c).run b = (.error e, b) := by
  simp [createUnder, createWith, hcheck]

/-- A Task is created under the next id. -/
lemma run_createUnder_ok {c : NewCard} (hcheck : checkParent b.state c.parent = .ok ()) :
    ∃ item b', (createUnder c).run b = (.ok item, b') ∧ item.id = b.state.nextId ∧
      b'.state = (insertNew b.schema (b.now 0) c b.state).2 := by
  have hitem := items_insertNew b.schema (b.now 0) c b.state
  have hid : (insertNew b.schema (b.now 0) c b.state).1.id = b.state.nextId := rfl
  unfold createUnder createWith
  generalize hnew : insertNew b.schema (b.now 0) c b.state = r at hitem hid ⊢
  obtain ⟨item, s⟩ := r
  have hlast : ((s.items[item.id]?.map s.populateBlockers).getD item).id = b.state.nextId := by
    rw [hid, hitem]
    rfl
  by_cases hproject : item.isProject = true
  · simpa [hcheck, hnew, hproject, Locked.run_when] using hlast
  · simpa [hcheck, hnew, hproject, Locked.run_when] using hlast

/-- What follows the creation of a Task may rely on its id being new. -/
lemma growing_createUnder_bind {c : NewCard} {k : WorkItem → Method String β}
    (hk : ∀ item, s.standing item.id = none → Growing s (k item)) :
    Growing s (createUnder c >>= k) := by
  refine ⟨fun b hs => ?_⟩
  cases hcheck : checkParent b.state c.parent with
  | error e =>
    rw [Locked.run_bind, run_createUnder_error hcheck]
    exact hs
  | ok u =>
    obtain ⟨item, b', hrun, hid, hstate⟩ := run_createUnder_ok hcheck
    have hnew : s.standing item.id = none := by
      rw [hid]
      exact hs.standing_nextId
    have hgrown : Grows s b'.state := by
      rw [hstate]
      exact Grows.insertNew hs _ _ _
    rw [Locked.run_bind, hrun]
    exact (hk item hnew).keeps b' hgrown

lemma steady_updateItem (id : ItemId)
    (title intent definitionOfDone engine projectPrompt : Option String) :
    Within Steady (updateItem id title intent definitionOfDone engine projectPrompt) :=
  steady_editOr fun _ _ => rfl

lemma steady_setBlockedBy (id : ItemId) (blockers : List ItemId) :
    Within Steady (setBlockedBy id blockers : Method ε Unit) :=
  steady_editIf fun _ => rfl

lemma steady_linkRow (keyToId : List (String × ItemId)) (spec : PlanTaskSpec) :
    Within Steady (linkRow keyToId spec) :=
  within_onSome fun _ => within_when fun _ => steady_setBlockedBy _ _

section Unicode

variable [UnicodeTables]

lemma growing_seedInitialPlan (projectId : ItemId) : Growing s (seedInitialPlan projectId) := by
  refine growing_bind (growing_of_steady (within_getOr Steady.lax _ _)) fun project =>
    growing_bind (growing_of_steady (within_failIf _ _)) fun _ =>
      growing_bind (growing_of_steady (within_read Steady.lax _)) fun existing => ?_
  cases existing with
  | some existing => exact growing_pure existing
  | none =>
    exact growing_createUnder_bind fun seed hnew =>
      growing_bind (growing_attempt (growing_transitionOn hnew (Or.inl rfl))) fun _ =>
        growing_bind (growing_mapErr (growing_transitionOn hnew (Or.inr rfl))) fun _ =>
          growing_bind (growing_of_steady (within_story Steady.lax _ _)) fun _ => growing_pure _

lemma growing_create (c : NewCard) : Growing s (create c) :=
  growing_createWith growing_seedInitialPlan c

lemma growing_createProject (title intent cloneRepo : String) (aboveLine : Bool)
    (projectPrompt : Option String) :
    Growing s (createProject title intent cloneRepo aboveLine projectPrompt) :=
  growing_bind (growing_of_steady (within_ret _)) fun _ =>
    growing_bind (growing_create _) fun _ =>
      growing_bind (growing_onSome fun _ =>
        growing_bind (growing_attempt (growing_of_steady (steady_updateItem _ _ _ _ _ _))) fun _ =>
          growing_pure ()) fun _ =>
        growing_bind (growing_attempt (growing_seedInitialPlan _)) fun _ =>
          growing_bind (growing_of_steady (within_get Steady.lax _)) fun _ => growing_pure _

lemma growing_createTask (parent : ItemId) (title intent definitionOfDone : String)
    (blockedBy : List ItemId) (capability : Option String) (aboveLine : Bool) :
    Growing s
      (createTask parent title intent definitionOfDone blockedBy capability aboveLine) :=
  growing_bind (growing_of_steady (within_getOr Steady.lax _ _)) fun _ =>
    growing_bind (growing_of_steady (within_failIf _ _)) fun _ =>
      growing_bind (growing_of_steady (within_failIf _ _)) fun _ =>
        growing_createUnder_bind fun _ hnew =>
          growing_bind (growing_mapErr (growing_transitionOn hnew (Or.inl rfl))) fun _ =>
            growing_bind (growing_mapErr (growing_transitionOn hnew (Or.inr rfl))) fun _ =>
              growing_bind (growing_when (growing_of_steady (steady_setBlockedBy _ _))) fun _ =>
                growing_bind (growing_of_steady (within_get Steady.lax _)) fun _ => growing_pure _

lemma growing_materializeRow (card : WorkItem) (projectId : ItemId) (byWhom : String)
    (origin : Origin) (existing : List (String × WorkItem)) (acc : Materialized)
    (spec : PlanTaskSpec) :
    Growing s (materializeRow card projectId byWhom origin existing acc spec) := by
  unfold materializeRow
  split
  · exact growing_pure _
  · exact growing_createUnder_bind fun _ hnew =>
      growing_bind (growing_mapErr (growing_transitionOn hnew (Or.inl rfl))) fun _ =>
        growing_bind (growing_mapErr (growing_transitionOn hnew (Or.inr rfl))) fun _ =>
          growing_pure _

lemma growing_materializeProposal (id : ItemId) (byWhom : String) (origin : Origin) :
    Growing s (materializeProposal id byWhom origin) := by
  refine growing_bind (growing_of_steady (within_getOr Steady.lax _ _)) fun card => ?_
  dsimp only
  split
  · exact growing_fail _
  · exact growing_fail _
  · exact growing_bind (growing_of_steady (within_read Steady.lax _)) fun _ =>
      growing_bind (growing_foldlM (fun _ _ => growing_materializeRow _ _ _ _ _ _ _) _) fun _ =>
        growing_bind (growing_forM fun _ => growing_of_steady (steady_linkRow _ _)) fun _ =>
          growing_bind (growing_of_steady (steady_editIf fun _ => rfl)) fun _ => growing_pure _

/-- What happens on Done adds Tasks, and leaves the old cards as they stand. -/
lemma growing_materializeProposalOnDone (id : ItemId) (byWhom : String) :
    Growing s (materializeProposalOnDone id byWhom) := by
  refine growing_bind (growing_of_steady (within_get Steady.lax _)) fun card => ?_
  cases card with
  | none => exact growing_pure 0
  | some card =>
    dsimp only
    split
    · exact growing_pure 0
    · split
      · exact growing_pure 0
      · exact growing_bind (growing_materializeProposal _ _ _) fun _ =>
          growing_bind (growing_onSome fun _ =>
            growing_of_steady (steady_editIf fun _ => rfl)) fun _ =>
            growing_bind (growing_of_steady (within_story Steady.lax _ _)) fun _ => growing_pure _

lemma growing_materializePendingProposal (id : ItemId) :
    Growing s (materializePendingProposal id) :=
  growing_bind (growing_of_steady (within_getOr Steady.lax _ _)) fun _ =>
    growing_bind (growing_of_steady (within_failIf _ _)) fun _ =>
      growing_bind (growing_materializeProposal _ _ _) fun _ =>
        growing_bind (growing_when (growing_of_steady (within_story Steady.lax _ _))) fun _ =>
          growing_pure _

/-! ## Transitions -/

omit [UnicodeTables] in
lemma run_announceUnblocked (id : ItemId) (b : Board) :
    ∃ b', (announceUnblocked id : Method ε Unit).run b = (.ok (), b') ∧
      b'.state.items = b.state.items ∧ b'.state.nextId = b.state.nextId := by
  simp only [announceUnblocked, newlyUnblockedSiblings, Locked.run_bind, run_read,
    Locked.andThen_ok]
  split
  · exact ⟨b, rfl, rfl, rfl⟩
  · exact ⟨_, rfl, rfl, rfl⟩
  · exact ⟨_, rfl, rfl, rfl⟩

/-- A transition fails and changes no card, or it is a checked move after which cards may have
joined. -/
lemma run_transition_cases (hb : b.state.WellFormed) (id : ItemId) (target : State)
    (byWhom : String) (reason : Option String) :
    (∃ e b', (transition id target byWhom reason).run b = (.error e, b') ∧
        b'.state = b.state ∧
          ∀ c, b.state.items[id]? = some c → b.state.checkMove id c target ≠ .ok ()) ∨
      ∃ c item b', (transition id target byWhom reason).run b = (.ok item, b') ∧
        b.state.items[id]? = some c ∧ b.state.checkMove id c target = .ok () ∧
          Grows (b.state.moveItem id c (b.now 0) target byWhom reason) b'.state := by
  cases hc : b.state.items[id]? with
  | none =>
    exact Or.inl ⟨_, _, run_transition_missing target hc byWhom reason, rfl, by simp⟩
  | some c =>
    by_cases hcheck : b.state.checkMove id c target = .ok ()
    · refine Or.inr ⟨c, ?_⟩
      have hmoved : (b.state.moveItem id c (b.now 0) target byWhom reason).WellFormed :=
        hb.move hc _ _ _ _
      by_cases hdone : target = .done
      · subst hdone
        let b₁ := (b.stepped (b.state.moveItem id c (b.now 0) .done byWhom reason)).emitted
          ((b.state.moveItem id c (b.now 0) .done byWhom reason).populateBlockers
            (c.moved (b.now 0) .done byWhom reason))
        have hhook : Grows b₁.state ((materializeProposalOnDone id byWhom).run b₁).2.state :=
          Growing.run (fun s => growing_materializeProposalOnDone id byWhom) hmoved
        obtain ⟨b₂, hrun, hitems, hnext⟩ := run_announceUnblocked (ε := TransitionError) id
          ((materializeProposalOnDone id byWhom).run b₁).2
        obtain ⟨item, hitem⟩ : ∃ item, (transition id .done byWhom reason).run b =
            (.ok item, b₂) := by
          simp [transition, transitionWith, tryMove_allowed hc hcheck, Locked.run_when, hrun, b₁]
        exact ⟨item, b₂, hitem, rfl, hcheck, hhook.steady (.of_items hitems hnext)⟩
      · have hmove := transitionLocked_of_ok hc hcheck (b.now 0) byWhom reason
        exact ⟨_, _, run_transition_ok hdone hmove, rfl, hcheck, .refl hmoved⟩
    · obtain ⟨e, hrun⟩ := run_transition_refused hc hcheck byWhom reason
      refine Or.inl ⟨e, _, hrun, rfl, ?_⟩
      intro c' hc'
      rw [Option.some.injEq] at hc'
      exact hc' ▸ hcheck

end Unicode

end Board

end Sandboard

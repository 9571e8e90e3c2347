import Sandboard.Library.Run
import Sandboard.Store.Nesting
import Sandboard.Store.Runs

/-!
# Pausing auto mode

Auto mode queues the claimable cards of a Project, and a pause takes them off the queue again.  Both
collect cards under one lock and work on each card under a lock of its own.  `Call` is where such a
call stands between two locks, and `Traffic` is a board with the calls in progress on it: one step
takes one call from one lock to the next, or performs any other method.

Next to the board, `Traffic` remembers which cards auto mode was the last to queue, and which
Projects are paused.
-/

namespace Sandboard

open Std BoardState

/-! ## What the other methods do to a card -/

namespace WorkItem

/-- The card comes from `c` without a change of the auto mode, and with a transition for every
change of its state. -/
structure Stands (c c' : WorkItem) : Prop where
  id : c'.id = c.id
  parent : c'.parent = c.parent
  autoDispatch : c'.autoDispatch = c.autoDispatch
  grows : c.history.length ≤ c'.history.length
  state : c'.history.length = c.history.length → c'.state = c.state

/-- The edit leaves alone what a card `Stands` by. -/
structure StandsStill (f : WorkItem → WorkItem) : Prop where
  id : ∀ c, (f c).id = c.id
  parent : ∀ c, (f c).parent = c.parent
  autoDispatch : ∀ c, (f c).autoDispatch = c.autoDispatch
  history : ∀ c, (f c).history = c.history
  state : ∀ c, (f c).state = c.state

namespace Stands

variable {c c' c'' : WorkItem}

lemma refl (c : WorkItem) : c.Stands c := ⟨rfl, rfl, rfl, le_rfl, fun _ => rfl⟩

lemma trans (h : c.Stands c') (h' : c'.Stands c'') : c.Stands c'' where
  id := h'.id.trans h.id
  parent := h'.parent.trans h.parent
  autoDispatch := h'.autoDispatch.trans h.autoDispatch
  grows := h.grows.trans h'.grows
  state hsame := by
    have hmid : c'.history.length = c.history.length :=
      Nat.le_antisymm (hsame ▸ h'.grows) h.grows
    rw [h'.state (hsame.trans hmid.symm), h.state hmid]

lemma edit {f : WorkItem → WorkItem} (hf : StandsStill f) (c : WorkItem) : c.Stands (f c) where
  id := hf.id c
  parent := hf.parent c
  autoDispatch := hf.autoDispatch c
  grows := (congrArg List.length (hf.history c)).ge
  state _ := hf.state c

lemma moved (c : WorkItem) (now : Time) (target : State) (byWhom : String)
    (reason : Option String) : c.Stands (c.moved now target byWhom reason) := by
  have hlength : (c.moved now target byWhom reason).history.length = c.history.length + 1 :=
    List.length_append
  refine ⟨rfl, rfl, rfl, by omega, fun hsame => ?_⟩
  omega

end Stands

end WorkItem

/-- Every card is new, and without auto mode, or it stands as before. -/
structure BoardState.KeepsAuto (s s' : BoardState) : Prop where
  grows : s.nextId ≤ s'.nextId
  card : ∀ (k : ItemId) (c' : WorkItem), s'.items[k]? = some c' →
    (s.nextId ≤ k ∧ k < s'.nextId ∧ c'.id = k ∧ c'.autoDispatch = false) ∨
      ∃ c : WorkItem, s.items[k]? = some c ∧ c.Stands c'

namespace BoardState.KeepsAuto

variable {s s' s'' : BoardState}

lemma of_items (h : s'.items = s.items) (hnext : s'.nextId = s.nextId) : KeepsAuto s s' where
  grows := hnext.ge
  card k c hc := by
    rw [h] at hc
    exact .inr ⟨c, hc, .refl c⟩

lemma refl (s : BoardState) : KeepsAuto s s := of_items rfl rfl

lemma trans (h : KeepsAuto s s') (h' : KeepsAuto s' s'') : KeepsAuto s s'' where
  grows := h.grows.trans h'.grows
  card k c'' hc'' := by
    rcases h'.card k c'' hc'' with ⟨hle, hlt, hid, hauto⟩ | ⟨c', hc', hstands'⟩
    · exact .inl ⟨h.grows.trans hle, hlt, hid, hauto⟩
    · rcases h.card k c' hc' with ⟨hle, hlt, hid, hauto⟩ | ⟨c, hc, hstands⟩
      · exact .inl ⟨hle, Nat.lt_of_lt_of_le hlt h'.grows, hstands'.id.trans hid,
          hstands'.autoDispatch.trans hauto⟩
      · exact .inr ⟨c, hc, hstands.trans hstands'⟩

/-- One card is changed. -/
lemma of_one {id : ItemId} {f : WorkItem → WorkItem} (hf : ∀ c : WorkItem, c.Stands (f c))
    (hitems : ∀ k, s'.items[k]? = if k = id then s.items[k]?.map f else s.items[k]?)
    (hnext : s'.nextId = s.nextId) : KeepsAuto s s' where
  grows := hnext.ge
  card k c' hc' := by
    rw [hitems] at hc'
    split at hc'
    · obtain ⟨c, hc, rfl⟩ := Option.map_eq_some_iff.1 hc'
      exact .inr ⟨c, hc, hf c⟩
    · exact .inr ⟨c', hc', .refl c'⟩

lemma edit {f : WorkItem → WorkItem} (hf : WorkItem.StandsStill f) (s : BoardState) (id : ItemId) :
    KeepsAuto s (s.editItem id f) :=
  of_one (.edit hf) (fun _ => items_editItem _) rfl

lemma delete (id : ItemId) (s : BoardState) : KeepsAuto s (Board.deleteSection id s).2 := by
  unfold Board.deleteSection
  split
  · exact refl s
  · refine ⟨(nextId_removeAll _ s).ge, fun k c' hc' => ?_⟩
    rw [ExtTreeMap.getElem?_map, items_removeAll] at hc'
    obtain ⟨c, hc, rfl⟩ := Option.map_eq_some_iff.1 hc'
    split at hc
    · cases hc
    · exact .inr ⟨c, hc, rfl, rfl, rfl, le_rfl, fun _ => rfl⟩

lemma covers : Covers (fun _ f => WorkItem.StandsStill f) KeepsAuto where
  aside hitems hnext _ _ := of_items hitems hnext
  trans := trans
  edit s hf := edit hf s _
  move {id target byWhom} s now reason _ := by
    unfold BoardState.tryMove
    cases hlocked : s.transitionLocked now id target byWhom reason with
    | error e => exact refl s
    | ok r =>
      obtain ⟨item, s₁⟩ := r
      obtain ⟨c, hc, -, rfl, -⟩ := transitionLocked_eq_ok_iff.1 hlocked
      exact of_one (fun c => .moved c now target byWhom reason)
        (fun _ => items_moveItem _ _ _ _ _) rfl
  insert schema now n s := by
    refine ⟨Nat.le_succ _, fun k c' hc' => ?_⟩
    rw [items_insertNew_ite] at hc'
    split at hc'
    · rename_i hk
      cases hc'
      exact .inl ⟨hk.ge, hk ▸ Nat.lt_succ_self _, hk.symm, rfl⟩
    · exact .inr ⟨c', hc', .refl c'⟩
  propose _ _ := ⟨fun _ => rfl, fun _ => rfl, fun _ => rfl, fun _ => rfl, fun _ => rfl⟩
  settle _ _ _ := ⟨fun _ => rfl, fun _ => rfl, fun _ => rfl, fun _ => rfl, fun _ => rfl⟩
  link _ _ := ⟨fun _ => rfl, fun _ => rfl, fun _ => rfl, fun _ => rfl, fun _ => rfl⟩
  unplan _ := ⟨fun _ => rfl, fun _ => rfl, fun _ => rfl, fun _ => rfl, fun _ => rfl⟩

end BoardState.KeepsAuto

/-- The operation takes locks that the calls of auto mode take one by one. -/
def Operation.playsAuto : Operation → Bool
  | setAutoDispatch .. | autoEnqueueProject _ | autoEnqueueAll => true
  | _ => false

lemma standsStill_notedPark (reason : Option String) (now : Time) :
    WorkItem.StandsStill (Board.notedPark reason now) := by
  cases reason <;> exact ⟨fun _ => rfl, fun _ => rfl, fun _ => rfl, fun _ => rfl, fun _ => rfl⟩

/-- The edits of every other operation leave alone what a card stands by. -/
lemma Operation.editsIn_standsStill {op : Operation} (h : op.playsAuto = false) :
    op.EditsIn fun _ f => WorkItem.StandsStill f := by
  have hstill : ∀ {f : WorkItem → WorkItem}, (∀ c, (f c).id = c.id ∧ (f c).parent = c.parent ∧
      (f c).autoDispatch = c.autoDispatch ∧ (f c).history = c.history ∧ (f c).state = c.state) →
        WorkItem.StandsStill f :=
    fun hf => ⟨fun c => (hf c).1, fun c => (hf c).2.1, fun c => (hf c).2.2.1,
      fun c => (hf c).2.2.2.1, fun c => (hf c).2.2.2.2⟩
  have hasking : ∀ question options recommended now,
      WorkItem.StandsStill (WorkItem.asking question options recommended now) :=
    fun _ _ _ _ => hstill fun _ => ⟨rfl, rfl, rfl, rfl, rfl⟩
  cases op with
  | setAutoDispatch | autoEnqueueProject | autoEnqueueAll => cases h
  | createProject => exact fun _ _ _ _ _ _ => hstill fun _ => ⟨rfl, rfl, rfl, rfl, rfl⟩
  | heartbeat | claim | reopenForAdoption | reportPullRequest | completeForMergedPr =>
    exact fun _ _ => hstill fun _ => ⟨rfl, rfl, rfl, rfl, rfl⟩
  | setProjectSandboxProfile | setPrUrl | releaseWithReason | unarchiveScope | steer =>
    exact fun _ => hstill fun _ => ⟨rfl, rfl, rfl, rfl, rfl⟩
  | clearRunFailures | updateItem | setConversationId | setPullRequests | enqueueDispatch
  | clearDispatch | report | dispatchRebase | halt | setEnvironment =>
    exact hstill fun _ => ⟨rfl, rfl, rfl, rfl, rfl⟩
  | escalate => exact hasking _ _ _
  | proposeSplit => exact hasking
  | recordRunFailure => exact ⟨hstill fun _ => ⟨rfl, rfl, rfl, rfl, rfl⟩, hasking⟩
  | answerEscalation =>
    exact ⟨fun _ => hstill fun _ => ⟨rfl, rfl, rfl, rfl, rfl⟩,
      fun _ => hstill fun _ => ⟨rfl, rfl, rfl, rfl, rfl⟩⟩
  | park => exact ⟨standsStill_notedPark, hstill fun _ => ⟨rfl, rfl, rfl, rfl, rfl⟩⟩
  | unpark =>
    exact ⟨hstill fun _ => ⟨rfl, rfl, rfl, rfl, rfl⟩, hstill fun _ => ⟨rfl, rfl, rfl, rfl, rfl⟩⟩
  | requestChanges =>
    exact ⟨fun _ _ => hstill fun _ => ⟨rfl, rfl, rfl, rfl, rfl⟩,
      hstill fun _ => ⟨rfl, rfl, rfl, rfl, rfl⟩⟩
  | notifyMainAdvanced =>
    exact ⟨fun _ _ _ => hstill fun _ => ⟨rfl, rfl, rfl, rfl, rfl⟩,
      fun _ => standsStill_notedPark, fun _ => hstill fun _ => ⟨rfl, rfl, rfl, rfl, rfl⟩,
      fun _ => hstill fun _ => ⟨rfl, rfl, rfl, rfl, rfl⟩,
      fun _ => hstill fun _ => ⟨rfl, rfl, rfl, rfl, rfl⟩⟩
  | recordRebaseOutcome =>
    exact ⟨hstill fun _ => ⟨rfl, rfl, rfl, rfl, rfl⟩,
      fun _ _ _ => hstill fun _ => ⟨rfl, rfl, rfl, rfl, rfl⟩, hasking,
      hstill fun _ => ⟨rfl, rfl, rfl, rfl, rfl⟩⟩
  | applyPrReviewFeedback => exact fun _ _ _ _ => hstill fun _ => ⟨rfl, rfl, rfl, rfl, rfl⟩
  | _ => trivial

/-- Every operation aside of auto mode keeps it. -/
lemma Board.keepsAuto_exec [UnicodeTables] {op : Operation} (h : op.playsAuto = false)
    (b : Board) : KeepsAuto b.state (b.exec op).state :=
  covered_exec KeepsAuto.covers KeepsAuto.delete (Operation.editsIn_standsStill h) b

/-! ## Calls -/

namespace Auto

/-- Where a call stands between two locks. -/
inductive Call where
  /-- `setAutoDispatch`, before it writes the switch. -/
  | switch (id : ItemId) (enabled : Bool)
  /-- A pause that has written it: the queued cards are to be collected. -/
  | collect (id : ItemId)
  /-- A pause that is to take the cards `left` off the queue. -/
  | clear (id : ItemId) (left : List ItemId)
  /-- A tick of the supervisor. -/
  | tick
  /-- Auto mode goes over the Projects `left`. -/
  | projects (left : List ItemId)
  /-- Auto mode goes over the candidates `left` of one Project. -/
  | candidates (left projects : List ItemId)
  /-- The candidate `id` was found not to be parked. -/
  | queueing (id : ItemId) (left projects : List ItemId)
  /-- The operator dispatches a card. -/
  | dispatch (id : ItemId)
  /-- The card to dispatch was found not to be parked. -/
  | dispatching (id : ItemId)
  | returned
  deriving DecidableEq

/-- The call takes its next lock. -/
def Call.advance (s : BoardState) : Call → Call × BoardState
  | switch id enabled =>
    match Board.setAutoSection id enabled s with
    | (.ok (_, true, _), s) => (if enabled then projects [id] else collect id, s)
    | (_, s) => (returned, s)
  | collect id => (clear id (s.queuedUnder id), s)
  | clear _ [] => (returned, s)
  | clear id (k :: left) => (clear id left, s.editItem k WorkItem.unqueued)
  | tick => (projects s.autoProjects, s)
  | projects [] => (returned, s)
  | projects (p :: left) => (candidates (s.autoCandidates p) left, s)
  | candidates [] ps => (projects ps, s)
  | candidates (k :: left) ps =>
    (if s.items[k]?.any WorkItem.parked then candidates left ps else queueing k left ps, s)
  | queueing k left ps => (candidates left ps, (Board.enqueueSection k s).2)
  | dispatch id => (if s.items[id]?.any WorkItem.parked then returned else dispatching id, s)
  | dispatching id => (returned, (Board.enqueueSection id s).2)
  | returned => (returned, s)

/-- The call queues a card for auto mode. -/
def Call.isAuto : Call → Bool
  | queueing .. => true
  | _ => false

/-- The pause of the Project `p` will take the card `id` off the queue when it finds it there. -/
def Call.StillHas (p id : ItemId) : Call → Prop
  | collect q => q = p
  | clear q left => q = p ∧ id ∈ left
  | _ => False

/-- The call that an operation is. -/
def call : Operation → Option Call
  | .setAutoDispatch id enabled => some (.switch id enabled)
  | .autoEnqueueAll => some .tick
  | .autoEnqueueProject id => some (.projects [id])
  | .enqueueDispatch id => some (.dispatch id)
  | _ => none

/-- A board with the calls in progress on it. -/
structure Traffic where
  board : Board
  calls : List Call
  /-- The cards that auto mode was the last to queue, with the number of their transitions then. -/
  queuedAt : ItemId → Option ℕ
  /-- The pause that was the last to switch a Project off, when none has switched it on since. -/
  pauser : ItemId → Option ℕ
  /-- The Projects of which a pause has returned, and that none has switched on since. -/
  paused : ItemId → Bool

/-- What happens next. -/
inductive Event where
  /-- Any other method is called, by a human, an agent or the supervisor. -/
  | operation (op : Operation)
  /-- A call begins. -/
  | begins (op : Operation)
  /-- The call at place `i` takes its next lock. -/
  | goes (i : ℕ)

/-- Which cards auto mode was the last to queue, after the board has changed. -/
def requeued (byAuto : Bool) (s s' : BoardState) (queuedAt : ItemId → Option ℕ) (id : ItemId) :
    Option ℕ :=
  if s.items[id]?.any WorkItem.awaitingDispatch then queuedAt id
  else if byAuto then
    (s'.items[id]?.filter WorkItem.awaitingDispatch).map fun c => c.history.length
  else none

namespace Traffic

/-- A board without calls; what is queued on it was queued by hand. -/
def start (b : Board) : Traffic where
  board := b
  calls := []
  queuedAt _ := none
  pauser _ := none
  paused _ := false

/-- The board is in the state `s`. -/
def withState (w : Traffic) (byAuto : Bool) (s : BoardState) : Traffic :=
  { w with
    board := { w.board with state := s }
    queuedAt := requeued byAuto w.board.state s w.queuedAt }

/-- Who has switched off what, after the call at place `i`, which is `c`, has taken its lock. -/
def noted (w : Traffic) (i : ℕ) : Call → Traffic
  | .switch id enabled =>
    match (Board.setAutoSection id enabled w.board.state).1, enabled with
    | .ok (_, true, _), true =>
      { w with
        pauser := Function.update w.pauser id none
        paused := Function.update w.paused id false }
    | .ok (_, true, _), false => { w with pauser := Function.update w.pauser id (some i) }
    | .ok (_, false, _), false => { w with paused := Function.update w.paused id true }
    | _, _ => w
  | .clear id [] =>
    if w.pauser id = some i then { w with paused := Function.update w.paused id true } else w
  | _ => w

/-- The call at place `i` is now `c`. -/
def setCall (w : Traffic) (i : ℕ) (c : Call) : Traffic :=
  { w with calls := w.calls.set i c }

/-- One step. -/
def step [UnicodeTables] (w : Traffic) : Event → Traffic
  | .operation op =>
    if op.playsAuto then w
    else
      { w with
        board := w.board.exec op
        queuedAt := requeued false w.board.state (w.board.exec op).state w.queuedAt }
  | .begins op =>
    match call op with
    | none => w
    | some c => { w with calls := w.calls ++ [c] }
  | .goes i =>
    match w.calls[i]? with
    | none => w
    | some c =>
      let (c', s) := c.advance w.board.state
      ((w.noted i c).withState c.isAuto s).setCall i c'

/-! ## What a pause promises -/

/-- The Backlog card `id`, which is `c`, is queued because of auto mode: auto mode was the last to
queue it, and it has not moved since. -/
structure AutoQueued (w : Traffic) (id : ItemId) (c : WorkItem) : Prop where
  item : w.board.state.items[id]? = some c
  backlog : c.state = .backlog
  awaiting : c.awaitingDispatch = true
  mark : w.queuedAt id = some c.history.length

/-- No card of a paused Project is queued because of auto mode. -/
def StaysPaused (w : Traffic) : Prop :=
  ∀ p project, w.paused p = true → w.board.state.items[p]? = some project →
    ∀ id c, w.AutoQueued id c → c.parent ≠ some p

/-- The next lock of a pause changes no card out of Backlog but the Project. -/
def SparesOthers [UnicodeTables] (w : Traffic) : Event → Prop
  | .goes i => ∀ id c, w.board.state.items[id]? = some c → c.state ≠ .backlog →
      match w.calls[i]? with
      | some (.switch p false) =>
        id ≠ p → (w.step (.goes i)).board.state.items[id]? = some c
      | some (.collect _) | some (.clear _ _) =>
        (w.step (.goes i)).board.state.items[id]? = some c
      | _ => True
  | _ => True

/-- A pause is in progress that still has the card `id` before it. -/
def Pending (w : Traffic) (p id : ItemId) : Prop :=
  ∃ i c, w.pauser p = some i ∧ w.calls[i]? = some c ∧ c.StillHas p id

/-- A pause finds each card that it has collected in Backlog, or without a request. -/
def ClearsBacklog (w : Traffic) : Event → Prop
  | .goes i => ∀ p k left c, w.calls[i]? = some (.clear p (k :: left)) →
      w.board.state.items[k]? = some c →
        c.state = .backlog ∨ c.awaitingDispatch = false ∧ c.rebaseRequested = false
  | _ => True

/-- The Project `p` is in auto mode. -/
def IsOn (w : Traffic) (p : ItemId) : Prop :=
  ∃ project, w.board.state.items[p]? = some project ∧ project.autoDispatch = true

/-- Where auto mode queues a card, its Project is still in auto mode, or a pause that has not
returned still has the card before it; and a pause that finds its Project off finds none of its
cards queued because of auto mode. -/
structure FindsOn (w : Traffic) (e : Event) : Prop where
  queueing : ∀ i k left ps c p, e = .goes i → w.calls[i]? = some (.queueing k left ps) →
    w.board.state.items[k]? = some c → Board.checkDispatch w.board.state k c = .ok () →
      c.awaitingDispatch = false → c.parent = some p →
        w.IsOn p ∨ w.paused p = false ∧ w.Pending p k
  off : ∀ i p project, e = .goes i → w.calls[i]? = some (.switch p false) →
    w.board.state.items[p]? = some project → project.autoDispatch = false →
      ∀ id c, w.AutoQueued id c → c.parent ≠ some p

variable {w : Traffic}

/-! ## What one step keeps -/

/-- The boards and the calls that are reached. -/
structure Inv (w : Traffic) : Prop where
  own : ∀ (k : ItemId) (c : WorkItem), w.board.state.items[k]? = some c →
    c.id = k ∧ k < w.board.state.nextId
  marked : ∀ id n, w.queuedAt id = some n → id < w.board.state.nextId
  marks : ∀ (id : ItemId) (n : ℕ) (c : WorkItem), w.queuedAt id = some n →
    w.board.state.items[id]? = some c → n ≤ c.history.length
  parents : ∀ id c p, w.AutoQueued id c → c.parent = some p → p < w.board.state.nextId
  pausers : ∀ p i, w.pauser p = some i → p < w.board.state.nextId ∧ ¬w.IsOn p
  paused : ∀ p, w.paused p = true → p < w.board.state.nextId ∧ ¬w.IsOn p
  stays : w.StaysPaused
  waits : ∀ (p : ItemId) (project : WorkItem), w.board.state.items[p]? = some project →
    project.autoDispatch = false → ∀ id c, w.AutoQueued id c → c.parent = some p → w.Pending p id

lemma inv_start (schema : Schema) (clock : ℕ → ℕ → Time) (saveSucceeds : ℕ → Bool) :
    (start (Board.new schema clock saveSucceeds)).Inv where
  own k c hc := by cases hc
  marked id n hn := by cases hn
  marks id n c hn := by cases hn
  parents id c p hq := by cases hq.mark
  pausers p i hi := by cases hi
  paused p hp := by cases hp
  stays p project hp := by cases hp
  waits p project hproject := by cases hproject

/-- A card that auto mode has queued was queued by it before, or it was not queued before. -/
lemma autoQueued_of_keeps (h : w.Inv) {b : Board} (hkeeps : KeepsAuto w.board.state b.state)
    {byAuto : Bool} {id : ItemId} {c' : WorkItem}
    (hq : AutoQueued { w with
      board := b, queuedAt := requeued byAuto w.board.state b.state w.queuedAt } id c') :
    (∃ c, w.AutoQueued id c ∧ c.Stands c') ∨
      byAuto = true ∧ w.board.state.items[id]?.any WorkItem.awaitingDispatch = false := by
  have hmark : requeued byAuto w.board.state b.state w.queuedAt id = some c'.history.length :=
    hq.mark
  unfold requeued at hmark
  split at hmark
  · rename_i hawaited
    obtain ⟨c, hc, hawaiting⟩ := (Option.any_eq_true _ _).1 hawaited
    rcases hkeeps.card id c' hq.item with ⟨hle, -⟩ | ⟨d, hd, hstands⟩
    · exact absurd (h.own id c hc).2 (Nat.not_lt.2 hle)
    · cases hc.symm.trans hd
      have hmoves : c'.history.length = c.history.length :=
        Nat.le_antisymm (h.marks id _ c hmark hc) hstands.grows
      exact .inl ⟨c, ⟨hc, (hstands.state hmoves).symm.trans hq.backlog, hawaiting,
        hmark.trans (congrArg some hmoves)⟩, hstands⟩
  · rename_i hidle
    split at hmark
    · exact .inr ⟨‹_›, Bool.eq_false_iff.2 hidle⟩
    · cases hmark

/-- A Project that is off before is off after. -/
lemma not_isOn_of_keeps {b : Board} (hkeeps : KeepsAuto w.board.state b.state)
    {queuedAt : ItemId → Option ℕ} {p : ItemId} (hoff : ¬w.IsOn p) :
    ¬IsOn { w with board := b, queuedAt := queuedAt } p := by
  rintro ⟨project', hproject', hon⟩
  rcases hkeeps.card p project' hproject' with ⟨-, -, -, hnew⟩ | ⟨project, hproject, hstands⟩
  · rw [hnew] at hon
    cases hon
  · exact hoff ⟨project, hproject, hstands.autoDispatch.symm.trans hon⟩

/-- Auto mode may queue the card `id`, which is `c`. -/
def MayQueue (w : Traffic) (id : ItemId) (c : WorkItem) : Prop :=
  ∀ p, c.parent = some p → w.IsOn p ∨ w.paused p = false ∧ w.Pending p id

/-- A change of the board keeps the invariant when it keeps auto mode, and queues only cards that
auto mode may queue. -/
lemma inv_keeps (h : w.Inv) {b : Board} (hkeeps : KeepsAuto w.board.state b.state) {byAuto : Bool}
    (hmay : byAuto = true → ∀ (id : ItemId) (c' : WorkItem), b.state.items[id]? = some c' →
      c'.awaitingDispatch = true →
        w.board.state.items[id]?.any WorkItem.awaitingDispatch = false → w.MayQueue id c') :
    Inv { w with
      board := b, queuedAt := requeued byAuto w.board.state b.state w.queuedAt } := by
  -- where auto mode has queued a card, it had queued it before, or it may queue it
  have hback : ∀ {id : ItemId} {c' : WorkItem}, AutoQueued { w with
      board := b, queuedAt := requeued byAuto w.board.state b.state w.queuedAt } id c' →
        (∃ c, w.AutoQueued id c ∧ c.Stands c') ∨ w.MayQueue id c' := by
    intro id c' hq
    rcases autoQueued_of_keeps h hkeeps hq with hold | ⟨hauto, hidle⟩
    · exact .inl hold
    · exact .inr (hmay hauto id c' hq.item hq.awaiting hidle)
  -- a Project of before, when it is there after
  have hproject : ∀ {p : ItemId} {project' : WorkItem}, p < w.board.state.nextId →
      b.state.items[p]? = some project' →
        ∃ project, w.board.state.items[p]? = some project ∧ project.Stands project' := by
    intro p project' hlt hp
    rcases hkeeps.card p project' hp with ⟨hle, -⟩ | hold
    · exact absurd hlt (Nat.not_lt.2 hle)
    · exact hold
  have hpending : ∀ {p id : ItemId}, w.Pending p id → p < w.board.state.nextId := by
    rintro p id ⟨i, c, hi, -⟩
    exact (h.pausers p i hi).1
  have hon : ∀ {p : ItemId}, w.IsOn p → p < w.board.state.nextId := by
    rintro p ⟨project, hp, -⟩
    exact (h.own p project hp).2
  have hknown : ∀ {id p : ItemId} {c' : WorkItem}, AutoQueued { w with
      board := b, queuedAt := requeued byAuto w.board.state b.state w.queuedAt } id c' →
        c'.parent = some p → p < w.board.state.nextId := by
    intro id p c' hq hparent
    rcases hback hq with ⟨c, hold, hstands⟩ | hnew
    · exact h.parents id c p hold (hstands.parent.symm.trans hparent)
    · rcases hnew p hparent with hison | ⟨-, hp⟩
      · exact hon hison
      · exact hpending hp
  refine ⟨fun k c' hc' => ?_, fun id n hn => ?_, fun id n c' hn hc' => ?_,
    fun id c' p hq hparent => ?_, fun p i hi => ?_, fun p hp => ?_, fun p project' hp hproject' => ?_,
    fun p project' hproject' hoff id c' hq hparent => ?_⟩
  · rcases hkeeps.card k c' hc' with ⟨-, hlt, hid, -⟩ | ⟨c, hc, hstands⟩
    · exact ⟨hid, hlt⟩
    · exact ⟨hstands.id.trans (h.own k c hc).1, (h.own k c hc).2.trans_le hkeeps.grows⟩
  · have hn : requeued byAuto w.board.state b.state w.queuedAt id = some n := hn
    unfold requeued at hn
    split at hn
    · exact (h.marked id n hn).trans_le hkeeps.grows
    · split at hn
      · obtain ⟨c', hc', -⟩ := Option.map_eq_some_iff.1 hn
        rcases hkeeps.card id c' (Option.filter_eq_some_iff.1 hc').1 with
          ⟨-, hlt, -⟩ | ⟨c, hc, -⟩
        · exact hlt
        · exact (h.own id c hc).2.trans_le hkeeps.grows
      · cases hn
  · have hn : requeued byAuto w.board.state b.state w.queuedAt id = some n := hn
    have hc' : b.state.items[id]? = some c' := hc'
    unfold requeued at hn
    split at hn
    · rcases hkeeps.card id c' hc' with ⟨hle, -⟩ | ⟨c, hc, hstands⟩
      · exact absurd (h.marked id n hn) (Nat.not_lt.2 hle)
      · exact (h.marks id n c hn hc).trans hstands.grows
    · split at hn
      · obtain ⟨d, hd, rfl⟩ := Option.map_eq_some_iff.1 hn
        have hd := (Option.filter_eq_some_iff.1 hd).1
        cases hd.symm.trans hc'
        exact le_rfl
      · cases hn
  · exact (hknown hq hparent).trans_le hkeeps.grows
  · exact ⟨(h.pausers p i hi).1.trans_le hkeeps.grows,
      not_isOn_of_keeps hkeeps (h.pausers p i hi).2⟩
  · exact ⟨(h.paused p hp).1.trans_le hkeeps.grows, not_isOn_of_keeps hkeeps (h.paused p hp).2⟩
  · intro id c' hq hparent
    have hp : w.paused p = true := hp
    obtain ⟨project, hproject, -⟩ := hproject (h.paused p hp).1 hproject'
    rcases hback hq with ⟨c, hold, hstands⟩ | hnew
    · exact h.stays p project hp hproject id c hold (hstands.parent.symm.trans hparent)
    · rcases hnew p hparent with hison | ⟨hunpaused, -⟩
      · exact (h.paused p hp).2 hison
      · rw [hp] at hunpaused
        cases hunpaused
  · obtain ⟨project, hproject, hstands⟩ := hproject (hknown hq hparent) hproject'
    have hoff : project.autoDispatch = false := hstands.autoDispatch.symm.trans hoff
    rcases hback hq with ⟨c, hold, hkept⟩ | hnew
    · exact h.waits p project hproject hoff id c hold (hkept.parent.symm.trans hparent)
    · rcases hnew p hparent with ⟨d, hd, hison⟩ | ⟨-, hp⟩
      · cases hd.symm.trans hproject
        rw [hoff] at hison
        cases hison
      · exact hp

/-- A call goes on; where it was the pause that had a queued card before it, it still has. -/
lemma inv_setCall (h : w.Inv) {i : ℕ} {c' : Call}
    (hstill : ∀ p id c item, w.pauser p = some i → w.calls[i]? = some c → c.StillHas p id →
      w.AutoQueued id item → item.parent = some p → c'.StillHas p id) :
    (w.setCall i c').Inv where
  own := h.own
  marked := h.marked
  marks := h.marks
  parents id c p hq := h.parents id c p ⟨hq.item, hq.backlog, hq.awaiting, hq.mark⟩
  pausers := h.pausers
  paused := h.paused
  stays p project hp hproject id c hq :=
    h.stays p project hp hproject id c ⟨hq.item, hq.backlog, hq.awaiting, hq.mark⟩
  waits p project hproject hoff id item hq hparent := by
    have hqueued : w.AutoQueued id item := ⟨hq.item, hq.backlog, hq.awaiting, hq.mark⟩
    obtain ⟨j, c, hj, hc, hhas⟩ := h.waits p project hproject hoff id item hqueued hparent
    by_cases hij : j = i
    · subst hij
      refine ⟨j, c', hj, ?_, hstill p id c item hj hc hhas hqueued hparent⟩
      change (w.calls.set j c')[j]? = some c'
      rw [List.getElem?_set_self (List.getElem?_eq_some_iff.1 hc).1]
    · refine ⟨j, c, hj, ?_, hhas⟩
      change (w.calls.set i c')[j]? = some c
      rw [List.getElem?_set_ne (Ne.symm hij), hc]

/-! ## The switch -/

/-- The switch is written, and the call goes on. -/
lemma inv_switched (h : w.Inv) {i : ℕ} {p : ItemId} {project : WorkItem} {enabled : Bool}
    (hcall : w.calls[i]? = some (.switch p enabled))
    (hproject : w.board.state.items[p]? = some project)
    (hchanged : project.autoDispatch ≠ enabled) {w' : Traffic}
    (hstate : w'.board.state = w.board.state.editItem p (WorkItem.inAuto enabled))
    (hqueued : w'.queuedAt =
      requeued false w.board.state (w.board.state.editItem p (WorkItem.inAuto enabled)) w.queuedAt)
    (hcalls : w'.calls = w.calls.set i (if enabled then .projects [p] else .collect p))
    (hpauser : w'.pauser = Function.update w.pauser p (if enabled then none else some i))
    (hpaused : w'.paused = if enabled then Function.update w.paused p false else w.paused) :
    w'.Inv := by
  have hitems : ∀ k, w'.board.state.items[k]? =
      if k = p then w.board.state.items[k]?.map (WorkItem.inAuto enabled)
      else w.board.state.items[k]? := by
    intro k
    rw [hstate]
    exact items_editItem _
  have hnext : w'.board.state.nextId = w.board.state.nextId := by rw [hstate]; rfl
  have hlt : p < w.board.state.nextId := (h.own p project hproject).2
  -- a card of after, and the same card before
  have hback : ∀ {k : ItemId} {c' : WorkItem}, w'.board.state.items[k]? = some c' →
      ∃ c : WorkItem, w.board.state.items[k]? = some c ∧ c'.id = c.id ∧ c'.parent = c.parent ∧
        c'.history = c.history ∧ c'.state = c.state ∧ c'.awaitingDispatch = c.awaitingDispatch ∧
          (k ≠ p → c' = c) ∧ (k = p → c'.autoDispatch = enabled) := by
    intro k c' hc'
    rw [hitems] at hc'
    split at hc'
    · rename_i hk
      obtain ⟨c, hc, rfl⟩ := Option.map_eq_some_iff.1 hc'
      exact ⟨c, hc, rfl, rfl, rfl, rfl, rfl, fun hne => absurd hk hne, fun _ => rfl⟩
    · rename_i hk
      exact ⟨c', hc', rfl, rfl, rfl, rfl, rfl, fun _ => rfl, fun heq => absurd heq hk⟩
  have hmark : ∀ {k : ItemId} {n : ℕ}, w'.queuedAt k = some n → w.queuedAt k = some n ∧
      w.board.state.items[k]?.any WorkItem.awaitingDispatch = true := by
    intro k n hn
    rw [hqueued] at hn
    unfold requeued at hn
    split at hn
    · exact ⟨hn, ‹_›⟩
    · rw [if_neg Bool.false_ne_true] at hn
      cases hn
  have hold : ∀ {k : ItemId} {c' : WorkItem}, w'.AutoQueued k c' →
      ∃ c, w.AutoQueued k c ∧ c'.parent = c.parent := by
    intro k c' hq
    obtain ⟨c, hc, -, hparent, hhistory, hcstate, hawaiting, -⟩ := hback hq.item
    exact ⟨c, ⟨hc, hcstate ▸ hq.backlog, hawaiting ▸ hq.awaiting, hhistory ▸ (hmark hq.mark).1⟩,
      hparent⟩
  have hison : ∀ {q : ItemId}, q ≠ p → (w'.IsOn q ↔ w.IsOn q) := by
    intro q hq
    unfold IsOn
    rw [hitems, if_neg hq]
  have hoff : enabled = false → ¬w'.IsOn p := by
    rintro rfl ⟨project', hproject', hon⟩
    obtain ⟨-, -, -, -, -, -, -, -, hauto⟩ := hback hproject'
    rw [hauto rfl] at hon
    cases hon
  -- the call was no pause yet
  have hpending : ∀ {q k : ItemId}, q ≠ p → w.Pending q k → w'.Pending q k := by
    rintro q k hq ⟨j, c, hj, hc, hhas⟩
    have hji : j ≠ i := by
      rintro rfl
      cases hcall.symm.trans hc
      exact hhas
    refine ⟨j, c, ?_, ?_, hhas⟩
    · rw [hpauser, Function.update_of_ne hq, hj]
    · rw [hcalls, List.getElem?_set_ne hji.symm, hc]
  have hpausedAt : ∀ {q : ItemId}, w'.paused q = true → q ≠ p ∧ w.paused q = true := by
    intro q hq
    rw [hpaused] at hq
    cases enabled with
    | true =>
      rw [if_pos rfl] at hq
      by_cases hqp : q = p
      · rw [hqp, Function.update_self] at hq
        cases hq
      · rw [Function.update_of_ne hqp] at hq
        exact ⟨hqp, hq⟩
    | false =>
      rw [if_neg Bool.false_ne_true] at hq
      refine ⟨?_, hq⟩
      rintro rfl
      exact (h.paused q hq).2 ⟨project, hproject, Bool.eq_true_of_not_eq_false hchanged⟩
  refine ⟨fun k c' hc' => ?_, fun k n hn => ?_, fun k n c' hn hc' => ?_,
    fun k c' q hq hparent => ?_, fun q j hj => ?_, fun q hq => ?_,
    fun q project' hq hproject' k c' hqueued => ?_,
    fun q project' hproject' hisoff k c' hq hparent => ?_⟩
  · obtain ⟨c, hc, hid, -⟩ := hback hc'
    rw [hid, hnext]
    exact h.own k c hc
  · rw [hnext]
    exact h.marked k n (hmark hn).1
  · obtain ⟨c, hc, -, -, hhistory, -⟩ := hback hc'
    rw [hhistory]
    exact h.marks k n c (hmark hn).1 hc
  · obtain ⟨c, hc, hsame⟩ := hold hq
    rw [hnext]
    exact h.parents k c q hc (hsame.symm.trans hparent)
  · rw [hnext]
    rw [hpauser] at hj
    by_cases hqp : q = p
    · subst hqp
      refine ⟨hlt, hoff ?_⟩
      rw [Function.update_self] at hj
      cases enabled with
      | true => cases hj
      | false => rfl
    · rw [Function.update_of_ne hqp] at hj
      exact ⟨(h.pausers q j hj).1, fun hon => (h.pausers q j hj).2 ((hison hqp).1 hon)⟩
  · obtain ⟨hqp, hq⟩ := hpausedAt hq
    rw [hnext]
    exact ⟨(h.paused q hq).1, fun hon => (h.paused q hq).2 ((hison hqp).1 hon)⟩
  · obtain ⟨hqp, hq⟩ := hpausedAt hq
    obtain ⟨c, hc, hsame⟩ := hold hqueued
    rw [hitems, if_neg hqp] at hproject'
    rw [hsame]
    exact h.stays q project' hq hproject' k c hc
  · obtain ⟨c, hc, hsame⟩ := hold hq
    by_cases hqp : q = p
    · subst hqp
      have hfalse : enabled = false := by
        obtain ⟨-, -, -, -, -, -, -, -, hauto⟩ := hback hproject'
        exact (hauto rfl).symm.trans hisoff
      subst hfalse
      refine ⟨i, .collect q, ?_, ?_, rfl⟩
      · rw [hpauser, Function.update_self, if_neg Bool.false_ne_true]
      · rw [hcalls, List.getElem?_set_self (List.getElem?_eq_some_iff.1 hcall).1,
          if_neg Bool.false_ne_true]
    · rw [hitems, if_neg hqp] at hproject'
      exact hpending hqp (h.waits q project' hproject' hisoff k c hc (hsame.symm.trans hparent))

/-! ## One step -/

/-- What the section of the switch finds. -/
lemma setAutoSection_cases (id : ItemId) (enabled : Bool) (s : BoardState) :
    (∃ e, Board.setAutoSection id enabled s = (.error e, s)) ∨
      ∃ project title item, s.items[id]? = some project ∧
        Board.setAutoSection id enabled s =
          (.ok (title, project.autoDispatch != enabled, item),
            s.editItem id (WorkItem.inAuto enabled)) := by
  unfold Board.setAutoSection
  cases hitem : s.items[id]? with
  | none => exact .inl ⟨_, rfl⟩
  | some project =>
    dsimp only
    split
    · exact .inl ⟨_, rfl⟩
    · exact .inr ⟨project, _, _, rfl, rfl⟩

lemma inAuto_self (project : WorkItem) : project.inAuto project.autoDispatch = project := rfl

/-- A card that is queued is a card that was there before, queued or not. -/
lemma keepsAuto_enqueueSection (id : ItemId) (s : BoardState) :
    KeepsAuto s (Board.enqueueSection id s).2 :=
  Board.shaped_enqueueSection KeepsAuto.covers.toShapes
    (E := fun _ f => WorkItem.StandsStill f)
    ⟨fun _ => rfl, fun _ => rfl, fun _ => rfl, fun _ => rfl, fun _ => rfl⟩ s

/-- The card that a section has queued passed the check. -/
lemma queued_of_enqueueSection {id k : ItemId} {s : BoardState} {c' : WorkItem}
    (hc' : (Board.enqueueSection id s).2.items[k]? = some c') (hawaiting : c'.awaitingDispatch = true)
    (hidle : s.items[k]?.any WorkItem.awaitingDispatch = false) :
    k = id ∧ ∃ c, s.items[k]? = some c ∧ Board.checkDispatch s k c = .ok () ∧
      c.awaitingDispatch = false ∧ c' = c.queued := by
  have hold : s.items[k]? ≠ some c' := by
    intro hc
    rw [hc, Option.any_some, hawaiting] at hidle
    cases hidle
  unfold Board.enqueueSection at hc'
  split at hc'
  · exact absurd hc' hold
  · rename_i c hc
    split at hc'
    · exact absurd hc' hold
    · rename_i hcheck
      rw [items_editItem] at hc'
      split at hc'
      · rename_i hk
        subst hk
        rw [hc, Option.map_some, Option.some.injEq] at hc'
        rw [hc, Option.any_some] at hidle
        exact ⟨rfl, c, hc, hcheck, hidle, hc'.symm⟩
      · exact absurd hc' hold

/-- A pause collects every queued card. -/
lemma mem_queuedUnder {s : BoardState} {p id : ItemId} {c : WorkItem} (hc : s.items[id]? = some c)
    (hid : c.id = id) (hparent : c.parent = some p) (hstate : c.state = .backlog)
    (hawaiting : c.awaitingDispatch = true) : id ∈ s.queuedUnder p := by
  unfold queuedUnder
  refine List.mem_map.2 ⟨c, List.mem_filter.2 ⟨mem_cards.2 ⟨id, hc⟩, ?_⟩, hid⟩
  rw [hparent, hstate, hawaiting]
  simp

variable [UnicodeTables]

/-- The step of a call that notes nothing. -/
lemma step_goes {i : ℕ} {c : Call} (hc : w.calls[i]? = some c) :
    w.step (.goes i) =
      ((w.noted i c).withState c.isAuto (c.advance w.board.state).2).setCall i
        (c.advance w.board.state).1 := by
  unfold step
  dsimp only
  rw [hc]

omit [UnicodeTables] in
lemma noted_board (w : Traffic) (i : ℕ) (c : Call) : (w.noted i c).board = w.board := by
  unfold noted
  split <;> (try split) <;> rfl

omit [UnicodeTables] in
lemma noted_calls (w : Traffic) (i : ℕ) (c : Call) : (w.noted i c).calls = w.calls := by
  unfold noted
  split <;> (try split) <;> rfl

/-- A call that only reads. -/
lemma inv_reads {i : ℕ} {c c' : Call} (hc : w.calls[i]? = some c) (h : (w.noted i c).Inv)
    (hadvance : c.advance w.board.state = (c', w.board.state)) (hauto : c.isAuto = false)
    (hstill : ∀ p id item, c.StillHas p id → (w.noted i c).AutoQueued id item →
      item.parent = some p → c'.StillHas p id) : (w.step (.goes i)).Inv := by
  have hboard := noted_board w i c
  have hcalls := noted_calls w i c
  rw [step_goes hc, hadvance, hauto]
  generalize w.noted i c = v at h hstill hboard hcalls ⊢
  rw [← hboard]
  have hkeeps : (v.withState false v.board.state).Inv :=
    inv_keeps h (b := { v.board with state := v.board.state }) (.refl _) nofun
  refine inv_setCall hkeeps fun p id d item _ hd hhas hq hparent => ?_
  have hd : v.calls[i]? = some d := hd
  rw [hcalls] at hd
  cases hc.symm.trans hd
  refine hstill p id item hhas ⟨hq.item, hq.backlog, hq.awaiting, ?_⟩ hparent
  have hmark : requeued false v.board.state v.board.state v.queuedAt id =
      some item.history.length := hq.mark
  unfold requeued at hmark
  split at hmark
  · exact hmark
  · rw [if_neg Bool.false_ne_true] at hmark
    cases hmark

/-- A call that queues a card, for auto mode or for the operator. -/
lemma inv_queues (h : w.Inv) {i : ℕ} {c c' : Call} {k : ItemId} (hc : w.calls[i]? = some c)
    (hadvance : c.advance w.board.state = (c', (Board.enqueueSection k w.board.state).2))
    (hnoted : w.noted i c = w) (hnone : ∀ p id, ¬c.StillHas p id)
    (hmay : c.isAuto = true → ∀ (item : WorkItem), w.board.state.items[k]? = some item →
      Board.checkDispatch w.board.state k item = .ok () → item.awaitingDispatch = false →
        w.MayQueue k item) : (w.step (.goes i)).Inv := by
  rw [step_goes hc, hnoted, hadvance]
  have hkeeps : (w.withState c.isAuto (Board.enqueueSection k w.board.state).2).Inv := by
    refine inv_keeps h (b := { w.board with state := (Board.enqueueSection k w.board.state).2 })
      (keepsAuto_enqueueSection k _) fun hauto id item' hitem' hawaiting hidle => ?_
    obtain ⟨rfl, item, hitem, hcheck, hunqueued, rfl⟩ :=
      queued_of_enqueueSection hitem' hawaiting hidle
    exact hmay hauto item hitem hcheck hunqueued
  refine inv_setCall hkeeps fun p id d item _ hd hhas _ _ => ?_
  have hd : w.calls[i]? = some d := hd
  cases hc.symm.trans hd
  exact absurd hhas (hnone p id)

/-- A pause takes a card off the queue. -/
lemma inv_clears (h : w.Inv) {i : ℕ} {p k : ItemId} {left : List ItemId}
    (hc : w.calls[i]? = some (.clear p (k :: left))) : (w.step (.goes i)).Inv := by
  rw [step_goes hc]
  have hstill : WorkItem.StandsStill WorkItem.unqueued :=
    ⟨fun _ => rfl, fun _ => rfl, fun _ => rfl, fun _ => rfl, fun _ => rfl⟩
  have hkeeps : (w.withState false (w.board.state.editItem k WorkItem.unqueued)).Inv :=
    inv_keeps h (b := { w.board with state := w.board.state.editItem k WorkItem.unqueued })
      (.edit hstill _ _) nofun
  refine inv_setCall hkeeps fun q id d item _ hd hhas hq _ => ?_
  have hd : w.calls[i]? = some d := hd
  cases hc.symm.trans hd
  refine ⟨hhas.1, (List.mem_cons.1 hhas.2).resolve_left ?_⟩
  rintro rfl
  have hitem : (w.board.state.editItem id WorkItem.unqueued).items[id]? = some item := hq.item
  rw [items_editItem_self] at hitem
  obtain ⟨before, -, rfl⟩ := Option.map_eq_some_iff.1 hitem
  cases hq.awaiting

omit [UnicodeTables] in
/-- A Project is paused that is off, and none of whose cards is queued because of auto mode. -/
lemma inv_paused (h : w.Inv) {p : ItemId} (hlt : p < w.board.state.nextId) (hoff : ¬w.IsOn p)
    (hfree : ∀ project, w.board.state.items[p]? = some project →
      ∀ id c, w.AutoQueued id c → c.parent ≠ some p) :
    Inv { w with paused := Function.update w.paused p true } where
  own := h.own
  marked := h.marked
  marks := h.marks
  parents id c q hq := h.parents id c q ⟨hq.item, hq.backlog, hq.awaiting, hq.mark⟩
  pausers := h.pausers
  paused q hq := by
    by_cases hqp : q = p
    · subst hqp
      exact ⟨hlt, hoff⟩
    · have hq : Function.update w.paused p true q = true := hq
      rw [Function.update_of_ne hqp] at hq
      exact h.paused q hq
  stays q project hq hproject id c hqueued := by
    have hold : w.AutoQueued id c :=
      ⟨hqueued.item, hqueued.backlog, hqueued.awaiting, hqueued.mark⟩
    by_cases hqp : q = p
    · subst hqp
      exact hfree project hproject id c hold
    · have hq : Function.update w.paused p true q = true := hq
      rw [Function.update_of_ne hqp] at hq
      exact h.stays q project hq hproject id c hold
  waits q project hproject hisoff id c hq :=
    h.waits q project hproject hisoff id c ⟨hq.item, hq.backlog, hq.awaiting, hq.mark⟩

omit [UnicodeTables] in
/-- A pause returns that has taken every card off the queue that it collected. -/
lemma inv_returns (h : w.Inv) {i : ℕ} {p : ItemId} (hc : w.calls[i]? = some (.clear p [])) :
    (w.noted i (.clear p [])).Inv := by
  unfold noted
  dsimp only
  split
  · rename_i hpauser
    obtain ⟨hlt, hoff⟩ := h.pausers p i hpauser
    refine inv_paused h hlt hoff fun project hproject id c hq hparent => ?_
    have hisoff : project.autoDispatch = false :=
      Bool.eq_false_iff.2 fun hon => hoff ⟨project, hproject, hon⟩
    obtain ⟨j, d, hj, hd, hhas⟩ := h.waits p project hproject hisoff id c hq hparent
    cases hpauser.symm.trans hj
    cases hc.symm.trans hd
    exact List.not_mem_nil hhas.2
  · exact h

/-- A call writes the switch, or finds it as it wants it. -/
lemma inv_switches (h : w.Inv) {i : ℕ} {p : ItemId} {enabled : Bool}
    (hc : w.calls[i]? = some (.switch p enabled))
    (hoff : enabled = false → ∀ project, w.board.state.items[p]? = some project →
      project.autoDispatch = false → ∀ id c, w.AutoQueued id c → c.parent ≠ some p) :
    (w.step (.goes i)).Inv := by
  rcases setAutoSection_cases p enabled w.board.state with
    ⟨e, hsection⟩ | ⟨project, title, item, hproject, hsection⟩
  · have hnoted : w.noted i (.switch p enabled) = w := by
      unfold noted
      dsimp only
      rw [hsection]
    have hadvance : (Call.switch p enabled).advance w.board.state =
        (.returned, w.board.state) := by
      unfold Call.advance
      dsimp only
      rw [hsection]
    exact inv_reads hc (hnoted.symm ▸ h) hadvance rfl fun _ _ _ hhas => hhas.elim
  · by_cases hsame : project.autoDispatch = enabled
    · have hstate : w.board.state.editItem p (WorkItem.inAuto enabled) = w.board.state := by
        rw [editItem_eq_iff hproject, ← hsame]
        exact inAuto_self project
      have hunchanged : (project.autoDispatch != enabled) = false := by
        rw [hsame, bne_self_eq_false]
      rw [hstate, hunchanged] at hsection
      have hadvance : (Call.switch p enabled).advance w.board.state =
          (.returned, w.board.state) := by
        unfold Call.advance
        dsimp only
        rw [hsection]
      refine inv_reads hc ?_ hadvance rfl fun _ _ _ hhas => hhas.elim
      unfold noted
      dsimp only
      rw [hsection]
      cases enabled with
      | true => exact h
      | false =>
        refine inv_paused h (h.own p project hproject).2 ?_ fun d hd => ?_
        · rintro ⟨d, hd, hon⟩
          cases hproject.symm.trans hd
          rw [hsame] at hon
          cases hon
        · cases hproject.symm.trans hd
          exact hoff rfl project hproject hsame
    · have hchanged : (project.autoDispatch != enabled) = true := bne_iff_ne.2 hsame
      rw [hchanged] at hsection
      have hadvance : (Call.switch p enabled).advance w.board.state =
          (if enabled then .projects [p] else .collect p,
            w.board.state.editItem p (WorkItem.inAuto enabled)) := by
        unfold Call.advance
        dsimp only
        rw [hsection]
      rw [step_goes hc, hadvance]
      refine inv_switched h hc hproject hsame rfl ?_ ?_ ?_ ?_
      all_goals
        unfold noted
        dsimp only
        rw [hsection]
        cases enabled <;> rfl

/-- The invariant is kept by every step that finds auto mode on. -/
lemma inv_step (h : w.Inv) {e : Event} (hfinds : w.FindsOn e) : (w.step e).Inv := by
  cases e with
  | operation op =>
    unfold step
    dsimp only
    split
    · exact h
    · rename_i hop
      exact inv_keeps h (Board.keepsAuto_exec (Bool.eq_false_iff.2 hop) w.board) nofun
  | begins op =>
    unfold step
    dsimp only
    split
    · exact h
    · rename_i c _
      refine { h with
        parents := fun id c q hq => h.parents id c q ⟨hq.item, hq.backlog, hq.awaiting, hq.mark⟩
        stays := fun p project hp hproject id c hq =>
          h.stays p project hp hproject id c ⟨hq.item, hq.backlog, hq.awaiting, hq.mark⟩
        waits := fun p project hproject hoff id item hq hparent => ?_ }
      obtain ⟨i, d, hi, hd, hhas⟩ := h.waits p project hproject hoff id item
        ⟨hq.item, hq.backlog, hq.awaiting, hq.mark⟩ hparent
      exact ⟨i, d, hi, List.getElem?_append_left (List.getElem?_eq_some_iff.1 hd).1 ▸ hd, hhas⟩
  | goes i =>
    cases hc : w.calls[i]? with
    | none =>
      have hsame : w.step (.goes i) = w := by
        unfold step
        dsimp only
        rw [hc]
      exact hsame.symm ▸ h
    | some c =>
      cases c with
      | switch p enabled =>
        refine inv_switches h hc ?_
        rintro rfl project hproject hisoff
        exact hfinds.off i p project rfl hc hproject hisoff
      | collect p =>
        refine inv_reads hc h rfl rfl fun q id item hq hqueued hparent => ⟨hq, ?_⟩
        cases hq
        exact mem_queuedUnder hqueued.item (h.own id item hqueued.item).1 hparent
          hqueued.backlog hqueued.awaiting
      | clear p left =>
        cases left with
        | nil =>
          exact inv_reads hc (inv_returns h hc) rfl rfl fun _ _ _ hhas =>
            absurd hhas.2 List.not_mem_nil
        | cons k left => exact inv_clears h hc
      | tick => exact inv_reads hc h rfl rfl fun _ _ _ hhas => hhas.elim
      | projects left => cases left <;> exact inv_reads hc h rfl rfl fun _ _ _ hhas => hhas.elim
      | candidates left ps =>
        cases left <;> exact inv_reads hc h rfl rfl fun _ _ _ hhas => hhas.elim
      | queueing k left ps =>
        refine inv_queues h hc rfl rfl (fun _ _ => id) fun _ item hitem hcheck hidle p hparent => ?_
        exact hfinds.queueing i k left ps item p rfl hc hitem hcheck hidle hparent
      | dispatch id => exact inv_reads hc h rfl rfl fun _ _ _ hhas => hhas.elim
      | dispatching k => exact inv_queues h hc rfl rfl (fun _ _ => id) nofun
      | returned => exact inv_reads hc h rfl rfl fun _ _ _ hhas => hhas.elim

/-- A pause leaves the cards out of Backlog alone exactly where it finds each card that it has
collected in Backlog, or without a request. -/
lemma sparesOthers_iff (w : Traffic) (e : Event) : w.SparesOthers e ↔ w.ClearsBacklog e := by
  cases e with
  | operation | begins => exact Iff.rfl
  | goes i =>
    unfold SparesOthers ClearsBacklog
    dsimp only
    -- only a pause that is to clear a card has something to find
    have hno : ∀ {call : Call}, (∀ p k left, call ≠ .clear p (k :: left)) →
        ∀ (p k : ItemId) (left : List ItemId) (c : WorkItem), some call = some (.clear p (k :: left)) →
          w.board.state.items[k]? = some c →
            c.state = .backlog ∨ c.awaitingDispatch = false ∧ c.rebaseRequested = false :=
      fun hne p k left c hcall => absurd (Option.some.inj hcall) (hne p k left)
    cases hc : w.calls[i]? with
    | none => exact iff_of_true (fun _ _ _ _ => trivial) fun p k left c hcall => by cases hcall
    | some call =>
      have hitems : (w.step (.goes i)).board.state = (call.advance w.board.state).2 := by
        rw [step_goes hc]
        rfl
      rw [hitems]
      cases call with
      | switch p enabled =>
        refine iff_of_true (fun id c hitem _ => ?_) (hno fun _ _ _ h => by cases h)
        cases enabled with
        | true => trivial
        | false =>
          intro hid
          rcases setAutoSection_cases p false w.board.state with
            ⟨e, hsection⟩ | ⟨project, title, item, hproject, hsection⟩
          · unfold Call.advance
            dsimp only
            rw [hsection]
            exact hitem
          · have hstate : ((Call.switch p false).advance w.board.state).2 =
                w.board.state.editItem p (WorkItem.inAuto false) := by
              unfold Call.advance
              dsimp only
              rw [hsection]
              cases project.autoDispatch <;> rfl
            rw [hstate, items_editItem_of_ne hid, hitem]
      | collect p => exact iff_of_true (fun id c hitem _ => hitem) (hno fun _ _ _ h => by cases h)
      | clear p left =>
        cases left with
        | nil => exact iff_of_true (fun id c hitem _ => hitem) (hno fun _ _ _ h => by cases h)
        | cons k left =>
          change (∀ id c, _ → _ → (w.board.state.editItem k WorkItem.unqueued).items[id]? = _) ↔ _
          constructor
          · rintro hspares _ _ _ c ⟨⟩ hitem
            by_cases hstate : c.state = .backlog
            · exact .inl hstate
            · have hsame := hspares k c hitem hstate
              rw [items_editItem_self, hitem, Option.map_some, Option.some.injEq] at hsame
              exact .inr ⟨(congrArg WorkItem.awaitingDispatch hsame).symm,
                (congrArg WorkItem.rebaseRequested hsame).symm⟩
          · intro hclears id c hitem hstate
            rw [items_editItem]
            split
            · rename_i hid
              subst hid
              obtain ⟨hawaiting, hrebase⟩ := (hclears p id left c rfl hitem).resolve_left hstate
              have hsame : c.unqueued = c := by
                cases c
                dsimp only at hawaiting hrebase
                rw [hawaiting, hrebase]
                rfl
              rw [hitem, Option.map_some, hsame]
            · exact hitem
      | _ => exact iff_of_true (fun _ _ _ _ => trivial) (hno fun _ _ _ h => by cases h)

/-- A pause leaves the cards out of Backlog alone exactly as long as the cards that it has collected
stay in Backlog, or lose their requests; and a Project stays paused when auto mode queues no card of
a Project that is off by then. -/
theorem stays_paused (schema : Schema) (clock : ℕ → ℕ → Time) (saveSucceeds : ℕ → Bool)
    (events : List Event) :
    (Run.Meets step SparesOthers (start (Board.new schema clock saveSucceeds)) events ↔
      Run.Meets step ClearsBacklog (start (Board.new schema clock saveSucceeds)) events) ∧
    (Run.Meets step FindsOn (start (Board.new schema clock saveSucceeds)) events →
      (Run.after step (start (Board.new schema clock saveSucceeds)) events).StaysPaused) := by
  refine ⟨Run.meets_congr sparesOthers_iff, fun hfinds => ?_⟩
  have hinv : (Run.after step (start (Board.new schema clock saveSucceeds)) events).Inv :=
    hfinds.invariant (fun w e h hfinds => inv_step h hfinds) (inv_start schema clock saveSucceeds)
  exact hinv.stays

end Traffic

/-! ## A call that is alone -/

section Alone

open Relation

/-- The board with other stories; no call of auto mode reads them. -/
def telling (s : BoardState) (stories : ExtTreeMap ItemId (List StoryLine)) : BoardState :=
  { s with stories := stories }

/-- A call takes its next lock. -/
def Goes (x y : Call × BoardState) : Prop := x.1.advance x.2 = y

lemma advance_telling (c : Call) (s : BoardState) (stories : ExtTreeMap ItemId (List StoryLine)) :
    c.advance (telling s stories) = ((c.advance s).1, telling (c.advance s).2 stories) := by
  have hqueue : ∀ k, (Board.enqueueSection k (telling s stories)).2 =
      telling (Board.enqueueSection k s).2 stories := by
    intro k
    have hitems : (telling s stories).items = s.items := rfl
    have hcheck : ∀ item, Board.checkDispatch (telling s stories) k item =
        Board.checkDispatch s k item := fun _ => rfl
    unfold Board.enqueueSection
    rw [hitems]
    cases s.items[k]? with
    | none => rfl
    | some item =>
      dsimp only
      rw [hcheck]
      cases Board.checkDispatch s k item <;> rfl
  cases c with
  | switch id enabled =>
    have hitems : (telling s stories).items = s.items := rfl
    unfold Call.advance Board.setAutoSection
    dsimp only
    rw [hitems]
    cases s.items[id]? with
    | none => rfl
    | some project =>
      dsimp only
      cases project.level != some "Project" && !project.isProject with
      | true => rfl
      | false => cases project.autoDispatch != enabled <;> rfl
  | clear id left => cases left <;> rfl
  | projects left => cases left <;> rfl
  | candidates left ps => cases left <;> rfl
  | queueing k left ps => exact Prod.ext rfl (hqueue k)
  | dispatching k => exact Prod.ext rfl (hqueue k)
  | _ => rfl

/-- The call gets from one board state to the other, up to the stories. -/
def Reaches (c : Call) (s : BoardState) (c' : Call) (s' : BoardState) : Prop :=
  ∃ stories, ReflTransGen Goes (c, s) (c', telling s' stories)

lemma reaches_refl (c : Call) (s : BoardState) : Reaches c s c s := ⟨s.stories, .refl⟩

/-- Other stories change nothing about the way. -/
lemma goes_telling {x y : Call × BoardState} (h : ReflTransGen Goes x y)
    (stories : ExtTreeMap ItemId (List StoryLine)) :
    ReflTransGen Goes (x.1, telling x.2 stories) (y.1, telling y.2 stories) := by
  refine h.lift (fun z => (z.1, telling z.2 stories)) ?_
  rintro z _ rfl
  exact advance_telling z.1 z.2 stories

lemma reaches_trans {c c' c'' : Call} {s s' s'' : BoardState} (h : Reaches c s c' s')
    (h' : Reaches c' s' c'' s'') : Reaches c s c'' s'' := by
  obtain ⟨stories, h⟩ := h
  obtain ⟨stories', h'⟩ := h'
  exact ⟨stories, h.trans (goes_telling h' stories)⟩

/-- The next lock, and a board that tells other stories. -/
lemma reaches_head {c c' c'' : Call} {s s' s₁ s'' : BoardState}
    (hadvance : c.advance s = (c', s'))
    (hstories : s₁ = telling s' s₁.stories) (h : Reaches c' s₁ c'' s'') : Reaches c s c'' s'' := by
  have hback : s' = telling s₁ s'.stories := by
    rw [hstories]
    rfl
  obtain ⟨stories, h⟩ := h
  refine ⟨s'.stories, .head hadvance ?_⟩
  have htold := goes_telling h s'.stories
  dsimp only at htold
  rw [← hback] at htold
  exact htold

/-- A loop runs its first round and then the rest. -/
lemma run_forM_cons {σ ε α : Type} {f : α → Locked σ ε Unit} {x : α} {xs : List α} {s s' : σ}
    (h : (f x).run s = (.ok (), s')) : ((x :: xs).forM f).run s = (xs.forM f).run s' :=
  Locked.run_bind_ok h _

/-- A loop whose rounds all succeed succeeds. -/
lemma run_forM_ok {σ ε α : Type} {f : α → Locked σ ε Unit}
    (hf : ∀ x s, ∃ s', (f x).run s = (.ok (), s')) (xs : List α) (s : σ) :
    ∃ s', (xs.forM f).run s = (.ok (), s') := by
  induction xs generalizing s with
  | nil => exact ⟨s, rfl⟩
  | cons x xs ih =>
    obtain ⟨s₁, hfirst⟩ := hf x s
    rw [run_forM_cons hfirst]
    exact ih s₁

/-- A round whose outcome is dropped. -/
lemma run_dropped {σ ε ε' α : Type} (m : Locked σ ε α) (s : σ) :
    (do let _ ← m.attempt : Locked σ ε' Unit).run s = (.ok (), (m.run s).2) := by
  rw [Locked.run_bind_ok (Locked.run_attempt _ s)]
  rfl

lemma state_clearDispatch (id : ItemId) (b : Board) :
    ((Board.clearDispatch id).run b).2.state = b.state.editItem id WorkItem.unqueued := by
  unfold Board.clearDispatch
  cases hc : b.state.items[id]? with
  | none => simp [Board.run_editOr_none hc, editItem_of_none hc]
  | some c => simp [Board.run_editOr_some hc]

/-- A pause takes the collected cards off the queue. -/
lemma reaches_clear {ε : Type} (p : ItemId) (left : List ItemId) (b : Board) :
    Reaches (.clear p left) b.state .returned
      ((left.forM fun id => do
        let _ ← (Board.clearDispatch id).attempt : Method ε Unit).run b).2.state := by
  induction left generalizing b with
  | nil => exact reaches_head rfl rfl (reaches_refl _ _)
  | cons k left ih =>
    rw [run_forM_cons (x := k) (run_dropped (Board.clearDispatch k) b)]
    have hnext := ih ((Board.clearDispatch k).run b).2
    rw [state_clearDispatch] at hnext
    exact reaches_head rfl rfl hnext

/-- A dispatch queues the card in one section, unless it finds the card parked. -/
lemma state_enqueueDispatch (id : ItemId) (b : Board) :
    ∃ stories, ((Board.enqueueDispatch id).run b).2.state =
      telling (if b.state.items[id]?.any WorkItem.parked then b.state
        else (Board.enqueueSection id b.state).2) stories := by
  have hread : (Board.mayClaim id : Method String Bool).run b =
      (.ok !(b.state.items[id]?.any WorkItem.parked), b) := rfl
  unfold Board.enqueueDispatch
  rw [Locked.run_bind_ok hread, Locked.run_failIf_bind]
  cases b.state.items[id]?.any WorkItem.parked with
  | true => exact ⟨b.state.stories, rfl⟩
  | false =>
    rw [if_neg (by decide), if_neg Bool.false_ne_true]
    cases hsection : Board.enqueueSection id b.state with
    | mk result s =>
      have hwrite : (Board.write fun _ s => Board.enqueueSection id s).run b =
          (result, b.stepped s) := by
        rw [Board.run_write, hsection]
      cases result with
      | error e =>
        rw [Locked.run_bind_error hwrite]
        exact ⟨s.stories, rfl⟩
      | ok item =>
        rw [Locked.run_bind_ok hwrite, Locked.run_bind_ok (Board.run_emit _ _),
          Locked.run_bind_ok (Board.run_story _ _ _)]
        exact ⟨_, rfl⟩

/-- Auto mode goes over the candidates of one Project. -/
lemma reaches_candidates {ε : Type} (left ps : List ItemId) (b : Board) :
    Reaches (.candidates left ps) b.state (.projects ps)
      ((left.forM fun id => do
        let _ ← (Board.enqueueDispatch id).attempt : Method ε Unit).run b).2.state := by
  induction left generalizing b with
  | nil => exact reaches_head rfl rfl (reaches_refl _ _)
  | cons k left ih =>
    rw [run_forM_cons (x := k) (run_dropped (Board.enqueueDispatch k) b)]
    have hnext := ih ((Board.enqueueDispatch k).run b).2
    obtain ⟨stories, hstate⟩ := state_enqueueDispatch k b
    by_cases hparked : b.state.items[k]?.any WorkItem.parked = true
    · rw [if_pos hparked] at hstate
      have hadvance : (Call.candidates (k :: left) ps).advance b.state =
          (.candidates left ps, b.state) := by
        unfold Call.advance
        dsimp only
        rw [if_pos hparked]
      exact reaches_head hadvance (by rw [hstate]; rfl) hnext
    · rw [if_neg hparked] at hstate
      have hadvance : (Call.candidates (k :: left) ps).advance b.state =
          (.queueing k left ps, b.state) := by
        unfold Call.advance
        dsimp only
        rw [if_neg hparked]
      exact reaches_head hadvance rfl (reaches_head rfl (by rw [hstate]; rfl) hnext)

lemma run_autoEnqueueProject {ε : Type} (p : ItemId) (b : Board) :
    ∃ b', (Board.autoEnqueueProject p : Method ε Unit).run b = (.ok (), b') :=
  run_forM_ok (fun id b => ⟨_, run_dropped (Board.enqueueDispatch id) b⟩)
    (b.state.autoCandidates p) b

/-- Auto mode goes over the Projects. -/
lemma reaches_projects {ε : Type} (left : List ItemId) (b : Board) :
    Reaches (.projects left) b.state .returned
      ((left.forM Board.autoEnqueueProject : Method ε Unit).run b).2.state := by
  induction left generalizing b with
  | nil => exact reaches_head rfl rfl (reaches_refl _ _)
  | cons p left ih =>
    obtain ⟨b', hrun⟩ := run_autoEnqueueProject (ε := ε) p b
    rw [run_forM_cons hrun]
    have hfirst : Reaches (.candidates (b.state.autoCandidates p) left) b.state (.projects left)
        ((Board.autoEnqueueProject p : Method ε Unit).run b).2.state :=
      reaches_candidates _ left b
    rw [hrun] at hfirst
    exact reaches_head rfl rfl (reaches_trans hfirst (ih b'))

/-- Auto mode goes over one Project. -/
lemma reaches_project {ε : Type} {p : ItemId} {b b' : Board}
    (hrun : (Board.autoEnqueueProject p : Method ε Unit).run b = (.ok (), b')) :
    Reaches (.projects [p]) b.state .returned b'.state := by
  have hone := reaches_projects (ε := ε) [p] b
  rw [run_forM_cons hrun] at hone
  exact hone

/-- The target may tell other stories. -/
lemma reaches_telling {c c' : Call} {s s' : BoardState} (h : Reaches c s c' s')
    (stories : ExtTreeMap ItemId (List StoryLine)) : Reaches c s c' (telling s' stories) := h

/-- What follows on switching auto mode on. -/
lemma reaches_autoModeOn {ε : Type} (id : ItemId) (title : String) (b : Board) :
    ∃ b', (Board.autoModeOn id title : Method ε Unit).run b = (.ok (), b') ∧
      Reaches (.projects [id]) b.state .returned b'.state := by
  unfold Board.autoModeOn
  rw [Locked.run_bind_ok (Board.run_story _ _ _)]
  generalize htold : b.told id s!"{title}: auto mode on — claimable Backlog will start on its own." =
    b₁
  obtain ⟨b', hrun⟩ := run_autoEnqueueProject (ε := ε) id b₁
  refine ⟨b', hrun, ?_⟩
  have hstate : b.state = telling b₁.state b.state.stories := by
    rw [← htold]
    rfl
  rw [hstate]
  obtain ⟨stories, h⟩ := reaches_project hrun
  exact ⟨_, goes_telling h b.state.stories⟩

/-- What follows on switching auto mode off. -/
lemma reaches_autoModeOff {ε : Type} (id : ItemId) (title : String) (b : Board) :
    ∃ b', (Board.autoModeOff id title : Method ε Unit).run b = (.ok (), b') ∧
      Reaches (.collect id) b.state .returned b'.state := by
  obtain ⟨b₁, hrun⟩ := run_forM_ok (ε := ε)
    (fun k b => ⟨_, run_dropped (Board.clearDispatch k) b⟩) (b.state.queuedUnder id) b
  have hcleared : (Board.clearAwaitingUnderProject id : Method ε ℕ).run b =
      (.ok (b.state.queuedUnder id).length, b₁) := by
    unfold Board.clearAwaitingUnderProject
    rw [Locked.run_bind_ok (Board.run_read _ _), Locked.run_bind_ok hrun]
    rfl
  unfold Board.autoModeOff
  rw [Locked.run_bind_ok hcleared]
  refine ⟨_, Board.run_story _ _ _, ?_⟩
  have hclear := reaches_clear (ε := ε) id (b.state.queuedUnder id) b
  rw [hrun] at hclear
  have htold : ∀ text, Reaches (.clear id (b.state.queuedUnder id)) b.state .returned
      (b₁.told id text).state := fun text => reaches_telling hclear _
  exact reaches_head rfl rfl (htold _)

lemma state_getOr (id : ItemId) (e : String) (b : Board) :
    ((Board.getOr id e).run b).2.state = b.state := by
  cases hc : b.state.items[id]? with
  | none => rw [Board.run_getOr_none hc]
  | some c => rw [Board.run_getOr_some hc]

/-- Auto mode is switched on or off, and what follows from that is done. -/
lemma reaches_setAutoDispatch (id : ItemId) (enabled : Bool) (b : Board) :
    Reaches (.switch id enabled) b.state .returned
      ((Board.setAutoDispatch id enabled).run b).2.state := by
  have hread : ∀ {r : Except String (String × Bool × WorkItem)} {s : BoardState},
      Board.setAutoSection id enabled b.state = (r, s) →
        (Board.write fun _ s => Board.setAutoSection id enabled s).run b = (r, b.stepped s) := by
    intro r s hsection
    rw [Board.run_write, hsection]
  unfold Board.setAutoDispatch
  rcases Traffic.setAutoSection_cases id enabled b.state with
    ⟨e, hsection⟩ | ⟨project, title, item, -, hsection⟩
  · rw [Locked.run_bind_error (hread hsection)]
    have hadvance : (Call.switch id enabled).advance b.state = (.returned, b.state) := by
      unfold Call.advance
      dsimp only
      rw [hsection]
    exact reaches_head hadvance rfl (reaches_refl _ _)
  · rw [Locked.run_bind_ok (hread hsection)]
    generalize hs : b.state.editItem id (WorkItem.inAuto enabled) = s at hsection
    cases hchanged : project.autoDispatch != enabled with
    | false =>
      rw [hchanged] at hsection
      have hadvance : (Call.switch id enabled).advance b.state = (.returned, s) := by
        unfold Call.advance
        dsimp only
        rw [hsection]
      exact reaches_head hadvance rfl (reaches_refl _ _)
    | true =>
      rw [hchanged] at hsection
      have hadvance : (Call.switch id enabled).advance b.state =
          (if enabled then .projects [id] else .collect id, s) := by
        unfold Call.advance
        dsimp only
        rw [hsection]
      dsimp only
      rw [Bool.not_true, if_neg Bool.false_ne_true, Locked.run_bind_ok (Board.run_emit _ _)]
      cases enabled with
      | true =>
        obtain ⟨b', hrun, hreaches⟩ :=
          reaches_autoModeOn (ε := String) id title ((b.stepped s).emitted item)
        rw [if_pos rfl, Locked.run_bind_ok hrun, state_getOr]
        exact reaches_head hadvance rfl hreaches
      | false =>
        obtain ⟨b', hrun, hreaches⟩ :=
          reaches_autoModeOff (ε := String) id title ((b.stepped s).emitted item)
        rw [if_neg Bool.false_ne_true, Locked.run_bind_ok hrun, state_getOr]
        exact reaches_head hadvance rfl hreaches

/-- A call that is alone on the board ends with the board of its method, up to the stories. -/
theorem reaches_exec [UnicodeTables] {op : Operation} {c : Call} (hop : call op = some c)
    (b : Board) : Reaches c b.state .returned (b.exec op).state := by
  cases op with
  | autoEnqueueAll =>
    cases hop
    exact reaches_head rfl rfl (reaches_projects (ε := Empty) b.state.autoProjects b)
  | autoEnqueueProject p =>
    cases hop
    obtain ⟨b', hrun⟩ := run_autoEnqueueProject (ε := Empty) p b
    have hexec : (b.exec (.autoEnqueueProject p)).state = b'.state :=
      congrArg (fun r => r.2.state) hrun
    rw [hexec]
    exact reaches_project hrun
  | enqueueDispatch id =>
    cases hop
    rw [Board.exec_state (m := Board.enqueueDispatch id) rfl]
    obtain ⟨stories, hstate⟩ := state_enqueueDispatch id b
    by_cases hparked : b.state.items[id]?.any WorkItem.parked = true
    · rw [if_pos hparked] at hstate
      have hadvance : (Call.dispatch id).advance b.state = (.returned, b.state) := by
        unfold Call.advance
        dsimp only
        rw [if_pos hparked]
      exact reaches_head hadvance (by rw [hstate]; rfl) (reaches_refl _ _)
    · rw [if_neg hparked] at hstate
      have hadvance : (Call.dispatch id).advance b.state = (.dispatching id, b.state) := by
        unfold Call.advance
        dsimp only
        rw [if_neg hparked]
      exact reaches_head hadvance rfl (reaches_head rfl (by rw [hstate]; rfl) (reaches_refl _ _))
  | setAutoDispatch id enabled =>
    cases hop
    rw [Board.exec_state (m := Board.setAutoDispatch id enabled) rfl]
    exact reaches_setAutoDispatch id enabled b
  | _ => cases hop

end Alone

namespace Traffic

/-! ## A tick that comes late -/

/-- A new board. -/
def newBoard : Board := Board.new Schema.default (fun _ _ => 0) fun _ => true

/-- The call at place `i` takes `n` locks. -/
def goes (i n : ℕ) : List Event := List.replicate n (.goes i)

/-- A Project is switched on, which queues its first card. -/
def switchedOn : List Event :=
  [.operation (.create ⟨none, "Docs", "", none, .human, false, none⟩),
    .begins (.setAutoDispatch 1 true)] ++ goes 0 6

/-- A tick has collected a new card when the Project is paused, and queues it after that. -/
def lateTick : List Event :=
  switchedOn ++
    [.operation (.createTask 1 "Docs pages" "Docs" "Docs done" [] none true),
      .begins .autoEnqueueAll] ++ goes 1 2 ++ [.begins (.setAutoDispatch 1 false)] ++ goes 2 4 ++
    goes 1 2

/-- A pause has collected a card that is claimed then, and waits in Review for its mergeable check
when the pause takes it off the queue. -/
def lateClear : List Event :=
  switchedOn ++ [.begins (.setAutoDispatch 1 false)] ++ goes 1 2 ++
    [.operation (.claim 2 "agent" none 60), .operation (.report 2 "agent" 1 0 []),
      .operation (.setPrUrl 2 (some "https://github.com/acme/docs/pull/7")),
      .operation (.dispatchRebase 2)]

/-- What a glance at the card `id` shows. -/
structure Glance where
  parent : Option ItemId
  state : State
  awaiting : Bool
  rebase : Bool
  /-- Auto mode was the last to queue the card. -/
  auto : Bool
  deriving DecidableEq

/-- A glance at the Project, the call at place 1 and the card `id`. -/
def glance (w : Traffic) (id : ItemId) : (Bool × Bool) × Option Call × Option Glance :=
  ((w.paused 1, w.board.state.items[(1 : ItemId)]?.isSome), w.calls[1]?,
    w.board.state.items[id]?.map fun c => ⟨c.parent, c.state, c.awaitingDispatch, c.rebaseRequested,
      w.queuedAt id == some c.history.length⟩)

set_option maxRecDepth 100000 in
lemma glance_lateTick :
    let := asciiTables
    glance (Run.after step (start newBoard) lateTick) 3 =
      ((true, true), some (.candidates [] []), some ⟨some 1, .backlog, true, false, true⟩) := by
  decide +kernel

set_option maxRecDepth 100000 in
lemma glance_lateClear :
    let := asciiTables
    glance (Run.after step (start newBoard) lateClear) 2 =
      ((false, true), some (.clear 1 [2]), some ⟨some 1, .review, true, true, false⟩) := by
  decide +kernel

/-- A paused Project with a card that auto mode has queued. -/
lemma not_staysPaused_of_glance {w : Traffic} {id : ItemId} {c : Option Call} {rebase : Bool}
    (h : glance w id = ((true, true), c, some ⟨some 1, .backlog, true, rebase, true⟩)) :
    ¬w.StaysPaused := by
  obtain ⟨hproject, hrest⟩ := Prod.ext_iff.1 h
  obtain ⟨item, hitem, hglance⟩ := Option.map_eq_some_iff.1 (Prod.ext_iff.1 hrest).2
  obtain ⟨project, hproject⟩ := Option.isSome_iff_exists.1 (Prod.ext_iff.1 hproject).2
  obtain ⟨hparent, hstate, hawaiting, -, hmark⟩ := Glance.mk.inj hglance
  intro hstays
  refine hstays 1 project (Prod.ext_iff.1 (Prod.ext_iff.1 h).1).1 hproject id item
    ⟨hitem, hstate, hawaiting, eq_of_beq hmark⟩ hparent

/-- A pause that has a card in Review before it. -/
lemma not_sparesOthers_of_glance [UnicodeTables] {w : Traffic} {id : ItemId} {project : Bool × Bool}
    {parent : Option ItemId} {auto : Bool}
    (h : glance w id = (project, some (.clear 1 [id]), some ⟨parent, .review, true, true, auto⟩)) :
    ¬w.SparesOthers (.goes 1) := by
  obtain ⟨hcall, hcard⟩ := Prod.ext_iff.1 (Prod.ext_iff.1 h).2
  obtain ⟨item, hitem, hglance⟩ := Option.map_eq_some_iff.1 hcard
  obtain ⟨-, hstate, hawaiting, -, -⟩ := Glance.mk.inj hglance
  rw [sparesOthers_iff]
  intro hclears
  rcases hclears 1 id [] item hcall hitem with hbacklog | ⟨hidle, -⟩
  · exact absurd (hstate.symm.trans hbacklog) (by decide)
  · exact absurd (hawaiting.symm.trans hidle) (by decide)

/-- Auto mode queues a card of a Project that is paused; and a pause clears the requests of a card
in Review. -/
theorem not_stays_paused :
    let := asciiTables
    ¬(Run.after step (start newBoard) lateTick).StaysPaused ∧
      ¬Run.Meets step SparesOthers (start newBoard) (lateClear ++ [.goes 1]) := by
  intro tables
  have htick := glance_lateTick
  have hclear := glance_lateClear
  constructor
  · exact not_staysPaused_of_glance htick
  · exact Run.not_meets_of_last (not_sparesOthers_of_glance hclear)

/-- The Projects that the step is about are in auto mode. -/
def seesOn (w : Traffic) : Event → Bool
  | .goes i =>
    match w.calls[i]? with
    | some (.queueing k _ _) => w.board.state.items[k]?.any fun c =>
        c.parent.any fun p => w.board.state.items[p]?.any WorkItem.autoDispatch
    | some (.switch p false) => w.board.state.items[p]?.any WorkItem.autoDispatch
    | _ => true
  | _ => true

lemma findsOn_of_seesOn {w : Traffic} {e : Event} (h : w.seesOn e = true) : w.FindsOn e where
  queueing i k left ps c p he hcall hc _ _ hparent := by
    subst he
    unfold seesOn at h
    dsimp only at h
    rw [hcall] at h
    dsimp only at h
    rw [hc, Option.any_some, hparent, Option.any_some, Option.any_eq_true] at h
    exact .inl h
  off i p project he hcall hproject hoff := by
    subst he
    unfold seesOn at h
    dsimp only at h
    rw [hcall] at h
    dsimp only at h
    rw [hproject, Option.any_some, hoff] at h
    cases h

/-- Every step of the run sees its Projects in auto mode. -/
def allSeeOn [UnicodeTables] (w : Traffic) : List Event → Bool
  | [] => true
  | e :: events => w.seesOn e && (w.step e).allSeeOn events

lemma meets_of_allSeeOn [UnicodeTables] {w : Traffic} {events : List Event}
    (h : w.allSeeOn events = true) : Run.Meets step FindsOn w events := by
  induction events generalizing w with
  | nil => trivial
  | cons e events ih =>
    obtain ⟨hfirst, hrest⟩ := Bool.and_eq_true_iff.1 h
    exact ⟨findsOn_of_seesOn hfirst, ih hrest⟩

set_option maxRecDepth 100000 in
/-- A pause that returns before the next tick. -/
theorem stays_paused_switchedOff :
    let := asciiTables
    let events := switchedOn ++ [.begins (.setAutoDispatch 1 false)] ++ goes 1 4
    (Run.after step (start newBoard) events).paused 1 = true ∧
      (Run.after step (start newBoard) events).StaysPaused := by
  intro tables events
  have hsees : (start newBoard).allSeeOn events = true := by decide +kernel
  exact ⟨by decide +kernel, (stays_paused _ _ _ events).2 (meets_of_allSeeOn hsees)⟩

end Traffic

end Auto

end Sandboard

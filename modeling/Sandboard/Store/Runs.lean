import Sandboard.Store.Operation

/-!
# Running the methods

What the shared building blocks of the methods do to a board that nobody else uses: one
equation for each, so that a method runs by rewriting.  `emit` and `story` surround the cards
with events and stories and leave the cards alone.
-/

namespace Sandboard

open Std

namespace Board

variable {ε α : Type}

/-- The clock readings of the next section. -/
def now (b : Board) : ℕ → Time := b.clock b.ticks

/-- The board after a section under the write lock that left the state `s`. -/
def stepped (b : Board) (s : BoardState) : Board :=
  { b with state := s, ticks := b.ticks + 1 }

/-- The board after a card was pushed to every connected board. -/
def emitted (b : Board) (item : WorkItem) : Board :=
  let event := .upsert (b.seq + 1) (b.state.populateBlockers item)
  { b with
    seq := b.seq + 1
    eventBuffer := pushBounded b.bufferCapacity b.eventBuffer event
    tx := b.tx ++ [event]
    dirty := true }

/-- The board after a line was appended to a story. -/
def told (b : Board) (near : ItemId) (text : String) : Board :=
  let goal := b.state.goalOf near
  let line : StoryLine := ⟨b.now 0, text⟩
  let event := .story (b.seq + 1) goal line.atTime line.text
  { b with
    state := { b.state with
      stories := b.state.stories.insert goal
        (appendStory ((b.state.stories[goal]?).getD []) line) }
    ticks := b.ticks + 1
    seq := b.seq + 1
    eventBuffer := pushBounded b.bufferCapacity b.eventBuffer event
    tx := b.tx ++ [event]
    dirty := true }

@[simp] lemma stepped_state (b : Board) (s : BoardState) : (b.stepped s).state = s := rfl

@[simp] lemma emitted_state (b : Board) (item : WorkItem) : (b.emitted item).state = b.state := rfl

@[simp] lemma told_items (b : Board) (near : ItemId) (text : String) :
    (b.told near text).state.items = b.state.items := rfl

lemma told_item {b : Board} {id : ItemId} {c : WorkItem} (hc : b.state.items[id]? = some c)
    (near : ItemId) (text : String) : (b.told near text).state.items[id]? = some c := hc

/-! ## Building blocks -/

@[simp] lemma run_ret (r : Except ε α) (b : Board) : (Locked.ret r : Method ε α).run b = (r, b) :=
  rfl

@[simp] lemma run_read (f : BoardState → α) (b : Board) :
    (read f : Method ε α).run b = (.ok (f b.state), b) := rfl

@[simp] lemma run_utcNow (b : Board) :
    (utcNow : Method ε Time).run b = (.ok (b.now 0), b.stepped b.state) := rfl

@[simp] lemma run_write (f : (ℕ → Time) → BoardState → Except ε α × BoardState) (b : Board) :
    (write f).run b = ((f b.now b.state).1, b.stepped (f b.now b.state).2) := rfl

@[simp] lemma run_readSchema (b : Board) :
    (readSchema : Method ε Schema).run b = (.ok b.schema, b) := rfl

@[simp] lemma run_nextSeq (b : Board) :
    (nextSeq : Method ε ℕ).run b = (.ok (b.seq + 1), { b with seq := b.seq + 1 }) := rfl

/-- Sending an event leaves the cards alone. -/
lemma run_recordAndSend (event : BoardEvent) (b : Board) :
    ∃ b', (recordAndSend event : Method ε Unit).run b = (.ok (), b') ∧ b'.state = b.state :=
  ⟨_, rfl, rfl⟩

@[simp] lemma run_emit (item : WorkItem) (b : Board) :
    (emit item : Method ε Unit).run b = (.ok (), b.emitted item) := rfl

@[simp] lemma run_story (near : ItemId) (text : String) (b : Board) :
    (story near text : Method ε Unit).run b = (.ok (), b.told near text) := rfl

@[simp] lemma run_get (id : ItemId) (b : Board) :
    (get id : Method ε _).run b = (.ok (b.state.items[id]?.map b.state.populateBlockers), b) :=
  rfl

@[simp] lemma run_childrenOf (id : ItemId) (b : Board) :
    (childrenOf id : Method ε _).run b = (.ok (b.state.childrenOfIndexed id), b) := rfl

lemma run_getOr_none {id : ItemId} {b : Board} (h : b.state.items[id]? = none) (e : ε) :
    (getOr id e).run b = (.error e, b) := by
  simp [getOr, h]

lemma run_getOr_some {id : ItemId} {b : Board} {c : WorkItem}
    (h : b.state.items[id]? = some c) (e : ε) :
    (getOr id e).run b = (.ok (b.state.populateBlockers c), b) := by
  simp [getOr, h]

lemma run_readOr_none {id : ItemId} {b : Board} (h : b.state.items[id]? = none) (e : ε) :
    (readOr id e).run b = (.error e, b) := by
  simp [readOr, h]

lemma run_readOr_some {id : ItemId} {b : Board} {c : WorkItem}
    (h : b.state.items[id]? = some c) (e : ε) : (readOr id e).run b = (.ok c, b) := by
  simp [readOr, h]

@[simp] lemma run_editQuietly (id : ItemId) (f : Time → WorkItem → WorkItem) (b : Board) :
    (editQuietly id f : Method ε Unit).run b =
      (.ok (), b.stepped (b.state.editItem id (f (b.now 0)))) := rfl

lemma tryEdit_none {s : BoardState} {id : ItemId} (h : s.items[id]? = none) (e : ε)
    (f : WorkItem → WorkItem) : s.tryEdit id e f = (.error e, s) := by
  simp [BoardState.tryEdit, h]

lemma tryEdit_some {s : BoardState} {id : ItemId} {c : WorkItem} (h : s.items[id]? = some c)
    (e : ε) (f : WorkItem → WorkItem) : s.tryEdit id e f = (.ok (f c), s.editItem id f) := by
  simp [BoardState.tryEdit, h]

lemma run_editOr_none {id : ItemId} {b : Board} (h : b.state.items[id]? = none) (e : ε)
    (f : Time → WorkItem → WorkItem) : (editOr id e f).run b = (.error e, b.stepped b.state) := by
  simp [editOr, tryEdit_none h]

lemma run_editOr_some {id : ItemId} {b : Board} {c : WorkItem} (h : b.state.items[id]? = some c)
    (e : ε) (f : Time → WorkItem → WorkItem) :
    (editOr id e f).run b =
      (.ok (f (b.now 0) c), (b.stepped (b.state.editItem id (f (b.now 0)))).emitted
        (f (b.now 0) c)) := by
  simp [editOr, tryEdit_some h]

/-! ## Transitions -/

variable {id : ItemId} {target : State} {byWhom : String} {reason : Option String} {b : Board}

/-- A refused transition changes nothing. -/
lemma run_transitionOn_error {e : TransitionError}
    (h : b.state.transitionLocked (b.now 0) id target byWhom reason = .error e) :
    (transitionOn id target byWhom reason).run b = (.error e, b.stepped b.state) := by
  simp [transitionOn, transitionWith, BoardState.tryMove, h]

/-- A transition to a target other than Done is one checked move. -/
lemma run_transitionOn_ok {item : WorkItem} {s : BoardState} (htarget : target ≠ .done)
    (h : b.state.transitionLocked (b.now 0) id target byWhom reason = .ok (item, s)) :
    (transitionOn id target byWhom reason).run b = (.ok item, (b.stepped s).emitted item) := by
  obtain ⟨c, hc, hcheck, rfl, rfl⟩ := BoardState.transitionLocked_eq_ok_iff.1 h
  simp [transitionOn, transitionWith, BoardState.tryMove, h, Locked.run_when, htarget,
    BoardState.items_moveItem, hc]

section Unicode

variable [UnicodeTables]

/-- Only Done runs the hook. -/
lemma transition_eq_transitionOn (htarget : target ≠ .done) :
    transition id target byWhom reason = transitionOn id target byWhom reason := by
  simp [transition, transitionOn, transitionWith, Locked.when, htarget]

lemma run_transition_error {e : TransitionError}
    (h : b.state.transitionLocked (b.now 0) id target byWhom reason = .error e) :
    (transition id target byWhom reason).run b = (.error e, b.stepped b.state) := by
  simp [transition, transitionWith, BoardState.tryMove, h]

lemma run_transition_ok {item : WorkItem} {s : BoardState} (htarget : target ≠ .done)
    (h : b.state.transitionLocked (b.now 0) id target byWhom reason = .ok (item, s)) :
    (transition id target byWhom reason).run b = (.ok item, (b.stepped s).emitted item) := by
  rw [transition_eq_transitionOn htarget]
  exact run_transitionOn_ok htarget h

/-! ## Operations -/

/-- A dropped outcome leaves the board of the call. -/
lemma exec_eq {op : Operation} {m : Method ε α}
    (h : op.method = Operation.silent m) (b : Board) : b.exec op = (m.run b).2 := by
  rw [exec, h, Operation.silent, Locked.run_bind_ok (Locked.run_attempt m b)]
  rfl

lemma exec_state {op : Operation} {m : Method ε α}
    (h : op.method = Operation.silent m) (b : Board) :
    (b.exec op).state = (m.run b).2.state := by
  rw [exec_eq h]

end Unicode

end Board

end Sandboard

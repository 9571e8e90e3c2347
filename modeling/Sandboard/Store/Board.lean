import Sandboard.Library.Locked
import Sandboard.Store.BoardState

/-!
# The board

The board state with what surrounds it: the clock, the event log, the dirty flag and the
durable rows.  A board method is a sequence of critical sections on it (`Method`); `read` and
`write` are the sections under the board lock, and the sections of `emit` and `story` are the
ones on the atomics and on the event buffer.
-/

namespace Sandboard

/-- Deltas pushed to every connected board. -/
inductive BoardEvent where
  /-- A card was created or changed. -/
  | upsert (seq : ℕ) (item : WorkItem)
  /-- A line appended to a goal's running story. -/
  | story (seq : ℕ) (goal : ItemId) (atTime : Time) (text : String)
  /-- A card was deleted. -/
  | delete (seq : ℕ) (id : ItemId)
  /-- The default branch advanced. -/
  | mainAdvanced (seq : ℕ) (refName : String) (commitSha : Option String)

/-- A board: the state behind the lock, and what surrounds it. -/
structure Board where
  state : BoardState
  /-- What `Utc::now` returns: `clock n k` is the `k`-th reading of the `n`-th section. -/
  clock : ℕ → ℕ → Time
  /-- Sections that have read the clock so far. -/
  ticks : ℕ
  seq : ℕ
  eventBuffer : List BoardEvent
  bufferCapacity : ℕ
  /-- Everything sent on the broadcast channel, oldest first. -/
  tx : List BoardEvent
  dirty : Bool
  schema : Schema
  /-- The board as the database holds it. -/
  rows : BoardState
  /-- Whether the `n`-th save to the database succeeds. -/
  saveSucceeds : ℕ → Bool
  /-- Saves attempted so far. -/
  saves : ℕ

/-- A board method that returns an `α` or fails with an `ε`. -/
abbrev Method (ε α : Type) : Type := Locked Board ε α

namespace Board

variable {ε α : Type}

/-- `Board::new`: an empty board, over any clock and any database behaviour. -/
def new (schema : Schema) (clock : ℕ → ℕ → Time) (saveSucceeds : ℕ → Bool) : Board where
  state := .empty
  clock := clock
  ticks := 0
  seq := 0
  eventBuffer := []
  bufferCapacity := 1000
  tx := []
  dirty := false
  schema := schema
  rows := .empty
  saveSucceeds := saveSucceeds
  saves := 0

/-! ## Sections -/

/-- Read the clock outside the lock. -/
def utcNow : Method ε Time :=
  Locked.atomic fun b => (.ok (b.clock b.ticks 0), { b with ticks := b.ticks + 1 })

/-- A section under the read lock. -/
def read (f : BoardState → α) : Method ε α :=
  Locked.atomic fun b => (.ok (f b.state), b)

/-- A section under the write lock; `f` gets the clock readings it may take there. -/
def write (f : (ℕ → Time) → BoardState → Except ε α × BoardState) : Method ε α :=
  Locked.atomic fun b =>
    let (r, s) := f (b.clock b.ticks) b.state
    (r, { b with state := s, ticks := b.ticks + 1 })

/-- The schema, which never changes. -/
def readSchema : Method ε Schema :=
  Locked.atomic fun b => (.ok b.schema, b)

/-- Draw the next sequence number. -/
def nextSeq : Method ε ℕ :=
  Locked.atomic fun b => (.ok (b.seq + 1), { b with seq := b.seq + 1 })

/-- Append an event to the bounded buffer. -/
def pushBounded (capacity : ℕ) (buffer : List BoardEvent) (event : BoardEvent) :
    List BoardEvent :=
  (if buffer.length ≥ capacity then buffer.tail else buffer) ++ [event]

/-- Record an event in the buffer, then send it. -/
def recordAndSend (event : BoardEvent) : Method ε Unit := do
  Locked.atomic fun b =>
    (.ok (), { b with eventBuffer := pushBounded b.bufferCapacity b.eventBuffer event })
  Locked.atomic fun b => (.ok (), { b with tx := b.tx ++ [event] })

/-- `dirty.store(true)`. -/
def markDirty : Method ε Unit :=
  Locked.atomic fun b => (.ok (), { b with dirty := true })

/-- Push a card to every connected board. -/
def emit (item : WorkItem) : Method ε Unit := do
  let item ← read fun s => s.populateBlockers item
  let seq ← nextSeq
  recordAndSend (.upsert seq item)
  markDirty

/-- Flush the state to the database if anything changed; a failed save leaves it dirty. -/
def flush : Method ε Unit := do
  let wasDirty ← Locked.atomic fun b => (.ok b.dirty, { b with dirty := false })
  Locked.when wasDirty do
    let snapshot ← read fun s => { s with childrenByParent := ∅, idsByState := ∅ }
    let saved ← Locked.atomic fun b =>
      let ok := b.saveSucceeds b.saves
      (.ok ok, { b with rows := if ok then snapshot else b.rows, saves := b.saves + 1 })
    Locked.when (!saved) markDirty

/-- Append a line to a story, keeping its last 200. -/
def appendStory (entries : List StoryLine) (line : StoryLine) : List StoryLine :=
  let entries := entries ++ [line]
  entries.drop (entries.length - 200)

/-- Append a line to the story of the Project of the card `near`. -/
def story (near : ItemId) (text : String) : Method ε Unit := do
  let (goal, line) ← write fun now s =>
    let goal := s.goalOf near
    let line : StoryLine := ⟨now 0, text⟩
    (.ok (goal, line),
      { s with stories := s.stories.insert goal (appendStory ((s.stories[goal]?).getD []) line) })
  markDirty
  let seq ← nextSeq
  recordAndSend (.story seq goal line.atTime line.text)

/-- Read a card, with the summaries of its blockers. -/
def get (id : ItemId) : Method ε (Option WorkItem) :=
  read fun s => (s.items[id]?).map s.populateBlockers

/-- Read a card, or fail. -/
def getOr (id : ItemId) (e : ε) : Method ε WorkItem := do
  match ← get id with
  | some item => pure item
  | none => Locked.fail e

/-- The children of a card. -/
def childrenOf (id : ItemId) : Method ε (List ItemId) :=
  read fun s => s.childrenOfIndexed id

end Board

namespace BoardState

variable {ε : Type}

/-- Change the card `id` in place and return a copy, or fail when it is not on the board. -/
def tryEdit (s : BoardState) (id : ItemId) (e : ε) (f : WorkItem → WorkItem) :
    Except ε WorkItem × BoardState :=
  match s.items[id]? with
  | none => (.error e, s)
  | some it => (.ok (f it), s.editItem id f)

/-- A transition as the whole of a section. -/
def tryMove (s : BoardState) (now : Time) (id : ItemId) (target : State) (byWhom : String)
    (reason : Option String) : Except TransitionError WorkItem × BoardState :=
  match s.transitionLocked now id target byWhom reason with
  | .error e => (.error e, s)
  | .ok (item, s') => (.ok item, s')

lemma tryMove_missing {s : BoardState} {id : ItemId} (hc : s.items[id]? = none) (now : Time)
    (target : State) (byWhom : String) (reason : Option String) :
    s.tryMove now id target byWhom reason = (.error (.noSuchItem id), s) := by
  simp [tryMove, transitionLocked_of_none hc]

/-- A move that the check refuses changes nothing. -/
lemma tryMove_refused {s : BoardState} {id : ItemId} {c : WorkItem} {target : State}
    (hc : s.items[id]? = some c) (hcheck : s.checkMove id c target ≠ .ok ()) (now : Time)
    (byWhom : String) (reason : Option String) :
    ∃ e, s.tryMove now id target byWhom reason = (.error e, s) := by
  cases hmove : s.checkMove id c target with
  | ok u => exact absurd hmove hcheck
  | error e => exact ⟨e, by simp [tryMove, transitionLocked_of_error hc hmove]⟩

/-- A move that the check allows is made. -/
lemma tryMove_allowed {s : BoardState} {id : ItemId} {c : WorkItem} {target : State}
    (hc : s.items[id]? = some c) (hcheck : s.checkMove id c target = .ok ()) (now : Time)
    (byWhom : String) (reason : Option String) :
    s.tryMove now id target byWhom reason =
      (.ok ((s.moveItem id c now target byWhom reason).populateBlockers
        (c.moved now target byWhom reason)), s.moveItem id c now target byWhom reason) := by
  simp [tryMove, transitionLocked_of_ok hc hcheck]

end BoardState

end Sandboard

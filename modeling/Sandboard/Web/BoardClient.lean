import Sandboard.Store.Feed

/-!
# The client's copy of the board

The client keeps a copy of the cards: it loads a snapshot and applies the events of its connection
to it.  Snapshots are loaded again and again beside the events, and each one may arrive late.  A
snapshot that an event has overtaken by a little is dropped, so the copy is exactly the board of
the last number seen, and does not go back, as long as no snapshot is later than that.
-/

namespace Sandboard

open Std

/-! ## The reducer -/

/-- What a snapshot of the board tells. -/
structure ClientSnapshot where
  items : List WorkItem
  /-- The story of each Project. -/
  stories : List (ItemId × List StoryLine)
  seq : ℕ

/-- The client's copy. -/
structure ClientState where
  items : ExtTreeMap ItemId WorkItem
  stories : ExtTreeMap ItemId (List StoryLine)
  loaded : Bool
  connected : Bool
  lastSeenSeq : ℕ

namespace ClientState

/-- A snapshot that is behind by more than this is no race. -/
def staleSnapshotRaceMaxGap : ℕ := 32

def initial : ClientState := ⟨∅, ∅, false, false, 0⟩

/-- What the client is told. -/
inductive Action where
  | snapshot (snap : ClientSnapshot)
  | event (message : Delivery)
  | connected (ok : Bool)

/-- A snapshot that live events have just overtaken. -/
def overtakes (c : ClientState) (seq : ℕ) : Bool :=
  decide (c.lastSeenSeq > 0) && decide (seq < c.lastSeenSeq) && c.connected &&
    decide (c.lastSeenSeq - seq ≤ staleSnapshotRaceMaxGap)

/-- The stories after an event. -/
def storiesAfter (c : ClientState) : BoardEvent → ExtTreeMap ItemId (List StoryLine)
  | .story _ goal atTime text =>
    c.stories.insert goal (((c.stories[goal]?).getD []) ++ [⟨atTime, text⟩])
  | _ => c.stories

/-- `reduce`. -/
def reduce (c : ClientState) : Action → ClientState
  | .snapshot snap =>
    if c.overtakes snap.seq then c
    else
      { c with
        items := ExtTreeMap.ofList (snap.items.map fun i => (i.id, i)) compare
        stories := ExtTreeMap.ofList snap.stories compare
        loaded := true
        lastSeenSeq := snap.seq }
  | .event (.reload n) => { c with lastSeenSeq := n }
  | .event (.entry e) =>
    if c.lastSeenSeq > 0 && decide (e.seq ≤ c.lastSeenSeq) then c
    else
      { c with
        items := e.applyTo c.items
        stories := c.storiesAfter e
        lastSeenSeq := max c.lastSeenSeq e.seq }
  | .connected ok => { c with connected := ok }

/-- Whether the client loads a snapshot because an event is missing. -/
def isSequenceGap (lastSeenSeq incomingSeq : ℕ) : Bool :=
  decide (lastSeenSeq > 0) && decide (incomingSeq > lastSeenSeq + 1)

end ClientState

/-! ## A client beside the server -/

/-- The cards of a board as a snapshot lists them. -/
def snapshotOf (items : ExtTreeMap ItemId WorkItem) (stories : List (ItemId × List StoryLine))
    (seq : ℕ) : ClientSnapshot :=
  ⟨items.toList.map Prod.snd, stories, seq⟩

/-- A client, how much of the record the server has published, and how much of it the connection
has delivered. -/
structure Viewer where
  client : ClientState
  published : ℕ
  position : ℕ
  /-- The loads that the client asked for because of a message. -/
  loads : ℕ

namespace Viewer

/-- What happens next. -/
inductive Turn where
  /-- The server publishes the next event. -/
  | publishes
  /-- A connection opens, and catches up from the last number seen. -/
  | opens
  | closes
  /-- The next event is delivered. -/
  | delivers
  /-- The client is told to reload up to `n`, and the connection goes on at `k`. -/
  | reloads (n k : ℕ)
  /-- A snapshot of the board at number `k` is loaded, with these stories. -/
  | answers (k : ℕ) (stories : List (ItemId × List StoryLine))

/-- A message is delivered. -/
def receive (v : Viewer) (message : Delivery) : Viewer :=
  let gap := match message with
    | .entry e => ClientState.isSequenceGap v.client.lastSeenSeq e.seq
    | .reload _ => true
  { v with
    client := v.client.reduce (.event message)
    loads := if gap then v.loads + 1 else v.loads }

/-- One turn, given the cards before the record, and the record. -/
def step (base : ExtTreeMap ItemId WorkItem) (record : List BoardEvent) (v : Viewer) :
    Turn → Viewer
  | .publishes => { v with published := min (v.published + 1) record.length }
  | .opens =>
    { v with
      client := v.client.reduce (.connected true)
      -- without a number there is nothing to catch up with
      position := if v.client.lastSeenSeq = 0 then v.published else v.client.lastSeenSeq }
  | .closes => { v with client := v.client.reduce (.connected false) }
  | .delivers =>
    if v.client.connected ∧ v.position < v.published then
      match record[v.position]? with
      | some e => { v.receive (.entry e) with position := v.position + 1 }
      | none => v
    else v
  | .reloads n k => if v.client.connected then { v.receive (.reload n) with position := k } else v
  | .answers k stories =>
    let snap := snapshotOf (replay base (record.take k)) stories k
    if k ≤ v.published then { v with client := v.client.reduce (.snapshot snap) } else v

/-- A turn that disturbs no client: it is not told to reload, it does not open its first
connection when it has missed something, and no snapshot is late by more than a race. -/
def Smooth (v : Viewer) : Turn → Prop
  | .opens => v.client.lastSeenSeq = 0 → v.published = 0
  | .reloads .. => False
  | .answers k _ => v.client.connected = true →
    v.client.lastSeenSeq ≤ k + ClientState.staleSnapshotRaceMaxGap
  | _ => True

/-- The client has exactly the board of the last number that it has seen, and the connection is
not ahead of it. -/
structure Settled (base : ExtTreeMap ItemId WorkItem) (record : List BoardEvent) (v : Viewer) :
    Prop where
  items : v.client.items = replay base (record.take v.client.lastSeenSeq)
  seen : v.client.lastSeenSeq ≤ v.published
  published : v.published ≤ record.length
  position : v.client.connected = true → v.position ≤ v.client.lastSeenSeq

section Steps

variable {base : ExtTreeMap ItemId WorkItem} {record : List BoardEvent} {v : Viewer}

/-- The cards of a snapshot, filed again under their ids. -/
lemma ofList_snapshotOf {items : ExtTreeMap ItemId WorkItem} (h : Keyed items)
    (stories : List (ItemId × List StoryLine)) (seq : ℕ) :
    ExtTreeMap.ofList ((snapshotOf items stories seq).items.map fun i => (i.id, i)) compare =
      items := by
  have hentries : (snapshotOf items stories seq).items.map (fun i => (i.id, i)) =
      items.toList := by
    rw [snapshotOf, List.map_map]
    refine (List.map_congr_left fun e he => ?_).trans (List.map_id _)
    exact Prod.ext (h e.1 e.2 (ExtTreeMap.mem_toList_iff_getElem?_eq_some.1 he)) rfl
  rw [hentries]
  refine ExtTreeMap.ext_getElem? fun k => ?_
  cases hk : items[k]? with
  | some i =>
    exact ExtTreeMap.getElem?_ofList_of_mem (compare_self (a := k))
      ExtTreeMap.distinct_keys_toList (ExtTreeMap.mem_toList_iff_getElem?_eq_some.2 hk)
  | none =>
    refine ExtTreeMap.getElem?_ofList_of_contains_eq_false ?_
    rw [ExtTreeMap.map_fst_toList_eq_keys, List.contains_eq_mem, decide_eq_false_iff_not,
      ExtTreeMap.mem_keys, ExtTreeMap.mem_iff_isSome_getElem?, hk]
    exact Bool.false_ne_true

/-- A snapshot that is not dropped settles the client. -/
lemma Settled.of_answer (hkeyed : Keyed base) {k : ℕ} (stories : List (ItemId × List StoryLine))
    (hk : k ≤ v.published) (hpublished : v.published ≤ record.length)
    (hkept : v.client.overtakes k = false)
    (hposition : v.client.connected = true → v.position ≤ k) :
    Settled base record (v.step base record (.answers k stories)) ∧
      (v.step base record (.answers k stories)).client.lastSeenSeq = k := by
  have hclient : (v.step base record (.answers k stories)).client =
      { v.client with
        items := replay base (record.take k)
        stories := ExtTreeMap.ofList stories compare
        loaded := true
        lastSeenSeq := k } := by
    rw [step, if_pos hk]
    dsimp only [ClientState.reduce]
    rw [if_neg (by rw [snapshotOf, hkept]; exact Bool.false_ne_true),
      ofList_snapshotOf (hkeyed.replay _)]
    rfl
  have hrest : (v.step base record (.answers k stories)).published = v.published ∧
      (v.step base record (.answers k stories)).position = v.position := by
    rw [step, if_pos hk]
    exact ⟨rfl, rfl⟩
  refine ⟨⟨?_, ?_, ?_, ?_⟩, ?_⟩
  · rw [hclient]
  · rw [hclient, hrest.1]
    exact hk
  · rw [hrest.1]
    exact hpublished
  · rw [hclient, hrest.2]
    exact hposition
  · rw [hclient]

/-- A snapshot of a smooth turn is dropped, or it is as new as what the client has seen, or the
client has no connection. -/
lemma Settled.answers (h : Settled base record v) (hkeyed : Keyed base) {k : ℕ}
    (stories : List (ItemId × List StoryLine)) (hsmooth : v.Smooth (.answers k stories)) :
    Settled base record (v.step base record (.answers k stories)) ∧
      (v.client.connected = true →
        v.client.lastSeenSeq ≤ (v.step base record (.answers k stories)).client.lastSeenSeq) := by
  by_cases hk : k ≤ v.published
  · cases hover : v.client.overtakes k with
    | true =>
      have hsame : v.step base record (.answers k stories) = v := by
        rw [step, if_pos hk]
        dsimp only [ClientState.reduce]
        rw [if_pos (by rw [snapshotOf, hover])]
      rw [hsame]
      exact ⟨h, fun _ => Nat.le_refl _⟩
    | false =>
      have hnew : v.client.connected = true → v.client.lastSeenSeq ≤ k := by
        intro hconnected
        have hlate := hsmooth hconnected
        unfold ClientState.overtakes at hover
        rw [hconnected] at hover
        simp only [Bool.and_true, Bool.and_eq_false_iff, decide_eq_false_iff_not] at hover
        omega
      obtain ⟨hsettled, hseen⟩ := Settled.of_answer hkeyed stories hk h.published hover
        fun hconnected => (h.position hconnected).trans (hnew hconnected)
      rw [hseen]
      exact ⟨hsettled, hnew⟩
  · have hsame : v.step base record (.answers k stories) = v := by
      rw [step, if_neg hk]
    rw [hsame]
    exact ⟨h, fun _ => Nat.le_refl _⟩

/-- The next event is new to the client by one, or not at all. -/
lemma Settled.delivers (h : Settled base record v) (hnumbered : Numbered BoardEvent.seq record) :
    Settled base record (v.step base record .delivers) ∧
      v.client.lastSeenSeq ≤ (v.step base record .delivers).client.lastSeenSeq ∧
        (v.step base record .delivers).loads = v.loads := by
  unfold step
  dsimp only
  split
  · rename_i hnext
    split
    · rename_i e he
      have hseq := hnumbered.num_eq he
      have hposition := h.position hnext.1
      have hgap : ClientState.isSequenceGap v.client.lastSeenSeq e.seq = false := by
        unfold ClientState.isSequenceGap
        rw [Bool.and_eq_false_iff, decide_eq_false_iff_not, decide_eq_false_iff_not]
        omega
      unfold receive
      dsimp only [ClientState.reduce]
      rw [hgap]
      split
      · rename_i hold
        rw [Bool.and_eq_true, decide_eq_true_eq, decide_eq_true_eq] at hold
        refine ⟨⟨h.items, h.seen, h.published, fun _ => ?_⟩, Nat.le_refl _, rfl⟩
        change v.position + 1 ≤ v.client.lastSeenSeq
        omega
      · rename_i hnew
        rw [Bool.and_eq_true, decide_eq_true_eq, decide_eq_true_eq] at hnew
        have hat : v.position = v.client.lastSeenSeq := by omega
        have hlast : max v.client.lastSeenSeq e.seq = v.client.lastSeenSeq + 1 := by omega
        rw [hat] at he
        refine ⟨⟨?_, ?_, h.published, fun _ => ?_⟩, Nat.le_max_left _ _, rfl⟩
        · change e.applyTo v.client.items =
            replay base (record.take (max v.client.lastSeenSeq e.seq))
          rw [hlast, replay_take_succ he, h.items]
        · change max v.client.lastSeenSeq e.seq ≤ v.published
          omega
        · change v.position + 1 ≤ max v.client.lastSeenSeq e.seq
          omega
    · exact ⟨h, Nat.le_refl _, rfl⟩
  · exact ⟨h, Nat.le_refl _, rfl⟩

/-- A settled client stays settled, asks for no load, and goes back only without a connection. -/
lemma Settled.step (h : Settled base record v) (hkeyed : Keyed base)
    (hnumbered : Numbered BoardEvent.seq record) {turn : Turn} (hsmooth : v.Smooth turn) :
    Settled base record (v.step base record turn) ∧
      (v.step base record turn).loads = v.loads ∧
        (v.client.connected = true →
          v.client.lastSeenSeq ≤ (v.step base record turn).client.lastSeenSeq) := by
  cases turn with
  | publishes =>
    refine ⟨⟨h.items, ?_, Nat.min_le_right _ _, h.position⟩, rfl, fun _ => Nat.le_refl _⟩
    have := h.seen
    have := h.published
    change v.client.lastSeenSeq ≤ min (v.published + 1) record.length
    omega
  | opens =>
    refine ⟨⟨h.items, h.seen, h.published, fun _ => ?_⟩, rfl, fun _ => Nat.le_refl _⟩
    change (if v.client.lastSeenSeq = 0 then v.published else v.client.lastSeenSeq) ≤
      v.client.lastSeenSeq
    split
    · rename_i hzero
      rw [hsmooth hzero]
      exact Nat.zero_le _
    · exact Nat.le_refl _
  | closes => exact ⟨⟨h.items, h.seen, h.published, nofun⟩, rfl, fun _ => Nat.le_refl _⟩
  | delivers =>
    obtain ⟨hsettled, hseen, hloads⟩ := h.delivers hnumbered
    exact ⟨hsettled, hloads, fun _ => hseen⟩
  | reloads n k => exact hsmooth.elim
  | answers k stories =>
    obtain ⟨hsettled, hseen⟩ := h.answers hkeyed stories hsmooth
    refine ⟨hsettled, ?_, hseen⟩
    rw [Viewer.step]
    split <;> rfl

/-- By induction over the turns of a settled client. -/
lemma Settled.run (h : Settled base record v) (hkeyed : Keyed base)
    (hnumbered : Numbered BoardEvent.seq record) {turns : List Turn}
    (hsmooth : Run.Meets (Viewer.step base record) Smooth v turns) :
    Settled base record (Run.after (Viewer.step base record) v turns) ∧
      (Run.after (Viewer.step base record) v turns).loads = v.loads := by
  induction turns generalizing v with
  | nil => exact ⟨h, rfl⟩
  | cons turn turns ih =>
    obtain ⟨hsettled, hloads, -⟩ := h.step hkeyed hnumbered hsmooth.1
    obtain ⟨hlast, hnone⟩ := ih hsettled hsmooth.2
    exact ⟨hlast, hnone.trans hloads⟩

end Steps

end Viewer

end Sandboard

import Sandboard.Library.Replay
import Sandboard.Store.Crowd
import Sandboard.Ws.Connection

/-!
# The event feed

Events are numbered, kept in a bounded buffer and sent on a channel.  A client connects, is sent
what it missed since the last number that it saw, and then follows the channel; each of these
steps falls between two sections of whoever writes.  With one writer at a time a client misses
nothing: what it gets is one stretch of the record, or it is told to reload, and then nothing
after the number that it is given is left out.  With any number of writers at once the events may
change places, but no number is given twice, and none is lost.
-/

namespace Sandboard

open Std (ExtTreeMap)

/-! ## Catching up -/

namespace Board

/-- The answer of `catchUp` when there is something to catch up with: the number is read first,
and the buffer afterwards. -/
def catchUpFrom (current last : ℕ) (buffer : List BoardEvent) : CatchUpResult :=
  match buffer.head? with
  | none => .reset current
  | some oldest =>
    if last + 1 < oldest.seq then .reset current
    else .events (buffer.filter fun e => last < e.seq)

/-- With nothing in between, the two reads are `catchUp`. -/
lemma catchUp_eq (b : Board) (last : ℕ) :
    b.catchUp last =
      if last > b.seq then .reset b.seq
      else if last = b.seq then .events []
      else catchUpFrom b.seq last b.eventBuffer := by
  unfold catchUp catchUpFrom
  cases b.eventBuffer with
  | nil => rfl
  | cons oldest rest => rfl

end Board

/-- What reaches a client. -/
abbrev Delivery : Type := Message BoardEvent

/-- Where the handler of a connection is. -/
inductive Session.Stage where
  | connecting
  /-- The channel is subscribed. -/
  | subscribed
  /-- `catch_up` has read the current number, and goes on to the buffer. -/
  | catchingUp (last current : ℕ)
  /-- The client follows the channel. -/
  | live
  deriving DecidableEq

/-- A connection: `events` of the event stream, and the loop of the socket. -/
structure Session where
  /-- The last number that the client saw, when it names one. -/
  lastSeq : Option ℕ
  stage : Session.Stage
  /-- How much of the channel was received. -/
  received : ℕ
  minLiveSeq : ℕ
  /-- What the client was sent. -/
  delivered : List Delivery

namespace Session

/-- A client that connects. -/
def connect (lastSeq : Option ℕ) : Session := ⟨lastSeq, .connecting, 0, 0, []⟩

/-- The client is sent its first messages. -/
def goLive (s : Session) (minLiveSeq : ℕ) (initial : List Delivery) : Session :=
  { s with stage := .live, minLiveSeq := minLiveSeq, delivered := s.delivered ++ initial }

/-- What `catch_up` answered is sent. -/
def answer (s : Session) (last : ℕ) : CatchUpResult → Session
  | .reset n => s.goLive n [.reload n]
  | .events missed =>
    s.goLive ((missed.getLast?.map BoardEvent.seq).getD last) (missed.map .entry)

/-- The next message of the channel; a receiver that falls behind by more than `capacity` loses
the oldest messages, and the client is told to reload. -/
def receive (capacity : ℕ) (b : Board) (s : Session) : Session :=
  if capacity < b.tx.length - s.received then
    { s with
      received := b.tx.length - capacity
      delivered := s.delivered ++ [.reload b.seq] }
  else
    match b.tx[s.received]? with
    | none => s
    | some e =>
      { s with
        received := s.received + 1
        delivered := if e.seq > s.minLiveSeq then s.delivered ++ [.entry e] else s.delivered }

/-- The next step of the handler. -/
def advance (capacity : ℕ) (b : Board) (s : Session) : Session :=
  match s.stage with
  | .connecting => { s with stage := .subscribed, received := b.tx.length }
  | .subscribed =>
    match s.lastSeq with
    | none => s.goLive 0 []
    | some last =>
      if last > b.seq then s.answer last (.reset b.seq)
      else if last = b.seq then s.answer last (.events [])
      else { s with stage := .catchingUp last b.seq }
  | .catchingUp last current => s.answer last (Board.catchUpFrom current last b.eventBuffer)
  | .live => s.receive capacity b

lemma lastSeq_advance (capacity : ℕ) (b : Board) (s : Session) :
    (s.advance capacity b).lastSeq = s.lastSeq := by
  have hanswer : ∀ last r, (s.answer last r).lastSeq = s.lastSeq := by
    rintro last (missed | n) <;> rfl
  unfold advance
  split
  · rfl
  · split
    · rfl
    · split
      · exact hanswer _ _
      · split
        · exact hanswer _ _
        · rfl
  · exact hanswer _ _
  · unfold receive
    split
    · rfl
    · split <;> rfl

end Session

/-! ## The feed of one writer -/

namespace Emission

/-- The event that is recorded and not yet sent. -/
def pending : Emission → List BoardEvent
  | .recorded event => [event]
  | _ => []

/-- The numbers that are drawn and not yet recorded. -/
def ahead : Emission → ℕ
  | .drawn _ => 1
  | _ => 0

end Emission

/-- The feed between two sections of its only writer: the events are numbered in the order in
which they are sent, and the buffer holds the last ones. -/
structure Fed (p : Emission) (b : Board) : Prop where
  numbered : Numbered BoardEvent.seq (b.tx ++ p.pending)
  buffer : b.eventBuffer = window b.bufferCapacity (b.tx ++ p.pending)
  seq : b.seq = (b.tx ++ p.pending).length + p.ahead
  drawn : ∀ n, p = .drawn n → n = b.seq
  capacity : 1 ≤ b.bufferCapacity

namespace Fed

variable {p p' : Emission} {b b' : Board}

/-- The feed is kept by every section that sends an event, or is aside of them. -/
lemma step (h : Fed p b) (hstep : Emission.Step p b b' p') : Fed p' b' := by
  cases hstep with
  | aside hsame =>
    refine ⟨?_, ?_, ?_, nofun, ?_⟩
    · rw [hsame.tx]
      exact h.numbered
    · rw [hsame.eventBuffer, hsame.bufferCapacity, hsame.tx]
      exact h.buffer
    · rw [hsame.seq, hsame.tx]
      exact h.seq
    · rw [hsame.bufferCapacity]
      exact h.capacity
  | draw =>
    refine ⟨h.numbered, h.buffer, congrArg (· + 1) h.seq, ?_, h.capacity⟩
    intro n hn
    cases hn
    rfl
  | @record event seq _ hevent =>
    have htx : b.tx ++ (Emission.drawn seq).pending = b.tx := List.append_nil _
    have hnumbered := h.numbered
    have hbuffer := h.buffer
    have hseq := h.seq
    rw [htx] at hnumbered hbuffer hseq
    have hlast : event.seq = b.tx.length + 1 := by
      rw [hevent, h.drawn seq rfl, hseq]
      rfl
    refine ⟨hnumbered.snoc hlast, ?_, ?_, nofun, h.capacity⟩
    · change Board.pushBounded b.bufferCapacity b.eventBuffer event = _
      rw [Emission.pending, window_snoc h.capacity, ← hbuffer]
      rfl
    · rw [Emission.pending, List.length_append]
      exact hseq
  | send event =>
    have htx : b.tx ++ [event] ++ Emission.idle.pending =
        b.tx ++ (Emission.recorded event).pending := List.append_nil _
    refine ⟨?_, ?_, ?_, nofun, h.capacity⟩
    · change Numbered _ (b.tx ++ [event] ++ Emission.idle.pending)
      rw [htx]
      exact h.numbered
    · change b.eventBuffer = window _ (b.tx ++ [event] ++ Emission.idle.pending)
      rw [htx]
      exact h.buffer
    · change b.seq = (b.tx ++ [event] ++ Emission.idle.pending).length + 0
      rw [htx]
      exact h.seq

/-- The record grows at its end. -/
lemma prefix_step (h : Emission.Step p b b' p') :
    ∃ more, b'.tx ++ p'.pending = b.tx ++ p.pending ++ more := by
  cases h with
  | aside hsame =>
    rw [hsame.tx]
    exact ⟨[], (List.append_nil _).symm⟩
  | draw => exact ⟨[], (List.append_nil _).symm⟩
  | @record event =>
    refine ⟨[event], ?_⟩
    change b.tx ++ [event] = b.tx ++ [] ++ [event]
    rw [List.append_nil]
  | send event =>
    refine ⟨[], ?_⟩
    change b.tx ++ [event] ++ [] = b.tx ++ [event] ++ []
    rfl

/-- What is missed is all of the record after the last number, when the buffer reaches back. -/
lemma catchUpFrom (h : Fed p b) (current last : ℕ) :
    Board.catchUpFrom current last b.eventBuffer = .reset current ∨
      Board.catchUpFrom current last b.eventBuffer =
        .events ((b.tx ++ p.pending).drop last) := by
  unfold Board.catchUpFrom
  split
  · exact .inl rfl
  · rename_i oldest holdest
    split
    · exact .inl rfl
    · rename_i hreach
      rw [h.buffer, head?_window] at holdest
      have hnum := h.numbered.num_eq holdest
      rw [h.buffer, h.numbered.filter_window (by omega)]
      exact .inr rfl

/-- Nothing is taken back from the channel, nor from the numbers. -/
lemma mono_step (h : Emission.Step p b b' p') : b.tx.length ≤ b'.tx.length ∧ b.seq ≤ b'.seq := by
  cases h with
  | aside hsame =>
    rw [hsame.tx, hsame.seq]
    exact ⟨le_refl _, le_refl _⟩
  | draw => exact ⟨le_refl _, Nat.le_succ _⟩
  | record => exact ⟨le_refl _, le_refl _⟩
  | send event =>
    refine ⟨?_, le_refl _⟩
    change b.tx.length ≤ (b.tx ++ [event]).length
    rw [List.length_append]
    exact Nat.le_add_right _ _

lemma tx_le_seq (h : Fed p b) : b.tx.length ≤ b.seq := by
  rw [h.seq, List.length_append]
  omega

end Fed

/-! ## A client beside the writer -/

namespace Session

/-- What holds of a connection, given the record and the board. -/
structure Inv (record : List BoardEvent) (b : Board) (s : Session) : Prop where
  received : s.received ≤ b.tx.length
  minLiveSeq : s.minLiveSeq ≤ b.seq
  early : s.stage ≠ .live → s.delivered = []
  catchingUp : ∀ last current, s.stage = .catchingUp last current →
    s.lastSeq = some last ∧ last < current ∧ s.received ≤ current ∧ current ≤ b.seq
  live : s.stage = .live → ∃ l, (∀ last, s.lastSeq = some last → l = last) ∧
    Gapless record l s.delivered (max s.received s.minLiveSeq)

namespace Inv

variable {record : List BoardEvent} {b b' : Board} {s : Session} {p : Emission}

/-- What the writer does meanwhile does not matter. -/
lemma writes (h : Inv record b s) {more : List BoardEvent} (htx : b.tx.length ≤ b'.tx.length)
    (hseq : b.seq ≤ b'.seq) : Inv (record ++ more) b' s where
  received := h.received.trans htx
  minLiveSeq := h.minLiveSeq.trans hseq
  early := h.early
  catchingUp last current hstage := by
    obtain ⟨hlast, hlt, hreceived, hcurrent⟩ := h.catchingUp last current hstage
    exact ⟨hlast, hlt, hreceived, hcurrent.trans hseq⟩
  live hstage := by
    obtain ⟨l, hl, hgapless⟩ := h.live hstage
    exact ⟨l, hl, hgapless.append more⟩

/-- A client that is told to reload gets everything after the number that it is given. -/
lemma answer_reset (h : Inv record b s) (hearly : s.stage ≠ .live) {last n : ℕ}
    (hlast : s.lastSeq = some last) (hreceived : s.received ≤ n) (hn : n ≤ b.seq) :
    Inv record b (s.answer last (.reset n)) where
  received := h.received
  minLiveSeq := hn
  early hstage := absurd rfl hstage
  catchingUp := nofun
  live _ := by
    refine ⟨last, fun last' hlast' => Option.some.inj (hlast.symm.trans hlast'), ?_⟩
    change Gapless record last (s.delivered ++ [.reload n]) (max s.received n)
    rw [h.early hearly, Nat.max_eq_right hreceived]
    exact .reload .start (le_refl n)

/-- A client that is sent what it missed gets all of the record up to now. -/
lemma answer_events (h : Inv record b s) (hearly : s.stage ≠ .live) {last : ℕ}
    (hnumbered : Numbered BoardEvent.seq record) (hlast : s.lastSeq = some last)
    (hreceived : s.received ≤ max last record.length) (hseq : max last record.length ≤ b.seq) :
    Inv record b (s.answer last (.events (record.drop last))) := by
  have hmin : (((record.drop last).getLast?.map BoardEvent.seq).getD last) =
      max last record.length := by
    rw [List.getLast?_drop]
    split
    · rename_i hle
      exact (Nat.max_eq_left hle).symm
    · rename_i hlt
      rw [List.getLast?_eq_getElem?]
      cases hx : record[record.length - 1]? with
      | none =>
        rw [List.getElem?_eq_none_iff] at hx
        omega
      | some x =>
        have hnum := hnumbered.num_eq hx
        rw [Option.map_some, Option.getD_some, hnum]
        omega
  refine ⟨h.received, ?_, fun hstage => absurd rfl hstage, nofun, fun _ => ⟨last, ?_, ?_⟩⟩
  · change (((record.drop last).getLast?.map BoardEvent.seq).getD last) ≤ b.seq
    rw [hmin]
    exact hseq
  · exact fun last' hlast' => Option.some.inj (hlast.symm.trans hlast')
  · change Gapless record last (s.delivered ++ (record.drop last).map .entry)
      (max s.received (((record.drop last).getLast?.map BoardEvent.seq).getD last))
    rw [hmin, Nat.max_eq_right hreceived, h.early hearly]
    rcases Nat.le_total last record.length with hle | hle
    · rw [Nat.max_eq_right hle, ← between_eq_drop (le_refl record.length)]
      exact Gapless.start.entries hle (le_refl _)
    · rw [Nat.max_eq_left hle, List.drop_eq_nil_of_le hle]
      exact .start

/-- The next message of the channel is the next entry, unless the client has it already. -/
lemma receive (hfed : Fed p b) (h : Inv (b.tx ++ p.pending) b s) (hstage : s.stage = .live)
    (capacity : ℕ) : Inv (b.tx ++ p.pending) b (s.receive capacity b) := by
  obtain ⟨l, hl, hgapless⟩ := h.live hstage
  unfold Session.receive
  split
  · refine ⟨Nat.sub_le _ _, h.minLiveSeq, fun hne => absurd hstage hne, ?_,
      fun _ => ⟨l, hl, .reload hgapless ?_⟩⟩
    · intro _ _ hs
      cases hstage.symm.trans hs
    · exact Nat.max_le.2 ⟨(Nat.sub_le _ _).trans hfed.tx_le_seq, h.minLiveSeq⟩
  · split
    · exact h
    · rename_i e he
      have hlt : s.received < b.tx.length := (List.getElem?_eq_some_iff.1 he).1
      have hrecord : (b.tx ++ p.pending)[s.received]? = some e := by
        rw [List.getElem?_append_left hlt, he]
      have hnum := hfed.numbered.num_eq hrecord
      refine ⟨hlt, h.minLiveSeq, fun hne => absurd hstage hne, ?_, fun _ => ⟨l, hl, ?_⟩⟩
      · intro _ _ hs
        cases hstage.symm.trans hs
      · dsimp only
        split
        · rename_i hnew
          have hat : max s.received s.minLiveSeq = s.received := by omega
          have hnext : max (s.received + 1) s.minLiveSeq = s.received + 1 := by omega
          rw [hat] at hgapless
          rw [hnext]
          exact .entry hgapless hrecord
        · have hsame : max (s.received + 1) s.minLiveSeq = max s.received s.minLiveSeq := by omega
          rw [hsame]
          exact hgapless

/-- The invariant is kept by every step of the handler. -/
lemma advance (hfed : Fed p b) (h : Inv (b.tx ++ p.pending) b s) (capacity : ℕ) :
    Inv (b.tx ++ p.pending) b (s.advance capacity b) := by
  have hlength : (b.tx ++ p.pending).length ≤ b.seq := by
    rw [hfed.seq]
    exact Nat.le_add_right _ _
  have hreceived : s.received ≤ (b.tx ++ p.pending).length := by
    rw [List.length_append]
    exact h.received.trans (Nat.le_add_right _ _)
  unfold Session.advance
  split
  · rename_i hstage
    exact ⟨le_refl _, h.minLiveSeq, fun _ => h.early (by rw [hstage]; nofun), nofun, nofun⟩
  · rename_i hstage
    have hearly : s.stage ≠ .live := by
      rw [hstage]
      nofun
    split
    · rename_i hnone
      refine ⟨h.received, Nat.zero_le _, fun hs => absurd rfl hs, nofun,
        fun _ => ⟨s.received, ?_, ?_⟩⟩
      · intro last hlast
        cases hnone.symm.trans hlast
      · change Gapless _ _ (s.delivered ++ []) (max s.received 0)
        rw [h.early hearly, Nat.max_eq_left (Nat.zero_le _)]
        exact .start
    · rename_i last hlast
      split
      · exact h.answer_reset hearly hlast (hreceived.trans hlength) (le_refl _)
      · rename_i hle
        split
        · rename_i heq
          have hnothing : ([] : List BoardEvent) = (b.tx ++ p.pending).drop last :=
            (List.drop_eq_nil_of_le (hlength.trans_eq heq.symm)).symm
          rw [hnothing]
          exact h.answer_events hearly hfed.numbered hlast
            (hreceived.trans (Nat.le_max_right _ _)) (Nat.max_le.2 ⟨heq.le, hlength⟩)
        · rename_i hne
          refine ⟨h.received, h.minLiveSeq, fun _ => h.early hearly, ?_, nofun⟩
          intro last' current hs
          cases hs
          exact ⟨hlast, by omega, hreceived.trans hlength, le_refl _⟩
  · rename_i last current hstage
    obtain ⟨hlast, hlt, hbefore, hcurrent⟩ := h.catchingUp last current hstage
    have hearly : s.stage ≠ .live := by
      rw [hstage]
      nofun
    rcases hfed.catchUpFrom current last with hreset | hevents
    · rw [hreset]
      exact h.answer_reset hearly hlast hbefore hcurrent
    · rw [hevents]
      exact h.answer_events hearly hfed.numbered hlast (hreceived.trans (Nat.le_max_right _ _))
        (Nat.max_le.2 ⟨hlt.le.trans hcurrent, hlength⟩)
  · rename_i hstage
    exact h.receive hfed hstage capacity

end Inv

end Session

/-- A board with its only writer, and a client that follows it. -/
structure Watch where
  board : Board
  /-- What is left of the method that the writer is in. -/
  doing : Locked Board Empty Unit
  session : Session

namespace Watch

/-- Whose turn it is. -/
inductive Turn where
  /-- The writer, when it rests, calls a method. -/
  | calls (op : Operation)
  /-- The writer performs the next section of its method. -/
  | proceeds
  /-- The connection of the client goes on. -/
  | serves

section Unicode

variable [UnicodeTables]

/-- One turn, with a channel that keeps `capacity` messages. -/
def step (capacity : ℕ) (w : Watch) : Turn → Watch
  | .calls op =>
    match w.doing with
    | .ret _ => { w with doing := op.method }
    | _ => w
  | .proceeds =>
    match w.doing with
    | .ret _ => w
    | .sect upd next => { w with board := upd w.board, doing := next w.board }
  | .serves => { w with session := w.session.advance capacity w.board }

/-- The invariant of the turns. -/
def Inv (lastSeq : Option ℕ) (w : Watch) : Prop :=
  w.session.lastSeq = lastSeq ∧ ∃ p : Emission, Fed p w.board ∧
    w.doing.Paced Emission.Step (fun _ p => p = .idle) p ∧
      w.session.Inv (w.board.tx ++ p.pending) w.board

/-- The invariant is kept by every turn. -/
lemma inv_step {lastSeq : Option ℕ} {w : Watch} (h : w.Inv lastSeq) (capacity : ℕ) (turn : Turn) :
    (w.step capacity turn).Inv lastSeq := by
  obtain ⟨hlast, p, hfed, hdoing, hsession⟩ := h
  cases turn with
  | calls op =>
    unfold step
    dsimp only
    split
    · rename_i r hrest
      rw [hrest] at hdoing
      have hidle : p = .idle := hdoing
      rw [hidle] at hfed hsession
      exact ⟨hlast, .idle, hfed, (Board.structural_method op).emits, hsession⟩
    · exact ⟨hlast, p, hfed, hdoing, hsession⟩
  | proceeds =>
    unfold step
    dsimp only
    split
    · exact ⟨hlast, p, hfed, hdoing, hsession⟩
    · rename_i upd next hsect
      rw [hsect] at hdoing
      obtain ⟨p', hstep, hnext⟩ := hdoing w.board
      obtain ⟨more, hmore⟩ := Fed.prefix_step hstep
      obtain ⟨htx, hseq⟩ := Fed.mono_step hstep
      refine ⟨hlast, p', hfed.step hstep, hnext, ?_⟩
      rw [hmore]
      exact hsession.writes htx hseq
  | serves =>
    refine ⟨?_, p, hfed, hdoing, hsession.advance hfed capacity⟩
    exact (Session.lastSeq_advance capacity w.board w.session).trans hlast

/-- A new board with a buffer for some events, and a client that connects. -/
def start (schema : Schema) (clock : ℕ → ℕ → Time) (saveSucceeds : ℕ → Bool) (buffer : ℕ)
    (lastSeq : Option ℕ) : Watch where
  board := { Board.new schema clock saveSucceeds with bufferCapacity := buffer }
  doing := .ret (.ok ())
  session := .connect lastSeq

/-- What a client is sent while one writer works, for every order of their steps. -/
theorem served (schema : Schema) (clock : ℕ → ℕ → Time) (saveSucceeds : ℕ → Bool)
    (buffer capacity : ℕ) (lastSeq : Option ℕ) (turns : List Turn) :
    let w := turns.foldl (step capacity) (start schema clock saveSucceeds (buffer + 1) lastSeq)
    ∃ pending, Numbered BoardEvent.seq (w.board.tx ++ pending) ∧
      (w.session.stage = .live → ∃ l u, (∀ last, lastSeq = some last → l = last) ∧
        Gapless (w.board.tx ++ pending) l w.session.delivered u ∧
        ((∀ n, .reload n ∉ w.session.delivered) →
          w.session.delivered = (between l u (w.board.tx ++ pending)).map .entry) ∧
        (w.session.received = w.board.tx.length → w.board.tx.length ≤ u)) := by
  intro w
  have hstart : (start schema clock saveSucceeds (buffer + 1) lastSeq).Inv lastSeq := by
    refine ⟨rfl, .idle, ⟨.nil, window_nil.symm, rfl, nofun, Nat.le_add_left _ _⟩, rfl, ?_⟩
    exact ⟨Nat.zero_le _, Nat.zero_le _, fun _ => rfl, nofun, nofun⟩
  have hinv : w.Inv lastSeq := by
    change (turns.foldl (step capacity) _).Inv lastSeq
    generalize start schema clock saveSucceeds (buffer + 1) lastSeq = w₀ at hstart
    clear w
    induction turns generalizing w₀ with
    | nil => exact hstart
    | cons turn turns ih => exact ih _ (inv_step hstart capacity turn)
  obtain ⟨hlast, p, hfed, -, hsession⟩ := hinv
  refine ⟨p.pending, hfed.numbered, fun hstage => ?_⟩
  obtain ⟨l, hl, hgapless⟩ := hsession.live hstage
  refine ⟨l, _, ?_, hgapless, fun hms => (hgapless.eq_between hms).2, fun hreceived => ?_⟩
  · rw [← hlast]
    exact hl
  · rw [hreceived]
    exact Nat.le_max_left _ _

end Unicode

end Watch

/-! ## Any number of writers -/

/-- The number that a writer has drawn for an event that is not yet sent. -/
def Emission.number : Emission → Option ℕ
  | .idle => none
  | .drawn n => some n
  | .recorded event => some event.seq

/-- The numbers that are given out: each one is sent, or held by one writer. -/
structure Tally (p : ℕ → Emission) (b : Board) : Prop where
  sent : (b.tx.map BoardEvent.seq).Nodup
  held : ∀ i j n, (p i).number = some n → (p j).number = some n → i = j
  unsent : ∀ i n, (p i).number = some n → n ∉ b.tx.map BoardEvent.seq
  given : ∀ n, (n ∈ b.tx.map BoardEvent.seq ∨ ∃ i, (p i).number = some n) ↔ 1 ≤ n ∧ n ≤ b.seq
  buffer : ∀ e ∈ b.eventBuffer, e ∈ b.tx ∨ ∃ i, p i = .recorded e

namespace Tally

variable {p : ℕ → Emission} {b b' : Board} {i : ℕ} {q : Emission}

lemma new (schema : Schema) (clock : ℕ → ℕ → Time) (saveSucceeds : ℕ → Bool) :
    Tally (fun _ => .idle) (Board.new schema clock saveSucceeds) where
  sent := List.nodup_nil
  held := nofun
  unsent := nofun
  given n := by
    constructor
    · rintro (hsent | ⟨i, hi⟩)
      · cases hsent
      · cases hi
    · rintro ⟨hlow, hhigh⟩
      exact absurd (hlow.trans hhigh) (Nat.not_succ_le_zero 0)
  buffer e he := by cases he

/-- A writer goes to another phase with the same number. -/
lemma same (h : Tally p b) (hnumber : q.number = (p i).number)
    (hrecorded : ∀ e, p i = .recorded e → q = .recorded e) : Tally (Function.update p i q) b := by
  have hall : ∀ j, (Function.update p i q j).number = (p j).number := by
    intro j
    by_cases hj : j = i
    · rw [hj, Function.update_self, hnumber]
    · rw [Function.update_of_ne hj]
  refine ⟨h.sent, ?_, ?_, ?_, ?_⟩
  · intro j k n
    rw [hall, hall]
    exact h.held j k n
  · intro j n
    rw [hall]
    exact h.unsent j n
  · intro n
    rw [← h.given n]
    simp only [hall]
  · intro e he
    rcases h.buffer e he with hsent | ⟨j, hj⟩
    · exact .inl hsent
    · refine .inr ⟨j, ?_⟩
      by_cases hji : j = i
      · rw [hji, Function.update_self]
        exact hrecorded e (hji ▸ hj)
      · rw [Function.update_of_ne hji, hj]

/-- The next number is new. -/
lemma draw (h : Tally p b) (hp : p i = .idle) :
    Tally (Function.update p i (.drawn (b.seq + 1))) { b with seq := b.seq + 1 } := by
  have hlow : ∀ n, (n ∈ b.tx.map BoardEvent.seq ∨ ∃ i, (p i).number = some n) → n ≠ b.seq + 1 := by
    intro n hn
    have := ((h.given n).1 hn).2
    omega
  have hnumber : ∀ j n, (Function.update p i (.drawn (b.seq + 1)) j).number = some n ↔
      (j = i ∧ n = b.seq + 1) ∨ (j ≠ i ∧ (p j).number = some n) := by
    intro j n
    by_cases hj : j = i
    · rw [hj, Function.update_self]
      simp [Emission.number, eq_comm]
    · rw [Function.update_of_ne hj]
      simp [hj]
  refine ⟨h.sent, ?_, ?_, ?_, ?_⟩
  · intro j k n hj hk
    rcases (hnumber j n).1 hj with ⟨hji, hn⟩ | ⟨-, hj'⟩
    · rcases (hnumber k n).1 hk with ⟨hki, -⟩ | ⟨-, hk'⟩
      · rw [hji, hki]
      · exact absurd hn (hlow n (.inr ⟨k, hk'⟩))
    · rcases (hnumber k n).1 hk with ⟨-, hn⟩ | ⟨-, hk'⟩
      · exact absurd hn (hlow n (.inr ⟨j, hj'⟩))
      · exact h.held j k n hj' hk'
  · intro j n hj hn
    rcases (hnumber j n).1 hj with ⟨-, hnew⟩ | ⟨-, hj⟩
    · exact hlow n (.inl hn) hnew
    · exact h.unsent j n hj hn
  · intro n
    constructor
    · rintro (hn | ⟨j, hj⟩)
      · have := (h.given n).1 (.inl hn)
        exact ⟨this.1, this.2.trans (Nat.le_succ _)⟩
      · rcases (hnumber j n).1 hj with ⟨-, rfl⟩ | ⟨-, hj⟩
        · exact ⟨Nat.le_add_left _ _, le_refl _⟩
        · have := (h.given n).1 (.inr ⟨j, hj⟩)
          exact ⟨this.1, this.2.trans (Nat.le_succ _)⟩
    · rintro ⟨hone, hle⟩
      change n ≤ b.seq + 1 at hle
      rcases Nat.lt_or_ge b.seq n with hlt | hge
      · exact .inr ⟨i, (hnumber i n).2 (.inl ⟨rfl, by omega⟩)⟩
      · rcases (h.given n).2 ⟨hone, hge⟩ with hn | ⟨j, hj⟩
        · exact .inl hn
        · refine .inr ⟨j, (hnumber j n).2 (.inr ⟨?_, hj⟩)⟩
          rintro rfl
          rw [hp] at hj
          cases hj
  · intro e he
    rcases h.buffer e he with hsent | ⟨j, hj⟩
    · exact .inl hsent
    · refine .inr ⟨j, ?_⟩
      rw [Function.update_of_ne, hj]
      rintro rfl
      cases hp.symm.trans hj

/-- A recorded event is sent under the number that its writer holds. -/
lemma send (h : Tally p b) {event : BoardEvent} (hp : p i = .recorded event) :
    Tally (Function.update p i .idle) { b with tx := b.tx ++ [event] } := by
  have hi : (p i).number = some event.seq := by
    rw [hp]
    rfl
  have hnumber : ∀ j n, (Function.update p i .idle j).number = some n ↔
      j ≠ i ∧ (p j).number = some n := by
    intro j n
    by_cases hj : j = i
    · rw [hj, Function.update_self]
      simp [Emission.number]
    · rw [Function.update_of_ne hj]
      simp [hj]
  have htx : ∀ n, n ∈ (b.tx ++ [event]).map BoardEvent.seq ↔
      n ∈ b.tx.map BoardEvent.seq ∨ n = event.seq := by
    intro n
    rw [List.map_append, List.mem_append, List.map_singleton, List.mem_singleton]
  refine ⟨?_, ?_, ?_, ?_, ?_⟩
  · change ((b.tx ++ [event]).map BoardEvent.seq).Nodup
    rw [List.map_append, List.map_singleton]
    refine List.nodup_append'.2 ⟨h.sent, List.nodup_singleton _, ?_⟩
    rw [List.disjoint_singleton]
    exact h.unsent i _ hi
  · intro j k n hj hk
    exact h.held j k n ((hnumber j n).1 hj).2 ((hnumber k n).1 hk).2
  · intro j n hj hn
    obtain ⟨hne, hj⟩ := (hnumber j n).1 hj
    rcases (htx n).1 hn with hn | rfl
    · exact h.unsent j n hj hn
    · exact hne (h.held j i _ hj hi)
  · intro n
    rw [← h.given n]
    change (n ∈ (b.tx ++ [event]).map BoardEvent.seq ∨ _) ↔ _
    rw [htx]
    constructor
    · rintro ((hn | rfl) | ⟨j, hj⟩)
      · exact .inl hn
      · exact .inr ⟨i, hi⟩
      · exact .inr ⟨j, ((hnumber j n).1 hj).2⟩
    · rintro (hn | ⟨j, hj⟩)
      · exact .inl (.inl hn)
      · by_cases hji : j = i
        · refine .inl (.inr ?_)
          rw [hji, hi] at hj
          exact (Option.some.inj hj).symm
        · exact .inr ⟨j, (hnumber j n).2 ⟨hji, hj⟩⟩
  · intro e he
    rcases h.buffer e he with hsent | ⟨j, hj⟩
    · exact .inl (List.mem_append_left _ hsent)
    · by_cases hji : j = i
      · rw [hji, hp] at hj
        cases hj
        exact .inl (List.mem_append_right _ List.mem_cons_self)
      · refine .inr ⟨j, ?_⟩
        rw [Function.update_of_ne hji, hj]

lemma mem_pushBounded {capacity : ℕ} {buffer : List BoardEvent} {event e : BoardEvent}
    (h : e ∈ Board.pushBounded capacity buffer event) : e ∈ buffer ∨ e = event := by
  unfold Board.pushBounded at h
  rcases List.mem_append.1 h with h | h
  · left
    split at h
    · exact List.mem_of_mem_tail h
    · exact h
  · exact .inr (List.mem_singleton.1 h)

/-- The tally is kept by every section that sends an event, or is aside of them. -/
lemma step (h : Tally p b) (hstep : Emission.Step (p i) b b' q) :
    Tally (Function.update p i q) b' := by
  generalize hp : p i = pi at hstep
  cases hstep with
  | aside hsame =>
    have h' : Tally (Function.update p i .idle) b :=
      h.same (by rw [hp]) fun e he => by cases hp.symm.trans he
    refine ⟨?_, h'.held, ?_, ?_, ?_⟩
    · rw [hsame.tx]
      exact h'.sent
    · rw [hsame.tx]
      exact h'.unsent
    · rw [hsame.tx, hsame.seq]
      exact h'.given
    · rw [hsame.tx, hsame.eventBuffer]
      exact h'.buffer
  | draw => exact h.draw hp
  | @record event seq _ hevent =>
    have h' : Tally (Function.update p i (.recorded event)) b :=
      h.same (by rw [hp, ← hevent]; rfl) fun e he => by cases hp.symm.trans he
    refine ⟨h'.sent, h'.held, h'.unsent, h'.given, fun e he => ?_⟩
    rcases mem_pushBounded he with hold | rfl
    · exact h'.buffer e hold
    · exact .inr ⟨i, Function.update_self ..⟩
  | send event => exact h.send hp

end Tally

namespace Crowd

variable [UnicodeTables]

/-- The events of a crowd are steps of its parties. -/
lemma runs_events {parties : Parties Board fun _ : ℕ => Unit} {c : Crowd}
    (h : Parties.Runs (fun _ _ m => ∃ op : Operation, m = op.method) parties c.parties)
    (events : List Event) : Parties.Runs (fun _ _ m => ∃ op : Operation, m = op.method) parties
      (events.foldl step c).parties := by
  induction events generalizing c with
  | nil => exact h
  | cons e events ih =>
    refine ih ?_
    cases e with
    | calls i op => exact Parties.runs_start h fun _ => ⟨op, rfl⟩
    | proceeds i => exact Parties.runs_perform h i

/-- The numbers of the events, for every order of the steps of any number of writers. -/
theorem numbers_tally (clock : ℕ → ℕ → Time) (saveSucceeds : ℕ → Bool) (events : List Event) :
    let c := events.foldl step (new clock saveSucceeds)
    let b := c.parties.shared
    (b.tx.map BoardEvent.seq).Nodup ∧ (∀ e ∈ b.tx, 1 ≤ e.seq ∧ e.seq ≤ b.seq) ∧
      ((∀ i, ∃ r, c.parties.doing i = .ret r) →
        (b.tx.map BoardEvent.seq).Perm (List.range' 1 b.seq) ∧
          ∀ e ∈ b.eventBuffer, e ∈ b.tx) := by
  intro c b
  have hmethods : ∀ (op : Operation), op.method.Paced Emission.Step
      (Parties.Returns fun (_ : Unit) p => p = .idle) .idle := fun op =>
    ((Board.structural_method op).emits).mono fun r p hp => by
      cases r with
      | ok _ => exact hp
      | error e => exact e.elim
  have hstart : Parties.Phased (fun _ => Emission.Step) (fun _ _ p => p = .idle) Tally
      (new clock saveSucceeds).parties :=
    ⟨_, .new Schema.default clock saveSucceeds, fun _ => rfl⟩
  have hphased := Parties.invariant ?_ ?_ (runs_events .refl events) hstart
  · obtain ⟨p, htally, hp⟩ := hphased
    refine ⟨htally.sent, fun e he => ?_, fun hrest => ?_⟩
    · exact (htally.given e.seq).1 (.inl (List.mem_map_of_mem he))
    · have hidle : ∀ i, p i = .idle := by
        intro i
        obtain ⟨r, hr⟩ := hrest i
        have hpi := hp i
        rw [hr] at hpi
        cases r with
        | ok _ => exact hpi
        | error e => exact e.elim
      refine ⟨?_, fun e he => ?_⟩
      · rw [List.perm_ext_iff_of_nodup htally.sent List.nodup_range']
        intro n
        rw [List.mem_range'_1, Nat.lt_one_add_iff, ← htally.given n]
        refine ⟨.inl, ?_⟩
        rintro (hn | ⟨i, hi⟩)
        · exact hn
        · rw [hidle i] at hi
          cases hi
      · rcases htally.buffer e he with hsent | ⟨i, hi⟩
        · exact hsent
        · cases (hidle i).symm.trans hi
  · rintro i p s l m hG hidle ⟨op, rfl⟩
    refine ⟨.idle, hmethods op, ?_⟩
    rw [← hidle, Function.update_eq_self]
    exact hG
  · exact fun i p s s' p' hG hstep => hG.step hstep

end Crowd

/-! ## Replaying events -/

/-- The cards after an event. -/
def BoardEvent.applyTo (items : ExtTreeMap ItemId WorkItem) :
    BoardEvent → ExtTreeMap ItemId WorkItem
  | .upsert _ item => items.insert item.id item
  | .delete _ id => items.erase id
  | _ => items

/-- The cards after some events. -/
def replay (items : ExtTreeMap ItemId WorkItem) (events : List BoardEvent) :
    ExtTreeMap ItemId WorkItem :=
  events.foldl BoardEvent.applyTo items

/-- Each card is filed under its id. -/
def Keyed (items : ExtTreeMap ItemId WorkItem) : Prop :=
  ∀ (k : ItemId) (i : WorkItem), items[k]? = some i → i.id = k

section Replay

variable {items : ExtTreeMap ItemId WorkItem} {events : List BoardEvent} {e : BoardEvent} {n : ℕ}

lemma replay_append (events' : List BoardEvent) :
    replay items (events ++ events') = replay (replay items events) events' :=
  List.foldl_append

/-- The next event extends a replay. -/
lemma replay_take_succ (he : events[n]? = some e) :
    replay items (events.take (n + 1)) = e.applyTo (replay items (events.take n)) := by
  rw [List.take_add_one, he, replay_append]
  rfl

lemma Keyed.applyTo (h : Keyed items) (e : BoardEvent) : Keyed (e.applyTo items) := by
  intro k i hi
  cases e with
  | upsert seq item =>
    rw [BoardEvent.applyTo, ExtTreeMap.getElem?_insert] at hi
    split at hi
    · rename_i hk
      rw [← Option.some.inj hi]
      exact Std.compare_eq_iff_eq.1 hk
    · exact h k i hi
  | delete seq id =>
    rw [BoardEvent.applyTo, ExtTreeMap.getElem?_erase] at hi
    split at hi
    · cases hi
    · exact h k i hi
  | story | mainAdvanced => exact h k i hi

lemma Keyed.replay (h : Keyed items) (events : List BoardEvent) :
    Keyed (replay items events) := by
  induction events generalizing items with
  | nil => exact h
  | cons e events ih => exact ih (h.applyTo e)

end Replay

end Sandboard

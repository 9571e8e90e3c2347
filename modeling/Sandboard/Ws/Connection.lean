import Sandboard.Library.Run
import Sandboard.Store.Emission
import Sandboard.Ws.Frames

/-!
# The loop of a WebSocket connection

`handle_ws_connection` waits at once for the next frame of the client, for the tick of an interval
and, once subscribed, for the next event of the board.  When one of them is ready the waits for the
others are dropped and begun again.  The bytes that the dropped read of a frame has already taken
from the stream are lost with it, so the next read begins in the middle of a frame.

A connection reads the frames of its client (`ReadsFrames`) exactly when no tick and no event wins
while a frame is partly read (`readsFrames_iff`).
-/

namespace Sandboard

open Run

inductive ClientMessage where
  | subscribe (lastSeq : Option ℕ)
  | ping
  | pong
  deriving DecidableEq

/-- The JSON library. -/
class WsCrates where
  /-- `serde_json::from_str::<ClientMessage>`. -/
  parseMessage : String → Option ClientMessage
  /-- `serde_json::to_string` of an event of the board. -/
  eventJson : BoardEvent → Option String
  /-- `serde_json::to_string` of `BoardEvent::Reset`. -/
  resetJson : ℕ → Option String

open WsCrates

inductive CatchUpResult where
  | events (missed : List BoardEvent)
  | reset (seq : ℕ)

/-- The events after a number, if the buffer still has all of them. -/
def Board.catchUp (b : Board) (lastSeq : ℕ) : CatchUpResult :=
  if lastSeq > b.seq then .reset b.seq
  else if lastSeq = b.seq then .events []
  else
    match b.eventBuffer with
    | [] => .reset b.seq
    | oldest :: _ =>
      if lastSeq + 1 < oldest.seq then .reset b.seq
      else .events (b.eventBuffer.filter fun ev => ev.seq > lastSeq)

/-- What the loop does for a client. -/
inductive WsAct where
  | subscribe (lastSeq : Option ℕ)
  | answerPing
  | echo (data : Bytes)
  deriving DecidableEq

/-! ## The loop -/

/-- The variables of the loop, the frames put into the channel of the writer, and what has been
done for the client. -/
structure WsLoop where
  subscribed : Bool
  minLiveSeq : ℕ
  /-- The writer still takes frames from the channel. -/
  writing : Bool
  looping : Bool
  sent : List WsFrame
  acted : List WsAct

namespace WsLoop

/-- `tx.send`. -/
def send (frame : WsFrame) (l : WsLoop) : Option WsLoop :=
  if l.writing then some { l with sent := l.sent ++ [frame] } else none

def leave (l : WsLoop) : WsLoop := { l with looping := false }

/-- The frame is sent, or the loop is left. -/
def sendOrLeave (frame : WsFrame) (l : WsLoop) : WsLoop :=
  (l.send frame).getD l.leave

def acts (act : WsAct) (l : WsLoop) : WsLoop := { l with acted := l.acted ++ [act] }

variable [WsCrates]

/-- What a subscriber is sent first, and the number of the last event of it. -/
def initialEvents (b : Board) : Option ℕ → List (Option String) × ℕ
  | some seq =>
    match b.catchUp seq with
    | .events missed => (missed.map eventJson, (missed.getLast?.map BoardEvent.seq).getD seq)
    | .reset currentSeq => ([resetJson currentSeq], currentSeq)
  | none => ([], 0)

def handleMessage (b : Board) (msg : ClientMessage) (l : WsLoop) : WsLoop :=
  match msg with
  | .subscribe lastSeq =>
    let (initial, maxSeq) := initialEvents b lastSeq
    let l := { l.acts (.subscribe lastSeq) with minLiveSeq := maxSeq }
    match initial.reduceOption.foldlM (fun l json => l.send (.text json)) l with
    | some l => { l with subscribed := true }
    | none => l.leave
  | .ping =>
    let l := l.acts .answerPing
    (l.send (.text "\x7b\"type\":\"pong\"\x7d")).getD l
  | .pong => l

/-- The branch of a read that has returned. -/
def readBranch (b : Board) (res : Except ReadError (Option WsFrame)) (l : WsLoop) : WsLoop :=
  match res with
  | .ok (some (.text text)) =>
    match parseMessage text with
    | some msg => l.handleMessage b msg
    | none => l
  | .ok (some (.binary _)) => l
  | .ok (some (.ping data)) => (l.acts (.echo data)).sendOrLeave (.pong data)
  | .ok (some (.pong _)) => l
  | .ok (some .close) | .ok none | .error _ => l.leave

/-- The branch of a tick. -/
def tickBranch (l : WsLoop) : WsLoop := l.sendOrLeave (.ping [])

end WsLoop

/-- What comes from the channel of the board. -/
inductive LiveMessage where
  | event (ev : BoardEvent)
  | lagged
  | ended

/-- The branch of an event of the board. -/
def WsLoop.liveBranch [WsCrates] (b : Board) (msg : LiveMessage) (l : WsLoop) : WsLoop :=
  match msg with
  | .event ev =>
    if ev.seq > l.minLiveSeq then
      match eventJson ev with
      | some json => l.sendOrLeave (.text json)
      | none => l
    else l
  | .lagged =>
    match resetJson b.seq with
    | some json => l.sendOrLeave (.text json)
    | none => l
  | .ended => l.leave

/-! ## The read in progress -/

/-- The stream of the client, with the read of the next frame. -/
structure ReadSide where
  /-- What no read has taken yet. -/
  unread : Bytes
  reading : Reading UInt8 ReadError (Option WsFrame)
  /-- What the read in progress has taken. -/
  got : Bytes
  /-- The frames that were read, each with the bytes that it was read from. -/
  decoded : List (Bytes × WsFrame)

namespace ReadSide

/-- The read is polled when so many bytes have come in. -/
def poll (n : ℕ) (r : ReadSide) : ReadSide :=
  let input := r.unread.take n
  let (reading, rest) := r.reading.poll input
  { r with
    reading
    got := r.got ++ input.take (input.length - rest.length)
    unread := rest ++ r.unread.drop n }

/-- The read is dropped, and another one begun. -/
def restart (r : ReadSide) : ReadSide := { r with reading := readFrame.start, got := [] }

/-- A read has returned. -/
def finish (res : Except ReadError (Option WsFrame)) (r : ReadSide) : ReadSide :=
  match res with
  | .ok (some frame) => { r with decoded := r.decoded ++ [(r.got, frame)] }.restart
  | .ok none | .error _ => r

end ReadSide

/-! ## The connection -/

structure Connection where
  side : ReadSide
  loop : WsLoop

/-- What happens at a connection. -/
inductive ConnEvent where
  /-- So many bytes of the stream can be read; the board is as it then stands. -/
  | readable (n : ℕ) (b : Board)
  | tick
  | live (msg : LiveMessage) (b : Board)
  /-- The stream ends. -/
  | hangUp
  /-- A frame could not be written. -/
  | writerEnds

namespace Connection

variable [WsCrates]

/-- The connection of a client that is going to send these bytes. -/
def start (bytes : Bytes) : Connection where
  side := { unread := bytes, reading := readFrame.start, got := [], decoded := [] }
  loop := { subscribed := false, minLiveSeq := 0, writing := true, looping := true, sent := [],
            acted := [] }

/-- The branch that is ready is taken, and the reads and waits of the others are dropped. -/
def step (c : Connection) (e : ConnEvent) : Connection :=
  if c.loop.looping then
    match e with
    | .readable n b =>
      let side := c.side.poll n
      match side.reading.result? with
      | some res => { side := side.finish res, loop := c.loop.readBranch b res }
      | none => { c with side }
    | .tick => { side := c.side.restart, loop := c.loop.tickBranch }
    | .live msg b =>
      if c.loop.subscribed then { side := c.side.restart, loop := c.loop.liveBranch b msg } else c
    | .hangUp => { c with loop := c.loop.leave }
    | .writerEnds => { c with loop := { c.loop with writing := false } }
  else c

end Connection

/-! ## What is to be read -/

/-- What the loop has to do for a frame. -/
def WsFrame.acts [WsCrates] : WsFrame → List WsAct
  | text s =>
    match parseMessage s with
    | some (.subscribe lastSeq) => [.subscribe lastSeq]
    | some .ping => [.answerPing]
    | some .pong | none => []
  | ping data => [.echo data]
  | binary _ | pong _ | close => []

/-- What the loop has to do for a frame of the client. -/
def ClientFrame.acts [WsCrates] (f : ClientFrame) : List WsAct :=
  (f.frame?.map WsFrame.acts).getD []

/-- The bytes of a client's frames. -/
def encodeAll (frames : List ClientFrame) : Bytes := frames.flatMap ClientFrame.encode

namespace Connection

/-- The connection has read the first frames, and of the rest a part of the first one. -/
structure HasRead [WsCrates] (read rest : List ClientFrame) (c : Connection) : Prop where
  decoded_eq : (c.side.decoded.map fun d => (d.1, some d.2)) = read.map fun f => (f.encode, f.frame?)
  acted_eq : c.loop.acted = read.flatMap ClientFrame.acts
  bytes_eq : c.side.got ++ c.side.unread = encodeAll rest
  partly : ∀ f ∈ rest.head?, c.side.got.length < f.encode.length

/-- The connection has decoded the client's frames up to one of them, each from its own bytes, and
has done for each what it says; of the others it has read less than one frame, and no byte of them
is lost. -/
def ReadsFrames [WsCrates] (frames : List ClientFrame) (c : Connection) : Prop :=
  ∃ read rest, frames = read ++ rest ∧ HasRead read rest c

/-- No tick and no event wins while a frame is partly read. -/
def KeepsRead (c : Connection) : ConnEvent → Prop
  | .tick => c.loop.looping → c.side.got = []
  | .live .. => c.loop.looping → c.loop.subscribed → c.side.got = []
  | .readable .. | .hangUp | .writerEnds => True

instance (c : Connection) (e : ConnEvent) : Decidable (KeepsRead c e) := by
  unfold KeepsRead
  cases e <;> infer_instance

end Connection

/-! ## The read in progress, step by step -/

namespace ReadSide

variable {r : ReadSide}

/-- A poll moves bytes from the stream to the read. -/
lemma poll_eq (r : ReadSide) (n : ℕ) :
    ∃ used rest, used ++ rest = r.unread.take n ∧ (r.reading.poll (used ++ rest)).2 = rest ∧
      r.poll n = { r with
        reading := (r.reading.poll (used ++ rest)).1
        got := r.got ++ used
        unread := rest ++ r.unread.drop n } := by
  obtain ⟨used, hused⟩ := r.reading.rest_suffix (r.unread.take n)
  refine ⟨used, (r.reading.poll (r.unread.take n)).2, hused, ?_, ?_⟩
  · rw [hused]
  · rw [hused]
    unfold poll
    dsimp only
    generalize r.unread.take n = input at hused ⊢
    have hlen : input.length = used.length + (r.reading.poll input).2.length := by
      rw [← List.length_append, hused]
    have htake : input.take (input.length - (r.reading.poll input).2.length) = used := by
      rw [hlen, Nat.add_sub_cancel]
      nth_rewrite 1 [← hused]
      exact List.take_left
    rw [htake]

/-- How many bytes the frames were read from, and how many are yet to be read. -/
def size (r : ReadSide) : ℕ :=
  (r.decoded.map fun d => d.1.length).sum + (r.got ++ r.unread).length

lemma poll_bytes (r : ReadSide) (n : ℕ) : (r.poll n).got ++ (r.poll n).unread = r.got ++ r.unread := by
  obtain ⟨used, rest, htake, -, hpoll⟩ := r.poll_eq n
  rw [hpoll]
  dsimp only
  rw [List.append_assoc, ← List.append_assoc used, htake, List.take_append_drop]

lemma poll_decoded (r : ReadSide) (n : ℕ) : (r.poll n).decoded = r.decoded := rfl

lemma size_poll (r : ReadSide) (n : ℕ) : (r.poll n).size = r.size := by
  unfold size
  rw [poll_bytes, poll_decoded]

/-- The bytes of a frame that was read are those that the read has taken. -/
lemma size_finish (res : Except ReadError (Option WsFrame)) (r : ReadSide) :
    (r.finish res).size = r.size := by
  rcases res with e | _ | frame
  · rfl
  · rfl
  · unfold finish restart size
    dsimp only
    simp only [List.map_append, List.sum_append, List.length_append, List.map_cons, List.map_nil,
      List.sum_cons, List.sum_nil, List.length_nil]
    omega

/-- A read that is dropped loses what it has taken. -/
lemma size_restart (r : ReadSide) : r.restart.size + r.got.length = r.size := by
  unfold restart size
  dsimp only
  rw [List.nil_append, List.length_append]
  omega

end ReadSide

namespace WsLoop

variable {l l' : WsLoop}

lemma acted_of_send {frame : WsFrame} (h : l.send frame = some l') : l'.acted = l.acted := by
  unfold send at h
  split at h
  · cases h
    rfl
  · cases h

@[simp] lemma acted_sendOrLeave (frame : WsFrame) (l : WsLoop) :
    (l.sendOrLeave frame).acted = l.acted := by
  unfold sendOrLeave
  cases hsend : l.send frame with
  | none => rfl
  | some l' => exact acted_of_send hsend

@[simp] lemma acted_tickBranch (l : WsLoop) : l.tickBranch.acted = l.acted :=
  acted_sendOrLeave _ _

lemma acted_of_sendAll {texts : List String}
    (h : texts.foldlM (fun l json => l.send (.text json)) l = some l') : l'.acted = l.acted := by
  induction texts generalizing l with
  | nil =>
    cases h
    rfl
  | cons json texts ih =>
    rw [List.foldlM_cons, Option.bind_eq_bind, Option.bind_eq_some_iff] at h
    obtain ⟨l₁, hsend, hrest⟩ := h
    rw [ih hrest, acted_of_send hsend]

variable [WsCrates]

lemma acted_handleMessage (b : Board) (msg : ClientMessage) (l : WsLoop) :
    (l.handleMessage b msg).acted = l.acted ++ match msg with
      | .subscribe lastSeq => [.subscribe lastSeq]
      | .ping => [.answerPing]
      | .pong => [] := by
  cases msg with
  | subscribe lastSeq =>
    unfold handleMessage
    dsimp only
    split
    · rename_i l' hall
      exact acted_of_sendAll hall
    · rfl
  | ping =>
    unfold handleMessage
    dsimp only
    cases hsend : (l.acts .answerPing).send (.text "\x7b\"type\":\"pong\"\x7d") with
    | none => rfl
    | some l' => exact acted_of_send hsend
  | pong => exact (List.append_nil _).symm

/-- The loop does for a frame what it says. -/
lemma acted_readBranch (b : Board) (frame : WsFrame) (l : WsLoop) :
    (l.readBranch b (.ok (some frame))).acted = l.acted ++ frame.acts := by
  cases frame with
  | text s =>
    unfold readBranch WsFrame.acts
    dsimp only
    cases parseMessage s with
    | none => exact (List.append_nil _).symm
    | some msg =>
      dsimp only
      rw [acted_handleMessage]
      cases msg <;> rfl
  | ping data => exact acted_sendOrLeave _ _
  | binary | pong | close => exact (List.append_nil _).symm

@[simp] lemma acted_liveBranch (b : Board) (msg : LiveMessage) (l : WsLoop) :
    (l.liveBranch b msg).acted = l.acted := by
  cases msg with
  | event ev =>
    unfold liveBranch
    dsimp only
    split
    · cases eventJson ev with
      | none => rfl
      | some json => exact acted_sendOrLeave _ _
    · rfl
  | lagged =>
    unfold liveBranch
    dsimp only
    cases resetJson b.seq with
    | none => rfl
    | some json => exact acted_sendOrLeave _ _
  | ended => rfl

end WsLoop

namespace Connection

variable [WsCrates] {c : Connection} {e : ConnEvent} {read rest : List ClientFrame}

/-! ## No byte comes back -/

lemma size_step_le (c : Connection) (e : ConnEvent) : (c.step e).side.size ≤ c.side.size := by
  unfold step
  split
  · cases e with
    | readable n b =>
      dsimp only
      split
      · dsimp only
        rw [ReadSide.size_finish, ReadSide.size_poll]
      · exact (ReadSide.size_poll _ _).le
    | tick =>
      have hsize := c.side.size_restart
      dsimp only
      omega
    | live msg b =>
      have hsize := c.side.size_restart
      dsimp only
      split
      · dsimp only
        omega
      · exact Nat.le_refl _
    | hangUp | writerEnds => exact Nat.le_refl _
  · exact Nat.le_refl _

/-- A step that loses no byte dropped no read that had taken one. -/
lemma keepsRead_of_size (h : (c.step e).side.size = c.side.size) : KeepsRead c e := by
  have hsize := c.side.size_restart
  cases e with
  | readable | hangUp | writerEnds => trivial
  | tick =>
    intro hlooping
    unfold step at h
    rw [if_pos hlooping] at h
    dsimp only at h
    exact List.eq_nil_of_length_eq_zero (by omega)
  | live msg b =>
    intro hlooping hsubscribed
    unfold step at h
    rw [if_pos hlooping] at h
    dsimp only at h
    rw [if_pos hsubscribed] at h
    dsimp only at h
    exact List.eq_nil_of_length_eq_zero (by omega)

/-! ## The read in progress has taken its bytes from the start of a frame -/

/-- The read in progress is where the bytes that it has taken lead, and is still waiting. -/
def Suspended (c : Connection) : Prop :=
  c.loop.looping = true → c.side.reading = (readFrame.start.poll c.side.got).1 ∧
    c.side.reading.result? = none

omit [WsCrates] in
lemma suspended_start (bytes : Bytes) : Suspended (start bytes) := fun _ => ⟨rfl, rfl⟩

omit [WsCrates] in
/-- The bytes that are polled come after those that the read has taken. -/
lemma Suspended.poll_append (hc : Suspended c) (hlooping : c.loop.looping = true) (input : Bytes) :
    c.side.reading.poll input = readFrame.start.poll (c.side.got ++ input) := by
  obtain ⟨hreading, hpending⟩ := hc hlooping
  rw [hreading] at hpending
  rw [Reading.poll_append, Reading.rest_eq_nil_of_pending hpending, List.nil_append, ← hreading]

lemma Suspended.step (hc : Suspended c) (e : ConnEvent) : Suspended (c.step e) := by
  unfold Connection.step
  split
  · rename_i hlooping
    cases e with
    | readable n b =>
      obtain ⟨used, left, -, hleft, hpoll⟩ := c.side.poll_eq n
      dsimp only
      split
      · rename_i res hres
        rcases res with e | _ | frame
        · exact fun h => by cases h
        · exact fun h => by cases h
        · exact fun _ => ⟨rfl, rfl⟩
      · rename_i hres
        intro _
        refine ⟨?_, hres⟩
        rw [hpoll] at hres ⊢
        dsimp only at hres ⊢
        have hnil : left = [] := hleft ▸ Reading.rest_eq_nil_of_pending hres
        rw [hc.poll_append hlooping, hnil, List.append_nil]
    | tick => exact fun _ => ⟨rfl, rfl⟩
    | live msg b =>
      dsimp only
      split
      · exact fun _ => ⟨rfl, rfl⟩
      · exact hc
    | hangUp => exact fun h => by cases h
    | writerEnds => exact hc
  · exact hc

/-! ## Frames are read one after the other -/

lemma HasRead.congr {c' : Connection} (h : HasRead read rest c)
    (hdecoded : c'.side.decoded = c.side.decoded) (hacted : c'.loop.acted = c.loop.acted)
    (hbytes : c'.side.got ++ c'.side.unread = c.side.got ++ c.side.unread)
    (hgot : c'.side.got.length ≤ c.side.got.length) : HasRead read rest c' where
  decoded_eq := by rw [hdecoded, h.decoded_eq]
  acted_eq := by rw [hacted, h.acted_eq]
  bytes_eq := by rw [hbytes, h.bytes_eq]
  partly f hf := Nat.lt_of_le_of_lt hgot (h.partly f hf)

/-- Restarting a read that has taken nothing changes nothing. -/
lemma HasRead.restart {l : WsLoop} (h : HasRead read rest c) (hgot : c.side.got = [])
    (hacted : l.acted = c.loop.acted) :
    HasRead read rest { side := c.side.restart, loop := l } :=
  h.congr rfl hacted (by rw [hgot]; rfl) (Nat.zero_le _)

omit [WsCrates] in
/-- The bytes after which the reader returns on a frame of the client, and what it returns. -/
lemma exists_takes (f : ClientFrame) (hwhole : f.Whole) :
    (∃ frame, f.frame? = some frame ∧ readFrame.Takes f.encode (.ok (some frame))) ∨
      ∃ bytes, bytes <+: f.encode ∧ bytes.length < f.encode.length ∧
        readFrame.Takes bytes (.error .frameTooLarge) := by
  by_cases hmax : f.payload.length ≤ maxPayload
  · exact Or.inl (ClientFrame.readFrame_takes_encode hwhole hmax)
  · refine Or.inr ⟨f.header, List.prefix_append _ _, ?_,
      ClientFrame.readFrame_takes_header (Nat.lt_of_not_le hmax)⟩
    have hmask := f.mask_length
    rw [ClientFrame.encode, List.length_append, List.length_append]
    omega

/-- A poll of the read in progress reads on in the present frame, or ends it. -/
lemma HasRead.readable {f : ClientFrame} (h : HasRead read (f :: rest) c) (hc : Suspended c)
    (hlooping : c.loop.looping = true) (hwhole : f.Whole) (n : ℕ) (b : Board) :
    HasRead read (f :: rest) (c.step (.readable n b)) ∨
      HasRead (read ++ [f]) rest (c.step (.readable n b)) := by
  obtain ⟨used, left, htake, hleft, hpoll⟩ := c.side.poll_eq n
  have hbytes := c.side.poll_bytes n
  have hinput : c.side.got ++ (used ++ left) <+: f.encode ++ encodeAll rest := by
    have hall := h.bytes_eq
    rw [encodeAll, List.flatMap_cons] at hall
    rw [encodeAll, ← hall, htake]
    exact (List.prefix_append_right_inj _).2 (List.take_prefix _ _)
  have hreading := hc.poll_append hlooping (used ++ left)
  have hside : (c.side.poll n).reading = (readFrame.start.poll (c.side.got ++ (used ++ left))).1 := by
    rw [hpoll, ← hreading]
  have hrest : (readFrame.start.poll (c.side.got ++ (used ++ left))).2 = left := by
    rw [← hreading, hleft]
  have hgot : (c.side.poll n).got = c.side.got ++ used := by rw [hpoll]
  unfold Connection.step
  rw [if_pos hlooping]
  dsimp only
  cases hres : (c.side.poll n).reading.result? with
  | none =>
    left
    rw [hside] at hres
    have hnil : left = [] := hrest ▸ Reading.rest_eq_nil_of_pending hres
    have hlt : (c.side.got ++ (used ++ left)).length < f.encode.length := by
      rcases exists_takes f hwhole with ⟨frame, -, htakes⟩ | ⟨bytes, hpre, hlt, htakes⟩
      · exact htakes.length_lt (List.prefix_append _ _) hinput hres
      · exact (htakes.length_lt (hpre.trans (List.prefix_append _ _)) hinput hres).trans hlt
    refine ⟨h.decoded_eq, h.acted_eq, by rw [hbytes, h.bytes_eq], ?_⟩
    rintro f' ⟨rfl⟩
    dsimp only
    rw [hgot]
    rwa [hnil, List.append_nil] at hlt
  | some res =>
    rw [hside] at hres
    dsimp only
    rcases exists_takes f hwhole with ⟨frame, hframe, htakes⟩ | ⟨bytes, hpre, hlt, htakes⟩
    · right
      obtain ⟨rfl, htaken⟩ := htakes.of_result (List.prefix_append _ _) hinput hres
      rw [hrest, ← List.append_assoc, List.append_cancel_right_eq] at htaken
      refine ⟨?_, ?_, ?_, ?_⟩
      · change List.map _ ((c.side.poll n).decoded ++ [((c.side.poll n).got, frame)]) = _
        rw [ReadSide.poll_decoded, List.map_append, h.decoded_eq, List.map_append, hgot, ← htaken]
        rw [List.map_singleton, List.map_singleton, hframe]
      · rw [WsLoop.acted_readBranch, h.acted_eq, List.flatMap_append, List.flatMap_singleton,
          ClientFrame.acts, hframe]
        rfl
      · change [] ++ (c.side.poll n).unread = _
        have hall := h.bytes_eq
        rw [encodeAll, List.flatMap_cons, ← hbytes, hgot, ← htaken,
          List.append_cancel_left_eq] at hall
        exact hall
      · intro f' hf'
        change 0 < f'.encode.length
        rw [ClientFrame.encode, List.length_append, List.length_append, f'.mask_length]
        omega
    · left
      obtain ⟨rfl, htaken⟩ := htakes.of_result (hpre.trans (List.prefix_append _ _)) hinput hres
      rw [hrest, ← List.append_assoc, List.append_cancel_right_eq] at htaken
      refine ⟨h.decoded_eq, h.acted_eq, ?_, ?_⟩
      · change (c.side.poll n).got ++ (c.side.poll n).unread = _
        rw [hbytes, h.bytes_eq]
      · rintro f' ⟨rfl⟩
        change (c.side.poll n).got.length < _
        rw [hgot, ← htaken]
        exact hlt

/-- With no frame left there is nothing to be polled. -/
lemma HasRead.readable_nil (h : HasRead read [] c) (hc : Suspended c)
    (hlooping : c.loop.looping = true) (n : ℕ) (b : Board) :
    HasRead read [] (c.step (.readable n b)) := by
  obtain ⟨hgot, hunread⟩ := List.append_eq_nil_iff.1 h.bytes_eq
  obtain ⟨used, left, htake, -, hpoll⟩ := c.side.poll_eq n
  rw [hunread, List.take_nil, List.append_eq_nil_iff] at htake
  obtain ⟨rfl, rfl⟩ := htake
  have hpending : (c.side.poll n).reading.result? = none := by
    rw [hpoll]
    dsimp only
    rw [List.append_nil, hc.poll_append hlooping, hgot]
    rfl
  unfold Connection.step
  rw [if_pos hlooping]
  dsimp only
  rw [hpending]
  refine h.congr rfl rfl (c.side.poll_bytes n) ?_
  dsimp only
  rw [hpoll]
  dsimp only
  rw [List.append_nil]

/-- What a step that keeps the read in progress has read afterwards. -/
lemma ReadsFrames.step {frames : List ClientFrame} (hwhole : ∀ f ∈ frames, f.Whole)
    (h : ReadsFrames frames c) (hc : Suspended c) (hkeep : KeepsRead c e) :
    ReadsFrames frames (c.step e) := by
  obtain ⟨read, rest, rfl, hread⟩ := h
  by_cases hlooping : c.loop.looping = true
  · cases e with
    | readable n b =>
      cases rest with
      | nil => exact ⟨read, [], rfl, hread.readable_nil hc hlooping n b⟩
      | cons f rest =>
        have hf := hwhole f (List.mem_append_right _ List.mem_cons_self)
        rcases hread.readable hc hlooping hf n b with h | h
        · exact ⟨read, f :: rest, rfl, h⟩
        · exact ⟨read ++ [f], rest, by rw [List.append_assoc, List.singleton_append], h⟩
    | tick =>
      refine ⟨read, rest, rfl, ?_⟩
      unfold Connection.step
      rw [if_pos hlooping]
      exact hread.restart (hkeep hlooping) (WsLoop.acted_tickBranch _)
    | live msg b =>
      refine ⟨read, rest, rfl, ?_⟩
      unfold Connection.step
      rw [if_pos hlooping]
      dsimp only
      split
      · rename_i hsubscribed
        exact hread.restart (hkeep hlooping hsubscribed) (WsLoop.acted_liveBranch _ _ _)
      · exact hread
    | hangUp | writerEnds =>
      refine ⟨read, rest, rfl, ?_⟩
      unfold Connection.step
      rw [if_pos hlooping]
      exact hread.congr rfl rfl rfl (Nat.le_refl _)
  · refine ⟨read, rest, rfl, ?_⟩
    unfold Connection.step
    rwa [if_neg hlooping]

lemma readsFrames_start (frames : List ClientFrame) :
    ReadsFrames frames (start (encodeAll frames)) := by
  refine ⟨[], frames, rfl, rfl, rfl, rfl, fun f _ => ?_⟩
  change 0 < f.encode.length
  rw [ClientFrame.encode, List.length_append, List.length_append, f.mask_length]
  omega

/-- A connection that has read the frames has lost none of their bytes. -/
lemma ReadsFrames.size_eq {frames : List ClientFrame} (h : ReadsFrames frames c) :
    c.side.size = (encodeAll frames).length := by
  obtain ⟨read, rest, rfl, hread⟩ := h
  have hdecoded := congrArg (fun ds => (ds.map fun d => d.1.length).sum) hread.decoded_eq
  simp only [List.map_map] at hdecoded
  unfold ReadSide.size
  rw [hread.bytes_eq, encodeAll, encodeAll, List.flatMap_append, List.length_append,
    List.length_flatMap (l := read)]
  exact congrArg (· + _) hdecoded

/-- For all client frames that are whole messages, over every run, however the bytes come in and
whenever ticks and events of the board come in between: the connection reads exactly the frames,
in order, and does for each once what it says, if and only if no tick and no event wins while a
frame is partly read. -/
theorem readsFrames_iff (frames : List ClientFrame) (hwhole : ∀ f ∈ frames, f.Whole)
    (events : List ConnEvent) :
    ReadsFrames frames (after step (start (encodeAll frames)) events) ↔
      Meets step KeepsRead (start (encodeAll frames)) events := by
  constructor
  · intro h
    have hstart := (readsFrames_start frames).size_eq
    apply meets_of_measure (μ := fun c => c.side.size) size_step_le fun c e => keepsRead_of_size
    exact (hstart.trans h.size_eq.symm).le
  · intro h
    have hinv := Meets.invariant (I := fun c => ReadsFrames frames c ∧ Suspended c)
      (fun c e hI hkeep => ⟨hI.1.step hwhole hI.2 hkeep, hI.2.step e⟩)
      ⟨readsFrames_start frames, suspended_start _⟩ h
    exact hinv.1

end Connection

/-! ## Lost bytes -/

namespace Connection

/-- A JSON library that knows the message of a ping. -/
abbrev pingCrates : WsCrates where
  parseMessage s := if s = "\x7b\"type\":\"ping\"\x7d" then some .ping else none
  eventJson _ := none
  resetJson _ := none

/-- A client asks for a pong. -/
def pingFrame : ClientFrame where
  fin := true
  opcode := .text
  mask := [0x12, 0x34, 0x56, 0x78]
  payload := asBytes "\x7b\"type\":\"ping\"\x7d"
  mask_length := rfl
  payload_length := by decide +kernel
  text_isSome := fun _ _ => by
    rw [fromUtf8?_asBytes]
    rfl

def idleBoard : Board := .new Schema.default (fun n _ => n) fun _ => true

/-- The first tick comes when the header of the frame has been read. -/
def tornRun : List ConnEvent :=
  [.readable 2 idleBoard, .tick, .readable 21 idleBoard]

/-- The frame is read when the tick comes before it. -/
def evenRun : List ConnEvent :=
  [.readable 0 idleBoard, .tick, .readable 21 idleBoard]

/-- The connection of the client that asks for a pong. -/
def pingConnection (events : List ConnEvent) : Connection :=
  after (@step pingCrates) (start (encodeAll [pingFrame])) events

theorem readsFrames_iff_evenRun : [pingFrame].all (fun f => decide f.Whole) = true ∧
    Meets (@step pingCrates) KeepsRead (start (encodeAll [pingFrame])) evenRun ∧
      @ReadsFrames pingCrates [pingFrame] (pingConnection evenRun) := by
  have hwhole : ∀ f ∈ [pingFrame], f.Whole := by
    intro f hf
    rw [List.mem_singleton.1 hf]
    exact ⟨rfl, by decide⟩
  have hmeets : Meets (@step pingCrates) KeepsRead (start (encodeAll [pingFrame])) evenRun := by
    decide +kernel
  exact ⟨by decide +kernel, hmeets, (@readsFrames_iff pingCrates [pingFrame] hwhole evenRun).2 hmeets⟩

/-- The tick drops the read of the header, and the ping is never answered. -/
theorem not_readsFrames_tornRun :
    ¬@ReadsFrames pingCrates [pingFrame] (pingConnection tornRun) ∧
      (pingConnection tornRun).side.unread = [] ∧ (pingConnection tornRun).loop.acted = [] := by
  refine ⟨fun h => ?_, by decide +kernel, by decide +kernel⟩
  have hsize := @ReadsFrames.size_eq pingCrates _ _ h
  have hlost : (pingConnection tornRun).side.size ≠ (encodeAll [pingFrame]).length := by
    decide +kernel
  exact hlost hsize

end Connection

end Sandboard

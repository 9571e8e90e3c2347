import Sandboard.Ws.Frames

/-!
# The codec of WebSocket frames

What `writeFrame` writes is read back by `readFrame`, also after a client has masked it
(`applyMask`), and a stream of such frames is read as their sequence (`codec_roundtrip`).
-/

namespace Sandboard

/-- How many bytes of a written frame come before its payload. -/
def WsFrame.headerLength (frame : WsFrame) : ℕ := 2 + (lenTail frame.payload.length).length

/-- A client's mask on the bytes of a frame: the mask bit is set, the mask follows the header, and
the payload is masked. -/
def applyMask (mask : Bytes) (headerLength : ℕ) (bytes : Bytes) : Bytes :=
  (bytes.take headerLength).modify 1 (0x80 ||| ·) ++
    (mask ++ unmask (some mask) (bytes.drop headerLength))

/-- A frame on the wire, masked or not, whose payload is not too large to be read. -/
structure WireFrame where
  frame : WsFrame
  mask : Option Bytes
  mask_length : ∀ m ∈ mask, m.length = 4
  payload_length : frame.payload.length ≤ maxPayload

/-- The bytes of the frame. -/
def WireFrame.bytes (f : WireFrame) : Bytes :=
  match f.mask with
  | none => writeFrame f.frame
  | some mask => applyMask mask f.frame.headerLength (writeFrame f.frame)

/-- So many frames one after the other, or fewer when the stream ends before. -/
def readFrames : ℕ → Reader UInt8 ReadError (List WsFrame)
  | 0 => return []
  | n + 1 => do
    match ← readFrame with
    | none => return []
    | some frame => return frame :: (← readFrames n)

/-! ## One frame -/

/-- The mask bit goes into the second byte and the mask before the payload. -/
lemma applyMask_writeFrame (mask : Bytes) (frame : WsFrame) :
    applyMask mask frame.headerLength (writeFrame frame) =
      [frame.opcode, 0x80 ||| UInt8.ofNat (lenCode frame.payload.length)] ++
        (lenTail frame.payload.length ++ (mask ++ unmask (some mask) frame.payload)) := by
  have hlen : ([frame.opcode, UInt8.ofNat (lenCode frame.payload.length)] ++
      lenTail frame.payload.length).length = frame.headerLength := by
    unfold WsFrame.headerLength
    rw [List.length_append]
    rfl
  unfold applyMask writeFrame
  rw [List.take_left' hlen, List.drop_left' hlen, ← List.append_assoc [frame.opcode, _]]
  rfl

/-- What the reader makes of the payload of a written frame. -/
lemma WsFrame.decodeFrame_payload (frame : WsFrame) :
    decodeFrame (frame.opcode &&& 0x0F) frame.payload = .ok (some frame) := by
  rw [frame.opcode_low, decodeFrame_code]
  cases frame with
  | text s =>
    dsimp only [WsFrame.kind, WsFrame.payload]
    rw [fromUtf8?_asBytes]
  | binary | ping | pong | close => rfl

/-- A masked frame is read back as the frame that was written. -/
lemma readFrame_takes_applyMask {mask : Bytes} (hmask : mask.length = 4) (frame : WsFrame)
    (hmax : frame.payload.length ≤ maxPayload) :
    readFrame.Takes (applyMask mask frame.headerLength (writeFrame frame)) (.ok (some frame)) := by
  obtain ⟨hbits, hmasked, -, -⟩ := lenBits ⟨_, lenCode_lt frame.payload.length⟩
  have hlen : ∀ m ∈ some mask, m.length = 4 := by
    rintro m ⟨rfl⟩
    exact hmask
  have hbody := readBody_takes frame.opcode (some mask) rfl hmax hbits hmasked hlen
  rw [frame.decodeFrame_payload] at hbody
  rw [applyMask_writeFrame]
  exact readFrame_takes hbody

namespace WireFrame

/-- A frame on the wire is read as the frame that was written. -/
lemma readFrame_takes_bytes (f : WireFrame) : readFrame.Takes f.bytes (.ok (some f.frame)) := by
  unfold bytes
  split
  · exact readFrame_takes_writeFrame f.frame f.payload_length
  · rename_i mask heq
    exact readFrame_takes_applyMask (f.mask_length mask heq) f.frame f.payload_length

/-! ## A sequence of frames -/

/-- Frames one after the other are read one after the other. -/
lemma readFrames_takes_bytes (sent : List WireFrame) :
    (readFrames sent.length).Takes (sent.flatMap bytes) (.ok (sent.map frame)) := by
  induction sent with
  | nil => exact Reader.Takes.pure []
  | cons f sent ih =>
    have hrest : (readFrames sent.length >>= fun frames =>
        (pure (f.frame :: frames) : Reader UInt8 ReadError _)).Takes
        (sent.flatMap bytes ++ []) (.ok (f.frame :: sent.map frame)) :=
      ih.bind (Reader.Takes.pure _)
    rw [List.append_nil] at hrest
    rw [List.flatMap_cons]
    exact f.readFrame_takes_bytes.bind hrest

/-- A stream that ends after the frames is read as these, by a loop that goes on to its end. -/
lemma readFrames_runToEnd (sent : List WireFrame) {n : ℕ} (hn : sent.length < n) :
    (readFrames n).runToEnd (sent.flatMap bytes) = (.ok (sent.map frame), []) := by
  induction sent generalizing n with
  | nil =>
    obtain ⟨n, rfl⟩ := Nat.exists_eq_add_one_of_ne_zero (Nat.ne_of_gt hn)
    rfl
  | cons f sent ih =>
    obtain ⟨n, rfl⟩ := Nat.exists_eq_add_one_of_ne_zero (Nat.ne_of_gt (Nat.zero_lt_of_lt hn))
    have hsent : sent.length < n := Nat.lt_of_succ_lt_succ hn
    have hframe := f.readFrame_takes_bytes.runToEnd (sent.flatMap bytes)
    have hrest := Reader.runToEnd_bind (readFrames n)
      (fun frames => (pure (f.frame :: frames) : Reader UInt8 ReadError _)) (ih hsent)
    rw [List.flatMap_cons]
    exact (Reader.runToEnd_bind readFrame _ hframe).trans hrest

end WireFrame

/-- A frame of at most 10 MiB is read back from the bytes it is written as, after exactly these,
whether or not a client has masked them.  Frames one after the other are read as their sequence,
whatever follows, and so is a stream of them to its end. -/
theorem codec_roundtrip :
    (∀ frame : WsFrame, frame.payload.length ≤ maxPayload →
      readFrame.Takes (writeFrame frame) (.ok (some frame)) ∧
      ∀ mask : Bytes, mask.length = 4 →
        readFrame.Takes (applyMask mask frame.headerLength (writeFrame frame))
          (.ok (some frame))) ∧
    ∀ sent : List WireFrame,
      (readFrames sent.length).Takes (sent.flatMap WireFrame.bytes)
        (.ok (sent.map WireFrame.frame)) ∧
      ∀ n > sent.length, (readFrames n).runToEnd (sent.flatMap WireFrame.bytes) =
        (.ok (sent.map WireFrame.frame), []) := by
  refine ⟨?_, ?_⟩
  · intro frame hmax
    exact ⟨readFrame_takes_writeFrame frame hmax,
      fun mask hmask => readFrame_takes_applyMask hmask frame hmax⟩
  · intro sent
    exact ⟨WireFrame.readFrames_takes_bytes sent, fun n hn => WireFrame.readFrames_runToEnd sent hn⟩

end Sandboard

import Mathlib.Algebra.GroupWithZero.Nat
import Sandboard.Library.Reader
import Sandboard.OAuth.Tokens

/-!
# WebSocket frames

`readFrame` is the program's reader of one frame, `writeFrame` its writer.  A frame that a client
sends is masked; `ClientFrame.encode` is its bytes and `ClientFrame.frame?` what it says, when it
is a whole message.  The reader takes exactly the bytes of a frame and returns what it says
(`readFrame_takes_encode`), unless its payload is too large, which it finds out before the mask
(`readFrame_takes_header`).
-/

namespace Sandboard

inductive WsFrame where
  | text (text : String)
  | binary (data : Bytes)
  | ping (data : Bytes)
  | pong (data : Bytes)
  | close
  deriving DecidableEq

/-- Why a frame cannot be read. -/
inductive ReadError where
  | unexpectedEof
  | frameTooLarge
  | invalidUtf8
  deriving DecidableEq

/-- `u16::from_be_bytes` and `u64::from_be_bytes`. -/
def fromBeBytes (bytes : Bytes) : ℕ := bytes.foldl (fun n b => n * 256 + b.toNat) 0

/-- `to_be_bytes` of a number of so many bytes. -/
def toBeBytes : ℕ → ℕ → Bytes
  | 0, _ => []
  | width + 1, n => toBeBytes width (n / 256) ++ [UInt8.ofNat n]

/-- The longest payload that is read. -/
def maxPayload : ℕ := 10 * 1024 * 1024

/-- Each byte of the payload with the byte of the mask that is its turn. -/
def unmask : Option Bytes → Bytes → Bytes
  | none, payload => payload
  | some mask, payload => payload.mapIdx fun i b => b ^^^ mask.getD (i % 4) 0

/-! ## Reading -/

/-- The length of the payload, which is in the header or in the bytes after it. -/
def readLen (len : UInt8) : Reader UInt8 ReadError ℕ :=
  if len = 126 then do return fromBeBytes (← .readExactOr 2 .unexpectedEof)
  else if len = 127 then do return fromBeBytes (← .readExactOr 8 .unexpectedEof)
  else return len.toNat

def readMask (masked : Bool) : Reader UInt8 ReadError (Option Bytes) :=
  if masked then do return some (← .readExactOr 4 .unexpectedEof)
  else return none

def readPayload (len : ℕ) : Reader UInt8 ReadError Bytes :=
  if len > 0 then .readExactOr len .unexpectedEof else return []

/-- The frame of an opcode. -/
def decodeFrame (opcode : UInt8) (payload : Bytes) : Except ReadError (Option WsFrame) :=
  if opcode = 0x1 then
    match fromUtf8? payload with
    | some text => .ok (some (.text text))
    | none => .error .invalidUtf8
  else if opcode = 0x2 then .ok (some (.binary payload))
  else if opcode = 0x8 then .ok (some .close)
  else if opcode = 0x9 then .ok (some (.ping payload))
  else if opcode = 0xA then .ok (some (.pong payload))
  else .ok (some (.pong []))

/-- What is read after the two bytes of the header. -/
def readBody (first second : UInt8) : Reader UInt8 ReadError (Option WsFrame) := do
  let len ← readLen (second &&& 0x7F)
  if len > maxPayload then Reader.throw .frameTooLarge
  else
    let mask ← readMask (second &&& 0x80 != 0)
    let payload ← readPayload len
    .done (decodeFrame (first &&& 0x0F) (unmask mask payload))

/-- One frame, or nothing when the stream has ended before it. -/
def readFrame : Reader UInt8 ReadError (Option WsFrame) := do
  match ← Reader.readExact? 2 with
  | none => return none
  | some header => readBody (header.getD 0 0) (header.getD 1 0)

/-! ## Writing -/

/-- The kinds of frames. -/
inductive Opcode where
  | continuation
  | text
  | binary
  | close
  | ping
  | pong
  deriving DecidableEq

def Opcode.code : Opcode → UInt8
  | continuation => 0x0
  | text => 0x1
  | binary => 0x2
  | close => 0x8
  | ping => 0x9
  | pong => 0xA

/-- The seven bits of the header that say how long the payload is. -/
def lenCode (len : ℕ) : ℕ := if len < 126 then len else if len ≤ 65535 then 126 else 127

/-- The bytes after the header that say how long the payload is. -/
def lenTail (len : ℕ) : Bytes :=
  if len < 126 then [] else if len ≤ 65535 then toBeBytes 2 len else toBeBytes 8 len

def WsFrame.opcode : WsFrame → UInt8
  | text _ => 0x81
  | binary _ => 0x82
  | ping _ => 0x89
  | pong _ => 0x8A
  | close => 0x88

/-- The frame's opcode without the bit of the last part. -/
def WsFrame.kind : WsFrame → Opcode
  | text _ => .text
  | binary _ => .binary
  | ping _ => .ping
  | pong _ => .pong
  | close => .close

def WsFrame.payload : WsFrame → Bytes
  | text s => asBytes s
  | binary data | ping data | pong data => data
  | close => []

/-- The bytes of a frame of the server. -/
def writeFrame (frame : WsFrame) : Bytes :=
  [frame.opcode, UInt8.ofNat (lenCode frame.payload.length)] ++ lenTail frame.payload.length ++
    frame.payload

/-! ## What a client sends -/

/-- A well-formed frame of a client. -/
structure ClientFrame where
  fin : Bool
  opcode : Opcode
  mask : Bytes
  payload : Bytes
  mask_length : mask.length = 4
  payload_length : payload.length < 2 ^ 64
  /-- The text of a message in one frame is UTF-8. -/
  text_isSome : fin = true → opcode = .text → (fromUtf8? payload).isSome

namespace ClientFrame

def firstByte (f : ClientFrame) : UInt8 := (if f.fin then 0x80 else 0) ||| f.opcode.code

/-- The bytes before the mask. -/
def header (f : ClientFrame) : Bytes :=
  [f.firstByte, 0x80 ||| UInt8.ofNat (lenCode f.payload.length)] ++ lenTail f.payload.length

/-- The bytes of the frame. -/
def encode (f : ClientFrame) : Bytes :=
  f.header ++ (f.mask ++ unmask (some f.mask) f.payload)

/-- The frame is a message of its own, not a part of one. -/
def Whole (f : ClientFrame) : Prop := f.fin = true ∧ f.opcode ≠ .continuation

instance (f : ClientFrame) : Decidable f.Whole :=
  inferInstanceAs (Decidable (_ ∧ _))

/-- What a whole frame says. -/
def frame? (f : ClientFrame) : Option WsFrame :=
  if f.fin then
    match f.opcode with
    | .continuation => none
    | .text => (fromUtf8? f.payload).map .text
    | .binary => some (.binary f.payload)
    | .close => some .close
    | .ping => some (.ping f.payload)
    | .pong => some (.pong f.payload)
  else none

end ClientFrame

/-! ## Bytes of numbers -/

lemma toBeBytes_length (width n : ℕ) : (toBeBytes width n).length = width := by
  induction width generalizing n with
  | zero => rfl
  | succ width ih => rw [toBeBytes, List.length_append, ih, List.length_singleton]

/-- A number that fits into the bytes is read back from them. -/
lemma fromBeBytes_toBeBytes {width n : ℕ} (hn : n < 256 ^ width) :
    fromBeBytes (toBeBytes width n) = n := by
  induction width generalizing n with
  | zero =>
    rw [Nat.pow_zero, Nat.lt_one_iff] at hn
    rw [hn]
    rfl
  | succ width ih =>
    have hdiv : n / 256 < 256 ^ width := by
      rw [Nat.pow_succ] at hn
      exact Nat.div_lt_of_lt_mul (Nat.mul_comm _ _ ▸ hn)
    have hlow : (UInt8.ofNat n).toNat = n % 256 := UInt8.toNat_ofNat'
    have hrest : (toBeBytes width (n / 256)).foldl (fun n b => n * 256 + b.toNat) 0 = n / 256 :=
      ih hdiv
    rw [toBeBytes, fromBeBytes, List.foldl_append, hrest, List.foldl_cons, List.foldl_nil, hlow]
    omega

lemma lenCode_lt (len : ℕ) : lenCode len < 128 := by
  unfold lenCode
  split
  · omega
  · split <;> decide

/-- The length bits of a header, with and without the mask bit. -/
lemma lenBits : ∀ code : Fin 128,
    (0x80 ||| UInt8.ofNat code) &&& 0x7F = UInt8.ofNat code ∧
      ((0x80 ||| UInt8.ofNat code) &&& 0x80 != 0) = true ∧
      UInt8.ofNat code &&& 0x7F = UInt8.ofNat code ∧
      (UInt8.ofNat code &&& 0x80 != 0) = false := by
  decide

lemma xor_xor_self (a b : UInt8) : (a ^^^ b) ^^^ b = a := by
  rw [UInt8.xor_assoc, UInt8.xor_self, UInt8.xor_zero]

@[simp] lemma length_unmask (mask : Option Bytes) (payload : Bytes) :
    (unmask mask payload).length = payload.length := by
  cases mask with
  | none => rfl
  | some mask => exact List.length_mapIdx

/-- The mask undoes itself. -/
lemma unmask_unmask (mask : Option Bytes) (payload : Bytes) :
    unmask mask (unmask mask payload) = payload := by
  cases mask with
  | none => rfl
  | some mask =>
    unfold unmask
    apply List.ext_getElem
    · rw [List.length_mapIdx, List.length_mapIdx]
    · intro i h₁ h₂
      rw [List.getElem_mapIdx, List.getElem_mapIdx, xor_xor_self]

/-- What is made of each opcode. -/
lemma decodeFrame_code (opcode : Opcode) (payload : Bytes) :
    decodeFrame opcode.code payload = match opcode with
      | .continuation => .ok (some (.pong []))
      | .text => match fromUtf8? payload with
        | some text => .ok (some (.text text))
        | none => .error .invalidUtf8
      | .binary => .ok (some (.binary payload))
      | .close => .ok (some .close)
      | .ping => .ok (some (.ping payload))
      | .pong => .ok (some (.pong payload)) := by
  cases opcode <;> simp [decodeFrame, Opcode.code]

lemma WsFrame.opcode_low (frame : WsFrame) : frame.opcode &&& 0x0F = frame.kind.code := by
  cases frame with
  | text => exact (by decide : (0x81 : UInt8) &&& 0x0F = 0x1)
  | binary => exact (by decide : (0x82 : UInt8) &&& 0x0F = 0x2)
  | ping => exact (by decide : (0x89 : UInt8) &&& 0x0F = 0x9)
  | pong => exact (by decide : (0x8A : UInt8) &&& 0x0F = 0xA)
  | close => exact (by decide : (0x88 : UInt8) &&& 0x0F = 0x8)

/-! ## A frame is read back -/

/-- The bytes of a length are read as that length. -/
lemma readLen_takes {len : ℕ} (hlen : len < 2 ^ 64) :
    (readLen (UInt8.ofNat (lenCode len))).Takes (lenTail len) (.ok len) := by
  unfold readLen lenCode lenTail
  by_cases hsmall : len < 126
  · have hnat : (UInt8.ofNat len).toNat = len := by
      rw [UInt8.toNat_ofNat']
      omega
    have h126 : UInt8.ofNat len ≠ 126 := by
      intro h
      rw [h] at hnat
      exact absurd hnat (by change 126 ≠ len; omega)
    have h127 : UInt8.ofNat len ≠ 127 := by
      intro h
      rw [h] at hnat
      exact absurd hnat (by change 127 ≠ len; omega)
    rw [if_pos hsmall, if_pos hsmall, if_neg h126, if_neg h127, hnat]
    exact Reader.Takes.pure len
  · rw [if_neg hsmall, if_neg hsmall]
    by_cases hmid : len ≤ 65535
    · have hread := Reader.Takes.readExactOr (e := ReadError.unexpectedEof)
        (toBeBytes_length 2 len)
      rw [if_pos hmid, if_pos hmid, if_pos (by decide), ← List.append_nil (toBeBytes 2 len)]
      apply hread.bind
      rw [fromBeBytes_toBeBytes (by omega)]
      exact Reader.Takes.pure len
    · have hread := Reader.Takes.readExactOr (e := ReadError.unexpectedEof)
        (toBeBytes_length 8 len)
      rw [if_neg hmid, if_neg hmid, if_neg (by decide), if_pos (by decide),
        ← List.append_nil (toBeBytes 8 len)]
      apply hread.bind
      rw [fromBeBytes_toBeBytes (by omega)]
      exact Reader.Takes.pure len

lemma readPayload_takes (payload : Bytes) :
    (readPayload payload.length).Takes payload (.ok payload) := by
  unfold readPayload
  cases payload with
  | nil => exact Reader.Takes.pure []
  | cons b payload =>
    rw [if_pos (List.length_pos_iff.2 (List.cons_ne_nil b payload))]
    exact Reader.Takes.readExactOr rfl

/-- After the header the reader takes the length, the mask and the payload. -/
lemma readBody_takes (first : UInt8) {second : UInt8} {len : ℕ} (mask : Option Bytes)
    {payload : Bytes}
    (hlen : payload.length = len) (hmax : len ≤ maxPayload)
    (hbits : second &&& 0x7F = UInt8.ofNat (lenCode len))
    (hmasked : (second &&& 0x80 != 0) = mask.isSome) (hmask : ∀ m ∈ mask, m.length = 4) :
    (readBody first second).Takes (lenTail len ++ (mask.getD [] ++ unmask mask payload))
      (decodeFrame (first &&& 0x0F) payload) := by
  have hlt : len < 2 ^ 64 := by
    unfold maxPayload at hmax
    omega
  have hread : (readMask (second &&& 0x80 != 0)).Takes (mask.getD []) (.ok mask) := by
    rw [hmasked]
    cases mask with
    | none => exact Reader.Takes.pure none
    | some m =>
      have hbytes := Reader.Takes.readExactOr (e := ReadError.unexpectedEof) (hmask m rfl)
      change (readMask true).Takes m _
      have h := hbytes.bind (k := fun got => pure (some got)) (Reader.Takes.pure (some m))
      rwa [List.append_nil] at h
  unfold readBody
  rw [hbits]
  apply (readLen_takes hlt).bind
  rw [if_neg (Nat.not_lt.2 hmax)]
  apply hread.bind
  have hpayload : (readPayload len).Takes (unmask mask payload) (.ok (unmask mask payload)) := by
    have h := readPayload_takes (unmask mask payload)
    rwa [length_unmask, hlen] at h
  rw [← List.append_nil (unmask mask payload)]
  apply hpayload.bind
  rw [unmask_unmask]
  exact fun _ => rfl

/-- A length that is too large is refused before the mask is read. -/
lemma readBody_refuses {first second : UInt8} {len : ℕ} (hlt : len < 2 ^ 64)
    (hmax : maxPayload < len) (hbits : second &&& 0x7F = UInt8.ofNat (lenCode len)) :
    (readBody first second).Takes (lenTail len) (.error .frameTooLarge) := by
  unfold readBody
  rw [hbits, ← List.append_nil (lenTail len)]
  apply (readLen_takes hlt).bind
  rw [if_pos hmax]
  exact Reader.Takes.throw _

/-- The reader takes the two bytes of the header first. -/
lemma readFrame_takes {first second : UInt8} {more : Bytes}
    {res : Except ReadError (Option WsFrame)} (h : (readBody first second).Takes more res) :
    readFrame.Takes ([first, second] ++ more) res := by
  have hheader : (Reader.readExact? 2 : Reader UInt8 ReadError _).Takes [first, second]
      (.ok (some [first, second])) := Reader.Takes.readExact? rfl
  unfold readFrame
  exact hheader.bind h

/-- What the server writes is read back as the frame it wrote. -/
theorem readFrame_takes_writeFrame (frame : WsFrame) (hmax : frame.payload.length ≤ maxPayload) :
    readFrame.Takes (writeFrame frame) (.ok (some frame)) := by
  obtain ⟨-, -, hbits, hmasked⟩ := lenBits ⟨_, lenCode_lt frame.payload.length⟩
  have hbody := readBody_takes frame.opcode none rfl hmax hbits hmasked
    nofun
  have hdecode : decodeFrame (frame.opcode &&& 0x0F) frame.payload = .ok (some frame) := by
    rw [frame.opcode_low, decodeFrame_code]
    cases frame with
    | text s =>
      dsimp only [WsFrame.kind, WsFrame.payload]
      rw [fromUtf8?_asBytes]
    | binary | ping | pong | close => rfl
  rw [hdecode] at hbody
  unfold writeFrame
  rw [List.append_assoc]
  exact readFrame_takes hbody

namespace ClientFrame

variable {f : ClientFrame}

/-- The reader makes of a whole frame what it says. -/
lemma decodeFrame_eq (hwhole : f.Whole) :
    ∃ frame, f.frame? = some frame ∧
      decodeFrame (f.firstByte &&& 0x0F) f.payload = .ok (some frame) := by
  obtain ⟨hfin, hop⟩ := hwhole
  have hcode : (0x80 ||| f.opcode.code) &&& 0x0F = f.opcode.code := by
    cases f.opcode <;> decide
  unfold frame? firstByte
  rw [if_pos hfin, if_pos hfin, hcode, decodeFrame_code]
  cases hopcode : f.opcode with
  | continuation => exact absurd hopcode hop
  | text =>
    obtain ⟨s, hs⟩ := Option.isSome_iff_exists.1 (f.text_isSome hfin hopcode)
    refine ⟨.text s, ?_, ?_⟩
    · dsimp only
      rw [hs, Option.map_some]
    · dsimp only
      rw [hs]
  | binary | close | ping | pong => exact ⟨_, rfl, rfl⟩

/-- A whole frame is read as what it says, after exactly its bytes. -/
theorem readFrame_takes_encode (hwhole : f.Whole) (hmax : f.payload.length ≤ maxPayload) :
    ∃ frame, f.frame? = some frame ∧ readFrame.Takes f.encode (.ok (some frame)) := by
  obtain ⟨frame, hframe, hdecode⟩ := decodeFrame_eq hwhole
  obtain ⟨hbits, hmasked, -, -⟩ := lenBits ⟨_, lenCode_lt f.payload.length⟩
  have hmask : ∀ m ∈ some f.mask, m.length = 4 := by
    rintro m ⟨rfl⟩
    exact f.mask_length
  have hbody := readBody_takes f.firstByte (some f.mask) rfl hmax hbits hmasked
    hmask
  rw [hdecode] at hbody
  refine ⟨frame, hframe, ?_⟩
  unfold encode header
  rw [List.append_assoc]
  exact readFrame_takes hbody

/-- A frame whose payload is too large is refused after its header. -/
theorem readFrame_takes_header (hmax : maxPayload < f.payload.length) :
    readFrame.Takes f.header (.error .frameTooLarge) := by
  obtain ⟨hbits, -, -, -⟩ := lenBits ⟨_, lenCode_lt f.payload.length⟩
  exact readFrame_takes (readBody_refuses f.payload_length hmax hbits)

end ClientFrame

end Sandboard

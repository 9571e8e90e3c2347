import Mathlib.Tactic.Common

/-!
# Percent coding

The percent coding of bytes: a byte of a safe set stands for itself, and any other is written as
a percent sign with two hexadecimal digits.  A decoder of forms reads a plus sign as a blank, and a
percent sign without two digits as itself.  It undoes every coding whose safe set has neither sign.
-/

namespace PercentCoding

def plus : UInt8 := 0x2B

def percent : UInt8 := 0x25

/-- The upper-case digit of a number below sixteen. -/
def hexByte (n : ℕ) : UInt8 := UInt8.ofNat (if n < 10 then 48 + n else 55 + n)

/-- The value of a hexadecimal digit of either case. -/
def hexValue (b : UInt8) : Option ℕ :=
  if 48 ≤ b.toNat ∧ b.toNat ≤ 57 then some (b.toNat - 48)
  else if 65 ≤ b.toNat ∧ b.toNat ≤ 70 then some (b.toNat - 55)
  else if 97 ≤ b.toNat ∧ b.toNat ≤ 102 then some (b.toNat - 87)
  else none

/-- A byte as it is written. -/
def encodeByte (safe : UInt8 → Bool) (b : UInt8) : List UInt8 :=
  if safe b then [b] else [percent, hexByte (b.toNat / 16), hexByte (b.toNat % 16)]

/-- The bytes as they are written. -/
def encode (safe : UInt8 → Bool) (bytes : List UInt8) : List UInt8 :=
  bytes.flatMap (encodeByte safe)

/-- The byte that two digits at the start stand for. -/
def escaped : List UInt8 → Option UInt8
  | hi :: lo :: _ => do
    let h ← hexValue hi
    let l ← hexValue lo
    pure (UInt8.ofNat (16 * h + l))
  | _ => none

/-- The bytes that a form reads, when so many at the start were read already. -/
def decodeFrom : ℕ → List UInt8 → List UInt8
  | _, [] => []
  | skip + 1, _ :: rest => decodeFrom skip rest
  | 0, b :: rest =>
    if b = plus then 0x20 :: decodeFrom 0 rest
    else if b = percent then
      match escaped rest with
      | some c => c :: decodeFrom 2 rest
      | none => b :: decodeFrom 0 rest
    else b :: decodeFrom 0 rest

/-- The bytes that a form reads. -/
def decode (bytes : List UInt8) : List UInt8 := decodeFrom 0 bytes

/-! ## Decoding what was encoded -/

lemma hexValue_hexByte {n : ℕ} (hn : n < 16) : hexValue (hexByte n) = some n := by
  have hall : ∀ n < 16, hexValue (hexByte n) = some n := by decide
  exact hall n hn

/-- What is written of a byte is safe, a percent sign or a digit. -/
lemma mem_encode {safe : UInt8 → Bool} {bytes : List UInt8} {b : UInt8}
    (h : b ∈ encode safe bytes) : safe b = true ∨ b = percent ∨ ∃ n < 16, b = hexByte n := by
  obtain ⟨c, -, hb⟩ := List.mem_flatMap.1 h
  unfold encodeByte at hb
  by_cases hc : safe c = true
  · rw [if_pos hc, List.mem_singleton] at hb
    exact Or.inl (hb ▸ hc)
  · have hsize : c.toNat < 256 := c.toNat_lt
    rw [if_neg hc, List.mem_cons, List.mem_cons, List.mem_singleton] at hb
    rcases hb with rfl | rfl | rfl
    · exact Or.inr (Or.inl rfl)
    · exact Or.inr (Or.inr ⟨c.toNat / 16, by omega, rfl⟩)
    · exact Or.inr (Or.inr ⟨c.toNat % 16, by omega, rfl⟩)

/-- A byte that is neither sign is read as itself. -/
lemma decode_cons {b : UInt8} (hplus : b ≠ plus) (hpercent : b ≠ percent) (rest : List UInt8) :
    decode (b :: rest) = b :: decode rest := by
  unfold decode
  rw [decodeFrom, if_neg hplus, if_neg hpercent]

/-- Bytes without the two signs are read as they are. -/
lemma decode_append {bytes : List UInt8} (hplus : plus ∉ bytes) (hpercent : percent ∉ bytes)
    (rest : List UInt8) : decode (bytes ++ rest) = bytes ++ decode rest := by
  induction bytes with
  | nil => rfl
  | cons b bytes ih =>
    rw [List.mem_cons, not_or] at hplus hpercent
    rw [List.cons_append, decode_cons (Ne.symm hplus.1) (Ne.symm hpercent.1),
      ih hplus.2 hpercent.2, List.cons_append]

lemma decode_encodeByte {safe : UInt8 → Bool} (hplus : safe plus = false)
    (hpercent : safe percent = false) (b : UInt8) (rest : List UInt8) :
    decode (encodeByte safe b ++ rest) = b :: decode rest := by
  unfold encodeByte
  by_cases hb : safe b = true
  · rw [if_pos hb]
    refine decode_cons ?_ ?_ rest
    · rintro rfl
      rw [hplus] at hb
      cases hb
    · rintro rfl
      rw [hpercent] at hb
      cases hb
  · have hsize : b.toNat < 256 := b.toNat_lt
    have hhi : hexValue (hexByte (b.toNat / 16)) = some (b.toNat / 16) :=
      hexValue_hexByte (by omega)
    have hlo : hexValue (hexByte (b.toNat % 16)) = some (b.toNat % 16) :=
      hexValue_hexByte (by omega)
    have hescaped : escaped (hexByte (b.toNat / 16) :: hexByte (b.toNat % 16) :: rest) = some b := by
      rw [escaped, hhi, hlo]
      change some (UInt8.ofNat (16 * (b.toNat / 16) + b.toNat % 16)) = some b
      rw [Nat.div_add_mod, UInt8.ofNat_toNat]
    rw [if_neg hb, List.cons_append, List.cons_append, List.cons_append, List.nil_append, decode,
      decodeFrom, if_neg (by decide), if_pos rfl, hescaped]
    rfl

/-- The decoder reads back what was written. -/
theorem decode_encode {safe : UInt8 → Bool} (hplus : safe plus = false)
    (hpercent : safe percent = false) (bytes : List UInt8) : decode (encode safe bytes) = bytes := by
  induction bytes with
  | nil => rfl
  | cons b bytes ih =>
    rw [encode, List.flatMap_cons, decode_encodeByte hplus hpercent]
    exact congrArg (b :: ·) ih

end PercentCoding

import Mathlib.Algebra.GroupWithZero.Nat
import Mathlib.Data.List.Basic

/-!
# Sums in machine words

An addition of machine words that overflows stops the program or wraps around, as the program was
built (`Overflow`).  A sum of words, taken one after the other, is the sum of the numbers exactly
when that fits into a word (`Overflow.sum_exact_iff`).
-/

/-- What an addition that overflows does. -/
inductive Overflow where
  | stops
  | wraps
  deriving DecidableEq

namespace Overflow

variable {w : ℕ}

/-- The sum of two words; none when the program stops. -/
def add (ov : Overflow) (a b : BitVec w) : Option (BitVec w) :=
  match ov with
  | stops => if BitVec.uaddOverflow a b then none else some (a + b)
  | wraps => some (a + b)

/-- A sum that goes on from a word. -/
def sumFrom (ov : Overflow) (a : BitVec w) (xs : List (BitVec w)) : Option (BitVec w) :=
  xs.foldlM ov.add a

/-- The sum of a list of words. -/
def sum (ov : Overflow) (xs : List (BitVec w)) : Option (BitVec w) := ov.sumFrom 0 xs

/-- The sum of a list of words as numbers. -/
def total (xs : List (BitVec w)) : ℕ := (xs.map BitVec.toNat).sum

@[simp] lemma total_nil : total ([] : List (BitVec w)) = 0 := rfl

@[simp] lemma total_cons (x : BitVec w) (xs : List (BitVec w)) :
    total (x :: xs) = x.toNat + total xs := by
  unfold total
  rw [List.map_cons, List.sum_cons]

lemma total_append (xs ys : List (BitVec w)) : total (xs ++ ys) = total xs + total ys := by
  unfold total
  rw [List.map_append, List.sum_append]

/-- A sum of two words that fits into a word is right. -/
lemma add_of_lt (ov : Overflow) {a b : BitVec w} (h : a.toNat + b.toNat < 2 ^ w) :
    ov.add a b = some (a + b) ∧ (a + b).toNat = a.toNat + b.toNat := by
  have hover : BitVec.uaddOverflow a b = false := by
    rw [BitVec.uaddOverflow, decide_eq_false_iff_not]
    exact Nat.not_le.2 h
  have hsum : (a + b).toNat = a.toNat + b.toNat := by
    rw [BitVec.toNat_add, Nat.mod_eq_of_lt h]
  refine ⟨?_, hsum⟩
  cases ov with
  | stops => rw [add, hover, if_neg Bool.false_ne_true]
  | wraps => rfl

/-- A sum that fits is right. -/
lemma sumFrom_of_lt (ov : Overflow) {a : BitVec w} {xs : List (BitVec w)}
    (h : a.toNat + total xs < 2 ^ w) :
    ∃ n, ov.sumFrom a xs = some n ∧ n.toNat = a.toNat + total xs := by
  induction xs generalizing a with
  | nil => exact ⟨a, rfl, rfl⟩
  | cons x xs ih =>
    rw [total_cons, ← Nat.add_assoc] at h
    obtain ⟨hadd, hnat⟩ := ov.add_of_lt (Nat.lt_of_le_of_lt (Nat.le_add_right _ _) h)
    rw [← hnat] at h
    obtain ⟨n, hrun, hn⟩ := ih h
    refine ⟨n, ?_, ?_⟩
    · rw [sumFrom, List.foldlM_cons, hadd]
      exact hrun
    · rw [hn, hnat, total_cons, Nat.add_assoc]

/-- The sum of a list of words is right exactly when it fits into a word. -/
theorem sum_exact_iff (ov : Overflow) (xs : List (BitVec w)) :
    (∃ n, ov.sum xs = some n ∧ n.toNat = total xs) ↔ total xs < 2 ^ w := by
  constructor
  · rintro ⟨n, -, hn⟩
    rw [← hn]
    exact n.isLt
  · intro h
    have hzero : (0 : BitVec w).toNat = 0 := rfl
    have hfits : (0 : BitVec w).toNat + total xs < 2 ^ w := by rwa [hzero, Nat.zero_add]
    obtain ⟨n, hrun, hn⟩ := ov.sumFrom_of_lt hfits
    rw [hzero, Nat.zero_add] at hn
    exact ⟨n, hrun, hn⟩

end Overflow

import Mathlib.Order.Bounds.Basic

/-!
# Longest chains

The longest chain of a relation that ends at a point: zero where nothing comes before the point,
and otherwise one more than the longest among the points before it.
-/

/-- A chain of so many steps of the relation ends at the point. -/
inductive ChainTo {α : Type*} (r : α → α → Prop) : α → ℕ → Prop
  | here (a : α) : ChainTo r a 0
  | step {a b : α} {n : ℕ} : ChainTo r b n → r b a → ChainTo r a (n + 1)

namespace ChainTo

variable {α : Type*} {r : α → α → Prop} {a b : α} {m n : ℕ}

/-- The longest chain that ends at the point has so many steps. -/
def Longest (r : α → α → Prop) (a : α) (n : ℕ) : Prop :=
  IsGreatest {m | ChainTo r a m} n

/-- A point comes after shorter chains only. -/
theorem Longest.lt (hb : Longest r b m) (ha : Longest r a n) (h : r b a) : m < n :=
  Nat.lt_of_succ_le (ha.2 (ChainTo.step hb.1 h))

/-- What is one more than the longest chain to some point before `a`, and bounds the others, is
the longest chain to `a`. -/
theorem longest_of_before (hn : n = 0 ∨ ∃ b m, r b a ∧ Longest r b m ∧ n = m + 1)
    (hall : ∀ b, r b a → ∃ m, Longest r b m ∧ m + 1 ≤ n) : Longest r a n := by
  constructor
  · rcases hn with rfl | ⟨b, m, hba, hb, rfl⟩
    · exact here a
    · exact ChainTo.step hb.1 hba
  · intro k hk
    cases hk with
    | here => exact Nat.zero_le n
    | step hchain hba =>
      obtain ⟨m, hb, hm⟩ := hall _ hba
      exact Nat.le_trans (Nat.succ_le_succ (hb.2 hchain)) hm

end ChainTo

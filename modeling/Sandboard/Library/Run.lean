import Mathlib.Tactic.Common

/-!
# Runs of a transition function

A run performs a list of operations one after the other.  What every operation keeps holds after
every run (`Run.invariant`); when only some operations keep it, it holds after every run whose
steps meet the condition under which they do, each step at the state in which it is taken
(`Run.Meets.invariant`).
-/

namespace Run

variable {S O : Type} {step : S → O → S} {C : S → O → Prop} {I : S → Prop} {s : S}
  {ops ops' : List O}

/-- The state after a list of operations. -/
def after (step : S → O → S) (s : S) (ops : List O) : S :=
  ops.foldl step s

@[simp] lemma after_nil : after step s [] = s := rfl

@[simp] lemma after_cons {op : O} : after step s (op :: ops) = after step (step s op) ops := rfl

lemma after_append : after step s (ops ++ ops') = after step (after step s ops) ops' :=
  List.foldl_append

/-- Each step of the run meets the condition in the state in which it is taken. -/
def Meets (step : S → O → S) (C : S → O → Prop) : S → List O → Prop
  | _, [] => True
  | s, op :: ops => C s op ∧ Meets step C (step s op) ops

instance decidableMeets [∀ s op, Decidable (C s op)] :
    ∀ (s : S) (ops : List O), Decidable (Meets step C s ops)
  | _, [] => isTrue trivial
  | s, op :: ops =>
    have := decidableMeets (step s op) ops
    inferInstanceAs (Decidable (C s op ∧ Meets step C (step s op) ops))

/-- A run meets the condition when its first part does, and its second part from there. -/
lemma meets_append : Meets step C s (ops ++ ops') ↔
    Meets step C s ops ∧ Meets step C (after step s ops) ops' := by
  induction ops generalizing s with
  | nil => exact (true_and _).symm.to_iff
  | cons op ops ih => rw [List.cons_append, Meets, Meets, ih, after_cons, and_assoc]

/-- A run whose last step does not meet the condition. -/
lemma not_meets_of_last {op : O} (h : ¬C (after step s ops) op) :
    ¬Meets step C s (ops ++ [op]) := by
  rw [meets_append]
  exact fun hmeets => h hmeets.2.1

/-- A run meets two conditions when it meets each of them. -/
lemma meets_and {C' : S → O → Prop} (h : Meets step C s ops) (h' : Meets step C' s ops) :
    Meets step (fun s op => C s op ∧ C' s op) s ops := by
  induction ops generalizing s with
  | nil => trivial
  | cons op ops ih => exact ⟨⟨h.1, h'.1⟩, ih h.2 h'.2⟩

/-- A condition on the operations alone is met when each of them satisfies it. -/
lemma meets_of_forall {P : O → Prop} (h : ∀ op ∈ ops, P op) :
    Meets step (fun _ op => P op) s ops := by
  induction ops generalizing s with
  | nil => trivial
  | cons op ops ih =>
    exact ⟨h op List.mem_cons_self, ih fun op' hop' => h op' (List.mem_cons_of_mem op hop')⟩

/-- Conditions that agree at every step agree on every run. -/
lemma meets_congr {C' : S → O → Prop} (h : ∀ s op, C s op ↔ C' s op) :
    Meets step C s ops ↔ Meets step C' s ops := by
  induction ops generalizing s with
  | nil => exact Iff.rfl
  | cons op ops ih => exact and_congr (h s op) ih

/-- A condition that follows from another one at every step is met where that one is. -/
lemma Meets.mono {C' : S → O → Prop} (h : ∀ s op, C s op → C' s op)
    (hmeets : Meets step C s ops) : Meets step C' s ops := by
  induction ops generalizing s with
  | nil => trivial
  | cons op ops ih => exact ⟨h s op hmeets.1, ih hmeets.2⟩

/-- Conditions that agree where an invariant holds, and that keep it, agree on every run that
starts in the invariant. -/
lemma meets_congr_of_invariant {C' : S → O → Prop} (h : ∀ s op, I s → (C s op ↔ C' s op))
    (hstep : ∀ s op, I s → C s op → I (step s op)) (hs : I s) :
    Meets step C s ops ↔ Meets step C' s ops := by
  induction ops generalizing s with
  | nil => exact Iff.rfl
  | cons op ops ih =>
    constructor
    · exact fun ⟨hop, hops⟩ => ⟨(h s op hs).1 hop, (ih (hstep s op hs hop)).1 hops⟩
    · intro ⟨hop, hops⟩
      have hop' := (h s op hs).2 hop
      exact ⟨hop', (ih (hstep s op hs hop')).2 hops⟩

/-- When no step makes a measure larger, it stays the same over a run only if every step meets
what keeps it the same. -/
lemma meets_of_measure {μ : S → ℕ} (hle : ∀ s op, μ (step s op) ≤ μ s)
    (hC : ∀ s op, μ (step s op) = μ s → C s op) (h : μ s ≤ μ (after step s ops)) :
    Meets step C s ops := by
  have hafter : ∀ ops s, μ (after step s ops) ≤ μ s := by
    intro ops
    induction ops with
    | nil => exact fun s => Nat.le_refl _
    | cons op ops ih => exact fun s => Nat.le_trans (ih (step s op)) (hle s op)
  induction ops generalizing s with
  | nil => trivial
  | cons op ops ih =>
    have hrest : μ s ≤ μ (step s op) := Nat.le_trans h (hafter ops (step s op))
    have heq : μ (step s op) = μ s := Nat.le_antisymm (hle s op) hrest
    exact ⟨hC s op heq, ih (heq ▸ h)⟩

/-- What every operation keeps holds after every run. -/
theorem invariant (hstep : ∀ s op, I s → I (step s op)) (hs : I s) (ops : List O) :
    I (after step s ops) := by
  induction ops generalizing s with
  | nil => exact hs
  | cons op ops ih => exact ih (hstep s op hs)

/-- What the operations that meet a condition keep holds after every run of such operations. -/
theorem Meets.invariant (hstep : ∀ s op, I s → C s op → I (step s op)) (hs : I s)
    (h : Meets step C s ops) : I (after step s ops) := by
  induction ops generalizing s with
  | nil => exact hs
  | cons op ops ih => exact ih (hstep s op hs h.1) h.2

end Run

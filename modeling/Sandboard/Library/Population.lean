import Mathlib.Logic.Relation
import Mathlib.Tactic.Common

/-!
# Populations

A population is a family of individuals under names, `ι → Option α`: each name is taken by an
individual or free.  In one turn an individual is born, takes a step, or is gone; a course is
any number of turns, and a population evolves when every name goes through a course of its
own.  What birth and steps keep of an individual is kept by evolution, and a system that
evolves as a population is thereby reduced to the life of one individual.
-/

namespace Population

variable {ι α : Type*}

/-- One turn in the life under a name: birth, a step, or the end. -/
inductive Turn (born : α → Prop) (step : α → α → Prop) : Option α → Option α → Prop where
  | born {a : α} (h : born a) : Turn born step none (some a)
  | step {a a' : α} (h : step a a') : Turn born step (some a) (some a')
  | gone (a : α) : Turn born step (some a) none

/-- Any number of turns. -/
def Course (born : α → Prop) (step : α → α → Prop) : Option α → Option α → Prop :=
  Relation.ReflTransGen (Turn born step)

namespace Course

variable {born : α → Prop} {step step' : α → α → Prop} {o o' o'' : Option α} {a a' : α}

lemma refl (o : Option α) : Course born step o o := Relation.ReflTransGen.refl

lemma trans (h : Course born step o o') (h' : Course born step o' o'') :
    Course born step o o'' :=
  Relation.ReflTransGen.trans h h'

lemma of_born (h : born a) : Course born step none (some a) := .single (.born h)

lemma of_step (h : step a a') : Course born step (some a) (some a') := .single (.step h)

lemma of_gone (a : α) : Course born step (some a) none := .single (.gone a)

/-- More steps allow more courses. -/
lemma mono (hstep : ∀ a a', step a a' → step' a a') (h : Course born step o o') :
    Course born step' o o' := by
  refine Relation.ReflTransGen.mono ?_ _ _ h
  rintro _ _ (hborn | hs | a)
  · exact .born hborn
  · exact .step (hstep _ _ hs)
  · exact .gone a

/-- What birth establishes and steps keep holds along a course. -/
lemma invariant {p : α → Prop} (hborn : ∀ a, born a → p a)
    (hstep : ∀ a a', step a a' → p a → p a') (h : Course born step o o')
    (ho : ∀ a, o = some a → p a) : ∀ a, o' = some a → p a := by
  induction h with
  | refl => exact ho
  | tail _ hturn ih =>
    intro a ha
    cases hturn with
    | born hb =>
      cases ha
      exact hborn _ hb
    | step hs =>
      cases ha
      exact hstep _ _ hs (ih _ rfl)
    | gone a => cases ha

end Course

/-- Every name goes through a course of its own. -/
def Evolves (born : α → Prop) (step : α → α → Prop) (m m' : ι → Option α) : Prop :=
  ∀ i, Course born step (m i) (m' i)

namespace Evolves

variable {born : α → Prop} {step step' : α → α → Prop} {m m' m'' : ι → Option α}

lemma refl (m : ι → Option α) : Evolves born step m m := fun i => .refl (m i)

lemma trans (h : Evolves born step m m') (h' : Evolves born step m' m'') :
    Evolves born step m m'' :=
  fun i => (h i).trans (h' i)

lemma mono (hstep : ∀ a a', step a a' → step' a a') (h : Evolves born step m m') :
    Evolves born step' m m' :=
  fun i => (h i).mono hstep

/-- A population that differs under one name only evolves when that name does. -/
lemma of_one {i : ι} (hi : Course born step (m i) (m' i)) (hne : ∀ j, j ≠ i → m' j = m j) :
    Evolves born step m m' := by
  intro j
  by_cases hj : j = i
  · rw [hj]
    exact hi
  · rw [hne j hj]
    exact .refl (m j)

/-- What birth establishes and steps keep is kept of every individual. -/
theorem invariant {p : α → Prop} (hborn : ∀ a, born a → p a)
    (hstep : ∀ a a', step a a' → p a → p a') (h : Evolves born step m m')
    (hm : ∀ i a, m i = some a → p a) : ∀ i a, m' i = some a → p a :=
  fun i => (h i).invariant hborn hstep (hm i)

end Evolves

end Population

import Mathlib.Logic.Relation
import Mathlib.Order.WellFoundedSet

/-!
# Relations without loops

A relation along which no way leads back to where it started.  Replacing the successors of one
point keeps it so when none of the new ones leads to the point, and in a finite set some point
has no successor.
-/

open Relation

/-- No way along the relation leads back. -/
def Acyclic {α : Type*} (r : α → α → Prop) : Prop :=
  ∀ a, ¬TransGen r a a

namespace Acyclic

variable {α : Type*} {r r' : α → α → Prop} {a : α}

lemma irrefl (h : Acyclic r) (a : α) : ¬r a a := fun ha => h a (.single ha)

lemma mono (h : Acyclic r) (hr : ∀ x y, r' x y → r x y) : Acyclic r' :=
  fun a ha => h a (TransGen.mono hr a a ha)

/-- A way from `x` either is one of `r`, or goes through `a`. -/
private lemma transGen_redirect {bs : Set α} {x y : α}
    (h : TransGen (fun x y => (x = a ∧ y ∈ bs) ∨ (x ≠ a ∧ r x y)) x y) :
    TransGen r x y ∨ (ReflTransGen r x a ∧ ∃ b ∈ bs, ReflTransGen r b y) ∨
      ∃ b ∈ bs, ReflTransGen r b a := by
  induction h with
  | single hstep =>
    rcases hstep with ⟨rfl, hb⟩ | ⟨-, hr⟩
    · exact Or.inr (Or.inl ⟨.refl, _, hb, .refl⟩)
    · exact Or.inl (.single hr)
  | tail _ hstep ih =>
    rcases hstep with ⟨rfl, hb⟩ | ⟨-, hr⟩
    · rcases ih with hway | ⟨hway, b, hb', hback⟩ | hback
      · exact Or.inr (Or.inl ⟨hway.to_reflTransGen, _, hb, .refl⟩)
      · exact Or.inr (Or.inr ⟨b, hb', hback⟩)
      · exact Or.inr (Or.inr hback)
    · rcases ih with hway | ⟨hway, b, hb', hback⟩ | hback
      · exact Or.inl (hway.tail hr)
      · exact Or.inr (Or.inl ⟨hway, b, hb', hback.tail hr⟩)
      · exact Or.inr (Or.inr hback)

/-- The successors of `a` are replaced by points that do not lead to `a`. -/
theorem redirect (h : Acyclic r) {bs : Set α} (hbs : ∀ b ∈ bs, ¬ReflTransGen r b a) :
    Acyclic fun x y => (x = a ∧ y ∈ bs) ∨ (x ≠ a ∧ r x y) := by
  intro x hx
  rcases transGen_redirect hx with hway | ⟨hway, b, hb, hback⟩ | ⟨b, hb, hback⟩
  · exact h x hway
  · exact hbs b hb (hback.trans hway)
  · exact hbs b hb hback

/-- In a finite set that is not empty, some point has no successor. -/
theorem exists_sink (h : Acyclic r) {s : Set α} (hfinite : s.Finite) (hne : s.Nonempty) :
    ∃ a ∈ s, ∀ b ∈ s, ¬r a b := by
  let below : α → α → Prop := fun b a => TransGen r a b
  have : IsStrictOrder α below :=
    { irrefl := h
      trans := fun _ _ _ hab hbc => hbc.trans hab }
  have hwf : s.WellFoundedOn below := hfinite.wellFoundedOn
  obtain ⟨⟨a, ha⟩, -, hmin⟩ := hwf.has_min Set.univ ⟨⟨hne.some, hne.some_mem⟩, trivial⟩
  exact ⟨a, ha, fun b hb hab => hmin ⟨b, hb⟩ trivial (.single hab)⟩

end Acyclic

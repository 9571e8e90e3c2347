import Mathlib.Tactic.Common

/-!
# Trails

A trail records the edges a point travelled along: each edge starts where the one before it
ended.  `Trail r a edges b` says that the recorded edges lead from `a` to `b` along `r`.
Travelling one more edge appends it (`Trail.snoc`); read by positions, a trail is what one
expects of a log (`Trail.next_eq`, `Trail.first_eq`, `Trail.last_eq`).
-/

variable {α : Type*} {r : α → α → Prop} {a b c : α} {edges : List (α × α)}

/-- The recorded edges lead from the first point to the last, each along `r`. -/
def Trail (r : α → α → Prop) : α → List (α × α) → α → Prop
  | a, [], b => a = b
  | a, (x, y) :: edges, b => x = a ∧ r x y ∧ Trail r y edges b

namespace Trail

@[simp] lemma nil_iff : Trail r a [] b ↔ a = b := Iff.rfl

@[simp] lemma cons_iff {x y : α} :
    Trail r a ((x, y) :: edges) b ↔ x = a ∧ r x y ∧ Trail r y edges b := Iff.rfl

/-- Travelling one more edge appends it to the record. -/
lemma snoc (h : Trail r a edges b) (hr : r b c) : Trail r a (edges ++ [(b, c)]) c := by
  induction edges generalizing a with
  | nil =>
    rw [nil_iff] at h
    subst h
    exact ⟨rfl, hr, rfl⟩
  | cons e edges ih => exact ⟨h.1, h.2.1, ih h.2.2⟩

/-- Every recorded edge is an edge of `r`. -/
lemma mem (h : Trail r a edges b) {e : α × α} (he : e ∈ edges) : r e.1 e.2 := by
  induction edges generalizing a with
  | nil => cases he
  | cons d edges ih =>
    cases he with
    | head => exact h.2.1
    | tail _ he => exact ih h.2.2 he

/-- A nonempty trail starts with an edge out of the first point. -/
lemma first_eq (h : Trail r a edges b) {e : α × α} (he : edges.head? = some e) : e.1 = a := by
  cases edges with
  | nil => cases he
  | cons d edges =>
    cases he
    exact h.1

/-- Each edge starts where the one before it ended. -/
lemma next_eq (h : Trail r a edges b) {i : ℕ} {e e' : α × α} (he : edges[i]? = some e)
    (he' : edges[i + 1]? = some e') : e'.1 = e.2 := by
  induction edges generalizing a i with
  | nil => cases he
  | cons d edges ih =>
    cases i with
    | zero =>
      cases he
      refine h.2.2.first_eq ?_
      rw [List.head?_eq_getElem?]
      simpa using he'
    | succ i => exact ih h.2.2 (by simpa using he) (by simpa using he')

/-- The last point is the end of the last edge, or the first point when there is no edge. -/
lemma last_eq (h : Trail r a edges b) : b = (edges.getLast?.map Prod.snd).getD a := by
  induction edges generalizing a with
  | nil => exact h.symm
  | cons d edges ih =>
    have hb := ih h.2.2
    cases edges with
    | nil => exact hb
    | cons d' edges =>
      obtain ⟨e, he⟩ : ∃ e, (d' :: edges).getLast? = some e :=
        Option.isSome_iff_exists.1 (by simp)
      rw [List.getLast?_cons_cons, he]
      rw [he] at hb
      exact hb

end Trail

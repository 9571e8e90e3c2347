import Mathlib.Data.List.Nodup
import Mathlib.Data.List.Perm.Subperm
import Mathlib.Logic.Relation

/-!
# Worklists

A search of a graph takes one point after the other off a stack, and puts on the stack those of its
successors that were found neither before nor are on the stack yet.  With fuel for every point of
the graph, the search finds each point that the root leads to, once, whatever loops there are.
-/

open Relation

namespace Worklist

variable {α : Type*} [BEq α] (succ : α → List α)

/-- Put those of `xs` on the stack that are new. -/
def push (found xs stack : List α) : List α :=
  xs.foldl (fun stack x =>
    if found.contains x || stack.contains x then stack else x :: stack) stack

/-- Take the points off the stack one by one. -/
def walk : ℕ → List α → List α → List α
  | 0, _, found => found
  | _ + 1, [], found => found
  | fuel + 1, cur :: stack, found =>
    walk fuel (push (found ++ [cur]) (succ cur) stack) (found ++ [cur])

/-- The point `b` is a successor of `a`. -/
def Leads (a b : α) : Prop := b ∈ succ a

variable [LawfulBEq α] {succ} {found xs stack : List α} {root x cur : α} {fuel : ℕ}

lemma mem_push : x ∈ push found xs stack ↔ x ∈ stack ∨ (x ∈ xs ∧ x ∉ found) := by
  unfold push
  induction xs generalizing stack with
  | nil => simp
  | cons y xs ih =>
    rw [List.foldl_cons, ih]
    by_cases hold : y ∈ found ∨ y ∈ stack
    · have hcond : (found.contains y || stack.contains y) = true := by simpa using hold
      rw [if_pos hcond, List.mem_cons]
      constructor
      · rintro (h | ⟨hxs, hfound⟩)
        · exact Or.inl h
        · exact Or.inr ⟨Or.inr hxs, hfound⟩
      · rintro (h | ⟨rfl | hxs, hfound⟩)
        · exact Or.inl h
        · exact Or.inl (hold.resolve_left hfound)
        · exact Or.inr ⟨hxs, hfound⟩
    · have hcond : ¬(found.contains y || stack.contains y) = true := by simpa using hold
      rw [not_or] at hold
      rw [if_neg hcond, List.mem_cons, List.mem_cons]
      constructor
      · rintro ((rfl | h) | ⟨hxs, hfound⟩)
        · exact Or.inr ⟨Or.inl rfl, hold.1⟩
        · exact Or.inl h
        · exact Or.inr ⟨Or.inr hxs, hfound⟩
      · rintro (h | ⟨rfl | hxs, hfound⟩)
        · exact Or.inl (Or.inr h)
        · exact Or.inl (Or.inl rfl)
        · exact Or.inr ⟨hxs, hfound⟩

/-- A point is on the stack once. -/
lemma nodup_push (h : (found ++ stack).Nodup) : (found ++ push found xs stack).Nodup := by
  unfold push
  induction xs generalizing stack with
  | nil => exact h
  | cons y xs ih =>
    rw [List.foldl_cons]
    split
    · exact ih h
    · rename_i hnew
      have hnew' : y ∉ found ++ stack := by simpa using hnew
      apply ih
      exact (List.perm_middle.nodup_iff).2 (List.nodup_cons.2 ⟨hnew', h⟩)

/-- The search so far: what was found and what is on the stack is what the root leads to, once, and
no successor of what was found is missing. -/
structure Searching (succ : α → List α) (root : α) (stack found : List α) : Prop where
  nodup : (found ++ stack).Nodup
  reached : ∀ x ∈ found ++ stack, ReflTransGen (Leads succ) root x
  root : root ∈ found ++ stack
  closed : ∀ x ∈ found, ∀ y ∈ succ x, y ∈ found ++ stack

namespace Searching

omit [BEq α] [LawfulBEq α] in
lemma start (succ : α → List α) (root : α) : Searching succ root [root] [] where
  nodup := List.nodup_singleton root
  reached x hx := by
    rw [List.nil_append, List.mem_singleton] at hx
    rw [hx]
  root := List.mem_singleton_self root
  closed x hx := by cases hx

/-- One point is taken off the stack. -/
lemma step (h : Searching succ root (cur :: stack) found) :
    Searching succ root (push (found ++ [cur]) (succ cur) stack) (found ++ [cur]) := by
  have hsplit : found ++ cur :: stack = found ++ [cur] ++ stack := by
    rw [List.append_assoc, List.singleton_append]
  have hkept : ∀ {x}, x ∈ found ++ cur :: stack →
      x ∈ found ++ [cur] ++ push (found ++ [cur]) (succ cur) stack := by
    intro x hx
    rw [hsplit, List.mem_append] at hx
    rw [List.mem_append]
    exact hx.imp_right fun hx => mem_push.2 (Or.inl hx)
  have hcur : cur ∈ found ++ cur :: stack := by simp
  constructor
  · have hnodup := h.nodup
    rw [hsplit] at hnodup
    exact nodup_push hnodup
  · intro x hx
    rcases List.mem_append.1 hx with hx | hx
    · apply h.reached
      rw [hsplit]
      exact List.mem_append_left stack hx
    · rcases mem_push.1 hx with hx | ⟨hx, -⟩
      · apply h.reached
        rw [hsplit]
        exact List.mem_append_right _ hx
      · exact (h.reached cur hcur).tail hx
  · exact hkept h.root
  · intro x hx y hy
    rcases List.mem_append.1 hx with hx | hx
    · exact hkept (h.closed x hx y hy)
    · rw [List.mem_singleton] at hx
      rw [hx] at hy
      by_cases hfound : y ∈ found ++ [cur]
      · exact List.mem_append_left _ hfound
      · exact List.mem_append_right _ (mem_push.2 (Or.inr ⟨hy, hfound⟩))

omit [BEq α] [LawfulBEq α] in
/-- When the stack is empty, everything was found. -/
lemma done (h : Searching succ root [] found) :
    found.Nodup ∧ ∀ x, x ∈ found ↔ ReflTransGen (Leads succ) root x := by
  have hnodup := h.nodup
  rw [List.append_nil] at hnodup
  refine ⟨hnodup, fun x => ⟨fun hx => ?_, fun hx => ?_⟩⟩
  · apply h.reached
    rw [List.append_nil]
    exact hx
  · induction hx with
    | refl =>
      have hroot := h.root
      rwa [List.append_nil] at hroot
    | tail _ hstep ih =>
      have hnext := h.closed _ ih _ hstep
      rwa [List.append_nil] at hnext

/-- With fuel for every point, the walk finds what the root leads to. -/
lemma walk (h : Searching succ root stack found) {points : List α} (hroot : root ∈ points)
    (hpoints : ∀ x, ∀ y ∈ succ x, y ∈ points) (hfuel : points.length ≤ fuel + found.length) :
    (Worklist.walk succ fuel stack found).Nodup ∧
      ∀ x, x ∈ Worklist.walk succ fuel stack found ↔ ReflTransGen (Leads succ) root x := by
  induction fuel generalizing stack found with
  | zero =>
    have hsub : found ++ stack ⊆ points := by
      intro x hx
      rcases (h.reached x hx).cases_tail with rfl | ⟨y, -, hy⟩
      · exact hroot
      · exact hpoints y x hy
    have hlength := (List.subperm_of_subset h.nodup hsub).length_le
    rw [List.length_append] at hlength
    have hempty : stack = [] := List.length_eq_zero_iff.1 (by omega)
    rw [hempty] at h
    exact h.done
  | succ fuel ih =>
    cases stack with
    | nil => exact h.done
    | cons cur stack =>
      apply ih h.step
      rw [List.length_append, List.length_singleton]
      omega

end Searching

/-- The walk from a root finds what the root leads to, each point once. -/
theorem walk_spec {points : List α} (hroot : root ∈ points)
    (hpoints : ∀ x, ∀ y ∈ succ x, y ∈ points) (hfuel : points.length ≤ fuel) :
    (walk succ fuel [root] []).Nodup ∧
      ∀ x, x ∈ walk succ fuel [root] [] ↔ ReflTransGen (Leads succ) root x :=
  (Searching.start succ root).walk hroot hpoints hfuel

end Worklist

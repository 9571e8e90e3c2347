import Mathlib.Data.List.Infix
import Mathlib.Data.List.Range
import Mathlib.Tactic.Common

/-!
# Numbered records and their windows

A record whose entries are numbered from one, a window on its last entries, and the stretch of
it between two numbers.  Of a numbered record the entries after a number are the ones that are
left when so many are dropped (`Numbered.filter`); a window still has all of them as long as it
reaches back far enough (`Numbered.filter_window`).  A stretch is extended by the next entry
(`between_succ`) and does not change while the record grows (`between_append`), so a reader that
replays a window and then follows the record sees one stretch of it.  A reader that may be told
to start over gets messages (`Gapless`): entries one after the other, and between them reloads
that name a number up to which nothing is repeated for it.
-/

variable {α : Type*} {num : α → ℕ} {xs ys : List α} {x : α} {n l u capacity : ℕ}

/-! ## Numbered records -/

/-- The entries are numbered from one. -/
def Numbered (num : α → ℕ) (xs : List α) : Prop :=
  xs.map num = List.range' 1 xs.length

namespace Numbered

lemma nil : Numbered num [] := rfl

lemma snoc (h : Numbered num xs) (hx : num x = xs.length + 1) : Numbered num (xs ++ [x]) := by
  unfold Numbered at h ⊢
  rw [List.map_append, h, List.length_append, List.length_singleton, List.range'_concat,
    List.map_singleton, hx]
  simp [Nat.add_comm]

lemma num_eq (h : Numbered num xs) {i : ℕ} (hx : xs[i]? = some x) : num x = i + 1 := by
  have hmap : (xs.map num)[i]? = some (num x) := by simp [hx]
  rw [h, List.getElem?_range'] at hmap
  · simp only [Option.some.injEq] at hmap
    omega
  · exact (List.getElem?_eq_some_iff.1 hx).1

/-- The entries after a number have the numbers after it, in order. -/
lemma map_drop (h : Numbered num xs) (n : ℕ) :
    (xs.drop n).map num = List.range' (n + 1) (xs.length - n) := by
  rw [List.map_drop, h, List.drop_range']
  simp [Nat.add_comm]

lemma filter_append (h : Numbered num (xs ++ ys)) (hn : xs.length ≤ n) :
    (xs ++ ys).filter (fun x => n < num x) = ys.filter fun x => n < num x := by
  rw [List.filter_append]
  have hxs : xs.filter (fun x => n < num x) = [] := by
    rw [List.filter_eq_nil_iff]
    intro x hx
    obtain ⟨i, hi⟩ := List.mem_iff_getElem?.1 hx
    have hlt : i < xs.length := (List.getElem?_eq_some_iff.1 hi).1
    have hnum := h.num_eq (i := i) (x := x) (by rw [List.getElem?_append_left hlt, hi])
    simp only [decide_eq_true_eq]
    omega
  rw [hxs, List.nil_append]

lemma filter_self (h : Numbered num (xs ++ ys)) (hn : n ≤ xs.length) :
    ys.filter (fun x => n < num x) = ys := by
  rw [List.filter_eq_self]
  intro y hy
  obtain ⟨i, hi⟩ := List.mem_iff_getElem?.1 hy
  have hnum := h.num_eq (i := xs.length + i) (x := y) (by
    rw [List.getElem?_append_right (by omega), Nat.add_sub_cancel_left, hi])
  simp only [decide_eq_true_eq]
  omega

/-- The entries with a number after `n` are the ones left when `n` are dropped. -/
lemma filter (h : Numbered num xs) (n : ℕ) :
    xs.filter (fun x => n < num x) = xs.drop n := by
  have hsplit : Numbered num (xs.take n ++ xs.drop n) := by rwa [List.take_append_drop]
  have hlength : (xs.take n).length ≤ n := by
    rw [List.length_take]
    exact Nat.min_le_left _ _
  have hall : xs.filter (fun x => n < num x) = (xs.drop n).filter fun x => n < num x := by
    have happend := hsplit.filter_append hlength
    rwa [List.take_append_drop] at happend
  rw [hall]
  rcases Nat.le_total n xs.length with hn | hn
  · exact hsplit.filter_self (by simp [hn])
  · rw [List.drop_eq_nil_of_le hn]
    rfl

end Numbered

/-! ## Windows -/

/-- The last entries, at most `capacity` of them. -/
def window (capacity : ℕ) (xs : List α) : List α :=
  xs.drop (xs.length - capacity)

@[simp] lemma window_nil : window capacity ([] : List α) = [] := List.drop_nil

lemma length_window : (window capacity xs).length = min capacity xs.length := by
  unfold window
  rw [List.length_drop]
  omega

/-- A full window loses its first entry when the record grows. -/
lemma window_snoc (hcapacity : 1 ≤ capacity) :
    window capacity (xs ++ [x]) =
      (if (window capacity xs).length ≥ capacity then (window capacity xs).tail
        else window capacity xs) ++ [x] := by
  rw [length_window]
  unfold window
  rw [List.length_append, List.length_singleton, List.drop_append_of_le_length (by omega)]
  split
  · have hfull : capacity ≤ xs.length := by omega
    rw [List.tail_drop, Nat.sub_add_comm hfull]
  · have hroom : xs.length + 1 - capacity = xs.length - capacity := by omega
    rw [hroom]

lemma head?_window :
    (window capacity xs).head? = xs[xs.length - capacity]? := by
  unfold window
  rw [List.head?_drop]

/-- A window that reaches back to `n` has all the entries after it. -/
lemma Numbered.filter_window (h : Numbered num xs) (hn : xs.length - capacity ≤ n) :
    (window capacity xs).filter (fun x => n < num x) = xs.drop n := by
  rw [← h.filter n]
  have hsplit : Numbered num (xs.take (xs.length - capacity) ++ window capacity xs) := by
    unfold window
    rwa [List.take_append_drop]
  have hlength : (xs.take (xs.length - capacity)).length ≤ n := by
    rw [List.length_take]
    omega
  have happend := hsplit.filter_append hlength
  unfold window at happend ⊢
  rw [List.take_append_drop] at happend
  exact happend.symm

/-! ## Stretches -/

/-- The entries after number `l`, up to number `u`. -/
def between (l u : ℕ) (xs : List α) : List α :=
  (xs.take u).drop l

lemma between_eq_nil (h : u ≤ l) : between l u xs = [] := by
  unfold between
  rw [List.drop_eq_nil_iff, List.length_take]
  omega

/-- A stretch that reaches the end of the record is all that follows. -/
lemma between_eq_drop (h : xs.length ≤ u) : between l u xs = xs.drop l := by
  unfold between
  rw [List.take_of_length_le h]

/-- Growth of the record changes no stretch of it. -/
lemma between_append (h : u ≤ max l xs.length) :
    between l u (xs ++ ys) = between l u xs := by
  rcases Nat.lt_or_ge l u with hl | hl
  · unfold between
    rw [List.take_append_of_le_length]
    omega
  · rw [between_eq_nil hl, between_eq_nil hl]

/-- The next entry extends a stretch. -/
lemma between_succ (hl : l ≤ u) (hx : xs[u]? = some x) :
    between l (u + 1) xs = between l u xs ++ [x] := by
  have hlt : u < xs.length := (List.getElem?_eq_some_iff.1 hx).1
  unfold between
  rw [List.take_add_one, hx, List.drop_append_of_le_length]
  · rfl
  · rw [List.length_take]
    omega

lemma between_prefix (l u : ℕ) (xs : List α) : between l u xs <+: xs.drop l := by
  unfold between
  exact List.IsPrefix.drop (List.take_prefix u xs) l

/-- A stretch that reaches `u` has the entries up to `u`. -/
lemma drop_prefix_between (h : xs.length ≤ u) : xs.drop l <+: between l u (xs ++ ys) := by
  unfold between
  rw [List.take_append, List.take_of_length_le h]
  exact List.IsPrefix.drop (List.prefix_append _ _) l

/-! ## Deliveries -/

/-- What a reader gets: an entry of the record, or the order to reload up to a number. -/
inductive Message (α : Type*) where
  | entry (x : α)
  | reload (n : ℕ)
  deriving DecidableEq

/-- A reader that had seen the entries up to `l` gets these messages and is then at `u`: each
entry is the next one, and after the order to reload up to `n` no entry after `n` is left out. -/
inductive Gapless (xs : List α) (l : ℕ) : List (Message α) → ℕ → Prop where
  | start : Gapless xs l [] l
  | entry {ms : List (Message α)} {u : ℕ} {x : α} (h : Gapless xs l ms u) (hx : xs[u]? = some x) :
    Gapless xs l (ms ++ [.entry x]) (u + 1)
  | reload {ms : List (Message α)} {u k n : ℕ} (h : Gapless xs l ms u) (hk : k ≤ n) :
    Gapless xs l (ms ++ [.reload n]) k

namespace Gapless

variable {ms : List (Message α)}

/-- Growth of the record changes nothing for a reader. -/
lemma append (h : Gapless xs l ms u) (ys : List α) : Gapless (xs ++ ys) l ms u := by
  induction h with
  | start => exact .start
  | entry _ hx ih =>
    refine .entry ih ?_
    rw [List.getElem?_append_left (List.getElem?_eq_some_iff.1 hx).1, hx]
  | reload _ hk ih => exact .reload ih hk

/-- A stretch of the record, entry by entry. -/
lemma entries (h : Gapless xs l ms u) (hu : u ≤ n) (hn : n ≤ xs.length) :
    Gapless xs l (ms ++ (between u n xs).map .entry) n := by
  induction n with
  | zero =>
    rw [Nat.le_zero.1 hu] at h
    rw [between_eq_nil (Nat.zero_le u), List.map_nil, List.append_nil]
    exact h
  | succ n ih =>
    rcases Nat.lt_or_ge n u with hlt | hle
    · have heq : u = n + 1 := by omega
      rw [heq] at h ⊢
      rw [between_eq_nil (le_refl _), List.map_nil, List.append_nil]
      exact h
    · have hx : xs[n]? = some xs[n] := List.getElem?_eq_getElem (by omega)
      rw [between_succ hle hx, List.map_append, ← List.append_assoc]
      exact .entry (ih hle (by omega)) hx

/-- A reader that was never told to reload got one stretch of the record. -/
lemma eq_between (h : Gapless xs l ms u) (hms : ∀ n, .reload n ∉ ms) :
    l ≤ u ∧ ms = (between l u xs).map .entry := by
  induction h with
  | start =>
    rw [between_eq_nil (le_refl l)]
    exact ⟨le_refl l, rfl⟩
  | entry _ hx ih =>
    obtain ⟨hle, hms'⟩ := ih fun n hn => hms n (List.mem_append_left _ hn)
    refine ⟨hle.trans (Nat.le_succ _), ?_⟩
    rw [between_succ hle hx, List.map_append, ← hms']
    rfl
  | @reload _ _ _ n _ _ _ =>
    exact absurd (List.mem_append_right _ List.mem_cons_self) (hms n)

end Gapless

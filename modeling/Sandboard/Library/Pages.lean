import Mathlib.Data.List.Basic
import Mathlib.Data.List.MinMax
import Mathlib.Data.List.Nodup
import Mathlib.Order.Basic

/-!
# Pages of a growing log

A log grows at its end by entries with rising marks.  Who reads it from its start, page by page, and
keeps the highest mark that was read finds on a page every entry whose mark is not above one of the
page.
-/

namespace Pages

variable {α : Type} {mark : α → ℕ} {log as bs : List α} {a b : α} {n : ℕ}

/-! ## The highest mark -/

/-- The highest mark of the entries, and zero when there are none. -/
def top (mark : α → ℕ) (as : List α) : ℕ := (as.map mark).max?.getD 0

lemma mark_le_top (ha : a ∈ as) : mark a ≤ top mark as := by
  have hmem := List.mem_map_of_mem (f := mark) ha
  unfold top
  cases hmax : (as.map mark).max? with
  | none =>
    rw [List.max?_eq_none_iff] at hmax
    rw [hmax] at hmem
    exact absurd hmem List.not_mem_nil
  | some m => exact (List.max?_eq_some_iff.1 hmax).2 _ hmem

/-- The highest mark is that of an entry. -/
lemma top_eq_zero_or (mark : α → ℕ) (as : List α) :
    top mark as = 0 ∨ ∃ a ∈ as, mark a = top mark as := by
  unfold top
  cases hmax : (as.map mark).max? with
  | none => exact Or.inl rfl
  | some m =>
    obtain ⟨a, ha, hm⟩ := List.mem_map.1 (List.max?_eq_some_iff.1 hmax).1
    exact Or.inr ⟨a, ha, hm⟩

/-! ## Rising marks -/

/-- The marks rise, and none is zero. -/
structure Rising (mark : α → ℕ) (log : List α) : Prop where
  pos : ∀ a ∈ log, 0 < mark a
  rises : log.Pairwise fun a b => mark a < mark b

namespace Rising

lemma nil : Rising mark ([] : List α) := ⟨fun _ ha => absurd ha List.not_mem_nil, .nil⟩

/-- A log grows by an entry with a higher mark. -/
lemma concat (h : Rising mark log) (hpos : 0 < mark a) (ha : ∀ b ∈ log, mark b < mark a) :
    Rising mark (log ++ [a]) where
  pos b hb := by
    rcases List.mem_append.1 hb with hb | hb
    · exact h.pos b hb
    · rw [List.mem_singleton.1 hb]
      exact hpos
  rises := List.pairwise_append.2 ⟨h.rises, List.pairwise_singleton _ _, fun b hb c hc => by
    rw [List.mem_singleton.1 hc]
    exact ha b hb⟩

/-- No two entries have one mark. -/
lemma nodup_marks (h : Rising mark log) : (log.map mark).Nodup :=
  (List.pairwise_map.2 h.rises).imp fun hlt => hlt.ne

lemma eq_of_mark (h : Rising mark log) (ha : a ∈ log) (hb : b ∈ log) (hmark : mark a = mark b) :
    a = b :=
  List.inj_on_of_nodup_map h.nodup_marks ha hb hmark

/-- An entry whose mark is not above one of the page is on the page. -/
lemma mem_take_of_le (h : Rising mark log) (ha : a ∈ log) (hb : b ∈ log.take n)
    (hle : mark a ≤ mark b) : a ∈ log.take n := by
  have hsplit := List.take_append_drop n log
  rw [← hsplit] at ha
  rcases List.mem_append.1 ha with ha | ha
  · exact ha
  · -- an entry behind the page has a higher mark
    have hrises := h.rises
    rw [← hsplit] at hrises
    have hlt := (List.pairwise_append.1 hrises).2.2 b hb a ha
    exact absurd hle (Nat.not_le.2 hlt)

end Rising

end Pages

import Mathlib.Data.List.Nodup

/-!
# Tables with keys

Rows in the order in which they were inserted.  An insertion is rejected when the primary key of
the row is taken, or when the row refers to something that is not there; `refs` decides the
latter.  A batch of insertions goes through exactly when its keys are new and distinct and all
its references hold.
-/

namespace Sandboard

/-- The constraint that a statement violates. -/
inductive Constraint where
  | primaryKey
  | foreignKey
  deriving DecidableEq

namespace Table

variable {ρ κ : Type} [DecidableEq κ] {key : ρ → κ} {refs : ρ → Bool} {rows rows' new : List ρ}

/-- Insert one row. -/
def insert (key : ρ → κ) (refs : ρ → Bool) (rows : List ρ) (row : ρ) :
    Except Constraint (List ρ) :=
  if rows.any fun r => key r == key row then .error .primaryKey
  else if !refs row then .error .foreignKey
  else .ok (rows ++ [row])

/-- Insert rows one by one. -/
def insertAll (key : ρ → κ) (refs : ρ → Bool) (new rows : List ρ) :
    Except Constraint (List ρ) :=
  new.foldlM (insert key refs) rows

lemma insert_eq_ok_iff {row : ρ} :
    insert key refs rows row = .ok rows' ↔
      (∀ r ∈ rows, key r ≠ key row) ∧ refs row = true ∧ rows' = rows ++ [row] := by
  unfold insert
  split
  · rename_i htaken
    obtain ⟨r, hr, hkey⟩ := List.any_eq_true.1 htaken
    simp only [reduceCtorEq, false_iff]
    exact fun h => h.1 r hr (by simpa using hkey)
  · rename_i hfree
    have hnew : ∀ r ∈ rows, key r ≠ key row := by simpa using hfree
    cases hrefs : refs row with
    | false => simp
    | true =>
      simp only [Bool.not_true, Bool.false_eq_true, if_false, Except.ok.injEq, true_and]
      exact ⟨fun h => ⟨hnew, h.symm⟩, fun h => h.2.symm⟩

/-- The rows are inserted when their keys are new and distinct, and their references hold. -/
theorem insertAll_eq_ok_iff :
    insertAll key refs new rows = .ok rows' ↔
      (new.map key).Nodup ∧ (∀ n ∈ new, ∀ r ∈ rows, key r ≠ key n) ∧ (∀ n ∈ new, refs n = true) ∧
        rows' = rows ++ new := by
  unfold insertAll
  induction new generalizing rows with
  | nil =>
    constructor
    · intro h
      cases h
      simp
    · rintro ⟨-, -, -, rfl⟩
      rw [List.append_nil]
      rfl
  | cons n new ih =>
    rw [List.foldlM_cons]
    constructor
    · intro h
      cases hn : insert key refs rows n with
      | error e =>
        rw [hn] at h
        cases h
      | ok rows₁ =>
        rw [hn] at h
        obtain ⟨hfree, hrefs, rfl⟩ := insert_eq_ok_iff.1 hn
        obtain ⟨hnodup, hnew, hall, rfl⟩ := ih.1 h
        refine ⟨?_, ?_, ?_, by simp⟩
        · rw [List.map_cons, List.nodup_cons]
          refine ⟨fun hmem => ?_, hnodup⟩
          obtain ⟨m, hm, hkey⟩ := List.mem_map.1 hmem
          exact hnew m hm n (by simp) hkey.symm
        · intro m hm r hr
          rcases List.mem_cons.1 hm with rfl | hm
          · exact hfree r hr
          · exact hnew m hm r (List.mem_append_left _ hr)
        · intro m hm
          rcases List.mem_cons.1 hm with rfl | hm
          · exact hrefs
          · exact hall m hm
    · rintro ⟨hnodup, hnew, hall, rfl⟩
      rw [List.map_cons, List.nodup_cons] at hnodup
      have hn : insert key refs rows n = .ok (rows ++ [n]) :=
        insert_eq_ok_iff.2 ⟨hnew n List.mem_cons_self, hall n List.mem_cons_self, rfl⟩
      rw [hn]
      refine ih.2 ⟨hnodup.2, fun m hm r hr => ?_, fun m hm => hall m (List.mem_cons_of_mem _ hm),
        by simp⟩
      rcases List.mem_append.1 hr with hr | hr
      · exact hnew m (List.mem_cons_of_mem _ hm) r hr
      · rw [List.mem_singleton] at hr
        subst hr
        exact fun hkey => hnodup.1 (List.mem_map.2 ⟨m, hm, hkey.symm⟩)

/-- A batch that meets the constraints is appended. -/
lemma insertAll_of_constraints (hnodup : (new.map key).Nodup)
    (hnew : ∀ n ∈ new, ∀ r ∈ rows, key r ≠ key n) (hrefs : ∀ n ∈ new, refs n = true) :
    insertAll key refs new rows = .ok (rows ++ new) :=
  insertAll_eq_ok_iff.2 ⟨hnodup, hnew, hrefs, rfl⟩

end Table

end Sandboard

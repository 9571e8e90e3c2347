import Mathlib.Data.List.Nodup

/-!
# Maps that keep the order of their keys

The entries of a map in the order in which their keys came.  A key that is inserted again keeps
its place.  Maps are merged into a map one after another: a key then has the value of the last of
them that has the key, and merging the same maps once more changes nothing.
-/

namespace Sandboard

namespace OrderedMap

variable {κ ν : Type*} [DecidableEq κ] {m new : List (κ × ν)} {ms : List (List (κ × ν))} {j k : κ}
  {v : ν}

/-- Insert an entry; a key that is there keeps its place. -/
def insert (k : κ) (v : ν) : List (κ × ν) → List (κ × ν)
  | [] => [(k, v)]
  | e :: m => if e.1 = k then (e.1, v) :: m else e :: insert k v m

/-- Insert the entries of another map. -/
def insertAll (m new : List (κ × ν)) : List (κ × ν) :=
  new.foldl (fun m e => insert e.1 e.2 m) m

/-- Merge maps one after another. -/
def mergeAll (m : List (κ × ν)) (ms : List (List (κ × ν))) : List (κ × ν) :=
  ms.foldl insertAll m

/-- The value in the last of the maps that has the key. -/
def lastLookup : List (List (κ × ν)) → κ → Option ν
  | [], _ => none
  | m :: ms, k => (lastLookup ms k).or (m.lookup k)

lemma lookup_cons_eq (e : κ × ν) (m : List (κ × ν)) (j : κ) :
    (e :: m).lookup j = if j = e.1 then some e.2 else m.lookup j := by
  rw [List.lookup_cons]
  by_cases hj : j = e.1
  · rw [if_pos hj, beq_iff_eq.2 hj]
  · rw [if_neg hj, beq_eq_false_iff_ne.2 hj]

lemma mem_keys_of_lookup (h : m.lookup k = some v) : k ∈ m.map Prod.fst := by
  obtain ⟨l, r, rfl, -⟩ := List.lookup_eq_some_iff.1 h
  simp

lemma lookup_eq_none_of_notMem (h : k ∉ m.map Prod.fst) : m.lookup k = none := by
  cases hv : m.lookup k with
  | none => rfl
  | some v => exact absurd (mem_keys_of_lookup hv) h

lemma lookup_eq_none_iff : m.lookup k = none ↔ k ∉ m.map Prod.fst := by
  refine ⟨fun h hmem => ?_, lookup_eq_none_of_notMem⟩
  obtain ⟨e, he, rfl⟩ := List.mem_map.1 hmem
  have hne := List.lookup_eq_none_iff.1 h e he
  simp at hne

lemma exists_lookup_of_mem (h : k ∈ m.map Prod.fst) : ∃ v, m.lookup k = some v := by
  cases hv : m.lookup k with
  | none => exact absurd h (lookup_eq_none_iff.1 hv)
  | some v => exact ⟨v, rfl⟩

/-- An entry of a map with distinct keys is the one its key is found with. -/
lemma lookup_of_mem (hnd : (m.map Prod.fst).Nodup) (h : (k, v) ∈ m) : m.lookup k = some v := by
  induction m with
  | nil => cases h
  | cons e m ih =>
    rw [List.map_cons, List.nodup_cons] at hnd
    rw [lookup_cons_eq]
    rcases List.mem_cons.1 h with rfl | h
    · rw [if_pos rfl]
    · rw [if_neg fun heq : k = e.1 => hnd.1 (heq ▸ List.mem_map_of_mem h)]
      exact ih hnd.2 h

/-- Dropping entries by their keys. -/
lemma lookup_filter (p : κ → Bool) (m : List (κ × ν)) (k : κ) :
    (m.filter fun e => p e.1).lookup k = if p k then m.lookup k else none := by
  induction m with
  | nil => rw [List.filter_nil, List.lookup_nil, ite_self]
  | cons e m ih =>
    rw [List.filter_cons, lookup_cons_eq]
    by_cases he : p e.1 = true
    · rw [if_pos he, lookup_cons_eq, ih]
      by_cases hk : k = e.1
      · rw [if_pos hk, if_pos hk, if_pos (hk ▸ he)]
      · rw [if_neg hk, if_neg hk]
    · rw [if_neg he, ih]
      by_cases hk : k = e.1
      · rw [if_neg (hk ▸ he), if_neg (hk ▸ he)]
      · rw [if_neg hk]

/-! ## One entry -/

lemma lookup_insert (k : κ) (v : ν) (m : List (κ × ν)) (j : κ) :
    (insert k v m).lookup j = if j = k then some v else m.lookup j := by
  induction m with
  | nil => exact lookup_cons_eq (k, v) [] j
  | cons e m ih =>
    rw [insert]
    by_cases he : e.1 = k
    · rw [if_pos he, lookup_cons_eq, lookup_cons_eq, he]
      by_cases hj : j = k
      · rw [if_pos hj, if_pos hj]
      · rw [if_neg hj, if_neg hj, if_neg hj]
    · rw [if_neg he, lookup_cons_eq, lookup_cons_eq, ih]
      by_cases hj : j = e.1
      · rw [if_pos hj, if_neg (hj ▸ he), if_pos hj]
      · rw [if_neg hj, if_neg hj]

/-- A key that is there keeps its place. -/
lemma keys_insert_of_mem (h : k ∈ m.map Prod.fst) :
    (insert k v m).map Prod.fst = m.map Prod.fst := by
  induction m with
  | nil => simp at h
  | cons e m ih =>
    rw [insert]
    by_cases he : e.1 = k
    · rw [if_pos he, List.map_cons, List.map_cons]
    · rw [if_neg he, List.map_cons, List.map_cons]
      rcases List.mem_cons.1 h with hk | hk
      · exact absurd hk.symm he
      · rw [ih hk]

/-- A new key comes last. -/
lemma keys_insert_of_notMem (h : k ∉ m.map Prod.fst) :
    (insert k v m).map Prod.fst = m.map Prod.fst ++ [k] := by
  induction m with
  | nil => rfl
  | cons e m ih =>
    rw [List.map_cons, List.mem_cons, not_or] at h
    rw [insert, if_neg (Ne.symm h.1), List.map_cons, ih h.2, List.map_cons, List.cons_append]

lemma mem_keys_insert : j ∈ (insert k v m).map Prod.fst ↔ j = k ∨ j ∈ m.map Prod.fst := by
  by_cases h : k ∈ m.map Prod.fst
  · rw [keys_insert_of_mem h]
    constructor
    · exact Or.inr
    · rintro (rfl | hj)
      · exact h
      · exact hj
  · rw [keys_insert_of_notMem h, List.mem_append, List.mem_singleton, or_comm]

lemma nodup_insert (h : (m.map Prod.fst).Nodup) : ((insert k v m).map Prod.fst).Nodup := by
  by_cases hk : k ∈ m.map Prod.fst
  · rwa [keys_insert_of_mem hk]
  · rw [keys_insert_of_notMem hk]
    exact List.nodup_append.2 ⟨h, List.nodup_singleton k, by
      rintro a ha b hb rfl
      exact hk (List.mem_singleton.1 hb ▸ ha)⟩

/-- An entry that is inserted twice has its second value. -/
lemma insert_insert (k : κ) (v w : ν) (m : List (κ × ν)) :
    insert k v (insert k w m) = insert k v m := by
  induction m with
  | nil => exact if_pos rfl
  | cons e m ih =>
    by_cases he : e.1 = k
    · rw [insert, if_pos he, insert, if_pos he, insert, if_pos he]
    · rw [insert, if_neg he, insert, if_neg he, insert, if_neg he, ih]

lemma forall_insert {p : ν → Prop} (hv : p v) (hm : ∀ e ∈ m, p e.2) :
    ∀ e ∈ insert k v m, p e.2 := by
  induction m with
  | nil =>
    intro e he
    rw [List.mem_singleton.1 he]
    exact hv
  | cons e m ih =>
    rw [insert]
    by_cases he : e.1 = k
    · rw [if_pos he]
      exact List.forall_mem_cons.2 ⟨hv, (List.forall_mem_cons.1 hm).2⟩
    · rw [if_neg he]
      exact List.forall_mem_cons.2 ⟨(List.forall_mem_cons.1 hm).1, ih (List.forall_mem_cons.1 hm).2⟩

/-! ## One map -/

lemma insertAll_cons (m : List (κ × ν)) (e : κ × ν) (new : List (κ × ν)) :
    insertAll m (e :: new) = insertAll (insert e.1 e.2 m) new :=
  rfl

lemma lookup_insertAll (hnew : (new.map Prod.fst).Nodup) (m : List (κ × ν)) (j : κ) :
    (insertAll m new).lookup j = (new.lookup j).or (m.lookup j) := by
  induction new generalizing m with
  | nil => rfl
  | cons e new ih =>
    rw [List.map_cons, List.nodup_cons] at hnew
    rw [insertAll_cons, ih hnew.2, lookup_insert, lookup_cons_eq]
    by_cases hj : j = e.1
    · rw [if_pos hj, if_pos hj, lookup_eq_none_of_notMem (hj ▸ hnew.1)]
      rfl
    · rw [if_neg hj, if_neg hj]

lemma mem_keys_insertAll :
    j ∈ (insertAll m new).map Prod.fst ↔ j ∈ new.map Prod.fst ∨ j ∈ m.map Prod.fst := by
  induction new generalizing m with
  | nil => simp [insertAll]
  | cons e new ih =>
    rw [insertAll_cons, ih, mem_keys_insert, List.map_cons, List.mem_cons, ← or_assoc,
      or_comm (a := j ∈ new.map Prod.fst)]

lemma nodup_insertAll (h : (m.map Prod.fst).Nodup) :
    ((insertAll m new).map Prod.fst).Nodup := by
  induction new generalizing m with
  | nil => exact h
  | cons e new ih => exact ih (nodup_insert h)

lemma forall_insertAll {p : ν → Prop} (hnew : ∀ e ∈ new, p e.2) (hm : ∀ e ∈ m, p e.2) :
    ∀ e ∈ insertAll m new, p e.2 := by
  induction new generalizing m with
  | nil => exact hm
  | cons e new ih =>
    obtain ⟨he, hnew⟩ := List.forall_mem_cons.1 hnew
    exact ih hnew (forall_insert he hm)

/-- Keys that are there keep their places. -/
lemma keys_insertAll_of_subset (h : ∀ k ∈ new.map Prod.fst, k ∈ m.map Prod.fst) :
    (insertAll m new).map Prod.fst = m.map Prod.fst := by
  induction new generalizing m with
  | nil => rfl
  | cons e new ih =>
    have he : e.1 ∈ m.map Prod.fst := h e.1 List.mem_cons_self
    have hkeys := keys_insert_of_mem (v := e.2) he
    rw [insertAll_cons, ih (m := insert e.1 e.2 m), hkeys]
    intro k hk
    rw [hkeys]
    exact h k (List.mem_cons_of_mem _ hk)

/-! ## Several maps -/

lemma mergeAll_cons (m new : List (κ × ν)) (ms : List (List (κ × ν))) :
    mergeAll m (new :: ms) = mergeAll (insertAll m new) ms :=
  rfl

/-- A key has the value of the last of the maps that has it. -/
theorem lookup_mergeAll (hms : ∀ new ∈ ms, (new.map Prod.fst).Nodup) (m : List (κ × ν)) (j : κ) :
    (mergeAll m ms).lookup j = (lastLookup ms j).or (m.lookup j) := by
  induction ms generalizing m with
  | nil => rfl
  | cons new ms ih =>
    rw [mergeAll_cons, ih fun n hn => hms n (List.mem_cons_of_mem _ hn),
      lookup_insertAll (hms new List.mem_cons_self), lastLookup, Option.or_assoc]

lemma nodup_mergeAll (h : (m.map Prod.fst).Nodup) : ((mergeAll m ms).map Prod.fst).Nodup := by
  induction ms generalizing m with
  | nil => exact h
  | cons new ms ih => exact ih (nodup_insertAll h)

lemma forall_mergeAll {p : ν → Prop} (hms : ∀ new ∈ ms, ∀ e ∈ new, p e.2)
    (hm : ∀ e ∈ m, p e.2) : ∀ e ∈ mergeAll m ms, p e.2 := by
  induction ms generalizing m with
  | nil => exact hm
  | cons new ms ih =>
    obtain ⟨hnew, hms⟩ := List.forall_mem_cons.1 hms
    exact ih hms (forall_insertAll hnew hm)

/-- The keys of the maps that are merged are there, and so are the keys from before. -/
theorem mem_keys_mergeAll :
    j ∈ (mergeAll m ms).map Prod.fst ↔
      (∃ new ∈ ms, j ∈ new.map Prod.fst) ∨ j ∈ m.map Prod.fst := by
  induction ms generalizing m with
  | nil => simp [mergeAll]
  | cons new ms ih =>
    rw [mergeAll_cons, ih, mem_keys_insertAll, List.exists_mem_cons_iff, ← or_assoc,
      or_comm (a := ∃ n ∈ ms, j ∈ n.map Prod.fst)]

lemma keys_mergeAll_of_subset (h : ∀ new ∈ ms, ∀ k ∈ new.map Prod.fst, k ∈ m.map Prod.fst) :
    (mergeAll m ms).map Prod.fst = m.map Prod.fst := by
  induction ms generalizing m with
  | nil => rfl
  | cons new ms ih =>
    have hkeys := keys_insertAll_of_subset (h new List.mem_cons_self)
    rw [mergeAll_cons, ih (m := insertAll m new), hkeys]
    intro n hn k hk
    rw [hkeys]
    exact h n (List.mem_cons_of_mem _ hn) k hk

/-- Maps with the same keys in the same order, and the same values, are the same. -/
lemma eq_of_lookup (hnd : (m.map Prod.fst).Nodup) (hkeys : new.map Prod.fst = m.map Prod.fst)
    (hlookup : ∀ k ∈ m.map Prod.fst, new.lookup k = m.lookup k) : new = m := by
  induction m generalizing new with
  | nil => exact List.map_eq_nil_iff.1 hkeys
  | cons e m ih =>
    cases new with
    | nil => simp at hkeys
    | cons e' new =>
      rw [List.map_cons, List.map_cons, List.cons.injEq] at hkeys
      rw [List.map_cons, List.nodup_cons] at hnd
      have hhead := hlookup e.1 (by simp)
      rw [lookup_cons_eq, lookup_cons_eq, hkeys.1, if_pos rfl, if_pos rfl] at hhead
      have htail : new = m := by
        refine ih hnd.2 hkeys.2 fun k hk => ?_
        have hne : k ≠ e.1 := fun h => hnd.1 (h ▸ hk)
        have hk' := hlookup k (List.mem_cons_of_mem _ hk)
        rwa [lookup_cons_eq, lookup_cons_eq, hkeys.1, if_neg hne, if_neg hne] at hk'
      rw [htail, Prod.ext hkeys.1 (Option.some.inj hhead)]

/-- Merging the same maps once more changes nothing. -/
theorem mergeAll_mergeAll (hm : (m.map Prod.fst).Nodup)
    (hms : ∀ new ∈ ms, (new.map Prod.fst).Nodup) :
    mergeAll (mergeAll m ms) ms = mergeAll m ms := by
  refine eq_of_lookup (nodup_mergeAll hm) (keys_mergeAll_of_subset ?_) ?_
  · exact fun new hnew k hk => mem_keys_mergeAll.2 (Or.inl ⟨new, hnew, hk⟩)
  · intro k _
    rw [lookup_mergeAll hms, lookup_mergeAll hms]
    cases lastLookup ms k with
    | none => rfl
    | some v => rfl

end OrderedMap

end Sandboard

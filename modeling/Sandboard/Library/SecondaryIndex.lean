import Mathlib.Data.List.Sort
import Mathlib.Tactic.Common
import Std.Data.ExtTreeMap
import Std.Data.ExtTreeSet

/-!
# Secondary indexes

A secondary index groups the keys of a table into buckets: `idx[g]?` is the set of the keys
filed under `g`.  Buckets are created on the first key and removed with the last one, so a
bucket is never empty; this makes the index a function of the relation it stores, and two
indexes of one relation are equal (`SecondaryIndex.IsExact.unique`).

`link`, `unlink` and `move` are the three updates.  Each has one lemma saying which relation
the index stores afterwards.
-/

open Std

/-- The keys of a table, grouped into sets under group keys. -/
abbrev SecondaryIndex (γ κ : Type) [Ord γ] [Ord κ] : Type :=
  ExtTreeMap γ (ExtTreeSet κ)

namespace SecondaryIndex

variable {γ κ : Type} [Ord γ] [Ord κ] [TransOrd γ] [TransOrd κ]

/-- File the key `k` under `g`, creating the bucket when it is missing. -/
def link (idx : SecondaryIndex γ κ) (g : γ) (k : κ) : SecondaryIndex γ κ :=
  idx.alter g fun bucket => some ((bucket.getD ∅).insert k)

/-- Take the key `k` out of the bucket of `g`, removing the bucket when it is emptied. -/
def unlink (idx : SecondaryIndex γ κ) (g : γ) (k : κ) : SecondaryIndex γ κ :=
  idx.alter g fun bucket =>
    match bucket with
    | none => none
    | some set => if (set.erase k).isEmpty then none else some (set.erase k)

/-- Refile the key `k` from the bucket of `g` to the bucket of `g'`. -/
def move [DecidableEq γ] (idx : SecondaryIndex γ κ) (k : κ) (g g' : γ) : SecondaryIndex γ κ :=
  if g = g' then idx else (idx.unlink g k).link g' k

/-- The keys filed under `g`, in order. -/
def bucket (idx : SecondaryIndex γ κ) (g : γ) : List κ :=
  (idx[g]?.map ExtTreeSet.toList).getD []

/-- The key `k` is filed under `g`. -/
def Files (idx : SecondaryIndex γ κ) (g : γ) (k : κ) : Prop :=
  ∃ set : ExtTreeSet κ, idx[g]? = some set ∧ k ∈ set

/-- The index stores exactly the relation `r`, and keeps no empty bucket. -/
structure IsExact (idx : SecondaryIndex γ κ) (r : γ → κ → Prop) : Prop where
  /-- A key is filed under a group exactly when the relation says so. -/
  files_iff : ∀ g k, Files idx g k ↔ r g k
  /-- No bucket is empty. -/
  nonempty : ∀ (g : γ) (set : ExtTreeSet κ compare),
    (idx[g]? : Option (ExtTreeSet κ compare)) = some set → ∃ k, k ∈ set

variable {idx : SecondaryIndex γ κ} {r r' : γ → κ → Prop}

/-- Only the relation itself matters, not how it is written. -/
lemma IsExact.congr (h : IsExact idx r) (hr : ∀ g k, r g k ↔ r' g k) : IsExact idx r' :=
  ⟨fun g k => (h.files_iff g k).trans (hr g k), h.nonempty⟩

lemma isExact_empty : IsExact (∅ : SecondaryIndex γ κ) fun _ _ => False := by
  constructor
  · simp [Files]
  · simp

/-- The keys of a bucket are listed in increasing order. -/
lemma bucket_ordered (idx : SecondaryIndex γ κ) (g : γ) :
    (bucket idx g).Pairwise fun a b => compare a b = .lt := by
  unfold bucket
  cases idx[g]? with
  | none => simp
  | some set => exact set.ordered_toList

section Lawful

variable [LawfulEqOrd κ]

@[simp] lemma mem_bucket {g : γ} {k : κ} : k ∈ bucket idx g ↔ Files idx g k := by
  unfold bucket Files
  cases idx[g]? with
  | none => simp
  | some set => simp

/-- The bucket of an exact index lists exactly the related keys. -/
lemma IsExact.mem_bucket (h : IsExact idx r) {g : γ} {k : κ} : k ∈ bucket idx g ↔ r g k := by
  rw [SecondaryIndex.mem_bucket, h.files_iff]

/-- Two indexes that store one relation are the same index. -/
theorem IsExact.unique [LawfulEqOrd γ] {idx' : SecondaryIndex γ κ} (h : IsExact idx r)
    (h' : IsExact idx' r) : idx = idx' := by
  have hfiles : ∀ g k, Files idx g k ↔ Files idx' g k := fun g k =>
    (h.files_iff g k).trans (h'.files_iff g k).symm
  refine ExtTreeMap.ext_getElem? fun g => ?_
  cases hg : idx[g]? with
  | none =>
    cases hg' : idx'[g]? with
    | none => rfl
    | some set' =>
      obtain ⟨k, hk⟩ := h'.nonempty g set' hg'
      obtain ⟨set, hset, -⟩ := (hfiles g k).2 ⟨set', hg', hk⟩
      rw [hg] at hset
      cases hset
  | some set =>
    cases hg' : idx'[g]? with
    | none =>
      obtain ⟨k, hk⟩ := h.nonempty g set hg
      obtain ⟨set', hset', -⟩ := (hfiles g k).1 ⟨set, hg, hk⟩
      rw [hg'] at hset'
      cases hset'
    | some set' =>
      congr 1
      refine ExtTreeSet.ext_mem fun k => ?_
      have hk := hfiles g k
      simpa [Files, hg, hg'] using hk

/-! ## Buckets and scans -/

section Table

variable {β : Type} {t : ExtTreeMap κ β} {p : γ → β → Bool}

/-- The bucket of an exact index lists the keys that a scan of the table finds. -/
lemma IsExact.bucket_eq_scan (h : IsExact idx fun g k => ∃ v, t[k]? = some v ∧ p g v = true)
    (g : γ) : bucket idx g = (t.toList.filter fun e => p g e.2).map Prod.fst := by
  have hirrefl : Std.Irrefl fun a b : κ => compare a b = .lt := ⟨fun a => by simp⟩
  have hantisymm : Std.Antisymm fun a b : κ => compare a b = .lt :=
    ⟨fun a b hab hba => absurd hba (by simp [OrientedCmp.not_lt_of_lt hab])⟩
  have hscan : ((t.toList.filter fun e => p g e.2).map Prod.fst).Pairwise
      fun a b => compare a b = .lt := by
    rw [List.pairwise_map]
    exact ExtTreeMap.ordered_keys_toList.filter _
  refine (bucket_ordered idx g).eq_of_mem_iff hscan fun k => ?_
  simp [h.mem_bucket]

/-- Looking up the bucket of an exact index is a scan of the table. -/
theorem IsExact.filterMap_bucket
    (h : IsExact idx fun g k => ∃ v, t[k]? = some v ∧ p g v = true) (g : γ) :
    (bucket idx g).filterMap (fun k => t[k]?) = (t.toList.map Prod.snd).filter (p g) := by
  rw [h.bucket_eq_scan, List.filterMap_map, List.filter_map, ← List.filterMap_eq_map]
  refine List.filterMap_congr fun e he => ?_
  obtain ⟨k, v⟩ := e
  have hmem : (k, v) ∈ t.toList := (List.mem_filter.1 he).1
  exact ExtTreeMap.mem_toList_iff_getElem?_eq_some.1 hmem

end Table

/-! ## The updates -/

variable [LawfulEqOrd γ]

lemma files_link {g g' : γ} {k k' : κ} :
    Files (link idx g k) g' k' ↔ (g' = g ∧ k' = k) ∨ Files idx g' k' := by
  unfold Files link
  rw [ExtTreeMap.getElem?_alter]
  by_cases hg : g = g'
  · subst hg
    cases idx[g]? with
    | none => simp [eq_comm (a := k')]
    | some set => simp [eq_comm (a := k')]
  · simp [hg, Ne.symm hg]

lemma files_unlink {g g' : γ} {k k' : κ} :
    Files (unlink idx g k) g' k' ↔ Files idx g' k' ∧ ¬(g' = g ∧ k' = k) := by
  unfold Files unlink
  rw [ExtTreeMap.getElem?_alter]
  by_cases hg : g = g'
  · subst hg
    cases idx[g]? with
    | none => simp
    | some set =>
      by_cases he : set.erase k = ∅
      · have hnone : k' ≠ k → k' ∉ set := by
          intro hne hmem
          have : k' ∈ set.erase k := by simpa [eq_comm (a := k)] using ⟨hne, hmem⟩
          simp [he] at this
        have hf : (set.erase k).isEmpty = true := ExtTreeSet.isEmpty_iff.2 he
        simp only [compare_self, hf, if_true, reduceCtorEq, false_and, exists_false, false_iff,
          true_and, not_and, not_not, Option.some.injEq]
        rintro ⟨set', rfl, hmem⟩
        by_contra hne
        exact hnone hne hmem
      · have hf : (set.erase k).isEmpty = false := ExtTreeSet.isEmpty_eq_false_iff.2 he
        simp [hf, and_comm, eq_comm (a := k)]
  · simp [hg, Ne.symm hg]

/-- Filing a key adds the pair to the stored relation. -/
lemma IsExact.link (h : IsExact idx r) (g : γ) (k : κ) :
    IsExact (link idx g k) fun g' k' => (g' = g ∧ k' = k) ∨ r g' k' := by
  constructor
  · intro g' k'
    rw [files_link, h.files_iff]
  · intro g' set hset
    unfold SecondaryIndex.link at hset
    rw [ExtTreeMap.getElem?_alter] at hset
    split at hset
    · cases hset
      exact ⟨k, by simp⟩
    · exact h.nonempty g' set hset

/-- Taking a key out removes the pair from the stored relation. -/
lemma IsExact.unlink (h : IsExact idx r) (g : γ) (k : κ) :
    IsExact (unlink idx g k) fun g' k' => r g' k' ∧ ¬(g' = g ∧ k' = k) := by
  constructor
  · intro g' k'
    rw [files_unlink, h.files_iff]
  · intro g' set hset
    unfold SecondaryIndex.unlink at hset
    rw [ExtTreeMap.getElem?_alter] at hset
    split at hset
    · cases hg : idx[g]? with
      | none => simp [hg] at hset
      | some old =>
        simp only [hg] at hset
        split at hset
        · cases hset
        · rename_i hne
          cases hset
          by_contra hno
          push Not at hno
          refine hne (ExtTreeSet.isEmpty_iff.2 (ExtTreeSet.ext_mem fun x => ?_))
          simp [hno x]
    · exact h.nonempty g' set hset

/-- Refiling a key moves its pair from the old group to the new one. -/
lemma IsExact.move [DecidableEq γ] (h : IsExact idx r) (k : κ) (g g' : γ) (hk : r g k) :
    IsExact (move idx k g g') fun a x =>
      (a = g' ∧ x = k) ∨ (r a x ∧ ¬(a = g ∧ x = k)) := by
  unfold SecondaryIndex.move
  split
  · rename_i heq
    subst heq
    refine h.congr fun a x => ?_
    by_cases hax : a = g ∧ x = k
    · obtain ⟨rfl, rfl⟩ := hax
      simp [hk]
    · simp [hax]
  · exact (h.unlink g k).link g' k

end Lawful

end SecondaryIndex

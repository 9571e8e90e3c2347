import Mathlib.Algebra.Order.BigOperators.Group.List
import Sandboard.Store.Lasting

/-!
# Tasks are flat under a Project

On every reachable board the parent of a card is on the board and is a root that takes Tasks.
So a Project and its Tasks are all that a subtree holds, and the deletion of a card takes out
exactly the card and the cards under it.
-/

namespace Sandboard

open Std

/-- Everything that the methods write is licensed. -/
def Licence.free : Licence where
  proposes _ := True
  approves := True
  defines _ := True
  moves _ _ _ _ := True
  links _ _ _ := True
  rewrites _ _ _ f := ∃ title intent definitionOfDone engine projectPrompt,
    f = Board.updated title intent definitionOfDone engine projectPrompt

lemma Licence.free_permits [UnicodeTables] (s : BoardState) (op : Operation) :
    Licence.free.Permits s op := by
  cases op with
  | updateItem id title intent dod engine projectPrompt =>
    exact fun _ _ => ⟨title, intent, dod, engine, projectPrompt, rfl⟩
  | create | createTask | proposePlan | setProposal | proposeSplit | setBlockedBy | transition =>
    simp [Licence.Permits, Licence.free]
  | _ => trivial

namespace BoardState

variable {s s' : BoardState} {id k : ItemId} {c : WorkItem}

/-- The parent of a card is a root that takes Tasks. -/
def Nested (s : BoardState) : Prop :=
  ∀ (k : ItemId) (i : WorkItem), s.items[k]? = some i →
    i.parent.isSome = true → Board.checkParent s i.parent = .ok ()

/-- The parent and the label of a card. -/
def place (s : BoardState) (k : ItemId) : Option (Option ItemId × Option String) :=
  s.items[k]?.map fun i => (i.parent, i.level)

/-- The card `k` is `id` or one of its children. -/
def Under (s : BoardState) (id k : ItemId) : Prop :=
  k = id ∨ s.IsChild id k

namespace Nested

lemma iff : s.Nested ↔ ∀ (k : ItemId) (i : WorkItem) (p : ItemId), s.items[k]? = some i →
    i.parent = some p → ∃ P : WorkItem, s.items[p]? = some P ∧ P.parent = none ∧
      P.level ≠ some "Task" := by
  constructor
  · intro h k i p hi hp
    have hparent := h k i hi (by rw [hp]; rfl)
    rw [hp] at hparent
    exact Board.checkParent_some_iff.1 hparent
  · intro h k i hi hsome
    obtain ⟨p, hp⟩ := Option.isSome_iff_exists.1 hsome
    rw [hp]
    exact Board.checkParent_some_iff.2 (h k i p hi hp)

lemma empty : BoardState.empty.Nested := fun k i h => by
  simp [BoardState.empty] at h

/-- Only the places of the cards matter. -/
lemma of_place (h : s.Nested) (hplace : s'.place = s.place) : s'.Nested := by
  rw [iff] at h ⊢
  intro k i p hi hp
  have hk : s.place k = some (i.parent, i.level) := by
    rw [← hplace, place, hi, Option.map_some]
  obtain ⟨j, hj, hji⟩ := Option.map_eq_some_iff.1 hk
  rw [Prod.mk.injEq] at hji
  obtain ⟨P, hP, hroot, htask⟩ := h k j p hj (hji.1.trans hp)
  have hp' : s'.place p = some (P.parent, P.level) := by
    rw [hplace, place, hP, Option.map_some]
  obtain ⟨Q, hQ, hQP⟩ := Option.map_eq_some_iff.1 hp'
  rw [Prod.mk.injEq] at hQP
  exact ⟨Q, hQ, hQP.1.trans hroot, hQP.2 ▸ htask⟩

/-- A child has no children. -/
lemma not_isChild (h : s.Nested) (hc : s.items[id]? = some c) (hparent : c.parent.isSome = true)
    (k : ItemId) : ¬s.IsChild id k := by
  rintro ⟨i, hi, hp⟩
  obtain ⟨P, hP, hroot, -⟩ := iff.1 h k i id hi hp
  rw [hc, Option.some.injEq] at hP
  rw [hP, hroot] at hparent
  cases hparent

end Nested

lemma place_editItem {f : WorkItem → WorkItem}
    (hf : ∀ i, (f i).parent = i.parent ∧ (f i).level = i.level) :
    (s.editItem id f).place = s.place := by
  funext k
  unfold place
  rw [items_editItem]
  split
  · rw [Option.map_map]
    refine congrArg (fun g => s.items[k]?.map g) (funext fun i => ?_)
    simp [hf i]
  · rfl

lemma place_worked {L : Licence} {c' : WorkItem} (h : Worked L id s c s' c') :
    s'.place = s.place := by
  induction h with
  | refl => rfl
  | edit h hf ih =>
    rw [place_editItem fun i => ⟨congrArg Contract.parent (hf i).contract,
      congrArg Contract.level (hf i).contract⟩, ih]
  | move h now byWhom reason hcheck hmove ih =>
    rw [← ih]
    exact place_editItem fun i => ⟨rfl, rfl⟩

/-! ## Deletion -/

/-- A walk over cards without children takes them as they are. -/
lemma deleteWalk_leaves {stack toDelete : List ItemId} {fuel : ℕ}
    (hleaves : ∀ k ∈ stack, s.childrenOfIndexed k = []) (hfuel : stack.length ≤ fuel) :
    Board.deleteWalk s fuel stack toDelete = toDelete ++ stack := by
  induction stack generalizing fuel toDelete with
  | nil => cases fuel <;> simp [Board.deleteWalk]
  | cons cur stack ih =>
    obtain ⟨fuel, rfl⟩ := Nat.exists_eq_add_of_le' (Nat.one_le_of_lt (Nat.lt_of_lt_of_le
      (Nat.succ_pos stack.length) hfuel))
    rw [Board.deleteWalk, hleaves cur List.mem_cons_self, List.foldl_nil,
      ih (fun k hk => hleaves k (List.mem_cons_of_mem _ hk)) (Nat.le_of_succ_le_succ hfuel),
      List.append_assoc, List.singleton_append]

/-- New ids are put on the stack, the last one on top. -/
lemma foldl_push {toDelete : List ItemId} {kids stack : List ItemId}
    (hnodup : kids.Nodup) (hfresh : ∀ k ∈ kids, k ∉ toDelete ∧ k ∉ stack) :
    kids.foldl (fun stack cid =>
      if toDelete.contains cid || stack.contains cid then stack else cid :: stack) stack =
      kids.reverse ++ stack := by
  induction kids generalizing stack with
  | nil => rfl
  | cons k kids ih =>
    obtain ⟨hk, hkids⟩ := List.nodup_cons.1 hnodup
    obtain ⟨hdelete, hstack⟩ := hfresh k List.mem_cons_self
    rw [List.foldl_cons, if_neg (by simp [hdelete, hstack]), ih hkids, List.reverse_cons,
      List.append_assoc, List.singleton_append]
    intro j hj
    obtain ⟨hjdelete, hjstack⟩ := hfresh j (List.mem_cons_of_mem _ hj)
    refine ⟨hjdelete, fun hmem => ?_⟩
    rcases List.mem_cons.1 hmem with rfl | hmem
    · exact hk hj
    · exact hjstack hmem

lemma childrenOfIndexed_nodup (s : BoardState) (id : ItemId) : (s.childrenOfIndexed id).Nodup :=
  (SecondaryIndex.bucket_ordered s.childrenByParent id).imp fun h heq => by
    rw [heq, Std.compare_self] at h
    cases h

lemma WellFormed.mem_childrenOfIndexed (h : s.WellFormed) :
    k ∈ s.childrenOfIndexed id ↔ s.IsChild id k :=
  h.children.mem_bucket

/-- The fuel covers a card and its children. -/
lemma length_childrenOfIndexed_le (s : BoardState) (id : ItemId) :
    (s.childrenOfIndexed id).length + 2 ≤ Board.deleteFuel s := by
  unfold childrenOfIndexed SecondaryIndex.bucket Board.deleteFuel
  cases hset : s.childrenByParent[id]? with
  | none => simp
  | some set =>
    have hmem : (id, set) ∈ s.childrenByParent.toList :=
      ExtTreeMap.mem_toList_iff_getElem?_eq_some.2 hset
    have hle : set.size ≤ (s.childrenByParent.toList.map fun e => e.2.size).sum :=
      List.le_sum_of_mem (List.mem_map.2 ⟨(id, set), hmem, rfl⟩)
    have hlength : set.toList.length = set.size := ExtTreeSet.length_toList
    simp only [Option.map_some, Option.getD_some]
    omega

/-- The deletion of a card takes out the card and the cards under it. -/
lemma mem_deleteWalk (hs : s.WellFormed) (hn : s.Nested) (hc : s.items[id]? = some c) :
    k ∈ Board.deleteWalk s (Board.deleteFuel s) [id] [] ↔ s.Under id k := by
  have hfuel := length_childrenOfIndexed_le s id
  obtain ⟨fuel, hfuel'⟩ : ∃ fuel, Board.deleteFuel s = fuel + 1 := ⟨Board.deleteFuel s - 1, by omega⟩
  have hne : ∀ k ∈ s.childrenOfIndexed id, k ≠ id := by
    rintro k hk rfl
    obtain ⟨i, hi, hp⟩ := hs.mem_childrenOfIndexed.1 hk
    exact hn.not_isChild hi (by rw [hp]; rfl) k ⟨i, hi, hp⟩
  have hleaves : ∀ k ∈ (s.childrenOfIndexed id).reverse, s.childrenOfIndexed k = [] := by
    intro k hk
    obtain ⟨i, hi, hp⟩ := hs.mem_childrenOfIndexed.1 (List.mem_reverse.1 hk)
    exact List.eq_nil_iff_forall_not_mem.2 fun j hj =>
      hn.not_isChild hi (by rw [hp]; rfl) j (hs.mem_childrenOfIndexed.1 hj)
  rw [hfuel', Board.deleteWalk, List.nil_append,
    foldl_push (childrenOfIndexed_nodup s id) (fun k hk => by simp [hne k hk]), List.append_nil,
    deleteWalk_leaves hleaves (by rw [List.length_reverse]; omega)]
  simp [Under, hs.mem_childrenOfIndexed]

lemma items_insertNew_ite (schema : Schema) (now : Time) (c : Board.NewCard) (s : BoardState)
    (k : ItemId) : (Board.insertNew schema now c s).2.items[k]? =
      if k = s.nextId then some (c.toItem schema now s.nextId) else s.items[k]? := by
  by_cases hk : k = s.nextId
  · rw [if_pos hk, hk, Board.items_insertNew]
  · rw [if_neg hk]
    simp only [Board.insertNew, insertItem, indexLinkItem, ExtTreeMap.getElem?_insert,
      LawfulEqCmp.compare_eq_iff_eq]
    exact if_neg (Ne.symm hk)

lemma items_removeAll (ids : List ItemId) (s : BoardState) :
    (ids.foldl removeItem s).items[k]? = if k ∈ ids then none else s.items[k]? := by
  induction ids generalizing s with
  | nil => simp
  | cons j ids ih =>
    rw [List.foldl_cons, ih, items_removeItem]
    by_cases hk : k = j
    · simp [hk]
    · simp [hk]

/-- Taking cards out leaves the next id alone. -/
lemma nextId_removeAll (ids : List ItemId) (s : BoardState) :
    (ids.foldl BoardState.removeItem s).nextId = s.nextId := by
  induction ids generalizing s with
  | nil => rfl
  | cons k ids ih =>
    rw [List.foldl_cons, ih]
    unfold BoardState.removeItem
    cases s.items[k]? with
    | none => rfl
    | some c => rfl

/-- A card that is left by a deletion is blocked by the deleted cards no more. -/
def WorkItem.unblocked (gone : ItemId → Bool) (it : WorkItem) : WorkItem :=
  { it with blockedBy := it.blockedBy.filter fun b => !gone b }

/-- The cards that the deletion of the card `id` leaves. -/
lemma items_deleteSection (hs : s.WellFormed) (hn : s.Nested) (hc : s.items[id]? = some c) :
    ∃ gone : ItemId → Bool, (∀ k, gone k = true ↔ s.Under id k) ∧
      Board.deleteSection id s = (.ok (), (Board.deleteSection id s).2) ∧
      ∀ k : ItemId, (Board.deleteSection id s).2.items[k]? =
        if gone k then none else s.items[k]?.map (WorkItem.unblocked gone) := by
  let ids := Board.deleteWalk s (Board.deleteFuel s) [id] []
  have hrun : Board.deleteSection id s = (.ok (), { ids.foldl removeItem s with
      items := (ids.foldl removeItem s).items.map fun _ => WorkItem.unblocked ids.contains }) := by
    unfold Board.deleteSection
    rw [if_neg (by simp [hc])]
    rfl
  refine ⟨ids.contains, fun k => ?_, by rw [hrun], fun k => ?_⟩
  · rw [List.contains_iff_mem, mem_deleteWalk hs hn hc]
  · rw [hrun]
    change ((ids.foldl removeItem s).items.map fun _ => WorkItem.unblocked ids.contains)[k]? = _
    rw [ExtTreeMap.getElem?_map, items_removeAll]
    by_cases hk : k ∈ ids
    · simp [hk]
    · simp [hk]

/-- A deletion leaves a nested board. -/
lemma Nested.delete (hs : s.WellFormed) (hn : s.Nested) (id : ItemId) :
    (Board.deleteSection id s).2.Nested := by
  cases hc : s.items[id]? with
  | none =>
    have hsame : (Board.deleteSection id s).2 = s := by simp [Board.deleteSection, hc]
    rw [hsame]
    exact hn
  | some c =>
    obtain ⟨gone, hgone, -, hitems⟩ := items_deleteSection hs hn hc
    rw [Nested.iff] at hn ⊢
    intro k i p hi hp
    rw [hitems] at hi
    split at hi
    · cases hi
    · rename_i hk
      obtain ⟨j, hj, rfl⟩ := Option.map_eq_some_iff.1 hi
      obtain ⟨P, hP, hroot, htask⟩ := hn k j p hj hp
      refine ⟨WorkItem.unblocked gone P, ?_, hroot, htask⟩
      have hp' : ¬gone p = true := by
        rw [hgone]
        rintro (rfl | ⟨P', hP', hparent⟩)
        · exact hk ((hgone k).2 (Or.inr ⟨j, hj, hp⟩))
        · rw [hP, Option.some.injEq] at hP'
          rw [← hP', hroot] at hparent
          cases hparent
      rw [hitems, if_neg hp', hP, Option.map_some]

/-- A card is created under a root that takes Tasks. -/
lemma Nested.insert (hn : s.Nested) (hs : s.WellFormed) {c : Board.NewCard} (schema : Schema)
    (now : Time) (hparent : Board.checkParent s c.parent = .ok ()) :
    (Board.insertNew schema now c s).2.Nested := by
  rw [Nested.iff] at hn ⊢
  intro k i p hi hp
  have hold : ∃ P, s.items[p]? = some P ∧ P.parent = none ∧ P.level ≠ some "Task" := by
    rw [items_insertNew_ite] at hi
    split at hi
    · cases hi
      have hchild : c.parent = some p := hp
      rw [hchild] at hparent
      exact Board.checkParent_some_iff.1 hparent
    · exact hn k i p hi hp
  obtain ⟨P, hP, hroot⟩ := hold
  refine ⟨P, ?_, hroot⟩
  rw [items_insertNew_ite, if_neg (hs.fresh p P hP).ne, hP]

end BoardState

section Unicode

variable [UnicodeTables]

open BoardState

/-- Tasks stay flat under a Project. -/
lemma lasting_nested : Lasting Licence.free Nested where
  aside hitems _ _ _ h := h.of_place (funext fun k => by simp only [place, hitems])
  work _ h _ hworked := h.of_place (place_worked hworked)
  insert schema now hs h hparent _ := h.insert hs.wellFormed schema now hparent
  propose _ h _ _ := h.of_place (place_editItem fun _ => ⟨rfl, rfl⟩)
  settle _ _ _ _ h _ := h.of_place (place_editItem fun _ => ⟨rfl, rfl⟩)
  link _ h _ _ := h.of_place (place_editItem fun _ => ⟨rfl, rfl⟩)
  rewrite _ h _ hf := by
    obtain ⟨title, intent, dod, engine, projectPrompt, rfl⟩ := hf
    exact h.of_place (place_editItem fun _ => ⟨rfl, rfl⟩)
  proposed _ _ _ _ := trivial
  resolved _ _ _ _ := trivial
  rows _ _ := trivial
  defined _ := trivial
  undefined := trivial
  moves _ _ := trivial
  promotes _ := trivial

namespace Board

omit [UnicodeTables] in
lemma sound_new (schema : Schema) (clock : ℕ → ℕ → Time) (saveSucceeds : ℕ → Bool) :
    (Board.new schema clock saveSucceeds).state.Sound :=
  ⟨.empty, .empty⟩

/-- Every operation keeps a sound board nested. -/
theorem nested_after {b : Board} (hs : b.state.Sound) (hn : b.state.Nested)
    (ops : List Operation) : (b.after ops).state.Nested := by
  exact (lasting_nested.meets (fun op s _ _ => Licence.free_permits s op)
    (fun _ fuel id reason hs hn _ =>
      lasting_nested.exec_cutScope (fun _ _ _ => trivial) fuel id reason hs hn)
    (fun _ id hs hn _ => Nested.delete hs.wellFormed hn id) hs hn
    (meets_of_forall (fun _ _ => trivial) b ops)).2

lemma nested_exec {b : Board} (hs : b.state.Sound) (hn : b.state.Nested) (op : Operation) :
    (b.exec op).state.Nested :=
  nested_after hs hn [op]

end Board

end Unicode

end Sandboard

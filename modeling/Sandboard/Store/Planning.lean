import Mathlib.Data.List.Induction
import Sandboard.Store.Constraints

/-!
# What a materialization leaves

The board after a materialization, card by card.  Which ids the rows of a proposal get
(`plannedIds`) and which edges are written last to each Task (`lastLink`) is settled by the
titles and the keys alone, before the first Task is planted.
-/

namespace Sandboard

open Std Text

namespace BoardState

/-- The two states have the same cards. -/
structure SameCards (s s' : BoardState) : Prop where
  items : s'.items = s.items
  nextId : s'.nextId = s.nextId

namespace SameCards

variable {s s' s'' : BoardState}

lemma refl (s : BoardState) : SameCards s s := ⟨rfl, rfl⟩

lemma trans (h : SameCards s s') (h' : SameCards s' s'') : SameCards s s'' :=
  ⟨h'.items.trans h.items, h'.nextId.trans h.nextId⟩

/-- A story leaves the cards alone. -/
lemma told (b : Board) (near : ItemId) (text : String) :
    SameCards b.state (b.told near text).state := ⟨rfl, rfl⟩

end SameCards

variable {s s' : BoardState} {id : ItemId} {c c' : WorkItem}

/-- The cards of a board on which one was edited. -/
lemma cards_editItem (hs : s.WellFormed) (id : ItemId) (f : WorkItem → WorkItem) :
    (s.editItem id f).cards = s.cards.map fun i => if i.id = id then f i else i := by
  have hitems : (s.editItem id f).items = s.items.map fun k i => if k = id then f i else i := by
    refine ExtTreeMap.ext_getElem? fun k => ?_
    rw [items_editItem, ExtTreeMap.getElem?_map]
    split
    · rfl
    · simp
  rw [cards, cards, hitems, ExtTreeMap.toList_map, List.map_map, List.map_map]
  refine List.map_congr_left fun e he => ?_
  have hkey : e.2.id = e.1 := hs.key _ _ (ExtTreeMap.mem_toList_iff_getElem?_eq_some.1 he)
  simp [hkey]

lemma nextId_worked {L : Licence} (h : Worked L id s c s' c') : s'.nextId = s.nextId := by
  induction h with
  | refl => rfl
  | edit h hf ih => exact ih
  | move h now byWhom reason hcheck hmove ih => exact ih

end BoardState

section Unicode

variable [UnicodeTables]

namespace BoardState

variable {s s' : BoardState} {id : ItemId} {c c' : WorkItem}

/-- The live siblings of a card do not depend on the card. -/
lemma existingByTitle_editItem (hs : s.WellFormed) (projectId : ItemId) {f : WorkItem → WorkItem}
    (hf : ∀ i, (f i).id = i.id) :
    Board.existingByTitle projectId id (s.editItem id f) = Board.existingByTitle projectId id s := by
  unfold Board.existingByTitle
  let g : WorkItem → WorkItem := fun i => if i.id = id then f i else i
  let live : WorkItem → Bool := fun i =>
    i.parent == some projectId && i.id != id && i.state != .retired
  have hlive : ∀ i, live (g i) = live i := by
    intro i
    by_cases hi : i.id = id
    · simp [g, live, hi, hf]
    · simp [g, hi]
  have hcards : (s.editItem id f).cards.filter live = s.cards.filter live := by
    rw [cards_editItem hs, List.filter_map]
    have hcomp : live ∘ g = live := funext hlive
    rw [hcomp]
    conv_rhs => rw [← List.map_id (s.cards.filter live)]
    refine List.map_congr_left fun i hi => ?_
    have hne : i.id ≠ id := by
      have := (List.mem_filter.1 hi).2
      simp only [live, Bool.and_eq_true, bne_iff_ne] at this
      exact this.1.2
    exact if_neg hne
  rw [hcards]

lemma existingByTitle_worked {L : Licence} (hs : s.WellFormed) (hc : s.items[id]? = some c)
    (h : Worked L id s c s' c') (projectId : ItemId) :
    Board.existingByTitle projectId id s' = Board.existingByTitle projectId id s := by
  induction h with
  | refl => rfl
  | edit h hf ih =>
    have hwf := hs.reshaped (h.reshaped hc)
    rw [existingByTitle_editItem hwf projectId fun i => congrArg Contract.id (hf i).contract, ih hc]
  | move h now byWhom reason hcheck hmove ih =>
    have hwf := hs.reshaped (h.reshaped hc)
    rw [← ih hc]
    exact existingByTitle_editItem hwf projectId fun i => rfl

end BoardState

namespace Board

/-! ## The ids of the rows -/

/-- The ids of the Tasks of the rows, where new ones are handed out from the given one. -/
def plannedIds (existing : List (String × WorkItem)) : ItemId → List PlanTaskSpec → List ItemId
  | _, [] => []
  | next, spec :: rows =>
    match existing.lookup (normalizeTitle spec.title) with
    | some sibling => sibling.id :: plannedIds existing next rows
    | none => next :: plannedIds existing (next + 1) rows

/-- No live sibling has the title of the row. -/
def IsNew (existing : List (String × WorkItem)) (spec : PlanTaskSpec) : Prop :=
  existing.lookup (normalizeTitle spec.title) = none

namespace Planted

variable {fallback : Option String} {projectId : ItemId} {byWhom : String} {origin : Origin}
  {existing : List (String × WorkItem)} {s s' : BoardState} {rows : List PlanTaskSpec}
  {ids : List ItemId}

lemma ids_eq (h : Planted fallback projectId byWhom origin existing s rows s' ids) :
    ids = plannedIds existing s.nextId rows := by
  induction h with
  | nil s => rfl
  | reuse hlookup h ih => rw [plannedIds, hlookup, ih]
  | plant schema t hlookup h ih => rw [plannedIds, hlookup, ih]; rfl

/-- Every row takes one id at most. -/
lemma nextId_le (h : Planted fallback projectId byWhom origin existing s rows s' ids) :
    s.nextId ≤ s'.nextId ∧ s'.nextId ≤ s.nextId + rows.length := by
  induction h with
  | nil s => exact ⟨le_rfl, le_rfl⟩
  | reuse hlookup h ih => exact ⟨ih.1, ih.2.trans (Nat.add_le_add_left (Nat.le_succ _) _)⟩
  | plant schema t hlookup h ih =>
    rw [plantRow, plantTask_nextId] at ih
    exact ⟨Nat.le_of_succ_le ih.1, ih.2.trans (by rw [List.length_cons, Nat.add_right_comm, Nat.add_assoc])⟩

/-- A card that was not there is the Task of a row without a live sibling. -/
lemma born (h : Planted fallback projectId byWhom origin existing s rows s' ids) {k : ItemId}
    {i : WorkItem} (hi : s'.items[k]? = some i) : s.items[k]? = some i ∨
      ∃ spec schema t, (spec, k) ∈ rows.zip ids ∧ IsNew existing spec ∧
        i = rowTask schema (rowCard fallback projectId origin spec) byWhom t k := by
  induction h with
  | nil s => exact Or.inl hi
  | reuse hlookup h ih =>
    rcases ih hi with hold | ⟨spec, schema, t, hmem, hnew, htask⟩
    · exact Or.inl hold
    · exact Or.inr ⟨spec, schema, t, List.mem_cons_of_mem _ hmem, hnew, htask⟩
  | plant schema t hlookup h ih =>
    rcases ih hi with hold | ⟨spec, schema', t', hmem, hnew, htask⟩
    · rw [plantRow, items_plantTask] at hold
      split at hold
      · rename_i hk
        subst hk
        exact Or.inr ⟨_, schema, t, List.mem_cons_self, hlookup, (Option.some.inj hold).symm⟩
      · exact Or.inl hold
    · exact Or.inr ⟨spec, schema', t', List.mem_cons_of_mem _ hmem, hnew, htask⟩

/-- A row whose title is that of a live sibling stands for the sibling. -/
lemma sibling (h : Planted fallback projectId byWhom origin existing s rows s' ids)
    {spec : PlanTaskSpec} {k : ItemId} (hmem : (spec, k) ∈ rows.zip ids) {i : WorkItem}
    (hlookup : existing.lookup (normalizeTitle spec.title) = some i) : k = i.id := by
  induction h with
  | nil s => cases hmem
  | reuse hfound h ih =>
    rcases List.mem_cons.1 hmem with heq | hmem
    · cases heq
      rw [hfound, Option.some.injEq] at hlookup
      rw [hlookup]
    · exact ih hmem
  | plant schema t hfound h ih =>
    rcases List.mem_cons.1 hmem with heq | hmem
    · cases heq
      rw [hfound] at hlookup
      cases hlookup
    · exact ih hmem

/-- A row without a live sibling gets its own Task, under a new id. -/
lemma task (h : Planted fallback projectId byWhom origin existing s rows s' ids)
    (hs : s.WellFormed) {spec : PlanTaskSpec} {k : ItemId} (hmem : (spec, k) ∈ rows.zip ids)
    (hnew : IsNew existing spec) : s.nextId ≤ k ∧ ∃ schema t,
      s'.items[k]? = some (rowTask schema (rowCard fallback projectId origin spec) byWhom t k) := by
  induction h with
  | nil s => cases hmem
  | reuse hfound h ih =>
    rcases List.mem_cons.1 hmem with heq | hmem
    · cases heq
      rw [IsNew, hfound] at hnew
      cases hnew
    · exact ih hs hmem
  | @plant s s' spec' rows ids schema t hfound h ih =>
    have hplanted := wellFormed_plantTask hs schema (rowCard fallback projectId origin spec') byWhom
      (some "from proposal") t
    rcases List.mem_cons.1 hmem with heq | hmem
    · cases heq
      refine ⟨le_rfl, schema, t, h.kept hplanted ?_⟩
      exact (items_plantTask _ _ _ _ _ _ _).trans (if_pos rfl)
    · obtain ⟨hle, hitem⟩ := ih hplanted hmem
      rw [plantRow, plantTask_nextId] at hle
      exact ⟨Nat.le_of_succ_le hle, hitem⟩

/-- A row stands for a live sibling, or for a Task that was not there. -/
lemma row {id : ItemId}
    (h : Planted fallback projectId byWhom origin (existingByTitle projectId id s) s rows s' ids)
    (hs : s.WellFormed) {z : PlanTaskSpec × ItemId} (hz : z ∈ rows.zip ids) :
    (∃ sibling, (existingByTitle projectId id s).lookup (normalizeTitle z.1.title) = some sibling ∧
      z.2 = sibling.id ∧ z.2 ≠ id ∧ s.items[z.2]? = some sibling ∧
        s'.items[z.2]? = some sibling) ∨
      (IsNew (existingByTitle projectId id s) z.1 ∧ s.items[z.2]? = none ∧ ∃ schema t,
        s'.items[z.2]? =
          some (rowTask schema (rowCard fallback projectId origin z.1) byWhom t z.2)) := by
  cases hlive : (existingByTitle projectId id s).lookup (normalizeTitle z.1.title) with
  | some sibling =>
    obtain ⟨hi, -, hne, -, -⟩ := lookup_existingByTitle hs hlive
    have hz2 : z.2 = sibling.id := h.sibling hz hlive
    rw [hz2]
    exact Or.inl ⟨sibling, rfl, rfl, hne, hi, h.kept hs hi⟩
  | none =>
    obtain ⟨hle, schema, t, htask⟩ := h.task hs hz hlive
    refine Or.inr ⟨hlive, ?_, schema, t, htask⟩
    cases hi : s.items[z.2]? with
    | none => rfl
    | some i => exact absurd (hs.fresh _ i hi) (Nat.not_lt.2 hle)

/-- Two rows without live siblings get two Tasks. -/
lemma distinct (h : Planted fallback projectId byWhom origin existing s rows s' ids)
    (hs : s.WellFormed) :
    (rows.zip ids).Pairwise fun z z' => IsNew existing z.1 → IsNew existing z'.1 → z.2 ≠ z'.2 := by
  induction h with
  | nil s => exact List.Pairwise.nil
  | reuse hfound h ih =>
    refine List.Pairwise.cons (fun z hz hnew => ?_) (ih hs)
    rw [IsNew, hfound] at hnew
    cases hnew
  | @plant s s' spec rows ids schema t hfound h ih =>
    have hplanted := wellFormed_plantTask hs schema (rowCard fallback projectId origin spec) byWhom
      (some "from proposal") t
    refine List.Pairwise.cons (fun z hz _ hnew => ?_) (ih hplanted)
    have hle := (h.task hplanted hz hnew).1
    rw [plantRow, plantTask_nextId] at hle
    exact (Nat.lt_of_succ_le hle).ne

end Planted

/-! ## The edges -/

omit [UnicodeTables] in
/-- The edges that the rows write last to the card `k`. -/
def lastLink (keyToId : List (String × ItemId)) (rows : List PlanTaskSpec) (k : ItemId) :
    Option (List ItemId) :=
  (rows.reverse.find? fun spec =>
    keyToId.lookup spec.key == some k && !(resolved keyToId spec).isEmpty).map (resolved keyToId)

omit [UnicodeTables] in
/-- The card `k` with the edges that the rows write to it. -/
def relinked (keyToId : List (String × ItemId)) (rows : List PlanTaskSpec) (k : ItemId)
    (i : WorkItem) : WorkItem :=
  match lastLink keyToId rows k with
  | some blockers => i.blockedOn blockers
  | none => i

omit [UnicodeTables] in
/-- The rows write their edges, and the last ones stay. -/
lemma items_linkRows (keyToId : List (String × ItemId)) (rows : List PlanTaskSpec)
    (s : BoardState) (k : ItemId) :
    (rows.foldl (linked keyToId) s).items[k]? =
      s.items[k]?.map (relinked keyToId rows k) := by
  induction rows using List.reverseRecOn with
  | nil =>
    change s.items[k]? = s.items[k]?.map fun i => i
    rw [Option.map_id']
  | append_singleton rows spec ih =>
    rw [List.foldl_append, List.foldl_cons, List.foldl_nil]
    have hlast : lastLink keyToId (rows ++ [spec]) k =
        if keyToId.lookup spec.key == some k && !(resolved keyToId spec).isEmpty then
          some (resolved keyToId spec) else lastLink keyToId rows k := by
      rw [lastLink, List.reverse_append, List.reverse_singleton, List.singleton_append,
        List.find?_cons]
      split
      · rename_i hwrites
        rw [if_pos hwrites, Option.map_some]
      · rename_i hwrites
        rw [if_neg (by simp [hwrites])]
        rfl
    have hkept : lastLink keyToId (rows ++ [spec]) k = lastLink keyToId rows k →
        (rows.foldl (linked keyToId) s).items[k]? =
          s.items[k]?.map (relinked keyToId (rows ++ [spec]) k) := by
      intro hsame
      rw [ih]
      unfold relinked
      rw [hsame]
    generalize rows.foldl (linked keyToId) s = s₁ at ih hkept ⊢
    unfold linked
    cases hlookup : keyToId.lookup spec.key with
    | none =>
      rw [hlookup] at hlast
      exact hkept (by rw [hlast]; rfl)
    | some sid =>
      rw [hlookup] at hlast
      dsimp only
      split
      · rename_i hempty
        exact hkept (by rw [hlast, if_neg (by simp [hempty])])
      · rename_i hempty
        by_cases hk : k = sid
        · subst hk
          rw [BoardState.items_editItem_self, ih, Option.map_map]
          rw [if_pos (by simp [hempty])] at hlast
          refine congrArg (fun f => s.items[k]?.map f) (funext fun i => ?_)
          simp only [Function.comp_apply, relinked, hlast]
          split <;> rfl
        · rw [BoardState.items_editItem_of_ne hk]
          refine hkept ?_
          rw [hlast, if_neg]
          simp [Ne.symm hk]

omit [UnicodeTables] in
/-- Linking the rows only changes blockers. -/
lemma relinked_eq (keyToId : List (String × ItemId)) (rows : List PlanTaskSpec) (k : ItemId)
    (i : WorkItem) : ∃ blockers, relinked keyToId rows k i = i.blockedOn blockers := by
  unfold relinked
  split
  · exact ⟨_, rfl⟩
  · exact ⟨i.blockedBy, rfl⟩

omit [UnicodeTables] in
/-- A card that is the Task of no row gets no edges. -/
lemma lastLink_of_not_mem {rows : List PlanTaskSpec} {k : ItemId} (hk : k ∉ ids) :
    lastLink (rowKeys rows ids) rows k = none := by
  unfold lastLink
  rw [Option.map_eq_none_iff, List.find?_eq_none]
  intro spec _ hspec
  simp only [Bool.and_eq_true, beq_iff_eq] at hspec
  obtain ⟨before, after, hsplit, -⟩ := List.lookup_eq_some_iff.1 hspec.1
  have hmem : (spec.key, k) ∈ rowKeys rows ids := by
    rw [hsplit]
    exact List.mem_append_right _ List.mem_cons_self
  exact hk (List.of_mem_zip (List.mem_reverse.1 hmem)).2

omit [UnicodeTables] in
/-- The keys of the rows are all known. -/
lemma lookup_rowKeys_ne_none {rows : List PlanTaskSpec} (hlength : ids.length = rows.length)
    {spec : PlanTaskSpec} (hspec : spec ∈ rows) :
    (rowKeys rows ids).lookup spec.key ≠ none := by
  rw [Ne, List.lookup_eq_none_iff]
  intro hnone
  have hkey : spec.key ∈ ((rows.map PlanTaskSpec.key).zip ids).map Prod.fst := by
    rw [List.map_fst_zip (by simp [hlength])]
    exact List.mem_map_of_mem hspec
  obtain ⟨e, he, hfst⟩ := List.mem_map.1 hkey
  have := hnone e (List.mem_reverse.2 he)
  simp [hfst] at this

omit [UnicodeTables] in
/-- The card `k` once the rows wrote their edges and the card `id` was settled. -/
def materialized (keep : Bool) (keyToId : List (String × ItemId)) (rows : List PlanTaskSpec)
    (id k : ItemId) (i : WorkItem) : WorkItem :=
  if k = id then settled keep keyToId (relinked keyToId rows k i) else relinked keyToId rows k i

omit [UnicodeTables] in
lemma items_materialized (keep : Bool) (keyToId : List (String × ItemId))
    (rows : List PlanTaskSpec) (s : BoardState) (id k : ItemId) :
    ((rows.foldl (linked keyToId) s).editItem id (settled keep keyToId)).items[k]? =
      s.items[k]?.map (materialized keep keyToId rows id k) := by
  rw [BoardState.items_editItem, items_linkRows]
  by_cases hk : k = id
  · rw [if_pos hk, Option.map_map]
    exact congrArg (fun f => s.items[k]?.map f) (funext fun i => (if_pos hk).symm)
  · rw [if_neg hk]
    exact congrArg (fun f => s.items[k]?.map f) (funext fun i => (if_neg hk).symm)

omit [UnicodeTables] in
/-- Apart from the blockers and, on the card that is settled, the proposal nothing changes. -/
lemma materialized_eq (keep : Bool) (keyToId : List (String × ItemId))
    (rows : List PlanTaskSpec) (id k : ItemId) (i : WorkItem) :
    ∃ blockers proposal, materialized keep keyToId rows id k i =
      { i with blockedBy := blockers, proposal := proposal } := by
  obtain ⟨blockers, hblockers⟩ := relinked_eq keyToId rows k i
  unfold materialized
  rw [hblockers]
  split
  · exact ⟨blockers, _, rfl⟩
  · exact ⟨blockers, i.proposal, rfl⟩

omit [UnicodeTables] in
/-- A card that is the Task of no row keeps its blockers. -/
lemma materialized_blockedBy {keep : Bool} {rows : List PlanTaskSpec} {ids : List ItemId}
    {id k : ItemId} (hk : k ∉ ids) (i : WorkItem) :
    (materialized keep (rowKeys rows ids) rows id k i).blockedBy = i.blockedBy := by
  have hplain : relinked (rowKeys rows ids) rows k i = i := by
    rw [relinked, lastLink_of_not_mem hk]
  unfold materialized
  rw [hplain]
  split <;> rfl

end Board

end Unicode

end Sandboard

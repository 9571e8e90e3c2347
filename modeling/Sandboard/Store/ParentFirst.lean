import Sandboard.Library.Acyclic
import Sandboard.Model

/-!
# Parents before children

A save inserts the cards of a board in passes: each pass places the cards whose parent was placed,
and cards that no pass can place are appended.  Whatever the cards are, the passes end and the
order holds the same cards as often; and where every parent is there and no way along parents
leads back, every card comes after its parent.
-/

namespace Sandboard

/-! ## Parents first -/

/-- The card has no parent, or one that was placed. -/
def parentPlaced (ordered : List WorkItem) (item : WorkItem) : Bool :=
  item.parent.all fun p => ordered.any fun o => o.id == p

/-- One pass over the cards: those whose parent was placed are placed, the others remain. -/
def placeReady : List WorkItem → List WorkItem → List WorkItem × List WorkItem
  | [], ordered => ([], ordered)
  | item :: remaining, ordered =>
    if parentPlaced ordered item then
      placeReady remaining (ordered ++ [item])
    else
      let (left, ordered) := placeReady remaining ordered
      (item :: left, ordered)

/-- What remains is left over from the cards of the pass. -/
lemma placeReady_sublist (remaining ordered : List WorkItem) :
    (placeReady remaining ordered).1.Sublist remaining := by
  induction remaining generalizing ordered with
  | nil => exact .slnil
  | cons item remaining ih =>
    unfold placeReady
    split
    · exact (ih _).cons item
    · exact (ih _).cons_cons item

/-- The passes; cards that no pass can place are appended. -/
def placeAll (remaining ordered : List WorkItem) : List WorkItem :=
  if remaining.isEmpty then ordered
  else
    if (placeReady remaining ordered).1.length = remaining.length then
      (placeReady remaining ordered).2 ++ (placeReady remaining ordered).1
    else placeAll (placeReady remaining ordered).1 (placeReady remaining ordered).2
termination_by remaining.length
decreasing_by
  exact Nat.lt_of_le_of_ne (placeReady_sublist remaining ordered).length_le ‹_›

/-- Parents before children, so that the inserts of the children find them. -/
def parentFirst (items : List WorkItem) : List WorkItem := placeAll items []

/-! ## The order of the cards -/

/-- Every card comes after its parent. -/
inductive ParentsBefore : List WorkItem → Prop where
  | nil : ParentsBefore []
  | snoc {ordered : List WorkItem} {item : WorkItem} (h : ParentsBefore ordered)
      (hparent : parentPlaced ordered item = true) : ParentsBefore (ordered ++ [item])

lemma parentPlaced_iff {ordered : List WorkItem} {item : WorkItem} :
    parentPlaced ordered item = true ↔
      ∀ p, item.parent = some p → ∃ o ∈ ordered, o.id = p := by
  unfold parentPlaced
  cases item.parent with
  | none => simp
  | some p => simp

/-- A pass places cards behind their parents. -/
lemma ParentsBefore.placeReady {remaining ordered : List WorkItem} (h : ParentsBefore ordered) :
    ParentsBefore (placeReady remaining ordered).2 := by
  induction remaining generalizing ordered with
  | nil => exact h
  | cons item remaining ih =>
    unfold Sandboard.placeReady
    split
    · rename_i hready
      exact ih (h.snoc hready)
    · exact ih h

/-- A pass loses no card and makes none. -/
lemma mem_placeReady {remaining ordered : List WorkItem} {item : WorkItem} :
    item ∈ (placeReady remaining ordered).1 ∨ item ∈ (placeReady remaining ordered).2 ↔
      item ∈ remaining ∨ item ∈ ordered := by
  induction remaining generalizing ordered with
  | nil => exact Iff.rfl
  | cons c remaining ih =>
    unfold placeReady
    split
    · rw [ih, List.mem_append, List.mem_singleton, List.mem_cons]
      tauto
    · dsimp only
      rw [List.mem_cons, or_assoc, ih, List.mem_cons, or_assoc]

/-- A pass that places nothing found no card whose parent was placed. -/
lemma placeReady_stuck {remaining ordered : List WorkItem}
    (h : (placeReady remaining ordered).1.length = remaining.length) :
    ∀ item ∈ remaining, ¬parentPlaced ordered item = true := by
  induction remaining generalizing ordered with
  | nil => exact fun _ hitem => absurd hitem List.not_mem_nil
  | cons c remaining ih =>
    unfold placeReady at h
    split at h
    · have hle := (placeReady_sublist remaining (ordered ++ [c])).length_le
      rw [List.length_cons] at h
      omega
    · rename_i hc
      intro item hitem
      rcases List.mem_cons.1 hitem with rfl | hitem
      · exact hc
      · exact ih (Nat.succ.inj h) item hitem

lemma mem_placeAll {remaining ordered : List WorkItem} {item : WorkItem} :
    item ∈ placeAll remaining ordered ↔ item ∈ remaining ∨ item ∈ ordered := by
  induction remaining, ordered using placeAll.induct with
  | case1 remaining ordered hempty =>
    rw [placeAll, if_pos hempty, List.isEmpty_iff.1 hempty]
    simp
  | case2 remaining ordered hempty hstuck =>
    rw [placeAll, if_neg hempty, if_pos hstuck, List.mem_append, or_comm, mem_placeReady]
  | case3 remaining ordered hempty hstuck ih =>
    rw [placeAll, if_neg hempty, if_neg hstuck, ih, mem_placeReady]

/-- A pass only moves cards. -/
lemma perm_placeReady (remaining ordered : List WorkItem) :
    ((placeReady remaining ordered).2 ++ (placeReady remaining ordered).1).Perm
      (ordered ++ remaining) := by
  induction remaining generalizing ordered with
  | nil => exact .refl _
  | cons item remaining ih =>
    unfold placeReady
    split
    · rw [List.append_cons ordered item remaining]
      exact ih (ordered ++ [item])
    · dsimp only
      exact List.perm_middle.trans (((ih ordered).cons item).trans List.perm_middle.symm)

/-- The passes only move cards. -/
lemma perm_placeAll (remaining ordered : List WorkItem) :
    (placeAll remaining ordered).Perm (ordered ++ remaining) := by
  induction remaining, ordered using placeAll.induct with
  | case1 remaining ordered hempty =>
    rw [placeAll, if_pos hempty, List.isEmpty_iff.1 hempty, List.append_nil]
  | case2 remaining ordered hempty hstuck =>
    rw [placeAll, if_neg hempty, if_pos hstuck]
    exact perm_placeReady remaining ordered
  | case3 remaining ordered hempty hstuck ih =>
    rw [placeAll, if_neg hempty, if_neg hstuck]
    exact ih.trans (perm_placeReady remaining ordered)

/-- A card of the list and its parent, which is in the list too. -/
def IsParentIn (items : List WorkItem) (child parent : WorkItem) : Prop :=
  child ∈ items ∧ parent ∈ items ∧ child.parent = some parent.id

/-- The passes place every card behind its parent where no way along parents leads back and no
parent is missing. -/
lemma ParentsBefore.placeAll {items remaining ordered : List WorkItem} (h : ParentsBefore ordered)
    (hacyclic : Acyclic (IsParentIn items)) (hitems : remaining ⊆ items)
    (hparents : ∀ item ∈ remaining, ∀ p, item.parent = some p →
      ∃ parent, (parent ∈ remaining ∨ parent ∈ ordered) ∧ parent.id = p) :
    ParentsBefore (placeAll remaining ordered) := by
  induction remaining, ordered using placeAll.induct with
  | case1 remaining ordered hempty =>
    rw [Sandboard.placeAll, if_pos hempty]
    exact h
  | case2 remaining ordered hempty hstuck =>
    -- Some card that remains has no parent among those that remain, so the pass placed it.
    have hne : {item | item ∈ remaining}.Nonempty :=
      List.exists_mem_of_ne_nil remaining fun hnil => hempty (List.isEmpty_iff.2 hnil)
    obtain ⟨item, hitem, hsink⟩ := hacyclic.exists_sink remaining.finite_toSet hne
    refine absurd (parentPlaced_iff.2 fun p hp => ?_) (placeReady_stuck hstuck item hitem)
    obtain ⟨parent, hparent | hparent, hid⟩ := hparents item hitem p hp
    · rw [← hid] at hp
      exact absurd ⟨hitems hitem, hitems hparent, hp⟩ (hsink parent hparent)
    · exact ⟨parent, hparent, hid⟩
  | case3 remaining ordered hempty hstuck ih =>
    have hleft : ∀ item, item ∈ (Sandboard.placeReady remaining ordered).1 → item ∈ remaining :=
      fun _ hitem => (placeReady_sublist remaining ordered).subset hitem
    rw [Sandboard.placeAll, if_neg hempty, if_neg hstuck]
    refine ih h.placeReady (fun item hitem => hitems (hleft item hitem)) fun item hitem p hp => ?_
    obtain ⟨parent, hparent, hid⟩ := hparents item (hleft item hitem) p hp
    exact ⟨parent, mem_placeReady.2 hparent, hid⟩

/-- In front of every card there is one with the id of its parent. -/
lemma ParentsBefore.exists_parent {ordered : List WorkItem} (h : ParentsBefore ordered)
    {before after : List WorkItem} {item : WorkItem} (hsplit : ordered = before ++ item :: after)
    {p : ItemId} (hp : item.parent = some p) : ∃ parent ∈ before, parent.id = p := by
  induction h generalizing after with
  | nil => simp at hsplit
  | @snoc ordered last h hplaced ih =>
    rcases List.eq_nil_or_concat' after with rfl | ⟨after, c, rfl⟩
    · obtain ⟨rfl, hlast⟩ := List.append_inj' hsplit rfl
      cases hlast
      exact parentPlaced_iff.1 hplaced p hp
    · rw [← List.cons_append, ← List.append_assoc] at hsplit
      exact ih (List.append_inj' hsplit rfl).1

/-! ## The loop -/

/-- One pass with the set of the ids that were placed: what remains, the order and the set. -/
def retainPass : List WorkItem → List WorkItem → Finset ItemId →
    List WorkItem × List WorkItem × Finset ItemId
  | [], ordered, placed => ([], ordered, placed)
  | item :: remaining, ordered, placed =>
    if item.parent.all (· ∈ placed) then
      retainPass remaining (ordered ++ [item]) (insert item.id placed)
    else
      let (left, ordered, placed) := retainPass remaining ordered placed
      (item :: left, ordered, placed)

/-- The loop over the passes: another pass, or done. -/
inductive PlaceLoop where
  | placing (remaining ordered : List WorkItem) (placed : Finset ItemId)
  | done (ordered : List WorkItem)

/-- One turn of the loop. -/
def PlaceLoop.step : PlaceLoop → PlaceLoop
  | .placing remaining ordered placed =>
    if remaining.isEmpty then .done ordered
    else
      let (left, ordered, placed) := retainPass remaining ordered placed
      -- A cycle or a missing parent: the rest is appended, so that the import still completes.
      if left.length = remaining.length then .done (ordered ++ left)
      else .placing left ordered placed
  | .done ordered => .done ordered

/-- The set holds the ids of the cards in the order. -/
def IdsOf (ordered : List WorkItem) (placed : Finset ItemId) : Prop :=
  ∀ p, p ∈ placed ↔ ∃ item ∈ ordered, item.id = p

lemma IdsOf.parentPlaced {ordered : List WorkItem} {placed : Finset ItemId}
    (h : IdsOf ordered placed) (item : WorkItem) :
    item.parent.all (· ∈ placed) = parentPlaced ordered item := by
  rw [Bool.eq_iff_iff, parentPlaced_iff, Option.all_eq_true]
  simp only [decide_eq_true_iff, h _]

lemma IdsOf.snoc {ordered : List WorkItem} {placed : Finset ItemId} (h : IdsOf ordered placed)
    (item : WorkItem) : IdsOf (ordered ++ [item]) (insert item.id placed) := by
  intro p
  rw [Finset.mem_insert, h p]
  constructor
  · rintro (rfl | ⟨c, hc, hid⟩)
    · exact ⟨item, List.mem_append_right _ (List.mem_singleton_self item), rfl⟩
    · exact ⟨c, List.mem_append_left _ hc, hid⟩
  · rintro ⟨c, hc, hid⟩
    rcases List.mem_append.1 hc with hc | hc
    · exact Or.inr ⟨c, hc, hid⟩
    · rw [List.mem_singleton.1 hc] at hid
      exact Or.inl hid.symm

/-- A pass with the set is a pass, and the set stays that of the order. -/
lemma retainPass_eq {ordered : List WorkItem} {placed : Finset ItemId} (h : IdsOf ordered placed)
    (remaining : List WorkItem) :
    ∃ placed', retainPass remaining ordered placed =
        ((placeReady remaining ordered).1, (placeReady remaining ordered).2, placed') ∧
      IdsOf (placeReady remaining ordered).2 placed' := by
  induction remaining generalizing ordered placed with
  | nil => exact ⟨placed, rfl, h⟩
  | cons item remaining ih =>
    unfold retainPass placeReady
    rw [h.parentPlaced item]
    split
    · exact ih (h.snoc item)
    · obtain ⟨placed', hpass, hplaced'⟩ := ih h
      rw [hpass]
      exact ⟨placed', rfl, hplaced'⟩

/-- The loop is done after one turn for each card that remains and one more. -/
lemma iterate_placeStep (n : ℕ) {remaining ordered : List WorkItem} {placed : Finset ItemId}
    (h : IdsOf ordered placed) (hn : remaining.length ≤ n) :
    PlaceLoop.step^[n + 1] (.placing remaining ordered placed) =
      .done (placeAll remaining ordered) := by
  have hdone : ∀ (k : ℕ) ordered, PlaceLoop.step^[k] (.done ordered) = .done ordered :=
    fun k ordered => Function.iterate_fixed rfl k
  induction n generalizing remaining ordered placed with
  | zero =>
    have hnil : remaining = [] := List.eq_nil_of_length_eq_zero (Nat.le_zero.1 hn)
    rw [hnil, placeAll]
    rfl
  | succ n ih =>
    obtain ⟨placed', hpass, hplaced'⟩ := retainPass_eq h remaining
    rw [Function.iterate_succ_apply, PlaceLoop.step, placeAll]
    by_cases hempty : remaining.isEmpty = true
    · rw [if_pos hempty, if_pos hempty]
      exact hdone (n + 1) ordered
    · rw [if_neg hempty, if_neg hempty, hpass]
      dsimp only
      by_cases hstuck : (placeReady remaining ordered).1.length = remaining.length
      · rw [if_pos hstuck, if_pos hstuck]
        exact hdone (n + 1) _
      · have hle := (placeReady_sublist remaining ordered).length_le
        rw [if_neg hstuck, if_neg hstuck]
        exact ih hplaced' (by omega)

/-- The loop ends with the order of the cards, which holds the same cards as often; and where no
way along parents leads back and no parent is missing, every card comes after its parent. -/
theorem parentFirst_spec (items : List WorkItem) :
    PlaceLoop.step^[items.length + 1] (.placing items [] ∅) = .done (parentFirst items) ∧
      (parentFirst items).Perm items ∧
        (Acyclic (IsParentIn items) →
          (∀ item ∈ items, ∀ p, item.parent = some p → ∃ parent ∈ items, parent.id = p) →
            ∀ before item after, parentFirst items = before ++ item :: after →
              ∀ p, item.parent = some p → ∃ parent ∈ before, parent.id = p) := by
  refine ⟨iterate_placeStep items.length (by simp [IdsOf]) le_rfl, ?_, ?_⟩
  · exact perm_placeAll items []
  · intro hacyclic hparents before item after hsplit p hp
    have hbefore : ParentsBefore (parentFirst items) :=
      ParentsBefore.nil.placeAll hacyclic (List.Subset.refl items) fun item hitem p hp => by
        obtain ⟨parent, hparent, hid⟩ := hparents item hitem p hp
        exact ⟨parent, Or.inl hparent, hid⟩
    exact hbefore.exists_parent hsplit hp

/-- A Project and a Task under it. -/
def sampleProject : WorkItem := WorkItem.new 0 1 "Site" ""

def sampleTask : WorkItem := { WorkItem.new 0 2 "Docs" "" with parent := some 1 }

/-- The Project comes first, although it was second. -/
theorem parentFirst_pair : parentFirst [sampleTask, sampleProject] = [sampleProject, sampleTask] := by
  obtain ⟨-, hperm, horder⟩ := parentFirst_spec [sampleTask, sampleProject]
  have hmem : ∀ {item : WorkItem}, item ∈ [sampleTask, sampleProject] →
      item = sampleTask ∨ item = sampleProject := by simp
  have hacyclic : Acyclic (IsParentIn [sampleTask, sampleProject]) := by
    intro item hway
    obtain ⟨parent, ⟨hitem, -, hparent⟩, -⟩ := Relation.TransGen.head'_iff.1 hway
    obtain ⟨child, -, hin, -, hchild⟩ := Relation.TransGen.tail'_iff.1 hway
    rcases hmem hitem with rfl | rfl
    · -- The Task is nobody's parent.
      rcases hmem hin with rfl | rfl
      · exact absurd hchild (by decide)
      · cases hchild
    · cases hparent
  have hparents : ∀ item ∈ [sampleTask, sampleProject], ∀ p, item.parent = some p →
      ∃ parent ∈ [sampleTask, sampleProject], parent.id = p := by
    intro item hitem p hp
    rcases hmem hitem with rfl | rfl
    · exact ⟨sampleProject, by simp, Option.some.inj hp⟩
    · cases hp
  have hfirst := horder hacyclic hparents
  obtain ⟨c, d, hcd⟩ := List.length_eq_two.1 hperm.length_eq
  rw [hcd] at hperm hfirst ⊢
  rcases hmem (hperm.subset List.mem_cons_self) with rfl | rfl
  · obtain ⟨parent, hparent, -⟩ := hfirst [] sampleTask [d] rfl 1 rfl
    exact absurd hparent List.not_mem_nil
  · have hrest := (hperm.trans (List.Perm.swap _ _ [])).cons_inv
    rw [List.perm_singleton.1 hrest]

end Sandboard

import Sandboard.Library.Worklist
import Sandboard.Store.Nesting
import Sandboard.Store.Indexes

/-!
# The deletion of a card

A card is deleted with everything under it, however deep.  Nothing checks the parents of a board
that was loaded, which may form a loop, and so the theorem is about every board whose indexes are
right: the walk over the children index finds exactly the cards under the deleted one, the other
cards lose exactly the removed blockers, the indexes stay right, and what else refers to a removed
card (a story, a proposal) stays.
-/

namespace Sandboard

open Std Relation

namespace BoardState

variable {s : BoardState} {id k : ItemId} {c : WorkItem}

/-- The indexes of a board that was loaded are right, whatever the parents of its cards are. -/
lemma wellFormed_rebuilt (hkey : ∀ (k : ItemId) (i : WorkItem), s.items[k]? = some i → i.id = k)
    (hfresh : ∀ (k : ItemId) (i : WorkItem), s.items[k]? = some i → k < s.nextId) :
    s.rebuildHotIndexes.WellFormed := by
  have hrebuilt : s.rebuildHotIndexes = { s with
      childrenByParent := s.rebuildHotIndexes.childrenByParent
      idsByState := s.rebuildHotIndexes.idsByState } := foldl_indexLinkItem s.cards _
  have hitems : s.rebuildHotIndexes.items = s.items := by rw [hrebuilt]
  have hcards : ∀ {i : WorkItem} {k : ItemId}, (i ∈ s.cards ∧ i.id = k) ↔ s.items[k]? = some i := by
    intro i k
    rw [mem_cards]
    constructor
    · rintro ⟨⟨j, hj⟩, rfl⟩
      rw [hkey j i hj]
      exact hj
    · intro hi
      exact ⟨⟨k, hi⟩, hkey k i hi⟩
  obtain ⟨hc, hs⟩ := isExact_foldl_indexLinkItem s.cards
    (s := { s with childrenByParent := ∅, idsByState := ∅ })
    SecondaryIndex.isExact_empty SecondaryIndex.isExact_empty
  constructor
  · rw [hitems]
    exact hkey
  · rw [hitems, hrebuilt]
    exact hfresh
  · refine hc.congr fun p k => ?_
    unfold IsChild
    rw [hitems, or_false]
    constructor
    · rintro ⟨i, hi, hp, hid⟩
      exact ⟨i, hcards.1 ⟨hi, hid⟩, hp⟩
    · rintro ⟨i, hi, hp⟩
      exact ⟨i, (hcards.2 hi).1, hp, (hcards.2 hi).2⟩
  · refine hs.congr fun st k => ?_
    unfold IsIn
    rw [hitems, or_false]
    constructor
    · rintro ⟨i, hi, hp, hid⟩
      exact ⟨i, hcards.1 ⟨hi, hid⟩, hp⟩
    · rintro ⟨i, hi, hp⟩
      exact ⟨i, (hcards.2 hi).1, hp, (hcards.2 hi).2⟩

/-- The walk of a deletion is a search over the children index. -/
lemma deleteWalk_eq_walk (s : BoardState) (fuel : ℕ) (stack found : List ItemId) :
    Board.deleteWalk s fuel stack found = Worklist.walk s.childrenOfIndexed fuel stack found := by
  induction fuel generalizing stack found with
  | zero => rfl
  | succ fuel ih =>
    cases stack with
    | nil => rfl
    | cons cur stack => exact ih _ _

/-- The card that is deleted, and whatever is filed as a child. -/
def filed (s : BoardState) (id : ItemId) : List ItemId :=
  id :: s.childrenByParent.toList.flatMap fun e => e.2.toList

lemma mem_filed (s : BoardState) (id p : ItemId) (hk : k ∈ s.childrenOfIndexed p) :
    k ∈ s.filed id := by
  unfold childrenOfIndexed SecondaryIndex.bucket at hk
  cases hset : s.childrenByParent[p]? with
  | none =>
    rw [hset] at hk
    cases hk
  | some set =>
    rw [hset] at hk
    apply List.mem_cons_of_mem
    rw [List.mem_flatMap]
    exact ⟨(p, set), ExtTreeMap.mem_toList_iff_getElem?_eq_some.2 hset, hk⟩

lemma length_filed_le (s : BoardState) (id : ItemId) :
    (s.filed id).length ≤ Board.deleteFuel s := by
  have hsizes : (s.childrenByParent.toList.map fun e => e.2.toList.length) =
      s.childrenByParent.toList.map fun e => e.2.size :=
    List.map_congr_left fun e _ => ExtTreeSet.length_toList
  rw [filed, List.length_cons, List.length_flatMap, hsizes, Board.deleteFuel]
  omega

/-- The walk of a deletion finds the card and the cards under it, whatever loops there are. -/
lemma mem_deleteWalk_iff (hs : s.WellFormed) (id k : ItemId) :
    k ∈ Board.deleteWalk s (Board.deleteFuel s) [id] [] ↔ ReflTransGen s.IsChild id k := by
  have hleads : Worklist.Leads s.childrenOfIndexed = s.IsChild := by
    funext p k
    exact propext hs.mem_childrenOfIndexed
  rw [deleteWalk_eq_walk, ← hleads]
  exact (Worklist.walk_spec List.mem_cons_self (fun p k hk => s.mem_filed id p hk)
    (s.length_filed_le id)).2 k

/-- What the deletion of the card `id` makes of the board. -/
structure Deleted (s : BoardState) (id : ItemId) (s' : BoardState) : Prop where
  /-- The card and the cards under it are gone; the others lose the blockers that are gone. -/
  items : ∃ gone : ItemId → Bool, (∀ k, gone k = true ↔ ReflTransGen s.IsChild id k) ∧
    ∀ k : ItemId, s'.items[k]? = if gone k then none else s.items[k]?.map (WorkItem.unblocked gone)
  /-- The indexes are right. -/
  wellFormed : s'.WellFormed
  rebuilt : s'.rebuildHotIndexes = s'
  nextId : s'.nextId = s.nextId
  stories : s'.stories = s.stories

lemma stories_removeAll (ids : List ItemId) (s : BoardState) :
    (ids.foldl removeItem s).stories = s.stories := by
  induction ids generalizing s with
  | nil => rfl
  | cons k ids ih =>
    rw [List.foldl_cons, ih]
    unfold removeItem
    cases s.items[k]? with
    | none => rfl
    | some c => rfl

/-- The section of a deletion deletes the card. -/
lemma deleted_deleteSection (hs : s.WellFormed) (hc : s.items[id]? = some c) :
    Board.deleteSection id s = (.ok (), (Board.deleteSection id s).2) ∧
      Deleted s id (Board.deleteSection id s).2 := by
  have hwellFormed := hs.reshaped (Board.reshaped_deleteSection id s)
  have hrebuilt := hwellFormed.rebuildHotIndexes_eq
  generalize hids : Board.deleteWalk s (Board.deleteFuel s) [id] [] = ids
  have hrun : Board.deleteSection id s = (.ok (), { ids.foldl removeItem s with
      items := (ids.foldl removeItem s).items.map fun _ => WorkItem.unblocked ids.contains }) := by
    unfold Board.deleteSection
    rw [if_neg (by simp [hc]), hids]
    rfl
  rw [hrun] at hwellFormed hrebuilt ⊢
  refine ⟨rfl, ⟨ids.contains, fun k => ?_, fun k => ?_⟩, hwellFormed, hrebuilt,
    nextId_removeAll ids s, stories_removeAll ids s⟩
  · rw [List.contains_iff_mem, ← hids, mem_deleteWalk_iff hs]
  · change ((ids.foldl removeItem s).items.map fun _ => WorkItem.unblocked ids.contains)[k]? = _
    rw [ExtTreeMap.getElem?_map, items_removeAll]
    by_cases hk : k ∈ ids
    · rw [if_pos hk, if_pos (List.contains_iff_mem.2 hk)]
      rfl
    · have hkept : ¬ids.contains k = true := fun h => hk (List.contains_iff_mem.1 h)
      rw [if_neg hk, if_neg hkept]

end BoardState

namespace Board

/-- On every board with right indexes, the deletion of a card removes the card and the cards under
it and nothing else, tells of the card itself, and leaves either the rows or the dirty flag. -/
theorem delete_exact (b : Board) {id : ItemId} {c : WorkItem} (hs : b.state.WellFormed)
    (hc : b.state.items[id]? = some c) :
    ∃ b', (deleteItem id).run b = (.ok (), b') ∧ b.state.Deleted id b'.state ∧
      b'.tx = b.tx ++ [.delete (b.seq + 1) id] ∧
      (b'.dirty = true ∨ b'.rows.items = b'.state.items) := by
  obtain ⟨hsection, hdeleted⟩ := BoardState.deleted_deleteSection hs hc
  refine ⟨_, run_deleteItem_ok hsection, ?_, ?_, ?_⟩
  · have hstate : (b.deleted id (deleteSection id b.state).2).state =
        (deleteSection id b.state).2 := flushed_state _
    rw [hstate]
    exact hdeleted
  · unfold deleted flushed
    rfl
  · unfold deleted flushed
    cases hsaved : b.saveSucceeds b.saves with
    | true => exact Or.inr (by simp [stepped, hsaved])
    | false => exact Or.inl (by simp [stepped, hsaved])

/-- A card of the board below. -/
def loopedCard (id : ItemId) (parent : Option ItemId) : WorkItem :=
  (⟨parent, "Loop", "", none, .human, false, none⟩ : NewCard).toItem Schema.default 0 id

/-- A board with two cards that are each other's parents. -/
def looped : BoardState :=
  BoardState.rebuildHotIndexes { BoardState.empty with
    nextId := 4
    items := ((∅ : ExtTreeMap ItemId WorkItem).insert 1 (loopedCard 1 (some 2))).insert 2
      (loopedCard 2 (some 1)) }

lemma wellFormed_looped : looped.WellFormed := by
  have hcards : ∀ (k : ItemId) (i : WorkItem), (((∅ : ExtTreeMap ItemId WorkItem).insert 1
      (loopedCard 1 (some 2))).insert 2 (loopedCard 2 (some 1)))[k]? = some i →
      i.id = k ∧ k < 4 := by
    intro k i hi
    rw [ExtTreeMap.getElem?_insert, ExtTreeMap.getElem?_insert] at hi
    split at hi
    · rename_i hk
      obtain rfl := Std.LawfulEqCmp.compare_eq_iff_eq.1 hk
      cases hi
      exact ⟨rfl, by decide⟩
    · split at hi
      · rename_i hk
        obtain rfl := Std.LawfulEqCmp.compare_eq_iff_eq.1 hk
        cases hi
        exact ⟨rfl, by decide⟩
      · rw [ExtTreeMap.getElem?_empty] at hi
        cases hi
  exact BoardState.wellFormed_rebuilt (fun k i hi => (hcards k i hi).1)
    fun k i hi => (hcards k i hi).2

/-- The deletion of one of the two takes the other along. -/
theorem delete_exact_looped :
    let b := { Board.new Schema.default (fun _ _ => 0) (fun _ => true) with state := looped }
    ∃ b', (deleteItem 1).run b = (.ok (), b') ∧ b.state.Deleted 1 b'.state ∧
      b'.tx = [.delete 1 1] ∧ (b'.dirty = true ∨ b'.rows.items = b'.state.items) := by
  intro b
  obtain ⟨c, hc⟩ : ∃ c, looped.items[1]? = some c := ⟨_, rfl⟩
  exact delete_exact b wellFormed_looped hc

end Board

end Sandboard

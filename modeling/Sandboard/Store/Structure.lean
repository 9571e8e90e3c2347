import Mathlib.Logic.Relation
import Sandboard.Library.Trail
import Sandboard.Store.Operation

/-!
# The structure of the board

What every critical section may do to the cards as a structure: edit a card without touching
its id, parent, state or history, move a card along a checked edge, insert a fresh card, or
take a card out.  Whatever the interleaving, these keep the hot indexes exact and every
history a legal walk.
-/

namespace Sandboard

open Std

namespace WorkItem

/-- The fields that the structure of the board depends on are the same. -/
structure SameFrame (i j : WorkItem) : Prop where
  id : j.id = i.id
  parent : j.parent = i.parent
  state : j.state = i.state
  history : j.history = i.history
  /-- No edit writes a legacy plan. -/
  plan : i.plan = none → j.plan = none

lemma SameFrame.refl (i : WorkItem) : SameFrame i i := ⟨rfl, rfl, rfl, rfl, fun h => h⟩

/-- The history as a list of edges. -/
def edges (i : WorkItem) : List (State × State) :=
  i.history.map fun t => (t.fromState, t.toState)

/-- The history is a legal walk from Draft to the state of the card. -/
def HasLegalHistory (i : WorkItem) : Prop :=
  Trail (fun a b => allowed a b = true) .draft i.edges i.state

/-- The history read by positions: it starts in Draft, each entry starts where the one before
it ended, every entry is a legal edge, and the state of the card is where the last one ended. -/
structure IsLegalWalk (i : WorkItem) : Prop where
  first : ∀ t, i.history.head? = some t → t.fromState = .draft
  next : ∀ n t t', i.history[n]? = some t → i.history[n + 1]? = some t' →
    t'.fromState = t.toState
  edge : ∀ t ∈ i.history, allowed t.fromState t.toState = true
  last : i.state = (i.history.getLast?.map Transition.toState).getD .draft

/-- A trail of the history, read by positions. -/
lemma HasLegalHistory.isLegalWalk {i : WorkItem} (h : i.HasLegalHistory) : i.IsLegalWalk where
  first t ht := by
    have hhead : i.edges.head? = some (t.fromState, t.toState) := by simp [edges, ht]
    exact Trail.first_eq h hhead
  next n t t' ht ht' := by
    have hedge : i.edges[n]? = some (t.fromState, t.toState) := by simp [edges, ht]
    have hedge' : i.edges[n + 1]? = some (t'.fromState, t'.toState) := by simp [edges, ht']
    exact Trail.next_eq h hedge hedge'
  edge t ht :=
    Trail.mem h (e := (t.fromState, t.toState)) (List.mem_map.2 ⟨t, ht, rfl⟩)
  last := by
    have hlast := Trail.last_eq h
    simpa [edges, Function.comp_def] using hlast

/-- A legal move extends the walk. -/
lemma HasLegalHistory.moved {i : WorkItem} {target : State} (h : i.HasLegalHistory)
    (ha : allowed i.state target = true) (now : Time) (byWhom : String)
    (reason : Option String) : (i.moved now target byWhom reason).HasLegalHistory := by
  have hs := Trail.snoc h ha
  unfold HasLegalHistory edges WorkItem.moved
  rw [List.map_append]
  exact hs

lemma HasLegalHistory.of_sameFrame {i j : WorkItem} (h : i.HasLegalHistory)
    (hf : SameFrame i j) : j.HasLegalHistory := by
  unfold HasLegalHistory edges at h ⊢
  rw [hf.history, hf.state]
  exact h

end WorkItem

namespace BoardState

/-! ## One structural step -/

/-- What one critical section may do to the cards as a structure. -/
inductive Reshape : BoardState → BoardState → Prop where
  /-- The cards and the indexes are left alone. -/
  | aside {s s' : BoardState} (hitems : s'.items = s.items) (hnext : s'.nextId = s.nextId)
      (hchildren : s'.childrenByParent = s.childrenByParent)
      (hstates : s'.idsByState = s.idsByState) : Reshape s s'
  /-- A card is edited outside its frame. -/
  | edit {s : BoardState} (id : ItemId) (f : WorkItem → WorkItem)
      (h : ∀ i, WorkItem.SameFrame i (f i)) : Reshape s (s.editItem id f)
  /-- Every card is edited outside its frame. -/
  | editAll {s : BoardState} (f : WorkItem → WorkItem)
      (h : ∀ i, WorkItem.SameFrame i (f i)) :
      Reshape s { s with items := s.items.map fun _ => f }
  /-- A card makes a checked move. -/
  | move {s : BoardState} {id : ItemId} {item : WorkItem} (now : Time) {target : State}
      (byWhom : String) (reason : Option String) (hitem : s.items[id]? = some item)
      (hcheck : s.checkMove id item target = .ok ()) :
      Reshape s (s.moveItem id item now target byWhom reason)
  /-- A fresh Draft card is inserted under the next id. -/
  | insert {s : BoardState} (item : WorkItem) (hid : item.id = s.nextId)
      (hstate : item.state = .draft) (hhistory : item.history = []) (hplan : item.plan = none) :
      Reshape s ({ s with nextId := s.nextId + 1 }.insertItem item)
  /-- A card is taken out. -/
  | remove {s : BoardState} (id : ItemId) : Reshape s (s.removeItem id)

/-- Structural steps, any number of them. -/
def Reshaped : BoardState → BoardState → Prop :=
  Relation.ReflTransGen Reshape

namespace Reshaped

lemma refl (s : BoardState) : Reshaped s s := Relation.ReflTransGen.refl

lemma trans {s s' s'' : BoardState} (h : Reshaped s s') (h' : Reshaped s' s'') :
    Reshaped s s'' := Relation.ReflTransGen.trans h h'

lemma edit {s : BoardState} (id : ItemId) {f : WorkItem → WorkItem}
    (h : ∀ i, WorkItem.SameFrame i (f i)) : Reshaped s (s.editItem id f) :=
  .single (.edit id f h)

lemma tryEdit {ε : Type} {s : BoardState} (id : ItemId) (e : ε) {f : WorkItem → WorkItem}
    (h : ∀ i, WorkItem.SameFrame i (f i)) : Reshaped s (s.tryEdit id e f).2 := by
  unfold BoardState.tryEdit
  cases s.items[id]? with
  | none => exact refl s
  | some it => exact edit id h

/-- A transition, made or refused. -/
lemma transitionLocked {s s' : BoardState} {now : Time} {id : ItemId} {target : State}
    {byWhom : String} {reason : Option String} {item : WorkItem}
    (h : s.transitionLocked now id target byWhom reason = .ok (item, s')) : Reshaped s s' := by
  obtain ⟨it, hit, hcheck, rfl, -⟩ := transitionLocked_eq_ok_iff.1 h
  exact .single (.move now byWhom reason hit hcheck)

lemma tryMove (s : BoardState) (now : Time) (id : ItemId) (target : State) (byWhom : String)
    (reason : Option String) : Reshaped s (s.tryMove now id target byWhom reason).2 := by
  unfold BoardState.tryMove
  cases h : s.transitionLocked now id target byWhom reason with
  | error e => exact refl s
  | ok r => exact transitionLocked h

lemma insertNew (schema : Schema) (now : Time) (c : Board.NewCard) (s : BoardState) :
    Reshaped s (Board.insertNew schema now c s).2 :=
  .single (.insert _ rfl rfl rfl rfl)

lemma removeAll (ids : List ItemId) (s : BoardState) :
    Reshaped s (ids.foldl BoardState.removeItem s) := by
  induction ids generalizing s with
  | nil => exact refl s
  | cons id ids ih => exact (Relation.ReflTransGen.single (.remove id)).trans (ih _)

end Reshaped

/-! ## Exact indexes -/

/-- The key `c` is a child of `p`. -/
def IsChild (s : BoardState) (p c : ItemId) : Prop :=
  ∃ i, s.items[c]? = some i ∧ i.parent = some p

/-- The card under the key `c` is in the state `st`. -/
def IsIn (s : BoardState) (st : State) (c : ItemId) : Prop :=
  ∃ i, s.items[c]? = some i ∧ i.state = st

/-- The board is well formed: cards are stored under their ids, the next id is fresh, and the
hot indexes store exactly the parents and the states of the cards. -/
structure WellFormed (s : BoardState) : Prop where
  /-- Cards are stored under their ids. -/
  key : ∀ (k : ItemId) (i : WorkItem), s.items[k]? = some i → i.id = k
  /-- Ids from `nextId` on are unused. -/
  fresh : ∀ (k : ItemId) (i : WorkItem), s.items[k]? = some i → k < s.nextId
  /-- `childrenByParent` stores the parents. -/
  children : SecondaryIndex.IsExact s.childrenByParent s.IsChild
  /-- `idsByState` stores the states. -/
  states : SecondaryIndex.IsExact s.idsByState s.IsIn

namespace WellFormed

variable {s s' : BoardState}

lemma empty : WellFormed BoardState.empty where
  key k i h := by simp [BoardState.empty] at h
  fresh k i h := by simp [BoardState.empty] at h
  children := SecondaryIndex.isExact_empty.congr fun g k => by
    simp [IsChild, BoardState.empty]
  states := SecondaryIndex.isExact_empty.congr fun g k => by
    simp [IsIn, BoardState.empty]

/-- The structure only sees frames: cards with the same frames under the same keys. -/
lemma of_frames (h : WellFormed s) (hnext : s'.nextId = s.nextId)
    (hchildren : s'.childrenByParent = s.childrenByParent)
    (hstates : s'.idsByState = s.idsByState) {f : ItemId → WorkItem → WorkItem}
    (hf : ∀ k i, WorkItem.SameFrame i (f k i))
    (hitems : ∀ k, s'.items[k]? = s.items[k]?.map (f k)) : WellFormed s' where
  key k i hi := by
    rw [hitems] at hi
    obtain ⟨j, hj, rfl⟩ := Option.map_eq_some_iff.1 hi
    rw [(hf k j).id, h.key k j hj]
  fresh k i hi := by
    rw [hitems] at hi
    obtain ⟨j, hj, -⟩ := Option.map_eq_some_iff.1 hi
    rw [hnext]
    exact h.fresh k j hj
  children := by
    rw [hchildren]
    refine h.children.congr fun p k => ?_
    simp [IsChild, hitems, (hf k _).parent]
  states := by
    rw [hstates]
    refine h.states.congr fun st k => ?_
    simp [IsIn, hitems, (hf k _).state]

lemma aside (h : WellFormed s) (hitems : s'.items = s.items) (hnext : s'.nextId = s.nextId)
    (hchildren : s'.childrenByParent = s.childrenByParent)
    (hstates : s'.idsByState = s.idsByState) : WellFormed s' :=
  h.of_frames (f := fun _ i => i) hnext hchildren hstates (fun _ i => .refl i)
    fun k => by simp [hitems]

lemma edit (h : WellFormed s) (id : ItemId) {f : WorkItem → WorkItem}
    (hf : ∀ i, WorkItem.SameFrame i (f i)) : WellFormed (s.editItem id f) := by
  refine h.of_frames rfl rfl rfl (f := fun k i => if k = id then f i else i) ?_ ?_
  · intro k i
    split
    · exact hf i
    · exact .refl i
  · intro k
    rw [items_editItem]
    split <;> simp

lemma editAll (h : WellFormed s) {f : WorkItem → WorkItem}
    (hf : ∀ i, WorkItem.SameFrame i (f i)) :
    WellFormed { s with items := s.items.map fun _ => f } :=
  h.of_frames rfl rfl rfl (f := fun _ => f) (fun _ => hf) fun k => by simp

/-- A move refiles the card under its new state. -/
lemma move (h : WellFormed s) {id : ItemId} {item : WorkItem} (hitem : s.items[id]? = some item)
    (now : Time) (target : State) (byWhom : String) (reason : Option String) :
    WellFormed (s.moveItem id item now target byWhom reason) where
  key k i hi := by
    rw [items_moveItem] at hi
    split at hi
    · obtain ⟨j, hj, rfl⟩ := Option.map_eq_some_iff.1 hi
      exact h.key k j hj
    · exact h.key k i hi
  fresh k i hi := by
    rw [items_moveItem] at hi
    split at hi
    · obtain ⟨j, hj, -⟩ := Option.map_eq_some_iff.1 hi
      exact h.fresh k j hj
    · exact h.fresh k i hi
  children := by
    refine h.children.congr fun p k => ?_
    by_cases hk : k = id
    · subst hk
      simp [IsChild, items_moveItem, hitem]
    · simp [IsChild, items_moveItem, hk]
  states := by
    have hin : s.IsIn item.state id := ⟨item, hitem, rfl⟩
    refine (h.states.move id item.state target hin).congr fun st k => ?_
    by_cases hk : k = id
    · subst hk
      simp [IsIn, items_moveItem, hitem, eq_comm]
    · simp [IsIn, items_moveItem, hk]

/-- No card is stored under the next id. -/
lemma items_nextId (h : WellFormed s) : s.items[s.nextId]? = none := by
  cases hi : s.items[s.nextId]? with
  | none => rfl
  | some i => exact absurd (h.fresh _ i hi) (lt_irrefl _)

/-- A fresh card is filed under its parent and under its state. -/
lemma insert (h : WellFormed s) {item : WorkItem} (hid : item.id = s.nextId) :
    WellFormed ({ s with nextId := s.nextId + 1 }.insertItem item) := by
  have hnone : s.items[item.id]? = none := hid ▸ h.items_nextId
  have hitems : ∀ k, ({ s with nextId := s.nextId + 1 }.insertItem item).items[k]? =
      if k = item.id then some item else s.items[k]? := by
    intro k
    simp only [insertItem, indexLinkItem, ExtTreeMap.getElem?_insert, LawfulEqCmp.compare_eq_iff_eq]
    exact if_congr eq_comm rfl rfl
  constructor
  · intro k i hi
    rw [hitems] at hi
    split at hi
    · rename_i hk
      cases hi
      exact hk.symm
    · exact h.key k i hi
  · intro k i hi
    change k < s.nextId + 1
    rw [hitems] at hi
    split at hi
    · rename_i hk
      rw [hk, hid]
      exact Nat.lt_succ_self _
    · exact Nat.lt_succ_of_lt (h.fresh k i hi)
  · have hrel : ∀ p k, ({ s with nextId := s.nextId + 1 }.insertItem item).IsChild p k ↔
        (item.parent = some p ∧ k = item.id) ∨ s.IsChild p k := by
      intro p k
      by_cases hk : k = item.id
      · subst hk
        simp [IsChild, hitems, hnone]
      · simp [IsChild, hitems, hk]
    cases hparent : item.parent with
    | none =>
      have heq : ({ s with nextId := s.nextId + 1 }.insertItem item).childrenByParent =
          s.childrenByParent := by
        simp [insertItem, indexLinkItem, hparent]
      rw [heq]
      exact h.children.congr fun p k => by simp [hrel, hparent]
    | some q =>
      have heq : ({ s with nextId := s.nextId + 1 }.insertItem item).childrenByParent =
          s.childrenByParent.link q item.id := by
        simp [insertItem, indexLinkItem, hparent]
      rw [heq]
      exact (h.children.link q item.id).congr fun p k => by
        simp [hrel, hparent, eq_comm (a := p)]
  · refine (h.states.link item.state item.id).congr fun st k => ?_
    by_cases hk : k = item.id
    · subst hk
      simp [IsIn, hitems, hnone, eq_comm]
    · simp [IsIn, hitems, hk]

/-- Taking a card out takes it out of both indexes. -/
lemma remove (h : WellFormed s) (id : ItemId) : WellFormed (s.removeItem id) := by
  unfold removeItem
  cases hitem : s.items[id]? with
  | none => exact h
  | some item =>
    have hid : item.id = id := h.key id item hitem
    have hitems : ∀ k, ({ s with items := s.items.erase id }.indexUnlinkItem item).items[k]? =
        if k = id then none else s.items[k]? := by
      intro k
      simp only [indexUnlinkItem, ExtTreeMap.getElem?_erase, LawfulEqCmp.compare_eq_iff_eq]
      exact if_congr eq_comm rfl rfl
    constructor
    · intro k i hi
      rw [hitems] at hi
      split at hi
      · cases hi
      · exact h.key k i hi
    · intro k i hi
      rw [hitems] at hi
      split at hi
      · cases hi
      · exact h.fresh k i hi
    · have hrel : ∀ p k, ({ s with items := s.items.erase id }.indexUnlinkItem item).IsChild p k ↔
          s.IsChild p k ∧ k ≠ id := by
        intro p k
        by_cases hk : k = id
        · simp [IsChild, hitems, hk]
        · simp [IsChild, hitems, hk]
      cases hparent : item.parent with
      | none =>
        have heq : ({ s with items := s.items.erase id }.indexUnlinkItem item).childrenByParent =
            s.childrenByParent := by
          simp [indexUnlinkItem, hparent]
        rw [heq]
        refine h.children.congr fun p k => ?_
        rw [hrel]
        refine ⟨fun hc => ⟨hc, ?_⟩, And.left⟩
        rintro rfl
        obtain ⟨i, hi, hp⟩ := hc
        rw [hitem, Option.some.injEq] at hi
        rw [← hi, hparent] at hp
        cases hp
      | some q =>
        have heq : ({ s with items := s.items.erase id }.indexUnlinkItem item).childrenByParent =
            s.childrenByParent.unlink q item.id := by
          simp [indexUnlinkItem, hparent]
        rw [heq]
        refine (h.children.unlink q item.id).congr fun p k => ?_
        rw [hrel, hid]
        constructor
        · rintro ⟨hc, hne⟩
          refine ⟨hc, ?_⟩
          rintro rfl
          obtain ⟨i, hi, hp⟩ := hc
          rw [hitem, Option.some.injEq] at hi
          rw [← hi, hparent, Option.some.injEq] at hp
          exact hne ⟨hp.symm, rfl⟩
        · rintro ⟨hc, hne⟩
          exact ⟨hc, fun hh => hne hh.2⟩
    · refine (h.states.unlink item.state item.id).congr fun st k => ?_
      rw [hid]
      by_cases hk : k = id
      · subst hk
        simp [IsIn, hitems, hitem, eq_comm]
      · simp [IsIn, hitems, hk]

/-- A structural step keeps the board well formed. -/
lemma reshape (h : WellFormed s) (hr : Reshape s s') : WellFormed s' := by
  cases hr with
  | aside hitems hnext hchildren hstates => exact h.aside hitems hnext hchildren hstates
  | edit id f hf => exact h.edit id hf
  | editAll f hf => exact h.editAll hf
  | move now byWhom reason hitem hcheck => exact h.move hitem now _ byWhom reason
  | insert item hid hstate hhistory hplan => exact h.insert hid
  | remove id => exact h.remove id

/-- Well-formedness is an invariant of structural steps. -/
theorem reshaped (h : WellFormed s) (hr : Reshaped s s') : WellFormed s' := by
  induction hr with
  | refl => exact h
  | tail _ hstep ih => exact ih.reshape hstep

end WellFormed

/-! ## Legal histories -/

/-- Every card's history is a legal walk. -/
def LegalHistories (s : BoardState) : Prop :=
  ∀ (k : ItemId) (i : WorkItem), s.items[k]? = some i → i.HasLegalHistory

namespace LegalHistories

variable {s s' : BoardState}

lemma empty : LegalHistories BoardState.empty := fun k i h => by
  simp [BoardState.empty] at h

/-- A structural step keeps every history a legal walk. -/
lemma reshape (h : LegalHistories s) (hr : Reshape s s') : LegalHistories s' := by
  intro k i hi
  cases hr with
  | aside hitems hnext hchildren hstates =>
    rw [hitems] at hi
    exact h k i hi
  | edit id f hf =>
    rw [items_editItem] at hi
    split at hi
    · obtain ⟨j, hj, rfl⟩ := Option.map_eq_some_iff.1 hi
      exact (h k j hj).of_sameFrame (hf j)
    · exact h k i hi
  | editAll f hf =>
    rw [ExtTreeMap.getElem?_map] at hi
    obtain ⟨j, hj, rfl⟩ := Option.map_eq_some_iff.1 hi
    exact (h k j hj).of_sameFrame (hf j)
  | @move id item now target byWhom reason hitem hcheck =>
    rw [items_moveItem] at hi
    split at hi
    · rename_i hk
      subst hk
      obtain ⟨j, hj, rfl⟩ := Option.map_eq_some_iff.1 hi
      rw [hitem, Option.some.injEq] at hj
      subst hj
      exact (h k item hitem).moved (allowed_of_check hcheck) now byWhom reason
    · exact h k i hi
  | insert item hid hstate hhistory hplan =>
    simp only [insertItem, indexLinkItem, ExtTreeMap.getElem?_insert] at hi
    split at hi
    · cases hi
      simp [WorkItem.HasLegalHistory, WorkItem.edges, hstate, hhistory]
    · exact h k i hi
  | remove id =>
    unfold removeItem at hi
    split at hi
    · exact h k i hi
    · simp only [indexUnlinkItem, ExtTreeMap.getElem?_erase] at hi
      split at hi
      · cases hi
      · exact h k i hi

/-- Legal histories are an invariant of structural steps. -/
theorem reshaped (h : LegalHistories s) (hr : Reshaped s s') : LegalHistories s' := by
  induction hr with
  | refl => exact h
  | tail _ hstep ih => exact ih.reshape hstep

end LegalHistories

/-! ## Legacy plans -/

/-- No card carries a legacy plan. -/
def Unplanned (s : BoardState) : Prop :=
  ∀ (k : ItemId) (i : WorkItem), s.items[k]? = some i → i.plan = none

namespace Unplanned

variable {s s' : BoardState}

lemma empty : Unplanned BoardState.empty := fun k i h => by
  simp [BoardState.empty] at h

/-- A structural step writes no legacy plan. -/
lemma reshape (h : Unplanned s) (hr : Reshape s s') : Unplanned s' := by
  intro k i hi
  cases hr with
  | aside hitems hnext hchildren hstates =>
    rw [hitems] at hi
    exact h k i hi
  | edit id f hf =>
    rw [items_editItem] at hi
    split at hi
    · obtain ⟨j, hj, rfl⟩ := Option.map_eq_some_iff.1 hi
      exact (hf j).plan (h k j hj)
    · exact h k i hi
  | editAll f hf =>
    rw [ExtTreeMap.getElem?_map] at hi
    obtain ⟨j, hj, rfl⟩ := Option.map_eq_some_iff.1 hi
    exact (hf j).plan (h k j hj)
  | @move id item now target byWhom reason hitem hcheck =>
    rw [items_moveItem] at hi
    split at hi
    · obtain ⟨j, hj, rfl⟩ := Option.map_eq_some_iff.1 hi
      exact h k j hj
    · exact h k i hi
  | insert item hid hstate hhistory hplan =>
    simp only [insertItem, indexLinkItem, ExtTreeMap.getElem?_insert] at hi
    split at hi
    · cases hi
      exact hplan
    · exact h k i hi
  | remove id =>
    unfold removeItem at hi
    split at hi
    · exact h k i hi
    · simp only [indexUnlinkItem, ExtTreeMap.getElem?_erase] at hi
      split at hi
      · cases hi
      · exact h k i hi

/-- Structural steps write no legacy plan. -/
theorem reshaped (h : Unplanned s) (hr : Reshaped s s') : Unplanned s' := by
  induction hr with
  | refl => exact h
  | tail _ hstep ih => exact ih.reshape hstep

end Unplanned

end BoardState

end Sandboard

import Sandboard.Library.Table
import Sandboard.Store.Nesting
import Sandboard.Store.ParentFirst

/-!
# Rows of the board database

`saveBoardState` replaces the rows of the database by those of a board: cards with their parents
first, then the edges of every card, then the stories, and last the settings.  The statements
are checked against the keys and the references of the schema; what the other columns hold is up
to an `Encoding`.  On a nested board the save goes through exactly when no card lists a blocker
twice or one that is not on the board.
-/

namespace Sandboard

open Std BoardState

/-- What cards and story lines are written as, next to the columns that keys and references
use. -/
structure Encoding where
  ItemColumns : Type
  itemColumns : BoardState → WorkItem → ItemColumns
  StoryColumns : Type
  storyColumns : StoryLine → StoryColumns

/-- A row of `items`, without its id. -/
structure ItemRow (E : Encoding) where
  parentId : Option ItemId
  columns : E.ItemColumns

/-- A row of `item_blockers`, all of which is its primary key. -/
structure BlockerRow where
  itemId : ItemId
  blockerId : ItemId
  deriving DecidableEq

/-- A row of `stories`. -/
structure StoryRow (E : Encoding) where
  goalId : ItemId
  position : ℕ
  columns : E.StoryColumns

/-- The tables of the board database. -/
structure Tables (E : Encoding) where
  items : ExtTreeMap ItemId (ItemRow E)
  itemBlockers : List BlockerRow
  stories : List (StoryRow E)
  metaValues : ExtTreeMap String String

namespace Tables

variable {E : Encoding}

/-! ## Statements -/

/-- The rows of the cards, the edges and the stories are deleted. -/
def cleared (t : Tables E) : Tables E :=
  { t with items := ∅, itemBlockers := [], stories := [] }

/-- Insert or update the row of a card. -/
def upsertItem (id : ItemId) (row : ItemRow E) (t : Tables E) : Except Constraint (Tables E) :=
  if row.parentId.all fun p => p == id || t.items.contains p then
    .ok { t with items := t.items.insert id row }
  else .error .foreignKey

/-- Replace the edges of a card. -/
def replaceBlockers (itemId : ItemId) (blockerIds : List ItemId) (t : Tables E) :
    Except Constraint (Tables E) := do
  let kept := t.itemBlockers.filter fun r => r.itemId != itemId
  let rows ← Table.insertAll (fun r => r)
    (fun r => t.items.contains r.itemId && t.items.contains r.blockerId)
    (blockerIds.map fun bid => ⟨itemId, bid⟩) kept
  return { t with itemBlockers := rows }

/-- The rows of a story. -/
def storyRows (goalId : ItemId) (lines : List StoryLine) : List (StoryRow E) :=
  lines.zipIdx.map fun e => ⟨goalId, e.2, E.storyColumns e.1⟩

/-- Replace the story of a goal. -/
def replaceStories (goalId : ItemId) (lines : List StoryLine) (t : Tables E) :
    Except Constraint (Tables E) := do
  let kept := t.stories.filter fun r => r.goalId != goalId
  let rows ← Table.insertAll (fun r => (r.goalId, r.position))
    (fun r => t.items.contains r.goalId) (storyRows goalId lines) kept
  return { t with stories := rows }

/-- Set one value of `meta`. -/
def setMeta (t : Tables E) (entry : String × String) : Tables E :=
  { t with metaValues := t.metaValues.insert entry.1 entry.2 }

/-- Replace the durable rows by those of a board; `entries` are the settings.  Stories of cards
that are not on the board are skipped. -/
def saveBoardState (s : BoardState) (entries : List (String × String)) (t : Tables E) :
    Except Constraint (Tables E) := do
  let t := t.cleared
  let items := s.cards
  let t ← (parentFirst items).foldlM
    (fun t item => t.upsertItem item.id ⟨item.parent, E.itemColumns s item⟩) t
  let t ← items.foldlM (fun t item => t.replaceBlockers item.id item.blockedBy) t
  let t ← s.stories.toList.foldlM
    (fun t story => if s.items.contains story.1 then t.replaceStories story.1 story.2 else .ok t) t
  return entries.foldl setMeta t

end Tables

/-! ## The order of the cards -/

namespace BoardState

variable {s : BoardState}

lemma mem_parentFirst {item : WorkItem} : item ∈ parentFirst s.cards ↔ item ∈ s.cards := by
  rw [parentFirst, mem_placeAll]
  simp

lemma Nested.parentsBefore (hn : s.Nested) (hs : s.WellFormed) :
    ParentsBefore (parentFirst s.cards) := by
  have hparent : ∀ item ∈ s.cards, ∀ p, item.parent = some p →
      ∃ P, s.items[p]? = some P ∧ P.parent = none := by
    intro item hitem p hp
    obtain ⟨k, hk⟩ := mem_cards.1 hitem
    obtain ⟨P, hP, hroot, -⟩ := Nested.iff.1 hn k item p hk hp
    exact ⟨P, hP, hroot⟩
  refine ParentsBefore.nil.placeAll (fun item hway => ?_) (List.Subset.refl s.cards)
    fun item hitem p hp => ?_
  · -- A card on a loop would be a parent that has a parent.
    obtain ⟨parent, ⟨hitem, -, hup⟩, -⟩ := Relation.TransGen.head'_iff.1 hway
    obtain ⟨child, -, hchild, -, hdown⟩ := Relation.TransGen.tail'_iff.1 hway
    obtain ⟨P, hP, hroot⟩ := hparent child hchild item.id hdown
    rw [hs.mem_cards_iff.1 hitem] at hP
    cases hP
    cases hroot.symm.trans hup
  · obtain ⟨P, hP, -⟩ := hparent item hitem p hp
    exact ⟨P, Or.inl (mem_cards.2 ⟨p, hP⟩), hs.key p P hP⟩

/-- The ids of the cards are distinct. -/
lemma WellFormed.nodup_ids (hs : s.WellFormed) : (s.cards.map WorkItem.id).Nodup := by
  have hids : s.cards.map WorkItem.id = s.items.toList.map Prod.fst := by
    unfold cards
    rw [List.map_map]
    refine List.map_congr_left fun e he => ?_
    exact hs.key e.1 e.2 (ExtTreeMap.mem_toList_iff_getElem?_eq_some.1 he)
  rw [hids, ExtTreeMap.map_fst_toList_eq_keys]
  exact ExtTreeMap.nodup_keys

end BoardState

namespace Tables

variable {E : Encoding} {s : BoardState} {t t' : Tables E}

/-! ## What a save does -/

/-- The row of a card. -/
def itemRow (E : Encoding) (s : BoardState) (item : WorkItem) : ItemRow E :=
  ⟨item.parent, E.itemColumns s item⟩

/-- The rows of the edges of a card. -/
def blockerRows (item : WorkItem) : List BlockerRow :=
  item.blockedBy.map fun bid => ⟨item.id, bid⟩

/-- Cards that come after their parents are all inserted. -/
lemma upsertItems_of_parentsBefore {items : List WorkItem} (h : ParentsBefore items)
    (hitems : ∀ item ∈ items, s.items[item.id]? = some item) (t : Tables E) :
    ∃ rows : ExtTreeMap ItemId (ItemRow E),
      items.foldlM (fun t item => t.upsertItem item.id (itemRow E s item)) t =
        .ok { t with items := rows } ∧
      ∀ k : ItemId, rows[k]? =
        if items.any fun o => o.id == k then s.items[k]?.map (itemRow E s) else t.items[k]? := by
  induction h with
  | nil => exact ⟨t.items, rfl, fun k => by simp⟩
  | @snoc ordered item h hparent ih =>
    obtain ⟨rows, hrun, hrows⟩ := ih fun c hc => hitems c (List.mem_append_left _ hc)
    have hitem := hitems item (List.mem_append_right _ (List.mem_singleton_self item))
    have hrefs : ((itemRow E s item).parentId.all fun p => p == item.id || rows.contains p) =
        true := by
      cases hp : item.parent with
      | none => simp [itemRow, hp]
      | some p =>
        obtain ⟨o, ho, hid⟩ := parentPlaced_iff.1 hparent p hp
        have hrow : rows[p]? = s.items[p]?.map (itemRow E s) := by
          rw [hrows, if_pos (List.any_eq_true.2 ⟨o, ho, by simp [hid]⟩)]
        have ho' : s.items[p]? = some o := hid ▸ hitems o (List.mem_append_left _ ho)
        have hmem : p ∈ rows := by
          rw [ho', Option.map_some] at hrow
          exact ExtTreeMap.mem_iff_isSome_getElem?.2 (by rw [hrow]; rfl)
        simp [itemRow, hp, hmem]
    refine ⟨rows.insert item.id (itemRow E s item), ?_, fun k => ?_⟩
    · rw [List.foldlM_append, hrun]
      change (upsertItem item.id (itemRow E s item) { t with items := rows } >>= fun t =>
        pure t) = _
      rw [upsertItem, if_pos hrefs]
      rfl
    · rw [ExtTreeMap.getElem?_insert, List.any_append]
      by_cases hk : item.id = k
      · subst hk
        simp [hitem]
      · rw [if_neg (by simpa using hk), hrows]
        simp [hk]

/-- The edges of one card are inserted when they are distinct and go to cards with rows. -/
lemma replaceBlockers_eq_ok_iff {item : WorkItem} (hid : t.items.contains item.id = true)
    (hfree : ∀ r ∈ t.itemBlockers, r.itemId ≠ item.id) :
    t.replaceBlockers item.id item.blockedBy = .ok t' ↔
      (item.blockedBy.Nodup ∧ ∀ bid ∈ item.blockedBy, t.items.contains bid = true) ∧
        t' = { t with itemBlockers := t.itemBlockers ++ blockerRows item } := by
  have hkept : t.itemBlockers.filter (fun r => r.itemId != item.id) = t.itemBlockers :=
    List.filter_eq_self.2 fun r hr => by simpa using hfree r hr
  have hinjective : Function.Injective fun bid => (⟨item.id, bid⟩ : BlockerRow) :=
    fun _ _ h => congrArg BlockerRow.blockerId h
  unfold replaceBlockers
  simp only [hkept]
  constructor
  · intro h
    cases hrows : Table.insertAll (fun r : BlockerRow => r)
        (fun r => t.items.contains r.itemId && t.items.contains r.blockerId)
        (blockerRows item) t.itemBlockers with
    | error e =>
      rw [blockerRows] at hrows
      rw [hrows] at h
      cases h
    | ok rows =>
      rw [blockerRows] at hrows
      rw [hrows] at h
      cases h
      obtain ⟨hnodup, -, hrefs, rfl⟩ := Table.insertAll_eq_ok_iff.1 hrows
      rw [List.map_id'] at hnodup
      refine ⟨⟨hnodup.of_map _, fun bid hbid => ?_⟩, rfl⟩
      have := hrefs ⟨item.id, bid⟩ (List.mem_map.2 ⟨bid, hbid, rfl⟩)
      exact (Bool.and_eq_true_iff.1 this).2
  · rintro ⟨⟨hnodup, hrefs⟩, rfl⟩
    rw [Table.insertAll_of_constraints]
    · rfl
    · rw [List.map_id']
      exact hnodup.map hinjective
    · intro n hn r hr heq
      obtain ⟨bid, -, rfl⟩ := List.mem_map.1 hn
      exact hfree r hr (congrArg BlockerRow.itemId heq)
    · intro n hn
      obtain ⟨bid, hbid, rfl⟩ := List.mem_map.1 hn
      simp only [hid, hrefs bid hbid, Bool.and_self]

/-- The edges of distinct cards. -/
lemma replaceAllBlockers_eq_ok_iff {items : List WorkItem}
    (hids : ∀ item ∈ items, t.items.contains item.id = true)
    (hfree : ∀ item ∈ items, ∀ r ∈ t.itemBlockers, r.itemId ≠ item.id)
    (hnodup : (items.map WorkItem.id).Nodup) :
    items.foldlM (fun t item => t.replaceBlockers item.id item.blockedBy) t = .ok t' ↔
      (∀ item ∈ items, item.blockedBy.Nodup ∧
        ∀ bid ∈ item.blockedBy, t.items.contains bid = true) ∧
        t' = { t with itemBlockers := t.itemBlockers ++ items.flatMap blockerRows } := by
  induction items generalizing t with
  | nil =>
    constructor
    · intro h
      cases h
      simp
    · rintro ⟨-, rfl⟩
      simp [pure, Except.pure]
  | cons item items ih =>
    rw [List.map_cons, List.nodup_cons] at hnodup
    have hitem := hids item List.mem_cons_self
    have hstep := @replaceBlockers_eq_ok_iff E t
    -- The edges of this card are no edges of the cards that follow.
    have hnext : ∀ next ∈ items, ∀ r ∈ t.itemBlockers ++ blockerRows item,
        r.itemId ≠ next.id := by
      intro next hmem r hr
      rcases List.mem_append.1 hr with hr | hr
      · exact hfree next (List.mem_cons_of_mem _ hmem) r hr
      · obtain ⟨bid, -, rfl⟩ := List.mem_map.1 hr
        exact fun heq => hnodup.1 (List.mem_map.2 ⟨next, hmem, heq.symm⟩)
    have hrest := @ih { t with itemBlockers := t.itemBlockers ++ blockerRows item }
      (fun next hmem => hids next (List.mem_cons_of_mem _ hmem)) hnext hnodup.2
    rw [List.foldlM_cons, List.forall_mem_cons, and_assoc]
    constructor
    · intro h
      cases hrun : t.replaceBlockers item.id item.blockedBy with
      | error e =>
        rw [hrun] at h
        cases h
      | ok t₁ =>
        rw [hrun] at h
        obtain ⟨hedges, rfl⟩ := (hstep hitem (hfree item List.mem_cons_self)).1 hrun
        obtain ⟨hall, rfl⟩ := hrest.1 h
        exact ⟨hedges, hall, by simp⟩
    · rintro ⟨hedges, hall, rfl⟩
      rw [(hstep hitem (hfree item List.mem_cons_self)).2 ⟨hedges, rfl⟩]
      refine hrest.2 ⟨hall, by simp⟩

/-- The story of a card that has a row is inserted. -/
lemma replaceStories_of_free {goalId : ItemId} (lines : List StoryLine)
    (hgoal : t.items.contains goalId = true) (hfree : ∀ r ∈ t.stories, r.goalId ≠ goalId) :
    t.replaceStories goalId lines =
      .ok { t with stories := t.stories ++ storyRows goalId lines } := by
  have hkept : t.stories.filter (fun r => r.goalId != goalId) = t.stories :=
    List.filter_eq_self.2 fun r hr => by simpa using hfree r hr
  have hkeys : ((storyRows goalId lines : List (StoryRow E)).map
      fun r => (r.goalId, r.position)).Nodup := by
    refine List.Nodup.of_map Prod.snd ?_
    have hpositions : (((storyRows goalId lines : List (StoryRow E)).map
        fun r => (r.goalId, r.position)).map Prod.snd) = lines.zipIdx.map Prod.snd := by
      simp [storyRows, Function.comp_def]
    rw [hpositions, List.zipIdx_map_snd]
    exact List.nodup_range'
  unfold replaceStories
  simp only [hkept]
  rw [Table.insertAll_of_constraints hkeys]
  · rfl
  · intro n hn r hr heq
    obtain ⟨e, -, rfl⟩ := List.mem_map.1 hn
    exact hfree r hr (congrArg Prod.fst heq)
  · intro n hn
    obtain ⟨e, -, rfl⟩ := List.mem_map.1 hn
    exact hgoal

/-- The rows of the stories whose goals are on the board. -/
def allStoryRows (E : Encoding) (s : BoardState) (stories : List (ItemId × List StoryLine)) :
    List (StoryRow E) :=
  (stories.filter fun e => s.items.contains e.1).flatMap fun e => storyRows e.1 e.2

lemma replaceAllStories {stories : List (ItemId × List StoryLine)}
    (hids : ∀ id : ItemId, s.items.contains id = true → t.items.contains id = true)
    (hfree : ∀ e ∈ stories, ∀ r ∈ t.stories, r.goalId ≠ e.1)
    (hnodup : (stories.map Prod.fst).Nodup) :
    stories.foldlM (fun t story =>
        if s.items.contains story.1 then t.replaceStories story.1 story.2 else .ok t) t =
      .ok { t with stories := t.stories ++ allStoryRows E s stories } := by
  induction stories generalizing t with
  | nil => simp [allStoryRows, pure, Except.pure]
  | cons e stories ih =>
    rw [List.map_cons, List.nodup_cons] at hnodup
    rw [List.foldlM_cons]
    cases hgoal : s.items.contains e.1 with
    | false =>
      have hrows : allStoryRows E s (e :: stories) = allStoryRows E s stories := by
        simp only [allStoryRows]
        rw [List.filter_cons_of_neg (by simp [hgoal])]
      rw [hrows]
      exact ih hids (fun next hmem => hfree next (List.mem_cons_of_mem _ hmem)) hnodup.2
    | true =>
      have hrows : allStoryRows E s (e :: stories) =
          storyRows e.1 e.2 ++ allStoryRows E s stories := by
        simp only [allStoryRows]
        rw [List.filter_cons_of_pos (by simpa using hgoal), List.flatMap_cons]
      have hnext : ∀ next ∈ stories, ∀ r ∈ t.stories ++ storyRows e.1 e.2, r.goalId ≠ next.1 := by
        intro next hmem r hr
        rcases List.mem_append.1 hr with hr | hr
        · exact hfree next (List.mem_cons_of_mem _ hmem) r hr
        · obtain ⟨line, -, rfl⟩ := List.mem_map.1 hr
          exact fun heq => hnodup.1 (List.mem_map.2 ⟨next, hmem, heq.symm⟩)
      rw [if_pos rfl, replaceStories_of_free e.2 (hids e.1 hgoal) (hfree e List.mem_cons_self),
        hrows, ← List.append_assoc]
      exact @ih { t with stories := t.stories ++ storyRows e.1 e.2 } hids hnext hnodup.2

/-- The values of `meta` once entries were set. -/
def metaAfter (entries : List (String × String)) (values : ExtTreeMap String String) :
    ExtTreeMap String String :=
  entries.foldl (fun values entry => values.insert entry.1 entry.2) values

lemma foldl_setMeta (entries : List (String × String)) (t : Tables E) :
    entries.foldl setMeta t = { t with metaValues := metaAfter entries t.metaValues } := by
  induction entries generalizing t with
  | nil => rfl
  | cons entry entries ih =>
    rw [List.foldl_cons, ih]
    rfl

end Tables

namespace BoardState

/-- No card lists a blocker twice, or one that is not on the board. -/
def Linkable (s : BoardState) : Prop :=
  ∀ (k : ItemId) (i : WorkItem), s.items[k]? = some i →
    i.blockedBy.Nodup ∧ ∀ bid ∈ i.blockedBy, ∃ j, s.items[bid]? = some j

end BoardState

namespace Tables

variable {E : Encoding} {s : BoardState}

/-- The rows `t'` are those of the board `s`, with the settings `entries` on top of those in
`t`. -/
structure Saved (s : BoardState) (entries : List (String × String)) (t t' : Tables E) : Prop where
  items : ∀ k : ItemId, t'.items[k]? = s.items[k]?.map (itemRow E s)
  itemBlockers : t'.itemBlockers = s.cards.flatMap blockerRows
  stories : t'.stories = allStoryRows E s s.stories.toList
  metaValues : t'.metaValues = metaAfter entries t.metaValues

/-- What a save of a nested board leaves, if it goes through. -/
lemma saveBoardState_eq_ok_iff (hs : s.WellFormed) (hn : s.Nested)
    (entries : List (String × String)) (t : Tables E) :
    ∃ t₀, Saved s entries t t₀ ∧
      ∀ t', saveBoardState s entries t = .ok t' ↔ s.Linkable ∧ t' = t₀ := by
  have hcards : ∀ item ∈ parentFirst s.cards, s.items[item.id]? = some item := fun item hitem =>
    hs.mem_cards_iff.1 (mem_parentFirst.1 hitem)
  obtain ⟨rows, hinserted, hrows⟩ :=
    upsertItems_of_parentsBefore (hn.parentsBefore hs) hcards (t.cleared : Tables E)
  have hitems : ∀ k : ItemId, rows[k]? = s.items[k]?.map (itemRow E s) := by
    intro k
    rw [hrows]
    split
    · rfl
    · rename_i hnone
      cases hk : s.items[k]? with
      | none => simp [cleared]
      | some i =>
        have hmem : i ∈ parentFirst s.cards := mem_parentFirst.2 (mem_cards.2 ⟨k, hk⟩)
        exact absurd (List.any_eq_true.2 ⟨i, hmem, by simp [hs.key k i hk]⟩) hnone
  have hcontains : ∀ k : ItemId, rows.contains k = s.items.contains k := by
    intro k
    rw [ExtTreeMap.contains_eq_isSome_getElem?, ExtTreeMap.contains_eq_isSome_getElem?, hitems,
      Option.isSome_map]
  let t₁ : Tables E := { t.cleared with items := rows }
  let t₂ : Tables E := { t₁ with itemBlockers := t₁.itemBlockers ++ s.cards.flatMap blockerRows }
  let t₃ : Tables E := { t₂ with stories := t₂.stories ++ allStoryRows E s s.stories.toList }
  have hpresent : ∀ item ∈ s.cards, t₁.items.contains item.id = true := by
    intro item hitem
    change rows.contains item.id = true
    rw [hcontains, ExtTreeMap.contains_eq_isSome_getElem?, hs.mem_cards_iff.1 hitem]
    rfl
  have hblockers := fun t' => @replaceAllBlockers_eq_ok_iff E t₁ t' s.cards hpresent
    (fun _ _ r hr => absurd hr List.not_mem_nil) hs.nodup_ids
  have hstories := @replaceAllStories E s t₂ s.stories.toList (fun id hid =>
    (hcontains id).trans hid) (fun _ _ r hr => absurd hr List.not_mem_nil) (by
      rw [ExtTreeMap.map_fst_toList_eq_keys]
      exact ExtTreeMap.nodup_keys)
  have hlinkable : (∀ item ∈ s.cards, item.blockedBy.Nodup ∧
      ∀ bid ∈ item.blockedBy, t₁.items.contains bid = true) ↔ s.Linkable := by
    constructor
    · intro h k i hi
      refine ⟨(h i (mem_cards.2 ⟨k, hi⟩)).1, fun bid hbid => ?_⟩
      have hbid' : rows.contains bid = true := (h i (mem_cards.2 ⟨k, hi⟩)).2 bid hbid
      rw [hcontains, ExtTreeMap.contains_eq_isSome_getElem?] at hbid'
      exact Option.isSome_iff_exists.1 hbid'
    · intro h item hitem
      obtain ⟨k, hk⟩ := mem_cards.1 hitem
      refine ⟨(h k item hk).1, fun bid hbid => ?_⟩
      obtain ⟨j, hj⟩ := (h k item hk).2 bid hbid
      change rows.contains bid = true
      rw [hcontains, ExtTreeMap.contains_eq_isSome_getElem?, hj]
      rfl
  refine ⟨entries.foldl setMeta t₃, ?_, fun t' => ?_⟩
  · rw [foldl_setMeta]
    exact ⟨hitems, rfl, rfl, rfl⟩
  · unfold saveBoardState
    have hinserted' : (parentFirst s.cards).foldlM
        (fun t item => t.upsertItem item.id ⟨item.parent, E.itemColumns s item⟩)
        (t.cleared : Tables E) = .ok t₁ := hinserted
    simp only [hinserted']
    change ((s.cards.foldlM (fun t item => t.replaceBlockers item.id item.blockedBy) t₁) >>=
      fun t => (s.stories.toList.foldlM (fun t story => if s.items.contains story.1 then
        t.replaceStories story.1 story.2 else .ok t) t) >>= fun t =>
          pure (entries.foldl setMeta t)) = .ok t' ↔ _
    constructor
    · intro h
      cases hrun : s.cards.foldlM (fun t item => t.replaceBlockers item.id item.blockedBy) t₁ with
      | error e =>
        rw [hrun] at h
        cases h
      | ok t₄ =>
        obtain ⟨hall, rfl⟩ := (hblockers t₄).1 hrun
        rw [hrun] at h
        change ((s.stories.toList.foldlM (fun t story => if s.items.contains story.1 then
          t.replaceStories story.1 story.2 else .ok t) t₂) >>= fun t =>
            pure (entries.foldl setMeta t)) = .ok t' at h
        rw [hstories] at h
        cases h
        exact ⟨hlinkable.1 hall, rfl⟩
    · rintro ⟨hlink, rfl⟩
      rw [(hblockers t₂).2 ⟨hlinkable.2 hlink, rfl⟩]
      change ((s.stories.toList.foldlM (fun t story => if s.items.contains story.1 then
        t.replaceStories story.1 story.2 else .ok t) t₂) >>= fun t =>
          pure (entries.foldl setMeta t)) = _
      rw [hstories]
      rfl

/-- On a nested board a save goes through exactly when the edges are in order. -/
theorem saveBoardState_accepted_iff (hs : s.WellFormed) (hn : s.Nested)
    (entries : List (String × String)) (t : Tables E) :
    (∃ t', saveBoardState s entries t = .ok t') ↔ s.Linkable := by
  obtain ⟨t₀, -, hiff⟩ := saveBoardState_eq_ok_iff hs hn entries t
  constructor
  · rintro ⟨t', h⟩
    exact ((hiff t').1 h).1
  · intro hlink
    exact ⟨t₀, (hiff t₀).2 ⟨hlink, rfl⟩⟩

/-- A save that goes through leaves the rows of the board, and no others. -/
theorem saved_of_ok (hs : s.WellFormed) (hn : s.Nested) {entries : List (String × String)}
    {t t' : Tables E} (h : saveBoardState s entries t = .ok t') : Saved s entries t t' := by
  obtain ⟨t₀, hsaved, hiff⟩ := saveBoardState_eq_ok_iff hs hn entries t
  obtain ⟨-, rfl⟩ := (hiff t').1 h
  exact hsaved

end Tables

end Sandboard

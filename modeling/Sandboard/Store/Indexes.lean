import Sandboard.Store.Structural

/-!
# The hot indexes

On every reachable board the two hot indexes are the ones a rebuild from the cards computes.
So the queries that read a bucket (the ready list, the dispatch queue, the expiry scan) find
exactly the cards that a scan of all cards finds.
-/

namespace Sandboard

open Std

namespace BoardState

variable {s : BoardState}

/-! ## The scans -/

/-- Some card that is not Retired names `id` as its parent. -/
def scanHasChildren (s : BoardState) (id : ItemId) : Bool :=
  s.cards.any fun c => c.parent == some id && c.state != .retired

/-- An unblocked leaf that is not labelled a Project, by a scan for its children. -/
def scanOpenLeaf (s : BoardState) (i : WorkItem) : Bool :=
  i.level != some "Project" && !s.scanHasChildren i.id && (s.unresolvedBlockers i).isEmpty

/-- The ready list by a scan of all cards. -/
def scanBacklog (s : BoardState) (capabilities : List String) : List WorkItem :=
  (s.cards.filter fun i =>
    i.state == .backlog && s.scanOpenLeaf i && matchesCapability capabilities i).map
      s.populateBlockers

/-- The dispatch queue by a scan of all cards. -/
def scanAwaitingDispatch (s : BoardState) : List WorkItem :=
  oldestFirst (s.cards.filter fun i =>
    i.state == .backlog && i.awaitingDispatch && !i.parked && s.scanOpenLeaf i)

/-- The overdue runs by a scan of all cards. -/
def scanExpired (s : BoardState) (now : Time) : List ItemId :=
  (s.cards.filter fun i =>
    (i.state == .claimed || i.state == .running) && isOverdue now i).map WorkItem.id

/-! ## Rebuilding -/

/-- Filing cards changes the indexes only. -/
lemma foldl_indexLinkItem (cards : List WorkItem) (s : BoardState) :
    cards.foldl indexLinkItem s = { s with
      childrenByParent := (cards.foldl indexLinkItem s).childrenByParent
      idsByState := (cards.foldl indexLinkItem s).idsByState } := by
  induction cards generalizing s with
  | nil => rfl
  | cons i cards ih => exact ih (s.indexLinkItem i)

/-- Filing a list of cards adds their parents and their states to the stored relations. -/
lemma isExact_foldl_indexLinkItem (cards : List WorkItem) {rc : ItemId → ItemId → Prop}
    {rs : State → ItemId → Prop} (hc : SecondaryIndex.IsExact s.childrenByParent rc)
    (hs : SecondaryIndex.IsExact s.idsByState rs) :
    SecondaryIndex.IsExact (cards.foldl indexLinkItem s).childrenByParent
        (fun p k => (∃ i ∈ cards, i.parent = some p ∧ i.id = k) ∨ rc p k) ∧
      SecondaryIndex.IsExact (cards.foldl indexLinkItem s).idsByState
        (fun st k => (∃ i ∈ cards, i.state = st ∧ i.id = k) ∨ rs st k) := by
  induction cards generalizing s rc rs with
  | nil => exact ⟨hc.congr (by simp), hs.congr (by simp)⟩
  | cons i cards ih =>
    have hs' := hs.link i.state i.id
    have hc' : SecondaryIndex.IsExact (s.indexLinkItem i).childrenByParent
        fun p k => (i.parent = some p ∧ i.id = k) ∨ rc p k := by
      unfold indexLinkItem
      cases hp : i.parent with
      | none => exact hc.congr (by simp)
      | some q =>
        refine (hc.link q i.id).congr fun p k => ?_
        simp only [Option.some.injEq, eq_comm (a := p), eq_comm (a := k)]
    obtain ⟨hc'', hs''⟩ := ih (s := s.indexLinkItem i) hc' hs'
    refine ⟨hc''.congr fun p k => ?_, hs''.congr fun st k => ?_⟩
    · simp only [List.mem_cons, exists_eq_or_imp, or_left_comm, or_assoc]
    · simp only [List.mem_cons, exists_eq_or_imp, eq_comm (a := st), eq_comm (a := k),
        or_left_comm, or_assoc]

lemma mem_cards {i : WorkItem} : i ∈ s.cards ↔ ∃ k : ItemId, s.items[k]? = some i := by
  simp [cards]

namespace WellFormed

lemma mem_cards_iff (h : WellFormed s) {i : WorkItem} :
    i ∈ s.cards ↔ s.items[i.id]? = some i := by
  rw [mem_cards]
  refine ⟨?_, fun hi => ⟨_, hi⟩⟩
  rintro ⟨k, hk⟩
  rw [h.key k i hk]
  exact hk

/-- Rebuilding the indexes of a well-formed board changes nothing. -/
theorem rebuildHotIndexes_eq (h : WellFormed s) : s.rebuildHotIndexes = s := by
  obtain ⟨hc, hs⟩ := isExact_foldl_indexLinkItem s.cards
    (s := { s with childrenByParent := ∅, idsByState := ∅ })
    SecondaryIndex.isExact_empty SecondaryIndex.isExact_empty
  have hchildren : s.rebuildHotIndexes.childrenByParent = s.childrenByParent := by
    refine hc.unique (h.children.congr fun p k => ?_)
    rw [or_false]
    constructor
    · rintro ⟨i, hi, hp⟩
      exact ⟨i, mem_cards.2 ⟨k, hi⟩, hp, h.key k i hi⟩
    · rintro ⟨i, hi, hp, rfl⟩
      exact ⟨i, h.mem_cards_iff.1 hi, hp⟩
  have hstates : s.rebuildHotIndexes.idsByState = s.idsByState := by
    refine hs.unique (h.states.congr fun st k => ?_)
    rw [or_false]
    constructor
    · rintro ⟨i, hi, hp⟩
      exact ⟨i, mem_cards.2 ⟨k, hi⟩, hp, h.key k i hi⟩
    · rintro ⟨i, hi, hp, rfl⟩
      exact ⟨i, h.mem_cards_iff.1 hi, hp⟩
  calc s.rebuildHotIndexes
      = { s with
          childrenByParent := s.rebuildHotIndexes.childrenByParent
          idsByState := s.rebuildHotIndexes.idsByState } := foldl_indexLinkItem s.cards _
    _ = s := by rw [hchildren, hstates]

/-! ## Buckets are scans -/

/-- The cards filed under a state are the cards in that state. -/
lemma cardsIn_eq (h : WellFormed s) (st : State) :
    s.cardsIn st = s.cards.filter fun i => i.state == st := by
  have hexact : SecondaryIndex.IsExact s.idsByState fun g k =>
      ∃ i, s.items[k]? = some i ∧ (i.state == g) = true :=
    h.states.congr fun g k => by simp [IsIn]
  exact hexact.filterMap_bucket st

/-- The children index answers the container test as a scan does. -/
lemma hasChildren_eq (h : WellFormed s) (id : ItemId) :
    s.hasChildren id = s.scanHasChildren id := by
  rw [Bool.eq_iff_iff]
  rw [hasChildren, decide_eq_true_eq, nonRetiredChildCount, List.countP_pos_iff]
  simp only [childrenOfIndexed, scanHasChildren, List.any_eq_true, h.children.mem_bucket,
    mem_cards]
  constructor
  · rintro ⟨k, ⟨i, hi, hp⟩, hstate⟩
    refine ⟨i, ⟨k, hi⟩, ?_⟩
    simpa [hi, hp] using hstate
  · rintro ⟨i, ⟨k, hi⟩, hstate⟩
    simp only [Bool.and_eq_true, beq_iff_eq, bne_iff_ne] at hstate
    exact ⟨k, ⟨i, hi, hstate.1⟩, by simp [hi, hstate.2]⟩

lemma isOpenLeaf_eq (h : WellFormed s) (i : WorkItem) : s.isOpenLeaf i = s.scanOpenLeaf i := by
  unfold isOpenLeaf scanOpenLeaf
  rw [h.hasChildren_eq]

lemma listBacklog_eq (h : WellFormed s) (capabilities : List String) :
    s.listBacklog capabilities = s.scanBacklog capabilities := by
  unfold listBacklog scanBacklog
  rw [h.cardsIn_eq, List.filter_filter]
  congr 1
  refine List.filter_congr fun i _ => ?_
  rw [h.isOpenLeaf_eq]
  ac_rfl

lemma listAwaitingDispatch_eq (h : WellFormed s) :
    s.listAwaitingDispatch = s.scanAwaitingDispatch := by
  unfold listAwaitingDispatch scanAwaitingDispatch
  rw [h.cardsIn_eq, List.filter_filter]
  congr 1
  refine List.filter_congr fun i _ => ?_
  rw [h.isOpenLeaf_eq]
  ac_rfl

/-- The overdue ids filed under a state are the ids of the overdue cards in that state. -/
lemma filter_bucket_eq (h : WellFormed s) (now : Time) (st : State) :
    ((s.idsByState.bucket st).filter fun id => (s.items[id]?.map (isOverdue now)).getD false) =
      (s.cards.filter fun i => i.state == st && isOverdue now i).map WorkItem.id := by
  have hexact : SecondaryIndex.IsExact s.idsByState fun g k =>
      ∃ i, s.items[k]? = some i ∧ (i.state == g) = true :=
    h.states.congr fun g k => by simp [IsIn]
  rw [hexact.bucket_eq_scan, cards, List.filter_map, List.filter_map, List.filter_filter,
    List.map_map]
  have hmem : ∀ e ∈ s.items.toList, s.items[e.1]? = some e.2 := fun e he =>
    ExtTreeMap.mem_toList_iff_getElem?_eq_some.1 he
  have hfilter : s.items.toList.filter (fun e => ((fun id =>
        (s.items[id]?.map (isOverdue now)).getD false) ∘ Prod.fst) e && e.2.state == st) =
      s.items.toList.filter ((fun i => i.state == st && isOverdue now i) ∘ Prod.snd) := by
    refine List.filter_congr fun e he => ?_
    simp [hmem e he, Bool.and_comm]
  rw [hfilter]
  refine List.map_congr_left fun e he => ?_
  exact (h.key e.1 e.2 (hmem e (List.mem_filter.1 he).1)).symm

/-- The expiry scan finds the overdue Claimed and Running cards, each once. -/
lemma expired_perm (h : WellFormed s) (now : Time) :
    (s.expired now).Perm (s.scanExpired now) := by
  have hsplit := List.filter_append_perm (fun i : WorkItem => i.state == .claimed)
    (s.cards.filter fun i => (i.state == .claimed || i.state == .running) && isOverdue now i)
  rw [List.filter_filter, List.filter_filter] at hsplit
  have hexpired : s.expired now = ((s.cards.filter fun i =>
        i.state == .claimed && ((i.state == .claimed || i.state == .running) && isOverdue now i)) ++
      (s.cards.filter fun i => !(i.state == .claimed) &&
        ((i.state == .claimed || i.state == .running) && isOverdue now i))).map WorkItem.id := by
    unfold expired
    rw [List.flatMap_cons, List.flatMap_cons, List.flatMap_nil, List.append_nil,
      h.filter_bucket_eq, h.filter_bucket_eq, List.map_append]
    congr 2
    · refine List.filter_congr fun i _ => ?_
      cases i.state <;> rfl
    · refine List.filter_congr fun i _ => ?_
      cases i.state <;> rfl
  rw [hexpired]
  exact hsplit.map WorkItem.id

lemma mem_expired_iff (h : WellFormed s) (now : Time) {id : ItemId} :
    id ∈ s.expired now ↔ ∃ c, s.items[id]? = some c ∧
      (c.state = .claimed ∨ c.state = .running) ∧ isOverdue now c = true := by
  rw [(h.expired_perm now).mem_iff, scanExpired, List.mem_map]
  constructor
  · rintro ⟨c, hc, rfl⟩
    rw [List.mem_filter, h.mem_cards_iff] at hc
    exact ⟨c, hc.1, by simpa using hc.2⟩
  · rintro ⟨c, hc, hrun⟩
    have hid : c.id = id := h.key id c hc
    subst hid
    refine ⟨c, ?_, rfl⟩
    rw [List.mem_filter, h.mem_cards_iff]
    exact ⟨hc, by simpa using hrun⟩

end WellFormed

/-- On every reachable board the hot indexes are the rebuilt ones, and the three bucket
queries agree with a scan of all cards. -/
theorem hotIndexes_exact [UnicodeTables] (schema : Schema) (clock : ℕ → ℕ → Time)
    (saveSucceeds : ℕ → Bool) (ops : List Operation) :
    let s := Board.reached schema clock saveSucceeds ops
    s.rebuildHotIndexes.childrenByParent = s.childrenByParent ∧
      s.rebuildHotIndexes.idsByState = s.idsByState ∧
      (∀ capabilities, s.listBacklog capabilities = s.scanBacklog capabilities) ∧
      s.listAwaitingDispatch = s.scanAwaitingDispatch ∧
      ∀ now, (s.expired now).Perm (s.scanExpired now) := by
  intro s
  have h : WellFormed s := Board.wellFormed_reached schema clock saveSucceeds ops
  have hrebuild := h.rebuildHotIndexes_eq
  exact ⟨congrArg childrenByParent hrebuild, congrArg idsByState hrebuild, h.listBacklog_eq,
    h.listAwaitingDispatch_eq, h.expired_perm⟩

end BoardState

end Sandboard

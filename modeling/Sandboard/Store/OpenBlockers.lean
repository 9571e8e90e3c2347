import Sandboard.Store.Constraints
import Sandboard.Web.DependencyGraph

/-!
# Which cards are blocked

Four places decide whether a card is blocked: the rules of a claim, the order of the Backlog column,
the counter in the rows of the board and the edges that the dependency graph draws.  They agree
when some blocker on the board is open, and when all of them are Done; a Retired blocker is still
drawn as unresolved, and a card is listed as blocked when none of its blockers is on the board.
-/

namespace Sandboard

open Std BoardState DependencyGraph

/-! ## The counter -/

/-- How many blockers are open, as it is mirrored into the rows. -/
def BoardState.openBlockerCount (s : BoardState) (item : WorkItem) : UInt32 :=
  UInt32.ofNat (item.blockedBy.countP s.isUnresolved)

/-- Rows with the counter of the open blockers. -/
def counterRows : Encoding where
  ItemColumns := UInt32
  itemColumns := openBlockerCount
  StoryColumns := Unit
  storyColumns _ := ()

/-! ## The Backlog column -/

/-- The list takes a card for blocked: by the summaries of its blockers, or by the edges when it
has no summary. -/
def WorkItem.blockedInList (item : WorkItem) : Bool :=
  item.blockers.any (fun blk => !blk.state.isTerminal) ||
    (item.blockers.isEmpty && !item.blockedBy.isEmpty)

/-- The order of two cards in the Backlog column. -/
def compareBacklog (a b : WorkItem) : Ordering :=
  if a.blockedInList != b.blockedInList then compare a.blockedInList b.blockedInList
  else compare a.enteredStateAt b.enteredStateAt

/-- The Backlog column, in a stable order. -/
def sortBacklog (items : List WorkItem) : List WorkItem :=
  items.mergeSort fun a b => (compareBacklog a b).isLE

lemma isLE_compareBacklog {a b : WorkItem} :
    (compareBacklog a b).isLE = true ↔
      (a.blockedInList = false ∧ b.blockedInList = true) ∨
        (a.blockedInList = b.blockedInList ∧ a.enteredStateAt ≤ b.enteredStateAt) := by
  unfold compareBacklog
  cases a.blockedInList <;> cases b.blockedInList
  · exact Std.isLE_compare.trans (by simp)
  · exact iff_of_true rfl (by simp)
  · exact iff_of_false Bool.false_ne_true (by simp)
  · exact Std.isLE_compare.trans (by simp)

/-- Behind a card that is taken for blocked there are only such cards. -/
lemma pairwise_sortBacklog (items : List WorkItem) :
    (sortBacklog items).Pairwise fun a b => a.blockedInList = true → b.blockedInList = true := by
  have htrans : ∀ a b c : WorkItem, (compareBacklog a b).isLE = true →
      (compareBacklog b c).isLE = true → (compareBacklog a c).isLE = true := by
    intro a b c hab hbc
    rw [isLE_compareBacklog] at hab hbc ⊢
    rcases hab with ⟨ha, hb⟩ | ⟨hab, hle⟩
    · rcases hbc with ⟨hb', -⟩ | ⟨hbc, -⟩
      · cases hb.symm.trans hb'
      · exact Or.inl ⟨ha, hbc ▸ hb⟩
    · rcases hbc with ⟨hb, hc⟩ | ⟨hbc, hle'⟩
      · exact Or.inl ⟨hab.trans hb, hc⟩
      · exact Or.inr ⟨hab.trans hbc, hle.trans hle'⟩
  have htotal : ∀ a b : WorkItem,
      ((compareBacklog a b).isLE || (compareBacklog b a).isLE) = true := by
    intro a b
    rw [Bool.or_eq_true, isLE_compareBacklog, isLE_compareBacklog]
    rcases le_total a.enteredStateAt b.enteredStateAt with hle | hle <;>
      cases a.blockedInList <;> cases b.blockedInList <;> simp [hle]
  refine (List.pairwise_mergeSort htrans htotal items).imp fun hab ha => ?_
  rcases isLE_compareBacklog.1 hab with ⟨ha', -⟩ | ⟨heq, -⟩
  · cases ha.symm.trans ha'
  · exact heq ▸ ha

/-! ## The graph -/

/-- A page of the board that shows a card with all its blockers. -/
structure ShownWith (s : BoardState) (c : WorkItem) (items : List WorkItem) : Prop where
  card : ∀ i ∈ items, s.items[i.id]? = some i
  self : c ∈ items
  blockers : ∀ b ∈ c.blockedBy, ∀ i, s.items[b]? = some i → i ∈ items

/-- The graph draws an unresolved edge into a card. -/
def drawsUnresolved (items : List WorkItem) (id : ItemId) : Bool :=
  (edges items).any fun e => e.target == id && e.isUnresolved

/-- The edges into a card come from its blockers on the board that are not Done. -/
lemma ShownWith.drawsUnresolved_iff {s : BoardState} (hs : s.WellFormed) {c : WorkItem}
    {items : List WorkItem} (h : ShownWith s c items) : drawsUnresolved items c.id = true ↔
      ∃ b ∈ c.blockedBy, ∃ i, s.items[b]? = some i ∧ i.state ≠ .done := by
  have honce : OnePerId items := fun x hx y hy hid => by
    have hsame := (h.card x hx).symm
    rw [hid, h.card y hy] at hsame
    exact (Option.some.inj hsame)
  rw [drawsUnresolved, List.any_eq_true]
  constructor
  · rintro ⟨e, he, htarget⟩
    rw [Bool.and_eq_true, beq_iff_eq] at htarget
    obtain ⟨item, hitem, hdrawn⟩ := List.mem_flatMap.1 he
    obtain ⟨b, hb, hedge⟩ := List.mem_filterMap.1 hdrawn
    obtain ⟨blocker, hblocker, rfl⟩ := Option.map_eq_some_iff.1 hedge
    obtain ⟨hmem, rfl⟩ := mem_of_getElem?_itemMap hblocker
    cases honce item hitem c h.self htarget.1
    exact ⟨blocker.id, hb, blocker, h.card blocker hmem, by simpa using htarget.2⟩
  · rintro ⟨b, hb, i, hi, hstate⟩
    have hmem := h.blockers b hb i hi
    have hid : i.id = b := hs.key b i hi
    have hmap : (itemMap items)[b]? = some i := by
      rw [← hid]
      exact getElem?_itemMap_of_mem honce hmem
    refine ⟨⟨b, c.id, i.state != .done⟩, ?_, by simp [hstate]⟩
    refine List.mem_flatMap.2 ⟨c, h.self, List.mem_filterMap.2 ⟨b, hb, ?_⟩⟩
    rw [hmap, Option.map_some]

/-! ## One notion -/

/-- The four places take a card for blocked, or none of them does. -/
structure TreatedAlike (s : BoardState) (c : WorkItem) : Prop where
  list : s.unresolvedBlockers c ≠ [] ↔ (s.populateBlockers c).blockedInList = true
  counter : s.unresolvedBlockers c ≠ [] ↔ 0 < s.openBlockerCount c
  graph : ∀ items, ShownWith s c items →
    (s.unresolvedBlockers c ≠ [] ↔ drawsUnresolved items c.id = true)

/-- Some blocker of the card on the board is open, and as many that a `u32` does not count them as
none; or all blockers on the board are Done, and there is one unless the card has no blockers. -/
def PlainlyBlocked (s : BoardState) (c : WorkItem) : Prop :=
  ((∃ b ∈ c.blockedBy, s.isUnresolved b = true) ∧
      ¬2 ^ 32 ∣ c.blockedBy.countP s.isUnresolved) ∨
    ((∀ b ∈ c.blockedBy, ∀ i, s.items[b]? = some i → i.state = .done) ∧
      (c.blockedBy = [] ∨ ∃ b ∈ c.blockedBy, ∃ i, s.items[b]? = some i))

lemma unresolvedBlockers_ne_nil_iff {s : BoardState} {c : WorkItem} :
    s.unresolvedBlockers c ≠ [] ↔ ∃ b ∈ c.blockedBy, s.isUnresolved b = true := by
  rw [unresolvedBlockers, ne_eq, List.filter_eq_nil_iff]
  push Not
  rfl

lemma isUnresolved_iff {s : BoardState} {b : ItemId} :
    s.isUnresolved b = true ↔ ∃ i, s.items[b]? = some i ∧ i.state.isTerminal = false := by
  unfold isUnresolved
  cases s.items[b]? with
  | none => simp
  | some i => simp

/-- The list goes by the blockers on the board, unless there is none. -/
lemma blockedInList_iff {s : BoardState} {c : WorkItem} :
    (s.populateBlockers c).blockedInList = true ↔
      (∃ b ∈ c.blockedBy, s.isUnresolved b = true) ∨
        (c.blockedBy ≠ [] ∧ ∀ b ∈ c.blockedBy, s.items[b]? = none) := by
  rw [WorkItem.blockedInList, Bool.or_eq_true, Bool.and_eq_true]
  refine or_congr ?_ ?_
  · rw [List.any_eq_true]
    constructor
    · rintro ⟨blk, hblk, hstate⟩
      obtain ⟨b, hb, hsummary⟩ := List.mem_filterMap.1 hblk
      obtain ⟨i, hi, rfl⟩ := Option.map_eq_some_iff.1 hsummary
      exact ⟨b, hb, isUnresolved_iff.2 ⟨i, hi, by simpa using hstate⟩⟩
    · rintro ⟨b, hb, hopen⟩
      obtain ⟨i, hi, hstate⟩ := isUnresolved_iff.1 hopen
      refine ⟨⟨i.id, i.title, i.state⟩, List.mem_filterMap.2 ⟨b, hb, ?_⟩, by simp [hstate]⟩
      rw [hi, Option.map_some]
  · have hempty : (s.populateBlockers c).blockers.isEmpty = true ↔
        ∀ b ∈ c.blockedBy, s.items[b]? = none := by
      rw [List.isEmpty_iff, populateBlockers, List.filterMap_eq_nil_iff]
      simp only [Option.map_eq_none_iff]
    have hedges : (!(s.populateBlockers c).blockedBy.isEmpty) = true ↔ c.blockedBy ≠ [] := by
      simp [populateBlockers]
    rw [hempty, hedges, and_comm]

/-- The counter is positive when its value is not a multiple of `2 ^ 32`. -/
lemma openBlockerCount_pos_iff {s : BoardState} {c : WorkItem} :
    0 < s.openBlockerCount c ↔ ¬2 ^ 32 ∣ c.blockedBy.countP s.isUnresolved := by
  rw [openBlockerCount, UInt32.lt_iff_toNat_lt, UInt32.toNat_ofNat', Nat.dvd_iff_mod_eq_zero]
  exact Nat.pos_iff_ne_zero

/-- The whole board shows a card with its blockers. -/
lemma shownWith_cards {s : BoardState} (hs : s.WellFormed) {k : ItemId} {c : WorkItem}
    (hc : s.items[k]? = some c) : ShownWith s c s.cards where
  card _ hi := hs.mem_cards_iff.1 hi
  self := mem_cards.2 ⟨k, hc⟩
  blockers b _ _ hi := mem_cards.2 ⟨b, hi⟩

lemma treatedAlike_iff_plainlyBlocked {s : BoardState} (hs : s.WellFormed) {k : ItemId}
    {c : WorkItem} (hc : s.items[k]? = some c) : TreatedAlike s c ↔ PlainlyBlocked s c := by
  constructor
  · intro h
    have hlist := h.list
    have hgraph := h.graph s.cards (shownWith_cards hs hc)
    rw [(shownWith_cards hs hc).drawsUnresolved_iff hs] at hgraph
    by_cases hopen : s.unresolvedBlockers c ≠ []
    · exact Or.inl ⟨unresolvedBlockers_ne_nil_iff.1 hopen,
        openBlockerCount_pos_iff.1 (h.counter.1 hopen)⟩
    · refine Or.inr ⟨fun b hb i hi => ?_, ?_⟩
      · by_contra hstate
        exact hopen (hgraph.2 ⟨b, hb, i, hi, hstate⟩)
      · by_contra hnone
        rw [not_or] at hnone
        refine hopen (hlist.2 (blockedInList_iff.2 (Or.inr ⟨hnone.1, fun b hb => ?_⟩)))
        exact Option.eq_none_iff_forall_ne_some.2 fun i hi => hnone.2 ⟨b, hb, i, hi⟩
  · rintro (⟨hopen, hcount⟩ | ⟨hdone, hsome⟩)
    · have hblocked := unresolvedBlockers_ne_nil_iff.2 hopen
      refine ⟨iff_of_true hblocked (blockedInList_iff.2 (Or.inl hopen)),
        iff_of_true hblocked (openBlockerCount_pos_iff.2 hcount), fun items hshown => ?_⟩
      obtain ⟨b, hb, hb'⟩ := hopen
      obtain ⟨i, hi, hstate⟩ := isUnresolved_iff.1 hb'
      refine iff_of_true hblocked ((hshown.drawsUnresolved_iff hs).2 ⟨b, hb, i, hi, ?_⟩)
      rintro hstate'
      rw [hstate'] at hstate
      cases hstate
    · have hclosed : ∀ b ∈ c.blockedBy, ¬s.isUnresolved b = true := by
        intro b hb hopen
        obtain ⟨i, hi, hstate⟩ := isUnresolved_iff.1 hopen
        rw [hdone b hb i hi] at hstate
        cases hstate
      have hnone : ¬∃ b ∈ c.blockedBy, s.isUnresolved b = true :=
        fun ⟨b, hb, hopen⟩ => hclosed b hb hopen
      have hfree : ¬s.unresolvedBlockers c ≠ [] := fun h => hnone (unresolvedBlockers_ne_nil_iff.1 h)
      refine ⟨iff_of_false hfree ?_, iff_of_false hfree ?_, fun items hshown => ?_⟩
      · rw [blockedInList_iff]
        rintro (hopen | ⟨hne, hmissing⟩)
        · exact hnone hopen
        · obtain ⟨b, hb, i, hi⟩ := hsome.resolve_left hne
          cases (hmissing b hb).symm.trans hi
      · rw [openBlockerCount_pos_iff, List.countP_eq_zero.2 hclosed]
        exact fun h => h (Nat.dvd_zero _)
      · refine iff_of_false hfree fun hdrawn => ?_
        obtain ⟨b, hb, i, hi, hstate⟩ := (hshown.drawsUnresolved_iff hs).1 hdrawn
        exact hstate (hdone b hb i hi)

namespace Board

section Unicode

variable [UnicodeTables]

/-- On every reachable board, the four places treat a card alike exactly when it is plainly blocked
or free; and a save of the board that goes through writes the counter. -/
theorem treatedAlike_iff (schema : Schema) (clock : ℕ → ℕ → Time) (saveSucceeds : ℕ → Bool)
    (ops : List Operation) (k : ItemId) (c : WorkItem)
    (hc : (reached schema clock saveSucceeds ops).items[k]? = some c) :
    (TreatedAlike (reached schema clock saveSucceeds ops) c ↔
        PlainlyBlocked (reached schema clock saveSucceeds ops) c) ∧
      ∀ (entries : List (String × String)) (t t' : Tables counterRows),
        Tables.saveBoardState (reached schema clock saveSucceeds ops) entries t = .ok t' →
          t'.items[k]?.map ItemRow.columns =
            some ((reached schema clock saveSucceeds ops).openBlockerCount c) := by
  have hs : (reached schema clock saveSucceeds ops).WellFormed := wellFormed_reached _ _ _ ops
  have hn : (reached schema clock saveSucceeds ops).Nested :=
    nested_after (sound_new _ _ _) Nested.empty ops
  refine ⟨treatedAlike_iff_plainlyBlocked hs hc, fun entries t t' hsave => ?_⟩
  rw [(Tables.saved_of_ok hs hn hsave).items k, hc]
  rfl

end Unicode

set_option maxRecDepth 100000 in
/-- The theorem for a Task that the Initial plan of its Project blocks. -/
theorem treatedAlike_linked :
    let := asciiTables
    ∃ c, (reached Schema.default (fun _ _ => 0) (fun _ => true) linkedRun).items[3]? = some c ∧
      TreatedAlike (reached Schema.default (fun _ _ => 0) (fun _ => true) linkedRun) c := by
  intro tables
  have hcard : (reached Schema.default (fun _ _ => 0) (fun _ => true) linkedRun).items[3]?.map
      WorkItem.blockedBy = some [2] := by decide
  have hopen : (reached Schema.default (fun _ _ => 0) (fun _ => true) linkedRun).isUnresolved 2 =
      true := by decide
  obtain ⟨c, hc, hedges⟩ := Option.map_eq_some_iff.1 hcard
  refine ⟨c, hc, (treatedAlike_iff _ _ _ linkedRun 3 c hc).1.2 (Or.inl ⟨⟨2, ?_, hopen⟩, ?_⟩)⟩
  · rw [hedges]
    exact List.mem_singleton_self 2
  · rw [hedges, List.countP_singleton, if_pos hopen]
    decide

set_option maxRecDepth 100000 in
/-- A Task whose only blocker does not exist is free for a claim, and listed as blocked. -/
theorem not_treatedAlike_dangling :
    let := asciiTables
    ∃ c, (reached Schema.default (fun _ _ => 0) (fun _ => true) danglingRun).items[3]? = some c ∧
      ¬TreatedAlike (reached Schema.default (fun _ _ => 0) (fun _ => true) danglingRun) c := by
  intro tables
  have hcard : (reached Schema.default (fun _ _ => 0) (fun _ => true) danglingRun).items[3]?.map
      WorkItem.blockedBy = some [99] := by decide
  have hmissing : (reached Schema.default (fun _ _ => 0) (fun _ => true) danglingRun).items[99]? =
      none := by
    rw [← Option.isNone_iff_eq_none]
    decide
  have hs : (reached Schema.default (fun _ _ => 0) (fun _ => true) danglingRun).WellFormed :=
    wellFormed_reached _ _ _ danglingRun
  obtain ⟨c, hc, hedges⟩ := Option.map_eq_some_iff.1 hcard
  refine ⟨c, hc, fun halike => ?_⟩
  have hlisted := blockedInList_iff.2 (Or.inr ⟨by rw [hedges]; exact List.cons_ne_nil 99 [],
    fun b hb => by rw [hedges, List.mem_singleton] at hb; rw [hb]; exact hmissing⟩)
  obtain ⟨b, hb, hopen⟩ := unresolvedBlockers_ne_nil_iff.1 (halike.list.2 hlisted)
  rw [hedges, List.mem_singleton] at hb
  obtain ⟨i, hi, -⟩ := isUnresolved_iff.1 hopen
  rw [hb, hmissing] at hi
  cases hi

end Board

end Sandboard

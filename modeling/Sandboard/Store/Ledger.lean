import Sandboard.Store.Approving

/-!
# Materializations over a run

The account of the Tasks that the rows of proposals got: one entry for each materialization, with
the rows that got a new Task.  Outside the entries of a step no card is created and no edge is
written, and once the rows of a card have their Tasks there is no further entry of the card,
unless its pending proposal is materialized again.
-/

namespace Sandboard

open Std Text BoardState

/-- The proposal of a card became Tasks; `created` are the rows that got a new one. -/
structure Materialization where
  card : ItemId
  proposal : TaskProposal
  created : List (PlanTaskSpec × ItemId)

/-- What a row says of its Task. -/
def WorkItem.texts (i : WorkItem) : String × String × Option String :=
  (i.title, i.intent, i.definitionOfDone)

/-- The texts that the Task of the row is created with. -/
def PlanTaskSpec.texts (spec : PlanTaskSpec) : String × String × Option String :=
  (spec.title, spec.intent, some spec.definitionOfDone)

/-- Some row of the proposal has no Task yet. -/
def TaskProposal.Waits (p : TaskProposal) : Prop := ∃ t ∈ p.tasks, t.itemId = none

/-- The card `id` has no proposal with a row that waits for its Task. -/
def BoardState.Spent (s : BoardState) (id : ItemId) : Prop :=
  ∀ (c : WorkItem) (p : TaskProposal), s.items[id]? = some c → c.proposal = some p → ¬p.Waits

section Unicode

variable [UnicodeTables]

/-- What happened from one board to the other, as far as Tasks of proposals go.  The proposals
of the cards `again` may have been spent already. -/
structure Accounts (again : ItemId → Prop) (s s' : BoardState) (made : List Materialization) :
    Prop where
  /-- Each row got one new Task at most. -/
  rows : ∀ e ∈ made, (e.created.map Prod.fst).Sublist e.proposal.tasks
  proposed : ∀ e ∈ made, ∃ c, s.items[e.card]? = some c ∧ c.proposal = some e.proposal
  waited : ∀ e ∈ made, again e.card ∨ e.proposal.Waits
  spent : ∀ e ∈ made, s'.Spent e.card
  once : (made.map Materialization.card).Nodup
  tasks : ∀ e ∈ made, ∀ z ∈ e.created, ∃ i, s'.items[z.2]? = some i ∧ i.texts = z.1.texts
  /-- The entries name the cards that were created. -/
  created : ∀ k : ItemId, (s.items[k]? = none ∧ s'.items[k]? ≠ none) ↔
    ∃ e ∈ made, ∃ z ∈ e.created, z.2 = k
  distinct : ((made.flatMap Materialization.created).map Prod.snd).Nodup
  kept : ∀ (k : ItemId) (i : WorkItem), s.items[k]? = some i →
    ∃ i', s'.items[k]? = some i' ∧ i'.texts = i.texts
  waiting : ∀ (k : ItemId) (c : WorkItem) (p : TaskProposal), s'.items[k]? = some c →
    c.proposal = some p → p.Waits → ∃ c₀, s.items[k]? = some c₀ ∧ c₀.proposal = some p
  /-- Edges were written to Tasks of rows only. -/
  linked : ∀ (k : ItemId) (i i' : WorkItem), s.items[k]? = some i → s'.items[k]? = some i' →
    i'.blockedBy ≠ i.blockedBy → ∃ e ∈ made, ∃ row ∈ e.proposal.tasks,
      Board.normalizeTitle row.title = Board.normalizeTitle i.title

namespace Accounts

variable {again : ItemId → Prop} {s s' s'' : BoardState} {made made' : List Materialization}
  {id projectId : ItemId} {c c' : WorkItem}

/-- A card whose rows have their Tasks does not wait again. -/
lemma stays (h : Accounts again s s' made) (hspent : s.Spent id) : s'.Spent id := by
  intro c p hc hp hwaits
  obtain ⟨c₀, hc₀, hp₀⟩ := h.waiting id c p hc hp hwaits
  exact hspent c₀ p hc₀ hp₀ hwaits

/-- Without an entry no card is created. -/
lemma nothing_created (h : Accounts again s s' []) {k : ItemId} (hk : s.items[k]? = none) :
    s'.items[k]? = none := by
  by_contra hnew
  obtain ⟨e, he, -⟩ := (h.created k).1 ⟨hk, hnew⟩
  cases he

/-- Nothing is to be accounted for when no card is created, loses its text or its blockers, or
starts to wait. -/
lemma nil (hkept : ∀ (k : ItemId) (i : WorkItem), s.items[k]? = some i →
      ∃ i', s'.items[k]? = some i' ∧ i'.texts = i.texts ∧ i'.blockedBy = i.blockedBy)
    (hnone : ∀ k : ItemId, s.items[k]? = none → s'.items[k]? = none)
    (hwaiting : ∀ (k : ItemId) (c : WorkItem) (p : TaskProposal), s'.items[k]? = some c →
      c.proposal = some p → ∃ c₀, s.items[k]? = some c₀ ∧ c₀.proposal = some p) : Accounts again s s' [] where
  rows _ he := nomatch he
  proposed _ he := nomatch he
  waited _ he := nomatch he
  spent _ he := nomatch he
  once := List.nodup_nil
  tasks _ he := nomatch he
  created k := by
    constructor
    · rintro ⟨hk, hnew⟩
      exact absurd (hnone k hk) hnew
    · rintro ⟨e, he, -⟩
      cases he
  distinct := List.nodup_nil
  kept k i hi := by
    obtain ⟨i', hi', htexts, -⟩ := hkept k i hi
    exact ⟨i', hi', htexts⟩
  waiting k c p hc hp _ := hwaiting k c p hc hp
  linked k i i' hi hi' hne := by
    obtain ⟨j, hj, -, hblockers⟩ := hkept k i hi
    rw [hi', Option.some.injEq] at hj
    exact absurd (hj ▸ hblockers) hne

lemma of_same (h : SameCards s s') : Accounts again s s' [] :=
  nil (fun _ i hi => ⟨i, h.items ▸ hi, rfl, rfl⟩) (fun _ hk => h.items ▸ hk)
    fun _ c _ hc hp => ⟨c, h.items ▸ hc, hp⟩

/-- Work on one card. -/
lemma of_worked {L : Licence} (hc : s.items[id]? = some c) (h : Worked L id s c s' c') :
    Accounts again s s' [] := by
  have htexts : c'.texts = c.texts :=
    h.terms (fun k => (k.title, k.intent, k.definitionOfDone)) fun _ _ _ => rfl
  have hblockers : c'.blockedBy = c.blockedBy := h.terms Contract.blockedBy fun _ _ _ => rfl
  refine nil (fun k i hi => ?_) (fun k hk => ?_) fun k d p hd hp => ?_
  · by_cases hk : k = id
    · subst hk
      rw [hc, Option.some.injEq] at hi
      subst hi
      exact ⟨c', h.item hc, htexts, hblockers⟩
    · exact ⟨i, (h.others hk).trans hi, rfl, rfl⟩
  · have hne : k ≠ id := by
      rintro rfl
      rw [hc] at hk
      cases hk
    exact (h.others hne).trans hk
  · by_cases hk : k = id
    · subst hk
      rw [h.item hc, Option.some.injEq] at hd
      subst hd
      exact ⟨c, hc, h.proposal hp⟩
    · exact ⟨d, (h.others hk).symm.trans hd, hp⟩

/-- Accounts of consecutive steps add up, when the second one is about other cards, whose
proposals were there already. -/
lemma append (h : Accounts again s s' made) (h' : Accounts again s' s'' made')
    (hback : ∀ e ∈ made', ∃ c, s.items[e.card]? = some c ∧ c.proposal = some e.proposal)
    (honce : ∀ e ∈ made, ∀ e' ∈ made', e.card ≠ e'.card) :
    Accounts again s s'' (made ++ made') := by
  have hnew : ∀ e ∈ made', ∀ z ∈ e.created, s'.items[z.2]? = none := fun e he z hz =>
    ((h'.created z.2).2 ⟨e, he, z, hz, rfl⟩).1
  have hgone : ∀ k : ItemId, s''.items[k]? = none → s'.items[k]? = none := by
    intro k hk
    cases hi : s'.items[k]? with
    | none => rfl
    | some i =>
      obtain ⟨i', hi', -⟩ := h'.kept k i hi
      rw [hk] at hi'
      cases hi'
  constructor
  case rows =>
    intro e he
    exact (List.mem_append.1 he).elim (h.rows e) (h'.rows e)
  case proposed =>
    intro e he
    exact (List.mem_append.1 he).elim (h.proposed e) (hback e)
  case waited =>
    intro e he
    exact (List.mem_append.1 he).elim (h.waited e) (h'.waited e)
  case spent =>
    intro e he
    rcases List.mem_append.1 he with he | he
    · exact h'.stays (h.spent e he)
    · exact h'.spent e he
  case once =>
    rw [List.map_append, List.nodup_append]
    refine ⟨h.once, h'.once, fun k hk k' hk' => ?_⟩
    rintro rfl
    obtain ⟨e, he, rfl⟩ := List.mem_map.1 hk
    obtain ⟨e', he', heq⟩ := List.mem_map.1 hk'
    exact honce e he e' he' heq.symm
  case tasks =>
    intro e he z hz
    rcases List.mem_append.1 he with he | he
    · obtain ⟨i, hi, htexts⟩ := h.tasks e he z hz
      obtain ⟨i', hi', htexts'⟩ := h'.kept z.2 i hi
      exact ⟨i', hi', htexts'.trans htexts⟩
    · exact h'.tasks e he z hz
  case created =>
    intro k
    constructor
    · rintro ⟨hnone, hsome⟩
      by_cases hk : s'.items[k]? = none
      · obtain ⟨e, he, hz⟩ := (h'.created k).1 ⟨hk, hsome⟩
        exact ⟨e, List.mem_append_right _ he, hz⟩
      · obtain ⟨e, he, hz⟩ := (h.created k).1 ⟨hnone, hk⟩
        exact ⟨e, List.mem_append_left _ he, hz⟩
    · rintro ⟨e, he, z, hz, rfl⟩
      rcases List.mem_append.1 he with he | he
      · obtain ⟨hnone, hsome⟩ := (h.created z.2).2 ⟨e, he, z, hz, rfl⟩
        exact ⟨hnone, fun hk => hsome (hgone _ hk)⟩
      · obtain ⟨hnone, hsome⟩ := (h'.created z.2).2 ⟨e, he, z, hz, rfl⟩
        refine ⟨?_, hsome⟩
        cases hi : s.items[z.2]? with
        | none => rfl
        | some i =>
          obtain ⟨i', hi', -⟩ := h.kept z.2 i hi
          rw [hnone] at hi'
          cases hi'
  case distinct =>
    rw [List.flatMap_append, List.map_append, List.nodup_append]
    refine ⟨h.distinct, h'.distinct, fun k hk k' hk' => ?_⟩
    rintro rfl
    obtain ⟨z, hz, rfl⟩ := List.mem_map.1 hk
    obtain ⟨e, he, hze⟩ := List.mem_flatMap.1 hz
    obtain ⟨z', hz', heq⟩ := List.mem_map.1 hk'
    obtain ⟨e', he', hze'⟩ := List.mem_flatMap.1 hz'
    obtain ⟨i, hi, -⟩ := h.tasks e he z hze
    rw [← heq, hnew e' he' z' hze'] at hi
    cases hi
  case kept =>
    intro k i hi
    obtain ⟨i', hi', htexts⟩ := h.kept k i hi
    obtain ⟨i'', hi'', htexts'⟩ := h'.kept k i' hi'
    exact ⟨i'', hi'', htexts'.trans htexts⟩
  case waiting =>
    intro k c p hc hp hwaits
    obtain ⟨c', hc', hp'⟩ := h'.waiting k c p hc hp hwaits
    exact h.waiting k c' p hc' hp' hwaits
  case linked =>
    intro k i i'' hi hi'' hne
    obtain ⟨i', hi', htexts⟩ := h.kept k i hi
    by_cases hsame : i'.blockedBy = i.blockedBy
    · obtain ⟨e, he, row, hrow, htitle⟩ := h'.linked k i' i'' hi' hi'' (hsame ▸ hne)
      have hsametitle : i'.title = i.title := congrArg Prod.fst htexts
      exact ⟨e, List.mem_append_right _ he, row, hrow, hsametitle ▸ htitle⟩
    · obtain ⟨e, he, hrow⟩ := h.linked k i i' hi hi' hsame
      exact ⟨e, List.mem_append_left _ he, hrow⟩

/-- Accounts add up when all entries waited. -/
lemma trans (h : Accounts (fun _ => False) s s' made)
    (h' : Accounts (fun _ => False) s' s'' made') :
    Accounts (fun _ => False) s s'' (made ++ made') := by
  have hwaited : ∀ e ∈ made', ∃ c, s'.items[e.card]? = some c ∧ c.proposal = some e.proposal ∧
      e.proposal.Waits := by
    intro e he
    obtain ⟨c, hc, hp⟩ := h'.proposed e he
    exact ⟨c, hc, hp, (h'.waited e he).resolve_left fun hfalse => hfalse⟩
  refine h.append h' (fun e he => ?_) fun e he e' he' heq => ?_
  · obtain ⟨c, hc, hp, hwaits⟩ := hwaited e he
    exact h.waiting e.card c e.proposal hc hp hwaits
  · obtain ⟨c, hc, hp, hwaits⟩ := hwaited e' he'
    exact h.spent e he c e'.proposal (heq ▸ hc) hp hwaits

/-- Stories do not matter. -/
lemma same (h : Accounts again s s' made) (hsame : SameCards s' s'') :
    Accounts again s s'' made := by
  have happend := h.append (of_same hsame) (fun _ he => nomatch he) fun _ _ _ he => nomatch he
  rwa [List.append_nil] at happend

end Accounts

namespace Board

variable {s s' s₁ : BoardState} {id projectId : ItemId} {c : WorkItem} {p : TaskProposal}
  {byWhom : String} {origin : Origin} {ids : List ItemId}

/-- The rows that got a new Task. -/
def newRows (existing : List (String × WorkItem)) (rows : List PlanTaskSpec)
    (ids : List ItemId) : List (PlanTaskSpec × ItemId) :=
  (rows.zip ids).filter fun z => (existing.lookup (normalizeTitle z.1.title)).isNone

lemma mem_newRows {existing : List (String × WorkItem)} {rows : List PlanTaskSpec}
    {z : PlanTaskSpec × ItemId} :
    z ∈ newRows existing rows ids ↔ z ∈ rows.zip ids ∧ IsNew existing z.1 := by
  rw [newRows, List.mem_filter, Option.isNone_iff_eq_none, IsNew]

omit [UnicodeTables] in
/-- A settled card has no proposal with a row that waits. -/
lemma settled_not_waits (hlength : ids.length = p.tasks.length) (hp : c.proposal = some p)
    (keep : Bool) {q : TaskProposal}
    (hq : (settled keep (rowKeys p.tasks ids) c).proposal = some q) : ¬q.Waits := by
  cases keep with
  | false => cases hq
  | true =>
    change c.proposal.map _ = some q at hq
    rw [hp, Option.map_some, Option.some.injEq] at hq
    subst hq
    rintro ⟨t, ht, hnone⟩
    obtain ⟨spec, hspec, rfl⟩ := List.mem_map.1 ht
    have hknown := lookup_rowKeys_ne_none hlength hspec
    split at hnone
    · cases hnone
    · rename_i hlookup
      exact hknown hlookup

end Board

namespace Accounts

variable {again : ItemId → Prop} {s s' : BoardState} {id projectId : ItemId} {c : WorkItem}
  {p : TaskProposal} {byWhom : String} {origin : Origin} {ids : List ItemId}

omit [UnicodeTables] in
lemma texts_materialized (keep : Bool) (keyToId : List (String × ItemId))
    (rows : List PlanTaskSpec) (id k : ItemId) (i : WorkItem) :
    (Board.materialized keep keyToId rows id k i).texts = i.texts := by
  obtain ⟨blockers, proposal, heq⟩ := Board.materialized_eq keep keyToId rows id k i
  rw [heq]
  rfl

/-- A materialization is one entry. -/
lemma of_materializes (hs : s.WellFormed) (hc : s.items[id]? = some c)
    (hp : c.proposal = some p) (hwaits : again id ∨ p.Waits)
    (h : Board.Materializes id c p projectId byWhom origin ids s s') :
    Accounts again s s'
      [⟨id, p, Board.newRows (Board.existingByTitle projectId id s) p.tasks ids⟩] := by
  obtain ⟨s₂, hplanted, rfl⟩ := h
  set existing := Board.existingByTitle projectId id s with hexisting
  have hlength := hplanted.length_eq
  have hitem : s₂.items[id]? = some c := hplanted.kept hs hc
  have hitems := Board.items_materialized c.isInitialPlanTask (Board.rowKeys p.tasks ids) p.tasks
    s₂ id
  set s' := (p.tasks.foldl (Board.linked (Board.rowKeys p.tasks ids)) s₂).editItem id
    (Board.settled c.isInitialPlanTask (Board.rowKeys p.tasks ids))
  have hnew : ∀ z ∈ Board.newRows existing p.tasks ids, s.items[z.2]? = none ∧
      ∃ i, s₂.items[z.2]? = some i ∧ i.texts = z.1.texts := by
    intro z hz
    obtain ⟨hz, hnew⟩ := Board.mem_newRows.1 hz
    rcases hplanted.row hs hz with ⟨sibling, hlive, -⟩ | ⟨-, hfresh, schema, t, htask⟩
    · rw [Board.IsNew, hlive] at hnew
      cases hnew
    · exact ⟨hfresh, _, htask, rfl⟩
  have hspent : s'.Spent id := by
    intro c' q hc' hq
    rw [hitems, hitem, Option.map_some, Board.materialized, if_pos rfl, Option.some.injEq] at hc'
    obtain ⟨blockers, hblockers⟩ := Board.relinked_eq (Board.rowKeys p.tasks ids) p.tasks id c
    rw [← hc', hblockers] at hq
    exact Board.settled_not_waits (c := c.blockedOn blockers) hlength hp _ hq
  constructor
  case rows =>
    intro e he
    rw [List.mem_singleton.1 he]
    have hsub : ((Board.newRows existing p.tasks ids).map Prod.fst).Sublist
        ((p.tasks.zip ids).map Prod.fst) := List.filter_sublist.map _
    rwa [List.map_fst_zip hlength.ge] at hsub
  case proposed =>
    intro e he
    rw [List.mem_singleton.1 he]
    exact ⟨c, hc, hp⟩
  case waited =>
    intro e he
    rw [List.mem_singleton.1 he]
    exact hwaits
  case spent =>
    intro e he
    rw [List.mem_singleton.1 he]
    exact hspent
  case once => exact List.nodup_singleton _
  case tasks =>
    intro e he z hz
    rw [List.mem_singleton.1 he] at hz
    obtain ⟨-, i, hi, htexts⟩ := hnew z hz
    exact ⟨_, by rw [hitems, hi, Option.map_some], (texts_materialized ..).trans htexts⟩
  case created =>
    intro k
    rw [hitems]
    constructor
    · rintro ⟨hnone, hsome⟩
      have hplant : s₂.items[k]? ≠ none := fun h => hsome (by rw [h, Option.map_none])
      obtain ⟨i, hi⟩ := Option.ne_none_iff_exists'.1 hplant
      rcases hplanted.born hi with hold | ⟨spec, schema, t, hz, hfresh, -⟩
      · rw [hnone] at hold
        cases hold
      · exact ⟨_, List.mem_singleton_self _, (spec, k), Board.mem_newRows.2 ⟨hz, hfresh⟩, rfl⟩
    · rintro ⟨e, he, z, hz, rfl⟩
      rw [List.mem_singleton.1 he] at hz
      obtain ⟨hnone, i, hi, -⟩ := hnew z hz
      exact ⟨hnone, by rw [hi, Option.map_some]; exact Option.some_ne_none _⟩
  case distinct =>
    rw [List.flatMap_singleton]
    refine List.pairwise_map.2 (List.pairwise_filter.2 ((hplanted.distinct hs).imp ?_))
    intro z z' hne hz hz'
    exact hne (Option.isNone_iff_eq_none.1 hz) (Option.isNone_iff_eq_none.1 hz')
  case kept =>
    intro k i hi
    exact ⟨_, by rw [hitems, hplanted.kept hs hi, Option.map_some], texts_materialized ..⟩
  case waiting =>
    intro k d q hd hq hopen
    by_cases hk : k = id
    · subst hk
      exact absurd hopen (hspent d q hd hq)
    · rw [hitems] at hd
      obtain ⟨i, hi, rfl⟩ := Option.map_eq_some_iff.1 hd
      obtain ⟨blockers, hblockers⟩ := Board.relinked_eq (Board.rowKeys p.tasks ids) p.tasks k i
      rw [Board.materialized, if_neg hk, hblockers] at hq
      rcases hplanted.born hi with hold | ⟨spec, schema, t, -, -, rfl⟩
      · exact ⟨i, hold, hq⟩
      · cases hq
  case linked =>
    intro k i i' hi hi' hne
    rw [hitems, hplanted.kept hs hi, Option.map_some, Option.some.injEq] at hi'
    have hk : k ∈ ids := by
      by_contra hk
      exact hne (hi' ▸ Board.materialized_blockedBy hk i)
    obtain ⟨n, hn, rfl⟩ := List.mem_iff_getElem.1 hk
    have hn' : n < p.tasks.length := hlength ▸ hn
    have hrow : (p.tasks[n], ids[n]) ∈ p.tasks.zip ids := by
      refine List.mem_iff_getElem.2 ⟨n, ?_, List.getElem_zip⟩
      rw [List.length_zip, lt_min_iff]
      exact ⟨hlength ▸ hn, hn⟩
    rcases hplanted.row hs hrow with ⟨sibling, hlive, -, -, hsibling, -⟩ | ⟨-, hfresh, -⟩
    · rw [hi, Option.some.injEq] at hsibling
      obtain ⟨-, -, -, -, htitle⟩ := Board.lookup_existingByTitle hs hlive
      exact ⟨_, List.mem_singleton_self _, _, List.getElem_mem (hlength ▸ hn),
        hsibling ▸ htitle.symm⟩
    · rw [hi] at hfresh
      cases hfresh

end Accounts

/-! ## Steps -/

namespace Accounts

variable {again again' : ItemId → Prop} {s s' s₀ : BoardState} {made : List Materialization}
  {id : ItemId}

/-- Only the cards with an entry matter. -/
lemma mono (h : Accounts again s s' made) (hagain : ∀ k, again k → again' k) :
    Accounts again' s s' made :=
  { h with waited := fun e he => (h.waited e he).imp_left (hagain e.card) }

/-- An approval of a card is one entry at most. -/
lemma of_approval (hs : s.Sound) (h : Approval id False s s') :
    ∃ made, Accounts (fun _ => False) s s' made := by
  cases h with
  | refused hsame => exact ⟨[], of_same hsame⟩
  | idle hc hworked hsame _ => exact ⟨[], (of_worked hc hworked).same hsame⟩
  | made hc hworked _ hproposal _ hwaits hmade hsame =>
    have hs' := hs.wellFormed.reshaped (hworked.reshaped hc)
    have hentry : Accounts (fun _ => False) _ _ _ :=
      of_materializes hs' (hworked.item hc) hproposal hwaits hmade
    exact ⟨_, ((of_worked hc hworked).trans hentry).same hsame⟩

end Accounts

/-- The operation may take cards to Done. -/
def Operation.Finishes : Operation → Prop
  | .transition _ target _ _ => target = .done
  | .approveReview _ _ | .approvePlan _ _ | .completeForMergedPr _ _ _
  | .materializePendingProposal _ | .healCompletedEpics | .unarchiveScope _ _ _ => True
  | _ => False

/-- The call materializes the rows of a card that is Done although they have their Tasks. -/
def BoardState.Repeats (s : BoardState) (op : Operation) (id : ItemId) : Prop :=
  op = .materializePendingProposal id ∧ ∃ c p, s.items[id]? = some c ∧ c.state = .done ∧
    c.proposal = some p ∧ p.tasks ≠ [] ∧ ¬p.Waits

/-- The operation stores a proposal on the card `id`. -/
def BoardState.Stores (s : BoardState) (id : ItemId) : Operation → Prop
  | .setProposal k _ => k = id
  | .proposePlan k _ _ => s.planCard k = some id
  | .proposeSplit k _ _ _ => k = id
  | _ => False

namespace Board

variable {b : Board} {s₀ : BoardState} {op : Operation} {id : ItemId}

/-- The way from `s₀` to the board is accounted for. -/
structure Accounted (s₀ : BoardState) (b : Board) : Prop where
  nested : b.state.Nested
  account : ∃ made, Accounts (fun _ => False) s₀ b.state made

lemma Accounted.refl (hn : b.state.Nested) : Accounted b.state b :=
  ⟨hn, [], .of_same (.refl _)⟩

lemma Accounted.step {b' : Board} (h : Accounted s₀ b) (hn : b'.state.Nested)
    (haccount : ∃ made, Accounts (fun _ => False) b.state b'.state made) : Accounted s₀ b' := by
  obtain ⟨made, hmade⟩ := h.account
  obtain ⟨made', hmade'⟩ := haccount
  exact ⟨hn, _, hmade.trans hmade'⟩

/-- Every transition is accounted for. -/
lemma sustains_transition_accounted (id : ItemId) (target : State) (byWhom : String)
    (reason : Option String) :
    Sustains (Accounted s₀) (transition id target byWhom reason) := by
  refine sustains_of_run fun b hs h => ?_
  let b' := ((transition id target byWhom reason).run b).2
  obtain ⟨hs', hn'⟩ : b'.state.Sound ∧ b'.state.Nested :=
    lasting_nested.transition byWhom reason (fun _ _ _ => trivial) (fun _ => trivial) hs h.nested
  refine ⟨hs', h.step hn' ?_⟩
  by_cases htarget : target = .done
  · subst htarget
    exact Accounts.of_approval hs (approval_transition hs h.nested id byWhom reason)
  · rcases run_transition_idle hs h.nested id target byWhom reason
      (fun _ _ hdone => absurd hdone htarget) with hsame | ⟨c, hc, hcheck, hsame⟩
    · exact ⟨[], .of_same hsame⟩
    · have hworked : Worked Licence.free id b.state c _ _ :=
        .move (.refl _ _) (b.now 0) byWhom reason hcheck trivial
      exact ⟨[], (Accounts.of_worked hc hworked).same hsame⟩

lemma sustains_editQuietly_accounted {ε : Type} (id : ItemId) {f : Time → WorkItem → WorkItem}
    (hf : ∀ now i, WorkItem.SameTask i (f now i)) :
    Sustains (Accounted s₀) (editQuietly id f : Method ε Unit) := by
  refine sustains_of_structural (structural_editQuietly fun now i => (hf now i).sameFrame)
    fun b hs h => ?_
  change Accounted s₀ (b.stepped (b.state.editItem id (f (b.now 0))))
  refine h.step ?_ ?_
  · exact h.nested.of_place (place_editItem fun i =>
      ⟨congrArg Contract.parent (hf (b.now 0) i).contract,
        congrArg Contract.level (hf (b.now 0) i).contract⟩)
  · cases hc : b.state.items[id]? with
    | none =>
      change ∃ made, Accounts _ b.state (b.state.editItem id (f (b.now 0))) made
      rw [editItem_of_none hc]
      exact ⟨[], .of_same (.refl _)⟩
    | some c =>
      exact ⟨[], .of_worked (L := Licence.free) hc (.edit (.refl _ _) (hf (b.now 0)))⟩

lemma sustains_story_accounted {ε : Type} (near : ItemId) (text : String) :
    Sustains (Accounted s₀) (story near text : Method ε Unit) :=
  sustains_of_structural (structural_story near text) fun b _ h =>
    h.step (h.nested.of_place rfl) ⟨[], .of_same (.told b near text)⟩

/-- A call that may take cards to Done is accounted for. -/
lemma accounts_exec (hs : b.state.Sound) (hn : b.state.Nested) (h : op.Finishes) :
    ∃ made, Accounts (b.state.Repeats op) b.state (b.exec op).state made := by
  have happroving : ∀ {op : Operation}, Approving op →
      (∀ k, op ≠ .materializePendingProposal k) →
        ∃ made, Accounts (b.state.Repeats op) b.state (b.exec op).state made := by
    intro op h hnot
    rcases approves_or_same h b with ⟨id, hid⟩ | hsame
    · have happroval := approval_exec hs hn hid
      rw [eq_false (hnot id)] at happroval
      obtain ⟨made, hmade⟩ := Accounts.of_approval hs happroval
      exact ⟨made, hmade.mono fun _ hfalse => hfalse.elim⟩
    · exact ⟨[], .of_same hsame⟩
  cases op with
  | transition id target byWhom reason =>
    change target = .done at h
    subst h
    exact happroving (.transition id byWhom reason) fun _ => nofun
  | approveReview fuel id => exact happroving (.approveReview fuel id) fun _ => nofun
  | approvePlan fuel id => exact happroving (.approvePlan fuel id) fun _ => nofun
  | completeForMergedPr prUrl prNumber byWhom =>
    exact happroving (.completeForMergedPr prUrl prNumber byWhom) fun _ => nofun
  | materializePendingProposal id =>
    rw [exec_state (m := Board.materializePendingProposal id) rfl]
    rcases materializePendingProposal_cases hs hn id with
      hsame | ⟨c, p, projectId, ids, s', hc, hdone, hp, hrows, -, hmat, hsame⟩
    · exact ⟨[], .of_same hsame⟩
    · have hwaits : b.state.Repeats (.materializePendingProposal id) id ∨ p.Waits := by
        by_cases hwaits : p.Waits
        · exact Or.inr hwaits
        · exact Or.inl ⟨rfl, c, p, hc, hdone, hp, hrows, hwaits⟩
      exact ⟨_, (Accounts.of_materializes hs.wellFormed hc hp hwaits hmat).same hsame⟩
  | healCompletedEpics =>
    rw [exec_state (m := (Board.healCompletedEpics : Method Empty ℕ)) rfl]
    have hmethod : Sustains (Accounted b.state) (Board.healCompletedEpics : Method Empty ℕ) :=
      sustains_healCompletedEpics_of fun pid target reason _ _ =>
        sustains_transition_accounted pid target _ reason
    obtain ⟨made, hmade⟩ := (hmethod.keeps.run ⟨hs, .refl hn⟩).2.account
    exact ⟨made, hmade.mono fun _ hfalse => hfalse.elim⟩
  | unarchiveScope fuel id reason =>
    rw [exec_state (m := Board.unarchiveScope fuel id reason) rfl]
    have hmethod : Sustains (Accounted b.state) (Board.unarchiveScope fuel id reason) :=
      sustains_unarchiveScope_of (fun cur target reason _ _ =>
          sustains_transition_accounted cur target _ reason)
        (fun cur => sustains_editQuietly_accounted cur fun _ _ => ⟨rfl, Or.inl rfl, fun h => h⟩)
        sustains_story_accounted fuel id reason
    obtain ⟨made, hmade⟩ := (hmethod.keeps.run ⟨hs, .refl hn⟩).2.account
    exact ⟨made, hmade.mono fun _ hfalse => hfalse.elim⟩
  | _ => exact h.elim

end Board

/-! ## Cards that are spent -/

omit [UnicodeTables] in
/-- What may be written without storing a proposal. -/
def Licence.unproposing : Licence where
  proposes _ := False
  approves := False
  defines _ := True
  moves _ _ _ _ := True
  links _ _ _ := True
  rewrites _ _ _ f := ∃ title intent definitionOfDone engine projectPrompt,
    f = Board.updated title intent definitionOfDone engine projectPrompt

omit [UnicodeTables] in
lemma BoardState.spent_iff {s : BoardState} {id : ItemId} :
    s.Spent id ↔ s.ProposalsAt fun k p => k = id → ¬p.Waits := by
  constructor
  · rintro h k c p hc hp rfl
    exact h c p hc hp
  · intro h c p hc hp
    exact h id c p hc hp rfl

/-- Without new proposals the cards keep theirs or lose them. -/
lemma lasting_proposalsAt (P : ItemId → TaskProposal → Prop) :
    Lasting Licence.unproposing fun s => s.ProposalsAt P where
  aside hitems _ _ _ h := h.of_items hitems
  work _ h _ hworked := h.work hworked
  insert schema now _ h _ _ := h.insert schema now _
  propose _ _ _ hp := hp.elim
  settle _ _ happroves := happroves.elim
  link _ h _ _ := h.edit_of_same _ fun _ => rfl
  rewrite _ h _ hf := by
    obtain ⟨title, intent, dod, engine, projectPrompt, rfl⟩ := hf
    exact h.edit_of_same _ fun _ => rfl
  proposed happroves := happroves.elim
  resolved happroves := happroves.elim
  rows hp := hp.elim
  defined _ := trivial
  undefined := trivial
  moves _ _ := trivial
  promotes _ := trivial

namespace Board

variable {b : Board} {op : Operation} {id k : ItemId}

omit [UnicodeTables] in
/-- A stored proposal is an edit of its card. -/
lemma run_setProposal_state (k : ItemId) (p : TaskProposal) (b : Board) :
    ((setProposal k p).run b).2.state = b.state ∨
      ((setProposal k p).run b).2.state = b.state.editItem k (WorkItem.withProposal p) := by
  cases hcheck : checkProposal p with
  | error e =>
    rw [run_setProposal_error hcheck]
    exact Or.inl rfl
  | ok u =>
    cases hc : b.state.items[k]? with
    | none => exact Or.inl (by simp [setProposal, hcheck, hc])
    | some c =>
      by_cases hfrozen : c.isInitialPlanTask = true ∧ (c.state = .done ∨ c.state = .retired)
      · exact Or.inl (by simp [setProposal, hcheck, hc, hfrozen])
      · exact Or.inr (by simp [setProposal, hcheck, hc, hfrozen])

omit [UnicodeTables] in
lemma sustains_setProposal_other (hk : k ≠ id) (p : TaskProposal) :
    Sustains (fun b => b.state.ProposalsAt fun k p => k = id → ¬p.Waits) (setProposal k p) := by
  refine sustains_of_structural (structural_setProposal k p) fun b _ h => ?_
  rcases run_setProposal_state k p b with hsame | hedit
  · rw [hsame]
    exact h
  · rw [hedit]
    exact h.propose k fun hid => absurd hid hk

/-- A card that waits for no Tasks waits for none after a step that stores no proposal on it. -/
lemma spent_exec (hs : b.state.Sound) (hn : b.state.Nested) (h : b.state.Spent id)
    (hstores : ¬b.state.Stores id op) : (b.exec op).state.Spent id := by
  by_cases hfinishes : op.Finishes
  · obtain ⟨made, hmade⟩ := accounts_exec hs hn hfinishes
    exact hmade.stays h
  rw [spent_iff] at h ⊢
  have K := lasting_proposalsAt fun k p => k = id → ¬p.Waits
  have hexec : Licence.unproposing.Permits b.state op →
      (b.exec op).state.ProposalsAt fun k p => k = id → ¬p.Waits := by
    intro hpermits
    refine K.hush.keeps_exec hs h hpermits (fun fuel id reason hop => ?_) fun k hop => ?_
    · subst hop
      exact K.exec_cutScope (fun _ _ _ => trivial) fuel id reason hs h
    · subst hop
      rw [exec_deleteItem_state]
      exact h.delete hs.wellFormed hn k
  cases op with
  | setProposal k p =>
    rw [exec_state (m := Board.setProposal k p) rfl]
    exact ((sustains_setProposal_other hstores p).keeps.run ⟨hs, h⟩).2
  | proposeSplit k agentId children maxChildren =>
    rw [exec_state (m := Board.proposeSplit k agentId children maxChildren) rfl]
    exact ((sustains_proposeSplit_of K.hush fun _ =>
      sustains_setProposal_other hstores _).keeps.run ⟨hs, h⟩).2
  | proposePlan k summary tasks =>
    rw [exec_state (m := Board.proposePlan k summary tasks) rfl, proposePlan]
    cases hcheck : checkPlan tasks with
    | error e =>
      rw [Locked.run_bind_error (run_ret _ b)]
      exact h
    | ok u =>
      rw [Locked.run_bind_ok (run_ret _ b)]
      rcases run_resolveInitialPlanId k b with ⟨e, hrun⟩ | ⟨seedId, hrun, hcard⟩
      · rw [Locked.run_bind_error hrun]
        exact h
      · rw [Locked.run_bind_ok hrun]
        have hother : seedId ≠ id := by
          rintro rfl
          exact hstores hcard
        refine ((sustains_bind (sustains_getOr seedId _) fun seed =>
          sustains_bind (sustains_failIf _ _) fun _ =>
            sustains_bind (sustains_setProposal_other hother _) fun _ =>
              sustains_bind (sustains_story K.hush.toUpkeep _ _) fun _ =>
                sustains_pure _).keeps.run ⟨hs, h⟩).2
  | create | createTask | setBlockedBy => exact hexec (by simp [Licence.Permits, Licence.unproposing])
  | updateItem k title intent dod engine projectPrompt =>
    exact hexec fun _ _ => ⟨title, intent, dod, engine, projectPrompt, rfl⟩
  | transition k target byWhom reason =>
    exact hexec ⟨fun _ _ _ => trivial, fun hdone => hfinishes hdone⟩
  | approveReview | approvePlan | completeForMergedPr | materializePendingProposal
  | healCompletedEpics | unarchiveScope => exact absurd trivial hfinishes
  | _ => exact hexec trivial

/-! ## Runs -/

/-- The materializations of a run, step by step. -/
inductive Ledger : Board → List Operation → List Materialization → Prop where
  | nil (b : Board) : Ledger b [] []
  /-- A call that may take cards to Done is accounted for. -/
  | account {b : Board} {op : Operation} {ops : List Operation} {made made' : List Materialization}
      (hfinishes : op.Finishes)
      (haccount : Accounts (b.state.Repeats op) b.state (b.exec op).state made)
      (hrest : Ledger (b.exec op) ops made') : Ledger b (op :: ops) (made ++ made')
  | other {b : Board} {op : Operation} {ops : List Operation} {made : List Materialization}
      (hfinishes : ¬op.Finishes) (hrest : Ledger (b.exec op) ops made) : Ledger b (op :: ops) made

lemma exists_ledger (hs : b.state.Sound) (hn : b.state.Nested) (ops : List Operation) :
    ∃ made, Ledger b ops made := by
  induction ops generalizing b with
  | nil => exact ⟨[], .nil b⟩
  | cons op ops ih =>
    obtain ⟨made', hrest⟩ := ih (hs.reshaped (reshaped_exec b op)) (nested_after hs hn [op])
    by_cases hfinishes : op.Finishes
    · obtain ⟨made, hmade⟩ := accounts_exec hs hn hfinishes
      exact ⟨_, .account hfinishes hmade hrest⟩
    · exact ⟨_, .other hfinishes hrest⟩

/-- No proposal is stored on the card `id`, and its proposal is not materialized once more. -/
def Unrepeated (id : ItemId) (op : Operation) (s : BoardState) : Prop :=
  ¬s.Stores id op ∧ ¬s.Repeats op id

/-- The entries of a step of a card whose rows have their Tasks. -/
lemma not_mem_of_spent {s s' : BoardState} {made : List Materialization}
    (h : Accounts (s.Repeats op) s s' made) (hspent : s.Spent id) (hrepeats : ¬s.Repeats op id) :
    ∀ e ∈ made, e.card ≠ id := by
  rintro e he rfl
  obtain ⟨c, hc, hp⟩ := h.proposed e he
  exact hspent c e.proposal hc hp ((h.waited e he).resolve_left hrepeats)

/-- A card whose rows have their Tasks gets no entry. -/
lemma Ledger.not_mem_of_spent {ops : List Operation} {made : List Materialization}
    (h : Ledger b ops made) (hs : b.state.Sound) (hn : b.state.Nested) (hspent : b.state.Spent id)
    (hmeets : Meets (Unrepeated id) b ops) : ∀ e ∈ made, e.card ≠ id := by
  induction h with
  | nil => exact nofun
  | @account b op ops made made' hfinishes haccount hrest ih =>
    intro e he
    rcases List.mem_append.1 he with he | he
    · exact Board.not_mem_of_spent haccount hspent hmeets.1.2 e he
    · exact ih (hs.reshaped (reshaped_exec b op)) (nested_after hs hn [op])
        (haccount.stays hspent) hmeets.2 e he
  | @other b op ops made hfinishes hrest ih =>
    exact ih (hs.reshaped (reshaped_exec b op)) (nested_after hs hn [op])
      (spent_exec hs hn hspent hmeets.1.1) hmeets.2

/-- A card has one entry at most. -/
lemma Ledger.count_le_one {ops : List Operation} {made : List Materialization}
    (h : Ledger b ops made) (hs : b.state.Sound) (hn : b.state.Nested)
    (hmeets : Meets (Unrepeated id) b ops) : (made.map Materialization.card).count id ≤ 1 := by
  induction h with
  | nil => exact Nat.zero_le 1
  | @account b op ops made made' hfinishes haccount hrest ih =>
    have hs' := hs.reshaped (reshaped_exec b op)
    have hn' : (b.exec op).state.Nested := nested_after hs hn [op]
    have honce := List.nodup_iff_count_le_one.1 haccount.once id
    rw [List.map_append, List.count_append]
    by_cases hmade : ∃ e ∈ made, e.card = id
    · obtain ⟨e, he, hid⟩ := hmade
      have hrest' := hrest.not_mem_of_spent hs' hn' (hid ▸ haccount.spent e he) hmeets.2
      have hnone : (made'.map Materialization.card).count id = 0 := by
        refine List.count_eq_zero.2 fun hmem => ?_
        obtain ⟨e', he', heq⟩ := List.mem_map.1 hmem
        exact hrest' e' he' heq
      rw [hnone]
      exact honce
    · have hnone : (made.map Materialization.card).count id = 0 := by
        refine List.count_eq_zero.2 fun hmem => ?_
        obtain ⟨e, he, heq⟩ := List.mem_map.1 hmem
        exact hmade ⟨e, he, heq⟩
      rw [hnone, Nat.zero_add]
      exact ih hs' hn' hmeets.2
  | @other b op ops made hfinishes hrest ih =>
    exact ih (hs.reshaped (reshaped_exec b op)) (nested_after hs hn [op]) hmeets.2

/-- A card whose rows have their Tasks keeps them over a run. -/
lemma spent_after {ops : List Operation} (hs : b.state.Sound) (hn : b.state.Nested)
    (h : b.state.Spent id) (hmeets : Meets (Unrepeated id) b ops) :
    (b.after ops).state.Spent id := by
  induction ops generalizing b with
  | nil => exact h
  | cons op ops ih =>
    exact ih (hs.reshaped (reshaped_exec b op)) (nested_after hs hn [op])
      (spent_exec hs hn h hmeets.1.1) hmeets.2

/-- The approval of a card whose rows have their Tasks changes this card only. -/
lemma others_of_spent (hs : b.state.Sound) (hn : b.state.Nested) (h : b.state.Spent id)
    (hrepeats : ¬b.state.Repeats op id) (hop : Approves b.state id op) {k : ItemId} (hk : k ≠ id) :
    (b.exec op).state.items[k]? = b.state.items[k]? := by
  by_cases hheal : op = .materializePendingProposal id
  · subst hheal
    rw [exec_state (m := Board.materializePendingProposal id) rfl]
    rcases materializePendingProposal_cases hs hn id with
      hsame | ⟨c, p, projectId, ids, s', hc, hdone, hp, hrows, -, -, -⟩
    · rw [hsame.items]
    · exact absurd ⟨rfl, c, p, hc, hdone, hp, hrows, h c p hc hp⟩ hrepeats
  · cases approval_exec hs hn hop with
    | refused hsame => rw [hsame.items]
    | idle hc hworked hsame hidle => rw [hsame.items, hworked.others hk]
    | @made c c₀ s₀ s₁ p projectId byWhom ids hc hworked hdone hproposal hparent hwaits hmade
        hsame =>
      exact absurd (hwaits.resolve_left hheal) (h c p hc (hworked.proposal hproposal))

/-- Over every run from a reachable board without a new proposal on the card `id`, in which the
pending proposal of the card is not materialized once its rows have their Tasks: the proposal
becomes Tasks once at most, each row one Task; and a later approval of the card creates no card
and leaves every other card as it is. -/
theorem materialized_once (schema : Schema) (clock : ℕ → ℕ → Time) (saveSucceeds : ℕ → Bool)
    (before ops : List Operation) (id : ItemId)
    (hmeets : Meets (Unrepeated id) ((Board.new schema clock saveSucceeds).after before) ops) :
    let b := (Board.new schema clock saveSucceeds).after before
    (∃ made, Ledger b ops made) ∧
      (∀ made, Ledger b ops made → (made.map Materialization.card).count id ≤ 1) ∧
      ∀ first op rest, ops = first ++ op :: rest → (b.after first).state.Spent id →
        (b.after (first ++ [op])).state.Spent id ∧
          (Approves (b.after first).state id op → ∀ k : ItemId, k ≠ id →
            (b.after (first ++ [op])).state.items[k]? = (b.after first).state.items[k]?) := by
  intro b
  have hs : b.state.Sound := (sound_new _ _ _).reshaped (reshaped_after _ before)
  have hn : b.state.Nested := nested_after (sound_new _ _ _) Nested.empty before
  refine ⟨exists_ledger hs hn ops, fun made hmade => hmade.count_le_one hs hn hmeets, ?_⟩
  rintro first op rest rfl hspent
  obtain ⟨-, hstep, -⟩ := meets_append.1 hmeets
  have hs' : (b.after first).state.Sound := hs.reshaped (reshaped_after _ first)
  have hn' : (b.after first).state.Nested := nested_after hs hn first
  rw [after_append]
  exact ⟨spent_exec hs' hn' hspent hstep.1, fun hop k hk =>
    others_of_spent hs' hn' hspent hstep.2 hop hk⟩

end Board

end Unicode

namespace Board

/-- A run that stores a proposal of two rows on the Initial plan of a Project. -/
def planned : List Operation :=
  [.create ⟨none, "Docs", "", none, .human, false, none⟩,
    .setProposal 2 ⟨"", [⟨"a", "Guide", "", "written", [], none, none, none⟩,
      ⟨"b", "Index", "", "complete", ["a"], none, none, none⟩]⟩]

/-- The Initial plan is Done, reopened and Done again, with a new title of a Task in between. -/
def reopened : List Operation :=
  [.transition 2 .done "human" none, .transition 2 .review "human" none,
    .updateItem 3 (some "Manual") none none none none, .transition 2 .done "human" none]

set_option maxRecDepth 100000 in
/-- Done for the first time, the Initial plan has its Tasks. -/
lemma reopened_spent :
    let := asciiTables
    (((Board.new Schema.default (fun _ _ => 0) fun _ => true).after planned).after
      (reopened.take 3)).state.Spent 2 := by
  intro tables c p hc hp
  have hids : (((Board.new Schema.default (fun _ _ => 0) fun _ => true).after planned).after
      (reopened.take 3)).state.items[2]?.map (fun c =>
        c.proposal.map fun p => p.tasks.map PlanTaskSpec.itemId) =
          some (some [some 3, some 4]) := by decide
  rw [hc, Option.map_some, hp, Option.map_some, Option.some.injEq, Option.some.injEq] at hids
  rintro ⟨t, ht, hnone⟩
  have hmem : none ∈ p.tasks.map PlanTaskSpec.itemId := hnone ▸ List.mem_map_of_mem ht
  rw [hids] at hmem
  simp at hmem

/-- No step of the run stores a proposal or materializes one once more. -/
lemma reopened_unrepeated [UnicodeTables] (b : Board) : Meets (Unrepeated 2) b reopened :=
  ⟨⟨id, fun h => nomatch h.1⟩, ⟨id, fun h => nomatch h.1⟩, ⟨id, fun h => nomatch h.1⟩,
    ⟨id, fun h => nomatch h.1⟩, trivial⟩

/-- The theorem for this run: Done again, the Initial plan changes no other card. -/
theorem materialized_once_reopened :
    let := asciiTables
    let b := (Board.new Schema.default (fun _ _ => 0) fun _ => true).after planned
    (∀ made, Ledger b reopened made → (made.map Materialization.card).count 2 ≤ 1) ∧
      ∀ k : ItemId, k ≠ 2 →
        (b.after (reopened.take 3 ++ [.transition 2 .done "human" none])).state.items[k]? =
          (b.after (reopened.take 3)).state.items[k]? := by
  intro tables b
  have hsplit : reopened = reopened.take 3 ++ .transition 2 .done "human" none :: [] := rfl
  obtain ⟨-, honce, hagain⟩ := materialized_once Schema.default (fun _ _ => 0) (fun _ => true)
    planned reopened 2 (reopened_unrepeated _)
  have hb : b = (Board.new Schema.default (fun _ _ => 0) fun _ => true).after planned := rfl
  rw [hb]
  exact ⟨honce, (hagain _ _ [] hsplit reopened_spent).2 (.transition "human" none)⟩

/-- The Initial plan is Done; then one of its Tasks gets a new title, and the other one no
blockers any more. -/
def edited : List Operation :=
  planned ++ [.transition 2 .done "human" none, .updateItem 3 (some "Manual") none none none none,
    .setBlockedBy 4 []]

set_option maxRecDepth 100000 in
/-- The Tasks that the rows got. -/
lemma edited_tasks :
    let := asciiTables
    let b := (Board.new Schema.default (fun _ _ => 0) fun _ => true).after (edited.take 3)
    b.state.nextId = 5 ∧ b.state.items[3]?.map WorkItem.texts = some ("Guide", "", some "written") ∧
      b.state.items[4]?.map WorkItem.texts = some ("Index", "", some "complete") := by
  decide

set_option maxRecDepth 100000 in
/-- The pending proposal of the Initial plan is materialized once more: its first row gets a second
Task, and the edited blockers are written over. -/
theorem edited_duplicates :
    let := asciiTables
    let b := (Board.new Schema.default (fun _ _ => 0) fun _ => true).after edited
    let b' := b.exec (.materializePendingProposal 2)
    b.state.nextId = 5 ∧ b.state.items[4]?.map WorkItem.blockedBy = some [] ∧
      b'.state.items[3]?.map WorkItem.title = some "Manual" ∧
      b'.state.items[5]?.map WorkItem.texts = some ("Guide", "", some "written") ∧
      b'.state.items[4]?.map WorkItem.blockedBy = some [5] := by
  decide

end Board

end Sandboard

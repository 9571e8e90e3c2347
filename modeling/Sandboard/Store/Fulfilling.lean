import Sandboard.Store.Approving

/-!
# What an approval yields

The rows of an approved proposal and their Tasks.  A row whose title is that of a live sibling
stands for the sibling, any other row gets a new Task of the same Project; the edges follow the
keys of the rows.
-/

namespace Sandboard

open Std Text BoardState

section Unicode

variable [UnicodeTables]

/-- The live sibling of the card `id` that a row with the title stands for; of two, the later
one. -/
def BoardState.liveSibling (s : BoardState) (projectId id : ItemId) (title : String) :
    Option WorkItem :=
  (Board.existingByTitle projectId id s).lookup (Board.normalizeTitle title)

omit [UnicodeTables] in
/-- The Task of the row that a key names. -/
def PlanTaskSpec.taskOf (zs : List (PlanTaskSpec × ItemId)) (key : String) : Option ItemId :=
  (zs.find? fun z => z.1.key == key).map Prod.snd

/-- The rows of the proposal `p` of the card `id` became the Tasks `ids`, one for each row. -/
structure Fulfilled (s s' : BoardState) (id projectId : ItemId) (c : WorkItem) (p : TaskProposal)
    (ids : List ItemId) : Prop where
  length : ids.length = p.tasks.length
  /-- A row whose title is that of a live sibling stands for the sibling, whose blockers may
  change. -/
  reused : ∀ z ∈ p.tasks.zip ids, ∀ sibling, s.liveSibling projectId id z.1.title = some sibling →
    z.2 = sibling.id ∧ ∃ blockers, s'.items[z.2]? = some (sibling.blockedOn blockers)
  /-- Any other row gets a new Task with its texts. -/
  created : ∀ z ∈ p.tasks.zip ids, s.liveSibling projectId id z.1.title = none →
    s.items[z.2]? = none ∧ ∃ i, s'.items[z.2]? = some i ∧ i.parent = some projectId ∧
      i.state = .backlog ∧ i.title = z.1.title ∧ i.intent = z.1.intent ∧
        i.definitionOfDone = some z.1.definitionOfDone ∧
          i.capability = z.1.capability.or c.capability
  distinct : (p.tasks.zip ids).Pairwise fun z z' =>
    s.liveSibling projectId id z.1.title = none → s.liveSibling projectId id z'.1.title = none →
      z.2 ≠ z'.2
  /-- The Task of one row only is blocked by the Tasks of the rows that the row names; a row that
  names none leaves the blockers of its Task alone. -/
  edges : ∀ z ∈ p.tasks.zip ids, (∀ z' ∈ p.tasks.zip ids, z'.2 = z.2 → z' = z) →
    s'.items[z.2]?.map WorkItem.blockedBy =
      if z.1.blockedByKeys.filterMap (PlanTaskSpec.taskOf (p.tasks.zip ids)) = [] then
        some ((s.items[z.2]?.map WorkItem.blockedBy).getD [])
      else some (z.1.blockedByKeys.filterMap (PlanTaskSpec.taskOf (p.tasks.zip ids)))
  /-- An Initial plan keeps its rows, each with the id of its Task. -/
  stamped : s'.items[id]?.map WorkItem.proposal = some (if c.isInitialPlanTask then
    some { p with tasks := (p.tasks.zip ids).map fun z => { z.1 with itemId := some z.2 } }
    else none)
  /-- No other card is created or changed. -/
  others : ∀ k, k ≠ id → k ∉ ids → s'.items[k]? = s.items[k]?

namespace Board

variable {s s' : BoardState} {id projectId : ItemId} {c : WorkItem} {p : TaskProposal}
  {ids : List ItemId} {rows : List PlanTaskSpec}

/-! ## Keys -/

section Keys

omit [UnicodeTables]

/-- In a list of distinct keys an entry is found by its key. -/
lemma lookup_of_mem {α β : Type} [BEq α] [LawfulBEq α] {entries : List (α × β)}
    (hnodup : (entries.map Prod.fst).Nodup) {a : α} {b : β} (h : (a, b) ∈ entries) :
    entries.lookup a = some b := by
  induction entries with
  | nil => cases h
  | cons e entries ih =>
    rw [List.map_cons, List.nodup_cons] at hnodup
    rw [List.lookup_cons]
    rcases List.mem_cons.1 h with rfl | hmem
    · simp
    · have hne : (a == e.1) = false := by
        rw [beq_eq_false_iff_ne]
        rintro rfl
        exact hnodup.1 (List.mem_map.2 ⟨_, hmem, rfl⟩)
      rw [hne]
      exact ih hnodup.2 hmem

/-- The key of a row leads to its Task. -/
lemma lookup_rowKeys_of_mem (hlength : ids.length = rows.length)
    (hkeys : (rows.map PlanTaskSpec.key).Nodup) {z : PlanTaskSpec × ItemId}
    (hz : z ∈ rows.zip ids) : (rowKeys rows ids).lookup z.1.key = some z.2 := by
  refine lookup_of_mem ?_ ?_
  · rw [rowKeys, List.map_reverse, List.nodup_reverse, List.map_fst_zip (by simp [hlength])]
    exact hkeys
  · rw [rowKeys, List.mem_reverse, List.zip_map_left]
    exact List.mem_map.2 ⟨z, hz, rfl⟩

/-- A row has its Task. -/
lemma exists_mem_zip (hlength : ids.length = rows.length) {spec : PlanTaskSpec}
    (hspec : spec ∈ rows) : ∃ k, (spec, k) ∈ rows.zip ids := by
  obtain ⟨n, hn, rfl⟩ := List.mem_iff_getElem.1 hspec
  have hn' : n < ids.length := hlength ▸ hn
  refine ⟨ids[n], List.mem_iff_getElem.2 ⟨n, ?_, List.getElem_zip⟩⟩
  rw [List.length_zip, lt_min_iff]
  exact ⟨hn, hn'⟩

/-- A key names the same Task either way. -/
lemma taskOf_eq (hlength : ids.length = rows.length) (hkeys : (rows.map PlanTaskSpec.key).Nodup)
    (key : String) :
    (rowKeys rows ids).lookup key = PlanTaskSpec.taskOf (rows.zip ids) key := by
  unfold PlanTaskSpec.taskOf
  cases hfind : (rows.zip ids).find? fun z => z.1.key == key with
  | some z =>
    have hkey : z.1.key = key := by simpa using List.find?_some hfind
    rw [← hkey, lookup_rowKeys_of_mem hlength hkeys (List.mem_of_find?_eq_some hfind)]
    rfl
  | none =>
    rw [Option.map_none]
    rw [List.find?_eq_none] at hfind
    cases hlookup : (rowKeys rows ids).lookup key with
    | none => rfl
    | some k =>
      obtain ⟨before, after, hsplit, -⟩ := List.lookup_eq_some_iff.1 hlookup
      have hmem : (key, k) ∈ rowKeys rows ids := by
        rw [hsplit]
        exact List.mem_append_right _ List.mem_cons_self
      rw [rowKeys, List.mem_reverse, List.zip_map_left] at hmem
      obtain ⟨z, hz, heq⟩ := List.mem_map.1 hmem
      refine absurd ?_ (hfind z hz)
      simpa using congrArg Prod.fst heq

lemma resolved_eq (hlength : ids.length = rows.length)
    (hkeys : (rows.map PlanTaskSpec.key).Nodup) (spec : PlanTaskSpec) :
    resolved (rowKeys rows ids) spec =
      spec.blockedByKeys.filterMap (PlanTaskSpec.taskOf (rows.zip ids)) :=
  List.filterMap_congr fun key _ => taskOf_eq hlength hkeys key

/-- The Task of one row only gets the edges of this row. -/
lemma lastLink_of_unique (hlength : ids.length = rows.length)
    (hkeys : (rows.map PlanTaskSpec.key).Nodup) {z : PlanTaskSpec × ItemId}
    (hz : z ∈ rows.zip ids) (hunique : ∀ z' ∈ rows.zip ids, z'.2 = z.2 → z' = z) :
    lastLink (rowKeys rows ids) rows z.2 =
      if resolved (rowKeys rows ids) z.1 = [] then none
      else some (resolved (rowKeys rows ids) z.1) := by
  have honly : ∀ spec ∈ rows, (rowKeys rows ids).lookup spec.key = some z.2 → spec = z.1 := by
    intro spec hspec hlookup
    obtain ⟨k, hk⟩ := exists_mem_zip hlength hspec
    rw [lookup_rowKeys_of_mem hlength hkeys hk, Option.some.injEq] at hlookup
    exact congrArg Prod.fst (hunique (spec, k) hk hlookup)
  have hrow : (rowKeys rows ids).lookup z.1.key = some z.2 :=
    lookup_rowKeys_of_mem hlength hkeys hz
  unfold lastLink
  cases hfind : rows.reverse.find? fun spec =>
      (rowKeys rows ids).lookup spec.key == some z.2 &&
        !(resolved (rowKeys rows ids) spec).isEmpty with
  | some spec =>
    have hspec := List.find?_some hfind
    simp only [Bool.and_eq_true, beq_iff_eq, Bool.not_eq_true', List.isEmpty_eq_false_iff] at hspec
    have hmem : spec ∈ rows := List.mem_reverse.1 (List.mem_of_find?_eq_some hfind)
    have hrow' : spec = z.1 := honly spec hmem hspec.1
    subst hrow'
    rw [if_neg hspec.2]
    rfl
  | none =>
    rw [List.find?_eq_none] at hfind
    have hempty := hfind z.1 (List.mem_reverse.2 (List.of_mem_zip hz).1)
    rw [if_pos (by simpa [hrow] using hempty)]
    rfl

end Keys

/-! ## Tasks -/

omit [UnicodeTables] in
/-- Stamping gives each row the id of its Task. -/
lemma stampItemIds_eq (hlength : ids.length = p.tasks.length)
    (hkeys : (p.tasks.map PlanTaskSpec.key).Nodup) :
    stampItemIds (rowKeys p.tasks ids) p =
      { p with tasks := (p.tasks.zip ids).map fun z => { z.1 with itemId := some z.2 } } := by
  have hrows : p.tasks = (p.tasks.zip ids).map Prod.fst := (List.map_fst_zip hlength.ge).symm
  unfold stampItemIds
  congr 1
  conv_lhs => rw [hrows, List.map_map]
  rw [← hrows]
  refine List.map_congr_left fun z hz => ?_
  simp only [Function.comp_apply, lookup_rowKeys_of_mem hlength hkeys hz]

/-- What a materialization makes of the rows. -/
lemma fulfilled_of_materializes {s₀ s₁ : BoardState} {c₀ : WorkItem} {L : Licence}
    {byWhom : String} {origin : Origin} (hs : s.WellFormed) (hc : s.items[id]? = some c)
    (hworked : Worked L id s c s₀ c₀) (hp : c₀.proposal = some p)
    (hmade : Materializes id c₀ p projectId byWhom origin ids s₀ s₁) (hsame : SameCards s₁ s')
    (hkeys : (p.tasks.map PlanTaskSpec.key).Nodup) :
    Fulfilled s s' id projectId c p ids := by
  obtain ⟨s₂, hplanted, rfl⟩ := hmade
  have hs₀ : s₀.WellFormed := hs.reshaped (hworked.reshaped hc)
  have hlength := hplanted.length_eq
  -- The cards other than the one that proposes.
  have hitems : ∀ k, k ≠ id →
      s'.items[k]? = s₂.items[k]?.map (relinked (rowKeys p.tasks ids) p.tasks k) := by
    intro k hk
    rw [hsame.items, items_editItem_of_ne hk, items_linkRows]
  -- A row stands for a sibling that was there, or for a new card.
  have hrow : ∀ z ∈ p.tasks.zip ids, z.2 ≠ id ∧
      ((∃ sibling, s.liveSibling projectId id z.1.title = some sibling ∧ z.2 = sibling.id ∧
        s.items[z.2]? = some sibling ∧ s₂.items[z.2]? = some sibling) ∨
      (s.liveSibling projectId id z.1.title = none ∧ s.items[z.2]? = none ∧ ∃ schema t,
        s₂.items[z.2]? = some
          (rowTask schema (rowCard c₀.capability projectId origin z.1) byWhom t z.2))) := by
    intro z hz
    rw [BoardState.liveSibling, ← existingByTitle_worked hs hc hworked]
    rcases hplanted.row hs₀ hz with ⟨sibling, hlive, hz2, hne, hi, hi'⟩ |
      ⟨hnew, hfresh, schema, t, htask⟩
    · exact ⟨hne, Or.inl ⟨sibling, hlive, hz2, (hworked.others hne).symm.trans hi, hi'⟩⟩
    · have hne : z.2 ≠ id := by
        intro heq
        rw [heq, hworked.item hc] at hfresh
        cases hfresh
      exact ⟨hne, Or.inr ⟨hnew, (hworked.others hne).symm.trans hfresh, schema, t, htask⟩⟩
  constructor
  case length => exact hlength
  case reused =>
    intro z hz sibling hlive
    obtain ⟨hne, ⟨sibling', hlive', hz2, -, hi⟩ | ⟨hnone, -⟩⟩ := hrow z hz
    · rw [hlive, Option.some.injEq] at hlive'
      subst hlive'
      obtain ⟨blockers, hblockers⟩ := relinked_eq (rowKeys p.tasks ids) p.tasks z.2 sibling
      exact ⟨hz2, blockers, by rw [hitems _ hne, hi, Option.map_some, hblockers]⟩
    · rw [hlive] at hnone
      cases hnone
  case created =>
    intro z hz hnone
    obtain ⟨hne, ⟨sibling, hlive, -⟩ | ⟨-, hfresh, schema, t, htask⟩⟩ := hrow z hz
    · rw [hnone] at hlive
      cases hlive
    · obtain ⟨blockers, hblockers⟩ := relinked_eq (rowKeys p.tasks ids) p.tasks z.2
        (rowTask schema (rowCard c₀.capability projectId origin z.1) byWhom t z.2)
      have hcapability : c₀.capability = c.capability :=
        hworked.terms Contract.capability fun _ _ _ => rfl
      refine ⟨hfresh, _, by rw [hitems _ hne, htask, Option.map_some, hblockers], rfl, rfl, rfl, rfl,
        rfl, ?_⟩
      rw [← hcapability]
      rfl
  case distinct =>
    have hdistinct := hplanted.distinct hs₀
    rw [existingByTitle_worked hs hc hworked] at hdistinct
    exact hdistinct
  case edges =>
    intro z hz hunique
    obtain ⟨hne, hcard⟩ := hrow z hz
    have hold : s₂.items[z.2]?.map WorkItem.blockedBy =
        some ((s.items[z.2]?.map WorkItem.blockedBy).getD []) := by
      rcases hcard with ⟨sibling, -, -, hi, hi₂⟩ | ⟨-, hfresh, schema, t, htask⟩
      · rw [hi, hi₂]
        rfl
      · rw [hfresh, htask]
        rfl
    rw [hitems _ hne, ← resolved_eq hlength hkeys, Option.map_map]
    have hlast := lastLink_of_unique hlength hkeys hz hunique
    split
    · rename_i hnone
      rw [if_pos hnone] at hlast
      rw [← hold]
      refine congrArg (fun f => s₂.items[z.2]?.map f) (funext fun i => ?_)
      simp only [Function.comp_apply, relinked, hlast]
    · rename_i hsome
      rw [if_neg hsome] at hlast
      obtain ⟨i, hi, -⟩ := Option.map_eq_some_iff.1 hold
      rw [hi, Option.map_some]
      simp only [Function.comp_apply, relinked, hlast]
      rfl
  case stamped =>
    have hinitial : c₀.isInitialPlanTask = c.isInitialPlanTask :=
      hworked.terms (fun k => titleIsInitialPlan k.title ||
        k.definitionOfDone.any (contains "Plan artifact approved")) fun _ _ _ => rfl
    have hcard : s₂.items[id]? = some c₀ := hplanted.kept hs₀ (hworked.item hc)
    obtain ⟨blockers, hblockers⟩ := relinked_eq (rowKeys p.tasks ids) p.tasks id c₀
    rw [hsame.items, items_editItem_self, items_linkRows, hcard, Option.map_some, hblockers,
      Option.map_some, Option.map_some, hinitial, ← stampItemIds_eq hlength hkeys]
    change some (if c.isInitialPlanTask then c₀.proposal.map _ else none) = _
    rw [hp, Option.map_some]
  case others =>
    intro k hk hmem
    rw [hitems k hk]
    have hplain : relinked (rowKeys p.tasks ids) p.tasks k = fun i => i := by
      funext i
      rw [relinked, lastLink_of_not_mem hmem]
    rw [hplain, Option.map_id', ← hworked.others hk]
    cases hi : s₂.items[k]? with
    | some i =>
      rcases hplanted.born hi with hold | ⟨spec, schema, t, hz, -, -⟩
      · exact hold.symm
      · exact absurd (List.of_mem_zip hz).2 hmem
    | none =>
      cases hold : s₀.items[k]? with
      | none => rfl
      | some i =>
        rw [hplanted.kept hs₀ hold] at hi
        cases hi

end Board

/-- The call takes the card `c`, which has a proposal with rows that wait, to Done; or the card is
Done already and its proposal is materialized. -/
structure Accepted (b : Board) (id projectId : ItemId) (c : WorkItem) (p : TaskProposal)
    (op : Operation) : Prop where
  item : b.state.items[id]? = some c
  proposal : c.proposal = some p
  parent : c.parent = some projectId
  approves : Approves b.state id op
  finishes : (op = .materializePendingProposal id ∧ c.state = .done ∧ p.tasks ≠ []) ∨
    c.state ≠ .done ∧ (∃ t ∈ p.tasks, t.itemId = none) ∧
      (b.exec op).state.items[id]?.map WorkItem.state = some .done

namespace Board

/-- An accepted proposal becomes Tasks once the card was worked on. -/
lemma Accepted.materializes {b : Board} {id projectId : ItemId} {c : WorkItem} {p : TaskProposal}
    {op : Operation} (h : Accepted b id projectId c p op) (hs : b.state.Sound)
    (hn : b.state.Nested) : ∃ byWhom origin ids c₀ s₀ s₁,
      Worked Licence.free id b.state c s₀ c₀ ∧ c₀.proposal = some p ∧
        Materializes id c₀ p projectId byWhom origin ids s₀ s₁ ∧
          SameCards s₁ (b.exec op).state := by
  rcases h.finishes with ⟨rfl, hdone, hrows⟩ | ⟨hopen, hwaits, hdone⟩
  · obtain ⟨ids, s₁, hmade, hsame⟩ :=
      run_materializePendingProposal hs hn h.item hdone h.proposal hrows h.parent
    rw [exec_state (m := Board.materializePendingProposal id) rfl]
    exact ⟨_, _, ids, c, _, s₁, .refl _ _, h.proposal, hmade, hsame⟩
  · have hdone' : ∀ {c₀ : WorkItem}, (b.exec op).state.items[id]? = some c₀ → c₀.state = .done := by
      intro c₀ hc₀
      rw [hc₀, Option.map_some, Option.some.injEq] at hdone
      exact hdone
    cases approval_exec hs hn h.approves with
    | refused hsame => exact absurd (hdone' (hsame.items.symm ▸ h.item)) hopen
    | idle hc hworked hsame hidle =>
      rw [h.item, Option.some.injEq] at hc
      subst hc
      have hfinal := hdone' (hsame.items.symm ▸ hworked.item h.item)
      exact absurd ⟨h.proposal, h.parent, hwaits⟩ (hidle hfinal hopen p projectId)
    | @made c' c₀ s₀ s₁ p' projectId' byWhom ids hc hworked hdone₀ hproposal hparent hagain hmade
        hsame =>
      rw [h.item, Option.some.injEq] at hc
      subst hc
      have hp : p' = p :=
        Option.some.inj ((hworked.proposal hproposal).symm.trans h.proposal)
      have hproject : projectId' = projectId :=
        Option.some.inj ((hparent.symm.trans hworked.parent).trans h.parent)
      subst hp hproject
      exact ⟨byWhom, _, ids, c₀, s₀, s₁, hworked, hproposal, hmade, hsame⟩

/-- On every reachable board, the approval of a card gives each row of its proposal its Task,
provided the keys of the rows are distinct. -/
theorem approval_fulfilled (schema : Schema) (clock : ℕ → ℕ → Time) (saveSucceeds : ℕ → Bool)
    (ops : List Operation) (op : Operation) {id projectId : ItemId} {c : WorkItem}
    {p : TaskProposal}
    (h : Accepted ((Board.new schema clock saveSucceeds).after ops) id projectId c p op)
    (hkeys : (p.tasks.map PlanTaskSpec.key).Nodup) :
    let b := (Board.new schema clock saveSucceeds).after ops
    ∃ ids, Fulfilled b.state (b.exec op).state id projectId c p ids := by
  intro b
  have hs : b.state.Sound := (sound_new _ _ _).reshaped (reshaped_after _ ops)
  have hn : b.state.Nested := nested_after (sound_new _ _ _) Nested.empty ops
  obtain ⟨byWhom, origin, ids, c₀, s₀, s₁, hworked, hproposal, hmade, hsame⟩ :=
    Accepted.materializes h hs hn
  exact ⟨ids, fulfilled_of_materializes hs.wellFormed h.item hworked hproposal hmade hsame hkeys⟩

end Board

end Unicode

namespace Board

/-- A proposal of two rows, the second one blocked by the first. -/
def twoRows : TaskProposal :=
  ⟨"", [⟨"a", "Guide", "", "written", [], none, none, none⟩,
    ⟨"b", "Index", "", "complete", ["a"], none, none, none⟩]⟩

/-- A run that proposes them on the Initial plan of a Project. -/
def twoRowsRun : List Operation :=
  [.create ⟨none, "Docs", "", none, .human, false, none⟩, .setProposal 2 twoRows]

set_option maxRecDepth 100000 in
/-- The theorem when the Initial plan is finished. -/
theorem approval_fulfilled_twoRows :
    let := asciiTables
    let b := (Board.new Schema.default (fun _ _ => 0) fun _ => true).after twoRowsRun
    ∃ c ids, Fulfilled b.state (b.exec (.transition 2 .done "human" none)).state 2 1 c twoRows
      ids := by
  intro tables b
  have hcard : (b.state.items[2]?.map fun c => (c.proposal, c.parent, c.state)) =
      some (some twoRows, some 1, .backlog) := by decide
  have hdone : (b.exec (.transition 2 .done "human" none)).state.items[2]?.map WorkItem.state =
      some .done := by decide
  obtain ⟨c, hc, hfields⟩ := Option.map_eq_some_iff.1 hcard
  simp only [Prod.mk.injEq] at hfields
  obtain ⟨hproposal, hparent, hstate⟩ := hfields
  have haccepted : Accepted b 2 1 c twoRows (.transition 2 .done "human" none) :=
    ⟨hc, hproposal, hparent, .transition "human" none, Or.inr ⟨by rw [hstate]; decide,
      by decide, hdone⟩⟩
  obtain ⟨ids, hids⟩ := approval_fulfilled _ _ _ twoRowsRun _ haccepted (by decide)
  exact ⟨c, ids, hids⟩

/-- A run that proposes a Task with the title of one that is there, and another definition of
done. -/
def reusedRun : List Operation :=
  [.create ⟨none, "Docs", "", none, .human, false, none⟩,
    .createTask 1 "Guide" "" "written" [] none false,
    .setProposal 2 ⟨"", [⟨"a", "Guide", "", "checked", [], none, none, none⟩]⟩]

set_option maxRecDepth 100000 in
/-- The approval yields no Task with the definition of done of the row. -/
theorem reused_keeps_definition :
    let := asciiTables
    let b := (Board.new Schema.default (fun _ _ => 0) fun _ => true).after reusedRun
    b.state.items[2]?.map WorkItem.proposal =
        some (some ⟨"", [⟨"a", "Guide", "", "checked", [], none, none, none⟩]⟩) ∧
      (b.exec (.transition 2 .done "human" none)).state.items[2]?.map WorkItem.state =
        some .done ∧
      ∀ i ∈ (b.exec (.transition 2 .done "human" none)).state.cards,
        i.definitionOfDone ≠ some "checked" := by
  decide

end Board

end Sandboard

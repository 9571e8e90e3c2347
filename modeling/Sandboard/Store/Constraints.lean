import Sandboard.Store.Pending
import Sandboard.Store.Tables

/-!
# Boards that the database accepts

Every reachable board is nested, so its cards can be inserted parents first, and the rows of its
stories have keys of their own.  What may be in the way of a save are the edges: those that a
human or the creator of a Task names are written as they are, and two keys of one proposal row
may resolve to one Task.
-/

namespace Sandboard

open Std Text BoardState

section Unicode

variable [UnicodeTables]

/-! ## Proposals -/

/-- The normalized title of the row that a key stands for, which is the last one with the key. -/
def TaskProposal.titleOf (p : TaskProposal) (k : String) : Option String :=
  (p.tasks.reverse.find? fun t => t.key == k).map fun t => Board.normalizeTitle t.title

/-- No row names a title twice through the keys that block it. -/
def TaskProposal.LinkClean (p : TaskProposal) : Prop :=
  ∀ t ∈ p.tasks, (t.blockedByKeys.filterMap p.titleOf).Nodup

namespace Board

variable {fallback : Option String} {projectId : ItemId} {byWhom : String} {origin : Origin}
  {existing : List (String × WorkItem)} {s s' : BoardState} {rows : List PlanTaskSpec}
  {ids : List ItemId}

/-- The Task of a row has the title of the row. -/
lemma Planted.titled (h : Planted fallback projectId byWhom origin existing s rows s' ids)
    (hs : s.WellFormed) (hexisting : ∀ title sibling, existing.lookup title = some sibling →
      ∃ i, s.items[sibling.id]? = some i ∧ normalizeTitle i.title = title) :
    ∀ z ∈ rows.zip ids, ∃ i, s'.items[z.2]? = some i ∧
      normalizeTitle i.title = normalizeTitle z.1.title := by
  induction h with
  | nil s => simp
  | @reuse s s' spec rows ids sibling hlookup h ih =>
    intro z hz
    rcases List.mem_cons.1 hz with rfl | hz
    · obtain ⟨i, hi, htitle⟩ := hexisting _ _ hlookup
      exact ⟨i, h.kept hs hi, htitle⟩
    · exact ih hs hexisting z hz
  | @plant s s' spec rows ids schema t hlookup h ih =>
    have hplanted := wellFormed_plantTask hs schema (rowCard fallback projectId origin spec) byWhom
      (some "from proposal") t
    intro z hz
    rcases List.mem_cons.1 hz with rfl | hz
    · exact ⟨_, h.kept hplanted ((items_plantTask _ _ _ _ _ _ _).trans (if_pos rfl)), rfl⟩
    · refine ih hplanted (fun title sibling hsibling => ?_) z hz
      obtain ⟨i, hi, htitle⟩ := hexisting title sibling hsibling
      exact ⟨i, items_plantTask_of_some hs _ _ _ _ _ hi, htitle⟩

omit [UnicodeTables] in
/-- A key stands for the id of the last row that has it. -/
lemma lookup_rowKeys (hlength : ids.length = rows.length) (k : String) :
    ∃ zs : List (PlanTaskSpec × ItemId), zs.map Prod.fst = rows.reverse ∧
      (∀ z ∈ zs, z ∈ rows.zip ids) ∧
      (rowKeys rows ids).lookup k = (zs.find? fun z => z.1.key == k).map Prod.snd := by
  refine ⟨(rows.zip ids).reverse, ?_, fun z hz => List.mem_reverse.1 hz, ?_⟩
  · rw [List.map_reverse, List.map_fst_zip hlength.ge]
  · have hkeys : rowKeys rows ids = (rows.zip ids).reverse.map fun z => (z.1.key, z.2) := by
      rw [rowKeys, List.map_reverse, List.zip_map_left]
      rfl
    rw [hkeys]
    induction (rows.zip ids).reverse with
    | nil => rfl
    | cons z zs ih =>
      rw [List.map_cons, List.lookup_cons, List.find?_cons]
      by_cases hk : z.1.key = k
      · simp [hk]
      · have hk' : (k == z.1.key) = false := by simpa using Ne.symm hk
        have hk'' : (z.1.key == k) = false := by simpa using hk
        rw [hk', hk'']
        exact ih

/-- The titles tell the ids of one materialization apart. -/
lemma nodup_resolved {p : TaskProposal} {keyToId : List (String × ItemId)} (hp : p.LinkClean)
    (h : Resolves p keyToId s) {spec : PlanTaskSpec} (hspec : spec ∈ p.tasks) :
    (resolved keyToId spec).Nodup := by
  obtain ⟨fallback, projectId, byWhom, origin, id, s₀, s₁, ids, hplanted, hs₀, rfl⟩ := h.rows
  have htitled := hplanted.titled hs₀ fun title sibling hsibling => by
    obtain ⟨hi, -, -, -, htitle⟩ := lookup_existingByTitle hs₀ hsibling
    exact ⟨sibling, hi, htitle⟩
  let title : ItemId → Option String := fun k =>
    s₁.items[k]?.map fun i => normalizeTitle i.title
  have hkey : ∀ k, ((rowKeys p.tasks ids).lookup k).bind title = p.titleOf k := by
    intro k
    obtain ⟨zs, hrows, hzs, hlookup⟩ := lookup_rowKeys hplanted.length_eq k
    rw [hlookup, TaskProposal.titleOf, ← hrows, List.find?_map]
    simp only [Function.comp_def]
    cases hfind : zs.find? fun z => z.1.key == k with
    | none => rfl
    | some z =>
      obtain ⟨i, hi, htitle⟩ := htitled z (hzs z (List.mem_of_find?_eq_some hfind))
      simp [title, hi, htitle]
  have hmap : (resolved (rowKeys p.tasks ids) spec).filterMap title =
      spec.blockedByKeys.filterMap p.titleOf := by
    rw [resolved, List.filterMap_filterMap]
    exact List.filterMap_congr fun k _ => hkey k
  have hsome : ∀ k ∈ resolved (rowKeys p.tasks ids) spec, title k = some ((title k).getD "") := by
    intro k hk
    obtain ⟨key, -, hkey⟩ := List.mem_filterMap.1 hk
    obtain ⟨zs, -, hzs, hlookup⟩ := lookup_rowKeys hplanted.length_eq key
    rw [hlookup] at hkey
    obtain ⟨z, hfind, rfl⟩ := Option.map_eq_some_iff.1 hkey
    obtain ⟨i, hi, -⟩ := htitled z (hzs z (List.mem_of_find?_eq_some hfind))
    simp [title, hi]
  refine List.Nodup.of_map (fun k => (title k).getD "") ?_
  rw [← List.filterMap_eq_map_iff_forall_eq_some.2 hsome, hmap]
  exact hp spec hspec

end Board

end Unicode

/-! ## The invariant -/

/-- What may be written without breaking a save. -/
def Licence.linking [UnicodeTables] : Licence where
  proposes p := p.LinkClean
  approves := True
  defines _ := True
  moves _ _ _ _ := True
  links s _ blockers := blockers.Nodup ∧ ∀ bid ∈ blockers, ∃ j, s.items[bid]? = some j
  rewrites _ _ _ f := ∃ title intent definitionOfDone engine projectPrompt,
    f = Board.updated title intent definitionOfDone engine projectPrompt

namespace BoardState

variable {s s' : BoardState} {id : ItemId}

namespace Linkable

lemma empty : BoardState.empty.Linkable := fun k i h => by
  simp [BoardState.empty] at h

/-- A board that loses no card and changes no edges stays linkable. -/
lemma of_edges (h : s.Linkable)
    (hkept : ∀ (k : ItemId) (i : WorkItem), s.items[k]? = some i → ∃ j, s'.items[k]? = some j)
    (hedges : ∀ (k : ItemId) (i : WorkItem), s'.items[k]? = some i → i.blockedBy = [] ∨
      ∃ j, s.items[k]? = some j ∧ i.blockedBy = j.blockedBy) : s'.Linkable := by
  intro k i hi
  rcases hedges k i hi with hnone | ⟨j, hj, hsame⟩
  · rw [hnone]
    exact ⟨List.nodup_nil, fun bid hbid => absurd hbid List.not_mem_nil⟩
  · rw [hsame]
    obtain ⟨hnodup, hpresent⟩ := h k j hj
    refine ⟨hnodup, fun bid hbid => ?_⟩
    obtain ⟨blocker, hblocker⟩ := hpresent bid hbid
    exact hkept bid blocker hblocker

lemma edit (h : s.Linkable) {f : WorkItem → WorkItem} (id : ItemId)
    (hf : ∀ i, (f i).blockedBy = i.blockedBy) : (s.editItem id f).Linkable := by
  refine h.of_edges (fun k i hi => ?_) fun k i hi => Or.inr ?_
  · rw [items_editItem, hi]
    split
    · exact ⟨f i, rfl⟩
    · exact ⟨i, rfl⟩
  · rw [items_editItem] at hi
    split at hi
    · obtain ⟨j, hj, rfl⟩ := Option.map_eq_some_iff.1 hi
      exact ⟨j, hj, hf j⟩
    · exact ⟨i, hi, rfl⟩

lemma work (h : s.Linkable) {L : Licence} {c c' : WorkItem} (hworked : Worked L id s c s' c') :
    s'.Linkable := by
  induction hworked with
  | refl => exact h
  | edit hworked hf ih => exact ih.edit id fun i => congrArg Contract.blockedBy (hf i).contract
  | move hworked now byWhom reason hcheck hmove ih => exact ih.edit id fun i => rfl

lemma insert (h : s.Linkable) (hs : s.WellFormed) (schema : Schema) (now : Time)
    (c : Board.NewCard) : (Board.insertNew schema now c s).2.Linkable := by
  refine h.of_edges (fun k i hi => ⟨i, ?_⟩) fun k i hi => ?_
  · rw [items_insertNew_ite, if_neg (hs.fresh k i hi).ne, hi]
  · rw [items_insertNew_ite] at hi
    split at hi
    · cases hi
      exact Or.inl rfl
    · exact Or.inr ⟨i, hi, rfl⟩

/-- Distinct blockers on the board may be written to a card. -/
lemma link (h : s.Linkable) {blockers : List ItemId} (hnodup : blockers.Nodup)
    (hpresent : ∀ bid ∈ blockers, ∃ j, s.items[bid]? = some j) :
    (s.editItem id (WorkItem.blockedOn blockers)).Linkable := by
  have hkept : ∀ (k : ItemId), (∃ j, s.items[k]? = some j) →
      ∃ j, (s.editItem id (WorkItem.blockedOn blockers)).items[k]? = some j := by
    rintro k ⟨j, hj⟩
    rw [items_editItem, hj]
    split
    · exact ⟨j.blockedOn blockers, rfl⟩
    · exact ⟨j, rfl⟩
  intro k i hi
  rw [items_editItem] at hi
  split at hi
  · obtain ⟨j, -, rfl⟩ := Option.map_eq_some_iff.1 hi
    exact ⟨hnodup, fun bid hbid => hkept bid (hpresent bid hbid)⟩
  · exact ⟨(h k i hi).1, fun bid hbid => hkept bid ((h k i hi).2 bid hbid)⟩

/-- A deletion takes the deleted cards out of every list of blockers. -/
lemma delete (h : s.Linkable) (hs : s.WellFormed) (hn : s.Nested) (id : ItemId) :
    (Board.deleteSection id s).2.Linkable := by
  cases hc : s.items[id]? with
  | none =>
    have hsame : (Board.deleteSection id s).2 = s := by simp [Board.deleteSection, hc]
    rw [hsame]
    exact h
  | some c =>
    obtain ⟨gone, -, -, hitems⟩ := items_deleteSection hs hn hc
    intro k i hi
    rw [hitems] at hi
    split at hi
    · cases hi
    · obtain ⟨j, hj, rfl⟩ := Option.map_eq_some_iff.1 hi
      obtain ⟨hnodup, hpresent⟩ := h k j hj
      refine ⟨hnodup.filter _, fun bid hbid => ?_⟩
      obtain ⟨hbid, hkept⟩ := List.mem_filter.1 hbid
      obtain ⟨blocker, hblocker⟩ := hpresent bid hbid
      rw [hitems, if_neg (by simpa using hkept), hblocker]
      exact ⟨_, rfl⟩

end Linkable

/-- A board whose cards, edges and stored proposals are in order. -/
structure WellLinked [UnicodeTables] (s : BoardState) : Prop where
  nested : s.Nested
  linkable : s.Linkable
  proposals : s.Proposals TaskProposal.LinkClean

end BoardState

section Unicode

variable [UnicodeTables]

/-- Stamping ids into the rows keeps their keys, their titles and what blocks them. -/
lemma TaskProposal.LinkClean.stampItemIds {p : TaskProposal} (h : p.LinkClean)
    (keyToId : List (String × ItemId)) : (Board.stampItemIds keyToId p).LinkClean := by
  obtain ⟨stamp, hrows, hstamp⟩ : ∃ stamp : PlanTaskSpec → PlanTaskSpec,
      (Board.stampItemIds keyToId p).tasks = p.tasks.map stamp ∧
        ∀ t, (stamp t).key = t.key ∧ (stamp t).title = t.title ∧
          (stamp t).blockedByKeys = t.blockedByKeys := by
    refine ⟨_, rfl, fun t => ?_⟩
    split
    · exact ⟨rfl, rfl, rfl⟩
    · exact ⟨rfl, rfl, rfl⟩
  have htitle : (Board.stampItemIds keyToId p).titleOf = p.titleOf := by
    funext k
    rw [titleOf, titleOf, hrows, ← List.map_reverse, List.find?_map, Option.map_map]
    have hkey : (fun t : PlanTaskSpec => t.key == k) ∘ stamp = fun t => t.key == k :=
      funext fun t => by simp [(hstamp t).1]
    rw [hkey]
    exact congrArg (fun g => (p.tasks.reverse.find? fun t => t.key == k).map g)
      (funext fun t => congrArg Board.normalizeTitle (hstamp t).2.1)
  intro t ht
  rw [hrows] at ht
  obtain ⟨t', ht', rfl⟩ := List.mem_map.1 ht
  rw [htitle, (hstamp t').2.2]
  exact h t' ht'

lemma lasting_wellLinked : Lasting Licence.linking WellLinked where
  aside hitems _ _ _ h :=
    ⟨h.nested.of_place (funext fun k => by simp only [place, hitems]),
      h.linkable.of_edges (fun k i hi => ⟨i, hitems ▸ hi⟩)
        fun k i hi => Or.inr ⟨i, hitems ▸ hi, rfl⟩, h.proposals.of_items hitems⟩
  work _ h _ hworked :=
    ⟨h.nested.of_place (place_worked hworked), h.linkable.work hworked, h.proposals.work hworked⟩
  insert schema now hs h hparent _ :=
    ⟨h.nested.insert hs.wellFormed schema now hparent,
      h.linkable.insert hs.wellFormed schema now _, h.proposals.insert schema now _⟩
  propose _ h _ hp :=
    ⟨h.nested.of_place (place_editItem fun _ => ⟨rfl, rfl⟩), h.linkable.edit _ fun _ => rfl,
      h.proposals.propose _ hp⟩
  settle keep keyToId _ _ h _ :=
    ⟨h.nested.of_place (place_editItem fun _ => ⟨rfl, rfl⟩), h.linkable.edit _ fun _ => rfl,
      h.proposals.settle _ (fun keyToId p hp => hp.stampItemIds keyToId) keep keyToId⟩
  link _ h _ hlinks :=
    ⟨h.nested.of_place (place_editItem fun _ => ⟨rfl, rfl⟩), h.linkable.link hlinks.1 hlinks.2,
      h.proposals.edit_of_same _ fun _ => rfl⟩
  rewrite _ h _ hf := by
    obtain ⟨title, intent, dod, engine, projectPrompt, rfl⟩ := hf
    exact ⟨h.nested.of_place (place_editItem fun _ => ⟨rfl, rfl⟩),
      h.linkable.edit _ fun _ => rfl, h.proposals.edit_of_same _ fun _ => rfl⟩
  proposed _ h hc hp := h.proposals _ _ _ hc hp
  resolved _ hp h hspec := by
    refine ⟨Board.nodup_resolved hp h hspec, fun bid hbid => ?_⟩
    obtain ⟨k, -, hk⟩ := List.mem_filterMap.1 hbid
    obtain ⟨before, after, hsplit, -⟩ := List.lookup_eq_some_iff.1 hk
    exact h.present (k, bid) (by rw [hsplit]; exact List.mem_append_right _ List.mem_cons_self)
  rows _ _ := trivial
  defined _ := trivial
  undefined := trivial
  moves _ _ := trivial
  promotes _ := trivial

/-! ## Runs -/

namespace Board

/-- The step writes distinct blockers that are on the board, and stores no proposal with a row
that names one Task twice. -/
def KeepsLinks (s : BoardState) : Operation → Prop
  | .setBlockedBy id blockers => (∃ c, s.items[id]? = some c) →
    blockers.Nodup ∧ ∀ bid ∈ blockers, ∃ j, s.items[bid]? = some j
  | .createTask parent _ _ dod blockers _ _ =>
    checkParent s (some parent) = .ok () → trim dod ≠ "" →
      blockers.Nodup ∧ ∀ bid ∈ blockers, bid = s.nextId ∨ ∃ j, s.items[bid]? = some j
  | .setProposal _ proposal => checkProposal proposal = .ok () → proposal.LinkClean
  | .proposePlan _ summary tasks =>
    checkProposal ⟨summary, tasks⟩ = .ok () → TaskProposal.LinkClean ⟨summary, tasks⟩
  | .proposeSplit _ _ children _ => ∀ summary,
    checkProposal ⟨summary, splitSpecs children⟩ = .ok () →
      TaskProposal.LinkClean ⟨summary, splitSpecs children⟩
  | _ => True

lemma KeepsLinks.permits {s : BoardState} {op : Operation} (hC : KeepsLinks s op) :
    Licence.linking.Permits s op := by
  cases op with
  | create => trivial
  | transition => exact ⟨fun _ _ _ => trivial, fun _ => trivial⟩
  | updateItem id title intent dod engine projectPrompt =>
    exact fun _ _ => ⟨title, intent, dod, engine, projectPrompt, rfl⟩
  | setBlockedBy id blockers => exact fun c hc => hC ⟨c, hc⟩
  | createTask parent title intent dod blockers capability aboveLine =>
    intro hparent hdod s' hjust
    obtain ⟨hnodup, hpresent⟩ := hC hparent hdod
    refine ⟨hnodup, fun bid hbid => ?_⟩
    obtain ⟨c, hc, -⟩ := hjust.item
    by_cases hnew : bid = s.nextId
    · exact ⟨c, hnew ▸ hc⟩
    · obtain ⟨j, hj⟩ := (hpresent bid hbid).resolve_left hnew
      exact ⟨j, (hjust.others hnew).trans hj⟩
  | setProposal id proposal => exact hC
  | proposePlan id summary tasks => exact hC
  | proposeSplit id agentId children maxChildren => exact hC
  | _ => trivial

/-- In every run whose steps keep the edges in order, a save of the board goes through, whatever
is in the database and whatever the settings are. -/
theorem save_accepted (E : Encoding) (schema : Schema) (clock : ℕ → ℕ → Time)
    (saveSucceeds : ℕ → Bool) (ops : List Operation)
    (hmeets : Meets (fun op s => KeepsLinks s op) (Board.new schema clock saveSucceeds) ops)
    (entries : List (String × String)) (t : Tables E) :
    ∃ t', Tables.saveBoardState (reached schema clock saveSucceeds ops) entries t = .ok t' := by
  have hnew : (Board.new schema clock saveSucceeds).state.WellLinked :=
    ⟨Nested.empty, Linkable.empty, ProposalsAt.empty⟩
  obtain ⟨hs, h⟩ := lasting_wellLinked.meets (fun _ _ _ hC => hC.permits)
    (fun _ fuel id reason hs h _ =>
      lasting_wellLinked.exec_cutScope (fun _ _ _ => trivial) fuel id reason hs h)
    (fun s id hs h _ => ⟨h.nested.delete hs.wellFormed id,
      h.linkable.delete hs.wellFormed h.nested id, h.proposals.delete hs.wellFormed h.nested id⟩)
    (sound_new _ _ _) hnew hmeets
  exact (Tables.saveBoardState_accepted_iff hs.wellFormed h.nested entries t).2 h.linkable

end Board

end Unicode

namespace Board

/-- Rows with nothing but their key columns. -/
def bareRows : Encoding where
  ItemColumns := Unit
  itemColumns _ _ := ()
  StoryColumns := Unit
  storyColumns _ := ()

/-- A database that was migrated and never written to. -/
def migrated (E : Encoding) : Tables E := ⟨∅, [], [], ∅⟩

/-- A run that blocks a Task by the Initial plan of its Project. -/
def linkedRun : List Operation :=
  [.create ⟨none, "Docs", "", none, .human, false, none⟩,
    .createTask 1 "Guide" "" "written" [2] none false]

set_option maxRecDepth 100000 in
/-- The theorem on a board with an edge. -/
theorem save_accepted_linked :
    let := asciiTables
    ∃ t', Tables.saveBoardState (reached Schema.default (fun _ _ => 0) (fun _ => true) linkedRun) []
      (migrated bareRows) = .ok t' := by
  intro tables
  have hplan : ((Board.new Schema.default (fun _ _ => 0) fun _ => true).exec
      (.create ⟨none, "Docs", "", none, .human, false, none⟩)).state.items[2]?.isSome = true := by
    decide
  have hstep : ∀ s : BoardState, (∃ j, s.items[2]? = some j) →
      KeepsLinks s (.createTask 1 "Guide" "" "written" [2] none false) := by
    intro s hj _ _
    refine ⟨by decide, fun bid hbid => Or.inr ?_⟩
    rw [List.mem_singleton.1 hbid]
    exact hj
  have hmeets : Meets (fun op s => KeepsLinks s op)
      (Board.new Schema.default (fun _ _ => 0) fun _ => true) linkedRun :=
    ⟨trivial, hstep _ (Option.isSome_iff_exists.1 hplan), trivial⟩
  exact save_accepted bareRows _ _ _ linkedRun hmeets [] (migrated bareRows)

/-- A run that creates a Task blocked by a card that does not exist. -/
def danglingRun : List Operation :=
  [.create ⟨none, "Docs", "", none, .human, false, none⟩,
    .createTask 1 "Guide" "" "written" [99] none false]

set_option maxRecDepth 100000 in
/-- The database rejects the board. -/
theorem dangling_rejected :
    let := asciiTables
    ¬∃ t', Tables.saveBoardState (reached Schema.default (fun _ _ => 0) (fun _ => true) danglingRun)
      [] (migrated bareRows) = .ok t' := by
  intro tables
  let b := (Board.new Schema.default (fun _ _ => 0) fun _ => true).after danglingRun
  have hs : b.state.WellFormed := wellFormed_reached _ _ _ danglingRun
  have hn : b.state.Nested := nested_after (sound_new _ _ _) Nested.empty danglingRun
  have hcard : b.state.items[3]?.map WorkItem.blockedBy = some [99] := by decide
  have hmissing : b.state.items[99]? = none := by
    rw [← Option.isNone_iff_eq_none]
    decide
  refine fun haccepted => ?_
  have hlink : b.state.Linkable :=
    (Tables.saveBoardState_accepted_iff hs hn [] (migrated bareRows)).1 haccepted
  obtain ⟨c, hc, hedges⟩ := Option.map_eq_some_iff.1 hcard
  obtain ⟨j, hj⟩ := (hlink 3 c hc).2 99 (by rw [hedges]; exact List.mem_singleton_self 99)
  rw [hmissing] at hj
  cases hj

end Board

end Sandboard

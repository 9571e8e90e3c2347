import Sandboard.Library.Acyclic
import Sandboard.Store.Approving
import Sandboard.Store.Claiming

/-!
# Loops of blockers

Nothing looks for loops when blockers are written: a Task that waits for itself is accepted.
The edges of a board stay without loops in every run whose steps write none that close one, and
then some Task of a Project that only waits for its own Tasks may be claimed.
-/

namespace Sandboard

open Std Text Relation BoardState

section Unicode

variable [UnicodeTables]

namespace BoardState

variable {s s' : BoardState} {id k bid projectId : ItemId} {c c' : WorkItem} {p : TaskProposal}

/-! ## Edges -/

omit [UnicodeTables] in
/-- The card `k` is blocked by the card `bid`. -/
def BlockedBy (s : BoardState) (k bid : ItemId) : Prop :=
  ∃ i, s.items[k]? = some i ∧ bid ∈ i.blockedBy

/-- The keys of the rows of a proposal with the ids that their Tasks will have. -/
def plannedKeys (s : BoardState) (id projectId : ItemId) (p : TaskProposal) :
    List (String × ItemId) :=
  Board.rowKeys p.tasks
    (Board.plannedIds (Board.existingByTitle projectId id s) s.nextId p.tasks)

/-- The edges of the board once the proposal `p` of the card `id` was materialized. -/
def PlannedBy (s : BoardState) (id projectId : ItemId) (p : TaskProposal) (k bid : ItemId) : Prop :=
  match Board.lastLink (s.plannedKeys id projectId p) p.tasks k with
  | some blockers => bid ∈ blockers
  | none => s.BlockedBy k bid

omit [UnicodeTables] in
/-- An edit that leaves the blockers of its card alone. -/
lemma blockedBy_editItem {f : WorkItem → WorkItem} (hf : ∀ i, (f i).blockedBy = i.blockedBy) :
    (s.editItem id f).BlockedBy k bid ↔ s.BlockedBy k bid := by
  unfold BlockedBy
  rw [items_editItem]
  split
  · constructor
    · rintro ⟨i, hi, hbid⟩
      obtain ⟨j, hj, rfl⟩ := Option.map_eq_some_iff.1 hi
      exact ⟨j, hj, hf j ▸ hbid⟩
    · rintro ⟨j, hj, hbid⟩
      exact ⟨f j, by rw [hj, Option.map_some], (hf j).symm ▸ hbid⟩
  · exact Iff.rfl

omit [UnicodeTables] in
lemma blockedBy_worked {L : Licence} (h : Worked L id s c s' c') :
    s'.BlockedBy k bid ↔ s.BlockedBy k bid := by
  induction h with
  | refl => exact Iff.rfl
  | edit h hf ih =>
    exact (blockedBy_editItem fun i => congrArg Contract.blockedBy (hf i).contract).trans ih
  | move h now byWhom reason hcheck hmove ih =>
    exact (blockedBy_editItem (f := fun i => i.moved now _ byWhom reason) fun _ => rfl).trans ih

omit [UnicodeTables] in
lemma SameCards.blockedBy (h : SameCards s s') : s'.BlockedBy k bid ↔ s.BlockedBy k bid := by
  unfold BlockedBy
  rw [h.items]

/-- What a materialization may leave as edges was planned. -/
lemma plannedBy_of_materializes {byWhom : String} {origin : Origin} {ids : List ItemId}
    (h : Board.Materializes id c p projectId byWhom origin ids s s')
    (hbid : s'.BlockedBy k bid) : s.PlannedBy id projectId p k bid := by
  obtain ⟨s₁, hplanted, rfl⟩ := h
  rw [blockedBy_editItem (f := Board.settled _ _) fun _ => rfl] at hbid
  obtain ⟨i, hi, hbid⟩ := hbid
  rw [Board.items_linkRows, hplanted.ids_eq] at hi
  obtain ⟨j, hj, rfl⟩ := Option.map_eq_some_iff.1 hi
  unfold PlannedBy plannedKeys
  unfold Board.relinked at hbid
  cases hlast : Board.lastLink (Board.rowKeys p.tasks
      (Board.plannedIds (Board.existingByTitle projectId id s) s.nextId p.tasks)) p.tasks k with
  | some blockers =>
    rw [hlast] at hbid
    exact hbid
  | none =>
    rw [hlast] at hbid
    rcases hplanted.born hj with hold | ⟨spec, schema, t, -, -, rfl⟩
    · exact ⟨j, hold, hbid⟩
    · cases hbid

/-- Work on the card that proposes does not change the plan. -/
lemma plannedBy_worked {L : Licence} (hs : s.WellFormed) (hc : s.items[id]? = some c)
    (h : Worked L id s c s' c') :
    s'.PlannedBy id projectId p k bid ↔ s.PlannedBy id projectId p k bid := by
  unfold PlannedBy plannedKeys
  rw [existingByTitle_worked hs hc h, nextId_worked h]
  split
  · exact Iff.rfl
  · exact blockedBy_worked h

/-! ## The invariant -/

omit [UnicodeTables] in
/-- A board without loops of blockers. -/
structure Orderly (s : BoardState) : Prop where
  nested : s.Nested
  acyclic : Acyclic s.BlockedBy

namespace Orderly

omit [UnicodeTables]

lemma same (h : s.Orderly) (hsame : SameCards s s') : s'.Orderly where
  nested := h.nested.of_place (funext fun k => by simp only [place, hsame.items])
  acyclic := h.acyclic.mono fun _ _ => hsame.blockedBy.1

lemma edit (h : s.Orderly) {f : WorkItem → WorkItem} (id : ItemId)
    (hf : ∀ i, (f i).parent = i.parent ∧ (f i).level = i.level)
    (hblockers : ∀ i, (f i).blockedBy = i.blockedBy) : (s.editItem id f).Orderly where
  nested := h.nested.of_place (place_editItem hf)
  acyclic := h.acyclic.mono fun _ _ => (blockedBy_editItem hblockers).1

lemma work (h : s.Orderly) {L : Licence} (hworked : Worked L id s c s' c') : s'.Orderly where
  nested := h.nested.of_place (place_worked hworked)
  acyclic := h.acyclic.mono fun _ _ => (blockedBy_worked hworked).1

/-- A new card has no blockers. -/
lemma insert (h : s.Orderly) (hs : s.WellFormed) {n : Board.NewCard} (schema : Schema)
    (now : Time) (hparent : Board.checkParent s n.parent = .ok ()) :
    (Board.insertNew schema now n s).2.Orderly where
  nested := h.nested.insert hs schema now hparent
  acyclic := by
    refine h.acyclic.mono fun k bid hbid => ?_
    obtain ⟨i, hi, hbid⟩ := hbid
    rw [items_insertNew_ite] at hi
    split at hi
    · cases hi
      cases hbid
    · exact ⟨i, hi, hbid⟩

/-- Blockers that do not wait for the card may be written to it. -/
lemma link (h : s.Orderly) {blockers : List ItemId}
    (hlinks : ∀ bid ∈ blockers, ¬ReflTransGen s.BlockedBy bid id) :
    (s.editItem id (WorkItem.blockedOn blockers)).Orderly where
  nested := h.nested.of_place (place_editItem fun _ => ⟨rfl, rfl⟩)
  acyclic := by
    have hacyclic : Acyclic fun k bid =>
        (k = id ∧ bid ∈ {bid | bid ∈ blockers}) ∨ (k ≠ id ∧ s.BlockedBy k bid) :=
      h.acyclic.redirect hlinks
    refine hacyclic.mono fun k bid hbid => ?_
    obtain ⟨i, hi, hbid⟩ := hbid
    rw [items_editItem] at hi
    split at hi
    · rename_i hk
      obtain ⟨j, -, rfl⟩ := Option.map_eq_some_iff.1 hi
      exact Or.inl ⟨hk, hbid⟩
    · rename_i hk
      exact Or.inr ⟨hk, i, hi, hbid⟩

lemma delete (h : s.Orderly) (hs : s.WellFormed) (id : ItemId) :
    (Board.deleteSection id s).2.Orderly where
  nested := h.nested.delete hs id
  acyclic := by
    cases hc : s.items[id]? with
    | none =>
      have hsame : (Board.deleteSection id s).2 = s := by simp [Board.deleteSection, hc]
      rw [hsame]
      exact h.acyclic
    | some c =>
      obtain ⟨gone, -, -, hitems⟩ := items_deleteSection hs h.nested hc
      refine h.acyclic.mono fun k bid hbid => ?_
      obtain ⟨i, hi, hbid⟩ := hbid
      rw [hitems] at hi
      split at hi
      · cases hi
      · obtain ⟨j, hj, rfl⟩ := Option.map_eq_some_iff.1 hi
        exact ⟨j, hj, List.mem_of_mem_filter hbid⟩

end Orderly

end BoardState

omit [UnicodeTables] in
/-- What may be written without closing a loop. -/
def Licence.orderly : Licence where
  proposes _ := True
  approves := False
  defines _ := True
  moves _ _ _ _ := True
  links s id blockers := ∀ bid ∈ blockers, ¬ReflTransGen s.BlockedBy bid id
  rewrites _ _ _ f := ∃ title intent definitionOfDone engine projectPrompt,
    f = Board.updated title intent definitionOfDone engine projectPrompt

open BoardState

lemma lasting_orderly : Lasting Licence.orderly Orderly where
  aside hitems hnext _ _ h := h.same ⟨hitems, hnext⟩
  work _ h _ hworked := h.work hworked
  insert schema now hs h hparent _ := h.insert hs.wellFormed schema now hparent
  propose _ h _ _ := h.edit _ (fun _ => ⟨rfl, rfl⟩) fun _ => rfl
  settle _ _ _ _ h _ := h.edit _ (fun _ => ⟨rfl, rfl⟩) fun _ => rfl
  link _ h _ hlinks := h.link hlinks
  rewrite _ h _ hf := by
    obtain ⟨title, intent, dod, engine, projectPrompt, rfl⟩ := hf
    exact h.edit _ (fun _ => ⟨rfl, rfl⟩) fun _ => rfl
  proposed _ _ _ _ := trivial
  resolved happroves := happroves.elim
  rows _ _ := trivial
  defined _ := trivial
  undefined := trivial
  moves _ _ := trivial
  promotes _ := trivial

/-! ## Steps -/

namespace Board

variable {b : Board} {id : ItemId} {again : Prop}

/-- The proposal of the card `id`, if it is materialized, closes no loop. -/
def OrderlyPlan (s : BoardState) (id : ItemId) (again : Prop) : Prop :=
  ∀ (c : WorkItem) (p : TaskProposal) (projectId : ItemId), s.items[id]? = some c →
    c.proposal = some p → c.parent = some projectId →
      (again ∨ ∃ t ∈ p.tasks, t.itemId = none) → Acyclic (s.PlannedBy id projectId p)

omit [UnicodeTables] in
/-- No card that was cut waits for the Tasks of its proposal. -/
def NoneWaits (s : BoardState) : Prop :=
  ∀ (k : ItemId) (c : WorkItem), s.items[k]? = some c → c.state = .retired →
    ∀ p projectId, ¬c.Awaits p projectId

/-- The step writes no edge that closes a loop of blockers. -/
def KeepsOrder (s : BoardState) : Operation → Prop
  | .setBlockedBy id blockers => (∃ c, s.items[id]? = some c) →
    ∀ bid ∈ blockers, ¬ReflTransGen s.BlockedBy bid id
  | .createTask parent _ _ dod blockers _ _ =>
    checkParent s (some parent) = .ok () → trim dod ≠ "" →
      ∀ bid ∈ blockers, ¬ReflTransGen s.BlockedBy bid s.nextId
  | .unarchiveScope _ _ _ => NoneWaits s
  | op => ∀ id, Approves s id op → OrderlyPlan s id (op = .materializePendingProposal id)

/-- An approval keeps the board orderly when its plan closes no loop. -/
lemma orderly_of_approval {s s' : BoardState} (h : Approval id again s s') (hs : s.Sound)
    (ho : s.Orderly) (hn : s'.Nested) (hplan : OrderlyPlan s id again) : s'.Orderly := by
  cases h with
  | refused hsame => exact ho.same hsame
  | idle hc hworked hsame hidle => exact (ho.work hworked).same hsame
  | @made c c₀ s₀ s₁ p projectId byWhom ids hc hworked hdone hproposal hparent hwaits hmade hsame =>
    have hplanned := hplan c p projectId hc (hworked.proposal hproposal)
      (hworked.parent.symm.trans hparent) hwaits
    exact ⟨hn, hplanned.mono fun k bid hbid => (plannedBy_worked hs.wellFormed hc hworked).1
      (plannedBy_of_materializes hmade (hsame.blockedBy.1 hbid))⟩

/-! ## Bulk operations -/

/-- What the restoration of a scope keeps when no card waits. -/
structure Restorable (s : BoardState) : Prop where
  orderly : s.Orderly
  noneWaits : NoneWaits s

namespace Restorable

variable {s s' : BoardState} {c c' : WorkItem}

omit [UnicodeTables] in
lemma same (h : Restorable s) (hsame : SameCards s s') : Restorable s' :=
  ⟨h.orderly.same hsame, fun k i hi => h.noneWaits k i (hsame.items ▸ hi)⟩

omit [UnicodeTables] in
/-- Work on a card that does not wait when it is Retired afterwards. -/
lemma work {L : Licence} (h : Restorable s) (hc : s.items[id]? = some c)
    (hworked : Worked L id s c s' c')
    (hcard : c'.state = .retired → ∀ p projectId, ¬c.Awaits p projectId) : Restorable s' := by
  refine ⟨h.orderly.work hworked, fun k i hi hretired p projectId hp => ?_⟩
  by_cases hk : k = id
  · rw [hk, hworked.item hc, Option.some.injEq] at hi
    subst hi
    exact hcard hretired p projectId (awaits_of_worked hworked hp)
  · rw [hworked.others hk] at hi
    exact h.noneWaits k i hi hretired p projectId hp

omit [UnicodeTables] in
/-- An edit that leaves the contract of a card alone. -/
lemma edit (h : Restorable s) (id : ItemId) {f : WorkItem → WorkItem}
    (hf : ∀ i, WorkItem.SameTask i (f i)) : Restorable (s.editItem id f) := by
  cases hc : s.items[id]? with
  | none =>
    rw [editItem_of_none hc]
    exact h
  | some c =>
    have hworked : Worked Licence.free id s c (s.editItem id f) (f c) := .edit (.refl s c) hf
    refine h.work hc hworked fun hretired => h.noneWaits id c hc ?_
    exact (congrArg Contract.state (hf c).contract).symm.trans hretired

/-- The transition of a card that does not wait. -/
lemma transition (h : Restorable b.state) (hs : b.state.Sound) (hc : b.state.items[id]? = some c)
    (hcard : ∀ p projectId, ¬c.Awaits p projectId) (target : State) (byWhom : String)
    (reason : Option String) :
    Restorable ((Board.transition id target byWhom reason).run b).2.state := by
  rcases run_transition_idle hs h.orderly.nested id target byWhom reason
    (fun c' hc' _ => by rw [hc, Option.some.injEq] at hc'; exact hc' ▸ hcard) with
    hsame | ⟨c', hc', hcheck, hsame⟩
  · exact h.same hsame
  · rw [hc, Option.some.injEq] at hc'
    subst hc'
    have hworked : Worked Licence.free id b.state c _ _ :=
      .move (.refl _ _) (b.now 0) byWhom reason hcheck trivial
    exact (h.work hc hworked fun _ => hcard).same hsame

end Restorable

lemma sustains_unarchiveOne_idle (reason : Option String) (touched : List ItemId) (cur : ItemId) :
    Sustains (fun b => Restorable b.state) (unarchiveOne reason touched cur) := by
  refine sustains_of_structural (structural_unarchiveOne reason touched cur) fun b hs h => ?_
  unfold unarchiveOne
  rw [Locked.run_bind_ok (run_get cur b)]
  cases hfound : (b.state.items[cur]?.map b.state.populateBlockers).filter
      fun i => i.state == .retired with
  | none => exact h
  | some item =>
    obtain ⟨hitem, hretired⟩ := Option.filter_eq_some_iff.1 hfound
    obtain ⟨c, hc, rfl⟩ := Option.map_eq_some_iff.1 hitem
    have hstate : c.state = .retired := beq_iff_eq.1 hretired
    have hcard := h.noneWaits cur c hc hstate
    dsimp only
    rw [Locked.run_bind_ok (run_childrenOf cur b)]
    generalize unarchiveTarget _ _ _ = target
    have hmoved := h.transition hs hc hcard target "human" reason
    rw [Locked.run_bind, Locked.run_mapErr]
    generalize (Board.transition cur target "human" reason).run b = r at hmoved ⊢
    obtain ⟨e | moved, b₁⟩ := r
    · exact hmoved
    · exact hmoved.edit cur fun _ => ⟨rfl, Or.inl rfl, fun h => h⟩

/-- A scope without waiting cards is restored without Tasks being made. -/
lemma sustains_unarchiveScope_idle (fuel : ℕ) (id : ItemId) (reason : Option String) :
    Sustains (fun b => Restorable b.state) (unarchiveScope fuel id reason) :=
  sustains_bind (sustains_getOr id _) fun _ => sustains_bind (sustains_failIf _ _) fun _ =>
    sustains_bind (sustains_subtreeWalk _ _ _) fun _ =>
      sustains_bind (sustains_foldlM (fun _ _ _ => sustains_unarchiveOne_idle _ _ _) []) fun _ =>
        sustains_bind (sustains_get id) fun _ =>
          sustains_bind (sustains_onSome fun _ => sustains_of_structural (structural_story _ _)
            fun b _ h => h.same (.told b _ _)) fun _ => sustains_pure _

/-- The roots `roots` are on an orderly board. -/
structure Rooted (roots : List (ItemId × State)) (s : BoardState) : Prop where
  orderly : s.Orderly
  roots : ∀ p ∈ roots, ∃ c, s.items[p.1]? = some c ∧ c.parent = none

/-- The hygiene of a Project moves the Project alone. -/
lemma Rooted.transition {roots : List (ItemId × State)} (h : Rooted roots b.state)
    (hs : b.state.Sound) {p : ItemId × State} (hp : p ∈ roots) (target : State) (byWhom : String)
    (reason : Option String) :
    Rooted roots ((Board.transition p.1 target byWhom reason).run b).2.state := by
  have hidle : ∀ c, b.state.items[p.1]? = some c → target = .done →
      ∀ q projectId, ¬c.Awaits q projectId := by
    intro c hc _ q projectId hq
    obtain ⟨c', hc', hroot⟩ := h.roots p hp
    rw [hc, Option.some.injEq] at hc'
    subst hc'
    have hparent := hq.parent
    rw [hroot] at hparent
    cases hparent
  rcases run_transition_idle hs h.orderly.nested p.1 target byWhom reason hidle with
    hsame | ⟨c, hc, hcheck, hsame⟩
  · exact ⟨h.orderly.same hsame, fun q hq => by rw [hsame.items]; exact h.roots q hq⟩
  · have hworked : Worked Licence.free p.1 b.state c _ _ :=
      .move (.refl _ _) (b.now 0) byWhom reason hcheck trivial
    refine ⟨(h.orderly.work hworked).same hsame, fun q hq => ?_⟩
    obtain ⟨d, hd, hroot⟩ := h.roots q hq
    rw [hsame.items, items_moveItem, hd]
    split
    · exact ⟨_, rfl, hroot⟩
    · exact ⟨d, rfl, hroot⟩

lemma sustains_healEpic_idle {roots : List (ItemId × State)} {p : ItemId × State} (hp : p ∈ roots)
    (healed : ℕ) :
    Sustains (fun b => Rooted roots b.state) (healEpic healed p : Method Empty ℕ) := by
  refine sustains_of_structural (structural_healEpic healed p) fun b hs h => ?_
  have hshaped := (structural_transition p.1 .shaping "epic-hygiene" none).run_state
    Reshaped.refl (fun _ _ _ => Reshaped.trans) b
  rw [run_healEpic_state]
  split
  · split
    · exact (h.transition hs hp .shaping _ _).transition (hs.reshaped hshaped) hp .done _ _
    · exact h.transition hs hp .done _ _
  · exact h

/-- Completed Projects are finished without Tasks being made. -/
lemma orderly_healCompletedEpics (hs : b.state.Sound) (ho : b.state.Orderly) :
    ((healCompletedEpics : Method Empty ℕ).run b).2.state.Orderly := by
  let roots := (b.state.cards.filter fun i => i.parent.isNone && !i.state.isTerminal).map
    fun i => (i.id, i.state)
  have hroots : ∀ p ∈ roots, ∃ c, b.state.items[p.1]? = some c ∧ c.parent = none := by
    intro p hp
    obtain ⟨c, hc, rfl⟩ := List.mem_map.1 hp
    obtain ⟨hmem, hroot⟩ := List.mem_filter.1 hc
    rw [Bool.and_eq_true, Option.isNone_iff_eq_none] at hroot
    exact ⟨c, hs.wellFormed.mem_cards_iff.1 hmem, hroot.1⟩
  have hloop : Sustains (fun b => Rooted roots b.state)
      (roots.foldlM healEpic 0 : Method Empty ℕ) :=
    sustains_foldlM (fun healed p hp => sustains_healEpic_idle hp healed) 0
  unfold healCompletedEpics
  rw [Locked.run_bind_ok (run_read _ _)]
  exact (hloop.keeps.run ⟨hs, ho, hroots⟩).2.orderly

/-! ## Runs -/

lemma KeepsOrder.permits {s : BoardState} {op : Operation} (h : KeepsOrder s op)
    (happroving : ¬Approving op) (hheal : op ≠ .healCompletedEpics)
    (hrestore : ∀ fuel id reason, op ≠ .unarchiveScope fuel id reason) :
    Licence.orderly.Permits s op := by
  cases op with
  | create | proposePlan | setProposal | proposeSplit => simp [Licence.Permits, Licence.orderly]
  | transition id target byWhom reason =>
    refine ⟨fun _ _ _ => trivial, fun hdone => happroving ?_⟩
    rw [hdone]
    exact .transition id byWhom reason
  | updateItem id title intent dod engine projectPrompt =>
    exact fun _ _ => ⟨title, intent, dod, engine, projectPrompt, rfl⟩
  | setBlockedBy id blockers => exact fun c hc => h ⟨c, hc⟩
  | createTask parent title intent dod blockers capability aboveLine =>
    intro hparent hdod s' hjust bid hbid hway
    refine h hparent hdod bid hbid (ReflTransGen.mono (fun k bid' hk => ?_) bid s.nextId hway)
    obtain ⟨i, hi, hmem⟩ := hk
    by_cases hnew : k = s.nextId
    · obtain ⟨c, hc, -, -, hnone⟩ := hjust.item
      rw [hnew, hc, Option.some.injEq] at hi
      rw [← hi, hnone] at hmem
      cases hmem
    · exact ⟨i, (hjust.others hnew) ▸ hi, hmem⟩
  | approveReview fuel id => exact absurd (.approveReview fuel id) happroving
  | approvePlan fuel id => exact absurd (.approvePlan fuel id) happroving
  | completeForMergedPr prUrl prNumber byWhom =>
    exact absurd (.completeForMergedPr prUrl prNumber byWhom) happroving
  | materializePendingProposal id =>
    exact absurd (.materializePendingProposal id) happroving
  | healCompletedEpics => exact absurd rfl hheal
  | unarchiveScope fuel id reason => exact absurd rfl (hrestore fuel id reason)
  | _ => trivial

/-- One step keeps the board without loops. -/
lemma orderly_exec {op : Operation} (hs : b.state.Sound) (ho : b.state.Orderly)
    (h : KeepsOrder b.state op) : (b.exec op).state.Orderly := by
  by_cases happroving : Approving op
  · have hnested : (b.exec op).state.Nested := nested_after hs ho.nested [op]
    rcases approves_or_same happroving b with ⟨id, hid⟩ | hsame
    · refine orderly_of_approval (approval_exec hs ho.nested hid) hs ho hnested ?_
      cases happroving <;> exact h id hid
    · exact ho.same hsame
  by_cases hheal : op = .healCompletedEpics
  · subst hheal
    rw [exec_state (m := (Board.healCompletedEpics : Method Empty ℕ)) rfl]
    exact orderly_healCompletedEpics hs ho
  by_cases hrestore : ∃ fuel id reason, op = .unarchiveScope fuel id reason
  · obtain ⟨fuel, id, reason, rfl⟩ := hrestore
    rw [exec_state (m := Board.unarchiveScope fuel id reason) rfl]
    exact ((sustains_unarchiveScope_idle fuel id reason).keeps.run ⟨hs, ho, h⟩).2.orderly
  · push Not at hrestore
    refine lasting_orderly.hush.keeps_exec hs ho
      (h.permits happroving hheal hrestore) (fun fuel id reason hop => ?_)
      fun id hop => ?_
    · subst hop
      exact lasting_orderly.exec_cutScope (fun _ _ _ => trivial) fuel id reason hs ho
    · subst hop
      rw [exec_deleteItem_state]
      exact ho.delete hs.wellFormed id

end Board

omit [UnicodeTables] in
/-- The card `k` waits for a run: it is an unparked Backlog leaf of the Project with a definition
of done. -/
structure BoardState.Waiting (s : BoardState) (projectId k : ItemId) (c : WorkItem) : Prop where
  item : s.items[k]? = some c
  parent : c.parent = some projectId
  backlog : c.state = .backlog
  unparked : c.parked = false
  leaf : ∀ (j : ItemId) (child : WorkItem), s.items[j]? = some child → child.parent = some k →
    child.state = .retired
  defined : c.definitionOfDone.isSome = true

omit [UnicodeTables] in
/-- The Project has cards that wait, and these wait for each other only. -/
structure BoardState.Standstill (s : BoardState) (projectId : ItemId) : Prop where
  some : ∃ k c, s.Waiting projectId k c
  closed : ∀ k c, s.Waiting projectId k c → ∀ bid ∈ c.blockedBy, ∀ blocker : WorkItem,
    s.items[bid]? = .some blocker → blocker.state.isTerminal = false →
      s.Waiting projectId bid blocker

omit [UnicodeTables] in
/-- Without loops, cards that wait for each other only do not all wait. -/
lemma BoardState.Orderly.claimable {s : BoardState} (h : s.Orderly) (hs : s.WellFormed)
    {projectId : ItemId} (hstill : s.Standstill projectId) :
    ∃ k c, s.Waiting projectId k c ∧ s.PassesClaim k c := by
  let waiting : Set ItemId := {k | ∃ c, s.Waiting projectId k c}
  have hfinite : waiting.Finite := by
    refine (List.finite_toSet (s.items.toList.map Prod.fst)).subset fun k hk => ?_
    obtain ⟨c, hc⟩ := hk
    exact List.mem_map.2 ⟨(k, c), ExtTreeMap.mem_toList_iff_getElem?_eq_some.2 hc.item, rfl⟩
  obtain ⟨k, ⟨c, hc⟩, hsink⟩ := h.acyclic.exists_sink hfinite hstill.some
  refine ⟨k, c, hc, hc.item, hc.unparked, ?_⟩
  refine check_claimed_iff.2 ⟨hc.backlog, hs.hasChildren_eq_false_iff.2 hc.leaf, ?_⟩
  refine unresolvedBlockers_eq_nil_iff.2 fun bid hbid blocker hblocker => ?_
  by_contra hopen
  have hlive : blocker.state.isTerminal = false := by
    rw [← Bool.not_eq_true, State.isTerminal_iff]
    exact hopen
  exact hsink bid ⟨blocker, hstill.closed k c hc bid hbid blocker hblocker hlive⟩
    ⟨c, hc.item, hbid⟩

namespace Board

/-- In every run whose steps write no edge that closes a loop, the edges have no loop, and where
the cards of a Project that wait for a run wait for each other only, one of them may be claimed. -/
theorem blockedBy_acyclic (schema : Schema) (clock : ℕ → ℕ → Time) (saveSucceeds : ℕ → Bool)
    (ops : List Operation)
    (hmeets : Meets (fun op s => KeepsOrder s op) (Board.new schema clock saveSucceeds) ops) :
    let b := (Board.new schema clock saveSucceeds).after ops
    Acyclic b.state.BlockedBy ∧ ∀ projectId, b.state.Standstill projectId →
      ∃ k c, b.state.Waiting projectId k c ∧ ∀ agentId model timeoutSecs,
        failure (claim k agentId model timeoutSecs) b = none := by
  intro b
  have hnew : (Board.new schema clock saveSucceeds).state.Orderly :=
    ⟨Nested.empty, fun a ha => by
      obtain ⟨bid, hstep⟩ : ∃ bid, BoardState.empty.BlockedBy a bid := by
        rcases TransGen.head'_iff.1 ha with ⟨bid, hstep, -⟩
        exact ⟨bid, hstep⟩
      obtain ⟨i, hi, -⟩ := hstep
      simp [BoardState.empty] at hi⟩
  obtain ⟨hs, ho⟩ := hmeets.invariant (I := fun b => b.state.Sound ∧ b.state.Orderly)
    (fun b op h hC => ⟨h.1.reshaped (reshaped_exec b op), orderly_exec h.1 h.2 hC⟩)
    ⟨sound_new _ _ _, hnew⟩
  refine ⟨ho.acyclic, fun projectId hstill => ?_⟩
  obtain ⟨k, c, hc, hpasses⟩ := ho.claimable hs.wellFormed hstill
  exact ⟨k, c, hc, fun _ _ _ => failure_claim_eq_none_iff.2 ⟨c, hpasses⟩⟩

end Board

end Unicode

namespace Board

/-- A step that blocks a new Task by a card that waits for none. -/
lemma keepsOrder_createTask [UnicodeTables] {s : BoardState} {blocker : ItemId}
    (hnext : s.nextId ≠ blocker)
    (hblocker : s.items[blocker]?.map WorkItem.blockedBy = some []) (parent : ItemId)
    (title intent dod : String) (capability : Option String) (aboveLine : Bool) :
    KeepsOrder s (.createTask parent title intent dod [blocker] capability aboveLine) := by
  intro _ _ bid hbid hway
  rw [List.mem_singleton.1 hbid] at hway
  rcases ReflTransGen.cases_head hway with heq | ⟨next, ⟨i, hi, hmem⟩, -⟩
  · exact hnext heq.symm
  · rw [hi, Option.map_some, Option.some.injEq] at hblocker
    rw [hblocker] at hmem
    cases hmem

set_option maxRecDepth 100000 in
/-- The only card that another one waits for is the Initial plan. -/
lemma linkedRun_blockers :
    let := asciiTables
    let s := ((Board.new Schema.default (fun _ _ => 0) fun _ => true).after linkedRun).state
    ∀ c ∈ s.cards, ∀ bid ∈ c.blockedBy, bid = 2 := by
  decide

set_option maxRecDepth 100000 in
/-- The Initial plan waits for a run. -/
lemma linkedRun_waiting :
    let := asciiTables
    let s := ((Board.new Schema.default (fun _ _ => 0) fun _ => true).after linkedRun).state
    ∃ c, s.Waiting 1 2 c := by
  intro tables s
  have hs : s.WellFormed := wellFormed_reached _ _ _ linkedRun
  have hcard : (s.items[2]?.map fun c => (c.parent, c.state, c.parked,
      c.definitionOfDone.isSome)) = some (some 1, .backlog, false, true) := by decide
  have hleaf : s.hasChildren 2 = false := by decide
  obtain ⟨c, hc, hfields⟩ := Option.map_eq_some_iff.1 hcard
  simp only [Prod.mk.injEq] at hfields
  exact ⟨c, hc, hfields.1, hfields.2.1, hfields.2.2.1, hs.hasChildren_eq_false_iff.1 hleaf,
    hfields.2.2.2⟩

/-- Cards that wait for one waiting card only are at a standstill. -/
lemma standstill_of_one {s : BoardState} {projectId k : ItemId} {c : WorkItem}
    (hc : s.Waiting projectId k c)
    (hblockers : ∀ c ∈ s.cards, ∀ bid ∈ c.blockedBy, bid = k) : s.Standstill projectId := by
  refine ⟨⟨k, c, hc⟩, fun j d hd bid hbid blocker hblocker _ => ?_⟩
  rw [hblockers d (mem_cards.2 ⟨j, hd.item⟩) bid hbid] at hblocker ⊢
  rw [hc.item, Option.some.injEq] at hblocker
  rw [← hblocker]
  exact hc

set_option maxRecDepth 100000 in
/-- The theorem on a board where a Task waits for the Initial plan. -/
theorem blockedBy_acyclic_linked :
    let := asciiTables
    let b := (Board.new Schema.default (fun _ _ => 0) fun _ => true).after linkedRun
    Acyclic b.state.BlockedBy ∧ ∃ k c, b.state.Waiting 1 k c ∧ ∀ agentId model timeoutSecs,
      failure (claim k agentId model timeoutSecs) b = none := by
  intro tables b
  let b₁ := (Board.new Schema.default (fun _ _ => 0) fun _ => true).exec
    (.create ⟨none, "Docs", "", none, .human, false, none⟩)
  have hnext : b₁.state.nextId ≠ 2 := by decide
  have hplan : b₁.state.items[2]?.map WorkItem.blockedBy = some [] := by decide
  have hmeets : Meets (fun op s => KeepsOrder s op)
      (Board.new Schema.default (fun _ _ => 0) fun _ => true) linkedRun :=
    ⟨(fun _ h => nomatch h), keepsOrder_createTask hnext hplan 1 "Guide" "" "written" none false,
      trivial⟩
  obtain ⟨hacyclic, hclaim⟩ := blockedBy_acyclic _ _ _ linkedRun hmeets
  obtain ⟨c, hc⟩ := linkedRun_waiting
  exact ⟨hacyclic, hclaim 1 (standstill_of_one hc linkedRun_blockers)⟩

/-- A run that makes the Initial plan of a Project wait for itself. -/
def selfBlockedRun : List Operation :=
  [.create ⟨none, "Docs", "", none, .human, false, none⟩, .setBlockedBy 2 [2]]

set_option maxRecDepth 100000 in
/-- The only Task of the Project waits for itself, and nobody can claim it. -/
theorem selfBlocked_stuck :
    let := asciiTables
    let b := (Board.new Schema.default (fun _ _ => 0) fun _ => true).after selfBlockedRun
    (∃ c, b.state.Waiting 1 2 c ∧ c.blockedBy = [2]) ∧ ¬Acyclic b.state.BlockedBy ∧
      failure (claim 2 "agent" none 60) b ≠ none := by
  intro tables b
  have hs : b.state.WellFormed := wellFormed_reached _ _ _ selfBlockedRun
  have hcard : (b.state.items[2]?.map fun c => (c.parent, c.state, c.parked,
      c.definitionOfDone.isSome, c.blockedBy)) = some (some 1, .backlog, false, true, [2]) := by
    decide
  have hleaf : b.state.hasChildren 2 = false := by decide
  obtain ⟨c, hc, hfields⟩ := Option.map_eq_some_iff.1 hcard
  simp only [Prod.mk.injEq] at hfields
  have hself : b.state.BlockedBy 2 2 := ⟨c, hc, by rw [hfields.2.2.2.2]; exact List.mem_singleton_self 2⟩
  refine ⟨⟨c, ⟨hc, hfields.1, hfields.2.1, hfields.2.2.1, hs.hasChildren_eq_false_iff.1 hleaf,
    hfields.2.2.2.1⟩, hfields.2.2.2.2⟩, fun hacyclic => hacyclic.irrefl 2 hself, ?_⟩
  rw [Ne, failure_claim_eq_none_iff]
  rintro ⟨c', hc', -, hcheck⟩
  have hopen := unresolvedBlockers_eq_nil_iff.1 (check_claimed_iff.1 hcheck).2.2
  obtain ⟨i, hi, hmem⟩ := hself
  have hsame : i = c' := Option.some.inj (hi.symm.trans hc')
  rcases hopen 2 (hsame ▸ hmem) c hc with hstate | hstate
  · rw [hfields.2.1] at hstate
    cases hstate
  · rw [hfields.2.1] at hstate
    cases hstate

end Board

end Sandboard

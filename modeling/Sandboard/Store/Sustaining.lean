import Sandboard.Store.Refusals
import Sandboard.Store.Upkeep

/-!
# Methods that keep an invariant

An invariant with the rules of `Upkeep` is kept by every method that emits what it changes.
Where a method writes what its arguments say, the licence has to cover that.
-/

namespace Sandboard

open Std Text BoardState

namespace Resolves

variable [UnicodeTables] {p : TaskProposal} {keyToId : List (String × ItemId)} {s : BoardState}

lemma edit (h : Resolves p keyToId s) (id : ItemId) (f : WorkItem → WorkItem) :
    Resolves p keyToId (s.editItem id f) := by
  refine ⟨h.rows, fun e he => ?_⟩
  obtain ⟨i, hi⟩ := h.present e he
  rw [items_editItem, hi]
  split
  · exact ⟨f i, rfl⟩
  · exact ⟨i, rfl⟩

/-- Planted rows are resolved. -/
lemma of_planted {fallback : Option String} {projectId id : ItemId} {byWhom : String}
    {origin : Origin} {s' : BoardState} {ids : List ItemId} (hs : s.WellFormed)
    (h : Board.Planted fallback projectId byWhom origin (Board.existingByTitle projectId id s) s
      p.tasks s' ids) : Resolves p (Board.rowKeys p.tasks ids) s' := by
  refine ⟨⟨fallback, projectId, byWhom, origin, id, s, s', ids, h, hs, rfl⟩, fun e he => ?_⟩
  refine h.present hs (fun title sibling hlookup => ?_) e.2 (List.of_mem_zip (List.mem_reverse.1 he)).2
  exact ⟨sibling, (Board.lookup_existingByTitle hs hlookup).1⟩

end Resolves

/-- The state has just got the card `id`, in Backlog and without blockers, and is otherwise
the given one. -/
structure JustCreated (s : BoardState) (id : ItemId) (s' : BoardState) : Prop where
  item : ∃ c, s'.items[id]? = some c ∧ c.id = id ∧ c.state = .backlog ∧ c.blockedBy = []
  others : ∀ {k}, k ≠ id → s'.items[k]? = s.items[k]?

namespace Board

variable {ε ε' α β : Type} {I : Board → Prop} {L : Licence}

section Unicode

variable [UnicodeTables]

section Upkeep

variable (U : Upkeep L I)

include U

/-! ## Materialization -/

lemma sustains_materializeRow {card : WorkItem} {projectId : ItemId} {byWhom : String}
    {origin : Origin} {existing : List (String × WorkItem)} {acc : Materialized}
    {spec : PlanTaskSpec} (hspec : L.defines (some spec.definitionOfDone)) :
    Sustains I (materializeRow card projectId byWhom origin existing acc spec) := by
  unfold materializeRow
  split
  · exact sustains_pure _
  · exact sustains_bind (sustains_createUnder U hspec) fun _ =>
      sustains_bind (sustains_mapErr (sustains_transitionOn U _ (by decide) (by decide) _ _))
        fun _ => sustains_bind
          (sustains_mapErr (sustains_transitionOn U _ (by decide) (by decide) _ _)) fun _ =>
            sustains_pure _

omit U [UnicodeTables] in
/-- A row writes the edges of its Task, or nothing. -/
lemma run_linkRow_cases (keyToId : List (String × ItemId)) (spec : PlanTaskSpec) (b : Board) :
    (linkRow keyToId spec).run b = (.ok (), b) ∨ ∃ sid, keyToId.lookup spec.key = some sid ∧
      (linkRow keyToId spec).run b = (setBlockedBy sid (resolved keyToId spec)).run b := by
  unfold linkRow
  cases keyToId.lookup spec.key with
  | none => exact Or.inl rfl
  | some sid =>
    rw [Locked.onSome_some]
    change (Locked.when (!(resolved keyToId spec).isEmpty) _).run b = _ ∨ ∃ sid', _ ∧
      (Locked.when (!(resolved keyToId spec).isEmpty) _).run b = _
    rw [Locked.run_when]
    split
    · exact Or.inr ⟨sid, rfl, rfl⟩
    · exact Or.inl rfl

/-- The edges of a row of a licensed proposal are written. -/
lemma keeps_linkRow {p : TaskProposal} {keyToId : List (String × ItemId)} {spec : PlanTaskSpec}
    (happroves : L.approves) (hp : L.proposes p) (hspec : spec ∈ p.tasks) :
    (linkRow keyToId spec).Keeps fun b =>
      (b.state.Sound ∧ I b) ∧ Resolves p keyToId b.state := by
  refine .of_run fun b hb => ?_
  obtain ⟨⟨hs, hI⟩, hres⟩ := hb
  rcases run_linkRow_cases keyToId spec b with hrun | ⟨sid, hlookup, hrun⟩
  · rw [hrun]
    exact ⟨⟨hs, hI⟩, hres⟩
  · obtain ⟨before, after, hsplit, -⟩ := List.lookup_eq_some_iff.1 hlookup
    obtain ⟨c, hc⟩ := hres.present (spec.key, sid) (by simp [hsplit])
    rw [hrun, setBlockedBy, run_editIf_wanted hc rfl]
    exact ⟨⟨hs.reshaped (.edit sid fun _ => ⟨rfl, rfl, rfl, rfl, fun h => h⟩),
      U.link hs hI hc (U.resolved happroves hp hres hspec)⟩, hres.edit sid _⟩

lemma keeps_linkRows {p : TaskProposal} {keyToId : List (String × ItemId)}
    (happroves : L.approves) (hp : L.proposes p) :
    (p.tasks.forM (linkRow keyToId)).Keeps fun b =>
      (b.state.Sound ∧ I b) ∧ Resolves p keyToId b.state :=
  .forM fun _ hspec => keeps_linkRow U happroves hp hspec

/-- The proposal of a card becomes Tasks. -/
lemma sustains_materializeProposal (happroves : L.approves) (id : ItemId) (byWhom : String)
    (origin : Origin) :
    Sustains I (materializeProposal id byWhom origin) := by
  refine ⟨fun b hb => ?_⟩
  unfold materializeProposal
  cases hc : b.state.items[id]? with
  | none =>
    rw [Locked.run_bind_error (run_getOr_none hc _)]
    exact hb
  | some c =>
    rw [Locked.run_bind_ok (run_getOr_some hc _)]
    have hproposal : (b.state.populateBlockers c).proposal = c.proposal := rfl
    have hparent : (b.state.populateBlockers c).parent = c.parent := rfl
    rw [hproposal, hparent]
    cases hp : c.proposal.filter fun p => !p.tasks.isEmpty with
    | none => exact hb
    | some p =>
      obtain ⟨hsome, -⟩ := Option.filter_eq_some_iff.1 hp
      have hlicensed : L.proposes p := U.proposed happroves hb.2 hc hsome
      cases c.parent with
      | none => exact hb
      | some projectId =>
        dsimp only
        rw [Locked.run_bind_ok (run_read _ b)]
        have hrows : Sustains I (p.tasks.foldlM (materializeRow (b.state.populateBlockers c)
            projectId byWhom origin (existingByTitle projectId id b.state)) ([], [])) :=
          sustains_foldlM (fun _ _ hspec => sustains_materializeRow U (U.rows hlicensed hspec)) _
        have hkept := hrows.keeps.run hb
        have hloop := @run_materializeRows _ (b.state.populateBlockers c) projectId byWhom origin
          (existingByTitle projectId id b.state) b p.tasks ([], []) hb.1.wellFormed
        rcases hloop with
          ⟨made, ids, b₁, hrun, -, hplanted⟩ | ⟨-, e, b₁, hrun⟩
        · rw [List.nil_append, List.append_nil] at hrun
          rw [hrun] at hkept
          have hlinked := (keeps_linkRows U happroves hlicensed).run
            ⟨hkept, .of_planted hb.1.wellFormed hplanted⟩
          obtain ⟨b₂, hlinks, -⟩ := run_linkRows (rowKeys p.tasks ids) p.tasks b₁
          rw [hlinks] at hlinked
          rw [Locked.run_bind_ok hrun]
          dsimp only
          rw [Locked.run_bind_ok hlinks]
          refine (sustains_bind (sustains_editIf U fun b c hs hI hc => ?_) fun _ =>
            sustains_pure _).keeps b₂ hlinked.1
          exact ⟨hs.reshaped (.edit id fun _ => ⟨rfl, rfl, rfl, rfl, fun h => h⟩),
            U.settle _ _ happroves hs hI hc⟩
        · rw [Locked.run_bind_error hrun]
          rw [hrun] at hkept
          exact hkept

lemma sustains_materializeProposalOnDone (happroves : L.approves) (id : ItemId)
    (byWhom : String) :
    Sustains I (materializeProposalOnDone id byWhom) := by
  refine sustains_bind (sustains_get id) fun card => ?_
  cases card with
  | none => exact sustains_pure 0
  | some card =>
    dsimp only
    split
    · exact sustains_pure 0
    · split
      · exact sustains_pure 0
      · exact sustains_bind (sustains_materializeProposal U happroves _ _ _) fun _ =>
          sustains_bind (sustains_onSome fun _ =>
            sustains_editIf_task U fun _ => ⟨rfl, Or.inl rfl, fun _ => rfl⟩) fun _ =>
            sustains_bind (sustains_story U _ _) fun _ => sustains_pure _

lemma sustains_materializePendingProposal (happroves : L.approves) (id : ItemId) :
    Sustains I (materializePendingProposal id) :=
  sustains_bind (sustains_getOr id _) fun _ => sustains_bind (sustains_failIf _ _) fun _ =>
    sustains_bind (sustains_materializeProposal U happroves _ _ _) fun _ =>
      sustains_bind (sustains_when fun _ => sustains_story U _ _) fun _ => sustains_pure _

/-! ## Transitions -/

/-- A move that the licence covers. -/
lemma sustains_transition_of_moves {id : ItemId} {target : State} {byWhom : String}
    {reason : Option String}
    (hmove : ∀ s c, s.Sound → s.items[id]? = some c → s.checkMove id c target = .ok () →
      L.moves s id c target) (hdone : target = .done → L.approves) :
    Sustains I (transition id target byWhom reason) :=
  sustains_transitionWith U hmove fun htarget =>
    sustains_materializeProposalOnDone U (hdone htarget) id byWhom

/-- A move to a usual state. -/
lemma sustains_transition (id : ItemId) {target : State} (hretired : target ≠ .retired)
    (hrunning : target ≠ .running) (hdone : target = .done → L.approves) (byWhom : String)
    (reason : Option String) : Sustains I (transition id target byWhom reason) :=
  sustains_transition_of_moves U (fun _ _ _ _ _ => U.moves hretired hrunning) hdone

lemma sustains_transitionOrMessage (id : ItemId) {target : State} (hretired : target ≠ .retired)
    (hrunning : target ≠ .running) (hdone : target = .done → L.approves) (byWhom reason : String) :
    Sustains I (transitionOrMessage id target byWhom reason) :=
  sustains_mapErr (sustains_transition U id hretired hrunning hdone byWhom _)

/-! ## Creating cards -/

omit U [UnicodeTables] in
lemma initialPlanDod_ne (clone : Option String) : initialPlanDod clone ≠ "" := by
  have happend : ∀ a b : String, b ≠ "" → a ++ b ≠ "" := by
    intro a b hb h
    exact hb (String.append_eq_empty_iff.1 h).2
  unfold initialPlanDod
  cases clone with
  | none => simp
  | some c => exact happend _ _ (by simp)

lemma sustains_seedInitialPlan (projectId : ItemId) : Sustains I (seedInitialPlan projectId) := by
  refine sustains_bind (sustains_getOr projectId _) fun project =>
    sustains_bind (sustains_failIf _ _) fun _ => sustains_bind (sustains_read _) fun existing => ?_
  cases existing with
  | some existing => exact sustains_pure existing
  | none =>
    refine sustains_bind (sustains_createUnder U (U.defined ?_)) fun _ =>
      sustains_bind (sustains_attempt (sustains_transitionOn U _ (by decide) (by decide) _ _))
        fun _ => sustains_bind
          (sustains_mapErr (sustains_transitionOn U _ (by decide) (by decide) _ _)) fun _ =>
            sustains_bind (sustains_story U _ _) fun _ => sustains_pure _
    exact initialPlanDod_ne _

lemma sustains_create {c : NewCard} (hdod : L.defines c.definitionOfDone) :
    Sustains I (create c) :=
  sustains_createWith U (sustains_seedInitialPlan U) hdod

omit U [UnicodeTables] in
/-- Setting the prompt of a Project leaves its contract alone. -/
lemma sameTask_updated_prompt (prompt : Option String) (i : WorkItem) :
    WorkItem.SameTask i (updated none none none none prompt i) :=
  ⟨rfl, Or.inl rfl, fun h => h⟩

lemma sustains_createProject (title intent cloneRepo : String) (aboveLine : Bool)
    (projectPrompt : Option String) :
    Sustains I (createProject title intent cloneRepo aboveLine projectPrompt) :=
  sustains_bind (sustains_ret _) fun _ =>
    sustains_bind (sustains_create U U.undefined) fun _ =>
      sustains_bind (sustains_onSome fun prompt =>
        sustains_bind (sustains_attempt (sustains_editOr U fun _ =>
          sameTask_updated_prompt (some prompt))) fun _ => sustains_pure ()) fun _ =>
        sustains_bind (sustains_attempt (sustains_seedInitialPlan U _)) fun _ =>
          sustains_bind (sustains_get _) fun _ => sustains_pure _

/-! ## Proposals -/

/-- A licensed proposal is stored. -/
lemma sustains_setProposal {id : ItemId} {proposal : TaskProposal}
    (hp : checkProposal proposal = .ok () → L.proposes proposal) :
    Sustains I (setProposal id proposal) := by
  refine sustains_of_structural (structural_setProposal id proposal) fun b hs hI => ?_
  cases hcheck : checkProposal proposal with
  | error e =>
    rw [run_setProposal_error hcheck]
    exact hI
  | ok u =>
    cases hc : b.state.items[id]? with
    | none =>
      have hrun : (setProposal id proposal).run b =
          (.error s!"no work item #{id}", b.stepped b.state) := by simp [setProposal, hcheck, hc]
      rw [hrun]
      exact U.tick hI
    | some c =>
      by_cases hfrozen : c.isInitialPlanTask = true ∧ (c.state = .done ∨ c.state = .retired)
      · have hrun : (setProposal id proposal).run b =
            (.error "Initial plan already accepted — proposal is frozen", b.stepped b.state) := by
          simp [setProposal, hcheck, hc, hfrozen]
        rw [hrun]
        exact U.tick hI
      · have hrun : (setProposal id proposal).run b = (.ok (c.withProposal proposal),
            b.published (b.state.editItem id (WorkItem.withProposal proposal))
              (c.withProposal proposal)) := by
          simp [setProposal, hcheck, hc, hfrozen, published]
        rw [hrun]
        exact U.propose hs hI hc (hp hcheck)

omit U [UnicodeTables] in
lemma sustains_findInitialPlan (ids : List ItemId) :
    Sustains I (findInitialPlan ids : Method ε _) := by
  induction ids with
  | nil => exact sustains_pure none
  | cons cid rest ih =>
    refine sustains_bind (sustains_get cid) fun child => ?_
    split
    · exact sustains_pure _
    · exact ih

omit U [UnicodeTables] in
lemma sustains_resolveInitialPlanId (id : ItemId) : Sustains I (resolveInitialPlanId id) := by
  refine sustains_bind (sustains_getOr id _) fun item => ?_
  split
  · exact sustains_pure id
  · split
    · refine sustains_bind (sustains_childrenOf id) fun kids =>
        sustains_bind (sustains_findInitialPlan kids) fun found => ?_
      cases found with
      | some cid => exact sustains_pure cid
      | none => exact sustains_fail _
    · exact sustains_fail _

lemma sustains_proposePlan {id : ItemId} {summary : String} {tasks : List PlanTaskSpec}
    (hp : checkProposal ⟨summary, tasks⟩ = .ok () → L.proposes ⟨summary, tasks⟩) :
    Sustains I (proposePlan id summary tasks) :=
  sustains_bind (sustains_ret _) fun _ =>
    sustains_bind (sustains_resolveInitialPlanId id) fun seedId =>
      sustains_bind (sustains_getOr seedId _) fun _ => sustains_bind (sustains_failIf _ _) fun _ =>
        sustains_bind (sustains_setProposal U hp) fun _ =>
          sustains_bind (sustains_story U _ _) fun _ => sustains_pure _

/-! ## Creating Tasks -/

omit U [UnicodeTables] in
lemma justCreated_plantTask (schema : Schema) (c : NewCard) (byWhom : String)
    (reason : Option String) (t : ℕ → Time) (s : BoardState) :
    JustCreated s s.nextId (plantTask schema c byWhom reason t s) where
  item := ⟨_, (items_plantTask _ _ _ _ _ _ _).trans (if_pos rfl), rfl, rfl, rfl⟩
  others hk := (items_plantTask _ _ _ _ _ _ _).trans (if_neg hk)

/-- A Task is created, shaped, and moved to Backlog, and the invariant holds then. -/
lemma keeps_planted {c : NewCard} {b : Board} (hparent : checkParent b.state c.parent = .ok ())
    (hdod : c.definitionOfDone.isSome = true) (hdefines : L.defines c.definitionOfDone)
    (byWhom : String) (reason : Option String) (hs : b.state.Sound) (hI : I b) :
    ∃ created shaped item b₁ b₂ b', (createUnder c).run b = (.ok created, b₁) ∧
      ((transitionOn created.id .shaping byWhom reason).mapErr TransitionError.message).run b₁ =
        (.ok shaped, b₂) ∧
      ((transitionOn created.id .backlog byWhom reason).mapErr TransitionError.message).run b₂ =
        (.ok item, b') ∧
      item.id = b.state.nextId ∧ JustCreated b.state b.state.nextId b'.state ∧
        b'.state.Sound ∧ I b' := by
  obtain ⟨created, shaped, item, b₁, b₂, b₃, t, hcreate, hshaped, hqueued, -, hid, hstate⟩ :=
    run_planted hparent hdod byWhom reason
  have hmoves : ∀ target, target ≠ .retired → target ≠ .running →
      Sustains I ((transitionOn created.id target byWhom reason).mapErr TransitionError.message) :=
    fun _ hretired hrunning =>
      sustains_mapErr (sustains_transitionOn U created.id hretired hrunning byWhom reason)
  have h₁ := (sustains_createUnder U hdefines).keeps.run ⟨hs, hI⟩
  rw [hcreate] at h₁
  have h₂ := (hmoves .shaping (by decide) (by decide)).keeps.run h₁
  rw [hshaped] at h₂
  have h₃ := (hmoves .backlog (by decide) (by decide)).keeps.run h₂
  rw [hqueued] at h₃
  refine ⟨created, shaped, item, b₁, b₂, b₃, hcreate, hshaped, hqueued, hid, ?_, h₃⟩
  rw [hstate]
  exact justCreated_plantTask _ _ _ _ _ _

/-- The edges of a new Task are its creator's. -/
lemma keeps_createTask {parent : ItemId} {title intent definitionOfDone : String}
    {blockedBy : List ItemId} {capability : Option String} {aboveLine : Bool} {b : Board}
    (hlinks : checkParent b.state (some parent) = .ok () → Text.trim definitionOfDone ≠ "" →
      ∀ s', JustCreated b.state b.state.nextId s' → L.links s' b.state.nextId blockedBy)
    (hs : b.state.Sound) (hI : I b) :
    let b' := ((createTask parent title intent definitionOfDone blockedBy capability
      aboveLine).run b).2
    b'.state.Sound ∧ I b' := by
  dsimp only
  unfold createTask
  cases hproject : b.state.items[parent]? with
  | none =>
    rw [Locked.run_bind_error (run_getOr_none hproject _)]
    exact ⟨hs, hI⟩
  | some project =>
    rw [Locked.run_bind_ok (run_getOr_some hproject _), Locked.run_failIf_bind]
    split
    · exact ⟨hs, hI⟩
    · dsimp only
      rw [Locked.run_failIf_bind]
      split
      · exact ⟨hs, hI⟩
      · rename_i hdod
        have hne : Text.trim definitionOfDone ≠ "" := fun h => hdod (by rw [h]; rfl)
        cases hparent : checkParent b.state (some parent) with
        | error e =>
          rw [Locked.run_bind_error (run_createUnder_error hparent)]
          exact ⟨hs, hI⟩
        | ok u =>
          obtain ⟨created, shaped, item, b₁, b₂, b₃, hcreate, hshaped, hqueued, hid, hjust, hs₃,
            hI₃⟩ := keeps_planted U (c := ⟨some parent, title,
              stampTaskIntent (b.state.populateBlockers project).intent intent
                (Text.trim definitionOfDone), some (Text.trim definitionOfDone), .human, aboveLine,
              capability⟩) hparent rfl (U.defined hne) "human" (some "create task") hs hI
          rw [Locked.run_bind_ok hcreate, Locked.run_bind_ok hshaped, Locked.run_bind_ok hqueued,
            hid]
          obtain ⟨c, hc, -⟩ := hjust.item
          have hlinked : Sustains I (do
              let fresh ← get b.state.nextId
              return fresh.getD item : Method String WorkItem) :=
            sustains_bind (sustains_get _) fun _ => sustains_pure _
          by_cases hnone : (!blockedBy.isEmpty) = true
          · have hedit : (Locked.when ((!blockedBy.isEmpty) = true)
                (setBlockedBy b.state.nextId blockedBy) : Method String Unit).run b₃ =
                (.ok (), b₃.published (b₃.state.editItem b.state.nextId
                  (WorkItem.blockedOn blockedBy)) (c.blockedOn blockedBy)) := by
              rw [Locked.run_when, if_pos hnone, setBlockedBy, run_editIf_wanted hc rfl]
            rw [Locked.run_bind_ok hedit]
            exact hlinked.keeps.run ⟨hs₃.reshaped (.edit _ fun _ => ⟨rfl, rfl, rfl, rfl, fun h => h⟩),
              U.link hs₃ hI₃ hc (hlinks hparent hne _ hjust)⟩
          · have hedit : (Locked.when ((!blockedBy.isEmpty) = true)
                (setBlockedBy b.state.nextId blockedBy) : Method String Unit).run b₃ =
                (.ok (), b₃) := by
              rw [Locked.run_when, if_neg hnone]
            rw [Locked.run_bind_ok hedit]
            exact hlinked.keeps.run ⟨hs₃, hI₃⟩

/-! ## Edits of one card -/

/-- Setting the first pull request's address replaces the list. -/
lemma sustains_setPullRequests (id : ItemId) (prs : List PullRequest) :
    Sustains I (setPullRequests id prs : Method ε Unit) :=
  sustains_editIf_task U fun _ => ⟨rfl, Or.inl rfl, fun h => h⟩

lemma sustains_setPrUrl (id : ItemId) (url : Option String) :
    Sustains I (setPrUrl id url : Method ε Unit) :=
  sustains_bind (sustains_get id) fun _ => sustains_setPullRequests U id _

lemma keeps_setBlockedBy {id : ItemId} {blockers : List ItemId} {b : Board}
    (hlinks : ∀ c, b.state.items[id]? = some c → L.links b.state id blockers)
    (hs : b.state.Sound) (hI : I b) :
    let b' := ((setBlockedBy id blockers : Method ε Unit).run b).2
    b'.state.Sound ∧ I b' := by
  dsimp only
  rw [setBlockedBy]
  cases hc : b.state.items[id]? with
  | none =>
    rw [run_editIf_none hc]
    exact ⟨hs, U.tick hI⟩
  | some c =>
    rw [run_editIf_wanted hc rfl]
    exact ⟨hs.reshaped (.edit id fun _ => ⟨rfl, rfl, rfl, rfl, fun h => h⟩),
      U.link hs hI hc (hlinks c hc)⟩

lemma keeps_updateItem {id : ItemId}
    {title intent definitionOfDone engine projectPrompt : Option String} {b : Board}
    (hrewrite : ∀ c, b.state.items[id]? = some c →
      L.rewrites b.state id c (updated title intent definitionOfDone engine projectPrompt))
    (hs : b.state.Sound) (hI : I b) :
    let b' := ((updateItem id title intent definitionOfDone engine projectPrompt).run b).2
    b'.state.Sound ∧ I b' := by
  dsimp only
  rw [updateItem]
  cases hc : b.state.items[id]? with
  | none =>
    rw [run_editOr_none hc]
    exact ⟨hs, U.tick hI⟩
  | some c =>
    rw [run_editOr_some hc]
    exact ⟨hs.reshaped (.edit id fun i => sameFrame_updated _ _ _ _ _ i),
      U.rewrite hs hI hc (hrewrite c hc)⟩

omit U [UnicodeTables] in
lemma works_sandboxProfile (projectId : ItemId) (profileId : Option String) :
    Works (ε := String) L fun _ s =>
      match s.items[projectId]? with
      | none => (.error s!"no such item #{projectId}", s)
      | some it =>
        if !it.isProject then (.error s!"#{projectId} is not a Project", s)
        else
          match resolveProfile s.sandboxProfileIds profileId with
          | .error e => (.error e, s)
          | .ok resolved => s.tryEdit projectId "" (WorkItem.withSandboxProfile resolved) := by
  intro now s hs
  dsimp only
  split
  · exact worksAt_error s _
  · split
    · exact worksAt_error s _
    · split
      · exact worksAt_error s _
      · exact worksAt_tryEdit s fun _ => ⟨rfl, Or.inl rfl, fun h => h⟩

lemma sustains_setProjectSandboxProfile (projectId : ItemId) (profileId : Option String) :
    Sustains I (setProjectSandboxProfile projectId profileId) :=
  sustains_write_emit U (works_sandboxProfile projectId profileId) sustains_pure

lemma sustains_setSandboxProfiles (ids : List String) :
    Sustains I (setSandboxProfiles ids : Method ε Unit) :=
  sustains_of_run fun _ hs hI =>
    ⟨hs.reshaped (.single (.aside rfl rfl rfl rfl)), U.profiles ids hI⟩

/-! ## Dispatch -/

omit U [UnicodeTables] in
lemma worksAt_enqueueSection (id : ItemId) (s : BoardState) :
    WorksAt L s (enqueueSection id s) := by
  unfold enqueueSection
  cases hc : s.items[id]? with
  | none => exact worksAt_error s _
  | some c =>
    dsimp only
    split
    · exact worksAt_error s _
    · have hqueued : ∀ i : WorkItem, WorkItem.SameTask i i.queued :=
        fun _ => ⟨rfl, Or.inl rfl, fun h => h⟩
      exact Or.inr ⟨id, c, _, _, hc, .edit (.refl _ _) hqueued, Or.inr ⟨s, rfl⟩⟩

lemma sustains_enqueueDispatch (id : ItemId) : Sustains I (enqueueDispatch id) :=
  sustains_bind (sustains_read _) fun _ => sustains_bind (sustains_failIf _ _) fun _ =>
    sustains_write_emit U (fun _ s _ => worksAt_enqueueSection id s) fun item =>
      sustains_bind (sustains_story U _ _) fun _ => sustains_pure item

lemma sustains_clearDispatch (id : ItemId) : Sustains I (clearDispatch id) :=
  sustains_editOr U fun _ _ => ⟨rfl, Or.inl rfl, fun h => h⟩

lemma sustains_clearAwaitingUnderProject (projectId : ItemId) :
    Sustains I (clearAwaitingUnderProject projectId : Method ε ℕ) :=
  sustains_bind (sustains_read _) fun _ =>
    sustains_bind (sustains_forM fun _ =>
      sustains_bind (sustains_attempt (sustains_clearDispatch U _)) fun _ => sustains_pure ())
      fun _ => sustains_pure _

lemma sustains_autoEnqueueProject (projectId : ItemId) :
    Sustains I (autoEnqueueProject projectId : Method ε Unit) :=
  sustains_bind (sustains_read _) fun _ => sustains_forM fun _ =>
    sustains_bind (sustains_attempt (sustains_enqueueDispatch U _)) fun _ => sustains_pure ()

lemma sustains_autoEnqueueAll : Sustains I (autoEnqueueAll : Method ε Unit) :=
  sustains_bind (sustains_read _) fun _ => sustains_forM (sustains_autoEnqueueProject U)

/-- Auto mode that is set to what it was changes nothing. -/
lemma sustains_setAutoDispatch (id : ItemId) (enabled : Bool) :
    Sustains I (setAutoDispatch id enabled) := by
  refine sustains_of_run fun b hs hI => ?_
  have hauto : ∀ i : WorkItem, WorkItem.SameTask i (i.inAuto enabled) :=
    fun _ => ⟨rfl, Or.inl rfl, fun h => h⟩
  have hrefused : ∀ e, setAutoSection id enabled b.state = (.error e, b.state) →
      ((setAutoDispatch id enabled).run b).2.state.Sound ∧
        I ((setAutoDispatch id enabled).run b).2 := by
    intro e hsection
    rw [setAutoDispatch, Locked.run_bind_error (by rw [run_write, hsection])]
    exact ⟨hs, U.tick hI⟩
  cases hc : b.state.items[id]? with
  | none => exact hrefused "no such item" (by simp [setAutoSection, hc])
  | some c =>
    by_cases hproject : (c.level != some "Project" && !c.isProject) = true
    · exact hrefused "auto mode is only for Projects" (by simp only [setAutoSection, hc, hproject]; rfl)
    · have hsection : setAutoSection id enabled b.state =
          (.ok (c.title, c.autoDispatch != enabled,
            b.state.populateBlockers (c.inAuto enabled)),
            b.state.editItem id (WorkItem.inAuto enabled)) := by
        simp only [setAutoSection, hc, hproject]
        rfl
      rw [setAutoDispatch, Locked.run_bind_ok (by rw [run_write, hsection])]
      dsimp only
      have hs' : (b.state.editItem id (WorkItem.inAuto enabled)).Sound :=
        hs.reshaped (.edit id fun i => (hauto i).sameFrame)
      cases hchanged : c.autoDispatch != enabled with
      | false =>
        have hsame : b.state.editItem id (WorkItem.inAuto enabled) = b.state := by
          refine (editItem_eq_iff hc).2 ?_
          rw [← (bne_eq_false_iff_eq.1 hchanged : c.autoDispatch = enabled)]
          rfl
        rw [if_pos (by rfl), hsame]
        exact ⟨hs, U.tick hI⟩
      | true =>
        have hI' : I (b.published (b.state.editItem id (WorkItem.inAuto enabled))
            (c.inAuto enabled)) := U.work hs hI hc (.edit (.refl _ _) hauto)
        rw [if_neg (by simp), Locked.run_bind_ok (run_emit _ _)]
        have hrest : Sustains I (do
            if enabled then autoModeOn id c.title else autoModeOff id c.title
            getOr id "no such item" : Method String WorkItem) := by
          cases enabled with
          | true =>
            exact sustains_bind (sustains_bind (sustains_story U _ _) fun _ =>
              sustains_autoEnqueueProject U id) fun _ => sustains_getOr id _
          | false =>
            exact sustains_bind (sustains_bind (sustains_clearAwaitingUnderProject U id) fun _ =>
              sustains_story U _ _) fun _ => sustains_getOr id _
        exact hrest.keeps.run ⟨hs', hI'⟩

/-! ## Claims -/

omit U [UnicodeTables] in
/-- A section that moves a card and then edits it. -/
lemma worksAt_move_edit {id : ItemId} {target : State} {byWhom : String}
    {reason : Option String} {e : ε} {e' : TransitionError → ε} {f : WorkItem → WorkItem}
    (s : BoardState) (now : Time) (hmove : ∀ c, L.moves s id c target)
    (hf : ∀ i, WorkItem.SameTask i (f i)) :
    WorksAt L s (match s.transitionLocked now id target byWhom reason with
      | .error e => (.error (e' e), s)
      | .ok (_, s) => s.tryEdit id e f) := by
  cases hc : s.items[id]? with
  | none =>
    rw [transitionLocked_of_none hc]
    exact worksAt_error s _
  | some c =>
    cases hcheck : s.checkMove id c target with
    | error e =>
      rw [transitionLocked_of_error hc hcheck]
      exact worksAt_error s _
    | ok u =>
      have hmoved : (s.moveItem id c now target byWhom reason).items[id]? =
          some (c.moved now target byWhom reason) := by
        rw [items_moveItem, if_pos rfl, hc, Option.map_some]
      rw [transitionLocked_of_ok hc hcheck]
      dsimp only
      rw [tryEdit_some hmoved]
      exact Or.inr ⟨id, c, _, _, hc,
        .edit (.move (.refl _ _) now byWhom reason hcheck (hmove c)) hf, Or.inl rfl⟩

lemma worksAt_claimSection (id : ItemId) (agentId : String) (model : Option String)
    (granted deadline now : Time) (s : BoardState) :
    WorksAt L s (claimSection id agentId model granted deadline now s) := by
  unfold claimSection
  split
  · exact worksAt_error s _
  · exact worksAt_move_edit s now (fun _ => U.moves (by decide) (by decide))
      fun _ => ⟨rfl, Or.inl rfl, fun h => h⟩

omit U [UnicodeTables] in
lemma sustains_projectOf (item : WorkItem) : Sustains I (projectOf item : Method ε _) := by
  unfold projectOf
  split
  · exact sustains_pure _
  · split
    · exact sustains_get _
    · exact sustains_pure none

omit U in
lemma sustains_claimPlanContext (id : ItemId) (item : WorkItem) (deadline : Time) :
    Sustains I (claimPlanContext id item deadline : Method ε ClaimGrant) := by
  refine sustains_bind (sustains_projectOf item) fun project => ?_
  cases project with
  | none => exact sustains_pure _
  | some project =>
    refine sustains_bind (sustains_read _) fun seed => ?_
    dsimp only
    split
    · exact sustains_pure _
    · exact sustains_pure _

lemma sustains_claim (id : ItemId) (agentId : String) (model : Option String) (timeoutSecs : ℤ) :
    Sustains I (claim id agentId model timeoutSecs) :=
  sustains_bind (sustains_utcNow U) fun _ =>
    sustains_write_emit U (fun _ s _ => worksAt_claimSection U id agentId model _ _ _ s) fun _ =>
      sustains_claimPlanContext _ _ _

lemma worksAt_reopenSection (id : ItemId) (agentId : String) (granted deadline now : Time)
    (s : BoardState) : WorksAt L s (reopenSection id agentId granted deadline now s) := by
  unfold reopenSection
  split
  · exact worksAt_error s _
  · split
    · exact worksAt_error s _
    · exact worksAt_move_edit s now (fun _ => U.moves (by decide) (by decide))
        fun _ => ⟨rfl, Or.inl rfl, fun h => h⟩

lemma sustains_reopenForAdoption (id : ItemId) (agentId : String) (timeoutSecs : ℤ) :
    Sustains I (reopenForAdoption id agentId timeoutSecs) :=
  sustains_bind (sustains_utcNow U) fun _ =>
    sustains_write_emit U (fun _ s _ => worksAt_reopenSection U id agentId _ _ _ s) fun _ =>
      sustains_pure _

lemma sustains_sweepOne (id : ItemId) : Sustains I (sweepOne id : Method ε Unit) :=
  sustains_bind (sustains_get id) fun _ =>
    sustains_bind (sustains_attempt (sustains_transition U id (by decide) (by decide) (fun h => absurd h (by decide)) _ _))
      fun _ => sustains_story U _ _

lemma sustains_sweepLeases : Sustains I (sweepLeases : Method ε (List ItemId)) :=
  sustains_bind (sustains_utcNow U) fun _ => sustains_bind (sustains_read _) fun _ =>
    sustains_bind (sustains_forM (sustains_sweepOne U)) fun _ => sustains_pure _

/-! ## Projects -/

omit U in
/-- Completed Projects are finished by transitions. -/
lemma sustains_healCompletedEpics_of
    (htransition : ∀ pid target reason, target ≠ .retired → target ≠ .running →
      Sustains I (transition pid target "epic-hygiene" reason)) :
    Sustains I (healCompletedEpics : Method ε ℕ) := by
  have hepic : ∀ healed project, Sustains I (healEpic healed project : Method ε ℕ) := by
    intro healed project
    obtain ⟨pid, state⟩ := project
    refine sustains_bind (sustains_read _) fun allDone => ?_
    split
    · exact sustains_bind (sustains_when fun _ => sustains_bind (sustains_attempt
          (htransition pid .shaping _ (by decide) (by decide))) fun _ => sustains_pure ()) fun _ =>
        sustains_bind (sustains_attempt (htransition pid .done _ (by decide) (by decide)))
          fun _ => sustains_pure _
    · exact sustains_pure healed
  exact sustains_bind (sustains_read _) fun _ =>
    sustains_foldlM (fun _ _ _ => hepic _ _) 0

lemma sustains_healCompletedEpics (happroves : L.approves) :
    Sustains I (healCompletedEpics : Method ε ℕ) :=
  sustains_healCompletedEpics_of fun pid _ _ hretired hrunning =>
    sustains_transition U pid hretired hrunning (fun _ => happroves) _ _

/-! ## Steering and pull requests -/

lemma sustains_steer (id : ItemId) (text : String) : Sustains I (steer id text) :=
  sustains_editOr U fun _ _ => ⟨rfl, Or.inl rfl, fun h => h⟩

lemma sustains_stampReported (pr : PullRequest) :
    Sustains I (stampReported pr : Method ε _) := by
  unfold stampReported
  split
  · exact sustains_pure pr
  · exact sustains_bind (sustains_utcNow U) fun _ => sustains_pure _

lemma sustains_reportPullRequest (id : ItemId) (pr : PullRequest) :
    Sustains I (reportPullRequest id pr) := by
  unfold reportPullRequest
  split
  · exact sustains_fail _
  · exact sustains_bind (sustains_stampReported U pr) fun _ =>
      sustains_bind (sustains_editOr U fun _ _ => ⟨rfl, Or.inl rfl, fun h => h⟩) fun item =>
        sustains_bind (sustains_story U _ _) fun _ => sustains_pure item

/-- A retry that is queued already changes nothing. -/
lemma sustains_dispatchRebase (id : ItemId) : Sustains I (dispatchRebase id) := by
  refine sustains_of_run fun b hs hI => ?_
  have hrefused : (∃ e, dispatchRebaseSection id b.state = (.error e, b.state)) →
      ((dispatchRebase id).run b).2.state.Sound ∧ I ((dispatchRebase id).run b).2 := by
    rintro ⟨e, hsection⟩
    rw [dispatchRebase, Locked.run_bind_error (by rw [run_write, hsection])]
    exact ⟨hs, U.tick hI⟩
  cases hc : b.state.items[id]? with
  | none =>
    refine hrefused ?_
    simp only [dispatchRebaseSection, hc]
    exact ⟨_, rfl⟩
  | some c =>
    by_cases hstate : c.state ≠ .review
    · refine hrefused ?_
      simp only [dispatchRebaseSection, hc, if_pos hstate]
      exact ⟨_, rfl⟩
    · by_cases hurl : c.prUrl.isNone = true
      · refine hrefused ?_
        simp only [dispatchRebaseSection, hc, if_neg hstate, if_pos hurl]
        exact ⟨_, rfl⟩
      · by_cases hqueued : c.rebaseRequested = true
        · have hsection : dispatchRebaseSection id b.state =
              (.ok (b.state.populateBlockers c, false), b.state) := by
            simp only [dispatchRebaseSection, hc, if_neg hstate, if_neg hurl, if_pos hqueued]
          rw [dispatchRebase, Locked.run_bind_ok (by rw [run_write, hsection])]
          exact ⟨hs, U.tick hI⟩
        · have hsection : dispatchRebaseSection id b.state =
              (.ok (b.state.populateBlockers c.catchingUp, true),
                b.state.editItem id WorkItem.catchingUp) := by
            simp only [dispatchRebaseSection, hc, if_neg hstate, if_neg hurl, if_neg hqueued]
          rw [dispatchRebase, Locked.run_bind_ok (by rw [run_write, hsection])]
          have hcatch : ∀ i : WorkItem, WorkItem.SameTask i i.catchingUp :=
            fun _ => ⟨rfl, Or.inl rfl, fun h => h⟩
          have hI' : I (b.published (b.state.editItem id WorkItem.catchingUp) c.catchingUp) :=
            U.work hs hI hc (.edit (.refl _ _) hcatch)
          have hs' : (b.state.editItem id WorkItem.catchingUp).Sound :=
            hs.reshaped (.edit id fun i => (hcatch i).sameFrame)
          exact (sustains_story U id _).keeps.run ⟨hs', hI'⟩

lemma sustains_completeForMergedPr (happroves : L.approves) (prUrl : String)
    (prNumber : Option ℕ) (byWhom : String) :
    Sustains I (completeForMergedPr prUrl prNumber byWhom : Method ε _) := by
  unfold completeForMergedPr
  dsimp only
  split
  · exact sustains_pure none
  · refine sustains_bind (sustains_read _) fun found => ?_
    cases found with
    | none => exact sustains_pure none
    | some id =>
      refine sustains_bind (sustains_attempt
        (sustains_editOr U fun _ _ => ⟨rfl, Or.inl rfl, fun h => h⟩)) fun r => ?_
      cases r with
      | error e => exact sustains_pure none
      | ok it =>
        dsimp only
        split
        · exact sustains_bind (sustains_get _) fun _ =>
            sustains_bind (sustains_story U _ _) fun _ => sustains_pure none
        · split
          · exact sustains_pure none
          · refine sustains_bind (sustains_attempt
              (sustains_transition U id (by decide) (by decide) (fun _ => happroves) _ _)) fun done => ?_
            cases done with
            | error e => exact sustains_pure none
            | ok item => exact sustains_bind (sustains_story U _ _) fun _ => sustains_pure _

/-! ## Reviews -/

lemma sustains_approvePlain (happroves : L.approves) (id : ItemId) : Sustains I (approvePlain id) :=
  sustains_bind (sustains_transitionOrMessage U id (by decide) (by decide) (fun _ => happroves) _ _) fun _ =>
    sustains_bind (sustains_story U _ _) fun _ => sustains_pure _

lemma sustains_approveProposal (happroves : L.approves) (id : ItemId) :
    Sustains I (approveProposal id) :=
  sustains_bind (sustains_transitionOrMessage U id (by decide) (by decide) (fun _ => happroves) _ _) fun _ =>
    sustains_bind (sustains_story U _ _) fun _ => sustains_pure _

lemma sustains_approveLegacy {approvePlan : ItemId → Method String (List ItemId)}
    (happrove : ∀ id, Sustains I (approvePlan id)) (id parent : ItemId) :
    Sustains I (approveLegacy approvePlan id parent) :=
  sustains_bind (happrove parent) fun _ => sustains_bind (sustains_getOr id _) fun _ =>
    sustains_bind (sustains_story U _ _) fun _ => sustains_pure _

omit U [UnicodeTables] in
/-- No Project has a legacy plan to adopt. -/
lemma sustains_adoptLegacyPlan (seedId : ItemId) (seed : WorkItem) :
    Sustains I (adoptLegacyPlan seedId seed) := by
  refine sustains_of_run fun b hs hI => ?_
  unfold adoptLegacyPlan
  cases seed.parent with
  | none => exact ⟨hs, hI⟩
  | some projectId =>
    rw [Locked.onSome_some, Locked.run_bind_ok (run_get projectId b)]
    cases hc : b.state.items[projectId]? with
    | none => exact ⟨hs, hI⟩
    | some c =>
      have hplan : (b.state.populateBlockers c).plan = none := hs.unplanned projectId c hc
      simp only [Option.map_some, Option.bind_some, hplan]
      exact ⟨hs, hI⟩

lemma sustains_approveReviewWith (happroves : L.approves)
    {approvePlan : ItemId → Method String (List ItemId)} (happrove : ∀ id, Sustains I (approvePlan id)) (id : ItemId) :
    Sustains I (approveReviewWith approvePlan id) := by
  refine sustains_bind (sustains_getOr id _) fun item => ?_
  split
  · exact sustains_approveProposal U happroves id
  · split
    · exact sustains_approvePlain U happroves id
    · refine sustains_bind (sustains_get _) fun parent => ?_
      dsimp only
      split
      · exact sustains_approveLegacy U happrove id _
      · exact sustains_approvePlain U happroves id

omit U [UnicodeTables] in
lemma sustains_approvePlanWith {approveReview : ItemId → Method String WorkItem}
    (happrove : ∀ id, Sustains I (approveReview id)) (id : ItemId) :
    Sustains I (approvePlanWith approveReview id) :=
  sustains_bind (sustains_resolveInitialPlanId id) fun seedId =>
    sustains_bind (sustains_getOr seedId _) fun seed => sustains_bind (sustains_failIf _ _) fun _ =>
      sustains_bind (sustains_when fun _ => sustains_adoptLegacyPlan seedId seed) fun _ =>
        sustains_bind (sustains_getOr seedId _) fun _ =>
          sustains_bind (sustains_failIf _ _) fun _ => sustains_bind (happrove seedId) fun _ =>
            sustains_bind (sustains_failIf _ _) fun _ => sustains_pure _

lemma sustains_approveReview (happroves : L.approves) (fuel : ℕ) (id : ItemId) :
    Sustains I (approveReview fuel id) := by
  induction fuel generalizing id with
  | zero => exact sustains_fail _
  | succ fuel ih => exact sustains_approveReviewWith U happroves (sustains_approvePlanWith ih) id

lemma sustains_approvePlan (happroves : L.approves) (fuel : ℕ) (id : ItemId) :
    Sustains I (approvePlan fuel id) :=
  sustains_approvePlanWith (sustains_approveReview U happroves fuel) id

/-! ## Scope and flush -/

lemma sustains_cutWalk (hretire : ∀ s id c, L.moves s id c .retired) (reason : Option String)
    (fuel : ℕ) (stack touched : List ItemId) :
    Sustains I (cutWalk reason fuel stack touched : Method ε _) := by
  induction fuel generalizing stack touched with
  | zero => exact sustains_pure touched
  | succ fuel ih =>
    cases stack with
    | nil => exact sustains_pure touched
    | cons cur stack =>
      refine sustains_bind (sustains_childrenOf cur) fun kids =>
        sustains_bind (sustains_attempt
          (sustains_transition_of_moves U (fun s c _ _ _ => hretire s cur c) fun h => absurd h (by decide))) fun r => ?_
      cases r with
      | ok item => exact ih _ _
      | error e => exact ih _ _

lemma sustains_cutScope (hretire : ∀ s id c, L.moves s id c .retired) (fuel : ℕ) (id : ItemId)
    (reason : Option String) : Sustains I (cutScope fuel id reason) :=
  sustains_bind (sustains_cutWalk U hretire _ _ _ _) fun _ => sustains_bind (sustains_get id)
    fun _ => sustains_bind (sustains_onSome fun _ => sustains_story U _ _) fun _ => sustains_pure _

omit U [UnicodeTables] in
/-- A flush that finds the board dirty saves it, and leaves it dirty when the save fails. -/
lemma run_flush (b : Board) : (flush : Method ε Unit).run b = (.ok (), b.flushed) := by
  unfold flush flushed
  cases hdirty : b.dirty with
  | false =>
    simp only [Locked.run_bind, Locked.run_atomic, hdirty, Locked.andThen_ok, Locked.run_when]
    rw [if_neg (by decide), if_neg (by decide), ← hdirty]
  | true =>
    cases hsaved : b.saveSucceeds b.saves with
    | false =>
      simp [Locked.run_bind, Locked.run_atomic, hdirty, Locked.run_when, hsaved, markDirty]
    | true =>
      simp [Locked.run_bind, Locked.run_atomic, hdirty, Locked.run_when, hsaved]

lemma sustains_flush : Sustains I (flush : Method ε Unit) := by
  refine sustains_of_run fun b hs hI => ?_
  rw [run_flush]
  refine ⟨?_, U.flushed hI⟩
  unfold flushed
  split
  · exact hs
  · exact hs

end Upkeep

end Unicode

end Board

end Sandboard

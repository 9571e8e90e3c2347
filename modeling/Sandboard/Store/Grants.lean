import Sandboard.Store.Claiming
import Sandboard.Store.Simulation

/-!
# What an operation is granted

`Operation.Grants` says which grants of `Lifecycle` an operation needs on the board where it
runs, and `evolves_exec` is the simulation: an operation that is alone on a board takes every
card through a course of steps under the grants of that operation.  Five operations write a
standing directly, and are no courses: the generic transition, the two ways to claim, and the
late writes of the supervisor.
-/

namespace Sandboard

open Std Text BoardState

namespace Operation

/-- The operations that write the standing of a card directly. -/
def isDirect : Operation → Bool
  | transition .. | claim .. | reopenForAdoption .. | setEnvironment .. | setConversationId .. =>
    true
  | _ => false

/-- The operations that may put a card before a human. -/
def calls : Operation → Bool
  | escalate .. | recordRunFailure .. | proposeSplit .. | recordRebaseOutcome .. => true
  | _ => false

/-- The card `id` is in NeedsHuman. -/
def OnAsked (s : BoardState) (id : ItemId) (p : WorkItem → Prop) : Prop :=
  ∃ c, s.items[id]? = some c ∧ c.state = .needsHuman ∧ p c

/-- A question would be put on the card `id` without taking it to NeedsHuman. -/
def OffAsked (s : BoardState) (id : ItemId) (p : WorkItem → Prop) : Prop :=
  ∃ c, s.items[id]? = some c ∧ allowed c.state .needsHuman = false ∧ c.state ≠ .needsHuman ∧ p c

/-- On the board `s`, the operation leaves the question of a card not to go with its state. -/
def LeavesQuestion [UnicodeTables] (s : BoardState) : Operation → Prop
  -- A card leaves NeedsHuman with its question open,
  | releaseWithReason id agentId _ =>
    agentId ≠ "human" ∧ OnAsked s id fun c => s.checkMove id c .backlog = .ok ()
  | cutScope _ id _ => ∃ k, s.Below id k ∧ OnAsked s k fun _ => True
  | approveReview _ id => OnAsked s id fun _ => True
  | approvePlan _ id => ∃ k, s.planCard id = some k ∧ OnAsked s k fun c => c.hasProposal = true
  | healCompletedEpics =>
    ∃ k, s.tasksEnded k = true ∧ OnAsked s k fun c => c.parent = none
  | completeForMergedPr prUrl _ _ =>
    (normalizePrUrl prUrl).isEmpty = false ∧
      ∃ k, Board.liveCardOfPr (normalizePrUrl prUrl) s = some k ∧ OnAsked s k fun c =>
        (c.withPrMerged (normalizePrUrl prUrl)).allPullRequestsMerged = true
  -- a question is put on a card that cannot go to NeedsHuman,
  | escalate id _ _ options recommended =>
    Board.checkOptions options recommended = .ok () ∧ OffAsked s id fun _ => True
  | recordRunFailure id _ maxAttempts =>
    (OnAsked s id fun c =>
      c.runFailures + 1 < maxAttempts ∧ s.checkMove id c .backlog = .ok ()) ∨
      OffAsked s id fun c => ¬c.runFailures + 1 < maxAttempts
  | proposeSplit id _ _ _ =>
    OffAsked s id fun c => c.isInitialPlanTask = false ∧ c.prUrl.isSome = true
  -- or a question is settled on a card that stays in NeedsHuman.
  | steer id _ => OnAsked s id fun _ => True
  | answerEscalation id _ =>
    OnAsked s id fun c => c.escalation.isSome = true ∧ s.checkMove id c .backlog ≠ .ok ()
  | requestChanges id _ => OnAsked s id fun c => s.checkMove id c .backlog ≠ .ok ()
  | applyPrReviewFeedback prUrl _ reviewState _ =>
    Board.isActionablePrReviewState reviewState = true ∧
      (normalizePrUrl prUrl).isEmpty = false ∧
      ∃ k, Board.feedbackCardOfPr (normalizePrUrl prUrl) s = some k ∧
        OnAsked s k fun c => s.checkMove k c .backlog ≠ .ok ()
  | _ => False

/-- The card `id` has a run with a lease or a deadline. -/
def OnLeased (s : BoardState) (id : ItemId) (p : WorkItem → Prop) : Prop :=
  ∃ c, s.items[id]? = some c ∧ (c.state = .claimed ∨ c.state = .running) ∧
    ¬(c.lease = none ∧ c.runDeadlineAt = none) ∧ p c

/-- On the board `s`, the operation takes the lease of a run into Review. -/
def TakesLease [UnicodeTables] (s : BoardState) : Operation → Prop
  | report id _ _ _ _ => OnLeased s id fun _ => True
  | proposeSplit id _ children maxChildren =>
    OnLeased s id fun c => Board.AcceptsSplit s c children maxChildren
  | _ => False

/-- What the operation is granted on the board `s`. -/
def Grants [UnicodeTables] (s : BoardState) (op : Operation) : Grant → Prop
  | .call => op.calls = true
  | .question => op.LeavesQuestion s
  | .lease => op.TakesLease s

end Operation

namespace Board

open Operation

variable {ε α : Type} {grants : Grant → Prop} {b : Board} [UnicodeTables]

/-- The method, run on `b`, takes every card through a course.  A structure, so that
unification does not look into the method. -/
structure Courses (grants : Grant → Prop) (b : Board) (m : Method ε α) : Prop where
  evolves : Evolves grants b.state (m.run b).2.state

omit [UnicodeTables] in
lemma courses_within {m : Method ε α} (hm : Within (Evolves grants) m) : Courses grants b m :=
  ⟨Within.evolves hm b⟩

omit [UnicodeTables] in
lemma courses_silent {m : Method ε α} (hm : Evolves grants b.state (m.run b).2.state) :
    Courses grants b (silent m) :=
  ⟨evolves_bind (evolves_attempt hm) fun _ => within_pure ()⟩

omit [UnicodeTables] in
lemma courses_silent_within {m : Method ε α} (hm : Within (Evolves grants) m) :
    Courses grants b (silent m) :=
  courses_silent (Within.evolves hm b)

omit [UnicodeTables] in
lemma courses_silent_growing {m : Method ε α} (hm : ∀ s, Growing s m) (hb : b.state.WellFormed) :
    Courses grants b (silent m) :=
  courses_silent (Growing.run hm hb).evolves

omit [UnicodeTables] in
lemma evolves_still {s : BoardState} {id : ItemId} {f : WorkItem → WorkItem} (hf : StandsStill f) :
    Evolves grants s (s.editItem id f) :=
  Steady.evolves (.edit hf id)

omit [UnicodeTables] in
/-- A card that would be asked about where it is. -/
lemma needsHuman_or_offAsked {s : BoardState} {id : ItemId} {c : WorkItem} {p : WorkItem → Prop}
    (hc : s.items[id]? = some c) (hedge : allowed c.state .needsHuman = false) (hp : p c) :
    c.state = .needsHuman ∨ OffAsked s id p := by
  by_cases hstate : c.state = .needsHuman
  · exact Or.inl hstate
  · exact Or.inr ⟨c, hc, hedge, hstate, hp⟩

omit [UnicodeTables] in
lemma free_or_onLeased {s : BoardState} {id : ItemId} {c : WorkItem} {p : WorkItem → Prop}
    (hc : s.items[id]? = some c) (hrun : c.state = .claimed ∨ c.state = .running) (hp : p c) :
    (c.lease = none ∧ c.runDeadlineAt = none) ∨ OnLeased s id p := by
  by_cases hfree : c.lease = none ∧ c.runDeadlineAt = none
  · exact Or.inl hfree
  · exact Or.inr ⟨c, hc, hrun, hfree, hp⟩

lemma courses_method (hb : b.state.WellFormed) (hplan : b.state.Unplanned) {op : Operation}
    (hdirect : op.isDirect = false) : Courses (op.Grants b.state) b op.method := by
  cases op with
  | transition | claim | reopenForAdoption | setEnvironment | setConversationId => cases hdirect
  | create c => exact courses_silent_growing (fun s => growing_create c) hb
  | createProject => exact courses_silent_growing (fun s => growing_createProject _ _ _ _ _) hb
  | createTask => exact courses_silent_growing (fun s => growing_createTask _ _ _ _ _ _ _) hb
  | seedInitialPlan id => exact courses_silent_growing (fun s => growing_seedInitialPlan id) hb
  | proposePlan =>
    exact courses_silent_within (within_proposePlan evolves_lax fun _ _ _ =>
      evolves_still fun _ => rfl)
  | setProposal =>
    exact courses_silent_within (within_setProposal evolves_lax fun _ =>
      evolves_still fun _ => rfl)
  | approvePlan fuel id =>
    exact courses_silent (evolves_approvePlan hb hplan fun k c hk hc hproposal hneeds =>
      ⟨k, hk, c, hc, hneeds, hproposal⟩)
  | materializePendingProposal id =>
    exact courses_silent_growing (fun s => growing_materializePendingProposal id) hb
  | healCompletedEpics =>
    exact courses_silent (evolves_healCompletedEpics hb fun k c hc hroot hneeds hended =>
      ⟨k, hended, c, hc, hneeds, hroot⟩)
  | setProjectSandboxProfile =>
    exact courses_silent_within (within_setProjectSandboxProfile evolves_lax fun _ _ =>
      evolves_still fun _ => rfl)
  | setSandboxProfiles ids => exact courses_within (within_setSandboxProfiles evolves_lax ids)
  | clearRunFailures =>
    exact courses_within (within_editIf evolves_lax fun _ => evolves_still fun _ => rfl)
  | setPullRequests =>
    exact courses_within (within_editIf evolves_lax fun _ => evolves_still fun _ => rfl)
  | setPrUrl =>
    exact courses_within (within_setPrUrl evolves_lax fun _ _ => evolves_still fun _ => rfl)
  | setBlockedBy =>
    exact courses_within (within_editIf evolves_lax fun _ => evolves_still fun _ => rfl)
  | updateItem =>
    exact courses_silent_within (within_editOr evolves_lax fun _ _ => evolves_still fun _ => rfl)
  | enqueueDispatch id =>
    exact courses_silent_within (within_enqueueDispatch evolves_lax (evolves_enqueueSection id))
  | clearDispatch =>
    exact courses_silent_within (within_clearDispatch evolves_lax fun s =>
      .edit fun c _ => .unqueue c.standing)
  | setAutoDispatch =>
    exact courses_silent_within (within_setAutoDispatch evolves_lax
      (fun _ => evolves_still fun _ => rfl) (fun s id => evolves_enqueueSection id s)
      fun s _ => .edit fun c _ => .unqueue c.standing)
  | autoEnqueueProject =>
    exact courses_within (within_autoEnqueueProject evolves_lax fun s id =>
      evolves_enqueueSection id s)
  | autoEnqueueAll =>
    exact courses_within (within_autoEnqueueAll evolves_lax fun s id =>
      evolves_enqueueSection id s)
  | heartbeat =>
    exact courses_silent_within (within_heartbeat evolves_lax fun s now =>
      evolves_heartbeatSection _ _ _ now s)
  | escalate id agentId question options recommended =>
    exact courses_silent (evolves_escalate rfl fun hoptions c hc hedge =>
      (needsHuman_or_offAsked hc hedge trivial).imp_right fun hoff => ⟨hoptions, hoff⟩)
  | report id =>
    exact courses_silent (evolves_report hb fun c hc hrun => free_or_onLeased hc hrun trivial)
  | releaseWithReason id agentId reason =>
    refine courses_silent (evolves_releaseWithReason fun c hc hneeds hcheck => ?_)
    by_cases hhuman : agentId = "human"
    · exact Or.inl hhuman
    · exact Or.inr ⟨hhuman, c, hc, hneeds, hcheck⟩
  | sweepLeases => exact courses_silent (evolves_sweepLeases hb nofun)
  | recordRunFailure id reason maxAttempts =>
    refine courses_silent (evolves_recordRunFailure hb rfl fun c hc => ?_)
    split
    · rename_i hless
      exact fun hneeds hcheck => Or.inl ⟨c, hc, hneeds, hless, hcheck⟩
    · rename_i hless
      exact fun hedge => (needsHuman_or_offAsked hc hedge hless).imp_right Or.inr
  | proposeSplit id agentId children maxChildren =>
    exact courses_silent (evolves_proposeSplit hb rfl
      (fun c hc hinit hpr hedge => needsHuman_or_offAsked hc hedge ⟨hinit, hpr⟩)
      fun c hc haccepts hrun => free_or_onLeased hc hrun haccepts)
  | steer id => exact courses_silent (evolves_steer fun c hc hneeds => ⟨c, hc, hneeds, trivial⟩)
  | answerEscalation id =>
    exact courses_silent (evolves_answerEscalation fun c hc hasked hneeds hcheck =>
      ⟨c, hc, hneeds, hasked, hcheck⟩)
  | park => exact courses_silent evolves_park
  | unpark id =>
    exact courses_silent_within (within_unpark evolves_lax (evolves_unparkSection id)
      (evolves_enqueueSection id))
  | halt => exact courses_silent (evolves_halt hb)
  | cutScope fuel id =>
    refine courses_silent (evolves_cutScope hb nofun fun k hk c hc => ?_)
    by_cases hneeds : c.state = .needsHuman
    · exact Or.inr ⟨k, hk, c, hc, hneeds, trivial⟩
    · exact Or.inl hneeds
  | unarchiveScope => exact courses_silent (evolves_unarchiveScope hb)
  | deleteItem id =>
    exact courses_silent_within (within_deleteItem evolves_lax (evolves_deleteSection id))
  | approveReview fuel id =>
    exact courses_silent (evolves_approveReview hb hplan fuel fun c hc hneeds =>
      ⟨c, hc, hneeds, trivial⟩)
  | requestChanges id =>
    exact courses_silent (evolves_requestChanges fun c hc hneeds hcheck => ⟨c, hc, hneeds, hcheck⟩)
  | story => exact courses_within (within_story evolves_lax _ _)
  | reportPullRequest =>
    exact courses_silent_within (within_reportPullRequest evolves_lax fun _ _ _ =>
      evolves_still fun _ => rfl)
  | notifyMainAdvanced => exact courses_silent (evolves_notifyMainAdvanced hb nofun)
  | dispatchRebase id =>
    exact courses_silent_within (within_dispatchRebase evolves_lax
      (evolves_dispatchRebaseSection id))
  | recordRebaseOutcome => exact courses_silent (evolves_recordRebaseOutcome rfl)
  | completeForMergedPr prUrl prNumber byWhom =>
    exact courses_silent (evolves_completeForMergedPr hb fun k c hk hc hneeds hmerged hneedle =>
      ⟨hneedle, k, hk, c, hc, hneeds, hmerged⟩)
  | applyPrReviewFeedback prUrl prNumber reviewState byWhom =>
    exact courses_silent (evolves_applyPrReviewFeedback
      fun hactionable hneedle k c hk hc hneeds hcheck =>
        ⟨hactionable, hneedle, k, hk, c, hc, hneeds, hcheck⟩)
  | flush => exact courses_within (within_flush evolves_lax)

/-- Every operation but the five direct ones is a course of the life of each card. -/
theorem evolves_exec (hb : b.state.WellFormed) (hplan : b.state.Unplanned) {op : Operation}
    (hdirect : op.isDirect = false) :
    Evolves (op.Grants b.state) b.state (b.exec op).state :=
  (courses_method hb hplan hdirect).evolves

end Board

/-! ## Direct writes -/

/-- On the board `s`, the operation writes the standing of the card `k` directly. -/
inductive Operation.Writes (s : BoardState) : Operation → ItemId → Standing → Standing → Prop
    where
  | transition {id : ItemId} {c : WorkItem} {target : State} {byWhom : String}
      {reason : Option String} (hc : s.items[id]? = some c)
      (hcheck : s.checkMove id c target = .ok ()) :
      Writes s (.transition id target byWhom reason) id c.standing
        (c.standing.entered target (byWhom == "human"))
  | claim {id : ItemId} {c : WorkItem} {agentId : String} {model : Option String}
      {timeoutSecs : ℤ} (hc : s.PassesClaim id c) (deadline : Time) :
      Writes s (.claim id agentId model timeoutSecs) id c.standing (c.standing.claimed deadline)
  | reopen {id : ItemId} {c : WorkItem} {agentId : String} {timeoutSecs : ℤ}
      (hc : s.PassesClaim id c) (deadline : Time) :
      Writes s (.reopenForAdoption id agentId timeoutSecs) id c.standing
        (c.standing.reopened deadline)
  | sandbox {id : ItemId} {c : WorkItem} {sandbox : Option String}
      (hc : s.items[id]? = some c) :
      Writes s (.setEnvironment id sandbox) id c.standing (c.standing.inSandbox sandbox.isSome)
  | session {id : ItemId} {c : WorkItem} {conversationId : Option String}
      (hc : s.items[id]? = some c) :
      Writes s (.setConversationId id conversationId) id c.standing
        (c.standing.inSession conversationId.isSome)

/-- What the operation may do to the card `k` of the board `s`. -/
def Operation.Step [UnicodeTables] (s : BoardState) (op : Operation) (k : ItemId)
    (σ σ' : Standing) : Prop :=
  Standing.Step (op.Grants s) σ σ' ∨ op.Writes s k σ σ'

namespace Board

open Operation

variable {b : Board} [UnicodeTables]

/-- The card `id` is written, and the rest of the board stands or grows. -/
lemma course_of_write {s s₁ s' : BoardState} {op : Operation} {id : ItemId} {σ σ' : Standing}
    (hσ : s.standing id = some σ) (hσ' : s₁.standing id = some σ') (hwrite : op.Writes s id σ σ')
    (hothers : ∀ k, k ≠ id → s₁.standing k = s.standing k) (hgrown : Grows s₁ s') (k : ItemId) :
    Population.Course Standing.IsFresh (op.Step s k) (s.standing k) (s'.standing k) := by
  have hgrown' := ((hgrown.evolves : Evolves (op.Grants s) s₁ s') k).mono fun _ _ h =>
    (Or.inl h : op.Step s k _ _)
  by_cases hk : k = id
  · subst hk
    refine Population.Course.trans ?_ hgrown'
    rw [hσ, hσ']
    exact .of_step (Or.inr hwrite)
  · rw [hothers k hk] at hgrown'
    exact hgrown'

omit [UnicodeTables] in
/-- A reopening fails and changes nothing, or it grants a run on a card that a claim would
take. -/
lemma reopenSection_cases (id : ItemId) (agentId : String) (granted deadline now : Time)
    (s : BoardState) :
    (∃ e, reopenSection id agentId granted deadline now s = (.error e, s)) ∨
      ∃ c item why, s.PassesClaim id c ∧ reopenSection id agentId granted deadline now s =
        (.ok item, (s.moveItem id c now .claimed "supervisor" why).editItem id
          (WorkItem.leased agentId granted deadline)) := by
  cases hc : s.items[id]? with
  | none => exact Or.inl ⟨_, by simp [reopenSection, hc]; rfl⟩
  | some c =>
    cases hparked : c.parked with
    | true => exact Or.inl ⟨_, by simp [reopenSection, hc, hparked]; rfl⟩
    | false =>
      by_cases hstate : c.state = .backlog
      · cases hcheck : s.checkMove id c .claimed with
        | error e =>
          refine Or.inl ⟨e.message, ?_⟩
          simp [reopenSection, hc, hparked, hstate, transitionLocked_of_error hc hcheck]
        | ok u =>
          let why := some "reopened for sandbox re-adoption after supervisor restart"
          have hmoved : (s.moveItem id c now .claimed "supervisor" why).items[id]? =
              some (c.moved now .claimed "supervisor" why) := by
            rw [items_moveItem, if_pos rfl, hc, Option.map_some]
          refine Or.inr ⟨c, (c.moved now .claimed "supervisor" why).leased agentId granted deadline,
            why, ⟨hc, hparked, hcheck⟩, ?_⟩
          simp [reopenSection, hc, hparked, hstate, transitionLocked_of_ok hc hcheck,
            tryEdit_some hmoved, why]
      · exact Or.inl ⟨s!"#{id} is not Backlog (reopen needs Backlog)",
          by simp [reopenSection, hc, hparked, hstate]⟩

omit [UnicodeTables] in
/-- The move to Claimed is no human's answer, whoever makes it. -/
lemma entered_claimed (σ : Standing) (byHuman : Bool) :
    σ.entered .claimed byHuman = σ.entered .claimed false := rfl

omit [UnicodeTables] in
/-- A card that is moved and edited, and the others. -/
lemma standing_editItem_moveItem {s : BoardState} {id : ItemId} {c : WorkItem}
    {f : WorkItem → WorkItem} {now : Time} {target : State} {byWhom : String}
    {reason : Option String} (hc : s.items[id]? = some c) (k : ItemId) :
    ((s.moveItem id c now target byWhom reason).editItem id f).standing k =
      if k = id then some (f (c.moved now target byWhom reason)).standing else s.standing k := by
  rw [standing_editItem]
  split
  · rename_i hk
    rw [items_moveItem, if_pos hk, hk, hc]
    rfl
  · rename_i hk
    rw [BoardState.standing, items_moveItem, if_neg hk]
    rfl

/-- The effect of an operation on the card `k`, seen from the board before it. -/
abbrev Effect (s s' : BoardState) (op : Operation) (k : ItemId) : Prop :=
  Population.Course Standing.IsFresh (op.Step s k) (s.standing k) (s'.standing k)

lemma effect_of_items {s s' : BoardState} {op : Operation} (hitems : s'.items = s.items)
    (k : ItemId) : Effect s s' op k := by
  rw [Effect, BoardState.standing, BoardState.standing, hitems]
  exact .refl _

lemma effect_transition (hb : b.state.WellFormed) (id : ItemId) (target : State)
    (byWhom : String) (reason : Option String) (k : ItemId) :
    Effect b.state (b.exec (.transition id target byWhom reason)).state
      (.transition id target byWhom reason) k := by
  have hsilent : (b.exec (.transition id target byWhom reason)).state =
      ((transition id target byWhom reason).run b).2.state := by
    simp [exec, method, silent]
  rw [hsilent]
  rcases run_transition_cases hb id target byWhom reason with
    ⟨e, b', hrun, hstate, -⟩ | ⟨c, item, b', hrun, hc, hcheck, hgrown⟩
  · rw [hrun]
    exact effect_of_items (congrArg BoardState.items hstate) k
  · rw [hrun]
    refine course_of_write (standing_of_items hc) ?_ (.transition hc hcheck) (fun j hj => ?_)
      hgrown k
    · rw [BoardState.standing, items_moveItem, if_pos rfl, hc, Option.map_some, Option.map_some,
        WorkItem.standing_moved]
    · rw [BoardState.standing, items_moveItem, if_neg hj]
      rfl

/-- A grant of a run writes the standing of its card. -/
lemma effect_granted {s' : BoardState} {op : Operation} {id : ItemId} {c : WorkItem}
    {f : WorkItem → WorkItem} {now : Time} {byWhom : String} {reason : Option String}
    (hb : b.state.WellFormed) (hc : b.state.items[id]? = some c)
    (hs' : s' = (b.state.moveItem id c now .claimed byWhom reason).editItem id f)
    (hframe : ∀ i, WorkItem.SameFrame i (f i))
    (hwrite : op.Writes b.state id c.standing (f (c.moved now .claimed byWhom reason)).standing)
    (k : ItemId) : Effect b.state s' op k := by
  subst hs'
  refine course_of_write (standing_of_items hc) ?_ hwrite (fun j hj => ?_)
    (.refl ((hb.move hc _ _ _ _).edit id hframe)) k
  · rw [standing_editItem_moveItem hc, if_pos rfl]
  · rw [standing_editItem_moveItem hc, if_neg hj]

lemma effect_claim (hb : b.state.WellFormed) (id : ItemId) (agentId : String)
    (model : Option String) (timeoutSecs : ℤ) (k : ItemId) :
    Effect b.state (b.exec (.claim id agentId model timeoutSecs)).state
      (.claim id agentId model timeoutSecs) k := by
  have hsilent : (b.exec (.claim id agentId model timeoutSecs)).state =
      ((claim id agentId model timeoutSecs).run b).2.state := by
    simp [exec, method, silent]
  rw [hsilent]
  by_cases hclaim : ∃ c, b.state.PassesClaim id c
  · obtain ⟨c, hc⟩ := hclaim
    obtain ⟨grant, b', hrun, hstate⟩ := run_claim_of_passes hc agentId model timeoutSecs
    rw [hrun]
    refine effect_granted hb hc.1 hstate (fun i => ⟨rfl, rfl, rfl, rfl, fun h => h⟩) ?_ k
    rw [WorkItem.standing_granted, WorkItem.standing_moved, entered_claimed]
    exact .claim hc _
  · push Not at hclaim
    obtain ⟨e, b', hrun, hstate⟩ := run_claim_of_not_passes hclaim agentId model timeoutSecs
    rw [hrun]
    exact effect_of_items (congrArg BoardState.items hstate) k

omit [UnicodeTables] in
/-- A reopening fails and changes nothing, or it grants a run. -/
lemma run_reopenForAdoption_cases (id : ItemId) (agentId : String) (timeoutSecs : ℤ)
    (b : Board) :
    (∃ e b', (reopenForAdoption id agentId timeoutSecs).run b = (.error e, b') ∧
      b'.state = b.state) ∨
      ∃ c item why b', b.state.PassesClaim id c ∧
        (reopenForAdoption id agentId timeoutSecs).run b = (.ok item, b') ∧
          b'.state = (b.state.moveItem id c ((b.stepped b.state).now 0) .claimed "supervisor"
            why).editItem id (WorkItem.leased agentId (b.now 0) (b.deadlineAt timeoutSecs)) := by
  unfold reopenForAdoption deadlineAt
  rw [Locked.run_bind_ok (run_utcNow b)]
  dsimp only
  rcases reopenSection_cases id agentId (b.now 0) (b.now 0 + seconds (max timeoutSecs 1))
    ((b.stepped b.state).now 0) b.state with ⟨e, hsection⟩ | ⟨c, item, why, hc, hsection⟩
  · refine Or.inl ⟨e, (b.stepped b.state).stepped b.state, ?_, rfl⟩
    rw [Locked.run_bind_error (by rw [run_write, stepped_state, hsection])]
  · have hwrite := Locked.run_bind_ok (m := write fun nows s => reopenSection id agentId (b.now 0)
      (b.now 0 + seconds (max timeoutSecs 1)) (nows 0) s) (s := b.stepped b.state)
      (by rw [run_write, stepped_state, hsection])
      fun item => (emit item >>= fun _ => pure item : Method String WorkItem)
    exact Or.inr ⟨c, item, why, _, hc, hwrite, rfl⟩

lemma effect_reopenForAdoption (hb : b.state.WellFormed) (id : ItemId) (agentId : String)
    (timeoutSecs : ℤ) (k : ItemId) :
    Effect b.state (b.exec (.reopenForAdoption id agentId timeoutSecs)).state
      (.reopenForAdoption id agentId timeoutSecs) k := by
  have hsilent : (b.exec (.reopenForAdoption id agentId timeoutSecs)).state =
      ((reopenForAdoption id agentId timeoutSecs).run b).2.state := by
    simp [exec, method, silent]
  rw [hsilent]
  rcases run_reopenForAdoption_cases id agentId timeoutSecs b with
    ⟨e, b', hrun, hstate⟩ | ⟨c, item, why, b', hc, hrun, hstate⟩
  · rw [hrun]
    exact effect_of_items (congrArg BoardState.items hstate) k
  · rw [hrun]
    have hframe : ∀ i, WorkItem.SameFrame i
        (i.leased agentId (b.now 0) (b.deadlineAt timeoutSecs)) := fun i =>
      ⟨rfl, rfl, rfl, rfl, fun h => h⟩
    refine effect_granted hb hc.1 hstate hframe ?_ k
    rw [WorkItem.standing_leased, WorkItem.standing_moved, entered_claimed]
    exact .reopen hc _

/-- A late write of the supervisor. -/
lemma effect_editIf {op : Operation} {id : ItemId} {wanted : WorkItem → Bool}
    {f : WorkItem → WorkItem} (hb : b.state.WellFormed) (hframe : ∀ i, WorkItem.SameFrame i (f i))
    (hmethod : op.method = editIf id wanted f)
    (hwrite : ∀ c, b.state.items[id]? = some c →
      op.Writes b.state id c.standing (f c).standing) (k : ItemId) :
    Effect b.state (b.exec op).state op k := by
  unfold exec
  rw [hmethod]
  cases hc : b.state.items[id]? with
  | none =>
    have hrun : ((editIf id wanted f : Method Empty Unit).run b).2.state = b.state := by
      simp [editIf, hc]
    rw [hrun]
    exact .refl _
  | some c =>
    by_cases hwanted : wanted c = true
    · have hrun : ((editIf id wanted f : Method Empty Unit).run b).2.state =
          b.state.editItem id f := by
        simp [editIf, hc, hwanted]
      rw [hrun]
      refine course_of_write (standing_of_items hc) ?_ (hwrite c hc) (fun j hj => ?_)
        (.refl (hb.edit id hframe)) k
      · rw [standing_editItem, if_pos rfl, hc, Option.map_some]
      · rw [standing_editItem, if_neg hj]
    · have hrun : ((editIf id wanted f : Method Empty Unit).run b).2.state = b.state := by
        simp [editIf, hc, hwanted]
      rw [hrun]
      exact .refl _

/-- Whatever the operation, every card goes through a course of what it may do to the card. -/
theorem course_exec (hb : b.state.WellFormed) (hplan : b.state.Unplanned) (op : Operation)
    (k : ItemId) : Effect b.state (b.exec op).state op k := by
  by_cases hdirect : op.isDirect = true
  · cases op with
    | transition id target byWhom reason => exact effect_transition hb id target byWhom reason k
    | claim id agentId model timeoutSecs => exact effect_claim hb id agentId model timeoutSecs k
    | reopenForAdoption id agentId timeoutSecs =>
      exact effect_reopenForAdoption hb id agentId timeoutSecs k
    | setEnvironment id sandbox =>
      have hframe : ∀ i, WorkItem.SameFrame i (i.inSandbox sandbox) := fun i =>
        ⟨rfl, rfl, rfl, rfl, fun h => h⟩
      exact effect_editIf hb hframe rfl (fun c hc => .sandbox hc) k
    | setConversationId id conversationId =>
      have hframe : ∀ i, WorkItem.SameFrame i (i.inConversation conversationId) := fun i =>
        ⟨rfl, rfl, rfl, rfl, fun h => h⟩
      exact effect_editIf hb hframe rfl (fun c hc => .session hc) k
    | _ => cases hdirect
  · exact (evolves_exec hb hplan (by simpa using hdirect) k).mono fun _ _ h => Or.inl h

end Board

end Sandboard

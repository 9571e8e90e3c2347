import Sandboard.Store.Forge

/-!
# Operations and runs

Every method that changes a board, as one type of operations.  A run is a list of operations
performed one after the other on a new board, over any schema, any clock and any database
behaviour; `Board.after` is the board it reaches.
-/

namespace Sandboard

/-- A call of a board method with its arguments. -/
inductive Operation where
  | create (c : Board.NewCard)
  | createProject (title intent cloneRepo : String) (aboveLine : Bool)
      (projectPrompt : Option String)
  | createTask (parent : ItemId) (title intent definitionOfDone : String)
      (blockedBy : List ItemId) (capability : Option String) (aboveLine : Bool)
  | seedInitialPlan (projectId : ItemId)
  | proposePlan (id : ItemId) (summary : String) (tasks : List PlanTaskSpec)
  | setProposal (id : ItemId) (proposal : TaskProposal)
  | approvePlan (fuel : ℕ) (id : ItemId)
  | materializePendingProposal (id : ItemId)
  | healCompletedEpics
  | setProjectSandboxProfile (projectId : ItemId) (profileId : Option String)
  | setSandboxProfiles (ids : List String)
  | clearRunFailures (id : ItemId)
  | setEnvironment (id : ItemId) (sandbox : Option String)
  | setConversationId (id : ItemId) (conversationId : Option String)
  | setPullRequests (id : ItemId) (prs : List PullRequest)
  | setPrUrl (id : ItemId) (url : Option String)
  | setBlockedBy (id : ItemId) (blockers : List ItemId)
  | updateItem (id : ItemId) (title intent definitionOfDone engine projectPrompt : Option String)
  | transition (id : ItemId) (target : State) (byWhom : String) (reason : Option String)
  | enqueueDispatch (id : ItemId)
  | clearDispatch (id : ItemId)
  | setAutoDispatch (id : ItemId) (enabled : Bool)
  | autoEnqueueProject (projectId : ItemId)
  | autoEnqueueAll
  | claim (id : ItemId) (agentId : String) (model : Option String) (timeoutSecs : ℤ)
  | reopenForAdoption (id : ItemId) (agentId : String) (timeoutSecs : ℤ)
  | heartbeat (id : ItemId) (agentId : String) (progress : ℚ) (leaseSecs : ℤ)
  | escalate (id : ItemId) (agentId question : String) (options : List EscalationOption)
      (recommended : ℕ)
  | report (id : ItemId) (agentId : String) (added removed : UInt32) (gates : List String)
  | releaseWithReason (id : ItemId) (agentId : String) (reason : Option String)
  | sweepLeases
  | recordRunFailure (id : ItemId) (reason : String) (maxAttempts : UInt32)
  | proposeSplit (id : ItemId) (agentId : String) (children : List SplitChildSpec)
      (maxChildren : ℕ)
  | steer (id : ItemId) (text : String)
  | answerEscalation (id : ItemId) (choice : String)
  | park (id : ItemId) (reason : Option String)
  | unpark (id : ItemId)
  | halt (id : ItemId) (reason : Option String)
  | cutScope (fuel : ℕ) (id : ItemId) (reason : Option String)
  | unarchiveScope (fuel : ℕ) (id : ItemId) (reason : Option String)
  | deleteItem (id : ItemId)
  | approveReview (fuel : ℕ) (id : ItemId)
  | requestChanges (id : ItemId) (note : String)
  | story (near : ItemId) (text : String)
  | reportPullRequest (id : ItemId) (pr : PullRequest)
  | notifyMainAdvanced (advancedRepo refName : String) (commitSha : Option String)
  | dispatchRebase (id : ItemId)
  | recordRebaseOutcome (id : ItemId) (outcome : RebaseOutcome)
  | completeForMergedPr (prUrl : String) (prNumber : Option ℕ) (byWhom : String)
  | applyPrReviewFeedback (prUrl : String) (prNumber : Option ℕ) (reviewState byWhom : String)
  | flush

namespace Operation

/-- Run a method for its effect: the caller drops the outcome. -/
def silent {ε α : Type} (m : Method ε α) : Method Empty Unit := do
  let _ ← m.attempt

/-- The method an operation calls. -/
def method [UnicodeTables] : Operation → Method Empty Unit
  | create c => silent (Board.create c)
  | createProject title intent cloneRepo aboveLine projectPrompt =>
    silent (Board.createProject title intent cloneRepo aboveLine projectPrompt)
  | createTask parent title intent dod blockedBy capability aboveLine =>
    silent (Board.createTask parent title intent dod blockedBy capability aboveLine)
  | seedInitialPlan projectId => silent (Board.seedInitialPlan projectId)
  | proposePlan id summary tasks => silent (Board.proposePlan id summary tasks)
  | setProposal id proposal => silent (Board.setProposal id proposal)
  | approvePlan fuel id => silent (Board.approvePlan fuel id)
  | materializePendingProposal id => silent (Board.materializePendingProposal id)
  | healCompletedEpics => silent (Board.healCompletedEpics : Method Empty ℕ)
  | setProjectSandboxProfile projectId profileId =>
    silent (Board.setProjectSandboxProfile projectId profileId)
  | setSandboxProfiles ids => Board.setSandboxProfiles ids
  | clearRunFailures id => Board.clearRunFailures id
  | setEnvironment id sandbox => Board.setEnvironment id sandbox
  | setConversationId id conversationId => Board.setConversationId id conversationId
  | setPullRequests id prs => Board.setPullRequests id prs
  | setPrUrl id url => Board.setPrUrl id url
  | setBlockedBy id blockers => Board.setBlockedBy id blockers
  | updateItem id title intent dod engine projectPrompt =>
    silent (Board.updateItem id title intent dod engine projectPrompt)
  | transition id target byWhom reason => silent (Board.transition id target byWhom reason)
  | enqueueDispatch id => silent (Board.enqueueDispatch id)
  | clearDispatch id => silent (Board.clearDispatch id)
  | setAutoDispatch id enabled => silent (Board.setAutoDispatch id enabled)
  | autoEnqueueProject projectId => Board.autoEnqueueProject projectId
  | autoEnqueueAll => Board.autoEnqueueAll
  | claim id agentId model timeoutSecs => silent (Board.claim id agentId model timeoutSecs)
  | reopenForAdoption id agentId timeoutSecs =>
    silent (Board.reopenForAdoption id agentId timeoutSecs)
  | heartbeat id agentId progress leaseSecs =>
    silent (Board.heartbeat id agentId progress leaseSecs)
  | escalate id agentId question options recommended =>
    silent (Board.escalate id agentId question options recommended)
  | report id agentId added removed gates => silent (Board.report id agentId added removed gates)
  | releaseWithReason id agentId reason => silent (Board.releaseWithReason id agentId reason)
  | sweepLeases => silent (Board.sweepLeases : Method Empty (List ItemId))
  | recordRunFailure id reason maxAttempts =>
    silent (Board.recordRunFailure id reason maxAttempts)
  | proposeSplit id agentId children maxChildren =>
    silent (Board.proposeSplit id agentId children maxChildren)
  | steer id text => silent (Board.steer id text)
  | answerEscalation id choice => silent (Board.answerEscalation id choice)
  | park id reason => silent (Board.park id reason)
  | unpark id => silent (Board.unpark id)
  | halt id reason => silent (Board.halt id reason)
  | cutScope fuel id reason => silent (Board.cutScope fuel id reason)
  | unarchiveScope fuel id reason => silent (Board.unarchiveScope fuel id reason)
  | deleteItem id => silent (Board.deleteItem id)
  | approveReview fuel id => silent (Board.approveReview fuel id)
  | requestChanges id note => silent (Board.requestChanges id note)
  | story near text => Board.story near text
  | reportPullRequest id pr => silent (Board.reportPullRequest id pr)
  | notifyMainAdvanced advancedRepo refName commitSha =>
    silent (Board.notifyMainAdvanced advancedRepo refName commitSha)
  | dispatchRebase id => silent (Board.dispatchRebase id)
  | recordRebaseOutcome id outcome => silent (Board.recordRebaseOutcome id outcome)
  | completeForMergedPr prUrl prNumber byWhom =>
    silent (Board.completeForMergedPr prUrl prNumber byWhom : Method Empty (Option ItemId))
  | applyPrReviewFeedback prUrl prNumber reviewState byWhom =>
    silent (Board.applyPrReviewFeedback prUrl prNumber reviewState byWhom :
      Method Empty (Option ItemId))
  | flush => Board.flush

end Operation

namespace Board

variable [UnicodeTables]

/-- The board after one operation. -/
def exec (b : Board) (op : Operation) : Board :=
  (op.method.run b).2

/-- The board after a run of operations. -/
def after (b : Board) (ops : List Operation) : Board :=
  ops.foldl exec b

@[simp] lemma after_nil (b : Board) : b.after [] = b := rfl

@[simp] lemma after_cons (b : Board) (op : Operation) (ops : List Operation) :
    b.after (op :: ops) = (b.exec op).after ops := rfl

lemma after_append (b : Board) (ops ops' : List Operation) :
    b.after (ops ++ ops') = (b.after ops).after ops' :=
  List.foldl_append

/-- The board state that a run on a new board reaches. -/
def reached (schema : Schema) (clock : ℕ → ℕ → Time) (saveSucceeds : ℕ → Bool)
    (ops : List Operation) : BoardState :=
  ((Board.new schema clock saveSucceeds).after ops).state

/-- A property kept by every operation holds after every run. -/
theorem after_invariant {I : Board → Prop} (step : ∀ b op, I b → I (b.exec op)) {b : Board}
    (hb : I b) (ops : List Operation) : I (b.after ops) := by
  induction ops generalizing b with
  | nil => exact hb
  | cons op ops ih => exact ih (step b op hb)

/-- Every step of the run, taken where it is taken, meets the condition `C`. -/
def Meets (C : Operation → BoardState → Prop) : Board → List Operation → Prop
  | _, [] => True
  | b, op :: ops => C op b.state ∧ Meets C (b.exec op) ops

lemma meets_of_forall {C : Operation → BoardState → Prop} (h : ∀ op s, C op s) (b : Board)
    (ops : List Operation) : Meets C b ops := by
  induction ops generalizing b with
  | nil => trivial
  | cons op ops ih => exact ⟨h op _, ih _⟩

lemma meets_append {C : Operation → BoardState → Prop} {b : Board} {ops ops' : List Operation} :
    Meets C b (ops ++ ops') ↔ Meets C b ops ∧ Meets C (b.after ops) ops' := by
  induction ops generalizing b with
  | nil => simp [Meets]
  | cons op ops ih => rw [List.cons_append, Meets, Meets, ih, after_cons, and_assoc]

/-- A property kept by every operation that meets a condition holds after every run whose
steps all meet it. -/
theorem Meets.invariant {C : Operation → BoardState → Prop} {I : Board → Prop}
    (step : ∀ b op, I b → C op b.state → I (b.exec op)) {b : Board} {ops : List Operation}
    (hb : I b) (h : Meets C b ops) : I (b.after ops) := by
  induction ops generalizing b with
  | nil => exact hb
  | cons op ops ih => exact ih (step b op hb h.1) h.2

end Board

end Sandboard

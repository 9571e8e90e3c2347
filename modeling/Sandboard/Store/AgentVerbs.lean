import Mathlib.Algebra.Order.AbsoluteValue.Basic
import Sandboard.Store.Projects

/-!
# Dispatch and the agent verbs

The dispatch queue of Backlog cards, the claim with its lease and deadline, and the verbs of
a run: heartbeat, report, release, escalate and propose_split, with the sweep of overdue runs.
The knobs of a claim grant that come from Settings (engine, model, prompts) are left out.
-/

namespace Sandboard

open Text

/-- What `claim` hands back. -/
structure ClaimGrant where
  itemId : ItemId
  title : String
  intent : String
  definitionOfDone : Option String
  projectTitle : Option String
  projectPrompt : Option String
  planSummary : Option String
  planTasks : List PlanTaskBrief
  planTaskKey : Option String
  notes : List String
  leaseExpiresAt : Time
  runDeadlineAt : Time

namespace BoardState

/-! ## The queues -/

/-- The capability of a card is covered by what the caller has. -/
def matchesCapability (capabilities : List String) (i : WorkItem) : Bool :=
  match i.capability with
  | none => true
  | some c => c == "any" || capabilities.contains c

/-- An unblocked leaf that is not labelled a Project. -/
def isOpenLeaf (s : BoardState) (i : WorkItem) : Bool :=
  i.level != some "Project" && !s.hasChildren i.id && (s.unresolvedBlockers i).isEmpty

/-- The cards filed under a state, in the order of their ids. -/
def cardsIn (s : BoardState) (st : State) : List WorkItem :=
  (s.idsByState.bucket st).filterMap fun id => s.items[id]?

/-- Unblocked Backlog leaves that match the capabilities. -/
def listBacklog (s : BoardState) (capabilities : List String) : List WorkItem :=
  ((s.cardsIn .backlog).filter fun i => s.isOpenLeaf i && matchesCapability capabilities i).map
    s.populateBlockers

/-- Stable order by the time a card entered its state. -/
def oldestFirst (items : List WorkItem) : List WorkItem :=
  items.mergeSort fun a b => decide (a.enteredStateAt ≤ b.enteredStateAt)

/-- Cards the operator asked to start, oldest first. -/
def listAwaitingDispatch (s : BoardState) : List WorkItem :=
  oldestFirst ((s.cardsIn .backlog).filter fun i =>
    i.awaitingDispatch && !i.parked && s.isOpenLeaf i)

/-- The run of the card is past its deadline. -/
def isOverdue (now : Time) (i : WorkItem) : Bool :=
  ((i.runDeadlineAt.map fun d => decide (now > d)).or
    (i.lease.map fun l => l.isExpired now)).getD false

/-- The expiry scan: overdue Claimed cards, then overdue Running cards. -/
def expired (s : BoardState) (now : Time) : List ItemId :=
  [State.claimed, State.running].flatMap fun st =>
    (s.idsByState.bucket st).filter fun id => (s.items[id]?.map (isOverdue now)).getD false

/-- Claimable Backlog leaves of a Project in auto mode that are not queued yet. -/
def autoCandidates (s : BoardState) (projectId : ItemId) : List ItemId :=
  match s.items[projectId]? with
  | none => []
  | some project =>
    if !project.autoDispatch then []
    else (s.cards.filter fun i =>
      i.parent == some projectId && i.state == .backlog && !i.awaitingDispatch && !i.parked &&
        i.definitionOfDone.isSome && s.isOpenLeaf i).map WorkItem.id

/-- Projects in auto mode. -/
def autoProjects (s : BoardState) : List ItemId :=
  (s.cards.filter fun i =>
    i.autoDispatch && i.state != .retired && (i.level == some "Project" || i.isProject)).map
      WorkItem.id

/-- Queued Backlog cards under a Project. -/
def queuedUnder (s : BoardState) (projectId : ItemId) : List ItemId :=
  (s.cards.filter fun i =>
    i.parent == some projectId && i.state == .backlog && i.awaitingDispatch).map WorkItem.id

end BoardState

namespace WorkItem

/-- The card queued for dispatch. -/
def queued (it : WorkItem) : WorkItem :=
  { it with awaitingDispatch := true }

/-- The card with its dispatch and catch-up requests cancelled. -/
def unqueued (it : WorkItem) : WorkItem :=
  { it with awaitingDispatch := false, rebaseRequested := false }

/-- The Project with its auto mode played or paused. -/
def inAuto (enabled : Bool) (it : WorkItem) : WorkItem :=
  { it with autoDispatch := enabled }

/-- The card with a run granted on it. -/
def leased (agentId : String) (now deadline : Time) (it : WorkItem) : WorkItem :=
  { it with
    awaitingDispatch := false
    runDeadlineAt := some deadline
    lease := some ⟨agentId, now, now, deadline⟩ }

/-- The card as a claim leaves it. -/
def granted (agentId : String) (now deadline : Time) (model : Option String) (it : WorkItem) :
    WorkItem :=
  { it.leased agentId now deadline with
    parked := false
    rebaseRequested := false
    model := model.or it.model }

/-- The card with progress reported: the deadline stays where it is. -/
def beaten (now : Time) (progress : ℚ) (it : WorkItem) : WorkItem :=
  { it with
    progress := progress
    lease := it.lease.map fun l => { l with lastHeartbeat := now } }

/-- The card asking a human. -/
def asking (question : String) (options : List EscalationOption) (recommended : ℕ)
    (now : Time) (it : WorkItem) : WorkItem :=
  { it with
    escalation := some ⟨question, options, recommended, now, none⟩
    rebaseRequested := false
    awaitingDispatch := false }

/-- The card as a report leaves it. -/
def reported (added removed : UInt32) (gates : List String) (it : WorkItem) : WorkItem :=
  { it with
    diffAdded := added
    diffRemoved := removed
    progress := 1
    lastBounceReason := none
    lastConflictFiles := []
    gates := gates.map fun name => ⟨name, .passed, some "CI on the PR is the real gate"⟩ }

/-- The card with a bounce reason recorded. -/
def bounced (reason : String) (it : WorkItem) : WorkItem :=
  { it with lastBounceReason := some reason }

end WorkItem

namespace Board

variable {ε : Type}

/-- Whether the supervisor may claim this card. -/
def mayClaim (id : ItemId) : Method ε Bool :=
  read fun s => !(s.items[id]?.any WorkItem.parked)

/-- Why a card cannot be dispatched. -/
def checkDispatch (s : BoardState) (id : ItemId) (it : WorkItem) : Except String Unit :=
  let blockers := s.unresolvedBlockers it
  if it.state ≠ .backlog then .error "only a Backlog card can be dispatched"
  else if it.parked then .error "card is parked; unpark before dispatch"
  else if it.level = some "Project" || s.hasChildren id then
    .error "containers are not dispatchable"
  else if !blockers.isEmpty then .error s!"card is blocked by {debugIds blockers}"
  else if it.definitionOfDone.isNone then
    .error "leaf needs a definition of done before dispatch"
  else .ok ()

/-- The section of `enqueueDispatch` that queues the card. -/
def enqueueSection (id : ItemId) (s : BoardState) : Except String WorkItem × BoardState :=
  match s.items[id]? with
  | none => (.error "no such item", s)
  | some it =>
    match checkDispatch s id it with
    | .error e => (.error e, s)
    | .ok () => (.ok (s.populateBlockers it.queued), s.editItem id WorkItem.queued)

/-- The operator asks the supervisor to start this Backlog card. -/
def enqueueDispatch (id : ItemId) : Method String WorkItem := do
  let may ← mayClaim id
  Locked.failIf (!may) "card is parked; unpark before dispatch"
  let item ← write fun _ s => enqueueSection id s
  emit item
  story id s!"{item.title}: queued for dispatch — supervisor will claim when a slot opens."
  return item

/-- Cancel a pending start request without changing the state. -/
def clearDispatch (id : ItemId) : Method String WorkItem :=
  editOr id "no such item" fun _ => WorkItem.unqueued

/-- Clear the queue under a Project; returns how many cards were in it. -/
def clearAwaitingUnderProject (projectId : ItemId) : Method ε ℕ := do
  let ids ← read fun s => s.queuedUnder projectId
  ids.forM fun id => do
    let _ ← (clearDispatch id).attempt
  return ids.length

/-- Queue the claimable Backlog leaves under one Project. -/
def autoEnqueueProject (projectId : ItemId) : Method ε Unit := do
  let candidates ← read fun s => s.autoCandidates projectId
  candidates.forM fun id => do
    let _ ← (enqueueDispatch id).attempt

/-- Queue every claimable Backlog leaf under the Projects in auto mode. -/
def autoEnqueueAll : Method ε Unit := do
  let projectIds ← read BoardState.autoProjects
  projectIds.forM autoEnqueueProject

/-- The section of `setAutoDispatch`: the title, whether anything changed, and the card. -/
def setAutoSection (id : ItemId) (enabled : Bool) (s : BoardState) :
    Except String (String × Bool × WorkItem) × BoardState :=
  match s.items[id]? with
  | none => (.error "no such item", s)
  | some it =>
    if it.level != some "Project" && !it.isProject then
      (.error "auto mode is only for Projects", s)
    else
      (.ok (it.title, it.autoDispatch != enabled, s.populateBlockers (it.inAuto enabled)),
        s.editItem id (WorkItem.inAuto enabled))

/-- Auto mode was switched on: queue what is claimable now. -/
def autoModeOn (id : ItemId) (title : String) : Method ε Unit := do
  story id s!"{title}: auto mode on — claimable Backlog will start on its own."
  autoEnqueueProject id

/-- Auto mode was switched off: clear the queue, but halt no runner. -/
def autoModeOff (id : ItemId) (title : String) : Method ε Unit := do
  let cleared ← clearAwaitingUnderProject id
  story id (s!"{title}: auto mode off — cleared {cleared} queued Backlog card(s); in-flight runs " ++
    "continue.")

/-- Play or pause the auto mode of a Project. -/
def setAutoDispatch (id : ItemId) (enabled : Bool) : Method String WorkItem := do
  let (title, changed, item) ← write fun _ s => setAutoSection id enabled s
  if !changed then return item
  else
    emit item
    if enabled then autoModeOn id title else autoModeOff id title
    getOr id "no such item"

/-! ## Claiming -/

/-- The section of `claim`: a parked card is refused, and the run is granted in the section
that moves the card. -/
def claimSection (id : ItemId) (agentId : String) (model : Option String) (granted deadline : Time)
    (now : Time) (s : BoardState) : Except TransitionError WorkItem × BoardState :=
  if s.items[id]?.any WorkItem.parked then (.error (.parked id), s)
  else
    match s.transitionLocked now id .claimed agentId none with
    | .error e => (.error e, s)
    | .ok (_, s) => s.tryEdit id (.noSuchItem id) (WorkItem.granted agentId granted deadline model)

section Unicode

variable [UnicodeTables]

/-- One plan row for the briefing of the card `id`. -/
def planTaskBrief (id : ItemId) (titleKey : String) (t : PlanTaskSpec) : PlanTaskBrief where
  key := t.key
  title := t.title
  intent := t.intent
  definitionOfDone := t.definitionOfDone
  blockedByKeys := t.blockedByKeys
  current := t.itemId == some id || (t.itemId.isNone && normalizeTitle t.title == titleKey)

/-- The Project of a card: the card itself, or its parent. -/
def projectOf (item : WorkItem) : Method ε (Option WorkItem) :=
  if item.isProject then pure (some item)
  else match item.parent with
    | some pid => get pid
    | none => pure none

/-- The briefing of a claim: the Project's prompt, and the rows of its accepted plan. -/
def claimPlanContext (id : ItemId) (item : WorkItem) (deadline : Time) : Method ε ClaimGrant := do
  let project ← projectOf item
  let grant : ClaimGrant :=
    { itemId := id
      title := item.title
      intent := item.intent
      definitionOfDone := item.definitionOfDone
      projectTitle := project.map WorkItem.title
      projectPrompt := project.bind WorkItem.projectPrompt
      planSummary := none
      planTasks := []
      planTaskKey := none
      notes := item.notes.map Note.text
      leaseExpiresAt := deadline
      runDeadlineAt := deadline }
  match project with
  | none => return grant
  | some project =>
    let seed ← read fun s => s.initialPlanOf project.id
    match (seed.bind WorkItem.proposal).filter fun p => !p.tasks.isEmpty with
    | none => return grant
    | some proposal =>
      let rows := proposal.tasks.map (planTaskBrief id (normalizeTitle item.title))
      return { grant with
        planSummary := if isBlank proposal.summary then none else some proposal.summary
        planTasks := rows
        planTaskKey := (rows.filter PlanTaskBrief.current).getLast?.map PlanTaskBrief.key }

/-- Assign the card, with a fixed run deadline. -/
def claim (id : ItemId) (agentId : String) (model : Option String) (timeoutSecs : ℤ) :
    Method TransitionError ClaimGrant := do
  let now ← utcNow
  let deadline := now + seconds (max timeoutSecs 1)
  let item ← write fun nows s => claimSection id agentId model now deadline (nows 0) s
  emit item
  claimPlanContext id item deadline

end Unicode

/-- The section of `reopenForAdoption`. -/
def reopenSection (id : ItemId) (agentId : String) (granted deadline : Time) (now : Time)
    (s : BoardState) : Except String WorkItem × BoardState :=
  if s.items[id]?.any WorkItem.parked then (.error s!"#{id} is parked", s)
  else if s.items[id]?.map WorkItem.state ≠ some .backlog then
    (.error s!"#{id} is not Backlog (reopen needs Backlog)", s)
  else
    match s.transitionLocked now id .claimed "supervisor"
        (some "reopened for sandbox re-adoption after supervisor restart") with
    | .error e => (.error e.message, s)
    | .ok (_, s) => s.tryEdit id "" (WorkItem.leased agentId granted deadline)

/-- Backlog to Claimed, so that a restart can adopt a sandbox that survived. -/
def reopenForAdoption (id : ItemId) (agentId : String) (timeoutSecs : ℤ) :
    Method String WorkItem := do
  let now ← utcNow
  let deadline := now + seconds (max timeoutSecs 1)
  let item ← write fun nows s => reopenSection id agentId now deadline (nows 0) s
  emit item
  return item

/-- The first heartbeat promotes Claimed to Running. -/
def promote (id : ItemId) (agentId : String) (now : Time) (s : BoardState) :
    Except TransitionError (Bool × BoardState) :=
  if s.items[id]?.map WorkItem.state = some .claimed then
    (s.transitionLocked now id .running agentId none).map fun (_, s) => (true, s)
  else .ok (false, s)

/-- The section of `heartbeat`: the card, and whether it is worth an event. -/
def heartbeatSection (id : ItemId) (agentId : String) (progress : ℚ) (now : ℕ → Time)
    (s : BoardState) : Except TransitionError (WorkItem × Bool) × BoardState :=
  match promote id agentId (now 0) s with
  | .error e => (.error e, s)
  | .ok (promoted, s) =>
    let progress := max 0 (min progress 1)
    match s.items[id]? with
    | none => (.error (.noSuchItem id), s)
    | some it =>
      -- `f32::EPSILON`
      let changed := decide (|it.progress - progress| > 1 / 2 ^ 23)
      (.ok (it.beaten (now 1) progress, promoted || changed),
        s.editItem id (WorkItem.beaten (now 1) progress))

/-- Report progress; the deadline is not extended, and `leaseSecs` is ignored. -/
def heartbeat (id : ItemId) (agentId : String) (progress : ℚ) (_leaseSecs : ℤ) :
    Method TransitionError WorkItem := do
  let (item, worthEvent) ← write fun now s => heartbeatSection id agentId progress now s
  Locked.when worthEvent (emit item)
  return item

/-! ## Ending a run -/

/-- Change the card `id`, when it is on the board, without an event. -/
def editQuietly (id : ItemId) (f : Time → WorkItem → WorkItem) : Method ε Unit :=
  write fun now s => (.ok (), s.editItem id (f (now 0)))

section Unicode

variable [UnicodeTables]

/-- An escalation carries at least two options and recommends one of them. -/
def checkOptions (options : List EscalationOption) (recommended : ℕ) : Except String Unit :=
  if options.length < 2 then
    .error ("escalate requires at least two concrete options and a recommendation — an " ++
      "open-ended question is not a decision a human can make in one tap")
  else if recommended ≥ options.length then
    .error s!"recommended index {recommended} is out of range"
  else .ok ()

/-- Ask a human. -/
def escalate (id : ItemId) (agentId question : String) (options : List EscalationOption)
    (recommended : ℕ) : Method String WorkItem := do
  Locked.ret (checkOptions options recommended)
  let _ ← write fun now s =>
    s.tryEdit id "no such item" (WorkItem.asking question options recommended (now 0))
  let item ← transitionOrMessage id .needsHuman agentId question
  story id s!"{item.title} is blocked: {question}"
  return item

/-- The agent finished and opened a pull request; the card goes to Review. -/
def report (id : ItemId) (agentId : String) (added removed : UInt32) (gates : List String) :
    Method TransitionError WorkItem := do
  editQuietly id fun _ => WorkItem.reported added removed gates
  transition id .review agentId none

end Unicode

/-- The section of `releaseWithReason`: the bounce reason is recorded before the check. -/
def releaseSection (id : ItemId) (agentId : String) (reason : Option String) (now : Time)
    (s : BoardState) : Except TransitionError WorkItem × BoardState :=
  let s := match reason with
    | some r => s.editItem id (WorkItem.bounced r)
    | none => s
  s.tryMove now id .backlog agentId (some (reason.getD "released by agent"))

/-- Graceful surrender, with the bounce reason when one is given. -/
def releaseWithReason (id : ItemId) (agentId : String) (reason : Option String) :
    Method TransitionError WorkItem := do
  let item ← write fun now s => releaseSection id agentId reason (now 0) s
  emit item
  Locked.onSome reason fun r => story id s!"{item.title}: released ({r})"
  return item

/-- Graceful surrender. -/
def release (id : ItemId) (agentId : String) : Method TransitionError WorkItem :=
  releaseWithReason id agentId none

section Unicode

variable [UnicodeTables]

/-- Requeue one overdue run. -/
def sweepOne (id : ItemId) : Method ε Unit := do
  let title := ((← get id).map WorkItem.title).getD ""
  let _ ← (transition id .backlog "deadline-sweeper" (some "run deadline exceeded")).attempt
  story id s!"{title}: run deadline exceeded; card requeued."

/-- Requeue the runs past their deadline. -/
def sweepLeases : Method ε (List ItemId) := do
  let now ← utcNow
  let expired ← read fun s => s.expired now
  expired.forM sweepOne
  return expired

/-- The options of the escalation after repeated run failures. -/
def runFailureOptions : List EscalationOption :=
  [⟨"Investigate the environment",
    ("Repeated early failure usually means the sandbox, policy or credentials are wrong " ++
      "rather than the card being wrong. `openshell logs` on the kept sandbox is the place to " ++
      "start.")⟩,
   ⟨"Cut scope",
    "Retire the card if it is not worth the environment work it is asking for."⟩]

/-- The card with one more failed run; the counter wraps. -/
def failedOnce (it : WorkItem) : WorkItem :=
  { it with runFailures := it.runFailures + 1 }

/-- A run died before it produced work: requeue the card, or escalate once the attempts are
used up. -/
def recordRunFailure (id : ItemId) (reason : String) (maxAttempts : UInt32) :
    Method String WorkItem := do
  let it ← write fun _ s => s.tryEdit id "no such item" failedOnce
  let failures := it.runFailures
  -- A run that died before its first heartbeat is still Claimed: promote it first.
  Locked.when (it.state = .claimed) do
    let _ ← (transition id .running "supervisor" none).attempt
  if failures < maxAttempts then
    let item ← transitionOrMessage id .backlog "supervisor" s!"run failed: {reason}"
    story id s!"{it.title} failed to run ({failures.toNat}/{maxAttempts.toNat}): {reason}"
    return item
  else
    escalate id "supervisor"
      (s!"{it.title} failed to run {failures.toNat} times without producing any work. " ++
        s!"Last failure: {reason}")
      runFailureOptions 0

end Unicode

end Board

end Sandboard

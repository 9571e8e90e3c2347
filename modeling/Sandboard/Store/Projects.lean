import Sandboard.Store.Board

/-!
# Projects, Tasks and proposals

Transitions, the creation of Projects and Tasks, and the proposals that turn into sibling
Tasks when a card reaches Done.

`transition` and proposal materialization call each other: a card that reaches Done
materializes its proposal, and a materialized Task is moved to Backlog.  Only targets other
than Done occur in the inner calls, so they go through `transitionWith` with no Done hook;
`transition_eq_of_ne_done` says that this is the same method.  In the same way a Task is
created by `createWith` with no seeding (`create_eq_of_parent`).
-/

namespace Sandboard

open Text

namespace WorkItem

/-- The card with its retry budget reset. -/
def unfailed (it : WorkItem) : WorkItem :=
  { it with runFailures := 0 }

/-- The card with its sandbox set or cleared. -/
def inSandbox (sandbox : Option String) (it : WorkItem) : WorkItem :=
  { it with environment := sandbox }

/-- The card with its conversation set or cleared. -/
def inConversation (conversationId : Option String) (it : WorkItem) : WorkItem :=
  { it with conversationId := conversationId }

/-- The card with its blockers replaced. -/
def blockedOn (blockers : List ItemId) (it : WorkItem) : WorkItem :=
  { it with blockedBy := blockers }

/-- The card with a proposal stored on it. -/
def withProposal (proposal : TaskProposal) (it : WorkItem) : WorkItem :=
  { it with proposal := some proposal }

/-- The card with its pull request list replaced. -/
def withPullRequests (prs : List PullRequest) (it : WorkItem) : WorkItem :=
  { it with pullRequests := prs }

/-- The card with its sandbox profile override replaced. -/
def withSandboxProfile (profileId : Option String) (it : WorkItem) : WorkItem :=
  { it with sandboxProfileId := profileId }

/-- The Project without a legacy plan. -/
def unplanned (it : WorkItem) : WorkItem :=
  { it with plan := none }

end WorkItem

namespace Board

variable {ε : Type}

/-! ## Editing one card -/

/-- Change the card `id` when it is on the board and `wanted`, and emit it. -/
def editIf (id : ItemId) (wanted : WorkItem → Bool) (f : WorkItem → WorkItem) :
    Method ε Unit := do
  let edited ← write fun _ s =>
    match s.items[id]? with
    | some it => if wanted it then (.ok (some (f it)), s.editItem id f) else (.ok none, s)
    | none => (.ok none, s)
  Locked.onSome edited emit

/-- Change the card `id`, emit it and return it; fail when it is not on the board. -/
def editOr (id : ItemId) (e : ε) (f : Time → WorkItem → WorkItem) : Method ε WorkItem := do
  let item ← write fun now s => s.tryEdit id e (f (now 0))
  emit item
  return item

/-- A run produced work, so the retry budget resets. -/
def clearRunFailures (id : ItemId) : Method ε Unit :=
  editIf id (fun it => it.runFailures ≠ 0) WorkItem.unfailed

/-- Which sandbox this card is running in. -/
def setEnvironment (id : ItemId) (sandbox : Option String) : Method ε Unit :=
  editIf id (fun _ => true) (WorkItem.inSandbox sandbox)

/-- Persist or clear the conversation id for park and resume. -/
def setConversationId (id : ItemId) (conversationId : Option String) : Method ε Unit :=
  editIf id (fun it => it.conversationId ≠ conversationId) (WorkItem.inConversation conversationId)

/-- Replace the pull request list of a card. -/
def setPullRequests (id : ItemId) (prs : List PullRequest) : Method ε Unit :=
  editIf id (fun _ => true) (WorkItem.withPullRequests prs)

/-- Replace the blockers of a card. -/
def setBlockedBy (id : ItemId) (blockers : List ItemId) : Method ε Unit :=
  editIf id (fun _ => true) (WorkItem.blockedOn blockers)

/-- Set or clear the URL of the first listed pull request. -/
def setPrUrl (id : ItemId) (url : Option String) : Method ε Unit := do
  let url := (url.map trim).filter fun u => !u.isEmpty
  let cur := ((← get id).map WorkItem.pullRequests).getD []
  setPullRequests id <| match url, cur with
    | none, _ => []
    | some u, pr :: prs => { pr with url := u } :: prs
    | some u, [] => [PullRequest.fromUrl u]

/-- Keep the old text when the new one is blank. -/
def updateText (old : String) (new : Option String) : String :=
  match new with
  | some t => if isBlank t then old else t
  | none => old

/-- Replace an optional text; a blank one clears it. -/
def updateOption (old new : Option String) : Option String :=
  match new with
  | some t => if isBlank t then none else some t
  | none => old

/-- The card with its title, intent, definition of done, engine or project prompt changed. -/
def updated (title intent definitionOfDone engine projectPrompt : Option String)
    (it : WorkItem) : WorkItem :=
  { it with
    title := updateText it.title title
    intent := updateText it.intent intent
    -- Keep the Plan summary aligned with the Project's intent.
    plan := match intent with
      | some i =>
        if isBlank i || !it.isProject then it.plan
        else it.plan.map fun plan => { plan with summary := trim i }
      | none => it.plan
    definitionOfDone := updateOption it.definitionOfDone definitionOfDone
    engine := updateOption it.engine engine
    projectPrompt := if it.isProject then updateOption it.projectPrompt projectPrompt
      else it.projectPrompt }

/-- Tweak a card's title, intent, definition of done, engine or project prompt. -/
def updateItem (id : ItemId) (title intent definitionOfDone engine projectPrompt : Option String) :
    Method String WorkItem :=
  editOr id s!"no such item #{id}" fun _ =>
    updated title intent definitionOfDone engine projectPrompt

/-! ## Transitions -/

/-- Active siblings of `id` that were blocked by it and have no open blocker left. -/
def newlyUnblockedSiblings (id : ItemId) : Method ε (List WorkItem) :=
  read fun s =>
    match s.items[id]? with
    | none => []
    | some item => s.cards.filter fun other =>
      other.id != id && other.parent == item.parent && !other.state.isTerminal &&
        other.blockedBy.contains id && (s.unresolvedBlockers other).isEmpty

/-- Tell the story of the siblings a completed card unblocked. -/
def announceUnblocked (id : ItemId) : Method ε Unit := do
  match ← newlyUnblockedSiblings id with
  | [] => pure ()
  | [next] => story id s!"Unblocked next sibling #{next.id} ({next.title}) — ready to dispatch."
  | unblocked =>
    let list := String.intercalate ", " (unblocked.map fun u => s!"#{u.id} ({u.title})")
    story id s!"Unblocked next siblings: {list} — ready to dispatch."

/-- Move a card, and on Done run `onDone` and announce what it unblocked. -/
def transitionWith (onDone : ItemId → String → Method String ℕ) (id : ItemId) (target : State)
    (byWhom : String) (reason : Option String) : Method TransitionError WorkItem := do
  let item ← write fun now s => s.tryMove (now 0) id target byWhom reason
  emit item
  Locked.when (target = .done) do
    let _ ← (onDone id byWhom).attempt
    announceUnblocked id
  let fresh ← get id
  return fresh.getD item

/-- A transition to a target other than Done. -/
def transitionOn : ItemId → State → String → Option String → Method TransitionError WorkItem :=
  transitionWith fun _ _ => pure 0

/-! ## Creating cards -/

/-- A parent must be a Project: a root that is not labelled a Task. -/
def checkParent (s : BoardState) (parent : Option ItemId) : Except String Unit :=
  match parent with
  | none => .ok ()
  | some pid =>
    match s.items[pid]? with
    | none => .error s!"no parent #{pid}"
    | some p =>
      if p.parent.isSome then
        .error "tasks are flat under a Project; cannot nest under another task"
      else if p.level = some "Task" then
        .error "cannot add children to a Task; parent must be a Project"
      else .ok ()

/-- The level label of a new card. -/
def levelFor (schema : Schema) (parent : Option ItemId) : Option String :=
  match parent with
  | none => (schema.projectLevel.map Level.name).or (some "Project")
  | some _ => (schema.taskLevel.map Level.name).or (some "Task")

/-- The fields of a new card that its creator chooses. -/
structure NewCard where
  parent : Option ItemId
  title : String
  intent : String
  definitionOfDone : Option String
  origin : Origin
  aboveLine : Bool
  capability : Option String

/-- The new card under the given id. -/
def NewCard.toItem (c : NewCard) (schema : Schema) (now : Time) (id : ItemId) : WorkItem :=
  { WorkItem.new now id c.title c.intent with
    parent := c.parent
    definitionOfDone := c.definitionOfDone
    origin := c.origin
    aboveLine := c.aboveLine
    capability := c.capability
    level := levelFor schema c.parent }

/-- Insert a new card under the next id. -/
def insertNew (schema : Schema) (now : Time) (c : NewCard) (s : BoardState) :
    WorkItem × BoardState :=
  let item := c.toItem schema now s.nextId
  let s := { s with nextId := s.nextId + 1 }.insertItem item
  (s.populateBlockers item, s)

/-- Create a card, and run `seed` when it is a Project. -/
def createWith (seed : ItemId → Method String WorkItem) (c : NewCard) :
    Method String WorkItem := do
  let checked ← read fun s => checkParent s c.parent
  Locked.ret checked
  let schema ← readSchema
  let item ← write fun now s =>
    let (item, s) := insertNew schema (now 0) c s
    (.ok item, s)
  emit item
  Locked.when item.isProject do
    let _ ← (seed item.id).attempt
  let fresh ← get item.id
  return fresh.getD item

/-- Create a Task under a Project. -/
def createUnder : NewCard → Method String WorkItem :=
  createWith fun id => Locked.fail s!"no work item #{id}"

/-- Intent of the seed Task of a Project. -/
def initialPlanIntent (projectTitle : String) (clone : Option String) : String :=
  match clone with
  | none =>
    s!"Propose sibling Tasks for «{projectTitle}»: write /sandbox/.sandboard/plan.json " ++
      "(summary + tasks with key, title, intent, definition_of_done, optional " ++
      "blocked_by_keys). In each task's intent and/or DoD, name the exact repository to clone " ++
      "(`owner/name`, and fork if cross-fork). Do **not** open a PR. Do not write split.json. " ++
      "Card goes to Review — human Approve creates those Tasks."
  | some clone =>
    s!"{cloneRepoProseLine clone} Propose sibling Tasks for «{projectTitle}»: write " ++
      "/sandbox/.sandboard/plan.json (summary + tasks with key, title, intent, " ++
      "definition_of_done, optional blocked_by_keys). In each task's intent and/or DoD, name " ++
      s!"the exact repository to clone (default `{clone}` unless a task targets another repo). " ++
      "Do **not** open a PR. Do not write split.json. Card goes to Review — human Approve " ++
      "creates those Tasks."

/-- Definition of done of the seed Task. -/
def initialPlanDod (clone : Option String) : String :=
  match clone with
  | none =>
    "Write plan.json with proposed Tasks (each names clone target). Approve creates them."
  | some c =>
    s!"Write plan.json with proposed Tasks (each names clone target; default {c}). Approve " ++
      "creates them."

section Unicode

variable [UnicodeTables]

/-- Seed the claimable Initial plan Task of a Project, unless it has one. -/
def seedInitialPlan (projectId : ItemId) : Method String WorkItem := do
  let project ← getOr projectId s!"no work item #{projectId}"
  Locked.failIf (!project.isProject)
    s!"seed_initial_plan requires a Project; card #{projectId} is not one"
  match ← read fun s => s.initialPlanOf projectId with
  | some existing => return existing
  | none =>
    let title := initialPlanTitle project.title
    let clone := cloneRepoFromProse project.intent
    let seed ← createUnder
      { parent := some projectId
        title := title
        intent := initialPlanIntent project.title clone
        definitionOfDone := some (initialPlanDod clone)
        origin := .planner
        aboveLine := false
        capability := none }
    let _ ← (transitionOn seed.id .shaping "operator" (some "init plan")).attempt
    let seed ← (transitionOn seed.id .backlog "operator" (some "init plan")).mapErr
      TransitionError.message
    story projectId s!"Seeded {title} Task #{seed.id}."
    return seed

/-- Create a Project or a Task under a Project; a Project gets its Initial plan Task. -/
def create : NewCard → Method String WorkItem :=
  createWith seedInitialPlan

/-- The intent of a new Project, stamped with its clone target unless it names one. -/
def stampProjectIntent (clone intent : String) : String :=
  let stamp := cloneRepoProseLine clone
  let trimmed := trim intent
  if (cloneRepoFromProse trimmed).isSome then trimmed
  else if trimmed.isEmpty then stamp
  else s!"{trimmed}\n\n{stamp}"

/-- Create a Project with a required planning clone target. -/
def createProject (title intent cloneRepo : String) (aboveLine : Bool)
    (projectPrompt : Option String) : Method String WorkItem := do
  let clone ← Locked.ret (parseOwnerName cloneRepo)
  let item ← create
    { parent := none
      title := title
      intent := stampProjectIntent clone intent
      definitionOfDone := none
      origin := .human
      aboveLine := aboveLine
      capability := none }
  Locked.onSome ((projectPrompt.filter fun p => !isBlank p).map trim) fun prompt => do
    let _ ← (updateItem item.id none none none none (some prompt)).attempt
  let _ ← (seedInitialPlan item.id).attempt
  let fresh ← get item.id
  return fresh.getD item

/-- The intent of a new Task, stamped with the Project's clone target when neither the
intent nor the definition of done names one. -/
def stampTaskIntent (projectIntent intent definitionOfDone : String) : String :=
  if (cloneRepoFromProse intent).isSome || (cloneRepoFromProse definitionOfDone).isSome then
    intent
  else
    match cloneRepoFromProse projectIntent with
    | some clone =>
      let stamp := s!"Clone repository: {clone}."
      let trimmed := trim intent
      if trimmed.isEmpty then stamp else s!"{stamp} {trimmed}"
    | none => intent

/-- Create a Task under a Project and bring it to Backlog. -/
def createTask (parent : ItemId) (title intent definitionOfDone : String)
    (blockedBy : List ItemId) (capability : Option String) (aboveLine : Bool) :
    Method String WorkItem := do
  let project ← getOr parent s!"no parent #{parent}"
  Locked.failIf (!project.isProject)
    "tasks are flat under a Project; cannot nest under another task"
  let dod := trim definitionOfDone
  Locked.failIf dod.isEmpty "definition_of_done is required so the Task can enter Backlog"
  let item ← createUnder
    { parent := some parent
      title := title
      intent := stampTaskIntent project.intent intent dod
      definitionOfDone := some dod
      origin := .human
      aboveLine := aboveLine
      capability := capability }
  let _ ← (transitionOn item.id .shaping "human" (some "create task")).mapErr
    TransitionError.message
  let item ← (transitionOn item.id .backlog "human" (some "create task")).mapErr
    TransitionError.message
  Locked.when (!blockedBy.isEmpty) (setBlockedBy item.id blockedBy)
  let fresh ← get item.id
  return fresh.getD item

/-! ## Proposals -/

end Unicode

/-- Why a proposal is refused before it is stored. -/
def checkProposal (proposal : TaskProposal) : Except String Unit := do
  if proposal.tasks.isEmpty then
    throw "proposal needs at least one task"
  proposal.tasks.forM fun t =>
    if isBlank t.key then .error s!"proposal task '{t.title}' needs a key"
    else if isBlank t.definitionOfDone then
      .error s!"proposal task '{t.title}' needs a definition of done"
    else .ok ()

/-- Store a proposal on a card; an accepted Initial plan is frozen. -/
def setProposal (id : ItemId) (proposal : TaskProposal) : Method String WorkItem := do
  Locked.ret (checkProposal proposal)
  let item ← write fun _ s =>
    match s.items[id]? with
    | none => (.error s!"no work item #{id}", s)
    | some it =>
      if it.isInitialPlanTask && it.state.isTerminal then
        (.error "Initial plan already accepted — proposal is frozen", s)
      else
        (.ok (it.withProposal proposal), s.editItem id (WorkItem.withProposal proposal))
  emit item
  return item

section Unicode

variable [UnicodeTables]

/-- Titles are compared without case and with single spaces. -/
def normalizeTitle (title : String) : String :=
  UnicodeTables.toLowercase (String.intercalate " " (splitWhitespace title))

/-- The live siblings of the card `id` by normalized title; of two, the later one counts. -/
def existingByTitle (projectId id : ItemId) (s : BoardState) : List (String × WorkItem) :=
  ((s.cards.filter fun i =>
      i.parent == some projectId && i.id != id && i.state != .retired).map fun i =>
    (normalizeTitle i.title, i)).filter (fun e => !e.1.isEmpty) |>.reverse

/-- What materialization has made so far: the siblings, and the id of each row's key. -/
abbrev Materialized : Type := List WorkItem × List (String × ItemId)

/-- Materialize one proposal row: reuse a sibling of the same title, or create one. -/
def materializeRow (card : WorkItem) (projectId : ItemId) (byWhom : String) (origin : Origin)
    (existing : List (String × WorkItem)) (acc : Materialized) (spec : PlanTaskSpec) :
    Method String Materialized := do
  match existing.lookup (normalizeTitle spec.title) with
  | some sibling => return (acc.1 ++ [sibling], (spec.key, sibling.id) :: acc.2)
  | none =>
    let sibling ← createUnder
      { parent := some projectId
        title := spec.title
        intent := spec.intent
        definitionOfDone := some spec.definitionOfDone
        origin := origin
        aboveLine := false
        capability := spec.capability.or card.capability }
    let _ ← (transitionOn sibling.id .shaping byWhom (some "from proposal")).mapErr
      TransitionError.message
    let sibling ← (transitionOn sibling.id .backlog byWhom (some "from proposal")).mapErr
      TransitionError.message
    return (acc.1 ++ [sibling], (spec.key, sibling.id) :: acc.2)

/-- Block the Task of a row by the Tasks of the rows it names. -/
def linkRow (keyToId : List (String × ItemId)) (spec : PlanTaskSpec) : Method String Unit := do
  Locked.onSome (keyToId.lookup spec.key) fun sid =>
    let blockers := spec.blockedByKeys.filterMap fun k => keyToId.lookup k
    Locked.when (!blockers.isEmpty) (setBlockedBy sid blockers)

/-- Stamp the ids of the created Tasks into the rows of a kept proposal. -/
def stampItemIds (keyToId : List (String × ItemId)) (p : TaskProposal) : TaskProposal :=
  { p with
    tasks := p.tasks.map fun t =>
      match keyToId.lookup t.key with
      | some sid => { t with itemId := some sid }
      | none => t }

/-- The card once its proposal was materialized. -/
def settled (keepProposal : Bool) (keyToId : List (String × ItemId)) (it : WorkItem) : WorkItem :=
  { it with proposal := if keepProposal then it.proposal.map (stampItemIds keyToId) else none }

/-- Turn the proposal of a card into sibling Tasks.  An Initial plan keeps its proposal,
stamped; an implementation split drops it. -/
def materializeProposal (id : ItemId) (byWhom : String) (origin : Origin) :
    Method String (List WorkItem) := do
  let card ← getOr id "no such item"
  let keepProposal := card.isInitialPlanTask
  match card.proposal.filter (fun p => !p.tasks.isEmpty), card.parent with
  | none, _ => Locked.fail s!"card #{id} has no proposal to materialize"
  | some _, none => Locked.fail "cannot materialize proposal on a Project root"
  | some proposal, some projectId =>
    let existing ← read (existingByTitle projectId id)
    let (made, keyToId) ←
      proposal.tasks.foldlM (materializeRow card projectId byWhom origin existing) ([], [])
    proposal.tasks.forM (linkRow keyToId)
    editIf id (fun _ => true) (settled keepProposal keyToId)
    return made

/-- The origin of the Tasks of a card's proposal. -/
def proposalOrigin (card : WorkItem) (id : ItemId) : Origin :=
  if card.isInitialPlanTask then .planner else .split id

/-- Create the sibling Tasks of a card that reaches Done; nothing without a proposal, or when
every row is already linked. -/
def materializeProposalOnDone (id : ItemId) (byWhom : String) : Method String ℕ := do
  match ← get id with
  | none => return 0
  | some card =>
    if !card.hasProposal then return 0
    else if card.proposal.any fun p => p.tasks.all fun t => t.itemId.isSome then return 0
    else
      let made ← materializeProposal id byWhom (proposalOrigin card id)
      Locked.onSome (card.parent.filter fun _ => card.isInitialPlanTask) fun projectId =>
        editIf projectId (fun p => p.plan.isSome) WorkItem.unplanned
      story id s!"{card.title} — {made.length} Tasks created from proposal."
      return made.length

/-- Move a card.  On Done, its proposal becomes sibling Tasks. -/
def transition : ItemId → State → String → Option String → Method TransitionError WorkItem :=
  transitionWith materializeProposalOnDone

/-- A transition of a method whose errors are messages. -/
def transitionOrMessage (id : ItemId) (target : State) (byWhom reason : String) :
    Method String WorkItem :=
  (transition id target byWhom (some reason)).mapErr TransitionError.message

/-- Materialize the proposal of a card that is already Done. -/
def materializePendingProposal (id : ItemId) : Method String (List WorkItem) := do
  let card ← getOr id s!"no work item #{id}"
  Locked.failIf (card.state ≠ .done) s!"card #{id} is {card.state.debug}; expected Done"
  let made ← materializeProposal id "operator" (proposalOrigin card id)
  Locked.when (!made.isEmpty)
    (story id s!"{card.title} — {made.length} Tasks created from proposal (heal).")
  return made

end Unicode

/-- The first id whose card, read on its own, is an Initial plan Task. -/
def findInitialPlan : List ItemId → Method ε (Option ItemId)
  | [] => pure none
  | cid :: rest => do
    let child ← get cid
    if child.any WorkItem.isInitialPlanTask then pure (some cid) else findInitialPlan rest

/-- Resolve a Project id or an Initial plan id to the Initial plan Task. -/
def resolveInitialPlanId (id : ItemId) : Method String ItemId := do
  let item ← getOr id s!"no work item #{id}"
  if item.isInitialPlanTask then return id
  else if item.isProject then
    match ← findInitialPlan (← childrenOf id) with
    | some cid => return cid
    | none => Locked.fail s!"Project #{id} has no Initial plan Task"
  else Locked.fail "plan operations require a Project or Initial plan Task"

/-- Why a plan is refused before its card is looked up. -/
def checkPlan (tasks : List PlanTaskSpec) : Except String Unit := do
  if tasks.isEmpty then
    throw "a plan needs at least one task"
  tasks.forM fun t =>
    if isBlank t.definitionOfDone then
      .error s!"task '{t.title}' has no definition of done; without one the board is a wish list"
    else if isBlank t.key then .error s!"task '{t.title}' needs a stable plan key"
    else .ok ()

/-- Write or revise the proposal on the Initial plan card. -/
def proposePlan (id : ItemId) (summary : String) (tasks : List PlanTaskSpec) :
    Method String TaskProposal := do
  Locked.ret (checkPlan tasks)
  let seedId ← resolveInitialPlanId id
  let seed ← getOr seedId s!"no work item #{seedId}"
  Locked.failIf seed.state.isTerminal "Initial plan already accepted — proposal is frozen"
  let proposal : TaskProposal := ⟨summary, tasks⟩
  let _ ← setProposal seedId proposal
  story (seed.parent.getD seedId)
    s!"Plan proposed on Initial plan ({tasks.length} tasks) — awaiting Approve."
  return proposal

/-! ## Settings and hygiene -/

/-- The resolved profile id of an override: blank clears, an unknown id is refused. -/
def resolveProfile (profileIds : List String) (profileId : Option String) :
    Except String (Option String) :=
  match profileId.map trim with
  | none => .ok none
  | some pid =>
    if pid.isEmpty then .ok none
    else if profileIds.contains pid then .ok (some pid)
    else .error s!"no sandbox profile `{pid}`"

/-- Assign the sandbox profile override of a Project. -/
def setProjectSandboxProfile (projectId : ItemId) (profileId : Option String) :
    Method String WorkItem := do
  let item ← write fun _ s =>
    match s.items[projectId]? with
    | none => (.error s!"no such item #{projectId}", s)
    | some it =>
      if !it.isProject then (.error s!"#{projectId} is not a Project", s)
      else
        match resolveProfile s.sandboxProfileIds profileId with
        | .error e => (.error e, s)
        | .ok resolved => s.tryEdit projectId "" (WorkItem.withSandboxProfile resolved)
  emit item
  return item

/-- The sandbox profile catalog changes; the cards are left alone. -/
def setSandboxProfiles (ids : List String) : Method ε Unit := do
  write fun _ s => (.ok (), { s with sandboxProfileIds := ids })
  markDirty

section Unicode

variable [UnicodeTables]

/-- Move one Project whose Tasks are all Done or Retired to Done. -/
def healEpic (healed : ℕ) (project : ItemId × State) : Method ε ℕ := do
  let (pid, state) := project
  let allDone ← read fun s =>
    let children := s.cards.filter fun i => i.parent == some pid
    !children.isEmpty && children.all fun c => c.state.isTerminal
  if allDone then
    Locked.when (state = .draft) do
      let _ ← (transition pid .shaping "epic-hygiene" none).attempt
    let _ ← (transition pid .done "epic-hygiene" (some "All child tasks completed")).attempt
    return healed + 1
  else return healed

/-- Move Projects to Done when all their Tasks are completed or superseded. -/
def healCompletedEpics : Method ε ℕ := do
  let projects ← read fun s =>
    (s.cards.filter fun i => i.parent.isNone && !i.state.isTerminal).map fun i => (i.id, i.state)
  projects.foldlM healEpic 0

end Unicode

end Board

end Sandboard

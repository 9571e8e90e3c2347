import Mathlib.Algebra.Order.Ring.Rat
import Sandboard.Schema

/-!
# One node type

Project and Task are the only levels: a Project is a container, Tasks are flat siblings under
it, linked by dependency edges.  This file holds the records of the board and the functions
that read a single one.  Fields that no modelled function uses are left out.
-/

namespace Sandboard

open Text

/-- `ItemId = u64`; ids are handed out in order and never reach the bound. -/
abbrev ItemId : Type := ℕ

/-- An instant, as `Utc::now` reads it. -/
abbrev Time : Type := ℤ

/-- A whole number of seconds, as a duration. -/
def seconds (n : ℤ) : Time := n * 1000000000

/-- The lifecycle contract. -/
inductive State where
  | draft
  | shaping
  /-- Claimable pool: an operator must dispatch; nothing starts on its own. -/
  | backlog
  | claimed
  | running
  | splitting
  | needsHuman
  /-- Human review of the pull request. -/
  | review
  | done
  /-- Cut scope. Retired, not deleted. -/
  | retired
  deriving DecidableEq, Ord, Repr

instance : Std.TransOrd State where
  eq_swap := by intro a b; cases a <;> cases b <;> decide
  isLE_trans := by intro a b c; cases a <;> cases b <;> cases c <;> decide

instance : Std.LawfulEqOrd State where
  eq_of_compare := by intro a b; cases a <;> cases b <;> decide

namespace State

/-- Done and Retired. -/
def isTerminal : State → Bool
  | done | retired => true
  | _ => false

/-- The `{:?}` form of a state. -/
def debug : State → String
  | draft => "Draft"
  | shaping => "Shaping"
  | backlog => "Backlog"
  | claimed => "Claimed"
  | running => "Running"
  | splitting => "Splitting"
  | needsHuman => "NeedsHuman"
  | review => "Review"
  | done => "Done"
  | retired => "Retired"

@[simp] lemma isTerminal_iff {s : State} : s.isTerminal = true ↔ s = done ∨ s = retired := by
  cases s <;> decide

end State

/-- Why a card exists. -/
inductive Origin where
  | human
  | planner
  /-- Machine-born: the work of the card `fromId` was bigger than its card. -/
  | split (fromId : ItemId)
  | reflection
  deriving DecidableEq

/-- Who holds the card while a run is in flight. -/
structure Lease where
  agentId : String
  grantedAt : Time
  lastHeartbeat : Time
  /-- Mirrors the run deadline at claim time. -/
  expiresAt : Time
  deriving DecidableEq

/-- The instant is strictly past the lease. -/
def Lease.isExpired (l : Lease) (now : Time) : Bool :=
  decide (now > l.expiresAt)

structure EscalationOption where
  label : String
  detail : String
  deriving DecidableEq

/-- A question to a human, with concrete options and a recommendation. -/
structure Escalation where
  question : String
  options : List EscalationOption
  recommended : ℕ
  blockedSince : Time
  answer : Option String
  deriving DecidableEq

inductive GateStatus where
  | pending
  | running
  | passed
  | failed
  deriving DecidableEq

structure GateRun where
  name : String
  status : GateStatus
  detail : Option String
  deriving DecidableEq

/-- A steer note, injected into the next turn of the agent. -/
structure Note where
  atTime : Time
  author : String
  text : String
  deriving DecidableEq

/-- One entry of a card's history. -/
structure Transition where
  atTime : Time
  fromState : State
  toState : State
  byWhom : String
  reason : Option String
  deriving DecidableEq

/-- Summary of a resolved blocker. -/
structure BlockerSummary where
  id : ItemId
  title : String
  state : State
  deriving DecidableEq

/-- One proposed Task. Keys are stable within the plan. -/
structure PlanTaskSpec where
  key : String
  title : String
  intent : String
  definitionOfDone : String
  blockedByKeys : List String
  capability : Option String
  repo : Option RepoConfig
  /-- Set when an approval materializes the row. -/
  itemId : Option ItemId
  deriving DecidableEq

/-- Legacy plan blob of a Project; only its summary and rows are still read. -/
structure PlanArtifact where
  summary : String
  tasks : List PlanTaskSpec
  deriving DecidableEq

/-- Proposed sibling Tasks awaiting human approval on a card. -/
structure TaskProposal where
  summary : String
  tasks : List PlanTaskSpec
  deriving DecidableEq

/-- A child of a split. -/
structure SplitChildSpec where
  title : String
  intent : String
  definitionOfDone : String
  key : Option String
  blockedByKeys : List String
  repo : Option RepoConfig
  deriving DecidableEq

/-- One plan row as the claim briefing shows it. -/
structure PlanTaskBrief where
  key : String
  title : String
  intent : String
  definitionOfDone : String
  blockedByKeys : List String
  /-- This row is the card being claimed. -/
  current : Bool
  deriving DecidableEq

/-! ## Pull requests -/

/-- One end of a pull request. -/
structure PullRequestEnd where
  repo : String
  gitRef : String
  deriving DecidableEq

/-- Both the repository and the branch are named. -/
def PullRequestEnd.isUsable (e : PullRequestEnd) : Bool :=
  !isBlank e.repo && !isBlank e.gitRef

/-- A pull request on a card. -/
structure PullRequest where
  url : String
  base : Option PullRequestEnd
  head : Option PullRequestEnd
  /-- GitHub reported this pull request merged. -/
  merged : Bool
  reportedAt : Option Time
  deriving DecidableEq

/-- Parse `https://github.com/{owner}/{repo}/pull/{n}` into the repository and the number. -/
def parseGithubPrUrl (url : String) : Option (String × ℕ) := do
  let url := trimEndMatches '/' (trim url)
  -- The marker is ASCII, so its place in the lower-cased text is its place in the text.
  let (before, _) ← splitOnce "github.com/" (toAsciiLowercase url)
  let rest := String.ofList (url.toList.drop (before.toList.length + "github.com/".toList.length))
  match split (· == '/') rest with
  | owner :: repo :: pull :: num :: _ =>
    let owner := trim owner
    let repo := trim repo
    if toAsciiLowercase pull ≠ "pull" || owner.isEmpty || repo.isEmpty then none
    else
      let num := String.ofList (num.toList.takeWhile fun c => c != '?' && c != '#')
      let n ← parseU64 num
      some (s!"{owner}/{repo}", n)
  | _ => none

namespace PullRequest

/-- A pull request known by its URL only. -/
def fromUrl (url : String) : PullRequest where
  url := trim url
  base := none
  head := none
  merged := false
  reportedAt := none

/-- The trimmed URL, when there is one. -/
def urlStr (p : PullRequest) : Option String :=
  if isBlank p.url then none else some (trim p.url)

/-- The remotes the pull request was opened against. -/
def toRepoConfig (p : PullRequest) : Option RepoConfig := do
  let base ← p.base.filter PullRequestEnd.isUsable
  let head := (p.head.filter PullRequestEnd.isUsable).getD base
  some (RepoConfig.normalized ⟨base.repo, head.repo, base.gitRef⟩)

end PullRequest

/-! ## The card -/

/-- A work item: one card of the board. -/
structure WorkItem where
  id : ItemId
  parent : Option ItemId
  /-- Label from the level schema. -/
  level : Option String
  title : String
  intent : String
  definitionOfDone : Option String
  state : State
  origin : Origin
  aboveLine : Bool
  blockedBy : List ItemId
  /-- Filled in when the card is read. -/
  blockers : List BlockerSummary
  capability : Option String
  lease : Option Lease
  /-- Hard end of this run. -/
  runDeadlineAt : Option Time
  engine : Option String
  model : Option String
  progress : ℚ
  escalation : Option Escalation
  gates : List GateRun
  /-- Runs that died before producing anything. -/
  runFailures : UInt32
  diffAdded : UInt32
  diffRemoved : UInt32
  notes : List Note
  projectPrompt : Option String
  sandboxProfileId : Option String
  /-- Auto mode of a Project. -/
  autoDispatch : Bool
  lastBounceReason : Option String
  lastConflictFiles : List String
  /-- The sandbox this card ran in. -/
  environment : Option String
  /-- The conversation of the current sandbox session. -/
  conversationId : Option String
  /-- The card must not be claimed until it is unparked. -/
  parked : Bool
  /-- The supervisor should claim this card. -/
  awaitingDispatch : Bool
  /-- A mergeable check of a Review card waits for its retry. -/
  rebaseRequested : Bool
  pullRequests : List PullRequest
  plan : Option PlanArtifact
  proposal : Option TaskProposal
  createdAt : Time
  enteredStateAt : Time
  history : List Transition

/-- Legacy title of the seed Task. -/
def initialPlanTitleLegacy : String := "Initial plan"

/-- Prefix of the seed Task's title. -/
def initialPlanTitlePrefix : String := "Initial Plan for "

/-- Title of the seed Task of a Project. -/
def initialPlanTitle (projectTitle : String) : String :=
  initialPlanTitlePrefix ++ projectTitle

/-- The title is one of an Initial plan Task. -/
def titleIsInitialPlan (title : String) : Bool :=
  title == initialPlanTitleLegacy || startsWith initialPlanTitlePrefix title

namespace WorkItem

/-- A fresh Draft card. -/
def new (now : Time) (id : ItemId) (title intent : String) : WorkItem where
  id := id
  parent := none
  level := none
  title := title
  intent := intent
  definitionOfDone := none
  state := .draft
  origin := .human
  aboveLine := false
  blockedBy := []
  blockers := []
  capability := none
  lease := none
  runDeadlineAt := none
  engine := none
  model := none
  progress := 0
  escalation := none
  gates := []
  runFailures := 0
  diffAdded := 0
  diffRemoved := 0
  notes := []
  projectPrompt := none
  sandboxProfileId := none
  autoDispatch := false
  lastBounceReason := none
  lastConflictFiles := []
  environment := none
  conversationId := none
  parked := false
  awaitingDispatch := false
  rebaseRequested := false
  pullRequests := []
  plan := none
  proposal := none
  createdAt := now
  enteredStateAt := now
  history := []

/-- A root that is not labelled a Task. -/
def isProject (i : WorkItem) : Bool :=
  i.parent.isNone && i.level != some "Task"

/-- Listed pull requests that GitHub has not yet marked merged. -/
def unmergedPrs (i : WorkItem) : List PullRequest :=
  i.pullRequests.filter fun p => !p.merged && p.urlStr.isSome

/-- The oldest unmerged pull request's URL, else the first listed one. -/
def prUrl (i : WorkItem) : Option String :=
  (i.unmergedPrs.findSome? PullRequest.urlStr).or (i.pullRequests.findSome? PullRequest.urlStr)

/-- At least one pull request is listed, and every listed one is merged. -/
def allPullRequestsMerged (i : WorkItem) : Bool :=
  !i.pullRequests.isEmpty && i.pullRequests.all fun p => p.merged || p.urlStr.isNone

/-- The card is the Initial plan Task of a Project. -/
def isInitialPlanTask (i : WorkItem) : Bool :=
  titleIsInitialPlan i.title || i.definitionOfDone.any (contains "Plan artifact approved")

/-- The card carries a proposal with rows. -/
def hasProposal (i : WorkItem) : Bool :=
  i.proposal.any fun p => !p.tasks.isEmpty

end WorkItem

end Sandboard

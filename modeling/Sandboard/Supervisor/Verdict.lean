import Sandboard.Store.Operation
import Sandboard.Supervisor.Outcome

/-!
# Settling a finished run

A run ends with a verdict file in its sandbox, or with a pull request that GitHub shows.  The
supervisor reads the one or asks for the other, and writes on the board what it finds.  What the
sandbox and GitHub answer is `Answers`: each question has its own answer, so that nothing ties one
to another.  The token that is attached for a reported pull request touches no card, and is left
out.
-/

namespace Sandboard

open Text

namespace Supervisor

/-- Where an agent writes its verdict. -/
def verdictDir : String := "/sandbox/.sandboard"

/-! ## The verdict files -/

/-- An option of an escalation, as agents write it. -/
inductive RawEscalationOption where
  | fields (label : String) (detail : Option String)
  | string (s : String)

/-- The option; its label stands in for a missing detail. -/
def RawEscalationOption.intoEscalationOption : RawEscalationOption → EscalationOption
  | fields label detail => ⟨label, detail.getD label⟩
  | string s => ⟨s, s⟩

structure EscalateFile where
  question : String
  options : List RawEscalationOption
  recommended : ℕ

structure RawSplitChild where
  title : String
  intent : String
  dod : Option String
  key : Option String
  blockedByKeys : List String
  repo : Option RepoConfig

structure SplitFile where
  children : List RawSplitChild

/-- A child of the split. -/
def RawSplitChild.toSpec (c : RawSplitChild) : SplitChildSpec where
  title := c.title
  intent := c.intent
  definitionOfDone := c.dod.getD s!"{c.title} completed."
  key := c.key
  blockedByKeys := c.blockedByKeys
  repo := c.repo

structure ReportEnd where
  repo : Option String
  gitRef : Option String

structure ReportFile where
  added : UInt32
  removed : UInt32
  gates : List String
  url : Option String
  base : Option ReportEnd
  head : Option ReportEnd

/-- `PullRequestEnd::new`: both texts trimmed, and `main` for a blank branch. -/
def pullRequestEnd (repo gitRef : String) : PullRequestEnd where
  repo := trim repo
  gitRef := if isBlank gitRef then "main" else trim gitRef

def reportEndToModel (e : ReportEnd) : Option PullRequestEnd := do
  let repo := trim (← e.repo)
  let gitRef := trim (e.gitRef.getD "main")
  if repo.isEmpty then none else some (pullRequestEnd repo gitRef)

def reportToPullRequest (rep : ReportFile) : Option PullRequest := do
  let url ← (rep.url.map trim).filter fun u => !u.isEmpty
  some
    { PullRequest.fromUrl url with
      base := rep.base.bind reportEndToModel
      head := rep.head.bind reportEndToModel }

structure RawPlanTask where
  key : Option String
  title : String
  intent : String
  dod : Option String
  blockedByKeys : List String
  capability : Option String
  repo : Option RepoConfig

/-- Written by the agent of an Initial plan. -/
structure PlanFile where
  summary : Option String
  tasks : List RawPlanTask

/-- A row of the plan; a row without a key gets its place as key. -/
def RawPlanTask.toSpec (t : RawPlanTask) (idx : ℕ) : PlanTaskSpec where
  key := ((t.key.map trim).filter fun k => !k.isEmpty).getD s!"t{idx + 1}"
  title := t.title
  intent := t.intent
  definitionOfDone := (t.dod.filter fun d => !isBlank d).getD s!"{t.title} completed."
  blockedByKeys := t.blockedByKeys
  capability := t.capability
  repo := t.repo
  itemId := none

def planFileToSpecs (plan : PlanFile) : Except String (String × List PlanTaskSpec) :=
  if plan.tasks.isEmpty then .error "plan.json has no tasks"
  else
    .ok ((plan.summary.filter fun s => !isBlank s).getD "Initial plan",
      plan.tasks.zipIdx.map fun (t, idx) => t.toSpec idx)

/-! ## What the scripts print -/

def prUrlMark : String := "SANDBOARD-PR-URL="

def prMergeableMark : String := "SANDBOARD-PR-MERGEABLE="

/-- GitHub's word on whether a pull request can be merged. -/
inductive PrMergeable where
  | mergeable
  | conflicting
  | unknown
  deriving DecidableEq

/-- The first line with the mark decides. -/
def parsePrMergeable (stdout : String) : PrMergeable :=
  match (lines stdout).findSome? fun l => stripPrefix prMergeableMark (trim l) with
  | none => .unknown
  | some rest =>
    let word := toAsciiUppercase (trim rest)
    if word = "MERGEABLE" then .mergeable
    else if word = "CONFLICTING" then .conflicting
    else .unknown

def parsePrUrl (stdout : String) : Option String :=
  (lines stdout).findSome? (stripPrefix prUrlMark)

/-- The pull request on the first line with the mark, with both of its ends. -/
def parsePrBindingLine (stdout : String) : Option PullRequest := do
  let rest ← (lines stdout).findSome? fun l => stripPrefix "SANDBOARD-PR-BIND=" (trim l)
  match (split (· == '|') rest).map trim with
  | url :: baseRepo :: baseRef :: headRepo :: headRef :: _ =>
    if url.isEmpty || baseRepo.isEmpty then none
    else
      let headRepo := if headRepo.isEmpty then baseRepo else headRepo
      let headRef := if headRef.isEmpty then "main" else headRef
      some
        { PullRequest.fromUrl url with
          base := some (pullRequestEnd baseRepo baseRef)
          head := some (pullRequestEnd headRepo headRef) }
  | _ => none

/-- `str::parse::<u32>`, and nothing for a text that is no number. -/
def countOf (s : String) : UInt32 :=
  UInt32.ofNat (((parseU64 s).filter fun n => n < 2 ^ 32).getD 0)

/-- The added and removed lines of `git diff --numstat`; the sums wrap. -/
def parseDiffstat (stdout : String) : UInt32 × UInt32 :=
  (lines stdout).foldl count (0, 0)
where
  /-- Add one line of the output. -/
  count (acc : UInt32 × UInt32) (line : String) : UInt32 × UInt32 :=
    match splitWhitespace line with
    | a :: r :: _ => (acc.1 + countOf a, acc.2 + countOf r)
    | _ => acc

/-! ## The questions -/

/-- The content of a downloaded verdict file, as each format reads it. -/
structure VerdictFile where
  escalate : Except String EscalateFile
  split : Except String SplitFile
  report : Except String ReportFile

/-- A file is downloaded, and then read. -/
structure Download (α : Type) where
  download : Except String Unit
  content : Except String α

/-- What the supervisor is told while it settles a run. -/
structure Answers where
  /-- The probe for a verdict file. -/
  probe : Except String Output
  verdict : Download VerdictFile
  /-- The plan beside the verdict. -/
  plan : Download (Except String PlanFile)
  /-- The look for an open pull request before a split. -/
  openPr : Except String Output
  /-- The view of the pull request that the report or the card names. -/
  namedView : Except String Output
  /-- The look for the pull request of the branch, when the report names none. -/
  lookup : Except String Output
  /-- The view of the pull request that was found. -/
  lookedView : Except String Output
  diffstat : Except String Output
  /-- The look at the reported pull request before Review. -/
  mergeable : Except String Output
  /-- The look for the pull request of a run without a verdict. -/
  published : Except String Output

/-- What a command printed, when it ran and succeeded. -/
def printedOf (out : Except String Output) : Option String :=
  match out with
  | .ok out => if out.ok then some out.stdout else none
  | .error _ => none

/-! ## Settling -/

section Settle

variable [UnicodeTables] (w : Answers) (id : ItemId) (agentId branch : String)

/-- The card is on the board, and `p` holds of it. -/
def cardIs (p : WorkItem → Bool) : Method Abort Bool := do
  return (← Board.get id).any p

/-- Ask a human on behalf of the run. -/
def ask (what question : String) (options : List EscalationOption) : Method Abort Unit := do
  let _ ← (Board.escalate id agentId question options 0).mapErr fun e => .error s!"{what}: {e}"

/-- Ask for the plan, and say that the run is settled so. -/
def escalateMissing (detail : String) : Method Abort Bool := do
  ask id agentId "initial-plan plan.json escalate" detail
    [⟨"Write plan.json",
      (s!"Write {verdictDir}/plan.json (tasks with key, intent, DoD naming the clone repo, " ++
        "blocked_by_keys). No PR. Then exit.")⟩,
     ⟨"Propose Plan on the board",
      ("Use propose_breakdown (writes the Initial plan proposal), then Approve that card.")⟩]
  return true

/-- Store the plan on the Initial plan; `true` when a human is asked instead. -/
def applyInitialPlanSidecar : Method Abort Bool :=
  match w.plan.download, w.plan.content with
  | .error _, _ => escalateMissing id agentId
      (s!"Initial plan must write {verdictDir}/plan.json (proposed Tasks; each names the repo " ++
        "to clone in intent/DoD). Approve on that Review card creates the Tasks.")
  | .ok (), .error e => escalateMissing id agentId s!"could not read downloaded plan.json: {e}"
  | .ok (), .ok (.error e) => escalateMissing id agentId s!"invalid plan.json: {e}"
  | .ok (), .ok (.ok plan) =>
    match planFileToSpecs plan with
    | .error e => escalateMissing id agentId e
    | .ok (summary, specs) => do
      match ← (Board.setProposal id ⟨summary, specs⟩).attempt with
      | .ok _ => return false
      | .error e => escalateMissing id agentId s!"set_proposal refused: {e}"

/-- The run reports; an error of the board becomes its text. -/
def reportRun (added removed : UInt32) (gates : List String) : Method Abort Unit := do
  let _ ← (Board.report id agentId added removed gates).mapErr fun e => .error e.message

/-- Record the pull request that the run reports. -/
def recordPr (pr : PullRequest) : Method Abort Unit := do
  let _ ← (Board.reportPullRequest id pr).mapErr fun e => .error s!"report_pull_request: {e}"

/-- Bounce reason of a pull request that cannot be merged. -/
def conflictingPrBounceReason : String :=
  "PR mergeable is CONFLICTING; resolve rebase conflicts before Review"

/-- The content of a verdict file, in the format of its kind. -/
def parsed {α : Type} (what : String) : Except String α → Method Abort α
  | .ok a => pure a
  | .error e => Locked.fail (.error s!"invalid {what}: {e}")

/-- The agent asks a human. -/
def settleEscalate (file : VerdictFile) : Method Abort Bool := do
  let esc ← parsed "escalate.json" file.escalate
  let options := esc.options.map RawEscalationOption.intoEscalationOption
  let _ ← (Board.escalate id agentId esc.question options esc.recommended).mapErr fun e =>
    .error s!"escalate: {e}"
  return true

/-- The URL of the card's pull request, else of an open one that GitHub shows. -/
def existingPr (card : Option WorkItem) : Option String :=
  ((card.bind WorkItem.prUrl).filter fun u => !isBlank u).or
    ((printedOf w.openPr).bind parsePrUrl)

/-- The agent proposes sibling Tasks. -/
def settleSplit (file : VerdictFile) : Method Abort Bool := do
  if ← cardIs id WorkItem.isInitialPlanTask then
    ask id agentId "initial-plan split refuse"
      (s!"Initial plan finishes by writing {verdictDir}/plan.json (moves to Review). Approve " ++
        "materializes sibling Tasks from that proposal.")
      [⟨"Write plan.json",
        s!"Write {verdictDir}/plan.json (tasks name clone repos in intent/DoD)."⟩,
       ⟨"Propose Plan on the board", "Use propose_breakdown on the Project, then Approve."⟩]
    return true
  else
    let split ← parsed "split.json" file.split
    let card ← Board.get id
    Locked.onSome (existingPr w card) fun url => Board.setPrUrl id (some url)
    match ← (Board.proposeSplit id agentId (split.children.map RawSplitChild.toSpec) 5).attempt with
    | .ok _ => return true
    | .error e =>
      let asked ← cardIs id fun i => i.state == .needsHuman
      Locked.when (asked = false) (ask id agentId s!"split refused ({e}) and failed to escalate"
        s!"Agent requested a split, but it was refused by governor: {e}"
        [⟨"Decompose manually",
          "Add sibling Tasks under the Project with the right deps."⟩,
         ⟨"Revise scope",
          "Narrow the definition of done so the work fits in one card."⟩])
      return true

/-- The agent of an Initial plan finishes with its plan. -/
def settlePlan : Method Abort Bool := do
  if ← cardIs id WorkItem.isInitialPlanTask then
    if ← applyInitialPlanSidecar w id agentId then return true
    else
      reportRun id agentId 0 0 ["plan.json"]
      return true
  else
    ask id agentId "plan.json on non-initial"
      ("plan.json is only for Initial plan cards. Impl cards use report.json (with a PR) or " ++
        "split.json.")
      [⟨"Write report.json", "Open/update the PR, then write report.json with url/base/head."⟩,
       ⟨"Write split.json",
        "If the work is too large, propose sibling Tasks via split.json."⟩]
    return true

/-- Base and head are both there. -/
def hasForgeEnds (pr : PullRequest) : Bool :=
  pr.base.any PullRequestEnd.isUsable && pr.head.any PullRequestEnd.isUsable

/-- The reported pull request, with the ends that GitHub shows when it lacks them. -/
def boundPr (reported : Option PullRequest) (cardUrl : Option String) : Option PullRequest :=
  if reported.any hasForgeEnds then reported
  else
    match (reported.bind PullRequest.urlStr).or cardUrl, w.namedView with
    | some _, .ok out => (parsePrBindingLine out.stdout).or reported
    | _, _ => reported

/-- The pull request to record: the reported one, else the open one of the branch. -/
def prToRecord (reported : Option PullRequest) : Except Abort PullRequest :=
  match reported.filter fun pr => pr.urlStr.isSome with
  | some pr => .ok pr
  | none => do
    let looked ← awaited w.lookup
    match parsePrUrl looked.stdout with
    | none => .error (.error s!"agent finished but opened no PR for {branch}")
    | some url =>
      match w.lookedView with
      | .ok out => .ok ((parsePrBindingLine out.stdout).getD (PullRequest.fromUrl url))
      | .error _ => .ok (PullRequest.fromUrl url)

/-- The added and removed lines: counted when the report has none. -/
def reportedLines (rep : ReportFile) : UInt32 × UInt32 :=
  if rep.added = 0 ∧ rep.removed = 0 then
    ((printedOf w.diffstat).map parseDiffstat).getD (rep.added, rep.removed)
  else (rep.added, rep.removed)

/-- The gates of a report, or the given name for a report without one. -/
def gatesOr (name : String) (rep : ReportFile) : List String :=
  if rep.gates.isEmpty then [name] else rep.gates

/-- The report of a card that is no Initial plan and has no proposal. -/
def publishReport (rep : ReportFile) : Method Abort Bool := do
  let cardUrl := (← Board.get id).bind WorkItem.prUrl
  let pr ← Locked.ret (prToRecord w branch (boundPr w (reportToPullRequest rep) cardUrl))
  recordPr id pr
  let merges := ((printedOf w.mergeable).map parsePrMergeable).getD .unknown
  if merges = .conflicting then
    let _ ← (Board.releaseWithReason id agentId (some conflictingPrBounceReason)).mapErr fun e =>
      .error s!"release conflicting PR: {e.message}"
    return true
  else
    let (added, removed) := reportedLines w rep
    reportRun id agentId added removed (gatesOr "agent-reported" rep)
    return true

/-- The agent reports. -/
def settleReport (file : VerdictFile) : Method Abort Bool := do
  let rep ← parsed "report.json" file.report
  -- The pull request is stored first, so that a question still shows it.
  Locked.onSome (reportToPullRequest rep) fun pr => do
    let _ ← (Board.reportPullRequest id pr).attempt
  if ← cardIs id WorkItem.isInitialPlanTask then
    if ← applyInitialPlanSidecar w id agentId then return true
    else
      reportRun id agentId rep.added rep.removed (gatesOr "plan.json" rep)
      return true
  else if ← cardIs id WorkItem.hasProposal then
    ask id agentId "proposal/report exclusivity"
      ("This card already has a Task proposal in Review. Finish via Approve / PR merge (creates " ++
        "siblings) or request_changes — do not also report a second PR.")
      [⟨"Approve / merge the proposal",
        ("Approve acknowledges; PR merge (or Approve without a PR) creates the sibling " ++
          "Tasks.")⟩,
       ⟨"Request changes", "Clear the proposal and return the card to Backlog."⟩]
    return true
  else publishReport w id agentId branch rep

/-- The kind and the path of the verdict file that the probe names. -/
def probed : Option (String × String) :=
  (printedOf w.probe).bind fun out => splitOnce ":" (trim out)

/-- Process the verdict file; `false` when there is none, or one of an unknown kind. -/
def processVerdict : Method Abort Bool :=
  match probed w with
  | none => pure false
  | some (vtype, path) => do
    let _ ← Locked.ret (w.verdict.download.mapError fun e =>
      Abort.error s!"could not download verdict file {path}: {e}")
    let file ← Locked.ret (w.verdict.content.mapError fun e =>
      Abort.error s!"could not read downloaded verdict file: {e}")
    if vtype = "escalate" then settleEscalate id agentId file
    else if vtype = "split" then settleSplit w id agentId file
    else if vtype = "plan" then settlePlan w id agentId
    else if vtype = "report" then settleReport w id agentId branch file
    else return false

/-- The error of a command that failed, with what it printed. -/
def failedWith (what : String) (out : Output) : Abort :=
  match outerr out with
  | .ok text => .error s!"{what}: {text}"
  | .error a => a

/-- A run without a verdict: record the pull request that GitHub shows. -/
def publishRun (run : Output) : Method Abort Unit :=
  if !run.ok then Locked.fail (failedWith s!"agent exited {run.code}" run)
  else do
    let out ← Locked.ret (awaited w.published)
    if !out.ok then Locked.fail (failedWith "could not ask GitHub about the PR" out)
    else
      match parsePrUrl out.stdout with
      | none => Locked.fail (.error s!"agent finished but opened no PR for {branch}")
      | some url =>
        recordPr id (PullRequest.fromUrl url)
        if parsePrMergeable out.stdout = .conflicting then
          let _ ← (Board.releaseWithReason id agentId
            (some conflictingPrBounceReason)).mapErr fun e => .error e.message
        else
          let (added, removed) := ((printedOf w.diffstat).map parseDiffstat).getD (0, 0)
          reportRun id agentId added removed ["ci-on-pr"]

/-- Settle a finished run. -/
def finish (run : Output) : Method Abort Unit := do
  if ← processVerdict w id agentId branch then return ()
  else if ← cardIs id WorkItem.isInitialPlanTask then
    ask id agentId "Initial plan escalation"
      (if run.ok then s!"Initial plan finished without writing {verdictDir}/plan.json."
        else s!"Initial plan exited before writing {verdictDir}/plan.json.")
      [⟨"Write plan.json",
        s!"Write {verdictDir}/plan.json with the proposed Tasks, then exit."⟩,
       ⟨"Propose Plan on the board",
        "Use propose_breakdown on the Project, then Approve that card."⟩]
  else publishRun w id agentId branch run

end Settle

end Supervisor

end Sandboard

import Sandboard.Store.HumanVerbs

/-!
# Forge events

What the board does when GitHub moves: pull requests reported on a card, merges, review
feedback, and the default branch advancing under live runs and under cards in Review.
-/

namespace Sandboard

open Text

/-- Outcome of a catch-up check of a Review card after main advanced. -/
inductive RebaseOutcome where
  /-- GitHub reports MERGEABLE. -/
  | clean
  /-- GitHub reports CONFLICTING. -/
  | conflict (conflictingFiles : List String) (reason : Option String)

/-- Binding note of a card that bounces because its pull request conflicts. -/
def conflictBounceNote (conflictingFiles : List String) : String :=
  let list := String.intercalate ", " conflictingFiles
  let files := if conflictingFiles.isEmpty then "GitHub PR mergeable is CONFLICTING"
    else s!"conflicting files: {list}"
  (s!"BINDING: main advanced — {files}. do-not-re-report-while-CONFLICTING; rebase onto upstream " ++
    "base before finishing.")

/-- Pull request URLs are compared trimmed, without trailing slashes, in lower case. -/
def normalizePrUrl (url : String) : String :=
  toAsciiLowercase (trimEndMatches '/' (trim url))

/-- The pull request has the given normalized URL. -/
def PullRequest.hasUrl (needle : String) (p : PullRequest) : Bool :=
  p.urlStr.any fun u => normalizePrUrl u == needle

namespace WorkItem

/-- The card lists a pull request with the given normalized URL. -/
def listsPr (needle : String) (it : WorkItem) : Bool :=
  it.pullRequests.any (PullRequest.hasUrl needle)

/-- Mark every listed pull request with the given normalized URL as merged. -/
def withPrMerged (needle : String) (it : WorkItem) : WorkItem :=
  { it with
    pullRequests := it.pullRequests.map fun p =>
      if p.hasUrl needle then { p with merged := true } else p }

/-- Record a pull request: an entry of the same URL takes its ends, else it is appended. -/
def withReportedPr (needle : String) (pr : PullRequest) (it : WorkItem) : WorkItem :=
  { it with pullRequests := update it.pullRequests }
where
  /-- Update the first entry of the same URL, or append. -/
  update : List PullRequest → List PullRequest
    | [] => [pr]
    | p :: ps =>
      if p.hasUrl needle then
        { p with
          base := pr.base.or p.base
          head := pr.head.or p.head
          url := if isBlank p.url then pr.url else p.url } :: ps
      else p :: update ps

/-- The card with a conflict recorded on it. -/
def conflicted (bounceReason : String) (files : List String) (now : Time) (it : WorkItem) :
    WorkItem :=
  { it.noted now "rebase" (conflictBounceNote files) with
    lastBounceReason := some bounceReason
    lastConflictFiles := files }

/-- The card queued for a retry of its mergeable check. -/
def catchingUp (it : WorkItem) : WorkItem :=
  { it with rebaseRequested := true, awaitingDispatch := true }

/-- The card with its catch-up settled as clean. -/
def rebasedClean (it : WorkItem) : WorkItem :=
  { it.unqueued with
    lastBounceReason := none
    lastConflictFiles := [] }

/-- The card with review feedback on it. -/
def reviewed (byWhom text : String) (now : Time) (it : WorkItem) : WorkItem :=
  { it.noted now byWhom text with
    runFailures := 0
    escalation := none
    proposal := none }

end WorkItem

namespace Board

variable {ε : Type}

/-- Stamp the report time of a pull request that has none. -/
def stampReported (pr : PullRequest) : Method ε PullRequest :=
  match pr.reportedAt with
  | some _ => pure pr
  | none => do
    let now ← utcNow
    return { pr with reportedAt := some now }

/-- Record a pull request opened mid-run; the state of the card does not change. -/
def reportPullRequest (id : ItemId) (pr : PullRequest) : Method String WorkItem := do
  match pr.urlStr with
  | none => Locked.fail s!"card #{id} report_pull_request needs a PR url"
  | some url =>
    let pr ← stampReported pr
    let item ← editOr id s!"no such item #{id}" fun _ =>
      WorkItem.withReportedPr (normalizePrUrl url) pr
    story id s!"{item.title}: recorded PR {url} ({item.pullRequests.length})"
    return item

/-! ## Main advanced -/

/-- The remotes of a card, from its pull requests only. -/
def repoOf (id : ItemId) (item : WorkItem) : Except String (Option RepoConfig) :=
  match item.unmergedPrs.head?.or item.pullRequests.head? with
  | none => .ok none
  | some pr =>
    match pr.toRepoConfig, pr.urlStr with
    | some repo, _ => .ok (some repo)
    | none, none => .ok none
    | none, some url =>
      match parseGithubPrUrl url with
      | some (upstream, _) => .ok (some (RepoConfig.normalized ⟨upstream, upstream, "main"⟩))
      | none => .error
        s!"card #{id} pull_request.url is not a parseable GitHub pull URL: {url}"

/-- Read a card as it is stored, or fail. -/
def readOr (id : ItemId) (e : ε) : Method ε WorkItem := do
  match ← read fun s => s.items[id]? with
  | some it => pure it
  | none => Locked.fail e

/-- Resolve the remotes of a card. -/
def resolveCardRepo (id : ItemId) : Method ε (Except String (Option RepoConfig)) := do
  match ← get id with
  | none => return .error s!"no such item #{id}"
  | some item => return repoOf id item

/-- The remotes of a card, if they resolve. -/
def cardRepo (id : ItemId) : Method ε (Option RepoConfig) := do
  return (← resolveCardRepo id).toOption.join

/-- The upstream of the card, or the default upstream, is the repository that advanced. -/
def cardMatchesMainAdvancedRepo (id : ItemId) (advancedRepo : String) : Method ε Bool := do
  let advanced := trim advancedRepo
  if advanced.isEmpty then return false
  else
    match ← cardRepo id with
    | some repo => return repo.upstream == advanced
    | none =>
      let schema ← readSchema
      let upstream := trim schema.repo.upstream
      return !upstream.isEmpty && upstream == advanced

/-- Where main is, for notes and stories. -/
def whereMain (refName : String) (commitSha : Option String) : String :=
  match commitSha with
  | some sha => if sha.isEmpty then refName else s!"{refName} @ {sha}"
  | none => refName

/-- A base branch, `main` when blank. -/
def baseOrMain (base : String) : String :=
  if isBlank base then "main" else trim base

/-- Binding note for live runs when main moves under them. -/
def mainAdvancedSteerNote (refName : String) (commitSha : Option String) (base : String) :
    String :=
  let base := baseOrMain base
  (s!"Main advanced ({whereMain refName commitSha}). First action: fetch upstream {base} and " ++
    s!"rebase this card's branch onto upstream/{base} (not origin/{base} alone — the fork's base " ++
    "freezes at create time), then continue the card.")

/-- Story line of an automatic steer. -/
def mainAdvancedSteerStory (title refName : String) (commitSha : Option String)
    (base : String) : String :=
  s!"{title}: {whereMain refName commitSha} advanced — live run interrupted for rebase " ++
    s!"(auto-steered; fetch upstream {baseOrMain base} and continue)."

/-- The note is one of an automatic steer. -/
def isMainAdvancedSteerNote (text : String) : Bool :=
  startsWith "Main advanced (" text

/-- Some note is one of an automatic steer. -/
def hasMainAdvancedSteerNote (notes : List Note) : Bool :=
  notes.any fun n => isMainAdvancedSteerNote n.text

/-- The commit an automatic steer note names. -/
def parseMainAdvancedSteerCommitSha (text : String) : Option String := do
  let rest ← stripPrefix "Main advanced (" text
  let (inside, _) ← splitOnce ")" rest
  let (_, sha) ← splitOnce " @ " inside
  let sha := trim sha
  if sha.isEmpty then none else some sha

/-- The commit of the last automatic steer that names one. -/
def lastMainAdvancedSteerCommitSha (notes : List Note) : Option String :=
  (notes.reverse.filter fun n => isMainAdvancedSteerNote n.text).findSome? fun n =>
    parseMainAdvancedSteerCommitSha n.text

/-- The commit is the one of the last steer, blanks counting as none. -/
def mainAdvancedShaUnchanged (newSha prevSha : Option String) : Bool :=
  norm newSha == norm prevSha
where
  /-- A trimmed nonblank commit. -/
  norm (s : Option String) : Option String := (s.map trim).filter fun s => !s.isEmpty

/-- The card is queued after an earlier automatic steer. -/
def isCoalesced (i : WorkItem) : Bool :=
  i.state == .backlog && i.awaitingDispatch && !i.parked && hasMainAdvancedSteerNote i.notes

section Unicode

variable [UnicodeTables]

/-- Park and unpark a steered card, so that its resume briefing carries the rebase. -/
def bounceForRebase (id : ItemId) : Method ε Unit := do
  let alreadyParked ← read fun s => s.items[id]?.any WorkItem.parked
  Locked.when (!alreadyParked) do
    let parked ← (park id (some "main advanced")).attempt
    Locked.onSome parked.toOption fun _ => do
      let _ ← (unpark id).attempt

/-- Steer one candidate card; a card queued by an earlier steer is only noted again, and only
when the commit changed. -/
def steerLiveCard (advancedRepo refName : String) (commitSha : Option String)
    (steered : List ItemId) (id : ItemId) : Method String (List ItemId) := do
  if !(← cardMatchesMainAdvancedRepo id advancedRepo) then return steered
  else
    -- A card that is gone panics in the source, and so ends the whole call.
    let it ← readOr id "candidate card"
    let base := ((← cardRepo id).map RepoConfig.base).getD "main"
    let now ← readOr id "candidate card"
    if isCoalesced now &&
        mainAdvancedShaUnchanged commitSha (lastMainAdvancedSteerCommitSha now.notes) then
      return steered
    else
      match ← (steer id (mainAdvancedSteerNote refName commitSha base)).attempt with
      | .error _ => return steered
      | .ok _ =>
        story id (mainAdvancedSteerStory it.title refName commitSha base)
        Locked.when (!isCoalesced now) (bounceForRebase id)
        return steered ++ [id]

/-- Steer the live runs on the upstream that advanced. -/
def notifyMainAdvanced (advancedRepo refName : String) (commitSha : Option String) :
    Method String (List ItemId) := do
  let seq ← nextSeq
  recordAndSend (.mainAdvanced seq refName commitSha)
  let candidates ← read fun s =>
    (s.cards.filter fun i =>
      i.state == .claimed || i.state == .running || isCoalesced i).map WorkItem.id
  candidates.foldlM (steerLiveCard advancedRepo refName commitSha) []

end Unicode

/-! ## Review catch-up -/

/-- The section of `dispatchRebase`: the card, and whether anything changed. -/
def dispatchRebaseSection (id : ItemId) (s : BoardState) :
    Except String (WorkItem × Bool) × BoardState :=
  match s.items[id]? with
  | none => (.error s!"no such item {id}", s)
  | some it =>
    if it.state ≠ .review then
      (.error s!"only Review cards can queue mergeable retry, #{id} is in {it.state.debug}", s)
    else if it.prUrl.isNone then
      (.error s!"card #{id} has no pull_request.url for mergeable check", s)
    else if it.rebaseRequested then (.ok (s.populateBlockers it, false), s)
    else (.ok (s.populateBlockers it.catchingUp, true), s.editItem id WorkItem.catchingUp)

/-- Queue a Review card for a retry of its mergeable check. -/
def dispatchRebase (id : ItemId) : Method String WorkItem := do
  let (item, changed) ← write fun _ s => dispatchRebaseSection id s
  Locked.when changed do
    emit item
    story id s!"{item.title}: waiting on GitHub mergeable — catch-up will retry."
  return item

/-- The section that bounces a conflicting card to Backlog. -/
def conflictSection (id : ItemId) (bounceReason : String) (files : List String) (now : ℕ → Time)
    (s : BoardState) : Except String WorkItem × BoardState :=
  let s := s.editItem id (WorkItem.conflicted bounceReason files (now 0))
  match s.transitionLocked (now 1) id .backlog "rebase" (some bounceReason) with
  | .error e => (.error s!"failed transition to Backlog on rebase conflict: {e.message}", s)
  | .ok (_, s) =>
    match s.tryEdit id "" WorkItem.unqueued with
    | (.error e, s) => (.error e, s)
    | (.ok item, s) => (.ok (s.populateBlockers item), s)

/-- The options when the same files conflict again. -/
def repeatedConflictOptions : List EscalationOption :=
  [⟨"Re-split tasks to isolate overlapping files",
    ("Return card to Shaping/Backlog or re-split the task so overlapping file boundaries are " ++
      "separated.")⟩,
   ⟨"Manually resolve conflict and approve",
    "Manually rebase or merge the PR branch onto main and approve."⟩,
   ⟨"Retire card",
    "Cut scope and retire this card if the conflict cannot be resolved."⟩]

section Unicode

variable [UnicodeTables]

/-- Record the outcome of a catch-up check: clean clears the retry flags, a conflict bounces
the card, and a conflict on the same files as before escalates. -/
def recordRebaseOutcome (id : ItemId) (outcome : RebaseOutcome) : Method String WorkItem := do
  let before ← readOr id s!"no such item #{id}"
  Locked.failIf (before.state ≠ .review)
    s!"only Review cards can record rebase outcome, #{id} is in {before.state.debug}"
  match outcome with
  | .clean =>
    let item ← write fun _ s =>
      match s.tryEdit id s!"no such item #{id}" WorkItem.rebasedClean with
      | (.error e, s) => (.error e, s)
      | (.ok item, s) => (.ok (s.populateBlockers item), s)
    emit item
    return item
  | .conflict conflictingFiles reason =>
    let files := conflictingFiles.map trim
    let overlapping := files.filter before.lastConflictFiles.contains
    let baseReason := reason.getD "GitHub PR mergeable is CONFLICTING"
    if !overlapping.isEmpty then
      let list := String.intercalate ", " overlapping
      let bounceReason := (s!"{baseReason}: decomposition failure: repeated conflict on " ++
        s!"overlapping files: {list}")
      editQuietly id (WorkItem.conflicted bounceReason files)
      escalate id "rebase"
        (s!"Decomposition failure: repeated rebase conflict on overlapping files ({list}) for " ++
          s!"card #{id}")
        repeatedConflictOptions 0
    else
      let list := String.intercalate ", " files
      let bounceReason := if files.isEmpty then baseReason
        else s!"{baseReason}: conflicting files: {list}"
      let item ← write fun now s => conflictSection id bounceReason files now s
      emit item
      story id (s!"{before.title}: GitHub CONFLICTING after main advance — returned to Backlog " ++
        s!"({bounceReason}).")
      return item

/-! ## Merges and review feedback -/

/-- The history reason of an event on a pull request. -/
def prReason (what : String) (prNumber : Option ℕ) : String :=
  match prNumber with
  | some n => s!"{what} (#{n})"
  | none => what

/-- The actor of an event, with a default for a blank one. -/
def actorOr (dflt byWhom : String) : String :=
  if isBlank byWhom then dflt else trim byWhom

/-- The first live card that lists the pull request. -/
def liveCardOfPr (needle : String) (s : BoardState) : Option ItemId :=
  (s.cards.find? fun i => !i.state.isTerminal && i.listsPr needle).map WorkItem.id

/-- A pull request merged: mark it on its card, and finish the card once all are merged. -/
def completeForMergedPr (prUrl : String) (prNumber : Option ℕ) (byWhom : String) :
    Method ε (Option ItemId) := do
  let needle := normalizePrUrl prUrl
  if needle.isEmpty then return none
  else
    match ← read (liveCardOfPr needle) with
    | none => return none
    | some id =>
      match ← (editOr id () fun _ => WorkItem.withPrMerged needle).attempt with
      | .error _ => return none
      | .ok it =>
        if !it.allPullRequestsMerged then
          let remain := ((← get id).map fun i => i.unmergedPrs.length).getD 0
          story id (s!"{it.title} — PR merged; {remain} still open. Card stays in Review until " ++
            "all listed PRs merge.")
          return none
        else if it.state ≠ .review ∧ it.state ≠ .needsHuman then return none
        else
          let done ← (transition id .done (actorOr "github-webhook" byWhom)
            (some (prReason "PR merged" prNumber))).attempt
          match done with
          | .ok item =>
            story id s!"{item.title} — all listed PRs merged; card Done."
            return some id
          | .error _ => return none

/-- The review states that steer a card. -/
def isActionablePrReviewState (state : String) : Bool :=
  ["CHANGES_REQUESTED", "COMMENT", "COMMENTED"].contains (toAsciiUppercase (trim state))

/-- Pointer note for review feedback: the identity of the review, not its body. -/
def prReviewFeedbackSteerNote (prUrl : String) (prNumber : Option ℕ) : String :=
  s!"There is PR review feedback on {prReason prUrl prNumber}. Inspect it with gh (e.g. `gh pr " ++
    "view` / reviews); figure out the rest from the review itself."

/-- States in which review feedback sends a card back. -/
def takesReviewFeedback : State → Bool
  | .review | .needsHuman | .claimed | .running => true
  | _ => false

/-- The first card in flight or in review that lists the pull request. -/
def feedbackCardOfPr (needle : String) (s : BoardState) : Option ItemId :=
  (s.cards.find? fun i => takesReviewFeedback i.state && i.listsPr needle).map WorkItem.id

/-- Review feedback on a pull request steers its card and moves it to Backlog. -/
def applyPrReviewFeedback (prUrl : String) (prNumber : Option ℕ) (reviewState byWhom : String) :
    Method ε (Option ItemId) := do
  let needle := normalizePrUrl prUrl
  if !isActionablePrReviewState reviewState || needle.isEmpty then return none
  else
    match ← read (feedbackCardOfPr needle) with
    | none => return none
    | some id =>
      let note := prReviewFeedbackSteerNote (trim prUrl) prNumber
      let byWhom := actorOr "github-review" byWhom
      let noted ← (write fun now s =>
        s.tryEdit id () (WorkItem.reviewed byWhom note (now 0))).attempt
      match noted with
      | .error _ => return none
      | .ok _ =>
        let moved ← (transition id .backlog byWhom
          (some (prReason "PR review feedback" prNumber))).attempt
        match moved with
        | .ok item =>
          emit item
          story id s!"{item.title}: PR review feedback — Backlog ({note})"
          return some id
        | .error _ => return none

end Unicode

end Board

end Sandboard

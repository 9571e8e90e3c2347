import Sandboard.Search
import Sandboard.Store.Forge

/-!
# The GitHub webhook

`githubWebhook` reads an event of GitHub and calls the board: a submitted review steers a card, a
merged pull request completes one, and an advance of the default branch interrupts the live runs.
The calls go to a `WebhookBoard`, which is the board (`onBoard`) or one that only notes what it is
called with (`noting`).

What counts as an advance is read from the refs alone (`isMainRef`), whatever the event is.
`advances_iff` says for which payloads this is right.
-/

namespace Sandboard

open Text

/-! ## The payload -/

structure GithubCommit where
  id : Option String

structure GithubReview where
  state : Option String

structure GithubBranchRef where
  ref : Option String

structure GithubPullRequest where
  merged : Option Bool
  mergeCommitSha : Option String
  htmlUrl : Option String
  number : Option ℕ
  base : Option GithubBranchRef

structure GithubRepository where
  defaultBranch : Option String
  fullName : Option String

structure GithubWebhookPayload where
  ref : Option String
  after : Option String
  headCommit : Option GithubCommit
  action : Option String
  pullRequest : Option GithubPullRequest
  review : Option GithubReview
  repository : Option GithubRepository

structure WebhookResponse where
  status : String
  mainAdvanced : Bool
  refName : Option String
  commitSha : Option String
  completedItemIds : List ItemId
  steeredItemIds : List ItemId

namespace GithubWebhookPayload

/-- The URL of the pull request, or the one that its number gives. -/
def prUrl? (p : GithubWebhookPayload) : Option String := do
  let pr ← p.pullRequest
  match (pr.htmlUrl.map trim).filter fun u => !u.isEmpty with
  | some url => some url
  | none =>
    let number ← pr.number
    let fullName ← (p.repository.bind GithubRepository.fullName).filter fun s => !s.isEmpty
    some s!"https://github.com/{fullName}/pull/{number}"

def defaultBranch (p : GithubWebhookPayload) : String :=
  (p.repository.bind GithubRepository.defaultBranch).getD "main"

/-- `str::ends_with`. -/
def endsWith (suf s : String) : Bool := (stripSuffix suf s).isSome

/-- What the program takes for the default branch. -/
def isMainRef (p : GithubWebhookPayload) (r : String) : Bool :=
  let d := p.defaultBranch
  r == d || r == "main" || r == "refs/heads/" ++ d || r == "refs/heads/main" ||
    endsWith ("/" ++ d) r || endsWith "/main" r

def isPushMain (p : GithubWebhookPayload) : Bool := p.ref.any p.isMainRef

/-- The ref that the pull request is to be merged into. -/
def baseRef (p : GithubWebhookPayload) : Option String :=
  (p.pullRequest.bind GithubPullRequest.base).bind GithubBranchRef.ref

/-- The pull request is merged. -/
def isMerged (p : GithubWebhookPayload) : Bool :=
  (p.pullRequest.bind GithubPullRequest.merged) == some true

def isPrMainMerge (p : GithubWebhookPayload) : Bool :=
  match p.pullRequest with
  | none => false
  | some pr =>
    let isClosedOrMerged := p.action == some "closed" || pr.merged == some true
    let merged := pr.merged == some true
    let baseIsMain := (pr.base.bind GithubBranchRef.ref).any p.isMainRef
    isClosedOrMerged && merged && baseIsMain

/-- The state of a submitted review. -/
def reviewState (p : GithubWebhookPayload) : Option String :=
  (((p.review.bind GithubReview.state).map trim).filter fun s => !s.isEmpty)

/-- The commit that the default branch is now at. -/
def advancedTo (p : GithubWebhookPayload) : Option String :=
  if p.isPushMain then
    (p.after.filter fun s => s != "0000000000000000000000000000000000000000").or
      (p.headCommit.bind GithubCommit.id)
  else p.pullRequest.bind GithubPullRequest.mergeCommitSha

/-- The ref that has advanced. -/
def advancedRef (p : GithubWebhookPayload) : String :=
  (p.ref.or p.baseRef).getD ("refs/heads/" ++ p.defaultBranch)

def advancedRepo (p : GithubWebhookPayload) : String :=
  (((p.repository.bind GithubRepository.fullName).map trim).filter fun s => !s.isEmpty).getD ""

end GithubWebhookPayload

/-! ## The handler -/

/-- What the handler calls. -/
structure WebhookBoard (m : Type → Type) where
  completeForMergedPr : String → Option ℕ → m (Option ItemId)
  applyPrReviewFeedback : String → Option ℕ → String → m (Option ItemId)
  notifyMainAdvanced : String → String → Option String → m (List ItemId)
  /-- `supervisor::process_main_advanced_review_catch_up`. -/
  processMainAdvancedReviewCatchUp : String → m (List ItemId)

section Handler

variable {m : Type → Type} [Monad m] (b : WebhookBoard m)

/-- A review is submitted. -/
def reviewWebhook (p : GithubWebhookPayload) : m WebhookResponse := do
  let steered ←
    match p.reviewState, p.prUrl? with
    | some state, some url =>
      if p.action = some "submitted" then
        b.applyPrReviewFeedback url (p.pullRequest.bind GithubPullRequest.number) state
      else pure none
    | _, _ => pure none
  return {
    status := if steered.isNone then "ignored" else "ok"
    mainAdvanced := false
    refName := none
    commitSha := none
    completedItemIds := []
    steeredItemIds := steered.toList }

/-- The pull request of the payload has been merged into the default branch. -/
def completeWebhook (p : GithubWebhookPayload) : m (Option ItemId) :=
  match p.prUrl? with
  | some url =>
    if p.isPrMainMerge then
      b.completeForMergedPr url (p.pullRequest.bind GithubPullRequest.number)
    else pure none
  | none => pure none

/-- An event that is no ping and no review. -/
def branchWebhook (p : GithubWebhookPayload) : m WebhookResponse := do
  let completed ← completeWebhook b p
  if p.isPushMain || p.isPrMainMerge then
    let steered ← b.notifyMainAdvanced p.advancedRepo p.advancedRef p.advancedTo
    let caughtUp ← b.processMainAdvancedReviewCatchUp p.advancedRepo
    return {
      status := "ok"
      mainAdvanced := true
      refName := some p.advancedRef
      commitSha := p.advancedTo
      completedItemIds := completed.toList
      steeredItemIds := ((steered ++ caughtUp).mergeSort fun i j => i ≤ j).dedup }
  else
    return {
      status := "ignored"
      mainAdvanced := false
      refName := none
      commitSha := none
      completedItemIds := completed.toList
      steeredItemIds := [] }

/-- The webhook, by the `x-github-event` header. -/
def githubWebhook (eventType : String) (p : GithubWebhookPayload) : m WebhookResponse :=
  if eventType = "ping" then
    pure {
      status := "pong"
      mainAdvanced := false
      refName := none
      commitSha := none
      completedItemIds := []
      steeredItemIds := [] }
  else if eventType = "pull_request_review" then reviewWebhook b p
  else branchWebhook b p

end Handler

/-- The calls go to the board. -/
def onBoard [UnicodeTables] (catchUp : String → Method String (List ItemId)) :
    WebhookBoard (Method String) where
  completeForMergedPr url number := Board.completeForMergedPr url number "github-webhook"
  applyPrReviewFeedback url number state :=
    Board.applyPrReviewFeedback url number state "github-review"
  notifyMainAdvanced := Board.notifyMainAdvanced
  processMainAdvancedReviewCatchUp := catchUp

/-! ## The calls of the handler -/

/-- A call of the handler. -/
inductive WebhookCall where
  | completeForMergedPr (url : String) (number : Option ℕ)
  | applyPrReviewFeedback (url : String) (number : Option ℕ) (state : String)
  | notifyMainAdvanced (repo refName : String) (commitSha : Option String)
  | processMainAdvancedReviewCatchUp (repo : String)
  deriving DecidableEq

/-- The call interrupts the live runs. -/
def WebhookCall.isNotify : WebhookCall → Bool
  | notifyMainAdvanced .. => true
  | _ => false

/-- The calls are noted, and answered somehow. -/
def noting (answers : WebhookBoard Id) : WebhookBoard (StateM (List WebhookCall)) where
  completeForMergedPr url number := fun calls =>
    (answers.completeForMergedPr url number, calls ++ [.completeForMergedPr url number])
  applyPrReviewFeedback url number state := fun calls =>
    (answers.applyPrReviewFeedback url number state,
      calls ++ [.applyPrReviewFeedback url number state])
  notifyMainAdvanced repo refName commitSha := fun calls =>
    (answers.notifyMainAdvanced repo refName commitSha,
      calls ++ [.notifyMainAdvanced repo refName commitSha])
  processMainAdvancedReviewCatchUp repo := fun calls =>
    (answers.processMainAdvancedReviewCatchUp repo,
      calls ++ [.processMainAdvancedReviewCatchUp repo])

/-- What the handler calls on an event, whatever it is answered. -/
def webhookCalls (answers : WebhookBoard Id) (eventType : String) (p : GithubWebhookPayload) :
    List WebhookCall :=
  (githubWebhook (noting answers) eventType p []).2

/-- The handler interrupts the live runs. -/
def Notifies (answers : WebhookBoard Id) (eventType : String) (p : GithubWebhookPayload) : Prop :=
  (webhookCalls answers eventType p).any WebhookCall.isNotify = true

/-- The default branch has advanced: it was pushed to, or a pull request was merged into it. -/
def MainAdvances (eventType : String) (p : GithubWebhookPayload) : Prop :=
  (eventType = "push" ∧ p.ref = some ("refs/heads/" ++ p.defaultBranch)) ∨
    (eventType = "pull_request" ∧ p.isMerged = true ∧ p.baseRef = some p.defaultBranch)

/-- The name or ref `r` is `branch` or `main`, or ends in a slash and one of them. -/
def Resembles (branch r : String) : Prop :=
  r = branch ∨ r = "main" ∨ (∃ head, r = head ++ "/" ++ branch) ∨ ∃ head, r = head ++ "/main"

/-- The event is a ping or a review, or nothing in the payload resembles the default branch, or it
is a push of exactly the default branch or a pull request merged into exactly that. -/
def ReadsRight (eventType : String) (p : GithubWebhookPayload) : Prop :=
  eventType = "ping" ∨ eventType = "pull_request_review" ∨
    ((∀ r, p.ref = some r → ¬ Resembles p.defaultBranch r) ∧
      (p.isMerged = true → ∀ r, p.baseRef = some r → ¬ Resembles p.defaultBranch r)) ∨
    (eventType = "push" ∧ p.ref = some ("refs/heads/" ++ p.defaultBranch)) ∨
    (eventType = "pull_request" ∧ p.isMerged = true ∧ p.baseRef = some p.defaultBranch)

/-- A text ends with `suf` when it is some text and then `suf`. -/
lemma endsWith_iff (suf s : String) :
    GithubWebhookPayload.endsWith suf s = true ↔ ∃ head, s = head ++ suf := by
  unfold GithubWebhookPayload.endsWith stripSuffix
  rw [Option.isSome_map, Option.isSome_iff_exists]
  constructor
  · rintro ⟨rest, hrest⟩
    refine ⟨String.ofList rest.reverse, String.toList_injective ?_⟩
    rw [String.toList_append, String.toList_ofList, ← List.reverse_inj, List.reverse_append,
      List.reverse_reverse]
    exact afterPrefix_eq_some_iff.mp hrest
  · rintro ⟨head, rfl⟩
    refine ⟨head.toList.reverse, afterPrefix_eq_some_iff.mpr ?_⟩
    rw [String.toList_append, List.reverse_append]

/-- What the program takes for the default branch is what resembles it. -/
lemma isMainRef_iff (p : GithubWebhookPayload) (r : String) :
    p.isMainRef r = true ↔ Resembles p.defaultBranch r := by
  unfold GithubWebhookPayload.isMainRef Resembles
  dsimp only
  generalize p.defaultBranch = d
  simp only [Bool.or_eq_true, beq_iff_eq, endsWith_iff]
  constructor
  · rintro (((((h | h) | h) | h) | ⟨head, h⟩) | ⟨head, h⟩)
    · exact Or.inl h
    · exact Or.inr (Or.inl h)
    · exact Or.inr (Or.inr (Or.inl ⟨"refs/heads", h.trans rfl⟩))
    · exact Or.inr (Or.inr (Or.inr ⟨"refs/heads", h.trans rfl⟩))
    · exact Or.inr (Or.inr (Or.inl ⟨head, h.trans (String.append_assoc ..).symm⟩))
    · exact Or.inr (Or.inr (Or.inr ⟨head, h⟩))
  · rintro (h | h | ⟨head, h⟩ | ⟨head, h⟩)
    · exact Or.inl (Or.inl (Or.inl (Or.inl (Or.inl h))))
    · exact Or.inl (Or.inl (Or.inl (Or.inl (Or.inr h))))
    · exact Or.inl (Or.inr ⟨head, h.trans (String.append_assoc ..)⟩)
    · exact Or.inr ⟨head, h⟩

/-- A push counts when its ref resembles the default branch. -/
lemma isPushMain_iff (p : GithubWebhookPayload) :
    p.isPushMain = true ↔ ∃ r, p.ref = some r ∧ Resembles p.defaultBranch r := by
  unfold GithubWebhookPayload.isPushMain
  rw [Option.any_eq_true]
  simp only [isMainRef_iff]

/-- A merged pull request counts when its base resembles the default branch. -/
lemma isPrMainMerge_iff (p : GithubWebhookPayload) :
    p.isPrMainMerge = true ↔
      p.isMerged = true ∧ ∃ r, p.baseRef = some r ∧ Resembles p.defaultBranch r := by
  unfold GithubWebhookPayload.isPrMainMerge GithubWebhookPayload.isMerged
    GithubWebhookPayload.baseRef
  cases p.pullRequest with
  | none => exact iff_of_false Bool.false_ne_true fun h => Bool.false_ne_true h.1
  | some pr =>
    dsimp only [Option.bind_some]
    rw [Bool.and_eq_true, Bool.and_eq_true, Bool.or_eq_true, Option.any_eq_true]
    simp only [isMainRef_iff]
    constructor
    · rintro ⟨⟨-, hmerged⟩, hbase⟩
      exact ⟨hmerged, hbase⟩
    · rintro ⟨hmerged, hbase⟩
      exact ⟨⟨Or.inr hmerged, hmerged⟩, hbase⟩

/-- The ref of a branch resembles it. -/
lemma resembles_ref (branch : String) : Resembles branch ("refs/heads/" ++ branch) :=
  Or.inr (Or.inr (Or.inl ⟨"refs/heads", rfl⟩))

/-- A review calls for no interruption. -/
lemma reviewCalls (answers : WebhookBoard Id) (p : GithubWebhookPayload) :
    (reviewWebhook (noting answers) p []).2.any WebhookCall.isNotify = false := by
  unfold reviewWebhook
  cases p.reviewState with
  | none => rfl
  | some state =>
    cases p.prUrl? with
    | none => rfl
    | some url =>
      by_cases haction : p.action = some "submitted"
      · simp only [if_pos haction]
        rfl
      · simp only [if_neg haction]
        rfl

/-- Completing a card calls for no interruption. -/
lemma completeCalls (answers : WebhookBoard Id) (p : GithubWebhookPayload) :
    (completeWebhook (noting answers) p []).2.any WebhookCall.isNotify = false := by
  unfold completeWebhook
  cases p.prUrl? with
  | none => rfl
  | some url =>
    dsimp only
    by_cases hmerge : p.isPrMainMerge = true
    · rw [if_pos hmerge]
      rfl
    · rw [if_neg hmerge]
      rfl

/-- Any other event calls for an interruption when it looks like an advance. -/
lemma branchCalls (answers : WebhookBoard Id) (p : GithubWebhookPayload) :
    (branchWebhook (noting answers) p []).2.any WebhookCall.isNotify =
      (p.isPushMain || p.isPrMainMerge) := by
  have hcomplete := completeCalls answers p
  unfold branchWebhook
  simp only [bind, StateT.bind]
  generalize completeWebhook (noting answers) p [] = done at hcomplete ⊢
  obtain ⟨completed, calls⟩ := done
  dsimp only at hcomplete ⊢
  by_cases hadvance : (p.isPushMain || p.isPrMainMerge) = true
  · rw [if_pos hadvance, hadvance]
    change (calls ++ [WebhookCall.notifyMainAdvanced _ _ _] ++
      [WebhookCall.processMainAdvancedReviewCatchUp _]).any WebhookCall.isNotify = true
    rw [List.any_append, List.any_append]
    simp [WebhookCall.isNotify]
  · rw [if_neg hadvance, Bool.eq_false_iff.mpr hadvance]
    exact hcomplete

/-- The handler interrupts the live runs when the event is no ping and no review and looks like an
advance. -/
lemma notifies_iff (answers : WebhookBoard Id) (eventType : String) (p : GithubWebhookPayload) :
    Notifies answers eventType p ↔
      eventType ≠ "ping" ∧ eventType ≠ "pull_request_review" ∧
        (p.isPushMain = true ∨ p.isPrMainMerge = true) := by
  unfold Notifies webhookCalls githubWebhook
  by_cases hping : eventType = "ping"
  · rw [if_pos hping]
    exact iff_of_false Bool.false_ne_true fun h => h.1 hping
  · rw [if_neg hping]
    by_cases hreview : eventType = "pull_request_review"
    · rw [if_pos hreview, reviewCalls]
      exact iff_of_false Bool.false_ne_true fun h => h.2.1 hreview
    · rw [if_neg hreview, branchCalls, Bool.or_eq_true]
      exact ⟨fun h => ⟨hping, hreview, h⟩, fun h => h.2.2⟩

/-! ## What is read right -/

/-- A handler interrupts the live runs on exactly the advances of the default branch if and only if
the payload is read right. -/
theorem advances_iff (answers : WebhookBoard Id) (eventType : String) (p : GithubWebhookPayload) :
    (Notifies answers eventType p ↔ MainAdvances eventType p) ↔ ReadsRight eventType p := by
  have hnotifies := notifies_iff answers eventType p
  constructor
  · intro h
    by_cases hping : eventType = "ping"
    · exact Or.inl hping
    by_cases hreview : eventType = "pull_request_review"
    · exact Or.inr (Or.inl hreview)
    refine Or.inr (Or.inr ?_)
    by_cases hlooks : p.isPushMain = true ∨ p.isPrMainMerge = true
    · exact Or.inr (h.mp (hnotifies.mpr ⟨hping, hreview, hlooks⟩))
    · rw [not_or, isPushMain_iff, isPrMainMerge_iff] at hlooks
      refine Or.inl ⟨fun r href hr => hlooks.1 ⟨r, href, hr⟩, ?_⟩
      intro hmerged r hbase hr
      exact hlooks.2 ⟨hmerged, r, hbase, hr⟩
  · rintro (hping | hreview | ⟨hpush, hmerge⟩ | hadvance)
    · refine iff_of_false (fun h => (hnotifies.mp h).1 hping) ?_
      rintro (⟨hevent, -⟩ | ⟨hevent, -⟩)
      · rw [hping] at hevent
        exact absurd hevent (by decide)
      · rw [hping] at hevent
        exact absurd hevent (by decide)
    · refine iff_of_false (fun h => (hnotifies.mp h).2.1 hreview) ?_
      rintro (⟨hevent, -⟩ | ⟨hevent, -⟩)
      · rw [hreview] at hevent
        exact absurd hevent (by decide)
      · rw [hreview] at hevent
        exact absurd hevent (by decide)
    · -- neither side holds, as both would have a ref that resembles the default branch
      refine iff_of_false (fun h => ?_) ?_
      · rcases (hnotifies.mp h).2.2 with hlooks | hlooks
        · obtain ⟨r, href, hr⟩ := (isPushMain_iff p).mp hlooks
          exact hpush r href hr
        · obtain ⟨hmerged, r, hbase, hr⟩ := (isPrMainMerge_iff p).mp hlooks
          exact hmerge hmerged r hbase hr
      · rintro (⟨-, href⟩ | ⟨-, hmerged, hbase⟩)
        · exact hpush _ href (resembles_ref _)
        · exact hmerge hmerged _ hbase (Or.inl rfl)
    · refine iff_of_true (hnotifies.mpr ?_) hadvance
      rcases hadvance with ⟨hevent, href⟩ | ⟨hevent, hmerged, hbase⟩
      · refine ⟨by rw [hevent]; decide, by rw [hevent]; decide, Or.inl ?_⟩
        exact (isPushMain_iff p).mpr ⟨_, href, resembles_ref _⟩
      · refine ⟨by rw [hevent]; decide, by rw [hevent]; decide, Or.inr ?_⟩
        exact (isPrMainMerge_iff p).mpr ⟨hmerged, _, hbase, Or.inl rfl⟩

/-- A push of the branch `feature/main` of a repository whose default branch is `main`. -/
def featurePush : GithubWebhookPayload where
  ref := some "refs/heads/feature/main"
  after := some "0a1b2c3d"
  headCommit := none
  action := none
  pullRequest := none
  review := none
  repository := some { defaultBranch := some "main", fullName := some "acme/app" }

/-- Nothing is completed, steered or interrupted. -/
def idleAnswers : WebhookBoard Id where
  completeForMergedPr _ _ := none
  applyPrReviewFeedback _ _ _ := none
  notifyMainAdvanced _ _ _ := []
  processMainAdvancedReviewCatchUp _ := []

/-- A push of the branch `feature/main` interrupts the live runs. -/
theorem not_advances_featurePush :
    ¬ (Notifies idleAnswers "push" featurePush ↔ MainAdvances "push" featurePush) := by
  intro h
  have hlooks : featurePush.isPushMain = true :=
    (isPushMain_iff featurePush).mpr
      ⟨_, rfl, Or.inr (Or.inr (Or.inl ⟨"refs/heads/feature", rfl⟩))⟩
  have hadvances := h.mp ((notifies_iff idleAnswers "push" featurePush).mpr
    ⟨by decide, by decide, Or.inl hlooks⟩)
  rcases hadvances with ⟨-, href⟩ | ⟨hevent, -⟩
  · exact absurd href (by decide +kernel)
  · exact absurd hevent (by decide)

end Sandboard

import Sandboard.Store.Split

/-!
# The human verbs

Steer, answer, park and halt a run; cut and restore scope; delete a card; approve a Review or
request changes.  The walks over a subtree read the children afresh at every step; they take
a `fuel` argument that bounds the steps, so that a board with a parent cycle is no exception.
-/

namespace Sandboard

open Text

namespace WorkItem

/-- The card with a note appended. -/
def noted (now : Time) (author text : String) (it : WorkItem) : WorkItem :=
  { it with notes := it.notes ++ [⟨now, author, text⟩] }

/-- The card as a human's steer leaves it. -/
def steered (text : String) (now : Time) (it : WorkItem) : WorkItem :=
  { it.noted now "human" text with
    runFailures := 0
    escalation := none }

/-- The card with its escalation answered. -/
def answered (choice : String) (now : Time) (it : WorkItem) : WorkItem :=
  { it.steered s!"Decision: {choice}" now with lastConflictFiles := [] }

/-- The card held until it is unparked. -/
def held (it : WorkItem) : WorkItem :=
  { it with parked := true }

/-- The card with its hold cleared. -/
def unheld (it : WorkItem) : WorkItem :=
  { it with parked := false }

/-- The card without a proposal. -/
def unproposed (it : WorkItem) : WorkItem :=
  { it with proposal := none }

/-- The card with its session and its sandbox discarded. -/
def wiped (it : WorkItem) : WorkItem :=
  { it with
    conversationId := none
    parked := false
    environment := none }

/-- A restored card never carries a lease or a dispatch request. -/
def unleased (it : WorkItem) : WorkItem :=
  { it with
    lease := none
    runDeadlineAt := none
    awaitingDispatch := false }

/-- The state the card had before it was last retired. -/
def priorState (it : WorkItem) : State :=
  ((it.history.reverse.find? fun t => t.toState == .retired).map Transition.fromState).getD
    .backlog

end WorkItem

namespace Board

variable {ε : Type}

/-- Steer: a note for the agent's next turn. -/
def steer (id : ItemId) (text : String) : Method String WorkItem :=
  editOr id "no such item" fun now => WorkItem.steered text now

/-- The answer promises host-side work before the agent can finish, without proof facts. -/
def decisionDefersHostPrerequisite (choice : String) : Bool :=
  let c := toAsciiLowercase choice
  if contains "pr_url=" c then false
  else
    let hostRuns := contains "host runs" c || contains "finish host" c ||
      contains "on the host board" c || contains "on the host:" c
    let reclaimToDocument := (contains "re-claim" c || contains "reclaim" c) &&
      (contains "document" c || contains "to document" c)
    hostRuns || (contains "host" c && reclaimToDocument)

/-- Why a host-deferred answer parks the card. -/
def hostDeferredReason : String :=
  "Decision defers a host-side prerequisite — parked until Proof facts are pasted, then unpark"

/-- The card as a host-deferred answer leaves it. -/
def heldForHost (now : Time) (it : WorkItem) : WorkItem :=
  { it.held.noted now "human" s!"Parked: {hostDeferredReason}" with awaitingDispatch := false }

/-- The section of `answerEscalation` that settles the question. -/
def answerSection (id : ItemId) (choice : String) (now : Time) (s : BoardState) :
    Except String WorkItem × BoardState :=
  match s.items[id]? with
  | none => (.error "no such item", s)
  | some it =>
    if it.escalation.isNone then (.error "that item is not waiting on anyone", s)
    else s.tryEdit id "no such item" (WorkItem.answered choice now)

section Unicode

variable [UnicodeTables]

/-- Hold a card whose answer defers to the host.  It is in Backlog already. -/
def holdForHost (id : ItemId) (title : String) : Method String WorkItem := do
  let item ← write fun now s => s.tryEdit id "no such item" (heldForHost (now 0))
  emit item
  story id s!"{title}: parked after host-deferred answer — {hostDeferredReason}."
  return item

/-- Answer an escalation: the decision becomes a note, and the card returns to Backlog.  A
host-deferred answer parks it there. -/
def answerEscalation (id : ItemId) (choice : String) : Method String WorkItem := do
  let asked ← write fun now s => answerSection id choice (now 0) s
  let item ← transitionOrMessage id .backlog "human" s!"answered: {choice}"
  story id s!"{asked.title}: unblocked — {choice}"
  if decisionDefersHostPrerequisite choice then holdForHost id asked.title else return item

/-- The park note, when a reason is given. -/
def notedPark (reason : Option String) (now : Time) (it : WorkItem) : WorkItem :=
  match reason with
  | some r => it.noted now "human" s!"Parked: {r}"
  | none => it

/-- Stop the agent, return the card to Backlog with its sandbox and conversation, and hold
it there. -/
def park (id : ItemId) (reason : Option String) : Method String WorkItem := do
  let reason := reason.filter fun r => !isBlank r
  let asked ← write fun now s => s.tryEdit id "no such item" (notedPark reason (now 0))
  let _ ← transitionOrMessage id .backlog "human" (reason.getD "parked")
  let item ← write fun _ s => s.tryEdit id "no such item" WorkItem.held
  emit item
  let session := (item.conversationId.map fun c => s!" session {c} kept").getD ""
  story id s!"{asked.title}: parked — agent stopped, sandbox kept;{session} unpark to resume."
  return item

/-- The section of `unpark` that clears the hold. -/
def unparkSection (id : ItemId) (s : BoardState) : Except String Unit × BoardState :=
  match s.items[id]? with
  | none => (.error "no such item", s)
  | some it =>
    if it.state ≠ .backlog then (.error "only a Backlog card can be resumed from park", s)
    else if !it.parked then (.error "that card is not parked", s)
    else (.ok (), s.editItem id WorkItem.unheld)

/-- Clear the park hold and queue the card for the supervisor. -/
def unpark (id : ItemId) : Method String WorkItem := do
  write fun _ s => unparkSection id s
  let item ← enqueueDispatch id
  let conversation := if item.conversationId.isSome then " the same conversation" else ""
  story id s!"{item.title}: unparked and queued — supervisor will resume{conversation}."
  return item

/-- Kill the agent, return the card to Backlog, and discard its session and sandbox. -/
def halt (id : ItemId) (reason : Option String) : Method String WorkItem := do
  editQuietly id fun _ => WorkItem.wiped
  let item ← transitionOrMessage id .backlog "human" (reason.getD "halted")
  story item.id
    s!"{item.title}: halted — session and sandbox discarded; next claim starts clean."
  return item

/-! ## Scope -/

/-- Retire the cards on the stack and everything below them; returns what was retired. -/
def cutWalk (reason : Option String) : ℕ → List ItemId → List ItemId → Method ε (List ItemId)
  | 0, _, touched => pure touched
  | _ + 1, [], touched => pure touched
  | fuel + 1, cur :: stack, touched => do
    let kids ← childrenOf cur
    match ← (transition cur .retired "human" reason).attempt with
    | .ok _ => cutWalk reason fuel (kids.reverse ++ stack) (touched ++ [cur])
    | .error _ => cutWalk reason fuel (kids.reverse ++ stack) touched

/-- Retire a card and its subtree. -/
def cutScope (fuel : ℕ) (id : ItemId) (reason : Option String) :
    Method String (List ItemId) := do
  let touched ← cutWalk reason fuel [id] []
  Locked.onSome (← get id) fun t =>
    story id s!"Scope cut: {t.title} retired ({touched.length} items)."
  return touched

/-- The cards of a subtree in walk order. -/
def subtreeWalk : ℕ → List ItemId → List ItemId → Method ε (List ItemId)
  | 0, _, order => pure order
  | _ + 1, [], order => pure order
  | fuel + 1, cur :: stack, order => do
    let kids ← childrenOf cur
    subtreeWalk fuel (kids.reverse ++ stack) (order ++ [cur])

/-- Restore one Retired card from its history. -/
def unarchiveOne (reason : Option String) (touched : List ItemId) (cur : ItemId) :
    Method String (List ItemId) := do
  match (← get cur).filter fun i => i.state == .retired with
  | none => return touched
  | some item =>
    let hasChildren := !(← childrenOf cur).isEmpty
    let target := unarchiveTarget item.priorState hasChildren item.definitionOfDone.isSome
    let _ ← (transition cur target "human" reason).mapErr TransitionError.message
    editQuietly cur fun _ => WorkItem.unleased
    return cur :: touched

/-- Restore a Retired card and its Retired subtree, deepest cards first. -/
def unarchiveScope (fuel : ℕ) (id : ItemId) (reason : Option String) :
    Method String (List ItemId) := do
  let root ← getOr id s!"no work item #{id}"
  Locked.failIf (root.state ≠ .retired) s!"#{id} is not retired (state={root.state.debug})"
  let order ← subtreeWalk fuel [id] []
  let touched ← order.reverse.foldlM (unarchiveOne (reason.or (some "unarchived"))) []
  Locked.onSome (← get id) fun t =>
    story id s!"Scope unarchived: {t.title} restored ({touched.length} items)."
  return touched

end Unicode

/-- The cards `deleteItem` removes: the subtree of the stack, each card once. -/
def deleteWalk (s : BoardState) : ℕ → List ItemId → List ItemId → List ItemId
  | 0, _, toDelete => toDelete
  | _ + 1, [], toDelete => toDelete
  | fuel + 1, cur :: stack, toDelete =>
    let toDelete := toDelete ++ [cur]
    let stack := (s.childrenOfIndexed cur).foldl
      (fun stack cid =>
        if toDelete.contains cid || stack.contains cid then stack else cid :: stack) stack
    deleteWalk s fuel stack toDelete

/-- Every pop of the walk removes a card that is filed in the children index, or the root. -/
def deleteFuel (s : BoardState) : ℕ :=
  2 + (s.childrenByParent.toList.map fun e => e.2.size).sum

/-- The section of `deleteItem`. -/
def deleteSection (id : ItemId) (s : BoardState) : Except String Unit × BoardState :=
  if s.items[id]?.isNone then (.error s!"item #{id} not found", s)
  else
    let toDelete := deleteWalk s (deleteFuel s) [id] []
    let s := toDelete.foldl BoardState.removeItem s
    (.ok (), { s with
      items := s.items.map fun _ item =>
        { item with blockedBy := item.blockedBy.filter fun b => !toDelete.contains b } })

/-- Remove a card and its subtree from the board. -/
def deleteItem (id : ItemId) : Method String Unit := do
  write fun _ s => deleteSection id s
  markDirty
  flush
  let seq ← nextSeq
  recordAndSend (.delete seq id)

/-! ## Review -/

section Unicode

variable [UnicodeTables]

/-- Approve a card without a proposal: it is Done at once. -/
def approvePlain (id : ItemId) : Method String WorkItem := do
  let item ← transitionOrMessage id .done "human" "approved"
  story id <| match item.prUrl.filter fun u => !isBlank u with
    | some url => s!"{item.title} approved — Done ({url})."
    | none => s!"{item.title} approved — no PR; marked Done."
  return item

/-- Approve a card with a proposal: it is Done, and the proposal becomes Tasks. -/
def approveProposal (id : ItemId) : Method String WorkItem := do
  let done ← transitionOrMessage id .done "human" "proposal approved"
  let n := (done.proposal.map fun p => p.tasks.length).getD 0
  story id s!"{done.title} approved — {n} Tasks created."
  return done

/-- Approve an Initial plan whose rows are still on its Project. -/
def approveLegacy (approvePlan : ItemId → Method String (List ItemId)) (id parent : ItemId) :
    Method String WorkItem := do
  let published ← approvePlan parent
  let done ← getOr id s!"no work item #{id}"
  story id s!"{done.title} approved — {published.length} Tasks created from legacy Project Plan."
  return done

/-- Approve a Review, going through `approvePlan` for the legacy plan of a Project. -/
def approveReviewWith (approvePlan : ItemId → Method String (List ItemId)) (id : ItemId) :
    Method String WorkItem := do
  let item ← getOr id s!"no work item #{id}"
  if item.hasProposal then approveProposal id
  else
    match item.parent.filter fun _ => item.isInitialPlanTask with
    | none => approvePlain id
    | some parent =>
      let awaiting := ((← get parent).bind WorkItem.plan).any fun p => !p.tasks.isEmpty
      if awaiting then approveLegacy approvePlan id parent else approvePlain id

/-- The rows of a legacy Project plan move onto its Initial plan card. -/
def adoptLegacyPlan (seedId : ItemId) (seed : WorkItem) : Method String Unit := do
  Locked.onSome seed.parent fun projectId => do
    let plan := ((← get projectId).bind WorkItem.plan).filter fun p => !p.tasks.isEmpty
    Locked.onSome plan fun plan => do
      let _ ← setProposal seedId ⟨plan.summary, plan.tasks⟩
      editIf projectId (fun _ => true) WorkItem.unplanned

/-- Approve the Initial plan: materialize its Tasks and finish the card. -/
def approvePlanWith (approveReview : ItemId → Method String WorkItem) (id : ItemId) :
    Method String (List ItemId) := do
  let seedId ← resolveInitialPlanId id
  let seed ← getOr seedId s!"no work item #{seedId}"
  Locked.failIf seed.state.isTerminal "Initial plan already accepted"
  Locked.when (!seed.hasProposal) (adoptLegacyPlan seedId seed)
  let seed ← getOr seedId s!"no work item #{seedId}"
  Locked.failIf (!seed.hasProposal)
    "no proposal on Initial plan — run propose_breakdown or wait for plan.json"
  let done ← approveReview seedId
  let published := ((done.proposal.map TaskProposal.tasks).getD []).filterMap PlanTaskSpec.itemId
  Locked.failIf published.isEmpty "Initial plan reached Done but created no Tasks"
  return published

/-- Approve a Review.  `fuel` bounds the calls that `approveReview` and `approvePlan` make of
each other; a call that is alone on the board needs at most two. -/
def approveReview : ℕ → ItemId → Method String WorkItem
  | 0, id => Locked.fail s!"no work item #{id}"
  | fuel + 1, id => approveReviewWith (approvePlanWith (approveReview fuel)) id

/-- Approve the Initial plan of a Project. -/
def approvePlan (fuel : ℕ) (id : ItemId) : Method String (List ItemId) :=
  approvePlanWith (approveReview fuel) id

/-- Send a card back: the note steers the next run, and the proposal is dropped. -/
def requestChanges (id : ItemId) (note : String) : Method String WorkItem := do
  let _ ← steer id s!"Changes requested: {note}"
  editQuietly id fun _ => WorkItem.unproposed
  let item ← transitionOrMessage id .backlog "human" s!"changes requested: {note}"
  emit item
  story id s!"{item.title}: changes requested — {note}"
  return item

end Unicode

end Board

end Sandboard

import Sandboard.Model

/-!
# The state machine

The legal edges of the lifecycle, the target of an unarchive, and the check every transition
passes through.
-/

namespace Sandboard

/-- Legal edges, straight off the lifecycle diagram. -/
def allowed (source target : State) : Bool :=
  -- Cutting scope is available from anywhere that is not already retired.
  if target = .retired then decide (source ≠ .retired)
  else
    match source, target with
    | .draft, .shaping => true
    | .shaping, .backlog => true
    | .shaping, .needsHuman => true
    | .backlog, .claimed => true
    | .backlog, .shaping => true
    | .claimed, .running => true
    | .claimed, .splitting => true
    | .claimed, .needsHuman => true
    | .claimed, .review => true
    | .claimed, .backlog => true
    | .running, .running => true
    | .running, .backlog => true
    | .running, .splitting => true
    | .running, .needsHuman => true
    | .running, .review => true
    | .splitting, .backlog => true
    | .splitting, .shaping => true
    | .splitting, .done => true
    | .splitting, .retired => true
    | .needsHuman, .running => true
    | .needsHuman, .backlog => true
    | .review, .done => true
    | .shaping, .done => true
    | .backlog, .done => true
    | .needsHuman, .done => true
    | .running, .done => true
    | .review, .backlog => true
    | .review, .needsHuman => true
    | .done, .review => true
    | .retired, .draft => true
    | .retired, .shaping => true
    | .retired, .backlog => true
    | .retired, .review => true
    | .retired, .done => true
    | _, _ => false

/-- Target state when a Retired card whose earlier state was `prior` is unarchived: an
in-flight prior lands in Backlog, or in Shaping when a leaf lacks a definition of done. -/
def unarchiveTarget (prior : State) (hasChildren hasDod : Bool) : State :=
  match prior with
  | .claimed | .running | .splitting | .needsHuman | .retired =>
    if !hasChildren && !hasDod then .shaping else .backlog
  | .draft | .shaping | .backlog | .review | .done => prior

/-- Why a transition was refused. -/
inductive TransitionError where
  | illegal (id : ItemId) (source target : State)
  | containerNotClaimable (id : ItemId)
  | leafNeedsDoD (id : ItemId)
  | blocked (id : ItemId) (blockers : List ItemId)
  | noSuchItem (id : ItemId)
  | parked (id : ItemId)
  deriving DecidableEq

/-- The message of the error. -/
def TransitionError.message : TransitionError → String
  | illegal id source target =>
    s!"illegal transition {source.debug} -> {target.debug} for #{id}"
  | containerNotClaimable id =>
    s!"#{id} has children, so it is a container and cannot be claimed"
  | leafNeedsDoD id => s!"leaf #{id} needs a definition of done before it can leave shaping"
  | blocked id blockers => s!"#{id} is blocked by {Text.debugIds blockers}"
  | noSuchItem id => s!"no work item #{id}"
  | parked id => s!"#{id} is parked; resume before claiming"

/-- States in which an agent is actively holding the card. -/
def requiresClaimable : State → Bool
  | .claimed | .running | .splitting => true
  | _ => false

/-- The check every transition passes: the edge is legal, a container is not picked up, a
leaf in Backlog has a definition of done, and a claimed card is not blocked. -/
def check (item : WorkItem) (target : State) (hasChildren : Bool)
    (unresolvedBlockers : List ItemId) : Except TransitionError Unit :=
  if !allowed item.state target then .error (.illegal item.id item.state target)
  else if hasChildren && requiresClaimable target then .error (.containerNotClaimable item.id)
  else if target = .backlog && !hasChildren && item.definitionOfDone.isNone then
    .error (.leafNeedsDoD item.id)
  else if target = .claimed && !unresolvedBlockers.isEmpty then
    .error (.blocked item.id unresolvedBlockers)
  else .ok ()

/-! ## What the check grants -/

/-- Every exit from the machine's point of view: a passed check used a legal edge. -/
lemma allowed_of_check {item : WorkItem} {target : State} {hasChildren : Bool}
    {blockers : List ItemId} (h : check item target hasChildren blockers = .ok ()) :
    allowed item.state target = true := by
  unfold check at h
  split at h
  · cases h
  · rename_i hallowed
    simpa using hallowed

/-- A card moves to Backlog exactly along a legal edge, with children or a definition of
done. -/
lemma check_backlog_iff {item : WorkItem} {hasChildren : Bool} {blockers : List ItemId} :
    check item .backlog hasChildren blockers = .ok () ↔
      allowed item.state .backlog = true ∧
        (hasChildren = true ∨ item.definitionOfDone.isSome = true) := by
  unfold check
  cases allowed item.state .backlog <;> cases hasChildren <;>
    cases item.definitionOfDone <;> simp [requiresClaimable]

/-- A claim needs a Backlog leaf without open blockers. -/
lemma check_claimed_iff {item : WorkItem} {hasChildren : Bool} {blockers : List ItemId} :
    check item .claimed hasChildren blockers = .ok () ↔
      item.state = .backlog ∧ hasChildren = false ∧ blockers = [] := by
  unfold check
  cases hstate : item.state <;> cases hasChildren <;> cases blockers <;>
    simp [allowed, requiresClaimable]

/-- A target outside Backlog and the claimable states is guarded by its edge alone. -/
lemma check_free_iff {item : WorkItem} {target : State} {hasChildren : Bool}
    {blockers : List ItemId} (hfree : requiresClaimable target = false)
    (hbacklog : target ≠ .backlog) :
    check item target hasChildren blockers = .ok () ↔ allowed item.state target = true := by
  unfold check
  cases allowed item.state target <;> cases target <;>
    simp_all [requiresClaimable]

/-- The check reads the id, the state and the definition of done of the card only. -/
lemma check_congr {item item' : WorkItem} (hid : item'.id = item.id)
    (hstate : item'.state = item.state)
    (hdod : item'.definitionOfDone = item.definitionOfDone) (target : State)
    (hasChildren : Bool) (blockers : List ItemId) :
    check item' target hasChildren blockers = check item target hasChildren blockers := by
  unfold check
  rw [hid, hstate, hdod]

end Sandboard

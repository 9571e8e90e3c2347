import Sandboard.Store.Board

/-!
# The rows of the cards

A card is written as one row: the scalars that queries filter on have columns of their own, the
nested fields are JSON texts, and the rest rides in one blob, `ItemExtras`.  The blockers have a
table of their own.  What is read from a row is the card that was written, but for the fields that
are never stored, for legacy fields, which a load folds away, and for the remotes of a card, which
are stored for Tasks only and normalized on the way in.
-/

namespace Sandboard

open Text

/-! ## Texts -/

/-- How the values of a type are written as texts, and how texts are read. -/
structure Wire (α : Type) where
  write : α → String
  read : String → Option α

/-- The value is written as a text which is not empty and reads back. -/
def Wire.Carries {α : Type} (w : Wire α) (a : α) : Prop :=
  w.write a ≠ "" ∧ w.read (w.write a) = some a

instance {α : Type} [DecidableEq α] (w : Wire α) (a : α) : Decidable (w.Carries a) :=
  inferInstanceAs (Decidable (_ ∧ _))

/-- The texts of finitely many values. -/
def Wire.table {α : Type} [DecidableEq α] (entries : List (α × String)) : Wire α where
  write a := (entries.lookup a).getD ""
  read raw := (entries.find? fun e => e.2 == raw).map Prod.fst

/-- Why a row is refused: the field that does not decode. -/
inductive StoreError where
  | decode (field : String)
  | parse (field : String)
  deriving DecidableEq

namespace State

/-- The text of a state. -/
def toDb : State → String
  | draft => "draft"
  | shaping => "shaping"
  | backlog => "backlog"
  | claimed => "claimed"
  | running => "running"
  | splitting => "splitting"
  | needsHuman => "needs_human"
  | review => "review"
  | done => "done"
  | retired => "retired"

/-- The state of a text; two legacy names are read as well. -/
def fromDb (raw : String) : Except StoreError State :=
  match raw with
  | "draft" => .ok draft
  | "shaping" => .ok shaping
  | "backlog" | "ready" => .ok backlog
  | "claimed" => .ok claimed
  | "running" => .ok running
  | "splitting" => .ok splitting
  | "needs_human" => .ok needsHuman
  | "review" | "verifying" => .ok review
  | "done" => .ok done
  | "retired" => .ok retired
  | _ => .error (.decode "state")

@[simp] lemma fromDb_toDb (s : State) : fromDb s.toDb = .ok s := by
  cases s <;> rfl

end State

namespace RepoConfig

/-- Usable: the target of pull requests is known. -/
def isComplete (r : RepoConfig) : Bool :=
  !isBlank r.upstream

end RepoConfig

/-- Both ends of the pull request are named. -/
def PullRequest.hasForgeEnds (p : PullRequest) : Bool :=
  p.base.any PullRequestEnd.isUsable && p.head.any PullRequestEnd.isUsable

/-! ## Cards -/

/-- A card with the fields that only its row uses. -/
structure StoredItem extends WorkItem where
  /-- Filled in when the card is read. -/
  resolvedModel : Option String
  gateFailures : UInt32
  releaseTarget : Option String
  legacyPullRequest : Option PullRequest
  legacyPrUrl : Option String
  repo : Option RepoConfig

namespace StoredItem

/-- Fold the legacy pull request and the legacy URL into the pull requests. -/
def migrateLegacyPrUrl (it : StoredItem) : StoredItem :=
  let prs := match it.legacyPullRequest with
    | some pr =>
      if it.pullRequests.isEmpty && (pr.urlStr.isSome || pr.hasForgeEnds) then [pr]
      else it.pullRequests
    | none => it.pullRequests
  let prs := match it.legacyPrUrl with
    | some url =>
      let url := trim url
      if url.isEmpty then prs
      else
        match prs with
        | [] => [PullRequest.fromUrl url]
        | pr :: rest => if isBlank pr.url then { pr with url := url } :: rest else pr :: rest
    | none => prs
  { it with pullRequests := prs, legacyPullRequest := none, legacyPrUrl := none }

end StoredItem

/-- The fields without a column of their own. -/
structure ItemExtras where
  engine : Option String
  model : Option String
  progress : ℚ
  gateFailures : UInt32
  runFailures : UInt32
  diffAdded : UInt32
  diffRemoved : UInt32
  projectPrompt : Option String
  sandboxProfileId : Option String
  autoDispatch : Bool
  lastBounceReason : Option String
  lastConflictFiles : List String
  releaseTarget : Option String
  environment : Option String
  conversationId : Option String
  pullRequests : List PullRequest
  /-- Legacy. -/
  pullRequest : Option PullRequest
  /-- Legacy. -/
  prUrl : Option String
  repo : Option RepoConfig
  deriving DecidableEq

namespace ItemExtras

def fromItem (it : StoredItem) : ItemExtras where
  engine := it.engine
  model := it.model
  progress := it.progress
  gateFailures := it.gateFailures
  runFailures := it.runFailures
  diffAdded := it.diffAdded
  diffRemoved := it.diffRemoved
  projectPrompt := it.projectPrompt
  sandboxProfileId := it.sandboxProfileId
  autoDispatch := it.autoDispatch
  lastBounceReason := it.lastBounceReason
  lastConflictFiles := it.lastConflictFiles
  releaseTarget := it.releaseTarget
  environment := it.environment
  conversationId := it.conversationId
  pullRequests := it.pullRequests
  pullRequest := none
  prUrl := none
  repo := it.repo

/-- The blob of an empty text. -/
def default : ItemExtras where
  engine := none
  model := none
  progress := 0
  gateFailures := 0
  runFailures := 0
  diffAdded := 0
  diffRemoved := 0
  projectPrompt := none
  sandboxProfileId := none
  autoDispatch := false
  lastBounceReason := none
  lastConflictFiles := []
  releaseTarget := none
  environment := none
  conversationId := none
  pullRequests := []
  pullRequest := none
  prUrl := none
  repo := none

/-- Put the fields into a card. -/
def apply (x : ItemExtras) (it : StoredItem) : StoredItem :=
  let it := { it with
    engine := x.engine
    model := x.model
    progress := x.progress
    gateFailures := x.gateFailures
    runFailures := x.runFailures
    diffAdded := x.diffAdded
    diffRemoved := x.diffRemoved
    projectPrompt := x.projectPrompt
    sandboxProfileId := x.sandboxProfileId
    autoDispatch := x.autoDispatch
    lastBounceReason := x.lastBounceReason
    lastConflictFiles := x.lastConflictFiles
    releaseTarget := x.releaseTarget
    environment := x.environment
    conversationId := x.conversationId
    pullRequests := x.pullRequests
    legacyPullRequest := x.pullRequest
    legacyPrUrl := x.prUrl }
  let it := it.migrateLegacyPrUrl
  -- Projects never carry a repository of their own.
  { it with
    repo := if it.isProject then none
      else (x.repo.map RepoConfig.normalized).filter RepoConfig.isComplete }

end ItemExtras

/-! ## Rows -/

/-- The texts of serde and of chrono. -/
structure ItemCodec where
  time : Wire Time
  origin : Wire Origin
  lease : Wire Lease
  escalation : Wire Escalation
  gates : Wire (List GateRun)
  notes : Wire (List Note)
  history : Wire (List Transition)
  plan : Wire PlanArtifact
  proposal : Wire TaskProposal
  extras : Wire ItemExtras

/-- The texts of the card read back. -/
structure ItemCodec.Carries (C : ItemCodec) (it : StoredItem) : Prop where
  createdAt : C.time.Carries it.createdAt
  enteredStateAt : C.time.Carries it.enteredStateAt
  runDeadlineAt : ∀ t ∈ it.runDeadlineAt, C.time.Carries t
  origin : C.origin.Carries it.origin
  lease : ∀ lease ∈ it.lease, C.lease.Carries lease
  escalation : ∀ e ∈ it.escalation, C.escalation.Carries e
  gates : C.gates.Carries it.gates
  notes : C.notes.Carries it.notes
  history : C.history.Carries it.history
  plan : ∀ p ∈ it.plan, C.plan.Carries p
  proposal : ∀ p ∈ it.proposal, C.proposal.Carries p
  extras : C.extras.Carries (ItemExtras.fromItem it)

instance (C : ItemCodec) (it : StoredItem) : Decidable (C.Carries it) :=
  decidable_of_iff
    (((C.time.Carries it.createdAt ∧ C.time.Carries it.enteredStateAt ∧
        ∀ t ∈ it.runDeadlineAt, C.time.Carries t) ∧ C.origin.Carries it.origin ∧
      (∀ lease ∈ it.lease, C.lease.Carries lease) ∧
      ∀ e ∈ it.escalation, C.escalation.Carries e) ∧
      (C.gates.Carries it.gates ∧ C.notes.Carries it.notes ∧ C.history.Carries it.history) ∧
      (∀ p ∈ it.plan, C.plan.Carries p) ∧ (∀ p ∈ it.proposal, C.proposal.Carries p) ∧
      C.extras.Carries (ItemExtras.fromItem it))
    ⟨fun h => ⟨h.1.1.1, h.1.1.2.1, h.1.1.2.2, h.1.2.1, h.1.2.2.1, h.1.2.2.2, h.2.1.1, h.2.1.2.1,
        h.2.1.2.2, h.2.2.1, h.2.2.2.1, h.2.2.2.2⟩,
      fun h => ⟨⟨⟨h.createdAt, h.enteredStateAt, h.runDeadlineAt⟩, h.origin, h.lease,
        h.escalation⟩, ⟨h.gates, h.notes, h.history⟩, h.plan, h.proposal, h.extras⟩⟩

/-- The columns of a card next to its id and its parent. -/
structure ItemColumns where
  level : Option String
  title : String
  intent : String
  definitionOfDone : Option String
  state : String
  aboveLine : ℤ
  capability : Option String
  runDeadlineAt : Option String
  parked : ℤ
  awaitingDispatch : ℤ
  rebaseRequested : ℤ
  enteredStateAt : String
  createdAt : String
  originJson : String
  leaseJson : Option String
  escalationJson : Option String
  gatesJson : String
  notesJson : String
  historyJson : String
  planJson : Option String
  proposalJson : Option String
  extrasJson : String
  nonRetiredChildCount : ℤ
  openBlockerCount : ℤ

/-- A flag, bound as an integer. -/
def flag (b : Bool) : ℤ := if b then 1 else 0

@[simp] lemma flag_ne_zero (b : Bool) : (flag b != 0) = b := by
  cases b <;> rfl

def itemToRow (C : ItemCodec) (it : StoredItem) (nonRetiredChildCount openBlockerCount : ℤ) :
    ItemColumns where
  level := it.level
  title := it.title
  intent := it.intent
  definitionOfDone := it.definitionOfDone
  state := it.state.toDb
  aboveLine := flag it.aboveLine
  capability := it.capability
  runDeadlineAt := it.runDeadlineAt.map C.time.write
  parked := flag it.parked
  awaitingDispatch := flag it.awaitingDispatch
  rebaseRequested := flag it.rebaseRequested
  enteredStateAt := C.time.write it.enteredStateAt
  createdAt := C.time.write it.createdAt
  originJson := C.origin.write it.origin
  leaseJson := it.lease.map C.lease.write
  escalationJson := it.escalation.map C.escalation.write
  gatesJson := C.gates.write it.gates
  notesJson := C.notes.write it.notes
  historyJson := C.history.write it.history
  planJson := it.plan.map C.plan.write
  proposalJson := it.proposal.map C.proposal.write
  extrasJson := C.extras.write (ItemExtras.fromItem it)
  nonRetiredChildCount := nonRetiredChildCount
  openBlockerCount := openBlockerCount

section Reading

variable {α : Type}

def parseJson (w : Wire α) (field raw : String) : Except StoreError α :=
  match w.read raw with
  | some a => .ok a
  | none => .error (.decode field)

/-- No text and the empty text are no value. -/
def parseJsonOpt (w : Wire α) (field : String) : Option String → Except StoreError (Option α)
  | none => .ok none
  | some "" => .ok none
  | some raw => (parseJson w field raw).map some

/-- The empty text is the default value. -/
def parseJsonDefault (w : Wire α) (dflt : α) (field raw : String) : Except StoreError α :=
  if raw.isEmpty then .ok dflt else parseJson w field raw

def parseDt (w : Wire Time) (field raw : String) : Except StoreError Time :=
  match w.read raw with
  | some t => .ok t
  | none => .error (.parse field)

/-- An instant that may be missing. -/
def parseDtOpt (w : Wire Time) (field : String) : Option String → Except StoreError (Option Time)
  | none => .ok none
  | some "" => .ok none
  | some raw => (parseDt w field raw).map some

variable {w : Wire α}

lemma parseJson_write {a : α} (h : w.Carries a) (field : String) :
    parseJson w field (w.write a) = .ok a := by
  unfold parseJson
  rw [h.2]

lemma parseJsonOpt_write {o : Option α} (h : ∀ a ∈ o, w.Carries a) (field : String) :
    parseJsonOpt w field (o.map w.write) = .ok o := by
  cases o with
  | none => rfl
  | some a =>
    have hcarries : w.Carries a := h a rfl
    rw [Option.map_some]
    unfold parseJsonOpt
    split
    · rename_i heq
      cases heq
    · rename_i heq
      exact absurd (Option.some.inj heq) hcarries.1
    · rename_i heq
      obtain rfl := Option.some.inj heq
      rw [parseJson_write hcarries]
      rfl

lemma parseJsonDefault_write {a : α} (h : w.Carries a) (dflt : α) (field : String) :
    parseJsonDefault w dflt field (w.write a) = .ok a := by
  unfold parseJsonDefault
  rw [if_neg (by simpa using h.1), parseJson_write h]

lemma parseDt_write {w : Wire Time} {t : Time} (h : w.Carries t) (field : String) :
    parseDt w field (w.write t) = .ok t := by
  unfold parseDt
  rw [h.2]

lemma parseDtOpt_write {w : Wire Time} {o : Option Time} (h : ∀ t ∈ o, w.Carries t)
    (field : String) : parseDtOpt w field (o.map w.write) = .ok o := by
  cases o with
  | none => rfl
  | some t =>
    have hcarries : w.Carries t := h t rfl
    rw [Option.map_some]
    unfold parseDtOpt
    split
    · rename_i heq
      cases heq
    · rename_i heq
      exact absurd (Option.some.inj heq) hcarries.1
    · rename_i heq
      obtain rfl := Option.some.inj heq
      rw [parseDt_write hcarries]
      rfl

end Reading

/-- Read the row of a card; the blockers are read elsewhere. -/
def itemFromRow (C : ItemCodec) (id : ItemId) (parentId : Option ItemId) (row : ItemColumns) :
    Except StoreError StoredItem := do
  let origin ← parseJson C.origin "origin_json" row.originJson
  let lease ← parseJsonOpt C.lease "lease_json" row.leaseJson
  let escalation ← parseJsonOpt C.escalation "escalation_json" row.escalationJson
  let gates ← parseJsonDefault C.gates [] "gates_json" row.gatesJson
  let notes ← parseJsonDefault C.notes [] "notes_json" row.notesJson
  let history ← parseJsonDefault C.history [] "history_json" row.historyJson
  let plan ← parseJsonOpt C.plan "plan_json" row.planJson
  let proposal ← parseJsonOpt C.proposal "proposal_json" row.proposalJson
  let extras ← parseJsonDefault C.extras ItemExtras.default "extras_json" row.extrasJson
  let state ← State.fromDb row.state
  let runDeadlineAt ← parseDtOpt C.time "run_deadline_at" row.runDeadlineAt
  let createdAt ← parseDt C.time "created_at" row.createdAt
  let enteredStateAt ← parseDt C.time "entered_state_at" row.enteredStateAt
  return extras.apply {
    id := id
    parent := parentId
    level := row.level
    title := row.title
    intent := row.intent
    definitionOfDone := row.definitionOfDone
    state := state
    origin := origin
    aboveLine := row.aboveLine != 0
    blockedBy := []
    blockers := []
    capability := row.capability
    lease := lease
    runDeadlineAt := runDeadlineAt
    engine := none
    model := none
    resolvedModel := none
    progress := 0
    escalation := escalation
    gates := gates
    gateFailures := 0
    runFailures := 0
    diffAdded := 0
    diffRemoved := 0
    notes := notes
    projectPrompt := none
    sandboxProfileId := none
    autoDispatch := false
    lastBounceReason := none
    lastConflictFiles := []
    releaseTarget := none
    environment := none
    conversationId := none
    parked := row.parked != 0
    awaitingDispatch := row.awaitingDispatch != 0
    rebaseRequested := row.rebaseRequested != 0
    pullRequests := []
    legacyPullRequest := none
    legacyPrUrl := none
    repo := none
    plan := plan
    proposal := proposal
    createdAt := createdAt
    enteredStateAt := enteredStateAt
    history := history }

/-- What a row keeps of a card. -/
def StoredItem.stored (it : StoredItem) : StoredItem :=
  { it with
    blockedBy := []
    blockers := []
    resolvedModel := none
    legacyPullRequest := none
    legacyPrUrl := none
    repo := if it.isProject then none
      else (it.repo.map RepoConfig.normalized).filter RepoConfig.isComplete }

/-- A row reads back as what it keeps of the card. -/
theorem itemFromRow_itemToRow {C : ItemCodec} {it : StoredItem} (h : C.Carries it) (n m : ℤ) :
    itemFromRow C it.id it.parent (itemToRow C it n m) = .ok it.stored := by
  unfold itemFromRow itemToRow
  simp only [parseJson_write h.origin, parseJsonOpt_write h.lease,
    parseJsonOpt_write h.escalation, parseJsonDefault_write h.gates,
    parseJsonDefault_write h.notes, parseJsonDefault_write h.history,
    parseJsonOpt_write h.plan, parseJsonOpt_write h.proposal,
    parseJsonDefault_write h.extras, State.fromDb_toDb, parseDtOpt_write h.runDeadlineAt,
    parseDt_write h.createdAt, parseDt_write h.enteredStateAt, flag_ne_zero]
  rfl

end Sandboard

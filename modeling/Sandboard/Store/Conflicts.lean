import Sandboard.Library.Run
import Sandboard.Store.Carrying
import Sandboard.Store.Retries

/-!
# Conflicts that repeat

A Review card whose pull request conflicts returns to Backlog with the conflicting files on it, and
a conflict on some of the same files goes to a human.  A `Bounce` is an account of the last
conflict of a card, kept beside the board, that forgets it only when a human answers or a check is
clean.  The card itself also forgets the files when its agent reports, so that a repeated conflict
goes to a human exactly when no report came in between (`escalatesRepeats_iff`).
-/

namespace Sandboard

open BoardState Board Std Text

/-- The files of the last conflict of a card that is neither answered nor settled by a clean check,
and whether its agent has reported since. -/
structure Bounce where
  files : List String
  reported : Bool
  deriving DecidableEq

namespace Bounce

/-- There is no conflict to remember. -/
def empty : Bounce := ⟨[], false⟩

/-- The files of a new conflict that were in the last one. -/
def again (m : Bounce) (conflictingFiles : List String) : List String :=
  (conflictingFiles.map trim).filter m.files.contains

/-- The files that the card has. -/
def kept (m : Bounce) : List String := if m.reported then [] else m.files

end Bounce

/-- What an operation writes into the account of the card `id`. -/
def Operation.remembered (id : ItemId) (s : BoardState) (m : Bounce) (op : Operation) : Bounce :=
  match s.items[id]? with
  | none => m
  | some c =>
    match op with
    | recordRebaseOutcome k outcome =>
      if k = id ∧ c.state = .review then
        match outcome with
        | .clean => .empty
        | .conflict conflictingFiles _ => ⟨conflictingFiles.map trim, false⟩
      else m
    | answerEscalation k _ => if k = id ∧ c.escalation.isSome = true then .empty else m
    | report k .. => if k = id then { m with reported := true } else m
    | _ => m

/-- The question that a repeated conflict asks. -/
def decompositionFailure (id : ItemId) (overlapping : List String) : String :=
  let list := String.intercalate ", " overlapping
  (s!"Decomposition failure: repeated rebase conflict on overlapping files ({list}) for " ++
    s!"card #{id}")

namespace Operation

variable {id : ItemId} {s : BoardState} {m : Bounce} {c : WorkItem} {op : Operation}

lemma remembered_none (hc : s.items[id]? = none) : op.remembered id s m = m := by
  unfold remembered
  rw [hc]

lemma remembered_report (hc : s.items[id]? = some c) {agentId : String} {added removed : UInt32}
    {gates : List String} :
    (report id agentId added removed gates).remembered id s m = { m with reported := true } := by
  unfold remembered
  rw [hc]
  exact if_pos rfl

lemma remembered_answerEscalation (hc : s.items[id]? = some c) (choice : String) :
    (answerEscalation id choice).remembered id s m =
      if c.escalation.isSome = true then .empty else m := by
  unfold remembered
  rw [hc]
  exact if_congr (and_iff_right rfl) rfl rfl

lemma remembered_outcome (hc : s.items[id]? = some c) (outcome : RebaseOutcome) :
    (recordRebaseOutcome id outcome).remembered id s m =
      if c.state = .review then
        match outcome with
        | .clean => .empty
        | .conflict conflictingFiles _ => ⟨conflictingFiles.map trim, false⟩
      else m := by
  unfold remembered
  rw [hc]
  exact if_congr (and_iff_right rfl) rfl rfl

end Operation

/-! ## What a step does to the files -/

/-- The card `id` keeps its files. -/
def KeepsFiles (id k : ItemId) (c c' : WorkItem) : Prop :=
  k = id → c'.lastConflictFiles = c.lastConflictFiles

/-- The card `id` has no files. -/
def HasNoFiles (id k : ItemId) (c : WorkItem) : Prop := k = id → c.lastConflictFiles = []

lemma keepsFiles_law (id : ItemId) : CardLaw (HasNoFiles id) (KeepsFiles id) where
  refl _ _ _ := rfl
  trans _ _ _ _ h h' hk := (h' hk).trans (h hk)
  new _ _ _ h h' hk := (h' hk).trans (h hk)
  born _ _ _ _ _ := rfl
  moved _ _ _ _ _ _ _ := rfl
  proposed _ _ _ _ := rfl
  settled _ _ _ _ _ := rfl
  blockedOn _ _ _ _ := rfl
  unplanned _ _ _ := rfl

/-- The operation may change the files of the card `id`. -/
def Operation.touchesFiles (id : ItemId) : Operation → Bool
  | recordRebaseOutcome k _ | answerEscalation k _ | report k .. => k == id
  | _ => false

lemma keepsFiles_notedPark (id k : ItemId) (reason : Option String) (now : Time) (c : WorkItem) :
    KeepsFiles id k c (notedPark reason now c) := by
  cases reason with
  | none => exact fun _ => rfl
  | some r => exact fun _ => rfl

/-- Every other operation leaves the account alone. -/
lemma Operation.remembered_of_silent {id : ItemId} {op : Operation}
    (h : op.touchesFiles id = false) (s : BoardState) (m : Bounce) : op.remembered id s m = m := by
  unfold remembered
  cases s.items[id]? with
  | none => rfl
  | some c =>
    cases op with
    | recordRebaseOutcome k outcome => exact if_neg fun hk => beq_eq_false_iff_ne.1 h hk.1
    | answerEscalation k choice => exact if_neg fun hk => beq_eq_false_iff_ne.1 h hk.1
    | report k => exact if_neg (beq_eq_false_iff_ne.1 h)
    | _ => rfl

/-- The edits of every other operation keep the files. -/
lemma Operation.editsIn_keepsFiles {id : ItemId} {op : Operation} (h : op.touchesFiles id = false) :
    op.EditsIn fun k f => ∀ c, KeepsFiles id k c (f c) := by
  have hother : ∀ {k : ItemId} {f : WorkItem → WorkItem}, (k == id) = false →
      ∀ c, KeepsFiles id k c (f c) := fun hk _ heq => absurd heq (beq_eq_false_iff_ne.1 hk)
  cases op with
  | report k agentId added removed gates => exact hother h
  | answerEscalation k choice => exact ⟨fun _ => hother h, fun _ => hother h⟩
  | recordRebaseOutcome k outcome =>
    exact ⟨hother h, fun _ _ _ => hother h, fun _ _ _ _ => hother h, hother h⟩
  | createProject => exact fun _ _ _ _ _ _ _ _ => rfl
  | setAutoDispatch => exact ⟨fun _ _ => rfl, fun _ _ _ => rfl, fun _ _ _ => rfl⟩
  | claim | reopenForAdoption | heartbeat | reportPullRequest | completeForMergedPr =>
    exact fun _ _ _ _ => rfl
  | setProjectSandboxProfile | steer | releaseWithReason | autoEnqueueProject
  | autoEnqueueAll | unarchiveScope | setPrUrl => exact fun _ _ _ => rfl
  | clearRunFailures | setEnvironment | setConversationId | updateItem | setPullRequests
  | enqueueDispatch | clearDispatch | halt | dispatchRebase => exact fun _ _ => rfl
  | escalate => exact fun _ _ _ => rfl
  | recordRunFailure => exact ⟨fun _ _ => rfl, fun _ _ _ _ _ _ => rfl⟩
  | proposeSplit => exact fun _ _ _ _ _ _ => rfl
  | park => exact ⟨fun _ _ => keepsFiles_notedPark id _ _ _, fun _ _ => rfl⟩
  | unpark => exact ⟨fun _ _ => rfl, fun _ _ => rfl⟩
  | requestChanges => exact ⟨fun _ _ _ _ => rfl, fun _ _ => rfl⟩
  | notifyMainAdvanced =>
    exact ⟨fun _ _ _ _ _ => rfl, fun _ _ _ => keepsFiles_notedPark id _ _ _, fun _ _ _ => rfl,
      fun _ _ _ => rfl, fun _ _ _ => rfl⟩
  | applyPrReviewFeedback => exact fun _ _ _ _ _ _ => rfl
  | _ => trivial

/-! ## The operations on the files -/

section Unicode

variable [UnicodeTables]

namespace Board

variable {b : Board} {id : ItemId} {c : WorkItem}

/-- Every operation but these three carries the files over. -/
lemma carried_files {op : Operation} (h : op.touchesFiles id = false) (b : Board) :
    Carried (HasNoFiles id) (KeepsFiles id) b.state (b.exec op).state :=
  .exec (keepsFiles_law id) (Operation.editsIn_keepsFiles h) b

/-- On a card that is not there these three change nothing. -/
lemma state_of_missing (hc : b.state.items[id]? = none) {op : Operation}
    (h : op.touchesFiles id = true) : (b.exec op).state = b.state := by
  cases op with
  | report k agentId added removed gates =>
    obtain rfl : k = id := beq_iff_eq.1 h
    have hedit : b.state.editItem k (WorkItem.reported added removed gates) = b.state :=
      editItem_of_none hc _
    rw [exec_state (m := report k agentId added removed gates) rfl]
    unfold report
    rw [Locked.run_bind_ok (run_editQuietly _ _ _), hedit,
      run_transition_missing (b := b.stepped b.state) .review hc]
    rfl
  | answerEscalation k choice =>
    obtain rfl : k = id := beq_iff_eq.1 h
    have hwrite : (write fun now s => answerSection k choice (now 0) s).run b =
        (.error "no such item", b.stepped b.state) := by
      rw [run_write, answerSection, hc]
    rw [exec_state (m := answerEscalation k choice) rfl]
    unfold answerEscalation
    rw [Locked.run_bind_error hwrite]
    rfl
  | recordRebaseOutcome k outcome =>
    obtain rfl : k = id := beq_iff_eq.1 h
    rw [exec_state (m := recordRebaseOutcome k outcome) rfl]
    unfold recordRebaseOutcome
    rw [Locked.run_bind_error (run_readOr_none hc _)]
  | _ => cases h

/-- A report takes the files off the card, whether or not the card goes to Review. -/
lemma files_report (hc : b.state.items[id]? = some c) {agentId : String} {added removed : UInt32}
    {gates : List String} {c' : WorkItem} (hwf : b.state.WellFormed)
    (hc' : (b.exec (.report id agentId added removed gates)).state.items[id]? = some c') :
    c'.lastConflictFiles = [] := by
  let b₁ := b.stepped (b.state.editItem id (WorkItem.reported added removed gates))
  have hc₁ : b₁.state.items[id]? = some (c.reported added removed gates) := by
    change (b.state.editItem id _).items[id]? = _
    rw [items_editItem_self, hc]
    rfl
  have hwf₁ : b₁.state.WellFormed :=
    hwf.reshaped (.edit id fun _ => ⟨rfl, rfl, rfl, rfl, fun h => h⟩)
  have hexec : (b.exec (.report id agentId added removed gates)).state =
      (b₁.exec (.transition id .review agentId none)).state := by
    rw [exec_state (m := report id agentId added removed gates) rfl,
      exec_state (m := transition id .review agentId none) rfl]
    unfold report
    rw [Locked.run_bind_ok (run_editQuietly _ _ _)]
  have hcarried : Carried (HasNoFiles id) (KeepsFiles id) b₁.state
      (b₁.exec (.transition id .review agentId none)).state := carried_files rfl b₁
  rw [hexec] at hc'
  exact hcarried.rel hwf₁ hc₁ hc' rfl

/-- An answer takes the files off a card that asks. -/
lemma files_answerEscalation (hc : b.state.items[id]? = some c)
    (hasks : c.escalation.isSome = true) {choice : String} {c' : WorkItem}
    (hwf : b.state.WellFormed)
    (hc' : (b.exec (.answerEscalation id choice)).state.items[id]? = some c') :
    c'.lastConflictFiles = [] := by
  let b₁ := b.stepped (b.state.editItem id (WorkItem.answered choice (b.now 0)))
  have hc₁ : b₁.state.items[id]? = some (c.answered choice (b.now 0)) := by
    change (b.state.editItem id _).items[id]? = _
    rw [items_editItem_self, hc]
    rfl
  have hwf₁ : b₁.state.WellFormed :=
    hwf.reshaped (.edit id fun _ => ⟨rfl, rfl, rfl, rfl, fun h => h⟩)
  have hwrite : (write fun now s => answerSection id choice (now 0) s).run b =
      (.ok (c.answered choice (b.now 0)), b₁) := by
    have hnone : c.escalation.isNone = false := by
      rw [← Option.not_isSome, hasks]
      rfl
    rw [run_write, answerSection, hc]
    dsimp only
    rw [hnone, if_neg Bool.false_ne_true, tryEdit_some hc]
  have hcovers := Carried.covers (keepsFiles_law id)
  have hrest : Carried (HasNoFiles id) (KeepsFiles id) b₁.state
      (b.exec (.answerEscalation id choice)).state := by
    rw [exec_state (m := answerEscalation id choice) rfl]
    unfold answerEscalation
    rw [Locked.run_bind_ok hwrite]
    refine Within.run_state (R := Carried (HasNoFiles id) (KeepsFiles id)) ?_ hcovers.refl
      (fun _ _ _ => hcovers.trans) b₁
    refine within_bind (shaped_transitionOrMessage hcovers.toShapes trivial
      fun hdone => by cases hdone) fun item =>
      within_bind (within_story hcovers.toLax _ _) fun _ => ?_
    split
    · exact shaped_holdForHost hcovers.toShapes fun _ _ _ => rfl
    · exact within_pure item
  exact hrest.rel hwf₁ hc₁ hc' rfl

/-- Nothing is answered on a card that does not ask. -/
lemma state_answerEscalation_refused (hc : b.state.items[id]? = some c)
    (hasks : c.escalation.isSome = false) (choice : String) :
    (b.exec (.answerEscalation id choice)).state = b.state := by
  have hwrite : (write fun now s => answerSection id choice (now 0) s).run b =
      (.error "that item is not waiting on anyone", b.stepped b.state) := by
    have hnone : c.escalation.isNone = true := by
      rw [← Option.not_isSome, hasks]
      rfl
    rw [run_write, answerSection, hc]
    dsimp only
    rw [hnone, if_pos rfl]
  rw [exec_state (m := answerEscalation id choice) rfl]
  unfold answerEscalation
  rw [Locked.run_bind_error hwrite]
  rfl

/-- An outcome is recorded on a Review card only. -/
lemma state_recordRebaseOutcome_refused (hc : b.state.items[id]? = some c)
    (hstate : c.state ≠ .review) (outcome : RebaseOutcome) :
    (b.exec (.recordRebaseOutcome id outcome)).state = b.state := by
  rw [exec_state (m := recordRebaseOutcome id outcome) rfl]
  unfold recordRebaseOutcome
  rw [Locked.run_bind_ok (run_readOr_some hc _), Locked.run_failIf_bind, if_pos hstate]

/-- A clean outcome takes the files off the card. -/
lemma item_recordRebaseOutcome_clean (hc : b.state.items[id]? = some c)
    (hstate : c.state = .review) :
    (b.exec (.recordRebaseOutcome id .clean)).state.items[id]? = some c.rebasedClean := by
  rw [exec_state (m := recordRebaseOutcome id .clean) rfl]
  unfold recordRebaseOutcome
  rw [Locked.run_bind_ok (run_readOr_some hc _), Locked.run_failIf_bind,
    if_neg (not_not.2 hstate)]
  dsimp only
  rw [Locked.run_bind, run_write, tryEdit_some hc]
  change (b.state.editItem id WorkItem.rebasedClean).items[id]? = _
  rw [items_editItem_self, hc]
  rfl

omit [UnicodeTables] in
/-- The card goes back to Backlog, or stays in Review where the table refuses that. -/
lemma item_conflictSection {s : BoardState} (hc : s.items[id]? = some c)
    (hstate : c.state = .review) (bounceReason : String) (files : List String) (now : ℕ → Time) :
    ∃ c', (conflictSection id bounceReason files now s).2.items[id]? = some c' ∧
      c'.lastConflictFiles = files ∧ c'.state ≠ .needsHuman ∧ c'.escalation = c.escalation := by
  let d := c.conflicted bounceReason files (now 0)
  have hd : (s.editItem id (WorkItem.conflicted bounceReason files (now 0))).items[id]? =
      some d := by
    rw [items_editItem_self, hc]
    rfl
  unfold conflictSection
  dsimp only
  cases hcheck : (s.editItem id (WorkItem.conflicted bounceReason files (now 0))).checkMove id d
      .backlog with
  | error e =>
    rw [transitionLocked_of_error hd hcheck]
    refine ⟨d, hd, rfl, ?_, rfl⟩
    change c.state ≠ .needsHuman
    rw [hstate]
    decide
  | ok u =>
    have hmoved : ((s.editItem id (WorkItem.conflicted bounceReason files (now 0))).moveItem id d
        (now 1) .backlog "rebase" (some bounceReason)).items[id]? =
          some (d.moved (now 1) .backlog "rebase" (some bounceReason)) := by
      rw [items_moveItem, if_pos rfl, hd, Option.map_some]
    rw [transitionLocked_of_ok hd hcheck]
    dsimp only
    rw [tryEdit_some hmoved]
    refine ⟨_, (items_editItem_self _).trans (congrArg _ hmoved), rfl, ?_, rfl⟩
    exact nofun

/-- Other files than before leave the question of the card alone. -/
lemma item_recordRebaseOutcome_bounced (hc : b.state.items[id]? = some c)
    (hstate : c.state = .review) {conflictingFiles : List String} (reason : Option String)
    (hother : (conflictingFiles.map trim).filter c.lastConflictFiles.contains = []) :
    ∃ c', (b.exec (.recordRebaseOutcome id (.conflict conflictingFiles reason))).state.items[id]? =
        some c' ∧ c'.lastConflictFiles = conflictingFiles.map trim ∧
      c'.state ≠ .needsHuman ∧ c'.escalation = c.escalation := by
  have hoverlap : (!((conflictingFiles.map trim).filter c.lastConflictFiles.contains).isEmpty) =
      false := by
    rw [hother]
    rfl
  rw [exec_state (m := recordRebaseOutcome id (.conflict conflictingFiles reason)) rfl]
  unfold recordRebaseOutcome
  rw [Locked.run_bind_ok (run_readOr_some hc _), Locked.run_failIf_bind,
    if_neg (not_not.2 hstate)]
  dsimp only
  rw [hoverlap, if_neg Bool.false_ne_true, Locked.run_bind, run_write]
  generalize (if (conflictingFiles.map trim).isEmpty = true then _ else _ : String) = bounceReason
  obtain ⟨c', hc', hfiles⟩ := item_conflictSection hc hstate bounceReason
    (conflictingFiles.map trim) b.now
  refine ⟨c', ?_, hfiles⟩
  cases hresult : (conflictSection id bounceReason (conflictingFiles.map trim) b.now b.state).1 with
  | error e => exact hc'
  | ok item => exact hc'

/-- Some of the same files as before take the card to a human. -/
lemma item_recordRebaseOutcome_repeated (hc : b.state.items[id]? = some c)
    (hstate : c.state = .review) {conflictingFiles : List String} (reason : Option String)
    {overlapping : List String}
    (hagain : (conflictingFiles.map trim).filter c.lastConflictFiles.contains = overlapping)
    (hsome : overlapping ≠ []) :
    ∃ c' e, (b.exec (.recordRebaseOutcome id (.conflict conflictingFiles reason))).state.items[id]?
        = some c' ∧ c'.lastConflictFiles = conflictingFiles.map trim ∧ c'.state = .needsHuman ∧
      c'.escalation = some e ∧ e.question = decompositionFailure id overlapping ∧
      e.options = repeatedConflictOptions ∧ e.answer = none := by
  have hoverlap : (!overlapping.isEmpty) = true := by
    rw [Bool.not_eq_true', List.isEmpty_eq_false_iff]
    exact hsome
  have hasked : ∀ bounceReason, ∃ c' e,
      ((escalate id "rebase" (decompositionFailure id overlapping) repeatedConflictOptions 0).run
        (b.stepped (b.state.editItem id (WorkItem.conflicted bounceReason
          (conflictingFiles.map trim) (b.now 0))))).2.state.items[id]? = some c' ∧
      c'.lastConflictFiles = conflictingFiles.map trim ∧ c'.state = .needsHuman ∧
      c'.escalation = some e ∧ e.question = decompositionFailure id overlapping ∧
      e.options = repeatedConflictOptions ∧ e.answer = none := by
    intro bounceReason
    let d := c.conflicted bounceReason (conflictingFiles.map trim) (b.now 0)
    have hd : (b.stepped (b.state.editItem id (WorkItem.conflicted bounceReason
        (conflictingFiles.map trim) (b.now 0)))).state.items[id]? = some d := by
      change (b.state.editItem id _).items[id]? = _
      rw [items_editItem_self, hc]
      rfl
    have hallowed : allowed d.state .needsHuman = true := by
      change allowed c.state .needsHuman = true
      rw [hstate]
      decide
    have hoptions : checkOptions repeatedConflictOptions 0 = .ok () := by decide
    obtain ⟨asked, now, rfl, hitem⟩ :=
      run_escalate_item hoptions hd "rebase" (decompositionFailure id overlapping)
    rw [if_pos hallowed] at hitem
    exact ⟨_, _, hitem, rfl, rfl, rfl, rfl, rfl, rfl⟩
  rw [exec_state (m := recordRebaseOutcome id (.conflict conflictingFiles reason)) rfl]
  unfold recordRebaseOutcome
  rw [Locked.run_bind_ok (run_readOr_some hc _), Locked.run_failIf_bind,
    if_neg (not_not.2 hstate)]
  dsimp only
  rw [hagain, hoverlap, if_pos rfl, Locked.run_bind_ok (run_editQuietly _ _ _)]
  exact hasked _

end Board

/-! ## Runs -/

/-- Where a Review card conflicts again on some of the files of its last conflict, it goes to a
human with the question how to split the task; where it conflicts on none of them, it does not. -/
structure EscalatesRepeats (id : ItemId) (b : Board) (m : Bounce) (op : Operation) : Prop where
  repeated : ∀ conflictingFiles reason c,
    op = .recordRebaseOutcome id (.conflict conflictingFiles reason) →
    b.state.items[id]? = some c → c.state = .review → m.again conflictingFiles ≠ [] →
      ∃ c' e, (b.exec op).state.items[id]? = some c' ∧ c'.state = .needsHuman ∧
        c'.escalation = some e ∧ e.question = decompositionFailure id (m.again conflictingFiles) ∧
        e.options = repeatedConflictOptions ∧ e.answer = none
  disjoint : ∀ conflictingFiles reason c,
    op = .recordRebaseOutcome id (.conflict conflictingFiles reason) →
    b.state.items[id]? = some c → c.state = .review → m.again conflictingFiles = [] →
      ∃ c', (b.exec op).state.items[id]? = some c' ∧ c'.state ≠ .needsHuman ∧
        c'.escalation = c.escalation

/-- No report came between two conflicts of the card on some of the same files. -/
def UnreportedRepeats (id : ItemId) (b : Board) (m : Bounce) (op : Operation) : Prop :=
  ∀ conflictingFiles reason c, op = .recordRebaseOutcome id (.conflict conflictingFiles reason) →
    b.state.items[id]? = some c → c.state = .review → m.again conflictingFiles ≠ [] →
      m.reported = false

/-- A board with the account of the card `id`, and a step of both. -/
def bounceStep (id : ItemId) (σ : Board × Bounce) (op : Operation) : Board × Bounce :=
  (σ.1.exec op, op.remembered id σ.1.state σ.2)

/-- The board is a reachable one, and the account says which files the card `id` has. -/
structure BounceTracked (id : ItemId) (σ : Board × Bounce) : Prop where
  wellFormed : σ.1.state.WellFormed
  unborn : σ.1.state.nextId ≤ id → σ.2 = .empty
  files : ∀ c, σ.1.state.items[id]? = some c → c.lastConflictFiles = σ.2.kept

namespace BounceTracked

variable {id : ItemId} {b : Board} {m : Bounce} {op : Operation} {c : WorkItem}

omit [UnicodeTables] in
lemma new (schema : Schema) (clock : ℕ → ℕ → Time) (saveSucceeds : ℕ → Bool) :
    BounceTracked id (Board.new schema clock saveSucceeds, .empty) where
  wellFormed := .empty
  unborn _ := rfl
  files c hc := by
    have hnone : (Board.new schema clock saveSucceeds).state.items[id]? = none :=
      ExtTreeMap.getElem?_empty
    rw [hnone] at hc
    cases hc

/-- A step is tracked when the account says which files the card has then. -/
lemma step_of_files (h : BounceTracked id (b, m)) (hc : b.state.items[id]? = some c)
    (hfiles : ∀ c', (b.exec op).state.items[id]? = some c' →
      c'.lastConflictFiles = (op.remembered id b.state m).kept) :
    BounceTracked id (bounceStep id (b, m) op) where
  wellFormed := h.wellFormed.reshaped (reshaped_exec b op)
  unborn hid := by
    have hgrows := b.nextId_le_exec op
    exact absurd (h.wellFormed.fresh id c hc) (Nat.not_lt.2 (hgrows.trans hid))
  files := hfiles

/-- A step that carries the files over leaves the account alone. -/
lemma step_of_carried (h : BounceTracked id (b, m))
    (hcarried : Carried (HasNoFiles id) (KeepsFiles id) b.state (b.exec op).state)
    (hsame : op.remembered id b.state m = m) : BounceTracked id (bounceStep id (b, m) op) := by
  refine ⟨h.wellFormed.reshaped (reshaped_exec b op), fun hid => ?_, fun c' hc' => ?_⟩
  · exact hsame.trans (h.unborn (hcarried.grows.trans hid))
  · have hm : (bounceStep id (b, m) op).2 = m := hsame
    rw [hm]
    rcases hcarried.card id c' hc' with ⟨hnew, hnone⟩ | ⟨c, hc, hkeeps⟩
    · have hempty : m = .empty := h.unborn hnew
      rw [hempty]
      exact hnone rfl
    · exact (hkeeps rfl).trans (h.files c hc)

/-- A step that does not change the board leaves the account alone. -/
lemma step_of_state (h : BounceTracked id (b, m)) (hstate : (b.exec op).state = b.state)
    (hsame : op.remembered id b.state m = m) : BounceTracked id (bounceStep id (b, m) op) := by
  refine h.step_of_carried ?_ hsame
  rw [hstate]
  exact .of_cardwise rfl (.of_items_eq (fun _ _ _ => rfl) rfl)

/-- Every step is tracked. -/
lemma step (h : BounceTracked id (b, m)) : BounceTracked id (bounceStep id (b, m) op) := by
  by_cases hop : op.touchesFiles id = false
  · exact h.step_of_carried (carried_files hop b) (Operation.remembered_of_silent hop _ _)
  cases hc : b.state.items[id]? with
  | none =>
    exact h.step_of_state (state_of_missing hc (Bool.not_eq_false _ ▸ hop))
      (Operation.remembered_none hc)
  | some c =>
    cases op with
    | report k agentId added removed gates =>
      obtain rfl : k = id := by simpa [Operation.touchesFiles] using hop
      refine h.step_of_files hc fun c' hc' => ?_
      rw [files_report hc h.wellFormed hc', Operation.remembered_report hc]
      rfl
    | answerEscalation k choice =>
      obtain rfl : k = id := by simpa [Operation.touchesFiles] using hop
      have hm := Operation.remembered_answerEscalation (m := m) hc choice
      cases hasks : c.escalation.isSome with
      | false =>
        rw [hasks, if_neg Bool.false_ne_true] at hm
        exact h.step_of_state (state_answerEscalation_refused hc hasks choice) hm
      | true =>
        rw [hasks, if_pos rfl] at hm
        refine h.step_of_files hc fun c' hc' => ?_
        rw [files_answerEscalation hc hasks h.wellFormed hc', hm]
        rfl
    | recordRebaseOutcome k outcome =>
      obtain rfl : k = id := by simpa [Operation.touchesFiles] using hop
      have hm := Operation.remembered_outcome (m := m) hc outcome
      by_cases hstate : c.state = .review
      · rw [if_pos hstate] at hm
        refine h.step_of_files hc fun c' hc' => ?_
        rw [hm]
        cases outcome with
        | clean =>
          rw [item_recordRebaseOutcome_clean hc hstate, Option.some.injEq] at hc'
          rw [← hc']
          rfl
        | conflict conflictingFiles reason =>
          change c'.lastConflictFiles = conflictingFiles.map trim
          by_cases hother :
              (conflictingFiles.map trim).filter c.lastConflictFiles.contains = []
          · obtain ⟨d, hd, hfiles, -⟩ := item_recordRebaseOutcome_bounced hc hstate reason hother
            rw [hd, Option.some.injEq] at hc'
            rw [← hc']
            exact hfiles
          · obtain ⟨d, e, hd, hfiles, -⟩ :=
              item_recordRebaseOutcome_repeated hc hstate reason rfl hother
            rw [hd, Option.some.injEq] at hc'
            rw [← hc']
            exact hfiles
      · rw [if_neg hstate] at hm
        exact h.step_of_state (state_recordRebaseOutcome_refused hc hstate outcome) hm
    | _ => exact absurd rfl hop

/-- A step treats a repeated conflict as it should exactly when no report came before it. -/
lemma escalatesRepeats_iff (h : BounceTracked id (b, m)) :
    EscalatesRepeats id b m op ↔ UnreportedRepeats id b m op := by
  constructor
  · intro hstep conflictingFiles reason c hop hc hstate hagain
    by_contra hreported
    rw [Bool.not_eq_false] at hreported
    have hnone : (conflictingFiles.map trim).filter c.lastConflictFiles.contains = [] := by
      rw [h.files c hc, Bounce.kept, if_pos hreported]
      exact List.filter_eq_nil_iff.2 fun _ _ => Bool.false_ne_true
    obtain ⟨c', e, hc', hhuman, -⟩ := hstep.repeated conflictingFiles reason c hop hc hstate hagain
    obtain ⟨d, hd, -, hnot, -⟩ := item_recordRebaseOutcome_bounced hc hstate reason hnone
    rw [hop, hd, Option.some.injEq] at hc'
    exact hnot (hc' ▸ hhuman)
  · intro hunreported
    refine ⟨fun conflictingFiles reason c hop hc hstate hagain => ?_,
      fun conflictingFiles reason c hop hc hstate hagain => ?_⟩
    · have hreported := hunreported conflictingFiles reason c hop hc hstate hagain
      have hsame : (conflictingFiles.map trim).filter c.lastConflictFiles.contains =
          m.again conflictingFiles := by
        rw [h.files c hc, Bounce.kept, hreported, if_neg Bool.false_ne_true]
        rfl
      obtain ⟨c', e, hc', -, hasked⟩ :=
        item_recordRebaseOutcome_repeated hc hstate reason hsame hagain
      exact ⟨c', e, hop ▸ hc', hasked⟩
    · have hnone : (conflictingFiles.map trim).filter c.lastConflictFiles.contains = [] := by
        rw [h.files c hc, Bounce.kept]
        split
        · exact List.filter_eq_nil_iff.2 fun _ _ => Bool.false_ne_true
        · exact hagain
      obtain ⟨c', hc', -, hkept⟩ := item_recordRebaseOutcome_bounced hc hstate reason hnone
      exact ⟨c', hop ▸ hc', hkept⟩

end BounceTracked

/-- In every run, every step sends a repeated conflict to a human, and no other one, exactly when
no report comes between two conflicts on some of the same files. -/
theorem escalatesRepeats_run_iff (schema : Schema) (clock : ℕ → ℕ → Time)
    (saveSucceeds : ℕ → Bool) (id : ItemId) (ops : List Operation) :
    Run.Meets (bounceStep id) (fun σ op => EscalatesRepeats id σ.1 σ.2 op)
        (Board.new schema clock saveSucceeds, .empty) ops ↔
      Run.Meets (bounceStep id) (fun σ op => UnreportedRepeats id σ.1 σ.2 op)
        (Board.new schema clock saveSucceeds, .empty) ops :=
  Run.meets_congr_of_invariant (I := BounceTracked id) (fun _ _ h => h.escalatesRepeats_iff)
    (fun _ _ h _ => h.step) (.new schema clock saveSucceeds)

/-- A run that comes to a repeated conflict after a report. -/
lemma not_escalatesRepeats_of_reported {schema : Schema} {clock : ℕ → ℕ → Time}
    {saveSucceeds : ℕ → Bool} {id : ItemId} {ops : List Operation} {m : Bounce}
    {conflictingFiles : List String} {reason : Option String}
    (hstate : ((Run.after (bounceStep id) (Board.new schema clock saveSucceeds, .empty)
      ops).1.state.items[id]?.map WorkItem.state) = some .review)
    (hm : (Run.after (bounceStep id) (Board.new schema clock saveSucceeds, .empty) ops).2 = m)
    (hreported : m.reported = true) (hagain : m.again conflictingFiles ≠ []) :
    ¬Run.Meets (bounceStep id) (fun σ op => EscalatesRepeats id σ.1 σ.2 op)
      (Board.new schema clock saveSucceeds, .empty)
        (ops ++ [.recordRebaseOutcome id (.conflict conflictingFiles reason)]) := by
  refine Run.not_meets_of_last fun hstep => ?_
  have htracked : BounceTracked id
      (Run.after (bounceStep id) (Board.new schema clock saveSucceeds, .empty) ops) :=
    Run.invariant (fun _ _ h => h.step) (.new schema clock saveSucceeds) ops
  obtain ⟨c, hc, hreview⟩ := Option.map_eq_some_iff.1 hstate
  subst hm
  have hunreported := htracked.escalatesRepeats_iff.1 hstep conflictingFiles reason c rfl hc hreview
    hagain
  exact absurd (hreported.symm.trans hunreported) (by decide)

end Unicode

/-- A Task in Review conflicts on a file, is claimed again, and its agent reports. -/
def reclaimedOps : List Operation :=
  [.create ⟨none, "Docs", "", none, .human, false, none⟩,
    .createTask 1 "Guide" "" "written" [] none false,
    .claim 3 "agent" none 60, .report 3 "agent" 1 0 [],
    .recordRebaseOutcome 3 (.conflict ["src/main.rs"] none),
    .claim 3 "agent" none 60, .report 3 "agent" 2 0 []]

set_option maxRecDepth 100000 in
/-- The Task is in Review, and its last conflict on the file was reported on. -/
lemma after_reclaimed :
    let := asciiTables
    let σ := Run.after (bounceStep 3)
      (Board.new Schema.default (fun _ _ => 0) fun _ => true, .empty) reclaimedOps
    (σ.1.state.items[3]?.map WorkItem.state) = some .review ∧ σ.2 = ⟨["src/main.rs"], true⟩ := by
  decide +kernel

set_option maxRecDepth 100000 in
/-- The file conflicts again, and the question is not asked. -/
theorem not_escalatesRepeats_reclaimed :
    let := asciiTables
    ¬Run.Meets (bounceStep 3) (fun σ op => EscalatesRepeats 3 σ.1 σ.2 op)
      (Board.new Schema.default (fun _ _ => 0) fun _ => true, .empty)
        (reclaimedOps ++ [.recordRebaseOutcome 3 (.conflict ["src/main.rs"] none)]) :=
  @not_escalatesRepeats_of_reported asciiTables _ _ _ _ _ _ _ _ after_reclaimed.1
    after_reclaimed.2 rfl (by decide +kernel)

end Sandboard

import Sandboard.Store.Shaping

/-!
# Every method is structural

Each critical section of each method reshapes the board by the structural steps only: every
edit that a method makes leaves the frame of the card alone.  So well-formedness and legal
histories hold after every section of every interleaving, and in particular after every run.
-/

namespace Sandboard

open BoardState

/-- Every critical section of the method is structural. -/
abbrev Structural {ε α : Type} (m : Method ε α) : Prop := Within Reshaped m

lemma reshaped_lax : Lax Reshaped where
  aside hitems hnext hchildren hstates :=
    Relation.ReflTransGen.single (.aside hitems hnext hchildren hstates)

/-- The edit leaves the frame of every card alone. -/
def KeepsFrame (f : WorkItem → WorkItem) : Prop :=
  ∀ i, WorkItem.SameFrame i (f i)

lemma reshaped_covers : Covers (fun _ f => KeepsFrame f) Reshaped where
  toLax := reshaped_lax
  trans := Reshaped.trans
  edit _ hf := .edit _ hf
  move s now reason _ := .tryMove s now _ _ _ reason
  insert schema now c s := .insertNew schema now c s
  propose _ _ _ := ⟨rfl, rfl, rfl, rfl, fun h => h⟩
  settle _ _ _ _ := ⟨rfl, rfl, rfl, rfl, fun h => h⟩
  link _ _ _ := ⟨rfl, rfl, rfl, rfl, fun h => h⟩
  unplan _ _ := ⟨rfl, rfl, rfl, rfl, fun _ => rfl⟩

namespace Board

variable {ε : Type}

lemma reshaped_deleteSection (id : ItemId) (s : BoardState) :
    Reshaped s (deleteSection id s).2 := by
  unfold deleteSection
  split
  · exact .refl s
  · exact (Reshaped.removeAll _ s).trans
      (Relation.ReflTransGen.single (.editAll _ fun _ => ⟨rfl, rfl, rfl, rfl, fun h => h⟩))

/-- Changing the intent rewrites the summary of a plan, but makes none. -/
lemma sameFrame_updated (title intent definitionOfDone engine projectPrompt : Option String)
    (i : WorkItem) :
    WorkItem.SameFrame i (updated title intent definitionOfDone engine projectPrompt i) := by
  refine ⟨rfl, rfl, rfl, rfl, fun h => ?_⟩
  simp only [updated, h]
  split
  · split <;> rfl
  · rfl

lemma sameFrame_notedPark (reason : Option String) (now : Time) (i : WorkItem) :
    WorkItem.SameFrame i (notedPark reason now i) := by
  cases reason with
  | none => exact .refl i
  | some r => exact ⟨rfl, rfl, rfl, rfl, fun h => h⟩

/-! ## Methods -/

lemma structural_editQuietly {id : ItemId} {f : Time → WorkItem → WorkItem}
    (hf : ∀ now, KeepsFrame (f now)) : Structural (editQuietly id f : Method ε Unit) :=
  shaped_editQuietly reshaped_covers.toShapes hf

lemma structural_story (near : ItemId) (text : String) :
    Structural (story near text : Method ε Unit) :=
  within_story reshaped_lax near text

lemma structural_getOr (id : ItemId) (e : ε) : Structural (getOr id e) :=
  within_getOr reshaped_lax id e

lemma structural_read {α : Type} (f : BoardState → α) : Structural (read f : Method ε α) :=
  within_read reshaped_lax f

lemma structural_setProposal (id : ItemId) (proposal : TaskProposal) :
    Structural (setProposal id proposal) :=
  shaped_setProposal reshaped_covers.toShapes (reshaped_covers.propose id proposal)

lemma structural_steer (id : ItemId) (text : String) : Structural (steer id text) :=
  shaped_editOr reshaped_covers.toShapes fun _ _ => ⟨rfl, rfl, rfl, rfl, fun h => h⟩

lemma structural_unpark (id : ItemId) : Structural (unpark id) :=
  shaped_unpark reshaped_covers.toShapes (fun _ => ⟨rfl, rfl, rfl, rfl, fun h => h⟩)
    fun _ => ⟨rfl, rfl, rfl, rfl, fun h => h⟩

lemma structural_subtreeWalk (fuel : ℕ) (stack order : List ItemId) :
    Structural (subtreeWalk fuel stack order : Method ε _) :=
  within_subtreeWalk reshaped_lax fuel stack order

section Unicode

variable [UnicodeTables]

lemma structural_materializeProposal (id : ItemId) (byWhom : String) (origin : Origin) :
    Structural (materializeProposal id byWhom origin) :=
  (covered_materializeProposal reshaped_covers.admits id byWhom origin).within

lemma structural_transition (id : ItemId) (target : State) (byWhom : String)
    (reason : Option String) : Structural (transition id target byWhom reason) :=
  (covered_transition reshaped_covers.admits id target byWhom reason).within

lemma structural_healEpic (healed : ℕ) (project : ItemId × State) :
    Structural (healEpic healed project : Method ε ℕ) :=
  (covered_healEpic reshaped_covers.admits healed project).within

lemma structural_park (id : ItemId) (reason : Option String) : Structural (park id reason) :=
  shaped_park reshaped_covers.toShapes trivial sameFrame_notedPark
    fun _ => ⟨rfl, rfl, rfl, rfl, fun h => h⟩

lemma structural_cutWalk (reason : Option String) (fuel : ℕ) (stack touched : List ItemId) :
    Structural (cutWalk reason fuel stack touched : Method ε _) :=
  shaped_cutWalk reshaped_covers.toShapes (fun _ => trivial) fuel stack touched

lemma structural_unarchiveOne (reason : Option String) (touched : List ItemId) (cur : ItemId) :
    Structural (unarchiveOne reason touched cur) :=
  (covered_unarchiveOne reshaped_covers.admits (fun _ _ => ⟨rfl, rfl, rfl, rfl, fun h => h⟩) reason
    touched cur).within

/-! ## Runs -/

omit [UnicodeTables] in
/-- No edit of an operation touches the frame of a card. -/
lemma editsIn_keepsFrame (op : Operation) : op.EditsIn fun _ f => KeepsFrame f := by
  have hasking : ∀ question options recommended now,
      KeepsFrame (WorkItem.asking question options recommended now) :=
    fun _ _ _ _ _ => ⟨rfl, rfl, rfl, rfl, fun h => h⟩
  cases op with
  | createProject => exact fun _ => sameFrame_updated
  | updateItem => exact sameFrame_updated _ _ _ _ _
  | setAutoDispatch =>
    exact ⟨fun _ => ⟨rfl, rfl, rfl, rfl, fun h => h⟩, fun _ _ => ⟨rfl, rfl, rfl, rfl, fun h => h⟩,
      fun _ _ => ⟨rfl, rfl, rfl, rfl, fun h => h⟩⟩
  | escalate => exact hasking _ _ _
  | proposeSplit => exact hasking
  | recordRunFailure => exact ⟨fun _ => ⟨rfl, rfl, rfl, rfl, fun h => h⟩, hasking⟩
  | answerEscalation =>
    exact ⟨fun _ _ => ⟨rfl, rfl, rfl, rfl, fun h => h⟩, fun _ _ => ⟨rfl, rfl, rfl, rfl, fun h => h⟩⟩
  | park => exact ⟨sameFrame_notedPark, fun _ => ⟨rfl, rfl, rfl, rfl, fun h => h⟩⟩
  | unpark =>
    exact ⟨fun _ => ⟨rfl, rfl, rfl, rfl, fun h => h⟩, fun _ => ⟨rfl, rfl, rfl, rfl, fun h => h⟩⟩
  | requestChanges =>
    exact ⟨fun _ _ _ => ⟨rfl, rfl, rfl, rfl, fun h => h⟩, fun _ => ⟨rfl, rfl, rfl, rfl, fun h => h⟩⟩
  | notifyMainAdvanced =>
    exact ⟨fun _ _ _ _ => ⟨rfl, rfl, rfl, rfl, fun h => h⟩, fun _ => sameFrame_notedPark,
      fun _ _ => ⟨rfl, rfl, rfl, rfl, fun h => h⟩, fun _ _ => ⟨rfl, rfl, rfl, rfl, fun h => h⟩,
      fun _ _ => ⟨rfl, rfl, rfl, rfl, fun h => h⟩⟩
  | recordRebaseOutcome =>
    exact ⟨fun _ => ⟨rfl, rfl, rfl, rfl, fun h => h⟩,
      fun _ _ _ _ => ⟨rfl, rfl, rfl, rfl, fun h => h⟩, hasking,
      fun _ => ⟨rfl, rfl, rfl, rfl, fun h => h⟩⟩
  | applyPrReviewFeedback => exact fun _ _ _ _ _ => ⟨rfl, rfl, rfl, rfl, fun h => h⟩
  | heartbeat | claim | reopenForAdoption | reportPullRequest | completeForMergedPr =>
    exact fun _ _ _ => ⟨rfl, rfl, rfl, rfl, fun h => h⟩
  | setProjectSandboxProfile | setPrUrl | releaseWithReason | steer | unarchiveScope
  | autoEnqueueProject | autoEnqueueAll => exact fun _ _ => ⟨rfl, rfl, rfl, rfl, fun h => h⟩
  | clearRunFailures | setEnvironment | setConversationId | setPullRequests | enqueueDispatch
  | clearDispatch | report | halt | dispatchRebase =>
    exact fun _ => ⟨rfl, rfl, rfl, rfl, fun h => h⟩
  | _ => trivial

/-- Every critical section of every operation is structural. -/
theorem structural_method (op : Operation) : Structural op.method :=
  covered_method reshaped_covers reshaped_deleteSection (editsIn_keepsFrame op)

/-- An operation reshapes the board by structural steps. -/
theorem reshaped_exec (b : Board) (op : Operation) : Reshaped b.state (b.exec op).state :=
  (structural_method op).run_state Reshaped.refl (fun _ _ _ => Reshaped.trans) b

/-- So does a run. -/
theorem reshaped_after (b : Board) (ops : List Operation) :
    Reshaped b.state (b.after ops).state :=
  after_invariant (I := fun b' => Reshaped b.state b'.state)
    (fun b' op h => h.trans (reshaped_exec b' op)) (.refl b.state) ops

/-- Every reachable board is well formed. -/
theorem wellFormed_reached (schema : Schema) (clock : ℕ → ℕ → Time) (saveSucceeds : ℕ → Bool)
    (ops : List Operation) : WellFormed (reached schema clock saveSucceeds ops) :=
  WellFormed.empty.reshaped (reshaped_after (Board.new schema clock saveSucceeds) ops)

/-- On every reachable board every history is a legal walk. -/
theorem legalHistories_reached (schema : Schema) (clock : ℕ → ℕ → Time)
    (saveSucceeds : ℕ → Bool) (ops : List Operation) :
    LegalHistories (reached schema clock saveSucceeds ops) :=
  LegalHistories.empty.reshaped (reshaped_after (Board.new schema clock saveSucceeds) ops)

/-- The history of every card on a reachable board is a legal walk from Draft to its state. -/
theorem history_isLegalWalk (schema : Schema) (clock : ℕ → ℕ → Time) (saveSucceeds : ℕ → Bool)
    (ops : List Operation) (k : ItemId) (i : WorkItem)
    (hi : (reached schema clock saveSucceeds ops).items[k]? = some i) : i.IsLegalWalk :=
  (legalHistories_reached schema clock saveSucceeds ops k i hi).isLegalWalk

end Unicode

/-- A run that cuts a Project and restores it. -/
def restoredRun : List Operation :=
  [.create ⟨none, "Docs", "", none, .human, false, none⟩, .cutScope 4 1 none,
    .unarchiveScope 4 1 none]

set_option maxRecDepth 100000 in
/-- The history theorem on a Project that was cut and restored. -/
theorem history_isLegalWalk_of_restored :
    let := asciiTables
    ∃ i, (reached Schema.default (fun _ _ => 0) (fun _ => true) restoredRun).items[1]? = some i ∧
      i.history.length = 2 ∧ i.IsLegalWalk := by
  let := asciiTables
  have hrun : ((reached Schema.default (fun _ _ => 0) (fun _ => true) restoredRun).items[1]?.map
      fun i => i.history.length) = some 2 := by decide
  obtain ⟨i, hi, hlength⟩ := Option.map_eq_some_iff.1 hrun
  exact ⟨i, hi, hlength, history_isLegalWalk _ _ _ _ 1 i hi⟩

end Board

end Sandboard

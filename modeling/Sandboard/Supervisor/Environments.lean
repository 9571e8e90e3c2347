import Sandboard.Store.Nesting
import Sandboard.Store.Runs
import Sandboard.Supervisor.Settling

/-!
# The sandbox of a card

The sandbox of a card is written in one place: when the supervisor chooses it for a run.  Every
other method keeps the sandbox of every card, or takes it away; so does the settling of a run.
-/

namespace Sandboard

open Std BoardState

/-- The edit leaves the id of a card alone, and gives it no sandbox that it did not have. -/
def KeepsEnvironment (f : WorkItem → WorkItem) : Prop :=
  ∀ c, (f c).id = c.id ∧ ((f c).environment = c.environment ∨ (f c).environment = none)

/-- The card `k` of a later board is new and without a sandbox, or it comes from the card before,
with the same sandbox or with none. -/
structure BoardState.KeepsEnvironments (s s' : BoardState) : Prop where
  card : ∀ (k : ItemId) (c' : WorkItem), s'.items[k]? = some c' →
    (c'.id = k ∧ c'.environment = none) ∨
      ∃ c : WorkItem, s.items[k]? = some c ∧ c'.id = c.id ∧
        (c'.environment = c.environment ∨ c'.environment = none)

namespace BoardState.KeepsEnvironments

variable {s s' s'' : BoardState}

lemma of_items (h : s'.items = s.items) : KeepsEnvironments s s' where
  card k c hc := by
    rw [h] at hc
    exact .inr ⟨c, hc, rfl, .inl rfl⟩

lemma refl (s : BoardState) : KeepsEnvironments s s := of_items rfl

lemma trans (h : KeepsEnvironments s s') (h' : KeepsEnvironments s' s'') :
    KeepsEnvironments s s'' where
  card k c'' hc'' := by
    rcases h'.card k c'' hc'' with hnew | ⟨c', hc', hid', henv'⟩
    · exact .inl hnew
    · rcases h.card k c' hc' with ⟨hid, hnone⟩ | ⟨c, hc, hid, henv⟩
      · refine .inl ⟨hid'.trans hid, ?_⟩
        rcases henv' with henv' | henv'
        · exact henv'.trans hnone
        · exact henv'
      · refine .inr ⟨c, hc, hid'.trans hid, ?_⟩
        rcases henv' with henv' | henv'
        · rwa [henv']
        · exact .inr henv'

/-- One card is changed. -/
lemma of_one {id : ItemId} {f : WorkItem → WorkItem} (hf : KeepsEnvironment f)
    (hitems : ∀ k, s'.items[k]? = if k = id then s.items[k]?.map f else s.items[k]?) :
    KeepsEnvironments s s' where
  card k c' hc' := by
    rw [hitems] at hc'
    split at hc'
    · obtain ⟨c, hc, rfl⟩ := Option.map_eq_some_iff.1 hc'
      exact .inr ⟨c, hc, (hf c).1, (hf c).2⟩
    · exact .inr ⟨c', hc', rfl, .inl rfl⟩

/-- A terminal state takes the sandbox away. -/
lemma moved (now : Time) (target : State) (byWhom : String) (reason : Option String) :
    KeepsEnvironment fun c => c.moved now target byWhom reason := by
  refine fun c => ⟨rfl, ?_⟩
  cases hterminal : target.isTerminal with
  | false => exact .inl (by simp [WorkItem.moved, hterminal])
  | true => exact .inr (by simp [WorkItem.moved, hterminal])

lemma delete (id : ItemId) (s : BoardState) :
    KeepsEnvironments s (Board.deleteSection id s).2 where
  card k c' hc' := by
    unfold Board.deleteSection at hc'
    split at hc'
    · exact .inr ⟨c', hc', rfl, .inl rfl⟩
    · rw [ExtTreeMap.getElem?_map, items_removeAll] at hc'
      obtain ⟨c, hc, rfl⟩ := Option.map_eq_some_iff.1 hc'
      split at hc
      · cases hc
      · exact .inr ⟨c, hc, rfl, .inl rfl⟩

lemma covers : Covers (fun _ f => KeepsEnvironment f) KeepsEnvironments where
  aside hitems _ _ _ := of_items hitems
  trans := trans
  edit _ hf := of_one hf fun _ => items_editItem _
  move {id target byWhom} s now reason _ := by
    unfold BoardState.tryMove
    cases hlocked : s.transitionLocked now id target byWhom reason with
    | error e => exact refl s
    | ok r =>
      obtain ⟨item, s₁⟩ := r
      obtain ⟨c, hc, -, rfl, -⟩ := transitionLocked_eq_ok_iff.1 hlocked
      exact of_one (moved now target byWhom reason) fun _ => items_moveItem _ _ _ _ _
  insert schema now n s := by
    refine ⟨fun k c' hc' => ?_⟩
    rw [items_insertNew_ite] at hc'
    split at hc'
    · rename_i hk
      cases hc'
      exact .inl ⟨hk.symm, rfl⟩
    · exact .inr ⟨c', hc', rfl, .inl rfl⟩
  propose _ _ _ := ⟨rfl, .inl rfl⟩
  settle _ _ _ _ := ⟨rfl, .inl rfl⟩
  link _ _ _ := ⟨rfl, .inl rfl⟩
  unplan _ _ := ⟨rfl, .inl rfl⟩

end BoardState.KeepsEnvironments

/-- The operation writes the sandbox of a card. -/
def Operation.housesCard : Operation → Bool
  | setEnvironment .. => true
  | _ => false

lemma keepsEnvironment_notedPark (reason : Option String) (now : Time) :
    KeepsEnvironment (Board.notedPark reason now) := by
  cases reason with
  | none => exact fun _ => ⟨rfl, .inl rfl⟩
  | some r => exact fun _ => ⟨rfl, .inl rfl⟩

/-- The edits of every other operation keep the sandboxes. -/
lemma Operation.editsIn_keepsEnvironment {op : Operation} (h : op.housesCard = false) :
    op.EditsIn fun _ f => KeepsEnvironment f := by
  have hkept : ∀ {f : WorkItem → WorkItem}, (∀ c, (f c).id = c.id) →
      (∀ c, (f c).environment = c.environment) → KeepsEnvironment f :=
    fun hid henv c => ⟨hid c, .inl (henv c)⟩
  have hasking : ∀ question options recommended now,
      KeepsEnvironment (WorkItem.asking question options recommended now) :=
    fun _ _ _ _ => hkept (fun _ => rfl) fun _ => rfl
  cases op with
  | setEnvironment => cases h
  | halt => exact fun _ => ⟨rfl, .inr rfl⟩
  | createProject => exact fun _ _ _ _ _ _ => hkept (fun _ => rfl) fun _ => rfl
  | heartbeat | claim | reopenForAdoption | reportPullRequest | completeForMergedPr =>
    exact fun _ _ => hkept (fun _ => rfl) fun _ => rfl
  | setProjectSandboxProfile | setPrUrl | releaseWithReason | unarchiveScope
  | autoEnqueueProject | autoEnqueueAll | steer =>
    exact fun _ => hkept (fun _ => rfl) fun _ => rfl
  | clearRunFailures | updateItem | setConversationId | setPullRequests | enqueueDispatch
  | clearDispatch | report | dispatchRebase =>
    exact hkept (fun _ => rfl) fun _ => rfl
  | setAutoDispatch =>
    exact ⟨hkept (fun _ => rfl) fun _ => rfl, fun _ => hkept (fun _ => rfl) fun _ => rfl,
      fun _ => hkept (fun _ => rfl) fun _ => rfl⟩
  | escalate => exact hasking _ _ _
  | proposeSplit => exact hasking
  | recordRunFailure => exact ⟨hkept (fun _ => rfl) fun _ => rfl, hasking⟩
  | answerEscalation =>
    exact ⟨fun _ => hkept (fun _ => rfl) fun _ => rfl, fun _ => hkept (fun _ => rfl) fun _ => rfl⟩
  | park => exact ⟨keepsEnvironment_notedPark, hkept (fun _ => rfl) fun _ => rfl⟩
  | unpark => exact ⟨hkept (fun _ => rfl) fun _ => rfl, hkept (fun _ => rfl) fun _ => rfl⟩
  | requestChanges =>
    exact ⟨fun _ _ => hkept (fun _ => rfl) fun _ => rfl, hkept (fun _ => rfl) fun _ => rfl⟩
  | notifyMainAdvanced =>
    exact ⟨fun _ _ _ => hkept (fun _ => rfl) fun _ => rfl, fun _ => keepsEnvironment_notedPark,
      fun _ => hkept (fun _ => rfl) fun _ => rfl, fun _ => hkept (fun _ => rfl) fun _ => rfl,
      fun _ => hkept (fun _ => rfl) fun _ => rfl⟩
  | recordRebaseOutcome =>
    exact ⟨hkept (fun _ => rfl) fun _ => rfl, fun _ _ _ => hkept (fun _ => rfl) fun _ => rfl,
      hasking, hkept (fun _ => rfl) fun _ => rfl⟩
  | applyPrReviewFeedback => exact fun _ _ _ _ => hkept (fun _ => rfl) fun _ => rfl
  | _ => trivial

namespace Supervisor

/-- The settling of a run keeps the sandboxes. -/
lemma keepsEnvironments_finish [UnicodeTables] (w : Answers) (id : ItemId)
    (agentId branch : String) (run : Output) (b : Board) :
    KeepsEnvironments b.state ((finish w id agentId branch run).run b).2.state := by
  have hS := KeepsEnvironments.covers.toShapes
  refine (shaped_finish hS ?_ run).run_state hS.refl (fun _ _ _ => hS.trans) b
  exact ⟨fun _ _ _ _ _ => ⟨rfl, .inl rfl⟩, fun _ _ => ⟨rfl, .inl rfl⟩,
    fun _ _ _ => ⟨rfl, .inl rfl⟩, fun _ _ => ⟨rfl, .inl rfl⟩, fun _ _ _ _ => ⟨rfl, .inl rfl⟩,
    fun _ _ => ⟨rfl, .inl rfl⟩⟩

end Supervisor

namespace Board

variable [UnicodeTables]

/-- Every operation but the one that writes a sandbox keeps the sandboxes. -/
theorem keepsEnvironments_exec {op : Operation} (h : op.housesCard = false) (b : Board) :
    KeepsEnvironments b.state (b.exec op).state :=
  covered_exec KeepsEnvironments.covers KeepsEnvironments.delete
    (Operation.editsIn_keepsEnvironment h) b

end Board

end Sandboard

import Sandboard.Store.Indexes
import Sandboard.Store.Refusals

/-!
# What a claim grants

`claim` refuses a parked card, and the check of its transition refuses everything but an
unblocked Backlog card without live children.  That the card is a Task and has a definition of
done is asked where cards are queued, and not again by `claim`.
-/

namespace Sandboard

open BoardState

namespace BoardState

/-- The card `id` is one that may be claimed: an unparked Backlog Task with a definition of
done, whose children are all Retired and whose blockers are all Done or Retired. -/
structure Eligible (s : BoardState) (id : ItemId) (c : WorkItem) : Prop where
  item : s.items[id]? = some c
  backlog : c.state = .backlog
  unparked : c.parked = false
  task : c.level ≠ some "Project"
  leaf : ∀ (k : ItemId) (child : WorkItem), s.items[k]? = some child → child.parent = some id →
    child.state = .retired
  definitionOfDone : c.definitionOfDone.isSome = true
  unblocked : ∀ bid ∈ c.blockedBy, ∀ blocker : WorkItem, s.items[bid]? = some blocker →
    blocker.state = .done ∨ blocker.state = .retired

/-- What `claim` itself asks of a card. -/
def PassesClaim (s : BoardState) (id : ItemId) (c : WorkItem) : Prop :=
  s.items[id]? = some c ∧ c.parked = false ∧ s.checkMove id c .claimed = .ok ()

variable {s : BoardState} {id : ItemId} {c : WorkItem}

/-- No open blocker means that every blocker on the board is Done or Retired. -/
lemma unresolvedBlockers_eq_nil_iff :
    s.unresolvedBlockers c = [] ↔ ∀ bid ∈ c.blockedBy, ∀ blocker : WorkItem,
      s.items[bid]? = some blocker → blocker.state = .done ∨ blocker.state = .retired := by
  unfold unresolvedBlockers
  rw [List.filter_eq_nil_iff]
  refine forall₂_congr fun bid _ => ?_
  unfold isUnresolved
  cases s.items[bid]? with
  | none => simp
  | some blocker => simp [← State.isTerminal_iff]

/-- On a well-formed board a card without live children has only Retired children. -/
lemma WellFormed.hasChildren_eq_false_iff (h : WellFormed s) :
    s.hasChildren id = false ↔ ∀ (k : ItemId) (child : WorkItem), s.items[k]? = some child →
      child.parent = some id → child.state = .retired := by
  rw [h.hasChildren_eq, ← Bool.not_eq_true, scanHasChildren, List.any_eq_true]
  constructor
  · intro hno k child hchild hparent
    by_contra hstate
    exact hno ⟨child, mem_cards.2 ⟨k, hchild⟩, by simp [hparent, hstate]⟩
  · rintro hall ⟨child, hmem, hlive⟩
    obtain ⟨k, hchild⟩ := mem_cards.1 hmem
    simp only [Bool.and_eq_true, beq_iff_eq, bne_iff_ne] at hlive
    exact hlive.2 (hall k child hchild hlive.1)

/-- A card that passes the checks of `claim` is eligible exactly when it is not labelled a
Project and has a definition of done. -/
lemma WellFormed.eligible_iff (h : WellFormed s) (hc : s.PassesClaim id c) :
    s.Eligible id c ↔ c.level ≠ some "Project" ∧ c.definitionOfDone.isSome = true := by
  obtain ⟨hitem, hparked, hcheck⟩ := hc
  obtain ⟨hbacklog, hleaf, hblockers⟩ := check_claimed_iff.1 hcheck
  constructor
  · intro he
    exact ⟨he.task, he.definitionOfDone⟩
  · rintro ⟨htask, hdod⟩
    exact ⟨hitem, hbacklog, hparked, htask, h.hasChildren_eq_false_iff.1 hleaf, hdod,
      unresolvedBlockers_eq_nil_iff.1 hblockers⟩

end BoardState

namespace Board

variable {s : BoardState} {b : Board} {id : ItemId} {c : WorkItem}

/-- On a card that passes the checks, the section of `claim` moves it and grants the run. -/
lemma claimSection_of_passes (hc : s.PassesClaim id c) (agentId : String) (model : Option String)
    (granted deadline now : Time) :
    claimSection id agentId model granted deadline now s =
      (.ok ((c.moved now .claimed agentId none).granted agentId granted deadline model),
        (s.moveItem id c now .claimed agentId none).editItem id
          (WorkItem.granted agentId granted deadline model)) := by
  obtain ⟨hitem, hparked, hcheck⟩ := hc
  have hmoved : (s.moveItem id c now .claimed agentId none).items[id]? =
      some (c.moved now .claimed agentId none) := by
    rw [items_moveItem, if_pos rfl, hitem, Option.map_some]
  simp [claimSection, hitem, hparked, transitionLocked_of_ok hitem hcheck, tryEdit_some hmoved]

/-- On any other card it changes nothing. -/
lemma claimSection_of_not_passes (hc : ∀ c, ¬s.PassesClaim id c) (agentId : String)
    (model : Option String) (granted deadline now : Time) :
    ∃ e, claimSection id agentId model granted deadline now s = (.error e, s) := by
  cases hitem : s.items[id]? with
  | none => exact ⟨_, by simp [claimSection, hitem, transitionLocked_of_none hitem]; rfl⟩
  | some c =>
    cases hparked : c.parked with
    | true => exact ⟨_, by simp [claimSection, hitem, hparked]; rfl⟩
    | false =>
      cases hcheck : s.checkMove id c .claimed with
      | ok u => exact absurd ⟨hitem, hparked, hcheck⟩ (hc c)
      | error e =>
        refine ⟨e, ?_⟩
        simp [claimSection, hitem, hparked, transitionLocked_of_error hitem hcheck]

lemma run_projectOf {ε : Type} (item : WorkItem) (b : Board) :
    ∃ project, (projectOf item : Method ε _).run b = (.ok project, b) := by
  unfold projectOf
  split
  · exact ⟨_, rfl⟩
  · split
    · exact ⟨_, rfl⟩
    · exact ⟨_, rfl⟩

section Unicode

variable [UnicodeTables]

/-- The briefing of a claim never fails, and changes nothing. -/
lemma run_claimPlanContext (id : ItemId) (item : WorkItem) (deadline : Time) (b : Board) :
    ∃ grant, (claimPlanContext id item deadline : Method TransitionError ClaimGrant).run b =
      (.ok grant, b) := by
  obtain ⟨project, hproject⟩ : ∃ project,
      (projectOf item : Method TransitionError _).run b = (.ok project, b) := run_projectOf item b
  unfold claimPlanContext
  rw [Locked.run_bind, hproject, Locked.andThen_ok]
  cases project with
  | none => exact ⟨_, rfl⟩
  | some project =>
    dsimp only
    rw [Locked.run_bind, run_read, Locked.andThen_ok]
    split
    · exact ⟨_, rfl⟩
    · exact ⟨_, rfl⟩

/-- The deadline of a run granted now. -/
def deadlineAt (b : Board) (timeoutSecs : ℤ) : Time :=
  b.now 0 + seconds (max timeoutSecs 1)

/-- A claim of a card that passes the checks grants the run. -/
lemma run_claim_of_passes (hc : b.state.PassesClaim id c) (agentId : String)
    (model : Option String) (timeoutSecs : ℤ) :
    ∃ grant b', (claim id agentId model timeoutSecs).run b = (.ok grant, b') ∧
      b'.state = (b.state.moveItem id c ((b.stepped b.state).now 0) .claimed agentId none).editItem
        id (WorkItem.granted agentId (b.now 0) (b.deadlineAt timeoutSecs) model) := by
  have hsection := claimSection_of_passes hc agentId model (b.now 0) (b.deadlineAt timeoutSecs)
    ((b.stepped b.state).now 0)
  unfold deadlineAt at hsection
  unfold claim
  simp only [Locked.run_bind, run_utcNow, Locked.andThen_ok, run_write, stepped_state, hsection,
    run_emit]
  obtain ⟨grant, hgrant⟩ := run_claimPlanContext id _ _ _
  rw [hgrant]
  exact ⟨grant, _, rfl, rfl⟩

/-- A claim of any other card fails and changes nothing. -/
lemma run_claim_of_not_passes (hc : ∀ c, ¬b.state.PassesClaim id c) (agentId : String)
    (model : Option String) (timeoutSecs : ℤ) :
    ∃ e b', (claim id agentId model timeoutSecs).run b = (.error e, b') ∧
      b'.state = b.state := by
  obtain ⟨e, hsection⟩ := claimSection_of_not_passes hc agentId model (b.now 0)
    (b.now 0 + seconds (max timeoutSecs 1)) ((b.stepped b.state).now 0)
  unfold claim
  simp only [Locked.run_bind, run_utcNow, Locked.andThen_ok, run_write, stepped_state, hsection,
    Locked.andThen_error]
  exact ⟨e, _, rfl, rfl⟩

/-- A claim succeeds exactly on a card that passes its checks. -/
lemma failure_claim_eq_none_iff {agentId : String} {model : Option String} {timeoutSecs : ℤ} :
    failure (claim id agentId model timeoutSecs) b = none ↔ ∃ c, b.state.PassesClaim id c := by
  constructor
  · intro hclaim
    by_contra hno
    push Not at hno
    obtain ⟨e, b', hrun, -⟩ := run_claim_of_not_passes hno agentId model timeoutSecs
    simp [failure, hrun] at hclaim
  · rintro ⟨c, hc⟩
    obtain ⟨grant, b', hrun, -⟩ := run_claim_of_passes hc agentId model timeoutSecs
    simp [failure, hrun]

end Unicode

/-- A run that brings a Project to Backlog and then cuts its Tasks. -/
def emptiedProjectRun : List Operation :=
  [.create ⟨none, "Docs", "", none, .human, false, none⟩, .transition 1 .shaping "human" none,
    .transition 1 .backlog "human" none, .cutScope 4 2 none]

end Board

end Sandboard

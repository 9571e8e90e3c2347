import Sandboard.Store.Planning
import Sandboard.Store.Simulation

/-!
# Approvals

A card reaches Done by a transition, by the approval of its Review or of its plan, or when its
last pull request merges; and the proposal of a card that is Done already may be materialized
once more.  Whichever of these is called, the card is worked on, and its proposal may become
Tasks (`Approval`).
-/

namespace Sandboard

open Std Text BoardState

/-- The card has a proposal that becomes Tasks of the Project `projectId` when it is Done. -/
structure WorkItem.Awaits (c : WorkItem) (p : TaskProposal) (projectId : ItemId) : Prop where
  proposal : c.proposal = some p
  parent : c.parent = some projectId
  /-- Some row has no Task yet. -/
  unstamped : ∃ t ∈ p.tasks, t.itemId = none

lemma WorkItem.Awaits.rows {c : WorkItem} {p : TaskProposal} {projectId : ItemId}
    (h : c.Awaits p projectId) : p.tasks ≠ [] := by
  obtain ⟨t, ht, -⟩ := h.unstamped
  exact List.ne_nil_of_mem ht

section Unicode

variable [UnicodeTables]

namespace Board

variable {b : Board} {id projectId : ItemId} {c : WorkItem} {p : TaskProposal}

/-! ## The hook on Done -/

omit [UnicodeTables] in
/-- No Project has a legacy plan to drop. -/
lemma run_dropPlan (hplan : b.state.Unplanned) (o : Option ItemId) :
    ∃ b', (Locked.onSome o fun projectId =>
      editIf projectId (fun p => p.plan.isSome) WorkItem.unplanned : Method String Unit).run b =
        (.ok (), b') ∧ b'.state = b.state := by
  cases o with
  | none => exact ⟨b, rfl, rfl⟩
  | some projectId =>
    rw [Locked.onSome_some]
    cases hc : b.state.items[projectId]? with
    | none => exact ⟨_, run_editIf_none hc _ _, rfl⟩
    | some c =>
      have hnone : c.plan.isSome = false := by rw [hplan projectId c hc]; rfl
      exact ⟨_, run_editIf_declined hc hnone _, rfl⟩

/-- A proposal that waits for its Tasks gets them. -/
lemma run_materializeProposalOnDone_awaits (hs : b.state.Sound) (hn : b.state.Nested)
    (hc : b.state.items[id]? = some c) (h : c.Awaits p projectId) (byWhom : String) :
    ∃ n b' ids s', (materializeProposalOnDone id byWhom).run b = (.ok n, b') ∧
      Materializes id c p projectId byWhom (proposalOrigin c id) ids b.state s' ∧
        SameCards s' b'.state := by
  have htakes : checkParent b.state (some projectId) = .ok () := by
    have := hn id c hc (by rw [h.parent]; rfl)
    rwa [h.parent] at this
  obtain ⟨made, ids, b₁, hmade, -, hmat⟩ := run_materializeProposal hs.wellFormed hc h.proposal
    h.rows h.parent htakes byWhom (proposalOrigin c id)
  have hplan : b₁.state.Unplanned := by
    have hreshaped := (structural_materializeProposal id byWhom (proposalOrigin c id)).run_state
      Reshaped.refl (fun _ _ _ => Reshaped.trans) b
    rw [hmade] at hreshaped
    exact hs.unplanned.reshaped hreshaped
  obtain ⟨b₂, hdrop, hstate⟩ := run_dropPlan hplan (c.parent.filter fun _ => c.isInitialPlanTask)
  let text := s!"{c.title} — {made.length} Tasks created from proposal."
  refine ⟨made.length, b₂.told id text, ids, b₁.state, ?_, hmat, by rw [← hstate]; exact .told _ _ _⟩
  have hrows : ¬(!(b.state.populateBlockers c).hasProposal) = true := by
    change ¬(!c.hasProposal) = true
    simp [WorkItem.hasProposal, h.proposal, h.rows]
  have hunstamped : ¬((b.state.populateBlockers c).proposal.any fun p =>
      p.tasks.all fun t => t.itemId.isSome) = true := by
    change ¬(c.proposal.any _) = true
    obtain ⟨t, ht, hnone⟩ := h.unstamped
    simp only [h.proposal, Option.any_some, List.all_eq_true, not_forall]
    exact ⟨t, ht, by simp [hnone]⟩
  unfold materializeProposalOnDone
  rw [Locked.run_bind_ok (run_get id b), hc, Option.map_some]
  dsimp only
  rw [if_neg hrows, if_neg hunstamped]
  refine (Locked.run_bind_ok hmade _).trans ((Locked.run_bind_ok hdrop _).trans ?_)
  rfl

/-- A card without a proposal that waits makes nothing. -/
lemma run_materializeProposalOnDone_idle (hc : b.state.items[id]? = some c)
    (h : ∀ p projectId, ¬c.Awaits p projectId) (byWhom : String) :
    ((materializeProposalOnDone id byWhom).run b).2 = b := by
  cases hparent : c.parent with
  | none => exact run_materializeProposalOnDone_root hc hparent byWhom
  | some projectId =>
    have hproposal : (b.state.populateBlockers c).proposal = c.proposal := rfl
    have hhas : (b.state.populateBlockers c).hasProposal = c.hasProposal := rfl
    unfold materializeProposalOnDone
    rw [Locked.run_bind_ok (run_get id b), hc, Option.map_some]
    dsimp only
    rw [hproposal, hhas]
    split
    · rfl
    · split
      · rfl
      · rename_i hrows hunstamped
        -- Rows that wait would wait for this Project.
        cases hp : c.proposal with
        | none => simp [WorkItem.hasProposal, hp] at hrows
        | some p =>
          refine absurd ⟨hp, hparent, ?_⟩ (h p projectId)
          simpa [hp] using hunstamped

/-! ## Transitions to Done -/

/-- A card that may be Done is moved, and its proposal becomes Tasks when it waits for them. -/
lemma run_transition_done (hs : b.state.Sound) (hn : b.state.Nested)
    (hc : b.state.items[id]? = some c) (hcheck : b.state.checkMove id c .done = .ok ())
    (byWhom : String) (reason : Option String) :
    let c₀ := c.moved (b.now 0) .done byWhom reason
    let s₀ := b.state.moveItem id c (b.now 0) .done byWhom reason
    ∃ item b', (transition id .done byWhom reason).run b = (.ok item, b') ∧
      (((∀ p projectId, ¬c₀.Awaits p projectId) ∧ SameCards s₀ b'.state) ∨
        ∃ p projectId ids s₁, c₀.Awaits p projectId ∧
          Materializes id c₀ p projectId byWhom (proposalOrigin c₀ id) ids s₀ s₁ ∧
            SameCards s₁ b'.state) := by
  intro c₀ s₀
  let b₁ := (b.stepped s₀).emitted (s₀.populateBlockers c₀)
  have hc₁ : b₁.state.items[id]? = some c₀ := by
    simp [b₁, s₀, c₀, items_moveItem, hc]
  have hs₁ : b₁.state.Sound :=
    hs.reshaped (.single (.move (b.now 0) byWhom reason hc hcheck))
  have hn₁ : b₁.state.Nested := hn.of_place (place_editItem fun _ => ⟨rfl, rfl⟩)
  obtain ⟨b₂, hrun, hitems, hnext⟩ := run_announceUnblocked (ε := TransitionError) id
    ((materializeProposalOnDone id byWhom).run b₁).2
  have hsame : SameCards ((materializeProposalOnDone id byWhom).run b₁).2.state b₂.state :=
    ⟨hitems, hnext⟩
  obtain ⟨item, hitem⟩ : ∃ item, (transition id .done byWhom reason).run b = (.ok item, b₂) := by
    simp [transition, transitionWith, tryMove_allowed hc hcheck, Locked.run_when, hrun, b₁, s₀, c₀]
  refine ⟨item, b₂, hitem, ?_⟩
  by_cases hawaits : ∃ p projectId, c₀.Awaits p projectId
  · obtain ⟨p, projectId, hp⟩ := hawaits
    obtain ⟨n, b', ids, s₁, hhook, hmat, hsame'⟩ :=
      run_materializeProposalOnDone_awaits hs₁ hn₁ hc₁ hp byWhom
    rw [hhook] at hsame
    exact Or.inr ⟨p, projectId, ids, s₁, hp, hmat, hsame'.trans hsame⟩
  · rw [run_materializeProposalOnDone_idle hc₁ (fun p q h => hawaits ⟨p, q, h⟩) byWhom] at hsame
    exact Or.inl ⟨fun p q h => hawaits ⟨p, q, h⟩, hsame⟩

omit [UnicodeTables] in
/-- Work on a card makes it wait for no Tasks. -/
lemma awaits_of_worked {L : Licence} {s s' : BoardState} {c' : WorkItem}
    (hworked : Worked L id s c s' c') (h : c'.Awaits p projectId) : c.Awaits p projectId :=
  ⟨hworked.proposal h.proposal, hworked.parent.symm.trans h.parent, h.unstamped⟩

/-- A transition that takes no waiting card to Done only moves its card. -/
lemma run_transition_idle (hs : b.state.Sound) (hn : b.state.Nested) (id : ItemId)
    (target : State) (byWhom : String) (reason : Option String)
    (hidle : ∀ c, b.state.items[id]? = some c → target = .done →
      ∀ p projectId, ¬c.Awaits p projectId) :
    SameCards b.state ((transition id target byWhom reason).run b).2.state ∨
      ∃ c, b.state.items[id]? = some c ∧ b.state.checkMove id c target = .ok () ∧
        SameCards (b.state.moveItem id c (b.now 0) target byWhom reason)
          ((transition id target byWhom reason).run b).2.state := by
  cases hc : b.state.items[id]? with
  | none =>
    rw [run_transition_missing target hc]
    exact Or.inl (.refl _)
  | some c =>
    by_cases hcheck : b.state.checkMove id c target = .ok ()
    · refine Or.inr ⟨c, rfl, hcheck, ?_⟩
      by_cases hdone : target = .done
      · subst hdone
        obtain ⟨item, b', hrun, ⟨-, hsame⟩ | ⟨p, projectId, ids, s₁, hp, -, -⟩⟩ :=
          run_transition_done hs hn hc hcheck byWhom reason
        · rw [hrun]
          exact hsame
        · exact absurd ⟨hp.proposal, hp.parent, hp.unstamped⟩ (hidle c hc rfl p projectId)
      · rw [run_transition_ok hdone (transitionLocked_of_ok hc hcheck _ byWhom reason)]
        exact .refl _
    · obtain ⟨e, hrun⟩ := run_transition_refused hc hcheck byWhom reason
      rw [hrun]
      exact Or.inl (.refl _)

/-! ## What an approval does -/

end Board

/-- What the approval of the card `id` makes of the board `s`.  An approval is either the first
one of a proposal, or done `again`. -/
inductive Approval (id : ItemId) (again : Prop) (s s' : BoardState) : Prop where
  /-- It is refused. -/
  | refused (hsame : SameCards s s')
  /-- It works on the card, and makes no Tasks. -/
  | idle {c c₀ : WorkItem} {s₀ : BoardState} (hc : s.items[id]? = some c)
      (hworked : Worked Licence.free id s c s₀ c₀) (hsame : SameCards s₀ s')
      (hidle : c₀.state = .done → c.state ≠ .done → ∀ p projectId, ¬c.Awaits p projectId)
  /-- It works on the card, which is Done then, and its proposal becomes Tasks. -/
  | made {c c₀ : WorkItem} {s₀ s₁ : BoardState} {p : TaskProposal} {projectId : ItemId}
      {byWhom : String} {ids : List ItemId} (hc : s.items[id]? = some c)
      (hworked : Worked Licence.free id s c s₀ c₀) (hdone : c₀.state = .done)
      (hproposal : c₀.proposal = some p) (hparent : c₀.parent = some projectId)
      (hwaits : again ∨ ∃ t ∈ p.tasks, t.itemId = none)
      (hmade : Board.Materializes id c₀ p projectId byWhom (Board.proposalOrigin c₀ id) ids s₀ s₁)
      (hsame : SameCards s₁ s')

/-- The ways to approve the card `id`. -/
inductive Approves (s : BoardState) (id : ItemId) : Operation → Prop where
  | transition (byWhom : String) (reason : Option String) :
    Approves s id (.transition id .done byWhom reason)
  | approveReview (fuel : ℕ) : Approves s id (.approveReview fuel id)
  | approvePlan (fuel : ℕ) {k : ItemId} (hcard : s.planCard k = some id) :
    Approves s id (.approvePlan fuel k)
  | completeForMergedPr (prUrl : String) (prNumber : Option ℕ) (byWhom : String)
      (hcard : Board.liveCardOfPr (normalizePrUrl prUrl) s = some id) :
    Approves s id (.completeForMergedPr prUrl prNumber byWhom)
  | materializePendingProposal : Approves s id (.materializePendingProposal id)

/-- The calls that may approve a card. -/
inductive Approving : Operation → Prop where
  | transition (id : ItemId) (byWhom : String) (reason : Option String) :
    Approving (.transition id .done byWhom reason)
  | approveReview (fuel : ℕ) (id : ItemId) : Approving (.approveReview fuel id)
  | approvePlan (fuel : ℕ) (id : ItemId) : Approving (.approvePlan fuel id)
  | completeForMergedPr (prUrl : String) (prNumber : Option ℕ) (byWhom : String) :
    Approving (.completeForMergedPr prUrl prNumber byWhom)
  | materializePendingProposal (id : ItemId) : Approving (.materializePendingProposal id)

namespace Approval

variable {id : ItemId} {again : Prop} {s s' s'' : BoardState} {c : WorkItem}

/-- Stories do not matter. -/
lemma same (h : Approval id again s s') (hsame : SameCards s' s'') : Approval id again s s'' := by
  cases h with
  | refused h => exact .refused (h.trans hsame)
  | idle hc hworked h hidle => exact .idle hc hworked (h.trans hsame) hidle
  | made hc hworked hdone hproposal hparent hwaits hmade h =>
    exact .made hc hworked hdone hproposal hparent hwaits hmade (h.trans hsame)

/-- The card may be edited first. -/
lemma of_edit {f : WorkItem → WorkItem} (h : Approval id again (s.editItem id f) s')
    (hc : s.items[id]? = some c) (hf : ∀ i, WorkItem.SameTask i (f i))
    (hproposal : (f c).proposal = c.proposal) : Approval id again s s' := by
  have hc' : (s.editItem id f).items[id]? = some (f c) := by
    rw [items_editItem_self, hc, Option.map_some]
  have hstate : (f c).state = c.state := congrArg Contract.state (hf c).contract
  have hedit : Worked Licence.free id s c (s.editItem id f) (f c) := .edit (.refl s c) hf
  cases h with
  | refused h =>
    exact .idle hc hedit h fun hdone hnot => absurd (hstate.symm.trans hdone) hnot
  | @idle c₁ c₀ s₀ hc₁ hworked h hidle =>
    rw [hc', Option.some.injEq] at hc₁
    subst hc₁
    refine .idle hc (hedit.trans hworked) h fun hdone hnot p projectId hp => ?_
    exact hidle hdone (hstate ▸ hnot) p projectId ⟨hproposal.trans hp.proposal,
      (congrArg Contract.parent (hf c).contract).trans hp.parent, hp.unstamped⟩
  | @made c₁ c₀ s₀ s₁ p projectId byWhom ids hc₁ hworked hdone hp hparent hwaits hmade h =>
    rw [hc', Option.some.injEq] at hc₁
    subst hc₁
    exact .made hc (hedit.trans hworked) hdone hp hparent hwaits hmade h

end Approval

namespace Board

variable {b : Board} {id projectId : ItemId} {c : WorkItem} {p : TaskProposal} {again : Prop}

lemma approval_transition (hs : b.state.Sound) (hn : b.state.Nested) (id : ItemId)
    (byWhom : String) (reason : Option String) :
    Approval id again b.state ((transition id .done byWhom reason).run b).2.state := by
  cases hc : b.state.items[id]? with
  | none =>
    rw [run_transition_missing .done hc]
    exact .refused (.refl _)
  | some c =>
    by_cases hcheck : b.state.checkMove id c .done = .ok ()
    · have hworked : Worked Licence.free id b.state c
          (b.state.moveItem id c (b.now 0) .done byWhom reason)
          (c.moved (b.now 0) .done byWhom reason) :=
        .move (.refl _ _) _ byWhom reason hcheck trivial
      obtain ⟨item, b', hrun, hidle | ⟨p, projectId, ids, s₁, hp, hmat, hsame⟩⟩ :=
        run_transition_done hs hn hc hcheck byWhom reason
      · rw [hrun]
        exact .idle hc hworked hidle.2 fun _ _ p projectId hp =>
          hidle.1 p projectId ⟨hp.proposal, hp.parent, hp.unstamped⟩
      · rw [hrun]
        exact .made hc hworked rfl hp.proposal hp.parent (Or.inr hp.unstamped) hmat hsame
    · obtain ⟨e, hrun⟩ := run_transition_refused hc hcheck byWhom reason
      rw [hrun]
      exact .refused (.refl _)

omit [UnicodeTables] in
lemma sameCards_lax : Lax SameCards where
  aside hitems hnext _ _ := ⟨hitems, hnext⟩

omit [UnicodeTables] in
/-- A method that ends without touching a card. -/
lemma sameCards_bind {ε α β : Type} {m : Method ε α} {k : α → Method ε β}
    (hk : ∀ a, Within SameCards (k a)) (b : Board) :
    SameCards (m.run b).2.state ((m >>= k).run b).2.state := by
  rw [Locked.run_bind]
  rcases m.run b with ⟨e | a, b'⟩
  · exact .refl _
  · exact (hk a).run_state .refl (fun _ _ _ => .trans) b'

/-- The board follows from a transition of the card `id` to Done, or no card changed. -/
def FollowsDone (id : ItemId) (b b' : Board) : Prop :=
  SameCards b.state b'.state ∨ ∃ byWhom reason,
    SameCards ((transition id .done byWhom reason).run b).2.state b'.state

lemma FollowsDone.approval {b' : Board} (h : FollowsDone id b b') (hs : b.state.Sound)
    (hn : b.state.Nested) : Approval id again b.state b'.state := by
  rcases h with hsame | ⟨byWhom, reason, hsame⟩
  · exact .refused hsame
  · exact (approval_transition hs hn id byWhom reason).same hsame

/-- A transition to Done, and stories. -/
lemma followsDone_bind {α : Type} {text : String} {k : WorkItem → Method String α}
    (hk : ∀ item, Within SameCards (k item)) (b : Board) :
    FollowsDone id b (((transitionOrMessage id .done "human" text) >>= k).run b).2 := by
  refine Or.inr ⟨"human", some text, ?_⟩
  have hsame := sameCards_bind (m := transitionOrMessage id .done "human" text) hk b
  rwa [transitionOrMessage, Locked.run_mapErr] at hsame

/-- A Review is approved by a transition to Done, unless the card is missing. -/
lemma followsDone_approveReview (hplan : b.state.Unplanned) (fuel : ℕ) (id : ItemId) :
    FollowsDone id b ((approveReview fuel id).run b).2 := by
  have hplain : FollowsDone id b ((approvePlain id).run b).2 :=
    followsDone_bind (fun _ => within_bind (within_story sameCards_lax _ _) fun _ =>
      within_pure _) b
  cases fuel with
  | zero => exact Or.inl (.refl _)
  | succ fuel =>
    rw [approveReview, approveReviewWith]
    cases hc : b.state.items[id]? with
    | none =>
      rw [Locked.run_bind_error (run_getOr_none hc _)]
      exact Or.inl (.refl _)
    | some c =>
      rw [Locked.run_bind_ok (run_getOr_some hc _)]
      split
      · exact followsDone_bind (fun _ => within_bind (within_story sameCards_lax _ _) fun _ =>
          within_pure _) b
      · split
        · exact hplain
        · rename_i parent _
          rw [Locked.run_bind_ok (run_get parent b), plan_of_unplanned hplan]
          exact hplain

/-- A plan is approved as the Review of its card. -/
lemma followsDone_approvePlan (hplan : b.state.Unplanned) (fuel : ℕ) {k : ItemId}
    (hcard : b.state.planCard k = some id) :
    FollowsDone id b ((approvePlan fuel k).run b).2 := by
  unfold approvePlan approvePlanWith
  rcases run_resolveInitialPlanId k b with ⟨e, hrun⟩ | ⟨k', hrun, hcard'⟩
  · rw [Locked.run_bind_error hrun]
    exact Or.inl (.refl _)
  · rw [hcard, Option.some.injEq] at hcard'
    subst hcard'
    rw [Locked.run_bind_ok hrun]
    cases hc : b.state.items[id]? with
    | none =>
      rw [Locked.run_bind_error (run_getOr_none hc _)]
      exact Or.inl (.refl _)
    | some c =>
      rw [Locked.run_bind_ok (run_getOr_some hc _), Locked.run_failIf_bind]
      split
      · exact Or.inl (.refl _)
      · rw [Locked.run_bind_ok (run_adoptLegacyPlan hplan id _), Locked.run_bind_ok
          (run_getOr_some hc _), Locked.run_failIf_bind]
        split
        · exact Or.inl (.refl _)
        · have hend := sameCards_bind (m := approveReview fuel id) (k := fun done => do
              let published := ((done.proposal.map TaskProposal.tasks).getD []).filterMap
                PlanTaskSpec.itemId
              Locked.failIf (published.isEmpty : Prop) "Initial plan reached Done but created no Tasks"
              return published)
            (fun _ => within_bind (within_failIf _ _) fun _ => within_pure _) b
          rcases followsDone_approveReview hplan fuel id with hsame | ⟨byWhom, reason, hsame⟩
          · exact Or.inl (hsame.trans hend)
          · exact Or.inr ⟨byWhom, reason, hsame.trans hend⟩

/-- A merge marks the pull request on the card, and the last one takes the card to Done. -/
lemma approval_completeForMergedPr {ε : Type} (hs : b.state.Sound) (hn : b.state.Nested) (prUrl : String)
    (prNumber : Option ℕ) (byWhom : String)
    (hcard : liveCardOfPr (normalizePrUrl prUrl) b.state = some id) :
    Approval id again b.state
      ((completeForMergedPr prUrl prNumber byWhom : Method ε _).run b).2.state := by
  obtain ⟨c, hfind, hid⟩ := Option.map_eq_some_iff.1 hcard
  have hc : b.state.items[id]? = some c := by
    rw [← hid]
    exact hs.wellFormed.mem_cards_iff.1 (List.mem_of_find?_eq_some hfind)
  have hmerged : ∀ i : WorkItem, WorkItem.SameTask i (i.withPrMerged (normalizePrUrl prUrl)) :=
    fun _ => ⟨rfl, Or.inl rfl, fun h => h⟩
  unfold completeForMergedPr
  dsimp only
  split
  · exact .refused (.refl _)
  · have hread : (read (liveCardOfPr (normalizePrUrl prUrl)) : Method ε _).run b =
        (.ok (some id), b) := by rw [run_read, hcard]
    rw [Locked.run_bind_ok hread]
    dsimp only
    rw [Locked.run_bind_ok (Locked.run_attempt _ b), run_editOr_some hc]
    dsimp only
    refine Approval.of_edit ?_ hc hmerged rfl
    let b₁ := (b.stepped (b.state.editItem id (WorkItem.withPrMerged (normalizePrUrl prUrl)))).emitted
      (c.withPrMerged (normalizePrUrl prUrl))
    have hs₁ : b₁.state.Sound := hs.reshaped (.edit id fun i => (hmerged i).sameFrame)
    have hn₁ : b₁.state.Nested := hn.of_place (place_editItem fun _ => ⟨rfl, rfl⟩)
    split
    · rw [Locked.run_bind_ok (run_get id _), Locked.run_bind_ok (run_story _ _ _)]
      exact .refused (.told b₁ _ _)
    · split
      · exact .refused (.refl _)
      · refine (approval_transition hs₁ hn₁ id (actorOr "github-webhook" byWhom)
          (some (prReason "PR merged" prNumber))).same ?_
        rw [Locked.run_bind_ok (Locked.run_attempt _ _)]
        split
        · rw [Locked.run_bind_ok (run_story _ _ _)]
          exact .told _ _ _
        · exact .refl _

/-- The proposal of a card that is Done is materialized, again perhaps. -/
lemma run_materializePendingProposal (hs : b.state.Sound) (hn : b.state.Nested)
    (hc : b.state.items[id]? = some c) (hdone : c.state = .done) (hp : c.proposal = some p)
    (hrows : p.tasks ≠ []) (hparent : c.parent = some projectId) :
    ∃ ids s', Materializes id c p projectId "operator" (proposalOrigin c id) ids b.state s' ∧
      SameCards s' ((materializePendingProposal id).run b).2.state := by
  have htakes : checkParent b.state (some projectId) = .ok () := by
    have := hn id c hc (by rw [hparent]; rfl)
    rwa [hparent] at this
  obtain ⟨made, ids, b₁, hrun, -, hmat⟩ := run_materializeProposal hs.wellFormed hc hp hrows
    hparent htakes "operator" (proposalOrigin c id)
  have hend := sameCards_bind (m := materializeProposal id "operator" (proposalOrigin c id))
    (k := fun made => do
      Locked.when (!made.isEmpty : Prop)
        (story id s!"{c.title} — {made.length} Tasks created from proposal (heal).")
      return made)
    (fun _ => within_bind (within_when fun _ => within_story sameCards_lax _ _) fun _ =>
      within_pure _) b
  rw [hrun] at hend
  refine ⟨ids, b₁.state, hmat, ?_⟩
  unfold materializePendingProposal
  have hstate : ¬(b.state.populateBlockers c).state ≠ .done := not_not.2 hdone
  rw [Locked.run_bind_ok (run_getOr_some hc _), Locked.run_failIf_bind, if_neg hstate]
  exact hend

/-- The proposal of a card that is Done is materialized, or nothing happens. -/
lemma materializePendingProposal_cases (hs : b.state.Sound) (hn : b.state.Nested) (id : ItemId) :
    SameCards b.state ((materializePendingProposal id).run b).2.state ∨
      ∃ c p projectId ids s', b.state.items[id]? = some c ∧ c.state = .done ∧
        c.proposal = some p ∧ p.tasks ≠ [] ∧ c.parent = some projectId ∧
          Materializes id c p projectId "operator" (proposalOrigin c id) ids b.state s' ∧
            SameCards s' ((materializePendingProposal id).run b).2.state := by
  cases hc : b.state.items[id]? with
  | none =>
    rw [materializePendingProposal, Locked.run_bind_error (run_getOr_none hc _)]
    exact Or.inl (.refl _)
  | some c =>
    by_cases hmakes : c.state = .done ∧
        ∃ p projectId, c.proposal = some p ∧ p.tasks ≠ [] ∧ c.parent = some projectId
    · obtain ⟨hdone, p, projectId, hp, hrows, hparent⟩ := hmakes
      obtain ⟨ids, s', hmat, hsame⟩ :=
        run_materializePendingProposal hs hn hc hdone hp hrows hparent
      exact Or.inr ⟨c, p, projectId, ids, s', rfl, hdone, hp, hrows, hparent, hmat, hsame⟩
    · rw [materializePendingProposal, Locked.run_bind_ok (run_getOr_some hc _),
        Locked.run_failIf_bind]
      split
      · exact Or.inl (.refl _)
      · rename_i hstate
        have hdone : c.state = .done := not_not.1 hstate
        obtain ⟨e, hrun⟩ := run_materializeProposal_refused hc
          (fun p projectId hp hrows hparent =>
            hmakes ⟨hdone, p, projectId, hp, hrows, hparent⟩) "operator"
          (proposalOrigin (b.state.populateBlockers c) id)
        rw [Locked.run_bind_error hrun]
        exact Or.inl (.refl _)

lemma approval_materializePendingProposal (hs : b.state.Sound) (hn : b.state.Nested)
    (id : ItemId) :
    Approval id True b.state ((materializePendingProposal id).run b).2.state := by
  rcases materializePendingProposal_cases hs hn id with
    hsame | ⟨c, p, projectId, ids, s', hc, hdone, hp, -, hparent, hmat, hsame⟩
  · exact .refused hsame
  · exact .made hc (.refl _ _) hdone hp hparent (Or.inl trivial) hmat hsame

/-- Whichever way a card is approved. -/
theorem approval_exec {op : Operation} (hs : b.state.Sound) (hn : b.state.Nested)
    (h : Approves b.state id op) :
    Approval id (op = .materializePendingProposal id) b.state (b.exec op).state := by
  cases h with
  | transition byWhom reason =>
    rw [exec_state (m := Board.transition id .done byWhom reason) rfl]
    exact approval_transition hs hn id byWhom reason
  | approveReview fuel =>
    rw [exec_state (m := Board.approveReview fuel id) rfl]
    exact (followsDone_approveReview hs.unplanned fuel id).approval hs hn
  | @approvePlan fuel k hcard =>
    rw [exec_state (m := Board.approvePlan fuel k) rfl]
    exact (followsDone_approvePlan hs.unplanned fuel hcard).approval hs hn
  | completeForMergedPr prUrl prNumber byWhom hcard =>
    have hmethod : (Operation.completeForMergedPr prUrl prNumber byWhom).method =
        Operation.silent (ε := Empty) (Board.completeForMergedPr prUrl prNumber byWhom) := rfl
    rw [exec_state hmethod]
    exact approval_completeForMergedPr hs hn prUrl prNumber byWhom hcard
  | materializePendingProposal =>
    rw [exec_state (m := Board.materializePendingProposal id) rfl, eq_self]
    exact approval_materializePendingProposal hs hn id

/-- A call that may approve a card approves one, or changes none. -/
lemma approves_or_same {op : Operation} (h : Approving op) (b : Board) :
    (∃ id, Approves b.state id op) ∨ SameCards b.state (b.exec op).state := by
  cases h with
  | transition id byWhom reason => exact Or.inl ⟨id, .transition byWhom reason⟩
  | approveReview fuel id => exact Or.inl ⟨id, .approveReview fuel⟩
  | approvePlan fuel id =>
    cases hcard : b.state.planCard id with
    | some k => exact Or.inl ⟨k, .approvePlan fuel hcard⟩
    | none =>
      refine Or.inr ?_
      rcases run_resolveInitialPlanId id b with ⟨e, hrun⟩ | ⟨k, -, hcard'⟩
      · rw [exec_state (m := Board.approvePlan fuel id) rfl, approvePlan, approvePlanWith,
          Locked.run_bind_error hrun]
        exact .refl _
      · rw [hcard] at hcard'
        cases hcard'
  | completeForMergedPr prUrl prNumber byWhom =>
    cases hcard : liveCardOfPr (normalizePrUrl prUrl) b.state with
    | some k => exact Or.inl ⟨k, .completeForMergedPr prUrl prNumber byWhom hcard⟩
    | none =>
      refine Or.inr ?_
      have hread : (read (liveCardOfPr (normalizePrUrl prUrl)) : Method Empty _).run b =
          (.ok none, b) := by rw [run_read, hcard]
      have hmethod : (Operation.completeForMergedPr prUrl prNumber byWhom).method =
          Operation.silent (ε := Empty) (Board.completeForMergedPr prUrl prNumber byWhom) := rfl
      rw [exec_state hmethod, completeForMergedPr]
      dsimp only
      split
      · exact .refl _
      · rw [Locked.run_bind_ok hread]
        exact .refl _
  | materializePendingProposal id => exact Or.inl ⟨id, .materializePendingProposal⟩

end Board

end Unicode

end Sandboard

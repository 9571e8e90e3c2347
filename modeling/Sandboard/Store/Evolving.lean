import Sandboard.Store.Evolution

/-!
# Every verb is a course of the life of a card

The sections of most verbs are steps of `Lifecycle` whatever the board.  A verb that edits a
card and then moves it is one step only as a whole, and a verb that reads a card and moves it
later relies on being alone on the board.  `Operation.Grants` says which grants a verb needs
where it runs, and `evolves_exec` is the simulation: an operation that runs alone takes every
card through a course of steps under the grants of that operation.
-/

namespace Sandboard

open Std Text

namespace Board

open BoardState

variable {ε ε' α β : Type} {grants : Grant → Prop} {s : BoardState} {b b' : Board}
  {id : ItemId} {c : WorkItem} {f : WorkItem → WorkItem} {target : State}

/-! ## Sections that are steps on any board -/

lemma evolves_lax : Lax (Evolves grants) where
  aside hitems _ _ _ := .of_items hitems

/-- A structural method keeps the board well formed. -/
lemma wellFormed_run {m : Method ε α} (hm : Structural m) (hb : b.state.WellFormed) :
    (m.run b).2.state.WellFormed :=
  hb.reshaped (hm.run_state Reshaped.refl (fun _ _ _ => Reshaped.trans) b)

/-- A run of sections that are steps. -/
lemma Within.evolves {m : Method ε α} (hm : Within (Evolves grants) m) (b : Board) :
    Evolves grants b.state (m.run b).2.state :=
  hm.run_state .refl (fun _ _ _ => .trans) b

/-- What follows a part of a method may go on evolving by sections. -/
lemma evolves_bind {m : Method ε α} {k : α → Method ε β}
    (hm : Evolves grants s (m.run b).2.state) (hk : ∀ a, Within (Evolves grants) (k a)) :
    Evolves grants s ((m >>= k).run b).2.state := by
  rw [Locked.run_bind]
  generalize m.run b = r at hm ⊢
  obtain ⟨a | e, b'⟩ := r
  · exact hm
  · exact hm.trans (Within.evolves (hk _) b')

lemma evolves_when {p : Prop} [Decidable p] {m : Method ε Unit}
    (hm : p → Evolves grants b.state (m.run b).2.state) :
    Evolves grants b.state ((Locked.when p m).run b).2.state := by
  rw [Locked.run_when]
  split
  · rename_i hp
    exact hm hp
  · exact .refl _

lemma evolves_attempt {m : Method ε α} (hm : Evolves grants s (m.run b).2.state) :
    Evolves grants s ((m.attempt : Method ε' _).run b).2.state := by
  rw [Locked.run_attempt]
  exact hm

lemma evolves_tryEdit {e : ε}
    (hf : ∀ c, s.items[id]? = some c → Standing.Step grants c.standing (f c).standing) :
    Evolves grants s (s.tryEdit id e f).2 := by
  unfold BoardState.tryEdit
  split
  · exact .refl s
  · exact .edit hf

lemma evolves_tryMove {byWhom : String} {reason : Option String} {now : Time}
    (hstep : ∀ c, s.items[id]? = some c → s.checkMove id c target = .ok () →
      Standing.Step grants c.standing (c.standing.entered target (byWhom == "human"))) :
    Evolves grants s (s.tryMove now id target byWhom reason).2 := by
  cases hc : s.items[id]? with
  | none =>
    rw [tryMove_missing hc]
    exact .refl s
  | some c =>
    by_cases hcheck : s.checkMove id c target = .ok ()
    · rw [tryMove_allowed hc hcheck]
      exact .move hc (hstep c hc hcheck) _ _
    · obtain ⟨e, hmove⟩ := tryMove_refused hc hcheck now byWhom reason
      rw [hmove]
      exact .refl s

/-- A dispatch that passes its check is of an unparked Backlog card. -/
lemma checkDispatch_ok (h : checkDispatch s id c = .ok ()) :
    c.state = .backlog ∧ c.parked = false := by
  unfold checkDispatch at h
  split at h
  · cases h
  · rename_i hstate
    split at h
    · cases h
    · rename_i hparked
      exact ⟨not_not.1 hstate, by simpa using hparked⟩

lemma evolves_enqueueSection (id : ItemId) (s : BoardState) :
    Evolves grants s (enqueueSection id s).2 := by
  unfold enqueueSection
  split
  · exact .refl s
  · rename_i it hit
    split
    · exact .refl s
    · rename_i hcheck
      refine .edit fun c hc => ?_
      rw [hit, Option.some.injEq] at hc
      obtain ⟨hstate, hparked⟩ := checkDispatch_ok hcheck
      rw [hc] at hstate hparked
      exact .queue hstate hparked

lemma evolves_unparkSection (id : ItemId) (s : BoardState) :
    Evolves grants s (unparkSection id s).2 := by
  unfold unparkSection
  split
  · exact .refl s
  · split
    · exact .refl s
    · split
      · exact .refl s
      · exact .edit fun c _ => .unhold c.standing

lemma evolves_heartbeatSection (id : ItemId) (agentId : String) (progress : ℚ) (now : ℕ → Time)
    (s : BoardState) : Evolves grants s (heartbeatSection id agentId progress now s).2 := by
  have hbeat : ∀ s' : BoardState, Evolves grants s'
      (s'.editItem id (WorkItem.beaten (now 1) (max 0 (min progress 1)))) := fun s' =>
    Steady.evolves (.edit (fun i => i.standing_beaten _ _) id)
  unfold heartbeatSection promote
  by_cases hclaimed : s.items[id]?.map WorkItem.state = some .claimed
  · obtain ⟨c, hc, hstate⟩ := Option.map_eq_some_iff.1 hclaimed
    rw [if_pos hclaimed]
    by_cases hcheck : s.checkMove id c .running = .ok ()
    · have hpromote : Evolves grants s (s.moveItem id c (now 0) .running agentId none) :=
        .move hc (.promote hstate _) _ _
      have hc' : (s.moveItem id c (now 0) .running agentId none).items[id]? =
          some (c.moved (now 0) .running agentId none) := by
        rw [items_moveItem, if_pos rfl, hc, Option.map_some]
      simp only [transitionLocked_of_ok hc hcheck, Except.map, hc']
      exact hpromote.trans (hbeat _)
    · cases hmove : s.checkMove id c .running with
      | ok u => exact absurd hmove hcheck
      | error e =>
        simp only [transitionLocked_of_error hc hmove, Except.map]
        exact .refl s
  · rw [if_neg hclaimed]
    dsimp only
    split
    · exact .refl s
    · exact hbeat s

lemma evolves_dispatchRebaseSection (id : ItemId) (s : BoardState) :
    Evolves grants s (dispatchRebaseSection id s).2 := by
  unfold dispatchRebaseSection
  split
  · exact .refl s
  · rename_i it hit
    split
    · exact .refl s
    · rename_i hstate
      split
      · exact .refl s
      · split
        · exact .refl s
        · refine .edit fun c hc => .catchUp ?_
          rw [hit, Option.some.injEq] at hc
          rw [← hc]
          exact not_not.1 hstate

lemma evolves_removeItem (id : ItemId) (s : BoardState) : Evolves grants s (s.removeItem id) := by
  intro k
  unfold BoardState.standing
  rw [items_removeItem]
  split
  · cases s.items[k]? with
    | none => exact .refl _
    | some c => exact .of_gone _
  · exact .refl _

/-- The cards that are deleted are gone; blockers are not about the standing of a card. -/
lemma evolves_deleteSection (id : ItemId) (s : BoardState) :
    Evolves grants s (deleteSection id s).2 := by
  have hremoved : ∀ (ids : List ItemId) (s : BoardState),
      Evolves grants s (ids.foldl BoardState.removeItem s) := by
    intro ids
    induction ids with
    | nil => exact fun s => .refl s
    | cons k ids ih => exact fun s => (evolves_removeItem k s).trans (ih _)
  unfold deleteSection
  split
  · exact .refl s
  · refine (hremoved (deleteWalk s (deleteFuel s) [id] []) s).trans
      (.of_standing (funext fun k => ?_))
    simp only [BoardState.standing, ExtTreeMap.getElem?_map, Option.map_map]
    rfl

/-! ## Verbs that edit a card and then move it -/

section Unicode

variable [UnicodeTables]

/-- A transition is a step when the move is one. -/
lemma evolves_transition (hb : b.state.WellFormed) {byWhom : String} {reason : Option String}
    (hstep : ∀ c, b.state.items[id]? = some c → b.state.checkMove id c target = .ok () →
      Standing.Step grants c.standing (c.standing.entered target (byWhom == "human"))) :
    Evolves grants b.state ((transition id target byWhom reason).run b).2.state := by
  rcases run_transition_cases hb id target byWhom reason with
    ⟨e, b', hrun, hstate, -⟩ | ⟨c, item, b', hrun, hc, hcheck, hgrown⟩
  · rw [hrun]
    exact .of_items (congrArg BoardState.items hstate)
  · rw [hrun]
    exact (Evolves.move hc (hstep c hc hcheck) _ _).trans hgrown.evolves

lemma evolves_transitionOrMessage (hb : b.state.WellFormed) {byWhom text : String}
    (hstep : ∀ c, b.state.items[id]? = some c → b.state.checkMove id c target = .ok () →
      Standing.Step grants c.standing (c.standing.entered target (byWhom == "human"))) :
    Evolves grants b.state ((transitionOrMessage id target byWhom text).run b).2.state := by
  rw [transitionOrMessage, Locked.run_mapErr]
  exact evolves_transition hb hstep

/-- A question is put on a card, and goes with it to a human when the edge is there. -/
lemma evolves_escalate {agentId question : String} {options : List EscalationOption}
    {recommended : ℕ} (hcall : grants .call)
    (hgrant : checkOptions options recommended = .ok () → ∀ c, b.state.items[id]? = some c →
      allowed c.state .needsHuman = false → c.state = .needsHuman ∨ grants .question) :
    Evolves grants b.state
      ((escalate id agentId question options recommended).run b).2.state := by
  unfold escalate
  cases hoptions : checkOptions options recommended with
  | error e => exact .refl _
  | ok u =>
    rw [Locked.run_bind_ok rfl]
    cases hc : b.state.items[id]? with
    | none =>
      rw [Locked.run_bind_error (by rw [run_write, tryEdit_none hc])]
      exact .refl _
    | some c =>
      rw [Locked.run_bind_ok (by rw [run_write, tryEdit_some hc])]
      refine evolves_bind ?_ fun item =>
        within_bind (within_story evolves_lax _ _) fun _ => within_pure item
      have hf := checkBlind_asking question options recommended (b.now 0)
      have hb : (b.stepped (b.state.editItem id
            (WorkItem.asking question options recommended (b.now 0)))).state =
          b.state.editItem id (WorkItem.asking question options recommended (b.now 0)) := rfl
      have hmove : b.state.checkMove id c .needsHuman = .ok () ↔
          allowed c.state .needsHuman = true := checkMove_free_iff (by decide) (by decide)
      by_cases hedge : allowed c.state .needsHuman = true
      · obtain ⟨item, b₂, hrun, hstate, -⟩ := run_edited_moved hf hc hb (by decide)
          (hmove.2 hedge) agentId question
        rw [hrun, hstate]
        exact .edited_move hc (.escalate hcall hedge _)
      · obtain ⟨e, hrun⟩ := run_edited_refused hf hc hb (fun h => hedge (hmove.1 h)) agentId
          question
        rw [hrun]
        refine .edit fun c' hc' => .ask ?_
        rw [hc, Option.some.injEq] at hc'
        exact hc' ▸ hgrant hoptions c hc (by simpa using hedge)

/-- A settled question takes the card back to Backlog when the table allows it. -/
lemma evolves_settled_move {byWhom : String} {reason : Option String} {f : WorkItem → WorkItem}
    {b₁ : Board} (hf : CheckBlind f) (hstanding : ∀ i, (f i).standing = i.standing.settled)
    (hc : b.state.items[id]? = some c) (hb : b₁.state = b.state.editItem id f)
    (hgrant : c.state = .needsHuman → b.state.checkMove id c .backlog ≠ .ok () →
      grants .question) :
    Evolves grants b.state ((transition id .backlog byWhom reason).run b₁).2.state := by
  have hc₁ : b₁.state.items[id]? = some (f c) := by simp [hb, hc]
  have hsame : b₁.state.checkMove id (f c) .backlog = b.state.checkMove id c .backlog := by
    rw [hb, hf.checkMove_editItem]
  by_cases hcheck : b.state.checkMove id c .backlog = .ok ()
  · obtain ⟨item, b₂, hrun, hstate, -⟩ := run_transition_allowed hc₁ (by decide)
      (hsame.trans hcheck) byWhom reason
    rw [hrun, hstate, hb]
    refine .edited_move hc ?_
    rw [hstanding]
    exact .answer (checkMove_backlog_iff.1 hcheck).1 _
  · obtain ⟨e, hrun⟩ := run_transition_refused hc₁ (hsame ▸ hcheck) byWhom reason
    rw [hrun, stepped_state, hb]
    refine .edit fun c' hc' => ?_
    rw [hc, Option.some.injEq] at hc'
    rw [hstanding, ← hc']
    refine .settle ?_
    by_cases hstate : c.state = .needsHuman
    · exact Or.inr (hgrant hstate hcheck)
    · exact Or.inl hstate

lemma evolves_requestChanges {note : String}
    (hgrant : ∀ c, b.state.items[id]? = some c → c.state = .needsHuman →
      b.state.checkMove id c .backlog ≠ .ok () → grants .question) :
    Evolves grants b.state ((requestChanges id note).run b).2.state := by
  unfold requestChanges steer
  cases hc : b.state.items[id]? with
  | none =>
    rw [Locked.run_bind_error (run_editOr_none hc _ _)]
    exact .refl _
  | some c =>
    rw [Locked.run_bind_ok (run_editOr_some hc _ _), Locked.run_bind_ok rfl]
    refine evolves_bind ?_ fun item =>
      within_bind (within_emit evolves_lax _) fun _ =>
        within_bind (within_story evolves_lax _ _) fun _ => within_pure item
    have hf : CheckBlind fun i =>
        (i.steered s!"Changes requested: {note}" (b.now 0)).unproposed :=
      ⟨fun _ => rfl, fun _ => rfl, fun _ => rfl, fun _ => rfl⟩
    rw [transitionOrMessage, Locked.run_mapErr]
    exact evolves_settled_move hf (fun i => rfl) hc (editItem_editItem _ _) (hgrant c hc)

omit [UnicodeTables] in
lemma evolves_steer {text : String}
    (hgrant : ∀ c, b.state.items[id]? = some c → c.state = .needsHuman → grants .question) :
    Evolves grants b.state ((steer id text).run b).2.state := by
  unfold steer editOr
  refine evolves_bind (evolves_tryEdit fun c hc => ?_) fun item =>
    within_bind (within_emit evolves_lax item) fun _ => within_pure item
  rw [WorkItem.standing_steered]
  refine .settle ?_
  by_cases hstate : c.state = .needsHuman
  · exact Or.inr (hgrant c hc hstate)
  · exact Or.inl hstate

omit [UnicodeTables] in
/-- A Backlog card is held for the host. -/
lemma evolves_holdForHost {title : String}
    (hstate : ∀ c, b.state.items[id]? = some c → c.state = .backlog) :
    Evolves grants b.state ((holdForHost id title).run b).2.state := by
  unfold holdForHost
  refine evolves_bind (evolves_tryEdit fun c hc => ?_) fun item =>
    within_bind (within_emit evolves_lax item) fun _ =>
      within_bind (within_story evolves_lax _ _) fun _ => within_pure item
  rw [WorkItem.standing_heldForHost]
  exact .hold (hstate c hc)

lemma evolves_answerEscalation {choice : String}
    (hgrant : ∀ c, b.state.items[id]? = some c → c.escalation.isSome = true →
      c.state = .needsHuman → b.state.checkMove id c .backlog ≠ .ok () → grants .question) :
    Evolves grants b.state ((answerEscalation id choice).run b).2.state := by
  unfold answerEscalation
  cases hc : b.state.items[id]? with
  | none =>
    have hsection : answerSection id choice (b.now 0) b.state = (.error "no such item", b.state) := by
      simp [answerSection, hc]
    rw [Locked.run_bind_error (by rw [run_write, hsection])]
    exact .refl _
  | some c =>
    cases hasked : c.escalation with
    | none =>
      have hsection : answerSection id choice (b.now 0) b.state =
          (.error "that item is not waiting on anyone", b.state) := by
        simp [answerSection, hc, hasked]
      rw [Locked.run_bind_error (by rw [run_write, hsection])]
      exact .refl _
    | some question =>
      have hsection : answerSection id choice (b.now 0) b.state =
          (.ok (c.answered choice (b.now 0)),
            b.state.editItem id (WorkItem.answered choice (b.now 0))) := by
        simp [answerSection, hc, hasked, tryEdit_some hc]
      have hf : CheckBlind (WorkItem.answered choice (b.now 0)) :=
        ⟨fun _ => rfl, fun _ => rfl, fun _ => rfl, fun _ => rfl⟩
      have hb : (b.stepped (b.state.editItem id (WorkItem.answered choice (b.now 0)))).state =
          b.state.editItem id (WorkItem.answered choice (b.now 0)) := rfl
      have hmoved : Evolves grants b.state ((transitionOrMessage id .backlog "human"
          s!"answered: {choice}").run (b.stepped (b.state.editItem id
            (WorkItem.answered choice (b.now 0))))).2.state := by
        rw [transitionOrMessage, Locked.run_mapErr]
        exact evolves_settled_move hf (fun i => rfl) hc hb (hgrant c hc (by simp [hasked]))
      rw [Locked.run_bind_ok (by rw [run_write, hsection])]
      by_cases hcheck : b.state.checkMove id c .backlog = .ok ()
      · obtain ⟨item, b₂, hrun, -, hc₂⟩ := run_edited_moved hf hc hb (by decide) hcheck "human"
          s!"answered: {choice}"
        rw [hrun] at hmoved
        rw [Locked.run_bind_ok hrun, Locked.run_bind_ok rfl]
        have htold : Evolves grants b.state
            (b₂.told id s!"{(c.answered choice (b.now 0)).title}: unblocked — {choice}").state :=
          hmoved.trans (.of_items rfl)
        split
        · refine htold.trans (evolves_holdForHost fun c' hc' => ?_)
          rw [told_item hc₂, Option.some.injEq] at hc'
          rw [← hc']
          rfl
        · exact htold
      · obtain ⟨e, hrun⟩ := run_edited_refused hf hc hb hcheck "human" s!"answered: {choice}"
        rw [hrun] at hmoved
        rw [Locked.run_bind_error hrun]
        exact hmoved

/-- A note does not change the standing of the card, a move to Backlog by a human is always a
step, and a card that just entered Backlog may be held. -/
lemma evolves_park {reason : Option String} :
    Evolves grants b.state ((park id reason).run b).2.state := by
  unfold park
  generalize reason.filter (fun r => !isBlank r) = r
  dsimp only
  cases hc : b.state.items[id]? with
  | none =>
    rw [Locked.run_bind_error (by rw [run_write, tryEdit_none hc])]
    exact .refl _
  | some c =>
    let b₁ := b.stepped (b.state.editItem id (notedPark r (b.now 0)))
    have hf := checkBlind_notedPark r (b.now 0)
    have hb₁ : b₁.state = b.state.editItem id (notedPark r (b.now 0)) := rfl
    have hnoted : Evolves grants b.state b₁.state :=
      Steady.evolves (.edit (fun i => i.standing_notedPark r (b.now 0)) id)
    rw [Locked.run_bind_ok (by rw [run_write, tryEdit_some hc])]
    by_cases hcheck : b.state.checkMove id c .backlog = .ok ()
    · obtain ⟨item, b₂, hrun, hstate, hc₂⟩ := run_edited_moved hf hc hb₁ (by decide) hcheck
        "human" (r.getD "parked")
      rw [Locked.run_bind_ok hrun]
      have hmoved : Evolves grants b.state b₂.state := by
        rw [hstate]
        refine .edited_move hc ?_
        rw [WorkItem.standing_notedPark]
        exact .bounce (checkMove_backlog_iff.1 hcheck).1 (Or.inr (Or.inl rfl))
      refine evolves_bind (hmoved.trans (evolves_tryEdit fun c' hc' => ?_)) fun item =>
        within_bind (within_emit evolves_lax item) fun _ =>
          within_bind (within_story evolves_lax _ _) fun _ => within_pure item
      rw [hc₂, Option.some.injEq] at hc'
      -- Backlog has just cleared the dispatch request, so setting the hold is all there is.
      have hheld : c'.held.standing = c'.standing.held := by
        rw [← hc']
        rfl
      rw [hheld]
      exact .hold (by rw [← hc']; rfl)
    · obtain ⟨e, hrun⟩ := run_edited_refused hf hc hb₁ hcheck "human" (r.getD "parked")
      rw [Locked.run_bind_error hrun]
      exact hnoted

lemma evolves_halt (hb : b.state.WellFormed) {reason : Option String} :
    Evolves grants b.state ((halt id reason).run b).2.state := by
  have hwiped : Evolves grants b.state (b.state.editItem id WorkItem.wiped) :=
    .edit fun c _ => .wipe c.standing
  have hb₁ : (b.stepped (b.state.editItem id WorkItem.wiped)).state.WellFormed :=
    hb.edit id fun _ => ⟨rfl, rfl, rfl, rfl, fun h => h⟩
  unfold halt
  rw [Locked.run_bind_ok rfl]
  refine hwiped.trans (evolves_bind (evolves_transitionOrMessage hb₁ fun c hc hcheck => ?_)
    fun item => within_bind (within_story evolves_lax _ _) fun _ => within_pure item)
  exact .bounce (checkMove_backlog_iff.1 hcheck).1 (Or.inr (Or.inl rfl))

omit [UnicodeTables] in
/-- A move into Review is a step, unless it takes along the lease of a run. -/
lemma step_review (hedge : allowed c.state .review = true) (byHuman : Bool)
    (hgrant : c.state = .claimed ∨ c.state = .running →
      (c.lease = none ∧ c.runDeadlineAt = none) ∨ grants .lease) :
    Standing.Step grants c.standing (c.standing.entered .review byHuman) := by
  by_cases hrun : c.state = .claimed ∨ c.state = .running
  · refine .report hrun ((hgrant hrun).imp_left fun hfree => ⟨?_, hfree.2⟩) byHuman
    rw [WorkItem.standing, hfree.1]
    rfl
  · refine .review (State.isTerminal_iff.2 ?_) byHuman
    change c.state = .done ∨ c.state = .retired
    cases hstate : c.state <;> simp_all [allowed]

/-- A report leaves the standing alone until the move to Review. -/
lemma evolves_report (hb : b.state.WellFormed) {agentId : String} {added removed : UInt32}
    {gates : List String}
    (hgrant : ∀ c, b.state.items[id]? = some c → c.state = .claimed ∨ c.state = .running →
      (c.lease = none ∧ c.runDeadlineAt = none) ∨ grants .lease) :
    Evolves grants b.state ((report id agentId added removed gates).run b).2.state := by
  have hf : StandsStill (WorkItem.reported added removed gates) := fun _ => rfl
  have hb₁ : (b.stepped (b.state.editItem id
      (WorkItem.reported added removed gates))).state.WellFormed :=
    hb.edit id fun _ => ⟨rfl, rfl, rfl, rfl, fun h => h⟩
  unfold report
  rw [Locked.run_bind_ok rfl]
  refine (Steady.evolves (.edit hf id)).trans (evolves_transition hb₁ fun c' hc' hcheck => ?_)
  obtain ⟨c, hc, rfl⟩ := Option.map_eq_some_iff.1 (items_editItem_self _ ▸ hc')
  exact step_review ((checkMove_free_iff (by decide) (by decide)).1 hcheck) _ (hgrant c hc)

omit [UnicodeTables] in
/-- A bounce is a step, unless it leaves a question open. -/
lemma evolves_releaseWithReason {agentId : String} {reason : Option String}
    (hgrant : ∀ c, b.state.items[id]? = some c → c.state = .needsHuman →
      b.state.checkMove id c .backlog = .ok () → agentId = "human" ∨ grants .question) :
    Evolves grants b.state ((releaseWithReason id agentId reason).run b).2.state := by
  have hf := checkBlind_bouncedWith reason
  have hstill : StandsStill (bouncedWith reason) := by
    intro i
    cases reason <;> rfl
  have hnoted : Evolves grants b.state (b.state.editItem id (bouncedWith reason)) :=
    Steady.evolves (.edit hstill id)
  obtain ⟨text, hsection⟩ := releaseSection_eq id agentId reason (b.now 0) b.state
  unfold releaseWithReason
  refine evolves_bind ?_ fun item => within_bind (within_emit evolves_lax item) fun _ =>
    within_bind (within_onSome fun _ => within_story evolves_lax _ _) fun _ => within_pure item
  rw [run_write, hsection]
  refine hnoted.trans (evolves_tryMove fun c' hc' hcheck => ?_)
  obtain ⟨c, hc, rfl⟩ := Option.map_eq_some_iff.1 (items_editItem_self _ ▸ hc')
  rw [hf.checkMove_editItem] at hcheck
  rw [hstill]
  refine .bounce (checkMove_backlog_iff.1 hcheck).1 ?_
  by_cases hstate : c.state = .needsHuman
  · right
    exact (hgrant c hc hstate hcheck).imp_left fun hhuman => by rw [hhuman]; rfl
  · exact Or.inl hstate

/-- A failed run is requeued, or put before a human once the attempts are used up. -/
lemma evolves_recordRunFailure (hb : b.state.WellFormed) {reason : String}
    {maxAttempts : UInt32} (hcall : grants .call)
    (hgrant : ∀ c, b.state.items[id]? = some c →
      if c.runFailures + 1 < maxAttempts then
        c.state = .needsHuman → b.state.checkMove id c .backlog = .ok () → grants .question
      else allowed c.state .needsHuman = false → c.state = .needsHuman ∨ grants .question) :
    Evolves grants b.state ((recordRunFailure id reason maxAttempts).run b).2.state := by
  have hf : CheckBlind failedOnce := ⟨fun _ => rfl, fun _ => rfl, fun _ => rfl, fun _ => rfl⟩
  have hstill : StandsStill failedOnce := fun _ => rfl
  unfold recordRunFailure
  cases hc : b.state.items[id]? with
  | none =>
    rw [Locked.run_bind_error (by rw [run_write, tryEdit_none hc])]
    exact .refl _
  | some c =>
    let b₁ := b.stepped (b.state.editItem id failedOnce)
    have hc₁ : b₁.state.items[id]? = some (failedOnce c) := by simp [b₁, hc]
    have hb₁ : b₁.state.WellFormed := hb.edit id fun _ => ⟨rfl, rfl, rfl, rfl, fun h => h⟩
    obtain ⟨b₂, c₂, hpromote, hc₂, -, hbacklog, hhuman, hneeds⟩ := run_promote_failed hc₁
    have hpromoted : Evolves grants b₁.state b₂.state := by
      have hwhen : Evolves grants b₁.state ((Locked.when ((failedOnce c).state = .claimed) do
          let _ ← (transition id .running "supervisor" none).attempt :
            Method String Unit).run b₁).2.state := by
        refine evolves_when fun hclaimed => evolves_bind (evolves_attempt
          (evolves_transition hb₁ fun c' hc' _ => ?_)) fun _ => within_pure ()
        rw [hc₁, Option.some.injEq] at hc'
        exact .promote (hc' ▸ hclaimed) _
      rw [hpromote] at hwhen
      exact hwhen
    have hstruct : Structural (Locked.when ((failedOnce c).state = .claimed) do
        let _ ← (transition id .running "supervisor" none).attempt : Method String Unit) :=
      within_when fun _ => within_bind (within_attempt (structural_transition _ _ _ _)) fun _ =>
        within_pure ()
    have hb₂ : b₂.state.WellFormed := by
      have hrun := wellFormed_run hstruct hb₁
      rw [hpromote] at hrun
      exact hrun
    have hstart : Evolves grants b.state b₂.state :=
      (Steady.evolves (.edit hstill id)).trans hpromoted
    rw [Locked.run_bind_ok (by rw [run_write, tryEdit_some hc]), Locked.run_bind_ok hpromote]
    have hgrant := hgrant c hc
    change Evolves grants b.state (Locked.run (if c.runFailures + 1 < maxAttempts then _ else _)
      b₂).2.state
    split
    · rename_i hless
      rw [if_pos hless] at hgrant
      refine hstart.trans (evolves_bind (evolves_transitionOrMessage hb₂ fun c' hc' hcheck => ?_)
        fun item => within_bind (within_story evolves_lax _ _) fun _ => within_pure item)
      rw [hc₂, Option.some.injEq] at hc'
      subst hc'
      refine .bounce (checkMove_backlog_iff.1 hcheck).1 ?_
      by_cases hstate : c₂.state = .needsHuman
      · have hcheck' : b.state.checkMove id c .backlog = .ok () := by
          rw [← hf.checkMove_editItem]
          exact hbacklog.1 hcheck
        exact Or.inr (Or.inr (hgrant (hneeds.1 hstate) hcheck'))
      · exact Or.inl hstate
    · rename_i hless
      rw [if_neg hless] at hgrant
      refine hstart.trans (evolves_escalate hcall fun _ c' hc' hedge => ?_)
      rw [hc₂, Option.some.injEq] at hc'
      subst hc'
      rw [hhuman] at hedge
      exact (hgrant hedge).imp_left hneeds.2

/-- A pull request merged: its card is Done once all are merged. -/
lemma evolves_completeForMergedPr (hb : b.state.WellFormed) {prUrl : String}
    {prNumber : Option ℕ} {byWhom : String}
    (hgrant : ∀ id c, liveCardOfPr (normalizePrUrl prUrl) b.state = some id →
      b.state.items[id]? = some c → c.state = .needsHuman →
        (c.withPrMerged (normalizePrUrl prUrl)).allPullRequestsMerged = true →
          (normalizePrUrl prUrl).isEmpty = false → grants .question) :
    Evolves grants b.state
      ((completeForMergedPr prUrl prNumber byWhom : Method ε _).run b).2.state := by
  unfold completeForMergedPr
  dsimp only
  split
  · exact .refl _
  · rename_i hneedle
    rw [Locked.run_bind_ok rfl]
    cases hfound : liveCardOfPr (normalizePrUrl prUrl) b.state with
    | none => exact .refl _
    | some id =>
      have hstill : StandsStill (WorkItem.withPrMerged (normalizePrUrl prUrl)) := fun _ => rfl
      dsimp only
      cases hc : b.state.items[id]? with
      | none =>
        rw [Locked.run_bind_ok (by rw [Locked.run_attempt, run_editOr_none hc])]
        exact .refl _
      | some c =>
        rw [Locked.run_bind_ok (by rw [Locked.run_attempt, run_editOr_some hc])]
        let b₁ := (b.stepped (b.state.editItem id (WorkItem.withPrMerged
          (normalizePrUrl prUrl)))).emitted (c.withPrMerged (normalizePrUrl prUrl))
        have hmarked : Evolves grants b.state b₁.state := Steady.evolves (.edit hstill id)
        have hb₁ : b₁.state.WellFormed := hb.edit id fun _ => ⟨rfl, rfl, rfl, rfl, fun h => h⟩
        dsimp only
        split
        · exact hmarked.trans (Within.evolves (within_bind (within_get evolves_lax id) fun _ =>
            within_bind (within_story evolves_lax _ _) fun _ => within_pure none) b₁)
        · rename_i hmerged
          split
          · exact hmarked
          · refine hmarked.trans (evolves_bind (evolves_attempt (evolves_transition hb₁
              fun c' hc' hcheck => ?_)) fun done => ?_)
            · have hc₁ : c' = c.withPrMerged (normalizePrUrl prUrl) := by
                simpa [b₁, hc, eq_comm] using hc'
              subst hc₁
              refine .finish (allowed_of_check hcheck) rfl ?_ _
              by_cases hstate : c.state = .needsHuman
              · exact Or.inr (hgrant id c hfound hc hstate (by simpa using hmerged)
                  (by simpa using hneedle))
              · exact Or.inl hstate
            · cases done with
              | error e => exact within_pure none
              | ok item =>
                exact within_bind (within_story evolves_lax _ _) fun _ => within_pure _

/-- Review feedback settles the question of its card and sends the card back. -/
lemma evolves_applyPrReviewFeedback {prUrl : String} {prNumber : Option ℕ}
    {reviewState byWhom : String}
    (hgrant : isActionablePrReviewState reviewState = true →
      (normalizePrUrl prUrl).isEmpty = false →
        ∀ id c, feedbackCardOfPr (normalizePrUrl prUrl) b.state = some id →
          b.state.items[id]? = some c → c.state = .needsHuman →
            b.state.checkMove id c .backlog ≠ .ok () → grants .question) :
    Evolves grants b.state
      ((applyPrReviewFeedback prUrl prNumber reviewState byWhom : Method ε _).run b).2.state := by
  unfold applyPrReviewFeedback
  dsimp only
  split
  · exact .refl _
  · rename_i hwanted
    simp only [Bool.not_eq_true', Bool.or_eq_true, not_or, Bool.not_eq_false] at hwanted
    rw [Locked.run_bind_ok rfl]
    cases hfound : feedbackCardOfPr (normalizePrUrl prUrl) b.state with
    | none => exact .refl _
    | some id =>
      dsimp only
      set f := WorkItem.reviewed (actorOr "github-review" byWhom)
        (prReviewFeedbackSteerNote (trim prUrl) prNumber) (b.now 0) with hfdef
      cases hc : b.state.items[id]? with
      | none =>
        rw [Locked.run_bind_ok (by rw [Locked.run_attempt, run_write, tryEdit_none hc])]
        exact .refl _
      | some c =>
        have hf : CheckBlind f := ⟨fun _ => rfl, fun _ => rfl, fun _ => rfl, fun _ => rfl⟩
        rw [Locked.run_bind_ok (by rw [Locked.run_attempt, run_write, tryEdit_some hc])]
        refine evolves_bind (evolves_attempt (evolves_settled_move hf (fun i => rfl) hc rfl
          (hgrant hwanted.1 (by simpa using hwanted.2) id c hfound hc))) fun moved => ?_
        cases moved with
        | error e => exact within_pure none
        | ok item =>
          exact within_bind (within_emit evolves_lax _) fun _ =>
            within_bind (within_story evolves_lax _ _) fun _ => within_pure _

omit [UnicodeTables] in
/-- A conflicting Review card goes back to Backlog without its requests. -/
lemma evolves_conflictSection {bounceReason : String} {files : List String} {now : ℕ → Time}
    (hstate : ∀ c, s.items[id]? = some c → c.state ≠ .needsHuman) :
    Evolves grants s (conflictSection id bounceReason files now s).2 := by
  have hstill : StandsStill (WorkItem.conflicted bounceReason files (now 0)) := fun _ => rfl
  set s₁ := s.editItem id (WorkItem.conflicted bounceReason files (now 0)) with hs₁
  have hnoted : Evolves grants s s₁ := Steady.evolves (.edit hstill id)
  have hmoved : Evolves grants s (s₁.tryMove (now 1) id .backlog "rebase" (some bounceReason)).2 := by
    refine hnoted.trans (evolves_tryMove fun c' hc' hcheck => ?_)
    obtain ⟨c, hc, rfl⟩ := Option.map_eq_some_iff.1 (items_editItem_self _ ▸ hc')
    exact .bounce (checkMove_backlog_iff.1 hcheck).1 (Or.inl (hstate c hc))
  unfold conflictSection
  dsimp only
  rw [← hs₁]
  unfold BoardState.tryMove at hmoved
  cases hmove : s₁.transitionLocked (now 1) id .backlog "rebase" (some bounceReason) with
  | error e => exact hnoted
  | ok r =>
    obtain ⟨item, s₂⟩ := r
    rw [hmove] at hmoved
    have hclear : Evolves grants s₂ (s₂.tryEdit id "" WorkItem.unqueued).2 :=
      evolves_tryEdit fun c _ => .unqueue c.standing
    dsimp only
    generalize s₂.tryEdit id "" WorkItem.unqueued = r at hclear ⊢
    obtain ⟨e | item, s₃⟩ := r <;> exact hmoved.trans hclear

/-- A Review card that conflicts again is put before a human. -/
lemma evolves_conflicted_escalate {why agentId question : String} {files : List String}
    {options : List EscalationOption} (hcall : grants .call)
    (hstate : ∀ c, b.state.items[id]? = some c → c.state = .review) :
    Evolves grants b.state ((do
      editQuietly id (WorkItem.conflicted why files)
      escalate id agentId question options 0 : Method String WorkItem).run b).2.state := by
  have hstill : StandsStill (WorkItem.conflicted why files (b.now 0)) := fun _ => rfl
  have hnoted : Evolves grants b.state
      (b.stepped (b.state.editItem id (WorkItem.conflicted why files (b.now 0)))).state :=
    Steady.evolves (.edit hstill id)
  rw [Locked.run_bind_ok (run_editQuietly _ _ _)]
  refine hnoted.trans (evolves_escalate hcall fun _ c' hc' hedge => ?_)
  obtain ⟨c, hc, rfl⟩ := Option.map_eq_some_iff.1 (items_editItem_self _ ▸ hc')
  have hedge' : allowed c.state .needsHuman = false := hedge
  rw [hstate c hc] at hedge'
  cases hedge'

/-- A Review card that was checked stays, goes back, or is put before a human. -/
lemma evolves_recordRebaseOutcome {outcome : RebaseOutcome} (hcall : grants .call) :
    Evolves grants b.state ((recordRebaseOutcome id outcome).run b).2.state := by
  unfold recordRebaseOutcome
  cases hc : b.state.items[id]? with
  | none =>
    rw [Locked.run_bind_error (run_readOr_none hc _)]
    exact .refl _
  | some c =>
    rw [Locked.run_bind_ok (run_readOr_some hc _)]
    by_cases hstate : c.state = .review
    · rw [Locked.run_bind_ok (by rw [Locked.run_failIf, if_neg (not_not.2 hstate)])]
      have hreview : ∀ c', b.state.items[id]? = some c' → c'.state = .review := by
        intro c' hc'
        rw [hc, Option.some.injEq] at hc'
        rw [← hc', hstate]
      cases outcome with
      | clean =>
        refine evolves_bind ?_ fun item =>
          within_bind (within_emit evolves_lax _) fun _ => within_pure item
        have hclean : Evolves grants b.state
            (b.state.tryEdit id s!"no such item #{id}" WorkItem.rebasedClean).2 :=
          evolves_tryEdit fun c' _ => .unqueue c'.standing
        rw [run_write]
        generalize b.state.tryEdit id s!"no such item #{id}" WorkItem.rebasedClean = r at hclean ⊢
        obtain ⟨e | item, s'⟩ := r <;> exact hclean
      | conflict files reason =>
        dsimp only
        split
        · exact evolves_conflicted_escalate hcall hreview
        · refine evolves_bind (evolves_conflictSection fun c' hc' => ?_) fun item =>
            within_bind (within_emit evolves_lax _) fun _ =>
              within_bind (within_story evolves_lax _ _) fun _ => within_pure item
          rw [hreview c' hc']
          decide
    · rw [Locked.run_bind_error (by rw [Locked.run_failIf, if_pos hstate])]
      exact .refl _

/-- Accepted children are parked on the card in Review. -/
lemma evolves_proposeSplit_accepted (hb : b.state.WellFormed) {agentId : String}
    {children : List SplitChildSpec} {maxChildren : ℕ} (hc : b.state.items[id]? = some c)
    (h : AcceptsSplit b.state c children maxChildren)
    (hgrant : c.state = .claimed ∨ c.state = .running →
      (c.lease = none ∧ c.runDeadlineAt = none) ∨ grants .lease) :
    Evolves grants b.state ((proposeSplit id agentId children maxChildren).run b).2.state := by
  obtain ⟨projectId, project, hparent, hproject, hroot, hrelated⟩ := h.related
  have hinit : (b.state.populateBlockers c).isInitialPlanTask = false := h.notPlan
  have hpr : (b.state.populateBlockers c).prUrl = none := h.noPr
  have hparent' : (b.state.populateBlockers c).parent = some projectId := hparent
  have hrelated' : checkSplitRelatedness (b.state.populateBlockers c)
      (b.state.populateBlockers project) children = .ok () := hrelated
  have hnested : (read fun s => (s.items[projectId]?.bind WorkItem.parent).isSome :
      Method String Bool).run b = (.ok false, b) := by
    simp [hproject, hroot]
  have hstill : StandsStill (WorkItem.withProposal (splitProposal c children)) := fun _ => rfl
  let b₁ := (b.stepped (b.state.editItem id (WorkItem.withProposal (splitProposal c children)))).emitted
    (c.withProposal (splitProposal c children))
  have hstored : (setProposal id ⟨s!"Split of «{(b.state.populateBlockers c).title}»",
      splitSpecs children⟩).run b = (.ok (c.withProposal (splitProposal c children)), b₁) :=
    run_setProposal_ok h.rows hc h.notPlan
  have hb₁ : b₁.state.WellFormed := hb.edit id fun _ => ⟨rfl, rfl, rfl, rfl, fun h => h⟩
  have hsteady : Evolves grants b.state b₁.state := Steady.evolves (.edit hstill id)
  unfold proposeSplit
  rw [Locked.run_bind_ok (run_getOr_some hc _), hinit, hpr, hparent']
  simp only [Bool.false_eq_true, if_false, h.size, Locked.failIf]
  rw [Locked.run_bind_ok rfl, Locked.run_bind_ok rfl, Locked.run_bind_ok (run_getOr_some hproject _),
    Locked.run_bind_ok hnested]
  simp only [Bool.false_eq_true, if_false, hrelated', Nat.not_lt.2 h.distinct]
  rw [Locked.run_bind_ok rfl, Locked.run_bind_ok rfl, Locked.run_bind_ok rfl,
    Locked.run_bind_ok hstored]
  refine hsteady.trans (evolves_bind (evolves_transitionOrMessage hb₁ fun c' hc' hcheck => ?_)
    fun item => within_bind (within_story evolves_lax _ _) fun _ => within_pure item)
  obtain ⟨c₀, hc₀, rfl⟩ := Option.map_eq_some_iff.1 (items_editItem_self _ ▸ hc')
  rw [hc, Option.some.injEq] at hc₀
  subst hc₀
  exact step_review ((checkMove_free_iff (by decide) (by decide)).1 hcheck) _ hgrant

/-- A split of a card that has a pull request is put before a human. -/
lemma evolves_proposeSplit_refused {agentId : String} {children : List SplitChildSpec}
    {maxChildren : ℕ} (hcall : grants .call) (hc : b.state.items[id]? = some c)
    (hinit : c.isInitialPlanTask = false) {url : String} (hpr : c.prUrl = some url)
    (hgrant : allowed c.state .needsHuman = false → c.state = .needsHuman ∨ grants .question) :
    Evolves grants b.state ((proposeSplit id agentId children maxChildren).run b).2.state := by
  have hinit' : (b.state.populateBlockers c).isInitialPlanTask = false := hinit
  have hpr' : (b.state.populateBlockers c).prUrl = some url := hpr
  unfold proposeSplit
  rw [Locked.run_bind_ok (run_getOr_some hc _), hinit', hpr']
  simp only [Bool.false_eq_true, if_false, Locked.failIf]
  rw [Locked.run_bind_ok rfl]
  refine evolves_bind (evolves_attempt (evolves_escalate hcall fun _ c' hc' hedge => ?_))
    fun _ => within_fail _
  rw [hc, Option.some.injEq] at hc'
  subst hc'
  exact hgrant hedge

omit [UnicodeTables] in
/-- A failing call that is known to leave the board alone. -/
lemma run_state_of_failure {m : Method ε α} {s' : BoardState} (h : failure m b = some s') :
    (m.run b).2.state = s' := by
  unfold failure at h
  generalize m.run b = r at h ⊢
  obtain ⟨a | e, b'⟩ := r
  · cases h
    rfl
  · cases h

lemma evolves_proposeSplit (hb : b.state.WellFormed) {agentId : String}
    {children : List SplitChildSpec} {maxChildren : ℕ} (hcall : grants .call)
    (hquestion : ∀ c, b.state.items[id]? = some c → c.isInitialPlanTask = false →
      c.prUrl.isSome = true → allowed c.state .needsHuman = false →
        c.state = .needsHuman ∨ grants .question)
    (hlease : ∀ c, b.state.items[id]? = some c → AcceptsSplit b.state c children maxChildren →
      c.state = .claimed ∨ c.state = .running →
        (c.lease = none ∧ c.runDeadlineAt = none) ∨ grants .lease) :
    Evolves grants b.state ((proposeSplit id agentId children maxChildren).run b).2.state := by
  cases hc : b.state.items[id]? with
  | none =>
    unfold proposeSplit
    rw [Locked.run_bind_error (run_getOr_none hc _)]
    exact .refl _
  | some c =>
    by_cases haccepts : AcceptsSplit b.state c children maxChildren
    · exact evolves_proposeSplit_accepted hb hc haccepts (hlease c hc haccepts)
    · cases hinit : c.isInitialPlanTask with
      | true =>
        rw [run_state_of_failure (failure_proposeSplit_rejected agentId hc (Or.inl hinit) haccepts)]
        exact .refl _
      | false =>
        cases hpr : c.prUrl with
        | none =>
          rw [run_state_of_failure (failure_proposeSplit_rejected agentId hc (Or.inr hpr) haccepts)]
          exact .refl _
        | some url =>
          exact evolves_proposeSplit_refused hcall hc hinit hpr
            (hquestion c hc hinit (by simp [hpr]))

end Unicode

end Board

end Sandboard

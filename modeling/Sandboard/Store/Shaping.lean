import Sandboard.Store.Within

/-!
# Methods by the edits they make

Every section of every method edits cards, moves cards, inserts a new card or deletes cards.
`Shapes E M R` says that the relation `R` allows the edits `E` and the moves `M`; a method
respects `R` when the edits and the moves that it makes are among them.  So what a method
leaves alone is read off its edits, whatever the relation is about.
-/

namespace Sandboard

/-- The relation allows the edits `E` and the moves `M` of a card, one after the other. -/
structure Shapes (E : ItemId → (WorkItem → WorkItem) → Prop) (M : ItemId → State → String → Prop)
    (R : BoardState → BoardState → Prop) : Prop extends Lax R where
  trans : ∀ {s s' s'' : BoardState}, R s s' → R s' s'' → R s s''
  edit : ∀ {id : ItemId} {f : WorkItem → WorkItem} (s : BoardState), E id f → R s (s.editItem id f)
  move : ∀ {id : ItemId} {target : State} {byWhom : String} (s : BoardState) (now : Time)
    (reason : Option String), M id target byWhom → R s (s.tryMove now id target byWhom reason).2

/-- The relation also allows new cards, and what the methods write on cards that they find
or make. -/
structure Covers (E : ItemId → (WorkItem → WorkItem) → Prop)
    (R : BoardState → BoardState → Prop) : Prop extends Shapes E (fun _ _ _ => True) R where
  insert : ∀ (schema : Schema) (now : Time) (c : Board.NewCard) (s : BoardState),
    R s (Board.insertNew schema now c s).2
  propose : ∀ (id : ItemId) (proposal : TaskProposal), E id (WorkItem.withProposal proposal)
  settle : ∀ (id : ItemId) (keep : Bool) (keyToId : List (String × ItemId)),
    E id (Board.settled keep keyToId)
  link : ∀ (id : ItemId) (blockers : List ItemId), E id (WorkItem.blockedOn blockers)
  unplan : ∀ id : ItemId, E id WorkItem.unplanned

/-- `Covers` for the sections that find the board in `I`, with a relation `R₀` for the sections
that make no card: a new card is a section of its own, which `R` allows. -/
structure Admits (I : Board → Prop) (E : ItemId → (WorkItem → WorkItem) → Prop)
    (R₀ R : BoardState → BoardState → Prop) : Prop extends Shapes E (fun _ _ _ => True) R₀ where
  plain : ∀ {s s' : BoardState}, R₀ s s' → R s s'
  insert : ∀ (b : Board) (now : Time) (c : Board.NewCard) (s : BoardState), I b →
    R s (Board.insertNew b.schema now c s).2
  propose : ∀ (id : ItemId) (proposal : TaskProposal), E id (WorkItem.withProposal proposal)
  settle : ∀ (id : ItemId) (keep : Bool) (keyToId : List (String × ItemId)),
    E id (Board.settled keep keyToId)
  link : ∀ (id : ItemId) (blockers : List ItemId), E id (WorkItem.blockedOn blockers)
  unplan : ∀ id : ItemId, E id WorkItem.unplanned

namespace Admits

variable {I : Board → Prop} {E : ItemId → (WorkItem → WorkItem) → Prop}
  {R₀ R : BoardState → BoardState → Prop}

/-- A section that makes no card respects `R`. -/
lemma on (h : Admits I E R₀ R) {ε α : Type} {m : Method ε α} (hm : Within R₀ m) :
    WithinOn I R m :=
  hm.on h.plain

lemma lax (h : Admits I E R₀ R) : Lax R where
  aside hitems hnext hchildren hstates := h.plain (h.aside hitems hnext hchildren hstates)

end Admits

lemma Covers.admits {E : ItemId → (WorkItem → WorkItem) → Prop}
    {R : BoardState → BoardState → Prop} (h : Covers E R) : Admits (fun _ => True) E R R where
  toShapes := h.toShapes
  plain h := h
  insert b now c s _ := h.insert b.schema now c s
  propose := h.propose
  settle := h.settle
  link := h.link
  unplan := h.unplan

namespace Board

variable {ε α : Type} {E : ItemId → (WorkItem → WorkItem) → Prop}
  {M : ItemId → State → String → Prop} {R : BoardState → BoardState → Prop}

section Shapes

variable (hR : Shapes E M R)

include hR

/-! ## Sections that are more than one edit -/

lemma shaped_tryEdit {id : ItemId} {f : WorkItem → WorkItem} (s : BoardState) (e : ε)
    (hf : E id f) : R s (s.tryEdit id e f).2 :=
  lax_tryEdit hR.toLax (hR.edit s hf)

lemma shaped_transitionLocked {s s' : BoardState} {now : Time} {id : ItemId} {target : State}
    {byWhom : String} {reason : Option String} {item : WorkItem}
    (h : s.transitionLocked now id target byWhom reason = .ok (item, s'))
    (hmove : M id target byWhom) : R s s' := by
  have hmoved := hR.move s now reason hmove
  rw [BoardState.tryMove, h] at hmoved
  exact hmoved

lemma shaped_enqueueSection {id : ItemId} (hqueue : E id WorkItem.queued) (s : BoardState) :
    R s (enqueueSection id s).2 := by
  unfold enqueueSection
  split
  · exact hR.refl s
  · split
    · exact hR.refl s
    · exact hR.edit s hqueue

lemma shaped_claimSection {id : ItemId} {agentId : String} {model : Option String}
    {granted deadline : Time} (hmove : M id .claimed agentId)
    (hgrant : E id (WorkItem.granted agentId granted deadline model)) (now : Time)
    (s : BoardState) : R s (claimSection id agentId model granted deadline now s).2 := by
  unfold claimSection
  split
  · exact hR.refl s
  · split
    · exact hR.refl s
    · rename_i hmoved
      exact hR.trans (shaped_transitionLocked hR hmoved hmove) (shaped_tryEdit hR _ _ hgrant)

lemma shaped_reopenSection {id : ItemId} {agentId : String} {granted deadline : Time}
    (hmove : M id .claimed "supervisor") (hlease : E id (WorkItem.leased agentId granted deadline))
    (now : Time) (s : BoardState) :
    R s (reopenSection id agentId granted deadline now s).2 := by
  unfold reopenSection
  split
  · exact hR.refl s
  · split
    · exact hR.refl s
    · split
      · exact hR.refl s
      · rename_i hmoved
        exact hR.trans (shaped_transitionLocked hR hmoved hmove) (shaped_tryEdit hR _ _ hlease)

lemma shaped_promote {id : ItemId} {agentId : String} {now : Time} {s s' : BoardState}
    {promoted : Bool} (h : promote id agentId now s = .ok (promoted, s'))
    (hmove : M id .running agentId) : R s s' := by
  unfold promote at h
  split at h
  · cases hmoved : s.transitionLocked now id .running agentId none with
    | error e => simp [hmoved, Except.map] at h
    | ok r =>
      obtain ⟨item, s₁⟩ := r
      simp only [hmoved, Except.map, Except.ok.injEq, Prod.mk.injEq] at h
      obtain ⟨-, rfl⟩ := h
      exact shaped_transitionLocked hR hmoved hmove
  · cases h
    exact hR.refl s

lemma shaped_heartbeatSection {id : ItemId} {agentId : String} {progress : ℚ}
    (hmove : M id .running agentId) (hbeat : ∀ now progress, E id (WorkItem.beaten now progress))
    (now : ℕ → Time) (s : BoardState) : R s (heartbeatSection id agentId progress now s).2 := by
  unfold heartbeatSection
  split
  · exact hR.refl s
  · rename_i hpromoted
    have h := shaped_promote hR hpromoted hmove
    dsimp only
    split
    · exact h
    · exact hR.trans h (hR.edit _ (hbeat _ _))

lemma shaped_releaseSection {id : ItemId} {agentId : String} {reason : Option String}
    (hmove : M id .backlog agentId) (hbounce : ∀ r, E id (WorkItem.bounced r)) (now : Time)
    (s : BoardState) : R s (releaseSection id agentId reason now s).2 := by
  unfold releaseSection
  cases reason with
  | none => exact hR.move s now _ hmove
  | some r => exact hR.trans (hR.edit s (hbounce r)) (hR.move _ now _ hmove)

lemma shaped_answerSection {id : ItemId} {choice : String} {now : Time}
    (hanswer : E id (WorkItem.answered choice now)) (s : BoardState) :
    R s (answerSection id choice now s).2 := by
  unfold answerSection
  split
  · exact hR.refl s
  · split
    · exact hR.refl s
    · exact shaped_tryEdit hR s _ hanswer

lemma shaped_unparkSection {id : ItemId} (hunhold : E id WorkItem.unheld) (s : BoardState) :
    R s (unparkSection id s).2 := by
  unfold unparkSection
  split
  · exact hR.refl s
  · split
    · exact hR.refl s
    · split
      · exact hR.refl s
      · exact hR.edit s hunhold

lemma shaped_dispatchRebaseSection {id : ItemId} (hcatch : E id WorkItem.catchingUp)
    (s : BoardState) : R s (dispatchRebaseSection id s).2 := by
  unfold dispatchRebaseSection
  split
  · exact hR.refl s
  · split
    · exact hR.refl s
    · split
      · exact hR.refl s
      · split
        · exact hR.refl s
        · exact hR.edit s hcatch

lemma shaped_conflictSection {id : ItemId} {bounceReason : String} {files : List String}
    (hmove : M id .backlog "rebase")
    (hnote : ∀ now, E id (WorkItem.conflicted bounceReason files now))
    (hunqueue : E id WorkItem.unqueued) (now : ℕ → Time) (s : BoardState) :
    R s (conflictSection id bounceReason files now s).2 := by
  have hnoted := hR.edit s (hnote (now 0))
  unfold conflictSection
  dsimp only
  split
  · exact hnoted
  · rename_i s' hmoved
    have hbounced := hR.trans hnoted (shaped_transitionLocked hR hmoved hmove)
    have hcleared := shaped_tryEdit hR s' "" hunqueue
    split
    · rename_i hedit
      rw [hedit] at hcleared
      exact hR.trans hbounced hcleared
    · rename_i hedit
      rw [hedit] at hcleared
      exact hR.trans hbounced hcleared

/-! ## Methods without new cards -/

lemma shaped_editOr {id : ItemId} {e : ε} {f : Time → WorkItem → WorkItem}
    (hf : ∀ now, E id (f now)) : Within R (editOr id e f) :=
  within_editOr hR.toLax fun s now => hR.edit s (hf now)

lemma shaped_editIf {id : ItemId} {wanted : WorkItem → Bool} {f : WorkItem → WorkItem}
    (hf : E id f) : Within R (editIf id wanted f : Method ε Unit) :=
  within_editIf hR.toLax fun s => hR.edit s hf

lemma shaped_editQuietly {id : ItemId} {f : Time → WorkItem → WorkItem}
    (hf : ∀ now, E id (f now)) : Within R (editQuietly id f : Method ε Unit) :=
  within_editQuietly fun s now => hR.edit s (hf now)

lemma shaped_writeEdit {id : ItemId} {e : ε} {f : Time → WorkItem → WorkItem}
    (hf : ∀ now, E id (f now)) : Within R (write fun now s => s.tryEdit id e (f (now 0))) :=
  within_write fun _ s => shaped_tryEdit hR s e (hf _)

lemma shaped_setProposal {id : ItemId} {proposal : TaskProposal}
    (hf : E id (WorkItem.withProposal proposal)) : Within R (setProposal id proposal) :=
  within_setProposal hR.toLax fun s => hR.edit s hf

lemma shaped_transitionWith {onDone : ItemId → String → Method String ℕ} {id : ItemId}
    {target : State} {byWhom : String} {reason : Option String} (hmove : M id target byWhom)
    (hdone : target = .done → Within R (onDone id byWhom)) :
    Within R (transitionWith onDone id target byWhom reason) :=
  within_transitionWith hR.toLax (fun s now => hR.move s now reason hmove) hdone

lemma shaped_transitionOn {id : ItemId} {target : State} {byWhom : String}
    {reason : Option String} (hmove : M id target byWhom) :
    Within R (transitionOn id target byWhom reason) :=
  shaped_transitionWith hR hmove fun _ => within_pure 0

lemma shaped_enqueueDispatch {id : ItemId} (hqueue : E id WorkItem.queued) :
    Within R (enqueueDispatch id) :=
  within_enqueueDispatch hR.toLax (shaped_enqueueSection hR hqueue)

lemma shaped_holdForHost {id : ItemId} {title : String}
    (hhold : ∀ now, E id (heldForHost now)) : Within R (holdForHost id title) :=
  within_bind (shaped_writeEdit hR hhold) fun _ =>
    within_bind (within_emit hR.toLax _) fun _ => within_bind (within_story hR.toLax _ _) fun _ =>
      within_pure _

lemma shaped_unpark {id : ItemId} (hunhold : E id WorkItem.unheld)
    (hqueue : E id WorkItem.queued) : Within R (unpark id) :=
  within_unpark hR.toLax (shaped_unparkSection hR hunhold) (shaped_enqueueSection hR hqueue)

section Unicode

variable [UnicodeTables]

/-- A transition to a target other than Done. -/
lemma shaped_transition_of_ne {id : ItemId} {target : State} {byWhom : String}
    {reason : Option String} (hmove : M id target byWhom) (htarget : target ≠ .done) :
    Within R (transition id target byWhom reason) :=
  shaped_transitionWith hR hmove fun hdone => absurd hdone htarget

lemma shaped_transitionOrMessage {id : ItemId} {target : State} {byWhom reason : String}
    (hmove : M id target byWhom) (htarget : target ≠ .done) :
    Within R (transitionOrMessage id target byWhom reason) :=
  within_mapErr (shaped_transition_of_ne hR hmove htarget)

lemma shaped_escalate {id : ItemId} {agentId question : String}
    {options : List EscalationOption} {recommended : ℕ} (hmove : M id .needsHuman agentId)
    (hask : ∀ now, E id (WorkItem.asking question options recommended now)) :
    Within R (escalate id agentId question options recommended) :=
  within_bind (within_ret _) fun _ => within_bind (shaped_writeEdit hR hask) fun _ =>
    within_bind (shaped_transitionOrMessage hR hmove nofun) fun _ =>
      within_bind (within_story hR.toLax _ _) fun _ => within_pure _

lemma shaped_report {id : ItemId} {agentId : String} {added removed : UInt32}
    {gates : List String} (hmove : M id .review agentId)
    (hreport : E id (WorkItem.reported added removed gates)) :
    Within R (report id agentId added removed gates) :=
  within_bind (shaped_editQuietly hR fun _ => hreport) fun _ =>
    shaped_transition_of_ne hR hmove nofun

lemma shaped_sweepOne {id : ItemId} (hmove : M id .backlog "deadline-sweeper") :
    Within R (sweepOne id : Method ε Unit) :=
  within_bind (within_get hR.toLax id) fun _ =>
    within_bind (within_attempt (shaped_transition_of_ne hR hmove nofun)) fun _ =>
      within_story hR.toLax _ _

lemma shaped_sweepLeases (hmove : ∀ id, M id .backlog "deadline-sweeper") :
    Within R (sweepLeases : Method ε (List ItemId)) :=
  within_bind (within_utcNow hR.toLax) fun _ => within_bind (within_read hR.toLax _) fun _ =>
    within_bind (within_forM fun id => shaped_sweepOne hR (hmove id)) fun _ => within_pure _

lemma shaped_recordRunFailure {id : ItemId} {reason : String} {maxAttempts : UInt32}
    (hmove : ∀ target, M id target "supervisor") (hfail : E id failedOnce)
    (hask : ∀ question options recommended now,
      E id (WorkItem.asking question options recommended now)) :
    Within R (recordRunFailure id reason maxAttempts) := by
  refine within_bind (shaped_writeEdit hR fun _ => hfail) fun it => ?_
  dsimp only
  refine within_bind (within_when fun _ =>
    within_bind (within_attempt (shaped_transition_of_ne hR (hmove _) nofun)) fun _ =>
      within_pure ()) fun _ => ?_
  split
  · exact within_bind (shaped_transitionOrMessage hR (hmove _) nofun) fun _ =>
      within_bind (within_story hR.toLax _ _) fun _ => within_pure _
  · exact shaped_escalate hR (hmove _) (hask _ _ _)

lemma shaped_proposeSplit {id : ItemId} {agentId : String} {children : List SplitChildSpec}
    {maxChildren : ℕ} (hmove : ∀ target, M id target agentId)
    (hpropose : ∀ proposal, E id (WorkItem.withProposal proposal))
    (hask : ∀ question options recommended now,
      E id (WorkItem.asking question options recommended now)) :
    Within R (proposeSplit id agentId children maxChildren) := by
  refine within_bind (within_getOr hR.toLax id _) fun card =>
    within_bind (within_failIf _ _) fun _ => ?_
  split
  · exact within_bind (within_attempt (shaped_escalate hR (hmove _) (hask _ _ _))) fun _ =>
      within_fail _
  · refine within_bind (within_ret _) fun _ => ?_
    split
    · exact within_fail _
    · exact within_bind (within_getOr hR.toLax _ _) fun _ =>
        within_bind (within_read hR.toLax _) fun _ => within_bind (within_failIf _ _) fun _ =>
          within_bind (within_ret _) fun _ => within_bind (within_failIf _ _) fun _ =>
            within_bind (shaped_setProposal hR (hpropose _)) fun _ =>
              within_bind (shaped_transitionOrMessage hR (hmove _) nofun) fun _ =>
                within_bind (within_story hR.toLax _ _) fun _ => within_pure _

lemma shaped_answerEscalation {id : ItemId} {choice : String} (hmove : M id .backlog "human")
    (hanswer : ∀ now, E id (WorkItem.answered choice now)) (hhold : ∀ now, E id (heldForHost now)) :
    Within R (answerEscalation id choice) := by
  refine within_bind (within_write fun _ s => shaped_answerSection hR (hanswer _) s) fun asked =>
    within_bind (shaped_transitionOrMessage hR hmove nofun) fun item =>
      within_bind (within_story hR.toLax _ _) fun _ => ?_
  split
  · exact shaped_holdForHost hR hhold
  · exact within_pure item

lemma shaped_park {id : ItemId} {reason : Option String} (hmove : M id .backlog "human")
    (hnote : ∀ reason now, E id (notedPark reason now)) (hhold : E id WorkItem.held) :
    Within R (park id reason) :=
  within_bind (shaped_writeEdit hR (hnote _)) fun _ =>
    within_bind (shaped_transitionOrMessage hR hmove nofun) fun _ =>
      within_bind (shaped_writeEdit hR fun _ => hhold) fun _ =>
        within_bind (within_emit hR.toLax _) fun _ =>
          within_bind (within_story hR.toLax _ _) fun _ => within_pure _

lemma shaped_halt {id : ItemId} {reason : Option String} (hmove : M id .backlog "human")
    (hwipe : E id WorkItem.wiped) : Within R (halt id reason) :=
  within_bind (shaped_editQuietly hR fun _ => hwipe) fun _ =>
    within_bind (shaped_transitionOrMessage hR hmove nofun) fun _ =>
      within_bind (within_story hR.toLax _ _) fun _ => within_pure _

lemma shaped_cutWalk {reason : Option String} (hmove : ∀ id, M id .retired "human") (fuel : ℕ)
    (stack touched : List ItemId) : Within R (cutWalk reason fuel stack touched : Method ε _) := by
  induction fuel generalizing stack touched with
  | zero => exact within_pure touched
  | succ fuel ih =>
    cases stack with
    | nil => exact within_pure touched
    | cons cur stack =>
      refine within_bind (within_childrenOf hR.toLax cur) fun kids =>
        within_bind (within_attempt (shaped_transition_of_ne hR (hmove cur) nofun)) fun r => ?_
      cases r with
      | ok item => exact ih _ _
      | error e => exact ih _ _

lemma shaped_cutScope {fuel : ℕ} {id : ItemId} {reason : Option String}
    (hmove : ∀ id, M id .retired "human") : Within R (cutScope fuel id reason) :=
  within_bind (shaped_cutWalk hR hmove _ _ _) fun _ => within_bind (within_get hR.toLax id) fun _ =>
    within_bind (within_onSome fun _ => within_story hR.toLax _ _) fun _ => within_pure _

lemma shaped_requestChanges {id : ItemId} {note : String} (hmove : M id .backlog "human")
    (hsteer : ∀ text now, E id (WorkItem.steered text now)) (hdrop : E id WorkItem.unproposed) :
    Within R (requestChanges id note) :=
  within_bind (shaped_editOr hR (hsteer _)) fun _ =>
    within_bind (shaped_editQuietly hR fun _ => hdrop) fun _ =>
      within_bind (shaped_transitionOrMessage hR hmove nofun) fun _ =>
        within_bind (within_emit hR.toLax _) fun _ =>
          within_bind (within_story hR.toLax _ _) fun _ => within_pure _

lemma shaped_bounceForRebase {id : ItemId} (hmove : M id .backlog "human")
    (hnote : ∀ reason now, E id (notedPark reason now)) (hhold : E id WorkItem.held)
    (hunhold : E id WorkItem.unheld) (hqueue : E id WorkItem.queued) :
    Within R (bounceForRebase id : Method ε Unit) :=
  within_bind (within_read hR.toLax _) fun _ => within_when fun _ =>
    within_bind (within_attempt (shaped_park hR hmove hnote hhold)) fun _ => within_onSome fun _ =>
      within_bind (within_attempt (shaped_unpark hR hunhold hqueue)) fun _ => within_pure _

lemma shaped_steerLiveCard {id : ItemId} (hmove : M id .backlog "human")
    (hsteer : ∀ text now, E id (WorkItem.steered text now))
    (hnote : ∀ reason now, E id (notedPark reason now)) (hhold : E id WorkItem.held)
    (hunhold : E id WorkItem.unheld) (hqueue : E id WorkItem.queued)
    (advancedRepo refName : String) (commitSha : Option String) (steered : List ItemId) :
    Within R (steerLiveCard advancedRepo refName commitSha steered id) := by
  refine within_bind (within_cardMatchesMainAdvancedRepo hR.toLax _ _) fun matched => ?_
  split
  · exact within_pure _
  · refine within_bind (within_readOr hR.toLax _ _) fun _ =>
      within_bind (within_cardRepo hR.toLax _) fun _ =>
        within_bind (within_readOr hR.toLax _ _) fun _ => ?_
    split
    · exact within_pure _
    · refine within_bind (within_attempt (shaped_editOr hR (hsteer _))) fun r => ?_
      cases r with
      | error e => exact within_pure _
      | ok item =>
        exact within_bind (within_story hR.toLax _ _) fun _ =>
          within_bind (within_when fun _ =>
            shaped_bounceForRebase hR hmove hnote hhold hunhold hqueue) fun _ => within_pure _

lemma shaped_notifyMainAdvanced {advancedRepo refName : String} {commitSha : Option String}
    (hmove : ∀ id, M id .backlog "human")
    (hsteer : ∀ id text now, E id (WorkItem.steered text now))
    (hnote : ∀ id reason now, E id (notedPark reason now)) (hhold : ∀ id, E id WorkItem.held)
    (hunhold : ∀ id, E id WorkItem.unheld) (hqueue : ∀ id, E id WorkItem.queued) :
    Within R (notifyMainAdvanced advancedRepo refName commitSha) :=
  within_publish hR.toLax (fun _ => rfl) fun _ =>
      within_bind (within_read hR.toLax _) fun _ =>
        within_foldlM (fun _ id => shaped_steerLiveCard hR (hmove id) (hsteer id) (hnote id)
          (hhold id) (hunhold id) (hqueue id) _ _ _ _) _

lemma shaped_recordRebaseOutcome {id : ItemId} {outcome : RebaseOutcome}
    (hmove : ∀ target, M id target "rebase") (hclean : E id WorkItem.rebasedClean)
    (hnote : ∀ reason files now, E id (WorkItem.conflicted reason files now))
    (hask : ∀ question options recommended now,
      E id (WorkItem.asking question options recommended now))
    (hunqueue : E id WorkItem.unqueued) : Within R (recordRebaseOutcome id outcome) := by
  refine within_bind (within_readOr hR.toLax id _) fun before =>
    within_bind (within_failIf _ _) fun _ => ?_
  cases outcome with
  | clean =>
    refine within_bind (within_write fun _ s => ?_) fun _ =>
      within_bind (within_emit hR.toLax _) fun _ => within_pure _
    have h := shaped_tryEdit hR s s!"no such item #{id}" hclean
    split
    · rename_i hedit
      rw [hedit] at h
      exact h
    · rename_i hedit
      rw [hedit] at h
      exact h
  | conflict files reason =>
    dsimp only
    split
    · exact within_bind (shaped_editQuietly hR (hnote _ _)) fun _ =>
        shaped_escalate hR (hmove _) (hask _ _ _)
    · exact within_bind (within_write fun now s =>
        shaped_conflictSection hR (hmove _) (hnote _ _) hunqueue now s) fun _ =>
          within_bind (within_emit hR.toLax _) fun _ =>
            within_bind (within_story hR.toLax _ _) fun _ => within_pure _

lemma shaped_applyPrReviewFeedback {prUrl : String} {prNumber : Option ℕ}
    {reviewState byWhom : String} (hmove : ∀ id byWhom, M id .backlog byWhom)
    (hreview : ∀ id byWhom text now, E id (WorkItem.reviewed byWhom text now)) :
    Within R (applyPrReviewFeedback prUrl prNumber reviewState byWhom : Method ε _) := by
  unfold applyPrReviewFeedback
  dsimp only
  split
  · exact within_pure none
  · refine within_bind (within_read hR.toLax _) fun found => ?_
    cases found with
    | none => exact within_pure none
    | some id =>
      refine within_bind (within_attempt (shaped_writeEdit hR (hreview id _ _))) fun noted => ?_
      cases noted with
      | error e => exact within_pure none
      | ok it =>
        refine within_bind (within_attempt
          (shaped_transition_of_ne hR (hmove id _) nofun)) fun moved => ?_
        cases moved with
        | error e => exact within_pure none
        | ok item =>
          exact within_bind (within_emit hR.toLax _) fun _ =>
            within_bind (within_story hR.toLax _ _) fun _ => within_pure _

end Unicode

end Shapes

/-! ## Methods with new cards -/

section Admits

variable {I : Board → Prop} {R₀ : BoardState → BoardState → Prop} (hR : Admits I E R₀ R)

include hR

lemma covered_moves (id : ItemId) (target : State) (byWhom : String) (reason : Option String) :
    WithinOn I R (transitionOn id target byWhom reason) :=
  hR.on (shaped_transitionOn hR.toShapes trivial)

lemma covered_setBlockedBy (id : ItemId) (blockers : List ItemId) :
    WithinOn I R (setBlockedBy id blockers : Method ε Unit) :=
  hR.on (shaped_editIf hR.toShapes (hR.link id blockers))

lemma covered_linkRow (keyToId : List (String × ItemId)) (spec : PlanTaskSpec) :
    WithinOn I R (linkRow keyToId spec) :=
  withinOn_onSome fun _ => withinOn_when fun _ => covered_setBlockedBy hR _ _

lemma covered_createWith {seed : ItemId → Method String WorkItem}
    (hseed : ∀ id, WithinOn I R (seed id)) (c : NewCard) : WithinOn I R (createWith seed c) := by
  refine withinOn_bind (hR.on (within_read hR.toLax _)) fun _ =>
    withinOn_bind (withinOn_ret _) fun _ => ?_
  have hrest : ∀ item : WorkItem, WithinOn I R (emit item >>= fun _ =>
      Locked.when item.isProject ((seed item.id).attempt >>= fun _ => pure ()) >>= fun _ =>
        get item.id >>= fun fresh => (pure (fresh.getD item) : Method String WorkItem)) :=
    fun item => withinOn_bind (hR.on (within_emit hR.toLax item)) fun _ =>
      withinOn_bind (withinOn_when fun _ =>
        withinOn_bind (withinOn_attempt (hseed item.id)) fun _ => withinOn_pure ()) fun _ =>
        withinOn_bind (hR.on (within_get hR.toLax item.id)) fun _ => withinOn_pure _
  refine withinOn_readSchema_bind hR.lax.refl (fun b hb => ?_) fun schema => ?_
  · exact .bind (.atomic fun b' _ => hR.insert b _ c b'.state hb) fun item => (hrest item).sections
  · exact .bind (.atomic fun _ => ⟨rfl, rfl, rfl, rfl, rfl⟩) fun item => (hrest item).emits

lemma covered_createUnder (c : NewCard) : WithinOn I R (createUnder c) :=
  covered_createWith hR (fun _ => withinOn_fail _) c

lemma covered_approveLegacy {approvePlan : ItemId → Method String (List ItemId)}
    (happrove : ∀ id, WithinOn I R (approvePlan id)) (id parent : ItemId) :
    WithinOn I R (approveLegacy approvePlan id parent) :=
  withinOn_bind (happrove parent) fun _ =>
    withinOn_bind (hR.on (within_getOr hR.toLax id _)) fun _ =>
    withinOn_bind (hR.on (within_story hR.toLax _ _)) fun _ => withinOn_pure _

lemma covered_adoptLegacyPlan (seedId : ItemId) (seed : WorkItem) :
    WithinOn I R (adoptLegacyPlan seedId seed) :=
  withinOn_onSome fun _ => withinOn_bind (hR.on (within_get hR.toLax _)) fun _ =>
    withinOn_onSome fun _ =>
    withinOn_bind (hR.on (shaped_setProposal hR.toShapes (hR.propose _ _))) fun _ =>
      hR.on (shaped_editIf hR.toShapes (hR.unplan _))

lemma covered_approvePlanWith {approveReview : ItemId → Method String WorkItem}
    (happrove : ∀ id, WithinOn I R (approveReview id)) (id : ItemId) :
    WithinOn I R (approvePlanWith approveReview id) :=
  withinOn_bind (hR.on (within_resolveInitialPlanId hR.toLax id)) fun seedId =>
    withinOn_bind (hR.on (within_getOr hR.toLax seedId _)) fun seed =>
      withinOn_bind (withinOn_failIf _ _) fun _ =>
        withinOn_bind (withinOn_when fun _ => covered_adoptLegacyPlan hR seedId seed) fun _ =>
          withinOn_bind (hR.on (within_getOr hR.toLax seedId _)) fun _ =>
            withinOn_bind (withinOn_failIf _ _) fun _ => withinOn_bind (happrove seedId) fun _ =>
              withinOn_bind (withinOn_failIf _ _) fun _ => withinOn_pure _

section Unicode

variable [UnicodeTables]

lemma covered_seedInitialPlan (projectId : ItemId) : WithinOn I R (seedInitialPlan projectId) := by
  refine withinOn_bind (hR.on (within_getOr hR.toLax projectId _)) fun project =>
    withinOn_bind (withinOn_failIf _ _) fun _ =>
      withinOn_bind (hR.on (within_read hR.toLax _)) fun existing => ?_
  cases existing with
  | some existing => exact withinOn_pure existing
  | none =>
    exact withinOn_bind (covered_createUnder hR _) fun _ =>
      withinOn_bind (withinOn_attempt (covered_moves hR _ _ _ _)) fun _ =>
        withinOn_bind (withinOn_mapErr (covered_moves hR _ _ _ _)) fun _ =>
          withinOn_bind (hR.on (within_story hR.toLax _ _)) fun _ => withinOn_pure _

lemma covered_create (c : NewCard) : WithinOn I R (create c) :=
  covered_createWith hR (covered_seedInitialPlan hR) c

lemma covered_createProject {title intent cloneRepo : String} {aboveLine : Bool}
    {projectPrompt : Option String} (hupdate : ∀ id t i d e p, E id (updated t i d e p)) :
    WithinOn I R (createProject title intent cloneRepo aboveLine projectPrompt) :=
  withinOn_bind (withinOn_ret _) fun _ => withinOn_bind (covered_create hR _) fun _ =>
    withinOn_bind (withinOn_onSome fun _ => withinOn_bind (withinOn_attempt
      (hR.on (shaped_editOr hR.toShapes fun _ => hupdate _ _ _ _ _ _))) fun _ => withinOn_pure ())
      fun _ => withinOn_bind (withinOn_attempt (covered_seedInitialPlan hR _)) fun _ =>
        withinOn_bind (hR.on (within_get hR.toLax _)) fun _ => withinOn_pure _

lemma covered_createTask (parent : ItemId) (title intent definitionOfDone : String)
    (blockedBy : List ItemId) (capability : Option String) (aboveLine : Bool) :
    WithinOn I R (createTask parent title intent definitionOfDone blockedBy capability aboveLine) :=
  withinOn_bind (hR.on (within_getOr hR.toLax parent _)) fun _ =>
    withinOn_bind (withinOn_failIf _ _) fun _ =>
    withinOn_bind (withinOn_failIf _ _) fun _ => withinOn_bind (covered_createUnder hR _) fun _ =>
      withinOn_bind (withinOn_mapErr (covered_moves hR _ _ _ _)) fun _ =>
        withinOn_bind (withinOn_mapErr (covered_moves hR _ _ _ _)) fun _ =>
          withinOn_bind (withinOn_when fun _ => covered_setBlockedBy hR _ _) fun _ =>
            withinOn_bind (hR.on (within_get hR.toLax _)) fun _ => withinOn_pure _

lemma covered_materializeRow (card : WorkItem) (projectId : ItemId) (byWhom : String)
    (origin : Origin) (existing : List (String × WorkItem)) (acc : Materialized)
    (spec : PlanTaskSpec) :
    WithinOn I R (materializeRow card projectId byWhom origin existing acc spec) := by
  unfold materializeRow
  split
  · exact withinOn_pure _
  · exact withinOn_bind (covered_createUnder hR _) fun _ =>
      withinOn_bind (withinOn_mapErr (covered_moves hR _ _ _ _)) fun _ =>
        withinOn_bind (withinOn_mapErr (covered_moves hR _ _ _ _)) fun _ => withinOn_pure _

lemma covered_materializeProposal (id : ItemId) (byWhom : String) (origin : Origin) :
    WithinOn I R (materializeProposal id byWhom origin) := by
  refine withinOn_bind (hR.on (within_getOr hR.toLax id _)) fun card => ?_
  dsimp only
  split
  · exact withinOn_fail _
  · exact withinOn_fail _
  · exact withinOn_bind (hR.on (within_read hR.toLax _)) fun _ =>
      withinOn_bind (withinOn_foldlM (fun _ _ =>
        covered_materializeRow hR _ _ _ _ _ _ _) _) fun _ =>
        withinOn_bind (withinOn_forM fun _ => covered_linkRow hR _ _) fun _ =>
          withinOn_bind (hR.on (shaped_editIf hR.toShapes (hR.settle _ _ _))) fun _ =>
            withinOn_pure _

lemma covered_materializeProposalOnDone (id : ItemId) (byWhom : String) :
    WithinOn I R (materializeProposalOnDone id byWhom) := by
  refine withinOn_bind (hR.on (within_get hR.toLax id)) fun card => ?_
  cases card with
  | none => exact withinOn_pure 0
  | some card =>
    dsimp only
    split
    · exact withinOn_pure 0
    · split
      · exact withinOn_pure 0
      · exact withinOn_bind (covered_materializeProposal hR _ _ _) fun _ =>
          withinOn_bind (withinOn_onSome fun _ =>
            hR.on (shaped_editIf hR.toShapes (hR.unplan _))) fun _ =>
            withinOn_bind (hR.on (within_story hR.toLax _ _)) fun _ => withinOn_pure _

lemma covered_transition (id : ItemId) (target : State) (byWhom : String)
    (reason : Option String) : WithinOn I R (transition id target byWhom reason) :=
  withinOn_bind (hR.on (within_write fun _ s => hR.move s _ reason trivial)) fun item =>
    withinOn_bind (hR.on (within_emit hR.toLax item)) fun _ =>
      withinOn_bind (withinOn_when fun _ => withinOn_bind
        (withinOn_attempt (covered_materializeProposalOnDone hR id byWhom)) fun _ =>
          hR.on (within_announceUnblocked hR.toLax id)) fun _ =>
        withinOn_bind (hR.on (within_get hR.toLax id)) fun _ => withinOn_pure _

lemma covered_transitionOrMessage (id : ItemId) (target : State) (byWhom reason : String) :
    WithinOn I R (transitionOrMessage id target byWhom reason) :=
  withinOn_mapErr (covered_transition hR _ _ _ _)

lemma covered_materializePendingProposal (id : ItemId) :
    WithinOn I R (materializePendingProposal id) :=
  withinOn_bind (hR.on (within_getOr hR.toLax id _)) fun _ =>
    withinOn_bind (withinOn_failIf _ _) fun _ =>
    withinOn_bind (covered_materializeProposal hR _ _ _) fun _ =>
      withinOn_bind (withinOn_when fun _ => hR.on (within_story hR.toLax _ _)) fun _ =>
        withinOn_pure _

lemma covered_healEpic (healed : ℕ) (project : ItemId × State) :
    WithinOn I R (healEpic healed project : Method ε ℕ) := by
  obtain ⟨pid, state⟩ := project
  refine withinOn_bind (hR.on (within_read hR.toLax _)) fun allDone => ?_
  split
  · exact withinOn_bind (withinOn_when fun _ =>
      withinOn_bind (withinOn_attempt (covered_transition hR _ _ _ _)) fun _ => withinOn_pure ())
      fun _ => withinOn_bind (withinOn_attempt (covered_transition hR _ _ _ _)) fun _ =>
        withinOn_pure _
  · exact withinOn_pure healed

lemma covered_healCompletedEpics : WithinOn I R (healCompletedEpics : Method ε ℕ) :=
  withinOn_bind (hR.on (within_read hR.toLax _)) fun _ => withinOn_foldlM (covered_healEpic hR) 0

lemma covered_unarchiveOne (hunlease : ∀ id, E id WorkItem.unleased) (reason : Option String)
    (touched : List ItemId) (cur : ItemId) : WithinOn I R (unarchiveOne reason touched cur) := by
  refine withinOn_bind (hR.on (within_get hR.toLax cur)) fun item => ?_
  split
  · exact withinOn_pure touched
  · exact withinOn_bind (hR.on (within_childrenOf hR.toLax cur)) fun _ =>
      withinOn_bind (withinOn_mapErr (covered_transition hR _ _ _ _)) fun _ =>
        withinOn_bind (hR.on (shaped_editQuietly hR.toShapes fun _ => hunlease cur)) fun _ =>
          withinOn_pure _

lemma covered_unarchiveScope (hunlease : ∀ id, E id WorkItem.unleased) (fuel : ℕ) (id : ItemId)
    (reason : Option String) : WithinOn I R (unarchiveScope fuel id reason) :=
  withinOn_bind (hR.on (within_getOr hR.toLax id _)) fun _ =>
    withinOn_bind (withinOn_failIf _ _) fun _ =>
    withinOn_bind (hR.on (within_subtreeWalk hR.toLax _ _ _)) fun _ =>
      withinOn_bind (withinOn_foldlM (covered_unarchiveOne hR hunlease _) _) fun _ =>
        withinOn_bind (hR.on (within_get hR.toLax id)) fun _ =>
          withinOn_bind (withinOn_onSome fun _ => hR.on (within_story hR.toLax _ _)) fun _ =>
            withinOn_pure _

lemma covered_approvePlain (id : ItemId) : WithinOn I R (approvePlain id) :=
  withinOn_bind (covered_transitionOrMessage hR _ _ _ _) fun _ =>
    withinOn_bind (hR.on (within_story hR.toLax _ _)) fun _ => withinOn_pure _

lemma covered_approveProposal (id : ItemId) : WithinOn I R (approveProposal id) :=
  withinOn_bind (covered_transitionOrMessage hR _ _ _ _) fun _ =>
    withinOn_bind (hR.on (within_story hR.toLax _ _)) fun _ => withinOn_pure _

lemma covered_approveReviewWith {approvePlan : ItemId → Method String (List ItemId)}
    (happrove : ∀ id, WithinOn I R (approvePlan id)) (id : ItemId) :
    WithinOn I R (approveReviewWith approvePlan id) := by
  refine withinOn_bind (hR.on (within_getOr hR.toLax id _)) fun item => ?_
  split
  · exact covered_approveProposal hR id
  · split
    · exact covered_approvePlain hR id
    · refine withinOn_bind (hR.on (within_get hR.toLax _)) fun parent => ?_
      dsimp only
      split
      · exact covered_approveLegacy hR happrove id _
      · exact covered_approvePlain hR id

lemma covered_approveReview (fuel : ℕ) (id : ItemId) : WithinOn I R (approveReview fuel id) := by
  induction fuel generalizing id with
  | zero => exact withinOn_fail _
  | succ fuel ih => exact covered_approveReviewWith hR (covered_approvePlanWith hR ih) id

lemma covered_approvePlan (fuel : ℕ) (id : ItemId) : WithinOn I R (approvePlan fuel id) :=
  covered_approvePlanWith hR (covered_approveReview hR fuel) id

lemma covered_completeForMergedPr {prUrl : String}
    (hmark : ∀ id needle, E id (WorkItem.withPrMerged needle)) (prNumber : Option ℕ)
    (byWhom : String) :
    WithinOn I R (completeForMergedPr prUrl prNumber byWhom : Method ε _) := by
  unfold completeForMergedPr
  dsimp only
  split
  · exact withinOn_pure none
  · refine withinOn_bind (hR.on (within_read hR.toLax _)) fun found => ?_
    cases found with
    | none => exact withinOn_pure none
    | some id =>
      refine withinOn_bind (withinOn_attempt
        (hR.on (shaped_editOr hR.toShapes fun _ => hmark id _))) fun r => ?_
      cases r with
      | error e => exact withinOn_pure none
      | ok it =>
        dsimp only
        split
        · exact withinOn_bind (hR.on (within_get hR.toLax _)) fun _ =>
            withinOn_bind (hR.on (within_story hR.toLax _ _)) fun _ => withinOn_pure none
        · split
          · exact withinOn_pure none
          · refine withinOn_bind (withinOn_attempt (covered_transition hR _ _ _ _)) fun done => ?_
            cases done with
            | error e => exact withinOn_pure none
            | ok item => exact withinOn_bind (hR.on (within_story hR.toLax _ _)) fun _ =>
              withinOn_pure _

end Unicode

end Admits

end Board

/-! ## Operations -/

/-- The edits of the operation are among `E`, apart from those that `Covers` has anyway. -/
def Operation.EditsIn (E : ItemId → (WorkItem → WorkItem) → Prop) : Operation → Prop
  | createProject .. => ∀ id t i d e p, E id (Board.updated t i d e p)
  | setProjectSandboxProfile id _ => ∀ profile, E id (WorkItem.withSandboxProfile profile)
  | clearRunFailures id => E id WorkItem.unfailed
  | setEnvironment id sandbox => E id (WorkItem.inSandbox sandbox)
  | setConversationId id conversationId => E id (WorkItem.inConversation conversationId)
  | setPullRequests id prs => E id (WorkItem.withPullRequests prs)
  | setPrUrl id _ => ∀ prs, E id (WorkItem.withPullRequests prs)
  | updateItem id t i d e p => E id (Board.updated t i d e p)
  | enqueueDispatch id => E id WorkItem.queued
  | clearDispatch id => E id WorkItem.unqueued
  | setAutoDispatch id enabled => E id (WorkItem.inAuto enabled) ∧
      (∀ k, E k WorkItem.queued) ∧ ∀ k, E k WorkItem.unqueued
  | autoEnqueueProject _ | autoEnqueueAll => ∀ k, E k WorkItem.queued
  | claim id agentId model _ =>
    ∀ granted deadline, E id (WorkItem.granted agentId granted deadline model)
  | reopenForAdoption id agentId _ =>
    ∀ granted deadline, E id (WorkItem.leased agentId granted deadline)
  | heartbeat id .. => ∀ now progress, E id (WorkItem.beaten now progress)
  | escalate id _ question options recommended =>
    ∀ now, E id (WorkItem.asking question options recommended now)
  | report id _ added removed gates => E id (WorkItem.reported added removed gates)
  | releaseWithReason id .. => ∀ reason, E id (WorkItem.bounced reason)
  | recordRunFailure id .. => E id Board.failedOnce ∧
      ∀ question options recommended now, E id (WorkItem.asking question options recommended now)
  | proposeSplit id .. =>
    ∀ question options recommended now, E id (WorkItem.asking question options recommended now)
  | steer id text => ∀ now, E id (WorkItem.steered text now)
  | answerEscalation id choice =>
    (∀ now, E id (WorkItem.answered choice now)) ∧ ∀ now, E id (Board.heldForHost now)
  | park id _ => (∀ reason now, E id (Board.notedPark reason now)) ∧ E id WorkItem.held
  | unpark id => E id WorkItem.unheld ∧ E id WorkItem.queued
  | halt id _ => E id WorkItem.wiped
  | unarchiveScope .. => ∀ k, E k WorkItem.unleased
  | requestChanges id _ => (∀ text now, E id (WorkItem.steered text now)) ∧ E id WorkItem.unproposed
  | reportPullRequest id _ => ∀ needle pr, E id (WorkItem.withReportedPr needle pr)
  | notifyMainAdvanced .. => (∀ k text now, E k (WorkItem.steered text now)) ∧
      (∀ k reason now, E k (Board.notedPark reason now)) ∧ (∀ k, E k WorkItem.held) ∧
      (∀ k, E k WorkItem.unheld) ∧ ∀ k, E k WorkItem.queued
  | dispatchRebase id => E id WorkItem.catchingUp
  | recordRebaseOutcome id _ => E id WorkItem.rebasedClean ∧
      (∀ reason files now, E id (WorkItem.conflicted reason files now)) ∧
      (∀ question options recommended now,
        E id (WorkItem.asking question options recommended now)) ∧ E id WorkItem.unqueued
  | completeForMergedPr .. => ∀ k needle, E k (WorkItem.withPrMerged needle)
  | applyPrReviewFeedback .. => ∀ k byWhom text now, E k (WorkItem.reviewed byWhom text now)
  | _ => True

namespace Board

variable {I : Board → Prop} {E : ItemId → (WorkItem → WorkItem) → Prop}
  {R₀ R : BoardState → BoardState → Prop} [UnicodeTables]

/-- The sections of an operation respect every relation that allows its edits. -/
theorem admitted_method (hR : Admits I E R₀ R) (hdelete : ∀ id s, R s (deleteSection id s).2)
    {op : Operation} (h : op.EditsIn E) : WithinOn I R op.method := by
  have hS := hR.toShapes
  have hL := hR.toLax
  cases op with
  | create c => exact withinOn_silent (covered_create hR c)
  | createProject => exact withinOn_silent (covered_createProject hR h)
  | createTask => exact withinOn_silent (covered_createTask hR _ _ _ _ _ _ _)
  | seedInitialPlan id => exact withinOn_silent (covered_seedInitialPlan hR id)
  | proposePlan =>
    exact hR.on (within_silent (within_proposePlan hL fun s _ _ => hR.edit s (hR.propose _ _)))
  | setProposal => exact hR.on (within_silent (shaped_setProposal hS (hR.propose _ _)))
  | approvePlan => exact withinOn_silent (covered_approvePlan hR _ _)
  | materializePendingProposal => exact withinOn_silent (covered_materializePendingProposal hR _)
  | healCompletedEpics => exact withinOn_silent (covered_healCompletedEpics hR)
  | setProjectSandboxProfile =>
    exact hR.on (within_silent (within_setProjectSandboxProfile hL fun s _ => hR.edit s (h _)))
  | setSandboxProfiles ids => exact hR.on (within_setSandboxProfiles hL ids)
  | clearRunFailures => exact hR.on (shaped_editIf hS h)
  | setEnvironment => exact hR.on (shaped_editIf hS h)
  | setConversationId => exact hR.on (shaped_editIf hS h)
  | setPullRequests => exact hR.on (shaped_editIf hS h)
  | setPrUrl => exact hR.on (within_setPrUrl hL fun s _ => hR.edit s (h _))
  | setBlockedBy => exact covered_setBlockedBy hR _ _
  | updateItem => exact hR.on (within_silent (shaped_editOr hS fun _ => h))
  | transition => exact withinOn_silent (covered_transition hR _ _ _ _)
  | enqueueDispatch id => exact hR.on (within_silent (shaped_enqueueDispatch hS h))
  | clearDispatch => exact hR.on (within_silent (shaped_editOr hS fun _ => h))
  | setAutoDispatch =>
    exact hR.on (within_silent (within_setAutoDispatch hL (fun s => hR.edit s h.1)
      (fun s id => shaped_enqueueSection hS (h.2.1 id) s) fun s id => hR.edit s (h.2.2 id)))
  | autoEnqueueProject =>
    exact hR.on (within_autoEnqueueProject hL fun s id => shaped_enqueueSection hS (h id) s)
  | autoEnqueueAll =>
    exact hR.on (within_autoEnqueueAll hL fun s id => shaped_enqueueSection hS (h id) s)
  | claim =>
    exact hR.on (within_silent (within_claim hL fun s granted deadline now =>
      shaped_claimSection hS trivial (h granted deadline) now s))
  | reopenForAdoption =>
    exact hR.on (within_silent (within_reopenForAdoption hL fun s granted deadline now =>
      shaped_reopenSection hS trivial (h granted deadline) now s))
  | heartbeat =>
    exact hR.on (within_silent (within_heartbeat hL fun s now =>
      shaped_heartbeatSection hS trivial h now s))
  | escalate => exact hR.on (within_silent (shaped_escalate hS trivial h))
  | report => exact hR.on (within_silent (shaped_report hS trivial h))
  | releaseWithReason =>
    exact hR.on (within_silent (within_releaseWithReason hL fun s now =>
      shaped_releaseSection hS trivial h now s))
  | sweepLeases => exact hR.on (within_silent (shaped_sweepLeases hS fun _ => trivial))
  | recordRunFailure =>
    exact hR.on (within_silent (shaped_recordRunFailure hS (fun _ => trivial) h.1 h.2))
  | proposeSplit =>
    exact hR.on (within_silent (shaped_proposeSplit hS (fun _ => trivial) (hR.propose _) h))
  | steer => exact hR.on (within_silent (shaped_editOr hS h))
  | answerEscalation => exact hR.on (within_silent (shaped_answerEscalation hS trivial h.1 h.2))
  | park => exact hR.on (within_silent (shaped_park hS trivial h.1 h.2))
  | unpark => exact hR.on (within_silent (shaped_unpark hS h.1 h.2))
  | halt => exact hR.on (within_silent (shaped_halt hS trivial h))
  | cutScope => exact hR.on (within_silent (shaped_cutScope hS fun _ => trivial))
  | unarchiveScope => exact withinOn_silent (covered_unarchiveScope hR h _ _ _)
  | deleteItem => exact (within_silent (within_deleteItem hR.lax (hdelete _))).on fun h => h
  | approveReview => exact withinOn_silent (covered_approveReview hR _ _)
  | requestChanges => exact hR.on (within_silent (shaped_requestChanges hS trivial h.1 h.2))
  | story => exact hR.on (within_story hL _ _)
  | reportPullRequest =>
    exact hR.on (within_silent (within_reportPullRequest hL fun s _ _ => hR.edit s (h _ _)))
  | notifyMainAdvanced =>
    exact hR.on (within_silent (shaped_notifyMainAdvanced hS (fun _ => trivial) h.1 h.2.1 h.2.2.1
      h.2.2.2.1 h.2.2.2.2))
  | dispatchRebase id =>
    exact hR.on (within_silent (within_dispatchRebase hL (shaped_dispatchRebaseSection hS h)))
  | recordRebaseOutcome =>
    exact hR.on (within_silent (shaped_recordRebaseOutcome hS (fun _ => trivial) h.1 h.2.1 h.2.2.1
      h.2.2.2))
  | completeForMergedPr prUrl prNumber byWhom =>
    exact withinOn_silent (covered_completeForMergedPr hR h prNumber byWhom :
      WithinOn I R (Board.completeForMergedPr prUrl prNumber byWhom : Method Empty _))
  | applyPrReviewFeedback prUrl prNumber reviewState byWhom =>
    exact hR.on (within_silent (shaped_applyPrReviewFeedback hS (fun _ _ => trivial) h :
      Within R₀ (Board.applyPrReviewFeedback prUrl prNumber reviewState byWhom : Method Empty _)))
  | flush => exact hR.on (within_flush hL)

/-- The sections of an operation respect every relation that allows its edits and new cards. -/
theorem covered_method (hR : Covers E R) (hdelete : ∀ id s, R s (deleteSection id s).2)
    {op : Operation} (h : op.EditsIn E) : Within R op.method :=
  (admitted_method hR.admits hdelete h).within

/-- An operation takes the board to one that is related to it. -/
theorem covered_exec (hR : Covers E R) (hdelete : ∀ id s, R s (deleteSection id s).2)
    {op : Operation} (h : op.EditsIn E) (b : Board) : R b.state (b.exec op).state :=
  (covered_method hR hdelete h).run_state hR.refl (fun _ _ _ => hR.trans) b

end Board

end Sandboard

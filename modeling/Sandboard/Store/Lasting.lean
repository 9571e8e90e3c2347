import Sandboard.Store.Sustaining

/-!
# Invariants that outlast a run

An invariant with the rules of `Hush` is also kept by the methods that change a card without
an event, and so by every operation that the licence permits.  The deletion of a card, which is
neither work on one card nor the insertion of one, is left to each invariant, and so is the cut
of a scope where the licence restricts it.
-/

namespace Sandboard

open Std Text BoardState

namespace Board

variable {ε α β : Type} {I : Board → Prop} {L : Licence}

section Unicode

variable [UnicodeTables]

section Hush

variable (H : Hush L I)

/-! ## Work without its event -/

omit [UnicodeTables] in
/-- A section that leaves the state `s'` worked on one card, or did nothing. -/
def QuietAt (L : Licence) (s s' : BoardState) : Prop :=
  s' = s ∨ ∃ id c c', s.items[id]? = some c ∧ Worked L id s c s' c'

omit [UnicodeTables] in
lemma QuietAt.of_worksAt {s : BoardState} {r : Except ε WorkItem × BoardState}
    (h : WorksAt L s r) : QuietAt L s r.2 := by
  rcases h with ⟨e, rfl⟩ | ⟨id, c, s', c', hc, hworked, rfl | ⟨t, rfl⟩⟩
  · exact Or.inl rfl
  · exact Or.inr ⟨id, c, c', hc, hworked⟩
  · exact Or.inr ⟨id, c, c', hc, hworked⟩

omit [UnicodeTables] in
lemma quietAt_editItem (id : ItemId) {f : WorkItem → WorkItem} (s : BoardState)
    (hf : ∀ i, WorkItem.SameTask i (f i)) : QuietAt L s (s.editItem id f) := by
  cases hc : s.items[id]? with
  | none => exact Or.inl (editItem_of_none hc f)
  | some c => exact Or.inr ⟨id, c, f c, hc, .edit (.refl _ _) hf⟩

include H

lemma sustains_quietly {f : (ℕ → Time) → BoardState → Except ε α × BoardState}
    (hf : ∀ now s, QuietAt L s (f now s).2) : Sustains I (write f) := by
  refine sustains_of_run fun b hs hI => ?_
  rw [run_write]
  rcases hf b.now b.state with hsame | ⟨id, c, c', hc, hworked⟩
  · rw [hsame]
    exact ⟨hs, H.tick hI⟩
  · exact ⟨hs.reshaped (hworked.reshaped hc), H.quiet hs hI hc hworked⟩

lemma sustains_emit (item : WorkItem) : Sustains I (emit item : Method ε Unit) :=
  sustains_of_run fun _ hs hI => ⟨hs, H.aired item hI⟩

lemma sustains_tryEdit {id : ItemId} {e : ε} {f : Time → WorkItem → WorkItem}
    (hf : ∀ now i, WorkItem.SameTask i (f now i)) :
    Sustains I (write fun now s => s.tryEdit id e (f (now 0))) :=
  sustains_quietly H fun _ s => .of_worksAt (worksAt_tryEdit s (hf _))

lemma sustains_editQuietly {id : ItemId} {f : Time → WorkItem → WorkItem}
    (hf : ∀ now i, WorkItem.SameTask i (f now i)) :
    Sustains I (editQuietly id f : Method ε Unit) :=
  sustains_quietly H fun _ s => quietAt_editItem id s (hf _)

/-! ## The agent verbs -/

lemma sustains_escalate (id : ItemId) (agentId question : String)
    (options : List EscalationOption) (recommended : ℕ) :
    Sustains I (escalate id agentId question options recommended) :=
  sustains_bind (sustains_ret _) fun _ =>
    sustains_bind (sustains_tryEdit H fun _ _ => ⟨rfl, Or.inl rfl, fun h => h⟩) fun _ =>
      sustains_bind (sustains_transitionOrMessage H.toUpkeep id (by decide) (by decide) (fun h => absurd h (by decide)) _ _)
        fun item => sustains_bind (sustains_story H.toUpkeep _ _) fun _ => sustains_pure item

lemma sustains_report (id : ItemId) (agentId : String) (added removed : UInt32)
    (gates : List String) : Sustains I (report id agentId added removed gates) :=
  sustains_bind (sustains_editQuietly H fun _ _ => ⟨rfl, Or.inl rfl, fun h => h⟩) fun _ =>
    sustains_transition H.toUpkeep id (by decide) (by decide) (fun h => absurd h (by decide)) _ _

lemma quietAt_releaseSection (id : ItemId) (agentId : String) (reason : Option String)
    (now : Time) (s : BoardState) : QuietAt L s (releaseSection id agentId reason now s).2 := by
  cases reason with
  | none =>
    exact .of_worksAt (worksAt_tryMove now fun _ _ _ => H.moves (by decide) (by decide))
  | some r =>
    have hf : ∀ i : WorkItem, WorkItem.SameTask i (i.bounced r) :=
      fun _ => ⟨rfl, Or.inl rfl, fun h => h⟩
    change QuietAt L s ((s.editItem id (WorkItem.bounced r)).tryMove now id .backlog agentId
      (some r)).2
    cases hc : s.items[id]? with
    | none =>
      rw [editItem_of_none hc, tryMove_missing hc]
      exact Or.inl rfl
    | some c =>
      have hc' : (s.editItem id (WorkItem.bounced r)).items[id]? = some (c.bounced r) := by
        rw [items_editItem_self, hc, Option.map_some]
      by_cases hcheck : (s.editItem id (WorkItem.bounced r)).checkMove id (c.bounced r) .backlog =
          .ok ()
      · rw [tryMove_allowed hc' hcheck]
        exact Or.inr ⟨id, c, _, hc, .move (.edit (.refl _ _) hf) now agentId (some r) hcheck
          (H.moves (by decide) (by decide))⟩
      · obtain ⟨e, hrefused⟩ := tryMove_refused hc' hcheck now agentId (some r)
        rw [hrefused]
        exact Or.inr ⟨id, c, _, hc, .edit (.refl _ _) hf⟩

lemma sustains_releaseWithReason (id : ItemId) (agentId : String) (reason : Option String) :
    Sustains I (releaseWithReason id agentId reason) :=
  sustains_bind (sustains_quietly H fun _ s => quietAt_releaseSection H id agentId reason _ s)
    fun item => sustains_bind (sustains_emit H item) fun _ =>
      sustains_bind (sustains_onSome fun _ => sustains_story H.toUpkeep _ _) fun _ =>
        sustains_pure item

lemma quietAt_heartbeatSection (id : ItemId) (agentId : String) (progress : ℚ) (now : ℕ → Time)
    (s : BoardState) : QuietAt L s (heartbeatSection id agentId progress now s).2 := by
  have hbeat : ∀ i : WorkItem,
      WorkItem.SameTask i (i.beaten (now 1) (max 0 (min progress 1))) :=
    fun _ => ⟨rfl, Or.inl rfl, fun h => h⟩
  unfold heartbeatSection promote
  cases hc : s.items[id]? with
  | none =>
    rw [if_neg (by simp)]
    simp only [hc]
    exact Or.inl rfl
  | some c =>
    by_cases hclaimed : c.state = .claimed
    · rw [if_pos (by simp [hclaimed])]
      cases hcheck : s.checkMove id c .running with
      | error e =>
        rw [transitionLocked_of_error hc hcheck]
        exact Or.inl rfl
      | ok u =>
        have hmoved : (s.moveItem id c (now 0) .running agentId none).items[id]? =
            some (c.moved (now 0) .running agentId none) := by
          rw [items_moveItem, if_pos rfl, hc, Option.map_some]
        rw [transitionLocked_of_ok hc hcheck]
        simp only [Except.map, hmoved]
        exact Or.inr ⟨id, c, _, hc, .edit (.move (.refl _ _) (now 0) agentId none hcheck
          (H.promotes hclaimed)) hbeat⟩
    · rw [if_neg (by simp [hclaimed])]
      simp only [hc]
      exact Or.inr ⟨id, c, _, hc, .edit (.refl _ _) hbeat⟩

lemma sustains_heartbeat (id : ItemId) (agentId : String) (progress : ℚ) (leaseSecs : ℤ) :
    Sustains I (heartbeat id agentId progress leaseSecs) :=
  sustains_bind (sustains_quietly H fun now s => quietAt_heartbeatSection H id agentId _ now s)
    fun _ => sustains_bind (sustains_when fun _ => sustains_emit H _) fun _ => sustains_pure _

/-- Only a Claimed card is promoted. -/
lemma sustains_recordRunFailure (id : ItemId) (reason : String) (maxAttempts : UInt32) :
    Sustains I (recordRunFailure id reason maxAttempts) := by
  have hfailed : ∀ i : WorkItem, WorkItem.SameTask i (failedOnce i) :=
    fun _ => ⟨rfl, Or.inl rfl, fun h => h⟩
  have hend : ∀ it : WorkItem, Sustains I (if it.runFailures < maxAttempts then do
        let item ← transitionOrMessage id .backlog "supervisor" s!"run failed: {reason}"
        story id
          s!"{it.title} failed to run ({it.runFailures.toNat}/{maxAttempts.toNat}): {reason}"
        return item
      else
        escalate id "supervisor"
          (s!"{it.title} failed to run {it.runFailures.toNat} times without producing any work. " ++
            s!"Last failure: {reason}")
          runFailureOptions 0) := by
    intro it
    split
    · exact sustains_bind (sustains_transitionOrMessage H.toUpkeep id (by decide) (by decide) (fun h => absurd h (by decide)) _ _)
        fun item => sustains_bind (sustains_story H.toUpkeep _ _) fun _ => sustains_pure item
    · exact sustains_escalate H _ _ _ _ _
  refine sustains_of_run fun b hs hI => ?_
  unfold recordRunFailure
  cases hc : b.state.items[id]? with
  | none =>
    rw [Locked.run_bind_error (by rw [run_write, tryEdit_none hc])]
    exact ⟨hs, H.tick hI⟩
  | some c =>
    let b₁ := b.stepped (b.state.editItem id failedOnce)
    have hc₁ : b₁.state.items[id]? = some (failedOnce c) := by simp [b₁, hc]
    have h₁ : b₁.state.Sound ∧ I b₁ :=
      ⟨hs.reshaped (.edit id fun i => (hfailed i).sameFrame),
        H.quiet hs hI hc (.edit (.refl _ _) hfailed)⟩
    rw [Locked.run_bind_ok (by rw [run_write, tryEdit_some hc])]
    dsimp only
    by_cases hclaimed : (failedOnce c).state = .claimed
    · have hmove : ∀ c', b₁.state.items[id]? = some c' →
          b₁.state.checkMove id c' .running = .ok () → L.moves b₁.state id c' .running := by
        intro c' hc' _
        rw [hc₁, Option.some.injEq] at hc'
        exact H.promotes (hc' ▸ hclaimed)
      have hpromoted : let b' := ((transition id .running "supervisor" none).run b₁).2
          b'.state.Sound ∧ I b' :=
        keeps_transitionWith H.toUpkeep hmove (fun h => absurd h (by decide)) h₁.1 h₁.2
      have hwhen : (Locked.when ((failedOnce c).state = .claimed) (do
            let _ ← (transition id .running "supervisor" none).attempt) : Method String Unit).run
            b₁ = (.ok (), ((transition id .running "supervisor" none).run b₁).2) := by
        rw [Locked.run_when, if_pos hclaimed, Locked.run_bind_ok (Locked.run_attempt _ _)]
        rfl
      rw [Locked.run_bind_ok hwhen]
      exact (hend (failedOnce c)).keeps.run hpromoted
    · have hwhen : (Locked.when ((failedOnce c).state = .claimed) (do
            let _ ← (transition id .running "supervisor" none).attempt) : Method String Unit).run
            b₁ = (.ok (), b₁) := by
        rw [Locked.run_when, if_neg hclaimed]
      rw [Locked.run_bind_ok hwhen]
      exact (hend (failedOnce c)).keeps.run h₁

/-- A split stores a proposal on its card. -/
lemma sustains_proposeSplit_of {id : ItemId} {agentId : String} {children : List SplitChildSpec}
    {maxChildren : ℕ}
    (hset : ∀ summary, Sustains I (setProposal id ⟨summary, splitSpecs children⟩)) :
    Sustains I (proposeSplit id agentId children maxChildren) := by
  refine sustains_bind (sustains_getOr id _) fun card =>
    sustains_bind (sustains_failIf _ _) fun _ => ?_
  split
  · exact sustains_bind (sustains_attempt (sustains_escalate H _ _ _ _ _)) fun _ => sustains_fail _
  · refine sustains_bind (sustains_ret _) fun _ => ?_
    split
    · exact sustains_fail _
    · exact sustains_bind (sustains_getOr _ _) fun _ => sustains_bind (sustains_read _) fun _ =>
        sustains_bind (sustains_failIf _ _) fun _ => sustains_bind (sustains_ret _) fun _ =>
          sustains_bind (sustains_failIf _ _) fun _ =>
            sustains_bind (hset _) fun _ =>
              sustains_bind (sustains_transitionOrMessage H.toUpkeep id (by decide) (by decide)
                (fun h => absurd h (by decide)) _ _) fun _ =>
                sustains_bind (sustains_story H.toUpkeep _ _) fun _ => sustains_pure _

lemma sustains_proposeSplit {id : ItemId} {agentId : String} {children : List SplitChildSpec}
    {maxChildren : ℕ}
    (hp : ∀ summary, checkProposal ⟨summary, splitSpecs children⟩ = .ok () →
      L.proposes ⟨summary, splitSpecs children⟩) :
    Sustains I (proposeSplit id agentId children maxChildren) :=
  sustains_proposeSplit_of H fun _ => sustains_setProposal H.toUpkeep (hp _)

/-! ## The human verbs -/

lemma sustains_holdForHost (id : ItemId) (title : String) :
    Sustains I (holdForHost id title) :=
  sustains_bind (sustains_tryEdit H fun _ _ => ⟨rfl, Or.inl rfl, fun h => h⟩) fun item =>
    sustains_bind (sustains_emit H item) fun _ =>
      sustains_bind (sustains_story H.toUpkeep _ _) fun _ => sustains_pure item

omit [UnicodeTables] H in
lemma quietAt_answerSection (id : ItemId) (choice : String) (now : Time) (s : BoardState) :
    QuietAt L s (answerSection id choice now s).2 := by
  unfold answerSection
  split
  · exact Or.inl rfl
  · split
    · exact Or.inl rfl
    · exact .of_worksAt (worksAt_tryEdit s fun _ => ⟨rfl, Or.inl rfl, fun h => h⟩)

lemma sustains_answerEscalation (id : ItemId) (choice : String) :
    Sustains I (answerEscalation id choice) := by
  refine sustains_bind (sustains_quietly H fun _ s => quietAt_answerSection id choice _ s)
    fun asked => sustains_bind
      (sustains_transitionOrMessage H.toUpkeep id (by decide) (by decide) (fun h => absurd h (by decide)) _ _) fun item =>
        sustains_bind (sustains_story H.toUpkeep _ _) fun _ => ?_
  split
  · exact sustains_holdForHost H _ _
  · exact sustains_pure item

omit [UnicodeTables] H in
lemma sameTask_notedPark (reason : Option String) (now : Time) (i : WorkItem) :
    WorkItem.SameTask i (notedPark reason now i) := by
  cases reason with
  | none => exact .refl i
  | some r => exact ⟨rfl, Or.inl rfl, fun h => h⟩

lemma sustains_park (id : ItemId) (reason : Option String) : Sustains I (park id reason) :=
  sustains_bind (sustains_tryEdit H fun now i => sameTask_notedPark _ now i) fun _ =>
    sustains_bind (sustains_transitionOrMessage H.toUpkeep id (by decide) (by decide) (fun h => absurd h (by decide)) _ _) fun _ =>
      sustains_bind (sustains_quietly H fun _ s => .of_worksAt (worksAt_tryEdit s fun _ =>
          ⟨rfl, Or.inl rfl, fun h => h⟩)) fun item =>
        sustains_bind (sustains_emit H item) fun _ =>
          sustains_bind (sustains_story H.toUpkeep _ _) fun _ => sustains_pure item

omit [UnicodeTables] H in
lemma quietAt_unparkSection (id : ItemId) (s : BoardState) :
    QuietAt L s (unparkSection id s).2 := by
  unfold unparkSection
  split
  · exact Or.inl rfl
  · split
    · exact Or.inl rfl
    · split
      · exact Or.inl rfl
      · exact quietAt_editItem id s fun _ => ⟨rfl, Or.inl rfl, fun h => h⟩

lemma sustains_unpark (id : ItemId) : Sustains I (unpark id) :=
  sustains_bind (sustains_quietly H fun _ s => quietAt_unparkSection id s) fun _ =>
    sustains_bind (sustains_enqueueDispatch H.toUpkeep id) fun item =>
      sustains_bind (sustains_story H.toUpkeep _ _) fun _ => sustains_pure item

lemma sustains_halt (id : ItemId) (reason : Option String) : Sustains I (halt id reason) :=
  sustains_bind (sustains_editQuietly H fun _ _ => ⟨rfl, Or.inl rfl, fun h => h⟩) fun _ =>
    sustains_bind (sustains_transitionOrMessage H.toUpkeep id (by decide) (by decide) (fun h => absurd h (by decide)) _ _)
      fun item => sustains_bind (sustains_story H.toUpkeep _ _) fun _ => sustains_pure item

lemma sustains_requestChanges (id : ItemId) (note : String) :
    Sustains I (requestChanges id note) :=
  sustains_bind (sustains_steer H.toUpkeep _ _) fun _ =>
    sustains_bind (sustains_editQuietly H fun _ _ => ⟨rfl, Or.inr rfl, fun h => h⟩) fun _ =>
      sustains_bind (sustains_transitionOrMessage H.toUpkeep id (by decide) (by decide) (fun h => absurd h (by decide)) _ _)
        fun item => sustains_bind (sustains_emit H item) fun _ =>
          sustains_bind (sustains_story H.toUpkeep _ _) fun _ => sustains_pure item

omit [UnicodeTables] H in
lemma unarchiveTarget_ne (prior : State) (hasChildren hasDod : Bool) :
    unarchiveTarget prior hasChildren hasDod ≠ .retired ∧
      unarchiveTarget prior hasChildren hasDod ≠ .running := by
  cases prior <;> cases hasChildren <;> cases hasDod <;> decide

omit [UnicodeTables] H in
lemma sustains_subtreeWalk (fuel : ℕ) (stack order : List ItemId) :
    Sustains I (subtreeWalk fuel stack order : Method ε _) := by
  induction fuel generalizing stack order with
  | zero => exact sustains_pure order
  | succ fuel ih =>
    cases stack with
    | nil => exact sustains_pure order
    | cons cur stack => exact sustains_bind (sustains_childrenOf cur) fun _ => ih _ _

omit H in
/-- A scope is restored by transitions of its cards. -/
lemma sustains_unarchiveScope_of
    (htransition : ∀ cur target reason, target ≠ .retired → target ≠ .running →
      Sustains I (transition cur target "human" reason))
    (hedit : ∀ cur, Sustains I (editQuietly cur fun _ => WorkItem.unleased : Method String Unit))
    (hstory : ∀ near text, Sustains I (story near text : Method String Unit)) (fuel : ℕ)
    (id : ItemId) (reason : Option String) : Sustains I (unarchiveScope fuel id reason) := by
  have hone : ∀ reason touched cur, Sustains I (unarchiveOne reason touched cur) := by
    intro reason touched cur
    refine sustains_bind (sustains_get cur) fun item => ?_
    split
    · exact sustains_pure touched
    · refine sustains_bind (sustains_childrenOf cur) fun kids => ?_
      dsimp only
      obtain ⟨hretired, hrunning⟩ := unarchiveTarget_ne _ _ _
      exact sustains_bind (sustains_mapErr (htransition cur _ _ hretired hrunning)) fun _ =>
        sustains_bind (hedit cur) fun _ => sustains_pure _
  exact sustains_bind (sustains_getOr id _) fun _ => sustains_bind (sustains_failIf _ _) fun _ =>
    sustains_bind (sustains_subtreeWalk _ _ _) fun _ =>
      sustains_bind (sustains_foldlM (fun _ _ _ => hone _ _ _) _) fun _ =>
        sustains_bind (sustains_get id) fun _ =>
          sustains_bind (sustains_onSome fun _ => hstory _ _) fun _ => sustains_pure _

lemma sustains_unarchiveScope (happroves : L.approves) (fuel : ℕ) (id : ItemId)
    (reason : Option String) : Sustains I (unarchiveScope fuel id reason) :=
  sustains_unarchiveScope_of
    (fun cur _ _ hretired hrunning =>
      sustains_transition H.toUpkeep cur hretired hrunning (fun _ => happroves) _ _)
    (fun _ => sustains_editQuietly H fun _ _ => ⟨rfl, Or.inl rfl, fun h => h⟩)
    (sustains_story H.toUpkeep) fuel id reason

/-! ## Forge events -/

lemma sustains_bounceForRebase (id : ItemId) :
    Sustains I (bounceForRebase id : Method ε Unit) :=
  sustains_bind (sustains_read _) fun _ => sustains_when fun _ =>
    sustains_bind (sustains_attempt (sustains_park H _ _)) fun _ => sustains_onSome fun _ =>
      sustains_bind (sustains_attempt (sustains_unpark H _)) fun _ => sustains_pure _

omit [UnicodeTables] H in
lemma sustains_cardRepo (id : ItemId) : Sustains I (cardRepo id : Method ε _) := by
  refine sustains_bind (sustains_bind (sustains_get id) fun item => ?_) fun _ => sustains_pure _
  cases item with
  | some item => exact sustains_pure _
  | none => exact sustains_pure _

omit [UnicodeTables] H in
lemma sustains_cardMatchesMainAdvancedRepo (id : ItemId) (advancedRepo : String) :
    Sustains I (cardMatchesMainAdvancedRepo id advancedRepo : Method ε Bool) := by
  unfold cardMatchesMainAdvancedRepo
  dsimp only
  split
  · exact sustains_pure _
  · refine sustains_bind (sustains_cardRepo id) fun repo => ?_
    cases repo with
    | some repo => exact sustains_pure _
    | none => exact sustains_bind sustains_readSchema fun _ => sustains_pure _

lemma sustains_steerLiveCard (advancedRepo refName : String) (commitSha : Option String)
    (steered : List ItemId) (id : ItemId) :
    Sustains I (steerLiveCard advancedRepo refName commitSha steered id) := by
  refine sustains_bind (sustains_cardMatchesMainAdvancedRepo _ _) fun matched => ?_
  split
  · exact sustains_pure _
  · refine sustains_bind (sustains_readOr _ _) fun _ => sustains_bind (sustains_cardRepo _) fun _ =>
      sustains_bind (sustains_readOr _ _) fun _ => ?_
    split
    · exact sustains_pure _
    · refine sustains_bind (sustains_attempt (sustains_steer H.toUpkeep _ _)) fun r => ?_
      cases r with
      | error e => exact sustains_pure _
      | ok item =>
        exact sustains_bind (sustains_story H.toUpkeep _ _) fun _ =>
          sustains_bind (sustains_when fun _ => sustains_bounceForRebase H _) fun _ =>
            sustains_pure _

lemma sustains_notifyMainAdvanced (advancedRepo refName : String) (commitSha : Option String) :
    Sustains I (notifyMainAdvanced advancedRepo refName commitSha) := by
  have hrest : Sustains I (do
      let candidates ← read fun s =>
        (s.cards.filter fun i =>
          i.state == .claimed || i.state == .running || isCoalesced i).map WorkItem.id
      candidates.foldlM (steerLiveCard advancedRepo refName commitSha) []) :=
    sustains_bind (sustains_read _) fun _ =>
      sustains_foldlM (fun _ _ _ => sustains_steerLiveCard H _ _ _ _ _) _
  exact sustains_of_run fun b hs hI =>
    hrest.keeps.run (s := b.advanced refName commitSha) ⟨hs, H.advanced refName commitSha hI⟩

lemma quietAt_conflictSection (id : ItemId) (bounceReason : String) (files : List String)
    (now : ℕ → Time) (s : BoardState) :
    QuietAt L s (conflictSection id bounceReason files now s).2 := by
  have hf : ∀ i : WorkItem,
      WorkItem.SameTask i (i.conflicted bounceReason files (now 0)) :=
    fun _ => ⟨rfl, Or.inl rfl, fun h => h⟩
  have hunqueued : ∀ i : WorkItem, WorkItem.SameTask i i.unqueued :=
    fun _ => ⟨rfl, Or.inl rfl, fun h => h⟩
  unfold conflictSection
  dsimp only
  cases hc : s.items[id]? with
  | none =>
    rw [editItem_of_none hc, transitionLocked_of_none hc]
    exact Or.inl rfl
  | some c =>
    have hc₁ : (s.editItem id (WorkItem.conflicted bounceReason files (now 0))).items[id]? =
        some (c.conflicted bounceReason files (now 0)) := by
      rw [items_editItem_self, hc, Option.map_some]
    have hnoted : Worked L id s c _ _ := .edit (.refl s c) hf
    cases hcheck : (s.editItem id (WorkItem.conflicted bounceReason files (now 0))).checkMove id
        (c.conflicted bounceReason files (now 0)) .backlog with
    | error e =>
      rw [transitionLocked_of_error hc₁ hcheck]
      exact Or.inr ⟨id, c, _, hc, hnoted⟩
    | ok u =>
      have hmoved := hnoted.move (now 1) "rebase" (some bounceReason) hcheck
        (H.moves (by decide) (by decide))
      rw [transitionLocked_of_ok hc₁ hcheck]
      simp only [tryEdit_some (hmoved.item hc)]
      exact Or.inr ⟨id, c, _, hc, hmoved.edit hunqueued⟩

lemma sustains_recordRebaseOutcome (id : ItemId) (outcome : RebaseOutcome) :
    Sustains I (recordRebaseOutcome id outcome) := by
  refine sustains_bind (sustains_readOr id _) fun before =>
    sustains_bind (sustains_failIf _ _) fun _ => ?_
  cases outcome with
  | clean =>
    refine sustains_bind (sustains_quietly H fun _ s => ?_) fun item =>
      sustains_bind (sustains_emit H item) fun _ => sustains_pure item
    have h : QuietAt L s (s.tryEdit id s!"no such item #{id}" WorkItem.rebasedClean).2 :=
      .of_worksAt (worksAt_tryEdit s fun _ => ⟨rfl, Or.inl rfl, fun h => h⟩)
    split
    · rename_i hedit
      rw [hedit] at h
      exact h
    · rename_i hedit
      rw [hedit] at h
      exact h
  | conflict files reason =>
    dsimp only
    split
    · exact sustains_bind (sustains_editQuietly H fun _ _ => ⟨rfl, Or.inl rfl, fun h => h⟩)
        fun _ => sustains_escalate H _ _ _ _ _
    · exact sustains_bind (sustains_quietly H fun now s => quietAt_conflictSection H id _ _ now s)
        fun item => sustains_bind (sustains_emit H item) fun _ =>
          sustains_bind (sustains_story H.toUpkeep _ _) fun _ => sustains_pure item

lemma sustains_applyPrReviewFeedback (prUrl : String) (prNumber : Option ℕ)
    (reviewState byWhom : String) :
    Sustains I (applyPrReviewFeedback prUrl prNumber reviewState byWhom : Method ε _) := by
  unfold applyPrReviewFeedback
  dsimp only
  split
  · exact sustains_pure none
  · refine sustains_bind (sustains_read _) fun found => ?_
    cases found with
    | none => exact sustains_pure none
    | some id =>
      refine sustains_bind (sustains_attempt
        (sustains_tryEdit H fun _ _ => ⟨rfl, Or.inr rfl, fun h => h⟩)) fun noted => ?_
      cases noted with
      | error e => exact sustains_pure none
      | ok it =>
        refine sustains_bind (sustains_attempt
          (sustains_transition H.toUpkeep id (by decide) (by decide) (fun h => absurd h (by decide)) _ _)) fun moved => ?_
        cases moved with
        | error e => exact sustains_pure none
        | ok item =>
          exact sustains_bind (sustains_emit H _) fun _ =>
            sustains_bind (sustains_story H.toUpkeep _ _) fun _ => sustains_pure _

end Hush

end Unicode

end Board

/-! ## Operations -/

section Unicode

variable [UnicodeTables]

open Board

/-- The licence covers what the arguments of the operation make it write on the state `s`. -/
def Licence.Permits (L : Licence) (s : BoardState) : Operation → Prop
  | .create c => L.defines c.definitionOfDone
  | .createTask parent _ _ dod blockedBy _ _ =>
    checkParent s (some parent) = .ok () → trim dod ≠ "" →
      ∀ s', JustCreated s s.nextId s' → L.links s' s.nextId blockedBy
  | .proposePlan _ summary tasks =>
    checkProposal ⟨summary, tasks⟩ = .ok () → L.proposes ⟨summary, tasks⟩
  | .setProposal _ proposal => checkProposal proposal = .ok () → L.proposes proposal
  | .proposeSplit _ _ children _ => ∀ summary,
    checkProposal ⟨summary, splitSpecs children⟩ = .ok () →
      L.proposes ⟨summary, splitSpecs children⟩
  | .setBlockedBy id blockers => ∀ c, s.items[id]? = some c → L.links s id blockers
  | .updateItem id title intent dod engine projectPrompt => ∀ c, s.items[id]? = some c →
    L.rewrites s id c (updated title intent dod engine projectPrompt)
  | .transition id target _ _ => (∀ c, s.items[id]? = some c →
    s.checkMove id c target = .ok () → L.moves s id c target) ∧ (target = .done → L.approves)
  | .approvePlan _ _ | .approveReview _ _ | .materializePendingProposal _ | .healCompletedEpics
  | .completeForMergedPr _ _ _ | .unarchiveScope _ _ _ => L.approves
  | _ => True

namespace Board

variable {I : Board → Prop} {L : Licence}

omit [UnicodeTables] in
/-- A method that keeps the invariant does so when the caller drops its outcome. -/
private lemma keeps_silent {ε α : Type} {m : Method ε α} {b : Board} (hm : Sustains I m)
    (hs : b.state.Sound) (hI : I b) : I ((Operation.silent m).run b).2 :=
  ((sustains_silent hm).keeps.run ⟨hs, hI⟩).2

omit [UnicodeTables] in
/-- The board after the deletion of the card `id`, which left the state `s`. -/
def deleted (b : Board) (id : ItemId) (s : BoardState) : Board :=
  let b := { b.stepped s with dirty := true }.flushed
  let event := .delete (b.seq + 1) id
  { b with
    seq := b.seq + 1
    eventBuffer := pushBounded b.bufferCapacity b.eventBuffer event
    tx := b.tx ++ [event] }

omit [UnicodeTables] in
lemma flushed_state (b : Board) : b.flushed.state = b.state := by
  unfold flushed
  split <;> rfl

omit [UnicodeTables] in
/-- A card that is there is deleted, with its subtree. -/
lemma run_deleteItem_ok {b : Board} {id : ItemId} {s : BoardState}
    (h : deleteSection id b.state = (.ok (), s)) :
    (deleteItem id).run b = (.ok (), b.deleted id s) := by
  have hwrite : (write fun _ s => deleteSection id s : Method String Unit).run b =
      (.ok (), b.stepped s) := by rw [run_write, h]
  have hdirty : (markDirty : Method String Unit).run (b.stepped s) =
      (.ok (), { b.stepped s with dirty := true }) := rfl
  unfold deleteItem
  rw [Locked.run_bind_ok hwrite, Locked.run_bind_ok hdirty, Locked.run_bind_ok (run_flush _)]
  rfl

omit [UnicodeTables] in
lemma run_deleteItem_error {b : Board} {id : ItemId} (h : b.state.items[id]? = none) :
    ∃ e, (deleteItem id).run b = (.error e, b.stepped b.state) := by
  refine ⟨s!"item #{id} not found", ?_⟩
  have hsection : deleteSection id b.state = (.error s!"item #{id} not found", b.state) := by
    simp [deleteSection, h]
  unfold deleteItem
  rw [Locked.run_bind_error (by rw [run_write, hsection])]

/-- The deletion of a card is one section of the state. -/
lemma exec_deleteItem_state (id : ItemId) (b : Board) :
    (b.exec (.deleteItem id)).state = (deleteSection id b.state).2 := by
  change ((Operation.silent (deleteItem id)).run b).2.state = _
  rw [Operation.silent, Locked.run_bind_ok (Locked.run_attempt _ b)]
  change ((deleteItem id).run b).2.state = _
  cases hc : b.state.items[id]? with
  | none =>
    obtain ⟨e, hrun⟩ := run_deleteItem_error hc
    rw [hrun]
    simp [deleteSection, hc]
  | some c =>
    have hsection : deleteSection id b.state = (.ok (), (deleteSection id b.state).2) := by
      simp [deleteSection, hc]
    rw [run_deleteItem_ok hsection]
    exact flushed_state _

end Board

variable {I : Board → Prop} {L : Licence}

/-- An operation that the licence permits keeps the invariant. -/
theorem Hush.keeps_exec (H : Hush L I) {b : Board} {op : Operation} (hs : b.state.Sound) (hI : I b)
    (hpermits : L.Permits b.state op)
    (hcut : ∀ fuel id reason, op = .cutScope fuel id reason → I (b.exec op))
    (hdelete : ∀ id, op = .deleteItem id → I (b.exec op)) : I (b.exec op) := by
  have hsilent : ∀ {ε α : Type} {m : Method ε α}, I ((m.run b).2) →
      I ((Operation.silent m).run b).2 := by
    intro ε α m hm
    rw [Operation.silent, Locked.run_bind_ok (Locked.run_attempt m b)]
    exact hm
  have U := H.toUpkeep
  cases op with
  | create c => exact keeps_silent (sustains_create U hpermits) hs hI
  | createProject => exact keeps_silent (sustains_createProject U _ _ _ _ _) hs hI
  | createTask => exact hsilent (keeps_createTask U hpermits hs hI).2
  | seedInitialPlan id => exact keeps_silent (sustains_seedInitialPlan U id) hs hI
  | proposePlan => exact keeps_silent (sustains_proposePlan U hpermits) hs hI
  | setProposal => exact keeps_silent (sustains_setProposal U hpermits) hs hI
  | approvePlan => exact keeps_silent (sustains_approvePlan U hpermits _ _) hs hI
  | materializePendingProposal =>
    exact keeps_silent (sustains_materializePendingProposal U hpermits _) hs hI
  | healCompletedEpics => exact keeps_silent (sustains_healCompletedEpics U hpermits) hs hI
  | setProjectSandboxProfile =>
    exact keeps_silent (sustains_setProjectSandboxProfile U _ _) hs hI
  | setSandboxProfiles ids => exact ((sustains_setSandboxProfiles U ids).keeps.run ⟨hs, hI⟩).2
  | clearRunFailures id =>
    exact ((sustains_editIf_task U fun _ => ⟨rfl, Or.inl rfl, fun h => h⟩ :
      Sustains I (clearRunFailures id)).keeps.run ⟨hs, hI⟩).2
  | setEnvironment id sandbox =>
    exact ((sustains_editIf_task U fun _ => ⟨rfl, Or.inl rfl, fun h => h⟩ :
      Sustains I (setEnvironment id sandbox)).keeps.run ⟨hs, hI⟩).2
  | setConversationId id conversationId =>
    exact ((sustains_editIf_task U fun _ => ⟨rfl, Or.inl rfl, fun h => h⟩ :
      Sustains I (setConversationId id conversationId)).keeps.run ⟨hs, hI⟩).2
  | setPullRequests id prs => exact ((sustains_setPullRequests U id prs).keeps.run ⟨hs, hI⟩).2
  | setPrUrl id url => exact ((sustains_setPrUrl U id url).keeps.run ⟨hs, hI⟩).2
  | setBlockedBy => exact (keeps_setBlockedBy U hpermits hs hI).2
  | updateItem => exact hsilent (keeps_updateItem U hpermits hs hI).2
  | transition id target byWhom reason =>
    exact hsilent (keeps_transitionWith U hpermits.1
      (fun htarget => sustains_materializeProposalOnDone U (hpermits.2 htarget) id byWhom) hs hI).2
  | enqueueDispatch => exact keeps_silent (sustains_enqueueDispatch U _) hs hI
  | clearDispatch => exact keeps_silent (sustains_clearDispatch U _) hs hI
  | setAutoDispatch => exact keeps_silent (sustains_setAutoDispatch U _ _) hs hI
  | autoEnqueueProject id => exact ((sustains_autoEnqueueProject U id).keeps.run ⟨hs, hI⟩).2
  | autoEnqueueAll => exact ((sustains_autoEnqueueAll U).keeps.run ⟨hs, hI⟩).2
  | claim => exact keeps_silent (sustains_claim U _ _ _ _) hs hI
  | reopenForAdoption => exact keeps_silent (sustains_reopenForAdoption U _ _ _) hs hI
  | heartbeat => exact keeps_silent (sustains_heartbeat H _ _ _ _) hs hI
  | escalate => exact keeps_silent (sustains_escalate H _ _ _ _ _) hs hI
  | report => exact keeps_silent (sustains_report H _ _ _ _ _) hs hI
  | releaseWithReason => exact keeps_silent (sustains_releaseWithReason H _ _ _) hs hI
  | sweepLeases => exact keeps_silent (sustains_sweepLeases U) hs hI
  | recordRunFailure => exact keeps_silent (sustains_recordRunFailure H _ _ _) hs hI
  | proposeSplit => exact keeps_silent (sustains_proposeSplit H hpermits) hs hI
  | steer => exact keeps_silent (sustains_steer U _ _) hs hI
  | answerEscalation => exact keeps_silent (sustains_answerEscalation H _ _) hs hI
  | park => exact keeps_silent (sustains_park H _ _) hs hI
  | unpark => exact keeps_silent (sustains_unpark H _) hs hI
  | halt => exact keeps_silent (sustains_halt H _ _) hs hI
  | cutScope fuel id reason => exact hcut fuel id reason rfl
  | unarchiveScope => exact keeps_silent (sustains_unarchiveScope H hpermits _ _ _) hs hI
  | deleteItem id => exact hdelete id rfl
  | approveReview => exact keeps_silent (sustains_approveReview U hpermits _ _) hs hI
  | requestChanges => exact keeps_silent (sustains_requestChanges H _ _) hs hI
  | story near text => exact ((sustains_story U near text).keeps.run ⟨hs, hI⟩).2
  | reportPullRequest => exact keeps_silent (sustains_reportPullRequest U _ _) hs hI
  | notifyMainAdvanced => exact keeps_silent (sustains_notifyMainAdvanced H _ _ _) hs hI
  | dispatchRebase => exact keeps_silent (sustains_dispatchRebase U _) hs hI
  | recordRebaseOutcome => exact keeps_silent (sustains_recordRebaseOutcome H _ _) hs hI
  | completeForMergedPr prUrl prNumber byWhom =>
    exact keeps_silent (sustains_completeForMergedPr U hpermits prUrl prNumber byWhom) hs hI
  | applyPrReviewFeedback prUrl prNumber reviewState byWhom =>
    exact keeps_silent (sustains_applyPrReviewFeedback H prUrl prNumber reviewState byWhom) hs hI
  | flush => exact ((sustains_flush U).keeps.run ⟨hs, hI⟩).2

/-! ## Invariants of the state -/

/-- The invariant of board states is kept by everything that the licence covers. -/
structure Lasting (L : Licence) (J : BoardState → Prop) : Prop where
  /-- It does not look at the stories or at the profiles. -/
  aside : ∀ {s s' : BoardState}, s'.items = s.items → s'.nextId = s.nextId →
    s'.childrenByParent = s.childrenByParent → s'.idsByState = s.idsByState → J s → J s'
  work : ∀ {s : BoardState} {id : ItemId} {c : WorkItem} {s' : BoardState} {c' : WorkItem},
    s.Sound → J s → s.items[id]? = some c → BoardState.Worked L id s c s' c' → J s'
  insert : ∀ {s : BoardState} {c : NewCard} (schema : Schema) (now : Time), s.Sound → J s →
    checkParent s c.parent = .ok () → L.defines c.definitionOfDone →
      J (insertNew schema now c s).2
  propose : ∀ {s : BoardState} {id : ItemId} {c : WorkItem} {p : TaskProposal}, s.Sound → J s →
    s.items[id]? = some c → L.proposes p → J (s.editItem id (WorkItem.withProposal p))
  settle : ∀ {s : BoardState} {id : ItemId} {c : WorkItem} (keep : Bool)
    (keyToId : List (String × ItemId)), L.approves → s.Sound → J s → s.items[id]? = some c →
      J (s.editItem id (settled keep keyToId))
  link : ∀ {s : BoardState} {id : ItemId} {c : WorkItem} {blockers : List ItemId}, s.Sound →
    J s → s.items[id]? = some c → L.links s id blockers →
      J (s.editItem id (WorkItem.blockedOn blockers))
  rewrite : ∀ {s : BoardState} {id : ItemId} {c : WorkItem} {f : WorkItem → WorkItem}, s.Sound →
    J s → s.items[id]? = some c → L.rewrites s id c f → J (s.editItem id f)
  proposed : ∀ {s : BoardState} {k : ItemId} {c : WorkItem} {p : TaskProposal}, L.approves → J s →
    s.items[k]? = some c → c.proposal = some p → L.proposes p
  resolved : ∀ {p : TaskProposal} {keyToId : List (String × ItemId)} {s : BoardState}
    {spec : PlanTaskSpec} {id : ItemId}, L.approves → L.proposes p → Resolves p keyToId s →
      spec ∈ p.tasks → L.links s id (resolved keyToId spec)
  rows : ∀ {p : TaskProposal} {spec : PlanTaskSpec}, L.proposes p → spec ∈ p.tasks →
    L.defines (some spec.definitionOfDone)
  defined : ∀ {dod : String}, dod ≠ "" → L.defines (some dod)
  undefined : L.defines none
  moves : ∀ {s : BoardState} {id : ItemId} {c : WorkItem} {target : State}, target ≠ .retired →
    target ≠ .running → L.moves s id c target
  promotes : ∀ {s : BoardState} {id : ItemId} {c : WorkItem}, c.state = .claimed →
    L.moves s id c .running

namespace Lasting

variable {J : BoardState → Prop} (K : Lasting L J)

include K

/-- What surrounds the state does not matter to it. -/
lemma hush : Hush L fun b => J b.state where
  tick h := h
  told {b} _ _ h := K.aside (s := b.state) rfl rfl rfl rfl h
  advanced _ _ h := h
  flushed {b} h := by
    unfold flushed
    split <;> exact h
  profiles {b} _ h := K.aside (s := b.state) rfl rfl rfl rfl h
  work hs h hc hworked := K.work hs h hc hworked
  insert hs h hparent hdefines := K.insert _ _ hs h hparent hdefines
  propose hs h hc hp := K.propose hs h hc hp
  settle keep keyToId happroves hs h hc := K.settle keep keyToId happroves hs h hc
  link hs h hc hlinks := K.link hs h hc hlinks
  rewrite hs h hc hrewrites := K.rewrite hs h hc hrewrites
  proposed happroves h hc hp := K.proposed happroves h hc hp
  resolved := K.resolved
  rows := K.rows
  defined := K.defined
  undefined := K.undefined
  moves := K.moves
  promotes := K.promotes
  quiet hs h hc hworked := K.work hs h hc hworked
  aired _ h := h

/-- A licensed transition keeps the invariant. -/
lemma transition {b : Board} {id : ItemId} {target : State} (byWhom : String)
    (reason : Option String)
    (hmove : ∀ c, b.state.items[id]? = some c → b.state.checkMove id c target = .ok () →
      L.moves b.state id c target) (hdone : target = .done → L.approves) (hs : b.state.Sound)
    (hJ : J b.state) :
    let b' := ((Board.transition id target byWhom reason).run b).2
    b'.state.Sound ∧ J b'.state :=
  keeps_transitionWith K.hush.toUpkeep hmove
    (fun htarget => sustains_materializeProposalOnDone K.hush.toUpkeep (hdone htarget) id byWhom)
    hs hJ

/-- The invariant holds after every run whose steps meet the condition, where the licence permits
these steps, and where the invariant survives their cuts and deletions. -/
theorem meets {C : Operation → BoardState → Prop}
    (hpermits : ∀ op s, J s → C op s → L.Permits s op)
    (hcut : ∀ (b : Board) fuel id reason, b.state.Sound → J b.state →
      C (.cutScope fuel id reason) b.state → J (b.exec (.cutScope fuel id reason)).state)
    (hdelete : ∀ (s : BoardState) id, s.Sound → J s → C (.deleteItem id) s →
      J (deleteSection id s).2)
    {b : Board} {ops : List Operation} (hs : b.state.Sound) (hJ : J b.state)
    (hmeets : Meets C b ops) : (b.after ops).state.Sound ∧ J (b.after ops).state := by
  refine hmeets.invariant (I := fun b => b.state.Sound ∧ J b.state)
    (fun b op ⟨hs, hJ⟩ hC => ⟨hs.reshaped (reshaped_exec b op), ?_⟩) ⟨hs, hJ⟩
  refine K.hush.keeps_exec hs hJ (hpermits op _ hJ hC) (fun fuel id reason hop => ?_) fun id hop => ?_
  · subst hop
    exact hcut b fuel id reason hs hJ hC
  · subst hop
    rw [exec_deleteItem_state]
    exact hdelete b.state id hs hJ hC

/-- Where retiring a card is licensed, so is the cut of a scope. -/
lemma exec_cutScope (hretire : ∀ s id c, L.moves s id c .retired) {b : Board} (fuel : ℕ)
    (id : ItemId) (reason : Option String) (hs : b.state.Sound) (hJ : J b.state) :
    J (b.exec (.cutScope fuel id reason)).state :=
  keeps_silent (sustains_cutScope K.hush.toUpkeep hretire fuel id reason) hs hJ

end Lasting

end Unicode

end Sandboard

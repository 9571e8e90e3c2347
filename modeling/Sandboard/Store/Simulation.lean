import Sandboard.Store.Evolving
import Sandboard.Store.Materializing
import Sandboard.Store.Indexes

/-!
# The simulation

The methods that go through many cards (the sweep, the steer of live runs, the cut and the
restore of a scope, the hygiene of Projects) take each of them through a course of steps.
Together with the verbs this gives the simulation of every operation that is not one of the
five direct writes by the life of a card.
-/

namespace Sandboard

open Std Text

namespace BoardState

variable {s s' : BoardState} {grants : Grant → Prop} {k : ItemId} {c : WorkItem}

/-- Without a call, a card that was not before a human is not put there. -/
lemma Evolves.ne_needsHuman (h : Evolves grants s s') (hcall : ¬grants .call)
    (hs : ∀ c, s.items[k]? = some c → c.state ≠ .needsHuman) (hc : s'.items[k]? = some c) :
    c.state ≠ .needsHuman := by
  refine (h k).invariant (p := fun σ => σ.state ≠ .needsHuman)
    (fun σ hfresh => hfresh.ne_needsHuman) (fun σ σ' hstep => hstep.ne_needsHuman hcall)
    (fun σ hσ => ?_) c.standing (standing_of_items hc)
  obtain ⟨c₀, hc₀, rfl⟩ := Option.map_eq_some_iff.1 hσ
  exact hs c₀ hc₀

/-- The Project has Tasks, and all of them are Done or Retired. -/
def tasksEnded (s : BoardState) (pid : ItemId) : Bool :=
  let children := s.cards.filter fun i => i.parent == some pid
  !children.isEmpty && children.all fun c => c.state.isTerminal

/-- The two boards have the same Tasks. -/
def SameTasks (s s' : BoardState) : Prop :=
  ∀ (k : ItemId) (c : WorkItem), c.parent.isSome = true →
    (s'.items[k]? = some c ↔ s.items[k]? = some c)

lemma tasksEnded_iff {pid : ItemId} :
    s.tasksEnded pid = true ↔
      (∃ (k : ItemId) (c : WorkItem), s.items[k]? = some c ∧ c.parent = some pid) ∧
        ∀ (k : ItemId) (c : WorkItem), s.items[k]? = some c → c.parent = some pid →
          c.state.isTerminal = true := by
  simp only [tasksEnded, Bool.and_eq_true, Bool.not_eq_true', List.isEmpty_eq_false_iff_exists_mem,
    List.mem_filter, List.all_eq_true, mem_cards, beq_iff_eq]
  constructor
  · rintro ⟨⟨c, ⟨k, hc⟩, hparent⟩, hall⟩
    exact ⟨⟨k, c, hc, hparent⟩, fun k c hc hparent => hall c ⟨⟨k, hc⟩, hparent⟩⟩
  · rintro ⟨⟨k, c, hc, hparent⟩, hall⟩
    exact ⟨⟨c, ⟨k, hc⟩, hparent⟩, fun c ⟨⟨k, hc⟩, hparent⟩ => hall k c hc hparent⟩

lemma SameTasks.tasksEnded (h : SameTasks s s') {pid : ItemId}
    (hended : s'.tasksEnded pid = true) : s.tasksEnded pid = true := by
  rw [tasksEnded_iff] at hended ⊢
  obtain ⟨⟨k, c, hc, hparent⟩, hall⟩ := hended
  have hsome : ∀ c : WorkItem, c.parent = some pid → c.parent.isSome = true := fun c hp => by
    rw [hp]
    rfl
  exact ⟨⟨k, c, (h k c (hsome c hparent)).1 hc, hparent⟩, fun k c hc hparent =>
    hall k c ((h k c (hsome c hparent)).2 hc) hparent⟩

/-- The card is in the subtree that a walk from `root` goes through. -/
def Below (s : BoardState) (root : ItemId) : ItemId → Prop :=
  Relation.ReflTransGen (fun p k => k ∈ s.childrenOfIndexed p) root

end BoardState

/-! ## Methods that keep evolving a board -/

/-- From a well-formed board that has evolved from `s`, the method evolves it further. -/
structure Living {ε α : Type} (grants : Grant → Prop) (s : BoardState) (m : Method ε α) :
    Prop where
  keeps : m.Keeps fun b => b.state.WellFormed ∧ BoardState.Evolves grants s b.state

namespace Board

open BoardState

variable {ε ε' α β : Type} {grants : Grant → Prop} {s : BoardState} {b : Board} {id : ItemId}
  {c : WorkItem}

lemma Living.evolves {m : Method ε α} (hm : Living grants b.state m) (hb : b.state.WellFormed) :
    Evolves grants b.state (m.run b).2.state :=
  (hm.keeps.run ⟨hb, .refl _⟩).2

lemma living_of_evolves {m : Method ε α} (hstruct : Structural m)
    (hm : ∀ b, b.state.WellFormed → Evolves grants s b.state →
      Evolves grants b.state (m.run b).2.state) : Living grants s m := by
  refine ⟨.of_run fun b hb => ?_⟩
  exact ⟨wellFormed_run hstruct hb.1, hb.2.trans (hm b hb.1 hb.2)⟩

lemma living_of_within {m : Method ε α} (hstruct : Structural m)
    (hm : Within (Evolves grants) m) : Living grants s m :=
  living_of_evolves hstruct fun b _ _ => Within.evolves hm b

lemma living_of_growing {m : Method ε α} (hstruct : Structural m) (hm : ∀ s, Growing s m) :
    Living grants s m :=
  living_of_evolves hstruct fun _ hb _ => (Growing.run hm hb).evolves

lemma living_pure (a : α) : Living grants s (pure a : Method ε α) := ⟨.pure a⟩

lemma living_bind {m : Method ε α} {k : α → Method ε β} (hm : Living grants s m)
    (hk : ∀ a, Living grants s (k a)) : Living grants s (m >>= k) :=
  ⟨.bind hm.keeps fun a => (hk a).keeps⟩

lemma living_attempt {m : Method ε α} (hm : Living grants s m) :
    Living grants s (m.attempt : Method ε' _) :=
  ⟨.attempt hm.keeps⟩

lemma living_when {p : Prop} [Decidable p] {m : Method ε Unit} (hm : Living grants s m) :
    Living grants s (Locked.when p m) := by
  unfold Locked.when
  split
  · exact hm
  · exact living_pure ()

lemma living_onSome {o : Option β} {f : β → Method ε Unit} (hf : ∀ b, Living grants s (f b)) :
    Living grants s (Locked.onSome o f) := by
  cases o with
  | none => exact living_pure ()
  | some b => exact hf b

lemma living_forM {xs : List β} {f : β → Method ε Unit} (hf : ∀ x ∈ xs, Living grants s (f x)) :
    Living grants s (xs.forM f) :=
  ⟨.forM fun x hx => (hf x hx).keeps⟩

lemma living_foldlM {xs : List β} {f : α → β → Method ε α}
    (hf : ∀ a, ∀ x ∈ xs, Living grants s (f a x)) (a : α) : Living grants s (xs.foldlM f a) :=
  ⟨.foldlM (fun a x hx => (hf a x hx).keeps) a⟩

lemma living_read (f : BoardState → α) : Living grants s (read f : Method ε α) :=
  living_of_within (structural_read f) (within_read evolves_lax f)

lemma living_get (id : ItemId) : Living grants s (get id : Method ε _) := living_read _

lemma living_story (near : ItemId) (text : String) :
    Living grants s (story near text : Method ε Unit) :=
  living_of_within (structural_story near text) (within_story evolves_lax near text)

/-! ## Sweeping overdue runs -/

section Unicode

variable [UnicodeTables]

/-- A card that no one is asked about may be bounced. -/
lemma living_bounce {byWhom : String} {reason : Option String} (hcall : ¬grants .call)
    (hs : ∀ c, s.items[id]? = some c → c.state ≠ .needsHuman) :
    Living grants s (transition id .backlog byWhom reason) :=
  living_of_evolves (structural_transition _ _ _ _) fun _ hb hev =>
    evolves_transition hb fun _ hc hcheck =>
      .bounce (checkMove_backlog_iff.1 hcheck).1 (Or.inl (hev.ne_needsHuman hcall hs hc))

lemma evolves_sweepLeases (hb : b.state.WellFormed) (hcall : ¬grants .call) :
    Evolves grants b.state ((sweepLeases : Method ε _).run b).2.state := by
  unfold sweepLeases
  rw [Locked.run_bind_ok (run_utcNow b), Locked.run_bind_ok (run_read _ _)]
  have hloop : Living grants b.state ((b.state.expired (b.now 0)).forM sweepOne : Method ε Unit) := by
    refine living_forM fun id hid => ?_
    obtain ⟨c, hc, hrun, -⟩ := (hb.mem_expired_iff _).1 hid
    refine living_bind (living_get id) fun _ => living_bind (living_attempt
      (living_bounce hcall fun c' hc' => ?_)) fun _ => living_story _ _
    rw [hc, Option.some.injEq] at hc'
    rw [← hc']
    rcases hrun with hstate | hstate <;> simp [hstate]
  exact evolves_bind (Living.evolves (b := b.stepped b.state) hloop hb) fun _ => within_pure _

/-! ## Steering live runs -/

lemma living_bounceForRebase (id : ItemId) :
    Living grants s (bounceForRebase id : Method ε Unit) :=
  living_bind (living_read _) fun _ => living_when
    (living_bind (living_attempt (living_of_evolves (structural_park _ _) fun _ _ _ =>
      evolves_park)) fun _ => living_onSome fun _ =>
        living_bind (living_attempt (living_of_within (structural_unpark id)
          (within_unpark evolves_lax (evolves_unparkSection id) (evolves_enqueueSection id))))
          fun _ => living_pure ())

/-- A card that no one is asked about may be steered. -/
lemma living_steerLiveCard {advancedRepo refName : String} {commitSha : Option String}
    {steered : List ItemId} (hcall : ¬grants .call)
    (hs : ∀ c, s.items[id]? = some c → c.state ≠ .needsHuman) :
    Living grants s (steerLiveCard advancedRepo refName commitSha steered id) := by
  have hread : ∀ e : String, Living grants s (readOr id e) := fun e =>
    living_of_within (within_readOr reshaped_lax id e) (within_readOr evolves_lax id e)
  refine living_bind (living_of_within (within_cardMatchesMainAdvancedRepo reshaped_lax _ _)
    (within_cardMatchesMainAdvancedRepo evolves_lax _ _)) fun matched => ?_
  split
  · exact living_pure _
  · refine living_bind (hread _) fun _ => living_bind
      (living_of_within (within_cardRepo reshaped_lax _) (within_cardRepo evolves_lax _)) fun _ =>
        living_bind (hread _) fun _ => ?_
    split
    · exact living_pure _
    · refine living_bind (living_attempt (living_of_evolves (structural_steer _ _)
        fun b _ hev => evolves_steer fun c hc hstate =>
          absurd hstate (hev.ne_needsHuman hcall hs hc))) fun r => ?_
      cases r with
      | error e => exact living_pure _
      | ok item =>
        exact living_bind (living_story _ _) fun _ =>
          living_bind (living_when (living_bounceForRebase id)) fun _ => living_pure _

lemma evolves_notifyMainAdvanced (hb : b.state.WellFormed) (hcall : ¬grants .call)
    {advancedRepo refName : String} {commitSha : Option String} :
    Evolves grants b.state
      ((notifyMainAdvanced advancedRepo refName commitSha).run b).2.state := by
  obtain ⟨b₁, hevent, hstate⟩ := run_recordAndSend (ε := String)
    (.mainAdvanced (b.seq + 1) refName commitSha) { b with seq := b.seq + 1 }
  have hstate : b₁.state = b.state := hstate
  unfold notifyMainAdvanced
  rw [Locked.run_bind_ok (run_nextSeq b), Locked.run_bind_ok hevent, Locked.run_bind_ok (run_read _ _),
    ← hstate]
  rw [← hstate] at hb
  refine Living.evolves (living_foldlM (fun steered id hid => living_steerLiveCard hcall ?_) _) hb
  intro c hc
  obtain ⟨c', hc', rfl⟩ := List.mem_map.1 hid
  obtain ⟨hmem, hlive⟩ := List.mem_filter.1 hc'
  have hsame : c' = c := by
    have hmem' := hb.mem_cards_iff.1 hmem
    rw [hc, Option.some.injEq] at hmem'
    exact hmem'.symm
  rw [hsame] at hlive
  intro hneeds
  simp [hneeds, isCoalesced] at hlive

/-! ## Cutting and restoring a scope -/

/-- A move to another state than Done changes no parent. -/
lemma childrenByParent_transition {target : State} (htarget : target ≠ .done) (id : ItemId)
    (byWhom : String) (reason : Option String) (b : Board) :
    ((transition id target byWhom reason).run b).2.state.childrenByParent =
      b.state.childrenByParent := by
  cases hc : b.state.items[id]? with
  | none =>
    rw [run_transition_missing target hc]
    rfl
  | some c =>
    by_cases hcheck : b.state.checkMove id c target = .ok ()
    · obtain ⟨item, b₂, hrun, hstate, -⟩ := run_transition_allowed hc htarget hcheck byWhom reason
      rw [hrun, hstate]
      rfl
    · obtain ⟨e, hrun⟩ := run_transition_refused hc hcheck byWhom reason
      rw [hrun]
      rfl

/-- The walk stays below its root, because retiring a card leaves the parents alone. -/
lemma keeps_cutWalk {root : ItemId} {reason : Option String} (hcall : ¬grants .call)
    (hs : ∀ k, s.Below root k → ∀ c, s.items[k]? = some c →
      c.state ≠ .needsHuman ∨ grants .question)
    (fuel : ℕ) (stack touched : List ItemId) (hstack : ∀ k ∈ stack, s.Below root k) :
    (cutWalk reason fuel stack touched : Method ε _).Keeps fun b =>
      (b.state.WellFormed ∧ Evolves grants s b.state) ∧
        b.state.childrenByParent = s.childrenByParent := by
  induction fuel generalizing stack touched with
  | zero => exact .pure touched
  | succ fuel ih =>
    cases stack with
    | nil => exact .pure touched
    | cons cur stack =>
      rintro b ⟨⟨hwf, hev⟩, hchildren⟩
      have hcur : s.Below root cur := hstack cur (by simp)
      have hkids : ∀ k ∈ (b.state.childrenOfIndexed cur).reverse ++ stack, s.Below root k := by
        intro k hk
        rcases List.mem_append.1 hk with hk | hk
        · rw [List.mem_reverse, childrenOfIndexed, hchildren] at hk
          exact hcur.tail hk
        · exact hstack k (by simp [hk])
      have hwf' := wellFormed_run (structural_transition cur .retired "human" reason) hwf
      have hev' : Evolves grants b.state
          ((transition cur .retired "human" reason).run b).2.state := by
        refine evolves_transition hwf fun c hc hcheck =>
          .finish (allowed_of_check hcheck) rfl ?_ _
        by_cases hquestion : grants .question
        · exact Or.inr hquestion
        · exact Or.inl (hev.ne_needsHuman hcall
            (fun c hc => (hs cur hcur c hc).resolve_right hquestion) hc)
      have hdone : State.retired ≠ .done := by decide
      have hchildren' := childrenByParent_transition hdone cur "human" reason b
      unfold cutWalk
      rw [Locked.run_bind_ok (run_childrenOf cur b), Locked.run_bind, Locked.run_attempt,
        Locked.andThen_ok]
      generalize (transition cur .retired "human" reason).run b = r at hwf' hev' hchildren' ⊢
      obtain ⟨item | e, b'⟩ := r
      · exact ih _ _ hkids b' ⟨⟨hwf', hev.trans hev'⟩, hchildren'.trans hchildren⟩
      · exact ih _ _ hkids b' ⟨⟨hwf', hev.trans hev'⟩, hchildren'.trans hchildren⟩

/-- A cut retires cards; a question on one of them stays open. -/
lemma evolves_cutScope (hb : b.state.WellFormed) {fuel : ℕ} {reason : Option String}
    (hcall : ¬grants .call)
    (hgrant : ∀ k, b.state.Below id k → ∀ c, b.state.items[k]? = some c →
      c.state ≠ .needsHuman ∨ grants .question) :
    Evolves grants b.state ((cutScope fuel id reason).run b).2.state := by
  have hroot : ∀ k ∈ [id], b.state.Below id k := by
    simp [Below, Relation.ReflTransGen.refl]
  unfold cutScope
  refine evolves_bind ((keeps_cutWalk hcall hgrant fuel [id] [] hroot).run
    ⟨⟨hb, .refl _⟩, rfl⟩).1.2 fun touched =>
    within_bind (within_get evolves_lax id) fun _ =>
      within_bind (within_onSome fun _ => within_story evolves_lax _ _) fun _ => within_pure touched

omit [UnicodeTables] in
/-- A restored card takes up the life of a card where it may. -/
lemma step_unarchive {target : State} (hstate : c.state = .retired)
    (htarget : ∃ prior hasChildren hasDod, target = unarchiveTarget prior hasChildren hasDod)
    (byHuman : Bool) : Standing.Step grants c.standing (c.standing.entered target byHuman) ∧
      target ≠ .claimed ∧ target ≠ .running := by
  have hsource : c.standing.state = .retired := hstate
  have hne : c.standing.state ≠ .needsHuman := by
    rw [hsource]
    decide
  have hcases : target = .draft ∨ target = .shaping ∨ target = .backlog ∨ target = .review ∨
      target = .done := by
    obtain ⟨prior, hasChildren, hasDod, rfl⟩ := htarget
    cases prior <;> cases hasChildren <;> cases hasDod <;> decide
  rcases hcases with rfl | rfl | rfl | rfl | rfl
  · exact ⟨.redraft hsource byHuman, by decide, by decide⟩
  · exact ⟨.shape (Or.inr hsource) byHuman, by decide, by decide⟩
  · exact ⟨.bounce (by rw [hsource]; rfl) (Or.inl hne), by decide, by decide⟩
  · exact ⟨.review (by rw [hsource]; rfl) byHuman, by decide, by decide⟩
  · exact ⟨.finish (by rw [hsource]; rfl) rfl (Or.inl hne) byHuman, by decide, by decide⟩

lemma living_unarchiveOne (reason : Option String) (touched : List ItemId) (cur : ItemId) :
    Living grants s (unarchiveOne reason touched cur) := by
  refine living_of_evolves (structural_unarchiveOne _ _ _) fun b hb _ => ?_
  unfold unarchiveOne
  rw [Locked.run_bind_ok (run_get cur b)]
  cases hc : b.state.items[cur]? with
  | none => exact .refl _
  | some c =>
    by_cases hstate : c.state = .retired
    · have hfilter : (Option.map b.state.populateBlockers (some c)).filter
          (fun i => i.state == .retired) = some (b.state.populateBlockers c) := by
        simp [Option.filter, populateBlockers, hstate]
      rw [hfilter]
      dsimp only
      rw [Locked.run_bind_ok (run_childrenOf cur b)]
      generalize htarget : unarchiveTarget (b.state.populateBlockers c).priorState _ _ = target
      have hstep : ∀ byHuman, Standing.Step grants c.standing
          (c.standing.entered target byHuman) ∧ target ≠ .claimed ∧ target ≠ .running :=
        fun byHuman => step_unarchive hstate ⟨_, _, _, htarget.symm⟩ byHuman
      rcases run_transition_cases hb cur target "human" reason with
        ⟨e, b', hrun, hsame, -⟩ | ⟨c', item, b', hrun, hc', hcheck, hgrown⟩
      · rw [Locked.run_bind_error (by rw [Locked.run_mapErr, hrun]; rfl)]
        exact .of_items (congrArg BoardState.items hsame)
      · rw [hc, Option.some.injEq] at hc'
        subst hc'
        rw [Locked.run_bind_ok (by rw [Locked.run_mapErr, hrun]; rfl),
          Locked.run_bind_ok (run_editQuietly _ _ _)]
        have hmoved : Evolves grants b.state b'.state :=
          (Evolves.move hc (hstep _).1 _ _).trans hgrown.evolves
        refine hmoved.trans (.edit fun c' hc' => ?_)
        have hentered : c'.standing = c.standing.entered target ("human" == "human") := by
          have hkept := hgrown.kept cur (c.standing.entered target ("human" == "human")) (by
            rw [← WorkItem.standing_moved c (b.now 0) target "human" reason]
            exact standing_of_items (by rw [items_moveItem, if_pos rfl, hc, Option.map_some]))
          rw [standing_of_items hc', Option.some.injEq] at hkept
          exact hkept
        have hin : c'.standing.state = target := by
          rw [hentered]
          rfl
        exact .unlease (hin ▸ (hstep true).2.1) (hin ▸ (hstep true).2.2)
    · have hfilter : (Option.map b.state.populateBlockers (some c)).filter
          (fun i => i.state == .retired) = none := by
        simp [Option.filter, populateBlockers, hstate]
      rw [hfilter]
      exact .refl _

lemma evolves_unarchiveScope (hb : b.state.WellFormed) {fuel : ℕ} {reason : Option String} :
    Evolves grants b.state ((unarchiveScope fuel id reason).run b).2.state := by
  have hmethod : Living grants b.state (unarchiveScope fuel id reason) :=
    living_bind (living_of_within (structural_getOr id _) (within_getOr evolves_lax id _)) fun _ =>
      living_bind (living_of_within (within_failIf _ _) (within_failIf _ _)) fun _ =>
        living_bind (living_of_within (structural_subtreeWalk _ _ _)
          (within_subtreeWalk evolves_lax _ _ _)) fun _ =>
          living_bind (living_foldlM (fun _ _ _ => living_unarchiveOne _ _ _) _) fun _ =>
            living_bind (living_get id) fun _ =>
              living_bind (living_onSome fun _ => living_story _ _) fun _ => living_pure _
  exact Living.evolves hmethod hb

/-! ## The hygiene of Projects -/

/-- The proposal of a root is not materialized. -/
lemma run_materializeProposalOnDone_root (hc : b.state.items[id]? = some c)
    (hroot : c.parent = none) (byWhom : String) :
    ((materializeProposalOnDone id byWhom).run b).2 = b := by
  have hparent : (b.state.populateBlockers c).parent = none := hroot
  unfold materializeProposalOnDone
  rw [Locked.run_bind_ok (run_get id b), hc, Option.map_some]
  dsimp only
  split
  · rfl
  · split
    · rfl
    · obtain ⟨e, hrun⟩ := run_materializeProposal_refused hc (fun _ _ _ _ h => by
        rw [hroot] at h
        cases h) byWhom (proposalOrigin (b.state.populateBlockers c) id)
      rw [Locked.run_bind_error hrun]

/-- A root that reaches Done is only moved. -/
lemma run_transition_root (hc : b.state.items[id]? = some c) (hroot : c.parent = none)
    (target : State) (byWhom : String) (reason : Option String) :
    (b.state.checkMove id c target ≠ .ok () ∧
        ∃ e, (transition id target byWhom reason).run b = (.error e, b.stepped b.state)) ∨
      (b.state.checkMove id c target = .ok () ∧
        ∃ item b', (transition id target byWhom reason).run b = (.ok item, b') ∧
          b'.state.items = (b.state.moveItem id c (b.now 0) target byWhom reason).items) := by
  by_cases hcheck : b.state.checkMove id c target = .ok ()
  · refine Or.inr ⟨hcheck, ?_⟩
    by_cases hdone : target = .done
    · subst hdone
      let b₁ := (b.stepped (b.state.moveItem id c (b.now 0) .done byWhom reason)).emitted
        ((b.state.moveItem id c (b.now 0) .done byWhom reason).populateBlockers
          (c.moved (b.now 0) .done byWhom reason))
      have hc₁ : b₁.state.items[id]? = some (c.moved (b.now 0) .done byWhom reason) := by
        simp [b₁, items_moveItem, hc]
      have hhook : ((materializeProposalOnDone id byWhom).run b₁).2 = b₁ :=
        run_materializeProposalOnDone_root hc₁ hroot byWhom
      obtain ⟨b₂, hrun, hitems, -⟩ := run_announceUnblocked (ε := TransitionError) id b₁
      rw [← hhook] at hrun
      obtain ⟨item, hitem⟩ : ∃ item, (transition id .done byWhom reason).run b =
          (.ok item, b₂) := by
        simp [transition, transitionWith, tryMove_allowed hc hcheck, Locked.run_when, hrun, b₁]
      exact ⟨item, b₂, hitem, hitems⟩
    · obtain ⟨item, b', hrun, hstate, -⟩ := run_transition_allowed hc hdone hcheck byWhom reason
      exact ⟨item, b', hrun, congrArg BoardState.items hstate⟩
  · exact Or.inl ⟨hcheck, run_transition_refused hc hcheck byWhom reason⟩

/-- A root was moved to the state `target` when the edge is there; the other cards are left
alone. -/
structure RootMoved (grants : Grant → Prop) (id : ItemId) (c : WorkItem) (target : State)
    (s s' : BoardState) : Prop where
  wellFormed : s'.WellFormed
  evolves : Evolves grants s s'
  others : ∀ k, k ≠ id → s'.items[k]? = s.items[k]?
  root : ∃ c', s'.items[id]? = some c' ∧ c'.parent = none ∧
    c'.state = if allowed c.state target then target else c.state

lemma rootMoved_transition (hb : b.state.WellFormed) (hc : b.state.items[id]? = some c)
    (hroot : c.parent = none) {target : State} (hfree : requiresClaimable target = false)
    (hbacklog : target ≠ .backlog) (byWhom : String) (reason : Option String)
    (hstep : allowed c.state target = true →
      Standing.Step grants c.standing (c.standing.entered target (byWhom == "human"))) :
    RootMoved grants id c target b.state
      ((transition id target byWhom reason).run b).2.state := by
  have hwf := wellFormed_run (structural_transition id target byWhom reason) hb
  have hcheck : b.state.checkMove id c target = .ok () ↔ allowed c.state target = true :=
    checkMove_free_iff hfree hbacklog
  rcases run_transition_root hc hroot target byWhom reason with
    ⟨hrefused, e, hrun⟩ | ⟨hpassed, item, b', hrun, hitems⟩
  · rw [hrun] at hwf ⊢
    rw [Ne, hcheck] at hrefused
    exact ⟨hwf, .refl _, fun _ _ => rfl, c, hc, hroot, (if_neg hrefused).symm⟩
  · rw [hrun] at hwf ⊢
    have hedge := hcheck.1 hpassed
    refine ⟨hwf, (Evolves.move hc (hstep hedge) _ _).trans (.of_items hitems), fun k hk => ?_,
      c.moved (b.now 0) target byWhom reason, ?_, hroot, (if_pos hedge).symm⟩
    · rw [hitems, items_moveItem, if_neg hk]
    · rw [hitems, items_moveItem, if_pos rfl, hc, Option.map_some]

/-- The hygiene has gone through some of the roots `roots` of the board `s`. -/
structure Healing (grants : Grant → Prop) (s : BoardState) (roots : List (ItemId × State))
    (s' : BoardState) : Prop where
  wellFormed : s'.WellFormed
  evolves : Evolves grants s s'
  tasks : SameTasks s s'
  roots : ∀ p ∈ roots, ∃ c, s'.items[p.1]? = some c ∧ c.parent = none ∧
    (c.state = p.2 ∨ c.state = .done)

omit [UnicodeTables] in
/-- A root that was changed alone, and kept its state or is Done. -/
lemma Healing.of_root {roots : List (ItemId × State)} {s' s'' : BoardState} {c' : WorkItem}
    (h : Healing grants s roots s') (hwf : s''.WellFormed) (hev : Evolves grants s' s'')
    (hothers : ∀ k, k ≠ id → s''.items[k]? = s'.items[k]?) (hc : s'.items[id]? = some c)
    (hroot : c.parent = none) (hc' : s''.items[id]? = some c') (hroot' : c'.parent = none)
    (hstate : c'.state = c.state ∨ c'.state = .done) : Healing grants s roots s'' where
  wellFormed := hwf
  evolves := h.evolves.trans hev
  tasks k d hparent := by
    by_cases hk : k = id
    · have hno : ∀ {d' : WorkItem}, d'.parent = none → some d' ≠ some d := by
        intro d' hnone heq
        rw [Option.some.injEq] at heq
        rw [← heq, hnone] at hparent
        cases hparent
      rw [hk, hc', ← h.tasks id d hparent, hc]
      exact iff_of_false (hno hroot') (hno hroot)
    · rw [hothers k hk]
      exact h.tasks k d hparent
  roots p hp := by
    obtain ⟨d, hd, hdroot, hdstate⟩ := h.roots p hp
    by_cases hk : p.1 = id
    · rw [hk, hc, Option.some.injEq] at hd
      subst hd
      refine ⟨c', hk ▸ hc', hroot', ?_⟩
      rcases hstate with hsame | hdone
      · rw [hsame]
        exact hdstate
      · exact Or.inr hdone
    · exact ⟨d, by rw [hothers _ hk, hd], hdroot, hdstate⟩

omit [UnicodeTables] in
lemma step_finish_root (hgrant : c.state = .needsHuman → grants .question)
    (hedge : allowed c.state .done = true) (byHuman : Bool) :
    Standing.Step grants c.standing (c.standing.entered .done byHuman) := by
  refine .finish hedge rfl ?_ byHuman
  by_cases hstate : c.state = .needsHuman
  · exact Or.inr (hgrant hstate)
  · exact Or.inl hstate

lemma run_healEpic_state (healed : ℕ) (pid : ItemId) (state : State) (b : Board) :
    ((healEpic healed (pid, state) : Method ε ℕ).run b).2.state =
      if b.state.tasksEnded pid then
        ((transition pid .done "epic-hygiene" (some "All child tasks completed")).run
          (if state = .draft then ((transition pid .shaping "epic-hygiene" none).run b).2
            else b)).2.state
      else b.state := by
  have hread : (read fun s => s.tasksEnded pid : Method ε Bool).run b =
      (.ok (b.state.tasksEnded pid), b) := rfl
  change (((read fun s => s.tasksEnded pid : Method ε Bool) >>= _).run b).2.state = _
  rw [Locked.run_bind_ok hread]
  split
  · by_cases hdraft : state = .draft
    · simp [Locked.when, hdraft]
    · simp [Locked.when, hdraft]
  · rfl

/-- One round of the hygiene. -/
lemma keeps_healEpic {roots : List (ItemId × State)} {p : ItemId × State} (hp : p ∈ roots)
    (hgrant : p.2 = .needsHuman → s.tasksEnded p.1 = true → grants .question) (healed : ℕ) :
    (healEpic healed p : Method ε ℕ).Keeps fun b => Healing grants s roots b.state := by
  obtain ⟨pid, state⟩ := p
  refine .of_run fun b h => ?_
  obtain ⟨c, hc, hroot, hstate⟩ := h.roots _ hp
  dsimp only at hc hstate hgrant
  rw [run_healEpic_state]
  cases hended : b.state.tasksEnded pid with
  | false => exact h
  | true =>
    rw [if_pos rfl]
    by_cases hdraft : state = .draft
    · -- A Draft root goes through Shaping.
      rw [if_pos hdraft]
      subst hdraft
      have hshaped : RootMoved grants pid c .shaping b.state
          ((transition pid .shaping "epic-hygiene" none).run b).2.state :=
        rootMoved_transition h.wellFormed hc hroot rfl (by decide) _ _ fun hedge =>
          .shape (Or.inl (hstate.resolve_right fun hdone => by
            rw [hdone] at hedge
            cases hedge)) _
      generalize ((transition pid .shaping "epic-hygiene" none).run b).2 = b₁ at hshaped ⊢
      obtain ⟨c₁, hc₁, hroot₁, hstate₁⟩ := hshaped.root
      have hcases : c₁.state = .shaping ∨ c₁.state = .done := by
        rcases hstate with hs | hs
        · left
          rw [hstate₁, hs]
          rfl
        · right
          rw [hstate₁, hs]
          rfl
      have hdone : RootMoved grants pid c₁ .done b₁.state ((transition pid .done "epic-hygiene"
          (some "All child tasks completed")).run b₁).2.state :=
        rootMoved_transition hshaped.wellFormed hc₁ hroot₁ rfl (by decide) _ _ fun hedge =>
          step_finish_root (fun hneeds => by
            rcases hcases with hs | hs <;> simp [hs] at hneeds) hedge _
      obtain ⟨c₂, hc₂, hroot₂, hstate₂⟩ := hdone.root
      refine h.of_root hdone.wellFormed (hshaped.evolves.trans hdone.evolves) (fun k hk => ?_) hc
        hroot hc₂ hroot₂ (Or.inr ?_)
      · rw [hdone.others k hk, hshaped.others k hk]
      · rcases hcases with hs | hs <;> rw [hstate₂, hs] <;> rfl
    · rw [if_neg hdraft]
      have hdone : RootMoved grants pid c .done b.state ((transition pid .done "epic-hygiene"
          (some "All child tasks completed")).run b).2.state :=
        rootMoved_transition h.wellFormed hc hroot rfl (by decide) _ _ fun hedge =>
          step_finish_root (fun hneeds => by
            rcases hstate with hs | hs
            · exact hgrant (hs ▸ hneeds) (h.tasks.tasksEnded hended)
            · rw [hs] at hneeds
              cases hneeds) hedge _
      obtain ⟨c₂, hc₂, hroot₂, hstate₂⟩ := hdone.root
      refine h.of_root hdone.wellFormed hdone.evolves hdone.others hc hroot hc₂ hroot₂ ?_
      rw [hstate₂]
      split
      · exact Or.inr rfl
      · exact Or.inl rfl

/-- The hygiene finishes Projects; a question on one of them stays open. -/
lemma evolves_healCompletedEpics (hb : b.state.WellFormed)
    (hgrant : ∀ k c, b.state.items[k]? = some c → c.parent = none → c.state = .needsHuman →
      b.state.tasksEnded k = true → grants .question) :
    Evolves grants b.state ((healCompletedEpics : Method ε ℕ).run b).2.state := by
  have hroots : ∀ p ∈ (b.state.cards.filter fun i => i.parent.isNone && !i.state.isTerminal).map
      fun i => (i.id, i.state), ∃ c, b.state.items[p.1]? = some c ∧ c.parent = none ∧
        c.state = p.2 := by
    intro p hp
    obtain ⟨c, hc, rfl⟩ := List.mem_map.1 hp
    obtain ⟨hmem, hroot⟩ := List.mem_filter.1 hc
    rw [Bool.and_eq_true, Option.isNone_iff_eq_none] at hroot
    exact ⟨c, hb.mem_cards_iff.1 hmem, hroot.1, rfl⟩
  have hasked : ∀ p ∈ (b.state.cards.filter fun i => i.parent.isNone && !i.state.isTerminal).map
      fun i => (i.id, i.state), p.2 = .needsHuman → b.state.tasksEnded p.1 = true →
        grants .question := by
    intro p hp hneeds hended
    obtain ⟨c, hc, hroot, hstate⟩ := hroots p hp
    exact hgrant p.1 c hc hroot (hstate.trans hneeds) hended
  have hloop := Locked.Keeps.foldlM (fun healed p hp =>
    keeps_healEpic (ε := ε) hp (hasked p hp) healed) 0
  unfold healCompletedEpics
  rw [Locked.run_bind_ok (run_read _ _)]
  refine (hloop.run ⟨hb, .refl _, fun _ _ _ => Iff.rfl, fun p hp => ?_⟩).evolves
  obtain ⟨c, hc, hroot, hstate⟩ := hroots p hp
  exact ⟨c, hc, hroot, Or.inl hstate⟩

/-! ## Approvals -/

omit [UnicodeTables] in
/-- No Project still carries a legacy plan. -/
lemma plan_of_unplanned (hplan : s.Unplanned) {k : ItemId} :
    (s.items[k]?.map s.populateBlockers).bind WorkItem.plan = none := by
  cases hproject : s.items[k]? with
  | none => rfl
  | some project => exact hplan k project hproject

lemma evolves_approved {text : String} (hb : b.state.WellFormed)
    (hgrant : ∀ c, b.state.items[id]? = some c → c.state = .needsHuman → grants .question) :
    Evolves grants b.state ((transitionOrMessage id .done "human" text).run b).2.state :=
  evolves_transitionOrMessage hb fun c hc hcheck =>
    step_finish_root (hgrant c hc) (allowed_of_check hcheck) _

/-- An approval finishes the card; a question on it stays open. -/
lemma evolves_approveReview (hb : b.state.WellFormed) (hplan : b.state.Unplanned) (fuel : ℕ)
    (hgrant : ∀ c, b.state.items[id]? = some c → c.state = .needsHuman → grants .question) :
    Evolves grants b.state ((approveReview fuel id).run b).2.state := by
  have hplain : Evolves grants b.state ((approvePlain id).run b).2.state :=
    evolves_bind (evolves_approved hb hgrant) fun _ =>
      within_bind (within_story evolves_lax _ _) fun _ => within_pure _
  cases fuel with
  | zero => exact .refl _
  | succ fuel =>
    rw [approveReview, approveReviewWith]
    cases hc : b.state.items[id]? with
    | none =>
      rw [Locked.run_bind_error (run_getOr_none hc _)]
      exact .refl _
    | some c =>
      rw [Locked.run_bind_ok (run_getOr_some hc _)]
      split
      · exact evolves_bind (evolves_approved hb hgrant) fun _ =>
          within_bind (within_story evolves_lax _ _) fun _ => within_pure _
      · split
        · exact hplain
        · rename_i parent _
          rw [Locked.run_bind_ok (run_get parent b), plan_of_unplanned hplan]
          exact hplain

end Unicode

end Board

namespace BoardState

/-- The Initial plan card that a plan operation on the card `id` is about. -/
def planCard (s : BoardState) (id : ItemId) : Option ItemId :=
  match s.items[id]? with
  | none => none
  | some c =>
    if c.isInitialPlanTask then some id
    else if c.isProject then
      (s.childrenOfIndexed id).find? fun k => s.items[k]?.any WorkItem.isInitialPlanTask
    else none

end BoardState

namespace Board

variable {ε : Type} {grants : Grant → Prop} {b : Board} {id : ItemId}

lemma run_findInitialPlan (ids : List ItemId) (b : Board) :
    (findInitialPlan ids : Method ε _).run b =
      (.ok (ids.find? fun k => b.state.items[k]?.any WorkItem.isInitialPlanTask), b) := by
  induction ids with
  | nil => rfl
  | cons k ids ih =>
    have hsame : (b.state.items[k]?.map b.state.populateBlockers).any WorkItem.isInitialPlanTask =
        b.state.items[k]?.any WorkItem.isInitialPlanTask := by
      cases b.state.items[k]? <;> rfl
    rw [findInitialPlan, Locked.run_bind_ok (run_get k b), hsame, List.find?_cons]
    cases b.state.items[k]?.any WorkItem.isInitialPlanTask with
    | true => rfl
    | false => exact ih

lemma run_resolveInitialPlanId (id : ItemId) (b : Board) :
    (∃ e, (resolveInitialPlanId id).run b = (.error e, b)) ∨
      ∃ k, (resolveInitialPlanId id).run b = (.ok k, b) ∧ b.state.planCard id = some k := by
  unfold resolveInitialPlanId BoardState.planCard
  cases hc : b.state.items[id]? with
  | none => exact Or.inl ⟨_, Locked.run_bind_error (run_getOr_none hc _) _⟩
  | some c =>
    rw [Locked.run_bind_ok (run_getOr_some hc _)]
    have hinit : (b.state.populateBlockers c).isInitialPlanTask = c.isInitialPlanTask := rfl
    have hproject : (b.state.populateBlockers c).isProject = c.isProject := rfl
    rw [hinit, hproject]
    dsimp only
    split
    · exact Or.inr ⟨id, rfl, rfl⟩
    · split
      · rw [Locked.run_bind_ok (run_childrenOf id b), Locked.run_bind_ok (run_findInitialPlan _ b)]
        split
        · rename_i k hk
          exact Or.inr ⟨k, rfl, hk⟩
        · exact Or.inl ⟨_, rfl⟩
      · exact Or.inl ⟨_, rfl⟩

section Unicode

variable [UnicodeTables]

omit [UnicodeTables] in
/-- No Project has a legacy plan to adopt. -/
lemma run_adoptLegacyPlan (hplan : b.state.Unplanned) (seedId : ItemId) (seed : WorkItem) :
    (Locked.when (!seed.hasProposal) (adoptLegacyPlan seedId seed)).run b = (.ok (), b) := by
  rw [Locked.run_when]
  split
  · unfold adoptLegacyPlan
    cases seed.parent with
    | none => rfl
    | some projectId =>
      rw [Locked.onSome_some, Locked.run_bind_ok (run_get projectId b), plan_of_unplanned hplan]
      rfl
  · rfl

/-- A plan on a board without legacy plans is approved as the Review of its card. -/
lemma evolves_approvePlan (hb : b.state.WellFormed) (hplan : b.state.Unplanned) {fuel : ℕ}
    (hgrant : ∀ k c, b.state.planCard id = some k → b.state.items[k]? = some c →
      c.hasProposal = true → c.state = .needsHuman → grants .question) :
    BoardState.Evolves grants b.state ((approvePlan fuel id).run b).2.state := by
  unfold approvePlan approvePlanWith
  rcases run_resolveInitialPlanId id b with ⟨e, hrun⟩ | ⟨k, hrun, hcard⟩
  · rw [Locked.run_bind_error hrun]
    exact .refl _
  · rw [Locked.run_bind_ok hrun]
    cases hc : b.state.items[k]? with
    | none =>
      rw [Locked.run_bind_error (run_getOr_none hc _)]
      exact .refl _
    | some c =>
      rw [Locked.run_bind_ok (run_getOr_some hc _)]
      by_cases hterminal : (b.state.populateBlockers c).state.isTerminal = true
      · rw [Locked.run_bind_error (by rw [Locked.run_failIf, if_pos hterminal])]
        exact .refl _
      · rw [Locked.run_bind_ok (by rw [Locked.run_failIf, if_neg hterminal]),
          Locked.run_bind_ok (run_adoptLegacyPlan hplan k _), Locked.run_bind_ok (run_getOr_some hc _)]
        by_cases hproposal : c.hasProposal = true
        · have hnotmissing : ¬(!(b.state.populateBlockers c).hasProposal) = true := by
            simpa [WorkItem.hasProposal, BoardState.populateBlockers] using hproposal
          rw [Locked.run_bind_ok (by rw [Locked.run_failIf, if_neg hnotmissing])]
          refine evolves_bind (evolves_approveReview hb hplan fuel fun c' hc' hneeds => ?_) fun _ =>
            within_bind (within_failIf _ _) fun _ => within_pure _
          rw [hc, Option.some.injEq] at hc'
          subst hc'
          exact hgrant k c hcard hc hproposal hneeds
        · have hmissing : (!(b.state.populateBlockers c).hasProposal) = true := by
            simpa [WorkItem.hasProposal, BoardState.populateBlockers] using hproposal
          rw [Locked.run_bind_error (by rw [Locked.run_failIf, if_pos hmissing])]
          exact .refl _

end Unicode

end Board

end Sandboard

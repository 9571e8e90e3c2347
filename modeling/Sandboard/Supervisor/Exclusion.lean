import Sandboard.Library.Run
import Sandboard.Store.Cardwise
import Sandboard.Store.Refusals
import Sandboard.Supervisor.Settling

/-!
# A proposal or a pull request

A card that is not an Initial plan goes to Review with a proposal of sibling Tasks or with a pull
request.  A split looks for a pull request, and the report of a verdict file looks for a proposal;
the path without a verdict looks for neither.  Each section is judged card by card: `Allows id q`
says that the other cards stay as they are in this respect, and that the card `id` changes by `q`.
-/

namespace Sandboard

open Text

/-- The card has a proposal, and lists a pull request. -/
def WorkItem.Overlaps (c : WorkItem) : Prop :=
  c.hasProposal = true ∧ c.prUrl.isSome = true

/-- No card but an Initial plan enters Review with a proposal and a pull request. -/
def BoardState.Exclusive (s s' : BoardState) : Prop :=
  ∀ (k : ItemId) (c c' : WorkItem), s.items[k]? = some c → s'.items[k]? = some c' →
    c.state ≠ .review → c'.state = .review → c'.isInitialPlanTask = false → ¬c'.Overlaps

namespace Supervisor

/-! ## What happens to a card -/

/-- The card does not enter Review, and does not come to have both. -/
structure Calm (c c' : WorkItem) : Prop where
  initial : c'.isInitialPlanTask = c.isInitialPlanTask
  review : c'.state = .review → c.state = .review
  overlaps : c'.Overlaps → c.Overlaps

lemma Calm.refl (c : WorkItem) : Calm c c := ⟨rfl, id, id⟩

lemma Calm.trans {c c' c'' : WorkItem} (h : Calm c c') (h' : Calm c' c'') : Calm c c'' where
  initial := h'.initial.trans h.initial
  review hc := h.review (h'.review hc)
  overlaps hc := h.overlaps (h'.overlaps hc)

/-- The card `id` changes by `q`; the others are calm. -/
structure Allows (id : ItemId) (q : WorkItem → WorkItem → Prop) (k : ItemId)
    (c c' : WorkItem) : Prop where
  initial : c'.isInitialPlanTask = c.isInitialPlanTask
  others : k ≠ id → Calm c c'
  card : k = id → q c c'

/-- The relation is reflexive and transitive. -/
structure Chains (q : WorkItem → WorkItem → Prop) : Prop where
  refl : ∀ c, q c c
  trans : ∀ c c' c'', q c c' → q c' c'' → q c c''

/-- The card does not enter Review. -/
def StaysOut (c c' : WorkItem) : Prop := c'.state = .review → c.state = .review

/-- The card lists the same pull requests. -/
def SamePrs (c c' : WorkItem) : Prop := c'.pullRequests = c.pullRequests

/-- The card has the same proposal. -/
def SameProposal (c c' : WorkItem) : Prop := c'.proposal = c.proposal

/-- The card keeps its state, or goes to Review by a legal edge. -/
def AtMostReviews (c c' : WorkItem) : Prop :=
  c'.state = c.state ∨ (allowed c.state .review = true ∧ c'.state = .review)

lemma chains_calm : Chains Calm := ⟨.refl, fun _ _ _ => .trans⟩

lemma chains_staysOut : Chains StaysOut := ⟨fun _ h => h, fun _ _ _ h h' hc => h (h' hc)⟩

lemma chains_samePrs : Chains SamePrs := ⟨fun _ => rfl, fun _ _ _ h h' => h'.trans h⟩

lemma chains_sameProposal : Chains SameProposal := ⟨fun _ => rfl, fun _ _ _ h h' => h'.trans h⟩

lemma chains_true : Chains fun _ _ => True := ⟨fun _ => trivial, fun _ _ _ _ _ => trivial⟩

lemma chains_atMostReviews : Chains AtMostReviews where
  refl _ := .inl rfl
  trans c c' c'' h h' := by
    rcases h' with hsame | ⟨hedge, hreview⟩
    · rcases h with hc | ⟨hedge, hreview⟩
      · exact .inl (hsame.trans hc)
      · exact .inr ⟨hedge, hsame.trans hreview⟩
    · rcases h with hc | ⟨hedge', -⟩
      · rw [hc] at hedge
        exact .inr ⟨hedge, hreview⟩
      · exact .inr ⟨hedge', hreview⟩

/-! ## What a method does to the card -/

section Within

variable {id : ItemId} {q : WorkItem → WorkItem → Prop} {ε α : Type}

/-- The board changes card by card, and only the card `id` by `q`. -/
abbrev On (id : ItemId) (q : WorkItem → WorkItem → Prop) : BoardState → BoardState → Prop :=
  Cardwise (Allows id q)

lemma allows_shapes (hq : Chains q) :
    Shapes (fun k f => ∀ c, Allows id q k c (f c))
      (fun k target byWhom => ∀ c now reason, allowed c.state target = true →
        Allows id q k c (c.moved now target byWhom reason)) (On id q) :=
  Cardwise.shapes (fun _ c => ⟨rfl, fun _ => .refl c, fun _ => hq.refl c⟩)
    fun _ c c' c'' h h' => ⟨h'.initial.trans h.initial,
      fun hk => (h.others hk).trans (h'.others hk),
      fun hk => hq.trans c c' c'' (h.card hk) (h'.card hk)⟩

/-- A change of the card `id` by `q`. -/
lemma allows_self {c c' : WorkItem} (hinitial : c'.isInitialPlanTask = c.isInitialPlanTask)
    (hq : q c c') : Allows id q id c c' :=
  ⟨hinitial, fun h => absurd rfl h, fun _ => hq⟩

variable {agentId : String}

lemma within_ask [UnicodeTables] (hq : Chains q)
    (hcalm : ∀ c c', Calm c c' → SamePrs c c' → SameProposal c c' → q c c')
    {what question : String} {options : List EscalationOption} :
    Within (On id q) (ask id agentId what question options) := by
  refine Board.within_bind (Board.within_mapErr (Board.shaped_escalate (allows_shapes hq) ?_ ?_))
    fun _ => Board.within_pure ()
  · exact fun _ _ _ _ => allows_self rfl (hcalm _ _ ⟨rfl, nofun, fun h => h⟩ rfl rfl)
  · exact fun _ _ => allows_self rfl (hcalm _ _ ⟨rfl, fun h => h, fun h => h⟩ rfl rfl)

lemma within_recordPr (hq : Chains q) (hpr : ∀ needle pr c, q c (c.withReportedPr needle pr))
    (pr : PullRequest) : Within (On id q) (recordPr id pr) :=
  Board.within_bind (Board.within_mapErr (Board.within_reportPullRequest (allows_shapes hq).toLax
    fun s needle pr => (allows_shapes hq).edit s fun c => allows_self rfl (hpr needle pr c)))
    fun _ => Board.within_pure ()

lemma within_reportRun [UnicodeTables] (hq : Chains q)
    (hreport : ∀ added removed gates c, q c (WorkItem.reported added removed gates c))
    (hmove : ∀ c now byWhom reason, allowed c.state .review = true →
      q c (c.moved now .review byWhom reason)) (added removed : UInt32) (gates : List String) :
    Within (On id q) (reportRun id agentId added removed gates) :=
  Board.within_bind (Board.within_mapErr (Board.shaped_report (allows_shapes hq)
    (fun c now reason hedge => allows_self rfl (hmove c now agentId reason hedge))
    fun c => allows_self rfl (hreport added removed gates c))) fun _ => Board.within_pure ()

lemma within_release (hq : Chains q) (hbounce : ∀ reason c, q c (WorkItem.bounced reason c))
    (hmove : ∀ c now byWhom reason, q c (c.moved now .backlog byWhom reason))
    (reason : Option String) : Within (On id q) (Board.releaseWithReason id agentId reason) :=
  Board.within_releaseWithReason (allows_shapes hq).toLax fun s now =>
    Board.shaped_releaseSection (allows_shapes hq)
      (fun c now reason _ => allows_self rfl (hmove c now agentId reason))
      (fun reason c => allows_self rfl (hbounce reason c)) now s

end Within

/-! ## What the run of a method does to a board -/

section Settling

variable (s₀ : BoardState) (id : ItemId)

/-- No card has entered Review since `s₀`, and only the card `id` may have come to have both. -/
def Unentered (b : Board) : Prop := On id StaysOut s₀ b.state

/-- No card has entered Review with both since `s₀`. -/
def Excluded (b : Board) : Prop := s₀.Exclusive b.state

variable {s₀ id} {ε α : Type} {q : WorkItem → WorkItem → Prop} {b : Board}

lemma Unentered.stays (h : Unentered s₀ id b) {k : ItemId} {c c' : WorkItem}
    (hc : s₀.items[k]? = some c) (hc' : b.state.items[k]? = some c') : StaysOut c c' := by
  have hrel := h.rel hc hc'
  by_cases hk : k = id
  · exact hrel.card hk
  · exact (hrel.others hk).review

lemma unentered_refl (id : ItemId) (b : Board) : Unentered b.state id b :=
  (allows_shapes chains_staysOut).refl b.state

lemma Unentered.excluded (h : Unentered s₀ id b) : Excluded s₀ b :=
  fun _ _ _ hc hc' hout hreview => absurd (h.stays hc hc' hreview) hout

lemma keeps_unentered {m : Method ε α} (h : Within (On id StaysOut) m) :
    m.Keeps (Unentered s₀ id) :=
  .of_sections (h.sections.mono fun _ _ hstep hs =>
    (allows_shapes chains_staysOut).trans hs hstep)

lemma keeps_excluded (id : ItemId) {m : Method ε α} (h : Within (On id Calm) m) :
    m.Keeps (Excluded s₀) := by
  refine .of_sections (h.sections.mono
    fun b b' hstep hs k c c'' hc hc'' hout hreview hinitial => ?_)
  obtain ⟨c', hc', hrel⟩ := hstep k c'' hc''
  have hcalm : Calm c' c'' := by
    by_cases hk : k = id
    · exact hrel.card hk
    · exact hrel.others hk
  rw [hcalm.initial] at hinitial
  exact fun hoverlaps =>
    hs k c c' hc hc' hout (hcalm.review hreview) hinitial (hcalm.overlaps hoverlaps)

/-- A method that changes the card by `q` lets it into Review when `q` keeps one of the two off
it. -/
lemma excluded_of_within {m : Method ε α} (hq : Chains q) (h : Within (On id q) m)
    (hb : Unentered s₀ id b)
    (hcard : ∀ c c', b.state.items[id]? = some c → q c c' → c'.state = .review →
      c.state ≠ .review → c.isInitialPlanTask = false → ¬c'.Overlaps) :
    Excluded s₀ (m.run b).2 := by
  have hrun : On id q b.state (m.run b).2.state :=
    h.run_state (allows_shapes hq).refl (fun _ _ _ => (allows_shapes hq).trans) b
  intro k c c'' hc hc'' hout hreview hinitial
  obtain ⟨c', hc', hrel⟩ := hrun k c'' hc''
  have hout' : c'.state ≠ .review := fun hc'review => hout (hb.stays hc hc' hc'review)
  by_cases hk : k = id
  · subst hk
    rw [hrel.initial] at hinitial
    exact hcard c' c'' hc' (hrel.card rfl) hreview hout' hinitial
  · exact absurd ((hrel.others hk).review hreview) hout'

/-! ## Verdicts -/

/-- From a board in `P`, the method settles the run, and lets no card into Review with both. -/
def Settles (s₀ : BoardState) (P : Board → Prop) (m : Method Abort Bool) : Prop :=
  m.Triple P (fun settled b => settled = true ∧ Excluded s₀ b) fun _ => Excluded s₀

lemma settles_keeping {P : Board → Prop} {m : Method Abort α} {k : α → Method Abort Bool}
    (hm : m.Keeps P) (hP : ∀ b, P b → Excluded s₀ b) (hk : ∀ a, Settles s₀ P (k a)) :
    Settles s₀ P (m >>= k) :=
  .bind (hm.conseq (fun _ h => h) (fun _ _ h => h) fun _ => hP) hk

lemma settles_bind {m : Method Abort α} {k : α → Method Abort Bool}
    (hm : Within (On id StaysOut) m) (hk : ∀ a, Settles s₀ (Unentered s₀ id) (k a)) :
    Settles s₀ (Unentered s₀ id) (m >>= k) :=
  settles_keeping (keeps_unentered hm) (fun _ h => h.excluded) hk

lemma settles_true {P : Board → Prop} (hP : ∀ b, P b → Excluded s₀ b) :
    Settles s₀ P (pure true) :=
  .pure fun b hb => ⟨rfl, hP b hb⟩

/-- A last method after which no card has entered Review with both. -/
lemma settles_last {P : Board → Prop} {m : Method Abort α}
    (hm : ∀ b, P b → Excluded s₀ (m.run b).2) :
    Settles s₀ P (m >>= fun _ => pure true) := by
  have htriple : m.Triple P (fun _ => Excluded s₀) fun _ => Excluded s₀ := by
    intro b hb
    have hrun := hm b hb
    generalize m.run b = r at hrun ⊢
    obtain ⟨a | e, b'⟩ := r <;> exact hrun
  exact .bind htriple fun _ => settles_true fun _ h => h

lemma run_cardIs {p : WorkItem → Bool} (hp : ∀ (s : BoardState) c, p (s.populateBlockers c) = p c)
    (b : Board) : (cardIs id p).run b = (.ok (b.state.items[id]?.any p), b) := by
  rw [cardIs, Locked.run_bind_ok (Board.run_get id b), Locked.run_pure]
  cases b.state.items[id]? with
  | none => rfl
  | some c => simp [hp]

/-- A test of the card, and what follows each outcome. -/
lemma settles_cardIs {P : Board → Prop} {p : WorkItem → Bool}
    (hp : ∀ (s : BoardState) c, p (s.populateBlockers c) = p c) {m m' : Method Abort Bool}
    (hyes : Settles s₀ (fun b => P b ∧ b.state.items[id]?.any p = true) m)
    (hno : Settles s₀ (fun b => P b ∧ b.state.items[id]?.any p = false) m') :
    Settles s₀ P (cardIs id p >>= fun r => if r then m else m') := by
  intro b hb
  rw [Locked.run_bind_ok (run_cardIs hp b)]
  cases hcard : b.state.items[id]?.any p with
  | false => exact hno b ⟨hb, hcard⟩
  | true => exact hyes b ⟨hb, hcard⟩

lemma Settles.mono {P P' : Board → Prop} {m : Method Abort Bool} (h : Settles s₀ P m)
    (hP : ∀ b, P' b → P b) : Settles s₀ P' m :=
  h.conseq hP (fun _ _ h => h) fun _ _ h => h

section Unicode

variable [UnicodeTables] {agentId branch : String} {w : Answers} {file : VerdictFile}

lemma within_ask_staysOut {what question : String} {options : List EscalationOption} :
    Within (On id StaysOut) (ask id agentId what question options) :=
  within_ask chains_staysOut fun _ _ h _ _ => h.review

lemma within_escalateMissing (detail : String) :
    Within (On id StaysOut) (escalateMissing id agentId detail) :=
  Board.within_bind within_ask_staysOut fun _ => Board.within_pure true

lemma within_applyInitialPlanSidecar :
    Within (On id StaysOut) (applyInitialPlanSidecar w id agentId) := by
  unfold applyInitialPlanSidecar
  split
  · exact within_escalateMissing _
  · exact within_escalateMissing _
  · exact within_escalateMissing _
  · split
    · exact within_escalateMissing _
    · refine Board.within_bind (Board.within_attempt (Board.shaped_setProposal
        (allows_shapes chains_staysOut) fun c => allows_self rfl fun h => h)) fun r => ?_
      cases r with
      | ok item => exact Board.within_pure false
      | error e => exact within_escalateMissing _

lemma settles_settleEscalate :
    Settles s₀ (Unentered s₀ id) (settleEscalate id agentId file) :=
  settles_bind (within_parsed _) fun _ =>
    settles_bind (Board.within_mapErr (Board.shaped_escalate (allows_shapes chains_staysOut)
      (fun _ _ _ _ => allows_self rfl nofun) fun _ _ => allows_self rfl fun h => h))
      fun _ => settles_true fun _ h => h.excluded

/-- A card that is an Initial plan may go to Review as it likes. -/
lemma settles_reportInitial (added removed : UInt32) (gates : List String)
    (hinitial : ∀ c, s₀.items[id]? = some c → c.isInitialPlanTask = true) :
    Settles s₀ (Unentered s₀ id)
      (reportRun id agentId added removed gates >>= fun _ => pure true) := by
  refine settles_last fun b hb => ?_
  have hwithin : Within (On id fun _ _ => True) (reportRun id agentId added removed gates) :=
    within_reportRun chains_true (fun _ _ _ _ => trivial) (fun _ _ _ _ _ => trivial) _ _ _
  refine excluded_of_within chains_true hwithin hb fun c c' hc _ _ _ hno => ?_
  obtain ⟨c₀, hc₀, hrel⟩ := hb id c hc
  rw [hrel.initial, hinitial c₀ hc₀] at hno
  cases hno

omit [UnicodeTables] in
lemma Unentered.initial (hb : Unentered s₀ id b)
    (h : b.state.items[id]?.any WorkItem.isInitialPlanTask = true) {c : WorkItem}
    (hc : s₀.items[id]? = some c) : c.isInitialPlanTask = true := by
  obtain ⟨c', hc', hinitial⟩ := (Option.any_eq_true _ _).1 h
  rw [← (hb.rel hc hc').initial]
  exact hinitial

/-- The plan of an Initial plan is stored and reported. -/
lemma settles_planned (added removed : UInt32) (gates : List String) :
    Settles s₀ (fun b => Unentered s₀ id b ∧
        b.state.items[id]?.any WorkItem.isInitialPlanTask = true)
      (applyInitialPlanSidecar w id agentId >>= fun asked =>
        if asked then pure true
        else reportRun id agentId added removed gates >>= fun _ => pure true) := by
  intro b hb
  have hinitial : ∀ c, s₀.items[id]? = some c → c.isInitialPlanTask = true :=
    fun c hc => hb.1.initial hb.2 hc
  refine settles_bind within_applyInitialPlanSidecar (fun asked => ?_) b hb.1
  cases asked with
  | true => exact settles_true fun _ h => h.excluded
  | false => exact settles_reportInitial added removed gates hinitial

lemma settles_settlePlan : Settles s₀ (Unentered s₀ id) (settlePlan w id agentId) :=
  settles_cardIs (fun _ _ => rfl) (settles_planned _ _ _)
    (Settles.mono (settles_bind within_ask_staysOut fun _ =>
      settles_true fun _ h => h.excluded) fun _ h => h.1)

/-! ## A split -/

/-- A split lets the card into Review without a pull request only. -/
lemma excluded_proposeSplit (agentId : String) (children : List SplitChildSpec) (maxChildren : ℕ)
    (hb : Unentered s₀ id b) :
    Excluded s₀ ((Board.proposeSplit id agentId children maxChildren).run b).2 := by
  cases hc : b.state.items[id]? with
  | none =>
    rw [Board.proposeSplit, Locked.run_bind_error (Board.run_getOr_none hc _)]
    exact hb.excluded
  | some c =>
    cases hpr : c.prUrl with
    | none =>
      refine excluded_of_within chains_samePrs
        (Board.shaped_proposeSplit (allows_shapes chains_samePrs)
          (fun _ _ _ _ _ => allows_self rfl rfl) (fun _ _ => allows_self rfl rfl)
          fun _ _ _ _ _ => allows_self rfl rfl) hb fun d c' hd hsame _ _ _ hoverlaps => ?_
      cases hc.symm.trans hd
      have hlists : c'.prUrl = c.prUrl := by
        rw [WorkItem.prUrl, WorkItem.prUrl, WorkItem.unmergedPrs, WorkItem.unmergedPrs, hsame]
      rw [WorkItem.Overlaps, hlists, hpr] at hoverlaps
      cases hoverlaps.2
    | some url =>
      rw [Board.proposeSplit, Locked.run_bind_ok (Board.run_getOr_some hc _),
        Locked.run_failIf_bind]
      split
      · exact hb.excluded
      · have hurl : (b.state.populateBlockers c).prUrl = some url := hpr
        simp only [hurl]
        refine Unentered.excluded ((keeps_unentered ?_).run hb)
        exact Board.within_bind (Board.within_attempt (Board.shaped_escalate
          (allows_shapes chains_staysOut)
          (fun _ _ _ _ => allows_self rfl fun heq => by cases heq)
          fun _ _ => allows_self rfl fun h => h)) fun _ => Board.within_fail _

lemma settles_settleSplit :
    Settles s₀ (Unentered s₀ id) (settleSplit w id agentId file) := by
  refine settles_cardIs (fun _ _ => rfl) ?_ ?_
  · exact Settles.mono (settles_bind within_ask_staysOut fun _ =>
      settles_true fun _ h => h.excluded) fun _ h => h.1
  · refine Settles.mono (settles_bind (within_parsed _) fun split => settles_bind
      (Board.within_get (allows_shapes chains_staysOut).toLax id) fun card => settles_bind
        (Board.within_onSome fun url => Board.within_setPrUrl (allows_shapes chains_staysOut).toLax
          fun s prs => (allows_shapes chains_staysOut).edit s fun c => allows_self rfl fun h => h)
        fun _ => ?_) fun _ h => h.1
    have hproposed : (Board.proposeSplit id agentId (split.children.map RawSplitChild.toSpec)
        5).attempt.Triple (Unentered s₀ id)
        (fun _ => Excluded s₀) fun (_ : Abort) _ => False := by
      intro b hb
      rw [Locked.run_attempt]
      exact excluded_proposeSplit _ _ _ hb
    refine Locked.Triple.bind (hproposed.conseq (fun _ h => h) (fun _ _ h => h) nofun) fun r => ?_
    cases r with
    | ok item => exact settles_true fun _ h => h
    | error e =>
      have hlax : Lax (On id Calm) := (allows_shapes chains_calm).toLax
      refine settles_keeping (keeps_excluded id (Board.within_bind
        (Board.within_get hlax id) fun _ => Board.within_pure _)) (fun _ h => h) fun asked => ?_
      refine settles_keeping (keeps_excluded id (Board.within_when fun _ =>
        within_ask chains_calm fun _ _ h _ _ => h)) (fun _ h => h) fun _ => ?_
      exact settles_true fun _ h => h

/-! ## A report -/

/-- The card stays out of Review, and keeps its proposal. -/
def Unpublished (c c' : WorkItem) : Prop := StaysOut c c' ∧ SameProposal c c'

omit [UnicodeTables] in
lemma chains_unpublished : Chains Unpublished where
  refl c := ⟨chains_staysOut.refl c, chains_sameProposal.refl c⟩
  trans c c' c'' h h' :=
    ⟨chains_staysOut.trans c c' c'' h.1 h'.1, chains_sameProposal.trans c c' c'' h.2 h'.2⟩

/-- No card has entered Review, and the card has no proposal. -/
def Unproposed (s₀ : BoardState) (id : ItemId) (b : Board) : Prop :=
  Unentered s₀ id b ∧ ∀ c, b.state.items[id]? = some c → c.hasProposal = false

omit [UnicodeTables] in
lemma hasProposal_of_same {c c' : WorkItem} (h : SameProposal c c') :
    c'.hasProposal = c.hasProposal := by
  rw [WorkItem.hasProposal, WorkItem.hasProposal, h]

omit [UnicodeTables] in
lemma keeps_unproposed {m : Method ε α} (h : Within (On id Unpublished) m) :
    m.Keeps (Unproposed s₀ id) := by
  refine .of_sections (h.sections.mono fun b b' hstep hs => ⟨?_, fun c' hc' => ?_⟩)
  · refine (allows_shapes chains_staysOut).trans hs.1 (hstep.mono fun k c c' hrel => ?_)
    exact ⟨hrel.initial, hrel.others, fun hk => (hrel.card hk).1⟩
  · obtain ⟨c, hc, hrel⟩ := hstep id c' hc'
    rw [hasProposal_of_same (hrel.card rfl).2]
    exact hs.2 c hc

omit [UnicodeTables] in
lemma Unproposed.excluded (h : Unproposed s₀ id b) : Excluded s₀ b := h.1.excluded

/-- A card without a proposal goes to Review without one. -/
lemma excluded_reportRun (hb : Unproposed s₀ id b) (added removed : UInt32)
    (gates : List String) : Excluded s₀ ((reportRun id agentId added removed gates).run b).2 := by
  refine excluded_of_within chains_sameProposal (within_reportRun chains_sameProposal
    (fun _ _ _ _ => rfl) (fun _ _ _ _ _ => rfl) _ _ _) hb.1 fun c c' hc hsame _ _ _ hboth => ?_
  have hnone := hb.2 c hc
  rw [← hasProposal_of_same hsame, hboth.1] at hnone
  cases hnone

omit [UnicodeTables] in
lemma excluded_release {reason : Option String} (hb : Unentered s₀ id b)
    (f : TransitionError → Abort) :
    Excluded s₀ (((Board.releaseWithReason id agentId reason).mapErr f).run b).2 :=
  Unentered.excluded ((keeps_unentered (Board.within_mapErr (within_release chains_staysOut
    (fun _ _ h => h) (fun _ _ _ _ => nofun) reason))).run hb)

lemma settles_publishReport (rep : ReportFile) :
    Settles s₀ (Unproposed s₀ id) (publishReport w id agentId branch rep) := by
  have hlax : Lax (On id Unpublished) := (allows_shapes chains_unpublished).toLax
  refine settles_keeping (keeps_unproposed (Board.within_get hlax id)) (fun _ h => h.excluded)
    fun card => ?_
  refine settles_keeping (keeps_unproposed (Board.within_ret _)) (fun _ h => h.excluded)
    fun pr => ?_
  refine settles_keeping (keeps_unproposed (within_recordPr chains_unpublished
    (fun _ _ _ => ⟨fun h => h, rfl⟩) pr)) (fun _ h => h.excluded) fun _ => ?_
  dsimp only
  split
  · exact settles_last fun b hb => excluded_release hb.1 _
  · exact settles_last fun b hb => excluded_reportRun hb _ _ _

lemma settles_settleReport :
    Settles s₀ (Unentered s₀ id) (settleReport w id agentId branch file) := by
  have hlax : Lax (On id StaysOut) := (allows_shapes chains_staysOut).toLax
  refine settles_bind (within_parsed _) fun rep => settles_bind (Board.within_onSome fun pr =>
    Board.within_bind (Board.within_attempt (Board.within_reportPullRequest hlax fun s _ _ =>
      (allows_shapes chains_staysOut).edit s fun c => allows_self rfl fun h => h)) fun _ =>
        Board.within_pure ()) fun _ => ?_
  refine settles_cardIs (fun _ _ => rfl) (settles_planned _ _ _) ?_
  refine settles_cardIs (fun _ _ => rfl) ?_ ?_
  · exact Settles.mono (settles_bind within_ask_staysOut fun _ =>
      settles_true fun _ h => h.excluded) fun _ h => h.1.1
  · refine Settles.mono (settles_publishReport rep) fun b hb => ⟨hb.1.1, fun c hc => ?_⟩
    have hnone := hb.2
    rw [hc, Option.any_some] at hnone
    exact hnone

/-! ## The end of a run -/

/-- The kinds of verdict files. -/
def verdictKinds : List String := ["escalate", "split", "plan", "report"]

/-- There is no verdict file, or one of a kind that nobody knows. -/
def Answers.noVerdict (w : Answers) : Bool :=
  match probed w with
  | none => true
  | some (vtype, _) => w.verdict.download.isOk && w.verdict.content.isOk &&
      !verdictKinds.contains vtype

lemma run_processVerdict_noVerdict (h : w.noVerdict = true) (b : Board) :
    (processVerdict w id agentId branch).run b = (.ok false, b) := by
  unfold Answers.noVerdict at h
  unfold processVerdict
  cases hprobed : probed w with
  | none => rfl
  | some r =>
    obtain ⟨vtype, path⟩ := r
    simp only [hprobed, verdictKinds, Bool.and_eq_true, Bool.not_eq_true', List.contains_eq_mem,
      List.mem_cons, List.not_mem_nil, or_false, decide_eq_false_iff_not, not_or] at h
    obtain ⟨⟨hdownload, hcontent⟩, hescalate, hsplit, hplan, hreport⟩ := h
    cases hd : w.verdict.download with
    | error e => simp [hd, Except.isOk, Except.toBool] at hdownload
    | ok u =>
      cases hcont : w.verdict.content with
      | error e => simp [hcont, Except.isOk, Except.toBool] at hcontent
      | ok file =>
        simp only [hescalate, hsplit, hplan, hreport, if_false]
        rfl

lemma settles_processVerdict (agentId branch : String) (h : w.noVerdict = false) :
    Settles s₀ (Unentered s₀ id) (processVerdict w id agentId branch) := by
  unfold Answers.noVerdict at h
  unfold processVerdict
  cases hprobed : probed w with
  | none => simp [hprobed] at h
  | some r =>
    obtain ⟨vtype, path⟩ := r
    simp only [hprobed] at h
    cases hd : w.verdict.download with
    | error e => exact fun b hb => hb.excluded
    | ok u =>
      cases hcontent : w.verdict.content with
      | error e => exact fun b hb => hb.excluded
      | ok file =>
        simp only [hd, hcontent, verdictKinds, Except.isOk, Except.toBool, Bool.true_and,
          Bool.not_eq_false',
          List.contains_eq_mem, decide_eq_true_eq, List.mem_cons, List.not_mem_nil, or_false] at h
        refine settles_bind (Board.within_ret _) fun _ => settles_bind (Board.within_ret _)
          fun file => ?_
        rcases h with rfl | rfl | rfl | rfl
        · exact settles_settleEscalate
        · exact settles_settleSplit
        · exact settles_settlePlan
        · exact settles_settleReport

/-- The pull request that GitHub shows, unless it cannot be merged. -/
def Answers.shownPr (w : Answers) : Option String :=
  (printedOf w.published).bind fun out =>
    if parsePrMergeable out = .conflicting then none
    else (parsePrUrl out).filter fun url => !isBlank url

/-- The run ends without a verdict, and its pull request goes with the card to Review over a
proposal. -/
structure Overpublishes (w : Answers) (run : Output) (s : BoardState) (id : ItemId) : Prop where
  noVerdict : w.noVerdict = true
  ok : run.ok = true
  shown : w.shownPr.isSome = true
  card : ∃ c, s.items[id]? = some c ∧ c.isInitialPlanTask = false ∧ c.hasProposal = true ∧
    allowed c.state .review = true

lemma within_publish {q : WorkItem → WorkItem → Prop} (hq : Chains q)
    (hpr : ∀ needle pr c, q c (c.withReportedPr needle pr))
    (hreport : ∀ added removed gates c, q c (WorkItem.reported added removed gates c))
    (hmove : ∀ c now byWhom reason, allowed c.state .review = true →
      q c (c.moved now .review byWhom reason)) (pr : PullRequest) (added removed : UInt32)
    (gates : List String) :
    Within (On id q) (recordPr id pr >>= fun _ => reportRun id agentId added removed gates) :=
  Board.within_bind (within_recordPr hq hpr pr) fun _ => within_reportRun hq hreport hmove _ _ _

omit [UnicodeTables] in
/-- A pull request without a URL is not recorded. -/
lemma run_recordPr_blank (id : ItemId) {url : String} (h : isBlank url = true) (b : Board) :
    ∃ e, (recordPr id (PullRequest.fromUrl url)).run b = (.error e, b) := by
  have hnone : (PullRequest.fromUrl url).urlStr = none := by
    rw [PullRequest.urlStr, if_pos]
    rw [PullRequest.fromUrl, isBlank_trim, h]
  rw [recordPr, Board.reportPullRequest, hnone]
  exact ⟨_, rfl⟩

/-- The lines that the run changed. -/
def Answers.changedLines (w : Answers) : UInt32 × UInt32 :=
  ((printedOf w.diffstat).map parseDiffstat).getD (0, 0)

/-- A run that GitHub shows a pull request for records it and reports. -/
lemma run_publishRun_shown {run : Output} {url : String} (hok : run.ok = true)
    (hshown : w.shownPr = some url) (b : Board) :
    (publishRun w id agentId branch run).run b =
      (recordPr id (PullRequest.fromUrl url) >>= fun _ =>
        reportRun id agentId w.changedLines.1 w.changedLines.2 ["ci-on-pr"]).run b := by
  obtain ⟨printed, hprinted, hfound⟩ := Option.bind_eq_some_iff.1 hshown
  split at hfound
  · cases hfound
  · rename_i hmerges
    obtain ⟨hurl, -⟩ := Option.filter_eq_some_iff.1 hfound
    cases hpublished : w.published with
    | error e => simp [printedOf, hpublished] at hprinted
    | ok out =>
      simp only [printedOf, hpublished, Option.ite_none_right_eq_some, Option.some.injEq]
        at hprinted
      obtain ⟨hout, rfl⟩ := hprinted
      have hawaited : (Locked.ret (awaited w.published) : Method Abort Output).run b =
          (.ok out, b) := by
        rw [hpublished]
        rfl
      unfold publishRun
      rw [if_neg (by rw [hok]; exact Bool.false_ne_true), Locked.run_bind_ok hawaited,
        if_neg (by rw [hout]; exact Bool.false_ne_true)]
      simp only [hurl, hmerges, if_false]
      rfl

/-- Without a pull request to show, the run does not end in Review. -/
lemma unentered_publishRun (hb : Unentered s₀ id b) {run : Output}
    (h : run.ok = false ∨ w.shownPr = none) :
    Unentered s₀ id ((publishRun w id agentId branch run).run b).2 := by
  unfold publishRun
  split
  · exact hb
  · rename_i hok
    have hnone := h.resolve_left fun hfailed => hok (by rw [hfailed]; rfl)
    cases hpublished : w.published with
    | error e => exact hb
    | ok out =>
      have hawaited : (Locked.ret (awaited (.ok out)) : Method Abort Output).run b =
          (.ok out, b) := rfl
      rw [Locked.run_bind_ok hawaited]
      split
      · exact hb
      · rename_i hout
        rw [Bool.not_eq_true', Bool.not_eq_false] at hout
        have hprinted : printedOf w.published = some out.stdout := by
          rw [hpublished, printedOf, if_pos hout]
        rw [Answers.shownPr, hprinted, Option.bind_some] at hnone
        cases hurl : parsePrUrl out.stdout with
        | none => exact hb
        | some url =>
          rw [hurl] at hnone
          dsimp only
          by_cases hmerges : parsePrMergeable out.stdout = .conflicting
          · simp only [hmerges, if_true]
            refine (keeps_unentered (Board.within_bind (within_recordPr chains_staysOut
              (fun _ _ _ h => h) _) fun _ => Board.within_bind (Board.within_mapErr
                (within_release chains_staysOut (fun _ _ h => h) (fun _ _ _ _ => nofun) _))
                  fun _ => Board.within_pure ())).run hb
          · have hblank : isBlank url = true := by
              rw [if_neg hmerges] at hnone
              simpa using hnone
            obtain ⟨e, hrun⟩ := run_recordPr_blank id hblank b
            rw [Locked.run_bind_error hrun]
            exact hb

/-- A run with a pull request to show ends in Review without a proposal. -/
lemma excluded_publishRun (hb : Unentered s₀ id b) {run : Output}
    (h : run.ok = true → w.shownPr.isSome = true → ∀ c, b.state.items[id]? = some c →
      c.isInitialPlanTask = false → c.hasProposal = false ∨ allowed c.state .review = false) :
    Excluded s₀ ((publishRun w id agentId branch run).run b).2 := by
  cases hok : run.ok with
  | false => exact (unentered_publishRun hb (.inl hok)).excluded
  | true =>
    cases hshown : w.shownPr with
    | none => exact (unentered_publishRun hb (.inr hshown)).excluded
    | some url =>
      rw [run_publishRun_shown hok hshown]
      have hcard := h hok (by rw [hshown]; rfl)
      cases hc : b.state.items[id]? with
      | none =>
        refine excluded_of_within chains_true (within_publish chains_true (fun _ _ _ => trivial)
          (fun _ _ _ _ => trivial) (fun _ _ _ _ _ => trivial) _ _ _ _) hb fun c _ hd => ?_
        rw [hc] at hd
        cases hd
      | some c =>
        by_cases hedge : allowed c.state .review = true
        · refine excluded_of_within chains_sameProposal (within_publish chains_sameProposal
            (fun _ _ _ => rfl) (fun _ _ _ _ => rfl) (fun _ _ _ _ _ => rfl) _ _ _ _) hb
            fun d c' hd hsame _ _ hinitial hboth => ?_
          cases hc.symm.trans hd
          rcases hcard c hc hinitial with hnone | hbarred
          · rw [← hasProposal_of_same hsame, hboth.1] at hnone
            cases hnone
          · rw [hedge] at hbarred
            cases hbarred
        · refine excluded_of_within chains_atMostReviews (within_publish chains_atMostReviews
            (fun _ _ _ => .inl rfl) (fun _ _ _ _ => .inl rfl)
            (fun _ _ _ _ hreview => .inr ⟨hreview, rfl⟩) _ _ _ _) hb
            fun d c' hd hmost hreview hout _ _ => ?_
          cases hc.symm.trans hd
          rcases hmost with hsame | ⟨hreview', -⟩
          · exact hout (hsame.symm.trans hreview)
          · exact hedge hreview'

lemma run_finish_published (h : w.noVerdict = true) (run : Output)
    (hinitial : b.state.items[id]?.any WorkItem.isInitialPlanTask = false) :
    (finish w id agentId branch run).run b = (publishRun w id agentId branch run).run b := by
  rw [finish, Locked.run_bind_ok (run_processVerdict_noVerdict h b),
    if_neg Bool.false_ne_true, Locked.run_bind_ok (run_cardIs (fun _ _ => rfl) b), hinitial,
    if_neg Bool.false_ne_true]

/-- The run of an Initial plan ends with a question when there is no verdict. -/
lemma unentered_finish_initial (h : w.noVerdict = true) (run : Output)
    (hinitial : b.state.items[id]?.any WorkItem.isInitialPlanTask = true)
    (hb : Unentered s₀ id b) :
    Unentered s₀ id ((finish w id agentId branch run).run b).2 := by
  rw [finish, Locked.run_bind_ok (run_processVerdict_noVerdict h b),
    if_neg Bool.false_ne_true, Locked.run_bind_ok (run_cardIs (fun _ _ => rfl) b), hinitial,
    if_pos rfl]
  exact (keeps_unentered within_ask_staysOut).run hb

/-- A run that does not overpublish lets no card into Review with both. -/
lemma exclusive_finish {run : Output} (h : ¬Overpublishes w run b.state id) :
    b.state.Exclusive ((finish w id agentId branch run).run b).2.state := by
  have hb := unentered_refl id b
  cases hverdict : w.noVerdict with
  | false =>
    have hsettled := settles_processVerdict agentId branch hverdict b hb
    rw [finish, Locked.run_bind]
    generalize (processVerdict w id agentId branch).run b = r at hsettled ⊢
    obtain ⟨settled | e, b'⟩ := r
    · exact hsettled
    · obtain ⟨rfl, hexcluded⟩ := hsettled
      exact hexcluded
  | true =>
    cases hinitial : b.state.items[id]?.any WorkItem.isInitialPlanTask with
    | true => exact (unentered_finish_initial hverdict run hinitial hb).excluded
    | false =>
      rw [run_finish_published hverdict run hinitial]
      refine excluded_publishRun hb fun hok hshown c hc hno => ?_
      by_contra hboth
      rw [not_or, Bool.not_eq_false, Bool.not_eq_false] at hboth
      exact h ⟨hverdict, hok, hshown, c, hc, hno, hboth⟩

/-! ## A run that overpublishes -/

omit [UnicodeTables] in
lemma prUrl_isSome_of_mem {c : WorkItem} {pr : PullRequest} (h : pr ∈ c.pullRequests)
    (hurl : pr.urlStr.isSome = true) : c.prUrl.isSome = true := by
  have hfound : (c.pullRequests.findSome? PullRequest.urlStr).isSome = true :=
    List.findSome?_isSome_iff.2 ⟨pr, h, hurl⟩
  rw [WorkItem.prUrl, Option.isSome_or, hfound, Bool.or_true]

omit [UnicodeTables] in
/-- A card lists a pull request once one with a URL is reported. -/
lemma prUrl_withReportedPr {pr : PullRequest} (hurl : pr.urlStr.isSome = true) (needle : String)
    (c : WorkItem) : (c.withReportedPr needle pr).prUrl.isSome = true := by
  have hmem : ∀ prs : List PullRequest,
      ∃ p ∈ WorkItem.withReportedPr.update needle pr prs, p.urlStr.isSome = true := by
    intro prs
    induction prs with
    | nil => exact ⟨pr, List.mem_cons_self, hurl⟩
    | cons p ps ih =>
      rw [WorkItem.withReportedPr.update]
      split
      · refine ⟨_, List.mem_cons_self, ?_⟩
        cases hblank : isBlank p.url with
        | true => simpa [PullRequest.urlStr, hblank] using hurl
        | false => simp [PullRequest.urlStr, hblank]
      · obtain ⟨p', hp', hsome⟩ := ih
        exact ⟨p', List.mem_cons_of_mem _ hp', hsome⟩
  obtain ⟨p, hp, hsome⟩ := hmem c.pullRequests
  exact prUrl_isSome_of_mem hp hsome

omit [UnicodeTables] in
lemma check_review {c : WorkItem} (h : allowed c.state .review = true) (hasChildren : Bool)
    (blockers : List ItemId) : check c .review hasChildren blockers = .ok () := by
  simp [check, h, requiresClaimable]

omit [UnicodeTables] in
/-- A pull request with a URL is recorded on the card. -/
lemma run_recordPr {url : String} (hblank : isBlank url = false) {c : WorkItem}
    (hc : b.state.items[id]? = some c) :
    ∃ needle pr b', pr.urlStr.isSome = true ∧
      (recordPr id (PullRequest.fromUrl url)).run b = (.ok (), b') ∧
      b'.state.items[id]? = some (c.withReportedPr needle pr) := by
  have htrimmed : isBlank (trim url) = false := by rw [isBlank_trim, hblank]
  have hurl : (PullRequest.fromUrl url).urlStr = some (trim (trim url)) := by
    rw [PullRequest.urlStr, PullRequest.fromUrl, if_neg]
    rw [htrimmed]
    exact Bool.false_ne_true
  let pr : PullRequest := { PullRequest.fromUrl url with reportedAt := some (b.now 0) }
  let needle := normalizePrUrl (trim (trim url))
  have hstamped : (Board.stampReported (PullRequest.fromUrl url) : Method String _).run b =
      (.ok pr, b.stepped b.state) := rfl
  have hedited := Board.run_editOr_some (b := b.stepped b.state) hc
    s!"no such item #{id}" fun _ => WorkItem.withReportedPr needle pr
  have hreported : ∃ b', (Board.reportPullRequest id (PullRequest.fromUrl url)).run b =
      (.ok (c.withReportedPr needle pr), b') ∧
      b'.state.items[id]? = some (c.withReportedPr needle pr) := by
    rw [Board.reportPullRequest, hurl]
    dsimp only
    rw [Locked.run_bind_ok hstamped, Locked.run_bind_ok hedited,
      Locked.run_bind_ok (Board.run_story id _ _)]
    refine ⟨_, rfl, ?_⟩
    rw [Board.told_items, Board.emitted_state, Board.stepped_state,
      BoardState.items_editItem_self, Board.stepped_state, hc, Option.map_some]
  obtain ⟨b', hrun, hitem⟩ := hreported
  refine ⟨needle, pr, b', ?_, ?_, hitem⟩
  · have hsame : pr.urlStr = (PullRequest.fromUrl url).urlStr := rfl
    rw [hsame, hurl]
    rfl
  · have hmapped : ((Board.reportPullRequest id (PullRequest.fromUrl url)).mapErr fun e =>
        Abort.error s!"report_pull_request: {e}").run b =
        (.ok (c.withReportedPr needle pr), b') := by
      rw [Locked.run_mapErr, hrun]
      rfl
    rw [recordPr, Locked.run_bind_ok hmapped]
    rfl

/-- A card that may go to Review is reported there. -/
lemma item_reportRun (agentId : String) {c : WorkItem} (hc : b.state.items[id]? = some c)
    (hedge : allowed c.state .review = true) (added removed : UInt32) (gates : List String) :
    ∃ now, ((reportRun id agentId added removed gates).run b).2.state.items[id]? =
      some ((c.reported added removed gates).moved now .review agentId none) := by
  have hedited : (b.stepped (b.state.editItem id (WorkItem.reported added removed
      gates))).state.items[id]? = some (c.reported added removed gates) := by
    rw [Board.stepped_state, BoardState.items_editItem_self, hc, Option.map_some]
  have hreview : State.review ≠ .done := nofun
  obtain ⟨item, b₂, hrun, -, hitem⟩ :=
    Board.run_transition_allowed hedited hreview (check_review hedge _ _) agentId none
  have hreport : (Board.report id agentId added removed gates).run b = (.ok item, b₂) := by
    rw [Board.report, Locked.run_bind_ok (Board.run_editQuietly id _ b), hrun]
  refine ⟨(b.stepped (b.state.editItem id (WorkItem.reported added removed gates))).now 0, ?_⟩
  rw [reportRun, Locked.run_bind, Locked.run_mapErr, hreport]
  exact hitem

/-- A run that overpublishes lets its card into Review with both. -/
lemma not_exclusive_finish {run : Output} (h : Overpublishes w run b.state id) :
    ¬b.state.Exclusive ((finish w id agentId branch run).run b).2.state := by
  obtain ⟨c, hc, hinitial, hproposal, hedge⟩ := h.card
  obtain ⟨url, hshown⟩ := Option.isSome_iff_exists.1 h.shown
  have hblank : isBlank url = false := by
    obtain ⟨printed, -, hfound⟩ := Option.bind_eq_some_iff.1 hshown
    split at hfound
    · cases hfound
    · simpa using (Option.filter_eq_some_iff.1 hfound).2
  obtain ⟨needle, pr, b₁, hurl, hrecorded, hc₁⟩ := run_recordPr hblank hc
  have hany : b.state.items[id]?.any WorkItem.isInitialPlanTask = false := by
    rw [hc, Option.any_some, hinitial]
  rw [run_finish_published h.noVerdict run hany, run_publishRun_shown h.ok hshown,
    Locked.run_bind_ok hrecorded]
  intro hexclusive
  obtain ⟨now, hc'⟩ := item_reportRun agentId hc₁ hedge w.changedLines.1
    w.changedLines.2 ["ci-on-pr"]
  refine hexclusive id c _ hc hc' ?_ rfl hinitial ⟨hproposal, prUrl_withReportedPr hurl needle c⟩
  intro hreview
  rw [hreview] at hedge
  cases hedge

/-- A run lets no card into Review with both exactly when it does not overpublish. -/
theorem exclusive_finish_iff (run : Output) :
    b.state.Exclusive ((finish w id agentId branch run).run b).2.state ↔
      ¬Overpublishes w run b.state id :=
  ⟨fun h hover => not_exclusive_finish hover h, exclusive_finish⟩

end Unicode

end Settling

/-! ## Runs -/

/-- A call of a board method, or the end of a supervised run. -/
inductive RunStep where
  | operation (op : Operation)
  | finish (w : Answers) (id : ItemId) (agentId branch : String) (run : Output)

namespace RunStep

/-- The board after the step. -/
def take [UnicodeTables] (b : Board) : RunStep → Board
  | operation op => b.exec op
  | finish w id agentId branch run => ((Supervisor.finish w id agentId branch run).run b).2

/-- The step proposes a split, or ends a run. -/
def Settling : RunStep → Prop
  | operation (.proposeSplit ..) => True
  | operation _ => False
  | finish .. => True

/-- The step ends a run that overpublishes. -/
def Overpublishes (s : BoardState) : RunStep → Prop
  | operation _ => False
  | finish w id _ _ run => Supervisor.Overpublishes w run s id

end RunStep

section Runs

variable [UnicodeTables]

/-- A step that proposes a split or ends a run lets no card into Review with both, exactly when it
does not end a run that overpublishes. -/
lemma exclusive_take_iff (b : Board) (step : RunStep) :
    (step.Settling → b.state.Exclusive (step.take b).state) ↔ ¬step.Overpublishes b.state := by
  cases step with
  | finish w id agentId branch run =>
    exact ⟨fun h => (exclusive_finish_iff run).1 (h trivial),
      fun h _ => (exclusive_finish_iff run).2 h⟩
  | operation op =>
    refine ⟨fun _ => id, fun _ hsettling => ?_⟩
    cases op with
    | proposeSplit id agentId children maxChildren =>
      have hexcluded := excluded_proposeSplit agentId children maxChildren
        (unentered_refl id b)
      rw [RunStep.take, Board.exec_eq rfl]
      exact hexcluded
    | _ => cases hsettling

/-- In a run of board methods and ends of supervised runs, the splits and the ends of runs let no
card but an Initial plan into Review with a proposal and a pull request, exactly when no run that
ends overpublishes: without a verdict, with a pull request that GitHub shows, on a card that has a
proposal. -/
theorem exclusive_run_iff (b : Board) (steps : List RunStep) :
    Run.Meets RunStep.take (fun b step => step.Settling → b.state.Exclusive (step.take b).state) b
        steps ↔
      Run.Meets RunStep.take (fun b step => ¬step.Overpublishes b.state) b steps := by
  induction steps generalizing b with
  | nil => exact Iff.rfl
  | cons step steps ih => exact and_congr (exclusive_take_iff b step) (ih (step.take b))

end Runs

/-! ## A run without a verdict -/

/-- The agent writes no verdict, and GitHub shows its pull request. -/
def publishing : Answers where
  probe := .ok ⟨0, "", ""⟩
  verdict := ⟨.error "no such file", .error "no such file"⟩
  plan := ⟨.error "no such file", .error "no such file"⟩
  openPr := .error "timed out"
  namedView := .error "timed out"
  lookup := .error "timed out"
  lookedView := .error "timed out"
  diffstat := .error "timed out"
  mergeable := .error "timed out"
  published := .ok ⟨0, "SANDBOARD-PR-URL=https://github.com/a/b/pull/1\n", ""⟩

/-- A card is split, and put back into Backlog by hand; its second run publishes. -/
def splitAndPublished : List RunStep :=
  [.operation (.create ⟨none, "Docs", "", none, .human, false, none⟩),
    .operation (.createTask 1 "Docs pages" "Docs" "Docs done" [] none true),
    .operation (.claim 3 "sandbox-3" none 60),
    .operation (.proposeSplit 3 "sandbox-3" [⟨"Docs a", "", "Done", none, [], none⟩,
      ⟨"Docs b", "", "Done", none, [], none⟩] 5),
    .operation (.transition 3 .backlog "human" none),
    .operation (.claim 3 "sandbox-3" none 60)]

/-- The end of the second run. -/
def publishedRun : RunStep := .finish publishing 3 "sandbox-3" "sandboard/card-3" ⟨0, "", ""⟩

set_option maxRecDepth 100000 in
lemma item_splitAndPublished :
    let := asciiTables
    ((Run.after RunStep.take (Board.new Schema.default (fun _ _ => 0) fun _ => true)
      splitAndPublished).state.items[3]?).map
        (fun c => (c.isInitialPlanTask, c.hasProposal, allowed c.state .review)) =
      some (false, true, true) := by
  decide +kernel

lemma overpublishes_publishedRun :
    let := asciiTables
    publishedRun.Overpublishes (Run.after RunStep.take
      (Board.new Schema.default (fun _ _ => 0) fun _ => true) splitAndPublished).state := by
  obtain ⟨c, hc, hcard⟩ := Option.map_eq_some_iff.1 item_splitAndPublished
  simp only [Prod.mk.injEq] at hcard
  exact ⟨by decide +kernel, by decide +kernel, by decide +kernel, c, hc, hcard⟩

/-- The second run of the card brings it to Review with its proposal and with a pull request. -/
theorem not_exclusive_publishedRun :
    let := asciiTables
    ¬Run.Meets RunStep.take (fun b step => step.Settling → b.state.Exclusive (step.take b).state)
      (Board.new Schema.default (fun _ _ => 0) fun _ => true)
      (splitAndPublished ++ [publishedRun]) := by
  intro _ hexclusive
  have hlast := (Run.meets_append.1 hexclusive).2.1
  exact (@exclusive_take_iff asciiTables _ _).1 hlast overpublishes_publishedRun

end Supervisor

end Sandboard

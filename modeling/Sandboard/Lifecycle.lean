import Sandboard.Library.Population
import Sandboard.Store.BoardState

/-!
# The life of one card

What the verbs of the board are for, seen from a single card: an abstract machine on the
*standing* of a card, which is its state with its lease, its question, its session and its
flags.  `Standing.Step` lists what a verb may do to a standing as a whole, from the edit that
comes first to the move that ends it.

Some steps are taken only under a *grant*.  `Grant.call` is for the steps that put a card
before a human.  The other two are for grants: `Grant.question` for leaving NeedsHuman with the
question open, and for opening or settling a question without the move that goes with it;
`Grant.lease` for taking the lease of a run into Review.  The generic transition, the two ways
to claim and the late writes of the supervisor are no steps of the machine: what they do to a
card is `entered`, `claimed`, `reopened`, `inSandbox` and `inSession`.
-/

namespace Sandboard

/-- What the life of a card is about. -/
structure Standing where
  state : State
  /-- When the lease expires, when there is a lease. -/
  expiry : Option Time
  /-- The hard end of the run. -/
  deadline : Option Time
  /-- The card carries an escalation. -/
  asks : Bool
  /-- The card has a conversation. -/
  session : Bool
  /-- The card has an environment. -/
  sandbox : Bool
  parked : Bool
  awaiting : Bool
  rebase : Bool
  deriving DecidableEq

namespace Standing

/-! ## What happens to a standing -/

/-- A card that nothing has happened to, in the given state. -/
def idle (state : State) : Standing where
  state := state
  expiry := none
  deadline := none
  asks := false
  session := false
  sandbox := false
  parked := false
  awaiting := false
  rebase := false

/-- The standing of a card on its way into Backlog. -/
structure IsFresh (σ : Standing) : Prop where
  idle : σ = Standing.idle σ.state
  state : σ.state = .draft ∨ σ.state = .shaping ∨ σ.state = .backlog

/-- The card enters a state, and drops what that state does not keep. -/
def entered (target : State) (byHuman : Bool) (σ : Standing) : Standing where
  state := target
  expiry := if releasesLease target then none else σ.expiry
  deadline := if releasesLease target then none else σ.deadline
  asks := !(decide (target = .backlog) && byHuman) && σ.asks
  session := !target.isTerminal && σ.session
  sandbox := !target.isTerminal && σ.sandbox
  parked := !target.isTerminal && σ.parked
  awaiting := !(decide (target = .backlog) || target.isTerminal) && σ.awaiting
  rebase := !(decide (target = .backlog) || target.isTerminal) && σ.rebase

/-- The card is queued for dispatch. -/
def queued (σ : Standing) : Standing := { σ with awaiting := true }

/-- The requests of the card are cancelled. -/
def unqueued (σ : Standing) : Standing := { σ with awaiting := false, rebase := false }

/-- The card is queued for a retry of its mergeable check. -/
def catchingUp (σ : Standing) : Standing := { σ with awaiting := true, rebase := true }

/-- The card is put on hold. -/
def held (σ : Standing) : Standing := { σ with parked := true, awaiting := false }

/-- The hold is cleared. -/
def unheld (σ : Standing) : Standing := { σ with parked := false }

/-- The session and the sandbox are discarded. -/
def wiped (σ : Standing) : Standing :=
  { σ with session := false, sandbox := false, parked := false }

/-- The lease and the dispatch request are dropped. -/
def unleased (σ : Standing) : Standing :=
  { σ with expiry := none, deadline := none, awaiting := false }

/-- A question is put on the card. -/
def asking (σ : Standing) : Standing :=
  { σ with asks := true, awaiting := false, rebase := false }

/-- The question is taken off the card. -/
def settled (σ : Standing) : Standing := { σ with asks := false }

/-- A run is granted on the card. -/
def leased (deadline : Time) (σ : Standing) : Standing :=
  { σ with awaiting := false, deadline := some deadline, expiry := some deadline }

/-- The card as a claim leaves it. -/
def claimed (deadline : Time) (σ : Standing) : Standing :=
  { (σ.entered .claimed false).leased deadline with parked := false, rebase := false }

/-- The card as a reopening for adoption leaves it. -/
def reopened (deadline : Time) (σ : Standing) : Standing :=
  (σ.entered .claimed false).leased deadline

/-- The sandbox is set or cleared. -/
def inSandbox (sandbox : Bool) (σ : Standing) : Standing := { σ with sandbox := sandbox }

/-- The session is set or cleared. -/
def inSession (session : Bool) (σ : Standing) : Standing := { σ with session := session }

end Standing

/-! ## The steps -/

/-- What a verb needs a grant for. -/
inductive Grant where
  /-- A card is put before a human. -/
  | call
  /-- The question on a card is left not to go with its state. -/
  | question
  /-- The lease of a run is taken into Review. -/
  | lease

namespace Standing

/-- What a verb may do to a card under the given grants. -/
inductive Step (grants : Grant → Prop) : Standing → Standing → Prop where
  | stay (σ : Standing) : Step grants σ σ
  /-- The operator queues an unparked Backlog card. -/
  | queue {σ : Standing} (hstate : σ.state = .backlog) (hparked : σ.parked = false) :
      Step grants σ σ.queued
  | unqueue (σ : Standing) : Step grants σ σ.unqueued
  /-- A Review card waits for its mergeable check. -/
  | catchUp {σ : Standing} (hstate : σ.state = .review) : Step grants σ σ.catchingUp
  | hold {σ : Standing} (hstate : σ.state = .backlog) : Step grants σ σ.held
  | unhold (σ : Standing) : Step grants σ σ.unheld
  | wipe (σ : Standing) : Step grants σ σ.wiped
  /-- A restored card drops what is left of an earlier run. -/
  | unlease {σ : Standing} (hclaimed : σ.state ≠ .claimed) (hrunning : σ.state ≠ .running) :
      Step grants σ σ.unleased
  /-- The first heartbeat. -/
  | promote {σ : Standing} (hstate : σ.state = .claimed) (byHuman : Bool) :
      Step grants σ (σ.entered .running byHuman)
  /-- A question is put on the card, and the card goes to a human with it. -/
  | escalate {σ : Standing} (hcall : grants .call) (hedge : allowed σ.state .needsHuman = true)
      (byHuman : Bool) :
      Step grants σ (σ.asking.entered .needsHuman byHuman)
  /-- A question is put on a card that stays where it is. -/
  | ask {σ : Standing} (hstate : σ.state = .needsHuman ∨ grants .question) :
      Step grants σ σ.asking
  /-- The question is settled, and the card goes back to Backlog. -/
  | answer {σ : Standing} (hedge : allowed σ.state .backlog = true) (byHuman : Bool) :
      Step grants σ (σ.settled.entered .backlog byHuman)
  /-- The question is settled on a card that stays where it is. -/
  | settle {σ : Standing} (hstate : σ.state ≠ .needsHuman ∨ grants .question) :
      Step grants σ σ.settled
  /-- The card goes back to Backlog. -/
  | bounce {σ : Standing} {byHuman : Bool} (hedge : allowed σ.state .backlog = true)
      (hstate : σ.state ≠ .needsHuman ∨ byHuman = true ∨ grants .question) :
      Step grants σ (σ.entered .backlog byHuman)
  /-- The card is Done or Retired. -/
  | finish {σ : Standing} {target : State} (hedge : allowed σ.state target = true)
      (htarget : target.isTerminal = true) (hstate : σ.state ≠ .needsHuman ∨ grants .question)
      (byHuman : Bool) : Step grants σ (σ.entered target byHuman)
  /-- A finished card goes to Review again. -/
  | review {σ : Standing} (hstate : σ.state.isTerminal = true) (byHuman : Bool) :
      Step grants σ (σ.entered .review byHuman)
  /-- A run ends in Review. -/
  | report {σ : Standing} (hstate : σ.state = .claimed ∨ σ.state = .running)
      (hlease : (σ.expiry = none ∧ σ.deadline = none) ∨ grants .lease) (byHuman : Bool) :
      Step grants σ (σ.entered .review byHuman)
  | shape {σ : Standing} (hstate : σ.state = .draft ∨ σ.state = .retired) (byHuman : Bool) :
      Step grants σ (σ.entered .shaping byHuman)
  | redraft {σ : Standing} (hstate : σ.state = .retired) (byHuman : Bool) :
      Step grants σ (σ.entered .draft byHuman)

/-- More grants allow more steps. -/
lemma Step.mono {grants grants' : Grant → Prop} (hgrants : ∀ k, grants k → grants' k)
    {σ σ' : Standing} (h : Step grants σ σ') : Step grants' σ σ' := by
  cases h with
  | stay => exact .stay σ
  | queue hstate hparked => exact .queue hstate hparked
  | unqueue => exact .unqueue σ
  | catchUp hstate => exact .catchUp hstate
  | hold hstate => exact .hold hstate
  | unhold => exact .unhold σ
  | wipe => exact .wipe σ
  | unlease hclaimed hrunning => exact .unlease hclaimed hrunning
  | promote hstate byHuman => exact .promote hstate byHuman
  | escalate hcall hedge byHuman => exact .escalate (hgrants _ hcall) hedge byHuman
  | ask hstate => exact .ask (hstate.imp_right (hgrants _))
  | answer hedge byHuman => exact .answer hedge byHuman
  | settle hstate => exact .settle (hstate.imp_right (hgrants _))
  | bounce hedge hstate => exact .bounce hedge (hstate.imp_right (Or.imp_right (hgrants _)))
  | finish hedge htarget hstate byHuman =>
    exact .finish hedge htarget (hstate.imp_right (hgrants _)) byHuman
  | review hstate byHuman => exact .review hstate byHuman
  | report hstate hlease byHuman =>
    exact .report hstate (hlease.imp_right (hgrants _)) byHuman
  | shape hstate byHuman => exact .shape hstate byHuman
  | redraft hstate byHuman => exact .redraft hstate byHuman

/-! ## A question goes with NeedsHuman -/

variable {grants : Grant → Prop} {σ σ' : Standing} {target : State} {byHuman : Bool}

/-- Without the grant of a call, a step puts no card before a human. -/
lemma Step.ne_needsHuman (h : Step grants σ σ') (hgrant : ¬grants .call)
    (hσ : σ.state ≠ .needsHuman) : σ'.state ≠ .needsHuman := by
  cases h with
  | stay | queue | unqueue | catchUp | hold | unhold | wipe | unlease | ask | settle => exact hσ
  | escalate hcall => exact absurd hcall hgrant
  | finish hedge htarget =>
    rintro rfl
    cases htarget
  | promote | answer | bounce | review | report | shape | redraft => simp [Standing.entered]

lemma IsFresh.ne_needsHuman (h : σ.IsFresh) : σ.state ≠ .needsHuman := by
  rcases h.state with hs | hs | hs <;> simp [hs]

/-- The card carries a question exactly when it waits for a human. -/
def AsksRightly (σ : Standing) : Prop :=
  σ.asks = true ↔ σ.state = .needsHuman

lemma IsFresh.asksRightly (h : σ.IsFresh) : σ.AsksRightly := by
  have hstate := h.state
  rw [h.idle, AsksRightly]
  rcases hstate with hs | hs | hs <;> simp [Standing.idle, hs]

/-- A move keeps a question where it belongs exactly when it stays off NeedsHuman, or a human
takes the card from there to Backlog. -/
lemma AsksRightly.entered_iff (h : σ.AsksRightly) (hedge : allowed σ.state target = true) :
    (σ.entered target byHuman).AsksRightly ↔
      (σ.state ≠ .needsHuman ∧ target ≠ .needsHuman) ∨
        (σ.state = .needsHuman ∧ target = .backlog ∧ byHuman = true) := by
  unfold AsksRightly at h ⊢
  by_cases hstate : σ.state = .needsHuman
  · have hasks : σ.asks = true := h.2 hstate
    have htarget : target ≠ .needsHuman := by
      rintro rfl
      rw [hstate] at hedge
      cases hedge
    simp [entered, hasks, hstate, htarget]
  · have hasks : σ.asks = false := by
      rw [← Bool.not_eq_true, h]
      exact hstate
    simp [entered, hasks, hstate]

/-- A move away from NeedsHuman's neighbourhood. -/
lemma AsksRightly.entered (h : σ.AsksRightly) (hedge : allowed σ.state target = true)
    (hstate : σ.state ≠ .needsHuman) (htarget : target ≠ .needsHuman) :
    (σ.entered target byHuman).AsksRightly :=
  (h.entered_iff hedge).2 (Or.inl ⟨hstate, htarget⟩)

/-- Without the grant of a question, a step keeps the question with the state. -/
lemma Step.asksRightly (h : Step grants σ σ') (hgrant : ¬grants .question) (hσ : σ.AsksRightly) :
    σ'.AsksRightly := by
  cases h with
  | stay | queue | unqueue | catchUp | hold | unhold | wipe | unlease => exact hσ
  | promote hstate =>
    exact hσ.entered (by rw [hstate]; rfl) (by rw [hstate]; decide) (by decide)
  | escalate => simp [AsksRightly, Standing.entered, asking]
  | ask hstate =>
    have hstate := hstate.resolve_right hgrant
    simp [AsksRightly, asking, hstate]
  | answer => simp [AsksRightly, Standing.entered, settled]
  | settle hstate =>
    have hstate := hstate.resolve_right hgrant
    simp [AsksRightly, settled, hstate]
  | bounce hedge hstate =>
    rw [hσ.entered_iff hedge]
    by_cases hsource : σ.state = .needsHuman
    · rcases hstate with hstate | hhuman | hq
      · exact absurd hsource hstate
      · exact Or.inr ⟨hsource, rfl, hhuman⟩
      · exact absurd hq hgrant
    · exact Or.inl ⟨hsource, by decide⟩
  | finish hedge htarget hstate =>
    refine hσ.entered hedge (hstate.resolve_right hgrant) ?_
    rintro rfl
    cases htarget
  | review hstate =>
    rcases State.isTerminal_iff.1 hstate with hs | hs
    · exact hσ.entered (by rw [hs]; rfl) (by rw [hs]; decide) (by decide)
    · exact hσ.entered (by rw [hs]; rfl) (by rw [hs]; decide) (by decide)
  | report hstate =>
    rcases hstate with hs | hs
    · exact hσ.entered (by rw [hs]; rfl) (by rw [hs]; decide) (by decide)
    · exact hσ.entered (by rw [hs]; rfl) (by rw [hs]; decide) (by decide)
  | shape hstate =>
    rcases hstate with hs | hs
    · exact hσ.entered (by rw [hs]; rfl) (by rw [hs]; decide) (by decide)
    · exact hσ.entered (by rw [hs]; rfl) (by rw [hs]; decide) (by decide)
  | redraft hstate =>
    exact hσ.entered (by rw [hstate]; rfl) (by rw [hstate]; decide) (by decide)

lemma AsksRightly.claimed (h : σ.AsksRightly) (hstate : σ.state = .backlog) (d : Time) :
    (σ.claimed d).AsksRightly := by
  have hedge : allowed σ.state .claimed = true := by rw [hstate]; rfl
  have hmoved : (σ.entered .claimed false).AsksRightly :=
    h.entered hedge (by rw [hstate]; decide) (by decide)
  exact hmoved

lemma AsksRightly.reopened (h : σ.AsksRightly) (hstate : σ.state = .backlog) (d : Time) :
    (σ.reopened d).AsksRightly :=
  h.claimed hstate d

/-! ## The flags of the queue fit the state -/

/-- The card is queued from where it can be started, a catch-up is about a Review card, and a
finished card is not on hold. -/
structure QueueFits (σ : Standing) : Prop where
  awaiting : σ.awaiting = true →
    (σ.state = .backlog ∧ σ.parked = false) ∨ (σ.state = .review ∧ σ.rebase = true)
  rebase : σ.rebase = true → σ.state = .review
  parked : σ.state.isTerminal = true → σ.parked = false

lemma IsFresh.queueFits (h : σ.IsFresh) : σ.QueueFits := by
  rw [h.idle]
  exact ⟨nofun, nofun, fun _ => rfl⟩

/-- A card without requests has flags that fit once the hold is off, or the card is not
finished. -/
lemma QueueFits.of_unqueued (hawaiting : σ.awaiting = false) (hrebase : σ.rebase = false)
    (hparked : σ.state.isTerminal = true → σ.parked = false) : σ.QueueFits :=
  ⟨fun h => absurd h (by rw [hawaiting]; decide), fun h => absurd h (by rw [hrebase]; decide),
    hparked⟩

/-- A move keeps the flags fitting exactly when it does not take a queued card out of Backlog
into Claimed or Shaping, or a card that waits for a catch-up out of Review to NeedsHuman. -/
lemma QueueFits.entered_iff (h : σ.QueueFits) (hedge : allowed σ.state target = true) :
    (σ.entered target byHuman).QueueFits ↔
      ¬(σ.state = .backlog ∧ σ.awaiting = true ∧ (target = .claimed ∨ target = .shaping)) ∧
        ¬(σ.state = .review ∧ σ.rebase = true ∧ target = .needsHuman) := by
  obtain ⟨hawaiting, hrebase, hparked⟩ := h
  constructor
  · rintro ⟨hawaiting', hrebase', -⟩
    constructor
    · rintro ⟨-, hqueued, rfl | rfl⟩
      · exact absurd (hawaiting' hqueued) (by simp [Standing.entered])
      · exact absurd (hawaiting' hqueued) (by simp [Standing.entered])
    · rintro ⟨-, hcatch, rfl⟩
      exact absurd (hrebase' hcatch) (by simp [Standing.entered])
  · rintro ⟨hqueued, hcatch⟩
    cases target with
    | backlog => exact .of_unqueued rfl rfl fun hterminal => by cases hterminal
    | done | retired => exact .of_unqueued rfl rfl fun _ => rfl
    | _ =>
      -- The target keeps the flags, so there were none to keep.
      have hno : σ.rebase = false := by
        rw [← Bool.not_eq_true]
        intro hset
        have hstate := hrebase hset
        rw [hstate] at hedge
        simp_all [allowed]
      have hidle : σ.awaiting = false := by
        rw [← Bool.not_eq_true]
        intro hset
        rcases hawaiting hset with ⟨hstate, -⟩ | ⟨-, hset'⟩
        · rw [hstate] at hedge
          simp_all [allowed]
        · rw [hno] at hset'
          cases hset'
      exact .of_unqueued hidle hno fun hterminal => by cases hterminal

/-- Every step keeps the flags fitting. -/
lemma Step.queueFits (h : Step grants σ σ') (hσ : σ.QueueFits) : σ'.QueueFits := by
  cases h with
  | stay => exact hσ
  | settle => exact ⟨hσ.awaiting, hσ.rebase, hσ.parked⟩
  | queue hstate hparked => exact ⟨fun _ => Or.inl ⟨hstate, hparked⟩, hσ.rebase, hσ.parked⟩
  | unqueue | ask => exact .of_unqueued rfl rfl hσ.parked
  | catchUp hstate => exact ⟨fun _ => Or.inr ⟨hstate, rfl⟩, fun _ => hstate, hσ.parked⟩
  | hold hstate =>
    refine ⟨nofun, hσ.rebase, fun hterminal => ?_⟩
    have hstate' : σ.held.state = .backlog := hstate
    rw [hstate'] at hterminal
    cases hterminal
  | unhold | wipe =>
    exact ⟨fun h => (hσ.awaiting h).imp_left fun hb => ⟨hb.1, rfl⟩, hσ.rebase, fun _ => rfl⟩
  | unlease => exact ⟨nofun, hσ.rebase, hσ.parked⟩
  | promote hstate => exact (hσ.entered_iff (by rw [hstate]; rfl)).2 (by simp [hstate])
  | escalate =>
    exact .of_unqueued rfl rfl fun hterminal => by cases hterminal
  | answer => exact .of_unqueued rfl rfl fun hterminal => by cases hterminal
  | bounce => exact .of_unqueued rfl rfl fun hterminal => by cases hterminal
  | finish hedge htarget =>
    refine (hσ.entered_iff hedge).2 ⟨?_, ?_⟩
    · rintro ⟨-, -, rfl | rfl⟩ <;> cases htarget
    · rintro ⟨-, -, rfl⟩
      cases htarget
  | review hstate =>
    rcases State.isTerminal_iff.1 hstate with hs | hs
    · exact (hσ.entered_iff (by rw [hs]; rfl)).2 (by simp [hs])
    · exact (hσ.entered_iff (by rw [hs]; rfl)).2 (by simp [hs])
  | report hstate =>
    rcases hstate with hs | hs
    · exact (hσ.entered_iff (by rw [hs]; rfl)).2 (by simp [hs])
    · exact (hσ.entered_iff (by rw [hs]; rfl)).2 (by simp [hs])
  | shape hstate =>
    rcases hstate with hs | hs
    · exact (hσ.entered_iff (by rw [hs]; rfl)).2 (by simp [hs])
    · exact (hσ.entered_iff (by rw [hs]; rfl)).2 (by simp [hs])
  | redraft hstate => exact (hσ.entered_iff (by rw [hstate]; rfl)).2 (by simp [hstate])

lemma queueFits_claimed (σ : Standing) (d : Time) : (σ.claimed d).QueueFits :=
  .of_unqueued rfl rfl nofun

lemma QueueFits.reopened (h : σ.QueueFits) (hstate : σ.state = .backlog) (d : Time) :
    (σ.reopened d).QueueFits := by
  have hrebase : σ.rebase = false := by
    rw [← Bool.not_eq_true]
    intro hset
    exact absurd (h.rebase hset) (by simp [hstate])
  exact .of_unqueued rfl hrebase nofun

/-! ## The lease fits the state -/

/-- Only a run has a lease and a deadline, a run that was started has both and they agree, and
a finished card has no session and no sandbox. -/
structure LeaseFits (σ : Standing) : Prop where
  run : σ.expiry.isSome = true ∨ σ.deadline.isSome = true →
    σ.state = .claimed ∨ σ.state = .running ∨ σ.state = .splitting
  held : σ.state = .claimed ∨ σ.state = .running →
    ∃ d, σ.deadline = some d ∧ σ.expiry = some d
  ended : σ.state.isTerminal = true → σ.session = false ∧ σ.sandbox = false

lemma IsFresh.leaseFits (h : σ.IsFresh) : σ.LeaseFits := by
  have hstate := h.state
  rw [h.idle]
  refine ⟨by simp [Standing.idle], fun hs => ?_, fun _ => ⟨rfl, rfl⟩⟩
  rcases hstate with h' | h' | h' <;> simp [Standing.idle, h'] at hs

/-- Outside the states of a run, the lease fits when there is none. -/
lemma LeaseFits.of_free (hexpiry : σ.expiry = none) (hdeadline : σ.deadline = none)
    (hclaimed : σ.state ≠ .claimed) (hrunning : σ.state ≠ .running)
    (hended : σ.state.isTerminal = true → σ.session = false ∧ σ.sandbox = false) :
    σ.LeaseFits where
  run h := by simp [hexpiry, hdeadline] at h
  held h := by simp [hclaimed, hrunning] at h
  ended := hended

/-- A card outside a run has no lease and no deadline. -/
lemma LeaseFits.free (h : σ.LeaseFits) (hclaimed : σ.state ≠ .claimed)
    (hrunning : σ.state ≠ .running) (hsplitting : σ.state ≠ .splitting) :
    σ.expiry = none ∧ σ.deadline = none := by
  have hno := mt h.run (by simp [hclaimed, hrunning, hsplitting])
  simpa using hno

/-- A move keeps the lease fitting exactly when it starts no run without a lease and takes
none into Review. -/
lemma LeaseFits.entered_iff (h : σ.LeaseFits) (hedge : allowed σ.state target = true) :
    (σ.entered target byHuman).LeaseFits ↔
      target ≠ .claimed ∧ ¬(σ.state = .needsHuman ∧ target = .running) ∧
        (target = .review → σ.expiry = none ∧ σ.deadline = none) := by
  constructor
  · intro h'
    refine ⟨?_, ?_, ?_⟩
    · rintro rfl
      have hsource : σ.state = .backlog := by
        cases hs : σ.state <;> simp_all [allowed]
      obtain ⟨d, hd, -⟩ := h'.held (Or.inl rfl)
      have hnone := (h.free (by simp [hsource]) (by simp [hsource]) (by simp [hsource])).2
      rw [show (σ.entered .claimed byHuman).deadline = σ.deadline from rfl, hnone] at hd
      cases hd
    · rintro ⟨hsource, rfl⟩
      obtain ⟨d, hd, -⟩ := h'.held (Or.inr rfl)
      have hnone := (h.free (by simp [hsource]) (by simp [hsource]) (by simp [hsource])).2
      rw [show (σ.entered .running byHuman).deadline = σ.deadline from rfl, hnone] at hd
      cases hd
    · rintro rfl
      exact h'.free (by simp [Standing.entered]) (by simp [Standing.entered])
        (by simp [Standing.entered])
  · rintro ⟨hclaimed, hrunning, hreview⟩
    cases target with
    | claimed => exact absurd rfl hclaimed
    | running =>
      have hsource : σ.state = .claimed ∨ σ.state = .running := by
        cases hs : σ.state <;> simp_all [allowed]
      exact ⟨fun _ => Or.inr (Or.inl rfl), fun _ => h.held hsource,
        fun hended => absurd hended Bool.false_ne_true⟩
    | splitting =>
      exact ⟨fun _ => Or.inr (Or.inr rfl), by simp [Standing.entered],
        fun hended => absurd hended Bool.false_ne_true⟩
    | review =>
      obtain ⟨hexpiry, hdeadline⟩ := hreview rfl
      exact .of_free hexpiry hdeadline (by simp [Standing.entered]) (by simp [Standing.entered])
        fun hended => absurd hended Bool.false_ne_true
    | draft =>
      have hsource : σ.state = .retired := by
        cases hs : σ.state <;> simp_all [allowed]
      obtain ⟨hexpiry, hdeadline⟩ :=
        h.free (by simp [hsource]) (by simp [hsource]) (by simp [hsource])
      exact .of_free hexpiry hdeadline (by simp [Standing.entered]) (by simp [Standing.entered])
        fun hended => absurd hended Bool.false_ne_true
    | done | retired =>
      exact .of_free rfl rfl (by simp [Standing.entered]) (by simp [Standing.entered])
        fun _ => ⟨rfl, rfl⟩
    | shaping | backlog | needsHuman =>
      exact .of_free rfl rfl (by simp [Standing.entered]) (by simp [Standing.entered])
        fun hended => absurd hended Bool.false_ne_true

/-- A card in another state than those of a run, with the same lease and session. -/
lemma LeaseFits.congr (h : σ.LeaseFits) (hstate : σ'.state = σ.state)
    (hexpiry : σ'.expiry = σ.expiry) (hdeadline : σ'.deadline = σ.deadline)
    (hsession : σ'.session = σ.session) (hsandbox : σ'.sandbox = σ.sandbox) : σ'.LeaseFits where
  run := by
    rw [hexpiry, hdeadline, hstate]
    exact h.run
  held := by
    rw [hexpiry, hdeadline, hstate]
    exact h.held
  ended := by
    rw [hstate, hsession, hsandbox]
    exact h.ended

/-- Without the grant of a lease, a step keeps the lease fitting. -/
lemma Step.leaseFits (h : Step grants σ σ') (hgrant : ¬grants .lease) (hσ : σ.LeaseFits) :
    σ'.LeaseFits := by
  cases h with
  | stay | queue | unqueue | catchUp | hold | unhold | ask | settle =>
    exact hσ.congr rfl rfl rfl rfl rfl
  | wipe => exact ⟨hσ.run, hσ.held, fun _ => ⟨rfl, rfl⟩⟩
  | unlease hclaimed hrunning => exact .of_free rfl rfl hclaimed hrunning hσ.ended
  | promote hstate => exact (hσ.entered_iff (by rw [hstate]; rfl)).2 (by simp [hstate])
  | escalate =>
    exact .of_free rfl rfl (by simp [Standing.entered]) (by simp [Standing.entered]) nofun
  | answer | bounce =>
    exact .of_free rfl rfl (by simp [Standing.entered]) (by simp [Standing.entered]) nofun
  | finish hedge htarget =>
    refine (hσ.entered_iff hedge).2 ⟨?_, ?_, ?_⟩
    · rintro rfl
      cases htarget
    · rintro ⟨-, rfl⟩
      cases htarget
    · rintro rfl
      cases htarget
  | review hstate =>
    have hfree : σ.expiry = none ∧ σ.deadline = none := by
      rcases State.isTerminal_iff.1 hstate with hs | hs
      · exact hσ.free (by simp [hs]) (by simp [hs]) (by simp [hs])
      · exact hσ.free (by simp [hs]) (by simp [hs]) (by simp [hs])
    exact .of_free hfree.1 hfree.2 (by simp [Standing.entered]) (by simp [Standing.entered]) nofun
  | report hstate hlease =>
    obtain ⟨hexpiry, hdeadline⟩ := hlease.resolve_right hgrant
    exact .of_free hexpiry hdeadline (by simp [Standing.entered]) (by simp [Standing.entered]) nofun
  | shape =>
    exact .of_free rfl rfl (by simp [Standing.entered]) (by simp [Standing.entered]) nofun
  | redraft hstate => exact (hσ.entered_iff (by rw [hstate]; rfl)).2 (by simp [hstate])

lemma leaseFits_claimed (σ : Standing) (d : Time) : (σ.claimed d).LeaseFits where
  run _ := Or.inl rfl
  held _ := ⟨d, rfl, rfl⟩
  ended := nofun

lemma leaseFits_reopened (σ : Standing) (d : Time) : (σ.reopened d).LeaseFits where
  run _ := Or.inl rfl
  held _ := ⟨d, rfl, rfl⟩
  ended := nofun

/-! ## The deadline of a run -/

/-- While the card is Claimed or Running, its run ends at the instant `d`. -/
def RunsUntil (d : Time) (σ : Standing) : Prop :=
  σ.state = .claimed ∨ σ.state = .running → σ.deadline = some d ∧ σ.expiry = some d

lemma IsFresh.runsUntil (h : σ.IsFresh) (d : Time) : σ.RunsUntil d := by
  intro hs
  rcases h.state with h' | h' | h' <;> simp [h'] at hs

/-- No step moves the deadline of a run. -/
lemma Step.runsUntil {d : Time} (h : Step grants σ σ') (hσ : σ.RunsUntil d) : σ'.RunsUntil d := by
  cases h with
  | stay | queue | unqueue | catchUp | hold | unhold | wipe | ask | settle => exact hσ
  | unlease hclaimed hrunning => exact fun hs => absurd hs (by simp [unleased, hclaimed, hrunning])
  | promote hstate => exact fun _ => hσ (Or.inl hstate)
  | finish hedge htarget =>
    intro hs
    rcases hs with rfl | rfl <;> cases htarget
  | escalate | answer | bounce | review | report | shape | redraft =>
    exact fun hs => absurd hs (by simp [Standing.entered])

/-- The lease ends at the deadline of the run, and there is one with the other. -/
def Tied (σ : Standing) : Prop :=
  σ.expiry = σ.deadline

lemma IsFresh.tied (h : σ.IsFresh) : σ.Tied := by
  rw [h.idle]
  rfl

lemma Tied.entered (h : σ.Tied) (target : State) (byHuman : Bool) :
    (σ.entered target byHuman).Tied := by
  unfold Tied Standing.entered at *
  rw [h]

/-- Every step keeps the lease and the deadline together. -/
lemma Step.tied (h : Step grants σ σ') (hσ : σ.Tied) : σ'.Tied := by
  cases h with
  | stay | queue | unqueue | catchUp | hold | unhold | wipe | ask | settle => exact hσ
  | unlease => rfl
  | answer | escalate => rfl
  | promote | bounce | finish | review | report | shape | redraft => exact hσ.entered _ _

end Standing

end Sandboard

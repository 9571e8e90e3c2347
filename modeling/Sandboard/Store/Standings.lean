import Sandboard.Store.Grants

/-!
# Questions, queues and leases over whole runs

Three invariants of the life of a card, each with the condition on the steps of a run under
which every reachable board has it: a question goes with NeedsHuman, the flags of the queue fit
the state, and the lease of a run fits the state.
-/

namespace Sandboard

open BoardState

namespace Board

variable [UnicodeTables]

/-- What holds of a fresh card, and is kept by whatever a step that meets the condition may do
to a card, holds of every card after a run whose steps all meet it. -/
theorem standing_invariant {C : Operation → BoardState → Prop} {p : Standing → Prop}
    (hfresh : ∀ σ : Standing, σ.IsFresh → p σ)
    (hstep : ∀ (s : BoardState) (op : Operation) (k : ItemId) (σ σ' : Standing),
      C op s → op.Step s k σ σ' → p σ → p σ')
    {schema : Schema} {clock : ℕ → ℕ → Time} {saveSucceeds : ℕ → Bool} {ops : List Operation}
    (hmeets : Meets C (Board.new schema clock saveSucceeds) ops) {k : ItemId} {c : WorkItem}
    (hc : (reached schema clock saveSucceeds ops).items[k]? = some c) : p c.standing := by
  have hinv : ((Board.new schema clock saveSucceeds).after ops).state.WellFormed ∧
      ((Board.new schema clock saveSucceeds).after ops).state.Unplanned ∧
        ∀ k σ, ((Board.new schema clock saveSucceeds).after ops).state.standing k = some σ → p σ := by
    refine hmeets.invariant (I := fun b => b.state.WellFormed ∧ b.state.Unplanned ∧
      ∀ k σ, b.state.standing k = some σ → p σ) ?_ ⟨.empty, .empty, ?_⟩
    · rintro b op ⟨hwf, hplan, hall⟩ hC
      refine ⟨hwf.reshaped (reshaped_exec b op), hplan.reshaped (reshaped_exec b op), fun k σ hσ => ?_⟩
      exact (course_exec hwf hplan op k).invariant hfresh
        (fun σ σ' h => hstep b.state op k σ σ' hC h) (hall k) σ hσ
    · intro k σ hσ
      simp [BoardState.standing, Board.new, BoardState.empty] at hσ
  exact hinv.2.2 k _ (standing_of_items hc)

end Board

/-! ## Questions -/

namespace Operation

/-- On the board `s`, the operation takes no card out of NeedsHuman with its question open, and
opens or settles none without the move that goes with it. -/
def KeepsQuestions [UnicodeTables] (s : BoardState) : Operation → Prop
  | transition id target byWhom _ => ∀ c, s.items[id]? = some c →
    s.checkMove id c target = .ok () →
      (c.state ≠ .needsHuman ∧ target ≠ .needsHuman) ∨
        (c.state = .needsHuman ∧ target = .backlog ∧ byWhom = "human")
  | op => ¬op.LeavesQuestion s

variable [UnicodeTables] {s : BoardState} {op : Operation} {k : ItemId} {σ σ' : Standing}

lemma KeepsQuestions.not_leavesQuestion (h : op.KeepsQuestions s) : ¬op.LeavesQuestion s := by
  cases op with
  | transition => exact fun h => h
  | _ => exact h

lemma Step.asksRightly (hC : op.KeepsQuestions s) (h : op.Step s k σ σ') (hσ : σ.AsksRightly) :
    σ'.AsksRightly := by
  rcases h with hstep | hwrite
  · exact hstep.asksRightly hC.not_leavesQuestion hσ
  · cases hwrite with
    | transition hc hcheck =>
      rw [hσ.entered_iff (allowed_of_check hcheck)]
      exact (hC _ hc hcheck).imp_right fun ⟨hstate, htarget, hhuman⟩ =>
        ⟨hstate, htarget, by rw [hhuman]; rfl⟩
    | claim hc deadline => exact hσ.claimed (check_claimed_iff.1 hc.2.2).1 deadline
    | reopen hc deadline => exact hσ.reopened (check_claimed_iff.1 hc.2.2).1 deadline
    | sandbox hc => exact hσ
    | session hc => exact hσ

end Operation

namespace Board

section Unicode

variable [UnicodeTables]

/-- In every run whose steps keep the questions, a card is in NeedsHuman exactly when it
carries an escalation. -/
theorem needsHuman_iff_escalation (schema : Schema) (clock : ℕ → ℕ → Time)
    (saveSucceeds : ℕ → Bool) (ops : List Operation)
    (hmeets : Meets (fun op s => op.KeepsQuestions s) (Board.new schema clock saveSucceeds) ops)
    (k : ItemId) (c : WorkItem)
    (hc : (reached schema clock saveSucceeds ops).items[k]? = some c) :
    c.state = .needsHuman ↔ c.escalation.isSome = true :=
  (standing_invariant (p := Standing.AsksRightly) (fun _ hfresh => hfresh.asksRightly)
    (fun _ _ _ _ _ hC h hσ => h.asksRightly hC hσ) hmeets hc).symm

end Unicode

/-- Two options to choose from. -/
def twoOptions : List EscalationOption := [⟨"yes", ""⟩, ⟨"no", ""⟩]

/-- A run that claims the Initial plan of a Project. -/
def claimedRun : List Operation :=
  [.create ⟨none, "Docs", "", none, .human, false, none⟩, .claim 2 "agent" none 60]

/-- The same run, after which a human is asked about the card. -/
def askedRun : List Operation :=
  claimedRun ++ [.escalate 2 "agent" "Which one?" twoOptions 0]

set_option maxRecDepth 100000 in
/-- The question theorem on the card that was asked about. -/
theorem needsHuman_iff_escalation_asked :
    let := asciiTables
    ∃ c, (reached Schema.default (fun _ _ => 0) (fun _ => true) askedRun).items[2]? = some c ∧
      c.state = .needsHuman ∧ c.escalation.isSome = true := by
  intro tables
  have hstate : ((reached Schema.default (fun _ _ => 0) (fun _ => true) askedRun).items[2]?.map
      WorkItem.state) = some .needsHuman := by decide
  obtain ⟨c, hc, hneeds⟩ := Option.map_eq_some_iff.1 hstate
  have hmeets : Meets (fun op s => op.KeepsQuestions s)
      (Board.new Schema.default (fun _ _ => 0) fun _ => true) askedRun := by
    refine meets_append.2 ⟨⟨fun h => h, fun h => h, trivial⟩, ?_, trivial⟩
    rintro ⟨-, c', hc', hedge, -, -⟩
    have hclaimed : (((Board.new Schema.default (fun _ _ => 0) fun _ => true).after
        claimedRun).state.items[2]?.map WorkItem.state) = some .claimed := by decide
    rw [hc'] at hclaimed
    rw [Option.some.inj hclaimed] at hedge
    cases hedge
  exact ⟨c, hc, hneeds, (needsHuman_iff_escalation _ _ _ _ hmeets 2 c hc).1 hneeds⟩

/-- The same run, after which the agent releases the card. -/
def releasedRun : List Operation :=
  askedRun ++ [.releaseWithReason 2 "agent" none]

set_option maxRecDepth 100000 in
/-- The question stays on the card in Backlog. -/
theorem released_escalation :
    let := asciiTables
    ∃ c, (reached Schema.default (fun _ _ => 0) (fun _ => true) releasedRun).items[2]? = some c ∧
      ¬(c.state = .needsHuman ↔ c.escalation.isSome = true) := by
  intro tables
  have hstate : ((reached Schema.default (fun _ _ => 0) (fun _ => true) releasedRun).items[2]?.map
      fun c => (c.state, c.escalation.isSome)) = some (.backlog, true) := by decide
  obtain ⟨c, hc, heq⟩ := Option.map_eq_some_iff.1 hstate
  obtain ⟨hbacklog, hasked⟩ := Prod.mk.inj heq
  exact ⟨c, hc, by simp [hbacklog, hasked]⟩

end Board

/-! ## The queue -/

namespace Operation

/-- On the board `s`, the operation takes no queued card out of Backlog by a generic transition,
and puts no card that waits for a catch-up before a human by one. -/
def KeepsQueue (s : BoardState) : Operation → Prop
  | transition id target _ _ => ∀ c, s.items[id]? = some c → s.checkMove id c target = .ok () →
    ¬(c.state = .backlog ∧ c.awaitingDispatch = true ∧ (target = .claimed ∨ target = .shaping)) ∧
      ¬(c.state = .review ∧ c.rebaseRequested = true ∧ target = .needsHuman)
  | _ => True

variable [UnicodeTables] {s : BoardState} {op : Operation} {k : ItemId} {σ σ' : Standing}

lemma Step.queueFits (hC : op.KeepsQueue s) (h : op.Step s k σ σ') (hσ : σ.QueueFits) :
    σ'.QueueFits := by
  rcases h with hstep | hwrite
  · exact hstep.queueFits hσ
  · cases hwrite with
    | transition hc hcheck => exact (hσ.entered_iff (allowed_of_check hcheck)).2 (hC _ hc hcheck)
    | claim hc deadline => exact Standing.queueFits_claimed _ _
    | reopen hc deadline => exact hσ.reopened (check_claimed_iff.1 hc.2.2).1 deadline
    | sandbox hc => exact ⟨hσ.awaiting, hσ.rebase, hσ.parked⟩
    | session hc => exact ⟨hσ.awaiting, hσ.rebase, hσ.parked⟩

end Operation

/-- The flags of the queue fit the state of the card. -/
structure WorkItem.QueueFits (i : WorkItem) : Prop where
  /-- A queued card is an unparked Backlog card or a Review card that waits for a catch-up. -/
  awaiting : i.awaitingDispatch = true →
    (i.state = .backlog ∧ i.parked = false) ∨ (i.state = .review ∧ i.rebaseRequested = true)
  /-- Only a Review card waits for a catch-up. -/
  rebase : i.rebaseRequested = true → i.state = .review
  /-- A finished card has none of the flags. -/
  ended : i.state.isTerminal = true →
    i.parked = false ∧ i.awaitingDispatch = false ∧ i.rebaseRequested = false

lemma WorkItem.queueFits_of_standing {i : WorkItem} (h : i.standing.QueueFits) : i.QueueFits where
  awaiting := h.awaiting
  rebase := h.rebase
  ended hterminal := by
    refine ⟨h.parked hterminal, ?_, ?_⟩
    · rw [← Bool.not_eq_true]
      intro hset
      rcases h.awaiting hset with ⟨hstate, -⟩ | ⟨hstate, -⟩
      · exact absurd hterminal (by rw [← standing_state, hstate]; decide)
      · exact absurd hterminal (by rw [← standing_state, hstate]; decide)
    · rw [← Bool.not_eq_true]
      intro hset
      exact absurd hterminal (by rw [← standing_state, h.rebase hset]; decide)

namespace Board

section Unicode

variable [UnicodeTables]

/-- In every run whose generic transitions keep the queue, the flags of every card fit its
state. -/
theorem queueFits_reached (schema : Schema) (clock : ℕ → ℕ → Time) (saveSucceeds : ℕ → Bool)
    (ops : List Operation)
    (hmeets : Meets (fun op s => op.KeepsQueue s) (Board.new schema clock saveSucceeds) ops)
    (k : ItemId) (c : WorkItem)
    (hc : (reached schema clock saveSucceeds ops).items[k]? = some c) : c.QueueFits :=
  WorkItem.queueFits_of_standing
    (standing_invariant (p := Standing.QueueFits) (fun _ hfresh => hfresh.queueFits)
      (fun _ _ _ _ _ hC h hσ => h.queueFits hC hσ) hmeets hc)

end Unicode

/-- A run that queues the Initial plan of a Project. -/
def queuedRun : List Operation :=
  [.create ⟨none, "Docs", "", none, .human, false, none⟩, .enqueueDispatch 2]

set_option maxRecDepth 100000 in
/-- The queue theorem on the queued card. -/
theorem queueFits_reached_queued :
    let := asciiTables
    ∃ c, (reached Schema.default (fun _ _ => 0) (fun _ => true) queuedRun).items[2]? = some c ∧
      c.awaitingDispatch = true ∧ c.QueueFits := by
  intro tables
  have hqueued : ((reached Schema.default (fun _ _ => 0) (fun _ => true) queuedRun).items[2]?.map
      WorkItem.awaitingDispatch) = some true := by decide
  obtain ⟨c, hc, hawaiting⟩ := Option.map_eq_some_iff.1 hqueued
  have hmeets : Meets (fun op s => op.KeepsQueue s)
      (Board.new Schema.default (fun _ _ => 0) fun _ => true) queuedRun :=
    ⟨trivial, trivial, trivial⟩
  exact ⟨c, hc, hawaiting, queueFits_reached _ _ _ _ hmeets 2 c hc⟩

set_option maxRecDepth 100000 in
/-- A transition takes the queued card to Shaping, and leaves it in the queue. -/
theorem queued_in_shaping :
    let := asciiTables
    ∃ c, (reached Schema.default (fun _ _ => 0) (fun _ => true)
        (queuedRun ++ [.transition 2 .shaping "human" none])).items[2]? = some c ∧
      ¬c.QueueFits := by
  intro tables
  have hstate : ((reached Schema.default (fun _ _ => 0) (fun _ => true)
      (queuedRun ++ [.transition 2 .shaping "human" none])).items[2]?.map
        fun c => (c.state, c.awaitingDispatch)) = some (.shaping, true) := by decide
  obtain ⟨c, hc, heq⟩ := Option.map_eq_some_iff.1 hstate
  obtain ⟨hshaping, hawaiting⟩ := Prod.mk.inj heq
  refine ⟨c, hc, fun hfits => ?_⟩
  rcases hfits.awaiting hawaiting with ⟨hs, -⟩ | ⟨hs, -⟩
  · rw [hshaping] at hs
    cases hs
  · rw [hshaping] at hs
    cases hs

end Board

/-! ## Leases -/

namespace Operation

/-- On the board `s`, the operation starts no run without a lease, takes none into Review with
its lease, and gives no finished card a sandbox or a session. -/
def KeepsLeases [UnicodeTables] (s : BoardState) : Operation → Prop
  | transition id target _ _ => ∀ c, s.items[id]? = some c → s.checkMove id c target = .ok () →
    target ≠ .claimed ∧ ¬(c.state = .needsHuman ∧ target = .running) ∧
      (target = .review → c.lease = none ∧ c.runDeadlineAt = none)
  | setEnvironment id sandbox => ∀ c, s.items[id]? = some c → c.state.isTerminal = true →
    sandbox = none
  | setConversationId id conversationId => ∀ c, s.items[id]? = some c →
    c.state.isTerminal = true → conversationId = none
  | op => ¬op.TakesLease s

variable [UnicodeTables] {s : BoardState} {op : Operation} {k : ItemId} {σ σ' : Standing}

lemma KeepsLeases.not_takesLease (h : op.KeepsLeases s) : ¬op.TakesLease s := by
  cases op with
  | transition | setEnvironment | setConversationId => exact fun h => h
  | _ => exact h

lemma Step.leaseFits (hC : op.KeepsLeases s) (h : op.Step s k σ σ') (hσ : σ.LeaseFits) :
    σ'.LeaseFits := by
  rcases h with hstep | hwrite
  · exact hstep.leaseFits hC.not_takesLease hσ
  · cases hwrite with
    | transition hc hcheck =>
      obtain ⟨hclaimed, hrunning, hreview⟩ := hC _ hc hcheck
      refine (hσ.entered_iff (allowed_of_check hcheck)).2 ⟨hclaimed, hrunning, fun htarget => ?_⟩
      obtain ⟨hlease, hdeadline⟩ := hreview htarget
      exact ⟨by rw [WorkItem.standing, hlease]; rfl, hdeadline⟩
    | claim hc deadline => exact Standing.leaseFits_claimed _ _
    | reopen hc deadline => exact Standing.leaseFits_reopened _ _
    | sandbox hc =>
      refine ⟨hσ.run, hσ.held, fun hterminal => ⟨(hσ.ended hterminal).1, ?_⟩⟩
      rw [hC _ hc hterminal]
      rfl
    | session hc =>
      refine ⟨hσ.run, hσ.held, fun hterminal => ⟨?_, (hσ.ended hterminal).2⟩⟩
      rw [hC _ hc hterminal]
      rfl

end Operation

/-- The lease fits the state of the card. -/
structure WorkItem.LeaseFits (i : WorkItem) : Prop where
  /-- Only a run has a lease or a deadline. -/
  run : i.lease.isSome = true ∨ i.runDeadlineAt.isSome = true →
    i.state = .claimed ∨ i.state = .running ∨ i.state = .splitting
  /-- A run has both, and they agree. -/
  held : i.state = .claimed ∨ i.state = .running →
    ∃ l, i.lease = some l ∧ i.runDeadlineAt = some l.expiresAt
  /-- A finished card has neither, and no sandbox or conversation. -/
  ended : i.state.isTerminal = true →
    i.lease = none ∧ i.runDeadlineAt = none ∧ i.environment = none ∧ i.conversationId = none

lemma WorkItem.leaseFits_of_standing {i : WorkItem} (h : i.standing.LeaseFits) :
    i.LeaseFits where
  run hsome := h.run (by simpa [standing] using hsome)
  held hstate := by
    obtain ⟨d, hdeadline, hexpiry⟩ := h.held hstate
    obtain ⟨l, hl, rfl⟩ := Option.map_eq_some_iff.1 hexpiry
    exact ⟨l, hl, hdeadline⟩
  ended hterminal := by
    have hno := State.isTerminal_iff.1 hterminal
    obtain ⟨hexpiry, hdeadline⟩ := h.free (by rcases hno with hs | hs <;> simp [hs])
      (by rcases hno with hs | hs <;> simp [hs]) (by rcases hno with hs | hs <;> simp [hs])
    obtain ⟨hsession, hsandbox⟩ := h.ended hterminal
    exact ⟨by simpa [standing] using hexpiry, hdeadline, by simpa [standing] using hsandbox,
      by simpa [standing] using hsession⟩

namespace Board

section Unicode

variable [UnicodeTables]

/-- In every run whose steps keep the leases, the lease of every card fits its state. -/
theorem leaseFits_reached (schema : Schema) (clock : ℕ → ℕ → Time) (saveSucceeds : ℕ → Bool)
    (ops : List Operation)
    (hmeets : Meets (fun op s => op.KeepsLeases s) (Board.new schema clock saveSucceeds) ops)
    (k : ItemId) (c : WorkItem)
    (hc : (reached schema clock saveSucceeds ops).items[k]? = some c) : c.LeaseFits :=
  WorkItem.leaseFits_of_standing
    (standing_invariant (p := Standing.LeaseFits) (fun _ hfresh => hfresh.leaseFits)
      (fun _ _ _ _ _ hC h hσ => h.leaseFits hC hσ) hmeets hc)

end Unicode

set_option maxRecDepth 100000 in
/-- The lease theorem on the claimed card. -/
theorem leaseFits_reached_claimed :
    let := asciiTables
    ∃ c, (reached Schema.default (fun _ _ => 0) (fun _ => true) claimedRun).items[2]? = some c ∧
      c.state = .claimed ∧ c.LeaseFits := by
  intro tables
  have hclaimed : ((reached Schema.default (fun _ _ => 0) (fun _ => true) claimedRun).items[2]?.map
      WorkItem.state) = some .claimed := by decide
  obtain ⟨c, hc, hstate⟩ := Option.map_eq_some_iff.1 hclaimed
  have hmeets : Meets (fun op s => op.KeepsLeases s)
      (Board.new Schema.default (fun _ _ => 0) fun _ => true) claimedRun :=
    ⟨fun h => h, fun h => h, trivial⟩
  exact ⟨c, hc, hstate, leaseFits_reached _ _ _ _ hmeets 2 c hc⟩

set_option maxRecDepth 100000 in
/-- A reported card is in Review with the lease of its run. -/
theorem reported_lease :
    let := asciiTables
    ∃ c, (reached Schema.default (fun _ _ => 0) (fun _ => true)
        (claimedRun ++ [.report 2 "agent" 0 0 []])).items[2]? = some c ∧ ¬c.LeaseFits := by
  intro tables
  have hstate : ((reached Schema.default (fun _ _ => 0) (fun _ => true)
      (claimedRun ++ [.report 2 "agent" 0 0 []])).items[2]?.map
        fun c => (c.state, c.lease.isSome)) = some (.review, true) := by decide
  obtain ⟨c, hc, heq⟩ := Option.map_eq_some_iff.1 hstate
  obtain ⟨hreview, hlease⟩ := Prod.mk.inj heq
  refine ⟨c, hc, fun hfits => ?_⟩
  rcases hfits.run (Or.inl hlease) with hs | hs | hs <;> rw [hreview] at hs <;> cases hs

end Board

end Sandboard

import Sandboard.Store.Standings

/-!
# The deadline of a run

The deadline that a claim or a reopening sets stays where it is until the card leaves Claimed
and Running, whatever happens in between.  The sweep takes the overdue runs to Backlog exactly
when every one of them has a definition of done or children, and leaves the other cards alone.
-/

namespace Sandboard

open BoardState

/-- An agent is on the card: it is Claimed or Running. -/
def WorkItem.IsHeld (i : WorkItem) : Prop :=
  i.state = .claimed ∨ i.state = .running

/-! ## The deadline stays -/

namespace Operation

variable [UnicodeTables] {s : BoardState} {op : Operation} {k : ItemId} {σ σ' : Standing}

/-- What an operation does to a held card does not move its deadline. -/
lemma Step.runsUntil {d : Time} (hheld : ∀ c, s.items[k]? = some c → c.IsHeld)
    (h : op.Step s k σ σ') (hσ : σ.RunsUntil d) : σ'.RunsUntil d := by
  rcases h with hstep | hwrite
  · exact hstep.runsUntil hσ
  · cases hwrite with
    | @transition _ c target _ _ hc hcheck =>
      intro hstate
      have hkept := hσ (hheld c hc)
      rcases hstate with rfl | rfl
      · exact hkept
      · exact hkept
    | @claim _ c _ _ _ hc deadline =>
      have hbacklog := (check_claimed_iff.1 hc.2.2).1
      rcases hheld c hc.1 with hstate | hstate <;> rw [hbacklog] at hstate <;> cases hstate
    | @reopen _ c _ _ hc deadline =>
      have hbacklog := (check_claimed_iff.1 hc.2.2).1
      rcases hheld c hc.1 with hstate | hstate <;> rw [hbacklog] at hstate <;> cases hstate
    | sandbox hc => exact hσ
    | session hc => exact hσ

/-- Whatever an operation does keeps the lease and the deadline together. -/
lemma Step.tied (h : op.Step s k σ σ') (hσ : σ.Tied) : σ'.Tied := by
  rcases h with hstep | hwrite
  · exact hstep.tied hσ
  · cases hwrite with
    | transition hc hcheck => exact hσ.entered _ _
    | claim hc deadline => rfl
    | reopen hc deadline => rfl
    | sandbox hc => exact hσ
    | session hc => exact hσ

end Operation

namespace Board

variable [UnicodeTables] {b : Board} {k : ItemId} {c : WorkItem}

/-- The card is held now and at every moment of the run. -/
def HeldAlong (k : ItemId) (b : Board) (ops : List Operation) : Prop :=
  ∀ n ≤ ops.length, ∃ c, (b.after (ops.take n)).state.items[k]? = some c ∧ c.IsHeld

/-- The run on the card ends at the instant `d`. -/
def EndsAt (b : Board) (k : ItemId) (d : Time) : Prop :=
  ∃ c l, b.state.items[k]? = some c ∧ c.runDeadlineAt = some d ∧ c.lease = some l ∧
    l.expiresAt = d

lemma HeldAlong.tail {op : Operation} {ops : List Operation} (h : HeldAlong k b (op :: ops)) :
    HeldAlong k (b.exec op) ops := fun n hn =>
  h (n + 1) (Nat.succ_le_succ hn)

/-- Along a run on which the card is held, its deadline stays. -/
lemma runsUntil_after {d : Time} {ops : List Operation} (hb : b.state.WellFormed)
    (hplan : b.state.Unplanned) (hheld : HeldAlong k b ops)
    (hd : ∀ σ, b.state.standing k = some σ → σ.RunsUntil d) :
    ∀ σ, (b.after ops).state.standing k = some σ → σ.RunsUntil d := by
  induction ops generalizing b with
  | nil => exact hd
  | cons op ops ih =>
    have hnow : ∀ c, b.state.items[k]? = some c → c.IsHeld := by
      intro c hc
      obtain ⟨c', hc', hstate⟩ := hheld 0 (Nat.zero_le _)
      rw [List.take_zero, after_nil, hc, Option.some.injEq] at hc'
      exact hc' ▸ hstate
    refine ih (hb.reshaped (reshaped_exec b op)) (hplan.reshaped (reshaped_exec b op)) hheld.tail ?_
    exact (course_exec hb hplan op k).invariant (fun σ hfresh => hfresh.runsUntil d)
      (fun σ σ' h => h.runsUntil hnow) hd

lemma endsAt_after {d : Time} {ops : List Operation} (hb : b.state.WellFormed)
    (hplan : b.state.Unplanned) (hd : ∀ σ, b.state.standing k = some σ → σ.RunsUntil d)
    (hheld : HeldAlong k b ops) : (b.after ops).EndsAt k d := by
  obtain ⟨c, hc, hstate⟩ := hheld ops.length le_rfl
  rw [List.take_length] at hc
  obtain ⟨hdeadline, hexpiry⟩ := runsUntil_after hb hplan hheld hd _ (standing_of_items hc) hstate
  obtain ⟨l, hl, hends⟩ := Option.map_eq_some_iff.1 hexpiry
  exact ⟨c, l, hc, hdeadline, hl, hends⟩

/-- The operation grants a run on the card `k` for so many seconds, and succeeds. -/
inductive GrantsRun (b : Board) (k : ItemId) (timeoutSecs : ℤ) : Operation → Prop where
  | claim {agentId : String} {model : Option String}
      (h : failure (claim k agentId model timeoutSecs) b = none) :
      GrantsRun b k timeoutSecs (.claim k agentId model timeoutSecs)
  | reopen {agentId : String} (h : failure (reopenForAdoption k agentId timeoutSecs) b = none) :
      GrantsRun b k timeoutSecs (.reopenForAdoption k agentId timeoutSecs)

omit [UnicodeTables] in
/-- A card to which a run was granted. -/
lemma runsUntil_of_granted {s s' : BoardState} {f : WorkItem → WorkItem} {now d : Time}
    {byWhom : String} {reason : Option String} (hc : s.items[k]? = some c)
    (hs' : s' = (s.moveItem k c now .claimed byWhom reason).editItem k f)
    (hdeadline : ∀ i, (f i).standing.deadline = some d ∧ (f i).standing.expiry = some d) :
    ∀ σ, s'.standing k = some σ → σ.RunsUntil d := by
  intro σ hσ _
  rw [hs', standing_editItem_moveItem hc, if_pos rfl, Option.some.injEq] at hσ
  rw [← hσ]
  exact hdeadline _

/-- The grant of a run sets its end. -/
lemma GrantsRun.runsUntil {timeoutSecs : ℤ} {op : Operation} (h : b.GrantsRun k timeoutSecs op) :
    ∀ σ, (b.exec op).state.standing k = some σ → σ.RunsUntil (b.deadlineAt timeoutSecs) := by
  cases h with
  | @claim agentId model h =>
    obtain ⟨c, hc⟩ := failure_claim_eq_none_iff.1 h
    obtain ⟨grant, b', hrun, hstate⟩ := run_claim_of_passes hc agentId model timeoutSecs
    have hexec : (b.exec (.claim k agentId model timeoutSecs)).state = b'.state := by
      simp [exec, Operation.method, Operation.silent, hrun]
    exact runsUntil_of_granted hc.1 (hexec.trans hstate) fun i => ⟨rfl, rfl⟩
  | @reopen agentId h =>
    rcases run_reopenForAdoption_cases k agentId timeoutSecs b with
      ⟨e, b', hrun, -⟩ | ⟨c, item, why, b', hc, hrun, hstate⟩
    · simp [failure, hrun] at h
    · have hexec : (b.exec (.reopenForAdoption k agentId timeoutSecs)).state = b'.state := by
        simp [exec, Operation.method, Operation.silent, hrun]
      exact runsUntil_of_granted hc.1 (hexec.trans hstate) fun i => ⟨rfl, rfl⟩

/-! ## The sweep -/

variable {ε : Type}

/-- The outcome of a sweep over the cards `ids` of the board `b`. -/
structure SweptTo (b b' : Board) (ids : List ItemId) : Prop where
  others : ∀ k, k ∉ ids → b'.state.items[k]? = b.state.items[k]?
  /-- A card that may go to Backlog is there. -/
  moved : ∀ k ∈ ids, ∀ c, b.state.items[k]? = some c → b.state.checkMove k c .backlog = .ok () →
    ∃ c', b'.state.items[k]? = some c' ∧ c'.state = .backlog
  refused : ∀ k c, b.state.items[k]? = some c → b.state.checkMove k c .backlog ≠ .ok () →
    b'.state.items[k]? = some c

/-- One overdue card is moved when the check allows it. -/
lemma run_sweepOne (id : ItemId) (b : Board) :
    ∃ b', (sweepOne id : Method ε Unit).run b = (.ok (), b') ∧
      b'.state.items = ((transition id .backlog "deadline-sweeper"
        (some "run deadline exceeded")).run b).2.state.items ∧
      b'.state.childrenByParent = ((transition id .backlog "deadline-sweeper"
        (some "run deadline exceeded")).run b).2.state.childrenByParent := by
  unfold sweepOne
  rw [Locked.run_bind_ok (run_get id b), Locked.run_bind_ok (Locked.run_attempt _ _)]
  exact ⟨_, rfl, rfl, rfl⟩

omit [UnicodeTables] in
lemma hasChildren_congr {s s' : BoardState} (hitems : s'.items = s.items)
    (hchildren : s'.childrenByParent = s.childrenByParent) (k : ItemId) :
    s'.hasChildren k = s.hasChildren k := by
  unfold hasChildren nonRetiredChildCount childrenOfIndexed
  rw [hitems, hchildren]

/-- The sweep of one card that is not Retired makes no container a leaf. -/
lemma sweptTo_sweepOne (hc : b.state.items[k]? = some c) (hstate : c.state ≠ .retired) :
    ∃ b', (sweepOne k : Method ε Unit).run b = (.ok (), b') ∧ SweptTo b b' [k] ∧
      ∀ j, b'.state.hasChildren j = b.state.hasChildren j := by
  obtain ⟨b', hrun, hitems, hchildren⟩ := run_sweepOne (ε := ε) k b
  refine ⟨b', hrun, ?_⟩
  have hsame : ∀ {c'}, b.state.items[k]? = some c' → c' = c := fun hc' => by
    rw [hc, Option.some.injEq] at hc'
    exact hc'.symm
  by_cases hcheck : b.state.checkMove k c .backlog = .ok ()
  · obtain ⟨item, b₂, hmove, hstate₂, hc₂⟩ := run_transition_allowed hc (by decide) hcheck
      "deadline-sweeper" (some "run deadline exceeded")
    rw [hmove] at hitems hchildren
    dsimp only at hitems hchildren
    have hothers : ∀ j, j ≠ k → b'.state.items[j]? = b.state.items[j]? := fun j hj => by
      rw [hitems, hstate₂, items_moveItem, if_neg hj]
    refine ⟨⟨fun j hj => hothers j (by simpa using hj), ?_, ?_⟩, fun j => ?_⟩
    · intro j hj c' hc' _
      rw [List.mem_singleton] at hj
      subst hj
      exact ⟨_, by rw [hitems, hc₂], rfl⟩
    · intro j c' hc' hrefused
      by_cases hj : j = k
      · subst hj
        exact absurd hcheck (hsame hc' ▸ hrefused)
      · rw [hothers j hj, hc']
    · rw [hasChildren_congr hitems hchildren, hstate₂, hasChildren_moveItem hc hstate (by decide)]
  · obtain ⟨e, hmove⟩ := run_transition_refused hc hcheck "deadline-sweeper"
      (some "run deadline exceeded")
    rw [hmove] at hitems hchildren
    have hitems : b'.state.items = b.state.items := hitems
    refine ⟨⟨fun j _ => by rw [hitems], ?_, fun j c' hc' _ => by rw [hitems, hc']⟩, fun j =>
      hasChildren_congr hitems hchildren j⟩
    intro j hj c' hc' hpassed
    rw [List.mem_singleton] at hj
    subst hj
    exact absurd (hsame hc' ▸ hpassed) hcheck

/-- A sweep over cards that are not Retired. -/
lemma sweptTo_forM (ids : List ItemId) (b : Board)
    (hlive : ∀ k ∈ ids, ∃ c, b.state.items[k]? = some c ∧ c.state ≠ .retired) :
    ∃ b', (ids.forM sweepOne : Method ε Unit).run b = (.ok (), b') ∧ SweptTo b b' ids := by
  induction ids generalizing b with
  | nil =>
    exact ⟨b, rfl, fun _ _ => rfl, by simp, fun _ _ hc _ => hc⟩
  | cons j ids ih =>
    obtain ⟨c, hc, hstate⟩ := hlive j (by simp)
    obtain ⟨b₁, hrun₁, hone, hcontainers⟩ := sweptTo_sweepOne (ε := ε) hc hstate
    have hcheck : ∀ k i, b₁.state.checkMove k i .backlog = .ok () ↔
        b.state.checkMove k i .backlog = .ok () := fun k i => by
      rw [checkMove_backlog_iff, checkMove_backlog_iff, hcontainers]
    have hlive₁ : ∀ k ∈ ids, ∃ c, b₁.state.items[k]? = some c ∧ c.state ≠ .retired := by
      intro k hk
      obtain ⟨c', hc', hstate'⟩ := hlive k (by simp [hk])
      by_cases hkj : k = j
      · subst hkj
        by_cases hpassed : b.state.checkMove k c' .backlog = .ok ()
        · obtain ⟨c'', hc'', hbacklog⟩ := hone.moved k (by simp) c' hc' hpassed
          exact ⟨c'', hc'', by rw [hbacklog]; decide⟩
        · exact ⟨c', hone.refused k c' hc' hpassed, hstate'⟩
      · exact ⟨c', by rw [hone.others k (by simpa using hkj), hc'], hstate'⟩
    obtain ⟨b', hrun, hrest⟩ := ih b₁ hlive₁
    refine ⟨b', ?_, fun k hk => ?_, fun k hk c' hc' hpassed => ?_, fun k c' hc' hrefused => ?_⟩
    · change (sweepOne j >>= fun _ => ids.forM sweepOne : Method ε Unit).run b = _
      rw [Locked.run_bind_ok hrun₁, hrun]
    · rw [List.mem_cons, not_or] at hk
      rw [hrest.others k hk.2, hone.others k (by simpa using hk.1)]
    · by_cases hkj : k = j
      · subst hkj
        obtain ⟨c₁, hc₁, hbacklog⟩ := hone.moved k (by simp) c' hc' hpassed
        -- A card that is in Backlog is not moved there again.
        have hstay : b₁.state.checkMove k c₁ .backlog ≠ .ok () := by
          rw [Ne, checkMove_backlog_iff, hbacklog]
          simp [allowed]
        exact ⟨c₁, hrest.refused k c₁ hc₁ hstay, hbacklog⟩
      · have hk' : k ∈ ids := by
          rcases List.mem_cons.1 hk with rfl | hk'
          · exact absurd rfl hkj
          · exact hk'
        have hc₁ : b₁.state.items[k]? = some c' := by
          rw [hone.others k (by simpa using hkj), hc']
        exact hrest.moved k hk' c' hc₁ ((hcheck k c').2 hpassed)
    · exact hrest.refused k c' (hone.refused k c' hc' hrefused) fun hpassed =>
        hrefused ((hcheck k c').1 hpassed)

/-- The card is held, and its deadline is strictly in the past. -/
def Overdue (b : Board) (k : ItemId) (c : WorkItem) : Prop :=
  b.state.items[k]? = some c ∧ c.IsHeld ∧ ∃ d, c.runDeadlineAt = some d ∧ d < b.now 0

/-- The sweep returns the overdue cards, they are in Backlog afterwards, and every other card is
as it was. -/
def SweepsExactly (b : Board) : Prop :=
  ∃ ids b', (sweepLeases : Method Empty (List ItemId)).run b = (.ok ids, b') ∧
    (∀ k, k ∈ ids ↔ ∃ c, b.Overdue k c) ∧
    (∀ k ∈ ids, ∃ c, b'.state.items[k]? = some c ∧ c.state = .backlog) ∧
    ∀ k, k ∉ ids → b'.state.items[k]? = b.state.items[k]?

/-- On a board whose leases end at the deadlines, the sweep is exact when every overdue card
has a definition of done or children. -/
lemma sweepsExactly_iff (hb : b.state.WellFormed)
    (htied : ∀ (k : ItemId) (c : WorkItem), b.state.items[k]? = some c → c.standing.Tied) :
    b.SweepsExactly ↔ ∀ k c, b.Overdue k c →
      c.definitionOfDone.isSome = true ∨ b.state.hasChildren k = true := by
  have hmem : ∀ k, k ∈ b.state.expired (b.now 0) ↔ ∃ c, b.Overdue k c := by
    intro k
    rw [hb.mem_expired_iff]
    refine exists_congr fun c => and_congr_right fun hc => and_congr_right fun _ => ?_
    have htied := htied k c hc
    unfold isOverdue
    cases hdeadline : c.runDeadlineAt with
    | none =>
      have hlease : c.lease = none := by
        simpa [Standing.Tied, WorkItem.standing, hdeadline] using htied
      simp [hlease]
    | some d => simp
  have hlive : ∀ k ∈ b.state.expired (b.now 0), ∃ c, b.state.items[k]? = some c ∧
      c.state ≠ .retired := by
    intro k hk
    obtain ⟨c, hc, hheld, -⟩ := (hmem k).1 hk
    exact ⟨c, hc, by rcases hheld with hs | hs <;> simp [hs]⟩
  have hcheck : ∀ k c, b.Overdue k c → (b.state.checkMove k c .backlog = .ok () ↔
      c.definitionOfDone.isSome = true ∨ b.state.hasChildren k = true) := by
    rintro k c ⟨-, hheld, -⟩
    have hedge : allowed c.state .backlog = true := by
      rcases hheld with hs | hs <;> rw [hs] <;> rfl
    rw [checkMove_backlog_iff, or_comm]
    simp [hedge]
  obtain ⟨b', hrun, hswept⟩ := sweptTo_forM (ε := Empty) (b.state.expired (b.now 0))
    (b.stepped b.state) hlive
  have hsweep : (sweepLeases : Method Empty (List ItemId)).run b =
      (.ok (b.state.expired (b.now 0)), b') := by
    unfold sweepLeases
    rw [Locked.run_bind_ok (run_utcNow b), Locked.run_bind_ok (run_read _ _), stepped_state,
      Locked.run_bind_ok hrun]
    rfl
  constructor
  · rintro ⟨ids, b'', hrun', hids, hmoved, -⟩ k c hoverdue
    rw [hsweep, Prod.mk.injEq, Except.ok.injEq] at hrun'
    obtain ⟨rfl, rfl⟩ := hrun'
    rw [← hcheck k c hoverdue]
    by_contra hrefused
    obtain ⟨c', hc', hbacklog⟩ := hmoved k ((hids k).2 ⟨c, hoverdue⟩)
    rw [hswept.refused k c hoverdue.1 hrefused, Option.some.injEq] at hc'
    rcases hoverdue.2.1 with hs | hs <;> rw [hc', hbacklog] at hs <;> cases hs
  · intro hall
    refine ⟨_, b', hsweep, hmem, fun k hk => ?_, hswept.others⟩
    obtain ⟨c, hoverdue⟩ := (hmem k).1 hk
    exact hswept.moved k hk c hoverdue.1 ((hcheck k c hoverdue).2 (hall k c hoverdue))

lemma sweepsExactly_after_iff (schema : Schema) (clock : ℕ → ℕ → Time) (saveSucceeds : ℕ → Bool)
    (ops : List Operation) :
    let b := (Board.new schema clock saveSucceeds).after ops
    b.SweepsExactly ↔ ∀ k c, b.Overdue k c →
      c.definitionOfDone.isSome = true ∨ b.state.hasChildren k = true := by
  refine sweepsExactly_iff (wellFormed_reached schema clock saveSucceeds ops) fun k c hc => ?_
  exact standing_invariant (p := Standing.Tied) (fun _ hfresh => hfresh.tied)
    (fun _ _ _ _ _ _ h hσ => h.tied hσ) (meets_of_forall (fun _ _ => trivial) _ ops) hc

/-- On every reachable board the deadline of a granted run stays while the card is held, and
the sweep is exact when every overdue card has a definition of done or children. -/
theorem deadline_kept_and_sweepsExactly_iff (schema : Schema) (clock : ℕ → ℕ → Time)
    (saveSucceeds : ℕ → Bool) (ops : List Operation) :
    let b := (Board.new schema clock saveSucceeds).after ops
    (∀ (k : ItemId) (timeoutSecs : ℤ) (op : Operation) (ops' : List Operation),
      b.GrantsRun k timeoutSecs op → HeldAlong k (b.exec op) ops' →
        ((b.exec op).after ops').EndsAt k (b.deadlineAt timeoutSecs)) ∧
      (b.SweepsExactly ↔ ∀ k c, b.Overdue k c →
        c.definitionOfDone.isSome = true ∨ b.state.hasChildren k = true) := by
  intro b
  have hwf : b.state.WellFormed := wellFormed_reached schema clock saveSucceeds ops
  have hplan : b.state.Unplanned :=
    BoardState.Unplanned.empty.reshaped (reshaped_after (Board.new schema clock saveSucceeds) ops)
  constructor
  · intro k timeoutSecs op ops' hgrant hheld
    exact endsAt_after (hwf.reshaped (reshaped_exec b op)) (hplan.reshaped (reshaped_exec b op))
      hgrant.runsUntil hheld
  · exact sweepsExactly_after_iff schema clock saveSucceeds ops

omit [UnicodeTables]

/-- A run that blanks the definition of done of a claimed card, on a clock that ticks hours. -/
def blankedRun : List Operation :=
  claimedRun ++ [.updateItem 2 none none (some "") none none]

/-- A clock that is an hour further at every section. -/
def hourly (n _ : ℕ) : Time := seconds (3600 * n)

set_option maxRecDepth 100000 in
/-- The overdue card is returned by the sweep, and stays Claimed. -/
theorem blanked_not_swept :
    let := asciiTables
    ¬((Board.new Schema.default hourly fun _ => true).after blankedRun).SweepsExactly := by
  intro tables hexact
  have hall := (sweepsExactly_after_iff Schema.default hourly (fun _ => true) blankedRun).1 hexact
  have hcard : (((Board.new Schema.default hourly fun _ => true).after blankedRun).state.items[2]?.map
      fun c => (c.state, c.runDeadlineAt, c.definitionOfDone.isSome)) =
        some (.claimed, some (seconds 18060), false) := by decide
  have hnow : ((Board.new Schema.default hourly fun _ => true).after blankedRun).now 0 =
      seconds 28800 := by decide
  have hleaf : ((Board.new Schema.default hourly fun _ => true).after blankedRun).state.hasChildren
      2 = false := by decide
  obtain ⟨c, hc, heq⟩ := Option.map_eq_some_iff.1 hcard
  simp only [Prod.mk.injEq] at heq
  obtain ⟨hstate, hdeadline, hdod⟩ := heq
  rcases hall 2 c ⟨hc, Or.inl hstate, _, hdeadline, by rw [hnow]; decide⟩ with h | h
  · rw [hdod] at h
    cases h
  · rw [hleaf] at h
    cases h

end Board

end Sandboard

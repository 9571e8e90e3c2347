import Sandboard.Store.Retries
import Sandboard.Store.Upkeep
import Sandboard.Supervisor.Freeing

/-!
# A run that ends late

The outcome of a run is accounted for after the run, and its card may have moved on by then.  The
supervisor judges the error text alone: it does not look at the card again before it clears the
failures, releases the card or records a failure.  `Watched` is the fleet together with the lease
of each run, so that a card that was claimed again counts as moved on too.
-/

namespace Sandboard

open Std BoardState

/-- How often the card was claimed or reopened. -/
def WorkItem.claims (c : WorkItem) : ℕ :=
  c.history.countP fun t => t.toState = .claimed

/-- What a late outcome must leave alone. -/
structure WorkItem.Undisturbed (c c' : WorkItem) : Prop where
  state : c'.state = c.state
  escalation : c'.escalation = c.escalation
  parked : c'.parked = c.parked
  awaitingDispatch : c'.awaitingDispatch = c.awaitingDispatch
  rebaseRequested : c'.rebaseRequested = c.rebaseRequested
  autoDispatch : c'.autoDispatch = c.autoDispatch
  runFailures : c'.runFailures = c.runFailures

lemma WorkItem.Undisturbed.refl (c : WorkItem) : c.Undisturbed c :=
  ⟨rfl, rfl, rfl, rfl, rfl, rfl, rfl⟩

/-! ## What each outcome does to the card -/

/-- The board still has the card `id`, and `c`, which it was before, is undisturbed. -/
def Board.Spares (b : Board) (id : ItemId) (c : WorkItem) : Prop :=
  ∃ c', b.state.items[id]? = some c' ∧ c.Undisturbed c'

namespace Board

variable {b : Board} {id : ItemId} {c : WorkItem}

lemma spares_of_state {s : BoardState} (hc : s.items[id]? = some c) (hs : b.state = s) :
    b.Spares id c :=
  ⟨c, hs ▸ hc, .refl c⟩

variable [UnicodeTables]

/-- A success is harmless to a card without failures only. -/
lemma spares_clearRunFailures_iff (hc : b.state.items[id]? = some c) :
    (b.exec (.clearRunFailures id)).Spares id c ↔ c.runFailures = 0 := by
  have hexec : b.exec (.clearRunFailures id) =
      ((editIf id (fun it => it.runFailures ≠ 0) WorkItem.unfailed : Method Empty Unit).run b).2 :=
    rfl
  rw [hexec]
  by_cases hzero : c.runFailures = 0
  · rw [run_editIf_declined hc (by simp [hzero])]
    exact iff_of_true (spares_of_state hc rfl) hzero
  · rw [run_editIf_wanted hc (by simp [hzero])]
    refine iff_of_false ?_ hzero
    rintro ⟨c', hc', hsame⟩
    have hnew : c' = c.unfailed := by
      have hitem : (b.state.editItem id WorkItem.unfailed).items[id]? = some c.unfailed := by
        rw [items_editItem_self, hc, Option.map_some]
      exact Option.some.inj (hc'.symm.trans hitem)
    rw [hnew] at hsame
    exact hzero hsame.runFailures.symm

/-- A release is harmless when it is refused. -/
lemma spares_release_iff (hc : b.state.items[id]? = some c) (agentId : String) :
    (b.exec (.releaseWithReason id agentId none)).Spares id c ↔
      b.state.checkMove id c .backlog ≠ .ok () := by
  have hmethod : (Operation.releaseWithReason id agentId none).method =
      Operation.silent (releaseWithReason id agentId none) := rfl
  rw [exec_eq hmethod, releaseWithReason]
  by_cases hcheck : b.state.checkMove id c .backlog = .ok ()
  · refine iff_of_false ?_ (not_not_intro hcheck)
    have hsection : (write fun now s => releaseSection id agentId none (now 0) s).run b =
        (.ok ((b.state.moveItem id c (b.now 0) .backlog agentId (some "released by agent")
          |>.populateBlockers
            (c.moved (b.now 0) .backlog agentId (some "released by agent")))),
          b.stepped (b.state.moveItem id c (b.now 0) .backlog agentId
            (some "released by agent"))) := by
      rw [run_write]
      unfold releaseSection
      dsimp only
      rw [Option.getD_none, tryMove_allowed hc hcheck]
    rw [Locked.run_bind_ok hsection]
    rintro ⟨c', hc', hsame⟩
    have hitem : (b.state.moveItem id c (b.now 0) .backlog agentId
        (some "released by agent")).items[id]? =
          some (c.moved (b.now 0) .backlog agentId (some "released by agent")) := by
      rw [items_moveItem, if_pos rfl, hc, Option.map_some]
    have hnew : c' = c.moved (b.now 0) .backlog agentId (some "released by agent") :=
      Option.some.inj (hc'.symm.trans hitem)
    have hstate : c.state = .backlog := by
      rw [← hsame.state, hnew, WorkItem.moved_state]
    have hallowed := (checkMove_backlog_iff.1 hcheck).1
    rw [hstate] at hallowed
    cases hallowed
  · refine iff_of_true ?_ hcheck
    obtain ⟨e, hmove⟩ := tryMove_refused hc hcheck (b.now 0) agentId (some "released by agent")
    have hsection : (write fun now s => releaseSection id agentId none (now 0) s).run b =
        (.error e, b.stepped b.state) := by
      rw [run_write]
      unfold releaseSection
      dsimp only
      rw [Option.getD_none, hmove]
    rw [Locked.run_bind_error hsection]
    exact spares_of_state hc rfl

/-- A recorded failure is never harmless. -/
lemma not_spares_recordRunFailure (hc : b.state.items[id]? = some c) (reason : String)
    (maxAttempts : UInt32) :
    ¬(b.exec (.recordRunFailure id reason maxAttempts)).Spares id c := by
  have hmethod : (Operation.recordRunFailure id reason maxAttempts).method =
      Operation.silent (recordRunFailure id reason maxAttempts) := rfl
  rw [exec_eq hmethod]
  obtain ⟨c', hc', hcount, -⟩ := run_recordRunFailure_card hc reason maxAttempts
  rintro ⟨c'', hc'', hsame⟩
  rw [hc', Option.some.injEq] at hc''
  have hsucc : c.runFailures + 1 = c.runFailures := by
    rw [← hcount, hc'']
    exact hsame.runFailures
  simp at hsucc

end Board

namespace Supervisor

/-! ## Leases -/

/-- The fleet, and for each card how often it had been claimed when its last run was put under
supervision. -/
structure Watched where
  fleet : Fleet
  lease : ItemId → ℕ

/-- The card is in the hands of the run. -/
structure SupervisedRun.Holds (r : SupervisedRun) (lease : ℕ) (c : WorkItem) : Prop where
  state : c.state = .claimed ∨ c.state = .running
  unparked : c.parked = false
  agent : c.lease.map Lease.agentId = some r.agentId
  claims : c.claims = lease

/-- What the supervisor will make of a run that has ended. -/
def Phase.decision : Phase → Option Decision
  | .finished _ result => some (Supervisor.supervise result)
  | _ => none

lemma Phase.decision_eq_some {p : Phase} {d : Decision} (h : p.decision = some d) :
    ∃ agent result, p = .finished agent result ∧ Supervisor.supervise result = d := by
  cases p with
  | finished agent result => exact ⟨agent, result, rfl, Option.some.inj h⟩
  | _ => cases h

namespace Watched

/-- The supervisor starts on a board, without runs. -/
def start (b : Board) : Watched := ⟨.start b, fun _ => 0⟩

section Unicode

variable [UnicodeTables]

/-- One step.  A run that is put under supervision notes the lease of its card. -/
def step (w : Watched) (e : Event) : Watched where
  fleet := w.fleet.step e
  lease id :=
    let supervised := (w.fleet.step e).runs.drop w.fleet.runs.length
    if id ∈ supervised.map SupervisedRun.id then
      ((w.fleet.step e).board.state.items[id]?.map WorkItem.claims).getD 0
    else w.lease id

/-- The run whose outcome the event accounts for, and the outcome; its card is on the board, and no
longer in the hands of the run. -/
structure Late (w : Watched) (i : ℕ) (r : SupervisedRun) (result : Except Abort Unit)
    (c : WorkItem) : Prop where
  run : w.fleet.runs[i]? = some r
  finished : ∃ agent, r.phase = .finished agent result
  card : w.fleet.board.state.items[r.id]? = some c
  movedOn : ¬r.Holds (w.lease r.id) c

/-- The outcome of a run is accounted for without a change to a card that has moved on. -/
def LeavesMovedOn (w : Watched) : Event → Prop
  | .run i (.account maxAttempts) => ∀ r result c, w.Late i r result c →
      (w.step (.run i (.account maxAttempts))).fleet.board.Spares r.id c
  | _ => True

/-- What the supervisor makes of a run is harmless to the card. -/
def Harmless (s : BoardState) (id : ItemId) (c : WorkItem) : Decision → Prop
  | .success => c.runFailures = 0
  | .cancelled | .detached | .aborted => True
  -- The release is refused.
  | .infrastructure => s.checkMove id c .backlog ≠ .ok ()
  | .failed => False

/-- The outcome of a run whose card has moved on is harmless to the card. -/
def EndsHarmlessly (w : Watched) : Event → Prop
  | .run i (.account _) => ∀ r result c, w.Late i r result c →
      Harmless w.fleet.board.state r.id c (Supervisor.supervise result)
  | _ => True

variable {w : Watched}

/-- The fleet of a watched run is the fleet of the run. -/
lemma fleet_after (events : List Event) :
    (Run.after step w events).fleet = Run.after Fleet.step w.fleet events := by
  induction events generalizing w with
  | nil => rfl
  | cons e events ih =>
    rw [Run.after_cons, Run.after_cons, ih]
    rfl

/-- What becomes of the card when the outcome of its run is accounted for. -/
lemma spares_accountFor_iff {f : Fleet} {i : ℕ} {r : SupervisedRun} {agent : Option Process}
    {result : Except Abort Unit} {maxAttempts : UInt32} {c : WorkItem}
    (hc : f.board.state.items[r.id]? = some c) :
    (f.accountFor i r agent result maxAttempts).board.Spares r.id c ↔
      Harmless f.board.state r.id c (Supervisor.supervise result) := by
  have hsame : f.board.Spares r.id c := Board.spares_of_state hc rfl
  cases result with
  | ok u => exact Board.spares_clearRunFailures_iff hc
  | error abort =>
    cases abort with
    | panic => exact iff_of_true hsame trivial
    | error msg =>
      unfold Fleet.accountFor Supervisor.supervise
      dsimp only
      split
      · exact iff_of_true hsame trivial
      · split
        · exact iff_of_true hsame trivial
        · split
          · exact Board.spares_release_iff hc r.agentId
          · exact iff_of_false (Board.not_spares_recordRunFailure hc msg maxAttempts) id

lemma leavesMovedOn_iff (w : Watched) (e : Event) : w.LeavesMovedOn e ↔ w.EndsHarmlessly e := by
  unfold LeavesMovedOn EndsHarmlessly
  split
  · rename_i i maxAttempts
    refine forall_congr' fun r => forall_congr' fun result => forall_congr' fun c =>
      forall_congr' fun hlate => ?_
    obtain ⟨agent, hphase⟩ := hlate.finished
    have hstep : (w.step (.run i (.account maxAttempts))).fleet =
        w.fleet.accountFor i r agent result maxAttempts := by
      change w.fleet.step (.run i (.account maxAttempts)) = _
      simp only [Fleet.step, hlate.run, Fleet.runTurn, hphase]
    rw [hstep]
    exact spares_accountFor_iff hlate.card
  · exact Iff.rfl

/-- The cards that have moved on are left alone by the outcomes of their runs exactly when each
outcome that comes late is harmless: a success where no failure is on the card, a cancelled or a
detached run, or a failure of the machinery where the release is refused. -/
theorem leaves_moved_on (b : Board) (events : List Event) :
    Run.Meets step LeavesMovedOn (start b) events ↔
      Run.Meets step EndsHarmlessly (start b) events :=
  Run.meets_congr leavesMovedOn_iff

/-! ## An agent that reports and then fails -/

/-- The first run with the outcome that it waits to have accounted for, and the state of card 3. -/
def glance (f : Fleet) : Option (ItemId × Option Decision) × Option State :=
  (f.runs[0]?.map fun r => (r.id, r.phase.decision), f.board.state.items[3]?.map WorkItem.state)

/-- A failed run of a card in Review does not leave it alone. -/
lemma not_leavesMovedOn_of_glance {w : Watched} (maxAttempts : UInt32)
    (h : glance w.fleet = (some (3, some .failed), some .review)) :
    ¬w.LeavesMovedOn (.run 0 (.account maxAttempts)) := by
  obtain ⟨r, hr, hrun⟩ := Option.map_eq_some_iff.1 (Prod.ext_iff.1 h).1
  obtain ⟨c, hc, hstate⟩ := Option.map_eq_some_iff.1 (Prod.ext_iff.1 h).2
  obtain ⟨hid, hdecision⟩ := Prod.ext_iff.1 hrun
  have hid : r.id = 3 := hid
  obtain ⟨agent, result, hphase, hfailed⟩ := Phase.decision_eq_some hdecision
  have hlate : w.Late 0 r result c := by
    refine ⟨hr, ⟨agent, hphase⟩, hid ▸ hc, fun hholds => ?_⟩
    rcases hholds.state with hclaimed | hrunning
    · exact absurd (hstate.symm.trans hclaimed) (by decide)
    · exact absurd (hstate.symm.trans hrunning) (by decide)
  rw [leavesMovedOn_iff]
  intro hends
  have hharmless := hends r result c hlate
  rw [hfailed] at hharmless
  exact hharmless

end Unicode

/-- The agent reports its work, and then exits with an error. -/
def reportedRun : List Event :=
  Fleet.startedRun ++
    [.operation (.report 3 "sandbox-3" 1 0 []), .run 0 (.finish publishing ⟨1, "boom", ""⟩)]

set_option maxRecDepth 100000 in
lemma glance_reportedRun :
    let := asciiTables
    glance (Run.after Fleet.step Fleet.onNewBoard reportedRun) =
      (some (3, some .failed), some .review) := by
  decide +kernel

/-- The failure is recorded on a card that waits for its review. -/
theorem not_leaves_moved_on_reportedRun :
    let := asciiTables
    ¬Run.Meets step LeavesMovedOn (start (Board.new Schema.default (fun _ _ => 0) fun _ => true))
      (reportedRun ++ [.run 0 (.account 3)]) := by
  intro tables
  refine Run.not_meets_of_last (not_leavesMovedOn_of_glance 3 ?_)
  rw [fleet_after]
  exact glance_reportedRun

end Watched

end Supervisor

end Sandboard

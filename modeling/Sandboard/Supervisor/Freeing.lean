import Sandboard.Supervisor.Exclusion
import Sandboard.Supervisor.Slots

/-!
# Slots that are given back

The slot of a run is given back by the last lines of its task.  A panic takes the task down before
that, and the slot is lost.  The sweeper asks whether a card is active once, and then waits for a
sandbox: a card that is claimed meanwhile is requeued under its run.  When neither happens, the
active cards are those of the runs, and no active card is requeued.
-/

namespace Sandboard

open Std Text

namespace Supervisor

/-- The card that a stage takes for one without a run, because it was not active. -/
def Stage.cleared : Stage → Option ItemId
  | .free sb _ | .probing sb _ => some sb.item
  | .requeue id _ _ => some id
  | _ => none

/-- A card is cleared when it is not active. -/
lemma cleared_advance [UnicodeTables] {p : Pass} {reopen : Bool} {active : Finset ItemId}
    {timeoutSecs : ℤ} {now : Time} {probe : Except String Output} {b : Board} {id : ItemId}
    (h : (p.advance reopen active timeoutSecs now probe b).1.stage.cleared = some id) :
    p.stage.cleared = some id ∨ id ∉ active := by
  revert h
  unfold Pass.advance
  split
  · split
    · exact fun h => .inl h
    · dsimp only
      split <;> exact nofun
  · exact nofun
  · rename_i sb card hstage
    dsimp only
    split
    · exact nofun
    · rename_i hactive
      intro h
      cases h
      exact .inr hactive
  · rename_i sb card hstage
    dsimp only
    split
    · exact nofun
    · split <;> exact fun h => .inl (by rw [hstage]; exact h)
  · rename_i sb item hstage
    split
    · exact nofun
    · exact fun h => .inl (by rw [hstage]; exact h)
  · exact nofun

namespace Fleet

/-- Every active card has a run, and the sweeper takes no active card for one without. -/
structure Manned (f : Fleet) : Prop where
  runs : ∀ id ∈ f.active, ∃ r ∈ f.runs, r.id = id
  rests : sweeps f.desk = false → f.sweep = none
  sweep : ∀ pass, f.sweep = some pass → ∀ id, pass.stage.cleared = some id → id ∉ f.active

variable {f f' : Fleet} {i : ℕ} {r r' : SupervisedRun}

/-- The sweeper is not on a pass. -/
lemma manned_of_sweep_none (hruns : ∀ id ∈ f.active, ∃ r ∈ f.runs, r.id = id)
    (hnone : f.sweep = none) : f.Manned where
  runs := hruns
  rests _ := hnone
  sweep pass hpass := by cases hnone.symm.trans hpass

/-- No card is active yet. -/
lemma manned_of_empty (hempty : f.active = ∅) (hnone : f.sweep = none) : f.Manned := by
  refine manned_of_sweep_none (fun id hid => ?_) hnone
  rw [hempty] at hid
  exact absurd hid (Finset.notMem_empty id)

lemma Manned.frame (h : f.Manned) (hids : f'.runs.map SupervisedRun.id = f.runs.map SupervisedRun.id)
    (hactive : f'.active = f.active) (hdesk : sweeps f'.desk = sweeps f.desk)
    (hsweep : f'.sweep = f.sweep) : f'.Manned where
  runs id hid := by
    rw [hactive] at hid
    obtain ⟨r, hr, hrid⟩ := h.runs id hid
    have hmem : id ∈ f.runs.map SupervisedRun.id := List.mem_map.2 ⟨r, hr, hrid⟩
    rw [← hids] at hmem
    exact List.mem_map.1 hmem
  rests hrest := by
    rw [hsweep]
    exact h.rests (hdesk ▸ hrest)
  sweep := by
    rw [hsweep, hactive]
    exact h.sweep

section Unicode

variable [UnicodeTables]

/-- What a step of a run does to the slots: the run goes on, it gives its slot back, or a panic
takes its task down. -/
lemma runTurn_cases (hr : f.runs[i]? = some r) (turn : RunTurn) :
    (f.runTurn i r turn).desk = f.desk ∧ (f.runTurn i r turn).sweep = f.sweep ∧
      (((f.runTurn i r turn).runs.map SupervisedRun.id = f.runs.map SupervisedRun.id ∧
          (f.runTurn i r turn).active = f.active) ∨
        ((f.runTurn i r turn).runs = f.runs.eraseIdx i ∧
          (f.runTurn i r turn).active = f.active.erase r.id) ∨
        ∃ maxAttempts agent, turn = .account maxAttempts ∧
          r.phase = .finished agent (.error .panic)) := by
  have hset : ∀ r' : SupervisedRun, r'.id = r.id →
      (f.runs.set i r').map SupervisedRun.id = f.runs.map SupervisedRun.id :=
    fun r' hid => ids_set hr hid
  unfold runTurn
  split
  · exact ⟨rfl, rfl, .inl ⟨hset _ rfl, rfl⟩⟩
  · exact ⟨rfl, rfl, .inl ⟨hset _ rfl, rfl⟩⟩
  · unfold chooseSandbox
    dsimp only
    split
    · exact ⟨rfl, rfl, .inl ⟨hset _ rfl, rfl⟩⟩
    · split
      · exact ⟨rfl, rfl, .inl ⟨hset _ rfl, rfl⟩⟩
      · exact ⟨rfl, rfl, .inl ⟨hset _ rfl, rfl⟩⟩
  · split
    · exact ⟨rfl, rfl, .inl ⟨rfl, rfl⟩⟩
    · exact ⟨rfl, rfl, .inl ⟨hset _ rfl, rfl⟩⟩
  · split
    · exact ⟨rfl, rfl, .inl ⟨rfl, rfl⟩⟩
    · exact ⟨rfl, rfl, .inl ⟨hset _ rfl, rfl⟩⟩
  · split
    · exact ⟨rfl, rfl, .inl ⟨rfl, rfl⟩⟩
    · exact ⟨rfl, rfl, .inl ⟨hset _ rfl, rfl⟩⟩
  · split
    · exact ⟨rfl, rfl, .inl ⟨hset _ rfl, rfl⟩⟩
    · exact ⟨rfl, rfl, .inl ⟨hset _ rfl, rfl⟩⟩
  · exact ⟨rfl, rfl, .inl ⟨hset _ rfl, rfl⟩⟩
  · exact ⟨rfl, rfl, .inl ⟨hset _ rfl, rfl⟩⟩
  · exact ⟨rfl, rfl, .inl ⟨hset _ rfl, rfl⟩⟩
  · exact ⟨rfl, rfl, .inl ⟨hset _ rfl, rfl⟩⟩
  · exact ⟨rfl, rfl, .inl ⟨hset _ rfl, rfl⟩⟩
  · rename_i maxAttempts agent result hphase
    unfold accountFor
    dsimp only
    split
    · exact ⟨rfl, rfl, .inl ⟨hset _ rfl, rfl⟩⟩
    · exact ⟨rfl, rfl, .inr (.inr ⟨maxAttempts, agent, rfl, hphase⟩)⟩
    · split
      · exact ⟨rfl, rfl, .inl ⟨hset _ rfl, rfl⟩⟩
      · split
        · exact ⟨rfl, rfl, .inl ⟨hset _ rfl, rfl⟩⟩
        · split
          · exact ⟨rfl, rfl, .inl ⟨hset _ rfl, rfl⟩⟩
          · exact ⟨rfl, rfl, .inl ⟨hset _ rfl, rfl⟩⟩
  · exact ⟨rfl, rfl, .inr (.inl ⟨rfl, rfl⟩)⟩
  · exact ⟨rfl, rfl, .inl ⟨rfl, rfl⟩⟩

/-- No run ends in a panic, and no card is put under supervision that the sweeper has cleared. -/
def Guarded (f : Fleet) : Event → Prop
  | .run i (.account _) => ∀ r agent, f.runs[i]? = some r → r.phase ≠ .finished agent (.error .panic)
  | .dispatch .. => ∀ max id pass, f.desk = .claimed max id → f.sweep = some pass →
    pass.stage.cleared ≠ some id
  | _ => True

lemma manned_runTurn (hm : f.Manned) (hr : f.runs[i]? = some r) {turn : RunTurn}
    (hguard : f.Guarded (.run i turn)) : (f.runTurn i r turn).Manned := by
  obtain ⟨hdesk, hsweep, hruns⟩ := runTurn_cases hr turn
  have hsweeps : sweeps (f.runTurn i r turn).desk = sweeps f.desk := by rw [hdesk]
  rcases hruns with ⟨hids, hactive⟩ | ⟨hruns, hactive⟩ | ⟨maxAttempts, agent, rfl, hphase⟩
  · exact hm.frame hids hactive hsweeps hsweep
  · refine ⟨fun id hid => ?_, fun hrest => ?_, fun pass hpass id hid hmem => ?_⟩
    · rw [hactive, Finset.mem_erase] at hid
      obtain ⟨r', hr', hrid⟩ := hm.runs id hid.2
      obtain ⟨j, hj, hrj⟩ := List.getElem_of_mem hr'
      refine ⟨r', ?_, hrid⟩
      rw [hruns, List.mem_eraseIdx_iff_getElem]
      refine ⟨j, hj, fun hji => hid.1 ?_, hrj⟩
      rw [List.getElem?_eq_some_iff] at hr
      obtain ⟨hi, hri⟩ := hr
      subst hji
      rw [← hrid, ← hrj, hri]
    · rw [hsweep]
      exact hm.rests (hsweeps ▸ hrest)
    · rw [hsweep] at hpass
      rw [hactive] at hmem
      exact hm.sweep pass hpass id hid (Finset.mem_of_mem_erase hmem)
  · exact absurd hphase (hguard r agent hr)

omit [UnicodeTables] in
/-- A run is put under supervision; the sweeper has not cleared its card. -/
lemma Manned.supervise (hm : f.Manned) {desk : Desk}
    (hclear : ∀ pass, f.sweep = some pass → pass.stage.cleared ≠ some r.id)
    (hrests : sweeps desk = false → f.sweep = none) :
    ({ f.supervise r with desk := desk }).Manned where
  runs id hid := by
    rcases Finset.mem_insert.1 hid with rfl | hold
    · exact ⟨r, List.mem_append_right _ List.mem_cons_self, rfl⟩
    · obtain ⟨r', hr', hrid⟩ := hm.runs id hold
      exact ⟨r', List.mem_append_left _ hr', hrid⟩
  rests := hrests
  sweep pass hpass id hid hmem := by
    rcases Finset.mem_insert.1 hmem with rfl | hold
    · exact hclear pass hpass hid
    · exact hm.sweep pass hpass id hid hold

lemma manned_dispatchStep (hm : f.Manned) {max : ℕ} {timeoutSecs : ℤ} {now : Time}
    {probe : Except String Output} (hguard : f.Guarded (.dispatch max timeoutSecs now probe)) :
    (f.dispatchStep max timeoutSecs now probe).Manned := by
  have hsame : ∀ f' : Fleet, f'.runs = f.runs → f'.active = f.active → f'.sweep = f.sweep →
      sweeps f'.desk = sweeps f.desk → f'.Manned := by
    intro f' hruns hactive hsweep hdesk
    exact hm.frame (by rw [hruns]) hactive hdesk hsweep
  have hrests := hm.rests
  unfold dispatchStep
  split
  · exact hm
  · rename_i hdesk
    exact hsame _ rfl rfl rfl (by rw [hdesk]; rfl)
  · rename_i hdesk
    exact hsame _ rfl rfl rfl (by rw [hdesk]; rfl)
  · rename_i hdesk
    have hnone : f.sweep = none := hrests (by rw [hdesk]; rfl)
    exact ⟨hm.runs, nofun, hm.sweep⟩
  · rename_i a left hdesk
    have hnone : f.sweep = none := hrests (by rw [hdesk]; rfl)
    refine hm.supervise (fun pass hpass => ?_) fun _ => hnone
    cases hnone.symm.trans hpass
  · split
    · exact hm
    · rename_i hdesk _
      exact hsame _ rfl rfl rfl (by rw [hdesk]; rfl)
  · rename_i hdesk
    exact hsame _ rfl rfl rfl (by rw [hdesk]; rfl)
  · rename_i hdesk
    exact hsame _ rfl rfl rfl (by rw [hdesk]; rfl)
  · rename_i hdesk
    exact hsame _ rfl rfl rfl (by rw [hdesk]; rfl)
  · rename_i hdesk
    split
    · exact hsame _ rfl rfl rfl (by rw [hdesk]; rfl)
    · exact hsame _ rfl rfl rfl (by rw [hdesk]; rfl)
  · rename_i hdesk
    split
    · exact hsame _ rfl rfl rfl (by rw [hdesk]; rfl)
    · exact hsame _ rfl rfl rfl (by rw [hdesk]; rfl)
  · rename_i max id hdesk
    exact hm.supervise (fun pass hpass => hguard max id pass hdesk hpass) nofun

lemma manned_step (hm : f.Manned) {e : Event} (hguard : f.Guarded e) :
    (f.step e).Manned := by
  have hrests := hm.rests
  cases e with
  | operation op =>
    dsimp only [step]
    split
    · exact hm
    · exact hm.frame rfl rfl rfl rfl
  | restart => exact manned_of_empty rfl rfl
  | unreachable =>
    dsimp only [step]
    split
    · rename_i hdesk
      exact ⟨hm.runs, fun _ => hrests (by rw [hdesk]; rfl), hm.sweep⟩
    · exact hm
  | listed names =>
    dsimp only [step]
    split
    · rename_i hdesk
      exact ⟨hm.runs, fun _ => hrests (by rw [hdesk]; rfl), hm.sweep⟩
    · exact hm
  | dispatch max timeoutSecs now probe => exact manned_dispatchStep hm hguard
  | swept names =>
    dsimp only [step]
    split
    · rename_i hsweeps
      rw [Bool.and_eq_true] at hsweeps
      refine ⟨hm.runs, fun hrest => ?_, fun pass hpass id hid => ?_⟩
      · cases hrest.symm.trans hsweeps.1
      · cases hpass
        cases hid
    · exact hm
  | sweep timeoutSecs now probe =>
    dsimp only [step]
    split
    · exact hm
    · exact manned_of_sweep_none hm.runs rfl
    · rename_i pass _ hpass
      refine ⟨hm.runs, fun hrest => ?_, fun pass' hpass' id hid => ?_⟩
      · cases (hrests hrest).symm.trans hpass
      · cases hpass'
        rcases cleared_advance hid with hold | hnew
        · exact hm.sweep pass hpass id hold
        · exact hnew
  | run i turn =>
    dsimp only [step]
    split
    · exact hm
    · rename_i r hr
      exact manned_runTurn hm hr hguard
  | appears name item agent =>
    dsimp only [step]
    split
    · exact hm
    · split
      · exact hm.frame rfl rfl rfl rfl
      · exact hm.frame rfl rfl rfl rfl
  | vanishes name => exact hm.frame rfl rfl rfl rfl

/-! ## The slots in every run -/

/-- A pass is about to requeue the card. -/
def Requeues (f : Fleet) (id : ItemId) : Prop :=
  ∃ pass byWhom reason, (f.desk = .reconciling pass ∨ f.sweep = some pass) ∧
    pass.stage = .requeue id byWhom reason

/-- One run for a card, one slot for a run, no more than the configured number through dispatch,
and no active card is requeued. -/
structure SlotsKept (f : Fleet) : Prop where
  one : (f.runs.map SupervisedRun.id).Nodup
  active : f.active = (f.runs.map SupervisedRun.id).toFinset
  count : f.inFlight = f.active.card
  idle : f.runs = [] → f.inFlight = 0
  bound : ∀ max id max' timeoutSecs now probe, f.desk = .claimed max id →
    (f.step (.dispatch max' timeoutSecs now probe)).inFlight ≤ max
  requeue : ∀ id, f.Requeues id → id ∉ f.active

lemma slotsKept (h : f.Staffed) (hm : f.Manned) : f.SlotsKept := by
  have hactive : f.active = (f.runs.map SupervisedRun.id).toFinset := by
    ext id
    rw [List.mem_toFinset, List.mem_map]
    constructor
    · exact fun hid => hm.runs id hid
    · rintro ⟨r, hr, rfl⟩
      exact h.active r hr
  refine ⟨h.ids, hactive, h.count, fun hnone => ?_, ?_, ?_⟩
  · rw [h.count, hactive, hnone]
    rfl
  · intro max id max' timeoutSecs now probe hdesk
    have hfits := h.desk
    rw [hdesk] at hfits
    dsimp only [step]
    rw [dispatchStep, hdesk]
    exact hfits.1
  · rintro id ⟨pass, byWhom, reason, hpass | hpass, hstage⟩
    · have hfits := h.desk
      rw [hpass] at hfits
      rw [hfits.2.1]
      exact Finset.notMem_empty id
    · exact hm.sweep pass hpass id (by rw [hstage]; rfl)

omit [UnicodeTables] in
lemma staffed_start {b : Board} (hb : b.state.Housed) : (start b).Staffed :=
  ⟨hb, List.nodup_nil, nofun, nofun, rfl, rfl, rfl⟩

/-- In every run in which no supervised run ends in a panic, and no card is put under supervision
that the sweeper has cleared, the slots are kept. -/
theorem slotsKept_run (b : Board) (hb : b.state.Housed) (events : List Event)
    (h : Run.Meets step Guarded (start b) events) :
    (Run.after step (start b) events).SlotsKept := by
  have hboth : (Run.after step (start b) events).Staffed ∧
      (Run.after step (start b) events).Manned :=
    h.invariant (I := fun f => f.Staffed ∧ f.Manned)
      (fun f e hf hguard => ⟨staffed_step hf.1 e, manned_step hf.2 hguard⟩)
      ⟨staffed_start hb, manned_of_empty rfl rfl⟩
  exact slotsKept hboth.1 hboth.2

end Unicode

/-! ## A run that panics -/

/-- The supervisor starts on a new board. -/
def onNewBoard : Fleet :=
  start (Board.new Schema.default (fun _ _ => 0) fun _ => true)

/-- A step of the first task, with one slot. -/
def tick : Event := .dispatch 1 60 0 (.error "timed out")

/-- A queued Task is claimed, and an agent is started for it. -/
def startedRun : List Event :=
  [.operation (.create ⟨none, "Docs", "", none, .human, false, none⟩),
    .operation (.createTask 1 "Docs pages" "Docs" "Docs done" [] none true),
    .operation (.enqueueDispatch 3), .unreachable] ++ List.replicate 7 tick ++
    [.run 0 (.choose false), .run 0 .create, .run 0 .start]

/-- The card of a run, and the agent that it watches. -/
def SupervisedRun.watched (r : SupervisedRun) : ItemId × Option Process :=
  (r.id, match r.phase with
    | .watching agent => agent
    | _ => none)

/-- What the runs watch, the slots that are taken, and the card. -/
def glance (f : Fleet) :
    List (ItemId × Option Process) × ℕ × Option (State × Option String × Bool) :=
  (f.runs.map SupervisedRun.watched, f.inFlight,
    f.board.state.items[3]?.map fun c => (c.state, c.environment, c.isInitialPlanTask))

/-- A glance that shows one run shows its task. -/
lemma run_of_glance {f : Fleet} {id : ItemId} {agent : Process} {count : ℕ}
    {card : Option (State × Option String × Bool)}
    (h : glance f = ([(id, some agent)], count, card)) :
    ∃ r, f.runs = [r] ∧ r.id = id ∧ r.phase = .watching (some agent) := by
  obtain ⟨r, hruns, hr⟩ := List.map_eq_singleton_iff.1 (Prod.ext_iff.1 h).1
  refine ⟨r, hruns, (Prod.ext_iff.1 hr).1, ?_⟩
  have hphase := (Prod.ext_iff.1 hr).2
  revert hphase
  rw [SupervisedRun.watched]
  cases r.phase with
  | watching agent => exact fun hagent => by rw [show agent = _ from hagent]
  | _ => exact nofun

set_option maxRecDepth 100000 in
lemma glance_startedRun :
    let := asciiTables
    glance (Run.after step onNewBoard startedRun) =
      ([(3, some ⟨"sb-card-3-a1", 0⟩)], 1, some (.claimed, some "sb-card-3-a1", false)) := by
  decide +kernel

/-- Neither the sweeper nor the accounting takes part. -/
def Event.isQuiet : Event → Bool
  | .swept _ | .run _ (.account _) => false
  | _ => true

/-- The sweeper rests until it lists the sandboxes. -/
lemma sweep_none_step [UnicodeTables] {f : Fleet} (hnone : f.sweep = none) {e : Event}
    (he : Event.isQuiet e = true) : (f.step e).sweep = none := by
  cases e with
  | operation op =>
    dsimp only [step]
    split <;> exact hnone
  | restart => rfl
  | unreachable | listed =>
    dsimp only [step]
    split <;> exact hnone
  | dispatch max timeoutSecs now probe =>
    dsimp only [step]
    unfold dispatchStep
    split <;> first | exact hnone | (split <;> exact hnone)
  | swept names => cases he
  | sweep timeoutSecs now probe =>
    dsimp only [step]
    rw [hnone]
    exact hnone
  | run i turn =>
    dsimp only [step]
    split
    · exact hnone
    · rename_i r hr
      rw [(runTurn_cases hr turn).2.1]
      exact hnone
  | appears name item agent =>
    dsimp only [step]
    split
    · exact hnone
    · split <;> exact hnone
  | vanishes name => exact hnone

/-- While the sweeper rests and nothing is accounted for, every step is guarded. -/
lemma meets_guarded [UnicodeTables] {f : Fleet} (hnone : f.sweep = none) {events : List Event}
    (hquiet : events.all Event.isQuiet = true) : Run.Meets step Guarded f events := by
  induction events generalizing f with
  | nil => trivial
  | cons e events ih =>
    rw [List.all_cons, Bool.and_eq_true] at hquiet
    refine ⟨?_, ih (sweep_none_step hnone hquiet.1) hquiet.2⟩
    have he := hquiet.1
    unfold Guarded
    split
    · cases he
    · intro max id pass _ hpass
      cases hnone.symm.trans hpass
    · trivial

lemma housed_new : (Board.new Schema.default (fun _ _ => 0) fun _ => true).state.Housed where
  id _ _ hc := by cases hc
  own _ _ _ hc := by cases hc

/-- The slots of the supervisor while the first run is watched. -/
theorem slotsKept_run_started :
    let := asciiTables
    (Run.after step onNewBoard startedRun).inFlight = 1 ∧
      (Run.after step onNewBoard startedRun).SlotsKept := by
  intro tables
  exact ⟨(Prod.ext_iff.1 (Prod.ext_iff.1 glance_startedRun).2).1,
    slotsKept_run _ housed_new startedRun (meets_guarded rfl rfl)⟩

/-- A character of two bytes, and then `n` of one byte each. -/
def cutText (n : ℕ) : String := String.ofList ('é' :: List.replicate n 'a')

lemma trim_cutText (n : ℕ) : trim (cutText n) = cutText n := by
  refine trim_eq_self (fun c hc => ?_) (fun c hc => ?_)
  · rw [cutText, String.toList_ofList, List.head?_cons] at hc
    rw [← Option.some.inj hc]
    decide
  · rw [cutText, String.toList_ofList] at hc
    rcases List.mem_cons.1 (List.mem_of_getLast? hc) with rfl | hmem
    · decide
    · rw [List.eq_of_mem_replicate hmem]
      decide

/-- Where the last bytes start inside the first character, there is no excerpt. -/
lemma outerr_cutText (n : ℕ) (code : Int32) (hn : n + 1 = 500) :
    outerr ⟨code, cutText n, ""⟩ = .error .panic := by
  have hblank : isBlank (cutText n) = false := by
    rw [isBlank, cutText, String.toList_ofList, List.all_cons]
    rfl
  have hempty : trim "" = "" := by decide
  have hlength : byteLength (cutText n) = n + 2 := by
    rw [byteLength, cutText, String.toList_ofList, List.map_cons, List.map_replicate,
      List.sum_cons, List.sum_replicate]
    change 2 + n * 1 = n + 2
    omega
  have hdrop : dropBytes (n + 2 - 500) (cutText n).toList = none := by
    have hone : n + 2 - 500 = 1 := by omega
    rw [hone, cutText, String.toList_ofList]
    rfl
  unfold outerr
  dsimp only
  rw [hblank, hempty, if_neg Bool.false_ne_true, trim_cutText]
  change tail (cutText n) 500 = _
  unfold tail
  dsimp only
  rw [trim_cutText, hlength, if_neg (by omega), hdrop]

/-- A run without a verdict panics over an excerpt that cannot be cut. -/
lemma run_finish_panic [UnicodeTables] {w : Answers} {id : ItemId} {agentId branch : String}
    {run : Output} {b : Board} (hverdict : w.noVerdict = true) (hok : run.ok = false)
    (hinitial : b.state.items[id]?.any WorkItem.isInitialPlanTask = false)
    (hcut : outerr run = .error .panic) :
    (Supervisor.finish w id agentId branch run).run b = (.error .panic, b) := by
  rw [run_finish_published hverdict run hinitial, publishRun, hok, Bool.not_false, if_pos rfl,
    failedWith, hcut]
  rfl

/-- The task of a run whose end panics is gone; its slot is not. -/
lemma panicked_step [UnicodeTables] {f : Fleet} {r : SupervisedRun} {agent : Option Process}
    {w : Answers} {run : Output} {maxAttempts : UInt32} (hruns : f.runs = [r])
    (hphase : r.phase = .watching agent)
    (hpanic : (Supervisor.finish w r.id r.agentId (cardBranchName r.id) run).run f.board =
      (.error .panic, f.board)) :
    let f' := (f.step (.run 0 (.finish w run))).step (.run 0 (.account maxAttempts))
    f'.runs = [] ∧ f'.inFlight = f.inFlight := by
  have hfirst : f.step (.run 0 (.finish w run)) =
      f.setRun 0 { r with phase := .finished agent (.error .panic) } := by
    simp [step, runTurn, setRun, hruns, hphase, hpanic]
  rw [hfirst]
  simp [step, runTurn, accountFor, setRun, hruns]

/-- The end of a run panics: there is no run left, and its slot is taken. -/
lemma not_slotsKept_of_panic [UnicodeTables] {f : Fleet} {agent : Process}
    {card : Option (State × Option String × Bool)}
    (hglance : glance f = ([(3, some agent)], 1, card)) {w : Answers} {run : Output}
    {maxAttempts : UInt32}
    (hpanic : ∀ r, f.runs = [r] → r.id = 3 →
      (Supervisor.finish w r.id r.agentId (cardBranchName r.id) run).run f.board =
        (.error .panic, f.board)) :
    ¬((f.step (.run 0 (.finish w run))).step (.run 0 (.account maxAttempts))).SlotsKept := by
  intro hkept
  obtain ⟨r, hruns, hid, hphase⟩ := run_of_glance hglance
  obtain ⟨hnone, hfull⟩ := panicked_step hruns hphase (hpanic r hruns hid)
  have hidle := hkept.idle hnone
  have hcount : f.inFlight = 1 := (Prod.ext_iff.1 (Prod.ext_iff.1 hglance).2).1
  rw [hfull, hcount] at hidle
  cases hidle

/-- What the agent of the failing run printed. -/
def uncuttable : Output := ⟨1, cutText 499, ""⟩

/-- The agent of the run fails, and what it printed cannot be cut. -/
def panickedRun : List Event :=
  startedRun ++ [.run 0 (.finish publishing uncuttable), .run 0 (.account 3)]

/-- The run has ended in a panic: there is no run, and one slot is taken. -/
theorem not_slotsKept_panickedRun :
    let := asciiTables
    ¬(Run.after step onNewBoard panickedRun).SlotsKept := by
  intro tables
  rw [panickedRun, Run.after_append, Run.after_cons, Run.after_cons, Run.after_nil]
  have hglance := glance_startedRun
  refine not_slotsKept_of_panic hglance fun r hruns hid => ?_
  obtain ⟨c, hc, hcard⟩ :=
    Option.map_eq_some_iff.1 (Prod.ext_iff.1 (Prod.ext_iff.1 hglance).2).2
  refine run_finish_panic (by decide +kernel) rfl ?_ (outerr_cutText 499 1 rfl)
  rw [hid, hc]
  exact (Prod.ext_iff.1 (Prod.ext_iff.1 hcard).2).2

end Fleet

end Supervisor

end Sandboard

import Mathlib.Data.Finset.Card
import Sandboard.Library.Run
import Sandboard.Supervisor.Adoption

/-!
# The fleet: every card under supervision

One process of the supervisor has a task that adopts at start and dispatches after that, a task that
sweeps, and one task for each run.  `Fleet` is what they share (the board, the set of active cards,
the counter of runs in flight) with where each task stands, next to the sandboxes, which outlive the
process.  `Fleet.step` takes one task from one lock to the next, so that a list of events is an
interleaving of the tasks with calls of board methods, with restarts, and with what happens to the
sandboxes.  What a sandbox answers is part of the event.

The end of a run is settled in one step: what it writes on the board is written by board methods,
and these may come between any other two steps too.
-/

namespace Sandboard

open Std Text

namespace Supervisor

/-! ## Sandboxes -/

/-- An agent: the sandbox that it was started in, and its number there. -/
structure Process where
  sandbox : String
  number : ℕ
  deriving DecidableEq

/-- A sandbox that is up. -/
structure Sandbox where
  /-- The card on the label. -/
  item : Option ItemId
  /-- The last agent that was started in it.  Its files stay when it ends. -/
  agent : Option ℕ

/-- A sandbox of a card, as the gateway lists it. -/
structure Listed where
  name : String
  item : ItemId

/-! ## Reconciling -/

/-- What a pass over the listed sandboxes does next. -/
inductive Stage where
  | next
  | reap (name : String)
  /-- The card was read, and the sandbox is kept. -/
  | kept (sb : Listed) (card : Option WorkItem)
  /-- The card is not active. -/
  | free (sb : Listed) (card : Option WorkItem)
  | probing (sb : Listed) (item : WorkItem)
  | requeue (id : ItemId) (byWhom reason : String)

/-- A pass over the listed sandboxes. -/
structure Pass where
  left : List Listed
  adopted : List Adoption
  stage : Stage

/-- A pass that starts. -/
def Pass.over (left : List Listed) : Pass := ⟨left, [], .next⟩

/-- Why a card is requeued whose sandbox has no agent. -/
def noAgentReason : String := "sandboard restarted and found no live agent in the sandbox"

section Unicode

variable [UnicodeTables]

/-- The first heartbeat of an adopted run, and a line in the story. -/
def attach (item : WorkItem) (a : Adoption) (b : Board) : Board :=
  (b.exec (.heartbeat a.itemId a.agentId item.progress 0)).exec
    (.story a.itemId
      s!"sandboard restarted; picked {a.sandbox} back up rather than killing it.")

/-- One step of `reconcile`: the pass, the board and the sandbox to delete.  At start, `reopen`
holds. -/
def Pass.advance (reopen : Bool) (active : Finset ItemId) (timeoutSecs : ℤ) (now : Time)
    (probe : Except String Output) (b : Board) (p : Pass) : Pass × Board × Option String :=
  match p.stage with
  | .next =>
    match p.left with
    | [] => (p, b, none)
    | sb :: left =>
      let card := b.state.items[sb.item]?.map b.state.populateBlockers
      if shouldKeepSandbox card sb.name then
        ({ p with left := left, stage := .kept sb card }, b, none)
      else ({ p with left := left, stage := .reap sb.name }, b, none)
  | .reap name => ({ p with stage := .next }, b, some name)
  | .kept sb card =>
    ({ p with stage := if sb.item ∈ active then .next else .free sb card }, b, none)
  | .free sb card =>
    let (card, b) := if reopen then reopenFor card sb.name timeoutSecs b else (card, b)
    match adoptable card sb.name with
    | none => ({ p with stage := .next }, b, none)
    | some item =>
      if item.runDeadlineAt.any fun d => now > d then
        ({ p with stage := .requeue sb.item "deadline-sweeper" "run deadline exceeded" }, b, none)
      else ({ p with stage := .probing sb item }, b, none)
  | .probing sb item =>
    match adoption item sb.name probe with
    | some a =>
      ({ p with adopted := p.adopted ++ [a], stage := .next }, attach item a b, none)
    | none =>
      ({ p with stage := .requeue sb.item "supervisor" noAgentReason }, b, none)
  | .requeue id byWhom reason =>
    ({ p with stage := .next }, b.exec (.transition id .backlog byWhom (some reason)), none)

end Unicode

/-! ## Tasks -/

/-- Where the task stands that adopts at start and dispatches after that. -/
inductive Desk where
  /-- Waiting for the gateway. -/
  | starting
  | reconciling (pass : Pass)
  /-- The adopted runs are put under supervision, one after the other. -/
  | supervising (left : List Adoption)
  /-- Between two ticks. -/
  | waiting
  -- A tick that found a free slot, with the bound it read.
  | queueing (max : ℕ)
  | listing (max : ℕ)
  | choosing (max : ℕ) (awaiting : List ItemId)
  | claiming (max : ℕ) (id : ItemId)
  | claimed (max : ℕ) (id : ItemId)

/-- How far a run is. -/
inductive Phase where
  /-- A claimed card without a sandbox yet. -/
  | claimed
  /-- The sandbox has a name, and is to be created. -/
  | named
  /-- The sandbox is up, and set up. -/
  | ready
  /-- An adopted run that is not watched yet. -/
  | adopted
  /-- The log of the agent is followed. -/
  | watching (agent : Option Process)
  /-- The work is over. -/
  | finished (agent : Option Process) (result : Except Abort Unit)
  /-- The outcome is accounted for; the slot is still taken. -/
  | accounted

/-- The task of a run. -/
structure SupervisedRun where
  id : ItemId
  agentId : String
  sandbox : Option String
  phase : Phase

/-- The supervisor and the sandboxes. -/
structure Fleet where
  board : Board
  sandboxes : ExtTreeMap String Sandbox
  desk : Desk
  /-- The pass of the sweeper, when it is on one. -/
  sweep : Option Pass
  runs : List SupervisedRun
  /-- The cards that this process supervises. -/
  active : Finset ItemId
  inFlight : ℕ
  /-- Agents started so far. -/
  agents : ℕ
  /-- The agents whose outcome was applied to the board, oldest first. -/
  applied : List Process

/-- A step of the task of a run. -/
inductive RunTurn where
  /-- The card is parked for a missing GitHub App. -/
  | park
  /-- Choose the sandbox: the one that the card has when it is live, else a new one. -/
  | choose (live : Bool)
  | create
  /-- Start the agent. -/
  | start
  /-- Follow the log of an adopted run. -/
  | follow
  /-- The log ended with the output `run`; settle the run. -/
  | finish (answers : Answers) (run : Output)
  /-- A step of the run failed. -/
  | stop (e : Abort)
  /-- Account for the outcome. -/
  | account (maxAttempts : UInt32)
  /-- Free the slot. -/
  | release

/-- What happens next. -/
inductive Event where
  /-- A board method is called, by a human, an agent or the supervisor. -/
  | operation (op : Operation)
  /-- The process ends, and another one starts. -/
  | restart
  /-- At start, the sandboxes cannot be listed. -/
  | unreachable
  /-- At start, the sandboxes are listed. -/
  | listed (names : List String)
  /-- A step of the first task; `max` is the configured number of runs. -/
  | dispatch (max : ℕ) (timeoutSecs : ℤ) (now : Time) (probe : Except String Output)
  /-- The sweeper lists the sandboxes. -/
  | swept (names : List String)
  /-- A step of the sweeper. -/
  | sweep (timeoutSecs : ℤ) (now : Time) (probe : Except String Output)
  /-- A step of the task at place `i`. -/
  | run (i : ℕ) (turn : RunTurn)
  /-- A sandbox comes up that no run created. -/
  | appears (name : String) (item : Option ItemId) (agent : Bool)
  | vanishes (name : String)

namespace Fleet

/-- The supervisor starts on a board, without sandboxes. -/
def start (b : Board) : Fleet where
  board := b
  sandboxes := ∅
  desk := .starting
  sweep := none
  runs := []
  active := ∅
  inFlight := 0
  agents := 0
  applied := []

/-- The process ends, and another one starts. -/
def restarted (f : Fleet) : Fleet :=
  { f with desk := .starting, sweep := none, runs := [], active := ∅, inFlight := 0 }

/-- The sandboxes of cards, as the gateway lists them. -/
def listing (f : Fleet) (names : List String) : List Listed :=
  names.dedup.filterMap fun name => do
    let sandbox ← f.sandboxes[name]?
    let item ← sandbox.item
    return ⟨name, item⟩

/-- Take a slot, and put a run under supervision. -/
def supervise (f : Fleet) (r : SupervisedRun) : Fleet :=
  { f with inFlight := f.inFlight + 1, active := insert r.id f.active, runs := f.runs ++ [r] }

/-- The run at place `i` goes on. -/
def setRun (f : Fleet) (i : ℕ) (r : SupervisedRun) : Fleet :=
  { f with runs := f.runs.set i r }

/-- The sandbox is deleted, when there is one to delete. -/
def without (f : Fleet) (gone : Option String) : Fleet :=
  { f with sandboxes := gone.elim f.sandboxes f.sandboxes.erase }

/-- The sandbox `name` is up with a new agent. -/
def withAgent (f : Fleet) (name : String) (item : Option ItemId) : Fleet :=
  { f with sandboxes := f.sandboxes.insert name ⟨item, some f.agents⟩, agents := f.agents + 1 }

/-- The outcome of the agent was applied to the board. -/
def apply (f : Fleet) (agent : Option Process) : Fleet :=
  { f with applied := f.applied ++ agent.toList }

/-- The board no longer has the card in a run. -/
def ensureBoardOwnsRun (b : Board) (id : ItemId) : Except Abort Unit :=
  match b.state.items[id]? with
  | none => .error (.error s!"run cancelled: card #{id} gone from the board")
  | some item =>
    if boardStillOwnsRun item.state then .ok ()
    else
      .error (.error
        s!"run cancelled: card left {item.state.debug} (deadline exceeded or halted)")

section Unicode

variable [UnicodeTables]

/-- Choose the sandbox of a claimed run. -/
def chooseSandbox (f : Fleet) (i : ℕ) (r : SupervisedRun) (live : Bool) : Fleet :=
  let env := f.board.state.items[r.id]?.bind WorkItem.environment
  match env.filter fun name => live && f.sandboxes.contains name with
  | some name => f.setRun i { r with sandbox := some name, phase := .ready }
  | none =>
    let attempt := (f.board.state.items[r.id]?.map fun c => c.runFailures + 1).getD 1
    let name := cardSandboxName r.id attempt
    -- The sandbox of the previous attempt is dropped before the card gets the new name.
    let f := f.without (env.filter fun prev => prev != name)
    match ensureBoardOwnsRun f.board r.id with
    | .error e => f.setRun i { r with phase := .finished none (.error e) }
    | .ok () =>
      { f with
        board := (f.board.exec (.setConversationId r.id none)).exec
          (.setEnvironment r.id (some name)) }.setRun i
        { r with sandbox := some name, phase := .named }

/-- Account for the outcome of a run; a panic has taken the task down before that. -/
def accountFor (f : Fleet) (i : ℕ) (r : SupervisedRun) (agent : Option Process)
    (result : Except Abort Unit) (maxAttempts : UInt32) : Fleet :=
  let done := f.setRun i { r with phase := .accounted }
  match result with
  | .ok () => { done with board := f.board.exec (.clearRunFailures r.id) }
  | .error .panic => { f with runs := f.runs.eraseIdx i }
  | .error (.error msg) =>
    if isSupervisorCancel msg then done
    else if isSupervisorDetach msg then done
    else if isInfrastructure msg then
      { done with board := f.board.exec (.releaseWithReason r.id r.agentId none) }
    else
      { done with board := f.board.exec (.recordRunFailure r.id msg maxAttempts) }.apply agent

/-- One step of the task at place `i`. -/
def runTurn (f : Fleet) (i : ℕ) (r : SupervisedRun) (turn : RunTurn) : Fleet :=
  match turn, r.phase with
  | .park, .claimed | .park, .adopted => f.setRun i { r with phase := .finished none (.ok ()) }
  | .choose live, .claimed => f.chooseSandbox i r live
  | .create, .named =>
    match r.sandbox with
    | none => f
    | some name =>
      { f with sandboxes := f.sandboxes.insert name ⟨some r.id, none⟩ }.setRun i
        { r with phase := .ready }
  | .start, .ready =>
    match r.sandbox.bind fun name => f.sandboxes[name]?.map fun sandbox => (name, sandbox) with
    | none => f
    | some (name, sandbox) =>
      (f.withAgent name sandbox.item).setRun i
        { r with phase := .watching (some ⟨name, f.agents⟩) }
  | .follow, .adopted =>
    match r.sandbox.bind fun name => f.sandboxes[name]?.map fun sandbox => (name, sandbox) with
    | none => f
    | some (name, sandbox) =>
      f.setRun i { r with phase := .watching (sandbox.agent.map fun n => ⟨name, n⟩) }
  | .finish answers run, .watching agent =>
    match (Supervisor.finish answers r.id r.agentId (cardBranchName r.id) run).run f.board with
    | (.ok (), b) =>
      ({ f with board := b }.setRun i { r with phase := .finished agent (.ok ()) }).apply agent
    | (.error e, b) =>
      { f with board := b }.setRun i { r with phase := .finished agent (.error e) }
  | .stop e, .watching agent => f.setRun i { r with phase := .finished agent (.error e) }
  | .stop e, .claimed | .stop e, .named | .stop e, .ready | .stop e, .adopted =>
    f.setRun i { r with phase := .finished none (.error e) }
  | .account maxAttempts, .finished agent result => f.accountFor i r agent result maxAttempts
  | .release, .accounted =>
    { f with
      active := f.active.erase r.id
      inFlight := f.inFlight - 1
      runs := f.runs.eraseIdx i }
  | _, _ => f

/-- One step of the task that adopts at start and dispatches after that. -/
def dispatchStep (f : Fleet) (max : ℕ) (timeoutSecs : ℤ) (now : Time)
    (probe : Except String Output) : Fleet :=
  match f.desk with
  | .starting => f
  | .reconciling ⟨[], adopted, .next⟩ => { f with desk := .supervising adopted }
  | .reconciling pass =>
    -- Nothing is supervised yet: the set of active cards of this pass is empty.
    let (pass, b, gone) := pass.advance true ∅ timeoutSecs now probe f.board
    { f.without gone with board := b, desk := .reconciling pass }
  | .supervising [] => { f with desk := .waiting }
  | .supervising (a :: left) =>
    { f.supervise ⟨a.itemId, a.agentId, some a.sandbox, .adopted⟩ with desk := .supervising left }
  | .waiting => if f.inFlight ≥ max then f else { f with desk := .queueing max }
  | .queueing max => { f with board := f.board.exec .autoEnqueueAll, desk := .listing max }
  | .listing max =>
    { f with desk := .choosing max (f.board.state.listAwaitingDispatch.map WorkItem.id) }
  | .choosing _ [] => { f with desk := .waiting }
  | .choosing max (id :: awaiting) =>
    if id ∈ f.active || f.board.state.items[id]?.any WorkItem.parked then
      { f with desk := .choosing max awaiting }
    else { f with desk := .claiming max id }
  | .claiming max id =>
    match (Board.claim id s!"sandbox-{id}" none timeoutSecs).run f.board with
    | (.ok _, b) => { f with board := b, desk := .claimed max id }
    | (.error _, b) => { f with board := b, desk := .waiting }
  | .claimed _ id =>
    { f.supervise ⟨id, s!"sandbox-{id}", none, .claimed⟩ with desk := .waiting }

/-- The sweeper is at work once the adopted runs are under supervision. -/
def sweeps : Desk → Bool
  | .starting | .reconciling _ | .supervising _ => false
  | _ => true

/-- One step. -/
def step (f : Fleet) : Event → Fleet
  -- Only a run writes the sandbox of a card.
  | .operation op => if op.housesCard then f else { f with board := f.board.exec op }
  | .restart => f.restarted
  | .unreachable =>
    match f.desk with
    | .starting => { f with desk := .supervising [] }
    | _ => f
  | .listed names =>
    match f.desk with
    | .starting => { f with desk := .reconciling (.over (f.listing names)) }
    | _ => f
  | .dispatch max timeoutSecs now probe => f.dispatchStep max timeoutSecs now probe
  | .swept names =>
    if sweeps f.desk && f.sweep.isNone then
      { f with sweep := some (.over (f.listing names)) }
    else f
  | .sweep timeoutSecs now probe =>
    match f.sweep with
    | none => f
    | some ⟨[], _, .next⟩ => { f with sweep := none }
    | some pass =>
      let (pass, b, gone) := pass.advance false f.active timeoutSecs now probe f.board
      { f.without gone with board := b, sweep := some pass }
  | .run i turn =>
    match f.runs[i]? with
    | none => f
    | some r => f.runTurn i r turn
  | .appears name item agent =>
    if f.sandboxes.contains name then f
    else if agent then f.withAgent name item
    else { f with sandboxes := f.sandboxes.insert name ⟨item, none⟩ }
  | .vanishes name => { f with sandboxes := f.sandboxes.erase name }

end Unicode

end Fleet

end Supervisor

end Sandboard

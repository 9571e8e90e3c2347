import Sandboard.Store.AgentVerbs
import Sandboard.Store.Grants
import Sandboard.Supervisor.Environments

/-!
# Sandboxes and the cards they belong to

A sandbox carries the id of its card in its name and in a label.  When the supervisor starts, it
looks at every sandbox that is up: the card decides whether the sandbox is kept, whether the run in
it is adopted, and whether a card in Backlog is reopened for that.
-/

namespace Sandboard

open Text

/-! ## Names -/

/-- The names of the sandboxes of a card start so. -/
def cardSandboxStem (id : ItemId) : String := s!"sb-card-{id}-"

/-- The names of older sandboxes of a card start so. -/
def legacyCardSandboxStem (id : ItemId) : String := s!"sandboard-card-{id}-"

/-- The sandbox of an attempt. -/
def cardSandboxName (id : ItemId) (attempt : UInt32) : String := s!"sb-card-{id}-a{attempt}"

/-- The branch of a card. -/
def cardBranchName (id : ItemId) : String := s!"sandboard/card-{id}"

/-- The name is that of a sandbox of the card. -/
def isCardSandbox (id : ItemId) (name : String) : Bool :=
  startsWith (cardSandboxStem id) name || startsWith (legacyCardSandboxStem id) name

/-- The id in the name of a sandbox. -/
def cardOfSandbox (name : String) : Option ItemId :=
  ((stripPrefix "sb-card-" name).or (stripPrefix "sandboard-card-" name)).bind fun rest =>
    readDigits (rest.toList.takeWhile Char.isDigit)

lemma readDigits_takeWhile (id : ItemId) (rest : List Char) :
    readDigits (((toString id).toList ++ '-' :: rest).takeWhile Char.isDigit) = some id := by
  rw [List.takeWhile_append_of_pos fun c hc => isDigit_of_mem_toString hc,
    List.takeWhile_cons_of_neg (by decide), List.append_nil, readDigits_toString]

/-- A name that starts with the id after the first of the two stems, or after the second. -/
lemma cardOfSandbox_eq {id : ItemId} {name : String} {rest : List Char}
    (h : name.toList = "sb-card-".toList ++ ((toString id).toList ++ '-' :: rest) ∨
      name.toList = "sandboard-card-".toList ++ ((toString id).toList ++ '-' :: rest)) :
    cardOfSandbox name = some id := by
  rw [cardOfSandbox, stripPrefix, stripPrefix]
  rcases h with h | h
  · rw [h, afterPrefix_append, Option.map_some, Option.some_or, Option.bind_some,
      String.toList_ofList, readDigits_takeWhile]
  · have hclash : clash "sb-card-".toList "sandboard-card-".toList = true := by decide
    rw [h, afterPrefix_of_clash (clash_append hclash _), afterPrefix_append, Option.map_none,
      Option.none_or, Option.map_some, Option.bind_some, String.toList_ofList,
      readDigits_takeWhile]

/-- A name belongs to one card only. -/
lemma cardOfSandbox_of_isCardSandbox {id : ItemId} {name : String}
    (h : isCardSandbox id name = true) : cardOfSandbox name = some id := by
  have hstem : ∀ head : String, (head ++ toString id ++ "-").toList =
      head.toList ++ ((toString id).toList ++ ['-']) := fun head => by
    rw [String.toList_append, String.toList_append, List.append_assoc]
    rfl
  rw [isCardSandbox, Bool.or_eq_true, startsWith, startsWith, Option.isSome_iff_exists,
    Option.isSome_iff_exists] at h
  rcases h with ⟨rest, hrest⟩ | ⟨rest, hrest⟩
  · have hname := afterPrefix_eq_some_iff.1 hrest
    rw [cardSandboxStem, show s!"sb-card-{id}-" = "sb-card-" ++ toString id ++ "-" from rfl,
      hstem, List.append_assoc, List.append_assoc] at hname
    exact cardOfSandbox_eq (.inl hname)
  · have hname := afterPrefix_eq_some_iff.1 hrest
    rw [legacyCardSandboxStem,
      show s!"sandboard-card-{id}-" = "sandboard-card-" ++ toString id ++ "-" from rfl,
      hstem, List.append_assoc, List.append_assoc] at hname
    exact cardOfSandbox_eq (.inr hname)

lemma isCardSandbox_cardSandboxName (id : ItemId) (attempt : UInt32) :
    isCardSandbox id (cardSandboxName id attempt) = true := by
  have hname : (cardSandboxName id attempt).toList =
      (cardSandboxStem id).toList ++ ("a" ++ toString attempt).toList := by
    rw [← String.toList_append, cardSandboxName, cardSandboxStem]
    simp only [String.toList_append]
    simp
    rfl
  rw [isCardSandbox, startsWith, hname, afterPrefix_append]
  rfl

/-- Every card of the board has its own id, and no sandbox or one of its own. -/
structure BoardState.Housed (s : BoardState) : Prop where
  id : ∀ (k : ItemId) (c : WorkItem), s.items[k]? = some c → c.id = k
  own : ∀ (k : ItemId) (c : WorkItem) (name : String), s.items[k]? = some c →
    c.environment = some name → isCardSandbox k name = true

/-- A method that keeps the sandboxes keeps every card with its own. -/
lemma BoardState.KeepsEnvironments.housed {s s' : BoardState} (h : KeepsEnvironments s s')
    (hs : s.Housed) : s'.Housed where
  id k c' hc' := by
    rcases h.card k c' hc' with ⟨hid, -⟩ | ⟨c, hc, hid, -⟩
    · exact hid
    · exact hid.trans (hs.id k c hc)
  own k c' name hc' henv := by
    rcases h.card k c' hc' with ⟨-, hnone⟩ | ⟨c, hc, -, hsame | hnone⟩
    · cases hnone.symm.trans henv
    · exact hs.own k c name hc (hsame.symm.trans henv)
    · cases hnone.symm.trans henv

/-- A card is put into a sandbox of its own. -/
lemma Board.housed_setEnvironment [UnicodeTables] {b : Board} {id : ItemId} {name : String}
    (hb : b.state.Housed) (hname : isCardSandbox id name = true) :
    (b.exec (.setEnvironment id (some name))).state.Housed := by
  have hrun : (b.exec (.setEnvironment id (some name))).state =
      ((editIf id (fun _ => true) (WorkItem.inSandbox (some name)) : Method Empty Unit).run b).2.state :=
    rfl
  cases hc : b.state.items[id]? with
  | none =>
    have hstate : (b.exec (.setEnvironment id (some name))).state = b.state := by
      rw [hrun]
      simp [editIf, hc]
    rw [hstate]
    exact hb
  | some c =>
    have hstate : (b.exec (.setEnvironment id (some name))).state =
        b.state.editItem id (WorkItem.inSandbox (some name)) := by
      rw [hrun]
      simp [editIf, hc]
    rw [hstate]
    refine ⟨fun k c' hc' => ?_, fun k c' name' hc' henv => ?_⟩
    · rw [BoardState.items_editItem] at hc'
      split at hc'
      · obtain ⟨c₀, hc₀, rfl⟩ := Option.map_eq_some_iff.1 hc'
        exact hb.id k c₀ hc₀
      · exact hb.id k c' hc'
    · rw [BoardState.items_editItem] at hc'
      split at hc'
      · rename_i hk
        obtain ⟨c₀, hc₀, rfl⟩ := Option.map_eq_some_iff.1 hc'
        cases henv
        rw [hk]
        exact hname
      · exact hb.own k c' name' hc' henv

namespace Supervisor

/-! ## What the card decides -/

/-- Whether the sandbox is kept: the card has a sandbox, and this is it or another one of the
card. -/
def shouldKeepSandbox (item : Option WorkItem) (sandbox : String) : Bool :=
  match item with
  | none => false
  | some i =>
    !i.state.isTerminal && i.environment.any fun env => env == sandbox || isCardSandbox i.id sandbox

/-- The board still has the card in a run. -/
def boardStillOwnsRun (state : State) : Bool :=
  state == .claimed || state == .running

/-- The card whose run is in this sandbox. -/
def adoptable (item : Option WorkItem) (sandbox : String) : Option WorkItem :=
  item.filter fun i => boardStillOwnsRun i.state && i.environment == some sandbox

/-- Reopen a card in Backlog that still has this sandbox; the card when it was reopened. -/
def prepareForAdoption {ε : Type} (item : Option WorkItem) (sandbox : String)
    (timeoutSecs : ℤ) : Method ε (Option WorkItem) :=
  match item with
  | none => pure none
  | some item =>
    if item.state ≠ .backlog || item.parked then pure none
    else if item.environment ≠ some sandbox then pure none
    else do
      match ← (Board.reopenForAdoption item.id s!"sandbox-{item.id}" timeoutSecs).attempt with
      | .ok it => return some it
      | .error _ => return none

/-- The card to look at: the one that was reopened, when there is one. -/
def reopenFor (card : Option WorkItem) (sandbox : String) (timeoutSecs : ℤ) (b : Board) :
    Option WorkItem × Board :=
  match (prepareForAdoption card sandbox timeoutSecs : Method Empty _).run b with
  | (.ok (some item), b) => (some item, b)
  | (_, b) => (card, b)

/-- A look at the card reopens it: it is in Backlog with this sandbox, not parked, and a claim would
take it. -/
structure Reopenable (s : BoardState) (c : WorkItem) (sandbox : String) : Prop where
  state : c.state = .backlog
  parked : c.parked = false
  environment : c.environment = some sandbox
  claim : ∃ c₀, s.PassesClaim c.id c₀

/-- The card that a reopening returns is the one on the board. -/
lemma item_reopenSection {id : ItemId} {agentId : String} {granted deadline now : Time}
    {s s' : BoardState} {item : WorkItem}
    (h : Board.reopenSection id agentId granted deadline now s = (.ok item, s')) :
    s'.items[id]? = some item := by
  unfold Board.reopenSection at h
  split at h
  · cases h
  · split at h
    · cases h
    · split at h
      · cases h
      · unfold BoardState.tryEdit at h
        split at h
        · cases h
        · rename_i it hit
          cases h
          rw [BoardState.items_editItem, if_pos rfl, hit, Option.map_some]

lemma item_reopenForAdoption {id : ItemId} {agentId : String} {timeoutSecs : ℤ} {b b' : Board}
    {item : WorkItem}
    (h : (Board.reopenForAdoption id agentId timeoutSecs).run b = (.ok item, b')) :
    b'.state.items[id]? = some item := by
  unfold Board.reopenForAdoption at h
  rw [Locked.run_bind_ok (Board.run_utcNow b)] at h
  dsimp only at h
  rcases hsection : Board.reopenSection id agentId (b.now 0)
    (b.now 0 + seconds (max timeoutSecs 1)) ((b.stepped b.state).now 0) b.state with ⟨r, s'⟩
  cases r with
  | error e =>
    rw [Locked.run_bind_error (by rw [Board.run_write, Board.stepped_state, hsection])] at h
    cases h
  | ok it =>
    rw [Locked.run_bind_ok (by rw [Board.run_write, Board.stepped_state, hsection])] at h
    cases h
    exact item_reopenSection hsection

/-- A card that a claim would take is reopened, and is Claimed after that. -/
lemma run_reopenForAdoption_of_passes {id : ItemId} {agentId : String} {timeoutSecs : ℤ}
    {b : Board} {c : WorkItem} (hc : b.state.PassesClaim id c) :
    ∃ item b', (Board.reopenForAdoption id agentId timeoutSecs).run b = (.ok item, b') ∧
      ∃ c', b'.state.items[id]? = some c' ∧ c'.state = .claimed := by
  obtain ⟨hitem, hparked, hcheck⟩ := hc
  obtain ⟨hstate, -, -⟩ := check_claimed_iff.1 hcheck
  let why := some "reopened for sandbox re-adoption after supervisor restart"
  let now := (b.stepped b.state).now 0
  have hmoved : (b.state.moveItem id c now .claimed "supervisor" why).items[id]? =
      some (c.moved now .claimed "supervisor" why) := by
    rw [BoardState.items_moveItem, if_pos rfl, hitem, Option.map_some]
  have hsection : Board.reopenSection id agentId (b.now 0)
      (b.now 0 + seconds (max timeoutSecs 1)) now b.state =
        (.ok ((c.moved now .claimed "supervisor" why).leased agentId (b.now 0)
          (b.now 0 + seconds (max timeoutSecs 1))),
          (b.state.moveItem id c now .claimed "supervisor" why).editItem id
            (WorkItem.leased agentId (b.now 0) (b.now 0 + seconds (max timeoutSecs 1)))) := by
    simp [Board.reopenSection, hitem, hparked, hstate,
      BoardState.transitionLocked_of_ok hitem hcheck, Board.tryEdit_some hmoved, why]
  unfold Board.reopenForAdoption
  rw [Locked.run_bind_ok (Board.run_utcNow b)]
  dsimp only
  rw [Locked.run_bind_ok (by rw [Board.run_write, Board.stepped_state, hsection])]
  refine ⟨_, _, rfl, _, item_reopenSection hsection, rfl⟩

/-- A reopening that fails leaves the board alone; otherwise a claim would have taken the card. -/
lemma reopened_of_run {id : ItemId} {agentId : String} {timeoutSecs : ℤ} {b b' : Board}
    {r : Except String WorkItem}
    (h : (Board.reopenForAdoption id agentId timeoutSecs).run b = (r, b')) :
    (∃ e, r = .error e ∧ b'.state = b.state) ∨ ∃ item c, r = .ok item ∧
      b.state.PassesClaim id c ∧ b'.state.items[id]? = some item := by
  rcases Board.run_reopenForAdoption_cases id agentId timeoutSecs b with
    ⟨e, b₁, hrun, hstate⟩ | ⟨c, item, why, b₁, hc, hrun, -⟩
  · cases hrun.symm.trans h
    exact .inl ⟨e, rfl, hstate⟩
  · cases hrun.symm.trans h
    exact .inr ⟨item, c, rfl, hc, item_reopenForAdoption hrun⟩

lemma keepsEnvironments_reopenForAdoption (id : ItemId) (agentId : String) (timeoutSecs : ℤ)
    (b : Board) : b.state.KeepsEnvironments
      ((Board.reopenForAdoption id agentId timeoutSecs).run b).2.state := by
  have hS := BoardState.KeepsEnvironments.covers.toShapes
  have hwithin : Within BoardState.KeepsEnvironments
      (Board.reopenForAdoption id agentId timeoutSecs) :=
    Board.within_reopenForAdoption hS.toLax fun s granted deadline now =>
      Board.shaped_reopenSection hS trivial (fun _ => ⟨rfl, .inl rfl⟩) now s
  exact hwithin.run_state hS.refl (fun _ _ _ => hS.trans) b

lemma keepsEnvironments_claim [UnicodeTables] (id : ItemId) (agentId : String)
    (model : Option String) (timeoutSecs : ℤ) (b : Board) :
    b.state.KeepsEnvironments ((Board.claim id agentId model timeoutSecs).run b).2.state := by
  have hS := BoardState.KeepsEnvironments.covers.toShapes
  have hwithin : Within BoardState.KeepsEnvironments
      (Board.claim id agentId model timeoutSecs) :=
    Board.within_claim hS.toLax fun s granted deadline now =>
      Board.shaped_claimSection hS trivial (fun _ => ⟨rfl, .inl rfl⟩) now s
  exact hwithin.run_state hS.refl (fun _ _ _ => hS.trans) b

/-- Nothing happens, or the card is reopened: then it was in Backlog with this sandbox, and what
is returned is the card on the board. -/
lemma run_prepareForAdoption_cases {ε : Type} (card : Option WorkItem) (sandbox : String)
    (timeoutSecs : ℤ) (b : Board) :
    (∃ b', (prepareForAdoption card sandbox timeoutSecs : Method ε _).run b = (.ok none, b') ∧
      b'.state = b.state) ∨
    ∃ c item b', card = some c ∧
      (prepareForAdoption card sandbox timeoutSecs : Method ε _).run b = (.ok (some item), b') ∧
        Reopenable b.state c sandbox ∧ b'.state.items[c.id]? = some item ∧
          b.state.KeepsEnvironments b'.state := by
  cases card with
  | none => exact .inl ⟨b, rfl, rfl⟩
  | some c =>
    unfold prepareForAdoption
    dsimp only
    split
    · exact .inl ⟨b, rfl, rfl⟩
    · rename_i hbacklog
      split
      · exact .inl ⟨b, rfl, rfl⟩
      · rename_i henv
        rw [Bool.or_eq_true, decide_eq_true_iff, not_or, not_not, Bool.not_eq_true] at hbacklog
        have hkeeps := keepsEnvironments_reopenForAdoption c.id s!"sandbox-{c.id}" timeoutSecs b
        rcases hrun : (Board.reopenForAdoption c.id s!"sandbox-{c.id}" timeoutSecs).run b with
          ⟨r, b₁⟩
        have hattempt : ((Board.reopenForAdoption c.id s!"sandbox-{c.id}" timeoutSecs).attempt :
            Method ε _).run b = (.ok r, b₁) := by
          rw [Locked.run_attempt, hrun]
        rw [Locked.run_bind_ok hattempt]
        rw [hrun] at hkeeps
        rcases reopened_of_run hrun with ⟨e, rfl, hstate⟩ | ⟨item, c₀, rfl, hc₀, hitem⟩
        · exact .inl ⟨b₁, rfl, hstate⟩
        · exact .inr ⟨c, item, b₁, rfl, rfl, ⟨hbacklog.1, hbacklog.2, not_not.1 henv, c₀, hc₀⟩,
            hitem, hkeeps⟩

/-- A card that can be reopened is Claimed after that. -/
lemma run_prepareForAdoption_of_reopenable {ε : Type} {c : WorkItem} {sandbox : String}
    {timeoutSecs : ℤ} {b : Board} (h : Reopenable b.state c sandbox) :
    ∃ item b', (prepareForAdoption (some c) sandbox timeoutSecs : Method ε _).run b =
      (.ok (some item), b') ∧ ∃ c', b'.state.items[c.id]? = some c' ∧ c'.state = .claimed := by
  obtain ⟨hbacklog, hparked, henv, c₀, hc₀⟩ := h
  obtain ⟨item, b', hrun, hclaimed⟩ :=
    @run_reopenForAdoption_of_passes c.id s!"sandbox-{c.id}" timeoutSecs b c₀ hc₀
  have hattempt : ((Board.reopenForAdoption c.id s!"sandbox-{c.id}" timeoutSecs).attempt :
      Method ε _).run b = (.ok (.ok item), b') := by
    rw [Locked.run_attempt, hrun]
  unfold prepareForAdoption
  dsimp only
  rw [if_neg (by simp [hbacklog, hparked]), if_neg (by simp [henv]),
    Locked.run_bind_ok hattempt]
  exact ⟨item, b', rfl, hclaimed⟩

/-- The card to look at is the one that was read, or the one that was reopened. -/
lemma reopenFor_cases {card card' : Option WorkItem} {sandbox : String} {timeoutSecs : ℤ}
    {b b' : Board} (h : reopenFor card sandbox timeoutSecs b = (card', b')) :
    (card' = card ∧ b'.state = b.state) ∨ ∃ c item, card = some c ∧ card' = some item ∧
      Reopenable b.state c sandbox ∧ b'.state.items[c.id]? = some item ∧
        b.state.KeepsEnvironments b'.state := by
  unfold reopenFor at h
  rcases run_prepareForAdoption_cases card sandbox timeoutSecs b with
    ⟨b₁, hrun, hstate⟩ | ⟨c, item, b₁, hcard, hrun, hrest⟩
  · rw [hrun] at h
    cases h
    exact .inl ⟨rfl, hstate⟩
  · rw [hrun] at h
    cases h
    exact .inr ⟨c, item, hcard, rfl, hrest⟩

/-! ## The probe -/

def markAlive : String := "SANDBOARD-AGENT-ALIVE"

def markExited : String := "SANDBOARD-AGENT-EXITED"

def markGone : String := "SANDBOARD-AGENT-GONE"

def markLines : String := "SANDBOARD-LOG-LINES="

/-- What a sandbox knows about its agent: there is a status file, the process is alive, or
neither. -/
inductive AgentState where
  | exited
  | alive
  | gone

/-- What the probe prints for an agent and the number of lines in its log. -/
def probeScript (agent : AgentState) (logLines : ℕ) : String :=
  (match agent with
    | .exited => markExited
    | .alive => markAlive
    | .gone => markGone) ++ "\n" ++ markLines ++ toString logLines ++ "\n"

/-- The first log line that was not streamed yet; `none` when there is no run to watch. -/
def probeOf (stdout : String) : Option ℕ :=
  if !contains markAlive stdout && !contains markExited stdout then none
  else do
    let count ← (lines stdout).findSome? (stripPrefix markLines)
    let count ← parseU64 (trim count)
    return count + 1

/-- A run that outlived the process that supervised it. -/
structure Adoption where
  itemId : ItemId
  agentId : String
  sandbox : String
  fromLine : ℕ

/-- The card and the agent of the run that a probe found; the agent is the one of the lease. -/
def adoption (item : WorkItem) (sandbox : String) (probe : Except String Output) :
    Option Adoption := do
  let out ← printedOf probe
  let fromLine ← probeOf out
  return ⟨item.id, (item.lease.map Lease.agentId).getD s!"sandbox-{item.id}", sandbox, fromLine⟩

/-- An adopted run is the one of the card in this sandbox, and the probe showed its agent. -/
lemma adoption_eq_some {item : WorkItem} {sandbox : String} {probe : Except String Output}
    {a : Adoption} (h : adoption item sandbox probe = some a) :
    a.itemId = item.id ∧ a.sandbox = sandbox ∧ (printedOf probe).bind probeOf ≠ none := by
  simp only [adoption, Option.bind_eq_bind, Option.bind_eq_some_iff] at h
  obtain ⟨out, hout, fromLine, hline, ha⟩ := h
  cases ha
  refine ⟨rfl, rfl, ?_⟩
  rw [hout, Option.bind_some, hline]
  nofun

example : (probeOf (probeScript .exited 41), probeOf (probeScript .alive 41),
    probeOf (probeScript .gone 41)) = (some 42, some 42, none) := by
  decide +kernel

end Supervisor

end Sandboard

import Mathlib.Logic.Function.Basic
import Sandboard.Engine
import Sandboard.Library.Json
import Sandboard.Library.Run

/-!
# Which conversations are resumed

The ids of conversations are read from the output of any engine by one parser and stored without
the engine that printed them, and the engine of a profile can change in between.  Three paths
launch an engine: a chat turn, the run of a card, and the interactive attach.  The attach asks
whether the stored id is one of its engine; the other two ask only whether the engine can resume
at all.  They agree with the attach in every run in which no chat turn and no card that keeps its
sandbox meets an id of the wrong shape.
-/

namespace Sandboard

open Text

/-! ## Ids -/

/-- What the code uses of the JSON crate: `serde_json::from_str`. -/
abbrev JsonReader : Type := String → Option Json

/-- The keys of a JSON pointer. -/
def pointerPath (key : String) : List String := (split (· == '/') key).tail

/-- A text without the blanks around it, when there is more. -/
def nonBlank (s : String) : Option String := if isBlank s then none else some (trim s)

/-- `parse_conversation_id`. -/
def parseConversationId (fromStr : JsonReader) (line : String) : Option String :=
  let trimmed := trim line
  match (stripPrefix "session_id:" trimmed).bind nonBlank with
  | some id => some id
  | none =>
    match fromStr trimmed with
    | some v => Engine.allConversationIdPointers.findSome? fun key =>
      ((v.pointer (pointerPath key)).bind Json.asStr).bind nonBlank
    | none => none

/-- `conversation_usable`. -/
def conversationUsable (engine id : String) : Bool :=
  let id := trim id
  if id.isEmpty then false
  else if trim engine = "cursor" then !startsWith "ses_" id
  else if trim engine = "opencode" then startsWith "ses_" id
  else if trim engine = "agy" then true
  else if trim engine = "hermes" then true
  else false

/-! ## The seats -/

/-- The cockpit session. -/
structure CockpitSession where
  /-- It is running and has an environment. -/
  ready : Bool
  conversation : Option String

/-- What the run of a card needs. -/
structure CardSeat where
  engine : String
  conversation : Option String

/-- The seats of the engines. -/
structure Seats where
  /-- What `resolve_cockpit_engine` says. -/
  engine : String
  session : Option CockpitSession
  /-- The chat turns that wait for their lock, each with what it has read before. -/
  pending : List (Option String × String)
  cards : ℕ → CardSeat

/-- How an engine is launched. -/
inductive LaunchPath where
  | chat
  | card
  | attach
  deriving DecidableEq

/-- A launch, with the id that is passed to the engine. -/
structure Launch where
  path : LaunchPath
  engine : String
  passed : Option String
  deriving DecidableEq

/-- The id in the command line: it is only honoured when the engine has a resume flag. -/
def commandLineId (engine : String) (conversationId : Option String) : Option String :=
  match Engine.lookup engine with
  | .ok e => if e.resume.isSome then conversationId else none
  | .error _ => none

/-- The id a chat turn resumes. -/
def turnId (engine : String) (conversationId : Option String) : Option String :=
  commandLineId engine (conversationId.filter fun _ => Engine.supportsResume engine)

/-- The id the run of a card resumes. -/
def cardId (engine : String) (isReused : Bool) (conversationId : Option String) : Option String :=
  let resume := isReused && Engine.supportsResume engine && conversationId.isSome
  commandLineId engine (conversationId.filter fun _ => resume)

/-- The id an attach resumes. -/
def attachId (engine : String) (conversationId : Option String) : Option String :=
  (conversationId.map trim).filter (conversationUsable engine)

/-- What can happen at the seats. -/
inductive SeatStep where
  /-- The engine of the cockpit's profile changes. -/
  | switchEngine (engine : String)
  /-- The engine of a card's profile changes. -/
  | switchCardEngine (id : ℕ) (engine : String)
  | createSession (ready : Bool) (conversation : Option String)
  | updateSession (conversation : String)
  /-- The session is parked or resumed, or its environment comes or goes. -/
  | setReady (ready : Bool)
  | stopSession
  /-- A chat turn reads the session and waits for its lock. -/
  | chatRequest
  /-- The first of the waiting chat turns runs. -/
  | chatTurn
  /-- A line of the output of a chat turn. -/
  | chatLine (line : String)
  /-- An attach; the id is the one that `agent create-chat` prints. -/
  | attach (minted : Option String)
  | cardRun (id : ℕ) (isReused : Bool)
  /-- A line of the output of a card's agent. -/
  | cardLine (id : ℕ) (line : String)
  /-- A card loses its conversation: it is halted, or done. -/
  | clearCard (id : ℕ)

namespace Seats

/-- `update_cockpit_session` with an id: a blank one clears it. -/
def updateSession (s : Seats) (conversation : String) : Seats :=
  { s with session := s.session.map fun session =>
    { session with conversation := nonBlank conversation } }

/-- `ready_target`: the stored id and the engine, when the session is ready. -/
def readyTarget (s : Seats) : Option (Option String × String) :=
  match s.session with
  | some session =>
    if session.ready then some (session.conversation.filter fun c => !isBlank c, s.engine)
    else none
  | none => none

/-- A chat turn that has its lock. -/
def runTurn (s : Seats) (conversationId : Option String) (engine : String) : Option Launch :=
  match s.readyTarget with
  | some (cidNow, engineNow) =>
    let conversationId := cidNow.or conversationId
    let engine := if engineNow.isEmpty then engine else engineNow
    match Engine.lookup engine with
    | .ok _ => some ⟨.chat, engine, turnId engine conversationId⟩
    | .error _ => none
  | none => none

/-- `ensure_conversation_id`. -/
def ensureConversationId (s : Seats) (minted : Option String) : Seats × Option String :=
  let stored := (s.session.bind (·.conversation)).bind nonBlank
  match stored.filter (conversationUsable s.engine) with
  | some id => (s, some id)
  | none =>
    let s := if stored.isSome then s.updateSession "" else s
    if trim s.engine ≠ "cursor" then (s, none)
    else
      match minted with
      | some id => (s.updateSession id, some id)
      | none => (s, none)

/-- One step, and the launch it makes. -/
def step (fromStr : JsonReader) (s : Seats) : SeatStep → Seats × Option Launch
  | .switchEngine engine => ({ s with engine := engine }, none)
  | .switchCardEngine id engine =>
    ({ s with cards := Function.update s.cards id { s.cards id with engine := engine } }, none)
  | .createSession ready conversation =>
    match s.session with
    | some _ => (s, none)
    | none => ({ s with session := some ⟨ready, conversation.bind nonBlank⟩ }, none)
  | .updateSession conversation => (s.updateSession conversation, none)
  | .setReady ready =>
    ({ s with session := s.session.map fun session => { session with ready := ready } }, none)
  | .stopSession => ({ s with session := none }, none)
  | .chatRequest =>
    match s.readyTarget with
    | some target => ({ s with pending := s.pending ++ [target] }, none)
    | none => (s, none)
  | .chatTurn =>
    match s.pending with
    | (conversationId, engine) :: rest =>
      ({ s with pending := rest }, s.runTurn conversationId engine)
    | [] => (s, none)
  | .chatLine line =>
    match parseConversationId fromStr line with
    | some cid => (s.updateSession cid, none)
    | none => (s, none)
  | .attach minted =>
    match s.readyTarget with
    | some _ =>
      let (s', cid) := s.ensureConversationId minted
      (s', some ⟨.attach, s.engine, attachId s.engine cid⟩)
    | none => (s, none)
  | .cardRun id isReused =>
    let card := s.cards id
    match Engine.lookup card.engine with
    | .ok _ =>
      -- A new sandbox has a new conversation.
      let card := if isReused then card else { card with conversation := none }
      ({ s with cards := Function.update s.cards id card },
        some ⟨.card, card.engine, cardId card.engine isReused card.conversation⟩)
    | .error _ => (s, none)
  | .cardLine id line =>
    match parseConversationId fromStr line with
    | some cid =>
      let card := { s.cards id with conversation := some cid }
      ({ s with cards := Function.update s.cards id card }, none)
    | none => (s, none)
  | .clearCard id =>
    ({ s with cards := Function.update s.cards id { s.cards id with conversation := none } }, none)

/-- The state after one step. -/
def advance (fromStr : JsonReader) (s : Seats) (op : SeatStep) : Seats := (s.step fromStr op).1

/-! ## Agreement -/

/-- A launch of the step only resumes a conversation that its engine can use. -/
def Agrees (fromStr : JsonReader) (s : Seats) (op : SeatStep) : Prop :=
  ∀ launch, (s.step fromStr op).2 = some launch →
    ∀ id, launch.passed = some id → conversationUsable launch.engine id = true

end Seats

/-- An id of the shape that the engine's own ids have: Cursor's do not start with `ses_`, and
OpenCode's do. -/
structure OwnShape (engine id : String) : Prop where
  cursor : trim engine = "cursor" → startsWith "ses_" (trim id) = false
  opencode : trim engine = "opencode" → startsWith "ses_" (trim id) = true
  nonBlank : Engine.supportsResume engine = true → isBlank id = false

namespace Seats

/-- A chat turn, and the run of a card that keeps its sandbox, has an id of the shape of its
engine's ids, or none. -/
def HasOwnShape (s : Seats) : SeatStep → Prop
  | .chatTurn =>
    ∀ conversationId engine rest, s.pending = (conversationId, engine) :: rest →
      ∀ cidNow engineNow, s.readyTarget = some (cidNow, engineNow) →
        ∀ id, cidNow.or conversationId = some id →
          OwnShape (if engineNow.isEmpty then engine else engineNow) id
  | .cardRun id isReused =>
    isReused = true → ∀ cid, (s.cards id).conversation = some cid → OwnShape (s.cards id).engine cid
  | _ => True

end Seats

/-! ## Which engines resume -/

lemma supportsResume_iff (engine : String) :
    Engine.supportsResume engine = true ↔
      trim engine = "cursor" ∨ trim engine = "agy" ∨ trim engine = "opencode" ∨
        trim engine = "hermes" := by
  unfold Engine.supportsResume Engine.lookup
  generalize trim engine = e
  by_cases hcursor : e = "cursor"
  · subst hcursor
    exact iff_of_true rfl (by simp)
  by_cases hagy : e = "agy"
  · subst hagy
    exact iff_of_true rfl (by simp)
  by_cases hclaude : e = "claude"
  · subst hclaude
    exact iff_of_false (by decide) (by decide)
  by_cases hopencode : e = "opencode"
  · subst hopencode
    exact iff_of_true rfl (by simp)
  by_cases hhermes : e = "hermes"
  · subst hhermes
    exact iff_of_true rfl (by simp)
  by_cases hpi : e = "pi"
  · subst hpi
    exact iff_of_false (by decide) (by decide)
  have hnone : Engine.engines.find? (·.id == e) = none := by
    refine List.find?_eq_none.2 fun engine hengine => ?_
    simp only [Engine.engines, List.mem_cons, List.not_mem_nil, or_false] at hengine
    rcases hengine with rfl | rfl | rfl | rfl | rfl | rfl <;>
      simp [Engine.cursor, Engine.agy, Engine.claude, Engine.opencode, Engine.hermes, Engine.pi,
        Ne.symm hcursor, Ne.symm hagy, Ne.symm hclaude, Ne.symm hopencode, Ne.symm hhermes,
        Ne.symm hpi]
  simp [hnone, hcursor, hagy, hopencode, hhermes]

lemma lookup_of_supportsResume {engine : String} (h : Engine.supportsResume engine = true) :
    ∃ e, Engine.lookup engine = .ok e := by
  unfold Engine.supportsResume at h
  cases hlookup : Engine.lookup engine with
  | error e =>
    rw [hlookup] at h
    cases h
  | ok e => exact ⟨e, rfl⟩

/-- An engine that resumes passes the id on. -/
lemma commandLineId_eq {engine : String} (h : Engine.supportsResume engine = true)
    (conversationId : Option String) : commandLineId engine conversationId = conversationId := by
  unfold Engine.supportsResume at h
  unfold commandLineId
  cases hlookup : Engine.lookup engine with
  | error e =>
    rw [hlookup] at h
    cases h
  | ok e =>
    rw [hlookup] at h
    dsimp only at h ⊢
    rw [if_pos h]

lemma turnId_eq_some_iff {engine : String} {conversationId : Option String} {id : String} :
    turnId engine conversationId = some id ↔
      conversationId = some id ∧ Engine.supportsResume engine = true := by
  unfold turnId
  cases hresume : Engine.supportsResume engine with
  | true =>
    rw [commandLineId_eq hresume]
    simp
  | false =>
    have hnone : (conversationId.filter fun _ => false) = none := by
      cases conversationId <;> rfl
    rw [hnone]
    unfold commandLineId
    cases Engine.lookup engine <;> simp

lemma cardId_eq_some_iff {engine : String} {isReused : Bool} {conversationId : Option String}
    {id : String} :
    cardId engine isReused conversationId = some id ↔
      isReused = true ∧ conversationId = some id ∧ Engine.supportsResume engine = true := by
  cases conversationId with
  | none =>
    unfold cardId commandLineId
    cases Engine.lookup engine <;> simp
  | some c =>
    cases isReused with
    | false =>
      unfold cardId commandLineId
      cases Engine.lookup engine <;> simp
    | true =>
      have hturn : cardId engine true (some c) = turnId engine (some c) := by
        unfold cardId turnId
        simp
      rw [hturn, turnId_eq_some_iff]
      simp

/-- An engine that resumes can use an id exactly when the id has the shape of its own. -/
lemma ownShape_iff {engine id : String} :
    OwnShape engine id ↔
      (Engine.supportsResume engine = true → conversationUsable engine id = true) := by
  have hblank : (trim id).isEmpty = isBlank id := isEmpty_trim id
  unfold conversationUsable
  dsimp only
  rw [hblank]
  constructor
  · intro h hresume
    rw [h.nonBlank hresume]
    rcases (supportsResume_iff engine).1 hresume with hengine | hengine | hengine | hengine
    · simp [hengine, h.cursor hengine]
    · simp [hengine]
    · simp [hengine, h.opencode hengine]
    · simp [hengine]
  · intro h
    refine ⟨fun hengine => ?_, fun hengine => ?_, fun hresume => ?_⟩
    · have huse := h ((supportsResume_iff engine).2 (Or.inl hengine))
      split at huse
      · cases huse
      · simpa [hengine] using huse
    · have huse := h ((supportsResume_iff engine).2 (by simp [hengine]))
      split at huse
      · cases huse
      · simpa [hengine] using huse
    · have huse := h hresume
      split at huse
      · cases huse
      · simp_all

/-! ## Runs -/

namespace Seats

variable {fromStr : JsonReader} {s : Seats}

/-- What an attach resumes is usable. -/
lemma attachId_usable {engine id : String} {conversationId : Option String}
    (h : attachId engine conversationId = some id) : conversationUsable engine id = true := by
  unfold attachId at h
  exact (Option.filter_eq_some_iff.1 h).2

/-- A chat turn of a registered engine resumes what the engine can use exactly when its id has the
shape of the engine's ids. -/
lemma turn_agrees_iff (engine : String) (given : Option String) :
    (∀ launch, (match Engine.lookup engine with
          | .ok _ => some (Launch.mk .chat engine (turnId engine given))
          | .error _ => none) = some launch →
        ∀ id, launch.passed = some id → conversationUsable launch.engine id = true) ↔
      ∀ id, given = some id → OwnShape engine id := by
  constructor
  · intro h id hid
    rw [ownShape_iff]
    intro hresume
    obtain ⟨e, he⟩ := lookup_of_supportsResume hresume
    rw [he] at h
    exact h _ rfl id (turnId_eq_some_iff.2 ⟨hid, hresume⟩)
  · intro h launch hlaunch id hid
    split at hlaunch
    · cases hlaunch
      obtain ⟨hgiven, hresume⟩ := turnId_eq_some_iff.1 hid
      exact ownShape_iff.1 (h id hgiven) hresume
    · cases hlaunch

/-- A chat turn agrees with the attach exactly when the id it has is of the shape of its engine's
ids. -/
lemma runTurn_agrees_iff {conversationId : Option String} {engine : String} :
    (∀ launch, s.runTurn conversationId engine = some launch →
        ∀ id, launch.passed = some id → conversationUsable launch.engine id = true) ↔
      ∀ cidNow engineNow, s.readyTarget = some (cidNow, engineNow) →
        ∀ id, cidNow.or conversationId = some id →
          OwnShape (if engineNow.isEmpty then engine else engineNow) id := by
  unfold runTurn
  cases htarget : s.readyTarget with
  | none => simp
  | some target =>
    obtain ⟨cidNow, engineNow⟩ := target
    dsimp only
    constructor
    · intro h cidNow' engineNow' heq
      cases heq
      exact (turn_agrees_iff _ _).1 h
    · intro h
      exact (turn_agrees_iff _ _).2 (h cidNow engineNow rfl)

/-- The launch of a card's run. -/
lemma launch_cardRun (id : ℕ) (isReused : Bool) :
    (s.step fromStr (.cardRun id isReused)).2 =
      match Engine.lookup (s.cards id).engine with
      | .ok _ => some ⟨.card, (s.cards id).engine,
          cardId (s.cards id).engine isReused (s.cards id).conversation⟩
      | .error _ => none := by
  unfold step
  dsimp only
  cases Engine.lookup (s.cards id).engine with
  | error e => rfl
  | ok e =>
    cases isReused with
    | true => rfl
    | false =>
      -- In a new sandbox there is no id, and an id would not be passed.
      have hnone (c : Option String) : cardId (s.cards id).engine false c = none :=
        Option.eq_none_iff_forall_ne_some.2 fun cid h =>
          Bool.false_ne_true (cardId_eq_some_iff.1 h).1
      simp only [Bool.false_eq_true, if_false, hnone]

/-- The run of a card agrees with the attach exactly when the card starts in a new sandbox, or has
an id of the shape of its engine's ids. -/
lemma cardRun_agrees_iff {id : ℕ} {isReused : Bool} :
    s.Agrees fromStr (.cardRun id isReused) ↔ s.HasOwnShape (.cardRun id isReused) := by
  unfold Agrees HasOwnShape
  rw [launch_cardRun]
  constructor
  · intro h hreused cid hcid
    rw [ownShape_iff]
    intro hresume
    obtain ⟨e, he⟩ := lookup_of_supportsResume hresume
    rw [he] at h
    exact h _ rfl cid (cardId_eq_some_iff.2 ⟨hreused, hcid, hresume⟩)
  · intro h launch hlaunch cid hpassed
    split at hlaunch
    · cases hlaunch
      obtain ⟨hreused, hcid, hresume⟩ := cardId_eq_some_iff.1 hpassed
      exact ownShape_iff.1 (h hreused cid hcid) hresume
    · cases hlaunch

/-- A step agrees with the attach exactly when the id it has is of the shape of its engine's
ids. -/
lemma agrees_iff (op : SeatStep) : s.Agrees fromStr op ↔ s.HasOwnShape op := by
  have hquiet (h : (s.step fromStr op).2 = none) : s.Agrees fromStr op := by
    intro launch hlaunch
    rw [h] at hlaunch
    cases hlaunch
  cases op with
  | chatTurn =>
    unfold Agrees HasOwnShape step
    dsimp only
    cases hpending : s.pending with
    | nil => simp
    | cons first rest =>
      obtain ⟨conversationId, engine⟩ := first
      dsimp only
      rw [runTurn_agrees_iff]
      constructor
      · intro h conversationId' engine' rest' heq
        cases heq
        exact h
      · exact fun h => h conversationId engine rest rfl
  | cardRun id isReused => exact cardRun_agrees_iff
  | attach minted =>
    refine iff_of_true ?_ trivial
    intro launch hlaunch id hpassed
    unfold step at hlaunch
    dsimp only at hlaunch
    split at hlaunch
    · cases hlaunch
      exact attachId_usable hpassed
    · cases hlaunch
  | switchEngine engine => exact iff_of_true (hquiet rfl) trivial
  | switchCardEngine id engine => exact iff_of_true (hquiet rfl) trivial
  | createSession ready conversation =>
    refine iff_of_true (hquiet ?_) trivial
    simp only [step]
    split <;> rfl
  | updateSession conversation => exact iff_of_true (hquiet rfl) trivial
  | setReady ready => exact iff_of_true (hquiet rfl) trivial
  | stopSession => exact iff_of_true (hquiet rfl) trivial
  | chatRequest =>
    refine iff_of_true (hquiet ?_) trivial
    simp only [step]
    split <;> rfl
  | chatLine line =>
    refine iff_of_true (hquiet ?_) trivial
    simp only [step]
    split <;> rfl
  | cardLine id line =>
    refine iff_of_true (hquiet ?_) trivial
    simp only [step]
    split <;> rfl
  | clearCard id => exact iff_of_true (hquiet rfl) trivial

/-- A board whose cockpit runs OpenCode, without a conversation yet. -/
def opencodeSeat : Seats where
  engine := "opencode"
  session := some ⟨true, none⟩
  pending := []
  cards _ := ⟨"opencode", none⟩

/-- One line of OpenCode's output. -/
def sampleReader : JsonReader := fun text =>
  if text = "\x7b\"sessionID\":\"ses_1\"\x7d" then some (.object [("sessionID", .string "ses_1")])
  else none

end Seats

end Sandboard

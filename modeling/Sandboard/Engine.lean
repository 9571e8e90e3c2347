import Sandboard.Search

/-!
# The engine registry

The agent engines with their launch arguments, their resume flag and the places of a conversation
id in their output, and the command line that is built from them.  An engine that is not
registered is an error.
-/

namespace Sandboard

open Text

/-! ## The registry -/

/-- How the id of a conversation is passed. -/
inductive ResumeFlag where
  | conversation
  | resume
  | session
  deriving DecidableEq

/-- `ResumeFlag::argv`. -/
def ResumeFlag.argv : ResumeFlag → String
  | .conversation => "--conversation \"$SANDBOARD_CONVERSATION\""
  | .resume => "--resume \"$SANDBOARD_CONVERSATION\""
  | .session => "--session \"$SANDBOARD_CONVERSATION\""

/-- Where the prompt stands. -/
inductive PromptStyle where
  /-- `-p "$VAR"` after the fixed flags. -/
  | flagP
  /-- The last argument. -/
  | positional
  /-- The prompt file of Hermes. -/
  | queryFile
  deriving DecidableEq

/-- One registered engine. -/
structure Engine where
  id : String
  /-- Binary and fixed flags. -/
  argvPrefix : String
  /-- Fixed flags after the model. -/
  postModel : String
  /-- Flags after the prompt. -/
  trailing : String
  prompt : PromptStyle
  resume : Option ResumeFlag
  conversationIdPointers : List String
  deriving DecidableEq

namespace Engine

def cursor : Engine where
  id := "cursor"
  argvPrefix :=
    "agent -p --force --trust --approve-mcps --sandbox disabled --output-format stream-json"
  postModel := ""
  trailing := ""
  prompt := .positional
  resume := some .resume
  conversationIdPointers := ["/session_id", "/result/session_id"]

def agy : Engine where
  id := "agy"
  argvPrefix := "agy --dangerously-skip-permissions"
  postModel := "--print-timeout 24h --output-format stream-json"
  trailing := ""
  prompt := .flagP
  resume := some .conversation
  conversationIdPointers := ["/conversation_id", "/step_update/conversation_id",
    "/result/conversation_id", "/message/conversation_id"]

def claude : Engine where
  id := "claude"
  argvPrefix :=
    "claude --bare --strict-mcp-config --mcp-config /sandbox/.sandboard/mcp/claude_mcp.json"
  postModel := ""
  trailing := "--output-format stream-json --verbose --permission-mode bypassPermissions"
  prompt := .flagP
  resume := none
  conversationIdPointers := []

def opencode : Engine where
  id := "opencode"
  argvPrefix := "opencode run --format json --auto"
  postModel := ""
  trailing := ""
  prompt := .positional
  resume := some .session
  conversationIdPointers := ["/sessionID", "/part/sessionID"]

def hermes : Engine where
  id := "hermes"
  argvPrefix := "hermes --yolo --accept-hooks --provider openrouter"
  postModel := "chat"
  trailing := ""
  prompt := .queryFile
  resume := some .resume
  conversationIdPointers := []

def pi : Engine where
  id := "pi"
  argvPrefix := "pi --mode json"
  postModel := ""
  trailing := ""
  prompt := .positional
  resume := none
  conversationIdPointers := []

/-- The known engines. -/
def engines : List Engine := [cursor, agy, claude, opencode, hermes, pi]

/-- No engine has this id. -/
structure UnknownEngine where
  id : String

/-- `engine::lookup`. -/
def lookup (id : String) : Except UnknownEngine Engine :=
  let id := trim id
  match engines.find? (·.id == id) with
  | some e => .ok e
  | none => .error ⟨id⟩

/-- The engine can go on with a conversation. -/
def supportsResume (id : String) : Bool :=
  match lookup id with
  | .ok e => e.resume.isSome
  | .error _ => false

/-- The places of a conversation id in the output of any engine. -/
def allConversationIdPointers : List String :=
  (engines.flatMap conversationIdPointers).foldl (fun out key =>
    if out.contains key then out else out ++ [key]) []

/-! ## Environment -/

/-- `anthropic_inference_exports`. -/
def anthropicInferenceExports (engineId : String) : String :=
  if trim engineId = "opencode" then
    "export ANTHROPIC_BASE_URL=https://inference.local/v1\n" ++
      "export ANTHROPIC_API_KEY=unused\nunset CLAUDE_CODE_USE_VERTEX\n"
  else if trim engineId = "claude" then
    "export ANTHROPIC_BASE_URL=https://inference.local\n" ++
      "export ANTHROPIC_API_KEY=unused\nunset CLAUDE_CODE_USE_VERTEX\n"
  else ""

/-- `hermes_inference_exports`. -/
def hermesInferenceExports (_engineId : String) : String := ""

/-! ## The command line -/

/-- `DEFAULT_SEAT_MODEL`. -/
def defaultSeatModel : String := "gemini-3.6-flash-high"

/-- `default_model_for_engine`. -/
def defaultModelForEngine (engineId : String) : Option String :=
  if trim engineId = "agy" then some defaultSeatModel else none

/-- `engine_accepts_cli_model`. -/
def engineAcceptsCliModel (engineId : String) : Bool :=
  ["agy", "cursor", "opencode", "hermes"].contains (trim engineId)

/-- Replace a character of a text. -/
def replaceChar (c : Char) (sub s : String) : String :=
  String.ofList (s.toList.flatMap fun d => if d = c then sub.toList else [d])

/-- `shell_single_quote`. -/
def shellSingleQuote (s : String) : String :=
  "'" ++ replaceChar '\'' "'\"'\"'" s ++ "'"

/-- The model an engine is started with. -/
def cliModel (engineId : String) (model : Option String) : Option String :=
  if engineAcceptsCliModel engineId then
    ((model.map trim).filter fun s => !s.isEmpty).or (defaultModelForEngine engineId)
  else none

/-- `cli_model_argv`. -/
def cliModelArgv (engineId : String) (model : Option String) : Option String :=
  (cliModel engineId model).map fun m => "--model " ++ shellSingleQuote m

/-- The variable the prompt is in. -/
inductive PromptEnv where
  | briefing
  | prompt
  deriving DecidableEq

/-- `PromptEnv::shell_ref`. -/
def PromptEnv.shellRef : PromptEnv → String
  | .briefing => "\"$SANDBOARD_BRIEFING\""
  | .prompt => "\"$SANDBOARD_PROMPT\""

/-- The prompt file of Hermes. -/
def hermesQueryFile : String := "/tmp/sandboard-hermes-query"

/-- Join parts with blanks. -/
def joinParts : List String → String
  | [] => ""
  | [part] => part
  | part :: parts => part ++ " " ++ joinParts parts

/-- Where the prompt is passed. -/
def promptParts (style : PromptStyle) (var : PromptEnv) : List String :=
  match style with
  | .flagP => ["-p", var.shellRef]
  | .positional => [var.shellRef]
  | .queryFile => ["--query-file", hermesQueryFile]

/-- `command_line`. -/
def commandLine (engineId : String) (var : PromptEnv) (conversationId model : Option String) :
    Except UnknownEngine String := do
  let engine ← lookup engineId
  let resume := if conversationId.isSome then engine.resume else none
  return joinParts ([engine.argvPrefix] ++ (cliModelArgv engine.id model).toList ++
    (if engine.postModel.isEmpty then [] else [engine.postModel]) ++
    (resume.map ResumeFlag.argv).toList ++ promptParts engine.prompt var ++
    (if engine.trailing.isEmpty then [] else [engine.trailing]))

end Engine

end Sandboard

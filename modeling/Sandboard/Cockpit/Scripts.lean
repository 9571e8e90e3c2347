import Mathlib.Data.List.Forall2
import Sandboard.Engine
import Sandboard.Library.ShellNested

/-!
# The shell scripts of the cockpit

The script of a turn and the command of an attach.  Each reads as a fixed script in which the
prompt, the id of the conversation and the model are one word each.
-/

namespace Sandboard

open Text Shell

namespace Engine

/-! ## Quoting -/

/-- `shell_quote`. -/
def shellQuote (s : String) : String := "'" ++ replaceChar '\'' "'\\''" s ++ "'"

/-! ## The scripts -/

def workdir : String := "/sandbox/repo"

/-- `cloud_env_exports`, from the project and the location of the board. -/
def cloudEnvExports : Option (String × String) → String
  | none => ""
  | some (project, location) =>
    "export GOOGLE_CLOUD_PROJECT=" ++ shellQuote project ++ "\n" ++
      ("export GOOGLE_CLOUD_QUOTA_PROJECT=" ++ shellQuote project ++ "\n") ++
      ("export GCP_PROJECT_ID=" ++ shellQuote project ++ "\n") ++
      ("export GCP_LOCATION=" ++ shellQuote location ++ "\n") ++
      ("export CLOUD_ML_REGION=" ++ shellQuote location ++ "\n") ++
      ("export VERTEX_LOCATION=" ++ shellQuote location ++ "\n")

/-- Where a seat finds its own `agy` and the settings of its cloud. -/
def seatCloudEnv : String :=
  "export PATH=/sandbox/.local/bin:$PATH\nset -a\n" ++
    "[ -f /sandbox/.gemini/antigravity-cli/sandboard-cloud.env ] && " ++
    ". /sandbox/.gemini/antigravity-cli/sandboard-cloud.env\nset +a\n"

/-- The prompt of Hermes goes to a file. -/
def hermesQuerySetup (engineId : String) (var : PromptEnv) : String :=
  if trim engineId = "hermes" then
    "printf '%s' " ++ var.shellRef ++ " > " ++ hermesQueryFile ++ "\n"
  else ""

def conversationExport : Option String → String
  | none => ""
  | some c => "export SANDBOARD_CONVERSATION=" ++ shellQuote c ++ "\n"

/-- `turn_script`. -/
def turnScript (engineId prompt : String) (conversationId : Option String)
    (agyCloudExports : String) (model : Option String) : Except UnknownEngine String := do
  let resumeId := conversationId.filter fun _ => supportsResume engineId
  let cmd ← commandLine engineId .prompt resumeId model
  let agyCloud := if trim engineId = "agy" then agyCloudExports ++ seatCloudEnv else ""
  return "set -e\nexport SANDBOARD_PROMPT=" ++ shellQuote prompt ++ "\n" ++
    hermesQuerySetup engineId .prompt ++ agyCloud ++ anthropicInferenceExports engineId ++
    hermesInferenceExports engineId ++ conversationExport resumeId ++
    ("cd " ++ workdir ++ " 2>/dev/null || cd /\ntimeout --foreground 3600 ") ++ cmd

/-- A flag with a quoted value, when there is one. -/
def quotedFlag (flag : String) (value : Option String) : String :=
  (value.map fun v => " " ++ flag ++ shellQuote v).getD ""

/-- The model of an attach. -/
def attachModel (engineId : String) (model : Option String) : String :=
  ((cliModelArgv engineId model).map fun argv => " " ++ argv).getD ""

/-- `conversation_usable`. -/
def conversationUsable (engineId id : String) : Bool :=
  let id := trim id
  if id.isEmpty then false
  else if trim engineId = "cursor" then !startsWith "ses_" id
  else if trim engineId = "opencode" then startsWith "ses_" id
  else trim engineId == "agy" || trim engineId == "hermes"

/-- The id of an attach: trimmed, and left out when the engine cannot use it. -/
def attachId (engineId : String) (conversationId : Option String) : Option String :=
  (conversationId.map trim).filter (conversationUsable engineId)

/-- The prompt of an attach: trimmed, and left out when it is blank. -/
def attachPrompt (initialPrompt : Option String) : Option String :=
  (initialPrompt.map trim).filter fun s => !s.isEmpty

/-- The interactive command of an engine. -/
def attachAgent (engineId : String) (cid prompt model : Option String) : String :=
  if engineId = "opencode" then
    "opencode" ++ attachModel "opencode" model ++ quotedFlag "--session " cid
  else if engineId = "claude" then
    "claude --bare --strict-mcp-config --mcp-config /sandbox/.sandboard/mcp/claude_mcp.json"
  else if engineId = "agy" then
    "agy --dangerously-skip-permissions" ++ attachModel "agy" model ++
      quotedFlag "--conversation " cid ++ quotedFlag "-p " prompt
  else if engineId = "hermes" then
    "hermes --cli --provider openrouter" ++ attachModel "hermes" model ++ quotedFlag "--resume " cid
  else
    "agent --trust --approve-mcps --sandbox disabled" ++ attachModel "cursor" model ++
      quotedFlag "--resume " cid ++ quotedFlag "" prompt

/-- `attach_agent_command`: the script, which `bash -lc` runs. -/
def attachScript (engineId : String) (conversationId initialPrompt : Option String)
    (extraExports : String) (model : Option String) : String :=
  let engineId := trim engineId
  extraExports ++ (if engineId = "agy" then seatCloudEnv else "") ++
    anthropicInferenceExports engineId ++ hermesInferenceExports engineId ++
    ("cd " ++ workdir ++ " 2>/dev/null || cd /sandbox; exec ") ++
    attachAgent engineId (attachId engineId conversationId) (attachPrompt initialPrompt) model

/-! ## What a command line reads as -/

lemma toList_replaceQuote (sub s : String) : (replaceChar '\'' sub s).toList =
    s.toList.flatMap fun c => if c = '\'' then sub.toList else [c] := by
  rw [replaceChar, String.toList_ofList]

/-- A text between single quotes, with a replacement for the single quotes in it. -/
lemma ofList_quoteWith (sub s : String) :
    "'" ++ replaceChar '\'' sub s ++ "'" = String.ofList (quoteWith sub.toList s.toList) := by
  rw [← String.toList_inj, String.toList_ofList, quoteWith, ← toList_replaceQuote]
  simp

lemma shellQuote_eq (s : String) :
    shellQuote s = String.ofList (quoteWith ['\'', '\\', '\'', '\''] s.toList) :=
  ofList_quoteWith "'\\''" s

lemma shellSingleQuote_eq (s : String) :
    shellSingleQuote s = String.ofList (quoteWith ['\'', '"', '\'', '"', '\''] s.toList) :=
  ofList_quoteWith "'\"'\"'" s

lemma part_shellQuote (s : String) : Part (shellQuote s) [.text s] := by
  rw [shellQuote_eq]
  exact escapes_backslash.part_quoteWith s

lemma part_shellSingleQuote (s : String) : Part (shellSingleQuote s) [.text s] := by
  rw [shellSingleQuote_eq]
  exact escapes_double.part_quoteWith s

lemma quotedWord_shellQuote (s : String) : QuotedWord (shellQuote s) s := by
  rw [shellQuote_eq]
  exact escapes_backslash.quotedWord s

lemma quotedWord_shellSingleQuote (s : String) : QuotedWord (shellSingleQuote s) s := by
  rw [shellSingleQuote_eq]
  exact escapes_double.quotedWord s

/-- The parts are joined to one part. -/
lemma part_joinParts {parts : List String} {ls : List (List Lexeme)} (hne : parts ≠ [])
    (h : List.Forall₂ Part parts ls) : Part (joinParts parts) ls.flatten := by
  induction h with
  | nil => exact absurd rfl hne
  | @cons part l parts ls hpart hparts ih =>
    cases hparts with
    | nil =>
      rw [joinParts, List.flatten_cons, List.flatten_nil, List.append_nil]
      exact hpart
    | @cons next m parts ls hnext hrest =>
      have hjoin : joinParts (part :: next :: parts) =
          part ++ " " ++ joinParts (next :: parts) := rfl
      rw [hjoin, List.flatten_cons]
      exact hpart.append (ih (List.cons_ne_nil _ _))

/-- A flag with its value, as two words. -/
def flagLexemes (flag : List Lexeme) (value : Option String) : List Lexeme :=
  (value.map fun v => flag ++ [.text v]).getD []

/-- Where the prompt is passed, as words. -/
def promptLexemes (style : PromptStyle) (var : PromptEnv) : List Lexeme :=
  (promptParts style var).flatMap fixedLexemes

/-- The words of the fixed command of an engine, with the model and the variables of the
conversation and the prompt in their places. -/
def commandLexemes (e : Engine) (var : PromptEnv) (resumes : Bool) (model : Option String) :
    List Lexeme :=
  fixedLexemes e.argvPrefix ++ flagLexemes [.bare "--model"] model ++ fixedLexemes e.postModel ++
    (if resumes then (e.resume.map fun flag => fixedLexemes flag.argv).getD [] else []) ++
    promptLexemes e.prompt var ++ fixedLexemes e.trailing

/-- Calm texts are parts. -/
lemma forall₂_part_fixed {parts : List String} (h : ∀ part ∈ parts, Calm part) :
    List.Forall₂ Part parts (parts.map fixedLexemes) := by
  rw [List.forall₂_map_right_iff, List.forall₂_same]
  exact fun part hpart => (h part hpart).fixed

/-- The texts of every engine are calm. -/
lemma calm_of_mem {e : Engine} (he : e ∈ engines) :
    Calm e.argvPrefix ∧ (e.postModel.isEmpty = false → Calm e.postModel) ∧
      (e.trailing.isEmpty = false → Calm e.trailing) := by
  have hempty : ∀ {s : String}, "".isEmpty = false → Calm s := by
    intro s h
    cases h
  simp only [engines, List.mem_cons, List.not_mem_nil, or_false] at he
  rcases he with rfl | rfl | rfl | rfl | rfl | rfl
  · exact ⟨calm_ofList (by decide +kernel), hempty, hempty⟩
  · exact ⟨calm_ofList (by decide +kernel), fun _ => calm_ofList (by decide +kernel), hempty⟩
  · exact ⟨calm_ofList (by decide +kernel), hempty, fun _ => calm_ofList (by decide +kernel)⟩
  · exact ⟨calm_ofList (by decide +kernel), hempty, hempty⟩
  · exact ⟨calm_ofList (by decide +kernel), fun _ => calm_ofList (by decide +kernel), hempty⟩
  · exact ⟨calm_ofList (by decide +kernel), hempty, hempty⟩

lemma calm_argv (flag : ResumeFlag) : Calm flag.argv := by
  cases flag <;> exact calm_ofList (by decide +kernel)

lemma calm_prompt (style : PromptStyle) (var : PromptEnv) :
    ∀ part ∈ promptParts style var, Calm part := by
  intro part hpart
  have hvar : Calm var.shellRef := by
    cases var <;> exact calm_ofList (by decide +kernel)
  cases style with
  | flagP =>
    rcases List.mem_cons.1 hpart with rfl | hpart
    · exact calm_ofList (by decide +kernel)
    · rw [List.mem_singleton.1 hpart]
      exact hvar
  | positional =>
    rw [List.mem_singleton.1 hpart]
    exact hvar
  | queryFile =>
    rcases List.mem_cons.1 hpart with rfl | hpart
    · exact calm_ofList (by decide +kernel)
    · rw [List.mem_singleton.1 hpart]
      exact calm_ofList (by decide +kernel)

/-- A text that may be left out. -/
def optionalPart (s : String) : List String := if s.isEmpty then [] else [s]

lemma calm_optionalPart {s : String} (h : s.isEmpty = false → Calm s) :
    ∀ part ∈ optionalPart s, Calm part := by
  intro part hpart
  unfold optionalPart at hpart
  split at hpart
  · cases hpart
  · rename_i hne
    rw [List.mem_singleton.1 hpart]
    exact h (Bool.eq_false_iff.2 hne)

lemma flatten_optionalPart (s : String) :
    ((optionalPart s).map fixedLexemes).flatten = fixedLexemes s := by
  unfold optionalPart
  split
  · rename_i hempty
    rw [String.isEmpty_iff.1 hempty]
    rfl
  · simp

lemma mem_of_lookup {engineId : String} {e : Engine} (h : lookup engineId = .ok e) :
    e ∈ engines := by
  unfold lookup at h
  dsimp only at h
  split at h
  · rename_i e' he
    cases h
    exact List.mem_of_find?_eq_some he
  · cases h

/-- The command line reads as the fixed command with the model as one word. -/
lemma part_commandLine {engineId cmd : String} {var : PromptEnv} {cid model : Option String}
    {e : Engine} (he : lookup engineId = .ok e)
    (h : commandLine engineId var cid model = .ok cmd) :
    Part cmd (commandLexemes e var cid.isSome (cliModel e.id model)) := by
  obtain ⟨hargv, hpost, htrailing⟩ := calm_of_mem (mem_of_lookup he)
  let resume := if cid.isSome then e.resume else none
  have hcmd : cmd = joinParts ([e.argvPrefix] ++ (cliModelArgv e.id model).toList ++
      optionalPart e.postModel ++ (resume.map ResumeFlag.argv).toList ++
      promptParts e.prompt var ++ optionalPart e.trailing) := by
    simp only [commandLine, he, bind, Except.bind, pure, Except.pure, Except.ok.injEq] at h
    exact h.symm
  have hmodel : List.Forall₂ Part (cliModelArgv e.id model).toList
      ((cliModel e.id model).toList.map fun m => [.bare "--model", .text m]) := by
    unfold cliModelArgv
    cases cliModel e.id model with
    | none => exact .nil
    | some m =>
      have hflag : Lexes .gap "--model " [.bare "--model"] .gap :=
    lexes_ofList (by decide +kernel)
      exact .cons (Part.after hflag (part_shellSingleQuote m)) .nil
  have hresume : List.Forall₂ Part (resume.map ResumeFlag.argv).toList
      ((resume.map ResumeFlag.argv).toList.map fixedLexemes) := by
    refine forall₂_part_fixed fun part hpart => ?_
    obtain ⟨flag, -, rfl⟩ := Option.map_eq_some_iff.1 (Option.mem_toList.1 hpart)
    exact calm_argv flag
  have hfixed : List.Forall₂ Part [e.argvPrefix] ([e.argvPrefix].map fixedLexemes) :=
    .cons hargv.fixed .nil
  have hparts := List.rel_append (List.rel_append (List.rel_append (List.rel_append
    (List.rel_append hfixed hmodel) (forall₂_part_fixed (calm_optionalPart hpost))) hresume)
      (forall₂_part_fixed (calm_prompt e.prompt var)))
        (forall₂_part_fixed (calm_optionalPart htrailing))
  have hpart := part_joinParts (by simp) hparts
  rw [hcmd, commandLexemes]
  have hflag : ((cliModel e.id model).toList.map fun m =>
      [Lexeme.bare "--model", .text m]).flatten = flagLexemes [.bare "--model"]
        (cliModel e.id model) := by
    cases cliModel e.id model <;> rfl
  have hflags : ((resume.map ResumeFlag.argv).toList.map fixedLexemes).flatten =
      if cid.isSome then (e.resume.map fun flag => fixedLexemes flag.argv).getD [] else [] := by
    unfold resume
    split
    · cases e.resume <;> simp
    · rfl
  convert hpart using 1
  simp only [List.flatten_append, flatten_optionalPart, hflag, hflags, promptLexemes,
    List.flatMap_def, List.map_cons, List.map_nil, List.flatten_cons, List.flatten_nil,
    List.append_nil]

/-! ## The arguments -/

/-- The argument that a word passes to a command, where the variables have these values. -/
def argument (env : List (String × String)) : Lexeme → Option String
  | .bare s => some s
  | .text s => some s
  | .value name => env.lookup name
  | _ => none

/-- The words of a text between blanks. -/
def blankWords (s : String) : List String :=
  ((s.toList.splitOn ' ').filter fun w => !w.isEmpty).map String.ofList

def PromptEnv.variable : PromptEnv → String
  | .briefing => "SANDBOARD_BRIEFING"
  | .prompt => "SANDBOARD_PROMPT"

/-- The variables that the command line reads. -/
def commandEnv (var : PromptEnv) (prompt : String) (cid : Option String) :
    List (String × String) :=
  (var.variable, prompt) :: (cid.map fun c => ("SANDBOARD_CONVERSATION", c)).toList

def flagName : ResumeFlag → String
  | .conversation => "--conversation"
  | .resume => "--resume"
  | .session => "--session"

def resumeArguments : Option ResumeFlag → Option String → List String
  | some flag, some c => [flagName flag, c]
  | _, _ => []

/-- Where the prompt is passed; Hermes reads it from a file. -/
def promptArguments (style : PromptStyle) (prompt : String) : List String :=
  match style with
  | .flagP => ["-p", prompt]
  | .positional => [prompt]
  | .queryFile => ["--query-file", hermesQueryFile]

/-- The arguments of the fixed command of an engine. -/
def engineArguments (e : Engine) (prompt : String) (cid model : Option String) : List String :=
  blankWords e.argvPrefix ++ (model.map fun m => ["--model", m]).getD [] ++
    blankWords e.postModel ++ resumeArguments e.resume cid ++ promptArguments e.prompt prompt ++
    blankWords e.trailing

section Arguments

variable {env : List (String × String)} {ls ms : List Lexeme} {as bs : List String}

lemma arguments_append (hs : ls.mapM (argument env) = some as)
    (ht : ms.mapM (argument env) = some bs) :
    (ls ++ ms).mapM (argument env) = some (as ++ bs) := by
  rw [List.mapM_append, hs, ht]
  rfl

/-- Bare words are arguments. -/
lemma arguments_bare (ws : List String) : (ws.map Lexeme.bare).mapM (argument env) = some ws := by
  induction ws with
  | nil => rfl
  | cons w ws ih =>
    rw [List.map_cons, List.mapM_cons, ih]
    rfl

/-- The text reads as its words between blanks. -/
def isBare (cs : List Char) : Bool :=
  lexemesFrom .gap cs == some (((cs.splitOn ' ').filter fun w => !w.isEmpty).map
    fun w => .bare (String.ofList w))

lemma fixedLexemes_bare {cs : List Char} (h : isBare cs = true) :
    fixedLexemes (String.ofList cs) = (blankWords (String.ofList cs)).map Lexeme.bare := by
  rw [isBare, beq_iff_eq] at h
  rw [fixedLexemes, lexemes_eq, blankWords, String.toList_ofList, h, Option.getD_some,
    List.map_map]
  rfl

/-- The fixed texts of every engine are bare words. -/
lemma bare_of_mem {e : Engine} (he : e ∈ engines) :
    fixedLexemes e.argvPrefix = (blankWords e.argvPrefix).map Lexeme.bare ∧
      fixedLexemes e.postModel = (blankWords e.postModel).map Lexeme.bare ∧
        fixedLexemes e.trailing = (blankWords e.trailing).map Lexeme.bare := by
  have hempty : fixedLexemes "" = (blankWords "").map Lexeme.bare := by decide +kernel
  simp only [engines, List.mem_cons, List.not_mem_nil, or_false] at he
  rcases he with rfl | rfl | rfl | rfl | rfl | rfl
  · exact ⟨fixedLexemes_bare (by decide +kernel), hempty, hempty⟩
  · exact ⟨fixedLexemes_bare (by decide +kernel), fixedLexemes_bare (by decide +kernel), hempty⟩
  · exact ⟨fixedLexemes_bare (by decide +kernel), hempty, fixedLexemes_bare (by decide +kernel)⟩
  · exact ⟨fixedLexemes_bare (by decide +kernel), hempty, hempty⟩
  · exact ⟨fixedLexemes_bare (by decide +kernel), fixedLexemes_bare (by decide +kernel), hempty⟩
  · exact ⟨fixedLexemes_bare (by decide +kernel), hempty, hempty⟩

lemma arguments_prompt (style : PromptStyle) (var : PromptEnv) (prompt : String)
    (cid : Option String) : (promptLexemes style var).mapM (argument (commandEnv var prompt cid)) =
      some (promptArguments style prompt) := by
  have hvar : fixedLexemes var.shellRef = [.value var.variable] := by
    cases var <;> decide +kernel
  have hflag : fixedLexemes "-p" = [.bare "-p"] := by decide +kernel
  have hfile : fixedLexemes "--query-file" = [.bare "--query-file"] := by decide +kernel
  have hpath : fixedLexemes hermesQueryFile = [.bare hermesQueryFile] := by decide +kernel
  have hvalue : argument (commandEnv var prompt cid) (.value var.variable) = some prompt := by
    rw [argument, commandEnv, List.lookup_cons_self]
  cases style with
  | flagP =>
    simp only [promptLexemes, promptParts, List.flatMap_cons, List.flatMap_nil, hflag, hvar,
      List.cons_append, List.nil_append, List.mapM_cons, List.mapM_nil, hvalue]
    rfl
  | positional =>
    simp only [promptLexemes, promptParts, List.flatMap_cons, List.flatMap_nil, hvar,
      List.cons_append, List.nil_append, List.mapM_cons, List.mapM_nil, hvalue]
    rfl
  | queryFile =>
    simp only [promptLexemes, promptParts, List.flatMap_cons, List.flatMap_nil, hfile, hpath,
      List.cons_append, List.nil_append, List.mapM_cons, List.mapM_nil]
    rfl

lemma arguments_resume (resume : Option ResumeFlag) (var : PromptEnv) (prompt : String)
    (cid : Option String) :
    (if cid.isSome then (resume.map fun flag => fixedLexemes flag.argv).getD [] else []).mapM
      (argument (commandEnv var prompt cid)) = some (resumeArguments resume cid) := by
  cases cid with
  | none =>
    rw [Option.isSome_none, if_neg Bool.false_ne_true]
    cases resume <;> rfl
  | some c =>
    cases resume with
    | none => rfl
    | some flag =>
      have hflag : fixedLexemes flag.argv =
          [.bare (flagName flag), .value "SANDBOARD_CONVERSATION"] := by
        cases flag <;> decide +kernel
      have hne : ("SANDBOARD_CONVERSATION" == var.variable) = false := by
        cases var <;> decide +kernel
      have hvalue : argument (commandEnv var prompt (some c)) (.value "SANDBOARD_CONVERSATION") =
          some c := by
        simp only [argument, commandEnv, List.lookup_cons, hne, Option.map_some,
          Option.toList_some, beq_self_eq_true]
      rw [Option.isSome_some, if_pos rfl, Option.map_some, Option.getD_some, hflag]
      simp only [List.mapM_cons, List.mapM_nil, hvalue]
      rfl

lemma arguments_model (model : Option String) :
    (flagLexemes [.bare "--model"] model).mapM (argument env) =
      some ((model.map fun m => ["--model", m]).getD []) := by
  cases model <;> rfl

/-- The command line passes the prompt, the id and the model as they are. -/
lemma arguments_command {e : Engine} (he : e ∈ engines) (var : PromptEnv) (prompt : String)
    (cid model : Option String) :
    (commandLexemes e var cid.isSome model).mapM (argument (commandEnv var prompt cid)) =
      some (engineArguments e prompt cid model) := by
  obtain ⟨hargv, hpost, htrailing⟩ := bare_of_mem he
  rw [commandLexemes, hargv, hpost, htrailing]
  exact arguments_append (arguments_append (arguments_append (arguments_append (arguments_append
    (arguments_bare _) (arguments_model model)) (arguments_bare _))
      (arguments_resume e.resume var prompt cid)) (arguments_prompt e.prompt var prompt cid))
        (arguments_bare _)

end Arguments

/-! ## The cockpit -/

/-- Behind an equals sign, a quoted text is the value of an assignment. -/
lemma lexes_assignment {head name : String} {ls : List Lexeme} {ps : List Piece}
    (hhead : Lexes .gap head ls (.word ps [] .none)) (hname : wordText ps = some name.toList)
    (value : String) :
    Lexes .gap (head ++ shellQuote value ++ "\n") (ls ++ [.text (name ++ value), .newline])
      .gap := by
  have hopening : opening (.word ps [] .none) = some ([], ps) := rfl
  have hread := escapes_backslash.read_quoteWith hopening value.toList
  have hvalue : Lexes (.word ps [] .none) (shellQuote value) [] _ :=
    ⟨by rw [shellQuote_eq, String.toList_ofList, hread]; rfl,
      by rw [shellQuote_eq, String.toList_ofList, hread]⟩
  have hline := (hhead.append hvalue).append (lexes_newline _)
  rw [escapes_backslash.wordLexeme_quoted hname, List.append_nil] at hline
  exact hline

/-- A line that exports a value. -/
def exportLexemes (name value : String) : List Lexeme :=
  [.bare "export", .text (name ++ "=" ++ value), .newline]

def conversationLexemes (conversationId : Option String) : List Lexeme :=
  (conversationId.map (exportLexemes "SANDBOARD_CONVERSATION")).getD []

def cloudLexemes (cloud : Option (String × String)) : List Lexeme :=
  (cloud.map fun e => exportLexemes "GOOGLE_CLOUD_PROJECT" e.1 ++
    exportLexemes "GOOGLE_CLOUD_QUOTA_PROJECT" e.1 ++ exportLexemes "GCP_PROJECT_ID" e.1 ++
    exportLexemes "GCP_LOCATION" e.2 ++ exportLexemes "CLOUD_ML_REGION" e.2 ++
    exportLexemes "VERTEX_LOCATION" e.2).getD []

lemma lexes_conversationExport (conversationId : Option String) :
    Lexes .gap (conversationExport conversationId) (conversationLexemes conversationId) .gap := by
  cases conversationId with
  | none => exact ⟨rfl, rfl⟩
  | some c =>
    have hhead : Lexes .gap "export SANDBOARD_CONVERSATION=" [.bare "export"]
        (.word ("SANDBOARD_CONVERSATION=".toList.map .plain) [] .none) :=
      lexes_ofList (by decide +kernel)
    exact lexes_assignment hhead (by decide +kernel) c

lemma lexes_cloudEnvExports (cloud : Option (String × String)) :
    Lexes .gap (cloudEnvExports cloud) (cloudLexemes cloud) .gap := by
  cases cloud with
  | none => exact ⟨rfl, rfl⟩
  | some e =>
    obtain ⟨project, location⟩ := e
    have h₁ : Lexes .gap "export GOOGLE_CLOUD_PROJECT=" [.bare "export"]
        (.word ("GOOGLE_CLOUD_PROJECT=".toList.map .plain) [] .none) :=
      lexes_ofList (by decide +kernel)
    have h₂ : Lexes .gap "export GOOGLE_CLOUD_QUOTA_PROJECT=" [.bare "export"]
        (.word ("GOOGLE_CLOUD_QUOTA_PROJECT=".toList.map .plain) [] .none) :=
      lexes_ofList (by decide +kernel)
    have h₃ : Lexes .gap "export GCP_PROJECT_ID=" [.bare "export"]
        (.word ("GCP_PROJECT_ID=".toList.map .plain) [] .none) :=
      lexes_ofList (by decide +kernel)
    have h₄ : Lexes .gap "export GCP_LOCATION=" [.bare "export"]
        (.word ("GCP_LOCATION=".toList.map .plain) [] .none) :=
      lexes_ofList (by decide +kernel)
    have h₅ : Lexes .gap "export CLOUD_ML_REGION=" [.bare "export"]
        (.word ("CLOUD_ML_REGION=".toList.map .plain) [] .none) :=
      lexes_ofList (by decide +kernel)
    have h₆ : Lexes .gap "export VERTEX_LOCATION=" [.bare "export"]
        (.word ("VERTEX_LOCATION=".toList.map .plain) [] .none) :=
      lexes_ofList (by decide +kernel)
    exact (((((lexes_assignment h₁ (by decide +kernel) project).append
      (lexes_assignment h₂ (by decide +kernel) project)).append
      (lexes_assignment h₃ (by decide +kernel) project)).append
      (lexes_assignment h₄ (by decide +kernel) location)).append
      (lexes_assignment h₅ (by decide +kernel) location)).append
      (lexes_assignment h₆ (by decide +kernel) location)

lemma lexes_seatCloudEnv : Lexes .gap seatCloudEnv (fixedLexemes seatCloudEnv) .gap :=
  (((lexes_fixed_ofList (by decide +kernel)).append (lexes_fixed_ofList (by decide +kernel))).append
    (lexes_fixed_ofList (by decide +kernel))).fixed

lemma lexes_hermesQuerySetup (engineId : String) (var : PromptEnv) :
    Lexes .gap (hermesQuerySetup engineId var) (fixedLexemes (hermesQuerySetup engineId var))
      .gap := by
  apply lexes_fixed
  unfold hermesQuerySetup
  split
  · cases var <;> decide +kernel
  · rfl

lemma lexes_anthropicInferenceExports (engineId : String) :
    Lexes .gap (anthropicInferenceExports engineId)
      (fixedLexemes (anthropicInferenceExports engineId)) .gap := by
  unfold anthropicInferenceExports
  split
  · exact ((lexes_fixed_ofList (by decide +kernel)).append
      (lexes_fixed_ofList (by decide +kernel))).fixed
  · split
    · exact ((lexes_fixed_ofList (by decide +kernel)).append
        (lexes_fixed_ofList (by decide +kernel))).fixed
    · exact lexes_fixed rfl

/-- What the script of a turn reads as: the prompt, the id and the model are one word each. -/
def turnLexemes (engineId : String) (e : Engine) (prompt : String) (resumeId : Option String)
    (cloud : Option (String × String)) (model : Option String) : List Lexeme :=
  [.bare "set", .bare "-e", .newline] ++ exportLexemes "SANDBOARD_PROMPT" prompt ++
    fixedLexemes (hermesQuerySetup engineId .prompt) ++
    (if trim engineId = "agy" then cloudLexemes cloud ++ fixedLexemes seatCloudEnv else []) ++
    fixedLexemes (anthropicInferenceExports engineId) ++ conversationLexemes resumeId ++
    fixedLexemes "cd /sandbox/repo 2>/dev/null || cd /\ntimeout --foreground 3600 " ++
    commandLexemes e .prompt resumeId.isSome model

/-- The script of a turn reads as the fixed script with the prompt, the id and the model as one
word each. -/
lemma lexemes_turnScript {engineId prompt script : String} {conversationId model : Option String}
    {cloud : Option (String × String)} {e : Engine} (he : lookup engineId = .ok e)
    (h : turnScript engineId prompt conversationId (cloudEnvExports cloud) model = .ok script) :
    lexemes script = some (turnLexemes engineId e prompt
      (conversationId.filter fun _ => supportsResume engineId) cloud (cliModel e.id model)) := by
  unfold turnScript at h
  generalize hid : (conversationId.filter fun _ => supportsResume engineId) = resumeId at h ⊢
  dsimp only at h
  cases hcmd : commandLine engineId .prompt resumeId model with
  | error e => rw [hcmd] at h; cases h
  | ok cmd =>
    rw [hcmd] at h
    cases h
    have hhead : Lexes .gap "set -e\nexport SANDBOARD_PROMPT="
        [.bare "set", .bare "-e", .newline, .bare "export"]
        (.word ("SANDBOARD_PROMPT=".toList.map .plain) [] .none) :=
      lexes_ofList (by decide +kernel)
    have hagy : Lexes .gap
        (if trim engineId = "agy" then cloudEnvExports cloud ++ seatCloudEnv else "")
        (if trim engineId = "agy" then cloudLexemes cloud ++ fixedLexemes seatCloudEnv else [])
        .gap := by
      split
      · exact (lexes_cloudEnvExports cloud).append lexes_seatCloudEnv
      · exact ⟨rfl, rfl⟩
    have hcd : Lexes .gap ("cd " ++ workdir ++ " 2>/dev/null || cd /\ntimeout --foreground 3600 ")
        (fixedLexemes "cd /sandbox/repo 2>/dev/null || cd /\ntimeout --foreground 3600 ") .gap := by
      have heq : "cd " ++ workdir ++ " 2>/dev/null || cd /\ntimeout --foreground 3600 " =
          "cd /sandbox/repo 2>/dev/null || cd /\ntimeout --foreground 3600 " := by decide +kernel
      rw [heq]
      exact lexes_fixed_ofList (by decide +kernel)
    have hprompt : Lexes .gap ("set -e\nexport SANDBOARD_PROMPT=" ++ shellQuote prompt ++ "\n")
        ([.bare "set", .bare "-e", .newline] ++ exportLexemes "SANDBOARD_PROMPT" prompt) .gap :=
      lexes_assignment hhead (by decide +kernel) prompt
    have hstart := hprompt.append (lexes_hermesQuerySetup engineId .prompt)
    have henv := (hstart.append hagy).append (lexes_anthropicInferenceExports engineId)
    have hbefore := (henv.append (lexes_conversationExport resumeId)).append hcd
    have hpart := Part.after hbefore (part_commandLine he hcmd)
    rw [turnLexemes, ← hpart.lexemes]
    simp only [hermesInferenceExports, String.append_empty]

/-- The engine is known, so there is a script. -/
lemma exists_commandLine {engineId : String} {e : Engine} (he : lookup engineId = .ok e)
    (var : PromptEnv) (cid model : Option String) :
    ∃ cmd, commandLine engineId var cid model = .ok cmd := by
  rw [commandLine, he]
  exact ⟨_, rfl⟩

lemma exists_turnScript {engineId : String} {e : Engine} (he : lookup engineId = .ok e)
    (prompt : String) (conversationId : Option String) (agyCloudExports : String)
    (model : Option String) :
    ∃ script, turnScript engineId prompt conversationId agyCloudExports model = .ok script := by
  obtain ⟨cmd, hcmd⟩ := exists_commandLine he .prompt
    (conversationId.filter fun _ => supportsResume engineId) model
  rw [turnScript, hcmd]
  exact ⟨_, rfl⟩

/-- A part goes on with a flag and its quoted value, when there is one. -/
lemma part_quotedFlag {s flag : String} {ls fs : List Lexeme} (hs : Part s ls)
    (hflag : Lexes .gap flag fs .gap) (value : Option String) :
    Part (s ++ quotedFlag flag value) (ls ++ flagLexemes fs value) := by
  cases value with
  | none =>
    rw [quotedFlag, flagLexemes, Option.map_none, Option.map_none, Option.getD_none,
      Option.getD_none, String.append_empty, List.append_nil]
    exact hs
  | some v =>
    rw [quotedFlag, flagLexemes, Option.map_some, Option.map_some, Option.getD_some,
      Option.getD_some, String.append_assoc, ← String.append_assoc]
    exact hs.append (Part.after hflag (part_shellQuote v))

lemma part_attachModel {s : String} {ls : List Lexeme} (hs : Part s ls) (engineId : String)
    (model : Option String) :
    Part (s ++ attachModel engineId model)
      (ls ++ flagLexemes [.bare "--model"] (cliModel engineId model)) := by
  unfold attachModel cliModelArgv
  cases cliModel engineId model with
  | none =>
    rw [flagLexemes, Option.map_none, Option.map_none, Option.map_none, Option.getD_none,
      Option.getD_none, String.append_empty, List.append_nil]
    exact hs
  | some m =>
    have hflag : Lexes .gap "--model " [.bare "--model"] .gap :=
    lexes_ofList (by decide +kernel)
    rw [flagLexemes, Option.map_some, Option.map_some, Option.map_some, Option.getD_some,
      Option.getD_some, ← String.append_assoc]
    exact hs.append (Part.after hflag (part_shellSingleQuote m))

/-- The words of the interactive command of an engine, with the model, the id and the prompt in
their places. -/
def attachCommandLexemes (engineId : String) (cid prompt model : Option String) : List Lexeme :=
  if engineId = "opencode" then
    fixedLexemes "opencode" ++ flagLexemes [.bare "--model"] (cliModel "opencode" model) ++
      flagLexemes [.bare "--session"] cid
  else if engineId = "claude" then
    fixedLexemes
      "claude --bare --strict-mcp-config --mcp-config /sandbox/.sandboard/mcp/claude_mcp.json"
  else if engineId = "agy" then
    fixedLexemes "agy --dangerously-skip-permissions" ++
      flagLexemes [.bare "--model"] (cliModel "agy" model) ++
      flagLexemes [.bare "--conversation"] cid ++ flagLexemes [.bare "-p"] prompt
  else if engineId = "hermes" then
    fixedLexemes "hermes --cli --provider openrouter" ++
      flagLexemes [.bare "--model"] (cliModel "hermes" model) ++ flagLexemes [.bare "--resume"] cid
  else
    fixedLexemes "agent --trust --approve-mcps --sandbox disabled" ++
      flagLexemes [.bare "--model"] (cliModel "cursor" model) ++
      flagLexemes [.bare "--resume"] cid ++ flagLexemes [] prompt

lemma part_attachAgent (engineId : String) (cid prompt model : Option String) :
    Part (attachAgent engineId cid prompt model)
      (attachCommandLexemes engineId cid prompt model) := by
  have hsession : Lexes .gap "--session " [.bare "--session"] .gap :=
    lexes_ofList (by decide +kernel)
  have hconversation : Lexes .gap "--conversation " [.bare "--conversation"] .gap :=
    lexes_ofList (by decide +kernel)
  have hresume : Lexes .gap "--resume " [.bare "--resume"] .gap :=
    lexes_ofList (by decide +kernel)
  have hprompt : Lexes .gap "-p " [.bare "-p"] .gap :=
    lexes_ofList (by decide +kernel)
  have hnone : Lexes .gap "" [] .gap := ⟨rfl, rfl⟩
  unfold attachAgent attachCommandLexemes
  split
  · have hhead : Part "opencode" (fixedLexemes "opencode") :=
      part_fixed (isSome_part_ofList (by decide +kernel))
    exact part_quotedFlag (part_attachModel hhead "opencode" model) hsession cid
  · split
    · exact part_fixed (isSome_part_ofList (by decide +kernel))
    · split
      · have hhead : Part "agy --dangerously-skip-permissions" (fixedLexemes _) :=
          part_fixed (isSome_part_ofList (by decide +kernel))
        exact part_quotedFlag (part_quotedFlag (part_attachModel hhead "agy" model)
          hconversation cid) hprompt prompt
      · split
        · have hhead : Part "hermes --cli --provider openrouter" (fixedLexemes _) :=
            part_fixed (isSome_part_ofList (by decide +kernel))
          exact part_quotedFlag (part_attachModel hhead "hermes" model) hresume cid
        · have hhead : Part "agent --trust --approve-mcps --sandbox disabled" (fixedLexemes _) :=
            part_fixed (isSome_part_ofList (by decide +kernel))
          exact part_quotedFlag (part_quotedFlag (part_attachModel hhead "cursor" model)
            hresume cid) hnone prompt

/-- What the script of an attach reads as. -/
def attachLexemes (engineId : String) (cid prompt : Option String)
    (cloud : Option (String × String)) (model : Option String) : List Lexeme :=
  cloudLexemes cloud ++ (if engineId = "agy" then fixedLexemes seatCloudEnv else []) ++
    fixedLexemes (anthropicInferenceExports engineId) ++
    fixedLexemes "cd /sandbox/repo 2>/dev/null || cd /sandbox; exec " ++
    attachCommandLexemes engineId cid prompt model

/-- The script of an attach reads as the fixed script with the prompt, the id and the model as one
word each. -/
lemma lexemes_attachScript (engineId : String) (conversationId initialPrompt : Option String)
    (cloud : Option (String × String)) (model : Option String) :
    lexemes (attachScript engineId conversationId initialPrompt (cloudEnvExports cloud) model) =
      some (attachLexemes (trim engineId) (attachId (trim engineId) conversationId)
        (attachPrompt initialPrompt) cloud model) := by
  have hseat : Lexes .gap (if trim engineId = "agy" then seatCloudEnv else "")
      (if trim engineId = "agy" then fixedLexemes seatCloudEnv else []) .gap := by
    split
    · exact lexes_seatCloudEnv
    · exact ⟨rfl, rfl⟩
  have hcd : Lexes .gap ("cd " ++ workdir ++ " 2>/dev/null || cd /sandbox; exec ")
      (fixedLexemes "cd /sandbox/repo 2>/dev/null || cd /sandbox; exec ") .gap := by
    have heq : "cd " ++ workdir ++ " 2>/dev/null || cd /sandbox; exec " =
        "cd /sandbox/repo 2>/dev/null || cd /sandbox; exec " := by decide +kernel
    rw [heq]
    exact lexes_fixed_ofList (by decide +kernel)
  have hbefore := (((lexes_cloudEnvExports cloud).append hseat).append
    (lexes_anthropicInferenceExports (trim engineId))).append hcd
  have hpart := Part.after hbefore (part_attachAgent (trim engineId)
    (attachId (trim engineId) conversationId) (attachPrompt initialPrompt) model)
  rw [attachLexemes, ← hpart.lexemes]
  simp only [attachScript, hermesInferenceExports, String.append_empty]

end Engine

end Sandboard

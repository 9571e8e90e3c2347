import Mathlib.Tactic.IntervalCases
import Sandboard.Cockpit.Scripts

/-!
# The script that starts a run

The agent of a card is started by a script that hands its command line to another shell, between
single quotes.  The briefing and the id of the conversation travel in exported variables, but the
model stands in the command line between single quotes of its own: the outer shell reads it
unquoted, and the inner shell reads what is left of it.
-/

namespace Sandboard

open Text Shell

namespace Engine

/-! ## The script -/

def agentLog : String := "/tmp/agent.log"

def agentPid : String := "/tmp/agent.pid"

def agentStatus : String := "/tmp/agent.status"

/-- Where the output of the command and its status go. -/
def redirections : String := ">> " ++ agentLog ++ " 2>&1; echo $? > " ++ agentStatus

/-- What the inner shell runs. -/
def wrappedCommand (secs : ℕ) (cmd : String) : String :=
  ("echo $$ > " ++ agentPid ++ "; cd " ++ workdir ++ " && timeout --foreground ") ++
    toString secs ++ " " ++ cmd ++ " " ++ redirections

/-- What follows the command of the inner shell. -/
def startTail : String :=
  "</dev/null >/dev/null 2>&1 &\nfor i in $(seq 1 40); do\n  if [ -s " ++ agentPid ++
    " ]; then exit 0; fi\n  sleep 0.25\ndone\necho agent-did-not-start >&2; exit 1"

/-- `start_script`; the time is all that it reads of the configuration. -/
def startScript (secs : ℕ) (briefing engineId : String) (conversationId model : Option String) :
    Except UnknownEngine String := do
  let cmd ← commandLine engineId .briefing conversationId model
  return ("set -e\nrm -f " ++ agentPid ++ " " ++ agentStatus ++ "\n: > " ++ agentLog ++
      "\nexport SANDBOARD_BRIEFING=") ++ shellQuote briefing ++ "\n" ++
    hermesQuerySetup engineId .briefing ++ anthropicInferenceExports engineId ++
    hermesInferenceExports engineId ++ conversationExport conversationId ++
    "setsid nohup bash -c '" ++ wrappedCommand secs cmd ++ "' " ++ startTail

/-! ## What the agent is started with -/

/-- The parts of the command line behind the model. -/
def afterParts (e : Engine) (resumes : Bool) : List String :=
  optionalPart e.postModel ++ ((if resumes then e.resume else none).map ResumeFlag.argv).toList ++
    promptParts e.prompt .briefing ++ optionalPart e.trailing

/-- The text of the inner command behind the model. -/
def afterModel (e : Engine) (resumes : Bool) : String :=
  joinParts (afterParts e resumes) ++ " " ++ redirections

/-- The script begins with an empty log, and without the files of an earlier run. -/
def outerSetup : String :=
  "set -e\nrm -f /tmp/agent.pid /tmp/agent.status\n: > /tmp/agent.log\n"

def innerSetup : String :=
  "echo $$ > /tmp/agent.pid; cd /sandbox/repo && timeout --foreground "

/-- What the outer shell reads: the inner command is one word. -/
def startLexemes (engineId briefing : String) (conversationId : Option String) (inner : String) :
    List Lexeme :=
  fixedLexemes outerSetup ++ exportLexemes "SANDBOARD_BRIEFING" briefing ++
    fixedLexemes (hermesQuerySetup engineId .briefing) ++
    fixedLexemes (anthropicInferenceExports engineId) ++ conversationLexemes conversationId ++
    fixedLexemes "setsid nohup bash -c " ++ [.text inner] ++ fixedLexemes startTail

/-- What the inner shell reads; `words` are those of the model. -/
def wrappedLexemes (secs : ℕ) (e : Engine) (resumes : Bool) (words : List Lexeme) : List Lexeme :=
  fixedLexemes innerSetup ++ [.bare (toString secs)] ++ fixedLexemes e.argvPrefix ++ words ++
    fixedLexemes (afterModel e resumes)

/-- The words that pass the model. -/
def ModelWords : Option String → List Lexeme → Prop
  | none, words => words = []
  | some m, words => ∃ w : Lexeme, w.StandsFor m ∧ words = [.bare "--model", w]

/-- The script starts the fixed command of the engine with this model and runs nothing else. -/
def StartsAgent (secs : ℕ) (e : Engine) (briefing engineId : String)
    (conversationId model : Option String) (script : String) : Prop :=
  ∃ inner words, lexemes script = some (startLexemes engineId briefing conversationId inner) ∧
    lexemes inner = some (wrappedLexemes secs e conversationId.isSome words) ∧
      ModelWords (cliModel e.id model) words

/-- The text that `shell_single_quote` puts between its quotes. -/
def escapeSingle (s : String) : String := replaceChar '\'' "'\"'\"'" s

/-- The model is the same after the outer shell has read it unquoted and the inner shell has read
what was left. -/
def Survives (m : String) : Prop := (spelled (escapeSingle m)).bind wordFor = some m

instance (m : String) : Decidable (Survives m) := inferInstanceAs (Decidable (_ = _))

/-! ## The texts around the model -/

section Texts

variable {e : Engine} {secs : ℕ} {briefing engineId cmd : String}
  {conversationId model : Option String} {m : String}

lemma calm_joinParts {parts : List String} (hne : parts ≠ []) (h : ∀ part ∈ parts, Calm part) :
    Calm (joinParts parts) := by
  induction parts with
  | nil => exact absurd rfl hne
  | cons part parts ih =>
    have hpart := h part List.mem_cons_self
    cases parts with
    | nil => exact hpart
    | cons next parts =>
      exact hpart.append (ih (List.cons_ne_nil _ _) fun p hp => h p (List.mem_cons_of_mem part hp))

lemma joinParts_append {ss ts : List String} (hs : ss ≠ []) (ht : ts ≠ []) :
    joinParts (ss ++ ts) = joinParts ss ++ " " ++ joinParts ts := by
  induction ss with
  | nil => exact absurd rfl hs
  | cons s ss ih =>
    cases ss with
    | nil =>
      obtain ⟨t, ts, rfl⟩ := List.exists_cons_of_ne_nil ht
      rfl
    | cons s' ss =>
      have hleft : joinParts (s :: s' :: ss ++ ts) = s ++ " " ++ joinParts (s' :: ss ++ ts) := rfl
      have hright : joinParts (s :: s' :: ss) = s ++ " " ++ joinParts (s' :: ss) := rfl
      rw [hleft, ih (List.cons_ne_nil _ _), hright]
      simp only [String.append_assoc]

lemma afterParts_ne_nil (e : Engine) (resumes : Bool) : afterParts e resumes ≠ [] := by
  unfold afterParts promptParts
  cases e.prompt <;> simp

lemma calm_afterParts (he : e ∈ engines) (resumes : Bool) :
    ∀ part ∈ afterParts e resumes, Calm part := by
  obtain ⟨-, hpost, htrailing⟩ := calm_of_mem he
  intro part hpart
  unfold afterParts at hpart
  rw [List.mem_append, List.mem_append, List.mem_append] at hpart
  rcases hpart with ((hpart | hpart) | hpart) | hpart
  · exact calm_optionalPart hpost part hpart
  · obtain ⟨flag, -, rfl⟩ := Option.map_eq_some_iff.1 (Option.mem_toList.1 hpart)
    exact calm_argv flag
  · exact calm_prompt e.prompt .briefing part hpart
  · exact calm_optionalPart htrailing part hpart

lemma calm_afterModel (he : e ∈ engines) (resumes : Bool) : Calm (afterModel e resumes) := by
  have hjoin := calm_joinParts (afterParts_ne_nil e resumes) (calm_afterParts he resumes)
  have heq : redirections = ">> /tmp/agent.log 2>&1; echo $? > /tmp/agent.status" := by
    decide +kernel
  unfold afterModel
  rw [heq]
  exact hjoin.append_blank (isSome_part_ofList (by decide +kernel))
    (unquoted_ofList (by decide +kernel) (by decide +kernel))

/-- The text of the inner command in front of the model. -/
def commandHead (secs : ℕ) (e : Engine) : String :=
  innerSetup ++ toString secs ++ " " ++ e.argvPrefix

lemma isOrdinary_of_isDigit {c : Char} (h : c.isDigit = true) : isOrdinary c = true := by
  obtain ⟨hlow, hhigh⟩ := isDigit_iff.1 h
  have hall : ∀ n, 48 ≤ n → n ≤ 57 → isOrdinary (Char.ofNat n) = true := by
    intro n hn hn'
    interval_cases n <;> decide
  have hc := hall c.toNat hlow hhigh
  rwa [Char.ofNat_toNat] at hc

lemma part_commandHead (he : e ∈ engines) (secs : ℕ) : Part (commandHead secs e)
    (fixedLexemes innerSetup ++ [.bare (toString secs)] ++ fixedLexemes e.argvPrefix) := by
  have hne : (toString secs).toList ≠ [] := by
    rw [toList_toString_nat]
    exact Nat.toDigits_ne_nil
  have hsecs : Part (toString secs) [.bare (toString secs)] :=
    part_ordinary hne fun c hc => isOrdinary_of_isDigit (isDigit_of_mem_toString hc)
  have hstart : Lexes .gap innerSetup (fixedLexemes innerSetup) .gap :=
    lexes_fixed_ofList (by decide +kernel)
  exact (Part.after hstart hsecs).append (calm_of_mem he).1.fixed

lemma unquoted_commandHead (he : e ∈ engines) (secs : ℕ) : '\'' ∉ (commandHead secs e).toList := by
  have hstart : Unquoted innerSetup := unquoted_ofList (by decide +kernel) (by decide +kernel)
  have hsecs : '\'' ∉ (toString secs).toList := by
    intro hmem
    cases isDigit_of_mem_toString hmem
  have hargv := (calm_of_mem he).1.unquoted
  simp only [commandHead, String.toList_append, List.mem_append, not_or]
  exact ⟨⟨⟨hstart.1, hsecs⟩, by decide⟩, hargv.1⟩

lemma startTail_eq : startTail =
    "</dev/null >/dev/null 2>&1 &\nfor i in $(seq 1 40); do\n" ++
      ("  if [ -s /tmp/agent.pid ]; then exit 0; fi\n  sleep 0.25\n" ++
        "done\necho agent-did-not-start >&2; exit 1") := by
  decide +kernel

lemma part_startTail : Part startTail (fixedLexemes startTail) := by
  rw [startTail_eq]
  exact Part.fixed (Part.after (lexes_fixed_ofList (by decide +kernel))
    (Part.after (lexes_fixed_ofList (by decide +kernel))
      (part_fixed (isSome_part_ofList (by decide +kernel)))))

lemma unquoted_startTail : Unquoted startTail := by
  rw [startTail_eq]
  exact (unquoted_ofList (by decide +kernel) (by decide +kernel)).append
    ((unquoted_ofList (by decide +kernel) (by decide +kernel)).append
      (unquoted_ofList (by decide +kernel) (by decide +kernel)))

/-- What stands in front of the inner command. -/
def startHead (briefing engineId : String) (conversationId : Option String) : String :=
  ("set -e\nrm -f " ++ agentPid ++ " " ++ agentStatus ++ "\n: > " ++ agentLog ++
      "\nexport SANDBOARD_BRIEFING=") ++ shellQuote briefing ++ "\n" ++
    hermesQuerySetup engineId .briefing ++ anthropicInferenceExports engineId ++
    hermesInferenceExports engineId ++ conversationExport conversationId ++
    "setsid nohup bash -c "

/-- The words in front of the inner command. -/
def headLexemes (engineId briefing : String) (conversationId : Option String) : List Lexeme :=
  fixedLexemes outerSetup ++ exportLexemes "SANDBOARD_BRIEFING" briefing ++
    fixedLexemes (hermesQuerySetup engineId .briefing) ++
    fixedLexemes (anthropicInferenceExports engineId) ++ conversationLexemes conversationId ++
    fixedLexemes "setsid nohup bash -c "

lemma lexes_startHead (briefing engineId : String) (conversationId : Option String) :
    Lexes .gap (startHead briefing engineId conversationId)
      (headLexemes engineId briefing conversationId) .gap := by
  have heq : "set -e\nrm -f " ++ agentPid ++ " " ++ agentStatus ++ "\n: > " ++ agentLog ++
      "\nexport SANDBOARD_BRIEFING=" =
        outerSetup ++ "export SANDBOARD_BRIEFING=" := by
    decide +kernel
  have hexport : Lexes .gap "export SANDBOARD_BRIEFING=" [.bare "export"]
      (.word ("SANDBOARD_BRIEFING=".toList.map .plain) [] .none) :=
    lexes_ofList (by decide +kernel)
  have hname : wordText ("SANDBOARD_BRIEFING=".toList.map .plain) =
      some "SANDBOARD_BRIEFING=".toList := by decide +kernel
  have hsetup : Lexes .gap outerSetup (fixedLexemes outerSetup) .gap :=
    lexes_fixed_ofList (by decide +kernel)
  have hbash : Lexes .gap "setsid nohup bash -c " (fixedLexemes "setsid nohup bash -c ") .gap :=
    lexes_fixed_ofList (by decide +kernel)
  have hbriefing := lexes_assignment (hsetup.append hexport) hname briefing
  have hstart := (hbriefing.append (lexes_hermesQuerySetup engineId .briefing)).append
    (lexes_anthropicInferenceExports engineId)
  have hall := (hstart.append (lexes_conversationExport conversationId)).append hbash
  have hkey : "SANDBOARD_BRIEFING" ++ "=" = "SANDBOARD_BRIEFING=" := by decide +kernel
  unfold startHead headLexemes exportLexemes
  rw [heq, hkey]
  simpa only [hermesInferenceExports, String.append_empty, List.append_assoc, List.cons_append,
    List.nil_append] using hall

lemma shellSingleQuote_escape (m : String) :
    shellSingleQuote m = "'" ++ escapeSingle m ++ "'" := rfl

/-- Quotes do not count, and a single quote is replaced by quotes. -/
lemma weight_escapeSingle (m : String) :
    weight (escapeSingle m).toList = weight m.toList := by
  rw [escapeSingle, toList_replaceQuote]
  induction m.toList with
  | nil => rfl
  | cons c cs ih =>
    rw [List.flatMap_cons, weight_append, ih, weight_cons]
    by_cases hc : c = '\''
    · rw [if_pos hc, hc]
      rfl
    · rw [if_neg hc, weight_cons, weight_nil, Nat.add_zero]

/-- The command of the inner shell, around the model. -/
lemma wrappedCommand_eq (he : lookup engineId = .ok e)
    (h : commandLine engineId .briefing conversationId model = .ok cmd) :
    wrappedCommand secs cmd = match cliModel e.id model with
      | none => commandHead secs e ++ " " ++ afterModel e conversationId.isSome
      | some m => (commandHead secs e ++ " --model ") ++ shellSingleQuote m ++
          (" " ++ afterModel e conversationId.isSome) := by
  have hsetup : "echo $$ > " ++ agentPid ++ "; cd " ++ workdir ++ " && timeout --foreground " =
      innerSetup := by decide +kernel
  have hcmd : cmd = joinParts ([e.argvPrefix] ++ (cliModelArgv e.id model).toList ++
      afterParts e conversationId.isSome) := by
    simp only [commandLine, he, bind, Except.bind, pure, Except.pure, Except.ok.injEq] at h
    rw [← h, afterParts]
    simp only [List.append_assoc]
    rfl
  have hne := afterParts_ne_nil e conversationId.isSome
  unfold wrappedCommand
  rw [hsetup, hcmd]
  unfold cliModelArgv
  cases cliModel e.id model with
  | none =>
    have hjoin := joinParts_append (List.cons_ne_nil e.argvPrefix []) hne
    rw [Option.map_none, Option.toList_none, List.append_nil, hjoin]
    simp only [joinParts, commandHead, afterModel, String.append_assoc]
  | some m =>
    have hmodel : " --model " = " " ++ "--model " := by decide +kernel
    have hjoin := joinParts_append
      (List.cons_ne_nil e.argvPrefix ["--model " ++ shellSingleQuote m]) hne
    rw [Option.map_some, Option.toList_some, List.singleton_append, hjoin, hmodel]
    simp only [joinParts, commandHead, afterModel, String.append_assoc]

/-- The quotes around the inner command. -/
lemma quotes_eq (a b c : String) : a ++ "setsid nohup bash -c '" ++ b ++ "' " ++ c =
    (a ++ "setsid nohup bash -c ") ++ (("'" ++ b ++ "'") ++ " " ++ c) := by
  have hopen : "setsid nohup bash -c '" = "setsid nohup bash -c " ++ "'" := by decide +kernel
  have hclose : "' " = "'" ++ " " := by decide +kernel
  rw [hopen, hclose]
  simp only [String.append_assoc]

/-- The script is its head, the inner command between quotes and the tail. -/
lemma startScript_eq {script : String}
    (h : startScript secs briefing engineId conversationId model = .ok script) :
    ∃ cmd, commandLine engineId .briefing conversationId model = .ok cmd ∧
      script = startHead briefing engineId conversationId ++
        (("'" ++ wrappedCommand secs cmd ++ "'") ++ " " ++ startTail) := by
  unfold startScript at h
  cases hcmd : commandLine engineId .briefing conversationId model with
  | error e =>
    rw [hcmd] at h
    exact absurd h nofun
  | ok cmd =>
    rw [hcmd] at h
    have hscript := Except.ok.inj h
    refine ⟨cmd, rfl, ?_⟩
    exact hscript.symm.trans (quotes_eq _ _ _)

end Texts

/-! ## Which models start the agent -/

section Starts

variable {e : Engine} {secs : ℕ} {briefing engineId script : String}
  {conversationId model : Option String}

/-- What the outer shell reads of the script, when the inner command is one word. -/
lemma lexemes_startScript {quoted inner : String} (hquoted : Part quoted [.text inner]) :
    lexemes (startHead briefing engineId conversationId ++ (quoted ++ " " ++ startTail)) =
      some (startLexemes engineId briefing conversationId inner) := by
  have hall := Part.after (lexes_startHead briefing engineId conversationId)
    (hquoted.append part_startTail)
  rw [hall.lexemes]
  simp only [startLexemes, headLexemes, List.append_assoc]

lemma lexes_beforeModel (he : e ∈ engines) (secs : ℕ) :
    Lexes .gap (commandHead secs e ++ " --model ")
      (fixedLexemes innerSetup ++ [.bare (toString secs)] ++ fixedLexemes e.argvPrefix ++
        [.bare "--model"]) .gap := by
  have hmodel : " --model " = " " ++ "--model " := by decide +kernel
  have hflag : Lexes .gap "--model " [.bare "--model"] .gap := lexes_ofList (by decide +kernel)
  rw [hmodel, ← String.append_assoc]
  exact (part_commandHead he secs).blank.append hflag

/-- Without a model, nothing in the inner command is quoted. -/
lemma startsAgent_of_none (he : lookup engineId = .ok e) (hmodel : cliModel e.id model = none)
    (h : startScript secs briefing engineId conversationId model = .ok script) :
    StartsAgent secs e briefing engineId conversationId model script := by
  obtain ⟨cmd, hcmd, rfl⟩ := startScript_eq h
  have hmem := mem_of_lookup he
  have hafter := calm_afterModel hmem conversationId.isSome
  have hwrapped : wrappedCommand secs cmd = _ := wrappedCommand_eq he hcmd
  rw [hmodel] at hwrapped
  dsimp only at hwrapped
  have hquote : '\'' ∉ (wrappedCommand secs cmd).toList := by
    rw [hwrapped]
    simp only [String.toList_append, List.mem_append, not_or]
    exact ⟨⟨unquoted_commandHead hmem secs, by decide⟩, hafter.unquoted.1⟩
  refine ⟨wrappedCommand secs cmd, [], lexemes_startScript (part_enclosed hquote), ?_, ?_⟩
  · have hinner := (part_commandHead hmem secs).append hafter.fixed
    rw [hwrapped, hinner.lexemes, wrappedLexemes, List.append_nil]
  · rw [hmodel]
    rfl

/-- With a model, the inner command stands around it. -/
lemma startScript_of_some {m : String} (he : lookup engineId = .ok e)
    (hmodel : cliModel e.id model = some m)
    (h : startScript secs briefing engineId conversationId model = .ok script) :
    script = startHead briefing engineId conversationId ++
      (nested (commandHead secs e ++ " --model ") (escapeSingle m)
        (" " ++ afterModel e conversationId.isSome) ++ " " ++ startTail) := by
  obtain ⟨cmd, hcmd, rfl⟩ := startScript_eq h
  have hwrapped : wrappedCommand secs cmd = _ := wrappedCommand_eq he hcmd
  rw [hmodel] at hwrapped
  dsimp only at hwrapped
  rw [hwrapped, shellSingleQuote_escape, nested]
  simp only [String.append_assoc]

/-- A model that survives is the word that the inner shell reads. -/
lemma startsAgent_of_survives {m : String} (he : lookup engineId = .ok e)
    (hmodel : cliModel e.id model = some m) (hm : Survives m)
    (h : startScript secs briefing engineId conversationId model = .ok script) :
    StartsAgent secs e briefing engineId conversationId model script := by
  have hmem := mem_of_lookup he
  have hafter := calm_afterModel hmem conversationId.isSome
  obtain ⟨x, hspelled, hword⟩ := Option.bind_eq_some_iff.1 hm
  obtain ⟨ps, hread, htext⟩ := wordFor_eq_some.1 hword
  have hbefore : '\'' ∉ (commandHead secs e ++ " --model ").toList := by
    rw [String.toList_append, List.mem_append, not_or]
    exact ⟨unquoted_commandHead hmem secs, by decide⟩
  have hblank : '\'' ∉ (" " ++ afterModel e conversationId.isSome).toList := by
    rw [String.toList_append, List.mem_append, not_or]
    exact ⟨by decide, hafter.unquoted.1⟩
  have hx : Lexes .gap x [] (.word ps [] .none) :=
    ⟨by rw [hread]; rfl, congrArg Prod.snd hread⟩
  have hpart : Part (commandHead secs e ++ " --model " ++ x)
      (fixedLexemes innerSetup ++ [.bare (toString secs)] ++ fixedLexemes e.argvPrefix ++
        [.bare "--model"] ++ [wordLexeme ps]) :=
    Part.after (lexes_beforeModel hmem secs) (part_iff.2 ⟨[], ps, hx, rfl⟩)
  have hinner := hpart.append hafter.fixed
  rw [String.append_assoc] at hinner
  refine ⟨commandHead secs e ++ " --model " ++ x ++ (" " ++ afterModel e conversationId.isSome),
    [.bare "--model", wordLexeme ps], ?_, ?_, ?_⟩
  · rw [startScript_of_some he hmodel h]
    exact lexemes_startScript (part_nested hbefore hblank hspelled)
  · rw [hinner.lexemes]
    simp only [wrappedLexemes, List.append_assoc, List.cons_append, List.nil_append]
  · rw [hmodel]
    exact ⟨wordLexeme ps, standsFor_wordLexeme htext, rfl⟩

/-- What stands in front of the inner command is read first. -/
lemma lexemesFrom_behindHead {quoted inner : String}
    (h : lexemes (startHead briefing engineId conversationId ++ (quoted ++ " " ++ startTail)) =
      some (startLexemes engineId briefing conversationId inner)) :
    lexemesFrom .gap (quoted.toList ++ ([' '] ++ startTail.toList)) =
      some (.text inner :: fixedLexemes startTail) := by
  have hsplit : startLexemes engineId briefing conversationId inner =
      headLexemes engineId briefing conversationId ++ (.text inner :: fixedLexemes startTail) := by
    simp only [startLexemes, headLexemes, List.append_assoc, List.cons_append, List.nil_append]
  have hblank : " ".toList = [' '] := rfl
  rw [lexemes_eq, String.toList_append, hsplit] at h
  have hrest := (lexes_startHead briefing engineId conversationId).lexemesFrom h
  rw [String.toList_append, String.toList_append, hblank, List.append_assoc] at hrest
  exact hrest

lemma lexemesFrom_behindFlag (he : e ∈ engines) {resumes : Bool} {s : List Char} {w : Lexeme}
    (h : lexemesFrom .gap ((commandHead secs e ++ " --model ").toList ++ s) =
      some (wrappedLexemes secs e resumes [.bare "--model", w])) :
    lexemesFrom .gap s = some (w :: fixedLexemes (afterModel e resumes)) := by
  have hsplit : wrappedLexemes secs e resumes [.bare "--model", w] =
      (fixedLexemes innerSetup ++ [.bare (toString secs)] ++ fixedLexemes e.argvPrefix ++
        [.bare "--model"]) ++ (w :: fixedLexemes (afterModel e resumes)) := by
    simp only [wrappedLexemes, List.append_assoc, List.cons_append, List.nil_append]
  rw [hsplit] at h
  exact (lexes_beforeModel he secs).lexemesFrom h

/-- When the agent is started, the model survived: the inner shell reads it from what the outer
shell read, and neither adds to it. -/
lemma survives_of_startsAgent {m : String} (he : lookup engineId = .ok e)
    (hmodel : cliModel e.id model = some m)
    (h : startScript secs briefing engineId conversationId model = .ok script)
    (hstarts : StartsAgent secs e briefing engineId conversationId model script) :
    Survives m := by
  obtain ⟨inner, words, hscript, hinner, hwords⟩ := hstarts
  rw [hmodel] at hwords
  obtain ⟨w, hw, rfl⟩ := hwords
  have hmem := mem_of_lookup he
  have hafter := calm_afterModel hmem conversationId.isSome
  have hbefore : '\'' ∉ (commandHead secs e ++ " --model ").toList := by
    rw [String.toList_append, List.mem_append, not_or]
    exact ⟨unquoted_commandHead hmem secs, by decide⟩
  have hblank : balanced [' '] = true := rfl
  rw [startScript_of_some he hmodel h] at hscript
  have hquoted := lexemesFrom_behindHead hscript
  rcases spelled_of_nested hbefore hafter.unquoted.1 hafter.part hafter.unquoted.2
    unquoted_startTail.1 (balanced_append hblank unquoted_startTail.2) hquoted with
    ⟨x, hspelled, rfl⟩ | ⟨x, rfl, hless⟩
  · rw [lexemes_eq, String.toList_append, String.toList_append, List.append_assoc] at hinner
    have hword := lexemesFrom_behindFlag hmem hinner
    have hlength : (lexemesFrom .gap (afterModel e conversationId.isSome).toList).map
        List.length = some (fixedLexemes (afterModel e conversationId.isSome)).length := by
      rw [← lexemes_eq, hafter.fixed.lexemes]
      rfl
    have hweight := weight_spelled hspelled
    rw [weight_escapeSingle] at hweight
    rw [String.toList_append] at hword
    have hsame := wordFor_of_lexemesFrom hafter.starts hafter.unquoted.1 hafter.unquoted.2 hword hw
      hlength hweight
    rw [Survives, hspelled]
    exact hsame
  · -- The inner command ends before the model does.
    rw [lexemes_eq, String.toList_append] at hinner
    have hweight := weight_first (lexemesFrom_behindFlag hmem hinner) hw
    rw [weight_escapeSingle] at hless
    have hgap : Place.gap.weight = 0 := rfl
    omega

end Starts

/-! ## Every command line -/

/-- Quoted texts are words, and the scripts run the fixed command of the engine with the prompt,
the id of the conversation and the model as they are. -/
structure CommandsExact (secs : ℕ) (engineId briefing prompt : String)
    (conversationId initialPrompt model : Option String) (cloud : Option (String × String)) :
    Prop where
  quoted : ∀ s, (QuotedWord (shellQuote s) s ∧ lexemes (shellQuote s) = some [.text s]) ∧
    (QuotedWord (shellSingleQuote s) s ∧ lexemes (shellSingleQuote s) = some [.text s])
  turn : ∀ e, lookup engineId = .ok e →
    let resumeId := conversationId.filter fun _ => supportsResume engineId
    ∃ script, turnScript engineId prompt conversationId (cloudEnvExports cloud) model = .ok script ∧
      lexemes script =
        some (turnLexemes engineId e prompt resumeId cloud (cliModel e.id model)) ∧
      (commandLexemes e .prompt resumeId.isSome (cliModel e.id model)).mapM
        (argument (commandEnv .prompt prompt resumeId)) =
          some (engineArguments e prompt resumeId (cliModel e.id model))
  attach : lexemes (attachScript engineId conversationId initialPrompt (cloudEnvExports cloud)
      model) = some (attachLexemes (trim engineId) (attachId (trim engineId) conversationId)
        (attachPrompt initialPrompt) cloud model)
  card : ∀ e, lookup engineId = .ok e →
    ∃ script, startScript secs briefing engineId conversationId model = .ok script ∧
      StartsAgent secs e briefing engineId conversationId model script

section Every

variable (secs : ℕ) (engineId briefing prompt : String)
  (conversationId initialPrompt model : Option String) (cloud : Option (String × String))

lemma exists_startScript {e : Engine} (he : lookup engineId = .ok e) :
    ∃ script, startScript secs briefing engineId conversationId model = .ok script := by
  obtain ⟨cmd, hcmd⟩ := exists_commandLine he .briefing conversationId model
  rw [startScript, hcmd]
  exact ⟨_, rfl⟩

/-- The agent of a card is started exactly when its model survives. -/
lemma startsAgent_iff {e : Engine} {script : String} (he : lookup engineId = .ok e)
    (h : startScript secs briefing engineId conversationId model = .ok script) :
    StartsAgent secs e briefing engineId conversationId model script ↔
      ∀ m, cliModel e.id model = some m → Survives m := by
  constructor
  · intro hstarts m hm
    exact survives_of_startsAgent he hm h hstarts
  · intro hall
    cases hm : cliModel e.id model with
    | none => exact startsAgent_of_none he hm h
    | some m => exact startsAgent_of_survives he hm (hall m hm) h

/-- The quoting is exact, and so are all the command lines, except that a card is started with its
model only when the model survives being read twice. -/
theorem commandsExact_iff : CommandsExact secs engineId briefing prompt conversationId
    initialPrompt model cloud ↔
      ∀ e, lookup engineId = .ok e → ∀ m, cliModel e.id model = some m → Survives m := by
  constructor
  · intro h e he
    obtain ⟨script, hscript, hstarts⟩ := h.card e he
    exact (startsAgent_iff secs engineId briefing conversationId model he hscript).1 hstarts
  · intro h
    refine ⟨fun s => ⟨⟨quotedWord_shellQuote s, (part_shellQuote s).lexemes⟩,
      quotedWord_shellSingleQuote s, (part_shellSingleQuote s).lexemes⟩, ?_,
      lexemes_attachScript engineId conversationId initialPrompt cloud model, ?_⟩
    · intro e he
      obtain ⟨script, hscript⟩ := exists_turnScript he prompt conversationId
        (cloudEnvExports cloud) model
      exact ⟨script, hscript, lexemes_turnScript he hscript,
        arguments_command (mem_of_lookup he) .prompt prompt _ _⟩
    · intro e he
      obtain ⟨script, hscript⟩ := exists_startScript secs engineId briefing conversationId model he
      exact ⟨script, hscript,
        (startsAgent_iff secs engineId briefing conversationId model he hscript).2 (h e he)⟩

/-- A model of ordinary characters survives. -/
lemma survives_ordinary {m : String} (hne : m.toList ≠ [])
    (h : ∀ c ∈ m.toList, isOrdinary c = true) : Survives m := by
  have hquote : isOrdinary '\'' = false := by decide
  have hescape : escapeSingle m = m := by
    rw [← String.toList_inj, escapeSingle, toList_replaceQuote]
    have hkept : ∀ c ∈ m.toList, (if c = '\'' then "'\"'\"'".toList else [c]) = [c] := by
      intro c hc
      rw [if_neg]
      rintro rfl
      cases hquote.symm.trans (h _ hc)
    rw [List.flatMap_congr hkept, List.flatMap_singleton']
  rw [Survives, hescape, spelled_ordinary h]
  exact wordFor_ordinary hne h

/-- A model with a semicolon ends the command of the outer shell. -/
theorem not_commandsExact_semicolon : ¬CommandsExact 3600 "opencode" "briefing" "prompt" none none
    (some "x; touch /tmp/p") none := by
  intro h
  have hfind : engines.find? (·.id == trim "opencode") = some opencode := by decide +kernel
  have he : lookup "opencode" = .ok opencode := by rw [lookup, hfind]
  have hm : cliModel opencode.id (some "x; touch /tmp/p") = some "x; touch /tmp/p" := by
    decide +kernel
  obtain ⟨script, hscript, hstarts⟩ := h.card opencode he
  have hsurvives := survives_of_startsAgent he hm hscript hstarts
  have hnot : ¬Survives "x; touch /tmp/p" := by decide +kernel
  exact hnot hsurvives

end Every

end Engine

end Sandboard

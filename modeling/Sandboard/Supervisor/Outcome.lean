import Mathlib.Algebra.Order.Ring.Int
import Sandboard.Search

/-!
# The outcome of a supervised run

A run ends with an error text, and the supervisor judges the run by searching that text.  The text
of a failed agent carries the tail of what the agent printed, so the agent has a say in the
judgement.  `RunEvents` is everything a run meets apart from the printed text; `decision_agrees_iff`
says for which printed texts the supervisor decides as it does for any other.
-/

namespace Sandboard

open Text

/-- What a finished command produced. -/
structure Output where
  code : Int32
  stdout : String
  stderr : String

/-- The command succeeded. -/
def Output.ok (o : Output) : Bool :=
  o.code == 0

namespace Supervisor

/-! ## The text of an error -/

/-- How a step of a run ends early: with an error text, or with a panic that takes down the
task. -/
inductive Abort where
  | error (message : String)
  | panic

/-- The last `n` bytes of the trimmed text. -/
def tail (s : String) (n : ℕ) : Except Abort String :=
  let t := trim s
  if byteLength t ≤ n then .ok t
  else
    match dropBytes (byteLength t - n) t.toList with
    | some cs => .ok (String.ofList cs)
    | none => .error .panic

/-- Both streams, the error stream first. -/
def outerr (o : Output) : Except Abort String :=
  let s := trim o.stderr
  let s := if isBlank o.stdout then s
    else (if s.isEmpty then s else s ++ "\n") ++ trim o.stdout
  tail s 500

/-! ## The classifiers -/

/-- The board released the card while it ran. -/
def isSupervisorCancel (err : String) : Bool :=
  contains "run cancelled:" err

/-- The exit code in the first `agent exited` of an error text. -/
def agentExitCode (err : String) : Option ℤ := do
  let (_, rest) ← splitOnce "agent exited " err
  parseI32 (String.ofList (rest.toList.takeWhile fun c => c.isDigit || c == '-'))

/-- The follower of the log was interrupted, not the agent. -/
def isSupervisorDetach (err : String) : Bool :=
  match agentExitCode err with
  | some (-1) | some 130 | some 143 => true
  | _ => false

/-- What an error text of broken machinery contains, in lower case. -/
def infrastructureSigns : List String :=
  ["podman.sock", "connection error", "connection closed before message completed",
    "create sandbox failed", "gateway", "exec relay closed", "sandbox is not ready",
    "the service is currently unavailable", "ssh tar extract exited", "ssh exited with status",
    "phase: deleting", "github app token sync failed (infrastructure)", "h2 protocol error",
    "broken pipe", "error reading a body from connection"]

/-- The machinery failed, not the card. -/
def isInfrastructure (err : String) : Bool :=
  infrastructureSigns.any fun sign => contains sign (toAsciiLowercase err)

/-! ## A supervised run -/

/-- What the supervisor makes of a run. -/
inductive Decision where
  | success
  | cancelled
  | detached
  | infrastructure
  | failed
  | aborted
  deriving DecidableEq

/-- What a run meets apart from the text that the agent prints: the outcome of each step that the
supervisor waits for. -/
structure RunEvents where
  /-- Everything before the agent runs: `false` when the card is parked for a missing GitHub App. -/
  setup : Except String Bool
  /-- The log is followed to the exit code of the agent. -/
  watch : Except String Int32
  /-- The verdict file is processed: `true` when it settles the run. -/
  verdict : Except String Bool
  /-- The card is the Initial plan of a Project. -/
  isInitialPlan : Bool
  /-- The question about the missing plan is asked. -/
  escalation : Except String Unit
  /-- The pull request of the branch is looked up and reported. -/
  publish : Except String Unit

/-- The text that the agent prints. -/
structure Printed where
  stdout : String
  stderr : String

/-- The printed text of an agent that exited. -/
def Printed.exited (p : Printed) (code : Int32) : Output :=
  ⟨code, p.stdout, p.stderr⟩

/-- The outcome of a step; an error is turned into its text. -/
def awaited {α : Type} : Except String α → Except Abort α
  | .ok a => .ok a
  | .error e => .error (.error e)

namespace RunEvents

/-- Settle a finished run. -/
def finish (w : RunEvents) (run : Output) : Except Abort Unit := do
  let settled ← awaited w.verdict
  if settled then .ok ()
  else if w.isInitialPlan then awaited w.escalation
  else if run.ok then awaited w.publish
  else
    let text ← outerr run
    .error (.error s!"agent exited {run.code}: {text}")

/-- A run from its setup to its end. -/
def work (w : RunEvents) (p : Printed) : Except Abort Unit := do
  let started ← awaited w.setup
  if started then
    let code ← awaited w.watch
    w.finish (p.exited code)
  else .ok ()

end RunEvents

/-- What the supervisor makes of the end of a run. -/
def supervise : Except Abort Unit → Decision
  | .ok () => .success
  | .error .panic => .aborted
  | .error (.error msg) =>
    if isSupervisorCancel msg then .cancelled
    else if isSupervisorDetach msg then .detached
    else if isInfrastructure msg then .infrastructure
    else .failed

/-- What the supervisor makes of a run. -/
def RunEvents.decision (w : RunEvents) (p : Printed) : Decision :=
  supervise (w.work p)

/-! ## The message of a failed agent -/

/-- What precedes the printed text in the message of a failed agent. -/
def exitedHead (code : Int32) : String :=
  "agent exited " ++ toString code ++ ": "

/-- No occurrence of the needle starts in the head of the message, whatever the exit code. -/
def clearOfHead (needle : String) : Bool :=
  avoids needle.toList "agent exited ".toList && avoids needle.toList ": ".toList &&
    match needle.toList with
    | p :: _ => !p.isDigit && p != '-'
    | [] => false

lemma toString_exitCode (code : Int32) :
    (0 ≤ code.toInt ∧ (toString code).toList = (toString code.toInt.natAbs).toList) ∨
      (code.toInt < 0 ∧ (toString code).toList = '-' :: (toString code.toInt.natAbs).toList) := by
  have hcode : toString code = toString code.toInt := rfl
  rw [hcode]
  cases code.toInt with
  | ofNat n => exact Or.inl ⟨Int.natCast_nonneg n, rfl⟩
  | negSucc n =>
    have hrepr : toString (Int.negSucc n) = "-" ++ toString (n + 1) := rfl
    refine Or.inr ⟨Int.negSucc_lt_zero n, ?_⟩
    rw [hrepr, String.toList_append]
    rfl

lemma isDigit_of_mem_exitCode {code : Int32} {c : Char} (h : c ∈ (toString code).toList) :
    c.isDigit = true ∨ c = '-' := by
  rcases toString_exitCode code with ⟨-, hcode⟩ | ⟨-, hcode⟩
  · rw [hcode] at h
    exact Or.inl (isDigit_of_mem_toString h)
  · rw [hcode, List.mem_cons] at h
    exact h.symm.imp_left isDigit_of_mem_toString

lemma avoids_exitedHead {needle : String} (h : clearOfHead needle = true) (code : Int32) :
    avoids needle.toList (exitedHead code).toList = true := by
  rw [clearOfHead, Bool.and_eq_true, Bool.and_eq_true] at h
  obtain ⟨⟨hfront, hback⟩, hfirst⟩ := h
  rw [exitedHead, String.toList_append, String.toList_append]
  refine avoids_append (avoids_append hfront ?_) hback
  cases hneedle : needle.toList with
  | nil =>
    rw [hneedle] at hfirst
    cases hfirst
  | cons p ps =>
    rw [hneedle, Bool.and_eq_true, Bool.not_eq_true', bne_iff_ne] at hfirst
    refine avoids_of_notMem fun hmem => ?_
    rcases isDigit_of_mem_exitCode hmem with hdigit | hminus
    · rw [hfirst.1] at hdigit
      cases hdigit
    · exact hfirst.2 hminus

/-- The head of the message is in lower case. -/
lemma toAsciiLowercase_exitedHead (code : Int32) :
    toAsciiLowercase (exitedHead code) = exitedHead code := by
  have hfront : toAsciiLowercase "agent exited " = "agent exited " := by decide
  have hback : toAsciiLowercase ": " = ": " := by decide
  have hcode : toAsciiLowercase (toString code) = toString code := by
    rw [toAsciiLowercase, List.map_congr_left (g := id), List.map_id, String.ofList_toList]
    intro c hc
    rcases isDigit_of_mem_exitCode hc with hdigit | rfl
    · exact toLower_of_isDigit hdigit
    · rfl
  rw [exitedHead, toAsciiLowercase_append, toAsciiLowercase_append, hfront, hback, hcode]

lemma isSupervisorCancel_exited (code : Int32) (text : String) :
    isSupervisorCancel (exitedHead code ++ text) = isSupervisorCancel text :=
  contains_append (avoids_exitedHead (by decide) code) text

lemma isInfrastructure_exited (code : Int32) (text : String) :
    isInfrastructure (exitedHead code ++ text) = isInfrastructure text := by
  have hclear : ∀ sign ∈ infrastructureSigns, clearOfHead sign = true := by decide
  rw [isInfrastructure, isInfrastructure, toAsciiLowercase_append, toAsciiLowercase_exitedHead]
  refine Bool.eq_iff_iff.2 ?_
  simp only [List.any_eq_true]
  refine exists_congr fun sign => and_congr_right fun hsign => ?_
  rw [contains_append (avoids_exitedHead (hclear sign hsign) code)]

lemma readSigned_exitCode (code : Int32) :
    readSigned (toString code).toList = some code.toInt := by
  have hdigits := readDigits_toString code.toInt.natAbs
  rcases toString_exitCode code with ⟨hsign, hcode⟩ | ⟨hsign, hcode⟩
  · have hnonneg : Int.ofNat code.toInt.natAbs = code.toInt := Int.natAbs_of_nonneg hsign
    have hdigit : ∀ c rest, (toString code).toList = c :: rest → c.isDigit = true := by
      intro c rest hc
      rw [hcode] at hc
      exact isDigit_of_mem_toString (hc ▸ List.mem_cons_self)
    rw [← hcode] at hdigits
    unfold readSigned
    split
    · rename_i rest hminus
      exact absurd (hdigit _ rest hminus) (by decide)
    · rename_i rest hplus
      exact absurd (hdigit _ rest hplus) (by decide)
    · rw [hdigits, Option.map_some, hnonneg]
  · have hnonpos : -Int.ofNat code.toInt.natAbs = code.toInt := by
      have := Int.ofNat_natAbs_of_nonpos hsign.le
      simpa using congrArg Neg.neg this
    rw [hcode, readSigned, hdigits, Option.map_some, hnonpos]

/-- An exit code that was printed is read back. -/
lemma parseI32_exitCode (code : Int32) : parseI32 (toString code) = some code.toInt := by
  have hrange : -2 ^ 31 ≤ code.toInt ∧ code.toInt < 2 ^ 31 :=
    ⟨Int32.le_toInt code, Int32.toInt_lt code⟩
  rw [parseI32, readSigned_exitCode, Option.filter_some, if_pos (by simpa using hrange)]

lemma agentExitCode_exited (code : Int32) (text : String) :
    agentExitCode (exitedHead code ++ text) = some code.toInt := by
  have hsplit : splitOnce "agent exited " (exitedHead code ++ text) =
      some ("", String.ofList ((toString code).toList ++ ':' :: ' ' :: text.toList)) := by
    have hlist : (exitedHead code ++ text).toList =
        "agent exited ".toList ++ ((toString code).toList ++ ':' :: ' ' :: text.toList) := by
      simp [exitedHead, String.toList_append]
    rw [splitOnce, hlist, cutAt_self]
    rfl
  have htoken : ((toString code).toList ++ ':' :: ' ' :: text.toList).takeWhile
      (fun c => c.isDigit || c == '-') = (toString code).toList := by
    rw [List.takeWhile_append_of_pos]
    · rw [List.takeWhile_cons_of_neg (by decide), List.append_nil]
    · intro c hc
      rcases isDigit_of_mem_exitCode hc with hdigit | rfl
      · rw [hdigit, Bool.true_or]
      · rfl
  simp only [agentExitCode, hsplit, Option.bind_eq_bind, Option.bind_some, String.toList_ofList,
    htoken, String.ofList_toList, parseI32_exitCode]

/-- The exit codes of an interrupted follower. -/
def detaches (code : Int32) : Bool :=
  code == -1 || code == 130 || code == 143

lemma detaches_iff {code : Int32} :
    detaches code = true ↔ code.toInt = -1 ∨ code.toInt = 130 ∨ code.toInt = 143 := by
  have hinj : ∀ k : Int32, (code == k) = true ↔ code.toInt = k.toInt := fun k => by
    rw [beq_iff_eq, ← Int32.toInt_inj]
  rw [detaches, Bool.or_eq_true, Bool.or_eq_true, hinj, hinj, hinj, or_assoc]
  rfl

lemma isSupervisorDetach_exited (code : Int32) (text : String) :
    isSupervisorDetach (exitedHead code ++ text) = detaches code := by
  rw [Bool.eq_iff_iff, detaches_iff, isSupervisorDetach, agentExitCode_exited]
  split
  · rename_i h
    simp only [Option.some.injEq] at h
    simp [h]
  · rename_i h
    simp only [Option.some.injEq] at h
    simp [h]
  · rename_i h
    simp only [Option.some.injEq] at h
    simp [h]
  · rename_i h₁ h₂ h₃
    simp only [Option.some.injEq] at h₁ h₂ h₃
    refine iff_of_false Bool.false_ne_true ?_
    rintro (h | h | h)
    exacts [h₁ h, h₂ h, h₃ h]

/-! ## Printed text and decision -/

/-- What the supervisor makes of an exit code with an excerpt of the printed text. -/
def judged (code : Int32) (text : String) : Decision :=
  if isSupervisorCancel text then .cancelled
  else if detaches code then .detached
  else if isInfrastructure text then .infrastructure
  else .failed

lemma supervise_exited (code : Int32) (text : String) :
    supervise (.error (.error s!"agent exited {code}: {text}")) = judged code text := by
  have hmsg : s!"agent exited {code}: {text}" = exitedHead code ++ text := rfl
  rw [supervise, hmsg, isSupervisorCancel_exited, isSupervisorDetach_exited,
    isInfrastructure_exited, judged]

lemma tail_error {s : String} {n : ℕ} {a : Abort} (h : tail s n = .error a) : a = .panic := by
  unfold tail at h
  dsimp only at h
  split at h
  · cases h
  · split at h
    · cases h
    · cases h
      rfl

/-- An excerpt fails in one way only: the cut falls inside a character. -/
lemma outerr_error {o : Output} {a : Abort} (h : outerr o = .error a) : a = .panic := by
  unfold outerr at h
  exact tail_error h

/-- The exit code of a failed agent whose message the supervisor judges: the agent ran, left no
verdict, and its card is no Initial plan. -/
def RunEvents.failedWith (w : RunEvents) : Option Int32 :=
  match w.setup, w.watch, w.verdict with
  | .ok true, .ok code, .ok false => if w.isInitialPlan || code == 0 then none else some code
  | _, _, _ => none

/-- The excerpt of the printed text starts inside a character. -/
def Printed.Cuts (p : Printed) (code : Int32) : Prop :=
  outerr (p.exited code) = .error .panic

/-- The excerpt of the printed text has no mark of a cancelled run, and no sign of broken machinery
where the supervisor would look for one. -/
def Printed.Plain (p : Printed) (code : Int32) : Prop :=
  ∀ text, outerr (p.exited code) = .ok text →
    isSupervisorCancel text = false ∧ (detaches code = false → isInfrastructure text = false)

namespace RunEvents

variable {w : RunEvents} {p p' : Printed} {code : Int32}

lemma work_of_setup_error {e : String} (h : w.setup = .error e) :
    w.work p = .error (.error e) := by
  rw [work, h]
  rfl

lemma work_of_parked (h : w.setup = .ok false) : w.work p = .ok () := by
  rw [work, h]
  rfl

lemma work_of_watch_error {e : String} (h : w.setup = .ok true) (hwatch : w.watch = .error e) :
    w.work p = .error (.error e) := by
  rw [work, h, hwatch]
  rfl

lemma work_of_exited (h : w.setup = .ok true) (hwatch : w.watch = .ok code) :
    w.work p = w.finish (p.exited code) := by
  rw [work, h, hwatch]
  rfl

lemma finish_of_error {e : String} {run : Output} (h : w.verdict = .error e) :
    w.finish run = .error (.error e) := by
  rw [finish, h]
  rfl

lemma finish_of_verdict {settled : Bool} {run : Output} (h : w.verdict = .ok settled) :
    w.finish run = if settled then .ok ()
      else if w.isInitialPlan then awaited w.escalation
      else if run.ok then awaited w.publish
      else outerr run >>= fun text => .error (.error s!"agent exited {run.code}: {text}") := by
  rw [finish, h]
  rfl

/-- Where no message of a failed agent is judged, the printed text does not matter. -/
lemma work_of_failedWith_none (h : w.failedWith = none) : w.work p = w.work p' := by
  cases hsetup : w.setup with
  | error e => rw [work_of_setup_error hsetup, work_of_setup_error hsetup]
  | ok started =>
    cases started with
    | false => rw [work_of_parked hsetup, work_of_parked hsetup]
    | true =>
      cases hwatch : w.watch with
      | error e => rw [work_of_watch_error hsetup hwatch, work_of_watch_error hsetup hwatch]
      | ok code =>
        rw [work_of_exited hsetup hwatch, work_of_exited hsetup hwatch]
        cases hverdict : w.verdict with
        | error e => rw [finish_of_error hverdict, finish_of_error hverdict]
        | ok settled =>
          rw [finish_of_verdict hverdict, finish_of_verdict hverdict]
          cases settled with
          | true => rw [if_pos rfl, if_pos rfl]
          | false =>
            simp only [failedWith, hsetup, hwatch, hverdict] at h
            rw [if_neg Bool.false_ne_true, if_neg Bool.false_ne_true]
            by_cases hplan : w.isInitialPlan = true
            · rw [if_pos hplan, if_pos hplan]
            · have hok : code = 0 := by simpa [hplan] using h
              have hsucceeds : ∀ q : Printed, (q.exited code).ok = true := fun _ =>
                beq_iff_eq.2 hok
              rw [if_neg hplan, if_neg hplan, if_pos (hsucceeds p), if_pos (hsucceeds p')]

lemma work_of_failedWith (h : w.failedWith = some code) (p : Printed) :
    w.work p = outerr (p.exited code) >>= fun text =>
      .error (.error s!"agent exited {code}: {text}") := by
  unfold failedWith at h
  split at h
  · rename_i code' hsetup hwatch hverdict
    split at h
    · cases h
    · rename_i hfails
      cases h
      rw [Bool.or_eq_true, not_or, Bool.not_eq_true, beq_iff_eq] at hfails
      have hok : (p.exited code).ok = false := beq_false_of_ne hfails.2
      rw [work_of_exited hsetup hwatch, finish_of_verdict hverdict, hfails.1, hok,
        if_neg Bool.false_ne_true, if_neg Bool.false_ne_true, if_neg Bool.false_ne_true]
      rfl
  · cases h

lemma decision_of_cuts (h : w.failedWith = some code) (hcuts : p.Cuts code) :
    w.decision p = .aborted := by
  rw [decision, work_of_failedWith h, hcuts]
  rfl

lemma decision_of_excerpt (h : w.failedWith = some code) {text : String}
    (htext : outerr (p.exited code) = .ok text) : w.decision p = judged code text := by
  rw [decision, work_of_failedWith h, htext]
  exact supervise_exited code text

/-- A printed text is plain when it makes the run neither cancelled nor broken machinery. -/
lemma plain_iff (h : w.failedWith = some code) :
    p.Plain code ↔ w.decision p ≠ .infrastructure ∧ w.decision p ≠ .cancelled := by
  cases houterr : outerr (p.exited code) with
  | error a =>
    have hcuts : p.Cuts code := by rw [Printed.Cuts, houterr, outerr_error houterr]
    rw [decision_of_cuts h hcuts]
    simp [Printed.Plain, houterr]
  | ok text =>
    rw [decision_of_excerpt h houterr]
    have hplain : p.Plain code ↔ isSupervisorCancel text = false ∧
        (detaches code = false → isInfrastructure text = false) := by
      simp [Printed.Plain, houterr]
    rw [hplain, judged]
    cases isSupervisorCancel text <;> cases detaches code <;> cases isInfrastructure text <;> simp

/-- A plain text that can be cut leaves the decision to the exit code. -/
lemma decision_of_plain (h : w.failedWith = some code) (hcuts : ¬p.Cuts code)
    (hplain : p.Plain code) : w.decision p = if detaches code then .detached else .failed := by
  cases houterr : outerr (p.exited code) with
  | error a => exact absurd (by rw [Printed.Cuts, houterr, outerr_error houterr]) hcuts
  | ok text =>
    obtain ⟨hcancel, hinfra⟩ := hplain text houterr
    rw [decision_of_excerpt h houterr, judged, hcancel]
    cases hdetaches : detaches code with
    | true => rfl
    | false =>
      rw [hinfra hdetaches]
      rfl

/-- For every two runs that differ in the printed text only: the supervisor decides the same, and a
failed agent counts neither as broken machinery nor as cancelled, exactly when both excerpts are
plain and both or neither starts inside a character. -/
theorem decision_agrees_iff (w : RunEvents) (p p' : Printed) :
    (w.decision p = w.decision p' ∧ ∀ code, w.failedWith = some code →
      w.decision p ≠ .infrastructure ∧ w.decision p ≠ .cancelled) ↔
      ∀ code, w.failedWith = some code →
        (p.Cuts code ↔ p'.Cuts code) ∧ p.Plain code ∧ p'.Plain code := by
  constructor
  · rintro ⟨hsame, hfailed⟩ code h
    have hplain := hfailed code h
    refine ⟨⟨fun hcuts => ?_, fun hcuts => ?_⟩, (plain_iff h).2 hplain,
      (plain_iff h).2 (hsame ▸ hplain)⟩
    · by_contra hnot
      have hplain' := decision_of_plain h hnot ((plain_iff h).2 (hsame ▸ hplain))
      rw [← hsame, decision_of_cuts h hcuts] at hplain'
      split at hplain' <;> cases hplain'
    · by_contra hnot
      have hplain' := decision_of_plain h hnot ((plain_iff h).2 hplain)
      rw [hsame, decision_of_cuts h hcuts] at hplain'
      split at hplain' <;> cases hplain'
  · intro hcond
    cases h : w.failedWith with
    | none => exact ⟨congrArg supervise (work_of_failedWith_none h), nofun⟩
    | some code =>
      obtain ⟨hcuts, hplain, hplain'⟩ := hcond code h
      refine ⟨?_, fun code' h' => ?_⟩
      · by_cases hcut : p.Cuts code
        · rw [decision_of_cuts h hcut, decision_of_cuts h (hcuts.1 hcut)]
        · rw [decision_of_plain h hcut hplain,
            decision_of_plain h (fun hcut' => hcut (hcuts.2 hcut')) hplain']
      · obtain rfl : code = code' := Option.some.inj h'
        exact (plain_iff h).1 hplain

/-- An agent leaves no verdict and exits with code 1. -/
def exitsWithOne : RunEvents :=
  ⟨.ok true, .ok 1, .ok false, false, .ok (), .ok ()⟩

/-- A silent agent that fails is a failure of the card; one that prints a sign or the mark counts as
broken machinery or as cancelled. -/
theorem exitsWithOne_decisions :
    exitsWithOne.decision ⟨"", ""⟩ = .failed ∧
      exitsWithOne.decision ⟨"no route to the Gateway", ""⟩ = .infrastructure ∧
      exitsWithOne.decision ⟨"run cancelled: by me", ""⟩ = .cancelled := by
  have hfails : exitsWithOne.failedWith = some 1 := by decide
  have hprints : ∀ p : Printed, ∀ text, outerr (p.exited 1) = .ok text →
      exitsWithOne.decision p = judged 1 text := fun _ _ h => decision_of_excerpt hfails h
  refine ⟨?_, ?_, ?_⟩
  · exact (hprints _ "" (by with_unfolding_all rfl)).trans (by decide +kernel)
  · exact (hprints _ "no route to the Gateway" (by with_unfolding_all rfl)).trans
      (by decide +kernel)
  · exact (hprints _ "run cancelled: by me" (by with_unfolding_all rfl)).trans (by decide +kernel)

end RunEvents

end Supervisor

end Sandboard

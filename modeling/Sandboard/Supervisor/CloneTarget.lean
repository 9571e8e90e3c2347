import Sandboard.Text

/-!
# The clone target a human decided

A card without a repository takes its clone target from its notes, the newest note first.  The scan
goes on only past notes that have the form of a clone decision and name no repository: a note of
any other kind ends it, and `Clone target:` is read as a decision to clone `target:`.  `Decides` is
what a note decides by the forms that the briefing supports, and `FindsNewest` says for which notes
the scan finds the newest decision.
-/

namespace Sandboard

open Text

/-- `str::trim_matches` for a class of characters. -/
def Text.trimMatches (p : Char → Bool) (s : String) : String :=
  String.ofList (dropTailWhile p (s.toList.dropWhile p))

/-! ## The scan -/

/-- The punctuation around a clone target. -/
def isTargetPunctuation (c : Char) : Bool :=
  c == ')' || c == '(' || c == ',' || c == ';' || c == '.'

/-- A note without the prefix of an answer. -/
def afterDecision (note : String) : String :=
  let raw := trim note
  (((stripPrefix "Decision:" raw).or (stripPrefix "decision:" raw)).map trim).getD raw

/-- What follows the word Clone. -/
def afterClone (note : String) : Option String :=
  let after := afterDecision note
  ((stripPrefix "Clone " after).or ((stripPrefix "clone " after).or
    ((stripPrefix "Clone target:" after).or (stripPrefix "clone target:" after)))).map trim

/-- The word is a repository or an address. -/
def isCloneTarget (token : String) : Bool :=
  token.toList.contains '/' || startsWith "http" token

/-- The word of a note that may be its clone target. -/
def cloneToken (note : String) : Option String := do
  let afterClone ← afterClone note
  let token ← (splitWhitespace afterClone).head?
  return trimMatches isTargetPunctuation token

/-- The scan of the notes, the newest one first; a note that is no clone decision ends it. -/
def scanCloneTarget : List String → Option String
  | [] => none
  | note :: notes => do
    let token ← cloneToken note
    if isCloneTarget token then some token else scanCloneTarget notes

/-- The clone target that a human decided, from the notes of a card. -/
def cloneTargetFromNotes (notes : List String) : Option String :=
  scanCloneTarget notes.reverse

/-! ## Decisions -/

/-- The repository that a note decides to clone: `Clone X` or `Clone target: X`, after `Decision:` or
not. -/
def decidedTarget (note : String) : Option String := do
  let afterClone ← afterClone note
  let words := splitWhitespace afterClone
  let word ← if words.head? = some "target:" then words[1]? else words.head?
  let token := trimMatches isTargetPunctuation word
  if isCloneTarget token then some token else none

/-- The note is a clone decision. -/
def isCloneDecision (note : String) : Bool := (decidedTarget note).isSome

/-- What the newest clone decision decides. -/
def newestDecision (notes : List String) : Option String :=
  notes.reverse.findSome? decidedTarget

/-- The notes differ in notes that are no clone decisions only. -/
def SameDecisions (notes notes' : List String) : Prop :=
  notes'.filter isCloneDecision = notes.filter isCloneDecision

/-- The scan goes on past the note. -/
def PassedOver (note : String) : Prop :=
  ∃ token, cloneToken note = some token ∧ isCloneTarget token = false

/-- No note is a clone decision; or the scan comes to a note that names a target, past notes newer
than it of which none decides for another one last. -/
def FindsNewest (notes : List String) : Prop :=
  (∀ note ∈ notes, isCloneDecision note = false) ∨
    ∃ older note newer target, notes = older ++ note :: newer ∧
      cloneToken note = some target ∧ isCloneTarget target = true ∧
      (∀ n ∈ newer, PassedOver n) ∧ ∀ t, newestDecision newer = some t → t = target

/-- The result is the newest decision, and other notes do not change it. -/
structure NewestWins (notes notes' : List String) : Prop where
  newest : cloneTargetFromNotes notes = newestDecision notes
  unchanged : cloneTargetFromNotes notes' = cloneTargetFromNotes notes

/-! ## The scan and the decisions -/

/-- What the scan reads on a note is what the note decides. -/
lemma decidedTarget_of_token {note target : String} (hread : cloneToken note = some target)
    (htarget : isCloneTarget target = true) : decidedTarget note = some target := by
  unfold cloneToken at hread
  rw [Option.bind_eq_bind, Option.bind_eq_some_iff] at hread
  obtain ⟨after, hafter, hread⟩ := hread
  rw [Option.bind_eq_some_iff] at hread
  obtain ⟨word, hword, htoken⟩ := hread
  have hne : word ≠ "target:" := by
    rintro rfl
    rw [← Option.some.inj htoken] at htarget
    revert htarget
    decide
  have hfirst : (splitWhitespace after).head? ≠ some "target:" := by
    rw [hword, ne_eq, Option.some.injEq]
    exact hne
  unfold decidedTarget
  rw [hafter, Option.bind_eq_bind, Option.bind_some]
  dsimp only
  rw [if_neg hfirst, hword, Option.bind_some, Option.some.inj htoken, if_pos htarget]

lemma scanCloneTarget_cons (note : String) (notes : List String) :
    scanCloneTarget (note :: notes) = (cloneToken note).bind fun token =>
      if isCloneTarget token then some token else scanCloneTarget notes := rfl

lemma newestDecision_append (older newer : List String) :
    newestDecision (older ++ newer) = (newestDecision newer).or (newestDecision older) := by
  unfold newestDecision
  rw [List.reverse_append, List.findSome?_append]

lemma newestDecision_eq_none_iff {notes : List String} :
    newestDecision notes = none ↔ ∀ note ∈ notes, isCloneDecision note = false := by
  unfold newestDecision isCloneDecision
  rw [List.findSome?_eq_none_iff]
  simp

/-- The newest decision is among the decisions. -/
lemma newestDecision_filter (notes : List String) :
    newestDecision (notes.filter isCloneDecision) = newestDecision notes := by
  unfold newestDecision
  rw [← List.filter_reverse]
  induction notes.reverse with
  | nil => rfl
  | cons note notes ih =>
    rw [List.filter_cons, List.findSome?_cons]
    unfold isCloneDecision
    cases hdecided : decidedTarget note with
    | none => exact ih
    | some target =>
      rw [Option.isSome_some, if_pos rfl, List.findSome?_cons, hdecided]

lemma newestDecision_congr {notes notes' : List String} (h : SameDecisions notes notes') :
    newestDecision notes' = newestDecision notes := by
  rw [← newestDecision_filter notes', h, newestDecision_filter]

/-- The scan ends with a target exactly at a note that names it, past notes that name none. -/
lemma scanCloneTarget_eq_some_iff {notes : List String} {target : String} :
    scanCloneTarget notes = some target ↔ ∃ newer note older, notes = newer ++ note :: older ∧
      cloneToken note = some target ∧ isCloneTarget target = true ∧
        ∀ n ∈ newer, PassedOver n := by
  induction notes with
  | nil =>
    constructor
    · intro h
      have hnone : scanCloneTarget [] = none := rfl
      rw [hnone] at h
      cases h
    · rintro ⟨newer, note, older, hnil, -⟩
      exact absurd hnil.symm (by simp)
  | cons n notes ih =>
    rw [scanCloneTarget_cons, Option.bind_eq_some_iff]
    constructor
    · rintro ⟨token, htoken, hresult⟩
      by_cases htarget : isCloneTarget token = true
      · rw [if_pos htarget, Option.some.injEq] at hresult
        subst hresult
        exact ⟨[], n, notes, rfl, htoken, htarget, fun _ hn => absurd hn List.not_mem_nil⟩
      · rw [if_neg htarget] at hresult
        obtain ⟨newer, note, older, rfl, hread, hnames, hpassed⟩ := ih.1 hresult
        refine ⟨n :: newer, note, older, rfl, hread, hnames, ?_⟩
        rw [List.forall_mem_cons]
        exact ⟨⟨token, htoken, Bool.not_eq_true _ ▸ htarget⟩, hpassed⟩
    · rintro ⟨newer, note, older, hnotes, hread, htarget, hpassed⟩
      cases newer with
      | nil =>
        rw [List.nil_append, List.cons.injEq] at hnotes
        exact ⟨target, hnotes.1 ▸ hread, if_pos htarget⟩
      | cons m newer =>
        rw [List.cons_append, List.cons.injEq] at hnotes
        rw [List.forall_mem_cons] at hpassed
        obtain ⟨token, htoken, hnot⟩ := hpassed.1
        refine ⟨token, hnotes.1 ▸ htoken, ?_⟩
        rw [hnot, if_neg Bool.false_ne_true]
        exact ih.2 ⟨newer, note, older, hnotes.2, hread, htarget, hpassed.2⟩

/-- The scan finds the newest decision under this condition and no other. -/
lemma findsNewest_iff (notes : List String) :
    cloneTargetFromNotes notes = newestDecision notes ↔ FindsNewest notes := by
  have hscan : ∀ {target}, cloneTargetFromNotes notes = some target ↔
      ∃ older note newer, notes = older ++ note :: newer ∧ cloneToken note = some target ∧
        isCloneTarget target = true ∧ ∀ n ∈ newer, PassedOver n := by
    intro target
    unfold cloneTargetFromNotes
    rw [scanCloneTarget_eq_some_iff]
    constructor
    · rintro ⟨newer, note, older, hnotes, hread, htarget, hpassed⟩
      refine ⟨older.reverse, note, newer.reverse, ?_, hread, htarget, fun n hn => ?_⟩
      · rw [← List.reverse_reverse notes, hnotes]
        simp
      · exact hpassed n (List.mem_reverse.1 hn)
    · rintro ⟨older, note, newer, rfl, hread, htarget, hpassed⟩
      exact ⟨newer.reverse, note, older.reverse, by simp, hread, htarget,
        fun n hn => hpassed n (List.mem_reverse.1 hn)⟩
  have hnewest : ∀ {older newer : List String} {note target : String},
      cloneToken note = some target → isCloneTarget target = true →
        newestDecision (older ++ note :: newer) = (newestDecision newer).or (some target) := by
    intro older newer note target hread htarget
    have hone : newestDecision [note] = some target := by
      unfold newestDecision
      rw [List.reverse_singleton, List.findSome?_singleton, decidedTarget_of_token hread htarget]
    have hcons : note :: newer = [note] ++ newer := rfl
    rw [newestDecision_append, hcons, newestDecision_append, hone]
    cases newestDecision newer <;> rfl
  constructor
  · intro heq
    cases hresult : newestDecision notes with
    | none => exact Or.inl (newestDecision_eq_none_iff.1 hresult)
    | some target =>
      rw [hresult] at heq
      obtain ⟨older, note, newer, rfl, hread, htarget, hpassed⟩ := hscan.1 heq
      refine Or.inr ⟨older, note, newer, target, rfl, hread, htarget, hpassed, fun t ht => ?_⟩
      rw [hnewest hread htarget, ht] at hresult
      exact Option.some.inj hresult
  · rintro (hnone | ⟨older, note, newer, target, rfl, hread, htarget, hpassed, hlast⟩)
    · rw [newestDecision_eq_none_iff.2 hnone, Option.eq_none_iff_forall_ne_some]
      intro target hsome
      obtain ⟨older, note, newer, rfl, hread, htarget, -⟩ := hscan.1 hsome
      have hnot := hnone note (List.mem_append_right older List.mem_cons_self)
      rw [isCloneDecision, decidedTarget_of_token hread htarget] at hnot
      cases hnot
    · rw [hscan.2 ⟨older, note, newer, rfl, hread, htarget, hpassed⟩, hnewest hread htarget]
      cases hnewer : newestDecision newer with
      | none => rfl
      | some t => exact congrArg some (hlast t hnewer).symm

/-- The newest decision wins, with any other notes between, exactly when the scan finds it with and
without them. -/
theorem newestWins_iff {notes notes' : List String} (h : SameDecisions notes notes') :
    NewestWins notes notes' ↔ FindsNewest notes ∧ FindsNewest notes' := by
  rw [← findsNewest_iff, ← findsNewest_iff, newestDecision_congr h]
  constructor
  · exact fun hwins => ⟨hwins.newest, hwins.unchanged.trans hwins.newest⟩
  · exact fun ⟨hnotes, hnotes'⟩ => ⟨hnotes, hnotes'.trans hnotes.symm⟩

/-- An answer, and a notice that main advanced after it. -/
def answeredNotes : List String := ["Decision: Clone acme/app"]

def advancedNotes : List String :=
  ["Decision: Clone acme/app", "Main advanced (main). First action: fetch upstream main"]

theorem newestWins_iff_answered :
    NewestWins answeredNotes answeredNotes ↔
      FindsNewest answeredNotes ∧ FindsNewest answeredNotes :=
  newestWins_iff rfl

set_option maxRecDepth 10000 in
/-- The notice hides the answer. -/
theorem not_newestWins_advanced :
    SameDecisions answeredNotes advancedNotes ∧ ¬NewestWins answeredNotes advancedNotes := by
  have hsame : advancedNotes.filter isCloneDecision = answeredNotes.filter isCloneDecision := by
    decide +kernel
  refine ⟨hsame, fun h => ?_⟩
  have hanswered : cloneTargetFromNotes answeredNotes = some "acme/app" := by decide +kernel
  have hadvanced : cloneTargetFromNotes advancedNotes = none := by decide +kernel
  have hunchanged := h.unchanged
  rw [hanswered, hadvanced] at hunchanged
  cases hunchanged

end Sandboard

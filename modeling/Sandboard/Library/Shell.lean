import Mathlib.Algebra.GroupWithZero.Nat
import Mathlib.Data.List.Basic

/-!
# Words of a shell command line

How a POSIX shell cuts a text into words, operators and lines.  Each character of a word is kept
with the way in which it was read, so that quotes can be removed and what is expanded is seen.
`step` reads one character; the reading of a text goes on where that of the text before it stopped
(`Lexes.append`), and between single quotes every character stands for itself.  The text of a
substitution is read up to its end, with the quotes in it; here-documents are not read.
-/

namespace Shell

/-- How a character of a word was read. -/
inductive Piece where
  | plain (c : Char)
  /-- Between single quotes, or behind a backslash. -/
  | quoted (c : Char)
  | inDouble (c : Char)
  /-- A quote or a backslash, which is removed. -/
  | mark
  deriving DecidableEq

inductive Token where
  | word (pieces : List Piece)
  /-- Digits in front of a redirection. -/
  | io (pieces : List Piece)
  | op (cs : List Char)
  | newline
  deriving DecidableEq

/-- What is open in a word: a quote or a substitution. -/
inductive Mode where
  | single
  | double
  | paren
  | brace
  | back
  deriving DecidableEq

/-- What the last character of a word leaves to the next one. -/
inductive Pending where
  | none
  | backslash
  | dollar
  deriving DecidableEq

/-- Where the reading of a text stands; the innermost mode comes first. -/
inductive Place where
  /-- Between two tokens. -/
  | gap
  /-- Behind a backslash between two tokens. -/
  | escape
  | op (cs : List Char)
  | comment
  | word (pieces : List Piece) (modes : List Mode) (pending : Pending)
  deriving DecidableEq

/-- The operators. -/
def operators : List (List Char) :=
  [[';'], ['&'], ['|'], ['<'], ['>'], ['('], [')'], ['&', '&'], ['|', '|'], [';', ';'], ['<', '<'],
    ['>', '>'], ['<', '&'], ['>', '&'], ['<', '>'], ['>', '|'], ['<', '<', '-']]

/-- A character that an operator starts with. -/
def startsOperator (c : Char) : Bool := [';', '&', '|', '<', '>', '(', ')'].contains c

def isBlank (c : Char) : Bool := c == ' ' || c == '\t'

/-- A character that ends a word which is not quoted. -/
def endsWord (c : Char) : Bool := isBlank c || c == '\n' || startsOperator c

def backquote : Char := Char.ofNat 96

/-- What a character adds to a word, and what is open and pending behind it. -/
abbrev Added := List Piece × List Mode × Pending

/-- The next character of a word, outside of quotes; it may be within a substitution. -/
def plainChar (modes : List Mode) (pending : Pending) (c : Char) : Added :=
  if pending = .backslash then
    if c = '\n' then ([], modes, .none) else ([.mark, .quoted c], modes, .none)
  else if c = '\\' then ([], modes, .backslash)
  else if c = '\'' then ([.mark], .single :: modes, .none)
  else if c = '"' then ([.mark], .double :: modes, .none)
  else if c = '(' && (pending == .dollar || modes.head? == some .paren) then
    ([.plain c], .paren :: modes, .none)
  else if c = ')' && modes.head? == some .paren then ([.plain c], modes.tail, .none)
  else if c = '{' && pending == .dollar then ([.plain c], .brace :: modes, .none)
  else if c = '}' && modes.head? == some .brace then ([.plain c], modes.tail, .none)
  else if c = backquote then
    ([.plain c], if modes.head? = some .back then modes.tail else .back :: modes, .none)
  else ([.plain c], modes, if c = '$' then .dollar else .none)

/-- The next character between double quotes; `modes` is what is open around them. -/
def doubleChar (modes : List Mode) (pending : Pending) (c : Char) : Added :=
  if pending = .backslash then
    if c = '\n' then ([], .double :: modes, .none)
    else if c = '$' || c = backquote || c = '"' || c = '\\' then
      ([.mark, .quoted c], .double :: modes, .none)
    else ([.inDouble '\\', .inDouble c], .double :: modes, .none)
  else if c = '\\' then ([], .double :: modes, .backslash)
  else if c = '"' then ([.mark], modes, .none)
  else if c = '(' && pending == .dollar then ([.inDouble c], .paren :: .double :: modes, .none)
  else if c = '{' && pending == .dollar then ([.inDouble c], .brace :: .double :: modes, .none)
  else if c = backquote then ([.inDouble c], .back :: .double :: modes, .none)
  else ([.inDouble c], .double :: modes, if c = '$' then .dollar else .none)

/-- The next character of a word. -/
def wordChar (modes : List Mode) (pending : Pending) (c : Char) : Added :=
  match modes with
  | .single :: rest =>
    if c = '\'' then ([.mark], rest, .none) else ([.quoted c], .single :: rest, .none)
  | .double :: rest => doubleChar rest pending c
  | modes => plainChar modes pending c

/-- The word goes on. -/
def Added.to (a : Added) (pieces : List Piece) : Place := .word (pieces ++ a.1) a.2.1 a.2.2

/-- The next character between two tokens. -/
def gapChar (c : Char) : List Token × Place :=
  if isBlank c then ([], .gap)
  else if c = '\n' then ([.newline], .gap)
  else if startsOperator c then ([], .op [c])
  else if c = '#' then ([], .comment)
  else if c = '\\' then ([], .escape)
  else ([], Added.to (wordChar [] .none c) [])

/-- The token of a word; `c` is the character behind it. -/
def wordToken (pieces : List Piece) (c : Char) : Token :=
  if (c = '<' || c = '>') && pieces.all fun p => match p with
      | .plain d => d.isDigit
      | _ => false then .io pieces
  else .word pieces

lemma wordToken_eq_word {ps qs : List Piece} {c : Char} (h : wordToken ps c = .word qs) :
    qs = ps := by
  unfold wordToken at h
  split at h
  · cases h
  · cases h
    rfl

/-- One character: the tokens that end in front of it, and where the reading stands behind it. -/
def step : Place → Char → List Token × Place
  | .gap, c => gapChar c
  | .escape, c => if c = '\n' then ([], .gap) else ([], .word [.mark, .quoted c] [] .none)
  | .op cs, c =>
    if cs ++ [c] ∈ operators then ([], .op (cs ++ [c]))
    else (.op cs :: (gapChar c).1, (gapChar c).2)
  | .comment, c => if c = '\n' then ([.newline], .gap) else ([], .comment)
  | .word pieces modes pending, c =>
    if modes.isEmpty && pending != .backslash && endsWord c && !(c = '(' && pending == .dollar) then
      (wordToken pieces c :: (gapChar c).1, (gapChar c).2)
    else ([], Added.to (wordChar modes pending c) pieces)

/-- The reading of a text. -/
def read : Place → List Char → List Token × Place
  | p, [] => ([], p)
  | p, c :: cs => ((step p c).1 ++ (read (step p c).2 cs).1, (read (step p c).2 cs).2)

/-- The last token, when nothing is open at the end of the text. -/
def finish : Place → Option (List Token)
  | .gap | .comment => some []
  | .op cs => some [.op cs]
  | .word pieces [] .none | .word pieces [] .dollar => some [.word pieces]
  | _ => none

/-- The tokens of a text. -/
def tokens (s : String) : Option (List Token) :=
  (finish (read .gap s.toList).2).map ((read .gap s.toList).1 ++ ·)

lemma read_append (p : Place) (s t : List Char) :
    read p (s ++ t) = ((read p s).1 ++ (read (read p s).2 t).1, (read (read p s).2 t).2) := by
  induction s generalizing p with
  | nil => rfl
  | cons c s ih =>
    rw [List.cons_append, read, ih, read, List.append_assoc]

/-! ## What a word stands for -/

/-- The characters that a piece stands for; nothing where an expansion starts. -/
def Piece.text : Piece → Option (List Char)
  | .plain c => if c = '$' || c = backquote || c = '*' || c = '?' || c = '[' then none
    else some [c]
  | .quoted c => some [c]
  | .inDouble c => if c = '$' || c = backquote then none else some [c]
  | .mark => some []

/-- The text that pieces stand for, when nothing in them is expanded. -/
def textOf : List Piece → Option (List Char)
  | [] => some []
  | p :: ps => p.text.bind fun cs => (textOf ps).map (cs ++ ·)

lemma textOf_append (ps qs : List Piece) :
    textOf (ps ++ qs) = (textOf ps).bind fun cs => (textOf qs).map (cs ++ ·) := by
  induction ps with
  | nil => simp [textOf]
  | cons p ps ih =>
    rw [List.cons_append, textOf, textOf, ih]
    cases p.text <;> cases textOf ps <;> cases textOf qs <;> simp

/-- A tilde in front of a word stands for a directory. -/
def startsTilde : List Piece → Bool
  | .plain c :: _ => c == '~'
  | _ => false

/-- The text that a word stands for, when nothing in it is expanded. -/
def wordText (ps : List Piece) : Option (List Char) := if startsTilde ps then none else textOf ps

lemma textOf_of_wordText {ps : List Piece} {s : List Char} (h : wordText ps = some s) :
    textOf ps = some s := by
  unfold wordText at h
  split at h
  · cases h
  · exact h

/-- A word that goes on does not start with a tilde when it did not before. -/
lemma startsTilde_append {ps qs : List Piece} {s : List Char} (h : wordText ps = some s)
    (hqs : startsTilde qs = false) : startsTilde (ps ++ qs) = false := by
  unfold wordText at h
  split at h
  · cases h
  · rename_i hps
    cases ps with
    | nil => exact hqs
    | cons p ps =>
      cases p with
      | plain c => exact Bool.eq_false_iff.2 hps
      | quoted c => rfl
      | inDouble c => rfl
      | mark => rfl

/-- A word that is the value of a variable, between double quotes. -/
def valueOf (ps : List Piece) : Option (List Char) :=
  let name := ((ps.drop 2).dropLast).filterMap fun p => match p with
    | .inDouble c => some c
    | _ => none
  if ps = .mark :: .inDouble '$' :: (name.map .inDouble ++ [.mark]) ∧ name ≠ [] ∧
      name.all (fun c => c.isAlphanum || c == '_') then some name
  else none

/-- What a token stands for. -/
inductive Lexeme where
  /-- A word without quotes and expansions. -/
  | bare (s : String)
  /-- A word with quotes, which stands for a text. -/
  | text (s : String)
  /-- The value of a variable. -/
  | value (name : String)
  /-- A word with other expansions. -/
  | other (pieces : List Piece)
  | io (pieces : List Piece)
  | op (s : String)
  | newline
  deriving DecidableEq

def isPlain : Piece → Bool
  | .plain _ => true
  | _ => false

/-- What a word stands for. -/
def wordLexeme (ps : List Piece) : Lexeme :=
  match wordText ps with
  | some s => if ps.all isPlain then .bare (String.ofList s) else .text (String.ofList s)
  | none =>
    match valueOf ps with
    | some name => .value (String.ofList name)
    | none => .other ps

def Token.lexeme : Token → Lexeme
  | .word ps => wordLexeme ps
  | .io ps => .io ps
  | .op cs => .op (String.ofList cs)
  | .newline => .newline

/-- What the tokens of a text stand for. -/
def lexemes (s : String) : Option (List Lexeme) := (tokens s).map (List.map Token.lexeme)

/-! ## Texts one after the other -/

/-- From one place a text reads as lexemes, up to another place. -/
def Lexes (p : Place) (s : String) (ls : List Lexeme) (q : Place) : Prop :=
  (read p s.toList).1.map Token.lexeme = ls ∧ (read p s.toList).2 = q

instance (p : Place) (s : String) (ls : List Lexeme) (q : Place) : Decidable (Lexes p s ls q) :=
  inferInstanceAs (Decidable (_ ∧ _))

/-- A text that is given by its characters. -/
lemma lexes_ofList {p q : Place} {cs : List Char} {ls : List Lexeme}
    (h : (read p cs).1.map Token.lexeme = ls ∧ (read p cs).2 = q) :
    Lexes p (String.ofList cs) ls q := by
  rw [Lexes, String.toList_ofList]
  exact h

section Texts

variable {p q r : Place} {s t : String} {ls ms : List Lexeme} {ps : List Piece}

lemma Lexes.append (hs : Lexes p s ls q) (ht : Lexes q t ms r) : Lexes p (s ++ t) (ls ++ ms) r := by
  obtain ⟨hls, hq⟩ := hs
  obtain ⟨hms, hr⟩ := ht
  rw [Lexes, String.toList_append, read_append, hq, List.map_append, hls, hms]
  exact ⟨rfl, hr⟩

lemma Lexes.lexemes_gap (h : Lexes .gap s ls .gap) : lexemes s = some ls := by
  obtain ⟨hls, hq⟩ := h
  simp [lexemes, tokens, hq, finish, hls]

lemma Lexes.lexemes_word (h : Lexes .gap s ls (.word ps [] .none)) :
    lexemes s = some (ls ++ [wordLexeme ps]) := by
  obtain ⟨hls, hq⟩ := h
  simp [lexemes, tokens, hq, finish, hls, Token.lexeme]

/-- A newline ends a word. -/
lemma lexes_newline (ps : List Piece) :
    Lexes (.word ps [] .none) "\n" [wordLexeme ps, .newline] .gap := by
  simp [Lexes, read, step, endsWord, isBlank, wordToken, gapChar, Token.lexeme]

/-- A blank ends a word. -/
lemma lexes_blank (ps : List Piece) : Lexes (.word ps [] .none) " " [wordLexeme ps] .gap := by
  simp [Lexes, read, step, endsWord, isBlank, wordToken, gapChar, Token.lexeme]

/-- The words of a text that ends within a word in which nothing is open. -/
def partOf (cs : List Char) : Option (List Lexeme) :=
  match (read .gap cs).2 with
  | .word ps [] .none => some ((read .gap cs).1.map Token.lexeme ++ [wordLexeme ps])
  | _ => none

def partLexemes (s : String) : Option (List Lexeme) := partOf s.toList

/-- The text is a part of a line: it reads as lexemes, the last of which is a word that it ends
with. -/
def Part (s : String) (ls : List Lexeme) : Prop := partLexemes s = some ls

instance (s : String) (ls : List Lexeme) : Decidable (Part s ls) :=
  inferInstanceAs (Decidable (_ = _))

lemma part_iff :
    Part s ls ↔ ∃ ms ps, Lexes .gap s ms (.word ps [] .none) ∧ ls = ms ++ [wordLexeme ps] := by
  unfold Part partLexemes partOf
  constructor
  · intro h
    split at h
    · rename_i ps hq
      exact ⟨_, ps, ⟨rfl, hq⟩, (Option.some.inj h).symm⟩
    · cases h
  · rintro ⟨ms, ps, ⟨rfl, hq⟩, rfl⟩
    rw [hq]

lemma Part.lexemes (h : Part s ls) : lexemes s = some ls := by
  obtain ⟨ms, ps, hs, rfl⟩ := part_iff.1 h
  exact hs.lexemes_word

/-- Parts are joined by a blank. -/
lemma Part.append (hs : Part s ls) (ht : Part t ms) : Part (s ++ " " ++ t) (ls ++ ms) := by
  obtain ⟨ls, ps, hs', rfl⟩ := part_iff.1 hs
  obtain ⟨ms, qs, ht', rfl⟩ := part_iff.1 ht
  exact part_iff.2 ⟨_, qs, (hs'.append (lexes_blank ps)).append ht', by simp⟩

/-- A newline ends a part. -/
lemma Part.newline (h : Part s ls) : Lexes .gap (s ++ "\n") (ls ++ [.newline]) .gap := by
  obtain ⟨ms, ps, hs, rfl⟩ := part_iff.1 h
  rw [List.append_assoc]
  exact hs.append (lexes_newline ps)

/-- A blank ends a part. -/
lemma Part.blank (h : Part s ls) : Lexes .gap (s ++ " ") ls .gap := by
  obtain ⟨ms, ps, hs, rfl⟩ := part_iff.1 h
  exact hs.append (lexes_blank ps)

/-- What comes before a part ends between two tokens. -/
lemma Part.after (hs : Lexes .gap s ls .gap) (ht : Part t ms) : Part (s ++ t) (ls ++ ms) := by
  obtain ⟨ms, ps, ht', rfl⟩ := part_iff.1 ht
  exact part_iff.2 ⟨_, ps, hs.append ht', by rw [List.append_assoc]⟩

end Texts

/-- What a text reads as that is the same in every script. -/
def fixedLexemes (s : String) : List Lexeme := (lexemes s).getD []

/-- What is between two tokens at its end reads as itself. -/
lemma Lexes.fixed {s : String} {ls : List Lexeme} (h : Lexes .gap s ls .gap) :
    Lexes .gap s (fixedLexemes s) .gap := by
  rw [fixedLexemes, h.lexemes_gap]
  exact h

/-- A text that ends between two tokens. -/
lemma lexes_fixed {s : String} (h : (read .gap s.toList).2 = .gap) :
    Lexes .gap s (fixedLexemes s) .gap := by
  have hs : Lexes .gap s ((read .gap s.toList).1.map Token.lexeme) .gap := ⟨rfl, h⟩
  exact hs.fixed

lemma lexes_fixed_ofList {cs : List Char} (h : (read .gap cs).2 = .gap) :
    Lexes .gap (String.ofList cs) (fixedLexemes (String.ofList cs)) .gap :=
  lexes_fixed (by rw [String.toList_ofList]; exact h)

lemma isSome_part_ofList {cs : List Char} (h : (partOf cs).isSome = true) :
    (partLexemes (String.ofList cs)).isSome = true := by
  rw [partLexemes, String.toList_ofList]
  exact h

lemma Part.fixed {s : String} {ls : List Lexeme} (h : Part s ls) : Part s (fixedLexemes s) := by
  rw [fixedLexemes, h.lexemes]
  exact h

lemma part_fixed {s : String} (h : (partLexemes s).isSome = true) : Part s (fixedLexemes s) := by
  obtain ⟨ls, hls⟩ := Option.isSome_iff_exists.1 h
  exact Part.fixed hls

/-! ## Single quotes -/

/-- A text between single quotes, with a replacement for the single quotes in it. -/
def quoteWith (r : List Char) (s : List Char) : List Char :=
  '\'' :: (s.flatMap fun c => if c = '\'' then r else [c]) ++ ['\'']

/-- The replacement, between single quotes, leads back between single quotes and stands for a
single quote. -/
structure Escapes (r : List Char) (rp : List Piece) : Prop where
  read : ∀ ps, read (.word ps [.single] .none) r = ([], .word (ps ++ rp) [.single] .none)
  text : textOf rp = some ['\'']

/-- The pieces of a text between single quotes. -/
def quotedPieces (rp : List Piece) (s : List Char) : List Piece :=
  s.flatMap fun c => if c = '\'' then rp else [.quoted c]

section Quotes

variable {r : List Char} {rp : List Piece}

lemma Escapes.read_body (h : Escapes r rp) (s : List Char) (ps : List Piece) :
    Shell.read (.word ps [.single] .none) (s.flatMap fun c => if c = '\'' then r else [c]) =
      ([], .word (ps ++ quotedPieces rp s) [.single] .none) := by
  induction s generalizing ps with
  | nil => simp [quotedPieces, Shell.read]
  | cons c s ih =>
    rw [List.flatMap_cons, read_append]
    by_cases hc : c = '\''
    · rw [if_pos hc, h.read, ih]
      simp [quotedPieces, hc]
    · rw [if_neg hc]
      have hstep : Shell.read (.word ps [.single] .none) [c] =
          ([], .word (ps ++ [.quoted c]) [.single] .none) := by
        simp [Shell.read, step, wordChar, Added.to, hc]
      rw [hstep, ih]
      simp [quotedPieces, hc]

/-- A quoted text stands for the text. -/
lemma Escapes.textOf_quoted (h : Escapes r rp) (s : List Char) :
    textOf (quotedPieces rp s) = some s := by
  induction s with
  | nil => rfl
  | cons c s ih =>
    rw [quotedPieces, List.flatMap_cons, textOf_append, ← quotedPieces, ih]
    by_cases hc : c = '\''
    · rw [if_pos hc, h.text, hc]
      rfl
    · rw [if_neg hc]
      rfl

/-- No operator ends with a quote. -/
lemma not_operator_quote (cs : List Char) : cs ++ ['\''] ∉ operators := by
  have hlast : ∀ o ∈ operators, o.getLast? ≠ some '\'' := by decide
  intro hmem
  exact hlast _ hmem List.getLast?_concat

/-- The tokens that end, and the pieces of the word that goes on, where a quote is opened. -/
def opening : Place → Option (List Token × List Piece)
  | .gap => some ([], [])
  | .op cs => some ([.op cs], [])
  | .word ps [] .none => some ([], ps)
  | _ => none

/-- A quoted text goes on with a word, or starts one, which is not ended by anything in the
text. -/
lemma Escapes.read_quoteWith (h : Escapes r rp) {p : Place} {ts : List Token} {ps : List Piece}
    (hp : opening p = some (ts, ps)) (s : List Char) :
    Shell.read p (quoteWith r s) =
      (ts, .word (ps ++ .mark :: (quotedPieces rp s ++ [.mark])) [] .none) := by
  have hopen : Shell.read p ['\''] = (ts, .word (ps ++ [.mark]) [.single] .none) := by
    unfold opening at hp
    split at hp
    · cases hp
      rfl
    · rename_i cs
      cases hp
      have hno := not_operator_quote cs
      simp [Shell.read, step, hno, gapChar, isBlank, startsOperator, wordChar, plainChar, Added.to]
    · cases hp
      simp [Shell.read, step, endsWord, isBlank, startsOperator, wordChar, plainChar, Added.to]
    · cases hp
  have hclose : ∀ qs, Shell.read (.word qs [.single] .none) ['\''] =
      ([], .word (qs ++ [.mark]) [] .none) := fun qs => rfl
  rw [quoteWith, ← List.singleton_append, List.append_assoc, read_append, hopen, read_append,
    h.read_body, hclose]
  simp

/-- Wherever a quote can be opened, a word starts or goes on with the text, which ends nothing,
leaves nothing open and stands for `s`. -/
def QuotedWord (quoted s : String) : Prop :=
  ∀ p ts ps, opening p = some (ts, ps) → ∃ qs,
    Shell.read p quoted.toList = (ts, .word (ps ++ qs) [] .none) ∧ textOf qs = some s.toList

lemma Escapes.quotedWord (h : Escapes r rp) (s : String) :
    QuotedWord (String.ofList (quoteWith r s.toList)) s := by
  intro p ts ps hp
  refine ⟨.mark :: (quotedPieces rp s.toList ++ [.mark]), ?_, ?_⟩
  · rw [String.toList_ofList]
    exact h.read_quoteWith hp s.toList
  · rw [textOf, textOf_append, h.textOf_quoted]
    simp [Piece.text, textOf]

/-- A quoted text in a word stands for itself. -/
lemma Escapes.wordLexeme_quoted (h : Escapes r rp) {ps : List Piece} {t : String}
    (ht : wordText ps = some t.toList) (s : String) :
    wordLexeme (ps ++ .mark :: (quotedPieces rp s.toList ++ [.mark])) = .text (t ++ s) := by
  have htext : wordText (ps ++ .mark :: (quotedPieces rp s.toList ++ [.mark])) =
      some (t ++ s).toList := by
    rw [wordText, startsTilde_append ht rfl, if_neg Bool.false_ne_true, textOf_append,
      textOf_of_wordText ht, textOf, textOf_append, h.textOf_quoted, String.toList_append]
    simp [Piece.text, textOf]
  have hquoted : (ps ++ Piece.mark :: (quotedPieces rp s.toList ++ [.mark])).all isPlain =
      false := by
    have hmark : isPlain .mark = false := rfl
    rw [List.all_append, List.all_cons, hmark, Bool.false_and, Bool.and_false]
  rw [wordLexeme, htext]
  dsimp only
  rw [if_neg (by rw [hquoted]; exact Bool.false_ne_true), String.ofList_toList]

lemma Escapes.part_quoteWith (h : Escapes r rp) (s : String) :
    Part (String.ofList (quoteWith r s.toList)) [.text s] := by
  have hopening : opening .gap = some ([], []) := rfl
  have hread := h.read_quoteWith hopening s.toList
  rw [List.nil_append] at hread
  have hempty : wordText [] = some "".toList := rfl
  refine part_iff.2 ⟨[], .mark :: (quotedPieces rp s.toList ++ [.mark]), ⟨?_, ?_⟩, ?_⟩
  · rw [String.toList_ofList, hread]
    rfl
  · rw [String.toList_ofList, hread]
  · rw [List.nil_append, ← List.nil_append (Piece.mark :: _), h.wordLexeme_quoted hempty,
      String.empty_append]

end Quotes

/-- `'\''` -/
lemma escapes_backslash : Escapes ['\'', '\\', '\'', '\'']
    [.mark, .mark, .quoted '\'', .mark] where
  read ps := by simp [read, step, wordChar, plainChar, Added.to, endsWord, isBlank, startsOperator]
  text := rfl

lemma escapes_double : Escapes ['\'', '"', '\'', '"', '\'']
    [.mark, .mark, .inDouble '\'', .mark, .mark] where
  read ps := by
    simp [read, step, wordChar, plainChar, Added.to, doubleChar, endsWord, isBlank, startsOperator,
      backquote]
  text := rfl

/-! ## What a word leaves open -/

section Open

variable {ps qs : List Piece} {ms : List Mode} {pe : Pending} {s t : List Char}

/-- A text without single quotes, between single quotes. -/
lemma read_single (h : '\'' ∉ s) : read (.word ps [.single] .none) s =
    ([], .word (ps ++ s.map .quoted) [.single] .none) := by
  induction s generalizing ps with
  | nil => simp [read]
  | cons c s ih =>
    rw [List.mem_cons, not_or] at h
    have hstep : step (.word ps [.single] .none) c =
        ([], .word (ps ++ [.quoted c]) [.single] .none) := by
      simp [step, wordChar, Added.to, Ne.symm h.1]
    rw [read, hstep, ih h.2]
    simp

lemma textOf_quoted (s : List Char) : textOf (s.map .quoted) = some s := by
  induction s with
  | nil => rfl
  | cons c s ih =>
    rw [List.map_cons, textOf, ih]
    rfl

/-- A character that stands for itself in every place of a word. -/
def isOrdinary (c : Char) : Bool :=
  !endsWord c &&
    !(['\\', '\'', '"', '{', '}', backquote, '$', '#', '*', '?', '[', '~'].contains c)

lemma step_ordinary {c : Char} (h : isOrdinary c = true) (ps : List Piece) :
    step (.word ps [] .none) c = ([], .word (ps ++ [.plain c]) [] .none) := by
  simp only [isOrdinary, Bool.and_eq_true, Bool.not_eq_true', List.contains_eq_mem,
    decide_eq_false_iff_not, List.mem_cons, List.not_mem_nil, not_or] at h
  obtain ⟨hend, hback, hquote, hdouble, -, -, htick, hdollar, -⟩ := h
  simp [step, hend, wordChar, plainChar, Added.to, hback, hquote, hdouble, htick, hdollar]

lemma read_ordinary (h : ∀ c ∈ s, isOrdinary c = true) (ps : List Piece) :
    read (.word ps [] .none) s = ([], .word (ps ++ s.map .plain) [] .none) := by
  induction s generalizing ps with
  | nil => simp [read]
  | cons c s ih =>
    rw [read, step_ordinary (h c List.mem_cons_self),
      ih fun d hd => h d (List.mem_cons_of_mem c hd)]
    simp

lemma textOf_ordinary (h : ∀ c ∈ s, isOrdinary c = true) : textOf (s.map .plain) = some s := by
  induction s with
  | nil => rfl
  | cons c s ih =>
    have hc := h c List.mem_cons_self
    simp only [isOrdinary, Bool.and_eq_true, Bool.not_eq_true', List.contains_eq_mem,
      decide_eq_false_iff_not, List.mem_cons, List.not_mem_nil, not_or] at hc
    obtain ⟨-, -, -, -, -, -, htick, hdollar, -, hstar, hquestion, hbracket, -⟩ := hc
    rw [List.map_cons, textOf, ih fun d hd => h d (List.mem_cons_of_mem c hd)]
    simp [Piece.text, htick, hdollar, hstar, hquestion, hbracket]

lemma wordText_ordinary (h : ∀ c ∈ s, isOrdinary c = true) :
    wordText (s.map .plain) = some s := by
  have htilde : isOrdinary '~' = false := by decide
  have hstart : startsTilde (s.map .plain) = false := by
    cases s with
    | nil => rfl
    | cons c s =>
      refine beq_eq_false_iff_ne.2 ?_
      rintro rfl
      cases htilde.symm.trans (h _ List.mem_cons_self)
  rw [wordText, hstart, if_neg Bool.false_ne_true]
  exact textOf_ordinary h

lemma read_gap_ordinary (hne : s ≠ []) (h : ∀ c ∈ s, isOrdinary c = true) :
    read .gap s = ([], .word (s.map .plain) [] .none) := by
  obtain ⟨c, cs, rfl⟩ := List.exists_cons_of_ne_nil hne
  have hc := h c List.mem_cons_self
  have hstep : step .gap c = ([], .word [.plain c] [] .none) := by
    simp only [isOrdinary, Bool.and_eq_true, Bool.not_eq_true', List.contains_eq_mem,
      decide_eq_false_iff_not, List.mem_cons, List.not_mem_nil, not_or, endsWord,
      Bool.or_eq_false_iff] at hc
    obtain ⟨⟨⟨hblank, hnewline⟩, hoperator⟩, hback, hquote, hdouble, -, -, htick, hdollar,
      hhash, -⟩ := hc
    simp only [beq_eq_false_iff_ne, ne_eq] at hnewline
    simp [step, gapChar, hblank, hnewline, hoperator, hhash, hback, wordChar, plainChar,
      Added.to, hquote, hdouble, htick, hdollar]
  rw [read, hstep, read_ordinary fun d hd => h d (List.mem_cons_of_mem c hd)]
  rfl

/-- A word of ordinary characters is bare. -/
lemma part_ordinary {w : String} (hne : w.toList ≠ [])
    (h : ∀ c ∈ w.toList, isOrdinary c = true) : Part w [.bare w] := by
  have hread := read_gap_ordinary hne h
  have hplain : (w.toList.map Piece.plain).all isPlain = true := by
    rw [List.all_map, List.all_eq_true]
    exact fun _ _ => rfl
  refine part_iff.2 ⟨[], w.toList.map .plain, ⟨?_, ?_⟩, ?_⟩
  · rw [hread]
    rfl
  · rw [hread]
  · rw [wordLexeme, wordText_ordinary h]
    dsimp only
    rw [if_pos hplain, String.ofList_toList]
    rfl

/-- How many tokens end does not depend on how the word started. -/
lemma length_read_word (ps qs : List Piece) (ms : List Mode) (pe : Pending) (s : List Char) :
    (read (.word ps ms pe) s).1.length = (read (.word qs ms pe) s).1.length ∧
      (finish (read (.word ps ms pe) s).2).map List.length =
        (finish (read (.word qs ms pe) s).2).map List.length := by
  induction s generalizing ps qs ms pe with
  | nil =>
    refine ⟨rfl, ?_⟩
    unfold read finish
    cases ms <;> cases pe <;> rfl
  | cons c s ih =>
    rw [read, read, step, step]
    split
    · simp
    · exact ih _ _ _ _

/-- Nothing is expanded and at most one quote is open, or the word stands for no text. -/
def Plain (ps : List Piece) (ms : List Mode) (pe : Pending) : Prop :=
  textOf ps = none ∨ ((ms = [] ∨ ms = [.single] ∨ ms = [.double]) ∧ pe ≠ .dollar)

lemma textOf_append_none (h : textOf ps = none ∨ textOf qs = none) : textOf (ps ++ qs) = none := by
  rw [textOf_append]
  rcases h with h | h
  · rw [h]
    rfl
  · rw [h]
    cases textOf ps <;> rfl

lemma textOf_eq_none_of_mem {q : Piece} (hq : q ∈ ps) (hnone : q.text = none) :
    textOf ps = none := by
  induction ps with
  | nil => cases hq
  | cons p ps ih =>
    rw [textOf]
    rcases List.mem_cons.1 hq with rfl | hq
    · rw [hnone]
      rfl
    · rw [ih hq]
      cases p.text <;> rfl

/-- Something is expanded, or at most one quote is open. -/
def Added.Plain (a : Added) : Prop :=
  (∃ q ∈ a.1, q.text = none) ∨
    ((a.2.1 = [] ∨ a.2.1 = [.single] ∨ a.2.1 = [.double]) ∧ a.2.2 ≠ .dollar)

/-- A character that opens a substitution is itself expanded. -/
lemma wordChar_plain (hms : ms = [] ∨ ms = [.single] ∨ ms = [.double]) (hpe : pe ≠ .dollar)
    (c : Char) : (wordChar ms pe c).Plain := by
  have hactive : ∀ {q : Piece} {ms' : List Mode} {pe' : Pending}, q.text = none →
      Added.Plain ([q], ms', pe') := fun hq => Or.inl ⟨_, List.mem_singleton_self _, hq⟩
  have hshape : ∀ {qs : List Piece} {ms' : List Mode} {pe' : Pending},
      (ms' = [] ∨ ms' = [.single] ∨ ms' = [.double]) → pe' ≠ .dollar →
        Added.Plain (qs, ms', pe') := fun hms' hpe' => Or.inr ⟨hms', hpe'⟩
  have hpe' : (pe == .dollar) = false := beq_eq_false_iff_ne.2 hpe
  have hparen : ((none : Option Mode) == some .paren) = false := rfl
  have hbrace : ((none : Option Mode) == some .brace) = false := rfl
  rcases hms with rfl | rfl | rfl
  · rw [show wordChar [] pe c = plainChar [] pe c from rfl]
    simp only [plainChar, hpe', List.head?_nil, hparen, hbrace, Bool.or_self, Bool.and_false,
      Bool.false_eq_true, if_false, reduceCtorEq]
    split_ifs with h₁ h₂ h₃ h₄ h₅ h₆ h₇
    · exact hshape (Or.inl rfl) nofun
    · exact hshape (Or.inl rfl) nofun
    · exact hshape (Or.inl rfl) nofun
    · exact hshape (Or.inr (Or.inl rfl)) nofun
    · exact hshape (Or.inr (Or.inr rfl)) nofun
    · exact hactive (by rw [h₆]; rfl)
    · exact hactive (by rw [h₇]; rfl)
    · exact hshape (Or.inl rfl) nofun
  · rw [show wordChar [.single] pe c = if c = '\'' then ([.mark], [], .none)
      else ([.quoted c], [.single], .none) from rfl]
    split
    · exact hshape (Or.inl rfl) nofun
    · exact hshape (Or.inr (Or.inl rfl)) nofun
  · rw [show wordChar [.double] pe c = doubleChar [] pe c from rfl]
    simp only [doubleChar, hpe', Bool.and_false, Bool.false_eq_true, if_false]
    split_ifs with h₁ h₂ h₃ h₄ h₅ h₆ h₇
    · exact hshape (Or.inr (Or.inr rfl)) nofun
    · exact hshape (Or.inr (Or.inr rfl)) nofun
    · exact hshape (Or.inr (Or.inr rfl)) nofun
    · exact hshape (Or.inr (Or.inr rfl)) nofun
    · exact hshape (Or.inl rfl) nofun
    · exact hactive (by rw [h₆]; rfl)
    · exact hactive (by rw [h₇]; rfl)
    · exact hshape (Or.inr (Or.inr rfl)) nofun

lemma Plain.wordChar (h : Plain ps ms pe) (c : Char) :
    Plain (ps ++ (wordChar ms pe c).1) (wordChar ms pe c).2.1 (wordChar ms pe c).2.2 := by
  rcases h with h | ⟨hms, hpe⟩
  · exact Or.inl (textOf_append_none (Or.inl h))
  · rcases wordChar_plain hms hpe c with ⟨q, hq, hnone⟩ | hplain
    · exact Or.inl (textOf_append_none (Or.inr (textOf_eq_none_of_mem hq hnone)))
    · exact Or.inr hplain

/-- In the word that is read, nothing is expanded and at most one quote is open. -/
def PlainPlace : Place → Prop
  | .word ps ms pe => Plain ps ms pe
  | _ => True

lemma plainPlace_gapChar (c : Char) : PlainPlace (gapChar c).2 := by
  have hempty : Plain [] [] .none := Or.inr ⟨Or.inl rfl, nofun⟩
  unfold gapChar
  repeat' split
  all_goals first
    | trivial
    | exact hempty.wordChar c

lemma PlainPlace.step {p : Place} (h : PlainPlace p) (c : Char) : PlainPlace (step p c).2 := by
  cases p with
  | gap => exact plainPlace_gapChar c
  | escape =>
    rw [Shell.step]
    split
    · trivial
    · exact Or.inr ⟨Or.inl rfl, nofun⟩
  | op cs =>
    rw [Shell.step]
    split
    · trivial
    · exact plainPlace_gapChar c
  | comment =>
    rw [Shell.step]
    split <;> trivial
  | word ps ms pe =>
    rw [Shell.step]
    split
    · exact plainPlace_gapChar c
    · exact Plain.wordChar h c

lemma PlainPlace.read {p : Place} (h : PlainPlace p) (s : List Char) :
    PlainPlace (read p s).2 := by
  induction s generalizing p with
  | nil => exact h
  | cons c s ih => exact ih (h.step c)

end Open

end Shell

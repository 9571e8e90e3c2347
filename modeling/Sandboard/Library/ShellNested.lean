import Sandboard.Library.ShellWeight

/-!
# Quotes within quotes

A text between single quotes is the command of another shell, and a word in it is between single
quotes of its own.  The quotes end each other: the outer shell reads the word without quotes, and
the inner shell reads what is left of it.  So the inner shell takes the word for itself exactly
when it is still the same after it was read twice.
-/

namespace Shell

/-! ## What goes on behind a quote or a blank -/

/-- A quote is open, or a backslash is pending. -/
def Hanging : Place → Prop
  | .word _ [] pe => pe = .backslash
  | .word _ [.single] _ => True
  | .word _ [.double] pe => pe ≠ .dollar
  | _ => False

/-- Between double quotes, the text leads back between double quotes. -/
def balanced (s : List Char) : Bool :=
  match read (.word [] [.double] .none) s with
  | ([], .word _ [.double] .none) => true
  | _ => false

/-- The text starts with a character that is a part of a word in every place. -/
def startsWord : List Char → Bool
  | c :: _ => !endsWord c && c != '#' && c != '\\'
  | [] => false

section Hanging

variable {p : Place} {s t : List Char} {ps : List Piece} {ms : List Mode} {pe : Pending}

/-- Where a word stands for a text, nothing is open or the word goes on. -/
lemma Plain.hanging (h : Plain ps ms pe) (htext : textOf ps ≠ none) :
    (ms = [] ∧ pe = .none) ∨ Hanging (.word ps ms pe) := by
  rcases h with h | ⟨rfl | rfl | rfl, hpe⟩
  · exact absurd h htext
  · cases pe with
    | none => exact Or.inl ⟨rfl, rfl⟩
    | backslash => exact Or.inr rfl
    | dollar => exact absurd rfl hpe
  · exact Or.inr trivial
  · exact Or.inr hpe

/-- A text that reads as nothing at its end does so behind another text. -/
lemma lexemesFrom_eq_none {q : Place} {ts : List Token} (hs : read p s = (ts, q))
    (ht : Shell.lexemesFrom q t = none) : Shell.lexemesFrom p (s ++ t) = none := by
  rw [lexemesFrom_append, hs, ht]
  rfl

/-- A single quote that is open stays open up to the next one. -/
lemma lexemesFrom_single (h : '\'' ∉ s) (ps : List Piece) (pe : Pending) :
    Shell.lexemesFrom (.word ps [.single] pe) s = none := by
  cases s with
  | nil => cases pe <;> rfl
  | cons c s =>
    rw [List.mem_cons, not_or] at h
    have hstep : read (.word ps [.single] pe) [c] =
        ([], .word (ps ++ [.quoted c]) [.single] .none) := by
      simp [read, step, wordChar, Added.to, Ne.symm h.1]
    refine lexemesFrom_eq_none hstep ?_
    unfold Shell.lexemesFrom
    rw [read_single h.2]
    rfl

lemma read_balanced (h : balanced s = true) (ps : List Piece) :
    ∃ qs, read (.word ps [.double] .none) s = ([], .word qs [.double] .none) := by
  unfold balanced at h
  split at h
  · rename_i qs hread
    have hsilent : (read (.word [] [.double] .none) s).1 = [] := by rw [hread]
    obtain ⟨added, ms', pe', hsame, -⟩ := read_word_silent hsilent
    rw [hsame] at hread
    cases hread
    exact ⟨ps ++ added, hsame ps⟩
  · cases h

lemma balanced_append (hs : balanced s = true) (ht : balanced t = true) :
    balanced (s ++ t) = true := by
  obtain ⟨qs, hqs⟩ := read_balanced hs []
  obtain ⟨qs', hqs'⟩ := read_balanced ht qs
  rw [balanced, read_append, hqs, hqs']
  rfl

/-- A double quote that is open stays open. -/
lemma lexemesFrom_balanced (h : balanced s = true) (ps : List Piece) :
    Shell.lexemesFrom (.word ps [.double] .none) s = none := by
  obtain ⟨qs, hqs⟩ := read_balanced h ps
  unfold Shell.lexemesFrom
  rw [hqs]
  rfl

/-- Between double quotes, a backslash in front of a blank or a single quote changes nothing. -/
lemma read_double {c : Char} (hc : c = ' ' ∨ c = '\'') (hpe : pe ≠ .dollar) (ps : List Piece) :
    ∃ qs, read (.word ps [.double] pe) [c] = ([], .word qs [.double] .none) := by
  cases pe with
  | none => rcases hc with rfl | rfl <;> exact ⟨_, rfl⟩
  | backslash => rcases hc with rfl | rfl <;> exact ⟨_, rfl⟩
  | dollar => exact absurd rfl hpe

/-- A word goes on as it starts. -/
lemma length_lexemesFrom_startsWord (h : startsWord s = true) (ps : List Piece) :
    (Shell.lexemesFrom (.word ps [] .none) s).map List.length =
      (Shell.lexemesFrom .gap s).map List.length := by
  cases s with
  | nil => cases h
  | cons c s =>
    simp only [startsWord, Bool.and_eq_true, Bool.not_eq_true', bne_iff_ne, ne_eq] at h
    obtain ⟨⟨hend, hhash⟩, hback⟩ := h
    have hword : read (.word ps [] .none) [c] =
        ([], Added.to (wordChar [] .none c) ps) := by
      simp [read, step, hend]
    have hgap : read .gap [c] = ([], Added.to (wordChar [] .none c) []) := by
      simp only [endsWord, Bool.or_eq_false_iff, beq_eq_false_iff_ne, ne_eq] at hend
      obtain ⟨⟨hblank, hnewline⟩, hoperator⟩ := hend
      simp [read, step, gapChar, hblank, hnewline, hoperator, hhash, hback]
    rw [← List.singleton_append, lexemesFrom_append, lexemesFrom_append, hword, hgap]
    simp only [List.map_nil, List.nil_append, Option.map_id']
    exact length_lexemesFrom _ _ _ _ s

/-- From a place where the word goes on behind a quote, the quotes that follow do not close. -/
lemma lexemesFrom_hanging (hp : Hanging p) (hpart : (partOf s).isSome = true)
    (hs : balanced s = true) (hquote : '\'' ∉ t) (ht : balanced t = true) :
    Shell.lexemesFrom p (['\''] ++ ([' '] ++ (s ++ (['\''] ++ t)))) = none := by
  have hclosed : ∀ ps : List Piece,
      Shell.lexemesFrom (.word ps [] .none) ([' '] ++ (s ++ (['\''] ++ t))) = none := by
    intro ps
    have hblank : read (.word ps [] .none) [' '] = ([wordToken ps ' '], .gap) := rfl
    refine lexemesFrom_eq_none hblank ?_
    unfold partOf at hpart
    split at hpart
    · rename_i qs hqs
      have hread : read .gap s = ((read .gap s).1, .word qs [] .none) := by rw [← hqs]
      refine lexemesFrom_eq_none hread ?_
      have hopen : read (.word qs [] .none) ['\''] = ([], .word (qs ++ [.mark]) [.single] .none) :=
        rfl
      exact lexemesFrom_eq_none hopen (lexemesFrom_single hquote _ _)
    · cases hpart
  unfold Hanging at hp
  split at hp
  · rename_i ps pe
    rw [hp]
    have hescape : read (.word ps [] .backslash) ['\''] =
        ([], .word (ps ++ [.mark, .quoted '\'']) [] .none) := rfl
    exact lexemesFrom_eq_none hescape (hclosed _)
  · rename_i ps pe
    have hclose : read (.word ps [.single] pe) ['\''] = ([], .word (ps ++ [.mark]) [] .none) := rfl
    exact lexemesFrom_eq_none hclose (hclosed _)
  · rename_i ps pe
    have hnone : Pending.none ≠ .dollar := nofun
    obtain ⟨qs₁, h₁⟩ := read_double (Or.inr rfl) hp ps
    obtain ⟨qs₂, h₂⟩ := read_double (Or.inl rfl) hnone qs₁
    obtain ⟨qs₃, h₃⟩ := read_balanced hs qs₂
    obtain ⟨qs₄, h₄⟩ := read_double (Or.inr rfl) hnone qs₃
    exact lexemesFrom_eq_none h₁ (lexemesFrom_eq_none h₂ (lexemesFrom_eq_none h₃
      (lexemesFrom_eq_none h₄ (lexemesFrom_balanced ht qs₄))))
  · cases hp

/-- From a place where the word goes on behind a blank, the next word is no word of its own. -/
lemma length_lexemesFrom_hanging {ls : List Lexeme} (hp : Hanging p) (hstart : startsWord s = true)
    (hs : balanced s = true) (hquote : '\'' ∉ s)
    (h : Shell.lexemesFrom p ([' '] ++ s) = some ls) :
    (Shell.lexemesFrom .gap s).map List.length = some ls.length := by
  unfold Hanging at hp
  split at hp
  · rename_i ps pe
    have hescape : read (.word ps [] .backslash) [' '] =
        ([], .word (ps ++ [.mark, .quoted ' ']) [] .none) := rfl
    rw [hp, lexemesFrom_append, hescape] at h
    obtain ⟨ls', hls', rfl⟩ := Option.map_eq_some_iff.1 h
    rw [← length_lexemesFrom_startsWord hstart (ps ++ [.mark, .quoted ' ']), hls']
    rfl
  · rename_i ps pe
    have hblank : '\'' ∉ [' '] ++ s := by simpa using hquote
    cases (lexemesFrom_single hblank ps pe).symm.trans h
  · rename_i ps pe
    obtain ⟨qs, hqs⟩ := read_double (Or.inl rfl) hp ps
    cases (lexemesFrom_eq_none hqs (lexemesFrom_balanced hs qs)).symm.trans h
  · cases hp

end Hanging

/-! ## A word that is read twice -/

/-- The text that a text stands for, when it goes on with a word. -/
def spelled (s : String) : Option String :=
  match read (.word [] [] .none) s.toList with
  | ([], .word ps [] .none) => (textOf ps).map String.ofList
  | _ => none

/-- The text that a text stands for, when it is one word. -/
def wordFor (s : String) : Option String :=
  match read .gap s.toList with
  | ([], .word ps [] .none) => (wordText ps).map String.ofList
  | _ => none

section Twice

variable {p : Place} {s t : List Char} {ps : List Piece} {ls : List Lexeme} {l : Lexeme}
  {m w x : String}

lemma map_ofList_eq_some {o : Option (List Char)} :
    o.map String.ofList = some x ↔ o = some x.toList := by
  constructor
  · intro h
    obtain ⟨cs, hcs, rfl⟩ := Option.map_eq_some_iff.1 h
    rw [hcs, String.toList_ofList]
  · rintro rfl
    rw [Option.map_some, String.ofList_toList]

lemma spelled_eq_some : spelled w = some x ↔ ∃ added,
    (∀ ps, read (.word ps [] .none) w.toList = ([], .word (ps ++ added) [] .none)) ∧
      textOf added = some x.toList := by
  constructor
  · intro h
    unfold spelled at h
    split at h
    · rename_i ps hread
      have hsilent : (read (.word [] [] .none) w.toList).1 = [] := by rw [hread]
      obtain ⟨added, ms', pe', hsame, -⟩ := read_word_silent hsilent
      rw [hsame] at hread
      cases hread
      exact ⟨added, hsame, map_ofList_eq_some.1 h⟩
    · cases h
  · rintro ⟨added, hread, htext⟩
    unfold spelled
    rw [hread]
    exact map_ofList_eq_some.2 htext

lemma wordFor_eq_some : wordFor w = some x ↔ ∃ ps,
    read .gap w.toList = ([], .word ps [] .none) ∧ wordText ps = some x.toList := by
  constructor
  · intro h
    unfold wordFor at h
    split at h
    · rename_i ps hread
      exact ⟨ps, hread, map_ofList_eq_some.1 h⟩
    · cases h
  · rintro ⟨ps, hread, htext⟩
    unfold wordFor
    rw [hread]
    exact map_ofList_eq_some.2 htext

/-- What is spelled weighs no more than the text. -/
lemma weight_spelled (h : spelled w = some x) : weight x.toList ≤ weight w.toList := by
  obtain ⟨added, hread, htext⟩ := spelled_eq_some.1 h
  have hweight := weight_read (.word [] [] .none) w.toList
  rw [hread] at hweight
  simp only [tokensWeight, List.map_nil, List.sum_nil, Place.weight, Pending.weight,
    List.nil_append, piecesWeight] at hweight
  rw [weight_textOf htext, piecesWeight]
  omega

/-- A word in which nothing special is stands for itself. -/
lemma spelled_ordinary (h : ∀ c ∈ w.toList, isOrdinary c = true) : spelled w = some w :=
  spelled_eq_some.2 ⟨w.toList.map .plain, read_ordinary h, textOf_ordinary h⟩

lemma wordFor_ordinary (hne : w.toList ≠ []) (h : ∀ c ∈ w.toList, isOrdinary c = true) :
    wordFor w = some w :=
  wordFor_eq_some.2 ⟨w.toList.map .plain, read_gap_ordinary hne h, wordText_ordinary h⟩

lemma standsFor_wordLexeme (h : wordText ps = some m.toList) : (wordLexeme ps).StandsFor m :=
  Token.standsFor_iff.2 ⟨ps, rfl, h⟩

/-- The pieces of a text between single quotes. -/
def enclosed (s : List Char) : List Piece := .mark :: (s.map .quoted ++ [.mark])

/-- A text between single quotes in which there are none. -/
lemma read_enclosed (hs : '\'' ∉ s) (ps : List Piece) :
    read (.word ps [] .none) (['\''] ++ (s ++ ['\''])) =
      ([], .word (ps ++ enclosed s) [] .none) := by
  have hopen : read (.word ps [] .none) ['\''] = ([], .word (ps ++ [.mark]) [.single] .none) := rfl
  have hclose : ∀ qs, read (.word qs [.single] .none) ['\''] =
      ([], .word (qs ++ [.mark]) [] .none) := fun qs => rfl
  rw [read_append, hopen, read_append, read_single hs, hclose]
  simp [enclosed]

lemma textOf_enclosed (s : List Char) : textOf (enclosed s) = some s := by
  rw [enclosed, textOf, textOf_append, textOf_quoted]
  simp [textOf, Piece.text]

/-- A word between two texts that are quoted. -/
lemma wordLexeme_nested {b a : String} {added : List Piece}
    (hadded : textOf added = some x.toList) :
    wordLexeme (enclosed b.toList ++ added ++ enclosed a.toList) = .text (b ++ x ++ a) := by
  have htext : wordText (enclosed b.toList ++ added ++ enclosed a.toList) =
      some (b ++ x ++ a).toList := by
    have htilde : startsTilde (enclosed b.toList ++ added ++ enclosed a.toList) = false := rfl
    rw [wordText, htilde, if_neg Bool.false_ne_true, textOf_append, textOf_append,
      textOf_enclosed, textOf_enclosed, hadded]
    simp
  have hmark : ¬(enclosed b.toList ++ added ++ enclosed a.toList).all isPlain = true := by
    simp [enclosed, isPlain]
  rw [wordLexeme, htext]
  dsimp only
  rw [if_neg hmark, String.ofList_toList]

/-- A text without single quotes, between them. -/
lemma part_enclosed (hw : '\'' ∉ w.toList) : Part ("'" ++ w ++ "'") [.text w] := by
  have hread : read .gap ("'" ++ w ++ "'").toList =
      ([], .word (enclosed w.toList) [] .none) := by
    have hlist : ("'" ++ w ++ "'").toList = ['\''] ++ (w.toList ++ ['\'']) := by simp
    rw [hlist]
    exact read_enclosed hw []
  have htext : wordText (enclosed w.toList) = some w.toList := textOf_enclosed w.toList
  refine part_iff.2 ⟨[], _, ⟨?_, congrArg Prod.snd hread⟩, ?_⟩
  · rw [hread]
    rfl
  · have hmark : ¬(enclosed w.toList).all isPlain = true := by simp [enclosed, isPlain]
    rw [wordLexeme, htext]
    dsimp only
    rw [if_neg hmark, String.ofList_toList]
    rfl

/-- The text around a word: the quotes end in front of it and begin again behind it. -/
def nested (b w a : String) : String := "'" ++ b ++ "'" ++ w ++ "'" ++ a ++ "'"

lemma toList_nested (b w a : String) : (nested b w a).toList =
    (['\''] ++ (b.toList ++ ['\''])) ++ (w.toList ++ (['\''] ++ (a.toList ++ ['\'']))) := by
  simp [nested]

/-- What is quoted is read as it stands, with what the word stands for in it. -/
lemma part_nested {b a : String} (hb : '\'' ∉ b.toList) (ha : '\'' ∉ a.toList)
    (hx : spelled w = some x) : Part (nested b w a) [.text (b ++ x ++ a)] := by
  obtain ⟨added, hread, hadded⟩ := spelled_eq_some.1 hx
  have hfront : read .gap (['\''] ++ (b.toList ++ ['\''])) =
      ([], .word (enclosed b.toList) [] .none) := read_enclosed hb []
  have hall : read .gap (nested b w a).toList =
      ([], .word (enclosed b.toList ++ added ++ enclosed a.toList) [] .none) := by
    rw [toList_nested, read_append, hfront, read_append, hread, read_enclosed ha]
    rfl
  refine part_iff.2 ⟨[], _, ⟨?_, congrArg Prod.snd hall⟩, ?_⟩
  · rw [hall]
    rfl
  · rw [wordLexeme_nested hadded]
    rfl

/-- The first token that ends is read as the first lexeme. -/
lemma lexeme_of_read {u : Token} {us : List Token} (hread : (read p s).1 = u :: us)
    (h : lexemesFrom p (s ++ t) = some (l :: ls)) : u.lexeme = l := by
  rw [lexemesFrom_append, hread] at h
  obtain ⟨ls', -, heq⟩ := Option.map_eq_some_iff.1 h
  exact (List.cons.inj heq).1

/-- Without a token that ends, what follows reads as everything. -/
lemma lexemesFrom_of_read (hread : (read p s).1 = [])
    (h : lexemesFrom p (s ++ t) = some ls) : lexemesFrom (read p s).2 t = some ls := by
  rw [lexemesFrom_append, hread] at h
  obtain ⟨ls', hls', rfl⟩ := Option.map_eq_some_iff.1 h
  exact hls'

/-- Where the first word is a text, the word in it was read as a part of it, or the text ends
before the word does. -/
lemma spelled_of_nested {b a : String} {inner : String} (hb : '\'' ∉ b.toList)
    (ha : '\'' ∉ a.toList) (hpart : (partOf a.toList).isSome = true)
    (hbal : balanced a.toList = true) (ht : '\'' ∉ t) (htbal : balanced ([' '] ++ t) = true)
    (h : lexemesFrom .gap ((nested b w (" " ++ a)).toList ++ ([' '] ++ t)) =
      some (.text inner :: ls)) :
    (∃ x, spelled w = some x ∧ inner = b ++ x ++ (" " ++ a)) ∨
      ∃ x : String, inner = b ++ x ∧ weight x.toList < weight w.toList := by
  have hl : (Lexeme.text inner).StandsFor inner := Or.inr rfl
  have hfront : read .gap (['\''] ++ (b.toList ++ ['\''])) =
      ([], .word (enclosed b.toList) [] .none) := read_enclosed hb []
  have hword : lexemesFrom (.word (enclosed b.toList) [] .none)
      (w.toList ++ ((['\''] ++ ((" " ++ a).toList ++ ['\''])) ++ ([' '] ++ t))) =
        some (.text inner :: ls) := by
    have hlist : (nested b w (" " ++ a)).toList ++ ([' '] ++ t) =
        (['\''] ++ (b.toList ++ ['\''])) ++
          (w.toList ++ ((['\''] ++ ((" " ++ a).toList ++ ['\''])) ++ ([' '] ++ t))) := by
      rw [toList_nested]
      simp only [List.append_assoc]
    rw [hlist] at h
    have hrest := lexemesFrom_of_read (by rw [hfront]) h
    rw [hfront] at hrest
    exact hrest
  cases hread : (read (.word (enclosed b.toList) [] .none) w.toList).1 with
  | cons u us =>
    right
    obtain ⟨added, c, hu, hweight⟩ := read_word_first hread
    obtain ⟨qs, hqs, htext⟩ := Token.standsFor_iff.1 (lexeme_of_read hread hword ▸ hl)
    have heq := wordToken_eq_word (hu.symm.trans hqs)
    have hfull := textOf_of_wordText htext
    rw [heq, textOf_append, textOf_enclosed, Option.bind_some] at hfull
    obtain ⟨cs, hcs, hinner⟩ := Option.map_eq_some_iff.1 hfull
    refine ⟨String.ofList cs, ?_, ?_⟩
    · rw [← String.toList_inj, String.toList_append, String.toList_ofList, hinner]
    · rw [String.toList_ofList, weight_textOf hcs]
      have hnone : Pending.none.weight = 0 := rfl
      omega
  | nil =>
    left
    obtain ⟨added, ms, pe, hsame, -⟩ := read_word_silent hread
    have hrest := lexemesFrom_of_read hread hword
    rw [hsame] at hrest
    have hempty : PlainPlace (.word (enclosed b.toList) [] .none) := Or.inr ⟨Or.inl rfl, nofun⟩
    have hplain : Plain (enclosed b.toList ++ added) ms pe := by
      have hplace : PlainPlace (read (.word (enclosed b.toList) [] .none) w.toList).2 :=
        PlainPlace.read hempty w.toList
      rw [hsame] at hplace
      exact hplace
    obtain ⟨more, hmore⟩ := textOf_first hrest hl
    have htext : textOf (enclosed b.toList ++ added) ≠ none := by
      intro hnone
      cases hmore.symm.trans (textOf_append_none (Or.inl hnone))
    rcases hplain.hanging htext with ⟨rfl, rfl⟩ | hhanging
    · obtain ⟨cs, hcs⟩ := Option.ne_none_iff_exists'.1 htext
      rw [textOf_append, textOf_enclosed, Option.bind_some] at hcs
      obtain ⟨x, hx, -⟩ := Option.map_eq_some_iff.1 hcs
      have hadded : textOf added = some (String.ofList x).toList := by
        rw [hx, String.toList_ofList]
      have hblank : '\'' ∉ (" " ++ a).toList := by simpa using ha
      have hend := read_enclosed hblank (enclosed b.toList ++ added)
      have hlast := lexemesFrom_of_read (by rw [hend]) hrest
      rw [hend] at hlast
      have hfirst : (wordToken (enclosed b.toList ++ added ++ enclosed (" " ++ a).toList)
          ' ').lexeme = .text inner := lexeme_of_read rfl hlast
      have hinner : Lexeme.text (b ++ String.ofList x ++ (" " ++ a)) = .text inner :=
        (wordLexeme_nested hadded).symm.trans hfirst
      cases hinner
      exact ⟨_, spelled_eq_some.2 ⟨added, hsame, hadded⟩, rfl⟩
    · have hnone := lexemesFrom_hanging (s := a.toList) (t := [' '] ++ t) hhanging hpart hbal
        (by simpa using ht) htbal
      have hlist : (['\''] ++ ((" " ++ a).toList ++ ['\''])) ++ ([' '] ++ t) =
          ['\''] ++ ([' '] ++ (a.toList ++ (['\''] ++ ([' '] ++ t)))) := by simp
      rw [hlist] at hrest
      cases hnone.symm.trans hrest

/-- A comment goes on to the end of the line. -/
lemma lexemesFrom_comment (h : lexemesFrom .comment s = some (l :: ls)) : l = .newline := by
  induction s with
  | nil => cases h
  | cons c s ih =>
    rw [← List.singleton_append] at h
    by_cases hc : c = '\n'
    · have hstep : read .comment [c] = ([.newline], .gap) := by
        rw [hc]
        rfl
      exact (lexeme_of_read (by rw [hstep]) h).symm
    · have hstep : read .comment [c] = ([], .comment) := by
        simp [read, step, hc]
      have hrest := lexemesFrom_of_read (by rw [hstep]) h
      rw [hstep] at hrest
      exact ih hrest

/-- No operator ends with a blank. -/
lemma not_operator_blank (cs : List Char) : cs ++ [' '] ∉ operators := by
  have hlast : ∀ o ∈ operators, o.getLast? ≠ some ' ' := by decide
  intro hmem
  exact hlast _ hmem List.getLast?_concat

/-- Where a word stands for a text that weighs no less, in front of a text that reads as the rest,
it is that word. -/
lemma wordFor_of_lexemesFrom {a : String} (hstart : startsWord a.toList = true)
    (ha : '\'' ∉ a.toList) (hbal : balanced a.toList = true)
    (h : lexemesFrom .gap (w.toList ++ ([' '] ++ a.toList)) = some (l :: ls))
    (hl : l.StandsFor m)
    (hlength : (lexemesFrom .gap a.toList).map List.length = some ls.length)
    (hweight : weight w.toList ≤ weight m.toList) : wordFor w = some m := by
  have hlonger : (lexemesFrom .gap a.toList).map List.length ≠ some (l :: ls).length := by
    rw [hlength, List.length_cons]
    intro heq
    have hne := Option.some.inj heq
    omega
  cases hread : (read .gap w.toList).1 with
  | cons u us =>
    obtain ⟨ps, rfl, htext⟩ := Token.standsFor_iff.1 (lexeme_of_read hread h ▸ hl)
    have hless := weight_first_word hread
    rw [weight_textOf (textOf_of_wordText htext)] at hweight
    have hgap : Place.gap.weight = 0 := rfl
    omega
  | nil =>
    have hrest := lexemesFrom_of_read hread h
    have hgap : PlainPlace .gap := trivial
    have hplace : PlainPlace (read .gap w.toList).2 := hgap.read w.toList
    cases hq : (read .gap w.toList).2 with
    | gap =>
      rw [hq] at hrest
      have hsame : lexemesFrom .gap a.toList = some (l :: ls) := lexemesFrom_of_read rfl hrest
      exact absurd (by rw [hsame]; rfl) hlonger
    | escape =>
      rw [hq] at hrest
      have hsame : lexemesFrom (.word [.mark, .quoted ' '] [] .none) a.toList = some (l :: ls) :=
        lexemesFrom_of_read rfl hrest
      refine absurd ?_ hlonger
      rw [← length_lexemesFrom_startsWord hstart, hsame]
      rfl
    | op cs =>
      rw [hq] at hrest
      have hstep : read (.op cs) [' '] = ([.op cs], .gap) := by
        have hno := not_operator_blank cs
        simp [read, step, hno, gapChar, isBlank]
      have hfirst : Token.lexeme (.op cs) = l := lexeme_of_read (by rw [hstep]) hrest
      obtain ⟨ps, hps, -⟩ := Token.standsFor_iff.1 (hfirst ▸ hl)
      cases hps
    | comment =>
      rw [hq] at hrest
      rw [lexemesFrom_comment hrest] at hl
      rcases hl with hl | hl <;> cases hl
    | word ps ms pe =>
      rw [hq] at hrest hplace
      obtain ⟨more, hmore⟩ := textOf_first hrest hl
      have htext : textOf ps ≠ none := by
        intro hnone
        cases hmore.symm.trans (textOf_append_none (Or.inl hnone))
      rcases Plain.hanging hplace htext with ⟨rfl, rfl⟩ | hhanging
      · have hfirst : (wordToken ps ' ').lexeme = l := lexeme_of_read rfl hrest
        obtain ⟨qs, hqs, hword⟩ := Token.standsFor_iff.1 (hfirst ▸ hl)
        rw [wordToken_eq_word hqs] at hword
        exact wordFor_eq_some.2 ⟨ps, Prod.ext hread hq, hword⟩
      · exact absurd (length_lexemesFrom_hanging hhanging hstart hbal ha hrest) hlonger

end Twice

/-! ## Texts without surprises -/

/-- There is no single quote in the text, and its double quotes come in pairs. -/
def Unquoted (s : String) : Prop := '\'' ∉ s.toList ∧ balanced s.toList = true

lemma unquoted_ofList {cs : List Char} (hquote : '\'' ∉ cs) (h : balanced cs = true) :
    Unquoted (String.ofList cs) := by
  rw [Unquoted, String.toList_ofList]
  exact ⟨hquote, h⟩

lemma Unquoted.append {s t : String} (hs : Unquoted s) (ht : Unquoted t) : Unquoted (s ++ t) := by
  rw [Unquoted, String.toList_append, List.mem_append, not_or]
  exact ⟨⟨hs.1, ht.1⟩, balanced_append hs.2 ht.2⟩

/-- A part of a line that starts with a word, and that quotes around it do not change. -/
structure Calm (s : String) : Prop where
  part : (partLexemes s).isSome = true
  starts : startsWord s.toList = true
  unquoted : Unquoted s

def isCalm (cs : List Char) : Bool :=
  (partOf cs).isSome && startsWord cs && !(cs.contains '\'') && balanced cs

lemma calm_ofList {cs : List Char} (h : isCalm cs = true) : Calm (String.ofList cs) := by
  simp only [isCalm, Bool.and_eq_true, Bool.not_eq_true', List.contains_eq_mem,
    decide_eq_false_iff_not] at h
  obtain ⟨⟨⟨hpart, hstarts⟩, hquote⟩, hbalanced⟩ := h
  refine ⟨isSome_part_ofList hpart, ?_, unquoted_ofList hquote hbalanced⟩
  rw [String.toList_ofList]
  exact hstarts

section Calm

variable {s t : String}

lemma Calm.fixed (h : Calm s) : Part s (fixedLexemes s) := part_fixed h.part

/-- What is behind a blank need not start with a word. -/
lemma Calm.append_blank (hs : Calm s) (hpart : (partLexemes t).isSome = true) (ht : Unquoted t) :
    Calm (s ++ " " ++ t) where
  part := by
    have happend := hs.fixed.append (part_fixed hpart)
    rw [Part] at happend
    rw [happend]
    rfl
  starts := by
    have hstarts := hs.starts
    rw [String.toList_append, String.toList_append]
    cases hlist : s.toList with
    | nil =>
      rw [hlist] at hstarts
      cases hstarts
    | cons c cs =>
      rw [hlist] at hstarts
      exact hstarts
  unquoted := by
    have hblank : Unquoted " " := by
      rw [Unquoted]
      decide
    exact (hs.unquoted.append hblank).append ht

lemma Calm.append (hs : Calm s) (ht : Calm t) : Calm (s ++ " " ++ t) :=
  hs.append_blank ht.part ht.unquoted

end Calm

end Shell

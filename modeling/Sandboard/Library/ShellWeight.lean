import Sandboard.Library.Shell

/-!
# How much a shell reads

Every character of a token comes from a character of the text, so what is read weighs no more than
the text, when quotes do not count: they may be removed, and a replacement of single quotes consists
of them.  So a word that is read first says how much of the text it took.
-/

namespace Shell

/-! ## Counting -/

/-- Quotes do not count. -/
def weightOf (c : Char) : ℕ := if c = '\'' || c = '"' then 0 else 1

def weight (s : List Char) : ℕ := (s.map weightOf).sum

def Piece.weight : Piece → ℕ
  | .plain c | .quoted c | .inDouble c => weightOf c
  | .mark => 0

def piecesWeight (ps : List Piece) : ℕ := (ps.map Piece.weight).sum

def Token.weight : Token → ℕ
  | .word ps | .io ps => piecesWeight ps
  | .op cs => Shell.weight cs
  | .newline => 0

def tokensWeight (ts : List Token) : ℕ := (ts.map Token.weight).sum

def Pending.weight : Pending → ℕ
  | .backslash => 1
  | _ => 0

def Place.weight : Place → ℕ
  | .word ps _ pe => piecesWeight ps + pe.weight
  | .op cs => Shell.weight cs
  | .escape => 1
  | .gap | .comment => 0

section Counting

variable {ps : List Piece} {s t : List Char}

@[simp] lemma weight_nil : weight [] = 0 := rfl

@[simp] lemma weight_cons (c : Char) (s : List Char) : weight (c :: s) = weightOf c + weight s := by
  simp [weight]

@[simp] lemma weight_append (s t : List Char) : weight (s ++ t) = weight s + weight t := by
  simp [weight]

@[simp] lemma piecesWeight_append (ps qs : List Piece) :
    piecesWeight (ps ++ qs) = piecesWeight ps + piecesWeight qs := by
  simp [piecesWeight]

@[simp] lemma tokensWeight_append (ts us : List Token) :
    tokensWeight (ts ++ us) = tokensWeight ts + tokensWeight us := by
  simp [tokensWeight]

/-- A word weighs as much as the text that it stands for. -/
lemma weight_textOf (h : textOf ps = some s) : weight s = piecesWeight ps := by
  induction ps generalizing s with
  | nil =>
    cases h
    rfl
  | cons p ps ih =>
    rw [textOf, Option.bind_eq_some_iff] at h
    obtain ⟨cs, hcs, hrest⟩ := h
    obtain ⟨rest, htext, rfl⟩ := Option.map_eq_some_iff.1 hrest
    have hp : weight cs = p.weight := by
      cases p with
      | plain c =>
        simp only [Piece.text] at hcs
        split at hcs
        · cases hcs
        · cases hcs
          simp [Piece.weight]
      | quoted c =>
        cases hcs
        simp [Piece.weight]
      | inDouble c =>
        simp only [Piece.text] at hcs
        split at hcs
        · cases hcs
        · cases hcs
          simp [Piece.weight]
      | mark =>
        cases hcs
        rfl
    rw [weight_append, hp, ih htext]
    simp [piecesWeight]

/-- What a character adds and leaves pending. -/
def Added.weight (a : Added) : ℕ := piecesWeight a.1 + a.2.2.weight

@[simp] lemma Added.weight_mk (qs : List Piece) (ms : List Mode) (pe : Pending) :
    Added.weight (qs, ms, pe) = piecesWeight qs + pe.weight := rfl

/-- One piece that weighs no more than the character. -/
lemma Added.weight_one {q : Piece} {c : Char} (hq : q.weight ≤ weightOf c) (ms : List Mode)
    {pe pe' : Pending} (hpe' : pe' ≠ .backslash) :
    Added.weight ([q], ms, pe') ≤ pe.weight + weightOf c := by
  have hzero : pe'.weight = 0 := by
    cases pe' with
    | none => rfl
    | backslash => exact absurd rfl hpe'
    | dollar => rfl
  rw [Added.weight_mk, hzero]
  simp only [piecesWeight, List.map_cons, List.map_nil, List.sum_cons, List.sum_nil]
  omega

lemma Added.weight_ite {P : Prop} [Decidable P] {a b : Added} {n : ℕ} (ha : P → a.weight ≤ n)
    (hb : ¬P → b.weight ≤ n) : (if P then a else b).weight ≤ n := by
  by_cases h : P
  · rw [if_pos h]
    exact ha h
  · rw [if_neg h]
    exact hb h

lemma weight_plainChar (ms : List Mode) (pe : Pending) (c : Char) :
    (plainChar ms pe c).weight ≤ pe.weight + weightOf c := by
  have hone : ∀ ms' : List Mode, Added.weight ([.plain c], ms', .none) ≤ pe.weight + weightOf c :=
    fun ms' => Added.weight_one (Nat.le_refl _) ms' nofun
  have hmark : ∀ ms' : List Mode, Added.weight ([.mark], ms', .none) ≤ pe.weight + weightOf c :=
    fun ms' => Added.weight_one (Nat.zero_le _) ms' nofun
  have hend : Added.weight ([.plain c], ms, if c = '$' then .dollar else .none) ≤
      pe.weight + weightOf c := by
    split
    · exact Added.weight_one (Nat.le_refl _) ms nofun
    · exact hone ms
  refine Added.weight_ite (fun hpe => ?_) fun _ => ?_
  · refine Added.weight_ite (fun _ => Nat.zero_le _) fun _ => ?_
    simp [piecesWeight, Piece.weight, Pending.weight]
  refine Added.weight_ite (fun hback => ?_) fun _ => ?_
  · rw [hback]
    exact Nat.le_add_left 1 _
  refine Added.weight_ite (fun _ => hmark _) fun _ => ?_
  refine Added.weight_ite (fun _ => hmark _) fun _ => ?_
  refine Added.weight_ite (fun _ => hone _) fun _ => ?_
  refine Added.weight_ite (fun _ => hone _) fun _ => ?_
  refine Added.weight_ite (fun _ => hone _) fun _ => ?_
  refine Added.weight_ite (fun _ => hone _) fun _ => ?_
  exact Added.weight_ite (fun _ => hone _) fun _ => hend

lemma weight_doubleChar (ms : List Mode) (pe : Pending) (c : Char) :
    (doubleChar ms pe c).weight ≤ pe.weight + weightOf c := by
  have hone : ∀ ms' : List Mode,
      Added.weight ([.inDouble c], ms', .none) ≤ pe.weight + weightOf c :=
    fun ms' => Added.weight_one (Nat.le_refl _) ms' nofun
  have hmark : Added.weight ([.mark], ms, .none) ≤ pe.weight + weightOf c :=
    Added.weight_one (Nat.zero_le _) ms nofun
  have hend : Added.weight ([.inDouble c], .double :: ms, if c = '$' then .dollar else .none) ≤
      pe.weight + weightOf c := by
    split
    · exact Added.weight_one (Nat.le_refl _) _ nofun
    · exact hone _
  refine Added.weight_ite (fun hpe => ?_) fun _ => ?_
  · rw [hpe]
    refine Added.weight_ite (fun _ => Nat.zero_le _) fun _ => ?_
    refine Added.weight_ite (fun _ => ?_) fun _ => ?_
    · simp [piecesWeight, Piece.weight, Pending.weight]
    · simp [piecesWeight, Piece.weight, Pending.weight, weightOf]
  refine Added.weight_ite (fun hback => ?_) fun _ => ?_
  · rw [hback]
    exact Nat.le_add_left 1 _
  refine Added.weight_ite (fun _ => hmark) fun _ => ?_
  refine Added.weight_ite (fun _ => hone _) fun _ => ?_
  refine Added.weight_ite (fun _ => hone _) fun _ => ?_
  exact Added.weight_ite (fun _ => hone _) fun _ => hend

/-- A character adds no more than itself and what was pending. -/
lemma weight_wordChar (ms : List Mode) (pe : Pending) (c : Char) :
    (wordChar ms pe c).weight ≤ pe.weight + weightOf c := by
  unfold wordChar
  split
  · split
    · exact Added.weight_one (Nat.zero_le _) _ nofun
    · exact Added.weight_one (Nat.le_refl _) _ nofun
  · exact weight_doubleChar _ pe c
  · exact weight_plainChar _ pe c

lemma weight_gapChar (c : Char) :
    tokensWeight (gapChar c).1 + (gapChar c).2.weight ≤ weightOf c := by
  have hword := weight_wordChar [] .none c
  unfold gapChar
  split_ifs with h₁ h₂ h₃ h₄ h₅
  · simp [tokensWeight, Place.weight]
  · simp [tokensWeight, Token.weight, Place.weight]
  · simp [tokensWeight, Place.weight]
  · simp [tokensWeight, Place.weight]
  · simp [tokensWeight, Place.weight, h₅, weightOf]
  · rw [show Pending.none.weight = 0 from rfl, Nat.zero_add] at hword
    simpa [tokensWeight, Place.weight, Added.to, Added.weight] using hword

lemma weight_step (p : Place) (c : Char) :
    tokensWeight (step p c).1 + (step p c).2.weight ≤ p.weight + weightOf c := by
  have hgap := weight_gapChar c
  cases p with
  | gap => simpa [step, Place.weight] using hgap
  | escape =>
    rw [step]
    split <;> simp [tokensWeight, Place.weight, piecesWeight, Piece.weight, Pending.weight]
  | op cs =>
    rw [step]
    split
    · simp [tokensWeight, Place.weight]
    · simp only [tokensWeight, List.map_cons, List.sum_cons, Token.weight, Place.weight] at hgap ⊢
      omega
  | comment =>
    rw [step]
    split <;> simp [tokensWeight, Place.weight, Token.weight]
  | word ps ms pe =>
    rw [step]
    split
    · have htoken : (wordToken ps c).weight = piecesWeight ps := by
        unfold wordToken
        split <;> rfl
      simp only [tokensWeight, List.map_cons, List.sum_cons, htoken, Place.weight] at hgap ⊢
      omega
    · have hword := weight_wordChar ms pe c
      simp only [tokensWeight, Added.to, Added.weight, Place.weight, piecesWeight_append,
        List.map_nil, List.sum_nil] at hword ⊢
      omega

/-- What is read weighs no more than the text. -/
lemma weight_read (p : Place) (s : List Char) :
    tokensWeight (read p s).1 + (read p s).2.weight ≤ p.weight + weight s := by
  induction s generalizing p with
  | nil => simp [read, tokensWeight]
  | cons c s ih =>
    have hstep := weight_step p c
    have hrest := ih (step p c).2
    rw [read, tokensWeight_append, weight_cons]
    dsimp only
    omega

lemma weightOf_of_endsWord {c : Char} (h : endsWord c = true) : weightOf c = 1 := by
  have hquote : endsWord '\'' = false := by decide
  have hdouble : endsWord '"' = false := by decide
  unfold weightOf
  rw [if_neg]
  rw [Bool.or_eq_true, decide_eq_true_iff, decide_eq_true_iff]
  rintro (rfl | rfl)
  · cases hquote.symm.trans h
  · cases hdouble.symm.trans h

/-- The first token that ends is a newline, an operator or the word. -/
lemma head_step {p : Place} {c : Char} {u : Token} {us : List Token}
    (h : (step p c).1 = u :: us) : u = .newline ∨ (∃ cs, u = .op cs) ∨
      ∃ ps ms pe, p = .word ps ms pe ∧ u = wordToken ps c ∧ endsWord c = true := by
  have hgap : ∀ {c u us}, (gapChar c).1 = u :: us → u = .newline := by
    intro c u us h
    unfold gapChar at h
    split_ifs at h
    all_goals cases h
    rfl
  cases p with
  | gap => exact Or.inl (hgap h)
  | escape =>
    rw [step] at h
    split at h <;> cases h
  | op cs =>
    rw [step] at h
    split at h
    · cases h
    · cases h
      exact Or.inr (Or.inl ⟨cs, rfl⟩)
  | comment =>
    rw [step] at h
    split at h
    · cases h
      exact Or.inl rfl
    · cases h
  | word ps ms pe =>
    rw [step] at h
    split at h
    · rename_i hends
      cases h
      rw [Bool.and_eq_true, Bool.and_eq_true] at hends
      exact Or.inr (Or.inr ⟨ps, ms, pe, rfl, rfl, hends.1.2⟩)
    · cases h

/-- A word that ends weighs less than what was read up to its end. -/
lemma weight_first_word {p : Place} {us : List Token} (h : (read p s).1 = .word ps :: us) :
    piecesWeight ps + 1 ≤ p.weight + weight s := by
  induction s generalizing p with
  | nil => cases h
  | cons c s ih =>
    have hstep := weight_step p c
    rw [read] at h
    rw [weight_cons]
    cases hts : (step p c).1 with
    | nil =>
      rw [hts] at h hstep
      have hrest := ih h
      simp only [tokensWeight, List.map_nil, List.sum_nil] at hstep
      omega
    | cons u ts =>
      rw [hts] at h
      cases h
      rcases head_step hts with hnot | ⟨cs, hnot⟩ | ⟨qs, ms, pe, rfl, hword, hends⟩
      · cases hnot
      · cases hnot
      · rw [wordToken_eq_word hword.symm, Place.weight, weightOf_of_endsWord hends]
        omega

/-- A word that goes on does so in the same way however it started, and adds no more than what is
read. -/
lemma read_word_silent {ps : List Piece} {ms : List Mode} {pe : Pending}
    (h : (read (.word ps ms pe) s).1 = []) : ∃ added ms' pe',
      (∀ qs, read (.word qs ms pe) s = ([], .word (qs ++ added) ms' pe')) ∧
        piecesWeight added + pe'.weight ≤ pe.weight + weight s := by
  induction s generalizing ps ms pe with
  | nil => exact ⟨[], ms, pe, fun qs => by rw [List.append_nil]; rfl, by simp [piecesWeight]⟩
  | cons c s ih =>
    rw [read, step] at h
    split at h
    · cases h
    · rename_i hgoes
      obtain ⟨added, ms', pe', hread, hweight⟩ := ih h
      have hchar := weight_wordChar ms pe c
      refine ⟨(wordChar ms pe c).1 ++ added, ms', pe', fun qs => ?_, ?_⟩
      · rw [read, step, if_neg hgoes]
        dsimp only
        rw [Added.to, hread, List.append_assoc]
        rfl
      · rw [Added.weight] at hchar
        rw [piecesWeight_append, weight_cons]
        omega

/-- The first word that ends goes on from the word in front, and adds less than what is read. -/
lemma read_word_first {ms : List Mode} {pe : Pending} {u : Token} {us : List Token}
    (h : (read (.word ps ms pe) s).1 = u :: us) : ∃ added c, u = wordToken (ps ++ added) c ∧
      piecesWeight added + 1 ≤ pe.weight + weight s := by
  induction s generalizing ps ms pe with
  | nil => cases h
  | cons c s ih =>
    rw [read, step] at h
    split at h
    · rename_i hends
      cases h
      rw [Bool.and_eq_true, Bool.and_eq_true] at hends
      refine ⟨[], c, by rw [List.append_nil], ?_⟩
      rw [weight_cons, weightOf_of_endsWord hends.1.2]
      simp only [piecesWeight, List.map_nil, List.sum_nil]
      omega
    · obtain ⟨added, d, hu, hweight⟩ := ih h
      have hchar := weight_wordChar ms pe c
      rw [Added.weight] at hchar
      refine ⟨(wordChar ms pe c).1 ++ added, d, by rw [hu, List.append_assoc], ?_⟩
      rw [piecesWeight_append, weight_cons]
      omega

end Counting

/-! ## The first lexeme -/

/-- What a text reads as from a place on. -/
def lexemesFrom (p : Place) (s : List Char) : Option (List Lexeme) :=
  (finish (read p s).2).map fun us => ((read p s).1 ++ us).map Token.lexeme

/-- The lexeme is a word that stands for a text. -/
def Lexeme.StandsFor (l : Lexeme) (m : String) : Prop := l = .bare m ∨ l = .text m

section First

variable {p : Place} {s t : List Char} {l : Lexeme} {ls : List Lexeme} {m : String}
  {ps : List Piece}

lemma lexemes_eq (w : String) : lexemes w = lexemesFrom .gap w.toList := by
  unfold lexemes tokens lexemesFrom
  rw [Option.map_map]
  rfl

lemma lexemesFrom_append (p : Place) (s t : List Char) : lexemesFrom p (s ++ t) =
    (lexemesFrom (read p s).2 t).map ((read p s).1.map Token.lexeme ++ ·) := by
  unfold lexemesFrom
  rw [read_append, Option.map_map]
  simp [Function.comp_def]

/-- What is read in front comes first. -/
lemma Lexes.lexemesFrom {q : Place} {w : String} {ks : List Lexeme} (h : Lexes p w ks q)
    (hw : Shell.lexemesFrom p (w.toList ++ s) = some (ks ++ ls)) :
    Shell.lexemesFrom q s = some ls := by
  obtain ⟨hks, hq⟩ := h
  rw [lexemesFrom_append, hks, hq] at hw
  obtain ⟨ls', hls', heq⟩ := Option.map_eq_some_iff.1 hw
  rw [hls', List.append_cancel_left heq]

lemma Token.standsFor_iff {u : Token} :
    u.lexeme.StandsFor m ↔ ∃ ps, u = .word ps ∧ wordText ps = some m.toList := by
  constructor
  · intro h
    cases u with
    | word ps =>
      refine ⟨ps, rfl, ?_⟩
      change (wordLexeme ps).StandsFor m at h
      unfold wordLexeme at h
      cases htext : wordText ps with
      | none =>
        rw [htext] at h
        dsimp only at h
        cases hvalue : valueOf ps <;> rw [hvalue] at h <;> rcases h with h | h <;> cases h
      | some cs =>
        rw [htext] at h
        dsimp only at h
        split at h <;> rcases h with h | h <;> cases h <;> rw [String.toList_ofList]
    | io ps => rcases h with h | h <;> cases h
    | op cs => rcases h with h | h <;> cases h
    | newline => rcases h with h | h <;> cases h
  · rintro ⟨ps, rfl, htext⟩
    change (wordLexeme ps).StandsFor m
    unfold wordLexeme
    rw [htext]
    dsimp only
    rw [String.ofList_toList]
    split
    · exact Or.inl rfl
    · exact Or.inr rfl

/-- The first lexeme is that of the first token that ends, or of the one at the end. -/
lemma exists_first (h : Shell.lexemesFrom p s = some (l :: ls)) :
    (∃ u us, (read p s).1 = u :: us ∧ u.lexeme = l) ∨
      ((read p s).1 = [] ∧ ∃ u, finish (read p s).2 = some [u] ∧ u.lexeme = l) := by
  obtain ⟨us, hfinish, hmap⟩ := Option.map_eq_some_iff.1 h
  cases hread : (read p s).1 with
  | cons u us' =>
    rw [hread] at hmap
    exact Or.inl ⟨u, us', rfl, (List.cons.inj hmap).1⟩
  | nil =>
    rw [hread, List.nil_append] at hmap
    refine Or.inr ⟨rfl, ?_⟩
    unfold finish at hfinish ⊢
    split at hfinish
    all_goals cases hfinish
    all_goals cases hmap
    all_goals exact ⟨_, rfl, rfl⟩

lemma weight_finish {u : Token} (h : finish p = some [u]) : u.weight ≤ p.weight := by
  unfold finish at h
  split at h
  all_goals cases h
  · exact Nat.le_refl _
  · exact Nat.le_add_right _ _
  · exact Nat.le_add_right _ _

/-- A text that stands first weighs no more than what is read. -/
lemma weight_first (h : Shell.lexemesFrom p s = some (l :: ls)) (hl : l.StandsFor m) :
    weight m.toList ≤ p.weight + weight s := by
  have hread := weight_read p s
  have hword : ∀ {u : Token}, u.lexeme = l → weight m.toList = u.weight := by
    rintro u rfl
    obtain ⟨ps, rfl, htext⟩ := Token.standsFor_iff.1 hl
    exact weight_textOf (textOf_of_wordText htext)
  rcases exists_first h with ⟨u, us, hus, hu⟩ | ⟨hnone, u, hfinish, hu⟩
  · rw [hus] at hread
    simp only [tokensWeight, List.map_cons, List.sum_cons] at hread
    rw [hword hu]
    omega
  · have hend := weight_finish hfinish
    rw [hword hu]
    omega

/-- A word that stands first and was begun before stands for a text that begins with what was read
before. -/
lemma textOf_first {ms : List Mode} {pe : Pending}
    (h : Shell.lexemesFrom (.word ps ms pe) s = some (l :: ls)) (hl : l.StandsFor m) :
    ∃ added, textOf (ps ++ added) = some m.toList := by
  rcases exists_first h with ⟨u, us, hus, hu⟩ | ⟨hnone, u, hfinish, hu⟩
  · rw [← hu] at hl
    obtain ⟨added, c, rfl, -⟩ := read_word_first hus
    obtain ⟨qs, hqs, htext⟩ := Token.standsFor_iff.1 hl
    refine ⟨added, ?_⟩
    rw [← wordToken_eq_word hqs]
    exact textOf_of_wordText htext
  · rw [← hu] at hl
    obtain ⟨added, ms', pe', hread, -⟩ := read_word_silent hnone
    obtain ⟨qs, rfl, htext⟩ := Token.standsFor_iff.1 hl
    refine ⟨added, ?_⟩
    rw [hread] at hfinish
    unfold finish at hfinish
    split at hfinish
    · rename_i heq; cases heq
    · rename_i heq; cases heq
    · rename_i heq; cases heq
    · rename_i heq
      cases heq
      cases hfinish
      exact textOf_of_wordText htext
    · rename_i heq
      cases heq
      cases hfinish
      exact textOf_of_wordText htext
    · cases hfinish

/-- From a word with quotes open, or a backslash pending, as many lexemes are read as from the
empty one. -/
lemma length_lexemesFrom (ps qs : List Piece) (ms : List Mode) (pe : Pending) (s : List Char) :
    (Shell.lexemesFrom (.word ps ms pe) s).map List.length =
      (Shell.lexemesFrom (.word qs ms pe) s).map List.length := by
  obtain ⟨hread, hfinish⟩ := length_read_word ps qs ms pe s
  unfold Shell.lexemesFrom
  simp only [Option.map_map, Function.comp_def, List.length_map, List.length_append, hread]
  have hcongr := congrArg (Option.map fun n =>
    (read (.word qs ms pe) s).1.length + n) hfinish
  simpa only [Option.map_map, Function.comp_def] using hcongr

end First

end Shell

import Sandboard.Text
import Mathlib.Data.List.DropRight

/-!
# Searching in a text

Where a needle cannot start, a search goes on behind: `Avoids needle head` says so of a head of a
text whatever follows it.  So a message is searched by looking at the part that is not known in
advance.  And a number that was printed is read back.
-/

namespace Sandboard

namespace Text

/-! ## Prefixes and occurrences -/

lemma afterPrefix_eq_some_iff {pre cs rest : List Char} :
    afterPrefix pre cs = some rest ↔ cs = pre ++ rest := by
  induction pre generalizing cs with
  | nil => simp [afterPrefix]
  | cons p ps ih =>
    cases cs with
    | nil => simp [afterPrefix]
    | cons c cs =>
      rw [afterPrefix, List.cons_append, List.cons.injEq]
      split
      · rename_i h
        rw [ih, eq_comm, h]
        simp [eq_comm]
      · rename_i h
        simp [Ne.symm h]

@[simp] lemma afterPrefix_append (pre rest : List Char) :
    afterPrefix pre (pre ++ rest) = some rest :=
  afterPrefix_eq_some_iff.2 rfl

/-- The two lists differ at a position that both have. -/
def clash : List Char → List Char → Bool
  | p :: ps, c :: cs => p != c || clash ps cs
  | _, _ => false

/-- No occurrence of the needle starts in the list, whatever follows it. -/
def avoids (needle : List Char) : List Char → Bool
  | [] => true
  | c :: cs => clash needle (c :: cs) && avoids needle cs

lemma clash_append {ps cs : List Char} (h : clash ps cs = true) (rest : List Char) :
    clash ps (cs ++ rest) = true := by
  induction ps generalizing cs with
  | nil => cases h
  | cons p ps ih =>
    cases cs with
    | nil => cases h
    | cons c cs =>
      rw [clash, Bool.or_eq_true] at h
      rw [List.cons_append, clash, Bool.or_eq_true]
      exact h.imp_right ih

lemma afterPrefix_of_clash {ps cs : List Char} (h : clash ps cs = true) :
    afterPrefix ps cs = none := by
  induction ps generalizing cs with
  | nil => cases h
  | cons p ps ih =>
    cases cs with
    | nil => cases h
    | cons c cs =>
      rw [afterPrefix]
      split
      · rename_i hpc
        rw [clash, hpc, bne_self_eq_false, Bool.false_or] at h
        exact ih h
      · rfl

lemma avoids_append {needle head head' : List Char} (h : avoids needle head = true)
    (h' : avoids needle head' = true) : avoids needle (head ++ head') = true := by
  induction head with
  | nil => exact h'
  | cons c cs ih =>
    rw [avoids, Bool.and_eq_true] at h
    rw [List.cons_append, avoids, Bool.and_eq_true]
    exact ⟨clash_append h.1 head', ih h.2⟩

/-- A needle does not start where its first character does not occur. -/
lemma avoids_of_notMem {p : Char} {ps head : List Char} (h : p ∉ head) :
    avoids (p :: ps) head = true := by
  induction head with
  | nil => rfl
  | cons c cs ih =>
    rw [List.mem_cons, not_or] at h
    rw [avoids, clash, Bool.and_eq_true, Bool.or_eq_true, bne_iff_ne]
    exact ⟨Or.inl h.1, ih h.2⟩

/-- A search skips a head that avoids the needle. -/
lemma cutAt_append {needle head : List Char} (h : avoids needle head = true) (rest : List Char) :
    cutAt needle (head ++ rest) =
      (cutAt needle rest).map fun (before, after) => (head ++ before, after) := by
  induction head with
  | nil => simp
  | cons c cs ih =>
    rw [avoids, Bool.and_eq_true] at h
    have hclash : afterPrefix needle (c :: (cs ++ rest)) = none :=
      afterPrefix_of_clash (clash_append h.1 rest)
    rw [List.cons_append, cutAt, hclash, ih h.2, Option.map_map]
    rfl

/-- What a search cuts is what it was given. -/
lemma eq_of_cutAt {needle cs before after : List Char} (h : cutAt needle cs = some (before, after)) :
    cs = before ++ (needle ++ after) := by
  induction cs generalizing before with
  | nil =>
    rw [cutAt] at h
    obtain ⟨rest, hrest, heq⟩ := Option.map_eq_some_iff.1 h
    cases heq
    exact (afterPrefix_eq_some_iff.1 hrest :)
  | cons c cs ih =>
    rw [cutAt] at h
    split at h
    · rename_i rest hrest
      cases h
      exact (afterPrefix_eq_some_iff.1 hrest :)
    · obtain ⟨⟨b, a⟩, hcut, heq⟩ := Option.map_eq_some_iff.1 h
      cases heq
      rw [List.cons_append, ← ih hcut]

lemma cutAt_self (needle rest : List Char) : cutAt needle (needle ++ rest) = some ([], rest) := by
  cases needle with
  | nil => cases rest <;> rfl
  | cons p ps =>
    have hstart : afterPrefix (p :: ps) (p :: ps ++ rest) = some rest := afterPrefix_append _ _
    rw [List.cons_append] at hstart ⊢
    rw [cutAt, hstart]

/-- A needle that the head avoids is contained in the rest or not at all. -/
lemma contains_append {needle head : String} (h : avoids needle.toList head.toList = true)
    (s : String) : contains needle (head ++ s) = contains needle s := by
  rw [contains, String.toList_append, cutAt_append h, Option.isSome_map, contains]

/-! ## Letter case -/

lemma toList_toAsciiLowercase (s : String) :
    (toAsciiLowercase s).toList = s.toList.map Char.toLower := by
  rw [toAsciiLowercase, String.toList_ofList]

lemma toAsciiLowercase_append (s s' : String) :
    toAsciiLowercase (s ++ s') = toAsciiLowercase s ++ toAsciiLowercase s' := by
  simp [toAsciiLowercase, String.ofList_append]

lemma toAsciiLowercase_ofList (cs : List Char) :
    toAsciiLowercase (String.ofList cs) = String.ofList (cs.map Char.toLower) := by
  rw [toAsciiLowercase, String.toList_ofList]

lemma isAlpha_eq (c : Char) : c.isAlpha = (c.isUpper || c.isLower) := rfl

lemma isUpper_eq (c : Char) : c.isUpper = decide (c.val ≥ 'A'.val ∧ c.val ≤ 'Z'.val) := rfl

lemma isLower_eq (c : Char) :
    c.isLower = (decide (c.val ≥ 'a'.val) && decide (c.val ≤ 'z'.val)) := rfl

/-- An upper-case letter gets its place in the alphabet among the lower-case letters. -/
lemma val_toLower {c : Char} (h : c.val ≥ 'A'.val ∧ c.val ≤ 'Z'.val) :
    c.toLower.val = c.val + ('a'.val - 'A'.val) :=
  congrArg Char.val (dif_pos h)

lemma isAlpha_iff {c : Char} : c.isAlpha = true ↔
    (65 ≤ c.toNat ∧ c.toNat ≤ 90) ∨ (97 ≤ c.toNat ∧ c.toNat ≤ 122) := by
  rw [isAlpha_eq, isUpper_eq, isLower_eq]
  simp only [Bool.or_eq_true, Bool.and_eq_true, decide_eq_true_eq]
  exact Iff.rfl

/-- Lower-casing changes upper-case letters only, and makes letters of them. -/
lemma toLower_cases (c : Char) : c.toLower = c ∨ (c.isAlpha = true ∧ c.toLower.isAlpha = true) := by
  by_cases hupper : c.val ≥ 'A'.val ∧ c.val ≤ 'Z'.val
  · right
    have hlow : 65 ≤ c.toNat := hupper.1
    have hhigh : c.toNat ≤ 90 := hupper.2
    have hval : c.toLower.toNat = c.toNat + 32 := by
      change c.toLower.val.toNat = c.val.toNat + 32
      rw [val_toLower hupper, UInt32.toNat_add]
      exact Nat.mod_eq_of_lt (by change c.toNat + 32 < _; omega)
    exact ⟨isAlpha_iff.2 (Or.inl ⟨hlow, hhigh⟩), isAlpha_iff.2 (Or.inr (by omega))⟩
  · exact Or.inl (dif_neg hupper)

/-- What is no letter stays as it is, and nothing else becomes it. -/
lemma toLower_eq_iff {c d : Char} (hd : d.isAlpha = false) : c.toLower = d ↔ c = d := by
  rcases toLower_cases c with h | ⟨hc, hlower⟩
  · rw [h]
  · refine iff_of_false ?_ ?_
    · rintro rfl
      rw [hd] at hlower
      cases hlower
    · rintro rfl
      rw [hd] at hc
      cases hc

lemma isDigit_iff {c : Char} : c.isDigit = true ↔ 48 ≤ c.toNat ∧ c.toNat ≤ 57 := by
  rw [Char.isDigit, Bool.and_eq_true, decide_eq_true_eq, decide_eq_true_eq]
  exact Iff.rfl

lemma isAlpha_of_isDigit {c : Char} (h : c.isDigit = true) : c.isAlpha = false := by
  have hbounds := isDigit_iff.1 h
  rw [Bool.eq_false_iff]
  intro halpha
  rcases isAlpha_iff.1 halpha with hup | hlow <;> omega

/-- A digit is its own lower case. -/
lemma toLower_of_isDigit {c : Char} (h : c.isDigit = true) : c.toLower = c :=
  (toLower_eq_iff (isAlpha_of_isDigit h)).2 rfl

lemma isWhitespace_of_isDigit {c : Char} (h : c.isDigit = true) : isWhitespace c = false := by
  have hbounds := isDigit_iff.1 h
  simp only [isWhitespace, Bool.or_eq_false_iff, Bool.and_eq_false_iff, beq_eq_false_iff_ne,
    decide_eq_false_iff_not]
  omega

/-- White space is no letter. -/
lemma isWhitespace_toLower (c : Char) : isWhitespace c.toLower = isWhitespace c := by
  rcases toLower_cases c with h | ⟨hc, hlower⟩
  · rw [h]
  · have hletter : ∀ d : Char, d.isAlpha = true → isWhitespace d = false := by
      intro d hd
      simp only [isWhitespace, Bool.or_eq_false_iff, Bool.and_eq_false_iff, beq_eq_false_iff_ne,
        decide_eq_false_iff_not]
      rcases isAlpha_iff.1 hd with hup | hlow <;> omega
    rw [hletter c hc, hletter _ hlower]

lemma dropTailWhile_map {p : Char → Bool} {f : Char → Char} (h : ∀ c, p (f c) = p c)
    (cs : List Char) : dropTailWhile p (cs.map f) = (dropTailWhile p cs).map f := by
  have hp : p ∘ f = p := funext h
  rw [dropTailWhile, ← List.map_reverse, List.dropWhile_map, hp, ← List.map_reverse, dropTailWhile]

lemma trim_toAsciiLowercase (s : String) :
    trim (toAsciiLowercase s) = toAsciiLowercase (trim s) := by
  have hp : isWhitespace ∘ Char.toLower = isWhitespace := funext isWhitespace_toLower
  rw [trim, toList_toAsciiLowercase, List.dropWhile_map, hp,
    dropTailWhile_map isWhitespace_toLower, trim, toAsciiLowercase_ofList]

lemma length_toAsciiLowercase (s : String) :
    (toAsciiLowercase s).toList.length = s.toList.length := by
  rw [toList_toAsciiLowercase, List.length_map]

/-! ## Trimmed texts -/

lemma dropTailWhile_sublist (p : Char → Bool) (cs : List Char) :
    (dropTailWhile p cs).Sublist cs := by
  have h := (List.dropWhile_sublist p (l := cs.reverse)).reverse
  rwa [List.reverse_reverse] at h

lemma trim_sublist (s : String) : (trim s).toList.Sublist s.toList := by
  rw [trim, String.toList_ofList]
  exact (dropTailWhile_sublist _ _).trans (List.dropWhile_sublist _)

/-- A text that trimming does not shorten is trimmed. -/
lemma trim_eq_of_length {s : String} (h : (trim s).toList.length = s.toList.length) :
    trim s = s :=
  String.toList_injective ((trim_sublist s).eq_of_length h)

/-- Whether a text is trimmed does not depend on the letter case. -/
lemma trim_eq_of_toAsciiLowercase {s : String}
    (h : trim (toAsciiLowercase s) = toAsciiLowercase s) : trim s = s := by
  refine trim_eq_of_length ?_
  rw [trim_toAsciiLowercase] at h
  rw [← length_toAsciiLowercase (trim s), h, length_toAsciiLowercase]

lemma dropTailWhile_eq_self {p : Char → Bool} {cs : List Char}
    (h : ∀ c, cs.getLast? = some c → p c = false) : dropTailWhile p cs = cs := by
  rw [dropTailWhile]
  cases hcs : cs.reverse with
  | nil =>
    rw [List.reverse_eq_nil_iff] at hcs
    rw [hcs]
    rfl
  | cons c rest =>
    have hlast : cs.getLast? = some c := by rw [← List.head?_reverse, hcs]; rfl
    rw [List.dropWhile_cons_of_neg (by rw [h c hlast]; exact Bool.false_ne_true), ← hcs,
      List.reverse_reverse]

/-- A text without white space at its ends is trimmed. -/
lemma trim_eq_self {s : String} (hhead : ∀ c, s.toList.head? = some c → isWhitespace c = false)
    (hlast : ∀ c, s.toList.getLast? = some c → isWhitespace c = false) : trim s = s := by
  have hdrop : s.toList.dropWhile isWhitespace = s.toList := by
    cases hcs : s.toList with
    | nil => rfl
    | cons c rest =>
      rw [List.dropWhile_cons_of_neg]
      rw [hhead c (by rw [hcs]; rfl)]
      exact Bool.false_ne_true
  rw [trim, hdrop, dropTailWhile_eq_self hlast, String.ofList_toList]

lemma dropTailWhile_prefix (p : Char → Bool) (cs : List Char) :
    dropTailWhile p cs <+: cs := by
  have h := List.reverse_prefix.2 (List.dropWhile_suffix (l := cs.reverse) p)
  rwa [List.reverse_reverse] at h

/-- Trimming twice is trimming once. -/
lemma trim_trim (s : String) : trim (trim s) = trim s := by
  have htail : ∀ cs, dropTailWhile isWhitespace (dropTailWhile isWhitespace cs) =
      dropTailWhile isWhitespace cs := by
    intro cs
    rw [dropTailWhile, dropTailWhile, List.reverse_reverse, List.dropWhile_idempotent]
  have hhead : (dropTailWhile isWhitespace (s.toList.dropWhile isWhitespace)).dropWhile
      isWhitespace = dropTailWhile isWhitespace (s.toList.dropWhile isWhitespace) := by
    obtain ⟨rest, hrest⟩ := dropTailWhile_prefix isWhitespace (s.toList.dropWhile isWhitespace)
    cases hcs : dropTailWhile isWhitespace (s.toList.dropWhile isWhitespace) with
    | nil => rfl
    | cons c cs =>
      have hfirst := List.head?_dropWhile_not isWhitespace s.toList
      rw [← hrest, hcs] at hfirst
      exact List.dropWhile_cons_of_neg (by simpa using hfirst)
  rw [trim, trim, String.toList_ofList, hhead, htail]

lemma isBlank_trim (s : String) : isBlank (trim s) = isBlank s := by
  have hdrop : ∀ cs : List Char, (cs.dropWhile isWhitespace).all isWhitespace =
      cs.all isWhitespace := by
    intro cs
    induction cs with
    | nil => rfl
    | cons c cs ih =>
      rw [List.dropWhile_cons]
      split
      · rename_i hc
        rw [ih, List.all_cons, hc, Bool.true_and]
      · rfl
  rw [isBlank, isBlank, trim, String.toList_ofList, dropTailWhile, List.all_reverse, hdrop,
    List.all_reverse, hdrop]

/-- Nothing is left of a blank text. -/
lemma trim_of_isBlank {s : String} (h : isBlank s = true) : trim s = "" := by
  have hdrop : s.toList.dropWhile isWhitespace = [] := by
    rw [List.dropWhile_eq_nil_iff]
    exact List.all_eq_true.1 h
  rw [trim, hdrop]
  rfl

lemma isEmpty_trim (s : String) : (trim s).isEmpty = isBlank s := by
  rw [Bool.eq_iff_iff, String.isEmpty_iff]
  refine ⟨fun h => ?_, trim_of_isBlank⟩
  rw [← isBlank_trim, h]
  rfl

/-! ## Splitting -/

lemma split_go_append {sep : Char → Bool} {w : List Char} (hw : ∀ c ∈ w, sep c = false)
    (cs acc : List Char) : split.go sep (w ++ cs) acc = split.go sep cs (w.reverse ++ acc) := by
  induction w generalizing acc with
  | nil => rfl
  | cons c w ih =>
    rw [List.cons_append, split.go, hw c List.mem_cons_self, if_neg Bool.false_ne_true,
      ih fun d hd => hw d (List.mem_cons_of_mem _ hd), List.reverse_cons, List.append_assoc]
    rfl

lemma split_ne_nil (sep : Char → Bool) (s : String) : split sep s ≠ [] := by
  have hgo : ∀ cs acc, split.go sep cs acc ≠ [] := by
    intro cs
    induction cs with
    | nil => exact fun acc => List.cons_ne_nil _ _
    | cons c cs ih =>
      intro acc
      rw [split.go]
      split
      · exact List.cons_ne_nil _ _
      · exact ih _
  exact hgo s.toList []

/-- A word and a separator start the pieces with the word. -/
lemma split_word {sep : Char → Bool} {w rest : List Char} {d : Char}
    (hw : ∀ c ∈ w, sep c = false) (hd : sep d = true) :
    split sep (String.ofList (w ++ d :: rest)) =
      String.ofList w :: split sep (String.ofList rest) := by
  rw [split, String.toList_ofList, split_go_append hw, split.go, hd, if_pos rfl, List.append_nil,
    List.reverse_reverse, split, String.toList_ofList]

lemma split_last {sep : Char → Bool} {w : List Char} (hw : ∀ c ∈ w, sep c = false) :
    split sep (String.ofList w) = [String.ofList w] := by
  rw [split, String.toList_ofList]
  have hgo := split_go_append hw [] []
  rw [List.append_nil] at hgo
  rw [hgo, split.go, List.append_nil, List.reverse_reverse]

/-- A list of characters is a word without separators, or a word, a separator and the rest. -/
lemma word_cases (sep : Char → Bool) (cs : List Char) :
    (∀ c ∈ cs, sep c = false) ∨
      ∃ w d rest, cs = w ++ d :: rest ∧ (∀ c ∈ w, sep c = false) ∧ sep d = true := by
  induction cs with
  | nil => exact Or.inl fun c hc => absurd hc List.not_mem_nil
  | cons c cs ih =>
    cases hc : sep c with
    | true => exact Or.inr ⟨[], c, cs, rfl, fun d hd => absurd hd List.not_mem_nil, hc⟩
    | false =>
      rcases ih with hall | ⟨w, d, rest, rfl, hw, hd⟩
      · exact Or.inl (List.forall_mem_cons.2 ⟨hc, hall⟩)
      · exact Or.inr ⟨c :: w, d, rest, rfl, List.forall_mem_cons.2 ⟨hc, hw⟩, hd⟩

/-- More than one piece: the text starts with the first piece and a separator. -/
lemma split_eq_cons {sep : Char → Bool} {cs : List Char} {p q : String} {ps : List String}
    (h : split sep (String.ofList cs) = p :: q :: ps) :
    ∃ d rest, cs = p.toList ++ d :: rest ∧ (∀ c ∈ p.toList, sep c = false) ∧ sep d = true ∧
      split sep (String.ofList rest) = q :: ps := by
  rcases word_cases sep cs with hall | ⟨w, d, rest, rfl, hw, hd⟩
  · rw [split_last hall] at h
    cases h
  · rw [split_word hw hd] at h
    obtain ⟨rfl, hrest⟩ := List.cons.inj h
    exact ⟨d, rest, by rw [String.toList_ofList], by rwa [String.toList_ofList], hd, hrest⟩

/-- One piece: the text has no separator. -/
lemma split_eq_singleton {sep : Char → Bool} {cs : List Char} {p : String}
    (h : split sep (String.ofList cs) = [p]) : cs = p.toList ∧ ∀ c ∈ p.toList, sep c = false := by
  rcases word_cases sep cs with hall | ⟨w, d, rest, rfl, hw, hd⟩
  · rw [split_last hall] at h
    cases h
    rw [String.toList_ofList]
    exact ⟨rfl, hall⟩
  · rw [split_word hw hd] at h
    have hne : split sep (String.ofList rest) ≠ [] := split_ne_nil _ _
    injection h with _ hnil
    exact absurd hnil hne

/-- A separator that is no letter splits the lower-cased text in the same places. -/
lemma split_toAsciiLowercase {d : Char} (hd : d.isAlpha = false) (s : String) :
    split (· == d) (toAsciiLowercase s) = (split (· == d) s).map toAsciiLowercase := by
  have hgo : ∀ cs acc, split.go (· == d) (cs.map Char.toLower) (acc.map Char.toLower) =
      (split.go (· == d) cs acc).map toAsciiLowercase := by
    intro cs
    induction cs with
    | nil =>
      intro acc
      rw [List.map_nil, split.go, split.go, List.map_cons, List.map_nil, toAsciiLowercase_ofList,
        List.map_reverse]
    | cons c cs ih =>
      intro acc
      have hsep : (c.toLower == d) = (c == d) := by
        rw [Bool.eq_iff_iff, beq_iff_eq, beq_iff_eq, toLower_eq_iff hd]
      rw [List.map_cons, split.go, split.go, hsep]
      split
      · rw [List.map_cons, toAsciiLowercase_ofList, List.map_reverse, ← ih []]
        rfl
      · exact ih (c :: acc)
  rw [split, toList_toAsciiLowercase, split]
  exact hgo s.toList []

/-! ## Numbers -/

lemma toList_toString_nat (n : ℕ) : (toString n).toList = Nat.toDigits 10 n := by
  rw [Nat.toString_eq_ofList_toDigits, String.toList_ofList]

lemma isDigit_of_mem_toString {n : ℕ} {c : Char} (h : c ∈ (toString n).toList) :
    c.isDigit = true := by
  rw [toList_toString_nat] at h
  exact Nat.isDigit_of_mem_toDigits (by decide) (by decide) h

lemma toAsciiLowercase_toString (n : ℕ) : toAsciiLowercase (toString n) = toString n := by
  apply String.toList_injective
  rw [toList_toAsciiLowercase]
  refine (List.map_congr_left fun c hc => ?_).trans (List.map_id _)
  exact toLower_of_isDigit (isDigit_of_mem_toString hc)

/-- A number that was printed is read back. -/
lemma readDigits_toString (n : ℕ) : readDigits (toString n).toList = some n := by
  have hne : (toString n).toList.isEmpty = false := by
    rw [toList_toString_nat, List.isEmpty_eq_false_iff]
    exact Nat.toDigits_ne_nil
  have hall : (toString n).toList.all Char.isDigit = true :=
    List.all_eq_true.2 fun c hc => isDigit_of_mem_toString hc
  rw [readDigits, hne, hall, toList_toString_nat]
  exact congrArg some Nat.ofDigitChars_ten_toDigits

/-- The list without a plus sign in front. -/
def unsigned (cs : List Char) : List Char :=
  match cs with
  | '+' :: rest => rest
  | _ => cs

lemma parseU64_eq (s : String) :
    parseU64 s = (readDigits (unsigned s.toList)).filter (· < 2 ^ 64) := by
  have hread : ∀ digits : List Char,
      (if digits.isEmpty || !digits.all Char.isDigit then none
        else
          let n := digits.foldl (fun n c => 10 * n + (c.toNat - '0'.toNat)) 0
          if n < 2 ^ 64 then some n else none) = (readDigits digits).filter (· < 2 ^ 64) := by
    intro digits
    rw [readDigits]
    split
    · rfl
    · rw [Option.filter_some]
      simp only [decide_eq_true_eq]
  exact hread (unsigned s.toList)

lemma readDigits_eq_some {cs : List Char} {n : ℕ} (h : readDigits cs = some n) :
    ∀ c ∈ cs, c.isDigit = true := by
  rw [readDigits] at h
  split at h
  · cases h
  · rename_i hdigits
    simp only [Bool.or_eq_true, Bool.not_eq_true', not_or, Bool.not_eq_false] at hdigits
    exact List.all_eq_true.1 hdigits.2

/-- What a `u64` is read from has no letters. -/
lemma toAsciiLowercase_of_parseU64 {s : String} {n : ℕ} (h : parseU64 s = some n) :
    toAsciiLowercase s = s := by
  rw [parseU64_eq, Option.filter_eq_some_iff] at h
  have hdigits := readDigits_eq_some h.1
  have hchars : ∀ c ∈ s.toList, c.toLower = c := by
    intro c hc
    by_cases hplus : c = '+'
    · rw [hplus]
      rfl
    · refine toLower_of_isDigit (hdigits c ?_)
      unfold unsigned
      split
      · rename_i rest hrest
        rw [hrest, List.mem_cons] at hc
        exact hc.resolve_left hplus
      · exact hc
  apply String.toList_injective
  rw [toList_toAsciiLowercase]
  exact (List.map_congr_left hchars).trans (List.map_id _)

/-- A number that was printed is read back. -/
lemma parseU64_toString {n : ℕ} (h : n < 2 ^ 64) : parseU64 (toString n) = some n := by
  have hunsigned : unsigned (toString n).toList = (toString n).toList := by
    unfold unsigned
    split
    · rename_i rest hplus
      have hdigit := isDigit_of_mem_toString (hplus ▸ List.mem_cons_self)
      exact absurd hdigit (by decide)
    · rfl
  rw [parseU64_eq, hunsigned, readDigits_toString, Option.filter_some,
    if_pos (decide_eq_true h)]

end Text

end Sandboard

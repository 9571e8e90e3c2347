import Sandboard.Schema
import Sandboard.Search

/-!
# Clone targets in prose

A clone target is stamped into prose as `Clone repository: owner/name`, and read back as the first
word behind that.  A name that is stamped as a word of its own is read as `parseOwnerName` reads it
(`cloneRepoFromProse_stamp`), and that gives the name back unless it ends in `.git`
(`parseOwnerName_self`).
-/

namespace Sandboard

open Text

namespace Text

/-! ## Lines and trimmed lines -/

/-- The pieces of two texts with a separator between them. -/
lemma split_append {sep : Char → Bool} {d : Char} (hd : sep d = true) (as bs : List Char) :
    split sep (String.ofList (as ++ d :: bs)) =
      split sep (String.ofList as) ++ split sep (String.ofList bs) := by
  have hgo : ∀ acc, split.go sep (as ++ d :: bs) acc = split.go sep as acc ++ split.go sep bs [] := by
    induction as with
    | nil =>
      intro acc
      change (if sep d = true then _ else _) = _
      rw [if_pos hd]
      rfl
    | cons a as ih =>
      intro acc
      rw [List.cons_append, split.go, split.go, ih, ih]
      split
      · rfl
      · rfl
  rw [split, split, split, String.toList_ofList, String.toList_ofList, String.toList_ofList]
  exact hgo []

/-- What is dropped at the end may as well be missing there. -/
lemma dropTailWhile_append_of_all {p : Char → Bool} {as bs : List Char}
    (h : ∀ c ∈ bs, p c = true) : dropTailWhile p (as ++ bs) = dropTailWhile p as := by
  have hrev : ∀ c ∈ bs.reverse, p c = true := fun c hc => h c (List.mem_reverse.mp hc)
  rw [dropTailWhile, dropTailWhile, List.reverse_append, List.dropWhile_append_of_pos hrev]

/-- Nothing is dropped before a character that stays. -/
lemma dropTailWhile_append_of_last {p : Char → Bool} {as : List Char} {c : Char}
    (hc : as.getLast? = some c) (hp : p c = false) (bs : List Char) :
    ∃ bs', bs' <+: bs ∧ dropTailWhile p (as ++ bs) = as ++ bs' := by
  refine ⟨dropTailWhile p bs, dropTailWhile_prefix p bs, ?_⟩
  have hself : dropTailWhile p as = as := by
    refine dropTailWhile_eq_self fun d hd => ?_
    rw [hc, Option.some.injEq] at hd
    rw [← hd, hp]
  unfold dropTailWhile at hself ⊢
  rw [List.reverse_append, List.dropWhile_append]
  split
  · rename_i hempty
    rw [hself, List.isEmpty_iff.mp hempty, List.reverse_nil, List.append_nil]
  · rw [List.reverse_append, List.reverse_reverse]

/-- White space at the end of a text is trimmed. -/
lemma trim_append_whitespace {as bs : List Char} (h : ∀ c ∈ bs, isWhitespace c = true) :
    trim (String.ofList (as ++ bs)) = trim (String.ofList as) := by
  unfold trim
  rw [String.toList_ofList, String.toList_ofList, List.dropWhile_append]
  split
  · rename_i hempty
    have hall : bs.dropWhile isWhitespace = [] := List.dropWhile_eq_nil_iff.mpr h
    rw [hall, List.isEmpty_iff.mp hempty]
  · rw [dropTailWhile_append_of_all h]

end Text

/-! ## Reading prose line by line -/

variable [UnicodeTables]

/-- A carriage return at the end of a line is not looked at. -/
lemma cloneRepoOfLine_chop (l : String) :
    cloneRepoOfLine ((stripSuffix "\r" l).getD l) = cloneRepoOfLine l := by
  unfold stripSuffix
  cases hl : afterPrefix "\r".toList.reverse l.toList.reverse with
  | none => rfl
  | some rest =>
    have hchars : l = String.ofList (rest.reverse ++ ['\r']) := by
      refine String.toList_injective ?_
      rw [String.toList_ofList, ← List.reverse_inj, List.reverse_append, List.reverse_reverse]
      exact afterPrefix_eq_some_iff.mp hl
    have htrim : trim l = trim (String.ofList rest.reverse) := by
      rw [hchars]
      refine trim_append_whitespace fun c hc => ?_
      rw [List.mem_singleton.mp hc]
      decide
    rw [Option.map_some, Option.getD_some]
    unfold cloneRepoOfLine
    rw [htrim]

/-- An empty line names no repository. -/
lemma cloneRepoOfLine_empty : cloneRepoOfLine "" = none := rfl

/-- The first line that names a repository is read. -/
lemma cloneRepoFromProse_eq (text : String) :
    cloneRepoFromProse text = (split (· == '\n') text).findSome? cloneRepoOfLine := by
  unfold cloneRepoFromProse lines
  dsimp only
  rw [List.findSome?_map]
  have hline : (cloneRepoOfLine ∘ fun l => (stripSuffix "\r" l).getD l) = cloneRepoOfLine :=
    funext cloneRepoOfLine_chop
  rw [hline]
  split
  · rename_i hlast
    obtain ⟨init, hinit⟩ := List.getLast?_eq_some_iff.mp hlast
    rw [hinit, List.dropLast_concat, List.findSome?_append, List.findSome?_singleton,
      cloneRepoOfLine_empty, Option.or_none]
  · rfl

/-- Prose over a line break is read before it, and then after it. -/
lemma cloneRepoFromProse_append (as bs : List Char) :
    cloneRepoFromProse (String.ofList (as ++ '\n' :: bs)) =
      (cloneRepoFromProse (String.ofList as)).or (cloneRepoFromProse (String.ofList bs)) := by
  rw [cloneRepoFromProse_eq, cloneRepoFromProse_eq, cloneRepoFromProse_eq, split_append rfl,
    List.findSome?_append]

/-- A text without a line break is one line. -/
lemma cloneRepoFromProse_line {cs : List Char} (h : '\n' ∉ cs) :
    cloneRepoFromProse (String.ofList cs) = cloneRepoOfLine (String.ofList cs) := by
  have hall : ∀ c ∈ cs, (c == '\n') = false := fun c hc => by
    rw [beq_eq_false_iff_ne]
    exact fun hbreak => h (hbreak ▸ hc)
  rw [cloneRepoFromProse_eq, split_last hall, List.findSome?_singleton]

/-! ## Stamps -/

omit [UnicodeTables] in
/-- The first word behind blanks. -/
lemma head?_splitWhitespace {word rest : List Char} (hne : word ≠ [])
    (hword : ∀ c ∈ word, isWhitespace c = false)
    (hrest : ∀ c, rest.head? = some c → isWhitespace c = true) :
    (splitWhitespace (String.ofList (' ' :: (word ++ rest)))).head? = some (String.ofList word) := by
  have hblank : split isWhitespace (String.ofList (' ' :: (word ++ rest))) =
      "" :: split isWhitespace (String.ofList (word ++ rest)) :=
    split_append (by decide) [] (word ++ rest)
  have hkept : decide (String.ofList word ≠ "") = true := by
    refine decide_eq_true fun h => hne ?_
    have hlist := congrArg String.toList h
    rwa [String.toList_ofList] at hlist
  unfold splitWhitespace
  rw [hblank, List.filter_cons_of_neg (by decide)]
  cases rest with
  | nil =>
    rw [List.append_nil, split_last hword,
      List.filter_cons_of_pos (p := fun s => decide (s ≠ "")) hkept, List.head?_cons]
  | cons d rest =>
    rw [split_word hword (hrest d rfl),
      List.filter_cons_of_pos (p := fun s => decide (s ≠ "")) hkept, List.head?_cons]

/-- A line that stamps a word is read as the word is. -/
lemma cloneRepoOfLine_stamp {word rest : List Char} (hne : word ≠ [])
    (hword : ∀ c ∈ word, isWhitespace c = false)
    (hrest : ∀ c, rest.head? = some c → isWhitespace c = true) :
    cloneRepoOfLine (String.ofList ("Clone repository: ".toList ++ (word ++ rest))) =
      (parseOwnerName (String.ofList word)).toOption := by
  obtain ⟨last, hlast⟩ : ∃ c, word.getLast? = some c :=
    Option.ne_none_iff_exists'.mp fun h => hne (List.getLast?_eq_none_iff.mp h)
  have hspace : isWhitespace last = false := hword last (List.mem_of_getLast? hlast)
  have hend : ("Clone repository: ".toList ++ word).getLast? = some last := by
    rw [List.getLast?_append, hlast, Option.some_or]
  obtain ⟨kept, hkept, htail⟩ :=
    dropTailWhile_append_of_last (p := isWhitespace) (c := last) hend hspace rest
  have htrim : trim (String.ofList ("Clone repository: ".toList ++ (word ++ rest))) =
      String.ofList ("Clone repository:".toList ++ ' ' :: (word ++ kept)) := by
    have hdrop : ("Clone repository: ".toList ++ (word ++ rest)).dropWhile isWhitespace =
        "Clone repository: ".toList ++ (word ++ rest) :=
      List.dropWhile_cons_of_neg (p := isWhitespace) (a := 'C') (by decide)
    unfold trim
    rw [String.toList_ofList, hdrop]
    rw [List.append_assoc] at htail
    exact congrArg String.ofList (htail.trans (List.append_assoc _ _ _))
  have hfirst : ∀ c, kept.head? = some c → isWhitespace c = true := by
    intro c hc
    obtain ⟨more, hmore⟩ := hkept
    refine hrest c ?_
    rw [← hmore, List.head?_append, hc, Option.some_or]
  have hstrip : stripPrefix "Clone repository:"
      (String.ofList ("Clone repository:".toList ++ ' ' :: (word ++ kept))) =
        some (String.ofList (' ' :: (word ++ kept))) :=
    congrArg (Option.map String.ofList) (afterPrefix_eq_some_iff.mpr String.toList_ofList)
  unfold cloneRepoOfLine
  dsimp only
  rw [htrim, hstrip, Option.some_or]
  dsimp only [bind, Option.bind]
  rw [head?_splitWhitespace hne hword hfirst]

/-- What follows the first line break. -/
def afterBreak (cs : List Char) : List Char := (cs.dropWhile (· != '\n')).tail

omit [UnicodeTables] in
/-- Nothing follows the line break of a text that has none. -/
lemma afterBreak_of_notMem {cs : List Char} (h : '\n' ∉ cs) : afterBreak cs = [] := by
  have hdrop : cs.dropWhile (· != '\n') = [] := by
    refine List.dropWhile_eq_nil_iff.mpr fun c hc => ?_
    rw [bne_iff_ne]
    exact fun hbreak => h (hbreak ▸ hc)
  rw [afterBreak, hdrop, List.tail_nil]

omit [UnicodeTables] in
/-- The line break is looked for behind characters that are none. -/
lemma afterBreak_append {as : List Char} (h : '\n' ∉ as) (bs : List Char) :
    afterBreak (as ++ bs) = afterBreak bs := by
  have hall : ∀ c ∈ as, (c != '\n') = true := fun c hc => by
    rw [bne_iff_ne]
    exact fun hbreak => h (hbreak ▸ hc)
  rw [afterBreak, List.dropWhile_append_of_pos hall, afterBreak]

/-- Prose that starts with a stamped word is read as the word is, or else behind its first line. -/
lemma cloneRepoFromProse_stamp {word rest : List Char} (hne : word ≠ [])
    (hword : ∀ c ∈ word, isWhitespace c = false)
    (hrest : ∀ c, rest.head? = some c → isWhitespace c = true) :
    cloneRepoFromProse (String.ofList ("Clone repository: ".toList ++ (word ++ rest))) =
      (parseOwnerName (String.ofList word)).toOption.or
        (cloneRepoFromProse (String.ofList (afterBreak rest))) := by
  have hstamp : '\n' ∉ "Clone repository: ".toList ++ word := by
    intro hmem
    rcases List.mem_append.mp hmem with hmem | hmem
    · exact absurd hmem (by decide)
    · exact absurd (hword _ hmem) (by decide)
  have hline : ∀ {line : List Char}, (∀ c ∈ line, (c == '\n') = false) →
      '\n' ∉ "Clone repository: ".toList ++ (word ++ line) := by
    intro line hall hmem
    rw [← List.append_assoc] at hmem
    rcases List.mem_append.mp hmem with hmem | hmem
    · exact hstamp hmem
    · exact absurd (hall _ hmem) (by decide)
  rcases word_cases (· == '\n') rest with hall | ⟨line, d, more, rfl, hall, hd⟩
  · have hbreak : '\n' ∉ rest := fun hmem => absurd (hall _ hmem) (by decide)
    rw [cloneRepoFromProse_line (hline hall), cloneRepoOfLine_stamp hne hword hrest,
      afterBreak_of_notMem hbreak]
    exact (Option.or_none).symm
  · rw [beq_iff_eq.mp hd] at hrest ⊢
    have hbreak : '\n' ∉ line := fun hmem => absurd (hall _ hmem) (by decide)
    have hfirst : ∀ c, line.head? = some c → isWhitespace c = true := by
      intro c hc
      refine hrest c ?_
      rw [List.head?_append, hc, Option.some_or]
    have hafter : afterBreak (line ++ '\n' :: more) = more := by
      rw [afterBreak_append hbreak]
      rfl
    rw [hafter, ← List.append_assoc word, ← List.append_assoc, cloneRepoFromProse_append,
      cloneRepoFromProse_line (hline hall), cloneRepoOfLine_stamp hne hword hfirst]

/-! ## Names of repositories -/

/-- An owner, a slash and a name, both of the characters that are allowed there. -/
structure IsOwnerName (owner name : List Char) : Prop where
  owner_ne_nil : owner ≠ []
  name_ne_nil : name ≠ []
  owner_chars : ∀ c ∈ owner, isNameChar c = true
  name_chars : ∀ c ∈ name, isNameChar c = true

/-- The name of a repository as it is written. -/
def ownerName (owner name : List Char) : String := String.ofList (owner ++ '/' :: name)

omit [UnicodeTables] in
/-- The characters that are allowed in a name lie between the hyphen and the `z`. -/
lemma isNameChar_toNat {c : Char} (h : isNameChar c = true) :
    45 ≤ c.toNat ∧ c.toNat ≤ 122 ∧ c.toNat ≠ 47 ∧ c.toNat ≠ 58 ∧ c.toNat ≠ 64 := by
  simp only [isNameChar, isAsciiAlphanumeric, Char.isAlphanum, Bool.or_eq_true, beq_iff_eq] at h
  rcases h with (((halpha | hdigit) | rfl) | rfl) | rfl
  · have hbounds := isAlpha_iff.mp halpha
    omega
  · have hbounds := isDigit_iff.mp hdigit
    omega
  · decide
  · decide
  · decide

omit [UnicodeTables] in
/-- No white space is allowed in a name. -/
lemma isWhitespace_of_isNameChar {c : Char} (h : isNameChar c = true) :
    isWhitespace c = false := by
  have hbounds := isNameChar_toNat h
  simp only [isWhitespace, Bool.or_eq_false_iff, Bool.and_eq_false_iff, beq_eq_false_iff_ne,
    decide_eq_false_iff_not]
  omega

omit [UnicodeTables] in
/-- No slash is allowed in a name. -/
lemma ne_slash_of_isNameChar {c : Char} (h : isNameChar c = true) : (c == '/') = false := by
  rw [beq_eq_false_iff_ne]
  rintro rfl
  cases h

omit [UnicodeTables] in
lemma toList_ownerName (owner name : List Char) :
    (ownerName owner name).toList = owner ++ '/' :: name := String.toList_ofList

omit [UnicodeTables] in
/-- The program writes a name of a repository so. -/
lemma joined_eq (owner name : String) :
    s!"{owner}/{name}" = ownerName owner.toList name.toList := by
  refine String.toList_injective ?_
  rw [toList_ownerName]
  exact (String.toList_append ..).trans
    ((congrArg (· ++ name.toList) (String.toList_append ..)).trans
      (List.append_assoc owner.toList _ _))

namespace IsOwnerName

variable {owner name : List Char}

omit [UnicodeTables] in
/-- The characters of a name of a repository. -/
lemma mem (h : IsOwnerName owner name) {c : Char} (hc : c ∈ owner ++ '/' :: name) :
    isNameChar c = true ∨ c = '/' := by
  rcases List.mem_append.mp hc with ho | hn
  · exact Or.inl (h.owner_chars c ho)
  · rcases List.mem_cons.mp hn with rfl | hn
    · exact Or.inr rfl
    · exact Or.inl (h.name_chars c hn)

omit [UnicodeTables] in
lemma not_whitespace (h : IsOwnerName owner name) {c : Char} (hc : c ∈ owner ++ '/' :: name) :
    isWhitespace c = false := by
  rcases h.mem hc with hname | rfl
  · exact isWhitespace_of_isNameChar hname
  · decide

omit [UnicodeTables] in
/-- A name is no URL. -/
lemma not_url (h : IsOwnerName owner name) :
    ¬ (contains "://" (ownerName owner name) || startsWith "git@" (ownerName owner name)) = true := by
  have hno : ∀ c : Char, isNameChar c = false → c ≠ '/' → c ∉ owner ++ '/' :: name := by
    intro c hc hslash hmem
    rcases h.mem hmem with hname | rfl
    · rw [hc] at hname
      cases hname
    · exact hslash rfl
  rw [Bool.or_eq_true, not_or]
  constructor
  · intro hcontains
    obtain ⟨⟨before, after⟩, hcut⟩ := Option.isSome_iff_exists.mp hcontains
    rw [toList_ownerName] at hcut
    refine hno ':' (by decide) (by decide) ?_
    rw [eq_of_cutAt hcut]
    exact List.mem_append_right _ (List.mem_append_left _ (by decide))
  · intro hstarts
    obtain ⟨rest, hrest⟩ := Option.isSome_iff_exists.mp hstarts
    rw [toList_ownerName] at hrest
    refine hno '@' (by decide) (by decide) ?_
    rw [afterPrefix_eq_some_iff.mp hrest]
    exact List.mem_append_left _ (by decide)

omit [UnicodeTables] in
/-- Only the name may end in `.git`, as that has no slash. -/
lemma stripSuffix_git (owner name : List Char) :
    (stripSuffix ".git" (ownerName owner name) = none ∧ ∀ core, name ≠ core ++ ".git".toList) ∨
      ∃ core, name = core ++ ".git".toList ∧
        stripSuffix ".git" (ownerName owner name) = some (ownerName owner core) := by
  unfold stripSuffix
  cases hstrip : afterPrefix ".git".toList.reverse (ownerName owner name).toList.reverse with
  | none =>
    refine Or.inl ⟨rfl, ?_⟩
    rintro core rfl
    have hends : afterPrefix ".git".toList.reverse
        (ownerName owner (core ++ ".git".toList)).toList.reverse =
          some (owner ++ '/' :: core).reverse := by
      rw [afterPrefix_eq_some_iff, ← List.reverse_append, toList_ownerName]
      simp only [List.append_assoc, List.cons_append]
    rw [hends] at hstrip
    cases hstrip
  | some rest =>
    rw [toList_ownerName, afterPrefix_eq_some_iff] at hstrip
    have hlist : owner ++ '/' :: name = rest.reverse ++ ".git".toList := by
      rw [← List.reverse_inj, hstrip, List.reverse_append, List.reverse_reverse]
    right
    rcases List.append_eq_append_iff.mp hlist with ⟨mid, hmid, hname⟩ | ⟨mid, -, hgit⟩
    · cases mid with
      | nil => exact absurd (List.cons.inj hname).1 (by decide)
      | cons c core =>
        obtain ⟨rfl, hcore⟩ := List.cons.inj hname
        refine ⟨core, hcore, ?_⟩
        rw [Option.map_some, hmid]
        rfl
    · have hslash : '/' ∈ ".git".toList := by
        rw [hgit]
        exact List.mem_append_right _ List.mem_cons_self
      exact absurd hslash (by decide)

/-- A name is read by its core, which is what is left of it without `.git`. -/
lemma parse_core (h : IsOwnerName owner name) {core : List Char}
    (hcore : (stripSuffix ".git" (ownerName owner name)).getD (ownerName owner name) =
      ownerName owner core) (hsub : ∀ c ∈ core, c ∈ name) :
    (parseOwnerName (ownerName owner name)).toOption =
      if core = [] then none else some (ownerName owner core) := by
  have htrim : trim (ownerName owner name) = ownerName owner name := by
    refine trim_eq_self (fun c hc => ?_) fun c hc => ?_
    · rw [toList_ownerName] at hc
      exact h.not_whitespace (List.mem_of_head? hc)
    · rw [toList_ownerName] at hc
      exact h.not_whitespace (List.mem_of_getLast? hc)
  have hempty : ¬ (ownerName owner name).isEmpty = true := by
    intro hnil
    have hlist := congrArg String.toList (String.isEmpty_iff.mp hnil)
    rw [toList_ownerName] at hlist
    exact List.append_ne_nil_of_right_ne_nil owner (List.cons_ne_nil _ _) hlist
  have hsplit : split (· == '/') (ownerName owner core) =
      [String.ofList owner, String.ofList core] := by
    unfold ownerName
    rw [split_word (fun c hc => ne_slash_of_isNameChar (h.owner_chars c hc)) (by decide),
      split_last fun c hc => ne_slash_of_isNameChar (h.name_chars c (hsub c hc))]
  have howner : (String.ofList owner).isEmpty = false := by
    rw [Bool.eq_false_iff]
    intro hnil
    refine h.owner_ne_nil ?_
    rw [← String.toList_ofList (l := owner), String.isEmpty_iff.mp hnil]
    rfl
  have hochars : (String.ofList owner).toList.all isNameChar = true := by
    rw [String.toList_ofList, List.all_eq_true]
    exact h.owner_chars
  have hcchars : (String.ofList core).toList.all isNameChar = true := by
    rw [String.toList_ofList, List.all_eq_true]
    exact fun c hc => h.name_chars c (hsub c hc)
  unfold parseOwnerName
  dsimp only
  rw [htrim, if_neg hempty, if_neg h.not_url, hcore, hsplit]
  dsimp only
  rw [howner, hochars, hcchars]
  by_cases hnil : core = []
  · rw [if_pos hnil, hnil]
    rfl
  · have hcempty : (String.ofList core).isEmpty = false := by
      rw [Bool.eq_false_iff]
      intro hempty
      refine hnil ?_
      rw [← String.toList_ofList (l := core), String.isEmpty_iff.mp hempty]
      rfl
    rw [if_neg hnil, hcempty]
    refine congrArg some ((joined_eq _ _).trans ?_)
    rw [String.toList_ofList, String.toList_ofList]

end IsOwnerName

/-- What is accepted is an owner and a name. -/
lemma isOwnerName_of_parse {raw clone : String} (h : parseOwnerName raw = .ok clone) :
    ∃ owner name, IsOwnerName owner name ∧ clone = ownerName owner name := by
  have hne : ∀ {s : String}, s.isEmpty = false → s.toList ≠ [] := by
    intro s hs hnil
    rw [String.toList_eq_nil_iff.mp hnil] at hs
    cases hs
  unfold parseOwnerName at h
  dsimp only at h
  split at h
  · cases h
  · split at h
    · cases h
    · split at h
      · rename_i owner name hsplit
        split at h
        · cases h
        · rename_i hvalid
          simp only [Bool.or_eq_true, not_or, Bool.not_eq_true, Bool.not_eq_false',
            List.all_eq_true] at hvalid
          obtain ⟨⟨⟨howner, hname⟩, hochars⟩, hnchars⟩ := hvalid
          refine ⟨owner.toList, name.toList, ⟨hne howner, hne hname, hochars, hnchars⟩, ?_⟩
          rw [← Except.ok.inj h]
          exact joined_eq owner name
      · cases h

/-- The name of a repository gives itself back when it does not end in `.git`. -/
lemma IsOwnerName.parse_self {owner name : List Char} (h : IsOwnerName owner name)
    (hgit : stripSuffix ".git" (ownerName owner name) = none) :
    parseOwnerName (ownerName owner name) = .ok (ownerName owner name) := by
  have hcore : (stripSuffix ".git" (ownerName owner name)).getD (ownerName owner name) =
      ownerName owner name := by
    rw [hgit, Option.getD_none]
  have hparse := h.parse_core hcore fun c hc => hc
  rw [if_neg h.name_ne_nil] at hparse
  cases hresult : parseOwnerName (ownerName owner name) with
  | error e =>
    rw [hresult] at hparse
    cases hparse
  | ok clone =>
    rw [hresult] at hparse
    exact congrArg Except.ok (Option.some.inj hparse)

/-- A name of a repository that ends in `.git` is read without that, if anything is left. -/
lemma IsOwnerName.parse_git {owner name core : List Char} (h : IsOwnerName owner name)
    (hname : name = core ++ ".git".toList)
    (hgit : stripSuffix ".git" (ownerName owner name) = some (ownerName owner core)) :
    (parseOwnerName (ownerName owner name)).toOption =
      if core = [] then none else some (ownerName owner core) := by
  have hcore : (stripSuffix ".git" (ownerName owner name)).getD (ownerName owner name) =
      ownerName owner core := by
    rw [hgit, Option.getD_some]
  refine h.parse_core hcore fun c hc => ?_
  rw [hname]
  exact List.mem_append_left _ hc

end Sandboard

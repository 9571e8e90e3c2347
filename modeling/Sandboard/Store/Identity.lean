import Sandboard.Search
import Sandboard.Store.Retries

/-!
# One pull request, many URLs

The poller reads a repository and a number out of a URL, and the events are matched by comparing
whole normalized URLs.  A URL is `PlainUrl` when the two agree: it is spelled
`https://github.com/owner/name/pull/n` up to the letter case.
-/

namespace Sandboard

open Text

/-! ## What the parser reads -/

/-- The URL without blanks around it and without slashes at its end. -/
def trimmedUrl (url : String) : String :=
  trimEndMatches '/' (trim url)

/-- What precedes the host in lower case, and the pieces of the path. -/
def urlPieces (text : String) : Option (String × List String) := do
  let (before, _) ← splitOnce "github.com/" (toAsciiLowercase text)
  some (before, split (· == '/')
    (String.ofList (text.toList.drop (before.toList.length + "github.com/".toList.length))))

/-- The repository and the number in the pieces of a path. -/
def prOfPieces : List String → Option (String × ℕ)
  | owner :: repo :: pull :: num :: _ =>
    if toAsciiLowercase pull ≠ "pull" || (trim owner).isEmpty || (trim repo).isEmpty then none
    else do
      let n ← parseU64 (String.ofList (num.toList.takeWhile fun c => c != '?' && c != '#'))
      some (s!"{trim owner}/{trim repo}", n)
  | _ => none

lemma parseGithubPrUrl_eq (url : String) :
    parseGithubPrUrl url = (urlPieces (trimmedUrl url)).bind fun (_, ps) => prOfPieces ps := by
  unfold parseGithubPrUrl urlPieces
  cases hcut : splitOnce "github.com/" (toAsciiLowercase (trimmedUrl url)) with
  | none =>
    simp only [trimmedUrl] at hcut
    simp [trimmedUrl, hcut]
  | some ba =>
    simp only [trimmedUrl] at hcut
    simp only [trimmedUrl, hcut, Option.bind_eq_bind, Option.bind_some]
    generalize split (· == '/') _ = ps
    match ps with
    | [] | [_] | [_, _] | [_, _, _] => rfl
    | _ :: _ :: _ :: _ :: _ => rfl

lemma prOfPieces_eq_some {ps : List String} {repo : String} {n : ℕ}
    (h : prOfPieces ps = some (repo, n)) :
    ∃ owner name pull num rest, ps = owner :: name :: pull :: num :: rest ∧
      toAsciiLowercase pull = "pull" ∧ trim owner ≠ "" ∧ trim name ≠ "" ∧
      parseU64 (String.ofList (num.toList.takeWhile fun c => c != '?' && c != '#')) = some n ∧
      repo = trim owner ++ "/" ++ trim name := by
  unfold prOfPieces at h
  split at h
  · rename_i owner name pull num rest
    split at h
    · cases h
    · rename_i hfits
      simp only [ne_eq, Bool.or_eq_true, decide_eq_true_eq, not_or, not_not,
        String.isEmpty_iff] at hfits
      obtain ⟨n', hn', heq⟩ := Option.bind_eq_some_iff.1 h
      cases heq
      exact ⟨owner, name, pull, num, rest, rfl, hfits.1.1, hfits.1.2, hfits.2, hn', rfl⟩
  · cases h

/-! ## The canonical URL -/

/-- The URL by which GitHub and the poller name a pull request. -/
def canonicalPrUrl (repo : String) (n : ℕ) : String :=
  s!"https://github.com/{repo}/pull/{n}"

/-- The URL is spelled `https://github.com/owner/name/pull/n`: no other scheme and nothing else
before the host, nothing behind the number, and no padding. -/
def PlainUrl (url : String) (n : ℕ) : Prop :=
  ∃ owner name pull, urlPieces (trimmedUrl url) =
      some ("https://", [owner, name, pull, toString n]) ∧
    trim owner = owner ∧ trim name = name

/-- The parser reads the pull request out of the URL, in some letter case. -/
def NamesPr (url repo : String) (n : ℕ) : Prop :=
  ∃ repo', parseGithubPrUrl url = some (repo', n) ∧ toAsciiLowercase repo' = toAsciiLowercase repo

/-- An owner and a name as the parser reads them: nonempty, without slashes and blanks around. -/
structure IsRepo (repo owner name : String) : Prop where
  repo : repo = owner ++ "/" ++ name
  owner : trim owner = owner ∧ owner ≠ "" ∧ ∀ c ∈ owner.toList, (c == '/') = false
  name : trim name = name ∧ name ≠ "" ∧ ∀ c ∈ name.toList, (c == '/') = false

lemma trimmedUrl_eq_self {s : String}
    (hhead : ∀ c, s.toList.head? = some c → isWhitespace c = false)
    (hlast : ∀ c, s.toList.getLast? = some c → isWhitespace c = false ∧ (c == '/') = false) :
    trimmedUrl s = s := by
  have htrim : trim s = s := trim_eq_self hhead fun c hc => (hlast c hc).1
  rw [trimmedUrl, htrim, trimEndMatches, dropTailWhile_eq_self fun c hc => (hlast c hc).2,
    String.ofList_toList]

lemma canonicalPrUrl_eq (repo : String) (n : ℕ) : canonicalPrUrl repo n =
    "https://" ++ ("github.com/" ++ (repo ++ ("/pull/" ++ toString n))) := by
  have hfront : "https://github.com/" = "https://" ++ "github.com/" := by decide
  have hcanon : canonicalPrUrl repo n =
      "https://github.com/" ++ repo ++ "/pull/" ++ toString n := rfl
  rw [hcanon, hfront]
  simp only [String.append_assoc]

lemma getLast_canonicalPrUrl {repo : String} {n : ℕ} {c : Char}
    (h : (canonicalPrUrl repo n).toList.getLast? = some c) : c.isDigit = true := by
  rw [canonicalPrUrl_eq] at h
  simp only [String.toList_append, List.getLast?_append] at h
  cases hlast : (toString n).toList.getLast? with
  | none =>
    rw [List.getLast?_eq_none_iff, toList_toString_nat] at hlast
    exact absurd hlast Nat.toDigits_ne_nil
  | some d =>
    rw [hlast] at h
    obtain rfl : d = c := by simpa using h
    exact isDigit_of_mem_toString (List.mem_of_getLast? hlast)

lemma trimmedUrl_canonicalPrUrl (repo : String) (n : ℕ) :
    trimmedUrl (canonicalPrUrl repo n) = canonicalPrUrl repo n := by
  refine trimmedUrl_eq_self (fun c hc => ?_) fun c hc => ?_
  · have hhead : "https://".toList.head? = some 'h' := by decide
    rw [canonicalPrUrl_eq, String.toList_append, List.head?_append, hhead] at hc
    cases hc
    decide
  · have hdigit := getLast_canonicalPrUrl hc
    refine ⟨isWhitespace_of_isDigit hdigit, ?_⟩
    rw [beq_eq_false_iff_ne]
    rintro rfl
    cases hdigit

/-- The canonical URL as the matching compares it. -/
lemma normalizePrUrl_canonicalPrUrl (repo : String) (n : ℕ) :
    normalizePrUrl (canonicalPrUrl repo n) =
      "https://" ++ ("github.com/" ++ (toAsciiLowercase repo ++ ("/pull/" ++ toString n))) := by
  have hscheme : toAsciiLowercase "https://" = "https://" := by decide
  have hhost : toAsciiLowercase "github.com/" = "github.com/" := by decide
  have hpull : toAsciiLowercase "/pull/" = "/pull/" := by decide
  have htrimmed := trimmedUrl_canonicalPrUrl repo n
  rw [trimmedUrl] at htrimmed
  rw [normalizePrUrl, htrimmed, canonicalPrUrl_eq]
  simp only [toAsciiLowercase_append, hscheme, hhost, hpull, toAsciiLowercase_toString]

/-! ## The pieces of a URL in any letter case -/

lemma normalizePrUrl_eq (url : String) : normalizePrUrl url = toAsciiLowercase (trimmedUrl url) :=
  rfl

/-- The text before the host and the pieces, read off the text in lower case. -/
lemma urlPieces_eq_some {text before : String} {ps : List String}
    (h : urlPieces text = some (before, ps)) :
    ∃ rest, ps = split (· == '/') (String.ofList rest) ∧ (toAsciiLowercase text).toList =
      before.toList ++ ("github.com/".toList ++ rest.map Char.toLower) := by
  obtain ⟨⟨b, a⟩, hcut, hps⟩ := Option.bind_eq_some_iff.1 h
  cases hps
  obtain ⟨⟨bs, as⟩, hlist, heq⟩ := Option.map_eq_some_iff.1 hcut
  cases heq
  have hlower := eq_of_cutAt hlist
  refine ⟨_, rfl, ?_⟩
  rw [List.map_drop, ← toList_toAsciiLowercase, hlower]
  simp only [String.toList_ofList]
  rw [← List.append_assoc, ← List.length_append, List.drop_left, List.append_assoc]

/-- A text that starts with the scheme and the host in lower case has its pieces behind them. -/
lemma urlPieces_of_toAsciiLowercase {text : String} {path : List Char}
    (h : (toAsciiLowercase text).toList = "https://".toList ++ ("github.com/".toList ++ path)) :
    ∃ rest, urlPieces text = some ("https://", split (· == '/') (String.ofList rest)) ∧
      rest.map Char.toLower = path := by
  have havoids : avoids "github.com/".toList "https://".toList = true := by decide
  have hcut : splitOnce "github.com/" (toAsciiLowercase text) =
      some ("https://", String.ofList path) := by
    rw [splitOnce, h, cutAt_append havoids, cutAt_self, Option.map_some, Option.map_some]
    simp only [List.append_nil, String.ofList_toList]
  refine ⟨_, by rw [urlPieces, hcut]; rfl, ?_⟩
  rw [List.map_drop, ← toList_toAsciiLowercase, h, ← List.append_assoc, ← List.length_append,
    List.drop_left]

/-- Four pieces are the words between the slashes. -/
lemma split_eq_four {cs : List Char} {a b c d : String}
    (h : split (· == '/') (String.ofList cs) = [a, b, c, d]) :
    cs = a.toList ++ '/' :: (b.toList ++ '/' :: (c.toList ++ '/' :: d.toList)) := by
  obtain ⟨s₁, rest₁, rfl, -, hs₁, h₁⟩ := split_eq_cons h
  obtain ⟨s₂, rest₂, rfl, -, hs₂, h₂⟩ := split_eq_cons h₁
  obtain ⟨s₃, rest₃, rfl, -, hs₃, h₃⟩ := split_eq_cons h₂
  obtain ⟨rfl, -⟩ := split_eq_singleton h₃
  rw [beq_iff_eq] at hs₁ hs₂ hs₃
  rw [hs₁, hs₂, hs₃]

lemma split_four {a b c d : String} (ha : ∀ x ∈ a.toList, (x == '/') = false)
    (hb : ∀ x ∈ b.toList, (x == '/') = false) (hc : ∀ x ∈ c.toList, (x == '/') = false)
    (hd : ∀ x ∈ d.toList, (x == '/') = false) :
    split (· == '/') (String.ofList
      (a.toList ++ '/' :: (b.toList ++ '/' :: (c.toList ++ '/' :: d.toList)))) = [a, b, c, d] := by
  rw [split_word ha (beq_self_eq_true _), split_word hb (beq_self_eq_true _),
    split_word hc (beq_self_eq_true _), split_last hd]
  simp only [String.ofList_toList]

/-! ## When the two readings agree -/

variable {url repo owner name : String} {n : ℕ}

/-- The path of a canonical URL in lower case, word by word. -/
lemma toList_path (owner name : String) (n : ℕ) :
    (toAsciiLowercase (owner ++ "/" ++ name) ++ ("/pull/" ++ toString n)).toList =
      (toAsciiLowercase owner).toList ++ '/' :: ((toAsciiLowercase name).toList ++
        '/' :: ("pull".toList ++ '/' :: (toString n).toList)) := by
  have hpath : "/pull/".toList = '/' :: ("pull".toList ++ ['/']) := by decide
  have hsep : toAsciiLowercase "/" = String.ofList ['/'] := by decide
  rw [toAsciiLowercase_append, toAsciiLowercase_append, hsep]
  simp only [String.toList_append, String.toList_ofList, hpath, List.append_assoc,
    List.cons_append, List.nil_append]

/-- A plain URL is compared as the canonical one. -/
lemma normalizePrUrl_of_plain (hnames : NamesPr url repo n) (hplain : PlainUrl url n) :
    normalizePrUrl url = normalizePrUrl (canonicalPrUrl repo n) := by
  obtain ⟨repo', hparse, hrepo⟩ := hnames
  obtain ⟨owner, name, pull, hpieces, howner, hname⟩ := hplain
  rw [parseGithubPrUrl_eq, hpieces, Option.bind_some] at hparse
  obtain ⟨o, m, pl, num, rest, heq, hpull, -, -, -, rfl⟩ := prOfPieces_eq_some hparse
  cases heq
  obtain ⟨cs, hcs, hlower⟩ := urlPieces_eq_some hpieces
  have hpull' : pull.toList.map Char.toLower = "pull".toList := by
    rw [← toList_toAsciiLowercase, hpull]
  have hnum : (toString n).toList.map Char.toLower = (toString n).toList := by
    rw [← toList_toAsciiLowercase, toAsciiLowercase_toString]
  have hslash : '/'.toLower = '/' := by decide
  apply String.toList_injective
  rw [normalizePrUrl_canonicalPrUrl, ← hrepo, howner, hname, normalizePrUrl_eq, hlower,
    split_eq_four hcs.symm, String.toList_append, String.toList_append, toList_path]
  simp only [List.map_append, List.map_cons, hslash, hpull', hnum, toList_toAsciiLowercase]

lemma slash_toLower {s : String} (h : ∀ c ∈ s.toList, (c == '/') = false) :
    ∀ c ∈ (toAsciiLowercase s).toList, (c == '/') = false := by
  intro c hc
  rw [toList_toAsciiLowercase] at hc
  obtain ⟨d, hd, rfl⟩ := List.mem_map.1 hc
  rw [beq_eq_false_iff_ne, ne_eq, toLower_eq_iff (by decide), ← ne_eq, ← beq_eq_false_iff_ne]
  exact h d hd

lemma slash_pull : ∀ c ∈ "pull".toList, (c == '/') = false := by
  intro c hc
  rw [beq_eq_false_iff_ne]
  rintro rfl
  exact absurd hc (by decide)

lemma slash_toString (n : ℕ) : ∀ c ∈ (toString n).toList, (c == '/') = false := by
  intro c hc
  rw [beq_eq_false_iff_ne]
  rintro rfl
  exact absurd (isDigit_of_mem_toString hc) (by decide)

/-- A word that reads as another one in lower case is trimmed and nonempty like it. -/
lemma word_of_toAsciiLowercase {w v : String} (h : toAsciiLowercase w = toAsciiLowercase v)
    (hv : trim v = v ∧ v ≠ "") : trim w = w ∧ w ≠ "" := by
  refine ⟨trim_eq_of_toAsciiLowercase ?_, ?_⟩
  · rw [h, trim_toAsciiLowercase, hv.1]
  · rintro rfl
    have hlength := length_toAsciiLowercase v
    rw [← h] at hlength
    exact hv.2 (String.toList_injective (List.eq_nil_of_length_eq_zero hlength.symm))

lemma eq_toString_of_toAsciiLowercase {s : String} (h : toAsciiLowercase s = toString n) :
    s = toString n := by
  have hsame : toAsciiLowercase s = s := by
    apply String.toList_injective
    rw [toList_toAsciiLowercase]
    refine (List.map_congr_left fun c hc => ?_).trans (List.map_id _)
    have hmem : c.toLower ∈ (toString n).toList := by
      rw [← h, toList_toAsciiLowercase]
      exact List.mem_map_of_mem hc
    exact ((toLower_eq_iff (isAlpha_of_isDigit (isDigit_of_mem_toString hmem))).1 rfl).symm
  exact hsame.symm.trans h

lemma prOfPieces_four {o m pl : String} (hn : n < 2 ^ 64) (hpl : toAsciiLowercase pl = "pull")
    (ho : trim o = o ∧ o ≠ "") (hm : trim m = m ∧ m ≠ "") :
    prOfPieces [o, m, pl, toString n] = some (o ++ "/" ++ m, n) := by
  have hnum : (toString n).toList.takeWhile (fun c => c != '?' && c != '#') =
      (toString n).toList := by
    refine List.takeWhile_eq_self_iff.2 fun c hc => ?_
    have hdigit := isDigit_of_mem_toString hc
    rw [Bool.and_eq_true, bne_iff_ne, bne_iff_ne]
    constructor
    · rintro rfl
      cases hdigit
    · rintro rfl
      cases hdigit
  have hfits : (decide (toAsciiLowercase pl ≠ "pull") || (trim o).isEmpty || (trim m).isEmpty) =
      false := by
    simp [hpl, ho.1, ho.2, hm.1, hm.2]
  rw [prOfPieces, hfits, if_neg Bool.false_ne_true, hnum, String.ofList_toList,
    parseU64_toString hn, ho.1, hm.1]
  rfl

/-- What is compared as the canonical URL of a pull request is a plain URL of it. -/
lemma plain_of_normalizePrUrl (hrepo : IsRepo repo owner name) (hn : n < 2 ^ 64)
    (h : normalizePrUrl url = normalizePrUrl (canonicalPrUrl repo n)) :
    NamesPr url repo n ∧ PlainUrl url n := by
  obtain ⟨rfl, howner, hname⟩ := hrepo
  have hlower := congrArg String.toList h
  rw [normalizePrUrl_canonicalPrUrl, normalizePrUrl_eq, String.toList_append,
    String.toList_append, toList_path] at hlower
  obtain ⟨cs, hpieces, hcs⟩ := urlPieces_of_toAsciiLowercase hlower
  have hfour : (split (· == '/') (String.ofList cs)).map toAsciiLowercase =
      [toAsciiLowercase owner, toAsciiLowercase name, "pull", toString n] := by
    rw [← split_toAsciiLowercase (by decide), toAsciiLowercase_ofList, hcs,
      split_four (slash_toLower howner.2.2) (slash_toLower hname.2.2) slash_pull (slash_toString n)]
  obtain ⟨o, ps₁, hps, ho, h₁⟩ := List.map_eq_cons_iff.1 hfour
  obtain ⟨m, ps₂, rfl, hm, h₂⟩ := List.map_eq_cons_iff.1 h₁
  obtain ⟨pl, ps₃, rfl, hpl, h₃⟩ := List.map_eq_cons_iff.1 h₂
  obtain ⟨num, ps₄, rfl, hnum, h₄⟩ := List.map_eq_cons_iff.1 h₃
  obtain rfl := List.map_eq_nil_iff.1 h₄
  obtain rfl := eq_toString_of_toAsciiLowercase hnum
  obtain ⟨hotrim, honil⟩ := word_of_toAsciiLowercase ho ⟨howner.1, howner.2.1⟩
  obtain ⟨hmtrim, hmnil⟩ := word_of_toAsciiLowercase hm ⟨hname.1, hname.2.1⟩
  rw [hps] at hpieces
  refine ⟨⟨o ++ "/" ++ m, ?_, ?_⟩, o, m, pl, hpieces, hotrim, hmtrim⟩
  · rw [parseGithubPrUrl_eq, hpieces, Option.bind_some]
    exact prOfPieces_four hn hpl ⟨hotrim, honil⟩ ⟨hmtrim, hmnil⟩
  · simp only [toAsciiLowercase_append, ho, hm]

/-- The two readings of a URL agree exactly when it is plain. -/
lemma normalizePrUrl_eq_canonical_iff (hrepo : IsRepo repo owner name) (hn : n < 2 ^ 64) :
    normalizePrUrl url = normalizePrUrl (canonicalPrUrl repo n) ↔
      NamesPr url repo n ∧ PlainUrl url n :=
  ⟨plain_of_normalizePrUrl hrepo hn, fun h => normalizePrUrl_of_plain h.1 h.2⟩

/-- What the parser reads is an owner and a name. -/
lemma isRepo_of_parse (h : parseGithubPrUrl url = some (repo, n)) :
    (∃ owner name, IsRepo repo owner name) ∧ n < 2 ^ 64 := by
  rw [parseGithubPrUrl_eq] at h
  obtain ⟨⟨before, ps⟩, hpieces, hps⟩ := Option.bind_eq_some_iff.1 h
  obtain ⟨o, m, pl, num, rest, rfl, -, ho, hm, hnum, rfl⟩ := prOfPieces_eq_some hps
  obtain ⟨cs, hcs, -⟩ := urlPieces_eq_some hpieces
  obtain ⟨-, cs', -, hoslash, -, hcs'⟩ := split_eq_cons hcs.symm
  obtain ⟨-, -, -, hmslash, -, -⟩ := split_eq_cons hcs'
  refine ⟨⟨trim o, trim m, rfl, ⟨trim_trim o, ho, ?_⟩, trim_trim m, hm, ?_⟩, ?_⟩
  · exact fun c hc => hoslash c ((trim_sublist o).subset hc)
  · exact fun c hc => hmslash c ((trim_sublist m).subset hc)
  · rw [parseU64_eq, Option.filter_eq_some_iff] at hnum
    exact of_decide_eq_true hnum.2

/-! ## Different pull requests -/

/-- The pieces of a text in lower case are those of every text that reads the same. -/
lemma urlPieces_lower {s t : String} (h : toAsciiLowercase s = toAsciiLowercase t) :
    (urlPieces s).map (fun (b, ps) => (b, ps.map toAsciiLowercase)) =
      (urlPieces t).map fun (b, ps) => (b, ps.map toAsciiLowercase) := by
  have hlist : s.toList.map Char.toLower = t.toList.map Char.toLower := by
    rw [← toList_toAsciiLowercase, h, toList_toAsciiLowercase]
  unfold urlPieces
  rw [h]
  cases splitOnce "github.com/" (toAsciiLowercase t) with
  | none => rfl
  | some ba =>
    simp only [Option.bind_eq_bind, Option.bind_some, Option.map_some]
    rw [← split_toAsciiLowercase (by decide), ← split_toAsciiLowercase (by decide),
      toAsciiLowercase_ofList, toAsciiLowercase_ofList, List.map_drop, List.map_drop, hlist]

/-- The number of a piece, read off the piece in lower case. -/
lemma number_lower {num : String}
    (h : parseU64 (String.ofList (num.toList.takeWhile fun c => c != '?' && c != '#')) = some n) :
    String.ofList (num.toList.takeWhile fun c => c != '?' && c != '#') =
      String.ofList ((toAsciiLowercase num).toList.takeWhile fun c => c != '?' && c != '#') := by
  have hp : (fun c => c != '?' && c != '#') ∘ Char.toLower = fun c => c != '?' && c != '#' := by
    funext c
    have hne : ∀ d : Char, d.isAlpha = false → (c.toLower != d) = (c != d) := by
      intro d hd
      rw [Bool.eq_iff_iff, bne_iff_ne, bne_iff_ne, ne_eq, ne_eq, toLower_eq_iff hd]
    change (c.toLower != '?' && c.toLower != '#') = _
    rw [hne '?' (by decide), hne '#' (by decide)]
  rw [toList_toAsciiLowercase, List.takeWhile_map, hp, ← toAsciiLowercase_ofList,
    toAsciiLowercase_of_parseU64 h]

lemma prOfPieces_lower {ps ps' : List String} {repo' : String} {n' : ℕ}
    (h : ps.map toAsciiLowercase = ps'.map toAsciiLowercase) (hps : prOfPieces ps = some (repo, n))
    (hps' : prOfPieces ps' = some (repo', n')) :
    toAsciiLowercase repo = toAsciiLowercase repo' ∧ n = n' := by
  obtain ⟨o, m, pl, num, rest, rfl, -, -, -, hnum, rfl⟩ := prOfPieces_eq_some hps
  obtain ⟨o', m', pl', num', rest', rfl, -, -, -, hnum', rfl⟩ := prOfPieces_eq_some hps'
  simp only [List.map_cons, List.cons.injEq] at h
  obtain ⟨ho, hm, -, hnums, -⟩ := h
  constructor
  · simp only [toAsciiLowercase_append, ← trim_toAsciiLowercase, ho, hm]
  · rw [number_lower hnum, hnums, ← number_lower hnum', hnum'] at hnum
    exact (Option.some.inj hnum).symm

/-- URLs of different pull requests are never compared equal. -/
lemma same_of_normalizePrUrl {url' repo' : String} {n' : ℕ}
    (h : normalizePrUrl url = normalizePrUrl url') (hurl : parseGithubPrUrl url = some (repo, n))
    (hurl' : parseGithubPrUrl url' = some (repo', n')) :
    toAsciiLowercase repo = toAsciiLowercase repo' ∧ n = n' := by
  rw [parseGithubPrUrl_eq] at hurl hurl'
  obtain ⟨⟨b, ps⟩, hpieces, hps⟩ := Option.bind_eq_some_iff.1 hurl
  obtain ⟨⟨b', ps'⟩, hpieces', hps'⟩ := Option.bind_eq_some_iff.1 hurl'
  have hlower := urlPieces_lower (s := trimmedUrl url) (t := trimmedUrl url') h
  rw [hpieces, hpieces', Option.map_some, Option.map_some, Option.some.injEq,
    Prod.mk.injEq] at hlower
  exact prOfPieces_lower hlower.2 hps hps'

/-! ## Cards and events -/

namespace PullRequest

/-- The entry has a plain URL of the pull request. -/
def Spells (repo : String) (n : ℕ) (q : PullRequest) : Prop :=
  ∃ url, q.urlStr = some url ∧ NamesPr url repo n ∧ PlainUrl url n

/-- The upstream that the entry resolves to, when its URL names the repository. -/
def upstream (repo : String) (q : PullRequest) : String :=
  (q.toRepoConfig.getD (RepoConfig.normalized ⟨repo, repo, "main"⟩)).upstream

lemma hasUrl_canonical_iff (hrepo : IsRepo repo owner name) (hn : n < 2 ^ 64) (q : PullRequest) :
    q.hasUrl (normalizePrUrl (canonicalPrUrl repo n)) = true ↔ q.Spells repo n := by
  rw [hasUrl, Option.any_eq_true]
  refine exists_congr fun url => and_congr_right fun _ => ?_
  rw [beq_iff_eq, normalizePrUrl_eq_canonical_iff hrepo hn]

/-- An entry never takes the URL of another pull request for its own. -/
lemma hasUrl_of_different {q : PullRequest} {url' repo' : String} {n' : ℕ}
    (hparse : q.urlStr.bind parseGithubPrUrl = some (repo, n))
    (hurl' : parseGithubPrUrl url' = some (repo', n'))
    (hne : ¬(toAsciiLowercase repo' = toAsciiLowercase repo ∧ n' = n)) :
    q.hasUrl (normalizePrUrl url') = false := by
  obtain ⟨url, hurl, hread⟩ := Option.bind_eq_some_iff.1 hparse
  rw [hasUrl, hurl, Option.any_some, beq_eq_false_iff_ne]
  intro hsame
  obtain ⟨hrepo, hn⟩ := same_of_normalizePrUrl hsame hread hurl'
  exact hne ⟨hrepo.symm, hn.symm⟩

end PullRequest

namespace WorkItem

variable {c : WorkItem} {p : PullRequest}

lemma listsPr_canonical_iff (hrepo : IsRepo repo owner name) (hn : n < 2 ^ 64) :
    c.listsPr (normalizePrUrl (canonicalPrUrl repo n)) = true ↔
      ∃ q ∈ c.pullRequests, q.Spells repo n := by
  rw [listsPr, List.any_eq_true]
  exact exists_congr fun q =>
    and_congr_right fun _ => PullRequest.hasUrl_canonical_iff hrepo hn q

/-- A reported pull request is no new entry exactly when an entry has its URL. -/
lemma length_withReportedPr_iff (needle : String) (pr : PullRequest) (c : WorkItem) :
    (c.withReportedPr needle pr).pullRequests.length = c.pullRequests.length ↔
      c.listsPr needle = true := by
  have hupdate : ∀ ps : List PullRequest,
      (withReportedPr.update needle pr ps).length = ps.length ↔
        ps.any (PullRequest.hasUrl needle) = true := by
    intro ps
    induction ps with
    | nil => simp [withReportedPr.update]
    | cons q ps ih =>
      rw [withReportedPr.update, List.any_cons]
      cases hq : q.hasUrl needle with
      | true => simp
      | false => simpa using ih
  exact hupdate c.pullRequests

/-- The card is on the repository that its first open pull request resolves to. -/
lemma onRepo_iff (schema : Schema) (id : ItemId) {advancedRepo : String}
    (hp : c.unmergedPrs.head?.or c.pullRequests.head? = some p)
    (hparse : p.urlStr.bind parseGithubPrUrl = some (repo, n))
    (hnonempty : (trim advancedRepo).isEmpty = false) :
    c.onRepo schema id advancedRepo = true ↔ trim advancedRepo = p.upstream repo := by
  obtain ⟨url, hurl, hread⟩ := Option.bind_eq_some_iff.1 hparse
  have hresolve : (Board.repoOf id c).toOption.join =
      some (p.toRepoConfig.getD (RepoConfig.normalized ⟨repo, repo, "main"⟩)) := by
    rw [Board.repoOf, hp]
    dsimp only
    cases p.toRepoConfig with
    | some r => rfl
    | none =>
      rw [hurl]
      dsimp only
      rw [hread]
      rfl
  rw [onRepo, hresolve, hnonempty, Bool.not_false, Bool.true_and, beq_iff_eq, eq_comm,
    PullRequest.upstream]

/-- A card that lists one URL. -/
def listing (url : String) : WorkItem :=
  { WorkItem.new 0 2 "Docs" "" with pullRequests := [PullRequest.fromUrl url] }

end WorkItem

end Sandboard

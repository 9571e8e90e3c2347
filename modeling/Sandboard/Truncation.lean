import Sandboard.Supervisor.Freeing

/-!
# Cutting texts at a number of bytes

Error texts, the error of a turn in the cockpit chat, and the excerpts of a search are cut to a
number of bytes.  A cut at a byte inside a character panics.  `CutsEnd` and `CutsStart` say for a
text and a limit that the cut is at a character, or that there is none; exactly then the text is
cut as it should be (`truncates_iff`).
-/

namespace Sandboard

open Text Supervisor

/-! ## Bytes -/

/-- The bytes of some characters. -/
def Text.byteSum (cs : List Char) : ℕ := (cs.map Char.utf8Size).sum

/-- A character of the text begins at byte `k`, or the text ends there. -/
def IsCharBoundary (k : ℕ) (s : String) : Prop :=
  ∃ before after, before ++ after = s.toList ∧ byteSum before = k

/-- The text keeps within the limit, or its last `n` bytes begin with a character. -/
def CutsEnd (n : ℕ) (s : String) : Prop :=
  byteLength s ≤ n ∨ IsCharBoundary (byteLength s - n) s

/-- The text keeps within the limit, or a character ends at byte `n`. -/
def CutsStart (n : ℕ) (s : String) : Prop :=
  byteLength s ≤ n ∨ IsCharBoundary n s

/-- `t` is an end of the text within the limit, and the whole text when that keeps within it. -/
structure IsEndOf (n : ℕ) (s t : String) : Prop where
  suffix : t.toList <:+ s.toList
  length : byteLength t ≤ n
  whole : byteLength s ≤ n → t = s

/-- `t` is a start of the text within the limit. -/
structure IsStartOf (n : ℕ) (s t : String) : Prop where
  starts : t.toList <+: s.toList
  length : byteLength t ≤ n

/-! ## The cuts of the program -/

namespace Supervisor

/-- Both streams of a command, the error stream first. -/
def bothStreams (o : Output) : String :=
  let s := trim o.stderr
  if isBlank o.stdout then s else (if s.isEmpty then s else s ++ "\n") ++ trim o.stdout

/-- The last `n` bytes. -/
def lastBytes (s : String) (n : ℕ) : Except Abort String :=
  if byteLength s ≤ n then .ok s
  else
    match dropBytes (byteLength s - n) s.toList with
    | some cs => .ok (String.ofList cs)
    | none => .error .panic

end Supervisor

/-- The detail of the error of a turn in the cockpit chat. -/
def chatDetail (o : Output) : Except Abort String :=
  let s := bothStreams o
  if byteLength s > 800 then
    match dropBytes (byteLength s - 800) s.toList with
    | some cs => .ok (String.ofList cs)
    | none => .error .panic
  else .ok s

namespace Board

/-- `s.replace('\n', " ")`. -/
def flat (s : String) : String :=
  String.ofList (s.toList.map fun c => if c == '\n' then ' ' else c)

/-- The excerpt of a text in a hit. -/
def excerpt (s : String) : Except Abort String :=
  if byteLength (flat s) ≤ 160 then .ok (flat s)
  else
    match takeBytes (flat s).toList 160 with
    | some cs => .ok (String.ofList cs ++ "…")
    | none => .error .panic

variable [UnicodeTables]

open UnicodeTables

/-- The first field of a card that has the query in it: its rank, its name and its text. -/
def matchedField (item : WorkItem) (q : String) : Option (ℕ × String × String) :=
  if contains q (toLowercase item.title) then some (0, "title", item.title)
  else if contains q (toLowercase item.intent) then some (1, "intent", item.intent)
  else
    match item.definitionOfDone.filter fun dod => contains q (toLowercase dod) with
    | some dod => some (2, "definition_of_done", dod)
    | none =>
      match item.notes.find? fun n => contains q (toLowercase n.text) with
      | some n => some (3, "notes", n.text)
      | none =>
        ((item.history.reverse.filterMap Transition.reason).find? fun reason =>
          contains q (toLowercase reason)).map fun reason => (4, "history", reason)

/-- The field of a card that has the query in it, with its excerpt. -/
def searchMatch (item : WorkItem) (q : String) : Except Abort (Option (ℕ × String × String)) :=
  match matchedField item q with
  | none => .ok none
  | some (rank, name, text) => (excerpt text).map fun detail => some (rank, name, detail)

/-- A card that was found. -/
structure SearchHit where
  id : ItemId
  title : String
  state : String
  goal : Option ItemId
  matchedIn : String
  detail : String

/-- The cards of a search: those of one Project, or all. -/
def searched (s : BoardState) (goal : Option ItemId) : List WorkItem :=
  s.cards.filter fun item => goal.all fun g => s.goalOf item.id == g

/-- Better ranks first, and older cards. -/
def hitLe (a b : ℕ × SearchHit) : Bool :=
  if a.1 = b.1 then a.2.id ≤ b.2.id else a.1 ≤ b.1

/-- The cards among these that have the query in a text of theirs. -/
def hitsOf (s : BoardState) (q : String) : List WorkItem → Except Abort (List (ℕ × SearchHit))
  | [] => .ok []
  | item :: items => do
    let found ← searchMatch item q
    let hits ← hitsOf s q items
    match found with
    | none => return hits
    | some (rank, name, detail) =>
      return (rank, ⟨item.id, item.title, item.state.debug, some (s.goalOf item.id), name,
        detail⟩) :: hits

/-- The cards that have the query in a text of theirs, the best matches first. -/
def searchItems (b : Board) (query : String) (goal : Option ItemId) (limit : ℕ) :
    Except Abort (List SearchHit) :=
  let q := toLowercase (trim query)
  if q.isEmpty ∨ limit = 0 then .ok []
  else do
    let hits ← hitsOf b.state q (searched b.state goal)
    return ((hits.mergeSort hitLe).take (min limit 50)).map Prod.snd

end Board

/-- The excerpt that a hit should have: the text on one line, or its start and an ellipsis. -/
def IsExcerptOf (s t : String) : Prop :=
  (byteLength (Board.flat s) ≤ 160 ∧ t = Board.flat s) ∨
    ∃ start, IsStartOf 160 (Board.flat s) start ∧ t = start ++ "…"

/-! ## Where a cut is possible -/

namespace Text

lemma byteLength_eq (s : String) : byteLength s = byteSum s.toList := rfl

lemma byteSum_append (cs cs' : List Char) : byteSum (cs ++ cs') = byteSum cs + byteSum cs' := by
  rw [byteSum, List.map_append, List.sum_append]
  rfl

lemma byteSum_cons (c : Char) (cs : List Char) : byteSum (c :: cs) = c.utf8Size + byteSum cs := by
  rw [byteSum, List.map_cons, List.sum_cons]
  rfl

/-- Every character has a byte. -/
lemma eq_nil_of_byteSum {cs : List Char} (h : byteSum cs = 0) : cs = [] := by
  cases cs with
  | nil => rfl
  | cons c cs =>
    have hpos := c.utf8Size_pos
    rw [byteSum_cons] at h
    omega

/-- A text can be cut at a byte when a character begins there. -/
lemma dropBytes_eq_some_iff {k : ℕ} {cs after : List Char} :
    dropBytes k cs = some after ↔ ∃ before, before ++ after = cs ∧ byteSum before = k := by
  induction cs generalizing k with
  | nil =>
    cases k with
    | zero =>
      constructor
      · intro h
        exact ⟨[], Option.some.inj h.symm, rfl⟩
      · rintro ⟨before, happend, -⟩
        rw [(List.append_eq_nil_iff.1 happend).2]
        rfl
    | succ k =>
      constructor
      · intro h
        cases h
      · rintro ⟨before, happend, hsum⟩
        rw [(List.append_eq_nil_iff.1 happend).1] at hsum
        cases hsum
  | cons c cs ih =>
    have hpos := c.utf8Size_pos
    cases k with
    | zero =>
      constructor
      · intro h
        exact ⟨[], Option.some.inj h.symm, rfl⟩
      · rintro ⟨before, happend, hsum⟩
        rw [eq_nil_of_byteSum hsum, List.nil_append] at happend
        rw [happend]
        rfl
    | succ k =>
      rw [dropBytes]
      split
      · rename_i hle
        rw [ih]
        constructor
        · rintro ⟨before, rfl, hsum⟩
          refine ⟨c :: before, rfl, ?_⟩
          rw [byteSum_cons, hsum]
          omega
        · rintro ⟨before, happend, hsum⟩
          cases before with
          | nil => cases hsum
          | cons d before =>
            rw [List.cons_append, List.cons.injEq] at happend
            obtain ⟨rfl, happend⟩ := happend
            rw [byteSum_cons] at hsum
            exact ⟨before, happend, by omega⟩
      · rename_i hgt
        constructor
        · intro h
          cases h
        · rintro ⟨before, happend, hsum⟩
          cases before with
          | nil => cases hsum
          | cons d before =>
            rw [List.cons_append, List.cons.injEq] at happend
            obtain ⟨rfl, -⟩ := happend
            rw [byteSum_cons] at hsum
            omega

/-- The characters before a byte are those that leave the others from it on. -/
lemma takeBytes_eq_some_iff {k : ℕ} {cs before : List Char} :
    Board.takeBytes cs k = some before ↔ ∃ after, before ++ after = cs ∧ byteSum before = k := by
  induction cs generalizing k before with
  | nil =>
    cases k with
    | zero =>
      constructor
      · intro h
        cases h
        exact ⟨[], rfl, rfl⟩
      · rintro ⟨after, -, hsum⟩
        rw [eq_nil_of_byteSum hsum]
        rfl
    | succ k =>
      constructor
      · intro h
        cases h
      · rintro ⟨after, happend, hsum⟩
        rw [(List.append_eq_nil_iff.1 happend).1] at hsum
        cases hsum
  | cons c cs ih =>
    have hpos := c.utf8Size_pos
    cases k with
    | zero =>
      constructor
      · intro h
        cases h
        exact ⟨c :: cs, rfl, rfl⟩
      · rintro ⟨after, -, hsum⟩
        rw [eq_nil_of_byteSum hsum]
        rfl
    | succ k =>
      rw [Board.takeBytes]
      split
      · rename_i hle
        rw [Option.map_eq_some_iff]
        constructor
        · rintro ⟨before', h, rfl⟩
          obtain ⟨after, rfl, hsum⟩ := ih.1 h
          refine ⟨after, rfl, ?_⟩
          rw [byteSum_cons, hsum]
          omega
        · rintro ⟨after, happend, hsum⟩
          cases before with
          | nil => cases hsum
          | cons d before =>
            rw [List.cons_append, List.cons.injEq] at happend
            obtain ⟨rfl, happend⟩ := happend
            rw [byteSum_cons] at hsum
            exact ⟨before, ih.2 ⟨after, happend, by omega⟩, rfl⟩
      · rename_i hgt
        constructor
        · intro h
          cases h
        · rintro ⟨after, happend, hsum⟩
          cases before with
          | nil => cases hsum
          | cons d before =>
            rw [List.cons_append, List.cons.injEq] at happend
            obtain ⟨rfl, -⟩ := happend
            rw [byteSum_cons] at hsum
            omega

end Text

lemma isCharBoundary_iff_drop {k : ℕ} {s : String} :
    IsCharBoundary k s ↔ ∃ after, dropBytes k s.toList = some after := by
  constructor
  · rintro ⟨before, after, happend, hsum⟩
    exact ⟨after, dropBytes_eq_some_iff.2 ⟨before, happend, hsum⟩⟩
  · rintro ⟨after, h⟩
    obtain ⟨before, happend, hsum⟩ := dropBytes_eq_some_iff.1 h
    exact ⟨before, after, happend, hsum⟩

lemma isCharBoundary_iff_take {k : ℕ} {s : String} :
    IsCharBoundary k s ↔ ∃ before, Board.takeBytes s.toList k = some before := by
  constructor
  · rintro ⟨before, after, happend, hsum⟩
    exact ⟨before, takeBytes_eq_some_iff.2 ⟨after, happend, hsum⟩⟩
  · rintro ⟨before, h⟩
    obtain ⟨after, happend, hsum⟩ := takeBytes_eq_some_iff.1 h
    exact ⟨before, after, happend, hsum⟩

/-! ## What is cut -/

namespace Supervisor

/-- The last bytes are there, and an end of the text, exactly when they begin with a character. -/
lemma lastBytes_iff (s : String) (n : ℕ) :
    (∃ t, lastBytes s n = .ok t ∧ IsEndOf n s t) ↔ CutsEnd n s := by
  unfold lastBytes CutsEnd
  by_cases hle : byteLength s ≤ n
  · rw [if_pos hle]
    exact iff_of_true ⟨s, rfl, List.suffix_refl _, hle, fun _ => rfl⟩ (Or.inl hle)
  · rw [if_neg hle, isCharBoundary_iff_drop]
    constructor
    · rintro ⟨t, ht, -⟩
      cases hdrop : dropBytes (byteLength s - n) s.toList with
      | none =>
        rw [hdrop] at ht
        cases ht
      | some after => exact Or.inr ⟨after, rfl⟩
    · rintro (h | ⟨after, hdrop⟩)
      · exact absurd h hle
      · obtain ⟨before, happend, hsum⟩ := dropBytes_eq_some_iff.1 hdrop
        refine ⟨String.ofList after, by rw [hdrop], ?_, ?_, fun h => absurd h hle⟩
        · rw [String.toList_ofList]
          exact ⟨before, happend⟩
        · have hall : byteLength s = byteSum before + byteSum after := by
            rw [byteLength_eq, ← happend, byteSum_append]
          rw [byteLength_eq, String.toList_ofList]
          omega

lemma tail_eq (s : String) (n : ℕ) : tail s n = lastBytes (trim s) n := rfl

lemma outerr_eq (o : Output) : outerr o = lastBytes (trim (bothStreams o)) 500 := by
  have hstreams : outerr o = tail (bothStreams o) 500 := by
    unfold outerr bothStreams
    rfl
  rw [hstreams, tail_eq]

lemma lastBytes_error {s : String} {n : ℕ} {a : Abort} (h : lastBytes s n = .error a) :
    a = .panic ∧ ¬CutsEnd n s := by
  refine ⟨?_, fun hcuts => ?_⟩
  · unfold lastBytes at h
    split at h
    · cases h
    · split at h
      · cases h
      · cases h
        rfl
  · obtain ⟨t, ht, -⟩ := (lastBytes_iff s n).2 hcuts
    rw [ht] at h
    cases h

end Supervisor

lemma chatDetail_eq (o : Output) : chatDetail o = lastBytes (bothStreams o) 800 := by
  unfold chatDetail lastBytes
  dsimp only
  split
  · rename_i hgt
    rw [if_neg (Nat.not_le.2 hgt)]
  · rename_i hle
    rw [if_pos (Nat.le_of_not_lt hle)]

namespace Board

/-- A text that can be cut at the limit has an excerpt. -/
lemma exists_excerpt {s : String} (h : CutsStart 160 (flat s)) : ∃ t, excerpt s = .ok t := by
  unfold excerpt
  rcases h with hle | hboundary
  · exact ⟨flat s, if_pos hle⟩
  · obtain ⟨before, htake⟩ := isCharBoundary_iff_take.1 hboundary
    split
    · exact ⟨_, rfl⟩
    · rw [htake]
      exact ⟨_, rfl⟩

/-- An excerpt is what it should be, and its text can be cut at the limit. -/
lemma of_excerpt {s t : String} (h : excerpt s = .ok t) :
    IsExcerptOf s t ∧ CutsStart 160 (flat s) := by
  unfold excerpt at h
  split at h
  · rename_i hle
    cases h
    exact ⟨Or.inl ⟨hle, rfl⟩, Or.inl hle⟩
  · split at h
    · rename_i before htake
      cases h
      obtain ⟨after, happend, hsum⟩ := takeBytes_eq_some_iff.1 htake
      refine ⟨Or.inr ⟨String.ofList before, ⟨?_, ?_⟩, rfl⟩,
        Or.inr ⟨before, after, happend, hsum⟩⟩
      · rw [String.toList_ofList]
        exact ⟨after, happend⟩
      · rw [byteLength_eq, String.toList_ofList, hsum]
    · cases h

variable [UnicodeTables]

open UnicodeTables

/-- The hit shows an excerpt of the field of a card that has the query in it. -/
def ShowsExcerpt (items : List WorkItem) (q : String) (hit : SearchHit) : Prop :=
  ∃ item ∈ items, hit.id = item.id ∧
    ∃ rank text, matchedField item q = some (rank, hit.matchedIn, text) ∧
      IsExcerptOf text hit.detail

/-- The field of each card that has the query in it can be cut for its excerpt. -/
def FieldsCut (items : List WorkItem) (q : String) : Prop :=
  ∀ item ∈ items, ∀ rank name text, matchedField item q = some (rank, name, text) →
    CutsStart 160 (flat text)

lemma ShowsExcerpt.mono {items items' : List WorkItem} {q : String} {hit : SearchHit}
    (h : ShowsExcerpt items q hit) (hsub : ∀ item ∈ items, item ∈ items') :
    ShowsExcerpt items' q hit := by
  obtain ⟨item, hitem, hhit⟩ := h
  exact ⟨item, hsub item hitem, hhit⟩

/-- A card whose field can be cut is matched with its excerpt. -/
lemma exists_searchMatch {item : WorkItem} {q : String}
    (h : ∀ rank name text, matchedField item q = some (rank, name, text) →
      CutsStart 160 (flat text)) : ∃ found, searchMatch item q = .ok found := by
  unfold searchMatch
  cases hfield : matchedField item q with
  | none => exact ⟨none, rfl⟩
  | some field =>
    obtain ⟨rank, name, text⟩ := field
    obtain ⟨t, ht⟩ := exists_excerpt (h rank name text hfield)
    refine ⟨some (rank, name, t), ?_⟩
    dsimp only
    rw [ht]
    rfl

/-- The field of a card that is matched can be cut, and is matched with its excerpt. -/
lemma of_searchMatch {item : WorkItem} {q : String} {found : Option (ℕ × String × String)}
    (h : searchMatch item q = .ok found) :
    (∀ rank name text, matchedField item q = some (rank, name, text) →
      CutsStart 160 (flat text)) ∧
    ∀ rank name detail, found = some (rank, name, detail) →
      ∃ text, matchedField item q = some (rank, name, text) ∧ IsExcerptOf text detail := by
  unfold searchMatch at h
  cases hfield : matchedField item q with
  | none =>
    rw [hfield] at h
    cases h
    constructor
    · intro rank name text hsome
      cases hsome
    · intro rank name detail hsome
      cases hsome
  | some field =>
    obtain ⟨rank, name, text⟩ := field
    rw [hfield] at h
    dsimp only at h
    cases hexcerpt : excerpt text with
    | error a =>
      rw [hexcerpt] at h
      cases h
    | ok t =>
      rw [hexcerpt] at h
      cases h
      obtain ⟨hshows, hcuts⟩ := of_excerpt hexcerpt
      constructor
      · intro rank' name' text' hsome
        cases hsome
        exact hcuts
      · intro rank' name' detail hsome
        cases hsome
        exact ⟨text, rfl, hshows⟩

lemma exists_hitsOf {s : BoardState} {q : String} {items : List WorkItem}
    (h : FieldsCut items q) : ∃ hits, hitsOf s q items = .ok hits := by
  induction items with
  | nil => exact ⟨[], rfl⟩
  | cons item items ih =>
    obtain ⟨found, hfound⟩ := exists_searchMatch (h item List.mem_cons_self)
    obtain ⟨hits, hhits⟩ := ih fun item' hitem' => h item' (List.mem_cons_of_mem item hitem')
    rw [hitsOf, hfound]
    change ∃ hits', (hitsOf s q items >>= _) = Except.ok hits'
    rw [hhits]
    rcases found with _ | ⟨rank, name, detail⟩
    · exact ⟨_, rfl⟩
    · exact ⟨_, rfl⟩

lemma of_hitsOf {s : BoardState} {q : String} {items : List WorkItem}
    {hits : List (ℕ × SearchHit)} (h : hitsOf s q items = .ok hits) :
    FieldsCut items q ∧ ∀ hit ∈ hits, ShowsExcerpt items q hit.2 := by
  induction items generalizing hits with
  | nil =>
    cases h
    exact ⟨fun item hitem => absurd hitem List.not_mem_nil,
      fun hit hhit => absurd hhit List.not_mem_nil⟩
  | cons item items ih =>
    rw [hitsOf] at h
    cases hfound : searchMatch item q with
    | error a =>
      rw [hfound] at h
      cases h
    | ok found =>
      rw [hfound] at h
      change (hitsOf s q items >>= _) = Except.ok hits at h
      cases hhits : hitsOf s q items with
      | error a =>
        rw [hhits] at h
        cases h
      | ok rest =>
        rw [hhits] at h
        obtain ⟨hcuts, hshows⟩ := ih hhits
        obtain ⟨hfield, hdetail⟩ := of_searchMatch hfound
        have hsub : ∀ item' ∈ items, item' ∈ item :: items := fun _ =>
          List.mem_cons_of_mem item
        refine ⟨List.forall_mem_cons.2 ⟨hfield, hcuts⟩, ?_⟩
        rcases found with _ | ⟨rank, name, detail⟩
        · cases h
          exact fun hit hhit => (hshows hit hhit).mono hsub
        · cases h
          intro hit hhit
          rcases List.mem_cons.1 hhit with rfl | hhit
          · obtain ⟨text, htext, hexcerpt⟩ := hdetail rank name detail rfl
            exact ⟨item, List.mem_cons_self, rfl, rank, text, htext, hexcerpt⟩
          · exact (hshows hit hhit).mono hsub

/-- A search returns, with an excerpt for each hit, exactly when the field of each card that has
the query in it can be cut. -/
lemma searchItems_iff (b : Board) (query : String) (goal : Option ItemId) (limit : ℕ) :
    (∃ hits, b.searchItems query goal limit = .ok hits ∧
        ∀ hit ∈ hits, ShowsExcerpt (searched b.state goal) (toLowercase (trim query)) hit) ↔
      ((toLowercase (trim query)).isEmpty = true ∨ limit = 0 ∨
        FieldsCut (searched b.state goal) (toLowercase (trim query))) := by
  unfold searchItems
  dsimp only
  generalize toLowercase (trim query) = q
  by_cases hnone : q.isEmpty = true ∨ limit = 0
  · rw [if_pos hnone, ← or_assoc]
    exact iff_of_true ⟨[], rfl, fun hit hhit => absurd hhit List.not_mem_nil⟩ (Or.inl hnone)
  · rw [if_neg hnone, ← or_assoc, or_iff_right hnone]
    constructor
    · rintro ⟨hits, hhits, -⟩
      cases hall : hitsOf b.state q (searched b.state goal) with
      | error a =>
        rw [hall] at hhits
        cases hhits
      | ok all => exact (of_hitsOf hall).1
    · intro hcuts
      obtain ⟨all, hall⟩ := exists_hitsOf (s := b.state) hcuts
      rw [hall]
      refine ⟨_, rfl, fun hit hhit => ?_⟩
      obtain ⟨found, hfound, rfl⟩ := List.mem_map.1 hhit
      have hsorted : found ∈ all.mergeSort hitLe := List.mem_of_mem_take hfound
      exact (of_hitsOf hall).2 found (List.mem_mergeSort.1 hsorted)

end Board

/-! ## The task of a run -/

namespace Supervisor

/-- The last 500 bytes of what the command printed begin with a character. -/
def Output.Cuts (o : Output) : Prop := CutsEnd 500 (trim (bothStreams o))

/-- The failure is an error, not a panic. -/
def IsError (a : Abort) : Prop := a ≠ .panic

lemma isError_failedWith {what : String} {o : Output} (h : Output.Cuts o) :
    IsError (failedWith what o) := by
  obtain ⟨t, ht, -⟩ := (lastBytes_iff _ 500).2 h
  rw [failedWith, outerr_eq, ht]
  exact fun hpanic => by cases hpanic

lemma isError_error (e : String) : IsError (.error e) := fun hpanic => by cases hpanic

lemma awaited_isError {α : Type} {r : Except String α} (e : Abort) (h : awaited r = .error e) :
    IsError e := by
  cases r with
  | ok a => cases h
  | error text =>
    cases h
    exact isError_error text

lemma eq_ok_of_awaited {α : Type} {r : Except String α} {a : α} (h : awaited r = .ok a) :
    r = .ok a := by
  cases r with
  | ok b =>
    cases h
    rfl
  | error e => cases h

lemma mapError_isError {α ε : Type} {r : Except ε α} {f : ε → String} (e : Abort)
    (h : (r.mapError fun x => Abort.error (f x)) = .error e) : IsError e := by
  cases r with
  | ok a => cases h
  | error x =>
    cases h
    exact isError_error (f x)

section Settle

open Locked

variable [UnicodeTables] {w : Answers} {id : ItemId} {agentId branch : String}

omit [UnicodeTables] in
lemma get_failsIn : (Board.get id : Method Abort _).FailsIn IsError :=
  FailsIn.atomic fun _ _ h => by cases h

omit [UnicodeTables] in
/-- Writing the pull requests of a card does not fail. -/
lemma setPullRequests_failsIn (prs : List PullRequest) :
    (Board.setPullRequests id prs : Method Abort Unit).FailsIn IsError := by
  refine FailsIn.bind (fun b => ?_) fun edited => FailsIn.onSome fun item => ?_
  · dsimp only
    split
    · split <;> trivial
    · trivial
  · exact fun _ _ _ _ _ => trivial

-- What a method does is not looked into from here on, only how it is composed.
attribute [local irreducible] Locked.FailsIn

omit [UnicodeTables] in
lemma cardIs_failsIn (p : WorkItem → Bool) : (cardIs id p).FailsIn IsError :=
  FailsIn.bind get_failsIn fun _ => FailsIn.pure _

omit [UnicodeTables] in
lemma parsed_failsIn {α : Type} (what : String) (r : Except String α) :
    (parsed what r).FailsIn IsError := by
  cases r with
  | ok a => exact FailsIn.pure a
  | error e => exact FailsIn.fail (isError_error _)

omit [UnicodeTables] in
/-- A board method whose error becomes a text fails with that text. -/
lemma textual_failsIn {ε α β : Type} (m : Method ε α) (f : ε → String)
    {k : α → Method Abort β} (hk : ∀ a, (k a).FailsIn IsError) :
    ((m.mapErr fun e => Abort.error (f e)) >>= k).FailsIn IsError :=
  FailsIn.bind (FailsIn.mapErr (fun e => isError_error (f e)) m) hk

lemma ask_failsIn (what question : String) (options : List EscalationOption) :
    (ask id agentId what question options).FailsIn IsError :=
  textual_failsIn _ _ fun _ => FailsIn.pure _

lemma escalateMissing_failsIn (detail : String) :
    (escalateMissing id agentId detail).FailsIn IsError :=
  FailsIn.bind (ask_failsIn _ _ _) fun _ => FailsIn.pure _

lemma applyInitialPlanSidecar_failsIn :
    (applyInitialPlanSidecar w id agentId).FailsIn IsError := by
  unfold applyInitialPlanSidecar
  split
  · exact escalateMissing_failsIn _
  · exact escalateMissing_failsIn _
  · exact escalateMissing_failsIn _
  · split
    · exact escalateMissing_failsIn _
    · refine FailsIn.bind (FailsIn.attempt _) fun r => ?_
      cases r with
      | ok a => exact FailsIn.pure _
      | error e => exact escalateMissing_failsIn _

lemma reportRun_failsIn (added removed : UInt32) (gates : List String) :
    (reportRun id agentId added removed gates).FailsIn IsError :=
  textual_failsIn _ _ fun _ => FailsIn.pure _

omit [UnicodeTables] in
lemma recordPr_failsIn (pr : PullRequest) : (recordPr id pr).FailsIn IsError :=
  textual_failsIn _ _ fun _ => FailsIn.pure _

lemma settleEscalate_failsIn (file : VerdictFile) :
    (settleEscalate id agentId file).FailsIn IsError :=
  FailsIn.bind (parsed_failsIn _ _) fun _ => textual_failsIn _ _ fun _ => FailsIn.pure _

lemma settleSplit_failsIn (file : VerdictFile) :
    (settleSplit w id agentId file).FailsIn IsError := by
  refine FailsIn.bind (cardIs_failsIn _) fun initial => ?_
  split
  · exact FailsIn.bind (ask_failsIn _ _ _) fun _ => FailsIn.pure _
  · refine FailsIn.bind (parsed_failsIn _ _) fun split => ?_
    refine FailsIn.bind get_failsIn fun card => ?_
    refine FailsIn.bind (FailsIn.onSome fun url => ?_) fun _ => ?_
    · exact FailsIn.bind get_failsIn fun _ => setPullRequests_failsIn _
    · refine FailsIn.bind (FailsIn.attempt _) fun r => ?_
      cases r with
      | ok a => exact FailsIn.pure _
      | error e =>
        exact FailsIn.bind (cardIs_failsIn _) fun asked =>
          FailsIn.bind (FailsIn.when (ask_failsIn _ _ _)) fun _ => FailsIn.pure _

lemma settlePlan_failsIn : (settlePlan w id agentId).FailsIn IsError := by
  refine FailsIn.bind (cardIs_failsIn _) fun initial => ?_
  split
  · refine FailsIn.bind applyInitialPlanSidecar_failsIn fun asked => ?_
    split
    · exact FailsIn.pure _
    · exact FailsIn.bind (reportRun_failsIn _ _ _) fun _ => FailsIn.pure _
  · exact FailsIn.bind (ask_failsIn _ _ _) fun _ => FailsIn.pure _

omit [UnicodeTables] in
lemma prToRecord_isError {reported : Option PullRequest} (e : Abort)
    (h : prToRecord w branch reported = .error e) : IsError e := by
  unfold prToRecord at h
  split at h
  · cases h
  · cases hlookup : awaited w.lookup with
    | error a =>
      rw [hlookup] at h
      cases h
      exact awaited_isError e hlookup
    | ok looked =>
      rw [hlookup] at h
      dsimp only [Bind.bind, Except.bind] at h
      split at h
      · cases h
        exact isError_error _
      · split at h <;> cases h

lemma publishReport_failsIn (rep : ReportFile) :
    (publishReport w id agentId branch rep).FailsIn IsError := by
  refine FailsIn.bind get_failsIn fun card => ?_
  refine FailsIn.bind (FailsIn.ret prToRecord_isError) fun pr => ?_
  refine FailsIn.bind (recordPr_failsIn pr) fun _ => ?_
  dsimp only
  split
  · exact textual_failsIn _ _ fun _ => FailsIn.pure _
  · exact FailsIn.bind (reportRun_failsIn _ _ _) fun _ => FailsIn.pure _

lemma settleReport_failsIn (file : VerdictFile) :
    (settleReport w id agentId branch file).FailsIn IsError := by
  refine FailsIn.bind (parsed_failsIn _ _) fun rep => ?_
  refine FailsIn.bind (FailsIn.onSome fun pr =>
    FailsIn.bind (FailsIn.attempt _) fun _ => FailsIn.pure _) fun _ => ?_
  refine FailsIn.bind (cardIs_failsIn _) fun initial => ?_
  split
  · refine FailsIn.bind applyInitialPlanSidecar_failsIn fun asked => ?_
    split
    · exact FailsIn.pure _
    · exact FailsIn.bind (reportRun_failsIn _ _ _) fun _ => FailsIn.pure _
  · refine FailsIn.bind (cardIs_failsIn _) fun proposed => ?_
    split
    · exact FailsIn.bind (ask_failsIn _ _ _) fun _ => FailsIn.pure _
    · exact publishReport_failsIn rep

lemma processVerdict_failsIn : (processVerdict w id agentId branch).FailsIn IsError := by
  unfold processVerdict
  split
  · exact FailsIn.pure _
  · refine FailsIn.bind (FailsIn.ret mapError_isError) fun _ => ?_
    refine FailsIn.bind (FailsIn.ret mapError_isError) fun file => ?_
    split
    · exact settleEscalate_failsIn file
    · split
      · exact settleSplit_failsIn file
      · split
        · exact settlePlan_failsIn
        · split
          · exact settleReport_failsIn file
          · exact FailsIn.pure _

/-- Recording the pull request that GitHub shows fails with an error only. -/
lemma publishPr_failsIn (out : Output) (url : String) :
    (do
      recordPr id (PullRequest.fromUrl url)
      if parsePrMergeable out.stdout = .conflicting then
        let _ ← (Board.releaseWithReason id agentId
          (some conflictingPrBounceReason)).mapErr fun e => .error e.message
      else
        let (added, removed) := ((printedOf w.diffstat).map parseDiffstat).getD (0, 0)
        reportRun id agentId added removed ["ci-on-pr"] : Method Abort Unit).FailsIn IsError := by
  have hrecord : (recordPr id (PullRequest.fromUrl url)).FailsIn IsError := recordPr_failsIn _
  apply hrecord.bind
  intro _
  by_cases hconflict : parsePrMergeable out.stdout = .conflicting
  · rw [if_pos hconflict]
    exact textual_failsIn _ _ fun _ => FailsIn.pure _
  · rw [if_neg hconflict]
    exact reportRun_failsIn _ _ _

/-- A run without a verdict fails with an error only, when what its commands printed can be
cut. -/
lemma publishRun_failsIn {run : Output} (hrun : Output.Cuts run)
    (hpublished : ∀ out, w.published = .ok out → Output.Cuts out) :
    (publishRun w id agentId branch run).FailsIn IsError := by
  unfold publishRun
  by_cases hok : (!run.ok) = true
  · rw [if_pos hok]
    exact FailsIn.fail (isError_failedWith hrun)
  · rw [if_neg hok]
    apply FailsIn.ret_bind
    · exact awaited_isError
    · intro out hout
      by_cases hshown : (!out.ok) = true
      · rw [if_pos hshown]
        exact FailsIn.fail (isError_failedWith (hpublished out (eq_ok_of_awaited hout)))
      · rw [if_neg hshown]
        cases parsePrUrl out.stdout with
        | none => exact FailsIn.fail (isError_error _)
        | some url => exact publishPr_failsIn out url

/-- The end of a run fails with an error only, when what its commands printed can be cut. -/
lemma finish_failsIn {run : Output} (hrun : Output.Cuts run)
    (hpublished : ∀ out, w.published = .ok out → Output.Cuts out) :
    (finish w id agentId branch run).FailsIn IsError := by
  refine FailsIn.bind processVerdict_failsIn fun settled => ?_
  cases settled with
  | true => exact FailsIn.pure _
  | false =>
    refine FailsIn.bind (cardIs_failsIn _) fun initial => ?_
    by_cases hinitial : initial = true
    · rw [if_pos hinitial]
      exact ask_failsIn _ _ _
    · rw [if_neg hinitial]
      exact publishRun_failsIn hrun hpublished

end Settle

end Supervisor

/-! ## Every cut -/

/-- For every text and limit, for whatever a command printed, and for every board and search: the
text is cut to an end or a start of it within the limit if and only if the cut is at a character or
there is none.  And the task of a run does not panic when what its commands printed can be cut. -/
theorem truncates_iff [UnicodeTables] :
    (∀ s n, (∃ t, tail s n = .ok t ∧ IsEndOf n (trim s) t) ↔ CutsEnd n (trim s)) ∧
    (∀ o, (∃ t, outerr o = .ok t ∧ IsEndOf 500 (trim (bothStreams o)) t) ↔ Output.Cuts o) ∧
    (∀ o, (∃ t, chatDetail o = .ok t ∧ IsEndOf 800 (bothStreams o) t) ↔
      CutsEnd 800 (bothStreams o)) ∧
    (∀ s, (∃ t, Board.excerpt s = .ok t ∧ IsExcerptOf s t) ↔ CutsStart 160 (Board.flat s)) ∧
    (∀ (b : Board) query goal limit,
      let q := UnicodeTables.toLowercase (trim query)
      (∃ hits, b.searchItems query goal limit = .ok hits ∧
          ∀ hit ∈ hits, Board.ShowsExcerpt (Board.searched b.state goal) q hit) ↔
        (q.isEmpty = true ∨ limit = 0 ∨ Board.FieldsCut (Board.searched b.state goal) q)) ∧
    ∀ (w : Answers) id agentId branch run (b : Board), Output.Cuts run →
      (∀ out, w.published = .ok out → Output.Cuts out) →
        ((finish w id agentId branch run).run b).1 ≠ .error .panic := by
  refine ⟨fun s n => ?_, fun o => ?_, fun o => ?_, fun s => ?_, Board.searchItems_iff, ?_⟩
  · rw [tail_eq]
    exact lastBytes_iff (trim s) n
  · rw [outerr_eq]
    exact lastBytes_iff (trim (bothStreams o)) 500
  · rw [chatDetail_eq]
    exact lastBytes_iff (bothStreams o) 800
  · constructor
    · rintro ⟨t, ht, -⟩
      exact (Board.of_excerpt ht).2
    · intro hcuts
      obtain ⟨t, ht⟩ := Board.exists_excerpt hcuts
      exact ⟨t, ht, (Board.of_excerpt ht).1⟩
  · intro w id agentId branch run b hrun hpublished hpanic
    have hfails : (finish w id agentId branch run).FailsIn IsError :=
      finish_failsIn hrun hpublished
    exact hfails.run hpanic rfl

/-- A text of one line in which byte 160 is inside a character of three bytes. -/
def straddling : String := String.ofList (List.replicate 54 '€')

/-- A Project whose intent is that text. -/
def straddlingRun : List Operation :=
  [.create ⟨none, "Docs", straddling, none, .human, false, none⟩]

/-- The call ends in a panic. -/
def panics {α : Type} : Except Abort α → Bool
  | .error .panic => true
  | _ => false

/-- The last bytes that begin inside the first character cannot be cut off. -/
lemma lastBytes_cutText {n k : ℕ} (hn : n + 1 = k) :
    lastBytes (Fleet.cutText n) k = .error .panic := by
  have hlength : byteLength (Fleet.cutText n) = n + 2 := by
    rw [byteLength, Fleet.cutText, String.toList_ofList, List.map_cons, List.map_replicate,
      List.sum_cons, List.sum_replicate]
    change 2 + n * 1 = n + 2
    omega
  have hdrop : dropBytes (n + 2 - k) (Fleet.cutText n).toList = none := by
    have hone : n + 2 - k = 1 := by omega
    rw [hone, Fleet.cutText, String.toList_ofList]
    rfl
  unfold lastBytes
  rw [hlength, if_neg (by omega), hdrop]

set_option maxRecDepth 100000 in
/-- The tail of what an agent prints, the detail of a chat error and a search panic. -/
theorem not_truncates_straddling :
    let := asciiTables
    outerr ⟨1, Fleet.cutText 499, ""⟩ = .error .panic ∧
      chatDetail ⟨1, "", Fleet.cutText 799⟩ = .error .panic ∧
      panics (((Board.new Schema.default (fun _ _ => 0) fun _ => true).after
        straddlingRun).searchItems "€" none 10) = true := by
  refine ⟨Fleet.outerr_cutText 499 1 rfl, ?_, by decide +kernel⟩
  have hstreams : bothStreams ⟨1, "", Fleet.cutText 799⟩ = Fleet.cutText 799 := by
    have hblank : isBlank "" = true := rfl
    unfold bothStreams
    dsimp only
    rw [hblank, if_pos rfl, Fleet.trim_cutText]
  rw [chatDetail_eq, hstreams]
  exact lastBytes_cutText rfl

end Sandboard

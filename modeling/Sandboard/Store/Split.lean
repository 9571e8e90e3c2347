import Sandboard.Store.AgentVerbs

/-!
# Proposing a split

An agent whose work is bigger than its card proposes sibling Tasks.  The children must share
a word with the theme of the card and its Project; the proposal is parked on the card in
Review until a human approves it.
-/

namespace Sandboard

open Text

namespace Board

variable [UnicodeTables]

/-! ## Relatedness -/

/-- Words that carry no theme. -/
def stopWords : List String :=
  ["a", "an", "the", "and", "or", "but", "if", "because", "as", "until", "while", "of",
    "at", "by", "for", "with", "about", "against", "between", "into", "through", "during",
    "before", "after", "above", "below", "to", "from", "up", "down", "in", "out", "on",
    "off", "over", "under", "again", "further", "then", "once", "here", "there", "when",
    "where", "why", "how", "all", "any", "both", "each", "few", "more", "most", "other",
    "some", "such", "no", "nor", "not", "only", "own", "same", "so", "than", "too", "very",
    "s", "t", "can", "will", "just", "don", "should", "now", "is", "are", "was", "were",
    "be", "been", "being", "have", "has", "had", "do", "does", "did", "doing", "would",
    "could", "this", "that", "these", "those", "i", "you", "he", "she", "it", "we", "they",
    "me", "him", "her", "us", "them", "my", "your", "his", "their", "our", "its"]

/-- The theme words of a text: lower case, at least two bytes, no stop word. -/
def tokenizeText (text : String) : List String :=
  (split (fun c => !UnicodeTables.isAlphanumeric c) (UnicodeTables.toLowercase text)).filter
    fun t => decide (t.utf8ByteSize ≥ 2) && !stopWords.contains t

/-- The characters that fill exactly the first `n` bytes; none when `n` is inside one. -/
def takeBytes : List Char → ℕ → Option (List Char)
  | _, 0 => some []
  | [], _ + 1 => none
  | c :: cs, n + 1 =>
    if c.utf8Size ≤ n + 1 then (takeBytes cs (n + 1 - c.utf8Size)).map (c :: ·) else none

/-- Two tokens are equal, one continues the other, or they share their first four bytes. -/
def isTokenRelated (childToken themeToken : String) : Bool :=
  let minLen := min childToken.utf8ByteSize themeToken.utf8ByteSize
  childToken == themeToken ||
    (decide (minLen ≥ 3) &&
      (startsWith themeToken childToken || startsWith childToken themeToken ||
        (decide (minLen ≥ 4) &&
          match takeBytes childToken.toList 4, takeBytes themeToken.toList 4 with
          | some a, some b => a == b
          | _, _ => false)))

/-- Some word of the child is related to the theme; an empty theme relates to everything. -/
def childIsRelated (childTokens themeTokens : List String) : Bool :=
  themeTokens.isEmpty || childTokens.any fun c => themeTokens.any fun t => isTokenRelated c t

/-- The text whose words are the theme of a card. -/
def themeText (card project : WorkItem) : String :=
  let text := s!"{project.title} {project.intent} {card.title} {card.intent}"
  match card.definitionOfDone with
  | some dod => s!"{text} {dod}"
  | none => text

/-- Every child of a split relates to its card or Project. -/
def checkSplitRelatedness (card project : WorkItem) (children : List SplitChildSpec) :
    Except String Unit :=
  let themeTokens := tokenizeText (themeText card project)
  children.forM fun child =>
    let childTokens :=
      tokenizeText s!"{child.title} {child.intent} {child.definitionOfDone}"
    if childIsRelated childTokens themeTokens then .ok ()
    else .error s!"split child '{child.title}' does not relate to parent card or project theme"

/-! ## The verb -/

/-- Fan-out limits of a split. -/
def checkSplitSize (count maxChildren : ℕ) : Except String Unit :=
  if count < 2 then
    .error "a split needs at least two siblings; use report if the work is one card"
  else if count > maxChildren then
    .error (s!"split of {count} siblings exceeds max_children_per_split={maxChildren}; " ++
      "escalating rather than fanning out")
  else .ok ()

/-- The proposal rows of the children: of children with one title, only the first counts, and
a child without a key gets its place as key. -/
def splitSpecs (children : List SplitChildSpec) : List PlanTaskSpec :=
  (children.zipIdx.foldl step ([], [])).2.reverse
where
  /-- Add a row unless its title is blank or already seen. -/
  step (acc : List String × List PlanTaskSpec) (child : SplitChildSpec × ℕ) :
      List String × List PlanTaskSpec :=
    let (child, idx) := child
    let titleKey := normalizeTitle child.title
    if titleKey.isEmpty || acc.1.contains titleKey then acc
    else
      (titleKey :: acc.1,
        { key := ((child.key.map trim).filter fun k => !k.isEmpty).getD s!"s{idx + 1}"
          title := child.title
          intent := child.intent
          definitionOfDone := child.definitionOfDone
          blockedByKeys := child.blockedByKeys
          capability := none
          repo := child.repo
          itemId := none } :: acc.2)

/-- The refusal of a split on a card that already has a pull request. -/
def splitAfterPrMessage (id : ItemId) (prUrl : String) : String :=
  s!"cannot propose split on card #{id}: a PR already exists ({prUrl}); split and publish are " ++
    "mutually exclusive"

/-- The options of the escalation that goes with that refusal. -/
def splitAfterPrOptions : List EscalationOption :=
  [⟨"Finish card via report", "Complete the card with the existing PR using report."⟩,
   ⟨"Close PR and retry split",
    "Close or abandon the existing PR before splitting the card."⟩]

/-- Validate the children and park them on the card as a proposal in Review. -/
def proposeSplit (id : ItemId) (agentId : String) (children : List SplitChildSpec)
    (maxChildren : ℕ) : Method String WorkItem := do
  let card ← getOr id "no such item"
  Locked.failIf card.isInitialPlanTask
    ("Initial plan cannot use split.json; finish with plan.json (Review); Approve " ++
      "materializes sibling Tasks")
  match card.prUrl with
  | some prUrl =>
    let msg := splitAfterPrMessage id prUrl
    let _ ← (escalate id agentId msg splitAfterPrOptions 0).attempt
    Locked.fail msg
  | none =>
    Locked.ret (checkSplitSize children.length maxChildren)
    match card.parent with
    | none =>
      Locked.fail "cannot split a Project; only Tasks under a Project can split into siblings"
    | some projectId =>
      let project ← getOr projectId "project not found"
      let nested ← read fun s => (s.items[projectId]?.bind WorkItem.parent).isSome
      Locked.failIf nested "split target is not under a Project root"
      Locked.ret (checkSplitRelatedness card project children)
      let specs := splitSpecs children
      Locked.failIf (specs.length < 2)
        ("a split needs at least two distinct sibling titles; use report if the " ++
          "work is one card")
      let _ ← setProposal id ⟨s!"Split of «{card.title}»", specs⟩
      let item ← transitionOrMessage id .review agentId
        "proposed sibling Tasks — awaiting Approve"
      let titles := String.intercalate ", " (specs.map PlanTaskSpec.title)
      story projectId (s!"{card.title} proposed {specs.length} sibling Tasks — Approve to " ++
        s!"create them: {titles}.")
      return item

end Board

end Sandboard

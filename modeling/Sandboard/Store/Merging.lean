import Sandboard.Store.Approving
import Sandboard.Store.Refusals

/-!
# Merged pull requests

What the delivery of a merge does to the cards that list the pull request, and when a second
delivery finds nothing left to do.  The delivery is recorded on one card, the first live one that
lists the pull request.
-/

namespace Sandboard

open Std Text BoardState

/-! ## The first card -/

namespace BoardState.WellFormed

variable {s : BoardState}

/-- The cards are listed by their ids. -/
lemma cards_sorted (hs : s.WellFormed) : s.cards.Pairwise fun i j => i.id < j.id := by
  refine List.pairwise_map.2 ((ExtTreeMap.ordered_keys_toList (t := s.items)).imp_of_mem ?_)
  intro e e' he he' hlt
  rw [hs.key _ _ (ExtTreeMap.mem_toList_iff_getElem?_eq_some.1 he),
    hs.key _ _ (ExtTreeMap.mem_toList_iff_getElem?_eq_some.1 he')]
  exact Nat.compare_eq_lt.1 hlt

/-- The first card of a kind is the one with the least id. -/
lemma find_eq_some_iff (hs : s.WellFormed) {P : WorkItem → Bool} {k : ItemId} :
    (s.cards.find? P).map WorkItem.id = some k ↔
      (∃ c, s.items[k]? = some c ∧ P c = true) ∧
        ∀ (j : ItemId) (d : WorkItem), s.items[j]? = some d → P d = true → k ≤ j := by
  have hleast : ∀ c : WorkItem, s.cards.find? P = some c →
      s.items[c.id]? = some c ∧ P c = true ∧
        ∀ (j : ItemId) (d : WorkItem), s.items[j]? = some d → P d = true → c.id ≤ j := by
    intro c hfind
    obtain ⟨hP, before, after, hsplit, hbefore⟩ := List.find?_eq_some_iff_append.1 hfind
    refine ⟨hs.mem_cards_iff.1 (List.mem_of_find?_eq_some hfind), hP, fun j d hd hPd => ?_⟩
    have hmem : d ∈ s.cards := mem_cards.2 ⟨j, hd⟩
    rw [← hs.key j d hd]
    have hsorted := hs.cards_sorted
    rw [hsplit] at hmem hsorted
    rcases List.mem_append.1 hmem with hfirst | hrest
    · have := hbefore d hfirst
      rw [hPd] at this
      cases this
    · rcases List.mem_cons.1 hrest with rfl | hafter
      · exact le_rfl
      · exact ((List.pairwise_cons.1 (List.pairwise_append.1 hsorted).2.1).1 d hafter).le
  constructor
  · intro h
    obtain ⟨c, hfind, rfl⟩ := Option.map_eq_some_iff.1 h
    obtain ⟨hc, hP, hmin⟩ := hleast c hfind
    exact ⟨⟨c, hc, hP⟩, hmin⟩
  · rintro ⟨⟨c, hc, hP⟩, hmin⟩
    cases hfind : s.cards.find? P with
    | none => exact absurd hP (List.find?_eq_none.1 hfind c (mem_cards.2 ⟨k, hc⟩))
    | some d =>
      obtain ⟨hd, hPd, hmind⟩ := hleast d hfind
      rw [Option.map_some, Option.some.injEq]
      exact Nat.le_antisymm (hmind k c hc hP) (hmin d.id d hd hPd)

lemma find_eq_none_iff (hs : s.WellFormed) {P : WorkItem → Bool} :
    (s.cards.find? P).map WorkItem.id = none ↔
      ∀ (j : ItemId) (d : WorkItem), s.items[j]? = some d → P d = false := by
  rw [Option.map_eq_none_iff, List.find?_eq_none]
  constructor
  · intro h j d hd
    exact Bool.eq_false_iff.2 (h d (mem_cards.2 ⟨j, hd⟩))
  · intro h c hc
    rw [h c.id c (hs.mem_cards_iff.1 hc)]
    exact Bool.false_ne_true

/-- The first card depends only on which cards are of the kind. -/
lemma find_congr (hs : s.WellFormed) {s' : BoardState} (hs' : s'.WellFormed)
    {P P' : WorkItem → Bool} (h : ∀ k : ItemId, s.items[k]?.any P = s'.items[k]?.any P') :
    (s.cards.find? P).map WorkItem.id = (s'.cards.find? P').map WorkItem.id := by
  have hiff : ∀ k : ItemId, (∃ c, s.items[k]? = some c ∧ P c = true) ↔
      ∃ c, s'.items[k]? = some c ∧ P' c = true := by
    intro k
    rw [← Option.any_eq_true, ← Option.any_eq_true, h]
  have hleast : ∀ k : ItemId,
      (∀ (j : ItemId) (d : WorkItem), s.items[j]? = some d → P d = true → k ≤ j) ↔
        ∀ (j : ItemId) (d : WorkItem), s'.items[j]? = some d → P' d = true → k ≤ j := by
    intro k
    constructor
    · intro hk j d hd hPd
      obtain ⟨c, hc, hPc⟩ := (hiff j).2 ⟨d, hd, hPd⟩
      exact hk j c hc hPc
    · intro hk j d hd hPd
      obtain ⟨c, hc, hPc⟩ := (hiff j).1 ⟨d, hd, hPd⟩
      exact hk j c hc hPc
  refine Option.ext fun k => ?_
  rw [hs.find_eq_some_iff, hs'.find_eq_some_iff, hiff k, hleast k]

end BoardState.WellFormed

/-- The event tells a line of a story. -/
def BoardEvent.isStory : BoardEvent → Bool
  | .story _ _ _ _ => true
  | _ => false

/-- The merge finishes the card: it is in Review or waits for a human, and all its pull requests
are merged then. -/
structure WorkItem.FinishedBy (needle : String) (c : WorkItem) : Prop where
  lane : c.state = .review ∨ c.state = .needsHuman
  merged : (c.withPrMerged needle).allPullRequestsMerged = true

section Unicode

variable [UnicodeTables]

/-- A live card that lists the pull request: the merge may be recorded on it. -/
def WorkItem.takesMerge (needle : String) (c : WorkItem) : Bool :=
  !c.state.isTerminal && c.listsPr needle

/-- The card that a merge is recorded on. -/
def BoardState.mergeTarget (s : BoardState) (needle : String) : Option ItemId :=
  if needle.isEmpty then none else Board.liveCardOfPr needle s

/-- A delivery of the merge has nothing left to do: it is marked on its card, all pull requests of
the card are merged, and the card does not wait for that in Review. -/
def BoardState.Settled (s : BoardState) (needle : String) : Prop :=
  ∀ (id : ItemId) (c : WorkItem), s.mergeTarget needle = some id → s.items[id]? = some c →
    c.withPrMerged needle = c ∧ c.allPullRequestsMerged = true ∧ ¬c.FinishedBy needle

/-- The card `k` once the card `id` is Done: the rows of its proposal may write edges. -/
def BoardState.linkedOnDone (s : BoardState) (id : ItemId) (c : WorkItem) (k : ItemId)
    (i : WorkItem) : WorkItem :=
  match c.proposal.filter (fun p => p.tasks.any fun t => t.itemId.isNone), c.parent with
  | some p, some projectId =>
    Board.relinked (Board.rowKeys p.tasks
      (Board.plannedIds (Board.existingByTitle projectId id s) s.nextId p.tasks)) p.tasks k i
  | _, _ => i

namespace Board

variable {b : Board} {id : ItemId} {c : WorkItem} {url : String}

/-- The merge is recorded on the card. -/
def marked (b : Board) (id : ItemId) (needle : String) (c : WorkItem) : Board :=
  (b.stepped (b.state.editItem id (WorkItem.withPrMerged needle))).emitted (c.withPrMerged needle)

omit [UnicodeTables] in
lemma mergeTarget_item (hs : b.state.WellFormed) {needle : String}
    (h : b.state.mergeTarget needle = some id) : needle.isEmpty = false ∧ ∃ c,
      b.state.items[id]? = some c ∧ c.state.isTerminal = false ∧ c.listsPr needle = true := by
  unfold BoardState.mergeTarget at h
  split at h
  · cases h
  · rename_i hneedle
    obtain ⟨⟨c, hc, hP⟩, -⟩ := hs.find_eq_some_iff.1 h
    rw [Bool.and_eq_true, Bool.not_eq_true'] at hP
    exact ⟨Bool.eq_false_iff.2 hneedle, c, hc, hP.1, hP.2⟩

/-- A merge without a live card changes nothing. -/
lemma run_completeForMergedPr_none {ε : Type} (prNumber : Option ℕ) (byWhom : String)
    (h : b.state.mergeTarget (normalizePrUrl url) = none) :
    ((completeForMergedPr url prNumber byWhom : Method ε _).run b).2 = b := by
  unfold completeForMergedPr
  unfold BoardState.mergeTarget at h
  dsimp only
  split
  · rfl
  · rename_i hneedle
    rw [if_neg hneedle] at h
    have hread : (read (liveCardOfPr (normalizePrUrl url)) : Method ε _).run b = (.ok none, b) := by
      rw [run_read, h]
    rw [Locked.run_bind_ok hread]
    rfl

/-- A merge is marked on its card.  When other pull requests are open this is told; when the card
is in Review it is taken to Done. -/
lemma run_completeForMergedPr_some {ε : Type} (hs : b.state.WellFormed) (prNumber : Option ℕ)
    (byWhom : String) (h : b.state.mergeTarget (normalizePrUrl url) = some id)
    (hc : b.state.items[id]? = some c) :
    let b₁ := b.marked id (normalizePrUrl url) c
    let b' := ((completeForMergedPr url prNumber byWhom : Method ε _).run b).2
    ((c.withPrMerged (normalizePrUrl url)).allPullRequestsMerged = false ∧
        ∃ text, b' = b₁.told id text) ∨
      ((c.withPrMerged (normalizePrUrl url)).allPullRequestsMerged = true ∧
        ¬(c.state = .review ∨ c.state = .needsHuman) ∧ b' = b₁) ∨
      (c.FinishedBy (normalizePrUrl url) ∧ SameCards
        ((transition id .done (actorOr "github-webhook" byWhom)
          (some (prReason "PR merged" prNumber))).run b₁).2.state b'.state) := by
  intro b₁ b'
  obtain ⟨hneedle, -⟩ := mergeTarget_item hs h
  unfold BoardState.mergeTarget at h
  rw [if_neg (by simp [hneedle])] at h
  have hread : (read (liveCardOfPr (normalizePrUrl url)) : Method ε _).run b =
      (.ok (some id), b) := by rw [run_read, h]
  unfold b' completeForMergedPr
  dsimp only
  rw [if_neg (by simp [hneedle]), Locked.run_bind_ok hread]
  dsimp only
  rw [Locked.run_bind_ok (Locked.run_attempt _ b), run_editOr_some hc]
  dsimp only
  cases hmerged : (c.withPrMerged (normalizePrUrl url)).allPullRequestsMerged with
  | false =>
    refine Or.inl ⟨rfl, ?_⟩
    rw [if_pos (by simp), Locked.run_bind_ok (run_get id _),
      Locked.run_bind_ok (run_story _ _ _)]
    exact ⟨_, rfl⟩
  | true =>
    rw [if_neg (by simp)]
    by_cases hlane : c.state = .review ∨ c.state = .needsHuman
    · have hstate : ¬((c.withPrMerged (normalizePrUrl url)).state ≠ .review ∧
          (c.withPrMerged (normalizePrUrl url)).state ≠ .needsHuman) :=
        fun h => not_or.2 h hlane
      refine Or.inr (Or.inr ⟨⟨hlane, hmerged⟩, ?_⟩)
      rw [if_neg hstate, Locked.run_bind_ok (Locked.run_attempt _ _)]
      split
      · rw [Locked.run_bind_ok (run_story _ _ _)]
        exact .told _ _ _
      · exact .refl _
    · have hstate : (c.withPrMerged (normalizePrUrl url)).state ≠ .review ∧
          (c.withPrMerged (normalizePrUrl url)).state ≠ .needsHuman := not_or.1 hlane
      refine Or.inr (Or.inl ⟨rfl, hlane, ?_⟩)
      rw [if_pos hstate]
      rfl

/-! ## The cards afterwards -/

/-- Without rows that wait no edges are written. -/
lemma linkedOnDone_of_idle {s : BoardState} (h : ∀ p projectId, ¬c.Awaits p projectId) (k : ItemId)
    (i : WorkItem) : s.linkedOnDone id c k i = i := by
  unfold BoardState.linkedOnDone
  split
  · rename_i p projectId hp hparent
    obtain ⟨hproposal, hwaits⟩ := Option.filter_eq_some_iff.1 hp
    refine absurd ⟨hproposal, hparent, ?_⟩ (h p projectId)
    simpa using hwaits
  · rfl

/-- The rows that wait write the edges. -/
lemma linkedOnDone_of_awaits {s : BoardState} {p : TaskProposal} {projectId : ItemId}
    (h : c.Awaits p projectId) (k : ItemId) (i : WorkItem) :
    s.linkedOnDone id c k i = relinked (rowKeys p.tasks
      (plannedIds (existingByTitle projectId id s) s.nextId p.tasks)) p.tasks k i := by
  obtain ⟨t, ht, hnone⟩ := h.unstamped
  have hp : c.proposal.filter (fun p => p.tasks.any fun t => t.itemId.isNone) = some p := by
    rw [h.proposal, Option.filter_some, if_pos]
    exact List.any_eq_true.2 ⟨t, ht, by simp [hnone]⟩
  unfold BoardState.linkedOnDone
  rw [hp, h.parent]

/-- Edges change neither the state nor the pull requests of a card. -/
lemma linkedOnDone_eq (s : BoardState) (id : ItemId) (c : WorkItem) (k : ItemId) (i : WorkItem) :
    ∃ blockers, s.linkedOnDone id c k i = i.blockedOn blockers := by
  unfold BoardState.linkedOnDone
  split
  · exact relinked_eq _ _ _ _
  · exact ⟨i.blockedBy, rfl⟩

/-- The board after a merge finished the card `id`. -/
structure Finished (id : ItemId) (c : WorkItem) (s s' : BoardState) : Prop where
  done : s'.items[id]?.map WorkItem.state = some .done
  others : ∀ (k : ItemId) (i : WorkItem), k ≠ id → s.items[k]? = some i →
    s'.items[k]? = some (s.linkedOnDone id c k i)
  born : ∀ (k : ItemId) (i : WorkItem), s.items[k]? = none → s'.items[k]? = some i →
    i.pullRequests = []

/-- A card in Review whose pull requests are all merged is taken to Done. -/
lemma finished_of_merge (hs : b.state.Sound) (hn : b.state.Nested)
    (hc : b.state.items[id]? = some c) {needle : String} (hfinished : c.FinishedBy needle)
    {s' : BoardState} (byWhom : String) (reason : Option String)
    (hsame : SameCards ((transition id .done byWhom reason).run (b.marked id needle c)).2.state s') :
    Finished id c b.state s' := by
  let s₁ := b.state.editItem id (WorkItem.withPrMerged needle)
  let c₁ := c.withPrMerged needle
  let b₁ := b.marked id needle c
  have hmarked : ∀ i : WorkItem, WorkItem.SameTask i (i.withPrMerged needle) :=
    fun _ => ⟨rfl, Or.inl rfl, fun h => h⟩
  have hc₁ : b₁.state.items[id]? = some c₁ := by
    change s₁.items[id]? = some c₁
    rw [items_editItem_self, hc, Option.map_some]
  have hs₁ : b₁.state.Sound := hs.reshaped (.edit id fun i => (hmarked i).sameFrame)
  have hn₁ : b₁.state.Nested := hn.of_place (place_editItem fun _ => ⟨rfl, rfl⟩)
  have hcheck : b₁.state.checkMove id c₁ .done = .ok () := by
    refine (checkMove_free_iff (by decide) (by decide)).2 ?_
    change allowed c.state .done = true
    rcases hfinished.lane with hstate | hstate <;> rw [hstate] <;> decide
  let c₀ := c₁.moved (b₁.now 0) .done byWhom reason
  let s₀ := s₁.moveItem id c₁ (b₁.now 0) .done byWhom reason
  have hworked : Worked Licence.free id b.state c s₀ c₀ :=
    .move (.edit (.refl _ _) hmarked) _ byWhom reason hcheck trivial
  obtain ⟨item, b', hrun, ⟨hidle, hsame'⟩ | ⟨p, projectId, ids, s₃, hawaits, hmade, hsame'⟩⟩ :=
    run_transition_done hs₁ hn₁ hc₁ hcheck byWhom reason
  · rw [hrun] at hsame
    have hitems : s'.items = s₀.items := (hsame'.trans hsame).items
    refine ⟨?_, fun k i hk hi => ?_, fun k i hk hi => ?_⟩
    · rw [hitems, hworked.item hc]
      rfl
    · rw [hitems, hworked.others hk, hi, linkedOnDone_of_idle]
      exact fun p projectId h => hidle p projectId ⟨h.proposal, h.parent, h.unstamped⟩
    · have hne : k ≠ id := by
        rintro rfl
        rw [hc] at hk
        cases hk
      rw [hitems, hworked.others hne, hk] at hi
      cases hi
  · rw [hrun] at hsame
    have hitems : s'.items = s₃.items := (hsame'.trans hsame).items
    obtain ⟨s₂, hplanted, rfl⟩ := hmade
    have hs₀ : s₀.WellFormed := hs.wellFormed.reshaped (hworked.reshaped hc)
    have hids : ids = plannedIds (existingByTitle projectId id s₀) s₀.nextId p.tasks :=
      hplanted.ids_eq
    rw [existingByTitle_worked hs.wellFormed hc hworked, nextId_worked hworked] at hids
    have hitem := items_materialized c₀.isInitialPlanTask (rowKeys p.tasks ids) p.tasks s₂ id
    refine ⟨?_, fun k i hk hi => ?_, fun k i hk hi => ?_⟩
    · obtain ⟨blockers, proposal, heq⟩ := materialized_eq c₀.isInitialPlanTask
        (rowKeys p.tasks ids) p.tasks id id c₀
      rw [hitems, hitem, hplanted.kept hs₀ (hworked.item hc), Option.map_some, heq]
      rfl
    · have hold : s₂.items[k]? = some i :=
        hplanted.kept hs₀ ((hworked.others hk).trans hi)
      have hc : c.Awaits p projectId := ⟨hawaits.proposal, hawaits.parent, hawaits.unstamped⟩
      rw [hitems, hitem, hold, Option.map_some, materialized, if_neg hk,
        linkedOnDone_of_awaits hc, ← hids]
    · have hne : k ≠ id := by
        rintro rfl
        rw [hc] at hk
        cases hk
      rw [hitems, hitem] at hi
      obtain ⟨j, hj, rfl⟩ := Option.map_eq_some_iff.1 hi
      obtain ⟨blockers, proposal, heq⟩ := materialized_eq c₀.isInitialPlanTask
        (rowKeys p.tasks ids) p.tasks id k j
      rw [heq]
      rcases hplanted.born hj with hold | ⟨spec, schema, t, -, -, rfl⟩
      · have hnone : s₀.items[k]? = none := (hworked.others hne).trans hk
        cases hnone.symm.trans hold
      · rfl

/-! ## A second delivery -/

/-- What the boards connected to `b` see of `b'`: the same cards and stories, and no new line. -/
structure Undisturbed (b b' : Board) : Prop where
  state : b'.state = b.state
  stories : b'.tx.filter BoardEvent.isStory = b.tx.filter BoardEvent.isStory

/-- A delivery finds nothing left to do. -/
lemma undisturbed_iff (hs : b.state.Sound) (hn : b.state.Nested) (prNumber : Option ℕ)
    (byWhom : String) :
    Undisturbed b (b.exec (.completeForMergedPr url prNumber byWhom)) ↔
      b.state.Settled (normalizePrUrl url) := by
  unfold BoardState.Settled
  have hmethod : (Operation.completeForMergedPr url prNumber byWhom).method =
      Operation.silent (ε := Empty) (completeForMergedPr url prNumber byWhom) := rfl
  rw [exec_eq hmethod]
  cases htarget : b.state.mergeTarget (normalizePrUrl url) with
  | none =>
    rw [run_completeForMergedPr_none prNumber byWhom htarget]
    exact ⟨fun _ id c h => (nomatch h), fun _ => ⟨rfl, rfl⟩⟩
  | some id =>
    obtain ⟨-, c, hc, -⟩ := mergeTarget_item hs.wellFormed htarget
    have hall : (∀ (k : ItemId) (d : WorkItem), some id = some k → b.state.items[k]? = some d →
        d.withPrMerged (normalizePrUrl url) = d ∧ d.allPullRequestsMerged = true ∧
          ¬d.FinishedBy (normalizePrUrl url)) ↔
        c.withPrMerged (normalizePrUrl url) = c ∧ c.allPullRequestsMerged = true ∧
          ¬c.FinishedBy (normalizePrUrl url) := by
      constructor
      · intro h
        exact h id c rfl hc
      · rintro h k d hk hd
        cases hk
        cases hc.symm.trans hd
        exact h
    rw [hall]
    rcases run_completeForMergedPr_some (ε := Empty) hs.wellFormed prNumber byWhom htarget hc with
      ⟨hopen, text, hrun⟩ | ⟨hmerged, hlane, hrun⟩ | ⟨hfinished, hsame⟩
    · rw [hrun]
      constructor
      · intro h
        have := h.stories
        simp [told, marked, emitted, stepped, BoardEvent.isStory] at this
      · rintro ⟨hmark, hmerged, -⟩
        rw [hmark, hmerged] at hopen
        cases hopen
    · rw [hrun]
      have hmark : (b.marked id (normalizePrUrl url) c).state = b.state ↔
          c.withPrMerged (normalizePrUrl url) = c := editItem_eq_iff hc
      constructor
      · intro h
        have heq := hmark.1 h.state
        rw [heq] at hmerged
        exact ⟨heq, hmerged, fun h => hlane h.lane⟩
      · rintro ⟨heq, -, -⟩
        refine ⟨hmark.2 heq, ?_⟩
        simp [marked, emitted, stepped, BoardEvent.isStory]
    · constructor
      · intro h
        have hdone := (finished_of_merge hs hn hc hfinished _ _ hsame).done
        rw [h.state, hc, Option.map_some, Option.some.injEq] at hdone
        rcases hfinished.lane with hlane | hlane <;> rw [hdone] at hlane <;> cases hlane
      · rintro ⟨-, -, hnot⟩
        exact absurd hfinished hnot

end Board

/-! ## Merge completion -/

/-- The delivery of a merge did its work on every card: a card that it finishes is Done, every
other card that lists the pull request has it marked and keeps its state, and no other card
changed. -/
structure MergeDelivered (needle : String) (s s' : BoardState) : Prop where
  done : ∀ (k : ItemId) (c : WorkItem), s.items[k]? = some c → c.listsPr needle = true →
    c.FinishedBy needle → s'.items[k]?.map WorkItem.state = some .done
  marked : ∀ (k : ItemId) (c : WorkItem), s.items[k]? = some c → c.listsPr needle = true →
    ¬c.FinishedBy needle → ∃ c', s'.items[k]? = some c' ∧ c'.state = c.state ∧
      c'.pullRequests = (c.withPrMerged needle).pullRequests
  others : ∀ (k : ItemId) (c : WorkItem), s.items[k]? = some c → c.listsPr needle = false →
    s'.items[k]? = some c

/-- The card that a merge is recorded on once the card `id` is Done. -/
def BoardState.nextMergeTarget (s : BoardState) (id : ItemId) (needle : String) : Option ItemId :=
  (s.cards.find? fun c => c.id != id && c.takesMerge needle).map WorkItem.id

/-- The one card that the code picks is enough.  Every other card that lists the pull request has
it marked already and is not waiting for it in Review; all pull requests of the picked card are
merged then; and when the picked card is taken to Done, the rows of its proposal write no edges
between other cards, and all pull requests of the card that is picked next are merged. -/
structure BoardState.MergeFits (s : BoardState) (needle : String) : Prop where
  others : ∀ (k : ItemId) (c : WorkItem), s.mergeTarget needle ≠ some k →
    s.items[k]? = some c → c.listsPr needle = true →
      c.withPrMerged needle = c ∧ ¬c.FinishedBy needle
  merged : ∀ (id : ItemId) (c : WorkItem), s.mergeTarget needle = some id →
    s.items[id]? = some c → (c.withPrMerged needle).allPullRequestsMerged = true
  linked : ∀ (id : ItemId) (c : WorkItem), s.mergeTarget needle = some id →
    s.items[id]? = some c → c.FinishedBy needle → ∀ (k : ItemId) (i : WorkItem), k ≠ id →
      s.items[k]? = some i → i.listsPr needle = false → s.linkedOnDone id c k i = i
  next : ∀ (id : ItemId) (c : WorkItem), s.mergeTarget needle = some id →
    s.items[id]? = some c → c.FinishedBy needle → ∀ (k : ItemId) (i : WorkItem),
      s.nextMergeTarget id needle = some k → s.items[k]? = some i →
        i.allPullRequestsMerged = true

namespace WorkItem

variable {needle : String} {c : WorkItem}

omit [UnicodeTables]

/-- Marking keeps which pull requests a card lists. -/
@[simp] lemma listsPr_withPrMerged (needle' : String) :
    (c.withPrMerged needle).listsPr needle' = c.listsPr needle' := by
  have hurl : ∀ p : PullRequest,
      (if p.hasUrl needle then { p with merged := true } else p).hasUrl needle' =
        p.hasUrl needle' := by
    intro p
    split <;> rfl
  simp only [listsPr, withPrMerged, List.any_map, Function.comp_def, hurl]

/-- A merge is marked once. -/
@[simp] lemma withPrMerged_idem :
    (c.withPrMerged needle).withPrMerged needle = c.withPrMerged needle := by
  have hurl : ∀ p : PullRequest,
      (if (if p.hasUrl needle then { p with merged := true } else p).hasUrl needle then
        { (if p.hasUrl needle then { p with merged := true } else p) with merged := true }
        else (if p.hasUrl needle then { p with merged := true } else p)) =
        if p.hasUrl needle then { p with merged := true } else p := by
    intro p
    cases h : p.hasUrl needle with
    | false => simp [h]
    | true =>
      have hmerged : PullRequest.hasUrl needle { p with merged := true } = true := h
      simp [hmerged]
  simp only [withPrMerged, List.map_map, Function.comp_def, hurl]

/-- Only the pull requests say whether a merge is marked. -/
lemma withPrMerged_eq_iff :
    c.withPrMerged needle = c ↔ c.pullRequests = (c.withPrMerged needle).pullRequests := by
  constructor
  · intro h
    rw [h]
  · intro h
    change { c with pullRequests := (c.withPrMerged needle).pullRequests } = c
    rw [← h]

@[simp] lemma takesMerge_withPrMerged (needle' : String) :
    (c.withPrMerged needle).takesMerge needle' = c.takesMerge needle' := by
  rw [takesMerge, takesMerge, listsPr_withPrMerged]
  rfl

/-- A card that changed neither its state nor its pull requests needed no work. -/
lemma idle_of_delivered {s s' : BoardState} (h : MergeDelivered needle s s') {k : ItemId}
    (hc : s.items[k]? = some c) (hlists : c.listsPr needle = true) {c' : WorkItem}
    (hc' : s'.items[k]? = some c') (hstate : c'.state = c.state)
    (hprs : c'.pullRequests = c.pullRequests) :
    c.withPrMerged needle = c ∧ ¬c.FinishedBy needle := by
  have hnot : ¬c.FinishedBy needle := by
    intro hfinished
    have hdone := h.done k c hc hlists hfinished
    rw [hc', Option.map_some, Option.some.injEq, hstate] at hdone
    rcases hfinished.lane with hlane | hlane <;> rw [hdone] at hlane <;> cases hlane
  obtain ⟨d, hd, -, hmarked⟩ := h.marked k c hc hlists hnot
  cases hc'.symm.trans hd
  rw [hprs] at hmarked
  exact ⟨withPrMerged_eq_iff.2 hmarked, hnot⟩

end WorkItem

namespace Board

variable {b : Board} {id : ItemId} {c : WorkItem} {needle : String}

omit [UnicodeTables] in
/-- Where the merge finishes no card, every other card that lists the pull request has to be
settled already. -/
lemma delivered_of_unfinished {s s' : BoardState}
    (htarget : ∀ id, s.mergeTarget needle = some id → ∃ c, s.items[id]? = some c ∧
      c.listsPr needle = true ∧ ¬c.FinishedBy needle ∧
        s'.items[id]? = some (c.withPrMerged needle))
    (hothers : ∀ k : ItemId, s.mergeTarget needle ≠ some k → s'.items[k]? = s.items[k]?) :
    MergeDelivered needle s s' ↔ ∀ (k : ItemId) (c : WorkItem), s.mergeTarget needle ≠ some k →
      s.items[k]? = some c → c.listsPr needle = true →
        c.withPrMerged needle = c ∧ ¬c.FinishedBy needle := by
  constructor
  · intro h k c hk hc hlists
    exact WorkItem.idle_of_delivered h hc hlists ((hothers k hk).trans hc) rfl rfl
  · intro h
    refine ⟨fun k c hc hlists hfinished => ?_, fun k c hc hlists hnot => ?_,
      fun k c hc hlists => ?_⟩
    · by_cases hk : s.mergeTarget needle = some k
      · obtain ⟨d, hd, -, hnot, -⟩ := htarget k hk
        cases hc.symm.trans hd
        exact absurd hfinished hnot
      · exact absurd hfinished (h k c hk hc hlists).2
    · by_cases hk : s.mergeTarget needle = some k
      · obtain ⟨d, hd, -, -, hmarked⟩ := htarget k hk
        cases hc.symm.trans hd
        exact ⟨_, hmarked, rfl, rfl⟩
      · exact ⟨c, (hothers k hk).trans hc, rfl,
          WorkItem.withPrMerged_eq_iff.1 (h k c hk hc hlists).1⟩
    · by_cases hk : s.mergeTarget needle = some k
      · obtain ⟨d, hd, hlists', -, -⟩ := htarget k hk
        cases hc.symm.trans hd
        rw [hlists] at hlists'
        cases hlists'
      · exact (hothers k hk).trans hc

/-- Where the merge finishes its card, the rows of the card must not write edges either. -/
lemma delivered_of_finished {s s' : BoardState} (htarget : s.mergeTarget needle = some id)
    (hc : s.items[id]? = some c) (hlisted : c.listsPr needle = true)
    (hfinishedBy : c.FinishedBy needle) (h : Finished id c s s') :
    MergeDelivered needle s s' ↔
      (∀ (k : ItemId) (d : WorkItem), s.mergeTarget needle ≠ some k → s.items[k]? = some d →
        d.listsPr needle = true → d.withPrMerged needle = d ∧ ¬d.FinishedBy needle) ∧
      ∀ (k : ItemId) (i : WorkItem), k ≠ id → s.items[k]? = some i → i.listsPr needle = false →
        s.linkedOnDone id c k i = i := by
  have hne : ∀ k : ItemId, s.mergeTarget needle ≠ some k → k ≠ id := by
    rintro k hk rfl
    exact hk htarget
  constructor
  · intro hdelivered
    refine ⟨fun k d hk hd hlists => ?_, fun k i hk hi hlists => ?_⟩
    · obtain ⟨blockers, heq⟩ := linkedOnDone_eq s id c k d
      have hd' := h.others k d (hne k hk) hd
      rw [heq] at hd'
      exact WorkItem.idle_of_delivered hdelivered hd hlists hd' rfl rfl
    · exact Option.some.inj ((h.others k i hk hi).symm.trans (hdelivered.others k i hi hlists))
  · rintro ⟨hothers, hlinked⟩
    refine ⟨fun k d hd hlists hfinished => ?_, fun k d hd hlists hnot => ?_,
      fun k d hd hlists => ?_⟩
    · by_cases hk : s.mergeTarget needle = some k
      · cases htarget.symm.trans hk
        exact h.done
      · exact absurd hfinished (hothers k d hk hd hlists).2
    · by_cases hk : s.mergeTarget needle = some k
      · cases htarget.symm.trans hk
        cases hc.symm.trans hd
        exact absurd hfinishedBy hnot
      · obtain ⟨blockers, heq⟩ := linkedOnDone_eq s id c k d
        refine ⟨_, h.others k d (hne k hk) hd, ?_, ?_⟩
        · rw [heq]
          rfl
        · have hmarked : d.pullRequests = (d.withPrMerged needle).pullRequests :=
            WorkItem.withPrMerged_eq_iff.1 (hothers k d hk hd hlists).1
          rw [heq]
          exact hmarked
    · have hk : k ≠ id := by
        rintro rfl
        cases hc.symm.trans hd
        rw [hlists] at hlisted
        cases hlisted
      rw [h.others k d hk hd, hlinked k d hk hd hlists]

/-- Where the merge is recorded after it took the card `id` to Done. -/
lemma mergeTarget_of_finished {s s' : BoardState} (hs : s.WellFormed) (hs' : s'.WellFormed)
    (h : Finished id c s s') (hc : s.items[id]? = some c) :
    s'.mergeTarget needle = if needle.isEmpty then none else s.nextMergeTarget id needle := by
  unfold BoardState.mergeTarget
  split
  · rfl
  · refine (hs.find_congr hs' fun k => ?_).symm
    by_cases hk : k = id
    · subst hk
      obtain ⟨d, hd, hdone⟩ := Option.map_eq_some_iff.1 h.done
      rw [hc, hd, Option.any_some, Option.any_some, hs.key _ _ hc]
      simp [hdone, State.isTerminal]
    · cases hi : s.items[k]? with
      | none =>
        cases hi' : s'.items[k]? with
        | none => rfl
        | some i =>
          rw [Option.any_none, Option.any_some, WorkItem.listsPr, h.born k i hi hi']
          simp
      | some i =>
        obtain ⟨blockers, heq⟩ := linkedOnDone_eq s id c k i
        rw [h.others k i hk hi, heq, Option.any_some, Option.any_some, hs.key _ _ hi]
        have hne : (k != id) = true := bne_iff_ne.2 hk
        rw [hne, Bool.true_and]
        rfl

omit [UnicodeTables] in
/-- Where the merge is recorded after it was marked. -/
lemma mergeTarget_of_marked {s s' : BoardState} (hs : s.WellFormed) (hs' : s'.WellFormed)
    (h : s'.items = (s.editItem id (WorkItem.withPrMerged needle)).items) :
    s'.mergeTarget needle = s.mergeTarget needle := by
  unfold BoardState.mergeTarget
  split
  · rfl
  · refine (hs.find_congr hs' fun k => ?_).symm
    rw [h, items_editItem]
    split
    · rename_i hk
      rw [hk]
      cases s.items[id]? with
      | none => rfl
      | some i => exact (WorkItem.takesMerge_withPrMerged needle).symm
    · rfl

/-- Without a card to record the merge on. -/
lemma mergeFits_of_none {s : BoardState} (htarget : s.mergeTarget needle = none) :
    MergeDelivered needle s s ∧ s.Settled needle ↔ s.MergeFits needle := by
  rw [delivered_of_unfinished (by simp [htarget]) fun _ _ => rfl]
  constructor
  · rintro ⟨hothers, -⟩
    exact ⟨hothers, by simp [htarget], by simp [htarget], by simp [htarget]⟩
  · intro h
    refine ⟨h.others, fun id c hid => ?_⟩
    rw [htarget] at hid
    cases hid

/-- The merge is marked on a card that it does not finish. -/
lemma mergeFits_of_unfinished {s s' : BoardState} (hs : s.WellFormed) (hs' : s'.WellFormed)
    (htarget : s.mergeTarget needle = some id) (hc : s.items[id]? = some c)
    (hlists : c.listsPr needle = true) (hnot : ¬c.FinishedBy needle)
    (h : s'.items = (s.editItem id (WorkItem.withPrMerged needle)).items) :
    MergeDelivered needle s s' ∧ s'.Settled needle ↔ s.MergeFits needle := by
  have hitem : s'.items[id]? = some (c.withPrMerged needle) := by
    rw [h, items_editItem_self, hc, Option.map_some]
  have hothers : ∀ k : ItemId, s.mergeTarget needle ≠ some k → s'.items[k]? = s.items[k]? := by
    intro k hk
    have hne : k ≠ id := by
      rintro rfl
      exact hk htarget
    rw [h, items_editItem_of_ne hne]
  have htarget' : s'.mergeTarget needle = some id :=
    (mergeTarget_of_marked hs hs' h).trans htarget
  rw [delivered_of_unfinished ?_ hothers]
  · constructor
    · rintro ⟨hidle, hsettled⟩
      refine ⟨hidle, fun k d hk hd => ?_, fun k d hk hd hfinished => ?_,
        fun k d hk hd hfinished => ?_⟩ <;> cases htarget.symm.trans hk <;> cases hc.symm.trans hd
      · exact (hsettled id _ htarget' hitem).2.1
      · exact absurd hfinished hnot
      · exact absurd hfinished hnot
    · intro hfits
      refine ⟨hfits.others, fun k d hk hd => ?_⟩
      cases htarget'.symm.trans hk
      cases hitem.symm.trans hd
      refine ⟨WorkItem.withPrMerged_idem, hfits.merged id c htarget hc, fun hfinished => ?_⟩
      exact hnot ⟨hfinished.lane, hfits.merged id c htarget hc⟩
  · intro k hk
    cases htarget.symm.trans hk
    exact ⟨c, hc, hlists, hnot, hitem⟩

/-- The merge finishes the card that it is recorded on. -/
lemma mergeFits_of_finished {s s' : BoardState} (hs : s.WellFormed) (hs' : s'.WellFormed)
    (htarget : s.mergeTarget needle = some id) (hneedle : needle.isEmpty = false)
    (hc : s.items[id]? = some c) (hlists : c.listsPr needle = true)
    (hfinished : c.FinishedBy needle) (h : Finished id c s s') :
    MergeDelivered needle s s' ∧ s'.Settled needle ↔ s.MergeFits needle := by
  have htarget' : s'.mergeTarget needle = s.nextMergeTarget id needle := by
    rw [mergeTarget_of_finished hs hs' h hc, hneedle, if_neg Bool.false_ne_true]
  -- the card that is picked next has changed its blockers at most
  have hnext : ∀ k : ItemId, s.nextMergeTarget id needle = some k → k ≠ id ∧
      ∃ i blockers, s.items[k]? = some i ∧ i.listsPr needle = true ∧
        s'.items[k]? = some (i.blockedOn blockers) := by
    intro k hk
    obtain ⟨⟨i, hi, hP⟩, -⟩ := hs.find_eq_some_iff.1 hk
    rw [Bool.and_eq_true, hs.key k i hi, bne_iff_ne] at hP
    obtain ⟨blockers, heq⟩ := linkedOnDone_eq s id c k i
    have hi' := h.others k i hP.1 hi
    rw [heq] at hi'
    exact ⟨hP.1, i, blockers, hi, (Bool.and_eq_true_iff.1 hP.2).2, hi'⟩
  rw [delivered_of_finished htarget hc hlists hfinished h]
  constructor
  · rintro ⟨⟨hidle, hlinked⟩, hsettled⟩
    refine ⟨hidle, fun k d hk hd => ?_, fun k d hk hd _ => ?_, fun k d hk hd _ j i hj hi => ?_⟩ <;>
      cases htarget.symm.trans hk <;> cases hc.symm.trans hd
    · exact hfinished.merged
    · exact hlinked
    · obtain ⟨-, i', blockers, hi', -, hi''⟩ := hnext j hj
      cases hi.symm.trans hi'
      exact (hsettled j _ (htarget'.trans hj) hi'').2.1
  · intro hfits
    refine ⟨⟨hfits.others, hfits.linked id c htarget hc hfinished⟩, fun k d hk hd => ?_⟩
    rw [htarget'] at hk
    obtain ⟨hne, i, blockers, hi, hlisted, hi'⟩ := hnext k hk
    cases hd.symm.trans hi'
    have htargetNe : s.mergeTarget needle ≠ some k := by
      rw [htarget]
      exact fun heq => hne (Option.some.inj heq).symm
    obtain ⟨hmark, hnot⟩ := hfits.others k i htargetNe hi hlisted
    refine ⟨?_, hfits.next id c htarget hc hfinished k i hk hi, fun hfin => ?_⟩
    · change (i.withPrMerged needle).blockedOn blockers = i.blockedOn blockers
      rw [hmark]
    · exact hnot ⟨hfin.lane, hfin.merged⟩

/-- Whichever card the merge is recorded on. -/
lemma mergeFits_iff (hs : b.state.Sound) (hn : b.state.Nested) {url : String}
    (prNumber : Option ℕ) (byWhom : String) {s' : BoardState} (hs' : s'.WellFormed)
    (hrun : s' = ((completeForMergedPr url prNumber byWhom : Method Empty _).run b).2.state) :
    MergeDelivered (normalizePrUrl url) b.state s' ∧ s'.Settled (normalizePrUrl url) ↔
      b.state.MergeFits (normalizePrUrl url) := by
  cases htarget : b.state.mergeTarget (normalizePrUrl url) with
  | none =>
    rw [run_completeForMergedPr_none prNumber byWhom htarget] at hrun
    rw [hrun]
    exact mergeFits_of_none htarget
  | some id =>
    obtain ⟨hneedle, c, hc, -, hlists⟩ := mergeTarget_item hs.wellFormed htarget
    rcases run_completeForMergedPr_some (ε := Empty) hs.wellFormed prNumber byWhom htarget hc with
      ⟨hopen, text, hmarked⟩ | ⟨-, hlane, hmarked⟩ | ⟨hfinished, hsame⟩
    · rw [hmarked] at hrun
      refine mergeFits_of_unfinished hs.wellFormed hs' htarget hc hlists (fun hfinished => ?_) ?_
      · rw [hfinished.merged] at hopen
        cases hopen
      · rw [hrun]
        rfl
    · rw [hmarked] at hrun
      refine mergeFits_of_unfinished hs.wellFormed hs' htarget hc hlists (fun h => hlane h.lane) ?_
      rw [hrun]
      rfl
    · rw [← hrun] at hsame
      exact mergeFits_of_finished hs.wellFormed hs' htarget hneedle hc hlists hfinished
        (finished_of_merge hs hn hc hfinished _ _ hsame)

lemma merge_completed (hs : b.state.Sound) (hn : b.state.Nested) (url : String)
    (prNumber prNumber' : Option ℕ) (byWhom byWhom' : String) :
    (MergeDelivered (normalizePrUrl url) b.state
        (b.exec (.completeForMergedPr url prNumber byWhom)).state ∧
      Undisturbed (b.exec (.completeForMergedPr url prNumber byWhom))
        ((b.exec (.completeForMergedPr url prNumber byWhom)).exec
          (.completeForMergedPr url prNumber' byWhom'))) ↔
      b.state.MergeFits (normalizePrUrl url) := by
  have hs' := hs.reshaped (reshaped_exec b (.completeForMergedPr url prNumber byWhom))
  have hn' := nested_exec hs hn (.completeForMergedPr url prNumber byWhom)
  have hmethod : (Operation.completeForMergedPr url prNumber byWhom).method =
      Operation.silent (ε := Empty) (completeForMergedPr url prNumber byWhom) := rfl
  rw [undisturbed_iff hs' hn']
  exact mergeFits_iff hs hn prNumber byWhom hs'.wellFormed (exec_state hmethod b)

/-- For every reachable board and every merged pull request, delivered twice: the first delivery
does its work on every card and the second one disturbs nothing exactly when the one card that the
code picks is enough. -/
theorem merge_completed_iff (schema : Schema) (clock : ℕ → ℕ → Time) (saveSucceeds : ℕ → Bool)
    (before : List Operation) (url : String) (prNumber prNumber' : Option ℕ)
    (byWhom byWhom' : String) :
    let b := (Board.new schema clock saveSucceeds).after before
    let b' := b.exec (.completeForMergedPr url prNumber byWhom)
    (MergeDelivered (normalizePrUrl url) b.state b'.state ∧
        Undisturbed b' (b'.exec (.completeForMergedPr url prNumber' byWhom'))) ↔
      b.state.MergeFits (normalizePrUrl url) :=
  merge_completed ((sound_new _ _ _).reshaped (reshaped_after _ before))
    (nested_after (sound_new _ _ _) Nested.empty before) url prNumber prNumber' byWhom byWhom'

end Board

end Unicode

namespace Board

/-- Two Initial plans in Review list the same pull request. -/
def shared : List Operation :=
  [.create ⟨none, "Docs", "", none, .human, false, none⟩,
    .transition 2 .done "human" none, .transition 2 .review "human" none,
    .reportPullRequest 2 ⟨"https://github.com/a/b/pull/1", none, none, false, none⟩,
    .create ⟨none, "Site", "", none, .human, false, none⟩,
    .transition 4 .done "human" none, .transition 4 .review "human" none,
    .reportPullRequest 4 ⟨"https://github.com/a/b/pull/1", none, none, false, none⟩]

set_option maxRecDepth 100000 in
/-- The merge finishes the second card too, and the card stays in Review. -/
lemma shared_stranded :
    let := asciiTables
    let url := "https://github.com/a/b/pull/1"
    let b := (Board.new Schema.default (fun _ _ => 0) fun _ => true).after shared
    let b' := b.exec (.completeForMergedPr url (some 1) "github-webhook")
    (b.state.items[4]?.map fun c => (c.listsPr (normalizePrUrl url), c.state,
        (c.withPrMerged (normalizePrUrl url)).allPullRequestsMerged)) =
          some (true, .review, true) ∧
      b'.state.items[4]?.map WorkItem.state = some .review := by
  decide

/-- A card that the merge finishes and that is not Done afterwards. -/
lemma not_delivered {s s' : BoardState} {needle : String} {id : ItemId}
    (hbefore : (s.items[id]?.map fun c => (c.listsPr needle, c.state,
      (c.withPrMerged needle).allPullRequestsMerged)) = some (true, .review, true))
    (hafter : s'.items[id]?.map WorkItem.state = some .review) :
    ¬MergeDelivered needle s s' := by
  intro h
  obtain ⟨c, hc, hfacts⟩ := Option.map_eq_some_iff.1 hbefore
  simp only [Prod.mk.injEq] at hfacts
  obtain ⟨hlists, hreview, hmerged⟩ := hfacts
  have hdone := h.done id c hc hlists ⟨Or.inl hreview, hmerged⟩
  rw [hafter] at hdone
  cases hdone

/-- Two cards in Review list the merged pull request, and the delivery takes one of them to
Done. -/
theorem shared_undelivered :
    let := asciiTables
    let url := "https://github.com/a/b/pull/1"
    let b := (Board.new Schema.default (fun _ _ => 0) fun _ => true).after shared
    ¬MergeDelivered (normalizePrUrl url) b.state
      (b.exec (.completeForMergedPr url (some 1) "github-webhook")).state :=
  not_delivered shared_stranded.1 shared_stranded.2

end Board

end Sandboard

import Sandboard.Library.Pages
import Sandboard.Library.Run
import Sandboard.Store.Runs

/-!
# Polling reviews

A poll tick reads the reviews of a pull request from GitHub, of which it gets one page, and hands
the new ones that ask for work to the board.  What is new is told by a cursor: the highest id of
the last answer.

A missing pull request and an empty answer are answers without reviews, so they take the cursor back
to zero; and what is behind the first page is never read.  `pollKept_iff` says for which runs no
review is handed over twice, too early or not at all.
-/

namespace Sandboard

open Std Text

/-! ## The answers of GitHub -/

structure ReviewInfo where
  id : ℕ
  state : String
  deriving DecidableEq

structure PrTarget where
  ownerRepo : String
  number : ℕ
  deriving DecidableEq

/-- An answer to the request for the reviews of a pull request. -/
structure ReviewsResponse where
  status : ℕ
  text : String
  json : Except String (List ReviewInfo)

/-- The reviews in the answer.  A missing pull request has none. -/
def fetchReviews (resp : Except String ReviewsResponse) : Except String (List ReviewInfo) :=
  match resp with
  | .error e => .error s!"GET reviews: {e}"
  | .ok resp =>
    if resp.status = 404 then .ok []
    else if ¬(200 ≤ resp.status ∧ resp.status ≤ 299) then
      .error s!"GET reviews HTTP {resp.status}: {String.ofList (resp.text.toList.take 200)}"
    else
      match resp.json with
      | .error e => .error s!"GET reviews json: {e}"
      | .ok reviews => .ok reviews

/-! ## The cursors -/

/-- The key of the cursor of a pull request. -/
def webhookPollPrReviewKey (pr : PrTarget) : String := s!"{trim pr.ownerRepo}#{pr.number}"

/-- The cursor of the pull request is written. -/
def savesCursor (pr : PrTarget) : Bool :=
  !((webhookPollPrReviewKey pr).toList.head? == some '#' || (trim pr.ownerRepo).isEmpty)

/-- The board with the cursors of the pull requests. -/
structure Poller where
  board : Board
  webhookPollPrReviews : ExtTreeMap String ℕ

namespace Poller

/-- The highest review that was observed. -/
def cursor (p : Poller) (pr : PrTarget) : Option ℕ :=
  p.webhookPollPrReviews[webhookPollPrReviewKey pr]?

def setCursor (p : Poller) (pr : PrTarget) (reviewId : ℕ) : Poller :=
  if savesCursor pr then
    { p with webhookPollPrReviews :=
        p.webhookPollPrReviews.insert (webhookPollPrReviewKey pr) reviewId }
  else p

lemma cursor_setCursor (p : Poller) (pr other : PrTarget) (reviewId : ℕ) :
    (p.setCursor other reviewId).cursor pr =
      if savesCursor other = true ∧ webhookPollPrReviewKey other = webhookPollPrReviewKey pr then
        some reviewId
      else p.cursor pr := by
  unfold setCursor cursor
  by_cases hsaves : savesCursor other = true
  · rw [if_pos hsaves, ExtTreeMap.getElem?_insert]
    simp only [LawfulEqCmp.compare_eq_iff_eq, hsaves, true_and]
  · rw [if_neg hsaves, if_neg fun h => hsaves h.1]

end Poller

section Unicode

variable [UnicodeTables]

/-! ## A tick -/

/-- The reviews above the cursor, by their ids. -/
def newReviews (cursor : ℕ) (reviews : List ReviewInfo) : List ReviewInfo :=
  (reviews.filter fun r => cursor < r.id).mergeSort fun r r' => r.id ≤ r'.id

/-- The call that hands a review to the board. -/
def feedbackOf (pr : PrTarget) (review : ReviewInfo) : Operation :=
  .applyPrReviewFeedback s!"https://github.com/{pr.ownerRepo}/pull/{pr.number}" (some pr.number)
    review.state "github-poll"

/-- Hand newly submitted reviews to the board; the first observation sets the cursor only. -/
def applyNewReviews (pr : PrTarget) (reviews : List ReviewInfo) (p : Poller) : Poller :=
  let maxId := (reviews.map ReviewInfo.id).max?.getD 0
  let prev := p.cursor pr
  -- the cursor goes to the tip of the answer, also where that is empty
  let p := p.setCursor pr maxId
  match prev with
  | none => p
  | some cursor =>
    { p with board := (newReviews cursor reviews).foldl (fun b review =>
        if !Board.isActionablePrReviewState review.state then b
        else b.exec (feedbackOf pr review)) p.board }

/-- The reviews that a tick hands to the board. -/
def appliedReviews (prev : Option ℕ) (reviews : List ReviewInfo) : List ReviewInfo :=
  match prev with
  | none => []
  | some cursor =>
    (newReviews cursor reviews).filter fun r => Board.isActionablePrReviewState r.state

omit [UnicodeTables] in
lemma mem_newReviews {cursor : ℕ} {reviews : List ReviewInfo} {r : ReviewInfo} :
    r ∈ newReviews cursor reviews ↔ r ∈ reviews ∧ cursor < r.id := by
  unfold newReviews
  rw [List.mem_mergeSort, List.mem_filter, decide_eq_true_iff]

omit [UnicodeTables] in
lemma mem_appliedReviews {cursor : ℕ} {reviews : List ReviewInfo} {r : ReviewInfo} :
    r ∈ appliedReviews (some cursor) reviews ↔
      (r ∈ reviews ∧ cursor < r.id) ∧ Board.isActionablePrReviewState r.state = true := by
  unfold appliedReviews
  rw [List.mem_filter, mem_newReviews]

omit [UnicodeTables] in
/-- Of reviews with different ids none is handed over twice. -/
lemma nodup_appliedReviews {reviews : List ReviewInfo} (h : (reviews.map ReviewInfo.id).Nodup)
    (prev : Option ℕ) : ((appliedReviews prev reviews).map ReviewInfo.id).Nodup := by
  cases prev with
  | none => exact List.nodup_nil
  | some cursor =>
    have hsorted : ((newReviews cursor reviews).map ReviewInfo.id).Nodup := by
      have hperm := (List.mergeSort_perm (reviews.filter fun r => cursor < r.id)
        fun r r' => r.id ≤ r'.id).map ReviewInfo.id
      refine hperm.nodup_iff.2 (h.sublist ?_)
      exact List.filter_sublist.map ReviewInfo.id
    exact hsorted.sublist (List.filter_sublist.map ReviewInfo.id)

/-- The board is called with the reviews that are handed over, and with no other. -/
lemma board_applyNewReviews (pr : PrTarget) (reviews : List ReviewInfo) (p : Poller) :
    (applyNewReviews pr reviews p).board =
      p.board.after ((appliedReviews (p.cursor pr) reviews).map (feedbackOf pr)) := by
  have hboard : ∀ id, (p.setCursor pr id).board = p.board := by
    intro id
    unfold Poller.setCursor
    split
    · rfl
    · rfl
  unfold applyNewReviews appliedReviews
  dsimp only
  cases p.cursor pr with
  | none => exact hboard _
  | some cursor =>
    dsimp only
    rw [hboard]
    generalize p.board = b
    induction newReviews cursor reviews generalizing b with
    | nil => rfl
    | cons review rest ih =>
      rw [List.foldl_cons, ih, List.filter_cons]
      cases Board.isActionablePrReviewState review.state with
      | true =>
        rw [if_neg (by decide), if_pos rfl, List.map_cons, Board.after_cons]
      | false => rw [if_pos (by decide), if_neg Bool.false_ne_true]

/-- The cursor goes to the highest id of the answer. -/
lemma cursor_applyNewReviews (pr other : PrTarget) (reviews : List ReviewInfo) (p : Poller) :
    (applyNewReviews other reviews p).cursor pr =
      if savesCursor other = true ∧ webhookPollPrReviewKey other = webhookPollPrReviewKey pr then
        some (Pages.top ReviewInfo.id reviews)
      else p.cursor pr := by
  rw [← Poller.cursor_setCursor]
  unfold applyNewReviews Pages.top
  dsimp only
  generalize p.setCursor other _ = q
  cases p.cursor other with
  | none => rfl
  | some cursor => rfl

/-! ## Runs -/

/-- What happens over time: a review is submitted on GitHub, a tick polls the pull request or
another one, or the board is operated on. -/
inductive PollEvent where
  | submitted (review : ReviewInfo)
  | polled (resp : Except String ReviewsResponse)
  | polledOther (other : PrTarget) (resp : Except String ReviewsResponse)
  | operation (op : Operation)

/-- The poller and the reviews that GitHub has, with the ids of those that it had at the first
observation and of those that were handed to the board. -/
structure PollRun where
  poller : Poller
  reviews : List ReviewInfo
  seeded : Option (List ℕ)
  applied : List ℕ

/-- One event in a run over the pull request. -/
def pollStep (pr : PrTarget) (σ : PollRun) : PollEvent → PollRun
  | .submitted review => { σ with reviews := σ.reviews ++ [review] }
  | .polled resp =>
    match fetchReviews resp with
    | .error _ => σ
    | .ok reviews =>
      { poller := applyNewReviews pr reviews σ.poller
        reviews := σ.reviews
        seeded := σ.seeded.or (some (σ.reviews.map ReviewInfo.id))
        applied := σ.applied ++
          (appliedReviews (σ.poller.cursor pr) reviews).map ReviewInfo.id }
  | .polledOther other resp =>
    match fetchReviews resp with
    | .error _ => σ
    | .ok reviews =>
      if webhookPollPrReviewKey other = webhookPollPrReviewKey pr then σ
      else { σ with poller := applyNewReviews other reviews σ.poller }
  | .operation op => { σ with poller := { σ.poller with board := σ.poller.board.exec op } }

/-- No review and no cursor yet. -/
def PollRun.new (b : Board) : PollRun := ⟨⟨b, ∅⟩, [], none, []⟩

/-- The reviews only grow, and GitHub serves the first page of them, or for a while nothing. -/
def ServesPages (perPage : ℕ) (σ : PollRun) : PollEvent → Prop
  | .submitted review => 0 < review.id ∧ ∀ r ∈ σ.reviews, r.id < review.id
  | .polled resp => ∀ reviews, fetchReviews resp = .ok reviews →
      reviews = [] ∨ reviews = σ.reviews.take perPage
  | _ => True

/-- The step keeps the cursor in order: it does not go back, no review is handed over twice, none
that was there at the first observation is, and once the page was read every review since then that
asks for work is. -/
structure PollKept (perPage : ℕ) (pr : PrTarget) (σ : PollRun) (ev : PollEvent) : Prop where
  cursor : ∀ c, σ.poller.cursor pr = some c →
    ∃ c', (pollStep pr σ ev).poller.cursor pr = some c' ∧ c ≤ c'
  once : (pollStep pr σ ev).applied.Nodup
  unseeded : ∀ old, (pollStep pr σ ev).seeded = some old →
    ∀ id ∈ (pollStep pr σ ev).applied, id ∉ old
  reached : ∀ resp, ev = .polled resp → fetchReviews resp = .ok (σ.reviews.take perPage) →
    ∀ old, (pollStep pr σ ev).seeded = some old → ∀ r ∈ σ.reviews,
      Board.isActionablePrReviewState r.state = true → r.id ∉ old →
        r.id ∈ (pollStep pr σ ev).applied

/-- An answer without reviews finds the cursor at zero or not yet written, no review of the first
page that asks for work and was there at the first observation is above the cursor, and every one
since then is on the first page, of a pull request whose cursor is written. -/
structure PollsWell (perPage : ℕ) (pr : PrTarget) (σ : PollRun) (ev : PollEvent) : Prop where
  empty : ∀ resp c, ev = .polled resp → fetchReviews resp = .ok [] →
    σ.poller.cursor pr = some c → c = 0
  old : ∀ resp c old, ev = .polled resp → fetchReviews resp = .ok (σ.reviews.take perPage) →
    σ.poller.cursor pr = some c → σ.seeded = some old → ∀ r ∈ σ.reviews.take perPage,
      Board.isActionablePrReviewState r.state = true → r.id ∈ old → r.id ≤ c
  page : ∀ resp old, ev = .polled resp → fetchReviews resp = .ok (σ.reviews.take perPage) →
    σ.seeded = some old → ∀ r ∈ σ.reviews, Board.isActionablePrReviewState r.state = true →
      r.id ∉ old → r ∈ σ.reviews.take perPage ∧ savesCursor pr = true

/-- What a run keeps: the cursor is zero or that of a review on the first page, and the reviews up
to it that ask for work were handed over or are old. -/
structure Polled (perPage : ℕ) (pr : PrTarget) (σ : PollRun) : Prop where
  rising : Pages.Rising ReviewInfo.id σ.reviews
  unseen : σ.seeded = none → σ.poller.cursor pr = none ∧ σ.applied = []
  unsaved : savesCursor pr = false → σ.poller.cursor pr = none ∧ σ.applied = []
  observed : savesCursor pr = true → σ.seeded ≠ none → σ.poller.cursor pr ≠ none
  known : ∀ old, σ.seeded = some old → ∀ id ∈ old, ∃ r ∈ σ.reviews, r.id = id
  tip : ∀ c, σ.poller.cursor pr = some c →
    c = 0 ∨ ∃ r ∈ σ.reviews.take perPage, r.id = c
  below : ∀ c, σ.poller.cursor pr = some c → ∀ id ∈ σ.applied, id ≤ c
  covered : ∀ c old, σ.poller.cursor pr = some c → σ.seeded = some old → ∀ r ∈ σ.reviews,
    Board.isActionablePrReviewState r.state = true → r.id ≤ c → r.id ∈ σ.applied ∨ r.id ∈ old
  once : σ.applied.Nodup
  unseeded : ∀ old, σ.seeded = some old → ∀ id ∈ σ.applied, id ∉ old

namespace Polled

variable {perPage : ℕ} {pr : PrTarget} {σ : PollRun} {ev : PollEvent}

omit [UnicodeTables] in
lemma new (b : Board) : Polled perPage pr (.new b) where
  rising := .nil
  unseen _ := ⟨ExtTreeMap.getElem?_empty, rfl⟩
  unsaved _ := ⟨ExtTreeMap.getElem?_empty, rfl⟩
  observed _ h := absurd rfl h
  known old h := by cases h
  tip c h := by
    rw [show (PollRun.new b).poller.cursor pr = none from ExtTreeMap.getElem?_empty] at h
    cases h
  below _ _ id hid := absurd hid List.not_mem_nil
  covered c old _ h := by cases h
  once := List.nodup_nil
  unseeded old h := by cases h

omit [UnicodeTables] in
/-- An event that leaves cursor, reviews and records alone. -/
lemma of_same (h : Polled perPage pr σ) {σ' : PollRun}
    (hcursor : σ'.poller.cursor pr = σ.poller.cursor pr) (hreviews : σ'.reviews = σ.reviews)
    (hseeded : σ'.seeded = σ.seeded) (happlied : σ'.applied = σ.applied) :
    Polled perPage pr σ' where
  rising := hreviews ▸ h.rising
  unseen := by rw [hseeded, hcursor, happlied]; exact h.unseen
  unsaved := by rw [hcursor, happlied]; exact h.unsaved
  observed := by rw [hseeded, hcursor]; exact h.observed
  known := by rw [hseeded, hreviews]; exact h.known
  tip := by rw [hcursor, hreviews]; exact h.tip
  below := by rw [hcursor, happlied]; exact h.below
  covered := by rw [hcursor, hseeded, hreviews, happlied]; exact h.covered
  once := happlied ▸ h.once
  unseeded := by rw [hseeded, happlied]; exact h.unseeded

omit [UnicodeTables] in
/-- A review is submitted. -/
lemma submitted (h : Polled perPage pr σ) {review : ReviewInfo} (hpos : 0 < review.id)
    (hlast : ∀ r ∈ σ.reviews, r.id < review.id) :
    Polled perPage pr { σ with reviews := σ.reviews ++ [review] } where
  rising := h.rising.concat hpos hlast
  unseen := h.unseen
  unsaved := h.unsaved
  observed := h.observed
  known old hold id hid := by
    obtain ⟨r, hr, heq⟩ := h.known old hold id hid
    exact ⟨r, List.mem_append_left _ hr, heq⟩
  tip c hc := by
    refine (h.tip c hc).imp_right ?_
    rintro ⟨r, hr, heq⟩
    refine ⟨r, ?_, heq⟩
    rw [List.take_append]
    exact List.mem_append_left _ hr
  below := h.below
  covered c old hc hold r hr hactionable hle := by
    rcases List.mem_append.1 hr with hr | hr
    · exact h.covered c old hc hold r hr hactionable hle
    · rw [List.mem_singleton.1 hr] at hle
      rcases h.tip c hc with hzero | ⟨q, hq, heq⟩
      · rw [hzero] at hle
        exact absurd hpos (Nat.not_lt.2 hle)
      · rw [← heq] at hle
        exact absurd (hlast q (List.mem_of_mem_take hq)) (Nat.not_lt.2 hle)
  once := h.once
  unseeded := h.unseeded

omit [UnicodeTables] in
/-- The ids above the cursor are new ones. -/
lemma once_append (h : Polled perPage pr σ) {c : ℕ} (hc : σ.poller.cursor pr = some c) :
    (σ.applied ++
      (appliedReviews (some c) (σ.reviews.take perPage)).map ReviewInfo.id).Nodup := by
  have hids : ((σ.reviews.take perPage).map ReviewInfo.id).Nodup :=
    h.rising.nodup_marks.sublist ((List.take_sublist perPage σ.reviews).map ReviewInfo.id)
  refine List.nodup_append.2 ⟨h.once, nodup_appliedReviews hids _, fun id hid id' hid' heq => ?_⟩
  obtain ⟨r, hr, hrid⟩ := List.mem_map.1 hid'
  have hlt := (mem_appliedReviews.1 hr).1.2
  rw [hrid, ← heq] at hlt
  exact absurd hlt (Nat.not_lt.2 (h.below c hc id hid))

omit [UnicodeTables] in
/-- A review that was handed over, or is now, is on the page. -/
lemma mem_page (h : Polled perPage pr σ) {c : ℕ} (hc : σ.poller.cursor pr = some c)
    {r : ReviewInfo} (hr : r ∈ σ.reviews) (hid : r.id ∈ σ.applied ++
      (appliedReviews (some c) (σ.reviews.take perPage)).map ReviewInfo.id) :
    r ∈ σ.reviews.take perPage := by
  rcases List.mem_append.1 hid with hid | hid
  · have hle := h.below c hc r.id hid
    rcases h.tip c hc with hzero | ⟨q, hq, heq⟩
    · rw [hzero] at hle
      exact absurd (h.rising.pos r hr) (Nat.not_lt.2 hle)
    · exact h.rising.mem_take_of_le hr hq (heq ▸ hle)
  · obtain ⟨q, hq, heq⟩ := List.mem_map.1 hid
    have hpage := (mem_appliedReviews.1 hq).1.1
    rw [← h.rising.eq_of_mark (List.mem_of_mem_take hpage) hr heq]
    exact hpage

/-- The first page is read with a cursor. -/
lemma read_page (h : Polled perPage pr σ) {c : ℕ} (hc : σ.poller.cursor pr = some c)
    {resp : Except String ReviewsResponse}
    (hfetch : fetchReviews resp = .ok (σ.reviews.take perPage)) :
    (PollsWell perPage pr σ (.polled resp) → Polled perPage pr (pollStep pr σ (.polled resp))) ∧
      (PollKept perPage pr σ (.polled resp) ↔ PollsWell perPage pr σ (.polled resp)) := by
  have hsaves : savesCursor pr = true := by
    by_contra hnot
    rw [(h.unsaved (Bool.eq_false_iff.2 hnot)).1] at hc
    cases hc
  obtain ⟨old, hold⟩ : ∃ old, σ.seeded = some old := by
    refine Option.ne_none_iff_exists'.1 fun hnone => ?_
    rw [(h.unseen hnone).1] at hc
    cases hc
  have hstep : pollStep pr σ (.polled resp) =
      { poller := applyNewReviews pr (σ.reviews.take perPage) σ.poller
        reviews := σ.reviews
        seeded := some old
        applied := σ.applied ++
          (appliedReviews (some c) (σ.reviews.take perPage)).map ReviewInfo.id } := by
    rw [pollStep, hfetch, hc, hold]
    rfl
  have hcursor : (applyNewReviews pr (σ.reviews.take perPage) σ.poller).cursor pr =
      some (Pages.top ReviewInfo.id (σ.reviews.take perPage)) := by
    rw [cursor_applyNewReviews, if_pos ⟨hsaves, rfl⟩]
  have htop : c ≤ Pages.top ReviewInfo.id (σ.reviews.take perPage) := by
    rcases h.tip c hc with hzero | ⟨q, hq, heq⟩
    · rw [hzero]
      exact Nat.zero_le _
    · rw [← heq]
      exact Pages.mark_le_top hq
  -- a review of the page above the cursor is handed over
  have hhanded : ∀ r ∈ σ.reviews.take perPage, Board.isActionablePrReviewState r.state = true →
      c < r.id → r.id ∈ σ.applied ++
        (appliedReviews (some c) (σ.reviews.take perPage)).map ReviewInfo.id :=
    fun r hr hactionable hlt => List.mem_append_right _
      (List.mem_map_of_mem (mem_appliedReviews.2 ⟨⟨hr, hlt⟩, hactionable⟩))
  have hunseeded : PollsWell perPage pr σ (.polled resp) → ∀ id ∈ σ.applied ++
      (appliedReviews (some c) (σ.reviews.take perPage)).map ReviewInfo.id, id ∉ old := by
    intro hwell id hid hmem
    rcases List.mem_append.1 hid with hid | hid
    · exact h.unseeded old hold id hid hmem
    · obtain ⟨r, hr, rfl⟩ := List.mem_map.1 hid
      obtain ⟨⟨hpage, hlt⟩, hactionable⟩ := mem_appliedReviews.1 hr
      have hle := hwell.old resp c old rfl hfetch hc hold r hpage hactionable hmem
      exact absurd hlt (Nat.not_lt.2 hle)
  refine ⟨fun hwell => ?_, fun hkept => ⟨?_, ?_, ?_⟩, fun hwell => ⟨?_, ?_, ?_, ?_⟩⟩
  · rw [hstep]
    refine ⟨h.rising, nofun, fun hnot => ?_, fun _ _ hnone => ?_, ?_, fun c' hc' => ?_,
      fun c' hc' id hid => ?_, fun c' old' hc' hold' r hr hactionable hle => ?_,
      h.once_append hc, fun old' hold' => ?_⟩
    · rw [hsaves] at hnot
      cases hnot
    · rw [hcursor] at hnone
      cases hnone
    · exact fun old' hold' => h.known old' (hold.trans hold')
    · rw [hcursor, Option.some.injEq] at hc'
      rw [← hc']
      exact Pages.top_eq_zero_or _ _
    · rw [hcursor, Option.some.injEq] at hc'
      rw [← hc']
      rcases List.mem_append.1 hid with hid | hid
      · exact (h.below c hc id hid).trans htop
      · obtain ⟨r, hr, rfl⟩ := List.mem_map.1 hid
        exact Pages.mark_le_top (mem_appliedReviews.1 hr).1.1
    · rw [hcursor, Option.some.injEq] at hc'
      rw [← hc'] at hle
      by_cases hlow : r.id ≤ c
      · refine (h.covered c old hc hold r hr hactionable hlow).imp ?_ ?_
        · exact fun hid => List.mem_append_left _ hid
        · exact fun hid => Option.some.inj hold' ▸ hid
      · refine Or.inl (hhanded r ?_ hactionable (Nat.not_le.1 hlow))
        rcases Pages.top_eq_zero_or ReviewInfo.id (σ.reviews.take perPage) with hzero | ⟨q, hq, heq⟩
        · rw [hzero] at hle
          exact absurd (h.rising.pos r hr) (Nat.not_lt.2 hle)
        · exact h.rising.mem_take_of_le hr hq (heq ▸ hle)
    · rw [← Option.some.inj hold']
      exact hunseeded hwell
  · intro resp' c' heq hempty hc'
    cases heq
    rw [hfetch, Except.ok.injEq] at hempty
    rw [hc, Option.some.injEq] at hc'
    rw [← hc']
    refine (h.tip c hc).resolve_right ?_
    rintro ⟨q, hq, -⟩
    rw [hempty] at hq
    exact absurd hq List.not_mem_nil
  · intro resp' c' old' heq _ hc' hold' r hr hactionable hmem
    cases heq
    rw [hc, Option.some.injEq] at hc'
    rw [hold, Option.some.injEq] at hold'
    rw [← hc']
    rw [← hold'] at hmem
    by_contra hlt
    have hkeeps := hkept.unseeded old (by rw [hstep]) r.id
      (by rw [hstep]; exact hhanded r hr hactionable (Nat.not_le.1 hlt))
    exact hkeeps hmem
  · intro resp' old' heq _ hold' r hr hactionable hnew
    cases heq
    rw [hold, Option.some.injEq] at hold'
    rw [← hold'] at hnew
    have hreached := hkept.reached resp rfl hfetch old (by rw [hstep]) r hr hactionable hnew
    rw [hstep] at hreached
    exact ⟨h.mem_page hc hr hreached, hsaves⟩
  · intro c' hc'
    rw [hc, Option.some.injEq] at hc'
    rw [hstep, ← hc']
    exact ⟨_, hcursor, htop⟩
  · rw [hstep]
    exact h.once_append hc
  · intro old' hold'
    rw [hstep] at hold' ⊢
    rw [← Option.some.inj hold']
    exact hunseeded hwell
  · intro resp' heq _ old' hold' r hr hactionable hnew
    cases heq
    rw [hstep] at hold' ⊢
    rw [← Option.some.inj hold'] at hnew
    obtain ⟨hpage, -⟩ := hwell.page resp old rfl hfetch hold r hr hactionable hnew
    by_cases hlow : r.id ≤ c
    · exact List.mem_append_left _
        ((h.covered c old hc hold r hr hactionable hlow).resolve_right hnew)
    · exact hhanded r hpage hactionable (Nat.not_le.1 hlow)

/-- An answer without reviews is read with a cursor. -/
lemma read_nothing (h : Polled perPage pr σ) {c : ℕ} (hc : σ.poller.cursor pr = some c)
    {resp : Except String ReviewsResponse} (hfetch : fetchReviews resp = .ok [])
    (hne : σ.reviews.take perPage ≠ []) :
    (PollsWell perPage pr σ (.polled resp) → Polled perPage pr (pollStep pr σ (.polled resp))) ∧
      (PollKept perPage pr σ (.polled resp) ↔ PollsWell perPage pr σ (.polled resp)) := by
  have hsaves : savesCursor pr = true := by
    by_contra hnot
    rw [(h.unsaved (Bool.eq_false_iff.2 hnot)).1] at hc
    cases hc
  obtain ⟨old, hold⟩ : ∃ old, σ.seeded = some old := by
    refine Option.ne_none_iff_exists'.1 fun hnone => ?_
    rw [(h.unseen hnone).1] at hc
    cases hc
  have hstep : pollStep pr σ (.polled resp) =
      { σ with poller := applyNewReviews pr [] σ.poller } := by
    have happlied : appliedReviews (some c) [] = [] :=
      List.eq_nil_iff_forall_not_mem.2 fun r hr =>
        absurd (mem_appliedReviews.1 hr).1.1 List.not_mem_nil
    rw [pollStep, hfetch, hc, hold]
    dsimp only
    rw [happlied, List.map_nil, List.append_nil, Option.some_or, ← hold]
  have hcursor : (applyNewReviews pr [] σ.poller).cursor pr = some 0 := by
    rw [cursor_applyNewReviews, if_pos ⟨hsaves, rfl⟩]
    rfl
  have hother : fetchReviews resp ≠ .ok (σ.reviews.take perPage) := by
    rw [hfetch, ne_eq, Except.ok.injEq]
    exact hne.symm
  refine ⟨fun hwell => ?_, fun hkept => ⟨?_, ?_, ?_⟩, fun hwell => ⟨?_, ?_, ?_, ?_⟩⟩
  · rw [hstep]
    refine h.of_same ?_ rfl rfl rfl
    rw [hcursor, hc, hwell.empty resp c rfl hfetch hc]
  · intro resp' c' heq _ hc'
    rw [hc, Option.some.injEq] at hc'
    obtain ⟨c'', hc'', hle⟩ := hkept.cursor c hc
    rw [hstep, hcursor, Option.some.injEq] at hc''
    rw [← hc'', Nat.le_zero] at hle
    rw [← hc', hle]
  · intro resp' c' old' heq hpage
    cases heq
    exact absurd hpage hother
  · intro resp' old' heq hpage
    cases heq
    exact absurd hpage hother
  · intro c' hc'
    rw [hc, Option.some.injEq] at hc'
    rw [hstep, ← hc', hwell.empty resp c rfl hfetch hc]
    exact ⟨0, hcursor, le_rfl⟩
  · rw [hstep]
    exact h.once
  · rw [hstep]
    exact h.unseeded
  · intro resp' heq hpage
    cases heq
    exact absurd hpage hother

/-- An answer is read without a cursor: for the first time, or where no cursor is written. -/
lemma read_unseen (h : Polled perPage pr σ) (hc : σ.poller.cursor pr = none)
    {resp : Except String ReviewsResponse} {reviews : List ReviewInfo}
    (hfetch : fetchReviews resp = .ok reviews)
    (hserves : reviews = [] ∨ reviews = σ.reviews.take perPage) :
    Polled perPage pr (pollStep pr σ (.polled resp)) ∧
      (PollKept perPage pr σ (.polled resp) ↔ PollsWell perPage pr σ (.polled resp)) := by
  have happlied : σ.applied = [] := by
    cases hold : σ.seeded with
    | none => exact (h.unseen hold).2
    | some old =>
      refine (h.unsaved (Bool.eq_false_iff.2 fun hsaves => ?_)).2
      exact h.observed hsaves (by rw [hold]; exact Option.some_ne_none old) hc
  have hstep : pollStep pr σ (.polled resp) =
      { poller := applyNewReviews pr reviews σ.poller
        reviews := σ.reviews
        seeded := σ.seeded.or (some (σ.reviews.map ReviewInfo.id))
        applied := [] } := by
    rw [pollStep, hfetch, hc, happlied]
    rfl
  have hcursor := cursor_applyNewReviews pr pr reviews σ.poller
  rw [hc] at hcursor
  have htip : Pages.top ReviewInfo.id reviews = 0 ∨
      ∃ r ∈ σ.reviews.take perPage, r.id = Pages.top ReviewInfo.id reviews := by
    refine (Pages.top_eq_zero_or ReviewInfo.id reviews).imp_right ?_
    rintro ⟨r, hr, heq⟩
    rcases hserves with hnil | hpage
    · rw [hnil] at hr
      exact absurd hr List.not_mem_nil
    · exact ⟨r, hpage ▸ hr, heq⟩
  cases hold : σ.seeded with
  | none =>
    rw [hold] at hstep
    refine ⟨?_, iff_of_true ⟨?_, ?_, ?_, ?_⟩ ⟨?_, ?_, ?_⟩⟩
    · rw [hstep]
      refine ⟨h.rising, nofun, fun hnot => ⟨?_, rfl⟩, fun hsaves _ => ?_,
        fun old hseeded id hid => ?_, fun c hc' => ?_, fun c _ id hid => absurd hid List.not_mem_nil,
        fun c old _ hseeded r hr _ _ => Or.inr ?_, List.nodup_nil,
        fun old _ id hid => absurd hid List.not_mem_nil⟩
      · exact hcursor.trans (if_neg fun hboth => by rw [hnot] at hboth; cases hboth.1)
      · rw [hcursor, if_pos ⟨hsaves, rfl⟩]
        exact Option.some_ne_none _
      · rw [← Option.some.inj hseeded] at hid
        exact List.mem_map.1 hid
      · rw [hcursor] at hc'
        split at hc'
        · rw [← Option.some.inj hc']
          exact htip
        · cases hc'
      · rw [← Option.some.inj hseeded]
        exact List.mem_map_of_mem hr
    · intro c hc'
      rw [hc] at hc'
      cases hc'
    · rw [hstep]
      exact List.nodup_nil
    · intro old _ id hid
      rw [hstep] at hid
      exact absurd hid List.not_mem_nil
    · intro resp' _ _ old hseeded r hr _ hnew
      rw [hstep] at hseeded
      rw [← Option.some.inj hseeded] at hnew
      exact absurd (List.mem_map_of_mem hr) hnew
    · intro resp' c _ _ hc'
      rw [hc] at hc'
      cases hc'
    · intro resp' c old _ _ hc'
      rw [hc] at hc'
      cases hc'
    · intro resp' old _ _ hold'
      rw [hold] at hold'
      cases hold'
  | some old =>
    rw [hold] at hstep
    have hsaves : savesCursor pr = false := by
      rw [Bool.eq_false_iff]
      intro hsaves
      exact h.observed hsaves (by rw [hold]; exact Option.some_ne_none old) hc
    rw [if_neg fun hboth => by rw [hsaves] at hboth; cases hboth.1] at hcursor
    refine ⟨?_, fun hkept => ⟨?_, ?_, ?_⟩, fun hwell => ⟨?_, ?_, ?_, ?_⟩⟩
    · rw [hstep]
      exact h.of_same (hcursor.trans hc.symm) rfl hold.symm happlied.symm
    · intro resp' c _ _ hc'
      rw [hc] at hc'
      cases hc'
    · intro resp' c old' _ _ hc'
      rw [hc] at hc'
      cases hc'
    · intro resp' old' heq hpage hold' r hr hactionable hnew
      rw [hold] at hold'
      have hreached := hkept.reached resp' heq hpage old' (by rw [hstep]; exact hold') r hr
        hactionable hnew
      rw [hstep] at hreached
      exact absurd hreached List.not_mem_nil
    · intro c hc'
      rw [hc] at hc'
      cases hc'
    · rw [hstep]
      exact List.nodup_nil
    · intro old' _ id hid
      rw [hstep] at hid
      exact absurd hid List.not_mem_nil
    · intro resp' heq hpage old' hold' r hr hactionable hnew
      rw [hstep] at hold'
      obtain ⟨-, hkeyed⟩ := hwell.page resp' old' heq hpage (hold.trans hold') r hr hactionable hnew
      rw [hsaves] at hkeyed
      cases hkeyed

/-- Events that are no answer for the pull request. -/
lemma kept_of_silent (hpolled : ∀ resp reviews, ev = .polled resp →
      fetchReviews resp ≠ .ok reviews)
    (hstep : Polled perPage pr (pollStep pr σ ev))
    (hcursor : (pollStep pr σ ev).poller.cursor pr = σ.poller.cursor pr) :
    PollKept perPage pr σ ev ∧ PollsWell perPage pr σ ev :=
  ⟨⟨fun c hc => ⟨c, hcursor.trans hc, le_rfl⟩, hstep.once, hstep.unseeded,
    fun resp heq hfetch => absurd hfetch (hpolled resp _ heq)⟩,
    ⟨fun resp _ heq hfetch => absurd hfetch (hpolled resp _ heq),
      fun resp _ _ heq hfetch => absurd hfetch (hpolled resp _ heq),
      fun resp _ heq hfetch => absurd hfetch (hpolled resp _ heq)⟩⟩

/-- An answer for another pull request leaves the cursor alone. -/
lemma polledOther_eq (pr other : PrTarget) (σ : PollRun) (resp : Except String ReviewsResponse) :
    ∃ p : Poller, pollStep pr σ (.polledOther other resp) = { σ with poller := p } ∧
      p.cursor pr = σ.poller.cursor pr := by
  rw [pollStep]
  cases fetchReviews resp with
  | error e => exact ⟨σ.poller, rfl, rfl⟩
  | ok reviews =>
    dsimp only
    split
    · exact ⟨σ.poller, rfl, rfl⟩
    · rename_i hkey
      refine ⟨applyNewReviews other reviews σ.poller, rfl, ?_⟩
      rw [cursor_applyNewReviews, if_neg fun hboth => hkey hboth.2]

/-- A step keeps the cursor in order exactly when it meets the condition. -/
lemma keeps_iff (h : Polled perPage pr σ) (hserves : ServesPages perPage σ ev) :
    (PollsWell perPage pr σ ev → Polled perPage pr (pollStep pr σ ev)) ∧
      (PollKept perPage pr σ ev ↔ PollsWell perPage pr σ ev) := by
  have hsilent : (∀ resp reviews, ev = .polled resp → fetchReviews resp ≠ .ok reviews) →
      Polled perPage pr (pollStep pr σ ev) →
        (pollStep pr σ ev).poller.cursor pr = σ.poller.cursor pr →
          (PollsWell perPage pr σ ev → Polled perPage pr (pollStep pr σ ev)) ∧
            (PollKept perPage pr σ ev ↔ PollsWell perPage pr σ ev) := by
    intro hpolled hstep hcursor
    obtain ⟨hkept, hwell⟩ := kept_of_silent hpolled hstep hcursor
    exact ⟨fun _ => hstep, iff_of_true hkept hwell⟩
  cases ev with
  | submitted review =>
    exact hsilent nofun (h.submitted hserves.1 hserves.2) rfl
  | polledOther other resp =>
    obtain ⟨p, hstep, hcursor⟩ := polledOther_eq pr other σ resp
    refine hsilent nofun ?_ ?_
    · rw [hstep]
      exact h.of_same hcursor rfl rfl rfl
    · rw [hstep]
      exact hcursor
  | operation op => exact hsilent nofun (h.of_same rfl rfl rfl rfl) rfl
  | polled resp =>
    cases hfetch : fetchReviews resp with
    | error e =>
      have hstep : pollStep pr σ (.polled resp) = σ := by rw [pollStep, hfetch]
      refine hsilent (fun resp' reviews heq => ?_) (by rw [hstep]; exact h) (by rw [hstep])
      cases heq
      rw [hfetch]
      exact nofun
    | ok reviews =>
      have hanswer := hserves reviews hfetch
      cases hc : σ.poller.cursor pr with
      | none =>
        obtain ⟨hstep, hiff⟩ := h.read_unseen hc hfetch hanswer
        exact ⟨fun _ => hstep, hiff⟩
      | some c =>
        rcases hanswer with hnil | hpage
        · rw [hnil] at hfetch
          by_cases hempty : σ.reviews.take perPage = []
          · exact h.read_page hc (hempty ▸ hfetch)
          · exact h.read_nothing hc hfetch hempty
        · rw [hpage] at hfetch
          exact h.read_page hc hfetch

end Polled

end Unicode

/-! ## A pull request that is missing for a while -/

def vanishingPr : PrTarget := ⟨"acme/app", 7⟩

/-- A card in Review that lists the pull request. -/
def reviewOps : List Operation :=
  [.create ⟨none, "Docs", "", none, .human, false, none⟩,
    .createTask 1 "Guide" "" "written" [] none false,
    .reportPullRequest 3 (.fromUrl "https://github.com/acme/app/pull/7"),
    .transition 3 .done "human" none, .transition 3 .review "human" none]

def changesRequested : ReviewInfo := ⟨1, "CHANGES_REQUESTED"⟩

/-- A review is submitted and observed; then GitHub answers that the pull request is missing. -/
def vanishing : List PollEvent :=
  [.submitted changesRequested, .polled (.ok ⟨200, "", .ok [changesRequested]⟩)]

def missing : PollEvent := .polled (.ok ⟨404, "", .error "Not Found"⟩)

/-- GitHub serves the page first, and nothing then. -/
lemma serves_vanishing [UnicodeTables] (b : Board) :
    Run.Meets (pollStep vanishingPr) (ServesPages 30) (.new b) (vanishing ++ [missing]) := by
  refine ⟨⟨by decide, fun r hr => absurd hr List.not_mem_nil⟩, fun reviews hfetch => Or.inr ?_,
    fun reviews hfetch => Or.inl ?_, trivial⟩
  · exact (Except.ok.inj hfetch).symm
  · exact (Except.ok.inj hfetch).symm

/-- The cursor goes back to zero. -/
lemma cursor_vanishing [UnicodeTables] (b : Board) :
    ¬Run.Meets (pollStep vanishingPr) (PollKept 30 vanishingPr) (.new b)
      (vanishing ++ [missing]) := by
  refine Run.not_meets_of_last fun hkept => ?_
  have hsaves : savesCursor vanishingPr = true := by decide +kernel
  have hafter : ∀ (reviews : List ReviewInfo) (p : Poller),
      (applyNewReviews vanishingPr reviews p).cursor vanishingPr =
        some (Pages.top ReviewInfo.id reviews) := fun reviews p => by
    rw [cursor_applyNewReviews, if_pos ⟨hsaves, rfl⟩]
  obtain ⟨c', hc', hle⟩ := hkept.cursor 1 (hafter [changesRequested] _)
  have hzero := hafter [] (Run.after (pollStep vanishingPr) (.new b) vanishing).poller
  have hc : some 0 = some c' := hzero.symm.trans hc'
  rw [← Option.some.inj hc] at hle
  exact absurd hle (by decide)

end Sandboard

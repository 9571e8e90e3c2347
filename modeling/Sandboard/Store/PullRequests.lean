import Sandboard.Library.Run
import Sandboard.Search
import Sandboard.Store.Carrying
import Sandboard.Store.Merging

/-!
# Lists of pull requests

A card lists the pull requests that were reported on it.  A ledger says which they are since the
list was last cleared, and which of them were merged; `Tracks` says that the list is as the ledger
has it.  Every operation keeps that, with one exception: `setPrUrl` writes its URL over that of the
first entry, whatever pull request the entry stands for.
-/

namespace Sandboard

open Std Text BoardState

/-! ## The ledger -/

/-- The normalized URL of a pull request. -/
def PullRequest.key (p : PullRequest) : Option String := p.urlStr.map normalizePrUrl

/-- The normalized URLs of the pull requests that the card lists. -/
def WorkItem.prKeys (c : WorkItem) : List String := c.pullRequests.filterMap PullRequest.key

/-- The pull requests that were reported on a card since its list was last cleared, and those of
them that were merged. -/
structure PrLedger where
  listed : List String
  merged : List String
  deriving DecidableEq

namespace PrLedger

def empty : PrLedger := ⟨[], []⟩

/-- A pull request is reported; what is reported again is known. -/
def report (l : PrLedger) (key : String) (merged : Bool) : PrLedger :=
  if key ∈ l.listed then l
  else ⟨l.listed ++ [key], if merged then key :: l.merged else l.merged⟩

/-- A pull request on the card is merged. -/
def merge (l : PrLedger) (key : String) : PrLedger := { l with merged := key :: l.merged }

/-- There are pull requests, and all of them were merged. -/
def AllMerged (l : PrLedger) : Prop := l.listed ≠ [] ∧ ∀ key ∈ l.listed, key ∈ l.merged

end PrLedger

/-- The URL to set, unless the list is to be cleared. -/
def givenUrl (url : Option String) : Option String := (url.map trim).filter fun u => !u.isEmpty

/-- The ledger of the card `id` after the operation. -/
def Operation.entered (id : ItemId) (s : BoardState) (l : PrLedger) (op : Operation) : PrLedger :=
  if s.items[id]?.isNone then l
  else match op with
    | reportPullRequest k pr =>
      match pr.key with
      | some key => if k = id then l.report key pr.merged else l
      | none => l
    | setPrUrl k url =>
      if k = id then
        match givenUrl url with
        | some u => l.report (normalizePrUrl u) false
        | none => .empty
      else l
    | completeForMergedPr url _ _ =>
      if s.mergeTarget (normalizePrUrl url) = some id then l.merge (normalizePrUrl url) else l
    | _ => l

/-- The operation clears the list of the card `id`. -/
def Operation.clearsPrs (id : ItemId) : Operation → Bool
  | setPrUrl k url => k == id && (givenUrl url).isNone
  | _ => false

/-- The operation replaces the list of the card `id` by another one, which only tests do. -/
def Operation.replacesPrs (id : ItemId) : Operation → Bool
  | setPullRequests k _ => k == id
  | _ => false

/-! ## Entries -/

/-- The entry of the pull request `key` may have other ends. -/
def PullRequest.SameUpToEnds (key : String) (p p' : PullRequest) : Prop :=
  p' = p ∨ p.key = some key ∧ ∃ base head, p' = { p with base := base, head := head }

/-- The URL to set is not blank. -/
lemma isBlank_of_givenUrl {url : Option String} {u : String} (h : givenUrl url = some u) :
    isBlank u = false := by
  obtain ⟨hu, hne⟩ := Option.filter_eq_some_iff.1 h
  obtain ⟨v, -, rfl⟩ := Option.map_eq_some_iff.1 hu
  rw [Bool.not_eq_true', ← Bool.not_eq_true] at hne
  rw [isBlank_trim, ← Bool.not_eq_true]
  intro hblank
  rw [trim_of_isBlank hblank] at hne
  exact hne (by decide)

/-- An entry with that URL stands for its pull request. -/
lemma key_of_givenUrl {url : Option String} {u : String} (h : givenUrl url = some u)
    {p : PullRequest} (hp : p.url = u) : p.key = some (normalizePrUrl u) := by
  have hkey : normalizePrUrl (trim u) = normalizePrUrl u := by
    rw [normalizePrUrl, normalizePrUrl, trim_trim]
  rw [PullRequest.key, PullRequest.urlStr, hp, isBlank_of_givenUrl h, if_neg Bool.false_ne_true,
    Option.map_some, hkey]

/-- An entry has the URL that it is looked up by. -/
lemma hasUrl_iff {p : PullRequest} {needle : String} :
    p.hasUrl needle = true ↔ p.key = some needle := by
  unfold PullRequest.hasUrl PullRequest.key
  cases p.urlStr with
  | none => exact iff_of_false Bool.false_ne_true (fun h => nomatch h)
  | some u => rw [Option.any_some, beq_iff_eq, Option.map_some, Option.some.injEq]

lemma hasUrl_eq_false_iff {p : PullRequest} {needle : String} :
    p.hasUrl needle = false ↔ p.key ≠ some needle := by
  rw [← Bool.not_eq_true, hasUrl_iff]

namespace PullRequest.SameUpToEnds

variable {key : String} {p p' : PullRequest}

lemma key_eq (h : SameUpToEnds key p p') : p'.key = p.key := by
  rcases h with rfl | ⟨-, base, head, rfl⟩
  · rfl
  · rfl

lemma merged_eq (h : SameUpToEnds key p p') : p'.merged = p.merged := by
  rcases h with rfl | ⟨-, base, head, rfl⟩
  · rfl
  · rfl

end PullRequest.SameUpToEnds

/-- What is in the second of two related lists comes from the first one. -/
lemma exists_of_forall₂ {α β : Type} {R : α → β → Prop} {as : List α} {bs : List β} {b : β}
    (h : List.Forall₂ R as bs) (hb : b ∈ bs) : ∃ a ∈ as, R a b := by
  induction h with
  | nil => exact absurd hb List.not_mem_nil
  | cons hab _ ih =>
    rcases List.mem_cons.1 hb with rfl | hb
    · exact ⟨_, List.mem_cons_self, hab⟩
    · obtain ⟨a, ha, hrel⟩ := ih hb
      exact ⟨a, List.mem_cons_of_mem _ ha, hrel⟩

/-- A pull request that is not listed is appended. -/
lemma update_of_notMem {needle : String} {pr : PullRequest} {prs : List PullRequest}
    (h : ∀ p ∈ prs, p.key ≠ some needle) :
    WorkItem.withReportedPr.update needle pr prs = prs ++ [pr] := by
  induction prs with
  | nil => rfl
  | cons p prs ih =>
    have hp := hasUrl_eq_false_iff.2 (h p List.mem_cons_self)
    rw [WorkItem.withReportedPr.update, hp, if_neg Bool.false_ne_true,
      ih fun q hq => h q (List.mem_cons_of_mem p hq), List.cons_append]

/-- A listed one changes the ends of its entry. -/
lemma update_of_mem {needle : String} {pr : PullRequest} {prs : List PullRequest}
    (h : ∃ p ∈ prs, p.key = some needle) :
    List.Forall₂ (PullRequest.SameUpToEnds needle) prs
      (WorkItem.withReportedPr.update needle pr prs) := by
  have hsame : ∀ qs : List PullRequest,
      List.Forall₂ (PullRequest.SameUpToEnds needle) qs qs :=
    fun qs => List.forall₂_same.2 fun _ _ => Or.inl rfl
  induction prs with
  | nil =>
    obtain ⟨p, hp, -⟩ := h
    exact absurd hp List.not_mem_nil
  | cons p prs ih =>
    rw [WorkItem.withReportedPr.update]
    by_cases hp : p.hasUrl needle = true
    · have hkey := hasUrl_iff.1 hp
      have hurl : isBlank p.url = false := by
        by_contra hblank
        rw [Bool.not_eq_false] at hblank
        rw [PullRequest.key, PullRequest.urlStr, if_pos hblank] at hkey
        cases hkey
      rw [if_pos hp, hurl, if_neg Bool.false_ne_true]
      exact .cons (Or.inr ⟨hkey, _, _, rfl⟩) (hsame prs)
    · rw [if_neg hp]
      obtain ⟨q, hq, hqkey⟩ := h
      rcases List.mem_cons.1 hq with rfl | hq
      · exact absurd (hasUrl_iff.2 hqkey) hp
      · exact .cons (Or.inl rfl) (ih ⟨q, hq, hqkey⟩)

/-! ## Lists as the ledger has them -/

/-- The list of the card is as the ledger has it. -/
structure Tracks (l : PrLedger) (c : WorkItem) : Prop where
  keys : c.pullRequests.map PullRequest.key = l.listed.map some
  distinct : l.listed.Nodup
  known : ∀ key ∈ l.merged, key ∈ l.listed
  merged : ∀ p ∈ c.pullRequests, ∀ key, p.key = some key → (p.merged = true ↔ key ∈ l.merged)

namespace Tracks

variable {l : PrLedger} {c c' : WorkItem} {key : String} {p : PullRequest}

/-- A card without pull requests. -/
lemma empty (h : c.pullRequests = []) : Tracks .empty c where
  keys := by rw [h]; rfl
  distinct := List.nodup_nil
  known _ hkey := absurd hkey List.not_mem_nil
  merged p hp := by
    rw [h] at hp
    exact absurd hp List.not_mem_nil

lemma of_eq (h : Tracks l c) (hprs : c'.pullRequests = c.pullRequests) : Tracks l c' where
  keys := by rw [hprs, h.keys]
  distinct := h.distinct
  known := h.known
  merged := by rw [hprs]; exact h.merged

lemma prKeys_eq (h : Tracks l c) : c.prKeys = l.listed := by
  have hkeys : c.prKeys = (c.pullRequests.map PullRequest.key).filterMap id := by
    rw [List.filterMap_map]
    rfl
  rw [hkeys, h.keys, List.filterMap_map]
  exact List.filterMap_some

/-- Every entry stands for a pull request of the ledger. -/
lemma listed_of_mem (h : Tracks l c) (hp : p ∈ c.pullRequests) :
    ∃ key ∈ l.listed, p.key = some key := by
  have hmem := List.mem_map_of_mem (f := PullRequest.key) hp
  rw [h.keys] at hmem
  obtain ⟨key, hkey, heq⟩ := List.mem_map.1 hmem
  exact ⟨key, hkey, heq.symm⟩

/-- Every pull request of the ledger has an entry. -/
lemma exists_entry (h : Tracks l c) (hkey : key ∈ l.listed) :
    ∃ p ∈ c.pullRequests, p.key = some key := by
  have hmem := List.mem_map_of_mem (f := some) hkey
  rw [← h.keys] at hmem
  exact List.mem_map.1 hmem

lemma mem_listed_iff (h : Tracks l c) :
    key ∈ l.listed ↔ ∃ p ∈ c.pullRequests, p.key = some key := by
  refine ⟨h.exists_entry, ?_⟩
  rintro ⟨p, hp, heq⟩
  obtain ⟨key', hkey', heq'⟩ := h.listed_of_mem hp
  rw [heq, Option.some.injEq] at heq'
  rw [heq']
  exact hkey'

/-- A pull request that is reported again. -/
lemma again (h : Tracks l c)
    (hprs : List.Forall₂ (PullRequest.SameUpToEnds key) c.pullRequests c'.pullRequests) :
    Tracks l c' := by
  have hmap : c'.pullRequests.map PullRequest.key = c.pullRequests.map PullRequest.key := by
    have hkeys := List.forall₂_map_left_iff.2 (List.forall₂_map_right_iff.2
      (hprs.imp fun _ _ hp => hp.key_eq.symm))
    exact (List.forall₂_eq_eq_eq ▸ hkeys : _ = _).symm
  refine ⟨hmap.trans h.keys, h.distinct, h.known, fun p' hp' k hk => ?_⟩
  obtain ⟨p, hp, hsame⟩ := exists_of_forall₂ hprs hp'
  rw [hsame.merged_eq]
  exact h.merged p hp k (hsame.key_eq ▸ hk)

/-- A pull request that is reported for the first time. -/
lemma first (h : Tracks l c) (hnew : key ∉ l.listed) (hp : p.key = some key)
    (hprs : c'.pullRequests = c.pullRequests ++ [p]) : Tracks (l.report key p.merged) c' := by
  unfold PrLedger.report
  rw [if_neg hnew]
  have hnot : key ∉ l.merged := fun hkey => hnew (h.known key hkey)
  constructor
  · rw [hprs, List.map_append, h.keys, List.map_append, List.map_singleton, List.map_singleton, hp]
  · exact List.nodup_append.2 ⟨h.distinct, List.nodup_singleton key, fun k hk k' hk' heq =>
      hnew (by rw [← List.mem_singleton.1 hk', ← heq]; exact hk)⟩
  · intro k hk
    dsimp only at hk ⊢
    rw [List.mem_append, List.mem_singleton]
    split at hk
    · exact (List.mem_cons.1 hk).elim Or.inr fun hk => Or.inl (h.known k hk)
    · exact Or.inl (h.known k hk)
  · intro q hq k hk
    rw [hprs] at hq
    rcases List.mem_append.1 hq with hq | hq
    · have hne : k ≠ key := by
        rintro rfl
        exact hnew (h.mem_listed_iff.2 ⟨q, hq, hk⟩)
      rw [h.merged q hq k hk]
      dsimp only
      split
      · rw [List.mem_cons, or_iff_right hne]
      · exact Iff.rfl
    · rw [List.mem_singleton.1 hq] at hk ⊢
      rw [hp, Option.some.injEq] at hk
      rw [← hk]
      dsimp only
      split
      · rename_i hmerged
        exact iff_of_true hmerged List.mem_cons_self
      · rename_i hmerged
        exact iff_of_false hmerged hnot

/-- The first entry gets another URL of its own pull request. -/
lemma renamed (h : Tracks l c) {ps : List PullRequest} {p' : PullRequest}
    (hc : c.pullRequests = p :: ps) (hkey : p'.key = p.key) (hmerged : p'.merged = p.merged)
    (hc' : c'.pullRequests = p' :: ps) : Tracks l c' := by
  refine ⟨?_, h.distinct, h.known, fun q hq k hk => ?_⟩
  · rw [hc', List.map_cons, hkey, ← List.map_cons, ← hc, h.keys]
  · rw [hc'] at hq
    rcases List.mem_cons.1 hq with rfl | hq
    · rw [hmerged]
      refine h.merged p ?_ k (hkey ▸ hk)
      rw [hc]
      exact List.mem_cons_self
    · refine h.merged q ?_ k hk
      rw [hc]
      exact List.mem_cons_of_mem p hq

/-- The key of an entry once a pull request is marked as merged. -/
lemma key_marked (needle : String) (p : PullRequest) :
    (if p.hasUrl needle then { p with merged := true } else p).key = p.key := by
  split
  · rfl
  · rfl

/-- A pull request of the card is marked as merged. -/
lemma marked (h : Tracks l c) (hkey : key ∈ l.listed)
    (hprs : c'.pullRequests = (c.withPrMerged key).pullRequests) : Tracks (l.merge key) c' := by
  have hlist : c'.pullRequests = c.pullRequests.map fun p =>
      if p.hasUrl key then { p with merged := true } else p := hprs
  refine ⟨?_, h.distinct, fun k hk => ?_, fun q hq k hk => ?_⟩
  · rw [hlist, List.map_map]
    exact (List.map_congr_left fun p _ => key_marked key p).trans h.keys
  · rcases List.mem_cons.1 hk with rfl | hk
    · exact hkey
    · exact h.known k hk
  · rw [hlist] at hq
    obtain ⟨p, hp, rfl⟩ := List.mem_map.1 hq
    rw [key_marked] at hk
    change _ ↔ k ∈ key :: l.merged
    rw [List.mem_cons]
    split
    · rename_i hurl
      rw [hasUrl_iff, hk, Option.some.injEq] at hurl
      exact iff_of_true rfl (Or.inl hurl)
    · rename_i hurl
      rw [hasUrl_iff, hk, Option.some.injEq] at hurl
      rw [or_iff_right hurl, h.merged p hp k hk]

/-- All pull requests of the ledger are merged exactly when the entries say so. -/
lemma allMerged_iff (h : Tracks l c) : l.AllMerged ↔ c.allPullRequestsMerged = true := by
  have hempty : c.pullRequests = [] ↔ l.listed = [] := by
    rw [← List.map_eq_nil_iff, h.keys, List.map_eq_nil_iff]
  unfold PrLedger.AllMerged WorkItem.allPullRequestsMerged
  rw [Bool.and_eq_true, Bool.not_eq_true', List.isEmpty_eq_false_iff, ne_eq, ne_eq, hempty,
    List.all_eq_true]
  refine and_congr_right fun _ => ⟨fun hall p hp => ?_, fun hall key hkey => ?_⟩
  · obtain ⟨key, hkey, heq⟩ := h.listed_of_mem hp
    rw [(h.merged p hp key heq).2 (hall key hkey), Bool.true_or]
  · obtain ⟨p, hp, heq⟩ := h.exists_entry hkey
    have hsome : p.urlStr.isNone = false := by
      cases hurl : p.urlStr with
      | none =>
        rw [PullRequest.key, hurl] at heq
        cases heq
      | some u => rfl
    have hmerged := hall p hp
    rw [hsome, Bool.or_false] at hmerged
    exact (h.merged p hp key heq).1 hmerged

end Tracks

/-! ## What a step does to the list -/

/-- The card `id` keeps its list. -/
def KeepsList (id k : ItemId) (c c' : WorkItem) : Prop := k = id → c'.pullRequests = c.pullRequests

/-- The card `id` lists no pull request. -/
def ListsNone (id k : ItemId) (c : WorkItem) : Prop := k = id → c.pullRequests = []

lemma keepsList_law (id : ItemId) : CardLaw (ListsNone id) (KeepsList id) where
  refl _ _ _ := rfl
  trans _ _ _ _ h h' hk := (h' hk).trans (h hk)
  new _ _ _ h h' hk := (h' hk).trans (h hk)
  born _ _ _ _ _ := rfl
  moved _ _ _ _ _ _ _ := rfl
  proposed _ _ _ _ := rfl
  settled _ _ _ _ _ := rfl
  blockedOn _ _ _ _ := rfl
  unplanned _ _ _ := rfl

/-- The operation may change the list of the card `id`. -/
def Operation.touchesPrs (id : ItemId) : Operation → Bool
  | setPullRequests k _ | setPrUrl k _ | reportPullRequest k _ => k == id
  | completeForMergedPr .. => true
  | _ => false

lemma keepsList_notedPark (id k : ItemId) (reason : Option String) (now : Time) (c : WorkItem) :
    KeepsList id k c (Board.notedPark reason now c) := by
  cases reason with
  | none => exact fun _ => rfl
  | some r => exact fun _ => rfl

/-- The edits of every other operation keep the list. -/
lemma Operation.editsIn_keepsList {id : ItemId} {op : Operation} (h : op.touchesPrs id = false) :
    op.EditsIn fun k f => ∀ c, KeepsList id k c (f c) := by
  have hother : ∀ {k : ItemId} {f : WorkItem → WorkItem}, (k == id) = false →
      ∀ c, KeepsList id k c (f c) := fun hk _ heq => absurd heq (beq_eq_false_iff_ne.1 hk)
  cases op with
  | setPullRequests k prs => exact hother h
  | setPrUrl k url => exact fun _ => hother h
  | reportPullRequest k pr => exact fun _ _ => hother h
  | completeForMergedPr => cases h
  | createProject => exact fun _ _ _ _ _ _ _ _ => rfl
  | setAutoDispatch => exact ⟨fun _ _ => rfl, fun _ _ _ => rfl, fun _ _ _ => rfl⟩
  | claim | reopenForAdoption | heartbeat => exact fun _ _ _ _ => rfl
  | setProjectSandboxProfile | steer | releaseWithReason | autoEnqueueProject
  | autoEnqueueAll | unarchiveScope => exact fun _ _ _ => rfl
  | clearRunFailures | setEnvironment | setConversationId | updateItem
  | enqueueDispatch | clearDispatch | report | halt | dispatchRebase => exact fun _ _ => rfl
  | escalate => exact fun _ _ _ => rfl
  | recordRunFailure => exact ⟨fun _ _ => rfl, fun _ _ _ _ _ _ => rfl⟩
  | proposeSplit => exact fun _ _ _ _ _ _ => rfl
  | answerEscalation => exact ⟨fun _ _ _ => rfl, fun _ _ _ => rfl⟩
  | park => exact ⟨fun _ _ => keepsList_notedPark id _ _ _, fun _ _ => rfl⟩
  | unpark => exact ⟨fun _ _ => rfl, fun _ _ => rfl⟩
  | requestChanges => exact ⟨fun _ _ _ _ => rfl, fun _ _ => rfl⟩
  | notifyMainAdvanced =>
    exact ⟨fun _ _ _ _ _ => rfl, fun _ _ _ => keepsList_notedPark id _ _ _, fun _ _ _ => rfl,
      fun _ _ _ => rfl, fun _ _ _ => rfl⟩
  | recordRebaseOutcome =>
    exact ⟨fun _ _ => rfl, fun _ _ _ _ _ => rfl, fun _ _ _ _ _ _ => rfl, fun _ _ => rfl⟩
  | applyPrReviewFeedback => exact fun _ _ _ _ _ _ => rfl
  | _ => trivial

/-- The operation writes the list of the card `id`, or records a merge on it. -/
def Operation.Concerns (id : ItemId) (s : BoardState) : Operation → Prop
  | reportPullRequest k pr => k = id ∧ pr.key.isSome = true ∧ s.items[id]?.isSome = true
  | setPrUrl k _ => k = id ∧ s.items[id]?.isSome = true
  | completeForMergedPr url _ _ => s.mergeTarget (normalizePrUrl url) = some id
  | _ => False

/-- Every other operation leaves the ledger alone. -/
lemma Operation.entered_eq {id : ItemId} {s : BoardState} {op : Operation}
    (h : ¬op.Concerns id s) (l : PrLedger) : op.entered id s l = l := by
  unfold entered
  split
  · rfl
  · rename_i hcard
    have hsome : s.items[id]?.isSome = true := by
      rwa [Option.isNone_iff_eq_none, ← ne_eq, ← Option.isSome_iff_ne_none] at hcard
    cases op with
    | reportPullRequest k pr =>
      dsimp only
      cases hkey : pr.key with
      | none => rfl
      | some key => exact if_neg fun hk => h ⟨hk, by rw [hkey]; rfl, hsome⟩
    | setPrUrl k url => exact if_neg fun hk => h ⟨hk, hsome⟩
    | completeForMergedPr url => exact if_neg h
    | _ => rfl

/-! ## Integrity of the list -/

section Unicode

variable [UnicodeTables]

/-- The step keeps the list of the card: no two entries have one URL, none is lost or is no longer
merged unless the list is cleared, a pull request that is reported again changes the ends of its
entry at most, and a merge that is recorded on the card makes it Done exactly when all pull requests
that were reported on it are merged. -/
structure PrsIntact (id : ItemId) (b : Board) (l : PrLedger) (op : Operation) : Prop where
  distinct : ∀ c', (b.exec op).state.items[id]? = some c' → c'.prKeys.Nodup
  kept : op.clearsPrs id = false → ∀ c c', b.state.items[id]? = some c →
    (b.exec op).state.items[id]? = some c' → ∀ p ∈ c.pullRequests,
      ∃ p' ∈ c'.pullRequests, p'.key = p.key ∧ (p.merged = true → p'.merged = true)
  again : ∀ pr key c, op = .reportPullRequest id pr → pr.key = some key →
    b.state.items[id]? = some c → key ∈ c.prKeys →
      ∃ prs, (b.exec op).state.items[id]? = some (c.withPullRequests prs) ∧
        List.Forall₂ (PullRequest.SameUpToEnds key) c.pullRequests prs
  completes : ∀ url number byWhom, op = .completeForMergedPr url number byWhom →
    b.state.mergeTarget (normalizePrUrl url) = some id →
      ((b.exec op).state.items[id]?.map WorkItem.state = some .done ↔
        (op.entered id b.state l).AllMerged)

/-- `setPrUrl` finds no entry or that of its own pull request first, and the merge of the last open
pull request finds the card in Review or with a human. -/
structure KeepsPrs (id : ItemId) (b : Board) (op : Operation) : Prop where
  first : ∀ url u c p, op = .setPrUrl id url → givenUrl url = some u →
    b.state.items[id]? = some c → c.pullRequests.head? = some p → p.key = some (normalizePrUrl u)
  lane : ∀ url number byWhom c, op = .completeForMergedPr url number byWhom →
    b.state.mergeTarget (normalizePrUrl url) = some id → b.state.items[id]? = some c →
      (c.state = .review ∨ c.state = .needsHuman) ∨
        ∃ p ∈ c.pullRequests, p.key ≠ some (normalizePrUrl url) ∧ p.merged = false

/-- A board with the ledger of the card `id`, and a step of both. -/
def prStep (id : ItemId) (σ : Board × PrLedger) (op : Operation) : Board × PrLedger :=
  (σ.1.exec op, op.entered id σ.1.state σ.2)

/-! ## Steps -/

namespace Board

variable {b : Board} {id : ItemId} {c : WorkItem}

omit [UnicodeTables] in
/-- A pull request is reported with its time. -/
lemma run_stampReported {ε : Type} (pr : PullRequest) (b : Board) :
    ∃ pr' b', (stampReported pr : Method ε PullRequest).run b = (.ok pr', b') ∧
      b'.state = b.state ∧ pr'.key = pr.key ∧ pr'.merged = pr.merged := by
  unfold stampReported
  cases pr.reportedAt with
  | some at_ => exact ⟨pr, b, rfl, rfl, rfl, rfl⟩
  | none => exact ⟨{ pr with reportedAt := some (b.now 0) }, b.stepped b.state, rfl, rfl, rfl, rfl⟩

/-- A report without a URL, or of a card that is not there, is refused. -/
lemma state_reportPullRequest_refused (pr : PullRequest)
    (h : pr.key = none ∨ b.state.items[id]? = none) :
    (b.exec (.reportPullRequest id pr)).state = b.state := by
  rw [exec_state (m := reportPullRequest id pr) rfl]
  unfold reportPullRequest
  cases hurl : pr.urlStr with
  | none => rfl
  | some url =>
    have hnone : b.state.items[id]? = none := by
      refine h.resolve_left fun hkey => ?_
      rw [PullRequest.key, hurl] at hkey
      cases hkey
    obtain ⟨pr', b', hstamp, hstate, -⟩ := run_stampReported (ε := String) pr b
    dsimp only
    rw [Locked.run_bind_ok hstamp,
      Locked.run_bind_error (run_editOr_none (by rw [hstate]; exact hnone) _ _)]
    exact hstate

/-- A report is written on the card. -/
lemma item_reportPullRequest {pr : PullRequest} {key : String} (hkey : pr.key = some key)
    (hc : b.state.items[id]? = some c) : ∃ pr' : PullRequest, pr'.key = some key ∧
      pr'.merged = pr.merged ∧ (b.exec (.reportPullRequest id pr)).state.items[id]? =
        some (c.withPullRequests (WorkItem.withReportedPr.update key pr' c.pullRequests)) := by
  rw [exec_state (m := reportPullRequest id pr) rfl]
  unfold reportPullRequest
  cases hurl : pr.urlStr with
  | none =>
    rw [PullRequest.key, hurl] at hkey
    cases hkey
  | some url =>
    obtain ⟨pr', b', hstamp, hstate, hkey', hmerged⟩ := run_stampReported (ε := String) pr b
    have hc' : b'.state.items[id]? = some c := by rw [hstate]; exact hc
    have hneedle : normalizePrUrl url = key := by
      rw [PullRequest.key, hurl] at hkey
      exact Option.some.inj hkey
    refine ⟨pr', hkey'.trans hkey, hmerged, ?_⟩
    dsimp only
    rw [Locked.run_bind_ok hstamp, Locked.run_bind_ok (run_editOr_some hc' _ _),
      Locked.run_bind_ok (run_story _ _ _), hneedle]
    change (b'.state.editItem id (WorkItem.withReportedPr key pr')).items[id]? = _
    rw [items_editItem_self, hc']
    rfl

/-- The list once the URL of the first entry is set. -/
def prsWithUrl (url : Option String) (prs : List PullRequest) : List PullRequest :=
  match givenUrl url, prs with
  | none, _ => []
  | some u, pr :: prs => { pr with url := u } :: prs
  | some u, [] => [PullRequest.fromUrl u]

lemma state_setPrUrl (url : Option String) : (b.exec (.setPrUrl id url)).state =
    b.state.editItem id (WorkItem.withPullRequests
      (prsWithUrl url ((b.state.items[id]?.map WorkItem.pullRequests).getD []))) := by
  have hprs : (b.state.items[id]?.map b.state.populateBlockers).map WorkItem.pullRequests =
      b.state.items[id]?.map WorkItem.pullRequests := by
    cases b.state.items[id]? with
    | none => rfl
    | some c => rfl
  obtain ⟨b', hrun, hstate⟩ := run_editIf_always (ε := Empty) id (WorkItem.withPullRequests
    (prsWithUrl url ((b.state.items[id]?.map WorkItem.pullRequests).getD []))) b
  have hexec : b.exec (.setPrUrl id url) = ((setPrUrl id url : Method Empty Unit).run b).2 := rfl
  rw [hexec]
  unfold setPrUrl
  dsimp only
  rw [Locked.run_bind_ok (run_get id b), hprs]
  change ((setPullRequests id (prsWithUrl url _) : Method Empty Unit).run b).2.state = _
  unfold setPullRequests
  rw [hrun]
  exact hstate

lemma state_completeForMergedPr (url : String) (number : Option ℕ) (byWhom : String) (b : Board) :
    (b.exec (.completeForMergedPr url number byWhom)).state =
      ((completeForMergedPr url number byWhom : Method Empty _).run b).2.state := by
  have hmethod : (Operation.completeForMergedPr url number byWhom).method =
      Operation.silent (ε := Empty) (completeForMergedPr url number byWhom) := rfl
  exact exec_state hmethod b

/-- A merge that is recorded on the card `k` carries the cards over once it is marked there. -/
lemma carried_completeForMergedPr (hs : b.state.Sound) {k : ItemId} {d : WorkItem}
    {url : String} (number : Option ℕ) (byWhom : String)
    (htarget : b.state.mergeTarget (normalizePrUrl url) = some k)
    (hd : b.state.items[k]? = some d) (id : ItemId) :
    Carried (ListsNone id) (KeepsList id) (b.marked k (normalizePrUrl url) d).state
      (b.exec (.completeForMergedPr url number byWhom)).state := by
  rw [state_completeForMergedPr]
  have hsame : ∀ {s s' : BoardState}, SameCards s s' →
      Carried (ListsNone id) (KeepsList id) s s' := fun h =>
    .of_cardwise h.nextId (.of_items_eq (fun _ _ _ => rfl) h.items)
  rcases run_completeForMergedPr_some (ε := Empty) hs.wellFormed number byWhom htarget hd with
    ⟨-, text, heq⟩ | ⟨-, -, heq⟩ | ⟨-, hdone⟩
  · rw [heq]
    exact hsame (.told _ _ _)
  · rw [heq]
    exact hsame (.refl _)
  · have hcovers := Carried.covers (keepsList_law id)
    have hmoves := covered_transition hcovers.admits k .done
      (actorOr "github-webhook" byWhom) (some (prReason "PR merged" number))
    exact (hmoves.within.run_state hcovers.refl (fun _ _ _ => hcovers.trans) _).trans
      (keepsList_law id) (hsame hdone)

/-- A merge that is recorded on the card makes it Done when it finishes it. -/
lemma done_completeForMergedPr_iff (hs : b.state.Sound) (hn : b.state.Nested) {url : String}
    (number : Option ℕ) (byWhom : String)
    (htarget : b.state.mergeTarget (normalizePrUrl url) = some id)
    (hc : b.state.items[id]? = some c) :
    (b.exec (.completeForMergedPr url number byWhom)).state.items[id]?.map WorkItem.state =
      some .done ↔ c.FinishedBy (normalizePrUrl url) := by
  obtain ⟨-, d, hd, hlive, -⟩ := mergeTarget_item hs.wellFormed htarget
  rw [hc, Option.some.injEq] at hd
  have hopen : (b.marked id (normalizePrUrl url) c).state.items[id]?.map WorkItem.state ≠
      some .done := by
    change (b.state.editItem id (WorkItem.withPrMerged (normalizePrUrl url))).items[id]?.map
      WorkItem.state ≠ some .done
    rw [items_editItem_self, hc]
    change some c.state ≠ some .done
    rw [ne_eq, Option.some.injEq]
    intro hdone
    rw [← hd, hdone] at hlive
    cases hlive
  rw [state_completeForMergedPr]
  rcases run_completeForMergedPr_some (ε := Empty) hs.wellFormed number byWhom htarget hc with
    ⟨hmerged, text, heq⟩ | ⟨-, hlane, heq⟩ | ⟨hfinished, hsame⟩
  · rw [heq]
    refine iff_of_false hopen fun hfinished => ?_
    rw [hfinished.merged] at hmerged
    cases hmerged
  · rw [heq]
    exact iff_of_false hopen fun hfinished => hlane hfinished.lane
  · exact iff_of_true (finished_of_merge hs hn hc hfinished _ _ hsame).done hfinished

/-- Every operation that does not concern the list keeps it. -/
lemma carried_list {op : Operation} (hs : b.state.Sound) (hop : op.replacesPrs id = false)
    (h : ¬op.Concerns id b.state) :
    Carried (ListsNone id) (KeepsList id) b.state (b.exec op).state := by
  have hsame : ∀ {s : BoardState}, s = b.state →
      Carried (ListsNone id) (KeepsList id) b.state s := by
    rintro s rfl
    exact .of_cardwise rfl (.of_items_eq (fun _ _ _ => rfl) rfl)
  have hother : op.touchesPrs id = false →
      Carried (ListsNone id) (KeepsList id) b.state (b.exec op).state :=
    fun htouches => .exec (keepsList_law id) (Operation.editsIn_keepsList htouches) b
  cases op with
  | setPullRequests k prs => exact hother hop
  | reportPullRequest k pr =>
    by_cases hk : k = id
    · subst hk
      refine hsame (state_reportPullRequest_refused pr ?_)
      by_contra hnot
      rw [not_or, ← ne_eq, ← ne_eq, ← Option.isSome_iff_ne_none,
        ← Option.isSome_iff_ne_none] at hnot
      exact h ⟨rfl, hnot⟩
    · exact hother (beq_false_of_ne hk)
  | setPrUrl k url =>
    by_cases hk : k = id
    · subst hk
      have hnone : b.state.items[k]? = none := by
        by_contra hsome
        rw [← ne_eq, ← Option.isSome_iff_ne_none] at hsome
        exact h ⟨rfl, hsome⟩
      refine hsame ?_
      rw [state_setPrUrl, BoardState.editItem_of_none hnone]
    · exact hother (beq_false_of_ne hk)
  | completeForMergedPr url number byWhom =>
    cases htarget : b.state.mergeTarget (normalizePrUrl url) with
    | none =>
      refine hsame ?_
      rw [state_completeForMergedPr, run_completeForMergedPr_none number byWhom htarget]
    | some k =>
      obtain ⟨-, d, hd, -⟩ := mergeTarget_item hs.wellFormed htarget
      have hk : k ≠ id := fun hk => h (hk ▸ htarget)
      have hmark : Carried (ListsNone id) (KeepsList id) b.state
          (b.marked k (normalizePrUrl url) d).state :=
        (Carried.covers (keepsList_law id)).edit b.state fun c hk' => absurd hk' hk
      exact hmark.trans (keepsList_law id)
        (carried_completeForMergedPr hs number byWhom htarget hd id)
  | _ => exact hother rfl

end Board

/-! ## Runs -/

/-- The board is a reachable one, and the ledger of the card `id` says what its list is. -/
structure PrTracked (id : ItemId) (σ : Board × PrLedger) : Prop where
  sound : σ.1.state.Sound
  nested : σ.1.state.Nested
  unborn : σ.1.state.nextId ≤ id → σ.2 = .empty
  tracks : ∀ c, σ.1.state.items[id]? = some c → Tracks σ.2 c

namespace PrTracked

variable {id : ItemId} {b : Board} {l : PrLedger} {op : Operation} {c c' : WorkItem}

omit [UnicodeTables] in
lemma new (schema : Schema) (clock : ℕ → ℕ → Time) (saveSucceeds : ℕ → Bool) :
    PrTracked id (Board.new schema clock saveSucceeds, .empty) where
  sound := Board.sound_new _ _ _
  nested := .empty
  unborn _ := rfl
  tracks c hc := by
    have hnone : (Board.new schema clock saveSucceeds).state.items[id]? = none :=
      ExtTreeMap.getElem?_empty
    rw [hnone] at hc
    cases hc

/-- A step is tracked when the ledger says what the list of the card is then. -/
lemma step (h : PrTracked id (b, l)) (hc : b.state.items[id]? = some c)
    (htracks : ∀ c', (b.exec op).state.items[id]? = some c' →
      Tracks (op.entered id b.state l) c') : PrTracked id (prStep id (b, l) op) where
  sound := h.sound.reshaped (Board.reshaped_exec b op)
  nested := Board.nested_exec h.sound h.nested op
  unborn hid := by
    have hgrows := b.nextId_le_exec op
    exact absurd (h.sound.wellFormed.fresh id c hc) (Nat.not_lt.2 (hgrows.trans hid))
  tracks := htracks

/-- A step that does not concern the list is tracked. -/
lemma step_of_carried (h : PrTracked id (b, l)) (hop : op.replacesPrs id = false)
    (hconcerns : ¬op.Concerns id b.state) : PrTracked id (prStep id (b, l) op) := by
  have hcarried := Board.carried_list h.sound hop hconcerns
  have hledger : (prStep id (b, l) op).2 = l := Operation.entered_eq hconcerns l
  refine ⟨h.sound.reshaped (Board.reshaped_exec b op), Board.nested_exec h.sound h.nested op,
    fun hid => ?_, fun c' hc' => ?_⟩
  · rw [hledger]
    exact h.unborn (hcarried.grows.trans hid)
  · rw [hledger]
    rcases hcarried.card id c' hc' with ⟨hnew, hnone⟩ | ⟨c, hc, hkeeps⟩
    · have hempty : l = .empty := h.unborn hnew
      rw [hempty]
      exact .empty (hnone rfl)
    · exact (h.tracks c hc).of_eq (hkeeps rfl)

/-- A step that does not concern the list keeps it. -/
lemma intact_of_carried (h : PrTracked id (b, l)) (hop : op.replacesPrs id = false)
    (hconcerns : ¬op.Concerns id b.state) : PrsIntact id b l op where
  distinct c' hc' := by
    have htracks := (h.step_of_carried hop hconcerns).tracks c' hc'
    rw [htracks.prKeys_eq]
    exact htracks.distinct
  kept _ c c' hc hc' p hp := by
    have hkeeps := (Board.carried_list h.sound hop hconcerns).rel h.sound.wellFormed hc hc' rfl
    rw [hkeeps]
    exact ⟨p, hp, rfl, fun hmerged => hmerged⟩
  again pr key c heq hkey hc _ := by
    subst heq
    exact absurd ⟨rfl, by rw [hkey]; rfl, by rw [hc]; rfl⟩ hconcerns
  completes url number byWhom heq htarget := by
    subst heq
    exact absurd htarget hconcerns

omit [UnicodeTables] in
lemma keeps_of_not_concerns (hconcerns : ¬op.Concerns id b.state) : KeepsPrs id b op where
  first url u c p heq _ hc _ := by
    subst heq
    exact absurd ⟨rfl, by rw [hc]; rfl⟩ hconcerns
  lane url number byWhom c heq htarget _ := by
    subst heq
    exact absurd htarget hconcerns

/-- A report keeps the list. -/
lemma report {pr : PullRequest} (h : PrTracked id (b, l))
    (hconcerns : (Operation.reportPullRequest id pr).Concerns id b.state) :
    PrTracked id (prStep id (b, l) (.reportPullRequest id pr)) ∧
      PrsIntact id b l (.reportPullRequest id pr) ∧ KeepsPrs id b (.reportPullRequest id pr) := by
  obtain ⟨-, hkey, hcard⟩ := hconcerns
  obtain ⟨key, hkey⟩ := Option.isSome_iff_exists.1 hkey
  obtain ⟨c, hc⟩ := Option.isSome_iff_exists.1 hcard
  have htracks := h.tracks c hc
  obtain ⟨pr', hkey', hmerged, hc'⟩ := Board.item_reportPullRequest hkey hc
  have hledger : (Operation.reportPullRequest id pr).entered id b.state l =
      l.report key pr.merged := by
    unfold Operation.entered
    rw [if_neg (by rw [hc]; exact Bool.false_ne_true)]
    dsimp only
    rw [hkey]
    exact if_pos rfl
  have hafter : Tracks (l.report key pr.merged) (c.withPullRequests
      (WorkItem.withReportedPr.update key pr' c.pullRequests)) := by
    by_cases hknown : key ∈ l.listed
    · have hsame : l.report key pr.merged = l := if_pos hknown
      rw [hsame]
      exact htracks.again (update_of_mem (htracks.exists_entry hknown))
    · rw [← hmerged]
      refine htracks.first hknown hkey' (update_of_notMem fun p hp heq => ?_)
      exact hknown (htracks.mem_listed_iff.2 ⟨p, hp, heq⟩)
  refine ⟨h.step hc fun c' hc'' => ?_, ⟨fun c' hc'' => ?_, ?_, ?_, ?_⟩, ⟨?_, ?_⟩⟩
  · rw [hc', Option.some.injEq] at hc''
    rw [hledger, ← hc'']
    exact hafter
  · rw [hc', Option.some.injEq] at hc''
    rw [← hc'', hafter.prKeys_eq]
    exact hafter.distinct
  · intro _ d c' hd hc'' p hp
    rw [hc, Option.some.injEq] at hd
    rw [hc', Option.some.injEq] at hc''
    rw [← hd] at hp
    rw [← hc'']
    by_cases hknown : key ∈ l.listed
    · have hprs : List.Forall₂ (PullRequest.SameUpToEnds key) c.pullRequests
          (WorkItem.withReportedPr.update key pr' c.pullRequests) :=
        update_of_mem (htracks.exists_entry hknown)
      obtain ⟨p', hp', hsame⟩ := exists_of_forall₂ hprs.flip hp
      have hsame : PullRequest.SameUpToEnds key p p' := hsame
      exact ⟨p', hp', hsame.key_eq, fun hmerged => hsame.merged_eq.trans hmerged⟩
    · refine ⟨p, ?_, rfl, fun hmerged => hmerged⟩
      change p ∈ WorkItem.withReportedPr.update key pr' c.pullRequests
      rw [update_of_notMem fun q hq heq => hknown (htracks.mem_listed_iff.2 ⟨q, hq, heq⟩)]
      exact List.mem_append_left _ hp
  · intro pr₀ key₀ d heq hkey₀ hd hmem
    cases heq
    rw [hkey, Option.some.injEq] at hkey₀
    rw [hc, Option.some.injEq] at hd
    rw [← hkey₀, ← hd] at hmem ⊢
    rw [htracks.prKeys_eq] at hmem
    exact ⟨_, hc', update_of_mem (htracks.exists_entry hmem)⟩
  · intro url number byWhom heq
    cases heq
  · intro url u d p heq
    cases heq
  · intro url number byWhom d heq
    cases heq

/-- Setting the URL of the first entry keeps the list when the entry is that of its pull
request. -/
lemma setUrl {url : Option String} (h : PrTracked id (b, l))
    (hcard : b.state.items[id]?.isSome = true) :
    (KeepsPrs id b (.setPrUrl id url) → PrTracked id (prStep id (b, l) (.setPrUrl id url))) ∧
      (PrsIntact id b l (.setPrUrl id url) ↔ KeepsPrs id b (.setPrUrl id url)) := by
  obtain ⟨c, hc⟩ := Option.isSome_iff_exists.1 hcard
  have htracks := h.tracks c hc
  have hc' : (b.exec (.setPrUrl id url)).state.items[id]? =
      some (c.withPullRequests (Board.prsWithUrl url c.pullRequests)) := by
    rw [Board.state_setPrUrl, items_editItem_self, hc]
    rfl
  have hagain : ∀ pr key d, Operation.setPrUrl id url = .reportPullRequest id pr →
      pr.key = some key → b.state.items[id]? = some d → key ∈ d.prKeys →
        ∃ prs, (b.exec (.setPrUrl id url)).state.items[id]? = some (d.withPullRequests prs) ∧
          List.Forall₂ (PullRequest.SameUpToEnds key) d.pullRequests prs := by
    intro pr key d heq
    cases heq
  have hcompletes : ∀ u number byWhom, Operation.setPrUrl id url =
      .completeForMergedPr u number byWhom → b.state.mergeTarget (normalizePrUrl u) = some id →
        ((b.exec (.setPrUrl id url)).state.items[id]?.map WorkItem.state = some .done ↔
          ((Operation.setPrUrl id url).entered id b.state l).AllMerged) := by
    intro u number byWhom heq
    cases heq
  have hlane : ∀ u number byWhom d, Operation.setPrUrl id url =
      .completeForMergedPr u number byWhom → b.state.mergeTarget (normalizePrUrl u) = some id →
        b.state.items[id]? = some d → (d.state = .review ∨ d.state = .needsHuman) ∨
          ∃ p ∈ d.pullRequests, p.key ≠ some (normalizePrUrl u) ∧ p.merged = false := by
    intro u number byWhom d heq
    cases heq
  have hentered : (Operation.setPrUrl id url).entered id b.state l =
      match givenUrl url with
      | some u => l.report (normalizePrUrl u) false
      | none => .empty := by
    unfold Operation.entered
    rw [if_neg (by rw [hc]; exact Bool.false_ne_true)]
    exact if_pos rfl
  -- what holds once the ledger says what the list is
  have hof : ∀ l', (Operation.setPrUrl id url).entered id b.state l = l' →
      Tracks l' (c.withPullRequests (Board.prsWithUrl url c.pullRequests)) →
        ((givenUrl url).isNone = false → ∀ p ∈ c.pullRequests,
          ∃ p' ∈ Board.prsWithUrl url c.pullRequests,
            p'.key = p.key ∧ (p.merged = true → p'.merged = true)) →
        PrTracked id (prStep id (b, l) (.setPrUrl id url)) ∧
          PrsIntact id b l (.setPrUrl id url) := by
    rintro l' rfl hafter hkept
    refine ⟨h.step hc fun c' hc'' => ?_, fun c' hc'' => ?_, fun hclears d c' hd hc'' => ?_,
      hagain, hcompletes⟩
    · rw [hc', Option.some.injEq] at hc''
      rw [← hc'']
      exact hafter
    · rw [hc', Option.some.injEq] at hc''
      rw [← hc'', hafter.prKeys_eq]
      exact hafter.distinct
    · rw [hc', Option.some.injEq] at hc''
      rw [hc, Option.some.injEq] at hd
      rw [← hd, ← hc'']
      refine hkept ?_
      rw [Operation.clearsPrs, beq_self_eq_true, Bool.true_and] at hclears
      exact hclears
  cases hgiven : givenUrl url with
  | none =>
    rw [hgiven] at hentered
    have hempty : Board.prsWithUrl url c.pullRequests = [] := by
      unfold Board.prsWithUrl
      rw [hgiven]
    have hdone := hof _ hentered (.empty hempty) fun hsome => by
      rw [hgiven] at hsome
      cases hsome
    refine ⟨fun _ => hdone.1, iff_of_true hdone.2 ⟨fun url₀ u d p heq hu _ _ => ?_, hlane⟩⟩
    cases heq
    rw [hgiven] at hu
    cases hu
  | some u =>
    rw [hgiven] at hentered
    cases hlist : c.pullRequests with
    | nil =>
      have hset : Board.prsWithUrl url c.pullRequests = [PullRequest.fromUrl u] := by
        unfold Board.prsWithUrl
        rw [hgiven, hlist]
      have htrim : trim u = u := by
        obtain ⟨hu, -⟩ := Option.filter_eq_some_iff.1 hgiven
        obtain ⟨v, -, rfl⟩ := Option.map_eq_some_iff.1 hu
        exact trim_trim v
      have hkey : (PullRequest.fromUrl u).key = some (normalizePrUrl u) :=
        key_of_givenUrl hgiven htrim
      have hnew : normalizePrUrl u ∉ l.listed := by
        rw [htracks.mem_listed_iff, hlist]
        rintro ⟨p, hp, -⟩
        exact absurd hp List.not_mem_nil
      have hdone := hof _ hentered (htracks.first hnew hkey (by rw [hlist, ← hset, hlist]; rfl))
        fun _ p hp => absurd (hlist ▸ hp) List.not_mem_nil
      refine ⟨fun _ => hdone.1, iff_of_true hdone.2 ⟨fun url₀ u₀ d p _ _ hd hp => ?_, hlane⟩⟩
      rw [hc, Option.some.injEq] at hd
      rw [← hd, hlist] at hp
      cases hp
    | cons p ps =>
      have hset : Board.prsWithUrl url c.pullRequests = { p with url := u } :: ps := by
        unfold Board.prsWithUrl
        rw [hgiven, hlist]
      have hkey : ({ p with url := u } : PullRequest).key = some (normalizePrUrl u) :=
        key_of_givenUrl hgiven rfl
      by_cases hsame : p.key = some (normalizePrUrl u)
      · have hknown : normalizePrUrl u ∈ l.listed := by
          refine htracks.mem_listed_iff.2 ⟨p, ?_, hsame⟩
          rw [hlist]
          exact List.mem_cons_self
        have hledger : l.report (normalizePrUrl u) false = l := if_pos hknown
        have hdone := hof l (hentered.trans hledger)
          (htracks.renamed hlist (hkey.trans hsame.symm) rfl hset) fun _ q hq => by
            rw [hset]
            rw [hlist] at hq
            rcases List.mem_cons.1 hq with rfl | hq
            · exact ⟨_, List.mem_cons_self, hkey.trans hsame.symm, fun hmerged => hmerged⟩
            · exact ⟨q, List.mem_cons_of_mem _ hq, rfl, fun hmerged => hmerged⟩
        refine ⟨fun _ => hdone.1, iff_of_true hdone.2 ⟨fun url₀ u₀ d q heq hu hd hq => ?_, hlane⟩⟩
        cases heq
        rw [hgiven, Option.some.injEq] at hu
        rw [hc, Option.some.injEq] at hd
        rw [← hd, hlist, List.head?_cons, Option.some.injEq] at hq
        rw [← hq, ← hu]
        exact hsame
      · -- the first entry is lost
        have hnot : ¬KeepsPrs id b (.setPrUrl id url) := fun hkeeps =>
          hsame (hkeeps.first url u c p rfl hgiven hc (by rw [hlist]; rfl))
        refine ⟨fun hkeeps => absurd hkeeps hnot, iff_of_false (fun hintact => ?_) hnot⟩
        have hclears : (Operation.setPrUrl id url).clearsPrs id = false := by
          rw [Operation.clearsPrs, hgiven, beq_self_eq_true]
          rfl
        obtain ⟨q, hq, hqkey, -⟩ := hintact.kept hclears c _ hc hc' p
          (by rw [hlist]; exact List.mem_cons_self)
        rw [hset] at hq
        rcases List.mem_cons.1 hq with rfl | hq
        · exact hsame (hqkey.symm.trans hkey)
        · have hnodup : ((p :: ps).map PullRequest.key).Nodup := by
            rw [← hlist, htracks.keys]
            exact htracks.distinct.map (Option.some_injective _)
          rw [List.map_cons, List.nodup_cons] at hnodup
          exact hnodup.1 (hqkey ▸ List.mem_map_of_mem hq)

/-- A merge that is recorded on the card makes it Done when all pull requests are merged, unless
the card is elsewhere then. -/
lemma merge {url : String} {number : Option ℕ} {byWhom : String} (h : PrTracked id (b, l))
    (htarget : b.state.mergeTarget (normalizePrUrl url) = some id) :
    PrTracked id (prStep id (b, l) (.completeForMergedPr url number byWhom)) ∧
      (PrsIntact id b l (.completeForMergedPr url number byWhom) ↔
        KeepsPrs id b (.completeForMergedPr url number byWhom)) := by
  have hs : b.state.Sound := h.sound
  have hn : b.state.Nested := h.nested
  obtain ⟨-, c, hc, -, hlists⟩ := Board.mergeTarget_item hs.wellFormed htarget
  have htracks := h.tracks c hc
  have hknown : normalizePrUrl url ∈ l.listed := by
    obtain ⟨p, hp, hurl⟩ := List.any_eq_true.1 hlists
    exact htracks.mem_listed_iff.2 ⟨p, hp, hasUrl_iff.1 hurl⟩
  have hledger : (Operation.completeForMergedPr url number byWhom).entered id b.state l =
      l.merge (normalizePrUrl url) := by
    unfold Operation.entered
    rw [if_neg (by rw [hc]; exact Bool.false_ne_true)]
    exact if_pos htarget
  have hmark : (b.marked id (normalizePrUrl url) c).state.items[id]? =
      some (c.withPrMerged (normalizePrUrl url)) := by
    change (b.state.editItem id (WorkItem.withPrMerged (normalizePrUrl url))).items[id]? = _
    rw [items_editItem_self, hc]
    rfl
  have hmarked : (b.marked id (normalizePrUrl url) c).state.WellFormed :=
    hs.wellFormed.reshaped (.edit id fun _ => ⟨rfl, rfl, rfl, rfl, fun hplan => hplan⟩)
  have hlist : ∀ c', (b.exec (.completeForMergedPr url number byWhom)).state.items[id]? =
      some c' → c'.pullRequests = (c.withPrMerged (normalizePrUrl url)).pullRequests := by
    intro c' hc'
    have hcarried := Board.carried_completeForMergedPr hs number byWhom htarget hc id
    have hkeeps : KeepsList id id (c.withPrMerged (normalizePrUrl url)) c' :=
      hcarried.rel hmarked hmark hc'
    exact hkeeps rfl
  have hafter : ∀ c' : WorkItem,
      c'.pullRequests = (c.withPrMerged (normalizePrUrl url)).pullRequests →
        Tracks (l.merge (normalizePrUrl url)) c' := fun c' hc' => htracks.marked hknown hc'
  refine ⟨h.step hc fun c' hc' => ?_, fun hintact => ⟨?_, ?_⟩, fun hkeeps =>
    ⟨fun c' hc' => ?_, fun _ d c' hd hc' p hp => ?_, ?_, ?_⟩⟩
  · rw [hledger]
    exact hafter c' (hlist c' hc')
  · intro url₀ u d p heq
    cases heq
  · intro url₀ number₀ byWhom₀ d heq htarget₀ hd
    cases heq
    rw [hc, Option.some.injEq] at hd
    rw [← hd]
    by_cases hopen : ∃ p ∈ c.pullRequests, p.key ≠ some (normalizePrUrl url) ∧ p.merged = false
    · exact Or.inr hopen
    · refine Or.inl ?_
      have hall : (l.merge (normalizePrUrl url)).AllMerged := by
        refine ⟨List.ne_nil_of_mem hknown, fun key hkey => ?_⟩
        obtain ⟨p, hp, hpkey⟩ := htracks.exists_entry hkey
        by_cases heq : key = normalizePrUrl url
        · rw [heq]
          exact List.mem_cons_self
        · refine List.mem_cons_of_mem _ ((htracks.merged p hp key hpkey).1 ?_)
          by_contra hmerged
          refine hopen ⟨p, hp, ?_, Bool.not_eq_true _ ▸ hmerged⟩
          rw [hpkey, ne_eq, Option.some.injEq]
          exact heq
      have hdone := (hintact.completes url number byWhom rfl htarget).2
        (by rw [hledger]; exact hall)
      exact ((Board.done_completeForMergedPr_iff hs hn number byWhom htarget hc).1
        hdone).lane
  · rw [(hafter c' (hlist c' hc')).prKeys_eq]
    exact htracks.distinct
  · rw [hc, Option.some.injEq] at hd
    rw [← hd] at hp
    rw [hlist c' hc']
    refine ⟨_, List.mem_map_of_mem hp, Tracks.key_marked _ p, fun hmerged => ?_⟩
    split
    · rfl
    · exact hmerged
  · intro pr key d heq
    cases heq
  · intro url₀ number₀ byWhom₀ heq htarget₀
    cases heq
    rw [Board.done_completeForMergedPr_iff hs hn number byWhom htarget hc, hledger,
      (hafter _ rfl).allMerged_iff]
    refine ⟨fun hfinished => hfinished.merged, fun hmerged => ⟨?_, hmerged⟩⟩
    refine (hkeeps.lane url number byWhom c rfl htarget hc).resolve_right ?_
    rintro ⟨p, hp, hpkey, hopen⟩
    obtain ⟨key, hkey, heq⟩ := htracks.listed_of_mem hp
    have hin := ((hafter _ rfl).allMerged_iff.2 hmerged).2 key hkey
    rcases List.mem_cons.1 hin with hsame | hin
    · rw [heq, hsame] at hpkey
      exact hpkey rfl
    · rw [(htracks.merged p hp key heq).2 hin] at hopen
      cases hopen

/-- A step keeps the list exactly when it meets the condition. -/
lemma intact_iff (h : PrTracked id (b, l)) (hop : op.replacesPrs id = false) :
    (KeepsPrs id b op → PrTracked id (prStep id (b, l) op)) ∧
      (PrsIntact id b l op ↔ KeepsPrs id b op) := by
  by_cases hconcerns : op.Concerns id b.state
  · cases op with
    | reportPullRequest k pr =>
      obtain rfl : k = id := hconcerns.1
      obtain ⟨htracked, hintact, hkeeps⟩ := h.report hconcerns
      exact ⟨fun _ => htracked, iff_of_true hintact hkeeps⟩
    | setPrUrl k url =>
      obtain rfl : k = id := hconcerns.1
      exact h.setUrl hconcerns.2
    | completeForMergedPr url number byWhom =>
      obtain ⟨htracked, hiff⟩ := h.merge hconcerns
      exact ⟨fun _ => htracked, hiff⟩
    | _ => exact hconcerns.elim
  · exact ⟨fun _ => h.step_of_carried hop hconcerns,
      iff_of_true (h.intact_of_carried hop hconcerns) (keeps_of_not_concerns hconcerns)⟩

end PrTracked

/-- The board of a run with the ledger is that of the run. -/
lemma fst_prAfter (id : ItemId) (b : Board) (l : PrLedger) (ops : List Operation) :
    (Run.after (prStep id) (b, l) ops).1 = b.after ops := by
  induction ops generalizing b l with
  | nil => rfl
  | cons op ops ih => exact ih (b.exec op) _

/-- A run after which the card lists a pull request twice. -/
lemma not_prsIntact_of_twice {id : ItemId} {b : Board} {l : PrLedger} {ops : List Operation}
    {op : Operation} {keys : List String}
    (hkeys : ((b.after ops).exec op).state.items[id]?.map WorkItem.prKeys = some keys)
    (htwice : ¬keys.Nodup) :
    ¬Run.Meets (prStep id) (fun σ op => PrsIntact id σ.1 σ.2 op) (b, l) (ops ++ [op]) := by
  refine Run.not_meets_of_last fun hintact => htwice ?_
  obtain ⟨c, hc, hkeys⟩ := Option.map_eq_some_iff.1 hkeys
  rw [← hkeys]
  exact hintact.distinct c (by rw [fst_prAfter]; exact hc)

end Unicode

/-- A Task with two pull requests, of which the first one is merged when an agent proposes to split
it: the URL of the open one is then written over that of the merged one. -/
def splitOps : List Operation :=
  [.create ⟨none, "Docs", "", none, .human, false, none⟩,
    .createTask 1 "Guide" "" "written" [] none false,
    .reportPullRequest 3 (.fromUrl "https://github.com/acme/app/pull/1"),
    .reportPullRequest 3 (.fromUrl "https://github.com/acme/app/pull/2"),
    .completeForMergedPr "https://github.com/acme/app/pull/1" (some 1) "github-webhook"]

/-- The operation that the split runs. -/
def splitUrl : Operation := .setPrUrl 3 (some "https://github.com/acme/app/pull/2")

set_option maxRecDepth 100000 in
/-- The open pull request is listed twice then, and the merged one no more. -/
lemma prKeys_split :
    let := asciiTables
    (((((Board.new Schema.default (fun _ _ => 0) fun _ => true).after splitOps).exec
      splitUrl).state.items[3]?).map WorkItem.prKeys) =
        some ["https://github.com/acme/app/pull/2", "https://github.com/acme/app/pull/2"] := by
  decide +kernel

end Sandboard

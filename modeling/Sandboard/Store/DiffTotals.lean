import Sandboard.Library.MachineSum
import Sandboard.Store.Operation

/-!
# Totals of changed lines

The supervisor adds up the counts of `git diff --numstat` for a run that reports none
(`parseDiffstat`, `finishDiff`), and the snapshot adds up the counts of the cards in Review of each
Project (`reviewChunk`).  Both add words of 32 bits, so they compute the sums of the counts exactly
when these fit into a word (`diffTotals_iff`); otherwise the program stops or shows a wrong count.
-/

namespace Sandboard

open Std Text

/-! ## The counts of a diff -/

/-- `str::parse::<u32>`. -/
def parseU32 (s : String) : Option (BitVec 32) :=
  ((parseU64 s).filter fun n => n < 2 ^ 32).map (BitVec.ofNat 32)

/-- Add a field of a line, when it is a count. -/
def addCount (ov : Overflow) (n : BitVec 32) (field : String) : Option (BitVec 32) :=
  match parseU32 field with
  | some count => ov.add n count
  | none => some n

/-- The totals after one more line. -/
def diffstatLine (ov : Overflow) (totals : BitVec 32 × BitVec 32) (line : String) :
    Option (BitVec 32 × BitVec 32) :=
  let line := trim line
  if line.isEmpty then some totals
  else
    match splitWhitespace line with
    | a :: r :: _ => do
      let added ← addCount ov totals.1 a
      let removed ← addCount ov totals.2 r
      some (added, removed)
    | _ => some totals

/-- The added and the removed lines of the output of `git diff --numstat`. -/
def parseDiffstat (ov : Overflow) (stdout : String) : Option (BitVec 32 × BitVec 32) :=
  (lines stdout).foldlM (diffstatLine ov) (0, 0)

/-- The counts of a run that ends: what the agent reported, and those of the diff when it reported
none and the diff could be taken. -/
def finishDiff (ov : Overflow) (reported : BitVec 32 × BitVec 32) (diff : Option String) :
    Option (BitVec 32 × BitVec 32) :=
  if reported.1 = 0 ∧ reported.2 = 0 then
    match diff with
    | some stdout => parseDiffstat ov stdout
    | none => some reported
  else some reported

/-- The counts of a line. -/
def lineCounts (line : String) : List (BitVec 32) × List (BitVec 32) :=
  match splitWhitespace (trim line) with
  | a :: r :: _ => ((parseU32 a).toList, (parseU32 r).toList)
  | _ => ([], [])

/-- All counts of added lines. -/
def addedCounts (stdout : String) : List (BitVec 32) :=
  (lines stdout).flatMap fun line => (lineCounts line).1

/-- All counts of removed lines. -/
def removedCounts (stdout : String) : List (BitVec 32) :=
  (lines stdout).flatMap fun line => (lineCounts line).2

/-- Two lists of counts whose sums fit into a word each. -/
def Fit (added removed : List (BitVec 32)) : Prop :=
  Overflow.total added < 2 ^ 32 ∧ Overflow.total removed < 2 ^ 32

/-- A computed pair of totals is the pair of the sums. -/
def Exact (added removed : List (BitVec 32)) (totals : Option (BitVec 32 × BitVec 32)) : Prop :=
  ∃ n, totals = some n ∧ n.1.toNat = Overflow.total added ∧ n.2.toNat = Overflow.total removed

lemma Exact.fit {added removed : List (BitVec 32)} {totals : Option (BitVec 32 × BitVec 32)}
    (h : Exact added removed totals) : Fit added removed := by
  obtain ⟨n, -, hadded, hremoved⟩ := h
  exact ⟨hadded ▸ n.1.isLt, hremoved ▸ n.2.isLt⟩

/-- A field is added as a list of at most one count. -/
lemma addCount_eq (ov : Overflow) (n : BitVec 32) (field : String) :
    addCount ov n field = ov.sumFrom n (parseU32 field).toList := by
  unfold addCount
  cases parseU32 field with
  | none => rfl
  | some count =>
    rw [Option.toList_some, Overflow.sumFrom, List.foldlM_cons]
    exact (bind_pure (ov.add n count)).symm

/-- A line whose counts can be added is added. -/
lemma diffstatLine_of_lt (ov : Overflow) {totals : BitVec 32 × BitVec 32} (line : String)
    (hadded : totals.1.toNat + Overflow.total (lineCounts line).1 < 2 ^ 32)
    (hremoved : totals.2.toNat + Overflow.total (lineCounts line).2 < 2 ^ 32) :
    ∃ n, diffstatLine ov totals line = some n ∧
      n.1.toNat = totals.1.toNat + Overflow.total (lineCounts line).1 ∧
      n.2.toNat = totals.2.toNat + Overflow.total (lineCounts line).2 := by
  unfold diffstatLine
  dsimp only
  split
  · rename_i hempty
    have hnone : lineCounts line = ([], []) := by
      unfold lineCounts
      rw [String.isEmpty_iff.1 hempty]
      rfl
    rw [hnone]
    exact ⟨totals, rfl, rfl, rfl⟩
  · unfold lineCounts at hadded hremoved ⊢
    split
    · rename_i a r rest heq
      rw [heq] at hadded hremoved
      obtain ⟨n, hn, hn'⟩ := ov.sumFrom_of_lt hadded
      obtain ⟨m, hm, hm'⟩ := ov.sumFrom_of_lt hremoved
      refine ⟨(n, m), ?_, hn', hm'⟩
      rw [addCount_eq, addCount_eq, hn, hm]
      rfl
    · exact ⟨totals, rfl, rfl, rfl⟩

/-- Lines whose counts can be added are added. -/
lemma foldlM_diffstatLine (ov : Overflow) (ls : List String) {t : BitVec 32 × BitVec 32}
    (hadded : t.1.toNat + Overflow.total (ls.flatMap fun l => (lineCounts l).1) < 2 ^ 32)
    (hremoved : t.2.toNat + Overflow.total (ls.flatMap fun l => (lineCounts l).2) < 2 ^ 32) :
    ∃ n, ls.foldlM (diffstatLine ov) t = some n ∧
      n.1.toNat = t.1.toNat + Overflow.total (ls.flatMap fun l => (lineCounts l).1) ∧
      n.2.toNat = t.2.toNat + Overflow.total (ls.flatMap fun l => (lineCounts l).2) := by
  induction ls generalizing t with
  | nil => exact ⟨t, rfl, rfl, rfl⟩
  | cons line ls ih =>
    rw [List.flatMap_cons, Overflow.total_append, ← Nat.add_assoc] at hadded hremoved
    obtain ⟨n, hline, hn, hm⟩ := diffstatLine_of_lt ov line
      (Nat.lt_of_le_of_lt (Nat.le_add_right _ _) hadded)
      (Nat.lt_of_le_of_lt (Nat.le_add_right _ _) hremoved)
    rw [← hn] at hadded
    rw [← hm] at hremoved
    obtain ⟨n', hrest, hn', hm'⟩ := ih hadded hremoved
    refine ⟨n', ?_, ?_, ?_⟩
    · rw [List.foldlM_cons, hline]
      exact hrest
    · rw [hn', hn, List.flatMap_cons, Overflow.total_append, Nat.add_assoc]
    · rw [hm', hm, List.flatMap_cons, Overflow.total_append, Nat.add_assoc]

/-- The counts of a diff are added up exactly when they fit. -/
lemma exact_parseDiffstat_iff (ov : Overflow) (stdout : String) :
    Exact (addedCounts stdout) (removedCounts stdout) (parseDiffstat ov stdout) ↔
      Fit (addedCounts stdout) (removedCounts stdout) := by
  refine ⟨Exact.fit, fun hfit => ?_⟩
  have hzero : (0 : BitVec 32).toNat = 0 := rfl
  obtain ⟨n, hrun, hn, hm⟩ := foldlM_diffstatLine ov (lines stdout) (t := (0, 0))
    (by rw [hzero, Nat.zero_add]; exact hfit.1) (by rw [hzero, Nat.zero_add]; exact hfit.2)
  rw [hzero, Nat.zero_add] at hn hm
  exact ⟨n, hrun, hn, hm⟩

/-- The counts of a run that ends are right exactly when it does not have to add counts that do
not fit. -/
lemma exact_finishDiff_iff (ov : Overflow) (reported : BitVec 32 × BitVec 32) (stdout : String) :
    (if reported.1 = 0 ∧ reported.2 = 0 then
        Exact (addedCounts stdout) (removedCounts stdout) (finishDiff ov reported (some stdout))
      else finishDiff ov reported (some stdout) = some reported) ↔
      (reported = (0, 0) → Fit (addedCounts stdout) (removedCounts stdout)) := by
  obtain ⟨a, r⟩ := reported
  unfold finishDiff
  by_cases hnone : a = 0 ∧ r = 0
  · obtain ⟨rfl, rfl⟩ := hnone
    simp only [and_self, if_true, forall_const]
    exact exact_parseDiffstat_iff ov stdout
  · have hne : (a, r) ≠ (0, 0) := by
      rw [Ne, Prod.mk.injEq]
      exact hnone
    rw [if_neg hnone]
    dsimp only
    rw [if_neg hnone]
    exact ⟨fun _ heq => absurd heq hne, fun _ => rfl⟩

/-! ## The Review column -/

/-- The columns of the board. -/
inductive Column where
  | intake
  | shaping
  | backlog
  | running
  | needsYou
  | review
  | done
  | retired
  deriving DecidableEq

def State.column : State → Column
  | .draft => .intake
  | .shaping => .shaping
  | .backlog => .backlog
  | .claimed | .running | .splitting => .running
  | .needsHuman => .needsYou
  | .review => .review
  | .done => .done
  | .retired => .retired

/-- Age for the staleness of a Review: since the oldest unmerged pull request was reported, else
since the card entered its state. -/
def WorkItem.oldestUnmergedAge (i : WorkItem) (now : Time) : Time :=
  match (i.unmergedPrs.filterMap PullRequest.reportedAt).min? with
  | some reported => now - reported
  | none => now - i.enteredStateAt

/-- Human-readable elapsed time. -/
def humanize (d : Time) : String :=
  let secs := (max (d.tdiv (seconds 1)) 0).toNat
  if secs < 60 then s!"{secs}s"
  else if secs < 3600 then s!"{secs / 60}m"
  else
    let h := secs / 3600
    let m := secs % 3600 / 60
    if m = 0 then s!"{h}h" else s!"{h}h {m}m"

/-- The rollup of a column. -/
structure ChunkSummary where
  count : ℕ
  text : String
  deriving DecidableEq

namespace BoardState

/-- The Projects, each of which is a lane of the board. -/
def goalIds (s : BoardState) : List ItemId :=
  (s.cards.filter fun i => i.parent.isNone).map WorkItem.id

/-- The cards of a Project in Review. -/
def reviewItems (s : BoardState) (gid : ItemId) : List WorkItem :=
  ((s.childrenOfIndexed gid).filterMap fun id => s.items[id]?).filter fun i =>
    i.state.column = .review

end BoardState

/-- The counts of added lines on a list of cards. -/
def cardsAdded (items : List WorkItem) : List (BitVec 32) := items.map fun i => i.diffAdded.toBitVec

/-- The counts of removed lines on a list of cards. -/
def cardsRemoved (items : List WorkItem) : List (BitVec 32) :=
  items.map fun i => i.diffRemoved.toBitVec

/-- The totals of the cards in Review. -/
def reviewSums (ov : Overflow) (items : List WorkItem) : Option (BitVec 32 × BitVec 32) := do
  let added ← ov.sum (cardsAdded items)
  let removed ← ov.sum (cardsRemoved items)
  some (added, removed)

/-- The text of the rollup. -/
def reviewText (items : List WorkItem) (now : Time) (added removed : ℕ) : String :=
  let oldest := ((items.map fun i => i.oldestUnmergedAge now).max?).getD 0
  s!"{items.length} awaiting review · +{added} −{removed} · oldest {humanize oldest}"

/-- The rollup of the Review column of a Project; none when the program stops. -/
def reviewChunk (ov : Overflow) (s : BoardState) (now : Time) (gid : ItemId) :
    Option ChunkSummary :=
  let items := s.reviewItems gid
  if items.isEmpty then some ⟨0, "empty"⟩
  else do
    let (added, removed) ← reviewSums ov items
    some ⟨items.length, reviewText items now added.toNat removed.toNat⟩

/-- The rollups of the Review columns of all Projects, in a snapshot. -/
def snapshotReviews (ov : Overflow) (s : BoardState) (now : Time) : Option (List ChunkSummary) :=
  s.goalIds.mapM (reviewChunk ov s now)

/-- The rollup with the sums of the counts as numbers. -/
def exactChunk (s : BoardState) (now : Time) (gid : ItemId) : ChunkSummary :=
  let items := s.reviewItems gid
  if items.isEmpty then ⟨0, "empty"⟩
  else ⟨items.length, reviewText items now (Overflow.total (cardsAdded items))
    (Overflow.total (cardsRemoved items))⟩

/-- The counts of a Project's cards in Review fit. -/
def ReviewFits (s : BoardState) (gid : ItemId) : Prop :=
  Fit (cardsAdded (s.reviewItems gid)) (cardsRemoved (s.reviewItems gid))

/-- The totals of cards are the sums of their counts exactly when these fit. -/
lemma exact_reviewSums_iff (ov : Overflow) (items : List WorkItem) :
    Exact (cardsAdded items) (cardsRemoved items) (reviewSums ov items) ↔
      Fit (cardsAdded items) (cardsRemoved items) := by
  refine ⟨Exact.fit, fun hfit => ?_⟩
  obtain ⟨n, hn, hadded⟩ := (ov.sum_exact_iff _).2 hfit.1
  obtain ⟨m, hm, hremoved⟩ := (ov.sum_exact_iff _).2 hfit.2
  refine ⟨(n, m), ?_, hadded, hremoved⟩
  rw [reviewSums, hn, hm]
  rfl

/-- A rollup of counts that fit. -/
lemma reviewChunk_of_fits (ov : Overflow) {s : BoardState} {gid : ItemId}
    (hfits : ReviewFits s gid) (now : Time) :
    reviewChunk ov s now gid = some (exactChunk s now gid) := by
  obtain ⟨⟨added, removed⟩, hsums, hadded, hremoved⟩ := (exact_reviewSums_iff ov _).2 hfits
  unfold reviewChunk exactChunk
  dsimp only
  split
  · rfl
  · rw [hsums, ← hadded, ← hremoved]
    rfl

/-- A snapshot whose counts fit. -/
lemma snapshotReviews_of_fits (ov : Overflow) {s : BoardState}
    (hfits : ∀ gid ∈ s.goalIds, ReviewFits s gid) (now : Time) :
    snapshotReviews ov s now = some (s.goalIds.map (exactChunk s now)) := by
  unfold snapshotReviews
  generalize s.goalIds = gids at hfits ⊢
  induction gids with
  | nil => rfl
  | cons gid gids ih =>
    rw [List.mapM_cons, reviewChunk_of_fits ov (hfits gid List.mem_cons_self),
      ih fun g hg => hfits g (List.mem_cons_of_mem _ hg)]
    rfl

/-! ## The totals -/

/-- The totals of a board, of a run that ends and of a diff are right. -/
structure TotalsExact (ov : Overflow) (s : BoardState) (reported : BitVec 32 × BitVec 32)
    (stdout : String) : Prop where
  parsed : Exact (addedCounts stdout) (removedCounts stdout) (parseDiffstat ov stdout)
  finished : if reported.1 = 0 ∧ reported.2 = 0 then
      Exact (addedCounts stdout) (removedCounts stdout) (finishDiff ov reported (some stdout))
    else finishDiff ov reported (some stdout) = some reported
  reviews : ∀ gid ∈ s.goalIds, Exact (cardsAdded (s.reviewItems gid))
    (cardsRemoved (s.reviewItems gid)) (reviewSums ov (s.reviewItems gid))
  snapshot : ∀ now, snapshotReviews ov s now = some (s.goalIds.map (exactChunk s now))

/-- However the program was built, and on every board that it reaches: the totals of a diff, of a
run that ends and of the Review columns are the sums of their counts exactly when the counts of the
diff and those of each Project's cards in Review fit into 32 bits. -/
theorem diffTotals_iff [UnicodeTables] (ov : Overflow) (schema : Schema) (clock : ℕ → ℕ → Time)
    (saveSucceeds : ℕ → Bool) (ops : List Operation) (reported : BitVec 32 × BitVec 32)
    (stdout : String) :
    TotalsExact ov (Board.reached schema clock saveSucceeds ops) reported stdout ↔
      Fit (addedCounts stdout) (removedCounts stdout) ∧
        ∀ gid ∈ (Board.reached schema clock saveSucceeds ops).goalIds,
          ReviewFits (Board.reached schema clock saveSucceeds ops) gid := by
  constructor
  · intro h
    exact ⟨h.parsed.fit, fun gid hgid => (h.reviews gid hgid).fit⟩
  · rintro ⟨hdiff, hreviews⟩
    exact ⟨(exact_parseDiffstat_iff ov stdout).2 hdiff,
      (exact_finishDiff_iff ov reported stdout).2 fun _ => hdiff,
      fun gid hgid => (exact_reviewSums_iff ov _).2 (hreviews gid hgid),
      snapshotReviews_of_fits ov hreviews⟩

/-- Two Tasks whose agents report half of the range of a word each. -/
def hugeReportsRun : List Operation :=
  [.create ⟨none, "Docs", "", none, .human, false, none⟩,
    .createTask 1 "Guide" "" "written" [] none false,
    .createTask 1 "Index" "" "written" [] none false,
    .claim 3 "agent" none 60, .report 3 "agent" 2147483648 0 [],
    .claim 4 "agent" none 60, .report 4 "agent" 2147483648 0 []]

set_option maxRecDepth 100000 in
/-- The snapshot of the board stops, or shows no added lines. -/
theorem not_totals_hugeReports :
    let := asciiTables
    ∀ ov reported stdout, ¬TotalsExact ov
      (Board.reached Schema.default (fun _ _ => 0) (fun _ => true) hugeReportsRun) reported
        stdout := by
  intro tables ov reported stdout h
  have hgoal : 1 ∈ (Board.reached Schema.default (fun _ _ => 0) (fun _ => true)
      hugeReportsRun).goalIds := by
    decide
  have htotal : Overflow.total (cardsAdded ((Board.reached Schema.default (fun _ _ => 0)
      (fun _ => true) hugeReportsRun).reviewItems 1)) = 2 ^ 32 := by
    decide
  exact absurd (htotal ▸ (h.reviews 1 hgoal).fit.1) (by decide)

end Sandboard

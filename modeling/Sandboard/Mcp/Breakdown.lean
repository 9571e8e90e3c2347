import Sandboard.Store.Fulfilling

/-!
# Breakdowns

`proposeBreakdown` turns a list of children into the rows of a proposal: a child without a key gets
one from its position, and the ids of cards that block it become keys, through the rows of an older
proposal or as `id-` and the number.  An approval of the proposal then blocks the Task of a row by
the Tasks of the rows whose keys it names.

A blocker is lost where a key is that of no row.  `kept_iff` says for which breakdowns none is.
-/

namespace Sandboard

open Std Text BoardState

/-! ## The tool -/

/-- A Task of a breakdown. -/
structure ChildSpec where
  title : String
  intent : String
  definitionOfDone : String
  capability : Option String
  key : Option String
  blockedByKeys : List String
  /-- Legacy: ids of cards. -/
  blockedBy : List ItemId

structure BreakdownArg where
  parent : ItemId
  children : List ChildSpec
  summary : Option String

/-- The keys of the rows that an older proposal has Tasks for; of two, the later one counts. -/
def idToKey (proposal : Option TaskProposal) : List (ItemId × String) :=
  (((proposal.map TaskProposal.tasks).getD []).filterMap fun t =>
    t.itemId.map fun id => (id, t.key)).reverse

namespace ChildSpec

/-- The key that the caller gave. -/
def ownKey (c : ChildSpec) : Option String :=
  c.key.filter fun k => !isBlank k

/-- The key of the child at position `idx`. -/
def rowKey (idx : ℕ) (c : ChildSpec) : String :=
  c.ownKey.getD s!"t{idx + 1}"

/-- The key that stands for a card. -/
def blockerKey (known : List (ItemId × String)) (bid : ItemId) : String :=
  (known.lookup bid).getD s!"id-{bid}"

/-- The keys that the child names, those of its cards included. -/
def allKeys (known : List (ItemId × String)) (c : ChildSpec) : List String :=
  c.blockedBy.foldl (fun keys bid =>
    let k := blockerKey known bid
    if keys.contains k then keys else keys ++ [k]) c.blockedByKeys

/-- The row of the child at position `idx`. -/
def toRow (known : List (ItemId × String)) (idx : ℕ) (c : ChildSpec) : PlanTaskSpec where
  key := c.rowKey idx
  title := c.title
  intent := c.intent
  definitionOfDone := c.definitionOfDone
  blockedByKeys := c.allKeys known
  capability := c.capability
  repo := none
  itemId := none

/-- A key is named by the child, or stands for a card that is. -/
lemma mem_allKeys {known : List (ItemId × String)} {c : ChildSpec} {k : String} :
    k ∈ c.allKeys known ↔ k ∈ c.blockedByKeys ∨ ∃ bid ∈ c.blockedBy, blockerKey known bid = k := by
  unfold allKeys
  generalize c.blockedByKeys = keys
  induction c.blockedBy generalizing keys with
  | nil => exact ⟨Or.inl, fun h => h.elim id fun ⟨_, hbid, _⟩ => absurd hbid List.not_mem_nil⟩
  | cons bid bids ih =>
    rw [List.foldl_cons, ih]
    have hpush : (k ∈ if keys.contains (blockerKey known bid) then keys
        else keys ++ [blockerKey known bid]) ↔ k ∈ keys ∨ blockerKey known bid = k := by
      split
      · rename_i hhas
        refine ⟨Or.inl, fun h => h.elim id fun heq => ?_⟩
        rw [← heq]
        exact List.contains_iff_mem.mp hhas
      · rw [List.mem_append, List.mem_singleton, eq_comm]
    rw [hpush, or_assoc]
    refine or_congr_right ?_
    simp only [List.mem_cons, exists_eq_or_imp]

end ChildSpec

namespace BreakdownArg

/-- The rows of the proposal. -/
def rows (known : List (ItemId × String)) (a : BreakdownArg) : List PlanTaskSpec :=
  a.children.mapIdx (ChildSpec.toRow known)

def summaryText (a : BreakdownArg) : String :=
  a.summary.getD s!"{a.children.length} tasks proposed"

end BreakdownArg

/-- Write a Task proposal on the Initial plan of a Project. -/
def proposeBreakdown (a : BreakdownArg) : Method String (List ItemId) := do
  let parent ← Board.getOr a.parent s!"no work item #{a.parent}"
  Locked.failIf (!parent.isProject && !parent.isInitialPlanTask)
    "breakdown parent must be a Project or Initial plan Task"
  Locked.failIf a.children.isEmpty "a breakdown needs at least one task"
  -- Map legacy ids to keys from an existing proposal, if any.
  let seedId ← Board.resolveInitialPlanId a.parent
  let seed ← Board.get seedId
  let rows := a.rows (idToKey (seed.bind WorkItem.proposal))
  let proposal ← Board.proposePlan a.parent a.summaryText rows
  return proposal.tasks.filterMap PlanTaskSpec.itemId

/-! ## The rows that keys name -/

namespace Board

section Keys

variable {rows : List PlanTaskSpec} {ids : List ItemId}

/-- The card `t` is the Task of the last row that has the key. -/
def LastOf (rows : List PlanTaskSpec) (ids : List ItemId) (key : String) (t : ItemId) : Prop :=
  ∃ (j : ℕ) (row : PlanTaskSpec), rows[j]? = some row ∧ row.key = key ∧ ids[j]? = some t ∧
    ∀ (j' : ℕ) (other : PlanTaskSpec), j < j' → rows[j']? = some other → other.key ≠ key

/-- The last row of a key is looked up. -/
lemma lookup_rowKeys_iff (hlength : ids.length = rows.length) {key : String} {t : ItemId} :
    (rowKeys rows ids).lookup key = some t ↔ LastOf rows ids key t := by
  unfold rowKeys
  induction rows generalizing ids t with
  | nil =>
    refine iff_of_false (fun h => nomatch h) ?_
    rintro ⟨j, row, hrow, -⟩
    cases hrow
  | cons spec rows ih =>
    cases ids with
    | nil => cases hlength
    | cons id ids =>
      have htail := ih (t := t) (Nat.succ.inj hlength)
      rw [List.map_cons, List.zip_cons_cons, List.reverse_cons, List.lookup_append]
      cases hfound : ((rows.map PlanTaskSpec.key).zip ids).reverse.lookup key with
      | some found =>
        rw [hfound] at htail
        rw [Option.some_or, htail]
        constructor
        · rintro ⟨j, row, hrow, hkey, hid, hlast⟩
          refine ⟨j + 1, row, hrow, hkey, hid, fun j' other hj hother => ?_⟩
          cases j' with
          | zero => exact absurd hj (Nat.not_lt_zero _)
          | succ j' => exact hlast j' other (Nat.lt_of_succ_lt_succ hj) hother
        · rintro ⟨j, row, hrow, hkey, hid, hlast⟩
          cases j with
          | zero =>
            obtain ⟨j', other, hother, hokey, -⟩ := (ih (Nat.succ.inj hlength)).mp hfound
            exact absurd hokey (hlast (j' + 1) other (Nat.succ_pos _) hother)
          | succ j =>
            refine ⟨j, row, hrow, hkey, hid, fun j' other hj hother => ?_⟩
            exact hlast (j' + 1) other (Nat.succ_lt_succ hj) hother
      | none =>
        have hnone : ∀ row ∈ rows, row.key ≠ key := by
          intro row hrow hkey
          refine lookup_rowKeys_ne_none (Nat.succ.inj hlength) hrow ?_
          rw [hkey]
          exact hfound
        rw [Option.none_or]
        constructor
        · intro h
          by_cases hkey : key = spec.key
          · rw [List.lookup_cons, hkey, beq_self_eq_true] at h
            refine ⟨0, spec, rfl, hkey.symm, h, fun j' other hj hother => ?_⟩
            cases j' with
            | zero => exact absurd hj (Nat.not_lt_zero _)
            | succ j' => exact hnone other (List.mem_of_getElem? hother)
          · rw [List.lookup_cons, beq_false_of_ne hkey] at h
            cases h
        · rintro ⟨j, row, hrow, hkey, hid, hlast⟩
          cases j with
          | zero =>
            cases hrow
            rw [List.lookup_cons, hkey, beq_self_eq_true]
            exact hid
          | succ j => exact absurd hkey (hnone row (List.mem_of_getElem? hrow))

/-- The Tasks that a row is to be blocked by. -/
lemma mem_resolved_iff (hlength : ids.length = rows.length) {row : PlanTaskSpec} {t : ItemId} :
    t ∈ resolved (rowKeys rows ids) row ↔ ∃ key ∈ row.blockedByKeys, LastOf rows ids key t := by
  unfold resolved
  rw [List.mem_filterMap]
  simp only [lookup_rowKeys_iff hlength]

/-- Every key of a row is that of a last one. -/
lemma exists_lastOf (hlength : ids.length = rows.length) {row : PlanTaskSpec} (hrow : row ∈ rows) :
    ∃ t, LastOf rows ids row.key t := by
  obtain ⟨t, ht⟩ := Option.ne_none_iff_exists'.mp (lookup_rowKeys_ne_none hlength hrow)
  exact ⟨t, (lookup_rowKeys_iff hlength).mp ht⟩

/-- No later row has the key of the row at position `i`. -/
def IsLast (rows : List PlanTaskSpec) (i : ℕ) (row : PlanTaskSpec) : Prop :=
  ∀ (j : ℕ) (other : PlanTaskSpec), i < j → rows[j]? = some other → other.key ≠ row.key

variable {i : ℕ} {row : PlanTaskSpec} {t : ItemId}

/-- The last row of its key writes the edges of its Task, when no other row has the Task. -/
lemma lastLink_of_isLast (hlength : ids.length = rows.length) (hrow : rows[i]? = some row)
    (ht : ids[i]? = some t) (hown : ∀ j, ids[j]? = some t → j = i) (hlast : IsLast rows i row)
    (hnames : resolved (rowKeys rows ids) row ≠ []) :
    lastLink (rowKeys rows ids) rows t = some (resolved (rowKeys rows ids) row) := by
  have hlt : i < rows.length := (List.getElem?_eq_some_iff.mp hrow).1
  have hsplit : rows = rows.take i ++ row :: rows.drop (i + 1) := by
    rw [← (List.getElem?_eq_some_iff.mp hrow).2, List.cons_getElem_drop_succ, List.take_append_drop]
  have hrev : rows.reverse = (rows.drop (i + 1)).reverse ++ row :: (rows.take i).reverse := by
    conv_lhs => rw [hsplit]
    rw [List.reverse_append, List.reverse_cons, List.append_assoc, List.singleton_append]
  have hkey : (rowKeys rows ids).lookup row.key = some t :=
    (lookup_rowKeys_iff hlength).mpr ⟨i, row, hrow, rfl, ht, hlast⟩
  have hlater : ∀ other ∈ rows.drop (i + 1), (rowKeys rows ids).lookup other.key ≠ some t := by
    intro other hother hlookup
    obtain ⟨m, hm⟩ := List.mem_iff_getElem?.mp hother
    rw [List.getElem?_drop] at hm
    obtain ⟨j, named, hnamed, hokey, hj, -⟩ := (lookup_rowKeys_iff hlength).mp hlookup
    rw [hown j hj, hrow, Option.some.injEq] at hnamed
    rw [← hnamed] at hokey
    exact hlast (i + 1 + m) other (by omega) hm hokey.symm
  generalize rowKeys rows ids = keyToId at hkey hlater hnames ⊢
  have hskip : (rows.drop (i + 1)).reverse.find? (fun spec =>
      keyToId.lookup spec.key == some t && !(resolved keyToId spec).isEmpty) = none := by
    rw [List.find?_eq_none]
    intro other hother hwrites
    rw [Bool.and_eq_true, beq_iff_eq] at hwrites
    exact hlater other (List.mem_reverse.mp hother) hwrites.1
  have hwrites : (keyToId.lookup row.key == some t && !(resolved keyToId row).isEmpty) = true := by
    rw [hkey, beq_self_eq_true, Bool.true_and, Bool.not_eq_true', List.isEmpty_eq_false_iff]
    exact hnames
  unfold lastLink
  rw [hrev, List.find?_append, hskip, Option.none_or, List.find?_cons, hwrites, Option.map_some]

/-- A row that is not the last one of its key writes to no Task of its own. -/
lemma lastLink_of_not_isLast (hlength : ids.length = rows.length) (hrow : rows[i]? = some row)
    (hown : ∀ j, ids[j]? = some t → j = i) (hlast : ¬ IsLast rows i row) :
    lastLink (rowKeys rows ids) rows t = none := by
  unfold lastLink
  rw [Option.map_eq_none_iff, List.find?_eq_none]
  intro spec _ hspec
  rw [Bool.and_eq_true, beq_iff_eq] at hspec
  obtain ⟨j, other, hother, hkey, ht, hlater⟩ := (lookup_rowKeys_iff hlength).mp hspec.1
  rw [hown j ht, hrow, Option.some.injEq] at hother
  refine hlast fun j' later hj hrow' => ?_
  rw [hother, hkey]
  exact hlater j' later (by rw [hown j ht]; exact hj) hrow'

end Keys

/-! ## The Tasks of the rows -/

section Unicode

variable [UnicodeTables]

/-- The ids that the rows of the proposal of the card `id` get on an approval: those of live
siblings with their titles, and new ones. -/
def rowIds (s : BoardState) (projectId id : ItemId) (rows : List PlanTaskSpec) : List ItemId :=
  plannedIds (existingByTitle projectId id s) s.nextId rows

/-- The row gets a Task of its own. -/
def IsCreated (s : BoardState) (projectId id : ItemId) (row : PlanTaskSpec) : Prop :=
  IsNew (existingByTitle projectId id s) row

/-- What an approval makes of the rows without live siblings. -/
lemma created_of_accepted {b : Board} {id projectId : ItemId} {c : WorkItem} {p : TaskProposal}
    {op : Operation} (hs : b.state.Sound) (hn : b.state.Nested)
    (h : Accepted b id projectId c p op) :
    (rowIds b.state projectId id p.tasks).length = p.tasks.length ∧
      ∀ (i : ℕ) (row : PlanTaskSpec) (t : ItemId), p.tasks[i]? = some row →
        (rowIds b.state projectId id p.tasks)[i]? = some t → IsCreated b.state projectId id row →
          (∀ j : ℕ, (rowIds b.state projectId id p.tasks)[j]? = some t → j = i) ∧
          ∃ task, (b.exec op).state.items[t]? = some task ∧ task.blockedBy =
            (lastLink (rowKeys p.tasks (rowIds b.state projectId id p.tasks))
              p.tasks t).getD [] := by
  obtain ⟨byWhom, origin, ids, c₀, s₀, s₁, hworked, hproposal, ⟨s₂, hplanted, rfl⟩, hsame⟩ :=
    Accepted.materializes h hs hn
  have hs₀ : s₀.WellFormed := hs.wellFormed.reshaped (hworked.reshaped h.item)
  have hexisting : existingByTitle projectId id s₀ = existingByTitle projectId id b.state :=
    existingByTitle_worked hs.wellFormed h.item hworked projectId
  have hids : rowIds b.state projectId id p.tasks = ids := by
    rw [hplanted.ids_eq, hexisting, nextId_worked hworked]
    rfl
  rw [hids]
  have hlength := hplanted.length_eq
  have hzip : ∀ {j : ℕ} {other : PlanTaskSpec} {k : ItemId}, p.tasks[j]? = some other →
      ids[j]? = some k → (p.tasks.zip ids)[j]? = some (other, k) := by
    intro j other k hother hk
    rw [List.getElem?_zip_eq_some]
    exact ⟨hother, hk⟩
  refine ⟨hlength, fun i row t hrow ht hcreated => ?_⟩
  have hnew : IsNew (existingByTitle projectId id s₀) row := by
    rw [hexisting]
    exact hcreated
  rcases hplanted.row hs₀ (List.mem_of_getElem? (hzip hrow ht)) with
    ⟨sibling, hlive, -⟩ | ⟨-, hfresh, schema, clock, htask⟩
  · rw [IsNew, hlive] at hnew
    cases hnew
  · have hne : t ≠ id := by
      intro heq
      rw [heq, hworked.item h.item] at hfresh
      cases hfresh
    constructor
    · intro j hj
      have hlt : j < p.tasks.length := hlength ▸ (List.getElem?_eq_some_iff.mp hj).1
      have hother : p.tasks[j]? = some p.tasks[j] := List.getElem?_eq_getElem hlt
      rcases hplanted.row hs₀ (List.mem_of_getElem? (hzip hother hj)) with
        ⟨sibling, -, -, -, hi, -⟩ | ⟨hnew', -⟩
      · rw [hfresh] at hi
        cases hi
      · -- two new rows have two Tasks
        by_contra hji
        have hdistinct := List.pairwise_iff_getElem.mp (hplanted.distinct hs₀)
        obtain ⟨hzi, hzi'⟩ := List.getElem?_eq_some_iff.mp (hzip hrow ht)
        obtain ⟨hzj, hzj'⟩ := List.getElem?_eq_some_iff.mp (hzip hother hj)
        rcases Nat.lt_or_gt_of_ne hji with hlt | hlt
        · have hne := hdistinct j i hzj hzi hlt
          rw [hzi', hzj'] at hne
          exact hne hnew' hnew rfl
        · have hne := hdistinct i j hzi hzj hlt
          rw [hzi', hzj'] at hne
          exact hne hnew hnew' rfl
    · refine ⟨relinked (rowKeys p.tasks ids) p.tasks t (rowTask schema
        (rowCard c₀.capability projectId origin row) byWhom clock t), ?_, ?_⟩
      · rw [hsame.items, items_editItem_of_ne hne, items_linkRows, htask, Option.map_some]
      · unfold relinked
        cases lastLink (rowKeys p.tasks ids) p.tasks t with
        | none => rfl
        | some blockers => rfl

/-! ## Blockers that are kept -/

/-- A breakdown of a run, and an approval of it after more operations. -/
structure BreakdownApproval where
  schema : Schema
  clock : ℕ → ℕ → Time
  saveSucceeds : ℕ → Bool
  ops : List Operation
  arg : BreakdownArg
  items : List ItemId
  proposed : ((proposeBreakdown arg).run ((Board.new schema clock saveSucceeds).after ops)).1 =
    .ok items
  seedId : ItemId
  seed : ((Board.new schema clock saveSucceeds).after ops).state.planCard arg.parent = some seedId
  more : List Operation
  op : Operation
  projectId : ItemId
  card : WorkItem
  accepted : Accepted
    (((proposeBreakdown arg).run ((Board.new schema clock saveSucceeds).after ops)).2.after more)
    seedId projectId card ⟨arg.summaryText, arg.rows (idToKey
      (((Board.new schema clock saveSucceeds).after ops).state.items[seedId]?.bind
        WorkItem.proposal))⟩ op

namespace BreakdownApproval

variable (a : BreakdownApproval)

/-- The board on which the breakdown is proposed. -/
def board : Board := (Board.new a.schema a.clock a.saveSucceeds).after a.ops

/-- The board once the breakdown was proposed. -/
def written : Board := ((proposeBreakdown a.arg).run a.board).2

/-- The state in which the breakdown is proposed. -/
def start : BoardState := a.board.state

/-- The state before the approval. -/
def before : BoardState := (a.written.after a.more).state

/-- The state after the approval. -/
def after : BoardState := ((a.written.after a.more).exec a.op).state

/-- The rows of the proposal. -/
def rows : List PlanTaskSpec :=
  a.arg.rows (idToKey (a.start.items[a.seedId]?.bind WorkItem.proposal))

/-- The ids of the Tasks of the rows. -/
def ids : List ItemId := rowIds a.before a.projectId a.seedId a.rows

/-- The row gets a new Task. -/
def Creates (row : PlanTaskSpec) : Prop := IsCreated a.before a.projectId a.seedId row

/-- A generated key is none that the caller gave, and each new Task is blocked by every row and by
every card on the board that its child named, and none of the keys that its row names is lost. -/
structure Kept : Prop where
  keys : ∀ (i j : ℕ) (c d : ChildSpec), a.arg.children[i]? = some c → a.arg.children[j]? = some d →
    c.ownKey = none → d.ownKey ≠ none → c.rowKey i ≠ d.rowKey j
  blocked : ∀ (i : ℕ) (c : ChildSpec) (row : PlanTaskSpec) (t : ItemId),
    a.arg.children[i]? = some c → a.rows[i]? = some row → a.ids[i]? = some t → a.Creates row →
      ∃ task, a.after.items[t]? = some task ∧
        (∀ (j : ℕ) (other : PlanTaskSpec) (k : ItemId), a.rows[j]? = some other →
          other.key ∈ c.blockedByKeys → a.ids[j]? = some k → k ∈ task.blockedBy) ∧
        (∀ bid ∈ c.blockedBy, (a.before.items[bid]?).isSome = true → bid ∈ task.blockedBy) ∧
        ∀ key ∈ row.blockedByKeys, ∃ other ∈ a.rows, other.key = key

/-- The child names a blocker: a key, or a card on the board. -/
def Wants (c : ChildSpec) : Prop :=
  c.blockedByKeys ≠ [] ∨ ∃ bid ∈ c.blockedBy, (a.before.items[bid]?).isSome = true

/-- No caller gave the key that a child without one gets.  Each key that the row of a new Task names
is that of a row.  And where the child names a blocker, no later row has the key of its row, and
the Tasks of the rows and the cards that it names are those of the last rows of keys that it
names. -/
structure Keeps : Prop where
  keys : ∀ (i : ℕ) (c d : ChildSpec), a.arg.children[i]? = some c → d ∈ a.arg.children →
    c.ownKey = none → d.ownKey ≠ some s!"t{i + 1}"
  known : ∀ (i : ℕ) (row : PlanTaskSpec), a.rows[i]? = some row → a.Creates row →
    ∀ key ∈ row.blockedByKeys, ∃ other ∈ a.rows, other.key = key
  last : ∀ (i : ℕ) (c : ChildSpec) (row : PlanTaskSpec), a.arg.children[i]? = some c →
    a.rows[i]? = some row → a.Creates row → a.Wants c → IsLast a.rows i row
  named : ∀ (i j : ℕ) (c : ChildSpec) (row other : PlanTaskSpec) (k : ItemId),
    a.arg.children[i]? = some c → a.rows[i]? = some row → a.Creates row →
      a.rows[j]? = some other → other.key ∈ c.blockedByKeys → a.ids[j]? = some k →
        ∃ key ∈ row.blockedByKeys, LastOf a.rows a.ids key k
  cards : ∀ (i : ℕ) (c : ChildSpec) (row : PlanTaskSpec) (bid : ItemId),
    a.arg.children[i]? = some c → a.rows[i]? = some row → a.Creates row → bid ∈ c.blockedBy →
      (a.before.items[bid]?).isSome = true → ∃ key ∈ row.blockedByKeys, LastOf a.rows a.ids key bid

/-- A breakdown that is accepted is a plan that is proposed. -/
lemma written_eq : a.written =
    a.board.exec (.proposePlan a.arg.parent a.arg.summaryText a.rows) := by
  have hrun : ((proposeBreakdown a.arg).run a.board).1 = .ok a.items := a.proposed
  have hseed : a.board.state.planCard a.arg.parent = some a.seedId := a.seed
  unfold written rows start
  generalize a.board = b at hrun hseed ⊢
  have hknown : (b.state.items[a.seedId]?.map b.state.populateBlockers).bind
      WorkItem.proposal = b.state.items[a.seedId]?.bind WorkItem.proposal := by
    cases b.state.items[a.seedId]? with
    | none => rfl
    | some seed => rfl
  rw [exec_eq (m := Board.proposePlan a.arg.parent a.arg.summaryText (a.arg.rows
    (idToKey (b.state.items[a.seedId]?.bind WorkItem.proposal)))) rfl]
  unfold proposeBreakdown at hrun ⊢
  cases hparent : b.state.items[a.arg.parent]? with
  | none =>
    rw [Locked.run_bind_error (run_getOr_none hparent _)] at hrun
    cases hrun
  | some parent =>
    rw [Locked.run_bind_ok (run_getOr_some hparent _), Locked.run_failIf_bind] at hrun ⊢
    split at hrun
    · cases hrun
    · rename_i hplace
      rw [if_neg hplace]
      rw [Locked.run_failIf_bind] at hrun ⊢
      split at hrun
      · cases hrun
      · rename_i hchildren
        rw [if_neg hchildren]
        rcases run_resolveInitialPlanId a.arg.parent b with ⟨e, hresolve⟩ | ⟨k, hresolve, hplan⟩
        · rw [Locked.run_bind_error hresolve] at hrun
          cases hrun
        · rw [hseed, Option.some.injEq] at hplan
          rw [← hplan] at hresolve
          rw [Locked.run_bind_ok hresolve, Locked.run_bind_ok (run_get _ b), hknown,
            Locked.run_bind]
          generalize (Board.proposePlan a.arg.parent a.arg.summaryText (a.arg.rows
            (idToKey (b.state.items[a.seedId]?.bind WorkItem.proposal)))).run b = r
          obtain ⟨e | proposal, b'⟩ := r
          · rfl
          · rfl

/-- The board on which the breakdown is approved is sound, and its Tasks are nested. -/
lemma sound_before : a.before.Sound ∧ a.before.Nested := by
  have hs : a.board.state.Sound := (sound_new _ _ _).reshaped (reshaped_after _ a.ops)
  have hn : a.board.state.Nested := nested_after (sound_new _ _ _) Nested.empty a.ops
  have hs' : a.written.state.Sound := by
    rw [written_eq]
    exact hs.reshaped (reshaped_exec _ _)
  have hn' : a.written.state.Nested := by
    rw [written_eq]
    exact nested_exec hs hn _
  exact ⟨hs'.reshaped (reshaped_after _ a.more), nested_after hs' hn' a.more⟩

/-- A row for each child. -/
lemma rows_getElem? (i : ℕ) : a.rows[i]? = a.arg.children[i]?.map (ChildSpec.toRow
    (idToKey (a.start.items[a.seedId]?.bind WorkItem.proposal)) i) := by
  unfold rows BreakdownArg.rows
  rw [List.getElem?_mapIdx]

/-- The keys are apart exactly when no caller gave a generated one. -/
lemma keys_iff : (∀ (i j : ℕ) (c d : ChildSpec), a.arg.children[i]? = some c →
      a.arg.children[j]? = some d → c.ownKey = none → d.ownKey ≠ none → c.rowKey i ≠ d.rowKey j) ↔
    ∀ (i : ℕ) (c d : ChildSpec), a.arg.children[i]? = some c → d ∈ a.arg.children →
      c.ownKey = none → d.ownKey ≠ some s!"t{i + 1}" := by
  constructor
  · intro h i c d hc hd hnone hgiven
    obtain ⟨j, hj⟩ := List.mem_iff_getElem?.mp hd
    refine h i j c d hc hj hnone (by rw [hgiven]; exact Option.some_ne_none _) ?_
    rw [ChildSpec.rowKey, ChildSpec.rowKey, hnone, hgiven]
    rfl
  · intro h i j c d hc hd hnone hsome heq
    obtain ⟨k, hk⟩ := Option.ne_none_iff_exists'.mp hsome
    refine h i c d hc (List.mem_of_getElem? hd) hnone ?_
    rw [ChildSpec.rowKey, ChildSpec.rowKey, hnone, hk, Option.getD_none, Option.getD_some] at heq
    rw [hk, heq]

variable {a} {i : ℕ} {c : ChildSpec} {row : PlanTaskSpec}

/-- What a child names its row names. -/
lemma mem_blockedByKeys (hc : a.arg.children[i]? = some c) (hrow : a.rows[i]? = some row)
    {key : String} : key ∈ row.blockedByKeys ↔ key ∈ c.blockedByKeys ∨ ∃ bid ∈ c.blockedBy,
      ChildSpec.blockerKey
        (idToKey (a.start.items[a.seedId]?.bind WorkItem.proposal)) bid = key := by
  rw [rows_getElem?, hc, Option.map_some, Option.some.injEq] at hrow
  rw [← hrow]
  exact ChildSpec.mem_allKeys

/-- The row of a child that names a blocker names a key. -/
lemma Wants.ne_nil (h : a.Wants c) (hc : a.arg.children[i]? = some c)
    (hrow : a.rows[i]? = some row) : row.blockedByKeys ≠ [] := by
  rcases h with hkeys | ⟨bid, hbid, -⟩
  · obtain ⟨key, hkey⟩ := List.exists_mem_of_ne_nil _ hkeys
    exact List.ne_nil_of_mem ((mem_blockedByKeys hc hrow).mpr (Or.inl hkey))
  · exact List.ne_nil_of_mem ((mem_blockedByKeys hc hrow).mpr (Or.inr ⟨bid, hbid, rfl⟩))

variable {t : ItemId}

/-- A new Task whose child names a blocker is blocked by the Tasks of the last rows of the keys that
its row names, provided its row is the last of its own key and no key is lost. -/
lemma blockedBy_eq (hc : a.arg.children[i]? = some c) (hrow : a.rows[i]? = some row)
    (ht : a.ids[i]? = some t) (hcreates : a.Creates row) (hwants : a.Wants c)
    (hknown : ∀ key ∈ row.blockedByKeys, ∃ other ∈ a.rows, other.key = key)
    (hlast : IsLast a.rows i row) :
    ∃ task, a.after.items[t]? = some task ∧ ∀ k, k ∈ task.blockedBy ↔
      ∃ key ∈ row.blockedByKeys, LastOf a.rows a.ids key k := by
  obtain ⟨hs, hn⟩ := a.sound_before
  obtain ⟨hlength, hcreated⟩ := created_of_accepted hs hn a.accepted
  obtain ⟨hown, task, htask, hblocked⟩ := hcreated i row t hrow ht hcreates
  have hnames : resolved (rowKeys a.rows a.ids) row ≠ [] := by
    obtain ⟨key, hkey⟩ := List.exists_mem_of_ne_nil _ (hwants.ne_nil hc hrow)
    obtain ⟨other, hother, hokey⟩ := hknown key hkey
    obtain ⟨k, hk⟩ := exists_lastOf hlength hother
    rw [hokey] at hk
    exact List.ne_nil_of_mem ((mem_resolved_iff hlength).mpr ⟨key, hkey, hk⟩)
  refine ⟨task, htask, fun k => ?_⟩
  have hlink := lastLink_of_isLast hlength hrow ht hown hlast hnames
  rw [hblocked, hlink, Option.getD_some]
  exact mem_resolved_iff hlength

/-- A new Task whose row is not the last of its key is blocked by nothing. -/
lemma blockedBy_eq_nil (hrow : a.rows[i]? = some row) (ht : a.ids[i]? = some t)
    (hcreates : a.Creates row) (hlast : ¬ IsLast a.rows i row) :
    ∃ task, a.after.items[t]? = some task ∧ task.blockedBy = [] := by
  obtain ⟨hs, hn⟩ := a.sound_before
  obtain ⟨hlength, hcreated⟩ := created_of_accepted hs hn a.accepted
  obtain ⟨hown, task, htask, hblocked⟩ := hcreated i row t hrow ht hcreates
  have hlink := lastLink_of_not_isLast hlength hrow hown hlast
  refine ⟨task, htask, ?_⟩
  rw [hblocked, hlink, Option.getD_none]

/-- Every row has an id. -/
lemma exists_id (hrow : a.rows[i]? = some row) : ∃ t, a.ids[i]? = some t := by
  obtain ⟨hs, hn⟩ := a.sound_before
  obtain ⟨hlength, -⟩ := created_of_accepted hs hn a.accepted
  have hlt : i < a.ids.length := hlength ▸ (List.getElem?_eq_some_iff.mp hrow).1
  exact ⟨_, List.getElem?_eq_getElem hlt⟩

/-- Where no blocker is lost, the row of a new Task with blockers is the last of its key. -/
lemma Kept.last (h : a.Kept) (hc : a.arg.children[i]? = some c) (hrow : a.rows[i]? = some row)
    (hcreates : a.Creates row) (hwants : a.Wants c) : IsLast a.rows i row := by
  obtain ⟨t, ht⟩ := exists_id hrow
  obtain ⟨task, htask, hrows, hcards, hknown⟩ := h.blocked i c row t hc hrow ht hcreates
  by_contra hlast
  obtain ⟨task', htask', hnil⟩ := blockedBy_eq_nil hrow ht hcreates hlast
  rw [htask, Option.some.injEq] at htask'
  rw [← htask'] at hnil
  rcases hwants with hkeys | ⟨bid, hbid, hboard⟩
  · obtain ⟨key, hkey⟩ := List.exists_mem_of_ne_nil _ hkeys
    obtain ⟨other, hother, hokey⟩ := hknown key ((mem_blockedByKeys hc hrow).mpr (Or.inl hkey))
    obtain ⟨j, hj⟩ := List.mem_iff_getElem?.mp hother
    obtain ⟨k, hk⟩ := exists_id hj
    have hmem := hrows j other k hj (by rw [hokey]; exact hkey) hk
    rw [hnil] at hmem
    exact absurd hmem List.not_mem_nil
  · have hmem := hcards bid hbid hboard
    rw [hnil] at hmem
    exact absurd hmem List.not_mem_nil

/-- Where no blocker is lost, what blocks a new Task is what its row names. -/
lemma Kept.reaches (h : a.Kept) (hc : a.arg.children[i]? = some c) (hrow : a.rows[i]? = some row)
    (hcreates : a.Creates row) (hwants : a.Wants c) (ht : a.ids[i]? = some t) :
    ∃ task, a.after.items[t]? = some task ∧ ∀ k, k ∈ task.blockedBy →
      ∃ key ∈ row.blockedByKeys, LastOf a.rows a.ids key k := by
  obtain ⟨-, -, -, -, hknown⟩ := h.blocked i c row t hc hrow ht hcreates
  obtain ⟨task, htask, hiff⟩ := blockedBy_eq hc hrow ht hcreates hwants hknown
    (h.last hc hrow hcreates hwants)
  exact ⟨task, htask, fun k => (hiff k).mp⟩

/-- No blocker of a new Task is lost exactly when the keys that the rows name reach them all. -/
theorem kept_iff (a : BreakdownApproval) : a.Kept ↔ a.Keeps := by
  constructor
  · intro h
    refine ⟨a.keys_iff.mp h.keys, ?_, ?_, ?_, ?_⟩
    · intro i row hrow hcreates
      obtain ⟨t, ht⟩ := exists_id hrow
      obtain ⟨c, hc⟩ : ∃ c, a.arg.children[i]? = some c := by
        rw [rows_getElem?] at hrow
        obtain ⟨c, hc, -⟩ := Option.map_eq_some_iff.mp hrow
        exact ⟨c, hc⟩
      obtain ⟨-, -, -, -, hknown⟩ := h.blocked i c row t hc hrow ht hcreates
      exact hknown
    · intro i c row hc hrow hcreates hwants
      exact h.last hc hrow hcreates hwants
    · intro i j c row other k hc hrow hcreates hother hkey hk
      obtain ⟨t, ht⟩ := exists_id hrow
      have hwants : a.Wants c := Or.inl (List.ne_nil_of_mem hkey)
      obtain ⟨task, htask, hrows, -, -⟩ := h.blocked i c row t hc hrow ht hcreates
      obtain ⟨task', htask', hreach⟩ := h.reaches hc hrow hcreates hwants ht
      rw [htask, Option.some.injEq] at htask'
      exact hreach k (htask' ▸ hrows j other k hother hkey hk)
    · intro i c row bid hc hrow hcreates hbid hboard
      obtain ⟨t, ht⟩ := exists_id hrow
      have hwants : a.Wants c := Or.inr ⟨bid, hbid, hboard⟩
      obtain ⟨task, htask, -, hcards, -⟩ := h.blocked i c row t hc hrow ht hcreates
      obtain ⟨task', htask', hreach⟩ := h.reaches hc hrow hcreates hwants ht
      rw [htask, Option.some.injEq] at htask'
      exact hreach bid (htask' ▸ hcards bid hbid hboard)
  · intro h
    refine ⟨a.keys_iff.mpr h.keys, fun i c row t hc hrow ht hcreates => ?_⟩
    have hknown := h.known i row hrow hcreates
    by_cases hwants : a.Wants c
    · obtain ⟨task, htask, hiff⟩ := blockedBy_eq hc hrow ht hcreates hwants hknown
        (h.last i c row hc hrow hcreates hwants)
      refine ⟨task, htask, fun j other k hother hkey hk => ?_, fun bid hbid hboard => ?_, hknown⟩
      · exact (hiff k).mpr (h.named i j c row other k hc hrow hcreates hother hkey hk)
      · exact (hiff bid).mpr (h.cards i c row bid hc hrow hcreates hbid hboard)
    · -- nothing is named, so nothing can be lost
      obtain ⟨hs, hn⟩ := a.sound_before
      obtain ⟨-, task, htask, -⟩ :=
        (created_of_accepted hs hn a.accepted).2 i row t hrow ht hcreates
      refine ⟨task, htask, fun j other k hother hkey hk => ?_, fun bid hbid hboard => ?_, hknown⟩
      · exact absurd (Or.inl (List.ne_nil_of_mem hkey)) hwants
      · exact absurd (Or.inr ⟨bid, hbid, hboard⟩) hwants

/-- A key that is that of no row is lost. -/
lemma not_kept_of_unresolved (hc : a.arg.children[i]? = some c) (hrow : a.rows[i]? = some row)
    (ht : a.ids[i]? = some t) (hcreates : a.Creates row) {key : String}
    (hkey : key ∈ row.blockedByKeys) (hlost : ∀ other ∈ a.rows, other.key ≠ key) : ¬ a.Kept := by
  intro h
  obtain ⟨-, -, -, -, hknown⟩ := h.blocked i c row t hc hrow ht hcreates
  obtain ⟨other, hother, hokey⟩ := hknown key hkey
  exact hlost other hother hokey

/-- An approval that follows the breakdown at once. -/
lemma exists_at_once {schema : Schema} {clock : ℕ → ℕ → Time} {saveSucceeds : ℕ → Bool}
    {ops : List Operation} {arg : BreakdownArg} {items : List ItemId} {b b' : Board}
    {seedId projectId : ItemId} {card : WorkItem} {op : Operation} {planned : List PlanTaskSpec}
    (hb : (Board.new schema clock saveSucceeds).after ops = b)
    (hitems : ((proposeBreakdown arg).run b).1 = .ok items)
    (hb' : ((proposeBreakdown arg).run b).2 = b')
    (hseed : b.state.planCard arg.parent = some seedId)
    (hplanned : arg.rows (idToKey (b.state.items[seedId]?.bind WorkItem.proposal)) = planned)
    (haccepted : Accepted b' seedId projectId card ⟨arg.summaryText, planned⟩ op) :
    ∃ a : BreakdownApproval, (a.ops = ops ∧ a.arg = arg ∧ a.more = [] ∧ a.op = op) ∧
      a.rows = planned ∧ a.ids = rowIds b'.state projectId seedId planned ∧
        ∀ row, a.Creates row ↔ IsCreated b'.state projectId seedId row := by
  subst hb hb' hplanned
  exact ⟨⟨schema, clock, saveSucceeds, ops, arg, items, hitems, seedId, hseed, [], op, projectId,
    card, haccepted⟩, ⟨rfl, rfl, rfl, rfl⟩, rfl, rfl, fun _ => Iff.rfl⟩

end BreakdownApproval

end Unicode

/-- A Project with a Task, which is card 3. -/
def schemaOps : List Operation :=
  [.create ⟨none, "Docs", "", none, .human, false, none⟩,
    .createTask 1 "Tables" "" "written" [] none false]

/-- A breakdown into one Task, which is to wait for card 3. -/
def guideArg : BreakdownArg where
  parent := 1
  children :=
    [{ title := "Guide"
       intent := ""
       definitionOfDone := "written"
       capability := none
       key := none
       blockedByKeys := []
       blockedBy := [3] }]
  summary := none

/-- The row of that Task. -/
def guideRow : PlanTaskSpec :=
  ⟨"t1", "Guide", "", "written", ["id-3"], none, none, none⟩

/-- The board with the Task. -/
def schemaBoard [UnicodeTables] : Board :=
  (Board.new Schema.default (fun _ _ => 0) fun _ => true).after schemaOps

/-- The board once the breakdown was proposed. -/
def guideBoard [UnicodeTables] : Board := ((proposeBreakdown guideArg).run schemaBoard).2

set_option maxRecDepth 100000 in
/-- The breakdown is proposed on card 2, and may be approved there. -/
lemma proposed_guide :
    let := asciiTables
    ((proposeBreakdown guideArg).run schemaBoard).1.toOption = some [] ∧
      schemaBoard.state.planCard 1 = some 2 ∧
      (schemaBoard.state.items[2]?.bind WorkItem.proposal) = none ∧
      (guideBoard.state.items[2]?.map fun c => (c.proposal, c.parent, c.state)) =
        some (some ⟨"1 tasks proposed", [guideRow]⟩, some 1, .backlog) ∧
      (guideBoard.exec (.transition 2 .done "human" none)).state.items[2]?.map WorkItem.state =
        some .done ∧
      rowIds guideBoard.state 1 2 [guideRow] = [4] ∧
      ((existingByTitle 1 2 guideBoard.state).lookup (normalizeTitle "Guide")).isNone = true := by
  decide +kernel

/-- The breakdown and its approval lose the card, once both succeed. -/
lemma exists_not_kept_guide [UnicodeTables]
    (hproposed : ((proposeBreakdown guideArg).run schemaBoard).1.toOption = some [])
    (hseed : schemaBoard.state.planCard 1 = some 2)
    (holder : (schemaBoard.state.items[2]?.bind WorkItem.proposal) = none)
    (hcard : (guideBoard.state.items[2]?.map fun c => (c.proposal, c.parent, c.state)) =
      some (some ⟨"1 tasks proposed", [guideRow]⟩, some 1, .backlog))
    (hdone : (guideBoard.exec (.transition 2 .done "human" none)).state.items[2]?.map
      WorkItem.state = some .done)
    (hids : rowIds guideBoard.state 1 2 [guideRow] = [4])
    (hnew : ((existingByTitle 1 2 guideBoard.state).lookup
      (normalizeTitle "Guide")).isNone = true) :
    ∃ a : BreakdownApproval, (a.ops = schemaOps ∧ a.arg = guideArg ∧ a.more = [] ∧
      a.op = .transition 2 .done "human" none) ∧ ¬ a.Kept := by
  have hitems : ((proposeBreakdown guideArg).run schemaBoard).1 = .ok [] := by
    cases hresult : ((proposeBreakdown guideArg).run schemaBoard).1 with
    | error e =>
      rw [hresult] at hproposed
      cases hproposed
    | ok items =>
      rw [hresult] at hproposed
      exact congrArg Except.ok (Option.some.inj hproposed)
  obtain ⟨c, hc, hfields⟩ := Option.map_eq_some_iff.mp hcard
  simp only [Prod.mk.injEq] at hfields
  obtain ⟨hproposal, hparent, hstate⟩ := hfields
  have hrows : guideArg.rows (idToKey (schemaBoard.state.items[2]?.bind WorkItem.proposal)) =
      [guideRow] := by
    rw [holder]
    decide +kernel
  have haccepted : Accepted guideBoard 2 1 c ⟨guideArg.summaryText, [guideRow]⟩
      (.transition 2 .done "human" none) := by
    have hsummary : guideArg.summaryText = "1 tasks proposed" := by decide +kernel
    rw [hsummary]
    have hopen : c.state ≠ .done := by rw [hstate]; decide
    have happroves : Approves guideBoard.state 2 (.transition 2 .done "human" none) :=
      .transition "human" none
    have hwaits : ∃ t ∈ [guideRow], t.itemId = none := ⟨guideRow, List.mem_singleton_self _, rfl⟩
    exact ⟨hc, hproposal, hparent, happroves, Or.inr ⟨hopen, hwaits, hdone⟩⟩
  have hboard : (Board.new Schema.default (fun _ _ => 0) fun _ => true).after schemaOps =
      schemaBoard := rfl
  have hwritten : ((proposeBreakdown guideArg).run schemaBoard).2 = guideBoard := rfl
  have hroot : guideArg.parent = 1 := rfl
  rw [← hroot] at hseed
  obtain ⟨a, ⟨hops, harg, hmore, hop⟩, harows, haids, hcreates⟩ :=
    BreakdownApproval.exists_at_once hboard hitems hwritten hseed hrows haccepted
  refine ⟨a, ⟨hops, harg, hmore, hop⟩, ?_⟩
  have hid : a.ids[0]? = some 4 := by rw [haids, hids]; rfl
  have hrow : a.rows[0]? = some guideRow := by rw [harows]; rfl
  have hchild : a.arg.children[0]? = guideArg.children[0]? := by rw [harg]
  refine BreakdownApproval.not_kept_of_unresolved hchild hrow hid
    ((hcreates _).mpr (Option.isNone_iff_eq_none.mp hnew)) (List.mem_singleton_self "id-3") ?_
  intro other hother
  rw [harows, List.mem_singleton] at hother
  rw [hother]
  decide

/-- The new Task does not wait for the card that the breakdown named. -/
theorem not_kept_guide :
    let := asciiTables
    ∃ a : BreakdownApproval, (a.ops = schemaOps ∧ a.arg = guideArg ∧ a.more = [] ∧
      a.op = .transition 2 .done "human" none) ∧ ¬ a.Kept := by
  intro tables
  obtain ⟨hproposed, hseed, holder, hcard, hdone, hids, hnew⟩ := proposed_guide
  exact @exists_not_kept_guide asciiTables hproposed hseed holder hcard hdone hids hnew

end Board

end Sandboard

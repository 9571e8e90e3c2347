import Sandboard.Store.Restart

/-!
# Queries of the database

Some questions are asked of the rows with SQL and of the board in memory: the ready cards, the
dispatch queue, the overdue runs, the children of a card.  After a save both give the same cards.
SQLite may order rows as it likes where nothing is asked of their order, or where the columns that
they are ordered by are equal.
-/

namespace Sandboard

open Std BoardState Text

/-- A row of `items` with its id and its parent. -/
abbrev StoredRow : Type := ItemId × Option ItemId × ItemColumns

/-- How SQLite orders the rows it selects: by `entered_state_at`, and where no order is asked
for. -/
structure RowOrder where
  byEntered : List StoredRow → List StoredRow
  unordered : List StoredRow → List StoredRow

/-- Every row is selected once, and texts are compared byte by byte. -/
structure RowOrder.Lawful (o : RowOrder) : Prop where
  byEntered_perm : ∀ rows, (o.byEntered rows).Perm rows
  sorted : ∀ rows, (o.byEntered rows).Pairwise fun a b =>
    a.2.2.enteredStateAt ≤ b.2.2.enteredStateAt
  unordered_perm : ∀ rows, (o.unordered rows).Perm rows

namespace StoredBoard

/-! ## The queries -/

/-- The text is there and not empty. -/
def given (text : Option String) : Option String :=
  text.filter fun raw => raw != ""

/-- The row is that of an unblocked Backlog leaf which is not labelled a Project. -/
def isReadyRow (row : ItemColumns) : Bool :=
  row.state == "backlog" && row.level != some "Project" && row.nonRetiredChildCount == 0 &&
    row.openBlockerCount == 0

/-- Read the rows, with the blockers of the cards. -/
def readRows (C : ItemCodec) (r : Rows) (rows : List StoredRow) :
    Except StoreError (List StoredItem) :=
  rows.mapM fun e => do
    let item ← itemFromRow C e.1 e.2.1 e.2.2
    return { item with blockedBy := loadBlockers r e.1 }

def queryBacklog (C : ItemCodec) (r : Rows) (capabilities : List String) :
    Except StoreError (List StoredItem) := do
  let items ← readRows C r (r.items.toList.filter fun e => isReadyRow e.2.2)
  return items.filter fun it => matchesCapability capabilities it.toWorkItem

def queryAwaitingDispatch (C : ItemCodec) (o : RowOrder) (r : Rows) :
    Except StoreError (List StoredItem) :=
  readRows C r (o.byEntered (r.items.toList.filter fun e =>
    isReadyRow e.2.2 && e.2.2.awaitingDispatch == 1 && e.2.2.parked == 0))

/-- The SQL filter of the expiry query. -/
def mayBeExpired (nowS : String) (row : ItemColumns) : Bool :=
  (row.state == "claimed" || row.state == "running") &&
    match given row.runDeadlineAt with
    | some d => d < nowS
    | none => (given row.leaseJson).isSome

/-- The check of the selected rows; what does not decode is not expired. -/
def isExpiredRow (C : ItemCodec) (now : Time) (row : ItemColumns) : Bool :=
  match given row.runDeadlineAt with
  | some d => (C.time.read d).any fun t => decide (now > t)
  | none =>
    match given row.leaseJson with
    | some raw => (C.lease.read raw).any fun lease => lease.isExpired now
    | none => false

def queryExpiredLeases (C : ItemCodec) (o : RowOrder) (r : Rows) (now : Time) : List ItemId :=
  ((o.unordered (r.items.toList.filter fun e => mayBeExpired (C.time.write now) e.2.2)).filter
    fun e => isExpiredRow C now e.2.2).map Prod.fst

def queryChildrenOf (r : Rows) (id : ItemId) : List ItemId :=
  (r.items.toList.filter fun e => e.2.1 == some id).map Prod.fst

def queryHasNonRetiredChildren (r : Rows) (id : ItemId) : Bool :=
  ((r.items[id]?).map fun row => decide (row.2.nonRetiredChildCount > 0)).getD false

/-! ## The rows of a saved board -/

variable {C : ItemCodec} {l : StoredBoard} {settings : String → String} {r r' : Rows}
  {o : RowOrder} {s : BoardState}

/-- The cards as they come back. -/
def recalled (l : StoredBoard) (items : List WorkItem) : List StoredItem :=
  items.filterMap fun i => (l.items[i.id]?).map StoredItem.restored

/-- The cards of the board with the row of each. -/
def rowOf (C : ItemCodec) (l : StoredBoard) (e : ItemId × StoredItem) : StoredRow :=
  (e.1, itemRow C l e.2)

lemma exists_perm_map {α β : Type} {f : α → β} {xs : List β} {ys : List α}
    (h : xs.Perm (ys.map f)) : ∃ zs : List α, zs.Perm ys ∧ xs = zs.map f := by
  generalize hys : ys.map f = ws at h
  induction h generalizing ys with
  | nil =>
    obtain rfl := List.map_eq_nil_iff.1 hys
    exact ⟨[], List.Perm.nil, rfl⟩
  | cons x _ ih =>
    obtain ⟨y, ys, rfl, rfl, rfl⟩ := List.map_eq_cons_iff.1 hys
    obtain ⟨zs, hperm, rfl⟩ := ih rfl
    exact ⟨y :: zs, hperm.cons y, rfl⟩
  | swap x x' rest =>
    obtain ⟨y, ys, rfl, rfl, hrest⟩ := List.map_eq_cons_iff.1 hys
    obtain ⟨y', ys, rfl, rfl, rfl⟩ := List.map_eq_cons_iff.1 hrest
    exact ⟨y' :: y :: ys, List.Perm.swap _ _ _, rfl⟩
  | trans _ _ ih₁ ih₂ =>
    obtain ⟨zs₂, hperm₂, rfl⟩ := ih₂ hys
    obtain ⟨zs₁, hperm₁, rfl⟩ := ih₁ rfl
    exact ⟨zs₁, hperm₁.trans hperm₂, rfl⟩

lemma mem_items {e : ItemId × StoredItem} :
    e ∈ l.items.toList ↔ l.items[e.1]? = some e.2 :=
  ExtTreeMap.mem_toList_iff_getElem?_eq_some

lemma cards_board (l : StoredBoard) :
    l.board.cards = l.items.toList.map fun e => e.2.toWorkItem := by
  rw [cards, (board_eq l).1, ExtTreeMap.toList_map, List.map_map]
  rfl

/-- Cards of the board are recalled as they come back. -/
lemma recalled_map (hl : l.Proper) {es : List (ItemId × StoredItem)}
    (hes : ∀ e ∈ es, e ∈ l.items.toList) {f : WorkItem → WorkItem} (hf : ∀ i, (f i).id = i.id) :
    recalled l (es.map fun e => f e.2.toWorkItem) = es.map fun e => e.2.restored := by
  unfold recalled
  rw [List.filterMap_map, ← List.filterMap_eq_map]
  refine List.filterMap_congr fun e he => ?_
  have hit : l.items[e.1]? = some e.2 := mem_items.1 (hes e he)
  change (l.items[(f e.2.toWorkItem).id]?).map StoredItem.restored = some e.2.restored
  rw [hf, hl.key e.1 e.2 hit, hit, Option.map_some]

namespace Saved

lemma toList_items (h : Saved C l settings r r') :
    r'.items.toList = l.items.toList.map (rowOf C l) := by
  rw [h.items, ExtTreeMap.toList_map]
  rfl

/-- The rows of cards of the board read as these cards. -/
lemma readRows (hC : l.Encoded C) (h : Saved C l settings r r') (hl : l.Proper)
    {es : List (ItemId × StoredItem)} (hes : ∀ e ∈ es, e ∈ l.items.toList) :
    readRows C r' (es.map (rowOf C l)) = .ok (es.map fun e => e.2.restored) := by
  unfold StoredBoard.readRows
  rw [List.mapM_map]
  refine mapM_eq_ok fun e he => ?_
  have hit : l.items[e.1]? = some e.2 := mem_items.1 (hes e he)
  have hid : e.2.id = e.1 := hl.key e.1 e.2 hit
  have hrow : itemFromRow C e.1 e.2.parent (itemToRow C e.2
      (l.board.nonRetiredChildCount e.2.id) (l.board.openBlockerCount e.2.toWorkItem).toNat) =
        .ok e.2.stored := by
    rw [← hid]
    exact itemFromRow_itemToRow (hC.cards e.1 e.2 hit) _ _
  change (itemFromRow C e.1 e.2.parent (itemToRow C e.2 _ _) >>= fun item =>
    Except.ok { item with blockedBy := loadBlockers r' e.1 }) = _
  rw [hrow, h.blockers hl hit]
  rfl

end Saved

/-- No card has 2^32 blockers. -/
def FewBlockers (l : StoredBoard) : Prop :=
  ∀ (k : ItemId) (it : StoredItem), l.items[k]? = some it → it.blockedBy.length < 2 ^ 32

lemma toDb_beq (a b : State) : (a.toDb == b.toDb) = (a == b) := by
  cases a <;> cases b <;> rfl

/-- The columns tell the ready cards. -/
lemma isReadyRow_rowOf (hl : l.Proper) (hfew : l.FewBlockers) {e : ItemId × StoredItem}
    (he : e ∈ l.items.toList) : isReadyRow (rowOf C l e).2.2 =
      (e.2.state == .backlog && l.board.scanOpenLeaf e.2.toWorkItem) := by
  have hit : l.items[e.1]? = some e.2 := mem_items.1 he
  have hchildren : ((l.board.nonRetiredChildCount e.2.id : ℤ) == 0) =
      !l.board.scanHasChildren e.2.id := by
    rw [← hl.wellFormed.hasChildren_eq, hasChildren]
    by_cases hzero : l.board.nonRetiredChildCount e.2.id = 0
    · simp [hzero]
    · simp [hzero, Nat.pos_of_ne_zero hzero]
  have hblockers : (((l.board.openBlockerCount e.2.toWorkItem).toNat : ℤ) == 0) =
      (l.board.unresolvedBlockers e.2.toWorkItem).isEmpty := by
    have hcount : e.2.blockedBy.countP l.board.isUnresolved < 2 ^ 32 :=
      Nat.lt_of_le_of_lt List.countP_le_length (hfew e.1 e.2 hit)
    have hnat : (l.board.openBlockerCount e.2.toWorkItem).toNat =
        (l.board.unresolvedBlockers e.2.toWorkItem).length := by
      rw [openBlockerCount, UInt32.toNat_ofNat', Nat.mod_eq_of_lt hcount,
        List.countP_eq_length_filter]
      rfl
    rw [hnat]
    cases l.board.unresolvedBlockers e.2.toWorkItem with
    | nil => rfl
    | cons b bs =>
      have hpos : ((bs.length + 1 : ℕ) : ℤ) ≠ 0 := by omega
      exact beq_false_of_ne hpos
  change (e.2.state.toDb == State.backlog.toDb && e.2.level != some "Project" &&
    ((l.board.nonRetiredChildCount e.2.id : ℤ) == 0) &&
      (((l.board.openBlockerCount e.2.toWorkItem).toNat : ℤ) == 0)) = _
  rw [hchildren, hblockers, toDb_beq, scanOpenLeaf, Bool.and_assoc, Bool.and_assoc, Bool.and_assoc]

/-! ## The answers -/

namespace Saved

/-- The ready cards. -/
lemma queryBacklog (hC : l.Encoded C) (h : Saved C l settings r r') (hl : l.Proper)
    (hfew : l.FewBlockers) (capabilities : List String) :
    queryBacklog C r' capabilities = .ok (recalled l (l.board.listBacklog capabilities)) := by
  have hrows : (r'.items.toList.filter fun e => isReadyRow e.2.2) =
      (l.items.toList.filter fun e =>
        e.2.state == .backlog && l.board.scanOpenLeaf e.2.toWorkItem).map (rowOf C l) := by
    rw [h.toList_items, List.filter_map]
    congr 1
    exact List.filter_congr fun e he => isReadyRow_rowOf hl hfew he
  unfold StoredBoard.queryBacklog
  rw [hrows, h.readRows hC hl fun e he => (List.mem_filter.1 he).1]
  change Except.ok _ = _
  congr 1
  have hlist : l.board.listBacklog capabilities =
      (l.items.toList.filter fun e => e.2.state == .backlog &&
        l.board.scanOpenLeaf e.2.toWorkItem && matchesCapability capabilities e.2.toWorkItem).map
          fun e => l.board.populateBlockers e.2.toWorkItem := by
    rw [hl.wellFormed.listBacklog_eq, scanBacklog, cards_board, List.filter_map, List.map_map]
    rfl
  rw [hlist, recalled_map hl (f := l.board.populateBlockers) (fun e he => (List.mem_filter.1 he).1)
    fun _ => rfl, List.filter_map, List.filter_filter]
  congr 1
  refine List.filter_congr fun e _ => ?_
  exact Bool.and_comm _ _

/-- The dispatch queue. -/
lemma queryAwaitingDispatch (hC : l.Encoded C) (h : Saved C l settings r r') (hl : l.Proper)
    (hfew : l.FewBlockers) (ho : o.Lawful)
    (htime : ∀ e ∈ l.items.toList, ∀ e' ∈ l.items.toList,
      C.time.write e.2.enteredStateAt ≤ C.time.write e'.2.enteredStateAt →
        e.2.enteredStateAt ≤ e'.2.enteredStateAt) :
    ∃ items, queryAwaitingDispatch C o r' = .ok items ∧
      items.Perm (recalled l l.board.listAwaitingDispatch) ∧
      items.map (fun it => it.enteredStateAt) =
        l.board.listAwaitingDispatch.map WorkItem.enteredStateAt := by
  let queued := l.items.toList.filter fun e => e.2.state == .backlog && e.2.awaitingDispatch &&
    !e.2.parked && l.board.scanOpenLeaf e.2.toWorkItem
  have hqueued : ∀ e ∈ queued, e ∈ l.items.toList := fun e he => (List.mem_filter.1 he).1
  have hrows : (r'.items.toList.filter fun e =>
      isReadyRow e.2.2 && e.2.2.awaitingDispatch == 1 && e.2.2.parked == 0) =
        queued.map (rowOf C l) := by
    rw [h.toList_items, List.filter_map]
    congr 1
    refine List.filter_congr fun e he => ?_
    have hready := isReadyRow_rowOf (C := C) hl hfew he
    have hawaiting : (flag e.2.awaitingDispatch == 1) = e.2.awaitingDispatch := by
      cases e.2.awaitingDispatch <;> rfl
    have hparked : (flag e.2.parked == 0) = !e.2.parked := by
      cases e.2.parked <;> rfl
    change (isReadyRow (rowOf C l e).2.2 && flag e.2.awaitingDispatch == 1 &&
      flag e.2.parked == 0) = _
    rw [hready, hawaiting, hparked]
    ac_rfl
  obtain ⟨es, hperm, hes⟩ := exists_perm_map (ho.byEntered_perm (queued.map (rowOf C l)))
  have hmem : ∀ e ∈ es, e ∈ l.items.toList := fun e he => hqueued e (hperm.mem_iff.1 he)
  have hlist : l.board.listAwaitingDispatch =
      oldestFirst (queued.map fun e => e.2.toWorkItem) := by
    rw [hl.wellFormed.listAwaitingDispatch_eq, scanAwaitingDispatch, cards_board, List.filter_map]
    rfl
  have hqueue : l.board.listAwaitingDispatch.Perm (queued.map fun e => e.2.toWorkItem) := by
    rw [hlist]
    exact List.mergeSort_perm _ _
  refine ⟨es.map fun e => e.2.restored, ?_, ?_, ?_⟩
  · unfold StoredBoard.queryAwaitingDispatch
    rw [hrows, hes, h.readRows hC hl hmem]
  · have hrecalled : recalled l (queued.map fun e => e.2.toWorkItem) =
        queued.map fun e => e.2.restored :=
      recalled_map hl (f := id) hqueued fun _ => rfl
    have hback : (recalled l l.board.listAwaitingDispatch).Perm
        (queued.map fun e => e.2.restored) := by
      rw [← hrecalled]
      exact hqueue.filterMap _
    exact (hperm.map _).trans hback.symm
  · have hsorted : ((es.map fun e => e.2.restored).map fun it => it.enteredStateAt).Pairwise
        (· ≤ ·) := by
      have htexts := ho.sorted (queued.map (rowOf C l))
      rw [hes, List.pairwise_map] at htexts
      rw [List.map_map, List.pairwise_map]
      exact htexts.imp_of_mem fun {a b} ha hb hab => htime a (hmem a ha) b (hmem b hb) hab
    have hoften : (l.board.listAwaitingDispatch.map WorkItem.enteredStateAt).Pairwise
        (· ≤ ·) := by
      rw [hlist, List.pairwise_map]
      refine (List.pairwise_mergeSort' (fun a b : WorkItem =>
        a.enteredStateAt ≤ b.enteredStateAt) _).imp fun {a b} hab => ?_
      exact hab
    refine List.Perm.eq_of_pairwise' hsorted hoften ?_
    rw [List.map_map]
    refine (hperm.map _).trans ?_
    have htimes := (hqueue.map WorkItem.enteredStateAt).symm
    rw [List.map_map] at htimes
    exact htimes

lemma given_write {α : Type} {w : Wire α} {a : α} (h : w.Carries a) :
    given (some (w.write a)) = some (w.write a) := by
  unfold given
  rw [Option.filter_some, if_pos (bne_iff_ne.2 h.1)]

/-- The two checks of a row find the overdue runs. -/
lemma overdue_rowOf (hC : l.Encoded C) {now : Time} {e : ItemId × StoredItem}
    (he : e ∈ l.items.toList)
    (htime : ∀ d ∈ e.2.runDeadlineAt, C.time.write d < C.time.write now ↔ d < now) :
    (mayBeExpired (C.time.write now) (rowOf C l e).2.2 && isExpiredRow C now (rowOf C l e).2.2) =
      ((e.2.state == .claimed || e.2.state == .running) && isOverdue now e.2.toWorkItem) := by
  have hcarries : C.Carries e.2 := hC.cards e.1 e.2 (mem_items.1 he)
  have hrow : (rowOf C l e).2.2.runDeadlineAt = e.2.runDeadlineAt.map C.time.write := rfl
  have hlease : (rowOf C l e).2.2.leaseJson = e.2.lease.map C.lease.write := rfl
  have hstate : (rowOf C l e).2.2.state = e.2.state.toDb := rfl
  unfold mayBeExpired isExpiredRow
  rw [hrow, hlease, hstate, show "claimed" = State.claimed.toDb from rfl,
    show "running" = State.running.toDb from rfl, toDb_beq, toDb_beq, Bool.and_assoc]
  congr 1
  unfold isOverdue
  cases hd : e.2.runDeadlineAt with
  | some d =>
    have hd' : C.time.Carries d := hcarries.runDeadlineAt d hd
    rw [Option.map_some, given_write hd']
    simp only [hd'.2, Option.any_some, Option.map_some, Option.some_or, Option.getD_some]
    rw [Bool.and_eq_decide]
    simp [htime d hd]
  | none =>
    cases hlease' : e.2.lease with
    | none => rfl
    | some lease =>
      have hlease'' : C.lease.Carries lease := hcarries.lease lease hlease'
      rw [Option.map_some, given_write hlease'']
      simp [given, hlease''.2]

/-- The overdue runs. -/
lemma queryExpiredLeases (hC : l.Encoded C) (h : Saved C l settings r r') (hl : l.Proper)
    (ho : o.Lawful) {now : Time}
    (htime : ∀ e ∈ l.items.toList, ∀ d ∈ e.2.runDeadlineAt,
      C.time.write d < C.time.write now ↔ d < now) :
    (queryExpiredLeases C o r' now).Perm (l.board.expired now) := by
  have hscan : l.board.scanExpired now = (l.items.toList.filter fun e =>
      (e.2.state == .claimed || e.2.state == .running) && isOverdue now e.2.toWorkItem).map
        Prod.fst := by
    rw [scanExpired, cards_board, List.filter_map, List.map_map]
    refine List.map_congr_left fun e he => ?_
    exact hl.key e.1 e.2 (mem_items.1 (List.mem_filter.1 he).1)
  refine List.Perm.trans ?_ (hl.wellFormed.expired_perm now).symm
  unfold StoredBoard.queryExpiredLeases
  refine (((ho.unordered_perm _).filter _).map _).trans ?_
  rw [hscan, h.toList_items, List.filter_map, List.filter_map, List.map_map, List.filter_filter]
  refine List.Perm.of_eq ?_
  have hfilter : (l.items.toList.filter fun e =>
      ((fun e : StoredRow => isExpiredRow C now e.2.2) ∘ rowOf C l) e &&
        ((fun e : StoredRow => mayBeExpired (C.time.write now) e.2.2) ∘ rowOf C l) e) =
      l.items.toList.filter fun e =>
        (e.2.state == .claimed || e.2.state == .running) && isOverdue now e.2.toWorkItem := by
    refine List.filter_congr fun e he => ?_
    rw [← overdue_rowOf hC he (htime e he), Bool.and_comm]
    rfl
  rw [hfilter]
  rfl

lemma queryChildrenOf (h : Saved C l settings r r') (hl : l.Proper) (id : ItemId) :
    queryChildrenOf r' id = l.board.childrenOfIndexed id := by
  have hexact : SecondaryIndex.IsExact l.board.childrenByParent fun p k =>
      ∃ i, l.board.items[k]? = some i ∧ (i.parent == some p) = true :=
    hl.wellFormed.children.congr fun p k => by simp [IsChild]
  unfold StoredBoard.queryChildrenOf childrenOfIndexed
  rw [hexact.bucket_eq_scan, h.toList_items, (board_eq l).1, ExtTreeMap.toList_map,
    List.filter_map, List.filter_map, List.map_map, List.map_map]
  rfl

lemma queryHasNonRetiredChildren (h : Saved C l settings r r') (hl : l.Proper) (id : ItemId) :
    queryHasNonRetiredChildren r' id = l.board.hasChildren id := by
  unfold StoredBoard.queryHasNonRetiredChildren
  rw [h.items, ExtTreeMap.getElem?_map]
  cases hit : l.items[id]? with
  | none =>
    rw [hl.wellFormed.hasChildren_eq]
    symm
    rw [Option.map_none, Option.map_none, Option.getD_none, scanHasChildren, List.any_eq_false]
    intro c hc hchild
    rw [cards_board] at hc
    obtain ⟨e, he, rfl⟩ := List.mem_map.1 hc
    rw [Bool.and_eq_true, beq_iff_eq] at hchild
    obtain ⟨P, hP, -⟩ := hl.nested e.1 e.2 id (mem_items.1 he) hchild.1
    rw [hit] at hP
    cases hP
  | some it =>
    rw [Option.map_some, Option.map_some, Option.getD_some]
    change decide ((l.board.nonRetiredChildCount it.id : ℤ) > 0) = _
    rw [hl.key id it hit, hasChildren]
    simp

end Saved

/-! ## Rows and memory -/

/-- The instants that queries compare. -/
def instants (l : StoredBoard) : List Time :=
  l.items.toList.flatMap fun e => e.2.enteredStateAt :: e.2.runDeadlineAt.toList

/-- The texts of the instants are ordered as the instants are. -/
def Ordered (w : Wire Time) (ts : List Time) : Prop :=
  ∀ t ∈ ts, ∀ t' ∈ ts, w.write t < w.write t' ↔ t < t'

instance (w : Wire Time) (ts : List Time) : Decidable (Ordered w ts) :=
  inferInstanceAs (Decidable (∀ t ∈ ts, ∀ t' ∈ ts, _))

/-- The board in memory is the board of the stored cards. -/
lemma Stores.board_eq (h : l.Stores s) (hs : s.WellFormed) :
    l.board = { s with sandboxProfileIds := [] } := by
  have hitems : (l.items.map fun _ it => it.toWorkItem) = s.items := by
    refine ExtTreeMap.ext_getElem? fun k => ?_
    rw [ExtTreeMap.getElem?_map, h.items]
  have hwell : ({ s with sandboxProfileIds := [] } : BoardState).WellFormed :=
    ⟨hs.key, hs.fresh, hs.children, hs.states⟩
  unfold board
  rw [hitems, h.nextId, h.stories]
  exact hwell.rebuildHotIndexes_eq

section Unicode

variable [UnicodeTables]

/-- Whatever a run did, a query of the saved rows finds the cards that the board in memory
lists. -/
theorem queries_agree (schema : Schema) (clock : ℕ → ℕ → Time) (saveSucceeds : ℕ → Bool)
    (ops : List Operation)
    (hstores : l.Stores (Board.reached schema clock saveSucceeds ops)) (hC : l.Encoded C)
    (hfew : l.FewBlockers) (ho : o.Lawful) {now : Time}
    (htime : Ordered C.time (now :: l.instants)) (hsave : l.save C settings r = .ok r') :
    let s := Board.reached schema clock saveSucceeds ops
    (∀ capabilities, queryBacklog C r' capabilities =
        .ok (recalled l (s.listBacklog capabilities))) ∧
      (∃ items, queryAwaitingDispatch C o r' = .ok items ∧
        items.Perm (recalled l s.listAwaitingDispatch) ∧
        items.map (fun it => it.enteredStateAt) =
          s.listAwaitingDispatch.map WorkItem.enteredStateAt) ∧
      (queryExpiredLeases C o r' now).Perm (s.expired now) ∧
      ∀ id, queryChildrenOf r' id = s.childrenOfIndexed id ∧
        queryHasNonRetiredChildren r' id = s.hasChildren id := by
  intro s
  have hs : s.WellFormed := Board.wellFormed_reached _ _ _ _
  have hl : l.Proper := hstores.proper hs
    (Board.nested_after (Board.sound_new _ _ _) Nested.empty _)
  have h : Saved C l settings r r' := saved_of_save hl hsave
  have hboard : l.board = { s with sandboxProfileIds := [] } := hstores.board_eq hs
  have hentered : ∀ e ∈ l.items.toList, ∀ t, t = e.2.enteredStateAt ∨ t ∈ e.2.runDeadlineAt →
      t ∈ now :: l.instants := by
    intro e he t ht
    apply List.mem_cons_of_mem
    refine List.mem_flatMap.2 ⟨e, he, ?_⟩
    simpa using ht
  have hlist := h.queryBacklog hC hl hfew
  have hqueue := h.queryAwaitingDispatch hC hl hfew ho fun e he e' he' hle => by
    by_contra hlt
    have hafter : e'.2.enteredStateAt < e.2.enteredStateAt := lt_of_not_ge hlt
    rw [← htime _ (hentered e' he' _ (.inl rfl)) _ (hentered e he _ (.inl rfl))] at hafter
    exact absurd hafter (String.not_lt.2 hle)
  have hexpired : (StoredBoard.queryExpiredLeases C o r' now).Perm (l.board.expired now) :=
    h.queryExpiredLeases hC hl ho fun e he d hd =>
      htime d (hentered e he d (.inr hd)) now List.mem_cons_self
  rw [hboard] at hlist hqueue hexpired
  refine ⟨hlist, hqueue, hexpired, fun id => ⟨?_, ?_⟩⟩
  · rw [h.queryChildrenOf hl, hboard]
    rfl
  · rw [h.queryHasNonRetiredChildren hl, hboard]
    rfl

end Unicode

/-- Rows in the order of their texts, and of their ids. -/
def plannedOrder : RowOrder where
  byEntered rows := rows.mergeSort fun a b => decide (a.2.2.enteredStateAt ≤ b.2.2.enteredStateAt)
  unordered := id

lemma lawful_plannedOrder : plannedOrder.Lawful := by
  refine ⟨fun rows => List.mergeSort_perm _ _, fun rows => ?_, fun rows => List.Perm.refl _⟩
  refine List.Pairwise.imp (fun {a b} hab => of_decide_eq_true hab)
    (List.pairwise_mergeSort (fun a b c hab hbc => ?_) (fun a b => ?_) rows)
  · exact decide_eq_true (String.le_trans (of_decide_eq_true hab) (of_decide_eq_true hbc))
  · rw [Bool.or_eq_true, decide_eq_true_eq, decide_eq_true_eq]
    exact String.le_total _ _

set_option maxRecDepth 100000 in
/-- The queries of a board with one Initial plan. -/
theorem queries_agree_planned :
    let := asciiTables
    let s := Board.reached Schema.default (fun _ _ => 0) (fun _ => true) plannedRun
    let l := ofBoard s
    let C := { plannedCodec with
      time := .table [(0, "1970-01-01T00:00:00+00:00"), (seconds 5, "1970-01-01T00:00:05+00:00")] }
    ∃ r', l.save C (fun _ => "") ⟨∅, [], [], ∅⟩ = .ok r' ∧
      (∀ capabilities, queryBacklog C r' capabilities =
          .ok (recalled l (s.listBacklog capabilities))) ∧
        (∃ items, queryAwaitingDispatch C plannedOrder r' = .ok items ∧
          items.Perm (recalled l s.listAwaitingDispatch) ∧
          items.map (fun it => it.enteredStateAt) =
            s.listAwaitingDispatch.map WorkItem.enteredStateAt) ∧
        (queryExpiredLeases C plannedOrder r' (seconds 5)).Perm (s.expired (seconds 5)) ∧
        ∀ id, queryChildrenOf r' id = s.childrenOfIndexed id ∧
          queryHasNonRetiredChildren r' id = s.hasChildren id := by
  intro tables s l C
  have hl : l.Proper := (stores_ofBoard _).proper (Board.wellFormed_reached _ _ _ _)
    (Board.nested_after (Board.sound_new _ _ _) Nested.empty _)
  obtain ⟨r', hsave⟩ : ∃ r', l.save C (fun _ => "") ⟨∅, [], [], ∅⟩ = .ok r' :=
    (exists_save hl).2 (linkable_of_unblocked (by decide +kernel))
  have hC : l.Encoded C := encoded_of_forall (by decide +kernel) (by decide +kernel)
  have hfew : ∀ e ∈ l.items.toList, e.2.blockedBy.length < 2 ^ 32 := by decide +kernel
  refine ⟨r', hsave, ?_⟩
  exact queries_agree Schema.default (fun _ _ => 0) (fun _ => true) plannedRun (stores_ofBoard _)
    hC (fun k it hit => hfew (k, it) (mem_items.2 hit)) lawful_plannedOrder (by decide +kernel)
    hsave

end StoredBoard

end Sandboard

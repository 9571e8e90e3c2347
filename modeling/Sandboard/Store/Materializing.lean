import Sandboard.Store.Evolution
import Sandboard.Store.Indexes

/-!
# What materialization makes

The run of `materializeProposal` as a relation on board states.  The rows of a proposal are
gone through in order: a row whose title is that of a live sibling takes the sibling
(`Planted.reuse`), any other row gets a new Task under the next id (`Planted.plant`).  Then the
blockers of the Tasks are written row by row (`linked`), and the card is settled.
-/

namespace Sandboard

open Std Text

namespace Board

section Unicode

variable [UnicodeTables]

/-! ## The relation -/

/-- The new card of a proposal row; `fallback` is the capability of the card that proposes. -/
def rowCard (fallback : Option String) (projectId : ItemId) (origin : Origin)
    (spec : PlanTaskSpec) : NewCard where
  parent := some projectId
  title := spec.title
  intent := spec.intent
  definitionOfDone := some spec.definitionOfDone
  origin := origin
  aboveLine := false
  capability := spec.capability.or fallback

/-- A new Task once it was shaped and moved to Backlog. -/
def queuedTask (schema : Schema) (c : NewCard) (byWhom : String) (reason : Option String)
    (t : ℕ → Time) (id : ItemId) : WorkItem :=
  ((c.toItem schema (t 0) id).moved (t 1) .shaping byWhom reason).moved (t 2) .backlog byWhom reason

/-- The board state once a Task was created and brought to Backlog. -/
def plantTask (schema : Schema) (c : NewCard) (byWhom : String) (reason : Option String)
    (t : ℕ → Time) (s : BoardState) : BoardState :=
  let item := c.toItem schema (t 0) s.nextId
  let shaped := (insertNew schema (t 0) c s).2.moveItem s.nextId item (t 1) .shaping byWhom reason
  shaped.moveItem s.nextId (item.moved (t 1) .shaping byWhom reason) (t 2) .backlog byWhom reason

/-- The Task of a row as materialization leaves it: created, shaped, and moved to Backlog. -/
def rowTask (schema : Schema) (c : NewCard) (byWhom : String) (t : ℕ → Time) (id : ItemId) :
    WorkItem :=
  queuedTask schema c byWhom (some "from proposal") t id

/-- The board state once the Task of a row was planted. -/
def plantRow (schema : Schema) (c : NewCard) (byWhom : String) (t : ℕ → Time) (s : BoardState) :
    BoardState :=
  plantTask schema c byWhom (some "from proposal") t s

/-- The rows, gone through from one state to another, with the ids of their Tasks. -/
inductive Planted (fallback : Option String) (projectId : ItemId) (byWhom : String)
    (origin : Origin) (existing : List (String × WorkItem)) :
    BoardState → List PlanTaskSpec → BoardState → List ItemId → Prop where
  | nil (s : BoardState) : Planted fallback projectId byWhom origin existing s [] s []
  /-- A live sibling has the title of the row. -/
  | reuse {s s' : BoardState} {spec : PlanTaskSpec} {rows : List PlanTaskSpec} {ids : List ItemId}
      {sibling : WorkItem} (hlookup : existing.lookup (normalizeTitle spec.title) = some sibling)
      (h : Planted fallback projectId byWhom origin existing s rows s' ids) :
      Planted fallback projectId byWhom origin existing s (spec :: rows) s' (sibling.id :: ids)
  /-- The row gets a new Task. -/
  | plant {s s' : BoardState} {spec : PlanTaskSpec} {rows : List PlanTaskSpec}
      {ids : List ItemId} (schema : Schema) (t : ℕ → Time)
      (hlookup : existing.lookup (normalizeTitle spec.title) = none)
      (h : Planted fallback projectId byWhom origin existing
        (plantRow schema (rowCard fallback projectId origin spec) byWhom t s) rows s' ids) :
      Planted fallback projectId byWhom origin existing s (spec :: rows) s' (s.nextId :: ids)

/-- The keys of the rows with the ids of their Tasks, the last row first. -/
def rowKeys (rows : List PlanTaskSpec) (ids : List ItemId) : List (String × ItemId) :=
  ((rows.map PlanTaskSpec.key).zip ids).reverse

/-- The ids that the keys of a row resolve to. -/
def resolved (keyToId : List (String × ItemId)) (spec : PlanTaskSpec) : List ItemId :=
  spec.blockedByKeys.filterMap fun k => keyToId.lookup k

/-- The state once the blockers of a row were written: a row that resolves to none leaves its
Task alone. -/
def linked (keyToId : List (String × ItemId)) (s : BoardState) (spec : PlanTaskSpec) :
    BoardState :=
  match keyToId.lookup spec.key with
  | none => s
  | some sid =>
    if (resolved keyToId spec).isEmpty then s
    else s.editItem sid (WorkItem.blockedOn (resolved keyToId spec))

/-! ## New Tasks -/

omit [UnicodeTables] in
@[simp] lemma plantTask_nextId (schema : Schema) (c : NewCard) (byWhom : String)
    (reason : Option String) (t : ℕ → Time) (s : BoardState) :
    (plantTask schema c byWhom reason t s).nextId = s.nextId + 1 := rfl

omit [UnicodeTables] in
/-- One Task joins, under the next id. -/
lemma items_plantTask (schema : Schema) (c : NewCard) (byWhom : String) (reason : Option String)
    (t : ℕ → Time) (s : BoardState) (k : ItemId) :
    (plantTask schema c byWhom reason t s).items[k]? =
      if k = s.nextId then some (queuedTask schema c byWhom reason t s.nextId)
      else s.items[k]? := by
  unfold plantTask
  rw [BoardState.items_moveItem, BoardState.items_moveItem]
  split
  · rename_i hk
    rw [hk, items_insertNew]
    rfl
  · rename_i hk
    simp only [insertNew, BoardState.insertItem, BoardState.indexLinkItem,
      ExtTreeMap.getElem?_insert, LawfulEqCmp.compare_eq_iff_eq]
    exact if_neg (Ne.symm hk)

omit [UnicodeTables] in
lemma wellFormed_plantTask {s : BoardState} (h : s.WellFormed) (schema : Schema) (c : NewCard)
    (byWhom : String) (reason : Option String) (t : ℕ → Time) :
    (plantTask schema c byWhom reason t s).WellFormed := by
  have hnew : (insertNew schema (t 0) c s).2.WellFormed := h.insert rfl
  have hitem := items_insertNew schema (t 0) c s
  refine (hnew.move hitem _ _ _ _).move ?_ _ _ _ _
  rw [BoardState.items_moveItem, if_pos rfl, hitem, Option.map_some]

omit [UnicodeTables] in
/-- Planting a Task leaves the cards that are there alone. -/
lemma items_plantTask_of_some {s : BoardState} (h : s.WellFormed) (schema : Schema) (c : NewCard)
    (byWhom : String) (reason : Option String) (t : ℕ → Time) {k : ItemId} {i : WorkItem}
    (hi : s.items[k]? = some i) : (plantTask schema c byWhom reason t s).items[k]? = some i := by
  rw [items_plantTask, if_neg (h.fresh k i hi).ne, hi]

omit [UnicodeTables] in
/-- An allowed move of a card, for a caller whose errors are messages. -/
lemma run_transitionOn_allowed {b : Board} {id : ItemId} {c : WorkItem} {target : State}
    (hc : b.state.items[id]? = some c) (htarget : target ≠ .done)
    (hcheck : b.state.checkMove id c target = .ok ()) (byWhom : String) (reason : Option String) :
    ∃ item b', ((transitionOn id target byWhom reason).mapErr TransitionError.message).run b =
        (.ok item, b') ∧ item.id = c.id ∧
      b'.state = b.state.moveItem id c (b.now 0) target byWhom reason := by
  have hmove := BoardState.transitionLocked_of_ok hc hcheck (b.now 0) byWhom reason
  let s := b.state.moveItem id c (b.now 0) target byWhom reason
  let item := s.populateBlockers (c.moved (b.now 0) target byWhom reason)
  refine ⟨item, (b.stepped s).emitted item, ?_, rfl, rfl⟩
  rw [Locked.run_mapErr, run_transitionOn_ok htarget hmove]
  rfl

variable {card : WorkItem} {projectId : ItemId} {byWhom : String} {origin : Origin}
  {existing : List (String × WorkItem)} {b : Board} {spec : PlanTaskSpec}

omit [UnicodeTables] in
/-- A Task with a definition of done is created, shaped, and moved to Backlog. -/
lemma run_planted {c : NewCard} (hparent : checkParent b.state c.parent = .ok ())
    (hdod : c.definitionOfDone.isSome = true) (byWhom : String) (reason : Option String) :
    ∃ created shaped item b₁ b₂ b' t, (createUnder c).run b = (.ok created, b₁) ∧
      ((transitionOn created.id .shaping byWhom reason).mapErr TransitionError.message).run b₁ =
        (.ok shaped, b₂) ∧
      ((transitionOn created.id .backlog byWhom reason).mapErr TransitionError.message).run b₂ =
        (.ok item, b') ∧
      created.id = b.state.nextId ∧ item.id = b.state.nextId ∧
        b'.state = plantTask b.schema c byWhom reason t b.state := by
  let item := c.toItem b.schema (b.now 0) b.state.nextId
  obtain ⟨created, b₁, hcreate, hid, hstate⟩ := run_createUnder_ok (c := c) hparent
  have hitem : b₁.state.items[b.state.nextId]? = some item := by
    rw [hstate]
    exact items_insertNew _ _ _ _
  have hshape : b₁.state.checkMove b.state.nextId item .shaping = .ok () :=
    (BoardState.checkMove_free_iff (by decide) (by decide)).2 rfl
  obtain ⟨shaped, b₂, hshaped, -, hstate₂⟩ :=
    run_transitionOn_allowed hitem (by decide) hshape byWhom reason
  have hitem₂ : b₂.state.items[b.state.nextId]? =
      some (item.moved (b₁.now 0) .shaping byWhom reason) := by
    rw [hstate₂, BoardState.items_moveItem, if_pos rfl, hitem, Option.map_some]
  have hready : b₂.state.checkMove b.state.nextId
      (item.moved (b₁.now 0) .shaping byWhom reason) .backlog = .ok () :=
    BoardState.checkMove_backlog_iff.2 ⟨rfl, Or.inr hdod⟩
  obtain ⟨queued, b₃, hqueued, hid₃, hstate₃⟩ :=
    run_transitionOn_allowed hitem₂ (by decide) hready byWhom reason
  let t : ℕ → Time := fun n => if n = 0 then b.now 0 else if n = 1 then b₁.now 0 else b₂.now 0
  rw [← hid] at hshaped hqueued
  refine ⟨created, shaped, queued, b₁, b₂, b₃, t, hcreate, hshaped, hqueued, hid, hid₃, ?_⟩
  rw [hstate₃, hstate₂, hstate]
  rfl

/-- A row without a live sibling gets its Task, provided its Project takes Tasks. -/
lemma run_materializeRow_plant (card : WorkItem) (byWhom : String) (origin : Origin)
    (acc : Materialized) (hlookup : existing.lookup (normalizeTitle spec.title) = none)
    (hparent : checkParent b.state (some projectId) = .ok ()) :
    ∃ sibling b' t, (materializeRow card projectId byWhom origin existing acc spec).run b =
        (.ok (acc.1 ++ [sibling], (spec.key, b.state.nextId) :: acc.2), b') ∧
      sibling.id = b.state.nextId ∧
        b'.state = plantRow b.schema (rowCard card.capability projectId origin spec) byWhom t
          b.state := by
  obtain ⟨created, shaped, sibling, b₁, b₂, b₃, t, hcreate, hshaped, hqueued, hid, hid₃,
    hstate⟩ := run_planted (c := rowCard card.capability projectId origin spec) hparent rfl byWhom
      (some "from proposal")
  refine ⟨sibling, b₃, t, ?_, hid₃, hstate⟩
  unfold materializeRow
  rw [hlookup]
  dsimp only
  rw [hid] at hshaped hqueued
  refine (Locked.run_bind_ok hcreate _).trans ?_
  rw [hid, Locked.run_bind_ok hshaped, Locked.run_bind_ok hqueued, hid₃]
  rfl

/-- A row with a live sibling takes it. -/
lemma run_materializeRow_reuse (acc : Materialized) {sibling : WorkItem}
    (hlookup : existing.lookup (normalizeTitle spec.title) = some sibling) :
    (materializeRow card projectId byWhom origin existing acc spec).run b =
      (.ok (acc.1 ++ [sibling], (spec.key, sibling.id) :: acc.2), b) := by
  unfold materializeRow
  rw [hlookup]
  rfl

/-- A Project that takes no Tasks refuses the first row without a live sibling. -/
lemma run_materializeRow_refused (acc : Materialized) {e : String}
    (hlookup : existing.lookup (normalizeTitle spec.title) = none)
    (hparent : checkParent b.state (some projectId) = .error e) :
    (materializeRow card projectId byWhom origin existing acc spec).run b = (.error e, b) := by
  unfold materializeRow
  rw [hlookup]
  exact Locked.run_bind_error (run_createUnder_error hparent) _

omit [UnicodeTables] in
/-- A parent that takes Tasks is on the board. -/
lemma checkParent_some_iff {s : BoardState} {pid : ItemId} :
    checkParent s (some pid) = .ok () ↔
      ∃ p, s.items[pid]? = some p ∧ p.parent = none ∧ p.level ≠ some "Task" := by
  cases hp : s.items[pid]? with
  | none => simp [checkParent, hp]
  | some p =>
    cases hnested : p.parent with
    | some q => simp [checkParent, hp, hnested]
    | none =>
      by_cases htask : p.level = some "Task"
      · simp [checkParent, hp, hnested, htask]
      · simp [checkParent, hp, hnested, htask]

/-- The rows of a proposal, gone through by a method that is alone on the board: all of them
are planted, unless the Project takes no Tasks. -/
lemma run_materializeRows (rows : List PlanTaskSpec) (acc : Materialized)
    (hb : b.state.WellFormed) :
    (∃ made ids b', (rows.foldlM (materializeRow card projectId byWhom origin existing) acc).run b =
        (.ok (acc.1 ++ made, rowKeys rows ids ++ acc.2), b') ∧ made.map WorkItem.id = ids ∧
      Planted card.capability projectId byWhom origin existing b.state rows b'.state ids) ∨
    (checkParent b.state (some projectId) ≠ .ok () ∧ ∃ e b',
      (rows.foldlM (materializeRow card projectId byWhom origin existing) acc).run b =
        (.error e, b')) := by
  induction rows generalizing acc b with
  | nil => exact Or.inl ⟨[], [], b, by simp [rowKeys], rfl, .nil _⟩
  | cons spec rows ih =>
    rw [List.foldlM_cons]
    have hkeys : ∀ (id : ItemId) (ids : List ItemId),
        rowKeys (spec :: rows) (id :: ids) ++ acc.2 =
          rowKeys rows ids ++ ((spec.key, id) :: acc.2) := by
      intro id ids
      simp [rowKeys]
    cases hlookup : existing.lookup (normalizeTitle spec.title) with
    | some sibling =>
      rw [Locked.run_bind_ok (run_materializeRow_reuse acc hlookup)]
      rcases ih (acc.1 ++ [sibling], (spec.key, sibling.id) :: acc.2) hb with
        ⟨made, ids, b', hrun, hids, hplanted⟩ | hrefused
      · refine Or.inl ⟨sibling :: made, sibling.id :: ids, b', ?_, by rw [List.map_cons, hids],
          .reuse hlookup hplanted⟩
        rw [hrun, hkeys, List.append_assoc, List.singleton_append]
      · exact Or.inr hrefused
    | none =>
      cases hparent : checkParent b.state (some projectId) with
      | error e =>
        refine Or.inr ⟨by simp, e, b, ?_⟩
        exact Locked.run_bind_error (run_materializeRow_refused acc hlookup hparent) _
      | ok u =>
        obtain ⟨sibling, b₁, t, hrun₁, hid, hstate⟩ :=
          run_materializeRow_plant card byWhom origin acc hlookup hparent
        have hb₁ : b₁.state.WellFormed := by
          rw [hstate]
          exact wellFormed_plantTask hb _ _ _ _ _
        have hparent₁ : checkParent b₁.state (some projectId) = .ok () := by
          obtain ⟨p, hp, hroot⟩ := checkParent_some_iff.1 hparent
          rw [hstate]
          exact checkParent_some_iff.2 ⟨p, items_plantTask_of_some hb _ _ _ _ _ hp, hroot⟩
        rw [Locked.run_bind_ok hrun₁]
        rcases ih (acc.1 ++ [sibling], (spec.key, b.state.nextId) :: acc.2) hb₁ with
          ⟨made, ids, b', hrun, hids, hplanted⟩ | ⟨hrefused, -⟩
        · rw [hstate] at hplanted
          refine Or.inl ⟨sibling :: made, b.state.nextId :: ids, b', ?_,
            by rw [List.map_cons, hids, hid], .plant _ t hlookup hplanted⟩
          rw [hrun, hkeys, List.append_assoc, List.singleton_append]
        · exact absurd hparent₁ hrefused

/-! ## What planting keeps -/

/-- A sibling found by its title is a live card of the Project with that title. -/
lemma lookup_existingByTitle {s : BoardState} (hs : s.WellFormed) {id : ItemId} {title : String}
    {sibling : WorkItem} (h : (existingByTitle projectId id s).lookup title = some sibling) :
    s.items[sibling.id]? = some sibling ∧ sibling.parent = some projectId ∧ sibling.id ≠ id ∧
      sibling.state ≠ .retired ∧ normalizeTitle sibling.title = title := by
  obtain ⟨before, after, hsplit, -⟩ := List.lookup_eq_some_iff.1 h
  have hmem : (title, sibling) ∈ existingByTitle projectId id s := by
    rw [hsplit]
    exact List.mem_append_right _ List.mem_cons_self
  simp only [existingByTitle, List.mem_reverse, List.mem_filter, List.mem_map, Prod.mk.injEq,
    hs.mem_cards_iff, Bool.and_eq_true, beq_iff_eq, bne_iff_ne] at hmem
  obtain ⟨⟨i, ⟨hi, ⟨hparent, hne⟩, hstate⟩, htitle, rfl⟩, -⟩ := hmem
  exact ⟨hi, hparent, hne, hstate, htitle⟩

namespace Planted

variable {fallback : Option String} {s s' : BoardState} {rows : List PlanTaskSpec}
  {ids : List ItemId}

lemma wellFormed (h : Planted fallback projectId byWhom origin existing s rows s' ids)
    (hs : s.WellFormed) : s'.WellFormed := by
  induction h with
  | nil s => exact hs
  | reuse hlookup h ih => exact ih hs
  | plant schema t hlookup h ih => exact ih (wellFormed_plantTask hs _ _ _ _ _)

/-- The cards that are there are left alone. -/
lemma kept (h : Planted fallback projectId byWhom origin existing s rows s' ids)
    (hs : s.WellFormed) {k : ItemId} {i : WorkItem} (hi : s.items[k]? = some i) :
    s'.items[k]? = some i := by
  induction h with
  | nil s => exact hi
  | reuse hlookup h ih => exact ih hs hi
  | plant schema t hlookup h ih =>
    exact ih (wellFormed_plantTask hs _ _ _ _ _) (items_plantTask_of_some hs _ _ _ _ _ hi)

/-- Every row has its Task on the board. -/
lemma present (h : Planted fallback projectId byWhom origin existing s rows s' ids)
    (hs : s.WellFormed) (hexisting : ∀ title sibling, existing.lookup title = some sibling →
      ∃ i, s.items[sibling.id]? = some i) : ∀ id ∈ ids, ∃ i, s'.items[id]? = some i := by
  induction h with
  | nil s => simp
  | @reuse s s' spec rows ids sibling hlookup h ih =>
    intro id hid
    rcases List.mem_cons.1 hid with rfl | hid
    · obtain ⟨i, hi⟩ := hexisting _ _ hlookup
      exact ⟨i, h.kept hs hi⟩
    · exact ih hs hexisting id hid
  | @plant s s' spec rows ids schema t hlookup h ih =>
    have hplanted := wellFormed_plantTask hs schema (rowCard fallback projectId origin spec) byWhom
      (some "from proposal") t
    intro id hid
    rcases List.mem_cons.1 hid with rfl | hid
    · exact ⟨_, h.kept hplanted ((items_plantTask _ _ _ _ _ _ _).trans (if_pos rfl))⟩
    · refine ih hplanted (fun title sibling hsibling => ?_) id hid
      obtain ⟨i, hi⟩ := hexisting title sibling hsibling
      exact ⟨i, items_plantTask_of_some hs _ _ _ _ _ hi⟩

lemma length_eq (h : Planted fallback projectId byWhom origin existing s rows s' ids) :
    ids.length = rows.length := by
  induction h with
  | nil s => rfl
  | reuse hlookup h ih => rw [List.length_cons, List.length_cons, ih]
  | plant schema t hlookup h ih => rw [List.length_cons, List.length_cons, ih]

end Planted

/-! ## Edges and the card -/

omit [UnicodeTables] in
/-- An edit that is always wanted. -/
lemma run_editIf_always {ε : Type} (id : ItemId) (f : WorkItem → WorkItem) (b : Board) :
    ∃ b', (editIf id (fun _ => true) f : Method ε Unit).run b = (.ok (), b') ∧
      b'.state = b.state.editItem id f := by
  cases hc : b.state.items[id]? with
  | none =>
    refine ⟨b.stepped b.state, ?_, (BoardState.editItem_of_none hc f).symm⟩
    simp [editIf, hc]
  | some c =>
    refine ⟨(b.stepped (b.state.editItem id f)).emitted (f c), ?_, rfl⟩
    simp [editIf, hc]

omit [UnicodeTables] in
/-- The edges of a row are written. -/
lemma run_linkRow (keyToId : List (String × ItemId)) (spec : PlanTaskSpec) (b : Board) :
    ∃ b', (linkRow keyToId spec).run b = (.ok (), b') ∧
      b'.state = linked keyToId b.state spec := by
  unfold linkRow linked
  cases keyToId.lookup spec.key with
  | none => exact ⟨b, rfl, rfl⟩
  | some sid =>
    change ∃ b', (Locked.when (!(resolved keyToId spec).isEmpty)
      (setBlockedBy sid (resolved keyToId spec))).run b = _ ∧ _
    dsimp only
    rw [Locked.run_when]
    cases hempty : (resolved keyToId spec).isEmpty with
    | true => exact ⟨b, rfl, rfl⟩
    | false => exact run_editIf_always sid _ b

omit [UnicodeTables] in
lemma run_linkRows (keyToId : List (String × ItemId)) (rows : List PlanTaskSpec) (b : Board) :
    ∃ b', (rows.forM (linkRow keyToId)).run b = (.ok (), b') ∧
      b'.state = rows.foldl (linked keyToId) b.state := by
  induction rows generalizing b with
  | nil => exact ⟨b, rfl, rfl⟩
  | cons spec rows ih =>
    obtain ⟨b₁, hrun₁, hstate₁⟩ := run_linkRow keyToId spec b
    obtain ⟨b₂, hrun₂, hstate₂⟩ := ih b₁
    refine ⟨b₂, ?_, by rw [hstate₂, hstate₁, List.foldl_cons]⟩
    change (linkRow keyToId spec >>= fun _ => rows.forM (linkRow keyToId)).run b = _
    rw [Locked.run_bind_ok hrun₁]
    exact hrun₂

/-- The proposal `p` of the card `id`, which is `c`, became Tasks under the Project `projectId`:
the rows were planted, the edges written, and the card settled. -/
def Materializes (id : ItemId) (c : WorkItem) (p : TaskProposal) (projectId : ItemId)
    (byWhom : String) (origin : Origin) (ids : List ItemId) (s s' : BoardState) : Prop :=
  ∃ s₁, Planted c.capability projectId byWhom origin (existingByTitle projectId id s) s p.tasks s₁
      ids ∧
    s' = (p.tasks.foldl (linked (rowKeys p.tasks ids)) s₁).editItem id
      (settled c.isInitialPlanTask (rowKeys p.tasks ids))

/-- Materialization, alone on the board: the proposal of a card becomes Tasks under its Project. -/
lemma run_materializeProposal {id : ItemId} {c : WorkItem} {p : TaskProposal}
    (hb : b.state.WellFormed) (hc : b.state.items[id]? = some c) (hp : c.proposal = some p)
    (hrows : p.tasks ≠ []) (hproject : c.parent = some projectId)
    (htakes : checkParent b.state (some projectId) = .ok ()) (byWhom : String) (origin : Origin) :
    ∃ made ids b', (materializeProposal id byWhom origin).run b = (.ok made, b') ∧
      made.map WorkItem.id = ids ∧
        Materializes id c p projectId byWhom origin ids b.state b'.state := by
  have hproposal : (b.state.populateBlockers c).proposal.filter (fun p => !p.tasks.isEmpty) =
      some p := by
    change c.proposal.filter _ = _
    simp [hp, hrows]
  have hparent : (b.state.populateBlockers c).parent = some projectId := hproject
  unfold materializeProposal
  rw [Locked.run_bind_ok (run_getOr_some hc _), hproposal, hparent]
  dsimp only
  rw [Locked.run_bind_ok (run_read _ b)]
  have hloop := @run_materializeRows _ (b.state.populateBlockers c) projectId byWhom origin
    (existingByTitle projectId id b.state) b p.tasks ([], []) hb
  rcases hloop with ⟨made, ids, b₁, hrun, hids, hplanted⟩ | ⟨hrefused, -⟩
  · obtain ⟨b₂, hlinks, hstate₂⟩ := run_linkRows (rowKeys p.tasks ids) p.tasks b₁
    obtain ⟨b₃, hsettle, hstate₃⟩ := run_editIf_always (ε := String) id
      (settled c.isInitialPlanTask (rowKeys p.tasks ids)) b₂
    refine ⟨made, ids, b₃, ?_, hids, b₁.state, hplanted, by rw [hstate₃, hstate₂]⟩
    rw [List.nil_append, List.append_nil] at hrun
    rw [Locked.run_bind_ok hrun]
    dsimp only
    rw [Locked.run_bind_ok hlinks]
    exact Locked.run_bind_ok hsettle _
  · exact absurd htakes hrefused

/-- Without rows or without a Project, materialization fails. -/
lemma run_materializeProposal_refused {id : ItemId} {c : WorkItem}
    (hc : b.state.items[id]? = some c)
    (h : ∀ p projectId, c.proposal = some p → p.tasks ≠ [] → c.parent ≠ some projectId)
    (byWhom : String) (origin : Origin) :
    ∃ e, (materializeProposal id byWhom origin).run b = (.error e, b) := by
  have hproposal : (b.state.populateBlockers c).proposal = c.proposal := rfl
  have hparent : (b.state.populateBlockers c).parent = c.parent := rfl
  unfold materializeProposal
  rw [Locked.run_bind_ok (run_getOr_some hc _), hproposal, hparent]
  cases hp : c.proposal.filter fun p => !p.tasks.isEmpty with
  | none => exact ⟨_, rfl⟩
  | some p =>
    obtain ⟨hsome, hrows⟩ := Option.filter_eq_some_iff.1 hp
    cases hproject : c.parent with
    | none => exact ⟨_, rfl⟩
    | some projectId => exact absurd hproject (h p projectId hsome (by simpa using hrows))

end Unicode

end Board

end Sandboard

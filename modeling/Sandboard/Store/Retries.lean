import Sandboard.Store.Nesting

/-!
# The retry budget

The counter of failed runs goes up in one place and is reset in many.  `Tallied id` is what
every other edit and every move do with the counter of the card `id`: they keep it, unless a
human moves the card.  So over a run that no human and no automatic steer interferes with, the
counter is the number of failures, and `recordRunFailure` requeues the card fewer times than
the limit.
-/

namespace Sandboard

open Std Text BoardState

/-! ## The counter -/

/-- The card went on with its counter, or a human moved it. -/
structure WorkItem.Tally (c c' : WorkItem) : Prop where
  tally : ∃ moves, c'.history = c.history ++ moves ∧ (c'.runFailures = c.runFailures ∨
    (c'.runFailures = 0 ∧ ∃ t ∈ moves, t.byWhom = "human"))

/-- The edit leaves the counter and the history alone. -/
structure KeepsCounter (f : WorkItem → WorkItem) : Prop where
  counter : ∀ i, (f i).runFailures = i.runFailures
  history : ∀ i, (f i).history = i.history

/-- The card `id` kept its counter over the change of the board; a new card starts at zero. -/
structure BoardState.Tallied (id : ItemId) (s s' : BoardState) : Prop where
  grows : s.nextId ≤ s'.nextId
  bounded : (∀ c, s.items[id]? = some c → id < s.nextId) →
    ∀ c', s'.items[id]? = some c' → id < s'.nextId
  fresh : s.items[id]? = none → s.nextId ≤ id → ∀ c', s'.items[id]? = some c' →
    c'.runFailures = 0
  kept : id < s.nextId → ∀ c', s'.items[id]? = some c' →
    ∃ c, s.items[id]? = some c ∧ c.Tally c'

namespace WorkItem.Tally

variable {c c' c'' : WorkItem}

lemma refl (c : WorkItem) : c.Tally c := ⟨[], (List.append_nil _).symm, Or.inl rfl⟩

lemma trans (h : c.Tally c') (h' : c'.Tally c'') : c.Tally c'' := by
  obtain ⟨moves, hmoves, hcount⟩ := h.tally
  obtain ⟨moves', hmoves', hcount'⟩ := h'.tally
  refine ⟨moves ++ moves', by rw [hmoves', hmoves, List.append_assoc], ?_⟩
  rcases hcount' with hsame' | ⟨hzero', t, ht, hhuman⟩
  · rcases hcount with hsame | ⟨hzero, t, ht, hhuman⟩
    · exact Or.inl (hsame'.trans hsame)
    · exact Or.inr ⟨hsame'.trans hzero, t, List.mem_append_left _ ht, hhuman⟩
  · exact Or.inr ⟨hzero', t, List.mem_append_right _ ht, hhuman⟩

lemma edit {f : WorkItem → WorkItem} (hf : KeepsCounter f) (c : WorkItem) : c.Tally (f c) :=
  ⟨[], by rw [hf.history, List.append_nil], Or.inl (hf.counter c)⟩

lemma moved (c : WorkItem) (now : Time) (target : State) (byWhom : String)
    (reason : Option String) : c.Tally (c.moved now target byWhom reason) := by
  refine ⟨[⟨now, c.state, target, byWhom, reason⟩], rfl, ?_⟩
  by_cases hhuman : (decide (target = .backlog) && byWhom == "human") = true
  · refine Or.inr ⟨if_pos hhuman, _, List.mem_singleton_self _, ?_⟩
    simpa using (Bool.and_eq_true_iff.1 hhuman).2
  · exact Or.inl (if_neg hhuman)

/-- Only a human's move resets the counter. -/
lemma counter (h : c.Tally c')
    (hhuman : ∀ moves, c'.history = c.history ++ moves → ∀ t ∈ moves, t.byWhom ≠ "human") :
    c'.runFailures = c.runFailures := by
  obtain ⟨moves, hmoves, hsame | ⟨-, t, ht, hby⟩⟩ := h.tally
  · exact hsame
  · exact absurd hby (hhuman moves hmoves t ht)

end WorkItem.Tally

namespace BoardState.Tallied

variable {id : ItemId} {s s' s'' : BoardState}

lemma of_card (hnext : s'.nextId = s.nextId)
    (h : ∀ c', s'.items[id]? = some c' → ∃ c, s.items[id]? = some c ∧ c.Tally c') :
    Tallied id s s' where
  grows := hnext.ge
  bounded hs c' hc' := by
    obtain ⟨c, hc, -⟩ := h c' hc'
    rw [hnext]
    exact hs c hc
  fresh hnone _ c' hc' := by
    obtain ⟨c, hc, -⟩ := h c' hc'
    rw [hnone] at hc
    cases hc
  kept _ := h

lemma of_same (hnext : s'.nextId = s.nextId) (h : s'.items[id]? = s.items[id]?) :
    Tallied id s s' :=
  of_card hnext fun c' hc' => ⟨c', h ▸ hc', .refl c'⟩

lemma trans (h : Tallied id s s') (h' : Tallied id s' s'') : Tallied id s s'' where
  grows := h.grows.trans h'.grows
  bounded hs := h'.bounded (h.bounded hs)
  fresh hnone hnew c'' hc'' := by
    by_cases hid : id < s'.nextId
    · obtain ⟨c', hc', htally⟩ := h'.kept hid c'' hc''
      obtain ⟨moves, -, hcount⟩ := htally.tally
      rcases hcount with hsame | ⟨hzero, -⟩
      · exact hsame.trans (h.fresh hnone hnew c' hc')
      · exact hzero
    · refine h'.fresh ?_ (Nat.le_of_not_lt hid) c'' hc''
      by_contra hsome
      obtain ⟨c', hc'⟩ := Option.ne_none_iff_exists'.1 hsome
      exact hid (h.bounded (fun c hc => by rw [hnone] at hc; cases hc) c' hc')
  kept hid c'' hc'' := by
    obtain ⟨c', hc', htally'⟩ := h'.kept (hid.trans_le h.grows) c'' hc''
    obtain ⟨c, hc, htally⟩ := h.kept hid c' hc'
    exact ⟨c, hc, htally.trans htally'⟩

lemma edit {k : ItemId} {f : WorkItem → WorkItem} (hf : k = id → KeepsCounter f)
    (s : BoardState) : Tallied id s (s.editItem k f) := by
  refine of_card rfl fun c' hc' => ?_
  rw [items_editItem] at hc'
  split at hc'
  · rename_i hk
    obtain ⟨c, hc, rfl⟩ := Option.map_eq_some_iff.1 hc'
    exact ⟨c, hc, .edit (hf hk.symm) c⟩
  · exact ⟨c', hc', .refl c'⟩

lemma move {k : ItemId} {target : State} {byWhom : String} (s : BoardState) (now : Time)
    (reason : Option String) : Tallied id s (s.tryMove now k target byWhom reason).2 := by
  unfold BoardState.tryMove
  cases hmove : s.transitionLocked now k target byWhom reason with
  | error e => exact of_same rfl rfl
  | ok r =>
    obtain ⟨item, s'⟩ := r
    obtain ⟨c, hc, -, rfl, -⟩ := transitionLocked_eq_ok_iff.1 hmove
    refine of_card rfl fun c' hc' => ?_
    change (s.moveItem k c now target byWhom reason).items[id]? = some c' at hc'
    rw [items_moveItem] at hc'
    split at hc'
    · obtain ⟨i, hi, rfl⟩ := Option.map_eq_some_iff.1 hc'
      exact ⟨i, hi, .moved i now target byWhom reason⟩
    · exact ⟨c', hc', .refl c'⟩

lemma insert (schema : Schema) (now : Time) (n : Board.NewCard) (s : BoardState) :
    Tallied id s (Board.insertNew schema now n s).2 := by
  have hitem : ∀ c', (Board.insertNew schema now n s).2.items[id]? = some c' →
      (id = s.nextId ∧ c'.runFailures = 0) ∨ (id ≠ s.nextId ∧ s.items[id]? = some c') := by
    intro c' hc'
    rw [items_insertNew_ite] at hc'
    split at hc'
    · rename_i hid
      cases hc'
      exact Or.inl ⟨hid, rfl⟩
    · rename_i hid
      exact Or.inr ⟨hid, hc'⟩
  refine ⟨Nat.le_succ _, fun hs c' hc' => ?_, fun hnone _ c' hc' => ?_, fun hid c' hc' => ?_⟩
  · rcases hitem c' hc' with ⟨hnew, -⟩ | ⟨-, hold⟩
    · exact hnew ▸ Nat.lt_succ_self s.nextId
    · exact (hs c' hold).trans (Nat.lt_succ_self s.nextId)
  · rcases hitem c' hc' with ⟨-, hzero⟩ | ⟨-, hold⟩
    · exact hzero
    · rw [hnone] at hold
      cases hold
  · rcases hitem c' hc' with ⟨hnew, -⟩ | ⟨-, hold⟩
    · exact absurd hnew hid.ne
    · exact ⟨c', hold, .refl c'⟩

lemma delete (k : ItemId) (s : BoardState) : Tallied id s (Board.deleteSection k s).2 := by
  unfold Board.deleteSection
  split
  · exact of_same rfl rfl
  · refine of_card (nextId_removeAll _ s) fun c' hc' => ?_
    rw [ExtTreeMap.getElem?_map] at hc'
    obtain ⟨c, hc, rfl⟩ := Option.map_eq_some_iff.1 hc'
    rw [items_removeAll] at hc
    split at hc
    · cases hc
    · exact ⟨c, hc, [], (List.append_nil _).symm, Or.inl rfl⟩

/-- Whatever a method does to the card, the counter is kept, unless an edit writes it. -/
lemma covers (id : ItemId) :
    Covers (fun k f => k = id → KeepsCounter f) (Tallied id) where
  aside hitems hnext _ _ := of_same hnext (by rw [hitems])
  trans := trans
  edit s hf := edit hf s
  move s now reason _ := move s now reason
  insert := insert
  propose _ _ _ := ⟨fun _ => rfl, fun _ => rfl⟩
  settle _ _ _ _ := ⟨fun _ => rfl, fun _ => rfl⟩
  link _ _ _ := ⟨fun _ => rfl, fun _ => rfl⟩
  unplan _ _ := ⟨fun _ => rfl, fun _ => rfl⟩

end BoardState.Tallied

/-! ## What writes the counter -/

/-- The operation writes the counter of the card `id` itself, or steers whatever card it
finds. -/
def Operation.Counts (id : ItemId) : Operation → Prop
  | steer k _ | answerEscalation k _ | requestChanges k _ | clearRunFailures k
  | recordRunFailure k _ _ => k = id
  | notifyMainAdvanced .. | applyPrReviewFeedback .. => True
  | _ => False

lemma keepsCounter_notedPark (reason : Option String) (now : Time) :
    KeepsCounter (Board.notedPark reason now) := by
  cases reason with
  | none => exact ⟨fun _ => rfl, fun _ => rfl⟩
  | some r => exact ⟨fun _ => rfl, fun _ => rfl⟩

/-- The edits of every other operation leave the counter alone. -/
lemma Operation.editsIn_keepsCounter {id : ItemId} {op : Operation} (h : ¬op.Counts id) :
    op.EditsIn fun k f => k = id → KeepsCounter f := by
  have hasking : ∀ (k : ItemId) question options recommended now,
      k = id → KeepsCounter (WorkItem.asking question options recommended now) :=
    fun _ _ _ _ _ _ => ⟨fun _ => rfl, fun _ => rfl⟩
  cases op with
  | steer => exact fun _ hid => absurd hid h
  | clearRunFailures => exact fun hid => absurd hid h
  | answerEscalation => exact ⟨fun _ hid => absurd hid h, fun _ hid => absurd hid h⟩
  | requestChanges => exact ⟨fun _ _ hid => absurd hid h, fun hid => absurd hid h⟩
  | recordRunFailure => exact ⟨fun hid => absurd hid h, hasking _⟩
  | notifyMainAdvanced | applyPrReviewFeedback => exact absurd trivial h
  | createProject => exact fun _ _ _ _ _ _ _ => ⟨fun _ => rfl, fun _ => rfl⟩
  | setAutoDispatch =>
    exact ⟨fun _ => ⟨fun _ => rfl, fun _ => rfl⟩, fun _ _ => ⟨fun _ => rfl, fun _ => rfl⟩,
      fun _ _ => ⟨fun _ => rfl, fun _ => rfl⟩⟩
  | escalate => exact hasking _ _ _ _
  | proposeSplit => exact hasking _
  | park => exact ⟨fun _ _ _ => keepsCounter_notedPark _ _, fun _ => ⟨fun _ => rfl, fun _ => rfl⟩⟩
  | unpark => exact ⟨fun _ => ⟨fun _ => rfl, fun _ => rfl⟩, fun _ => ⟨fun _ => rfl, fun _ => rfl⟩⟩
  | recordRebaseOutcome =>
    exact ⟨fun _ => ⟨fun _ => rfl, fun _ => rfl⟩, fun _ _ _ _ => ⟨fun _ => rfl, fun _ => rfl⟩,
      hasking _, fun _ => ⟨fun _ => rfl, fun _ => rfl⟩⟩
  | heartbeat | claim | reopenForAdoption | reportPullRequest | completeForMergedPr =>
    exact fun _ _ _ => ⟨fun _ => rfl, fun _ => rfl⟩
  | setProjectSandboxProfile | setPrUrl | releaseWithReason | unarchiveScope
  | autoEnqueueProject | autoEnqueueAll => exact fun _ _ => ⟨fun _ => rfl, fun _ => rfl⟩
  | updateItem | setEnvironment | setConversationId | setPullRequests | enqueueDispatch
  | clearDispatch | report | halt | dispatchRebase => exact fun _ => ⟨fun _ => rfl, fun _ => rfl⟩
  | _ => trivial

/-! ## The automatic steers -/

/-- The card `id` is left alone. -/
structure BoardState.Untouched (id : ItemId) (s s' : BoardState) : Prop where
  item : s'.items[id]? = s.items[id]?

/-- Edits and moves of other cards leave the card alone. -/
lemma BoardState.Untouched.shapes (id : ItemId) :
    Shapes (fun k _ => k ≠ id) (fun k _ _ => k ≠ id) (Untouched id) where
  aside hitems _ _ _ := ⟨by rw [hitems]⟩
  trans h h' := ⟨h'.item.trans h.item⟩
  edit s hk := ⟨items_editItem_of_ne hk.symm _⟩
  move {k target byWhom} s now reason hk := by
    refine ⟨?_⟩
    unfold BoardState.tryMove
    cases hmove : s.transitionLocked now k target byWhom reason with
    | error e => rfl
    | ok r =>
      obtain ⟨item, s'⟩ := r
      obtain ⟨c, hc, -, rfl, -⟩ := transitionLocked_eq_ok_iff.1 hmove
      change (s.moveItem k c now target byWhom reason).items[id]? = _
      rw [items_moveItem, if_neg hk.symm]

/-- A card that is not on the board stays away. -/
structure BoardState.StaysAbsent (id : ItemId) (s s' : BoardState) : Prop where
  none : s.items[id]? = none → s'.items[id]? = none

lemma BoardState.StaysAbsent.shapes (id : ItemId) :
    Shapes (fun _ _ => True) (fun _ _ _ => True) (StaysAbsent id) where
  aside hitems _ _ _ := ⟨fun h => by rw [hitems, h]⟩
  trans h h' := ⟨fun hnone => h'.none (h.none hnone)⟩
  edit {k f} s _ := by
    refine ⟨fun h => ?_⟩
    rw [items_editItem, h]
    split <;> rfl
  move {k target byWhom} s now reason _ := by
    refine ⟨fun h => ?_⟩
    unfold BoardState.tryMove
    cases hmove : s.transitionLocked now k target byWhom reason with
    | error e => exact h
    | ok r =>
      obtain ⟨item, s'⟩ := r
      obtain ⟨c, hc, -, rfl, -⟩ := transitionLocked_eq_ok_iff.1 hmove
      change (s.moveItem k c now target byWhom reason).items[id]? = _
      rw [items_moveItem, h]
      split <;> rfl

/-- Deleting a section puts no card on the board. -/
lemma BoardState.StaysAbsent.delete {id : ItemId} (k : ItemId) (s : BoardState) :
    StaysAbsent id s (Board.deleteSection k s).2 := by
  refine ⟨fun hnone => ?_⟩
  unfold Board.deleteSection
  split
  · exact hnone
  · rw [ExtTreeMap.getElem?_map, items_removeAll, hnone]
    split <;> rfl

/-- A card that was deleted does not come back. -/
structure BoardState.StaysGone (id : ItemId) (s s' : BoardState) : Prop where
  grows : s.nextId ≤ s'.nextId
  absent : id < s.nextId → StaysAbsent id s s'

lemma BoardState.StaysGone.covers (id : ItemId) :
    Covers (fun _ _ => True) (StaysGone id) where
  aside hitems hnext hchildren hstates :=
    ⟨hnext.ge, fun _ => (StaysAbsent.shapes id).aside hitems hnext hchildren hstates⟩
  trans h h' := ⟨h.grows.trans h'.grows, fun hid =>
    (StaysAbsent.shapes id).trans (h.absent hid) (h'.absent (hid.trans_le h.grows))⟩
  edit s _ := ⟨le_rfl, fun _ => (StaysAbsent.shapes id).edit s trivial⟩
  move {k target byWhom} s now reason _ := by
    refine ⟨?_, fun _ => (StaysAbsent.shapes id).move s now reason trivial⟩
    exact (Tallied.move s now reason : Tallied k s (s.tryMove now k target byWhom reason).2).grows
  insert schema now n s := by
    refine ⟨Nat.le_succ _, fun hid => ⟨fun hnone => ?_⟩⟩
    rw [items_insertNew_ite, if_neg hid.ne, hnone]
  propose _ _ := trivial
  settle _ _ _ := trivial
  link _ _ := trivial
  unplan _ := trivial

/-- A card without a counted failure gets none. -/
structure BoardState.StaysZero (id : ItemId) (s s' : BoardState) : Prop where
  zero : (∀ c, s.items[id]? = some c → c.runFailures = 0) →
    ∀ c', s'.items[id]? = some c' → c'.runFailures = 0

lemma BoardState.StaysZero.covers (id : ItemId) :
    Covers (fun k f => k = id → ∀ i, i.runFailures = 0 → (f i).runFailures = 0)
      (StaysZero id) where
  aside hitems _ _ _ := ⟨fun h => by rwa [hitems]⟩
  trans h h' := ⟨fun hzero => h'.zero (h.zero hzero)⟩
  edit {k f} s hf := by
    refine ⟨fun h c' hc' => ?_⟩
    rw [items_editItem] at hc'
    split at hc'
    · rename_i hk
      obtain ⟨c, hc, rfl⟩ := Option.map_eq_some_iff.1 hc'
      exact hf hk.symm c (h c hc)
    · exact h c' hc'
  move {k target byWhom} s now reason _ := by
    refine ⟨fun h c' hc' => ?_⟩
    unfold BoardState.tryMove at hc'
    cases hmove : s.transitionLocked now k target byWhom reason with
    | error e =>
      rw [hmove] at hc'
      exact h c' hc'
    | ok r =>
      rw [hmove] at hc'
      obtain ⟨item, s'⟩ := r
      obtain ⟨c, hc, -, rfl, -⟩ := transitionLocked_eq_ok_iff.1 hmove
      change (s.moveItem k c now target byWhom reason).items[id]? = some c' at hc'
      rw [items_moveItem] at hc'
      split at hc'
      · obtain ⟨i, hi, rfl⟩ := Option.map_eq_some_iff.1 hc'
        change (if _ then 0 else i.runFailures) = 0
        rw [h i hi, ite_self]
      · exact h c' hc'
  insert schema now n s := by
    refine ⟨fun h c' hc' => ?_⟩
    rw [items_insertNew_ite] at hc'
    split at hc'
    · cases hc'
      rfl
    · exact h c' hc'
  propose _ _ _ := fun _ h => h
  settle _ _ _ _ := fun _ h => h
  link _ _ _ := fun _ h => h
  unplan _ _ := fun _ h => h

lemma BoardState.StaysZero.delete {id : ItemId} (k : ItemId) (s : BoardState) :
    StaysZero id s (Board.deleteSection k s).2 := by
  refine ⟨fun h c' hc' => ?_⟩
  unfold Board.deleteSection at hc'
  split at hc'
  · exact h c' hc'
  · rw [ExtTreeMap.getElem?_map, items_removeAll] at hc'
    obtain ⟨c, hc, rfl⟩ := Option.map_eq_some_iff.1 hc'
    split at hc
    · cases hc
    · exact h c hc

/-- The card is in flight, or queued after an earlier automatic steer. -/
def WorkItem.isSteerable (c : WorkItem) : Bool :=
  c.state == .claimed || c.state == .running || Board.isCoalesced c

/-- The upstream of the card, or the default upstream, is the repository that advanced. -/
def WorkItem.onRepo (schema : Schema) (id : ItemId) (advancedRepo : String) (c : WorkItem) :
    Bool :=
  !(trim advancedRepo).isEmpty &&
    match (Board.repoOf id c).toOption.join with
    | some repo => repo.upstream == trim advancedRepo
    | none => !(trim schema.repo.upstream).isEmpty &&
      trim schema.repo.upstream == trim advancedRepo

/-- The announcement that the repository advanced to the commit steers the card. -/
structure WorkItem.SteeredBy (schema : Schema) (id : ItemId) (advancedRepo : String)
    (commitSha : Option String) (c : WorkItem) : Prop where
  steerable : c.isSteerable = true
  onRepo : c.onRepo schema id advancedRepo = true
  news : ¬(Board.isCoalesced c = true ∧
    Board.mainAdvancedShaUnchanged commitSha (Board.lastMainAdvancedSteerCommitSha c.notes) = true)

namespace Board

variable {ε : Type} {b : Board} {id : ItemId} {c : WorkItem}

lemma run_cardRepo (hc : b.state.items[id]? = some c) :
    (cardRepo id : Method ε _).run b = (.ok (repoOf id c).toOption.join, b) := by
  have hresolve : (resolveCardRepo id : Method ε _).run b = (.ok (repoOf id c), b) := by
    unfold resolveCardRepo
    rw [Locked.run_bind_ok (run_get id b), hc]
    rfl
  unfold cardRepo
  rw [Locked.run_bind_ok hresolve]
  rfl

lemma run_cardMatchesMainAdvancedRepo (hc : b.state.items[id]? = some c) (advancedRepo : String) :
    (cardMatchesMainAdvancedRepo id advancedRepo : Method ε Bool).run b =
      (.ok (c.onRepo b.schema id advancedRepo), b) := by
  unfold cardMatchesMainAdvancedRepo WorkItem.onRepo
  dsimp only
  cases hblank : (trim advancedRepo).isEmpty with
  | true => rfl
  | false =>
    rw [if_neg Bool.false_ne_true, Locked.run_bind_ok (run_cardRepo hc)]
    cases (repoOf id c).toOption.join with
    | some repo => rfl
    | none => rfl

section Unicode

variable [UnicodeTables]

/-- The schema of a board never changes. -/
lemma hush_schema (schema : Schema) : Hush Licence.free fun b => b.schema = schema where
  tick h := h
  told _ _ h := h
  advanced _ _ h := h
  flushed {b} h := by
    unfold flushed
    split
    · exact h
    · exact h
  profiles _ h := h
  work _ h _ _ := h
  insert _ h _ _ := h
  propose _ h _ _ := h
  settle _ _ _ _ h _ := h
  link _ h _ _ := h
  rewrite _ h _ _ := h
  proposed _ _ _ _ := trivial
  resolved _ _ _ _ := trivial
  rows _ _ := trivial
  defined _ := trivial
  undefined := trivial
  moves _ _ := trivial
  promotes _ := trivial
  quiet _ h _ _ := h
  aired _ h := h

/-- A card on another repository is not steered, and neither is a queued one without news. -/
lemma run_steerLiveCard_idle (hc : b.state.items[id]? = some c)
    {advancedRepo refName : String} {commitSha : Option String} {steered : List ItemId}
    (hidle : c.onRepo b.schema id advancedRepo = true → isCoalesced c = true ∧
      mainAdvancedShaUnchanged commitSha (lastMainAdvancedSteerCommitSha c.notes) = true) :
    ((steerLiveCard advancedRepo refName commitSha steered id).run b).2 = b := by
  have hread : ∀ e : String, (readOr id e).run b = (.ok c, b) := fun e => run_readOr_some hc e
  unfold steerLiveCard
  rw [Locked.run_bind_ok (run_cardMatchesMainAdvancedRepo hc advancedRepo)]
  cases hmatch : c.onRepo b.schema id advancedRepo with
  | false => rfl
  | true =>
    obtain ⟨hcoalesced, hsame⟩ := hidle hmatch
    rw [if_neg (by simp), Locked.run_bind_ok (hread _), Locked.run_bind_ok (run_cardRepo hc),
      Locked.run_bind_ok (hread _), if_pos (by rw [hcoalesced, hsame]; rfl)]
    rfl

/-- The steer of one candidate leaves the card `id` alone, unless it is this candidate and is
steered. -/
lemma sustains_steerLiveCard_untouched {schema : Schema} {o : Option WorkItem}
    {advancedRepo refName : String} {commitSha : Option String} (steered : List ItemId)
    {k : ItemId} (hsteered : k = id → ∀ c, o = some c →
      c.onRepo schema id advancedRepo = true → isCoalesced c = true ∧
        mainAdvancedShaUnchanged commitSha (lastMainAdvancedSteerCommitSha c.notes) = true) :
    Sustains (fun b => b.schema = schema ∧ b.state.items[id]? = o)
      (steerLiveCard advancedRepo refName commitSha steered k) := by
  refine sustains_of_run fun b hs hI => ?_
  obtain ⟨hschema, ho⟩ := hI
  have hkeeps := (sustains_steerLiveCard (hush_schema schema) advancedRepo refName commitSha
    steered k).keeps.run ⟨hs, hschema⟩
  refine ⟨hkeeps.1, hkeeps.2, ?_⟩
  by_cases hk : k = id
  · subst hk
    cases hc : b.state.items[k]? with
    | none =>
      have habsent : Within (BoardState.StaysAbsent k)
          (steerLiveCard advancedRepo refName commitSha steered k) :=
        shaped_steerLiveCard (BoardState.StaysAbsent.shapes k) trivial (fun _ _ => trivial)
          (fun _ _ => trivial) trivial trivial trivial _ _ _ _
      rw [← ho, hc]
      exact (habsent.run_state (BoardState.StaysAbsent.shapes k).refl
        (fun _ _ _ => (BoardState.StaysAbsent.shapes k).trans) b).none hc
    | some c =>
      rw [run_steerLiveCard_idle hc fun hmatch => hsteered rfl c (ho.symm.trans hc) (hschema ▸ hmatch)]
      exact ho
  · have hother : Within (BoardState.Untouched id)
        (steerLiveCard advancedRepo refName commitSha steered k) :=
      shaped_steerLiveCard (BoardState.Untouched.shapes id) hk (fun _ _ => hk) (fun _ _ => hk) hk hk
        hk _ _ _ _
    exact (hother.run_state (BoardState.Untouched.shapes id).refl
      (fun _ _ _ => (BoardState.Untouched.shapes id).trans) b).item.trans ho

/-- The announcement of an advance leaves a card alone that it does not steer. -/
lemma notifyMainAdvanced_untouched (hs : b.state.Sound) {advancedRepo refName : String}
    {commitSha : Option String}
    (hsteered : ∀ c, b.state.items[id]? = some c →
      ¬c.SteeredBy b.schema id advancedRepo commitSha) :
    (b.exec (.notifyMainAdvanced advancedRepo refName commitSha)).state.items[id]? =
      b.state.items[id]? := by
  have hmethod : (Operation.notifyMainAdvanced advancedRepo refName commitSha).method =
      Operation.silent (notifyMainAdvanced advancedRepo refName commitSha) := rfl
  rw [exec_state hmethod]
  let I : Board → Prop := fun b' =>
    b'.schema = b.schema ∧ b'.state.items[id]? = b.state.items[id]?
  have hfold : Sustains I (((b.state.cards.filter fun i => i.isSteerable).map WorkItem.id).foldlM
      (steerLiveCard advancedRepo refName commitSha) [] : Method String (List ItemId)) := by
    refine sustains_foldlM (fun steered k hk => sustains_steerLiveCard_untouched steered ?_) _
    rintro rfl c hc hmatch
    -- the candidates are the cards that may be steered
    obtain ⟨i, hi, hid⟩ := List.mem_map.1 hk
    obtain ⟨hmem, hsteerable⟩ := List.mem_filter.1 hi
    have hitem := hs.wellFormed.mem_cards_iff.1 hmem
    rw [hid, hc, Option.some.injEq] at hitem
    subst hitem
    by_contra hnews
    exact hsteered c hc ⟨hsteerable, hmatch, hnews⟩
  have hrun := (hfold.keeps.run (s := b.advanced refName commitSha) ⟨hs, rfl, rfl⟩).2.2
  exact hrun

/-- Review feedback leaves every card alone but the one it is about. -/
lemma applyPrReviewFeedback_untouched {prUrl : String} {prNumber : Option ℕ}
    {reviewState byWhom : String}
    (hpicked : ¬(isActionablePrReviewState reviewState = true ∧
      (normalizePrUrl prUrl).isEmpty = false ∧
        feedbackCardOfPr (normalizePrUrl prUrl) b.state = some id)) :
    (b.exec (.applyPrReviewFeedback prUrl prNumber reviewState byWhom)).state.items[id]? =
      b.state.items[id]? := by
  have hmethod : (Operation.applyPrReviewFeedback prUrl prNumber reviewState byWhom).method =
      Operation.silent (ε := Empty)
        (applyPrReviewFeedback prUrl prNumber reviewState byWhom) := rfl
  have hshapes := BoardState.Untouched.shapes id
  rw [exec_state hmethod]
  unfold applyPrReviewFeedback
  dsimp only
  split
  · rfl
  · rename_i hwanted
    have hread : (read (feedbackCardOfPr (normalizePrUrl prUrl)) : Method Empty _).run b =
        (.ok (feedbackCardOfPr (normalizePrUrl prUrl) b.state), b) := run_read _ b
    rw [Locked.run_bind_ok hread]
    cases hfound : feedbackCardOfPr (normalizePrUrl prUrl) b.state with
    | none => rfl
    | some k =>
      have hk : k ≠ id := by
        rintro rfl
        simp only [Bool.or_eq_true, Bool.not_eq_true', not_or, Bool.not_eq_false,
          Bool.not_eq_true] at hwanted
        exact hpicked ⟨hwanted.1, hwanted.2, hfound⟩
      refine (Within.run_state (R := BoardState.Untouched id) ?_ hshapes.refl
        (fun _ _ _ => hshapes.trans) b).item
      refine within_bind (within_attempt (shaped_writeEdit hshapes fun _ => hk)) fun noted => ?_
      cases noted with
      | error e => exact within_pure none
      | ok it =>
        refine within_bind (within_attempt
          (shaped_transition_of_ne hshapes hk nofun)) fun moved => ?_
        cases moved with
        | error e => exact within_pure none
        | ok item =>
          exact within_bind (within_emit hshapes.toLax _) fun _ =>
            within_bind (within_story hshapes.toLax _ _) fun _ => within_pure _

/-! ## A recorded failure -/

/-- An escalation along a legal edge takes the card to NeedsHuman; otherwise the card only gets
the question. -/
lemma run_escalate_item {options : List EscalationOption} {recommended : ℕ}
    (hoptions : checkOptions options recommended = .ok ()) (hc : b.state.items[id]? = some c)
    (agentId question : String) :
    ∃ asked now, asked = c.asking question options recommended (b.now 0) ∧
      ((escalate id agentId question options recommended).run b).2.state.items[id]? =
        some (if allowed c.state .needsHuman = true
          then asked.moved now .needsHuman agentId (some question) else asked) := by
  let asked := c.asking question options recommended (b.now 0)
  have hc₁ : (b.stepped (b.state.editItem id
      (WorkItem.asking question options recommended (b.now 0)))).state.items[id]? = some asked := by
    simp [asked, hc]
  have hwrite : (write fun now s => s.tryEdit id "no such item"
      (WorkItem.asking question options recommended (now 0))).run b =
        (.ok asked, b.stepped (b.state.editItem id
          (WorkItem.asking question options recommended (b.now 0)))) := by
    simp [tryEdit_some hc, asked]
  unfold escalate
  rw [hoptions, Locked.run_bind_ok (run_ret _ b), Locked.run_bind_ok hwrite]
  split
  · rename_i hallowed
    obtain ⟨item, b₂, hrun, -, hc₂⟩ := run_transitionOrMessage_allowed hc₁ (by decide)
      ((checkMove_free_iff (by decide) (by decide)).2 hallowed) agentId question
    rw [Locked.run_bind_ok hrun, Locked.run_bind_ok (run_story _ _ _)]
    exact ⟨asked, _, rfl, told_item hc₂ _ _⟩
  · rename_i hallowed
    obtain ⟨e, hrun⟩ := run_transitionOrMessage_refused hc₁
      (fun h => hallowed ((checkMove_free_iff (by decide) (by decide)).1 h)) agentId question
    rw [Locked.run_bind_error hrun]
    exact ⟨asked, 0, rfl, hc₁⟩

/-- An escalation leaves the failure count alone. -/
lemma run_escalate_card {options : List EscalationOption} {recommended : ℕ}
    (hoptions : checkOptions options recommended = .ok ()) (hc : b.state.items[id]? = some c)
    (agentId question : String) :
    ∃ c', ((escalate id agentId question options recommended).run b).2.state.items[id]? =
        some c' ∧ c'.runFailures = c.runFailures ∧
      c'.state = if allowed c.state .needsHuman = true then .needsHuman else c.state := by
  obtain ⟨asked, now, rfl, hitem⟩ := run_escalate_item hoptions hc agentId question
  refine ⟨_, hitem, ?_, ?_⟩ <;> split <;> rfl

/-- What a recorded failure does to the card. -/
lemma run_recordRunFailure_card (hc : b.state.items[id]? = some c) (reason : String)
    (maxAttempts : UInt32) :
    ∃ c', ((recordRunFailure id reason maxAttempts).run b).2.state.items[id]? = some c' ∧
      c'.runFailures = c.runFailures + 1 ∧
      (¬c.runFailures + 1 < maxAttempts → allowed c.state .needsHuman = true ∨
        c.state = .needsHuman → c'.state = .needsHuman) := by
  have hc₁ : (b.stepped (b.state.editItem id failedOnce)).state.items[id]? =
      some (failedOnce c) := by simp [hc]
  have hwrite : (write fun _ s => s.tryEdit id "no such item" failedOnce).run b =
      (.ok (failedOnce c), b.stepped (b.state.editItem id failedOnce)) := by
    simp [tryEdit_some hc]
  obtain ⟨b₂, c₂, hpromote, hc₂, hfailures, -, hhuman, hneeds⟩ := run_promote_failed hc₁
  unfold recordRunFailure
  rw [Locked.run_bind_ok hwrite]
  dsimp only
  rw [Locked.run_bind_ok hpromote]
  change ∃ c', (Locked.run (if c.runFailures + 1 < maxAttempts then _ else _) b₂).2.state.items[id]?
    = some c' ∧ _
  split
  · rename_i hless
    by_cases hcheck : b₂.state.checkMove id c₂ .backlog = .ok ()
    · obtain ⟨item, b₃, hrun, -, hc₃⟩ := run_transitionOrMessage_allowed hc₂ (by decide) hcheck
        "supervisor" s!"run failed: {reason}"
      rw [Locked.run_bind_ok hrun, Locked.run_bind_ok (run_story _ _ _)]
      exact ⟨_, told_item hc₃ _ _, hfailures, fun hlimit => absurd hless hlimit⟩
    · obtain ⟨e, hrun⟩ := run_transitionOrMessage_refused hc₂ hcheck "supervisor"
        s!"run failed: {reason}"
      rw [Locked.run_bind_error hrun]
      exact ⟨c₂, hc₂, hfailures, fun hlimit => absurd hless hlimit⟩
  · have hoptions : checkOptions runFailureOptions 0 = .ok () := by decide
    obtain ⟨c', hc', hcount, hstate⟩ := run_escalate_card hoptions hc₂ "supervisor" _
    refine ⟨c', hc', hcount.trans hfailures, fun _ hfits => ?_⟩
    rw [hstate, hhuman]
    split
    · rfl
    · rename_i hallowed
      exact hneeds.2 (hfits.resolve_left hallowed)

end Unicode

end Board

/-! ## Runs without a human -/

/-- The operation records a failed run of the card `id`. -/
def Operation.failsRun (id : ItemId) : Operation → Bool
  | recordRunFailure k _ _ => k == id
  | _ => false

/-- The operation is a verb of a human on the card `id`. -/
def Operation.TouchedBy (id : ItemId) : Operation → Prop
  | steer k _ | answerEscalation k _ | requestChanges k _ | park k _ => k = id
  | _ => False

/-- The operation comes from GitHub, not from a human, whatever name it leaves in a history. -/
def Operation.isAutomatic : Operation → Bool
  | notifyMainAdvanced .. | applyPrReviewFeedback .. => true
  | _ => false

/-- The moves of the card `id` that the change of the board added to its history. -/
def BoardState.movesOf (id : ItemId) (s s' : BoardState) : List Transition :=
  match s.items[id]?, s'.items[id]? with
  | some c, some c' => c'.history.drop c.history.length
  | _, _ => []

namespace Board

variable [UnicodeTables]

/-- No human touches the card `id` in this step, no run of the card succeeds, and a failed run
is judged by `maxAttempts`. -/
structure HandsOff (id : ItemId) (maxAttempts : UInt32) (b : Board) (op : Operation) : Prop where
  verbs : ¬op.TouchedBy id
  success : op ≠ .clearRunFailures id
  attempts : ∀ reason limit, op = .recordRunFailure id reason limit → limit = maxAttempts
  moves : op.isAutomatic = false →
    ∀ t ∈ movesOf id b.state (b.exec op).state, t.byWhom ≠ "human"

/-- The operation is an automatic steer that reaches the card `id`. -/
def AutoSteers (b : Board) (id : ItemId) (c : WorkItem) : Operation → Prop
  | .notifyMainAdvanced advancedRepo _ commitSha => c.SteeredBy b.schema id advancedRepo commitSha
  | .applyPrReviewFeedback prUrl _ reviewState _ =>
    isActionablePrReviewState reviewState = true ∧ (normalizePrUrl prUrl).isEmpty = false ∧
      feedbackCardOfPr (normalizePrUrl prUrl) b.state = some id
  | _ => False

/-- No automatic steer reaches the card `id` between two failures, and a failed run is recorded
where it can be: the counter is not full, and the card of a last failure may go to NeedsHuman. -/
structure KeepsBudget (id : ItemId) (maxAttempts : UInt32) (b : Board) (op : Operation) :
    Prop where
  steered : ∀ c, b.state.items[id]? = some c → c.runFailures ≠ 0 → ¬AutoSteers b id c op
  counted : op.failsRun id = true → ∀ c, b.state.items[id]? = some c →
    c.runFailures.toNat + 1 < UInt32.size
  asked : op.failsRun id = true → ∀ c, b.state.items[id]? = some c →
    ¬c.runFailures + 1 < maxAttempts →
      allowed c.state .needsHuman = true ∨ c.state = .needsHuman

/-- Every step of the run meets a condition on the board where it is taken. -/
def Follows (C : Board → Operation → Prop) : Board → List Operation → Prop
  | _, [] => True
  | b, op :: ops => C b op ∧ Follows C (b.exec op) ops

/-- How many failures of the card a run records. -/
def failures (id : ItemId) : Board → List Operation → ℕ
  | _, [] => 0
  | b, op :: ops =>
    (if op.failsRun id && b.state.items[id]?.isSome then 1 else 0) + failures id (b.exec op) ops

/-- How many times recording a failure leaves the card in Backlog. -/
def putBacks (id : ItemId) : Board → List Operation → ℕ
  | _, [] => 0
  | b, op :: ops =>
    (if op.failsRun id && (b.exec op).state.items[id]?.any (fun c => c.state == .backlog) then 1
      else 0) + putBacks id (b.exec op) ops

variable {b : Board} {id : ItemId} {maxAttempts : UInt32} {op : Operation}

/-- A recorded failure counts one, and the last one puts the card before a human. -/
lemma counted_of_failsRun {c : WorkItem} (hands : HandsOff id maxAttempts b op)
    (hkeeps : KeepsBudget id maxAttempts b op) (hfails : op.failsRun id = true)
    (hc : b.state.items[id]? = some c) :
    ∃ c', (b.exec op).state.items[id]? = some c' ∧
      c'.runFailures.toNat = c.runFailures.toNat + 1 ∧
      (maxAttempts.toNat ≤ c.runFailures.toNat + 1 → c'.state = .needsHuman) := by
  cases op with
  | recordRunFailure k reason limit =>
    obtain rfl : k = id := by simpa [Operation.failsRun] using hfails
    obtain rfl := hands.attempts reason limit rfl
    have hmethod : (Operation.recordRunFailure k reason limit).method =
        Operation.silent (recordRunFailure k reason limit) := rfl
    obtain ⟨c', hc', hcount, hlast⟩ := run_recordRunFailure_card hc reason limit
    have hroom := hkeeps.counted hfails c hc
    have hnext : (c.runFailures + 1).toNat = c.runFailures.toNat + 1 := by
      rw [UInt32.toNat_add]
      exact Nat.mod_eq_of_lt hroom
    refine ⟨c', by rw [exec_state hmethod]; exact hc', by rw [hcount, hnext], fun hlimit => ?_⟩
    have hless : ¬c.runFailures + 1 < limit := by
      rw [UInt32.lt_iff_toNat_lt, hnext]
      exact Nat.not_lt.2 hlimit
    exact hlast hless (hkeeps.asked hfails c hc hless)
  | _ => cases hfails

omit [UnicodeTables] in
lemma not_automatic_of_not_counts (h : ¬op.Counts id) : op.isAutomatic = false := by
  cases op with
  | notifyMainAdvanced | applyPrReviewFeedback => exact absurd trivial h
  | _ => rfl

/-- Recording a failure of a card that is not there leaves the board alone. -/
lemma exec_fails_absent (hfails : op.failsRun id = true) (hnone : b.state.items[id]? = none) :
    (b.exec op).state = b.state := by
  cases op with
  | recordRunFailure k reason limit =>
    obtain rfl : k = id := by simpa [Operation.failsRun] using hfails
    have hmethod : (Operation.recordRunFailure k reason limit).method =
        Operation.silent (recordRunFailure k reason limit) := rfl
    rw [exec_state hmethod, recordRunFailure,
      Locked.run_bind_error (by rw [run_write, tryEdit_none hnone])]
    rfl
  | _ => cases hfails

/-- The counter of the card `id`, as far as it is on the board. -/
def counter (b : Board) (id : ItemId) : ℕ :=
  (b.state.items[id]?.map fun c => c.runFailures.toNat).getD 0

/-- The card `id` is gone for good. -/
def Gone (b : Board) (id : ItemId) : Prop :=
  id < b.state.nextId ∧ b.state.items[id]? = none

/-- No operation brings a deleted card back. -/
lemma staysGone_exec (b : Board) (id : ItemId) (op : Operation) :
    StaysGone id b.state (b.exec op).state := by
  have hdelete : ∀ (k : ItemId) (s : BoardState), StaysGone id s (deleteSection k s).2 :=
    fun k s => ⟨(Tallied.delete k s : Tallied id s (deleteSection k s).2).grows,
      fun _ => StaysAbsent.delete k s⟩
  have hedits : op.EditsIn fun _ _ => True := by
    cases op <;> simp [Operation.EditsIn]
  exact covered_exec (StaysGone.covers id) hdelete hedits b

lemma gone_exec (hgone : Gone b id) (op : Operation) : Gone (b.exec op) id :=
  ⟨hgone.1.trans_le (staysGone_exec b id op).grows,
    ((staysGone_exec b id op).absent hgone.1).none hgone.2⟩

lemma gone_after (hgone : Gone b id) (ops : List Operation) : Gone (b.after ops) id :=
  after_invariant (I := fun b => Gone b id) (fun _ op h => gone_exec h op) hgone ops

/-- The card is never put back again. -/
lemma putBacks_of_gone {ops : List Operation} (hgone : Gone b id) : putBacks id b ops = 0 := by
  induction ops generalizing b with
  | nil => rfl
  | cons op ops ih =>
    have hgone' := gone_exec hgone op
    rw [putBacks, hgone'.2, ih hgone']
    simp

omit [UnicodeTables] in
lemma counter_eq_zero (h : ∀ c, b.state.items[id]? = some c → c.runFailures = 0) :
    b.counter id = 0 := by
  unfold counter
  cases hc : b.state.items[id]? with
  | none => rfl
  | some c => simp [h c hc]

omit [UnicodeTables] in
lemma counter_of_new (hs : b.state.Sound) (hnew : b.state.nextId ≤ id) : b.counter id = 0 := by
  refine counter_eq_zero fun c hc => ?_
  exact absurd (hs.wellFormed.fresh id c hc) (Nat.not_lt.2 hnew)

/-- Where nothing writes the counter, the card keeps it, or it is gone. -/
lemma counter_of_not_counts (hs : b.state.Sound) (hands : HandsOff id maxAttempts b op)
    (hcounts : ¬op.Counts id) :
    (b.exec op).counter id = b.counter id ∨ Gone (b.exec op) id := by
  have htallied : Tallied id b.state (b.exec op).state :=
    covered_exec (Tallied.covers id) (fun k s => Tallied.delete k s)
      (Operation.editsIn_keepsCounter hcounts) b
  by_cases hid : id < b.state.nextId
  · cases hc' : (b.exec op).state.items[id]? with
    | none => exact Or.inr ⟨hid.trans_le htallied.grows, hc'⟩
    | some c' =>
      obtain ⟨c, hc, htally⟩ := htallied.kept hid c' hc'
      have hsame : c'.runFailures = c.runFailures := by
        refine htally.counter fun moves hmoves t ht hhuman => ?_
        refine hands.moves (not_automatic_of_not_counts hcounts) t ?_ hhuman
        rw [movesOf, hc, hc']
        simpa [hmoves] using ht
      exact Or.inl (by simp [counter, hc, hc', hsame])
  · have hnew : b.state.nextId ≤ id := Nat.le_of_not_lt hid
    have hnone : b.state.items[id]? = none := by
      by_contra hsome
      obtain ⟨c, hc⟩ := Option.ne_none_iff_exists'.1 hsome
      exact hid (hs.wellFormed.fresh id c hc)
    rw [counter_of_new hs hnew]
    exact Or.inl (counter_eq_zero (htallied.fresh hnone hnew))

/-- An automatic steer that resets a counter finds a card without failures. -/
lemma counter_of_automatic (hs : b.state.Sound) (hkeeps : KeepsBudget id maxAttempts b op)
    (hop : op.isAutomatic = true) : (b.exec op).counter id = b.counter id := by
  by_cases hzero : ∀ c, b.state.items[id]? = some c → c.runFailures = 0
  · have hedits : op.EditsIn fun k f => k = id → ∀ i, i.runFailures = 0 → (f i).runFailures = 0 := by
      cases op with
      | notifyMainAdvanced =>
        refine ⟨fun _ _ _ _ _ _ => rfl, fun _ reason _ _ i hi => ?_, fun _ _ _ hi => hi,
          fun _ _ _ hi => hi, fun _ _ _ hi => hi⟩
        exact ((keepsCounter_notedPark reason _).counter i).trans hi
      | applyPrReviewFeedback => exact fun _ _ _ _ _ _ _ => rfl
      | _ => cases hop
    have hstays : StaysZero id b.state (b.exec op).state :=
      covered_exec (StaysZero.covers id) (fun k s => StaysZero.delete k s) hedits b
    rw [counter_eq_zero hzero, counter_eq_zero (hstays.zero hzero)]
  · have hsame : (b.exec op).state.items[id]? = b.state.items[id]? := by
      have hcard : ∀ c, b.state.items[id]? = some c → c.runFailures ≠ 0 := by
        intro c hc hnot
        refine hzero fun c₂ hc₂ => ?_
        rw [hc] at hc₂
        cases hc₂
        exact hnot
      cases op with
      | notifyMainAdvanced advancedRepo refName commitSha =>
        exact notifyMainAdvanced_untouched hs fun c hc => hkeeps.steered c hc (hcard c hc)
      | applyPrReviewFeedback prUrl prNumber reviewState byWhom =>
        obtain ⟨c, hc⟩ : ∃ c, b.state.items[id]? = some c := by
          by_contra hnone
          exact hzero fun c hc => absurd ⟨c, hc⟩ hnone
        exact applyPrReviewFeedback_untouched (hkeeps.steered c hc (hcard c hc))
      | _ => cases hop
    rw [counter, counter, hsame]

/-- In a step that records no failure of the card, the card keeps its counter, or it is gone. -/
lemma counter_step (hs : b.state.Sound) (hands : HandsOff id maxAttempts b op)
    (hkeeps : KeepsBudget id maxAttempts b op)
    (hfails : op.failsRun id = true → b.state.items[id]? = none) :
    (b.exec op).counter id = b.counter id ∨ Gone (b.exec op) id := by
  by_cases hcounts : op.Counts id
  · left
    cases op with
    | steer | answerEscalation | requestChanges => exact absurd hcounts hands.verbs
    | clearRunFailures k => exact absurd (congrArg _ hcounts) hands.success
    | recordRunFailure k reason limit =>
      obtain rfl : k = id := hcounts
      have hop : (Operation.recordRunFailure k reason limit).failsRun k = true := by
        simp [Operation.failsRun]
      rw [counter, exec_fails_absent hop (hfails hop), counter]
    | notifyMainAdvanced | applyPrReviewFeedback => exact counter_of_automatic hs hkeeps rfl
    | _ => exact hcounts.elim
  · exact counter_of_not_counts hs hands hcounts

/-- The card is put back at most as often as its counter leaves room below the limit. -/
lemma putBacks_le {ops : List Operation} (hs : b.state.Sound)
    (hands : Follows (HandsOff id maxAttempts) b ops) (hkeeps : Follows (KeepsBudget id maxAttempts) b ops) :
    putBacks id b ops ≤ maxAttempts.toNat - 1 - b.counter id := by
  induction ops generalizing b with
  | nil => exact Nat.zero_le _
  | cons op ops ih =>
    have hs' := hs.reshaped (reshaped_exec b op)
    have hrest := ih hs' hands.2 hkeeps.2
    rw [putBacks]
    by_cases hfails : op.failsRun id = true ∧ b.state.items[id]?.isSome = true
    · obtain ⟨hop, hsome⟩ := hfails
      obtain ⟨c, hc⟩ := Option.isSome_iff_exists.1 hsome
      obtain ⟨c', hc', hcount, hlast⟩ := counted_of_failsRun hands.1 hkeeps.1 hop hc
      have hbefore : b.counter id = c.runFailures.toNat := by simp [counter, hc]
      have hafter : (b.exec op).counter id = c.runFailures.toNat + 1 := by
        simp [counter, hc', hcount]
      rw [hafter] at hrest
      rw [hbefore, hc', hop, Bool.true_and, Option.any_some]
      by_cases hbacklog : c'.state = .backlog
      · have hroom : ¬maxAttempts.toNat ≤ c.runFailures.toNat + 1 := by
          intro hlimit
          rw [hlast hlimit] at hbacklog
          cases hbacklog
        rw [if_pos (by simp [hbacklog])]
        omega
      · rw [if_neg (by simp [hbacklog])]
        omega
    · have hfails' : op.failsRun id = true → b.state.items[id]? = none := by
        intro hop
        by_contra hsome
        exact hfails ⟨hop, Option.isSome_iff_ne_none.2 hsome⟩
      have hzero : (op.failsRun id && (b.exec op).state.items[id]?.any fun c =>
          c.state == .backlog) = false := by
        cases hop : op.failsRun id with
        | false => rfl
        | true =>
          rw [exec_fails_absent hop (hfails' hop), hfails' hop]
          rfl
      rw [hzero, if_neg Bool.false_ne_true, Nat.zero_add]
      rcases counter_step hs hands.1 hkeeps.1 hfails' with hsame | hgone
      · rw [hsame] at hrest
        exact hrest
      · rw [putBacks_of_gone hgone]
        exact Nat.zero_le _

lemma follows_append {C : Board → Operation → Prop} {ops ops' : List Operation} :
    Follows C b (ops ++ ops') ↔ Follows C b ops ∧ Follows C (b.after ops) ops' := by
  induction ops generalizing b with
  | nil => simp [Follows]
  | cons op ops ih => rw [List.cons_append, Follows, Follows, ih, after_cons, and_assoc]

lemma failures_append {ops ops' : List Operation} :
    failures id b (ops ++ ops') = failures id b ops + failures id (b.after ops) ops' := by
  induction ops generalizing b with
  | nil => rw [List.nil_append, failures, Nat.zero_add, after_nil]
  | cons op ops ih => rw [List.cons_append, failures, failures, ih, after_cons, Nat.add_assoc]

/-- Along a run the counter and the recorded failures grow together, until the card is gone. -/
lemma counter_after {ops : List Operation} (hs : b.state.Sound)
    (hands : Follows (HandsOff id maxAttempts) b ops) (hkeeps : Follows (KeepsBudget id maxAttempts) b ops) :
    (b.after ops).counter id = b.counter id + failures id b ops ∨ Gone (b.after ops) id := by
  induction ops generalizing b with
  | nil => exact Or.inl rfl
  | cons op ops ih =>
    rw [failures, after_cons]
    rcases ih (hs.reshaped (reshaped_exec b op)) hands.2 hkeeps.2 with hrest | hgone
    · by_cases hfails : op.failsRun id = true ∧ b.state.items[id]?.isSome = true
      · obtain ⟨hop, hsome⟩ := hfails
        obtain ⟨c, hc⟩ := Option.isSome_iff_exists.1 hsome
        obtain ⟨c', hc', hcount, -⟩ := counted_of_failsRun hands.1 hkeeps.1 hop hc
        have hnext : (b.exec op).counter id = b.counter id + 1 := by
          simp [counter, hc, hc', hcount]
        rw [hop, hsome, Bool.and_self, if_pos rfl, hrest, hnext, Nat.add_assoc]
        exact Or.inl rfl
      · have hfails' : op.failsRun id = true → b.state.items[id]? = none := by
          intro hop
          by_contra hsome
          exact hfails ⟨hop, Option.isSome_iff_ne_none.2 hsome⟩
        have hzero : ¬(op.failsRun id && b.state.items[id]?.isSome) = true := by
          rwa [Bool.and_eq_true]
        rw [if_neg hzero, Nat.zero_add, hrest]
        rcases counter_step hs hands.1 hkeeps.1 hfails' with hsame | hgone
        · rw [hsame]
          exact Or.inl rfl
        · exact Or.inr (gone_after hgone ops)
    · exact Or.inr hgone

/-- A failure that is the `maxAttempts`-th one or a later one puts the card before a human. -/
lemma needsHuman_of_failures {first rest : List Operation} (hs : b.state.Sound)
    (hzero : b.counter id = 0) (hands : Follows (HandsOff id maxAttempts) b (first ++ op :: rest))
    (hkeeps : Follows (KeepsBudget id maxAttempts) b (first ++ op :: rest))
    (hop : op.failsRun id = true) (hsome : (b.after first).state.items[id]?.isSome = true)
    (hlimit : maxAttempts.toNat ≤ failures id b (first ++ [op])) :
    (b.after (first ++ [op])).state.items[id]?.map WorkItem.state = some .needsHuman := by
  obtain ⟨hands₁, hands₂, -⟩ := follows_append.1 hands
  obtain ⟨hkeeps₁, hkeeps₂, -⟩ := follows_append.1 hkeeps
  obtain ⟨c, hc⟩ := Option.isSome_iff_exists.1 hsome
  obtain ⟨c', hc', -, hlast⟩ := counted_of_failsRun hands₂ hkeeps₂ hop hc
  have hcount : (b.after first).counter id = failures id b first := by
    rcases counter_after hs hands₁ hkeeps₁ with hcount | hgone
    · rw [hcount, hzero, Nat.zero_add]
    · rw [hgone.2] at hc
      cases hc
  have hcard : (b.after first).counter id = c.runFailures.toNat := by simp [counter, hc]
  rw [failures_append, failures, failures, hop, hsome, ← hcount, hcard] at hlimit
  rw [after_append, after_cons, after_nil, hc', Option.map_some, hlast hlimit]

/-- For every run from a reachable board on which the card `id` has no failure yet, without a human
and without a successful run of the card, in which no automatic steer reaches the card between two
failures: recording a failure puts the card back fewer than `maxAttempts` times, and the
`maxAttempts`-th failure puts it before a human. -/
theorem retry_budget (schema : Schema) (clock : ℕ → ℕ → Time) (saveSucceeds : ℕ → Bool)
    (before ops : List Operation) (id : ItemId) (maxAttempts : UInt32)
    (hfresh : ((Board.new schema clock saveSucceeds).after before).counter id = 0)
    (hands : Follows (HandsOff id maxAttempts)
      ((Board.new schema clock saveSucceeds).after before) ops)
    (hkeeps : Follows (KeepsBudget id maxAttempts) ((Board.new schema clock saveSucceeds).after before) ops) :
    let b := (Board.new schema clock saveSucceeds).after before
    putBacks id b ops ≤ maxAttempts.toNat - 1 ∧
      ∀ first op rest, ops = first ++ op :: rest → op.failsRun id = true →
        (b.after first).state.items[id]?.isSome = true →
        maxAttempts.toNat ≤ failures id b (first ++ [op]) →
          (b.after (first ++ [op])).state.items[id]?.map WorkItem.state = some .needsHuman := by
  intro b
  have hs : b.state.Sound := (sound_new _ _ _).reshaped (reshaped_after _ before)
  refine ⟨?_, ?_⟩
  · have hle := putBacks_le hs hands hkeeps
    rwa [hfresh] at hle
  · rintro first op rest rfl hop hsome hlimit
    exact needsHuman_of_failures hs hfresh hands hkeeps hop hsome hlimit

/-- The arguments of the steps and the moves of the card show that nobody touches it. -/
lemma follows_handsOff {ops : List Operation}
    (hops : ∀ op ∈ ops, ¬op.TouchedBy id ∧ op ≠ .clearRunFailures id ∧
      ∀ reason limit, op = .recordRunFailure id reason limit → limit = maxAttempts)
    (hmoves : Follows (fun b op => op.isAutomatic = false →
      ∀ t ∈ movesOf id b.state (b.exec op).state, t.byWhom ≠ "human") b ops) :
    Follows (HandsOff id maxAttempts) b ops := by
  induction ops generalizing b with
  | nil => trivial
  | cons op ops ih =>
    obtain ⟨hverbs, hsuccess, hattempts⟩ := hops op List.mem_cons_self
    exact ⟨⟨hverbs, hsuccess, hattempts, hmoves.1⟩,
      ih (fun o ho => hops o (List.mem_cons_of_mem _ ho)) hmoves.2⟩

instance decidableFollows {C : Board → Operation → Prop} [∀ b op, Decidable (C b op)] :
    (b : Board) → (ops : List Operation) → Decidable (Follows C b ops)
  | _, [] => isTrue trivial
  | b, op :: ops =>
    have := decidableFollows (C := C) (b.exec op) ops
    inferInstanceAs (Decidable (C b op ∧ Follows C (b.exec op) ops))

end Board

namespace Board

/-- The Initial plan of a Project is card 2. -/
def plan : List Operation := [.create ⟨none, "Docs", "", none, .human, false, none⟩]

/-- An agent starts a run of the card. -/
def startedRun : Operation := .claim 2 "supervisor" none 60

/-- A run of the card fails. -/
def failedRun : Operation := .recordRunFailure 2 "exit 1" 2

/-- Two runs of the card fail. -/
def failing : List Operation := [startedRun, failedRun, startedRun, failedRun]

/-- Between two failures, `main` of the repository of the card's pull request advances. -/
def steeredBetween : List Operation :=
  [startedRun, .reportPullRequest 2 ⟨"https://github.com/a/b/pull/1", none, none, false, none⟩,
    failedRun, startedRun, .notifyMainAdvanced "a/b" "main" (some "c0ffee"), startedRun, failedRun]

/-- Between two failures, the pull request of the card is reviewed. -/
def reviewedBetween : List Operation :=
  [startedRun, .reportPullRequest 2 ⟨"https://github.com/a/b/pull/1", none, none, false, none⟩,
    failedRun, startedRun, .transition 2 .review "supervisor" none,
    .applyPrReviewFeedback "https://github.com/a/b/pull/1" (some 1) "changes_requested" "octocat",
    startedRun, failedRun]

set_option maxRecDepth 100000 in
lemma failing_moves :
    let := asciiTables
    Follows (fun b op => op.isAutomatic = false →
      ∀ t ∈ movesOf 2 b.state (b.exec op).state, t.byWhom ≠ "human")
        ((Board.new Schema.default (fun _ _ => 0) fun _ => true).after plan) failing := by
  decide

set_option maxRecDepth 100000 in
/-- The card is claimed when a run of it fails. -/
lemma failing_cards :
    let := asciiTables
    let b := (Board.new Schema.default (fun _ _ => 0) fun _ => true).after plan
    b.counter 2 = 0 ∧
      (b.exec startedRun).state.items[2]?.map (fun c => (c.runFailures, c.state)) =
        some (0, .claimed) ∧
      (((b.exec startedRun).exec failedRun).exec startedRun).state.items[2]?.map
        (fun c => (c.runFailures, c.state)) = some (1, .claimed) ∧
      2 ≤ failures 2 b failing := by
  decide

lemma keepsBudget_startedRun [UnicodeTables] (b : Board) : KeepsBudget 2 2 b startedRun :=
  ⟨fun _ _ _ h => h, nofun, nofun⟩

lemma keepsBudget_failedRun [UnicodeTables] {b : Board} {n : UInt32}
    (hcard : b.state.items[2]?.map (fun c => (c.runFailures, c.state)) = some (n, .claimed))
    (hn : n.toNat + 1 < UInt32.size) : KeepsBudget 2 2 b failedRun := by
  have hc : ∀ c, b.state.items[2]? = some c → c.runFailures = n ∧ c.state = .claimed := by
    intro c hc
    rw [hc] at hcard
    simpa using hcard
  refine ⟨fun _ _ _ h => h, fun _ c h => ?_, fun _ c h _ => ?_⟩
  · rwa [(hc c h).1]
  · rw [(hc c h).2]
    exact Or.inl rfl

/-- No step of the list is a verb of a human on the card, and failures are judged by two
attempts. -/
def Unattended (ops : List Operation) : Prop :=
  ∀ op ∈ ops, ¬op.TouchedBy 2 ∧ op ≠ .clearRunFailures 2 ∧
    ∀ reason limit, op = .recordRunFailure 2 reason limit → limit = 2

lemma unattended_nil : Unattended [] := fun _ h => nomatch h

lemma Unattended.failedRun {ops : List Operation} (h : Unattended ops) :
    Unattended (failedRun :: ops) :=
  List.forall_mem_cons.2 ⟨⟨id, nofun, fun _ _ h => by cases h; rfl⟩, h⟩

lemma Unattended.cons {op : Operation} {ops : List Operation} (htouched : ¬op.TouchedBy 2)
    (hsuccess : op ≠ .clearRunFailures 2)
    (hfails : ∀ reason limit, op ≠ .recordRunFailure 2 reason limit) (h : Unattended ops) :
    Unattended (op :: ops) :=
  List.forall_mem_cons.2 ⟨⟨htouched, hsuccess, fun _ _ h => absurd h (hfails _ _)⟩, h⟩

lemma unattended_failing : Unattended failing :=
  .cons id nofun nofun (.failedRun (.cons id nofun nofun (.failedRun unattended_nil)))

/-- The two failures keep to the budget on every board that has the card claimed before them. -/
lemma follows_failing [UnicodeTables] {b : Board}
    (hfirst : (b.exec startedRun).state.items[2]?.map (fun c => (c.runFailures, c.state)) =
      some (0, .claimed))
    (hsecond : (((b.exec startedRun).exec failedRun).exec startedRun).state.items[2]?.map
      (fun c => (c.runFailures, c.state)) = some (1, .claimed)) :
    Follows (KeepsBudget 2 2) b failing ∧
      (b.after [startedRun, failedRun, startedRun]).state.items[(2 : ItemId)]?.isSome = true := by
  refine ⟨⟨keepsBudget_startedRun _, keepsBudget_failedRun hfirst (by decide), keepsBudget_startedRun _,
    keepsBudget_failedRun hsecond (by decide), trivial⟩, ?_⟩
  rw [after_cons, after_cons, after_cons, after_nil, ← Option.isSome_map, hsecond]
  rfl

/-- The last failure of the run, judged on any board. -/
lemma budget_failing [UnicodeTables] {b : Board}
    (hsome : (b.after [startedRun, failedRun, startedRun]).state.items[(2 : ItemId)]?.isSome = true)
    (hfailures : 2 ≤ failures 2 b failing)
    (hbudget : putBacks 2 b failing ≤ (2 : UInt32).toNat - 1 ∧
      ∀ first op rest, failing = first ++ op :: rest → op.failsRun 2 = true →
        (b.after first).state.items[(2 : ItemId)]?.isSome = true →
        (2 : UInt32).toNat ≤ failures 2 b (first ++ [op]) →
          (b.after (first ++ [op])).state.items[(2 : ItemId)]?.map WorkItem.state =
            some .needsHuman) :
    putBacks 2 b failing ≤ 1 ∧
      (b.after failing).state.items[(2 : ItemId)]?.map WorkItem.state = some .needsHuman := by
  have hsplit : failing = [startedRun, failedRun, startedRun] ++ [failedRun] := rfl
  have hlast := hbudget.2 [startedRun, failedRun, startedRun] failedRun [] hsplit rfl hsome
  rw [← hsplit] at hlast
  exact ⟨hbudget.1, hlast hfailures⟩

/-- The theorem for two failures of two: the card is put back once, and then a human has it. -/
theorem retry_budget_failing :
    let := asciiTables
    let b := (Board.new Schema.default (fun _ _ => 0) fun _ => true).after plan
    putBacks 2 b failing ≤ 1 ∧
      (b.after failing).state.items[(2 : ItemId)]?.map WorkItem.state = some .needsHuman := by
  obtain ⟨hfresh, hfirst, hsecond, hfailures⟩ := failing_cards
  obtain ⟨hkeeps, hsome⟩ := @follows_failing asciiTables _ hfirst hsecond
  have hands := @follows_handsOff asciiTables _ _ _ _ unattended_failing failing_moves
  have hbudget := @retry_budget asciiTables Schema.default (fun _ _ => 0) (fun _ => true) plan
    failing 2 2 hfresh hands hkeeps
  exact @budget_failing asciiTables _ hsome hfailures hbudget

set_option maxRecDepth 100000 in
lemma steeredBetween_moves :
    let := asciiTables
    let b := (Board.new Schema.default (fun _ _ => 0) fun _ => true).after plan
    (Follows (fun b op => op.isAutomatic = false →
      ∀ t ∈ movesOf 2 b.state (b.exec op).state, t.byWhom ≠ "human") b steeredBetween ∧
        putBacks 2 b steeredBetween = 2) ∧
      Follows (fun b op => op.isAutomatic = false →
        ∀ t ∈ movesOf 2 b.state (b.exec op).state, t.byWhom ≠ "human") b reviewedBetween ∧
          putBacks 2 b reviewedBetween = 2 := by
  decide

/-- No human touches the card, and of two failures neither puts it before a human: in between, the
advance of `main` or the review of its pull request resets the counter. -/
theorem steered_refills :
    let := asciiTables
    let b := (Board.new Schema.default (fun _ _ => 0) fun _ => true).after plan
    (Follows (HandsOff 2 2) b steeredBetween ∧ 2 - 1 < putBacks 2 b steeredBetween) ∧
      Follows (HandsOff 2 2) b reviewedBetween ∧ 2 - 1 < putBacks 2 b reviewedBetween := by
  obtain ⟨⟨hsteered, hsteeredCount⟩, hreviewed, hreviewedCount⟩ := steeredBetween_moves
  have hunsteered : Unattended steeredBetween :=
    .cons id nofun nofun (.cons id nofun nofun (.failedRun (.cons id nofun nofun
      (.cons id nofun nofun (.cons id nofun nofun (.failedRun unattended_nil))))))
  have hunreviewed : Unattended reviewedBetween :=
    .cons id nofun nofun (.cons id nofun nofun (.failedRun (.cons id nofun nofun
      (.cons id nofun nofun (.cons id nofun nofun (.cons id nofun nofun
        (.failedRun unattended_nil)))))))
  have hands := @follows_handsOff asciiTables _ _ _ _ hunsteered hsteered
  have hands' := @follows_handsOff asciiTables _ _ _ _ hunreviewed hreviewed
  exact ⟨⟨hands, hsteeredCount ▸ Nat.one_lt_two⟩, hands', hreviewedCount ▸ Nat.one_lt_two⟩

end Board

end Sandboard

import Sandboard.Library.Run
import Sandboard.Store.Nesting
import Sandboard.Store.Structural

/-!
# The tree of cards under concurrent methods

Any number of parties call methods of one board, and the sections of their methods interleave in
any order.  The ids that the board hands out grow in every such run, so that no id comes back.
The cards stay a forest of Projects with their Tasks exactly as long as each section that inserts
a card would pass the check of the parent once more: the check is a section of its own, and the
Project may be deleted before the card is inserted.
-/

namespace Sandboard

open Std

namespace BoardState

variable {s s' : BoardState}

/-- Every card is a root Project, or a child of a root Project that is on the board. -/
def TreeShape (s : BoardState) : Prop :=
  ∀ (k : ItemId) (i : WorkItem), s.items[k]? = some i → i.isProject = true ∨
    ∃ (p : ItemId) (P : WorkItem), i.parent = some p ∧ s.items[p]? = some P ∧ P.isProject = true

/-- Every root is a Project. -/
def Rooted (s : BoardState) : Prop :=
  ∀ (k : ItemId) (i : WorkItem), s.items[k]? = some i → i.parent = none → i.level ≠ some "Task"

lemma isProject_iff {i : WorkItem} :
    i.isProject = true ↔ i.parent = none ∧ i.level ≠ some "Task" := by
  simp [WorkItem.isProject]

/-- Where every root is a Project, the tree has its shape when Tasks are under roots. -/
lemma Rooted.treeShape_iff (h : s.Rooted) : s.TreeShape ↔ s.Nested := by
  rw [Nested.iff]
  constructor
  · intro hshape k i p hi hp
    rcases hshape k i hi with hproject | ⟨q, P, hq, hP, hproject⟩
    · rw [isProject_iff, hp] at hproject
      cases hproject.1
    · rw [hp, Option.some.injEq] at hq
      subst hq
      exact ⟨P, hP, isProject_iff.1 hproject⟩
  · intro hnested k i hi
    cases hp : i.parent with
    | none => exact Or.inl (isProject_iff.2 ⟨hp, h k i hi hp⟩)
    | some p =>
      obtain ⟨P, hP, hroot⟩ := hnested k i p hi hp
      exact Or.inr ⟨p, P, rfl, hP, isProject_iff.2 hroot⟩

/-! ## One section -/

/-- No card appears or goes, and each one keeps its place. -/
structure StaysPut (s s' : BoardState) : Prop where
  nextId : s'.nextId = s.nextId
  place : s'.place = s.place

/-- What one section does to the tree of cards. -/
inductive Sectioned (s s' : BoardState) : Prop where
  | stays (h : StaysPut s s')
  | inserts (now : Time) (card : Board.NewCard)
      (h : s' = (Board.insertNew Schema.default now card s).2)
  | deletes (id : ItemId) (h : s' = (Board.deleteSection id s).2)

/-- The edit leaves a card in its place. -/
def KeepsPlace (f : WorkItem → WorkItem) : Prop :=
  ∀ i, (f i).parent = i.parent ∧ (f i).level = i.level

lemma nextId_tryMove (s : BoardState) (now : Time) (id : ItemId) (target : State)
    (byWhom : String) (reason : Option String) :
    (s.tryMove now id target byWhom reason).2.nextId = s.nextId := by
  unfold tryMove
  cases h : s.transitionLocked now id target byWhom reason with
  | error e => rfl
  | ok r =>
    obtain ⟨it, hit, hcheck, hs', -⟩ := transitionLocked_eq_ok_iff.1 h
    dsimp only
    rw [hs']
    rfl

lemma place_tryMove (s : BoardState) (now : Time) (id : ItemId) (target : State)
    (byWhom : String) (reason : Option String) :
    (s.tryMove now id target byWhom reason).2.place = s.place := by
  unfold tryMove
  cases h : s.transitionLocked now id target byWhom reason with
  | error e => rfl
  | ok r =>
    obtain ⟨it, hit, hcheck, hs', -⟩ := transitionLocked_eq_ok_iff.1 h
    dsimp only
    rw [hs']
    exact place_editItem fun i => ⟨rfl, rfl⟩

lemma shapes_staysPut :
    Shapes (fun _ f => KeepsPlace f) (fun _ _ _ => True) StaysPut where
  aside hitems hnext _ _ := ⟨hnext, funext fun k => by simp only [place, hitems]⟩
  trans h h' := ⟨h'.nextId.trans h.nextId, h'.place.trans h.place⟩
  edit _ hf := ⟨rfl, place_editItem hf⟩
  move s now reason _ := ⟨nextId_tryMove s now _ _ _ reason, place_tryMove s now _ _ _ reason⟩

/-- On a board with the default schema, a section leaves the tree alone, inserts a card or
deletes one with its children. -/
lemma admits_sectioned :
    Admits (fun b => b.schema = Schema.default) (fun _ f => KeepsPlace f) StaysPut Sectioned where
  toShapes := shapes_staysPut
  plain := .stays
  insert b now card s hb := .inserts now card (by rw [hb])
  propose _ _ _ := ⟨rfl, rfl⟩
  settle _ _ _ _ := ⟨rfl, rfl⟩
  link _ _ _ := ⟨rfl, rfl⟩
  unplan _ _ := ⟨rfl, rfl⟩

/-! ### The cards after a section -/

lemma nextId_deleteSection (id : ItemId) (s : BoardState) :
    (Board.deleteSection id s).2.nextId = s.nextId := by
  unfold Board.deleteSection
  split
  · rfl
  · exact nextId_removeAll _ s

namespace Sectioned

variable {k : ItemId} {i : WorkItem}

/-- A section hands out no id, or the next one. -/
lemma nextId_eq (h : Sectioned s s') : s'.nextId = s.nextId ∨ s'.nextId = s.nextId + 1 := by
  cases h with
  | stays h => exact Or.inl h.nextId
  | inserts now card h =>
    rw [h]
    exact Or.inr rfl
  | deletes id h =>
    rw [h]
    exact Or.inl (nextId_deleteSection id s)

/-- The cards that a section leaves on the board were there, in their place, or are new under
the next id. -/
lemma item_cases (h : Sectioned s s') (hi : s'.items[k]? = some i) :
    (∃ j, s.items[k]? = some j ∧ j.parent = i.parent ∧ j.level = i.level) ∨
      k = s.nextId ∧ ∃ (now : Time) (card : Board.NewCard),
        i = card.toItem Schema.default now k := by
  cases h with
  | stays h =>
    have hplace : s.place k = some (i.parent, i.level) := by
      rw [← h.place, place, hi, Option.map_some]
    obtain ⟨j, hj, hji⟩ := Option.map_eq_some_iff.1 hplace
    rw [Prod.mk.injEq] at hji
    exact Or.inl ⟨j, hj, hji⟩
  | inserts now card h =>
    rw [h, items_insertNew_ite] at hi
    split at hi
    · rename_i hk
      cases hi
      exact Or.inr ⟨hk, now, card, by rw [hk]⟩
    · exact Or.inl ⟨i, hi, rfl, rfl⟩
  | deletes id h =>
    rw [h] at hi
    unfold Board.deleteSection at hi
    split at hi
    · exact Or.inl ⟨i, hi, rfl, rfl⟩
    · dsimp only at hi
      rw [ExtTreeMap.getElem?_map, items_removeAll] at hi
      obtain ⟨j, hj, rfl⟩ := Option.map_eq_some_iff.1 hi
      split at hj
      · cases hj
      · exact Or.inl ⟨j, hj, rfl, rfl⟩

/-- A section leaves every root a Project. -/
lemma rooted (h : Sectioned s s') (hs : s.Rooted) : s'.Rooted := by
  intro k i hi hroot
  rcases h.item_cases hi with ⟨j, hj, hparent, hlevel⟩ | ⟨-, now, card, rfl⟩
  · rw [← hlevel]
    exact hs k j hj (hparent.trans hroot)
  · have hnone : card.parent = none := hroot
    simp only [Board.NewCard.toItem, hnone]
    decide

end Sectioned

/-- The check of the parent reads the card of the parent only. -/
lemma checkParent_congr {parent : Option ItemId}
    (h : ∀ p, parent = some p → s'.items[p]? = s.items[p]?) :
    Board.checkParent s' parent = Board.checkParent s parent := by
  cases parent with
  | none => rfl
  | some p => simp only [Board.checkParent, h p rfl]

/-- After an insertion Tasks are under roots exactly when the parent of the new card passed its
check. -/
lemma nested_insertNew_iff (hs : s.WellFormed) (hn : s.Nested) (now : Time)
    (card : Board.NewCard) : (Board.insertNew Schema.default now card s).2.Nested ↔
      Board.checkParent s card.parent = .ok () := by
  refine ⟨fun h => ?_, hn.insert hs Schema.default now⟩
  cases hp : card.parent with
  | none => rfl
  | some p =>
    have hnew : (Board.insertNew Schema.default now card s).2.items[s.nextId]? =
        some (card.toItem Schema.default now s.nextId) := by
      rw [items_insertNew_ite, if_pos rfl]
    obtain ⟨P, hP, hroot, htask⟩ := Nested.iff.1 h s.nextId _ p hnew hp
    rw [items_insertNew_ite] at hP
    split at hP
    · -- the new card is no root, and so not its own parent
      cases hP
      rw [show (card.toItem Schema.default now s.nextId).parent = card.parent from rfl, hp] at hroot
      cases hroot
    · exact Board.checkParent_some_iff.2 ⟨P, hP, hroot, htask⟩

end BoardState

open BoardState

/-- No edit of an operation takes a card out of its place. -/
lemma Operation.editsIn_keepsPlace (op : Operation) : op.EditsIn fun _ f => KeepsPlace f := by
  have hnote : ∀ reason now, KeepsPlace (Board.notedPark reason now) := by
    intro reason now i
    cases reason <;> exact ⟨rfl, rfl⟩
  cases op with
  | createProject => exact fun _ _ _ _ _ _ _ => ⟨rfl, rfl⟩
  | updateItem => exact fun _ => ⟨rfl, rfl⟩
  | setAutoDispatch => exact ⟨fun _ => ⟨rfl, rfl⟩, fun _ _ => ⟨rfl, rfl⟩, fun _ _ => ⟨rfl, rfl⟩⟩
  | recordRunFailure => exact ⟨fun _ => ⟨rfl, rfl⟩, fun _ _ _ _ _ => ⟨rfl, rfl⟩⟩
  | answerEscalation => exact ⟨fun _ _ => ⟨rfl, rfl⟩, fun _ _ => ⟨rfl, rfl⟩⟩
  | park => exact ⟨hnote, fun _ => ⟨rfl, rfl⟩⟩
  | unpark => exact ⟨fun _ => ⟨rfl, rfl⟩, fun _ => ⟨rfl, rfl⟩⟩
  | requestChanges => exact ⟨fun _ _ _ => ⟨rfl, rfl⟩, fun _ => ⟨rfl, rfl⟩⟩
  | notifyMainAdvanced =>
    exact ⟨fun _ _ _ _ => ⟨rfl, rfl⟩, fun _ => hnote, fun _ _ => ⟨rfl, rfl⟩,
      fun _ _ => ⟨rfl, rfl⟩, fun _ _ => ⟨rfl, rfl⟩⟩
  | recordRebaseOutcome =>
    exact ⟨fun _ => ⟨rfl, rfl⟩, fun _ _ _ _ => ⟨rfl, rfl⟩, fun _ _ _ _ _ => ⟨rfl, rfl⟩,
      fun _ => ⟨rfl, rfl⟩⟩
  | escalate | steer | setProjectSandboxProfile | setPrUrl | releaseWithReason | unarchiveScope
  | autoEnqueueProject | autoEnqueueAll => exact fun _ _ => ⟨rfl, rfl⟩
  | proposeSplit | applyPrReviewFeedback => exact fun _ _ _ _ _ => ⟨rfl, rfl⟩
  | heartbeat | claim | reopenForAdoption | reportPullRequest | completeForMergedPr =>
    exact fun _ _ _ => ⟨rfl, rfl⟩
  | clearRunFailures | setEnvironment | setConversationId | setPullRequests | enqueueDispatch
  | clearDispatch | report | halt | dispatchRebase => exact fun _ => ⟨rfl, rfl⟩
  | _ => trivial

/-- The ids under which cards appear from one board to the next. -/
def BoardState.newIds (s s' : BoardState) : List ItemId :=
  s'.items.keys.filter fun k => s.items[k]?.isNone

lemma BoardState.mem_newIds {s s' : BoardState} {k : ItemId} :
    k ∈ newIds s s' ↔ s.items[k]? = none ∧ ∃ i, s'.items[k]? = some i := by
  rw [newIds, List.mem_filter, ExtTreeMap.mem_keys, ExtTreeMap.mem_iff_isSome_getElem?,
    Option.isSome_iff_exists, Option.isNone_iff_eq_none, and_comm]

/-- A section brings in a card under the next id only, which it then hands out. -/
lemma BoardState.Sectioned.newIds_eq {s s' : BoardState} (h : Sectioned s s') {k : ItemId}
    (hk : k ∈ newIds s s') : k = s.nextId ∧ s'.nextId = s.nextId + 1 := by
  obtain ⟨hnone, i, hi⟩ := mem_newIds.1 hk
  refine ⟨?_, ?_⟩
  · rcases h.item_cases hi with ⟨j, hj, -⟩ | ⟨hnext, -⟩
    · rw [hnone] at hj
      cases hj
    · exact hnext
  · cases h with
    | stays h =>
      have hplace := congrFun h.place k
      rw [place, place, hi, hnone] at hplace
      cases hplace
    | inserts now card h =>
      rw [h]
      rfl
    | deletes id h =>
      -- a deletion makes no card
      rw [h] at hi
      unfold Board.deleteSection at hi
      split at hi
      · rw [hnone] at hi
        cases hi
      · dsimp only at hi
        rw [ExtTreeMap.getElem?_map, items_removeAll, hnone, ite_self] at hi
        cases hi

/-! ## Parties at a board -/

/-- A board with the parties that use it, and every id that it ever handed out. -/
structure Crowd where
  parties : Parties Board fun _ : ℕ => Unit
  given : List ItemId

namespace Crowd

/-- A party that rests calls a method, or a party takes the next section of its method. -/
inductive Event where
  | calls (i : ℕ) (op : Operation)
  | proceeds (i : ℕ)

/-- A fresh board that nobody uses. -/
def new (clock : ℕ → ℕ → Time) (saveSucceeds : ℕ → Bool) : Crowd where
  parties := ⟨Board.new Schema.default clock saveSucceeds, fun _ => .ret (.ok ())⟩
  given := []

/-- The cards of the board. -/
def state (c : Crowd) : BoardState := c.parties.shared.state

section Unicode

variable [UnicodeTables]

/-- One event. -/
def step (c : Crowd) : Event → Crowd
  | .calls i op => { c with parties := c.parties.start i op.method }
  | .proceeds i =>
    { parties := c.parties.perform i
      given := c.given ++ newIds c.state (c.parties.perform i).shared.state }

/-- The section that comes next, when it inserts a card, finds a parent that passes the check on
the board as it is now. -/
def ChecksAgain (c : Crowd) : Event → Prop
  | .calls .. => True
  | .proceeds i => ∀ (now : Time) (card : Board.NewCard),
    (c.parties.perform i).shared.state = (Board.insertNew Schema.default now card c.state).2 →
      Board.checkParent c.state card.parent = .ok ()

/-- What one section does, and leaves alone. -/
structure SectionOf (b b' : Board) : Prop where
  sectioned : Sectioned b.state b'.state
  reshaped : Reshaped b.state b'.state
  schema : b'.schema = b.schema

omit [UnicodeTables] in
lemma SectionOf.refl (b : Board) : SectionOf b b :=
  ⟨.stays ⟨rfl, rfl⟩, .refl b.state, rfl⟩

/-- The method is made of such sections, on boards with the default schema. -/
abbrev Sound (m : Locked Board Empty Unit) : Prop :=
  m.SectionsOn (fun b => b.schema = Schema.default) SectionOf

/-- Every operation is. -/
lemma sound_method (op : Operation) : Sound op.method := by
  have hsectioned := Board.admitted_method admits_sectioned (fun id _ => .deletes id rfl)
    op.editsIn_keepsPlace
  have hreshaped := Board.structural_method op
  have hkept : op.method.SectionsOn (fun b => b.schema = Schema.default)
      fun b b' => Reshaped b.state b'.state ∧ b'.schema = b.schema :=
    .and (.of_sections (fun _ _ h => h) hreshaped.sections)
      (.of_sections (fun _ _ h => h) hreshaped.emits.keepsSchema)
  exact (hsectioned.sections.and hkept).mono fun b b' h => ⟨h.1, h.2.1, h.2.2⟩

/-- The invariant of the runs. -/
structure Inv (c : Crowd) : Prop where
  schema : c.parties.shared.schema = Schema.default
  wellFormed : c.state.WellFormed
  rooted : c.state.Rooted
  sound : ∀ i, Sound (c.parties.doing i)
  /-- The next id is above every id handed out. -/
  fresh : ∀ k ∈ c.given, k < c.state.nextId
  /-- No id was handed out twice. -/
  nodup : c.given.Nodup
  /-- Every card has an id that was handed out. -/
  given : ∀ (k : ItemId) (i : WorkItem), c.state.items[k]? = some i → k ∈ c.given

omit [UnicodeTables] in
lemma inv_new (clock : ℕ → ℕ → Time) (saveSucceeds : ℕ → Bool) : (new clock saveSucceeds).Inv where
  schema := rfl
  wellFormed := .empty
  rooted k i hi := by simp [new, state, Board.new, BoardState.empty] at hi
  sound _ := trivial
  fresh k hk := by cases hk
  nodup := List.nodup_nil
  given k i hi := by simp [new, state, Board.new, BoardState.empty] at hi

variable {c : Crowd}

omit [UnicodeTables] in
/-- A party that goes on with a sound method leaves all of them sound. -/
lemma sound_update {d : ℕ → Locked Board Empty Unit} {m : Locked Board Empty Unit}
    (hd : ∀ j, Sound (d j)) (hm : Sound m) (i j : ℕ) : Sound (Function.update d i m j) := by
  by_cases hj : j = i
  · rw [hj, Function.update_self]
    exact hm
  · rw [Function.update_of_ne hj]
    exact hd j

omit [UnicodeTables] in
/-- The next section of a party: what it does to the board, and what is left of the method. -/
lemma Inv.perform (h : c.Inv) (i : ℕ) :
    SectionOf c.parties.shared (c.parties.perform i).shared ∧
      ∀ j, Sound ((c.parties.perform i).doing j) := by
  unfold Parties.perform
  split
  · exact ⟨.refl _, h.sound⟩
  · rename_i upd next hdoing
    have hsound := h.sound i
    rw [hdoing] at hsound
    obtain ⟨hsection, hnext⟩ := hsound c.parties.shared h.schema
    exact ⟨hsection, sound_update h.sound hnext i⟩

/-- The invariant is kept by every event. -/
lemma inv_step (h : c.Inv) (e : Event) : (c.step e).Inv := by
  cases e with
  | calls i op =>
    have hshared : (c.parties.start i op.method).shared = c.parties.shared := by
      unfold Parties.start
      split <;> rfl
    have hstate : (c.step (.calls i op)).state = c.state := congrArg Board.state hshared
    refine ⟨?_, ?_, ?_, fun j => ?_, ?_, h.nodup, ?_⟩
    · exact (congrArg Board.schema hshared).trans h.schema
    · rw [hstate]
      exact h.wellFormed
    · rw [hstate]
      exact h.rooted
    · change Sound ((c.parties.start i op.method).doing j)
      unfold Parties.start
      split
      · exact sound_update h.sound (sound_method op) i j
      · exact h.sound j
    · rw [hstate]
      exact h.fresh
    · rw [hstate]
      exact h.given
  | proceeds i =>
    obtain ⟨hsection, hsound⟩ := h.perform i
    have hstate : Sectioned c.state (c.step (.proceeds i)).state := hsection.sectioned
    refine ⟨hsection.schema.trans h.schema, h.wellFormed.reshaped hsection.reshaped,
      hstate.rooted h.rooted, hsound, ?_, ?_, ?_⟩
    · intro k hk
      rcases List.mem_append.1 hk with hk | hk
      · have hle : c.state.nextId ≤ (c.step (.proceeds i)).state.nextId := by
          rcases hstate.nextId_eq with heq | heq <;> rw [heq]
          exact Nat.le_succ _
        exact Nat.lt_of_lt_of_le (h.fresh k hk) hle
      · obtain ⟨hnext, hgrown⟩ := hstate.newIds_eq hk
        rw [hgrown, hnext]
        exact Nat.lt_succ_self _
    · refine List.nodup_append'.2 ⟨h.nodup, ?_, fun k hk hk' => ?_⟩
      · exact (ExtTreeMap.nodup_keys).filter _
      · obtain ⟨hnext, -⟩ := hstate.newIds_eq hk'
        exact absurd (h.fresh k hk) (by rw [hnext]; exact lt_irrefl _)
    · intro k j hj
      refine List.mem_append.2 ?_
      cases hold : c.state.items[k]? with
      | some j' => exact Or.inl (h.given k j' hold)
      | none => exact Or.inr (mem_newIds.2 ⟨hold, j, hj⟩)

/-- From a board whose tree has its shape, an event leaves one exactly when the section, if it
inserts a card, finds the parent that its check found. -/
lemma treeShape_step_iff (h : c.Inv) (hshape : c.state.TreeShape) (e : Event) :
    (c.step e).state.TreeShape ↔ c.ChecksAgain e := by
  rw [(inv_step h e).rooted.treeShape_iff]
  rw [h.rooted.treeShape_iff] at hshape
  cases e with
  | calls i op =>
    have hstate : (c.step (.calls i op)).state = c.state := by
      change (c.parties.start i op.method).shared.state = _
      unfold Parties.start
      split <;> rfl
    rw [hstate]
    exact iff_of_true hshape trivial
  | proceeds i =>
    have hsectioned : Sectioned c.state (c.parties.perform i).shared.state :=
      (h.perform i).1.sectioned
    change (c.parties.perform i).shared.state.Nested ↔
      ∀ (now : Time) (card : Board.NewCard), (c.parties.perform i).shared.state =
        (Board.insertNew Schema.default now card c.state).2 →
          Board.checkParent c.state card.parent = .ok ()
    generalize (c.parties.perform i).shared.state = s' at hsectioned ⊢
    -- a section that is no insertion leaves the next id alone
    have hidle : s'.nextId = c.state.nextId → ∀ (now : Time) (card : Board.NewCard),
        s' = (Board.insertNew Schema.default now card c.state).2 →
          Board.checkParent c.state card.parent = .ok () := by
      intro hnext now card hinsert
      rw [hinsert] at hnext
      exact absurd hnext (Nat.succ_ne_self _)
    cases hsectioned with
    | stays hstays =>
      exact iff_of_true (hshape.of_place hstays.place) (hidle hstays.nextId)
    | inserts now card hinsert =>
      constructor
      · intro hnested now' card' hinsert'
        rw [hinsert'] at hnested
        exact (nested_insertNew_iff h.wellFormed hshape now' card').1 hnested
      · intro hcheck
        rw [hinsert]
        exact (nested_insertNew_iff h.wellFormed hshape now card).2 (hcheck now card hinsert)
    | deletes id hdelete =>
      refine iff_of_true ?_ (hidle ?_)
      · rw [hdelete]
        exact hshape.delete h.wellFormed id
      · rw [hdelete]
        exact nextId_deleteSection id c.state

/-- Whatever methods any number of parties call, and however their sections interleave, every id
that was handed out is below the next id, none was handed out twice, and every card has one of
them.  After every event every card is a root Project or a child of one on the board, exactly
when every section that inserts a card finds that the parent still passes its check. -/
theorem tree_kept (clock : ℕ → ℕ → Time) (saveSucceeds : ℕ → Bool) (events : List Event) :
    let c := Run.after step (new clock saveSucceeds) events
    ((∀ k ∈ c.given, k < c.state.nextId) ∧ c.given.Nodup ∧
      ∀ (k : ItemId) (i : WorkItem), c.state.items[k]? = some i → i.id = k ∧ k ∈ c.given) ∧
    (Run.Meets step (fun c e => (c.step e).state.TreeShape) (new clock saveSucceeds) events ↔
      Run.Meets step ChecksAgain (new clock saveSucceeds) events) := by
  have hinv : (Run.after step (new clock saveSucceeds) events).Inv :=
    Run.invariant (I := Inv) (fun _ e h => inv_step h e) (inv_new clock saveSucceeds) events
  refine ⟨⟨hinv.fresh, hinv.nodup, fun k i hi =>
    ⟨hinv.wellFormed.key k i hi, hinv.given k i hi⟩⟩, ?_⟩
  refine Run.meets_congr_of_invariant (I := fun c => c.Inv ∧ c.state.TreeShape)
    (fun c e h => treeShape_step_iff h.1 h.2 e) (fun c e h hshape => ⟨inv_step h.1 e, hshape⟩)
    ⟨inv_new clock saveSucceeds, fun k i hi => ?_⟩
  simp [new, state, Board.new, BoardState.empty] at hi

end Unicode

/-- A Project is deleted while a Task is created under it: the parent passed its check, and the
Task is inserted under a card that is gone. -/
def danglingRun : List Event :=
  [.calls 0 (.create ⟨none, "Docs", "", none, .human, false, none⟩)] ++
    List.replicate 60 (.proceeds 0) ++
  [.calls 0 (.create ⟨some 1, "Spell", "", none, .human, false, none⟩), .proceeds 0,
    .calls 1 (.deleteItem 1)] ++ List.replicate 12 (.proceeds 1) ++
    List.replicate 3 (.proceeds 0)

set_option maxRecDepth 100000 in
lemma glance_danglingRun :
    let := asciiTables
    let s := (Run.after step (new (fun _ _ => 0) fun _ => true) danglingRun).state
    s.items[3]?.map WorkItem.parent = some (some 1) ∧ s.items[1]?.isNone = true := by
  decide +kernel

/-- A Task may stand under a Project that is gone. -/
theorem not_tree_kept_danglingRun :
    let := asciiTables
    ¬(Run.after step (new (fun _ _ => 0) fun _ => true) danglingRun).state.TreeShape := by
  let := asciiTables
  intro tables hshape
  have hglance := glance_danglingRun
  obtain ⟨i, hi, hparent⟩ := Option.map_eq_some_iff.1 hglance.1
  rcases hshape 3 i hi with hproject | ⟨p, P, hp, hP, -⟩
  · rw [isProject_iff, hparent] at hproject
    cases hproject.1
  · rw [hparent, Option.some.injEq] at hp
    subst hp
    have hnone := hglance.2
    rw [hP] at hnone
    cases hnone

end Crowd

end Sandboard

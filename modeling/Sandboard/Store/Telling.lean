import Sandboard.Store.Nesting

/-!
# Telling what has changed

A method that changes a card tells so: it sends an event of the card, and the event makes the board
dirty.  What depends on being told, such as the copy of a client or the rows of the database, lags
behind on the cards that were changed without an event.  `Heeds` has the rules of such an
invariant, indexed by the cards it lags behind on.

A method that is over has told about every card that it changed, unless it failed on the way:
`Operation.quiet` has the cards that an operation may change without telling, and over a run the
invariant lags behind on no other card (`Heeds.after`).  What no event is meant to carry does not
count: the summaries of the blockers, which a read fills in, and the pulse of a run, which most
heartbeats change without an event.
-/

namespace Sandboard

open Std (ExtTreeMap)

/-- The card without what no event is meant to carry. -/
def WorkItem.bare (i : WorkItem) : WorkItem :=
  { i with
    blockers := []
    progress := 0
    lease := i.lease.map fun l => { l with lastHeartbeat := l.grantedAt } }

@[simp] lemma WorkItem.bare_id (i : WorkItem) : i.bare.id = i.id := rfl

@[simp] lemma WorkItem.bare_populateBlockers (s : BoardState) (i : WorkItem) :
    (s.populateBlockers i).bare = i.bare := rfl

lemma WorkItem.bare_beaten (now : Time) (progress : ℚ) (i : WorkItem) :
    (i.beaten now progress).bare = i.bare := by
  unfold WorkItem.bare WorkItem.beaten
  rw [Option.map_map]
  rfl

/-- Everything may be written. -/
def Licence.full : Licence where
  proposes _ := True
  approves := True
  defines _ := True
  moves _ _ _ _ := True
  links _ _ _ := True
  rewrites _ _ _ f := ∀ i : WorkItem, (f i).id = i.id

/-- On a sound board, everything may be written without an event. -/
lemma hush_full [UnicodeTables] : Hush .full fun _ => True where
  tick _ := trivial
  told _ _ _ := trivial
  advanced _ _ _ := trivial
  flushed _ := trivial
  profiles _ _ := trivial
  work _ _ _ _ := trivial
  insert _ _ _ _ := trivial
  propose _ _ _ _ := trivial
  settle _ _ _ _ _ _ := trivial
  link _ _ _ _ := trivial
  rewrite _ _ _ _ := trivial
  proposed _ _ _ _ := trivial
  resolved _ _ _ _ := trivial
  rows _ _ := trivial
  defined _ := trivial
  undefined := trivial
  moves _ _ := trivial
  promotes _ := trivial
  quiet _ _ _ _ := trivial
  aired _ _ := trivial

/-! ## Sections -/

namespace BoardState

/-- The cards other than `id` are the same. -/
def SameBut (id : ItemId) (s s' : BoardState) : Prop :=
  ∀ k, k ≠ id → s'.items[k]? = s.items[k]?

variable {id : ItemId} {s s' s'' : BoardState}

lemma SameBut.refl (id : ItemId) (s : BoardState) : SameBut id s s := fun _ _ => rfl

lemma SameBut.trans (h : SameBut id s s') (h' : SameBut id s' s'') : SameBut id s s'' :=
  fun k hk => (h' k hk).trans (h k hk)

lemma SameBut.edit (s : BoardState) (f : WorkItem → WorkItem) :
    SameBut id s (s.editItem id f) :=
  fun _ hk => items_editItem_of_ne hk f

lemma SameBut.moveItem (s : BoardState) (c : WorkItem) (now : Time) (target : State)
    (byWhom : String) (reason : Option String) :
    SameBut id s (s.moveItem id c now target byWhom reason) :=
  fun _ hk => items_editItem_of_ne hk _

end BoardState

open BoardState

section Sections

variable {ε : Type} {id : ItemId} {s s' : BoardState}

/-- A section on the state `s` changes the card `id` at most, and returns it as it is then. -/
def Presents (id : ItemId) (s : BoardState) (r : Except ε WorkItem × BoardState) : Prop :=
  SameBut id s r.2 ∧ ∀ item, r.1 = .ok item → ∃ c', r.2.items[id]? = some c' ∧ item.bare = c'.bare

lemma presents_error (h : SameBut id s s') (e : ε) :
    Presents id s ((.error e, s') : Except ε WorkItem × BoardState) := by
  refine ⟨h, fun item hitem => ?_⟩
  cases hitem

lemma Presents.after {r : Except ε WorkItem × BoardState} (h : SameBut id s s')
    (hr : Presents id s' r) : Presents id s r :=
  ⟨h.trans hr.1, hr.2⟩

/-- The card is returned with the summaries of its blockers. -/
lemma presents_ok {c' item : WorkItem} (h : SameBut id s s') (hc' : s'.items[id]? = some c')
    (hitem : item.bare = c'.bare) :
    Presents id s ((.ok item, s') : Except ε WorkItem × BoardState) := by
  refine ⟨h, fun item' heq => ⟨c', hc', ?_⟩⟩
  cases heq
  exact hitem

lemma presents_tryEdit (id : ItemId) (s : BoardState) (e : ε) (f : WorkItem → WorkItem) :
    Presents id s (s.tryEdit id e f) := by
  cases hc : s.items[id]? with
  | none =>
    rw [Board.tryEdit_none hc]
    exact presents_error (.refl id s) e
  | some c =>
    rw [Board.tryEdit_some hc]
    have hedited : (s.editItem id f).items[id]? = some (f c) := by
      rw [items_editItem_self, hc, Option.map_some]
    exact presents_ok (.edit s f) hedited rfl

lemma presents_tryMove (s : BoardState) (now : Time) (target : State) (byWhom : String)
    (reason : Option String) : Presents id s (s.tryMove now id target byWhom reason) := by
  cases hc : s.items[id]? with
  | none =>
    rw [tryMove_missing hc]
    exact presents_error (.refl id s) _
  | some c =>
    by_cases hcheck : s.checkMove id c target = .ok ()
    · rw [tryMove_allowed hc hcheck]
      have hmoved : (s.moveItem id c now target byWhom reason).items[id]? =
          some (c.moved now target byWhom reason) := by
        rw [items_moveItem, if_pos rfl, hc, Option.map_some]
      exact presents_ok (.moveItem s c now target byWhom reason) hmoved rfl
    · obtain ⟨e, hrefused⟩ := tryMove_refused hc hcheck now byWhom reason
      rw [hrefused]
      exact presents_error (.refl id s) e

lemma presents_enqueueSection (s : BoardState) : Presents id s (Board.enqueueSection id s) := by
  unfold Board.enqueueSection
  cases hc : s.items[id]? with
  | none => exact presents_error (.refl id s) _
  | some c =>
    dsimp only
    split
    · exact presents_error (.refl id s) _
    · have hedited : (s.editItem id WorkItem.queued).items[id]? = some c.queued := by
        rw [items_editItem_self, hc, Option.map_some]
      exact presents_ok (.edit s _) hedited rfl

lemma sameBut_answerSection (choice : String) (now : Time) (s : BoardState) :
    SameBut id s (Board.answerSection id choice now s).2 := by
  unfold Board.answerSection
  split
  · exact .refl id s
  · split
    · exact .refl id s
    · exact (presents_tryEdit id s _ _).1

lemma sameBut_unparkSection (s : BoardState) : SameBut id s (Board.unparkSection id s).2 := by
  unfold Board.unparkSection
  split
  · exact .refl id s
  · split
    · exact .refl id s
    · split
      · exact .refl id s
      · exact .edit s _

lemma presents_releaseSection (agentId : String) (reason : Option String) (now : Time)
    (s : BoardState) : Presents id s (Board.releaseSection id agentId reason now s) := by
  cases reason with
  | none => exact presents_tryMove s now .backlog agentId _
  | some r => exact (presents_tryMove _ now .backlog agentId _).after (.edit s _)

lemma presents_rebasedClean (s : BoardState) (e : String) :
    Presents id s (match s.tryEdit id e WorkItem.rebasedClean with
      | (.error e, s) => (.error e, s)
      | (.ok item, s) => ((.ok (s.populateBlockers item), s) : Except String WorkItem × _)) := by
  have hedit := presents_tryEdit id s e WorkItem.rebasedClean
  split
  · rename_i hsection
    rw [hsection] at hedit
    exact presents_error hedit.1 _
  · rename_i hsection
    rw [hsection] at hedit
    obtain ⟨c', hc', hitem⟩ := hedit.2 _ rfl
    exact presents_ok hedit.1 hc' hitem

lemma presents_conflictSection (bounceReason : String) (files : List String) (now : ℕ → Time)
    (s : BoardState) :
    Presents id s (Board.conflictSection id bounceReason files now s) := by
  unfold Board.conflictSection
  dsimp only
  have hnoted : SameBut id s (s.editItem id (WorkItem.conflicted bounceReason files (now 0))) :=
    .edit s _
  split
  · exact presents_error hnoted _
  · rename_i item s₁ hmove
    have hmoved : SameBut id s s₁ := by
      obtain ⟨c, -, -, rfl, -⟩ := transitionLocked_eq_ok_iff.1 hmove
      exact hnoted.trans (.moveItem _ c _ _ _ _)
    have hedit := presents_tryEdit id s₁ "" WorkItem.unqueued
    split
    · rename_i hsection
      rw [hsection] at hedit
      exact presents_error (hmoved.trans hedit.1) _
    · rename_i hsection
      rw [hsection] at hedit
      obtain ⟨c', hc', hitem⟩ := hedit.2 _ rfl
      exact presents_ok (hmoved.trans hedit.1) hc' hitem

/-- A heartbeat that is not worth an event changes the pulse of the card only. -/
lemma heartbeatSection_cases (id : ItemId) (agentId : String) (progress : ℚ) (now : ℕ → Time)
    (s : BoardState) :
    (∃ e, Board.heartbeatSection id agentId progress now s = (.error e, s)) ∨
      ∃ c c' worth s', s.items[id]? = some c ∧ s'.items[id]? = some c' ∧ SameBut id s s' ∧
        Board.heartbeatSection id agentId progress now s = (.ok (c', worth), s') ∧
          (worth = false → c'.bare = c.bare) := by
  unfold Board.heartbeatSection Board.promote
  cases hc : s.items[id]? with
  | none =>
    rw [if_neg (by simp)]
    simp only [hc]
    exact Or.inl ⟨_, rfl⟩
  | some c =>
    by_cases hclaimed : c.state = .claimed
    · rw [if_pos (by simp [hclaimed])]
      cases hcheck : s.checkMove id c .running with
      | error e =>
        rw [transitionLocked_of_error hc hcheck]
        exact Or.inl ⟨_, rfl⟩
      | ok u =>
        have hmoved : (s.moveItem id c (now 0) .running agentId none).items[id]? =
            some (c.moved (now 0) .running agentId none) := by
          rw [items_moveItem, if_pos rfl, hc, Option.map_some]
        rw [transitionLocked_of_ok hc hcheck]
        simp only [Except.map, hmoved]
        refine Or.inr ⟨c, _, _, _, rfl, ?_,
          (SameBut.moveItem s c (now 0) .running agentId none).trans (.edit _ _), rfl, ?_⟩
        · rw [items_editItem_self, hmoved]
          rfl
        · intro hworth
          cases hworth
    · rw [if_neg (by simp [hclaimed])]
      simp only [hc]
      refine Or.inr ⟨c, _, _, _, rfl, ?_, .edit s _, rfl, fun _ => WorkItem.bare_beaten _ _ c⟩
      rw [items_editItem_self, hc]
      rfl

end Sections

/-- The cards that an advance of the default branch may steer. -/
def BoardState.steerable (s : BoardState) : List ItemId :=
  (s.cards.filter fun i =>
    i.state == .claimed || i.state == .running || Board.isCoalesced i).map WorkItem.id

section Quiet

variable [UnicodeTables] {ε α : Type}

/-- The card `id`, when the method fails on the board. -/
def Board.halfway (m : Method ε α) (id : ItemId) (b : Board) : Set ItemId :=
  {k | k = id ∧ ∃ e, (m.run b).1 = .error e}

/-- The cards that an operation may change without telling; the deletion of a card does so with the
cards in `lost`. -/
def Operation.quiet (lost : Board → ItemId → Set ItemId) (b : Board) : Operation → Set ItemId
  | .escalate id agentId question options recommended =>
    Board.halfway (Board.escalate id agentId question options recommended) id b
  | .report id agentId added removed gates =>
    Board.halfway (Board.report id agentId added removed gates) id b
  | .releaseWithReason id agentId reason =>
    Board.halfway (Board.releaseWithReason id agentId reason) id b
  | .recordRunFailure id reason maxAttempts =>
    Board.halfway (Board.recordRunFailure id reason maxAttempts) id b
  | .proposeSplit id agentId children maxChildren =>
    Board.halfway (Board.proposeSplit id agentId children maxChildren) id b
  | .answerEscalation id choice => Board.halfway (Board.answerEscalation id choice) id b
  | .park id reason => Board.halfway (Board.park id reason) id b
  | .unpark id => Board.halfway (Board.unpark id) id b
  | .halt id reason => Board.halfway (Board.halt id reason) id b
  | .requestChanges id note => Board.halfway (Board.requestChanges id note) id b
  | .recordRebaseOutcome id outcome => Board.halfway (Board.recordRebaseOutcome id outcome) id b
  | .unarchiveScope fuel id _ => {k | ∃ walked,
      (Board.subtreeWalk fuel [id] [] : Method String _).run b = (.ok walked, b) ∧
        k ∈ walked}
  | .deleteItem id => lost b id
  | .notifyMainAdvanced .. => {k | k ∈ b.state.steerable}
  | .applyPrReviewFeedback prUrl prNumber reviewState byWhom => {k |
      Board.feedbackCardOfPr (normalizePrUrl prUrl) b.state = some k ∧
        ((Board.applyPrReviewFeedback prUrl prNumber reviewState byWhom :
          Method Empty _).run b).1 = .ok none}
  | _ => ∅

/-- The cards that a run may change without telling. -/
def Board.quietly (lost : Board → ItemId → Set ItemId) : Board → List Operation → Set ItemId
  | _, [] => ∅
  | b, op :: ops => op.quiet lost b ∪ Board.quietly lost (b.exec op) ops

end Quiet

/-! ## What depends on being told -/

/-- The invariant lags behind on the cards in the set at most; the deletion of a card makes it lag
behind on the cards in `lost`. -/
structure Heeds (I : Set ItemId → Board → Prop) (lost : Board → ItemId → Set ItemId) : Prop where
  mono : ∀ {S T : Set ItemId} {b : Board}, I S b → S ⊆ T → I T b
  tick : ∀ {S : Set ItemId} {b : Board}, I S b → I S (b.stepped b.state)
  told : ∀ {S : Set ItemId} {b : Board} (near : ItemId) (text : String), I S b →
    I S (b.told near text)
  advanced : ∀ {S : Set ItemId} {b : Board} (refName : String) (commitSha : Option String),
    I S b → I S (b.advanced refName commitSha)
  flushed : ∀ {S : Set ItemId} {b : Board}, I S b → I S b.flushed
  profiles : ∀ {S : Set ItemId} {b : Board} (ids : List String), I S b →
    I S { b.stepped { b.state with sandboxProfileIds := ids } with dirty := true }
  /-- One card is changed, and no event tells it. -/
  spoiled : ∀ {S : Set ItemId} {b : Board} {id : ItemId} {s' : BoardState}, I S b →
    SameBut id b.state s' → id ∈ S → I S (b.stepped s')
  /-- One card is changed in what no event is meant to carry. -/
  unnoticed : ∀ {S : Set ItemId} {b : Board} {id : ItemId} {s' : BoardState} {c c' : WorkItem},
    I S b → SameBut id b.state s' → b.state.items[id]? = some c → s'.items[id]? = some c' →
      c'.bare = c.bare → I S (b.stepped s')
  /-- A card is sent as it is on the board. -/
  emits : ∀ {S : Set ItemId} {b : Board} {id : ItemId} {c item : WorkItem}, I (insert id S) b →
    b.state.items[id]? = some c → c.id = id → item.bare = c.bare → I S (b.emitted item)
  deleted : ∀ {S : Set ItemId} {b : Board} {id : ItemId} {s : BoardState}, I S b →
    Board.deleteSection id b.state = (.ok (), s) → I (S ∪ lost b id) (b.deleted id s)

namespace Heeds

variable {I : Set ItemId → Board → Prop} {lost : Board → ItemId → Set ItemId} (K : Heeds I lost)
  {S : Set ItemId} {b : Board} {id : ItemId} {s' : BoardState} {c c' item : WorkItem}

include K

/-- One card is changed and sent. -/
lemma published (h : I (insert id S) b) (hsame : SameBut id b.state s')
    (hc' : s'.items[id]? = some c') (hid : c'.id = id) (hitem : item.bare = c'.bare) :
    I S (b.published s' item) :=
  K.emits (K.spoiled h hsame (Set.mem_insert id S)) hc' hid hitem

/-- One card is edited and sent. -/
lemma edited (h : I S b) (hs : b.state.Sound) (hc : b.state.items[id]? = some c)
    {f : WorkItem → WorkItem} (hf : (f c).id = c.id) :
    I S (b.published (b.state.editItem id f) (f c)) := by
  have hedited : (b.state.editItem id f).items[id]? = some (f c) := by
    rw [items_editItem_self, hc, Option.map_some]
  have hid : (f c).id = id := hf.trans (hs.wellFormed.key id c hc)
  exact K.published (K.mono h (Set.subset_insert id S)) (.edit b.state f) hedited hid rfl

/-- A method that tells what it changes makes the invariant lag behind on no card. -/
lemma upkeep [UnicodeTables] (S : Set ItemId) : Upkeep .full (I S) where
  tick h := K.tick h
  told near text h := K.told near text h
  advanced refName commitSha h := K.advanced refName commitSha h
  flushed h := K.flushed h
  profiles ids h := K.profiles ids h
  work {b id c s' c'} hs h hc hworked := by
    have hs' : s'.Sound := hs.reshaped (hworked.reshaped hc)
    have hc' : s'.items[id]? = some c' := hworked.item hc
    exact K.published (K.mono h (Set.subset_insert id S)) (fun k hk => hworked.others hk) hc'
      (hs'.wellFormed.key id c' hc') rfl
  insert {b c} hs h _ _ := by
    have hsame : SameBut b.state.nextId b.state
        (Board.insertNew b.schema (b.now 0) c b.state).2 := by
      intro k hk
      rw [items_insertNew_ite, if_neg hk]
    have hnew : (Board.insertNew b.schema (b.now 0) c b.state).2.items[b.state.nextId]? =
        some (c.toItem b.schema (b.now 0) b.state.nextId) := by
      rw [items_insertNew_ite, if_pos rfl]
    exact K.published (K.mono h (Set.subset_insert _ S)) hsame hnew rfl rfl
  propose hs h hc _ := K.edited h hs hc rfl
  settle _ _ _ hs h hc := K.edited h hs hc rfl
  link hs h hc _ := K.edited h hs hc rfl
  rewrite hs h hc hf := K.edited h hs hc (hf _)
  proposed _ _ _ _ := trivial
  resolved _ _ _ _ := trivial
  rows _ _ := trivial
  defined _ := trivial
  undefined := trivial
  moves _ _ := trivial
  promotes _ := trivial

end Heeds

/-! ## Methods that edit a card first -/

/-- The board is sound, and the invariant lags behind on the cards in the set at most. -/
abbrev Lags (I : Set ItemId → Board → Prop) (S : Set ItemId) (b : Board) : Prop :=
  b.state.Sound ∧ I S b

/-- When the method succeeds, it has told about the card `id`, whatever happened to it before. -/
def Airs {ε α : Type} (I : Set ItemId → Board → Prop) (id : ItemId) (m : Method ε α) : Prop :=
  ∀ S, m.Triple (Lags I (insert id S)) (fun _ => Lags I S) fun _ => Lags I (insert id S)

namespace Heeds

open Board

variable {I : Set ItemId → Board → Prop} {lost : Board → ItemId → Set ItemId} (K : Heeds I lost)
  {ε ε' α β : Type} {S T : Set ItemId} {b : Board} {id : ItemId}

include K

lemma widen (h : Lags I S b) (hST : S ⊆ T) : Lags I T b :=
  ⟨h.1, K.mono h.2 hST⟩

/-! ### Composed methods -/

omit K in
lemma airs_fail (e : ε) : Airs I id (Locked.fail e : Method ε α) :=
  fun _ => .fail fun _ h => h

lemma airs_bind {m : Method ε α} {k : α → Method ε β} (hm : Airs I id m)
    (hk : ∀ S a, Sustains (I S) (k a)) : Airs I id (m >>= k) := by
  intro S
  refine Locked.Triple.bind (hm S) fun a => ?_
  exact (hk S a).keeps.conseq (fun _ h => h) (fun _ _ h => h)
    fun _ _ h => K.widen h (Set.subset_insert id S)

omit K in
/-- What comes before may change the card. -/
lemma airs_after {m : Method ε α} {k : α → Method ε β} (hm : ∀ S, m.Keeps (Lags I (insert id S)))
    (hk : ∀ a, Airs I id (k a)) : Airs I id (m >>= k) :=
  fun S => Locked.Triple.bind (hm S) fun a => hk a S

omit K in
lemma airs_mapErr {f : ε → ε'} {m : Method ε α} (hm : Airs I id m) : Airs I id (m.mapErr f) :=
  fun S => Locked.Triple.mapErr (hm S)

/-- Whatever the outcome, the invariant lags behind on no other card. -/
lemma keeps_of_airs {m : Method ε α} (hm : Airs I id m) (S : Set ItemId) :
    m.Keeps (Lags I (insert id S)) :=
  (hm S).conseq (fun _ h => h) (fun _ _ h => K.widen h (Set.subset_insert id S)) fun _ _ h => h

omit K in
lemma sound_of_quietAt {s s' : BoardState} (hs : s.Sound) (h : QuietAt .full s s') : s'.Sound := by
  rcases h with heq | ⟨k, c, c', hc, hworked⟩
  · rw [heq]
    exact hs
  · exact hs.reshaped (hworked.reshaped hc)

/-- A section that changes the card `id` at most. -/
lemma keeps_quietly {f : (ℕ → Time) → BoardState → Except ε α × BoardState}
    (hquiet : ∀ now s, QuietAt .full s (f now s).2) (hsame : ∀ now s, SameBut id s (f now s).2)
    (S : Set ItemId) : (write f).Keeps (Lags I (insert id S)) := by
  refine .of_run fun b h => ?_
  rw [run_write]
  exact ⟨sound_of_quietAt h.1 (hquiet b.now b.state),
    K.spoiled h.2 (hsame b.now b.state) (Set.mem_insert id S)⟩

lemma keeps_tryEdit {e : ε} {f : Time → WorkItem → WorkItem}
    (hf : ∀ now i, WorkItem.SameTask i (f now i)) (S : Set ItemId) :
    (write fun now s => s.tryEdit id e (f (now 0))).Keeps (Lags I (insert id S)) :=
  K.keeps_quietly (fun _ s => .of_worksAt (worksAt_tryEdit s (hf _)))
    (fun _ s => (presents_tryEdit id s e _).1) S

lemma keeps_editQuietly {f : Time → WorkItem → WorkItem}
    (hf : ∀ now i, WorkItem.SameTask i (f now i)) (S : Set ItemId) :
    (editQuietly id f : Method ε Unit).Keeps (Lags I (insert id S)) :=
  K.keeps_quietly (fun _ s => quietAt_editItem id s (hf _)) (fun _ s => .edit s _) S

/-- A section that returns the card `id`, and its event. -/
lemma airs_write_emit {f : (ℕ → Time) → BoardState → Except ε WorkItem × BoardState}
    {k : WorkItem → Method ε β} (hquiet : ∀ now s, QuietAt .full s (f now s).2)
    (hpresents : ∀ now s, Presents id s (f now s)) (hk : ∀ S item, Sustains (I S) (k item)) :
    Airs I id (write f >>= fun item => emit item >>= fun _ => k item) := by
  intro S b h
  have hs' := sound_of_quietAt h.1 (hquiet b.now b.state)
  obtain ⟨hsame, hok⟩ := hpresents b.now b.state
  rw [Locked.run_bind, run_write]
  generalize f b.now b.state = r at hs' hsame hok ⊢
  obtain ⟨e | item, s'⟩ := r
  · exact ⟨hs', K.spoiled h.2 hsame (Set.mem_insert id S)⟩
  · obtain ⟨c', hc', hitem⟩ := hok item rfl
    have hpublished : Lags I S (b.published s' item) :=
      ⟨hs', K.published h.2 hsame hc' (hs'.wellFormed.key id c' hc') hitem⟩
    have hrest : (k item).Triple (Lags I S) (fun _ => Lags I S) fun _ => Lags I (insert id S) :=
      (hk S item).keeps.conseq (fun _ h => h) (fun _ _ h => h)
        fun _ _ h => K.widen h (Set.subset_insert id S)
    rw [Locked.andThen_ok, Locked.run_bind, run_emit, Locked.andThen_ok]
    exact hrest _ hpublished

variable [UnicodeTables]

/-! ## Agent verbs -/

lemma sustains_move (id : ItemId) (target : State) (byWhom : String) (reason : Option String) :
    Sustains (I S) (transition id target byWhom reason) :=
  sustains_transitionWith (K.upkeep _) (fun _ _ _ _ _ => trivial) fun _ =>
    sustains_materializeProposalOnDone (K.upkeep _) trivial id byWhom

lemma airs_transition (id : ItemId) (target : State) (byWhom : String) (reason : Option String) :
    Airs I id (transition id target byWhom reason) :=
  K.airs_write_emit
    (fun now _ => .of_worksAt (worksAt_tryMove (now 0) fun _ _ _ => trivial))
    (fun _ s => presents_tryMove s _ _ _ _) fun _ _ =>
      sustains_bind (sustains_when fun _ => sustains_bind (sustains_attempt
        (sustains_materializeProposalOnDone (K.upkeep _) trivial id byWhom)) fun _ =>
          sustains_announceUnblocked (K.upkeep _) id) fun _ =>
        sustains_bind (sustains_get id) fun _ => sustains_pure _

lemma airs_transitionOrMessage (id : ItemId) (target : State) (byWhom reason : String) :
    Airs I id (transitionOrMessage id target byWhom reason) :=
  airs_mapErr (K.airs_transition id target byWhom _)

lemma airs_escalate (id : ItemId) (agentId question : String) (options : List EscalationOption)
    (recommended : ℕ) : Airs I id (escalate id agentId question options recommended) :=
  airs_after (fun _ => (sustains_ret _).keeps) fun _ =>
    airs_after (K.keeps_tryEdit fun _ _ => ⟨rfl, Or.inl rfl, fun h => h⟩) fun _ =>
      K.airs_bind (K.airs_transitionOrMessage id _ _ _) fun _ item =>
        sustains_bind (sustains_story (K.upkeep _) _ _) fun _ => sustains_pure item

lemma airs_report (id : ItemId) (agentId : String) (added removed : UInt32)
    (gates : List String) : Airs I id (report id agentId added removed gates) :=
  airs_after (K.keeps_editQuietly fun _ _ => ⟨rfl, Or.inl rfl, fun h => h⟩) fun _ =>
    K.airs_transition id _ _ _

lemma airs_releaseWithReason (id : ItemId) (agentId : String) (reason : Option String) :
    Airs I id (releaseWithReason id agentId reason) := by
  refine K.airs_write_emit (fun now s => ?_) (fun now s => presents_releaseSection agentId reason _ s)
    fun _ item => sustains_bind (sustains_onSome fun _ => sustains_story (K.upkeep _) _ _)
      fun _ => sustains_pure item
  exact quietAt_releaseSection hush_full id agentId reason (now 0) s

lemma airs_recordRunFailure (id : ItemId) (reason : String) (maxAttempts : UInt32) :
    Airs I id (recordRunFailure id reason maxAttempts) := by
  refine airs_after (K.keeps_tryEdit (f := fun _ => failedOnce)
    fun _ _ => ⟨rfl, Or.inl rfl, fun h => h⟩) fun it => ?_
  refine airs_after (fun _ => (sustains_when fun _ =>
    sustains_bind (sustains_attempt (K.sustains_move id _ _ _)) fun _ => sustains_pure _).keeps)
      fun _ => ?_
  split
  · exact K.airs_bind (K.airs_transitionOrMessage id _ _ _) fun _ item =>
      sustains_bind (sustains_story (K.upkeep _) _ _) fun _ => sustains_pure item
  · exact K.airs_escalate id _ _ _ _

lemma airs_proposeSplit (id : ItemId) (agentId : String) (children : List SplitChildSpec)
    (maxChildren : ℕ) : Airs I id (proposeSplit id agentId children maxChildren) := by
  refine airs_after (fun _ => (sustains_getOr id _).keeps) fun card =>
    airs_after (fun _ => (sustains_failIf _ _).keeps) fun _ => ?_
  split
  · exact airs_after (fun S => (K.keeps_of_airs (K.airs_escalate id _ _ _ _) S).attempt) fun _ => airs_fail _
  · refine airs_after (fun _ => (sustains_ret _).keeps) fun _ => ?_
    split
    · exact airs_fail _
    · exact airs_after (fun _ => (sustains_getOr _ _).keeps) fun _ =>
        airs_after (fun _ => (sustains_read _).keeps) fun _ =>
          airs_after (fun _ => (sustains_failIf _ _).keeps) fun _ =>
            airs_after (fun _ => (sustains_ret _).keeps) fun _ =>
              airs_after (fun _ => (sustains_failIf _ _).keeps) fun _ =>
                airs_after (fun _ => (sustains_setProposal (K.upkeep _) fun _ => trivial).keeps)
                  fun _ => K.airs_bind (K.airs_transitionOrMessage id _ _ _) fun _ item =>
                    sustains_bind (sustains_story (K.upkeep _) _ _) fun _ => sustains_pure item

/-! ## Human verbs -/

lemma sustains_hold (id : ItemId) (title : String) :
    Sustains (I S) (holdForHost id title) :=
  sustains_write_emit (K.upkeep _)
    (fun now s _ => worksAt_tryEdit (f := heldForHost (now 0)) s
      fun _ => ⟨rfl, Or.inl rfl, fun h => h⟩) fun item =>
      sustains_bind (sustains_story (K.upkeep _) _ _) fun _ => sustains_pure item

lemma airs_answerEscalation (id : ItemId) (choice : String) :
    Airs I id (answerEscalation id choice) := by
  refine airs_after (K.keeps_quietly (fun _ s => quietAt_answerSection id choice _ s)
    fun _ s => sameBut_answerSection choice _ s) fun asked =>
      K.airs_bind (K.airs_transitionOrMessage id _ _ _) fun _ item =>
        sustains_bind (sustains_story (K.upkeep _) _ _) fun _ => ?_
  split
  · exact K.sustains_hold id _
  · exact sustains_pure item

lemma airs_park (id : ItemId) (reason : Option String) : Airs I id (park id reason) :=
  airs_after (K.keeps_tryEdit fun now i => sameTask_notedPark _ now i) fun _ =>
    airs_after (K.keeps_of_airs (K.airs_transitionOrMessage id _ _ _)) fun _ =>
      K.airs_write_emit
        (fun _ s => .of_worksAt (worksAt_tryEdit s fun _ => ⟨rfl, Or.inl rfl, fun h => h⟩))
        (fun _ s => presents_tryEdit id s _ _) fun _ item =>
          sustains_bind (sustains_story (K.upkeep _) _ _) fun _ => sustains_pure item

lemma airs_enqueueDispatch (id : ItemId) : Airs I id (enqueueDispatch id) :=
  airs_after (fun _ => (sustains_read _).keeps) fun _ =>
    airs_after (fun _ => (sustains_failIf _ _).keeps) fun _ =>
      K.airs_write_emit (fun _ s => .of_worksAt (worksAt_enqueueSection id s))
        (fun _ s => presents_enqueueSection s) fun _ item =>
          sustains_bind (sustains_story (K.upkeep _) _ _) fun _ => sustains_pure item

lemma airs_unpark (id : ItemId) : Airs I id (unpark id) :=
  airs_after (K.keeps_quietly (fun _ s => quietAt_unparkSection id s)
    fun _ s => sameBut_unparkSection s) fun _ =>
      K.airs_bind (K.airs_enqueueDispatch id) fun _ item =>
        sustains_bind (sustains_story (K.upkeep _) _ _) fun _ => sustains_pure item

lemma airs_halt (id : ItemId) (reason : Option String) : Airs I id (halt id reason) :=
  airs_after (K.keeps_editQuietly fun _ _ => ⟨rfl, Or.inl rfl, fun h => h⟩) fun _ =>
    K.airs_bind (K.airs_transitionOrMessage id _ _ _) fun _ item =>
      sustains_bind (sustains_story (K.upkeep _) _ _) fun _ => sustains_pure item

omit [UnicodeTables] in
/-- The card of a transition, sent once more. -/
lemma lags_emit_moved {target : State} {byWhom : String} {reason : Option String}
    {item : WorkItem} {s : BoardState} (h : Lags I (insert id S) b)
    (hmove : b.state.transitionLocked (b.now 0) id target byWhom reason = .ok (item, s)) :
    Lags I S ((b.published s item).emitted item) := by
  obtain ⟨c, hc, hcheck, rfl, rfl⟩ := transitionLocked_eq_ok_iff.1 hmove
  have hmoved : (b.state.moveItem id c (b.now 0) target byWhom reason).items[id]? =
      some (c.moved (b.now 0) target byWhom reason) := by
    rw [items_moveItem, if_pos rfl, hc]
    rfl
  have hs : (b.state.moveItem id c (b.now 0) target byWhom reason).Sound :=
    h.1.reshaped (.single (.move (b.now 0) byWhom reason hc hcheck))
  have hid := hs.wellFormed.key id _ hmoved
  have hpublished : I S (b.published _ ((b.state.moveItem id c (b.now 0) target byWhom
      reason).populateBlockers (c.moved (b.now 0) target byWhom reason))) :=
    K.published h.2 (.moveItem b.state c (b.now 0) target byWhom reason) hmoved hid rfl
  exact ⟨hs, K.emits (K.mono hpublished (Set.subset_insert id S)) hmoved hid rfl⟩

lemma airs_requestChanges (id : ItemId) (note : String) :
    Airs I id (requestChanges id note) := by
  refine airs_after (fun _ => (sustains_steer (K.upkeep _) _ _).keeps) fun _ =>
    airs_after (K.keeps_editQuietly fun _ _ => ⟨rfl, Or.inr rfl, fun h => h⟩) fun _ => ?_
  intro S b h
  cases hmove : b.state.transitionLocked (b.now 0) id .backlog "human"
      (some s!"changes requested: {note}") with
  | error e =>
    rw [Locked.run_bind, transitionOrMessage, Locked.run_mapErr, run_transition_error hmove]
    exact ⟨h.1, K.tick h.2⟩
  | ok r =>
    obtain ⟨item, s⟩ := r
    have hmoved : (transitionOrMessage id .backlog "human" s!"changes requested: {note}").run b =
        (.ok item, b.published s item) := by
      rw [transitionOrMessage, Locked.run_mapErr, run_transition_ok (by decide) hmove]
      rfl
    rw [Locked.run_bind_ok hmoved, Locked.run_bind_ok (run_emit item _)]
    have hrest : Sustains (I S) (do
        story id s!"{item.title}: changes requested — {note}"
        return item : Method String WorkItem) :=
      sustains_bind (sustains_story (K.upkeep S) _ _) fun _ => sustains_pure item
    exact (hrest.keeps.conseq (fun _ h => h) (fun _ _ h => h)
      fun _ _ h => K.widen h (Set.subset_insert id S)) _ (K.lags_emit_moved h hmove)

lemma airs_recordRebaseOutcome (id : ItemId) (outcome : RebaseOutcome) :
    Airs I id (recordRebaseOutcome id outcome) := by
  refine airs_after (fun _ => (sustains_readOr id _).keeps) fun before =>
    airs_after (fun _ => (sustains_failIf _ _).keeps) fun _ => ?_
  cases outcome with
  | clean =>
    refine K.airs_write_emit (fun _ s => ?_) (fun _ s => presents_rebasedClean s _)
      fun _ item => sustains_pure item
    have hedit : QuietAt .full s (s.tryEdit id s!"no such item #{id}" WorkItem.rebasedClean).2 :=
      .of_worksAt (worksAt_tryEdit s fun _ => ⟨rfl, Or.inl rfl, fun h => h⟩)
    split
    · rename_i hsection
      rwa [hsection] at hedit
    · rename_i hsection
      rwa [hsection] at hedit
  | conflict files reason =>
    dsimp only
    split
    · exact airs_after (K.keeps_editQuietly fun _ _ => ⟨rfl, Or.inl rfl, fun h => h⟩) fun _ =>
        K.airs_escalate id _ _ _ _
    · exact K.airs_write_emit (fun now s => quietAt_conflictSection hush_full id _ _ now s)
        (fun now s => presents_conflictSection _ _ now s) fun _ item =>
          sustains_bind (sustains_story (K.upkeep _) _ _) fun _ => sustains_pure item

/-! ### A run beats -/

lemma lags_heartbeat (id : ItemId) (agentId : String) (progress : ℚ) (leaseSecs : ℤ)
    (h : Lags I S b) : Lags I S ((heartbeat id agentId progress leaseSecs).run b).2 := by
  have hs' := sound_of_quietAt h.1
    (quietAt_heartbeatSection hush_full id agentId progress b.now b.state)
  unfold heartbeat
  rw [Locked.run_bind, run_write]
  rcases heartbeatSection_cases id agentId progress b.now b.state with
    ⟨e, hsection⟩ | ⟨c, c', worth, s', hc, hc', hsame, hsection, hbare⟩
  · rw [hsection]
    exact ⟨h.1, K.tick h.2⟩
  · rw [hsection] at hs' ⊢
    rw [Locked.andThen_ok, Locked.run_bind, Locked.run_when]
    cases worth with
    | true =>
      rw [if_pos rfl, run_emit]
      exact ⟨hs', K.published (K.mono h.2 (Set.subset_insert id S)) hsame hc'
        (hs'.wellFormed.key id c' hc') rfl⟩
    | false =>
      rw [if_neg Bool.false_ne_true]
      exact ⟨hs', K.unnoticed h.2 hsame hc hc' (hbare rfl)⟩

/-! ### Scopes and forge events -/

omit [UnicodeTables] in
/-- On a card of the set, the method makes the invariant lag behind no more. -/
lemma sustains_of_airs {m : Method ε α} (hm : Airs I id m) (hid : id ∈ S) : Sustains (I S) m := by
  refine ⟨?_⟩
  have hkeeps := K.keeps_of_airs hm S
  rwa [Set.insert_eq_of_mem hid] at hkeeps

/-- The cards in `S` may be restored without telling. -/
lemma sustains_unarchiveOne (reason : Option String) (touched : List ItemId) (hid : id ∈ S) :
    Sustains (I S) (unarchiveOne reason touched id) := by
  have hedit : Sustains (I S) (editQuietly id fun _ => WorkItem.unleased : Method String Unit) := by
    refine ⟨?_⟩
    have hkeeps : (editQuietly id fun _ => WorkItem.unleased : Method String Unit).Keeps
        (Lags I (insert id S)) :=
      K.keeps_editQuietly (f := fun _ => WorkItem.unleased)
        (fun _ _ => ⟨rfl, Or.inl rfl, fun h => h⟩) S
    rwa [Set.insert_eq_of_mem hid] at hkeeps
  refine sustains_bind (sustains_get id) fun item => ?_
  split
  · exact sustains_pure touched
  · exact sustains_bind (sustains_childrenOf id) fun kids =>
      sustains_bind (sustains_mapErr (K.sustains_move id _ _ _)) fun _ =>
        sustains_bind hedit fun _ => sustains_pure _

omit K [UnicodeTables] in
/-- The walk reads only. -/
lemma run_subtreeWalk (fuel : ℕ) (stack order : List ItemId) (b : Board) :
    ∃ walked, (subtreeWalk fuel stack order : Method ε _).run b = (.ok walked, b) := by
  induction fuel generalizing stack order with
  | zero => exact ⟨order, rfl⟩
  | succ fuel ih =>
    cases stack with
    | nil => exact ⟨order, rfl⟩
    | cons cur stack =>
      obtain ⟨walked, hrun⟩ := ih ((b.state.childrenOfIndexed cur).reverse ++ stack) (order ++ [cur])
      refine ⟨walked, ?_⟩
      rw [subtreeWalk, Locked.run_bind_ok (run_childrenOf cur b), hrun]

/-- The cards of a subtree may be restored without telling. -/
lemma lags_unarchiveScope (fuel : ℕ) (id : ItemId) (reason : Option String) (h : Lags I S b)
    (hT : S ⊆ T) (hwalked : ∀ walked,
      (subtreeWalk fuel [id] [] : Method String _).run b = (.ok walked, b) → ∀ k ∈ walked, k ∈ T) :
    Lags I T ((unarchiveScope fuel id reason).run b).2 := by
  have hwide := K.widen h hT
  unfold unarchiveScope
  cases hroot : b.state.items[id]? with
  | none =>
    rw [Locked.run_bind_error (run_getOr_none hroot _)]
    exact hwide
  | some c =>
    rw [Locked.run_bind_ok (run_getOr_some hroot _), Locked.run_failIf_bind]
    split
    · exact hwide
    · obtain ⟨walked, hwalk⟩ := run_subtreeWalk (ε := String) fuel [id] [] b
      rw [Locked.run_bind_ok hwalk]
      refine (sustains_bind (I := I T) (sustains_foldlM (fun touched k hk => ?_) _) fun touched =>
        sustains_bind (sustains_get id) fun _ => sustains_bind (sustains_onSome fun _ =>
          sustains_story (K.upkeep T) _ _) fun _ => sustains_pure _).keeps.run hwide
      exact K.sustains_unarchiveOne _ touched (hwalked walked hwalk k (List.mem_reverse.1 hk))

lemma sustains_bounceForRebase (hid : id ∈ S) :
    Sustains (I S) (bounceForRebase id : Method ε Unit) :=
  sustains_bind (sustains_read _) fun _ => sustains_when fun _ =>
    sustains_bind (sustains_attempt (K.sustains_of_airs (K.airs_park id _) hid)) fun _ =>
      sustains_onSome fun _ =>
        sustains_bind (sustains_attempt (K.sustains_of_airs (K.airs_unpark id) hid)) fun _ =>
          sustains_pure _

lemma sustains_steerLiveCard (advancedRepo refName : String) (commitSha : Option String)
    (steered : List ItemId) (hid : id ∈ S) :
    Sustains (I S) (steerLiveCard advancedRepo refName commitSha steered id) := by
  refine sustains_bind (sustains_cardMatchesMainAdvancedRepo _ _) fun matched => ?_
  split
  · exact sustains_pure _
  · refine sustains_bind (sustains_readOr _ _) fun _ => sustains_bind (sustains_cardRepo _) fun _ =>
      sustains_bind (sustains_readOr _ _) fun _ => ?_
    split
    · exact sustains_pure _
    · refine sustains_bind (sustains_attempt (sustains_steer (K.upkeep S) _ _)) fun r => ?_
      cases r with
      | error e => exact sustains_pure _
      | ok item =>
        exact sustains_bind (sustains_story (K.upkeep S) _ _) fun _ =>
          sustains_bind (sustains_when fun _ => K.sustains_bounceForRebase hid) fun _ =>
            sustains_pure _

/-- The steered cards may be left halfway without telling. -/
lemma lags_notifyMainAdvanced (advancedRepo refName : String) (commitSha : Option String)
    (h : Lags I S b) (hT : S ⊆ T) (hsteerable : ∀ k ∈ b.state.steerable, k ∈ T) :
    Lags I T ((notifyMainAdvanced advancedRepo refName commitSha).run b).2 := by
  have hadvanced : Lags I T (b.advanced refName commitSha) :=
    K.widen ⟨h.1, K.advanced refName commitSha h.2⟩ hT
  have hsteered : Sustains (I T)
      (b.state.steerable.foldlM (steerLiveCard advancedRepo refName commitSha) []) :=
    sustains_foldlM (fun steered k hk => K.sustains_steerLiveCard _ _ _ steered (hsteerable k hk)) _
  exact hsteered.keeps.run hadvanced

/-- A move to Backlog that is dropped when it fails; when it succeeds, the card is sent once
more. -/
lemma lags_returned {byWhom reason : String} {note : WorkItem → String}
    {r : Except ε (Option ItemId) × Board} (h : Lags I (insert id S) b)
    (hr : (do
      let moved ← (transition id .backlog byWhom (some reason)).attempt
      match moved with
      | .ok item =>
        emit item
        story id (note item)
        return some id
      | .error _ => return none : Method ε (Option ItemId)).run b = r)
    (hhalfway : r.1 = .ok none → id ∈ S) : Lags I S r.2 := by
  subst hr
  rw [Locked.run_bind_ok (Locked.run_attempt _ b)] at hhalfway ⊢
  cases hmove : b.state.transitionLocked (b.now 0) id .backlog byWhom (some reason) with
  | error e =>
    rw [run_transition_error hmove] at hhalfway ⊢
    have hleft : Lags I (insert id S) (b.stepped b.state) := ⟨h.1, K.tick h.2⟩
    rwa [Set.insert_eq_of_mem (hhalfway rfl)] at hleft
  | ok moved =>
    obtain ⟨item, s⟩ := moved
    have hsent : Lags I S ((b.published s item).emitted item) := K.lags_emit_moved h hmove
    rw [run_transition_ok (by decide) hmove]
    dsimp only
    have hrest : Sustains (I S) (do
        story id (note item)
        return some id : Method ε (Option ItemId)) :=
      sustains_bind (sustains_story (K.upkeep S) _ _) fun _ => sustains_pure (some id)
    rw [Locked.run_bind_ok (run_emit item _)]
    exact hrest.keeps.run hsent

/-- The steered card may be left halfway without telling. -/
lemma lags_applyPrReviewFeedback (prUrl : String) (prNumber : Option ℕ)
    (reviewState byWhom : String) (h : Lags I S b) (hT : S ⊆ T)
    (hhalfway : ∀ k, feedbackCardOfPr (normalizePrUrl prUrl) b.state = some k →
      ((applyPrReviewFeedback prUrl prNumber reviewState byWhom : Method Empty _).run b).1 =
        .ok none → k ∈ T) :
    Lags I T ((applyPrReviewFeedback prUrl prNumber reviewState byWhom : Method Empty _).run b).2 := by
  have hwide := K.widen h hT
  unfold applyPrReviewFeedback at hhalfway ⊢
  dsimp only at hhalfway ⊢
  split
  · exact hwide
  · rename_i hactionable
    rw [if_neg hactionable, Locked.run_bind_ok (run_read _ b)] at hhalfway
    rw [Locked.run_bind_ok (run_read _ b)]
    cases hfound : feedbackCardOfPr (normalizePrUrl prUrl) b.state with
    | none => exact hwide
    | some id =>
      rw [hfound] at hhalfway
      dsimp only at hhalfway ⊢
      rw [Locked.run_bind_ok (Locked.run_attempt _ b), run_write] at hhalfway ⊢
      cases hc : b.state.items[id]? with
      | none =>
        rw [tryEdit_none hc]
        exact K.widen ⟨h.1, K.tick h.2⟩ hT
      | some c =>
        rw [tryEdit_some hc] at hhalfway ⊢
        dsimp only [Locked.andThen_ok] at hhalfway ⊢
        have hedit : ∀ i, WorkItem.SameTask i (WorkItem.reviewed
            (actorOr "github-review" byWhom)
            (prReviewFeedbackSteerNote (Text.trim prUrl) prNumber) (b.now 0) i) :=
          fun _ => ⟨rfl, Or.inr rfl, fun h => h⟩
        have hnoted := K.spoiled (S := insert id T) (K.mono hwide.2 (Set.subset_insert id T))
          (.edit b.state (WorkItem.reviewed (actorOr "github-review" byWhom)
            (prReviewFeedbackSteerNote (Text.trim prUrl) prNumber) (b.now 0)))
          (Set.mem_insert id T)
        have hsound := sound_of_quietAt h.1 (quietAt_editItem id b.state hedit)
        exact K.lags_returned ⟨hsound, hnoted⟩ rfl (hhalfway id rfl)

omit [UnicodeTables] in
lemma lags_deleteItem (id : ItemId) (h : Lags I S b) (hT : S ∪ lost b id ⊆ T) :
    Lags I T ((deleteItem id).run b).2 := by
  cases hc : b.state.items[id]? with
  | none =>
    obtain ⟨e, hrun⟩ := run_deleteItem_error hc
    rw [hrun]
    exact K.widen ⟨h.1, K.tick h.2⟩ (Set.subset_union_left.trans hT)
  | some c =>
    have hsection : deleteSection id b.state = (.ok (), (deleteSection id b.state).2) := by
      simp [deleteSection, hc]
    rw [run_deleteItem_ok hsection]
    refine K.widen ⟨?_, K.deleted h.2 hsection⟩ hT
    change (b.deleted id (deleteSection id b.state).2).state.Sound
    have hstate : (b.deleted id (deleteSection id b.state).2).state =
        (deleteSection id b.state).2 := flushed_state _
    rw [hstate]
    exact h.1.reshaped (reshaped_deleteSection id b.state)

omit [UnicodeTables] in
/-- A method that fails leaves one card without telling. -/
lemma lags_of_airs {m : Method ε α} (hm : Airs I id m) (h : Lags I S b)
    (hT : S ∪ halfway m id b ⊆ T) : Lags I T (m.run b).2 := by
  have hkept := hm S b (K.widen h (Set.subset_insert id S))
  cases hr : m.run b with
  | mk r b' =>
    rw [hr] at hkept
    cases r with
    | ok a => exact K.widen hkept (Set.subset_union_left.trans hT)
    | error e =>
      refine K.widen hkept (Set.insert_subset (hT (Or.inr ⟨rfl, e, ?_⟩))
        (Set.subset_union_left.trans hT))
      rw [hr]

/-- An operation leaves no other card without telling. -/
lemma exec (op : Operation) (h : Lags I S b) : Lags I (S ∪ op.quiet lost b) (b.exec op) := by
  have hsilent : ∀ {ε α : Type} {m : Method ε α} {T : Set ItemId}, Operation.silent m = op.method →
      Lags I T (m.run b).2 → Lags I T (b.exec op) := by
    intro ε α m T hop hm
    rw [Board.exec, ← hop, Operation.silent, Locked.run_bind_ok (Locked.run_attempt m b)]
    exact hm
  have hairs : ∀ {ε α : Type} {m : Method ε α} {id : ItemId}, Operation.silent m = op.method →
      Airs I id m → Lags I (S ∪ halfway m id b) (b.exec op) :=
    fun hop hm => hsilent hop (K.lags_of_airs hm h Set.Subset.rfl)
  have hkeeps : Sustains (I S) op.method → Lags I (S ∪ op.quiet lost b) (b.exec op) :=
    fun hm => K.widen (hm.keeps.run h) Set.subset_union_left
  have htells : ∀ {ε α : Type} {m : Method ε α}, Operation.silent m = op.method →
      Lags I S (m.run b).2 → Lags I (S ∪ op.quiet lost b) (b.exec op) :=
    fun hop hm => K.widen (hsilent hop hm) Set.subset_union_left
  have hdrops : ∀ {ε α : Type} {m : Method ε α}, Operation.silent m = op.method →
      Sustains (I S) m → Lags I (S ∪ op.quiet lost b) (b.exec op) :=
    fun hop hm => htells hop (hm.keeps.run h)
  have U := K.upkeep S
  cases op with
  | create c => exact hdrops rfl (sustains_create U trivial)
  | createProject => exact hdrops rfl (sustains_createProject U _ _ _ _ _)
  | createTask => exact htells rfl (keeps_createTask U (fun _ _ _ _ => trivial) h.1 h.2)
  | seedInitialPlan id => exact hdrops rfl (sustains_seedInitialPlan U id)
  | proposePlan => exact hdrops rfl (sustains_proposePlan U fun _ => trivial)
  | setProposal => exact hdrops rfl (sustains_setProposal U fun _ => trivial)
  | approvePlan => exact hdrops rfl (sustains_approvePlan U trivial _ _)
  | materializePendingProposal => exact hdrops rfl (sustains_materializePendingProposal U trivial _)
  | healCompletedEpics => exact hdrops rfl (sustains_healCompletedEpics U trivial)
  | setProjectSandboxProfile => exact hdrops rfl (sustains_setProjectSandboxProfile U _ _)
  | setSandboxProfiles ids => exact hkeeps (sustains_setSandboxProfiles U ids)
  | clearRunFailures id =>
    exact hkeeps (sustains_editIf_task U fun _ => ⟨rfl, Or.inl rfl, fun h => h⟩)
  | setEnvironment id sandbox =>
    exact hkeeps (sustains_editIf_task U fun _ => ⟨rfl, Or.inl rfl, fun h => h⟩)
  | setConversationId id conversationId =>
    exact hkeeps (sustains_editIf_task U fun _ => ⟨rfl, Or.inl rfl, fun h => h⟩)
  | setPullRequests id prs => exact hkeeps (sustains_setPullRequests U id prs)
  | setPrUrl id url => exact hkeeps (sustains_setPrUrl U id url)
  | setBlockedBy =>
    exact K.widen (keeps_setBlockedBy U (fun _ _ => trivial) h.1 h.2) Set.subset_union_left
  | updateItem => exact htells rfl (keeps_updateItem U (fun _ _ _ => rfl) h.1 h.2)
  | transition id target byWhom reason => exact hdrops rfl (K.sustains_move id target byWhom reason)
  | enqueueDispatch => exact hdrops rfl (sustains_enqueueDispatch U _)
  | clearDispatch => exact hdrops rfl (sustains_clearDispatch U _)
  | setAutoDispatch => exact hdrops rfl (sustains_setAutoDispatch U _ _)
  | autoEnqueueProject id => exact hkeeps (sustains_autoEnqueueProject U id)
  | autoEnqueueAll => exact hkeeps (sustains_autoEnqueueAll U)
  | claim => exact hdrops rfl (sustains_claim U _ _ _ _)
  | reopenForAdoption => exact hdrops rfl (sustains_reopenForAdoption U _ _ _)
  | heartbeat id agentId progress leaseSecs =>
    exact htells rfl (K.lags_heartbeat id agentId progress leaseSecs h)
  | escalate => exact hairs rfl (K.airs_escalate _ _ _ _ _)
  | report => exact hairs rfl (K.airs_report _ _ _ _ _)
  | releaseWithReason => exact hairs rfl (K.airs_releaseWithReason _ _ _)
  | sweepLeases => exact hdrops rfl (sustains_sweepLeases U)
  | recordRunFailure => exact hairs rfl (K.airs_recordRunFailure _ _ _)
  | proposeSplit => exact hairs rfl (K.airs_proposeSplit _ _ _ _)
  | steer => exact hdrops rfl (sustains_steer U _ _)
  | answerEscalation => exact hairs rfl (K.airs_answerEscalation _ _)
  | park => exact hairs rfl (K.airs_park _ _)
  | unpark => exact hairs rfl (K.airs_unpark _)
  | halt => exact hairs rfl (K.airs_halt _ _)
  | cutScope fuel id reason => exact hdrops rfl (sustains_cutScope U (fun _ _ _ => trivial) _ _ _)
  | unarchiveScope fuel id reason =>
    exact hsilent rfl (K.lags_unarchiveScope fuel id reason h Set.subset_union_left
      fun walked hwalk k hk => Or.inr ⟨walked, hwalk, hk⟩)
  | deleteItem id => exact hsilent rfl (K.lags_deleteItem id h Set.Subset.rfl)
  | approveReview => exact hdrops rfl (sustains_approveReview U trivial _ _)
  | requestChanges => exact hairs rfl (K.airs_requestChanges _ _)
  | story near text => exact hkeeps (sustains_story U near text)
  | reportPullRequest => exact hdrops rfl (sustains_reportPullRequest U _ _)
  | notifyMainAdvanced =>
    exact hsilent rfl (K.lags_notifyMainAdvanced _ _ _ h Set.subset_union_left fun k hk => Or.inr hk)
  | dispatchRebase => exact hdrops rfl (sustains_dispatchRebase U _)
  | recordRebaseOutcome => exact hairs rfl (K.airs_recordRebaseOutcome _ _)
  | completeForMergedPr prUrl prNumber byWhom =>
    exact hdrops rfl (sustains_completeForMergedPr U trivial prUrl prNumber byWhom)
  | applyPrReviewFeedback prUrl prNumber reviewState byWhom =>
    have hhalfway : ∀ k, feedbackCardOfPr (normalizePrUrl prUrl) b.state = some k →
        ((applyPrReviewFeedback prUrl prNumber reviewState byWhom : Method Empty _).run b).1 =
          .ok none →
        k ∈ S ∪ Operation.quiet lost b
          (.applyPrReviewFeedback prUrl prNumber reviewState byWhom) :=
      fun k hfound hnone => Or.inr ⟨hfound, hnone⟩
    have hrun := K.lags_applyPrReviewFeedback prUrl prNumber reviewState byWhom h
      Set.subset_union_left hhalfway
    exact hsilent rfl hrun
  | flush => exact hkeeps (sustains_flush U)

/-- A run leaves no other cards without telling. -/
theorem after (ops : List Operation) (h : Lags I S b) :
    Lags I (S ∪ b.quietly lost ops) (b.after ops) := by
  induction ops generalizing S b with
  | nil => exact K.widen h Set.subset_union_left
  | cons op ops ih =>
    have hrest := ih (K.exec op h)
    rwa [Set.union_assoc] at hrest

end Heeds

end Sandboard

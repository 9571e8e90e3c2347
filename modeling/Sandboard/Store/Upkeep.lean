import Sandboard.Store.Materializing

/-!
# Upkeep of an invariant

What a method that is alone on a board does, block by block: a section that works on one card
is followed by the event of that card, and so are the insertion of a card, the storing of a
proposal and the writing of edges.  `Upkeep L I` has one rule for each kind of block; what the
blocks may write is up to a `Licence`.  An invariant with these rules is kept by every method
that emits what it changes.  `Hush` adds the rule of the blocks without an event.
-/

namespace Sandboard

open Std Text

/-! ## Kinds of blocks -/

/-- What a card says apart from its run. -/
structure Contract where
  id : ItemId
  parent : Option ItemId
  level : Option String
  title : String
  intent : String
  definitionOfDone : Option String
  capability : Option String
  state : State
  history : List Transition
  blockedBy : List ItemId

namespace WorkItem

/-- The contract of a card. -/
def contract (i : WorkItem) : Contract :=
  ⟨i.id, i.parent, i.level, i.title, i.intent, i.definitionOfDone, i.capability, i.state,
    i.history, i.blockedBy⟩

/-- The card says the same; its proposal and its legacy plan are kept or dropped. -/
structure SameTask (i j : WorkItem) : Prop where
  contract : j.contract = i.contract
  proposal : j.proposal = i.proposal ∨ j.proposal = none
  plan : i.plan = none → j.plan = none

lemma SameTask.refl (i : WorkItem) : SameTask i i := ⟨rfl, Or.inl rfl, fun h => h⟩

lemma SameTask.sameFrame {i j : WorkItem} (h : SameTask i j) : SameFrame i j where
  id := congrArg Contract.id h.contract
  parent := congrArg Contract.parent h.contract
  state := congrArg Contract.state h.contract
  history := congrArg Contract.history h.contract
  plan := h.plan

end WorkItem

/-- What the blocks of a method may write. -/
structure Licence where
  /-- A proposal may be stored. -/
  proposes : TaskProposal → Prop
  /-- Stored proposals may be materialized. -/
  approves : Prop
  /-- A card may be created with the definition of done. -/
  defines : Option String → Prop
  /-- The card `id`, which is the given one, may move to the state. -/
  moves : BoardState → ItemId → WorkItem → State → Prop
  /-- The card `id` may be blocked by the given ones. -/
  links : BoardState → ItemId → List ItemId → Prop
  /-- The card `id`, which is the given one, may be edited otherwise. -/
  rewrites : BoardState → ItemId → WorkItem → (WorkItem → WorkItem) → Prop

namespace BoardState

/-- The boards on which the methods are proved to keep an invariant. -/
structure Sound (s : BoardState) : Prop where
  wellFormed : s.WellFormed
  unplanned : s.Unplanned

lemma Sound.reshaped {s s' : BoardState} (h : s.Sound) (hr : Reshaped s s') : s'.Sound :=
  ⟨h.wellFormed.reshaped hr, h.unplanned.reshaped hr⟩

/-- One section works on the card `id`: it edits it and moves it. -/
inductive Worked (L : Licence) (id : ItemId) :
    BoardState → WorkItem → BoardState → WorkItem → Prop where
  | refl (s : BoardState) (c : WorkItem) : Worked L id s c s c
  | edit {s s' : BoardState} {c c' : WorkItem} (h : Worked L id s c s' c') {f : WorkItem → WorkItem}
      (hf : ∀ i, WorkItem.SameTask i (f i)) : Worked L id s c (s'.editItem id f) (f c')
  | move {s s' : BoardState} {c c' : WorkItem} (h : Worked L id s c s' c') (now : Time)
      {target : State} (byWhom : String) (reason : Option String)
      (hcheck : s'.checkMove id c' target = .ok ()) (hmove : L.moves s' id c' target) :
      Worked L id s c (s'.moveItem id c' now target byWhom reason)
        (c'.moved now target byWhom reason)

namespace Worked

variable {L : Licence} {id : ItemId} {s s' : BoardState} {c c' : WorkItem}

/-- The card is the one the section leaves. -/
lemma item (h : Worked L id s c s' c') (hc : s.items[id]? = some c) :
    s'.items[id]? = some c' := by
  induction h with
  | refl => exact hc
  | edit h hf ih => rw [items_editItem_self, ih hc, Option.map_some]
  | move h now byWhom reason hcheck hmove ih =>
    rw [items_moveItem, if_pos rfl, ih hc, Option.map_some]

lemma trans {s'' : BoardState} {c'' : WorkItem} (h : Worked L id s c s' c')
    (h' : Worked L id s' c' s'' c'') : Worked L id s c s'' c'' := by
  induction h' with
  | refl => exact h
  | edit h' hf ih => exact (ih h).edit hf
  | move h' now byWhom reason hcheck hmove ih => exact (ih h).move now byWhom reason hcheck hmove

/-- The other cards are left alone. -/
lemma others (h : Worked L id s c s' c') {k : ItemId} (hk : k ≠ id) :
    s'.items[k]? = s.items[k]? := by
  induction h with
  | refl => rfl
  | edit h hf ih => rw [items_editItem_of_ne hk, ih]
  | move h now byWhom reason hcheck hmove ih => rw [items_moveItem, if_neg hk, ih]

/-- Work on a card keeps its proposal or drops it. -/
lemma proposal (h : Worked L id s c s' c') {p : TaskProposal} (hp : c'.proposal = some p) :
    c.proposal = some p := by
  induction h with
  | refl => exact hp
  | edit h hf ih =>
    rcases (hf _).proposal with hsame | hdropped
    · exact ih (hsame.symm.trans hp)
    · rw [hdropped] at hp
      cases hp
  | move h now byWhom reason hcheck hmove ih => exact ih hp

/-- What a card says apart from its state and its history is kept. -/
lemma terms {α : Type} (h : Worked L id s c s' c') (g : Contract → α)
    (hg : ∀ (k : Contract) state history, g { k with state := state, history := history } = g k) :
    g c'.contract = g c.contract := by
  induction h with
  | refl => rfl
  | edit h hf ih => exact (congrArg g (hf _).contract).trans ih
  | move h now byWhom reason hcheck hmove ih => exact (hg _ _ _).trans ih

lemma parent (h : Worked L id s c s' c') : c'.parent = c.parent :=
  h.terms Contract.parent fun _ _ _ => rfl

/-- Working on one card is structural. -/
lemma reshaped (h : Worked L id s c s' c') (hc : s.items[id]? = some c) : Reshaped s s' := by
  induction h with
  | refl => exact .refl s
  | edit h hf ih => exact (ih hc).trans (.edit id fun i => (hf i).sameFrame)
  | move h now byWhom reason hcheck hmove ih =>
    exact (ih hc).trans (.single (.move now byWhom reason (h.item hc) hcheck))

end Worked

end BoardState

namespace Board

/-- The board after the default branch was announced to have advanced. -/
def advanced (b : Board) (refName : String) (commitSha : Option String) : Board :=
  let event := .mainAdvanced (b.seq + 1) refName commitSha
  { b with
    seq := b.seq + 1
    eventBuffer := pushBounded b.bufferCapacity b.eventBuffer event
    tx := b.tx ++ [event] }

/-- The board after a flush. -/
def flushed (b : Board) : Board :=
  if b.dirty then
    let saved := b.saveSucceeds b.saves
    { b with
      dirty := !saved
      rows := if saved then { b.state with childrenByParent := ∅, idsByState := ∅ } else b.rows
      saves := b.saves + 1 }
  else b

/-- The board after a section that left the state `s` and the event of a card it left. -/
def published (b : Board) (s : BoardState) (item : WorkItem) : Board :=
  (b.stepped s).emitted item

end Board

section Unicode

variable [UnicodeTables]

/-- The keys `keyToId` of the rows of `p` are those of a materialization under way on `s`. -/
structure Resolves (p : TaskProposal) (keyToId : List (String × ItemId)) (s : BoardState) :
    Prop where
  rows : ∃ fallback projectId byWhom origin id s₀ s₁ ids,
    Board.Planted fallback projectId byWhom origin (Board.existingByTitle projectId id s₀) s₀ p.tasks
      s₁ ids ∧ s₀.WellFormed ∧ keyToId = Board.rowKeys p.tasks ids
  present : ∀ e ∈ keyToId, ∃ i, s.items[e.2]? = some i

/-- The invariant is kept by every block that the licence covers, when the block is followed
by its event. -/
structure Upkeep (L : Licence) (I : Board → Prop) : Prop where
  tick : ∀ {b : Board}, I b → I (b.stepped b.state)
  told : ∀ {b : Board} (near : ItemId) (text : String), I b → I (b.told near text)
  advanced : ∀ {b : Board} (refName : String) (commitSha : Option String), I b →
    I (b.advanced refName commitSha)
  flushed : ∀ {b : Board}, I b → I b.flushed
  profiles : ∀ {b : Board} (ids : List String), I b →
    I { b.stepped { b.state with sandboxProfileIds := ids } with dirty := true }
  work : ∀ {b : Board} {id : ItemId} {c : WorkItem} {s' : BoardState} {c' : WorkItem},
    b.state.Sound → I b → b.state.items[id]? = some c →
      BoardState.Worked L id b.state c s' c' → I (b.published s' c')
  insert : ∀ {b : Board} {c : Board.NewCard}, b.state.Sound → I b →
    Board.checkParent b.state c.parent = .ok () → L.defines c.definitionOfDone →
      I (b.published (Board.insertNew b.schema (b.now 0) c b.state).2
        (Board.insertNew b.schema (b.now 0) c b.state).1)
  propose : ∀ {b : Board} {id : ItemId} {c : WorkItem} {p : TaskProposal},
    b.state.Sound → I b → b.state.items[id]? = some c → L.proposes p →
      I (b.published (b.state.editItem id (WorkItem.withProposal p)) (c.withProposal p))
  settle : ∀ {b : Board} {id : ItemId} {c : WorkItem} (keep : Bool)
    (keyToId : List (String × ItemId)),
    L.approves → b.state.Sound → I b → b.state.items[id]? = some c →
      I (b.published (b.state.editItem id (Board.settled keep keyToId))
        (Board.settled keep keyToId c))
  link : ∀ {b : Board} {id : ItemId} {c : WorkItem} {blockers : List ItemId},
    b.state.Sound → I b → b.state.items[id]? = some c → L.links b.state id blockers →
      I (b.published (b.state.editItem id (WorkItem.blockedOn blockers)) (c.blockedOn blockers))
  rewrite : ∀ {b : Board} {id : ItemId} {c : WorkItem} {f : WorkItem → WorkItem},
    b.state.Sound → I b → b.state.items[id]? = some c → L.rewrites b.state id c f →
      I (b.published (b.state.editItem id f) (f c))
  /-- Only licensed proposals are on the board. -/
  proposed : ∀ {b : Board} {k : ItemId} {c : WorkItem} {p : TaskProposal}, L.approves → I b →
    b.state.items[k]? = some c → c.proposal = some p → L.proposes p
  /-- What a materialization writes is licensed. -/
  resolved : ∀ {p : TaskProposal} {keyToId : List (String × ItemId)} {s : BoardState}
    {spec : PlanTaskSpec} {id : ItemId}, L.approves → L.proposes p → Resolves p keyToId s →
      spec ∈ p.tasks → L.links s id (Board.resolved keyToId spec)
  /-- The rows of a licensed proposal define their Tasks, and so do the methods themselves. -/
  rows : ∀ {p : TaskProposal} {spec : PlanTaskSpec}, L.proposes p → spec ∈ p.tasks →
    L.defines (some spec.definitionOfDone)
  defined : ∀ {dod : String}, dod ≠ "" → L.defines (some dod)
  undefined : L.defines none
  /-- The methods move cards to these states only, apart from the cut and the promotion. -/
  moves : ∀ {s : BoardState} {id : ItemId} {c : WorkItem} {target : State}, target ≠ .retired →
    target ≠ .running → L.moves s id c target
  promotes : ∀ {s : BoardState} {id : ItemId} {c : WorkItem}, c.state = .claimed →
    L.moves s id c .running

/-- The invariant is also kept by work without its event, and by any event on its own. -/
structure Hush (L : Licence) (I : Board → Prop) : Prop extends Upkeep L I where
  quiet : ∀ {b : Board} {id : ItemId} {c : WorkItem} {s' : BoardState} {c' : WorkItem},
    b.state.Sound → I b → b.state.items[id]? = some c →
      BoardState.Worked L id b.state c s' c' → I (b.stepped s')
  aired : ∀ {b : Board} (item : WorkItem), I b → I (b.emitted item)

end Unicode

/-- From a sound board, the method keeps the invariant.  A structure, so that unification does
not look into the method. -/
structure Sustains {ε α : Type} (I : Board → Prop) (m : Method ε α) : Prop where
  keeps : m.Keeps fun b => b.state.Sound ∧ I b

namespace Board

open BoardState

variable {ε ε' α β : Type} {I : Board → Prop} {L : Licence}

/-! ## Composed methods -/

lemma sustains_pure (a : α) : Sustains I (pure a : Method ε α) := ⟨.pure a⟩

lemma sustains_fail (e : ε) : Sustains I (Locked.fail e : Method ε α) := ⟨.fail e⟩

lemma sustains_ret (r : Except ε α) : Sustains I (Locked.ret r : Method ε α) := by
  cases r with
  | ok a => exact sustains_pure a
  | error e => exact sustains_fail e

lemma sustains_failIf (c : Prop) [Decidable c] (e : ε) :
    Sustains I (Locked.failIf c e : Method ε Unit) := by
  unfold Locked.failIf
  split
  · exact sustains_fail e
  · exact sustains_pure ()

lemma sustains_when {c : Prop} [Decidable c] {m : Method ε Unit} (hm : c → Sustains I m) :
    Sustains I (Locked.when c m) := by
  unfold Locked.when
  split
  · rename_i hc
    exact hm hc
  · exact sustains_pure ()

lemma sustains_onSome {o : Option β} {f : β → Method ε Unit} (hf : ∀ b, Sustains I (f b)) :
    Sustains I (Locked.onSome o f) := by
  cases o with
  | none => exact sustains_pure ()
  | some b => exact hf b

lemma sustains_bind {m : Method ε α} {k : α → Method ε β} (hm : Sustains I m)
    (hk : ∀ a, Sustains I (k a)) : Sustains I (m >>= k) :=
  ⟨.bind hm.keeps fun a => (hk a).keeps⟩

lemma sustains_attempt {m : Method ε α} (hm : Sustains I m) :
    Sustains I (m.attempt : Method ε' _) :=
  ⟨.attempt hm.keeps⟩

lemma sustains_mapErr {f : ε → ε'} {m : Method ε α} (hm : Sustains I m) :
    Sustains I (m.mapErr f) :=
  ⟨.mapErr hm.keeps⟩

lemma sustains_forM {xs : List β} {f : β → Method ε Unit} (hf : ∀ x, Sustains I (f x)) :
    Sustains I (xs.forM f) :=
  ⟨.forM fun x _ => (hf x).keeps⟩

lemma sustains_foldlM {xs : List β} {f : α → β → Method ε α}
    (hf : ∀ a, ∀ x ∈ xs, Sustains I (f a x)) (a : α) : Sustains I (xs.foldlM f a) :=
  ⟨.foldlM (fun a x hx => (hf a x hx).keeps) a⟩

lemma sustains_silent {m : Method ε α} (hm : Sustains I m) : Sustains I (Operation.silent m) :=
  sustains_bind (sustains_attempt hm) fun _ => sustains_pure ()

/-- A method is judged by the board it leaves. -/
lemma sustains_of_run {m : Method ε α}
    (hm : ∀ b : Board, b.state.Sound → I b → (m.run b).2.state.Sound ∧ I (m.run b).2) :
    Sustains I m :=
  ⟨.of_run fun b hb => hm b hb.1 hb.2⟩

/-- A method whose sections are structural only has the invariant to keep. -/
lemma sustains_of_structural {m : Method ε α} (hstruct : Structural m)
    (hm : ∀ b : Board, b.state.Sound → I b → I (m.run b).2) : Sustains I m :=
  sustains_of_run fun b hs hb =>
    ⟨hs.reshaped (hstruct.run_state Reshaped.refl (fun _ _ _ => Reshaped.trans) b), hm b hs hb⟩

/-! ## Building blocks -/

lemma sustains_read (f : BoardState → α) : Sustains I (read f : Method ε α) :=
  sustains_of_run fun _ hs hb => ⟨hs, hb⟩

lemma sustains_readSchema : Sustains I (readSchema : Method ε Schema) :=
  sustains_of_run fun _ hs hb => ⟨hs, hb⟩

lemma sustains_get (id : ItemId) : Sustains I (get id : Method ε _) := sustains_read _

lemma sustains_childrenOf (id : ItemId) : Sustains I (childrenOf id : Method ε _) :=
  sustains_read _

lemma sustains_getOr (id : ItemId) (e : ε) : Sustains I (getOr id e) := by
  refine sustains_bind (sustains_get id) fun item => ?_
  cases item with
  | some item => exact sustains_pure item
  | none => exact sustains_fail e

lemma sustains_readOr (id : ItemId) (e : ε) : Sustains I (readOr id e) := by
  refine sustains_bind (sustains_read _) fun item => ?_
  cases item with
  | some item => exact sustains_pure item
  | none => exact sustains_fail e

/-- A section on the state `s` with the result `r` worked on one card and returned it, or
refused. -/
def WorksAt (L : Licence) (s : BoardState) (r : Except ε WorkItem × BoardState) : Prop :=
  (∃ e, r = (.error e, s)) ∨
    ∃ id c s' c', s.items[id]? = some c ∧ Worked L id s c s' c' ∧
      (r = (.ok c', s') ∨ ∃ t : BoardState, r = (.ok (t.populateBlockers c'), s'))

/-- The section works on one card and returns it, or refuses. -/
def Works (L : Licence) (f : (ℕ → Time) → BoardState → Except ε WorkItem × BoardState) : Prop :=
  ∀ now s, s.Sound → WorksAt L s (f now s)

lemma worksAt_error (s : BoardState) (e : ε) : WorksAt L s (.error e, s) := Or.inl ⟨e, rfl⟩

lemma run_editIf_none {id : ItemId} {b : Board} (hc : b.state.items[id]? = none)
    (wanted : WorkItem → Bool) (f : WorkItem → WorkItem) :
    (editIf id wanted f : Method ε Unit).run b = (.ok (), b.stepped b.state) := by
  simp [editIf, hc]

lemma run_editIf_declined {id : ItemId} {b : Board} {c : WorkItem} {wanted : WorkItem → Bool}
    (hc : b.state.items[id]? = some c) (hwanted : wanted c = false) (f : WorkItem → WorkItem) :
    (editIf id wanted f : Method ε Unit).run b = (.ok (), b.stepped b.state) := by
  simp [editIf, hc, hwanted]

lemma run_editIf_wanted {id : ItemId} {b : Board} {c : WorkItem} {wanted : WorkItem → Bool}
    (hc : b.state.items[id]? = some c) (hwanted : wanted c = true) (f : WorkItem → WorkItem) :
    (editIf id wanted f : Method ε Unit).run b =
      (.ok (), b.published (b.state.editItem id f) (f c)) := by
  simp [editIf, hc, hwanted, published]

section Upkeep

variable [UnicodeTables] (U : Upkeep L I)

include U

lemma sustains_utcNow : Sustains I (utcNow : Method ε Time) :=
  sustains_of_run fun _ hs hb => ⟨hs, U.tick hb⟩

lemma sustains_story (near : ItemId) (text : String) :
    Sustains I (story near text : Method ε Unit) :=
  sustains_of_structural (structural_story near text) fun _ _ hb => U.told near text hb

/-- A section that works on one card, and the event of the card. -/
lemma keeps_write_emit {f : (ℕ → Time) → BoardState → Except ε WorkItem × BoardState}
    {k : WorkItem → Method ε β} (hk : ∀ item, Sustains I (k item)) {b : Board}
    (hf : WorksAt L b.state (f b.now b.state)) (hs : b.state.Sound) (hI : I b) :
    let b' := ((do
      let item ← write f
      emit item
      k item).run b).2
    b'.state.Sound ∧ I b' := by
  dsimp only
  rcases hf with ⟨e, hrun⟩ | ⟨id, c, s', c', hc, hworked, hrun⟩
  · have herror : (write f).run b = (.error e, b.stepped b.state) := by rw [run_write, hrun]
    rw [Locked.run_bind_error herror]
    exact ⟨hs, U.tick hI⟩
  · have hs' : s'.Sound := hs.reshaped (hworked.reshaped hc)
    have hI' : I (b.published s' c') := U.work hs hI hc hworked
    rcases hrun with hrun | ⟨t, hrun⟩
    · have hok : (write f).run b = (.ok c', b.stepped s') := by rw [run_write, hrun]
      rw [Locked.run_bind_ok hok, Locked.run_bind_ok (run_emit _ _)]
      exact (hk c').keeps.run ⟨hs', hI'⟩
    · have hok : (write f).run b = (.ok (t.populateBlockers c'), b.stepped s') := by
        rw [run_write, hrun]
      rw [Locked.run_bind_ok hok, Locked.run_bind_ok (run_emit _ _)]
      exact (hk _).keeps.run ⟨hs', hI'⟩

lemma sustains_write_emit {f : (ℕ → Time) → BoardState → Except ε WorkItem × BoardState}
    (hf : Works L f) {k : WorkItem → Method ε β} (hk : ∀ item, Sustains I (k item)) :
    Sustains I (do
      let item ← write f
      emit item
      k item) :=
  sustains_of_run fun b hs hI => keeps_write_emit U hk (hf b.now b.state hs) hs hI

/-- A section that may decline, and the event of the card if it does not. -/
lemma sustains_editIf {id : ItemId} {wanted : WorkItem → Bool} {f : WorkItem → WorkItem}
    (hf : ∀ b c, b.state.Sound → I b → b.state.items[id]? = some c →
      (b.state.editItem id f).Sound ∧ I (b.published (b.state.editItem id f) (f c))) :
    Sustains I (editIf id wanted f : Method ε Unit) := by
  refine sustains_of_run fun b hs hb => ?_
  cases hc : b.state.items[id]? with
  | none =>
    rw [run_editIf_none hc]
    exact ⟨hs, U.tick hb⟩
  | some c =>
    cases hwanted : wanted c with
    | false =>
      rw [run_editIf_declined hc hwanted]
      exact ⟨hs, U.tick hb⟩
    | true =>
      rw [run_editIf_wanted hc hwanted]
      exact hf b c hs hb hc

/-- An edit that leaves the contract of the card alone. -/
lemma sustains_editIf_task {id : ItemId} {wanted : WorkItem → Bool} {f : WorkItem → WorkItem}
    (hf : ∀ i, WorkItem.SameTask i (f i)) : Sustains I (editIf id wanted f : Method ε Unit) :=
  sustains_editIf U fun _ _ hs hb hc =>
    ⟨hs.reshaped (.edit id fun i => (hf i).sameFrame), U.work hs hb hc (.edit (.refl _ _) hf)⟩

omit U [UnicodeTables] in
lemma worksAt_tryEdit {id : ItemId} {e : ε} {f : WorkItem → WorkItem} (s : BoardState)
    (hf : ∀ i, WorkItem.SameTask i (f i)) : WorksAt L s (s.tryEdit id e f) := by
  cases hc : s.items[id]? with
  | none =>
    rw [tryEdit_none hc]
    exact worksAt_error s e
  | some c =>
    rw [tryEdit_some hc]
    exact Or.inr ⟨id, c, s.editItem id f, f c, hc, .edit (.refl _ _) hf, Or.inl rfl⟩

lemma sustains_editOr {id : ItemId} {e : ε} {f : Time → WorkItem → WorkItem}
    (hf : ∀ now i, WorkItem.SameTask i (f now i)) : Sustains I (editOr id e f) :=
  sustains_write_emit U (fun now s _ => worksAt_tryEdit s (hf (now 0))) sustains_pure

/-! ## Transitions -/

omit U [UnicodeTables] in
lemma worksAt_tryMove {id : ItemId} {target : State} {byWhom : String} {reason : Option String}
    {s : BoardState} (now : Time)
    (hmove : ∀ c, s.items[id]? = some c → s.checkMove id c target = .ok () →
      L.moves s id c target) : WorksAt L s (s.tryMove now id target byWhom reason) := by
  cases hc : s.items[id]? with
  | none =>
    rw [tryMove_missing hc]
    exact worksAt_error s _
  | some c =>
    by_cases hcheck : s.checkMove id c target = .ok ()
    · rw [tryMove_allowed hc hcheck]
      exact Or.inr ⟨id, c, _, _, hc, .move (.refl _ _) now byWhom reason hcheck
        (hmove c hc hcheck), Or.inr ⟨_, rfl⟩⟩
    · obtain ⟨e, hrefused⟩ := tryMove_refused hc hcheck now byWhom reason
      rw [hrefused]
      exact worksAt_error s e

lemma sustains_announceUnblocked (id : ItemId) :
    Sustains I (announceUnblocked id : Method ε Unit) := by
  refine sustains_bind (sustains_read _) fun unblocked => ?_
  split
  · exact sustains_pure ()
  · exact sustains_story U _ _
  · exact sustains_story U _ _

/-- A transition is one move, and on Done what the hook does. -/
lemma keeps_transitionWith {onDone : ItemId → String → Method String ℕ} {id : ItemId}
    {target : State} {byWhom : String} {reason : Option String} {b : Board}
    (hmove : ∀ c, b.state.items[id]? = some c → b.state.checkMove id c target = .ok () →
      L.moves b.state id c target)
    (hdone : target = .done → Sustains I (onDone id byWhom)) (hs : b.state.Sound) (hI : I b) :
    let b' := ((transitionWith onDone id target byWhom reason).run b).2
    b'.state.Sound ∧ I b' :=
  keeps_write_emit U (fun _ =>
    sustains_bind (sustains_when fun htarget =>
      sustains_bind (sustains_attempt (hdone htarget)) fun _ =>
        sustains_announceUnblocked U id) fun _ =>
      sustains_bind (sustains_get id) fun _ => sustains_pure _) (worksAt_tryMove _ hmove) hs hI

lemma sustains_transitionWith {onDone : ItemId → String → Method String ℕ} {id : ItemId}
    {target : State} {byWhom : String} {reason : Option String}
    (hmove : ∀ s c, s.Sound → s.items[id]? = some c → s.checkMove id c target = .ok () →
      L.moves s id c target)
    (hdone : target = .done → Sustains I (onDone id byWhom)) :
    Sustains I (transitionWith onDone id target byWhom reason) :=
  sustains_of_run fun _ hs hI =>
    keeps_transitionWith U (fun c => hmove _ c hs) hdone hs hI

/-- A move to a usual state. -/
lemma sustains_transitionOn (id : ItemId) {target : State} (hretired : target ≠ .retired)
    (hrunning : target ≠ .running) (byWhom : String) (reason : Option String) :
    Sustains I (transitionOn id target byWhom reason) :=
  sustains_transitionWith U (fun _ _ _ _ _ => U.moves hretired hrunning) fun _ => sustains_pure 0

/-! ## Creating cards -/

/-- A new card, whatever its seeding does. -/
lemma sustains_createWith {seed : ItemId → Method String WorkItem}
    (hseed : ∀ id, Sustains I (seed id)) {c : NewCard} (hdod : L.defines c.definitionOfDone) :
    Sustains I (createWith seed c) := by
  refine ⟨fun b hb => ?_⟩
  obtain ⟨hs, hI⟩ := hb
  unfold createWith
  rw [Locked.run_bind_ok (run_read _ b)]
  cases hcheck : checkParent b.state c.parent with
  | error e => exact ⟨hs, hI⟩
  | ok u =>
    rw [Locked.run_bind_ok (run_ret _ b), Locked.run_bind_ok (run_readSchema b),
      Locked.run_bind_ok (run_write _ b), Locked.run_bind_ok (run_emit _ _)]
    have hnew := U.insert hs hI hcheck hdod
    have hs' : (insertNew b.schema (b.now 0) c b.state).2.Sound :=
      hs.reshaped (.insertNew b.schema (b.now 0) c b.state)
    refine (sustains_bind (sustains_when fun _ =>
      sustains_bind (sustains_attempt (hseed _)) fun _ => sustains_pure ()) fun _ =>
        sustains_bind (sustains_get _) fun _ => sustains_pure _).keeps _ ⟨hs', hnew⟩

lemma sustains_createUnder {c : NewCard} (hdod : L.defines c.definitionOfDone) :
    Sustains I (createUnder c) :=
  sustains_createWith U (fun _ => sustains_fail _) hdod

end Upkeep

end Board

end Sandboard

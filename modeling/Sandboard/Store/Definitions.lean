import Sandboard.Store.Claiming
import Sandboard.Store.Pending

/-!
# Definitions of done

The check of a transition asks a leaf for a definition of done on its way into Backlog.  The
definition stays where no edit blanks it, no Task is promoted without one, and no container
that lacks one loses its last live child.  So every leaf Task that waits for a run or is in one
has a definition of done, and a claim hands it out.
-/

namespace Sandboard

open Std Text BoardState

namespace BoardState

variable {s s' : BoardState} {id k : ItemId} {c : WorkItem}

/-- Every child of the card is Retired. -/
def IsLeaf (s : BoardState) (k : ItemId) : Prop :=
  ∀ (j : ItemId) (child : WorkItem), s.items[j]? = some child → child.parent = some k →
    child.state = .retired

/-- A Task that waits for a run or is in one, without a definition of done. -/
structure Lacks (i : WorkItem) : Prop where
  ready : i.state = .backlog ∨ i.state = .claimed ∨ i.state = .running
  task : i.level ≠ some "Project"
  undefined : i.definitionOfDone = none

/-- A leaf Task that waits for a run or is in one. -/
structure Ready (s : BoardState) (id : ItemId) (c : WorkItem) : Prop where
  item : s.items[id]? = some c
  leaf : s.IsLeaf id
  task : c.level ≠ some "Project"
  state : c.state = .backlog ∨ c.state = .claimed ∨ c.state = .running

/-- The card `c` is not the last live child of a container that lacks a definition of done. -/
def SparesParent (s : BoardState) (id : ItemId) (c : WorkItem) : Prop :=
  ∀ (p : ItemId) (P : WorkItem), c.parent = some p → s.items[p]? = some P → Lacks P →
    ∃ (k : ItemId) (i : WorkItem), k ≠ id ∧ s.items[k]? = some i ∧ i.parent = some p ∧
      i.state ≠ .retired

/-- Leaf Tasks that wait for a run or are in one have a definition of done, and no text is an
empty one. -/
structure WellDefined (s : BoardState) : Prop where
  nested : s.Nested
  filled : ∀ (k : ItemId) (i : WorkItem), s.items[k]? = some i → i.definitionOfDone ≠ some ""
  proposals : s.Proposals fun p => Board.checkProposal p = .ok ()
  leaves : ∀ (k : ItemId) (i : WorkItem), s.items[k]? = some i → Lacks i → ¬s.IsLeaf k

end BoardState

/-- What may be written without taking a definition of done away. -/
def Licence.defining : Licence where
  proposes p := Board.checkProposal p = .ok ()
  approves := True
  defines dod := dod ≠ some ""
  moves s id c target :=
    (target = .running → c.state = .needsHuman → c.level ≠ some "Project" → s.IsLeaf id →
      c.definitionOfDone ≠ none) ∧
    (target = .retired → s.SparesParent id c)
  links _ _ _ := True
  rewrites s id c f := (∃ title intent definitionOfDone engine projectPrompt,
      f = Board.updated title intent definitionOfDone engine projectPrompt) ∧
    (Lacks (f c) → ¬s.IsLeaf id)

/-! ## Proposals -/

namespace Board

/-- A check of every entry passes when it passes on each of them. -/
lemma forM_eq_ok_iff {ε α : Type} {check : α → Except ε Unit} {xs : List α} :
    xs.forM check = .ok () ↔ ∀ x ∈ xs, check x = .ok () := by
  induction xs with
  | nil => exact ⟨fun _ _ h => absurd h List.not_mem_nil, fun _ => rfl⟩
  | cons x xs ih =>
    rw [List.forall_mem_cons, ← ih]
    change (check x >>= fun _ => xs.forM check) = .ok () ↔ _
    cases check x with
    | error e => simp [bind, Except.bind]
    | ok u => simp [bind, Except.bind]

/-- A stored proposal has rows, and every row has a key and a definition of done. -/
lemma checkProposal_ok_iff {p : TaskProposal} :
    checkProposal p = .ok () ↔ p.tasks ≠ [] ∧
      ∀ t ∈ p.tasks, isBlank t.key = false ∧ isBlank t.definitionOfDone = false := by
  unfold checkProposal
  cases htasks : p.tasks with
  | nil => simp [throw, throwThe, MonadExceptOf.throw, bind, Except.bind]
  | cons t rows =>
    refine Iff.trans forM_eq_ok_iff ?_
    rw [and_iff_right (List.cons_ne_nil t rows)]
    refine forall₂_congr fun t _ => ?_
    cases isBlank t.key <;> cases isBlank t.definitionOfDone <;> simp

/-- Stamping ids into the rows keeps their keys and definitions. -/
lemma checkProposal_stampItemIds {p : TaskProposal} (keyToId : List (String × ItemId))
    (h : checkProposal p = .ok ()) : checkProposal (stampItemIds keyToId p) = .ok () := by
  rw [checkProposal_ok_iff] at h ⊢
  refine ⟨by simpa [stampItemIds] using h.1, fun t ht => ?_⟩
  obtain ⟨t', ht', rfl⟩ := List.mem_map.1 ht
  have hrow := h.2 t' ht'
  split
  · exact hrow
  · exact hrow

lemma ne_empty_of_not_isBlank {text : String} (h : isBlank text = false) : text ≠ "" := by
  rintro rfl
  exact absurd h (by decide)

end Board

namespace BoardState

variable {s s' : BoardState} {id k : ItemId} {c : WorkItem}

/-! ## What a definition depends on -/

/-- The part of a card that decides whether it lacks a definition of done. -/
def outline (i : WorkItem) : Option ItemId × Option String × State × Option String :=
  (i.parent, i.level, i.state, i.definitionOfDone)

/-- The cards have the same outlines. -/
def SameOutlines (s s' : BoardState) : Prop :=
  ∀ k : ItemId, s'.items[k]?.map outline = s.items[k]?.map outline

namespace SameOutlines

lemma symm (h : SameOutlines s s') : SameOutlines s' s := fun k => (h k).symm

/-- A card has a counterpart with its outline. -/
lemma item (h : SameOutlines s s') {i : WorkItem} (hi : s'.items[k]? = some i) :
    ∃ j : WorkItem, s.items[k]? = some j ∧ i.parent = j.parent ∧ i.level = j.level ∧
      i.state = j.state ∧ i.definitionOfDone = j.definitionOfDone := by
  have hk := h k
  rw [hi, Option.map_some] at hk
  obtain ⟨j, hj, hout⟩ := Option.map_eq_some_iff.1 hk.symm
  simp only [outline, Prod.mk.injEq] at hout
  exact ⟨j, hj, hout.1.symm, hout.2.1.symm, hout.2.2.1.symm, hout.2.2.2.symm⟩

lemma isLeaf (h : SameOutlines s s') (hleaf : s'.IsLeaf k) : s.IsLeaf k := by
  intro j child hchild hparent
  obtain ⟨i, hi, hp, -, hstate, -⟩ := h.symm.item hchild
  rw [hstate]
  exact hleaf j i hi (hp ▸ hparent)

lemma place (h : SameOutlines s s') : s'.place = s.place := by
  funext k
  have hk := congrArg (Option.map fun o => (o.1, o.2.1)) (h k)
  rw [Option.map_map, Option.map_map] at hk
  exact hk

lemma edit {f : WorkItem → WorkItem} (hf : ∀ i, outline (f i) = outline i) (id : ItemId) :
    SameOutlines s (s.editItem id f) := by
  intro k
  rw [items_editItem]
  split
  · rw [Option.map_map]
    exact congrArg (fun g => s.items[k]?.map g) (funext hf)
  · rfl

end SameOutlines

namespace WellDefined

/-- Only the outlines and the proposals matter. -/
lemma of_outlines (h : s.WellDefined) (hsame : SameOutlines s s')
    (hproposals : s'.Proposals fun p => Board.checkProposal p = .ok ()) : s'.WellDefined where
  nested := h.nested.of_place hsame.place
  filled k i hi := by
    obtain ⟨j, hj, -, -, -, hdod⟩ := hsame.item hi
    rw [hdod]
    exact h.filled k j hj
  proposals := hproposals
  leaves k i hi hlacks hleaf := by
    obtain ⟨j, hj, -, hlevel, hstate, hdod⟩ := hsame.item hi
    exact h.leaves k j hj ⟨hstate ▸ hlacks.ready, hlevel ▸ hlacks.task, hdod ▸ hlacks.undefined⟩
      (hsame.isLeaf hleaf)

/-- A leaf Task that needs its definition of done has one. -/
lemma ready (h : s.WellDefined) (hc : s.Ready id c) :
    ∃ d, c.definitionOfDone = some d ∧ d ≠ "" := by
  cases hdod : c.definitionOfDone with
  | none => exact absurd hc.leaf (h.leaves id c hc.item ⟨hc.state, hc.task, hdod⟩)
  | some d => exact ⟨d, rfl, fun hd => h.filled id c hc.item (by rw [hdod, hd])⟩

/-- An edit outside the outline. -/
lemma edit (h : s.WellDefined) {f : WorkItem → WorkItem} (id : ItemId)
    (hf : ∀ i, outline (f i) = outline i)
    (hproposals : (s.editItem id f).Proposals fun p => Board.checkProposal p = .ok ()) :
    (s.editItem id f).WellDefined :=
  h.of_outlines (.edit hf id) hproposals

/-- A licensed move: a leaf gets to Backlog with a definition of done only. -/
lemma move (h : s.WellDefined) (hs : s.WellFormed) (hc : s.items[id]? = some c) (now : Time)
    {target : State} (byWhom : String) (reason : Option String)
    (hcheck : s.checkMove id c target = .ok ()) (hmove : Licence.defining.moves s id c target) :
    (s.moveItem id c now target byWhom reason).WellDefined := by
  have hitems : ∀ k : ItemId, (s.moveItem id c now target byWhom reason).items[k]? =
      if k = id then some (c.moved now target byWhom reason) else s.items[k]? := by
    intro k
    rw [items_moveItem]
    split
    · rename_i hk
      rw [hk, hc, Option.map_some]
    · rfl
  have hself : ¬s.IsChild id id := by
    rintro ⟨i, hi, hp⟩
    exact h.nested.not_isChild hi (by rw [hp]; rfl) id ⟨i, hi, hp⟩
  -- The card itself is no child of its own, so it stays a leaf or a container.
  have hleaf : (s.moveItem id c now target byWhom reason).IsLeaf id → s.IsLeaf id := by
    intro hleaf j child hchild hparent
    have hj : j ≠ id := by
      rintro rfl
      exact hself ⟨child, hchild, hparent⟩
    exact hleaf j child (by rw [hitems, if_neg hj, hchild]) hparent
  constructor
  · exact h.nested.of_place (place_editItem fun _ => ⟨rfl, rfl⟩)
  · intro k i hi
    rw [hitems] at hi
    split at hi
    · cases hi
      exact h.filled id c hc
    · exact h.filled k i hi
  · exact h.proposals.edit_of_same id fun _ => rfl
  · intro k i hi hlacks hk
    rw [hitems] at hi
    split at hi
    · rename_i hkid
      subst hkid
      cases hi
      have hundefined : c.definitionOfDone = none := hlacks.undefined
      rcases hlacks.ready with htarget | htarget | htarget
      · have htarget : target = .backlog := htarget
        subst htarget
        rcases (checkMove_backlog_iff.1 hcheck).2 with hchildren | hdod
        · rw [hs.hasChildren_eq_false_iff.2 (hleaf hk)] at hchildren
          cases hchildren
        · rw [hundefined] at hdod
          cases hdod
      · have htarget : target = .claimed := htarget
        subst htarget
        exact h.leaves k c hc ⟨Or.inl (check_claimed_iff.1 hcheck).1, hlacks.task, hundefined⟩
          (hleaf hk)
      · have htarget : target = .running := htarget
        subst htarget
        have hedge := allowed_of_check hcheck
        by_cases hasked : c.state = .needsHuman
        · exact hmove.1 rfl hasked hlacks.task (hleaf hk) hundefined
        · refine h.leaves k c hc ⟨?_, hlacks.task, hundefined⟩ (hleaf hk)
          cases hstate : c.state <;> simp_all [allowed]
    · rename_i hkid
      -- Another card may lose its last live child.
      by_cases hlost : target = .retired ∧ c.parent = some k
      · obtain ⟨htarget, hparent⟩ := hlost
        obtain ⟨j, child, hj, hchild, hp, hlive⟩ := hmove.2 htarget k i hparent hi hlacks
        exact hlive (hk j child (by rw [hitems, if_neg hj, hchild]) hp)
      · refine h.leaves k i hi hlacks fun j child hchild hp => ?_
        by_cases hj : j = id
        · subst hj
          rw [hc, Option.some.injEq] at hchild
          subst hchild
          have hretired : target = .retired :=
            hk j (c.moved now target byWhom reason) (by rw [hitems, if_pos rfl]) hp
          exact absurd ⟨hretired, hp⟩ hlost
        · exact hk j child (by rw [hitems, if_neg hj, hchild]) hp

lemma work (h : s.WellDefined) (hs : s.Sound) (hc : s.items[id]? = some c) {c' : WorkItem}
    (hworked : Worked Licence.defining id s c s' c') : s'.WellDefined := by
  induction hworked with
  | refl => exact h
  | edit hworked hf ih =>
    refine (ih hc).edit id (fun i => ?_) (h.proposals.work (.edit hworked hf))
    simp only [outline, Prod.mk.injEq]
    exact ⟨congrArg Contract.parent (hf i).contract, congrArg Contract.level (hf i).contract,
      congrArg Contract.state (hf i).contract, congrArg Contract.definitionOfDone (hf i).contract⟩
  | move hworked now byWhom reason hcheck hmove ih =>
    exact (ih hc).move (hs.reshaped (hworked.reshaped hc)).wellFormed (hworked.item hc) now byWhom
      reason hcheck hmove

/-- A new card is a Draft. -/
lemma insert (h : s.WellDefined) (hs : s.WellFormed) {n : Board.NewCard} (schema : Schema)
    (now : Time) (hparent : Board.checkParent s n.parent = .ok ())
    (hdod : n.definitionOfDone ≠ some "") : (Board.insertNew schema now n s).2.WellDefined := by
  constructor
  · exact h.nested.insert hs schema now hparent
  · intro k i hi
    rw [items_insertNew_ite] at hi
    split at hi
    · cases hi
      exact hdod
    · exact h.filled k i hi
  · exact h.proposals.insert schema now n
  · intro k i hi hlacks hk
    rw [items_insertNew_ite] at hi
    split at hi
    · cases hi
      rcases hlacks.ready with hstate | hstate | hstate <;> cases hstate
    · refine h.leaves k i hi hlacks fun j child hchild hp => hk j child ?_ hp
      rw [items_insertNew_ite, if_neg (hs.fresh j child hchild).ne, hchild]

/-- An update of a card that takes no definition of done from a Task that needs it. -/
lemma rewrite (h : s.WellDefined) (hc : s.items[id]? = some c) {f : WorkItem → WorkItem}
    (hf : Licence.defining.rewrites s id c f) : (s.editItem id f).WellDefined := by
  obtain ⟨⟨title, intent, dod, engine, projectPrompt, rfl⟩, hspares⟩ := hf
  let f := Board.updated title intent dod engine projectPrompt
  have hitems : ∀ k : ItemId, (s.editItem id f).items[k]? =
      if k = id then some (f c) else s.items[k]? := by
    intro k
    rw [items_editItem]
    split
    · rename_i hk
      rw [hk, hc, Option.map_some]
    · rfl
  -- The update keeps the place and the state of every card.
  have hleaf : ∀ k, (s.editItem id f).IsLeaf k → s.IsLeaf k := by
    intro k hk j child hchild hp
    by_cases hj : j = id
    · subst hj
      rw [hc, Option.some.injEq] at hchild
      subst hchild
      exact hk j (f c) (by rw [hitems, if_pos rfl]) hp
    · exact hk j child (by rw [hitems, if_neg hj, hchild]) hp
  constructor
  · exact h.nested.of_place (place_editItem fun _ => ⟨rfl, rfl⟩)
  · intro k i hi
    rw [hitems] at hi
    split at hi
    · cases hi
      change Board.updateOption c.definitionOfDone dod ≠ some ""
      unfold Board.updateOption
      cases dod with
      | none => exact h.filled id c hc
      | some t =>
        dsimp only
        split
        · exact nofun
        · rename_i hblank
          exact fun heq => Board.ne_empty_of_not_isBlank (by simpa using hblank)
            (Option.some.inj heq)
    · exact h.filled k i hi
  · exact h.proposals.edit_of_same id fun _ => rfl
  · intro k i hi hlacks hk
    rw [hitems] at hi
    split at hi
    · rename_i hkid
      subst hkid
      cases hi
      exact hspares hlacks (hleaf k hk)
    · exact h.leaves k i hi hlacks (hleaf k hk)

/-- A deletion that leaves no container without its last live child. -/
lemma delete (h : s.WellDefined) (hs : s.WellFormed)
    (hspares : ∀ c, s.items[id]? = some c → s.SparesParent id c) :
    (Board.deleteSection id s).2.WellDefined := by
  cases hc : s.items[id]? with
  | none =>
    have hsame : (Board.deleteSection id s).2 = s := by simp [Board.deleteSection, hc]
    rw [hsame]
    exact h
  | some c =>
    obtain ⟨gone, hgone, -, hitems⟩ := items_deleteSection hs h.nested hc
    have hold : ∀ {k : ItemId} {i : WorkItem}, (Board.deleteSection id s).2.items[k]? = some i →
        ¬gone k = true ∧ ∃ j, s.items[k]? = some j ∧ i = WorkItem.unblocked gone j := by
      intro k i hi
      rw [hitems] at hi
      split at hi
      · cases hi
      · rename_i hk
        obtain ⟨j, hj, hij⟩ := Option.map_eq_some_iff.1 hi
        exact ⟨hk, j, hj, hij.symm⟩
    constructor
    · exact h.nested.delete hs id
    · intro k i hi
      obtain ⟨-, j, hj, rfl⟩ := hold hi
      exact h.filled k j hj
    · exact h.proposals.delete hs h.nested id
    · intro k i hi hlacks hk
      obtain ⟨hkept, j, hj, rfl⟩ := hold hi
      have hlacks' : Lacks j := ⟨hlacks.ready, hlacks.task, hlacks.undefined⟩
      refine h.leaves k j hj hlacks' fun l child hchild hp => ?_
      by_cases hl : gone l = true
      · -- A deleted child of a kept card is the card that was deleted.
        rcases (hgone l).1 hl with rfl | ⟨child', hchild', hp'⟩
        · obtain ⟨l', sibling, hne, hsibling, hp', hlive⟩ := hspares child hchild k j hp hj hlacks'
          have hkept' : ¬gone l' = true := by
            rw [hgone]
            rintro (rfl | ⟨sibling', hsibling', hp''⟩)
            · exact hne rfl
            · rw [hsibling, Option.some.injEq] at hsibling'
              rw [← hsibling', hp', Option.some.injEq] at hp''
              exact hkept ((hgone k).2 (Or.inl hp''))
          refine absurd (hk l' (WorkItem.unblocked gone sibling) ?_ hp') hlive
          rw [hitems, if_neg hkept', hsibling, Option.map_some]
        · rw [hchild, Option.some.injEq] at hchild'
          rw [← hchild', hp, Option.some.injEq] at hp'
          exact absurd ((hgone k).2 (Or.inl hp')) hkept
      · refine hk l (WorkItem.unblocked gone child) ?_ hp
        rw [hitems, if_neg hl, hchild, Option.map_some]

end WellDefined

end BoardState

section Unicode

variable [UnicodeTables]

lemma lasting_wellDefined : Lasting Licence.defining WellDefined where
  aside {s s'} hitems _ _ _ h :=
    h.of_outlines (fun k => by rw [hitems]) (h.proposals.of_items hitems)
  work hs h hc hworked := h.work hs hc hworked
  insert schema now hs h hparent hdod := h.insert hs.wellFormed schema now hparent hdod
  propose _ h _ hp := h.edit _ (fun _ => rfl) (h.proposals.propose _ hp)
  settle keep keyToId _ _ h _ := h.edit _ (fun _ => rfl)
    (h.proposals.settle _ (fun keyToId _ hp => Board.checkProposal_stampItemIds keyToId hp) keep
      keyToId)
  link _ h _ _ := h.edit _ (fun _ => rfl) (h.proposals.edit_of_same _ fun _ => rfl)
  rewrite _ h hc hf := h.rewrite hc hf
  proposed _ h hc hp := h.proposals _ _ _ hc hp
  resolved _ _ _ _ := trivial
  rows hp hspec h := Board.ne_empty_of_not_isBlank ((Board.checkProposal_ok_iff.1 hp).2 _ hspec).2
    (Option.some.inj h)
  defined hdod h := hdod (Option.some.inj h)
  undefined := nofun
  moves hretired hrunning := ⟨fun h => absurd h hrunning, fun h => absurd h hretired⟩
  promotes hclaimed := ⟨fun _ h => absurd (hclaimed.symm.trans h) (by decide),
    fun h => absurd h (by decide)⟩

namespace Board

/-! ## Cutting a scope -/

/-- Retiring a card changes no other card, and leaves the card Retired where it is. -/
lemma run_transition_retired (id : ItemId) (byWhom : String) (reason : Option String) (b : Board) :
    ∃ f : WorkItem → WorkItem, (∀ i, (f i).parent = i.parent) ∧
      (∀ c, b.state.items[id]? = some c → (f c).state = .retired) ∧
      ∀ k : ItemId, ((transition id .retired byWhom reason).run b).2.state.items[k]? =
        if k = id then b.state.items[k]?.map f else b.state.items[k]? := by
  cases hc : b.state.items[id]? with
  | none =>
    refine ⟨fun i => i, fun _ => rfl, fun c h => (nomatch h), fun k => ?_⟩
    rw [run_transition_missing _ hc]
    simp
  | some c =>
    have hedge : b.state.checkMove id c .retired = .ok () ↔ allowed c.state .retired = true :=
      checkMove_free_iff (by decide) (by decide)
    by_cases hcheck : b.state.checkMove id c .retired = .ok ()
    · obtain ⟨item, b₂, hrun, hstate, -⟩ :=
        run_transition_allowed hc (by decide) hcheck byWhom reason
      refine ⟨fun i => i.moved (b.now 0) .retired byWhom reason, fun _ => rfl, fun _ _ => rfl,
        fun k => ?_⟩
      rw [hrun, hstate, items_moveItem]
    · obtain ⟨e, hrun⟩ := run_transition_refused hc hcheck byWhom reason
      refine ⟨fun i => i, fun _ => rfl, fun c' hc' => ?_, fun k => ?_⟩
      · rw [Option.some.injEq] at hc'
        have hretired : ¬allowed c.state .retired = true := fun h => hcheck (hedge.2 h)
        simpa [allowed, hc'] using hretired
      · rw [hrun]
        simp

/-- One step of the walk retires a card and puts its children on the stack. -/
lemma run_cutWalk_cons (reason : Option String) (fuel : ℕ) (cur : ItemId)
    (stack touched : List ItemId) (b : Board) :
    ∃ touched', (cutWalk reason (fuel + 1) (cur :: stack) touched : Method String _).run b =
      (cutWalk reason fuel ((b.state.childrenOfIndexed cur).reverse ++ stack) touched').run
        ((transition cur .retired "human" reason).run b).2 := by
  rw [cutWalk, Locked.run_bind_ok (run_childrenOf cur b),
    Locked.run_bind_ok (Locked.run_attempt _ b)]
  cases ((transition cur .retired "human" reason).run b).1 with
  | ok item => exact ⟨touched ++ [cur], rfl⟩
  | error e => exact ⟨touched, rfl⟩

/-- The cards are under a Retired one. -/
def UnderRetired (s : BoardState) (stack : List ItemId) : Prop :=
  ∀ k ∈ stack, ∀ c : WorkItem, s.items[k]? = some c → ∃ (p : ItemId) (P : WorkItem),
    c.parent = some p ∧ s.items[p]? = some P ∧ P.state = .retired

omit [UnicodeTables] in
lemma UnderRetired.sparesParent {s : BoardState} {stack : List ItemId} {id : ItemId}
    {c : WorkItem} (h : UnderRetired s stack) (hid : id ∈ stack) (hc : s.items[id]? = some c) :
    s.SparesParent id c := by
  intro p P hp hP hlacks
  obtain ⟨p', P', hp', hP', hstate⟩ := h id hid c hc
  obtain rfl : p = p' := Option.some.inj (hp.symm.trans hp')
  obtain rfl : P = P' := Option.some.inj (hP.symm.trans hP')
  rcases hlacks.ready with hready | hready | hready <;> rw [hstate] at hready <;> cases hready

/-- What is under a Retired card stays there when a card is retired. -/
lemma UnderRetired.transition {b : Board} {stack : List ItemId} (h : UnderRetired b.state stack)
    (id : ItemId) (byWhom : String) (reason : Option String) :
    UnderRetired ((transition id .retired byWhom reason).run b).2.state stack := by
  obtain ⟨f, hparent, hretired, hitems⟩ := run_transition_retired id byWhom reason b
  intro k hk c hc
  obtain ⟨c₀, hc₀, hp₀⟩ : ∃ c₀, b.state.items[k]? = some c₀ ∧ c.parent = c₀.parent := by
    rw [hitems] at hc
    split at hc
    · obtain ⟨c₀, hc₀, rfl⟩ := Option.map_eq_some_iff.1 hc
      exact ⟨c₀, hc₀, hparent c₀⟩
    · exact ⟨c, hc, rfl⟩
  obtain ⟨p, P, hp, hP, hstate⟩ := h k hk c₀ hc₀
  refine ⟨p, if p = id then f P else P, hp₀.trans hp, ?_, ?_⟩
  · rw [hitems, hP]
    split <;> rfl
  · split
    · rename_i hpid
      subst hpid
      exact hretired P hP
    · exact hstate

/-- A walk below a Retired card takes no definition of done away. -/
lemma cutWalk_wellDefined (reason : Option String) (fuel : ℕ) {stack : List ItemId}
    (touched : List ItemId) {b : Board} (hs : b.state.Sound) (h : b.state.WellDefined)
    (hstack : UnderRetired b.state stack) :
    ((cutWalk reason fuel stack touched : Method String _).run b).2.state.WellDefined := by
  induction fuel generalizing stack touched b with
  | zero => exact h
  | succ fuel ih =>
    cases stack with
    | nil => exact h
    | cons cur stack =>
      have hkids : b.state.childrenOfIndexed cur = [] := by
        refine List.eq_nil_iff_forall_not_mem.2 fun k hk => ?_
        obtain ⟨i, hi, hp⟩ := hs.wellFormed.mem_childrenOfIndexed.1 hk
        obtain ⟨P, hP, hroot, -⟩ := Nested.iff.1 h.nested k i cur hi hp
        obtain ⟨p, P', hparent, -⟩ := hstack cur List.mem_cons_self P hP
        rw [hroot] at hparent
        cases hparent
      have hmove : ∀ c, b.state.items[cur]? = some c → b.state.checkMove cur c .retired = .ok () →
          Licence.defining.moves b.state cur c .retired := fun c hc _ =>
        ⟨nofun, fun _ => hstack.sparesParent List.mem_cons_self hc⟩
      obtain ⟨hs', h'⟩ := lasting_wellDefined.transition "human" reason hmove nofun hs h
      obtain ⟨touched', hrun⟩ := run_cutWalk_cons reason fuel cur stack touched b
      rw [hrun, hkids]
      refine ih touched' hs' h' ?_
      exact UnderRetired.transition (fun k hk => hstack k (List.mem_cons_of_mem _ hk)) cur _ _

/-- So does the cut of a scope that spares the parent of its root. -/
lemma cutScope_wellDefined {b : Board} {fuel : ℕ} {id : ItemId} {reason : Option String}
    (hs : b.state.Sound) (h : b.state.WellDefined)
    (hspares : ∀ c, b.state.items[id]? = some c → b.state.SparesParent id c) :
    (b.exec (.cutScope fuel id reason)).state.WellDefined := by
  have hwalk : ((cutWalk reason fuel [id] [] : Method String _).run b).2.state.WellDefined := by
    cases fuel with
    | zero => exact h
    | succ fuel =>
      have hmove : ∀ c, b.state.items[id]? = some c → b.state.checkMove id c .retired = .ok () →
          Licence.defining.moves b.state id c .retired := fun c hc _ =>
        ⟨nofun, fun _ => hspares c hc⟩
      obtain ⟨hs', h'⟩ := lasting_wellDefined.transition "human" reason hmove nofun hs h
      obtain ⟨touched', hrun⟩ := run_cutWalk_cons reason fuel id [] [] b
      rw [hrun]
      refine cutWalk_wellDefined reason fuel touched' hs' h' fun k hk c hc => ?_
      -- The children of the root are under it, and it is Retired now.
      rw [List.append_nil, List.mem_reverse, hs.wellFormed.mem_childrenOfIndexed] at hk
      obtain ⟨f, hparent, hretired, hitems⟩ := run_transition_retired id "human" reason b
      obtain ⟨i, hi, hp⟩ := hk
      obtain ⟨P, hP, -⟩ := Nested.iff.1 h.nested k i id hi hp
      refine ⟨id, f P, ?_, by rw [hitems, if_pos rfl, hP, Option.map_some], hretired P hP⟩
      rw [hitems, hi] at hc
      split at hc
      · cases hc
        exact (hparent i).trans hp
      · cases hc
        exact hp
  have hrest : ∀ touched : List ItemId, Sustains (fun b => b.state.WellDefined) (do
      Locked.onSome (← get id) fun t =>
        story id s!"Scope cut: {t.title} retired ({touched.length} items)."
      return touched : Method String (List ItemId)) := fun touched =>
    sustains_bind (sustains_get id) fun _ =>
      sustains_bind (sustains_onSome fun _ => sustains_story lasting_wellDefined.hush.toUpkeep _ _)
        fun _ => sustains_pure touched
  have hs' : ((cutWalk reason fuel [id] [] : Method String _).run b).2.state.Sound :=
    hs.reshaped ((structural_cutWalk reason fuel [id] []).run_state Reshaped.refl
      (fun _ _ _ => Reshaped.trans) b)
  change ((Operation.silent (cutScope fuel id reason)).run b).2.state.WellDefined
  rw [Operation.silent, Locked.run_bind_ok (Locked.run_attempt _ b)]
  change ((cutScope fuel id reason).run b).2.state.WellDefined
  unfold cutScope
  rw [Locked.run_bind]
  cases hrun : (cutWalk reason fuel [id] [] : Method String _).run b with
  | mk r b' =>
    rw [hrun] at hwalk hs'
    cases r with
    | error e => exact hwalk
    | ok touched => exact ((hrest touched).keeps.run ⟨hs', hwalk⟩).2

/-! ## Runs -/

/-- The step blanks no definition of done of a leaf Task that needs it, moves no such Task
without one from NeedsHuman to Running, and takes no last live child from a container without
one. -/
def KeepsDefinition (s : BoardState) : Operation → Prop
  | .create n => n.definitionOfDone ≠ some ""
  | .updateItem id _ _ dod _ _ =>
    (∃ t, dod = some t ∧ isBlank t = true) → ¬∃ c, s.Ready id c
  | .transition id target _ _ => ∀ c, s.items[id]? = some c →
    (target = .running → c.state = .needsHuman → c.level ≠ some "Project" → s.IsLeaf id →
      c.definitionOfDone ≠ none) ∧ (target = .retired → s.SparesParent id c)
  | .cutScope _ id _ => ∀ c, s.items[id]? = some c → s.SparesParent id c
  | .deleteItem id => ∀ c, s.items[id]? = some c → s.SparesParent id c
  | .claim id _ _ _ => ∀ c, s.PassesClaim id c → c.level = some "Project" →
    c.definitionOfDone ≠ none
  | _ => True

lemma KeepsDefinition.permits {s : BoardState} {op : Operation} (h : s.WellDefined)
    (hC : KeepsDefinition s op) : Licence.defining.Permits s op := by
  cases op with
  | create => exact hC
  | updateItem id title intent dod engine projectPrompt =>
    intro c hc
    refine ⟨⟨title, intent, dod, engine, projectPrompt, rfl⟩, fun hlacks hleaf => ?_⟩
    have hready : s.Ready id c := ⟨hc, hleaf, hlacks.task, hlacks.ready⟩
    -- A Task that needs its definition of done has one, so only a blank takes it away.
    obtain ⟨d, hdod, -⟩ := h.ready hready
    have hnone : updateOption c.definitionOfDone dod = none := hlacks.undefined
    refine hC ?_ ⟨c, hready⟩
    unfold updateOption at hnone
    cases dod with
    | none => exact absurd (hdod.symm.trans hnone) nofun
    | some t =>
      refine ⟨t, rfl, ?_⟩
      by_contra hblank
      simp [hblank] at hnone
  | transition id target byWhom reason => exact ⟨fun c hc _ => hC c hc, fun _ => trivial⟩
  | setProposal id proposal => exact fun h => h
  | proposePlan id summary tasks => exact fun h => h
  | proposeSplit id agentId children maxChildren => exact fun _ h => h
  | createTask => exact fun _ _ _ _ => trivial
  | setBlockedBy => exact fun _ _ => trivial
  | _ => trivial

/-- After a run whose steps keep the definitions of done, the board is well defined. -/
lemma wellDefined_after {schema : Schema} {clock : ℕ → ℕ → Time} {saveSucceeds : ℕ → Bool}
    {ops : List Operation} (hmeets : Meets (fun op s => KeepsDefinition s op)
      (Board.new schema clock saveSucceeds) ops) :
    (reached schema clock saveSucceeds ops).WellDefined := by
  have hnew : (Board.new schema clock saveSucceeds).state.WellDefined := by
    constructor
    · exact Nested.empty
    · exact fun k i hi => absurd hi (by simp [Board.new, BoardState.empty])
    · exact ProposalsAt.empty
    · exact fun k i hi => absurd hi (by simp [Board.new, BoardState.empty])
  exact (lasting_wellDefined.meets (fun op s h hC => hC.permits h)
    (fun b fuel id reason hs h hC => cutScope_wellDefined hs h hC)
    (fun s id hs h hC => h.delete hs.wellFormed hC) (sound_new _ _ _) hnew hmeets).2

/-- The grant of a claim says what the card says. -/
lemma definitionOfDone_claimPlanContext {id : ItemId} {item : WorkItem} {deadline : Time}
    {b b' : Board} {grant : ClaimGrant}
    (h : (claimPlanContext id item deadline : Method TransitionError ClaimGrant).run b =
      (.ok grant, b')) : grant.definitionOfDone = item.definitionOfDone := by
  obtain ⟨project, hproject⟩ : ∃ project,
      (projectOf item : Method TransitionError _).run b = (.ok project, b) := run_projectOf item b
  unfold claimPlanContext at h
  rw [Locked.run_bind_ok hproject] at h
  cases project with
  | none =>
    cases h
    rfl
  | some project =>
    dsimp only at h
    rw [Locked.run_bind_ok (run_read _ b)] at h
    split at h
    · cases h
      rfl
    · cases h
      rfl

lemma definitionOfDone_claim {b b' : Board} {id : ItemId} {c : WorkItem}
    (hc : b.state.PassesClaim id c) {agentId : String} {model : Option String} {timeoutSecs : ℤ}
    {grant : ClaimGrant} (h : (claim id agentId model timeoutSecs).run b = (.ok grant, b')) :
    grant.definitionOfDone = c.definitionOfDone := by
  have hsection := claimSection_of_passes hc agentId model (b.now 0) (b.deadlineAt timeoutSecs)
    ((b.stepped b.state).now 0)
  unfold deadlineAt at hsection
  unfold claim at h
  simp only [Locked.run_bind, run_utcNow, Locked.andThen_ok, run_write, stepped_state, hsection,
    run_emit] at h
  exact (definitionOfDone_claimPlanContext h).trans rfl

/-- In every run whose steps keep the definitions of done, a leaf Task that waits for a run or
is in one has a definition of done, and a claim hands one out. -/
theorem ready_isDefined (schema : Schema) (clock : ℕ → ℕ → Time) (saveSucceeds : ℕ → Bool)
    (ops : List Operation)
    (hmeets : Meets (fun op s => KeepsDefinition s op) (Board.new schema clock saveSucceeds) ops) :
    let b := (Board.new schema clock saveSucceeds).after ops
    (∀ id c, b.state.Ready id c → ∃ d, c.definitionOfDone = some d ∧ d ≠ "") ∧
      ∀ id agentId model timeoutSecs,
        KeepsDefinition b.state (.claim id agentId model timeoutSecs) →
        ∀ grant b', (claim id agentId model timeoutSecs).run b = (.ok grant, b') →
          ∃ d, grant.definitionOfDone = some d ∧ d ≠ "" := by
  intro b
  have h : b.state.WellDefined := wellDefined_after hmeets
  have hwf : b.state.WellFormed := wellFormed_reached schema clock saveSucceeds ops
  refine ⟨fun id c hc => h.ready hc, fun id agentId model timeoutSecs hC grant b' hgrant => ?_⟩
  have hclaimed : failure (claim id agentId model timeoutSecs) b = none := by
    simp [failure, hgrant]
  obtain ⟨c, hc⟩ := failure_claim_eq_none_iff.1 hclaimed
  have hdod : grant.definitionOfDone = c.definitionOfDone := definitionOfDone_claim hc hgrant
  rw [hdod]
  by_cases hlevel : c.level = some "Project"
  · cases hdefined : c.definitionOfDone with
    | none => exact absurd hdefined (hC c hc hlevel)
    | some d => exact ⟨d, rfl, fun hd => h.filled id c hc.1 (by rw [hdefined, hd])⟩
  · obtain ⟨hbacklog, hchildren, -⟩ := check_claimed_iff.1 hc.2.2
    exact h.ready ⟨hc.1, hwf.hasChildren_eq_false_iff.1 hchildren, hlevel, Or.inl hbacklog⟩

end Board

end Unicode

namespace Board

/-- A run that creates a Project, whose Initial plan waits in Backlog. -/
def plannedRun : List Operation :=
  [.create ⟨none, "Docs", "", none, .human, false, none⟩]

set_option maxRecDepth 100000 in
/-- The definition theorem on the Initial plan of a Project. -/
theorem ready_isDefined_plan :
    let := asciiTables
    let b := (Board.new Schema.default (fun _ _ => 0) fun _ => true).after plannedRun
    (∃ c, b.state.Ready 2 c) ∧
      ∃ grant b' d, (claim 2 "agent" none 60).run b = (.ok grant, b') ∧
        grant.definitionOfDone = some d ∧ d ≠ "" := by
  intro tables b
  have hmeets : Meets (fun op s => KeepsDefinition s op)
      (Board.new Schema.default (fun _ _ => 0) fun _ => true) plannedRun := ⟨nofun, trivial⟩
  have hclaimed : failure (claim 2 "agent" none 60) b = none := by decide
  have hlevel : b.state.items[2]?.map WorkItem.level = some (some "Task") := by decide
  obtain ⟨c, hc⟩ := failure_claim_eq_none_iff.1 hclaimed
  have htask : c.level ≠ some "Project" := by
    rw [hc.1] at hlevel
    rw [Option.some.inj hlevel]
    decide
  obtain ⟨hbacklog, hchildren, -⟩ := check_claimed_iff.1 hc.2.2
  have hwf : b.state.WellFormed := wellFormed_reached _ _ _ plannedRun
  obtain ⟨grant, b', hrun, -⟩ := run_claim_of_passes hc "agent" none 60
  have hC : KeepsDefinition b.state (.claim 2 "agent" none 60) := fun c' hc' hproject =>
    absurd hproject (by rwa [Option.some.inj (hc'.1.symm.trans hc.1)])
  obtain ⟨d, hd⟩ :=
    (ready_isDefined _ _ _ plannedRun hmeets).2 2 "agent" none 60 hC grant b' hrun
  exact ⟨⟨c, hc.1, hwf.hasChildren_eq_false_iff.1 hchildren, htask, Or.inl hbacklog⟩,
    grant, b', d, hrun, hd⟩

/-- A run that blanks the definition of done of a waiting card. -/
def undefinedRun : List Operation :=
  plannedRun ++ [.updateItem 2 none none (some "") none none]

set_option maxRecDepth 100000 in
/-- The card still waits for a run, and a claim hands it out without a definition of done. -/
theorem undefined_claimed :
    let := asciiTables
    let b := (Board.new Schema.default (fun _ _ => 0) fun _ => true).after undefinedRun
    (∃ c, b.state.Ready 2 c ∧ c.definitionOfDone = none) ∧
      ∃ grant b', (claim 2 "agent" none 60).run b = (.ok grant, b') ∧
        grant.definitionOfDone = none := by
  intro tables b
  have hclaimed : failure (claim 2 "agent" none 60) b = none := by decide
  have hcard : b.state.items[2]?.map (fun i => (i.level, i.definitionOfDone)) =
      some (some "Task", none) := by decide
  obtain ⟨c, hc⟩ := failure_claim_eq_none_iff.1 hclaimed
  rw [hc.1, Option.map_some, Option.some.injEq, Prod.mk.injEq] at hcard
  obtain ⟨hlevel, hdod⟩ := hcard
  obtain ⟨hbacklog, hchildren, -⟩ := check_claimed_iff.1 hc.2.2
  have hwf : b.state.WellFormed := wellFormed_reached _ _ _ undefinedRun
  obtain ⟨grant, b', hrun, -⟩ := run_claim_of_passes hc "agent" none 60
  exact ⟨⟨c, ⟨hc.1, hwf.hasChildren_eq_false_iff.1 hchildren, by rw [hlevel]; decide,
    Or.inl hbacklog⟩, hdod⟩, grant, b', hrun, (definitionOfDone_claim hc hrun).trans hdod⟩

end Board

end Sandboard

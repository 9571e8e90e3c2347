import Sandboard.Store.Approving
import Sandboard.Store.Claiming

/-!
# Cutting scope and back

A cut retires a card and everything below it; an unarchive restores a Retired card and what is
Retired below it, children first.  The cards that a cut retired come back in the state they had,
with the work in flight back in the pool.  So do the cards that were Retired before the cut: the
unarchive does not tell them apart.  A Backlog leaf that lost its definition of done stops the
unarchive, and a proposal that was never materialized is when its card returns to Done.
-/

namespace Sandboard

open Std BoardState

namespace WorkItem

/-- The state to which an unarchive after a cut refers. -/
def restingState (c : WorkItem) : State :=
  if c.state = .retired then c.priorState else c.state

/-- The card after a cut. -/
def cutBy (reason : Option String) (now : Time) (c : WorkItem) : WorkItem :=
  if c.state = .retired then c else c.moved now .retired "human" reason

/-- A Retired card after an unarchive. -/
def restoredBy (reason : Option String) (hasChildren : Bool) (now : Time) (c : WorkItem) :
    WorkItem :=
  (c.moved now (unarchiveTarget c.priorState hasChildren c.definitionOfDone.isSome) "human"
    reason).unleased

/-- Nothing stops the card, with the state `prior` in its history, when it is restored. -/
structure Returns (prior : State) (hasChildren : Bool) (c : WorkItem) : Prop where
  dod : prior = .backlog → hasChildren = true ∨ c.definitionOfDone.isSome = true
  idle : prior = .done → ∀ p projectId, ¬c.Awaits p projectId

variable {reason reason' : Option String} {now now' : Time} {c : WorkItem} {hasChildren : Bool}

lemma state_cutBy : (c.cutBy reason now).state = .retired := by
  unfold cutBy
  split
  · assumption
  · rfl

lemma parent_cutBy : (c.cutBy reason now).parent = c.parent := by
  unfold cutBy
  split <;> rfl

lemma level_cutBy : (c.cutBy reason now).level = c.level := by
  unfold cutBy
  split <;> rfl

lemma definitionOfDone_cutBy :
    (c.cutBy reason now).definitionOfDone = c.definitionOfDone := by
  unfold cutBy
  split <;> rfl

lemma proposal_cutBy : (c.cutBy reason now).proposal = c.proposal := by
  unfold cutBy
  split <;> rfl

/-- The last entry of the history of a card that was cut tells the state it had. -/
lemma priorState_cutBy : (c.cutBy reason now).priorState = c.restingState := by
  unfold cutBy restingState
  split
  · rfl
  · unfold priorState moved
    simp

lemma Returns.cutBy (h : c.Returns c.restingState hasChildren) :
    (c.cutBy reason now).Returns (c.cutBy reason now).priorState hasChildren := by
  rw [priorState_cutBy]
  refine ⟨fun hprior => ?_, fun hprior p projectId hawaits => h.idle hprior p projectId ?_⟩
  · rw [definitionOfDone_cutBy]
    exact h.dod hprior
  · exact ⟨proposal_cutBy.symm.trans hawaits.proposal, parent_cutBy.symm.trans hawaits.parent,
      hawaits.unstamped⟩

/-- The card after a cut and an unarchive. -/
lemma state_restoredBy_cutBy :
    ((c.cutBy reason now).restoredBy reason' hasChildren now').state =
      unarchiveTarget c.restingState hasChildren c.definitionOfDone.isSome := by
  change unarchiveTarget (c.cutBy reason now).priorState hasChildren
    (c.cutBy reason now).definitionOfDone.isSome = _
  rw [priorState_cutBy, definitionOfDone_cutBy]

end WorkItem

/-- The guards of the target of an unarchive hold when they hold of the state in the history. -/
lemma unarchiveTarget_cases (prior : State) (hasChildren hasDod : Bool) :
    (unarchiveTarget prior hasChildren hasDod = .backlog ∧
        (prior = .backlog ∨ hasChildren = true ∨ hasDod = true)) ∨
      (unarchiveTarget prior hasChildren hasDod ≠ .backlog ∧
        requiresClaimable (unarchiveTarget prior hasChildren hasDod) = false ∧
        (unarchiveTarget prior hasChildren hasDod = .done → prior = .done)) := by
  cases prior <;> cases hasChildren <;> cases hasDod <;> simp [unarchiveTarget, requiresClaimable]

lemma allowed_retired_iff (source : State) :
    allowed source .retired = true ↔ source ≠ .retired := by
  cases source <;> decide

lemma allowed_unarchiveTarget (prior : State) (hasChildren hasDod : Bool) :
    allowed .retired (unarchiveTarget prior hasChildren hasDod) = true := by
  cases prior <;> cases hasChildren <;> cases hasDod <;> rfl

namespace BoardState

/-- The card is there and not Retired. -/
def isLive (s : BoardState) (k : ItemId) : Bool :=
  s.items[k]?.any fun c => c.state != .retired

/-- Some card has the parent `id`. -/
def isParent (s : BoardState) (id : ItemId) : Bool :=
  !(s.childrenOfIndexed id).isEmpty

/-- The subtree of a card on a nested board, in the order of the walk. -/
def subtree (s : BoardState) (id : ItemId) : List ItemId :=
  id :: (s.childrenOfIndexed id).reverse

end BoardState

/-! ## Changed cards -/

/-- The cards `ks` are changed by `f` at some instant, the others are left alone. -/
structure Reworks (f : ItemId → Time → WorkItem → WorkItem) (ks : List ItemId)
    (s s' : BoardState) : Prop where
  others : ∀ k, k ∉ ks → s'.items[k]? = s.items[k]?
  cards : ∀ k ∈ ks, ∃ now, s'.items[k]? = (s.items[k]?).map (f k now)
  sound : s'.Sound

namespace Reworks

variable {f : ItemId → Time → WorkItem → WorkItem} {ks ks' : List ItemId} {s s' s'' : BoardState}

lemma refl (hs : s.Sound) : Reworks f [] s s :=
  ⟨fun _ _ => rfl, fun _ hk => absurd hk List.not_mem_nil, hs⟩

lemma congr {g : ItemId → Time → WorkItem → WorkItem} (h : Reworks f ks s s')
    (hfg : ∀ k ∈ ks, f k = g k) : Reworks g ks s s' :=
  ⟨h.others, fun k hk => by rw [← hfg k hk]; exact h.cards k hk, h.sound⟩

lemma append (h : Reworks f ks s s') (h' : Reworks f ks' s' s'') (hdisjoint : ∀ k ∈ ks, k ∉ ks') :
    Reworks f (ks ++ ks') s s'' := by
  refine ⟨fun k hk => ?_, fun k hk => ?_, h'.sound⟩
  · rw [List.mem_append, not_or] at hk
    rw [h'.others k hk.2, h.others k hk.1]
  · rcases List.mem_append.1 hk with hk | hk
    · obtain ⟨now, hnow⟩ := h.cards k hk
      exact ⟨now, by rw [h'.others k (hdisjoint k hk), hnow]⟩
    · have hnot : k ∉ ks := fun hmem => hdisjoint k hmem hk
      rw [← h.others k hnot]
      exact h'.cards k hk

/-- Changes that keep the parents keep the children. -/
lemma childrenOf (h : Reworks f ks s s') (hs : s.Sound)
    (hf : ∀ k now c, (f k now c).parent = c.parent) (p : ItemId) :
    s'.childrenOfIndexed p = s.childrenOfIndexed p := by
  have hchild : ∀ p k, s'.IsChild p k ↔ s.IsChild p k := by
    intro p k
    unfold IsChild
    by_cases hk : k ∈ ks
    · obtain ⟨now, hnow⟩ := h.cards k hk
      rw [hnow]
      cases s.items[k]? with
      | none => simp
      | some c => simp [hf]
    · rw [h.others k hk]
  unfold childrenOfIndexed
  rw [(h.sound.wellFormed.children.congr hchild).unique hs.wellFormed.children]

lemma isParent (h : Reworks f ks s s') (hs : s.Sound)
    (hf : ∀ k now c, (f k now c).parent = c.parent) (p : ItemId) :
    s'.isParent p = s.isParent p := by
  unfold BoardState.isParent
  rw [h.childrenOf hs hf]

/-- Other cards are live as before. -/
lemma filter_isLive (h : Reworks f ks s s') {js : List ItemId} (hdisjoint : ∀ j ∈ js, j ∉ ks) :
    js.filter s'.isLive = js.filter s.isLive := by
  refine List.filter_congr fun j hj => ?_
  unfold isLive
  rw [h.others j (hdisjoint j hj)]

/-- Changes that keep parents and levels keep a board nested. -/
lemma nested (h : Reworks f ks s s') (hn : s.Nested)
    (hf : ∀ k now c, (f k now c).parent = c.parent ∧ (f k now c).level = c.level) :
    s'.Nested := by
  refine hn.of_place (funext fun k => ?_)
  unfold place
  by_cases hk : k ∈ ks
  · obtain ⟨now, hnow⟩ := h.cards k hk
    rw [hnow, Option.map_map]
    cases s.items[k]? with
    | none => rfl
    | some c =>
      rw [Option.map_some, Option.map_some, Function.comp_apply, (hf k now c).1, (hf k now c).2]
  · rw [h.others k hk]

end Reworks

/-! ## Cutting -/

section Unicode

variable [UnicodeTables]

namespace Board

variable {b : Board} {id : ItemId} {c : WorkItem} {ks : List ItemId}

/-- A transition that makes no Tasks moves its card. -/
lemma run_move (hs : b.state.Sound) (hn : b.state.Nested) (hc : b.state.items[id]? = some c)
    {target : State} (hcheck : b.state.checkMove id c target = .ok ())
    (hidle : target = .done → ∀ p q, ¬c.Awaits p q) (reason : Option String) :
    ∃ item b', (transition id target "human" reason).run b = (.ok item, b') ∧
      Reworks (fun _ now => (·.moved now target "human" reason)) [id] b.state b'.state := by
  have hsound : ((transition id target "human" reason).run b).2.state.Sound :=
    hs.reshaped ((structural_transition id target "human" reason).run_state Reshaped.refl
      (fun _ _ _ => Reshaped.trans) b)
  obtain ⟨item, b', hrun, hitems⟩ : ∃ item b',
      (transition id target "human" reason).run b = (.ok item, b') ∧
        b'.state.items = (b.state.moveItem id c (b.now 0) target "human" reason).items := by
    by_cases hdone : target = .done
    · subst hdone
      obtain ⟨item, b', hrun, ⟨-, hsame⟩ | ⟨p, q, ids, s₁, hp, -, -⟩⟩ :=
        run_transition_done hs hn hc hcheck "human" reason
      · exact ⟨item, b', hrun, hsame.items⟩
      · exact absurd ⟨hp.proposal, hp.parent, hp.unstamped⟩ (hidle rfl p q)
    · obtain ⟨item, b', hrun, hstate, -⟩ := run_transition_allowed hc hdone hcheck "human" reason
      exact ⟨item, b', hrun, congrArg BoardState.items hstate⟩
  rw [hrun] at hsound
  refine ⟨item, b', hrun, fun k hk => ?_, fun k hk => ⟨b.now 0, ?_⟩, hsound⟩
  · rw [hitems, items_moveItem, if_neg fun h => hk (List.mem_singleton.2 h)]
  · obtain rfl := List.mem_singleton.1 hk
    rw [hitems, items_moveItem, if_pos rfl]

/-- The walk of a cut takes one card. -/
lemma run_cutWalk_card (hs : b.state.Sound) (hn : b.state.Nested)
    (hc : b.state.items[id]? = some c) (reason : Option String) (fuel : ℕ)
    (stack touched : List ItemId) :
    ∃ b', (cutWalk reason (fuel + 1) (id :: stack) touched : Method String _).run b =
        (cutWalk reason fuel ((b.state.childrenOfIndexed id).reverse ++ stack)
          (touched ++ [id].filter (isLive b.state)) : Method String _).run b' ∧
      Reworks (fun _ => WorkItem.cutBy reason) [id] b.state b'.state := by
  have hcheck : b.state.checkMove id c .retired = .ok () ↔ c.state ≠ .retired := by
    rw [checkMove_free_iff rfl (by decide), allowed_retired_iff]
  have hlive : isLive b.state id = decide (c.state ≠ .retired) := by
    rw [isLive, hc, Option.any_some]
    by_cases hretired : c.state = .retired <;> simp [hretired]
  rw [cutWalk, Locked.run_bind_ok (run_childrenOf id b),
    Locked.run_bind_ok (Locked.run_attempt _ b)]
  by_cases hretired : c.state = .retired
  · obtain ⟨e, hrun⟩ := run_transition_refused hc (fun h => hcheck.1 h hretired) "human" reason
    rw [hrun, List.filter_cons_of_neg (by rw [hlive]; simp [hretired]), List.filter_nil,
      List.append_nil]
    refine ⟨b.stepped b.state, rfl, fun _ _ => rfl, fun k hk => ⟨0, ?_⟩, hs⟩
    obtain rfl := List.mem_singleton.1 hk
    rw [stepped_state, hc, Option.map_some, WorkItem.cutBy, if_pos hretired]
  · obtain ⟨item, b', hrun, hmoved⟩ := run_move hs hn hc (hcheck.2 hretired)
      (fun h => absurd h (by decide)) reason
    rw [hrun, List.filter_cons_of_pos (by rw [hlive, decide_eq_true hretired]), List.filter_nil]
    refine ⟨b', rfl, hmoved.others, fun k hk => ?_, hmoved.sound⟩
    obtain ⟨now, hnow⟩ := hmoved.cards k hk
    obtain rfl := List.mem_singleton.1 hk
    refine ⟨now, ?_⟩
    rw [hnow, hc, Option.map_some, Option.map_some, WorkItem.cutBy, if_neg hretired]

/-- A walk over cards without children cuts these cards. -/
lemma run_cutWalk_leaves (hs : b.state.Sound) (hn : b.state.Nested) (hnodup : ks.Nodup)
    (hcards : ∀ k ∈ ks, ∃ c, b.state.items[k]? = some c)
    (hleaf : ∀ k ∈ ks, b.state.childrenOfIndexed k = []) {fuel : ℕ} (hfuel : ks.length ≤ fuel)
    (reason : Option String) (touched : List ItemId) :
    ∃ b', (cutWalk reason fuel ks touched : Method String _).run b =
        (.ok (touched ++ ks.filter (isLive b.state)), b') ∧
      Reworks (fun _ => WorkItem.cutBy reason) ks b.state b'.state := by
  induction ks generalizing b fuel touched with
  | nil =>
    refine ⟨b, ?_, .refl hs⟩
    cases fuel <;> simp [cutWalk]
  | cons k ks ih =>
    obtain ⟨fuel, rfl⟩ := Nat.exists_eq_add_one_of_ne_zero (Nat.ne_zero_of_lt hfuel)
    rw [List.nodup_cons] at hnodup
    obtain ⟨c, hc⟩ := hcards k List.mem_cons_self
    obtain ⟨b₁, hrun, hcut⟩ := run_cutWalk_card hs hn hc reason fuel ks touched
    have hrest : ∀ j ∈ ks, j ∉ [k] := fun j hj h => hnodup.1 (List.mem_singleton.1 h ▸ hj)
    have hchildren := hcut.childrenOf hs fun _ _ _ => WorkItem.parent_cutBy
    have hn₁ := hcut.nested hn fun _ _ _ => ⟨WorkItem.parent_cutBy, WorkItem.level_cutBy⟩
    obtain ⟨b₂, hwalk, hcuts⟩ := ih hcut.sound hn₁ hnodup.2
      (fun j hj => by rw [hcut.others j (hrest j hj)]; exact hcards j (List.mem_cons_of_mem k hj))
      (fun j hj => by rw [hchildren]; exact hleaf j (List.mem_cons_of_mem k hj))
      (Nat.le_of_succ_le_succ hfuel) (touched ++ [k].filter (isLive b.state))
    have hlive : ks.filter (isLive b₁.state) = ks.filter (isLive b.state) :=
      hcut.filter_isLive hrest
    refine ⟨b₂, ?_, hcut.append hcuts fun j hj => List.mem_singleton.1 hj ▸ hnodup.1⟩
    rw [hrun, hleaf k List.mem_cons_self]
    change (cutWalk reason fuel ks _ : Method String _).run b₁ = _
    rw [hwalk, hlive, List.append_assoc, ← List.filter_append, List.singleton_append]

omit [UnicodeTables] in
/-- What the walks need of a card and its children: none of the children has children. -/
lemma subtree_facts (hs : b.state.WellFormed) (hn : b.state.Nested) (id : ItemId) :
    (subtree b.state id).Nodup ∧
      (∀ k, k ∈ subtree b.state id ↔ b.state.Under id k) ∧
      (∀ k ∈ b.state.childrenOfIndexed id, b.state.childrenOfIndexed k = []) ∧
      ∀ k ∈ b.state.childrenOfIndexed id, ∃ c, b.state.items[k]? = some c := by
  have hchild : ∀ p k, k ∈ b.state.childrenOfIndexed p ↔ b.state.IsChild p k := fun p k =>
    hs.children.mem_bucket
  have hleaf : ∀ k ∈ b.state.childrenOfIndexed id, b.state.childrenOfIndexed k = [] := by
    intro k hk
    rw [List.eq_nil_iff_forall_not_mem]
    intro j hj
    obtain ⟨i, hi, hparent⟩ := (hchild k j).1 hj
    obtain ⟨P, hP, hroot, -⟩ := Nested.iff.1 hn j i k hi hparent
    obtain ⟨i', hi', hparent'⟩ := (hchild id k).1 hk
    rw [hP] at hi'
    obtain rfl := Option.some.inj hi'
    rw [hroot] at hparent'
    cases hparent'
  have hroot : id ∉ b.state.childrenOfIndexed id := by
    intro hmem
    have hnone := hleaf id hmem
    rw [hnone] at hmem
    cases hmem
  refine ⟨?_, fun k => ?_, hleaf, fun k hk => ?_⟩
  · unfold subtree
    rw [List.nodup_cons, List.mem_reverse, List.nodup_reverse]
    refine ⟨hroot, ?_⟩
    refine (SecondaryIndex.bucket_ordered b.state.childrenByParent id).imp fun {j k} hjk heq => ?_
    rw [heq] at hjk
    simp at hjk
  · unfold subtree Under
    rw [List.mem_cons, List.mem_reverse, hchild]
  · obtain ⟨i, hi, -⟩ := (hchild id k).1 hk
    exact ⟨i, hi⟩

omit [UnicodeTables] in
/-- The story at the end of a walk leaves the cards alone. -/
lemma run_tell (id : ItemId) (f : WorkItem → String) (touched : List ItemId) (b : Board) :
    ∃ b', (do
        Locked.onSome (← get id) fun t => story id (f t)
        return touched : Method String (List ItemId)).run b = (.ok touched, b') ∧
      b'.state.items = b.state.items ∧ (b.state.Sound → b'.state.Sound) := by
  rw [Locked.run_bind_ok (run_get id b)]
  cases b.state.items[id]? with
  | none => exact ⟨b, rfl, rfl, fun h => h⟩
  | some c =>
    have hstory : Structural (story id (f (b.state.populateBlockers c)) : Method String Unit) :=
      structural_story id _
    exact ⟨_, rfl, rfl, fun h =>
      h.reshaped (hstory.run_state Reshaped.refl (fun _ _ _ => Reshaped.trans) b)⟩

/-- A cut retires the subtree. -/
lemma run_cutScope (hs : b.state.Sound) (hn : b.state.Nested)
    (hc : b.state.items[id]? = some c) {fuel : ℕ}
    (hfuel : (subtree b.state id).length ≤ fuel) (reason : Option String) :
    ∃ b', (cutScope fuel id reason).run b =
        (.ok ((subtree b.state id).filter (isLive b.state)), b') ∧
      Reworks (fun _ => WorkItem.cutBy reason) (subtree b.state id) b.state b'.state := by
  obtain ⟨hnodup, -, hleaf, hcards⟩ := subtree_facts hs.wellFormed hn id
  unfold subtree at hnodup hfuel ⊢
  rw [List.nodup_cons] at hnodup
  obtain ⟨fuel, rfl⟩ := Nat.exists_eq_add_one_of_ne_zero (Nat.ne_zero_of_lt hfuel)
  obtain ⟨b₁, hrun, hcut⟩ := run_cutWalk_card hs hn hc reason fuel [] []
  have hrest : ∀ k ∈ (b.state.childrenOfIndexed id).reverse, k ∉ [id] := fun k hk h =>
    hnodup.1 (List.mem_singleton.1 h ▸ hk)
  have hchildren := hcut.childrenOf hs fun _ _ _ => WorkItem.parent_cutBy
  have hn₁ := hcut.nested hn fun _ _ _ => ⟨WorkItem.parent_cutBy, WorkItem.level_cutBy⟩
  obtain ⟨b₂, hwalk, hcuts⟩ := run_cutWalk_leaves hcut.sound hn₁ hnodup.2
    (fun k hk => by rw [hcut.others k (hrest k hk)]; exact hcards k (List.mem_reverse.1 hk))
    (fun k hk => by rw [hchildren]; exact hleaf k (List.mem_reverse.1 hk))
    (Nat.le_of_succ_le_succ hfuel) reason ([id].filter (isLive b.state))
  have hlive : (b.state.childrenOfIndexed id).reverse.filter (isLive b₁.state) =
      (b.state.childrenOfIndexed id).reverse.filter (isLive b.state) := hcut.filter_isLive hrest
  rw [List.append_nil] at hrun
  change _ = (cutWalk reason fuel _ ([id].filter (isLive b.state)) : Method String _).run b₁ at hrun
  rw [hwalk, hlive, ← List.filter_append, List.singleton_append] at hrun
  obtain ⟨b₃, htell, hitems, hsound⟩ := run_tell id
    (fun t => s!"Scope cut: {t.title} retired ({(List.filter (isLive b.state)
      (id :: (b.state.childrenOfIndexed id).reverse)).length} items).")
    (List.filter (isLive b.state) (id :: (b.state.childrenOfIndexed id).reverse)) b₂
  have hboth := hcut.append hcuts fun k hk => List.mem_singleton.1 hk ▸ hnodup.1
  refine ⟨b₃, ?_, fun k hk => ?_, fun k hk => ?_, hsound hboth.sound⟩
  · unfold cutScope
    rw [Locked.run_bind_ok hrun]
    exact htell
  · rw [hitems]
    exact hboth.others k hk
  · rw [hitems]
    exact hboth.cards k hk

/-! ## Restoring -/

omit [UnicodeTables] in
/-- A walk over cards without children lists them. -/
lemma run_subtreeWalk_leaves (hleaf : ∀ k ∈ ks, b.state.childrenOfIndexed k = []) {fuel : ℕ}
    (hfuel : ks.length ≤ fuel) (order : List ItemId) :
    (subtreeWalk fuel ks order : Method String _).run b = (.ok (order ++ ks), b) := by
  induction ks generalizing fuel order with
  | nil => cases fuel <;> simp [subtreeWalk]
  | cons k ks ih =>
    obtain ⟨fuel, rfl⟩ := Nat.exists_eq_add_one_of_ne_zero (Nat.ne_zero_of_lt hfuel)
    unfold subtreeWalk
    rw [Locked.run_bind_ok (run_childrenOf k b), hleaf k List.mem_cons_self]
    change (subtreeWalk fuel ks (order ++ [k]) : Method String _).run b = _
    rw [ih (fun j hj => hleaf j (List.mem_cons_of_mem k hj)) (Nat.le_of_succ_le_succ hfuel),
      List.append_assoc, List.singleton_append]

omit [UnicodeTables] in
/-- The walk over a subtree lists it. -/
lemma run_subtreeWalk_subtree (hleaf : ∀ k ∈ b.state.childrenOfIndexed id,
      b.state.childrenOfIndexed k = []) {fuel : ℕ} (hfuel : (subtree b.state id).length ≤ fuel) :
    (subtreeWalk fuel [id] [] : Method String _).run b = (.ok (subtree b.state id), b) := by
  unfold subtree at hfuel ⊢
  obtain ⟨fuel, rfl⟩ := Nat.exists_eq_add_one_of_ne_zero (Nat.ne_zero_of_lt hfuel)
  unfold subtreeWalk
  rw [Locked.run_bind_ok (run_childrenOf id b), List.append_nil,
    run_subtreeWalk_leaves (fun k hk => hleaf k (List.mem_reverse.1 hk))
      (Nat.le_of_succ_le_succ hfuel), List.nil_append, List.singleton_append]

omit [UnicodeTables] in
/-- A restored card is Retired no more. -/
lemma state_restoredBy_ne (reason : Option String) (isParent : Bool) (now : Time) (c : WorkItem) :
    (c.restoredBy reason isParent now).state ≠ .retired :=
  (unarchiveTarget_ne _ _ _).1

/-- One card is restored. -/
lemma run_unarchiveOne (hs : b.state.Sound) (hn : b.state.Nested)
    (hc : b.state.items[id]? = some c) (hretired : c.state = .retired)
    (hreturns : c.Returns c.priorState (b.state.isParent id))
    (hlive : b.state.isParent id = true → b.state.hasChildren id = true)
    (reason : Option String) (touched : List ItemId) :
    ∃ b', (unarchiveOne reason touched id).run b = (.ok (id :: touched), b') ∧
      Reworks (fun _ => WorkItem.restoredBy reason (b.state.isParent id)) [id] b.state
        b'.state := by
  have hsound : ((unarchiveOne reason touched id).run b).2.state.Sound :=
    hs.reshaped ((structural_unarchiveOne reason touched id).run_state Reshaped.refl
      (fun _ _ _ => Reshaped.trans) b)
  have hfound : ((some c).map b.state.populateBlockers).filter (fun i => i.state == .retired) =
      some (b.state.populateBlockers c) := by
    simp [Option.filter, populateBlockers, hretired]
  generalize htarget : unarchiveTarget c.priorState (b.state.isParent id)
    c.definitionOfDone.isSome = target
  have hedge : allowed c.state target = true := by
    rw [hretired, ← htarget]
    exact allowed_unarchiveTarget _ _ _
  have hprior := unarchiveTarget_cases c.priorState (b.state.isParent id)
    c.definitionOfDone.isSome
  rw [htarget] at hprior
  have hcheck : b.state.checkMove id c target = .ok () := by
    rcases hprior with ⟨rfl, hready⟩ | ⟨hbacklog, hfree, -⟩
    · refine checkMove_backlog_iff.2 ⟨hedge, ?_⟩
      rcases hready with hready | hready | hready
      · exact (hreturns.dod hready).imp_left hlive
      · exact Or.inl (hlive hready)
      · exact Or.inr hready
    · exact (checkMove_free_iff hfree hbacklog).2 hedge
  have hidle : target = .done → ∀ p q, ¬c.Awaits p q := by
    rcases hprior with ⟨rfl, -⟩ | ⟨-, -, hdone⟩
    · exact fun h => absurd h (by decide)
    · exact fun h => hreturns.idle (hdone h)
  obtain ⟨item, b₁, hmove, hmoved⟩ := run_move hs hn hc hcheck hidle reason
  have hrun : (unarchiveOne reason touched id).run b =
      (.ok (id :: touched), b₁.stepped (b₁.state.editItem id WorkItem.unleased)) := by
    unfold unarchiveOne
    rw [Locked.run_bind_ok (run_get id b), hc, hfound]
    dsimp only
    rw [Locked.run_bind_ok (run_childrenOf id b)]
    change (((transition id (unarchiveTarget c.priorState (b.state.isParent id)
      c.definitionOfDone.isSome) "human" reason).mapErr TransitionError.message >>= fun _ =>
        _) : Method String _).run b = _
    rw [htarget, Locked.run_bind, Locked.run_mapErr, hmove]
    rfl
  rw [hrun] at hsound
  refine ⟨_, hrun, fun k hk => ?_, fun k hk => ?_, hsound⟩
  · rw [stepped_state, items_editItem_of_ne fun h => hk (List.mem_singleton.2 h)]
    exact hmoved.others k hk
  · obtain ⟨now, hnow⟩ := hmoved.cards k hk
    obtain rfl := List.mem_singleton.1 hk
    refine ⟨now, ?_⟩
    rw [stepped_state, items_editItem_self, hnow, hc, Option.map_some, Option.map_some,
      Option.map_some, WorkItem.restoredBy, htarget]

/-- Cards without children are restored one after the other. -/
lemma run_unarchive_leaves (hs : b.state.Sound) (hn : b.state.Nested) (hnodup : ks.Nodup)
    (hcards : ∀ k ∈ ks, ∃ c, b.state.items[k]? = some c ∧ c.state = .retired ∧
      c.Returns c.priorState false)
    (hleaf : ∀ k ∈ ks, b.state.isParent k = false) (reason : Option String)
    (touched rest : List ItemId) :
    ∃ b', ((ks ++ rest).foldlM (unarchiveOne reason) touched : Method String _).run b =
        (rest.foldlM (unarchiveOne reason) (ks.reverse ++ touched) : Method String _).run b' ∧
      Reworks (fun _ => WorkItem.restoredBy reason false) ks b.state b'.state := by
  induction ks generalizing b touched with
  | nil => exact ⟨b, rfl, .refl hs⟩
  | cons k ks ih =>
    rw [List.nodup_cons] at hnodup
    obtain ⟨c, hc, hretired, hreturns⟩ := hcards k List.mem_cons_self
    have hk := hleaf k List.mem_cons_self
    obtain ⟨b₁, hrun, hone⟩ := run_unarchiveOne hs hn hc hretired (by rw [hk]; exact hreturns)
      (fun h => absurd (hk.symm.trans h) (by decide)) reason touched
    rw [hk] at hone
    have hothers : ∀ j ∈ ks, b₁.state.items[j]? = b.state.items[j]? := fun j hj =>
      hone.others j fun h => hnodup.1 (List.mem_singleton.1 h ▸ hj)
    have hparents := hone.isParent hs fun _ _ _ => rfl
    obtain ⟨b₂, hrest, hones⟩ := ih hone.sound (hone.nested hn fun _ _ _ => ⟨rfl, rfl⟩) hnodup.2
      (fun j hj => by rw [hothers j hj]; exact hcards j (List.mem_cons_of_mem k hj))
      (fun j hj => by rw [hparents]; exact hleaf j (List.mem_cons_of_mem k hj)) (k :: touched)
    refine ⟨b₂, ?_, hone.append hones fun j hj => List.mem_singleton.1 hj ▸ hnodup.1⟩
    rw [List.cons_append, List.foldlM_cons, Locked.run_bind_ok hrun, hrest, List.reverse_cons,
      List.append_assoc, List.singleton_append]

/-- An unarchive restores the subtree when every card of it is Retired and may return. -/
lemma run_unarchiveScope (hs : b.state.Sound) (hn : b.state.Nested)
    (hc : b.state.items[id]? = some c)
    (hcards : ∀ k c, k ∈ subtree b.state id → b.state.items[k]? = some c →
      c.state = .retired ∧ c.Returns c.priorState (b.state.isParent k))
    {fuel : ℕ} (hfuel : (subtree b.state id).length ≤ fuel) (reason : Option String) :
    ∃ b', (unarchiveScope fuel id reason).run b = (.ok (subtree b.state id), b') ∧
      Reworks (fun k => WorkItem.restoredBy (reason.or (some "unarchived")) (b.state.isParent k))
        (subtree b.state id) b.state b'.state := by
  obtain ⟨hnodup, hunder, hleaf, hexists⟩ := subtree_facts hs.wellFormed hn id
  have hwalk := run_subtreeWalk_subtree hleaf hfuel
  have hchildless : ∀ k ∈ b.state.childrenOfIndexed id, b.state.isParent k = false := by
    intro k hk
    rw [isParent, hleaf k hk]
    rfl
  obtain ⟨hidretired, hidreturns⟩ := hcards id c List.mem_cons_self hc
  unfold subtree at hnodup hcards
  rw [List.nodup_cons, List.mem_reverse, List.nodup_reverse] at hnodup
  obtain ⟨b₁, hrun, hkids⟩ := run_unarchive_leaves hs hn hnodup.2
    (fun k hk => by
      obtain ⟨i, hi⟩ := hexists k hk
      obtain ⟨hretired, hreturns⟩ :=
        hcards k i (List.mem_cons_of_mem id (List.mem_reverse.2 hk)) hi
      rw [hchildless k hk] at hreturns
      exact ⟨i, hi, hretired, hreturns⟩)
    hchildless (reason.or (some "unarchived")) [] [id]
  have hc₁ : b₁.state.items[id]? = some c := (hkids.others id hnodup.1).trans hc
  have hparents := hkids.isParent hs fun _ _ _ => rfl
  have hlive : b₁.state.isParent id = true → b₁.state.hasChildren id = true := by
    rw [hparents]
    intro hparent
    obtain ⟨k, hk⟩ : ∃ k, k ∈ b.state.childrenOfIndexed id := by
      refine List.exists_mem_of_ne_nil _ fun hnil => ?_
      rw [isParent, hnil] at hparent
      cases hparent
    obtain ⟨now, hnow⟩ := hkids.cards k hk
    obtain ⟨i, hi, hchild⟩ := hs.wellFormed.children.mem_bucket.1 hk
    rw [hi, Option.map_some] at hnow
    rw [← Bool.not_eq_false, hkids.sound.wellFormed.hasChildren_eq_false_iff]
    exact fun h => state_restoredBy_ne _ _ _ _ (h k _ hnow hchild)
  obtain ⟨b₂, hroot, hone⟩ := run_unarchiveOne hkids.sound (hkids.nested hn fun _ _ _ => ⟨rfl, rfl⟩)
    hc₁ hidretired (by rw [hparents]; exact hidreturns) hlive (reason.or (some "unarchived"))
    ((b.state.childrenOfIndexed id).reverse ++ [])
  rw [hparents] at hone
  have hfold : ((subtree b.state id).reverse.foldlM
      (unarchiveOne (reason.or (some "unarchived"))) [] : Method String _).run b =
        (.ok (subtree b.state id), b₂) := by
    unfold subtree
    rw [List.reverse_cons, List.reverse_reverse, hrun, List.foldlM_cons,
      Locked.run_bind_ok hroot, List.append_nil]
    rfl
  obtain ⟨b₃, htell, hitems, hsound⟩ := run_tell id
    (fun t => s!"Scope unarchived: {t.title} restored ({(subtree b.state id).length} items).")
    (subtree b.state id) b₂
  have hboth : Reworks (fun k => WorkItem.restoredBy (reason.or (some "unarchived"))
      (b.state.isParent k)) (b.state.childrenOfIndexed id ++ [id]) b.state b₂.state := by
    refine (hkids.congr fun k hk => ?_).append (hone.congr fun k hk => ?_)
      fun k hk h => hnodup.1 (List.mem_singleton.1 h ▸ hk)
    · rw [hchildless k hk]
    · rw [List.mem_singleton.1 hk]
  refine ⟨b₃, ?_, fun k hk => ?_, fun k hk => ?_, hsound hboth.sound⟩
  · unfold unarchiveScope
    rw [Locked.run_bind_ok (run_getOr_some hc _), Locked.run_failIf_bind, if_neg (by
      rw [not_not]; exact hidretired), Locked.run_bind_ok hwalk, Locked.run_bind_ok hfold]
    exact htell
  · rw [hitems]
    refine hboth.others k fun h => hk ?_
    unfold subtree
    simpa [or_comm] using h
  · rw [hitems]
    refine hboth.cards k ?_
    unfold subtree at hk
    simpa [or_comm] using hk

/-- A Project with one Task in its Backlog. -/
def scopedRun : List Operation :=
  [.create ⟨none, "Docs", "", none, .human, false, none⟩,
    .createTask 1 "Guide" "" "Written." [] none true]

end Board

end Unicode

end Sandboard

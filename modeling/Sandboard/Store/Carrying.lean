import Sandboard.Store.Cardwise
import Sandboard.Store.Nesting

/-!
# Cards over operations

`Cardwise` with new cards: every card of the later board is a new one, of which `ν` holds, or comes
from the card of the same id before, by the relation `ρ`; both are those of its id.
Where `ν` and `ρ` have what every operation may do, they have every operation whose own edits
respect `ρ`.
-/

namespace Sandboard

open Std

/-- Every card is a new one of which `ν` holds, or comes from the card of the same id by `ρ`. -/
structure Carried (ν : ItemId → WorkItem → Prop) (ρ : ItemId → WorkItem → WorkItem → Prop)
    (s s' : BoardState) : Prop where
  grows : s.nextId ≤ s'.nextId
  card : ∀ k c', s'.items[k]? = some c' →
    (s.nextId ≤ k ∧ ν k c') ∨ ∃ c, s.items[k]? = some c ∧ ρ k c c'

/-- `ν` holds of new cards, and `ρ` allows what every operation may do with a card. -/
structure CardLaw (ν : ItemId → WorkItem → Prop)
    (ρ : ItemId → WorkItem → WorkItem → Prop) : Prop where
  refl : ∀ k c, ρ k c c
  trans : ∀ k c c' c'', ρ k c c' → ρ k c' c'' → ρ k c c''
  new : ∀ k c c', ν k c → ρ k c c' → ν k c'
  born : ∀ (c : Board.NewCard) (schema : Schema) (now : Time) (id : ItemId),
    ν id (c.toItem schema now id)
  moved : ∀ k c now target byWhom reason, ρ k c (c.moved now target byWhom reason)
  proposed : ∀ k c proposal, ρ k c (WorkItem.withProposal proposal c)
  settled : ∀ k c keep keyToId, ρ k c (Board.settled keep keyToId c)
  blockedOn : ∀ k c blockers, ρ k c (WorkItem.blockedOn blockers c)
  unplanned : ∀ k c, ρ k c (WorkItem.unplanned c)

namespace Carried

variable {ν : ItemId → WorkItem → Prop} {ρ : ItemId → WorkItem → WorkItem → Prop}
  {s s' s'' : BoardState}

lemma of_cardwise (hnext : s'.nextId = s.nextId) (h : Cardwise ρ s s') : Carried ν ρ s s' :=
  ⟨hnext.ge, fun k c' hc' => Or.inr (h k c' hc')⟩

/-- A card that was there comes from itself. -/
lemma rel (h : Carried ν ρ s s') (hs : s.WellFormed) {k : ItemId} {c c' : WorkItem}
    (hc : s.items[k]? = some c) (hc' : s'.items[k]? = some c') : ρ k c c' := by
  rcases h.card k c' hc' with ⟨hnew, -⟩ | ⟨d, hd, hrel⟩
  · exact absurd (hs.fresh k c hc) (Nat.not_lt.2 hnew)
  · rw [hc, Option.some.injEq] at hd
    rw [hd]
    exact hrel

variable (hρ : CardLaw ν ρ)

include hρ

lemma trans (h : Carried ν ρ s s') (h' : Carried ν ρ s' s'') : Carried ν ρ s s'' where
  grows := h.grows.trans h'.grows
  card k c'' hc'' := by
    rcases h'.card k c'' hc'' with ⟨hnew, hν⟩ | ⟨c', hc', hlate⟩
    · exact Or.inl ⟨h.grows.trans hnew, hν⟩
    · rcases h.card k c' hc' with ⟨hnew, hν⟩ | ⟨c, hc, hearly⟩
      · exact Or.inl ⟨hnew, hρ.new k c' c'' hν hlate⟩
      · exact Or.inr ⟨c, hc, hρ.trans k c c' c'' hearly hlate⟩

lemma insert (schema : Schema) (now : Time) (n : Board.NewCard) (s : BoardState) :
    Carried ν ρ s (Board.insertNew schema now n s).2 := by
  refine ⟨Nat.le_succ s.nextId, fun k c' hc' => ?_⟩
  rw [BoardState.items_insertNew_ite] at hc'
  split at hc'
  · rename_i hk
    rw [← Option.some.inj hc', hk]
    exact Or.inl ⟨le_rfl, hρ.born n schema now s.nextId⟩
  · exact Or.inr ⟨c', hc', hρ.refl k c'⟩

lemma delete (id : ItemId) (s : BoardState) : Carried ν ρ s (Board.deleteSection id s).2 := by
  unfold Board.deleteSection
  split
  · exact of_cardwise rfl (.of_items_eq hρ.refl rfl)
  · refine of_cardwise (BoardState.nextId_removeAll _ s) fun k c' hc' => ?_
    rw [ExtTreeMap.getElem?_map, BoardState.items_removeAll] at hc'
    obtain ⟨c, hc, rfl⟩ := Option.map_eq_some_iff.1 hc'
    split at hc
    · cases hc
    · exact ⟨c, hc, hρ.blockedOn k c _⟩

/-- The edits that the relation allows, and what every operation may do. -/
lemma covers : Covers (fun id f => ∀ c, ρ id c (f c)) (Carried ν ρ) where
  aside hitems hnext _ _ := of_cardwise hnext (.of_items_eq hρ.refl hitems)
  trans := trans hρ
  edit _ hf := of_cardwise rfl
    (.of_one hρ.refl (fun _ => BoardState.items_editItem _) fun c _ => hf c)
  move {id target byWhom} s now reason _ := by
    unfold BoardState.tryMove
    cases hlocked : s.transitionLocked now id target byWhom reason with
    | error e => exact of_cardwise rfl (.of_items_eq hρ.refl rfl)
    | ok r =>
      obtain ⟨item, s₁⟩ := r
      obtain ⟨c, hc, -, rfl, -⟩ := BoardState.transitionLocked_eq_ok_iff.1 hlocked
      refine of_cardwise rfl (.of_one hρ.refl
        (fun _ => BoardState.items_moveItem _ _ _ _ _) fun d _ => ?_)
      exact hρ.moved id d now target byWhom reason
  insert := insert hρ
  propose id proposal c := hρ.proposed id c proposal
  settle id keep keyToId c := hρ.settled id c keep keyToId
  link id blockers c := hρ.blockedOn id c blockers
  unplan id c := hρ.unplanned id c

/-- An operation carries the cards over when its own edits respect the relation. -/
theorem exec [UnicodeTables] {op : Operation} (h : op.EditsIn fun id f => ∀ c, ρ id c (f c))
    (b : Board) : Carried ν ρ b.state (b.exec op).state :=
  Board.covered_exec (covers hρ) (delete hρ) h b

end Carried

/-- No operation takes an id back. -/
lemma Board.nextId_le_exec [UnicodeTables] (b : Board) (op : Operation) :
    b.state.nextId ≤ (b.exec op).state.nextId := by
  have hlaw : CardLaw (fun _ _ => True) fun _ _ _ => True := by constructor <;> intros <;> trivial
  have hedits : op.EditsIn fun _ _ => ∀ _ : WorkItem, True := by
    cases op <;> simp [Operation.EditsIn]
  exact (Carried.exec hlaw hedits b).grows

end Sandboard

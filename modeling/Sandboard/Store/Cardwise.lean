import Sandboard.Store.Shaping

/-!
# Card by card

A relation on single cards, lifted to boards: every card of the later board comes from the card
of the same id before, by the relation of that id.  When the relation is reflexive and transitive,
the methods that make no card respect it as soon as their edits and their moves do.
-/

namespace Sandboard

/-- Every card comes from the card of the same id, by the relation of that id. -/
def Cardwise (ρ : ItemId → WorkItem → WorkItem → Prop) (s s' : BoardState) : Prop :=
  ∀ k c', s'.items[k]? = some c' → ∃ c, s.items[k]? = some c ∧ ρ k c c'

namespace Cardwise

variable {ρ ρ' : ItemId → WorkItem → WorkItem → Prop} {s s' s'' : BoardState}

lemma of_items_eq (hrefl : ∀ k c, ρ k c c) (h : s'.items = s.items) : Cardwise ρ s s' := by
  intro k c hc
  rw [h] at hc
  exact ⟨c, hc, hrefl k c⟩

lemma trans (htrans : ∀ k c c' c'', ρ k c c' → ρ k c' c'' → ρ k c c'') (h : Cardwise ρ s s')
    (h' : Cardwise ρ s' s'') : Cardwise ρ s s'' := by
  intro k c'' hc''
  obtain ⟨c', hc', hlate⟩ := h' k c'' hc''
  obtain ⟨c, hc, hearly⟩ := h k c' hc'
  exact ⟨c, hc, htrans k c c' c'' hearly hlate⟩

lemma mono (hρ : ∀ k c c', ρ k c c' → ρ' k c c') (h : Cardwise ρ s s') : Cardwise ρ' s s' := by
  intro k c' hc'
  obtain ⟨c, hc, hcc⟩ := h k c' hc'
  exact ⟨c, hc, hρ k c c' hcc⟩

/-- The card of an id, when it is known before. -/
lemma rel (h : Cardwise ρ s s') {k : ItemId} {c c' : WorkItem} (hc : s.items[k]? = some c)
    (hc' : s'.items[k]? = some c') : ρ k c c' := by
  obtain ⟨d, hd, hrel⟩ := h k c' hc'
  cases hd.symm.trans hc
  exact hrel

/-- One card is changed. -/
lemma of_one (hrefl : ∀ k c, ρ k c c) {id : ItemId} {f : WorkItem → WorkItem}
    (hitems : ∀ k, s'.items[k]? = if k = id then s.items[k]?.map f else s.items[k]?)
    (hf : ∀ c, s.items[id]? = some c → ρ id c (f c)) : Cardwise ρ s s' := by
  intro k c' hc'
  rw [hitems] at hc'
  split at hc'
  · rename_i hk
    subst hk
    obtain ⟨c, hc, rfl⟩ := Option.map_eq_some_iff.1 hc'
    exact ⟨c, hc, hf c hc⟩
  · exact ⟨c', hc', hrefl k c'⟩

/-- The edits and the moves that the relation allows. -/
lemma shapes (hrefl : ∀ k c, ρ k c c)
    (htrans : ∀ k c c' c'', ρ k c c' → ρ k c' c'' → ρ k c c'') :
    Shapes (fun id f => ∀ c, ρ id c (f c))
      (fun id target byWhom => ∀ c now reason, allowed c.state target = true →
        ρ id c (c.moved now target byWhom reason)) (Cardwise ρ) where
  aside hitems _ _ _ := of_items_eq hrefl hitems
  trans := trans htrans
  edit _ hf := of_one hrefl (fun _ => BoardState.items_editItem _) fun c _ => hf c
  move {id target byWhom} s now reason hmove := by
    unfold BoardState.tryMove
    cases hlocked : s.transitionLocked now id target byWhom reason with
    | error e => exact of_items_eq hrefl rfl
    | ok r =>
      obtain ⟨item, s₁⟩ := r
      obtain ⟨c, hc, hcheck, rfl, -⟩ := BoardState.transitionLocked_eq_ok_iff.1 hlocked
      refine of_one hrefl (fun _ => BoardState.items_moveItem _ _ _ _ _) fun d hd => ?_
      cases hc.symm.trans hd
      exact hmove c now reason (allowed_of_check hcheck)

end Cardwise

end Sandboard

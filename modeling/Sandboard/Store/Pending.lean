import Sandboard.Store.Nesting

/-!
# Stored proposals

A property of the proposals on a board that the stamping of ids keeps.  Cards lose their
proposals or keep them; new ones come from the methods that store one.
-/

namespace Sandboard

namespace BoardState

variable {P : ItemId → TaskProposal → Prop} {s s' : BoardState} {id : ItemId}

/-- The proposal of every card `k` satisfies `P k`. -/
def ProposalsAt (P : ItemId → TaskProposal → Prop) (s : BoardState) : Prop :=
  ∀ (k : ItemId) (i : WorkItem) (p : TaskProposal), s.items[k]? = some i → i.proposal = some p →
    P k p

/-- Every proposal on the board satisfies `P`. -/
def Proposals (P : TaskProposal → Prop) (s : BoardState) : Prop :=
  s.ProposalsAt fun _ => P

namespace ProposalsAt

lemma empty : BoardState.empty.ProposalsAt P := fun k i p h => by
  simp [BoardState.empty] at h

lemma of_items (h : s.ProposalsAt P) (hitems : s'.items = s.items) : s'.ProposalsAt P :=
  fun k i p hi hp => h k i p (hitems ▸ hi) hp

/-- An edit of one card whose proposal satisfies `P` afterwards. -/
lemma edit (h : s.ProposalsAt P) {f : WorkItem → WorkItem} (id : ItemId)
    (hf : ∀ i p, s.items[id]? = some i → (f i).proposal = some p → P id p) :
    (s.editItem id f).ProposalsAt P := by
  intro k i p hi hp
  rw [items_editItem] at hi
  split at hi
  · rename_i hk
    subst hk
    obtain ⟨j, hj, rfl⟩ := Option.map_eq_some_iff.1 hi
    exact hf j p hj hp
  · exact h k i p hi hp

/-- An edit outside the proposal. -/
lemma edit_of_same (h : s.ProposalsAt P) {f : WorkItem → WorkItem} (id : ItemId)
    (hf : ∀ i, (f i).proposal = i.proposal) : (s.editItem id f).ProposalsAt P :=
  h.edit id fun i p hi hp => h id i p hi ((hf i).symm.trans hp)

lemma work (h : s.ProposalsAt P) {L : Licence} {c c' : WorkItem} (hworked : Worked L id s c s' c') :
    s'.ProposalsAt P := by
  induction hworked with
  | refl => exact h
  | edit hworked hf ih =>
    refine ih.edit id fun i p hi hp => ?_
    rcases (hf i).proposal with hsame | hdropped
    · exact ih id i p hi (hsame.symm.trans hp)
    · rw [hdropped] at hp
      cases hp
  | move hworked now byWhom reason hcheck hmove ih => exact ih.edit_of_same id fun _ => rfl

/-- A new card has no proposal. -/
lemma insert (h : s.ProposalsAt P) (schema : Schema) (now : Time) (c : Board.NewCard) :
    (Board.insertNew schema now c s).2.ProposalsAt P := by
  intro k i p hi hp
  rw [items_insertNew_ite] at hi
  split at hi
  · cases hi
    cases hp
  · exact h k i p hi hp

lemma propose (h : s.ProposalsAt P) {p : TaskProposal} (id : ItemId) (hp : P id p) :
    (s.editItem id (WorkItem.withProposal p)).ProposalsAt P :=
  h.edit id fun _ _ _ hq => Option.some.inj hq ▸ hp

lemma settle (h : s.ProposalsAt P)
    (id : ItemId) (hstamp : ∀ keyToId p, P id p → P id (Board.stampItemIds keyToId p))
    (keep : Bool) (keyToId : List (String × ItemId)) :
    (s.editItem id (Board.settled keep keyToId)).ProposalsAt P := by
  refine h.edit id fun i q hi hq => ?_
  unfold Board.settled at hq
  cases keep with
  | false => cases hq
  | true =>
    obtain ⟨p, hp, rfl⟩ := Option.map_eq_some_iff.1 hq
    exact hstamp keyToId p (h id i p hi hp)

lemma delete (h : s.ProposalsAt P) (hs : s.WellFormed) (hn : s.Nested) (id : ItemId) :
    (Board.deleteSection id s).2.ProposalsAt P := by
  cases hc : s.items[id]? with
  | none =>
    have hsame : (Board.deleteSection id s).2 = s := by simp [Board.deleteSection, hc]
    rw [hsame]
    exact h
  | some c =>
    obtain ⟨gone, -, -, hitems⟩ := items_deleteSection hs hn hc
    intro k i p hi hp
    rw [hitems] at hi
    split at hi
    · cases hi
    · obtain ⟨j, hj, rfl⟩ := Option.map_eq_some_iff.1 hi
      exact h k j p hj hp

end ProposalsAt

end BoardState

end Sandboard

import Sandboard.Store.Feed
import Sandboard.Store.Telling

/-!
# The copies of the board

Two copies depend on being told.  A client that has the cards of a board, and applies each event
that is sent after that, has a copy of the cards; and the rows of the database are a copy as long as
the board is not dirty.  After any run each copy is exact but for the cards that an operation left
without telling; a client moreover keeps what the deletion of a card took along with it, since only
the card itself is told.
-/

namespace Sandboard

open Std (ExtTreeMap)

open BoardState

/-! ## Clients -/

/-- What the walk of a deletion found stays found. -/
lemma subset_deleteWalk (s : BoardState) (fuel : ℕ) (stack found : List ItemId) :
    found ⊆ Board.deleteWalk s fuel stack found := by
  induction fuel generalizing stack found with
  | zero => exact List.Subset.refl found
  | succ fuel ih =>
    cases stack with
    | nil => exact List.Subset.refl found
    | cons cur stack => exact List.Subset.trans (List.subset_append_left found [cur]) (ih _ _)

/-- A deleted card is gone. -/
lemma items_deleteSection_self (id : ItemId) (s : BoardState) :
    (Board.deleteSection id s).2.items[id]? = none := by
  unfold Board.deleteSection
  split
  · rename_i hnone
    exact Option.isNone_iff_eq_none.1 hnone
  · have hroot : id ∈ Board.deleteWalk s (Board.deleteFuel s) [id] [] := by
      unfold Board.deleteFuel
      rw [Nat.add_comm 2, Board.deleteWalk]
      exact subset_deleteWalk s _ _ _ (List.mem_singleton_self id)
    dsimp only
    rw [ExtTreeMap.getElem?_map, items_removeAll, if_pos hroot]
    rfl

/-- A client that had the cards `base` when `n` events were sent has, but for the cards in `S`,
the cards of the board. -/
structure Mirrors (base : ExtTreeMap ItemId WorkItem) (n : ℕ) (S : Set ItemId) (b : Board) :
    Prop where
  sent : n ≤ b.tx.length
  copied : ∀ k, k ∉ S →
    ((replay base (b.tx.drop n))[k]?).map WorkItem.bare = (b.state.items[k]?).map WorkItem.bare

/-- The other cards that the deletion of the card `id` changes. -/
def takenAlong (b : Board) (id : ItemId) : Set ItemId :=
  {k | k ≠ id ∧ (Board.deleteSection id b.state).2.items[k]? ≠ b.state.items[k]?}

namespace Mirrors

variable {base : ExtTreeMap ItemId WorkItem} {n : ℕ} {S T : Set ItemId} {b b' : Board}
  {id : ItemId} {s' : BoardState} {c c' item : WorkItem}

lemma mono (h : Mirrors base n S b) (hST : S ⊆ T) : Mirrors base n T b :=
  ⟨h.sent, fun k hk => h.copied k fun hS => hk (hST hS)⟩

/-- Neither the cards nor the channel change. -/
lemma aside (h : Mirrors base n S b) (hitems : b'.state.items = b.state.items)
    (htx : b'.tx = b.tx) : Mirrors base n S b' := by
  refine ⟨?_, ?_⟩
  · rw [htx]
    exact h.sent
  · rw [hitems, htx]
    exact h.copied

lemma flushed (h : Mirrors base n S b) : Mirrors base n S b.flushed := by
  unfold Board.flushed
  split
  · exact h.aside rfl rfl
  · exact h

/-- One event is sent. -/
lemma replay_sent (h : Mirrors base n S b) {event : BoardEvent} (htx : b'.tx = b.tx ++ [event]) :
    n ≤ b'.tx.length ∧
      replay base (b'.tx.drop n) = event.applyTo (replay base (b.tx.drop n)) := by
  rw [htx, List.length_append]
  refine ⟨h.sent.trans (Nat.le_add_right _ _), ?_⟩
  rw [List.drop_append_of_le_length h.sent, replay_append]
  rfl

/-- An event about no card is sent. -/
lemma tells (h : Mirrors base n S b) {event : BoardEvent}
    (hevent : ∀ items, event.applyTo items = items) (hitems : b'.state.items = b.state.items)
    (htx : b'.tx = b.tx ++ [event]) : Mirrors base n S b' := by
  obtain ⟨hsent, hreplay⟩ := h.replay_sent htx
  refine ⟨hsent, fun k hk => ?_⟩
  rw [hreplay, hevent, hitems]
  exact h.copied k hk

/-- One card is changed, and no event tells it. -/
lemma spoiled (h : Mirrors base n S b) (hsame : SameBut id b.state s') (hid : id ∈ S) :
    Mirrors base n S (b.stepped s') := by
  refine ⟨h.sent, fun k hk => ?_⟩
  have hne : k ≠ id := by
    intro heq
    rw [heq] at hk
    exact hk hid
  rw [Board.stepped_state, hsame k hne]
  exact h.copied k hk

/-- One card is changed in what no event is meant to carry. -/
lemma unnoticed (h : Mirrors base n S b) (hsame : SameBut id b.state s')
    (hc : b.state.items[id]? = some c) (hc' : s'.items[id]? = some c') (hbare : c'.bare = c.bare) :
    Mirrors base n S (b.stepped s') := by
  refine ⟨h.sent, fun k hk => ?_⟩
  rw [Board.stepped_state]
  by_cases hkid : k = id
  · have hcopied := h.copied k hk
    rw [hkid, hc] at hcopied
    rw [hkid, hc', Option.map_some, hbare]
    exact hcopied
  · rw [hsame k hkid]
    exact h.copied k hk

/-- A card is sent as it is on the board. -/
lemma emitted (h : Mirrors base n (insert id S) b) (hc : b.state.items[id]? = some c)
    (hid : c.id = id) (hitem : item.bare = c.bare) : Mirrors base n S (b.emitted item) := by
  have hitemid : item.id = id := by
    rw [← WorkItem.bare_id, hitem, WorkItem.bare_id, hid]
  have htx : (b.emitted item).tx =
      b.tx ++ [.upsert (b.seq + 1) (b.state.populateBlockers item)] := rfl
  obtain ⟨hsent, hreplay⟩ := h.replay_sent htx
  refine ⟨hsent, fun k hk => ?_⟩
  rw [hreplay, BoardEvent.applyTo, ExtTreeMap.getElem?_insert]
  change ((if compare item.id k = .eq then _ else _) : Option WorkItem).map _ =
    (b.state.items[k]?).map _
  by_cases hkid : k = id
  · have heq : compare item.id k = .eq := by rw [hitemid, hkid, Std.compare_self]
    rw [if_pos heq, hkid, hc, Option.map_some, Option.map_some, WorkItem.bare_populateBlockers,
      hitem]
  · have hne : compare item.id k ≠ .eq := by
      rw [Ne, Std.compare_eq_iff_eq, hitemid]
      exact fun heq => hkid heq.symm
    have hout : k ∉ insert id S := by
      rw [Set.mem_insert_iff, not_or]
      exact ⟨hkid, hk⟩
    rw [if_neg hne]
    exact h.copied k hout

/-- The deletion of a card tells of the card itself. -/
lemma deleted (h : Mirrors base n S b) {s : BoardState}
    (hsection : Board.deleteSection id b.state = (.ok (), s)) :
    Mirrors base n (S ∪ takenAlong b id) (b.deleted id s) := by
  have htx : (b.deleted id s).tx = b.tx ++ [.delete ((b.deleted id s).seq) id] := by
    unfold Board.deleted Board.flushed
    rfl
  have hstate : (b.deleted id s).state = (Board.deleteSection id b.state).2 := by
    rw [hsection]
    exact Board.flushed_state _
  obtain ⟨hsent, hreplay⟩ := h.replay_sent htx
  refine ⟨hsent, fun k hk => ?_⟩
  rw [Set.mem_union, not_or] at hk
  rw [hreplay, BoardEvent.applyTo, ExtTreeMap.getElem?_erase, hstate]
  by_cases hkid : k = id
  · rw [hkid, if_pos (Std.compare_self), items_deleteSection_self]
  · have hne : compare id k ≠ .eq := by
      rw [Ne, Std.compare_eq_iff_eq]
      exact fun heq => hkid heq.symm
    have hkept : (Board.deleteSection id b.state).2.items[k]? = b.state.items[k]? :=
      Classical.not_not.1 fun hchanged => hk.2 ⟨hkid, hchanged⟩
    rw [if_neg hne, hkept]
    exact h.copied k hk.1

end Mirrors

/-- The copy of a client depends on being told. -/
lemma heeds_mirrors (base : ExtTreeMap ItemId WorkItem) (n : ℕ) :
    Heeds (Mirrors base n) takenAlong where
  mono h hST := h.mono hST
  tick h := h.aside rfl rfl
  told _ _ h := h.tells (fun _ => rfl) rfl rfl
  advanced _ _ h := h.tells (fun _ => rfl) rfl rfl
  flushed h := h.flushed
  profiles _ h := h.aside rfl rfl
  spoiled h hsame hid := h.spoiled hsame hid
  unnoticed h hsame hc hc' hbare := h.unnoticed hsame hc hc' hbare
  emits h hc hid hitem := h.emitted hc hid hitem
  deleted h hsection := h.deleted hsection

/-- A client that takes the cards of a board, and from then on every event, has the cards of the
board after any run, but for those that an operation of the run left without telling. -/
theorem replica_exact [UnicodeTables] (schema : Schema) (clock : ℕ → ℕ → Time)
    (saveSucceeds : ℕ → Bool) (ops ops' : List Operation) :
    let b := (Board.new schema clock saveSucceeds).after ops
    let copy := replay b.state.items ((b.after ops').tx.drop b.tx.length)
    {k | (copy[k]?).map WorkItem.bare ≠ ((b.after ops').state.items[k]?).map WorkItem.bare} ⊆
      b.quietly takenAlong ops' := by
  intro b copy k hk
  have hs : b.state.Sound :=
    (Board.sound_new schema clock saveSucceeds).reshaped (Board.reshaped_after _ ops)
  have hstart : Mirrors b.state.items b.tx.length ∅ b := by
    refine ⟨Nat.le_refl _, fun k _ => ?_⟩
    rw [List.drop_length]
    rfl
  have hrun := (heeds_mirrors b.state.items b.tx.length).after ops' ⟨hs, hstart⟩
  rw [Set.empty_union] at hrun
  by_contra hloud
  exact hk (hrun.2.copied k hloud)

/-! ## Rows -/

/-- While the board is not dirty the rows have, but for the cards in `S`, the cards of the board. -/
def Durable (S : Set ItemId) (b : Board) : Prop :=
  b.dirty = false → ∀ k, k ∉ S →
    (b.rows.items[k]?).map WorkItem.bare = (b.state.items[k]?).map WorkItem.bare

namespace Durable

variable {S T : Set ItemId} {b : Board} {id : ItemId} {s' : BoardState} {c c' : WorkItem}

lemma of_dirty (h : b.dirty = true) : Durable S b :=
  fun hclean => absurd (h.symm.trans hclean) (by decide)

lemma flushed (h : Durable S b) : Durable S b.flushed := by
  unfold Board.flushed
  split
  · intro hclean k hk
    dsimp only at hclean ⊢
    have hsaved : b.saveSucceeds b.saves = true := by simpa using hclean
    rw [if_pos hsaved]
  · exact h

/-- One card is changed, and no event tells it. -/
lemma spoiled (h : Durable S b) (hsame : SameBut id b.state s') (hid : id ∈ S) :
    Durable S (b.stepped s') := by
  intro hclean k hk
  have hne : k ≠ id := by
    intro heq
    rw [heq] at hk
    exact hk hid
  rw [Board.stepped_state, hsame k hne]
  exact h hclean k hk

/-- One card is changed in what no event is meant to carry. -/
lemma unnoticed (h : Durable S b) (hsame : SameBut id b.state s')
    (hc : b.state.items[id]? = some c) (hc' : s'.items[id]? = some c') (hbare : c'.bare = c.bare) :
    Durable S (b.stepped s') := by
  intro hclean k hk
  rw [Board.stepped_state]
  by_cases hkid : k = id
  · have hsaved := h hclean k hk
    rw [hkid, hc] at hsaved
    rw [hkid, hc', Option.map_some, hbare]
    exact hsaved
  · rw [hsame k hkid]
    exact h hclean k hk

end Durable

/-- The rows depend on being told. -/
lemma heeds_durable : Heeds Durable fun _ _ => ∅ where
  mono h hST := fun hclean k hk => h hclean k fun hS => hk (hST hS)
  tick h := h
  told _ _ _ := .of_dirty rfl
  advanced _ _ h := h
  flushed h := h.flushed
  profiles _ _ := .of_dirty rfl
  spoiled h hsame hid := h.spoiled hsame hid
  unnoticed h hsame hc hc' hbare := h.unnoticed hsame hc hc' hbare
  emits _ _ _ _ := .of_dirty rfl
  deleted {S b id s} h hsection := by
    rw [Set.union_empty]
    have hdirty : Durable S { b.stepped s with dirty := true } := .of_dirty rfl
    exact hdirty.flushed

/-- A run that creates a card, parks it and saves the board. -/
def savedRun : List Operation :=
  [.create ⟨none, "Docs", "", none, .human, false, none⟩, .park 1 none, .flush]

end Sandboard

import Sandboard.Store.Simulation
import Sandboard.Store.Tables

/-!
# The hygiene of Projects

`healCompletedEpics` goes over the Projects and moves those whose Tasks are all Done or Retired to
Done.  A Draft goes through Shaping first, but a Project in Claimed has no edge to Done: the move
is refused, and the Project is counted as healed all the same.  So the hygiene does what it is for
(`Heals`) exactly when no completed Project is in Claimed (`heals_iff`).
-/

namespace Sandboard

open Std Text BoardState

namespace BoardState

variable {s s' : BoardState} {id : ItemId} {c : WorkItem}

/-- The card is a Project that is neither Done nor Retired, and its Tasks, of which there are some,
all are. -/
structure Completed (s : BoardState) (id : ItemId) (c : WorkItem) : Prop where
  item : s.items[id]? = some c
  root : c.parent = none
  live : c.state.isTerminal = false
  ended : s.tasksEnded id = true

/-- How many cards of the board `s` have become Done in `s'`. -/
def finishedCount (s s' : BoardState) : ℕ :=
  s.cards.countP fun i => i.state != .done && s'.items[i.id]?.any fun j => j.state == .done

lemma SameTasks.symm (h : SameTasks s s') : SameTasks s' s := fun k c hc => (h k c hc).symm

lemma SameTasks.trans {s'' : BoardState} (h : SameTasks s s') (h' : SameTasks s' s'') :
    SameTasks s s'' := fun k c hc => (h' k c hc).trans (h k c hc)

/-- The same Tasks have ended. -/
lemma SameTasks.tasksEnded_eq (h : SameTasks s s') (id : ItemId) :
    s'.tasksEnded id = s.tasksEnded id := by
  rw [Bool.eq_iff_iff]
  exact ⟨h.tasksEnded, h.symm.tasksEnded⟩

/-- A change to one root leaves the Tasks alone. -/
lemma SameTasks.of_root {c' : WorkItem} (hothers : ∀ k, k ≠ id → s'.items[k]? = s.items[k]?)
    (hc : s.items[id]? = some c) (hroot : c.parent = none) (hc' : s'.items[id]? = some c')
    (hroot' : c'.parent = none) : SameTasks s s' := by
  intro k d hparent
  have hno : ∀ d' : WorkItem, d'.parent = none → some d' ≠ some d := by
    intro d' hnone heq
    rw [Option.some.injEq] at heq
    rw [← heq, hnone] at hparent
    cases hparent
  by_cases hk : k = id
  · rw [hk, hc', hc]
    exact iff_of_false (hno c' hroot') (hno c hroot)
  · rw [hothers k hk]

end BoardState

namespace Board

section Unicode

variable [UnicodeTables] {ε : Type} {b : Board} {id : ItemId} {c : WorkItem}

/-- What the hygiene is for: the completed Projects are Done, the state of every other card is
left alone, the number that is returned is that of the Projects that became Done, and a second
call does nothing. -/
structure Heals (b b' : Board) (healed : ℕ) : Prop where
  completed : ∀ id c, b.state.Completed id c →
    b'.state.items[id]?.map WorkItem.state = some .done
  others : ∀ id, (∀ c, ¬b.state.Completed id c) →
    b'.state.items[id]?.map WorkItem.state = b.state.items[id]?.map WorkItem.state
  count : healed = b.state.finishedCount b'.state
  again : (healCompletedEpics : Method Empty ℕ).run b' = (.ok 0, b')

/-! ## One Project -/

/-- The state that the hygiene leaves a Project in. -/
def healedState (ended : Bool) (state : State) : State :=
  if ended && state != .claimed then .done else state

/-- One Project after its round: the other cards are left alone. -/
structure Treated (id : ItemId) (state : State) (s s' : BoardState) : Prop where
  wellFormed : s'.WellFormed
  others : ∀ k, k ≠ id → s'.items[k]? = s.items[k]?
  root : ∃ c, s'.items[id]? = some c ∧ c.parent = none ∧ c.state = state

omit [UnicodeTables] in
/-- The edges from a state that is not Done or Retired to Done: every one has it but Draft and
Claimed. -/
lemma allowed_done {state : State} (hlive : state.isTerminal = false) (hdraft : state ≠ .draft) :
    allowed state .done = true ↔ state ≠ .claimed := by
  cases state <;> simp_all [allowed, State.isTerminal]

/-- The moves of a Project whose Tasks have ended. -/
lemma treated_moves (hb : b.state.WellFormed) (hc : b.state.items[id]? = some c)
    (hroot : c.parent = none) (hlive : c.state.isTerminal = false) (reason : Option String) :
    Treated id (healedState true c.state) b.state
      ((transition id .done "epic-hygiene" reason).run
        (if c.state = .draft then ((transition id .shaping "epic-hygiene" none).run b).2
          else b)).2.state := by
  have hfinish : ∀ {b : Board} {c : WorkItem}, b.state.WellFormed → b.state.items[id]? = some c →
      c.parent = none → RootMoved (fun _ => True) id c .done b.state
        ((transition id .done "epic-hygiene" reason).run b).2.state := fun hb hc hroot =>
    rootMoved_transition hb hc hroot rfl (by decide) _ _ fun hedge =>
      step_finish_root (fun _ => trivial) hedge _
  by_cases hdraft : c.state = .draft
  · rw [if_pos hdraft]
    have hshaped : RootMoved (fun _ => True) id c .shaping b.state
        ((transition id .shaping "epic-hygiene" none).run b).2.state :=
      rootMoved_transition hb hc hroot rfl (by decide) _ _ fun _ => .shape (Or.inl hdraft) _
    obtain ⟨c₁, hc₁, hroot₁, hstate₁⟩ := hshaped.root
    have hshaping : c₁.state = .shaping := by
      rw [hstate₁, hdraft]
      rfl
    have hdone := hfinish hshaped.wellFormed hc₁ hroot₁
    obtain ⟨c₂, hc₂, hroot₂, hstate₂⟩ := hdone.root
    refine ⟨hdone.wellFormed, fun k hk => ?_, c₂, hc₂, hroot₂, ?_⟩
    · rw [hdone.others k hk, hshaped.others k hk]
    · rw [hstate₂, hshaping, hdraft]
      rfl
  · rw [if_neg hdraft]
    have hdone := hfinish hb hc hroot
    obtain ⟨c₂, hc₂, hroot₂, hstate₂⟩ := hdone.root
    refine ⟨hdone.wellFormed, hdone.others, c₂, hc₂, hroot₂, ?_⟩
    rw [hstate₂]
    simp [healedState, allowed_done hlive hdraft]

/-- A round returns, and counts the Project when its Tasks have ended. -/
lemma run_healEpic_count (healed : ℕ) (id : ItemId) (state : State) (b : Board) :
    ((healEpic healed (id, state) : Method ε ℕ).run b).1 =
      .ok (healed + if b.state.tasksEnded id then 1 else 0) := by
  have hread : (read fun s => s.tasksEnded id : Method ε Bool).run b =
      (.ok (b.state.tasksEnded id), b) := rfl
  change (((read fun s => s.tasksEnded id : Method ε Bool) >>= _).run b).1 = _
  rw [Locked.run_bind_ok hread]
  split
  · by_cases hdraft : state = .draft
    · simp [Locked.when, hdraft]
    · simp [Locked.when, hdraft]
  · rfl

/-- A round over a Project that has open Tasks, or none, does nothing. -/
lemma run_healEpic_idle (healed : ℕ) {id : ItemId} (state : State) {b : Board}
    (hended : b.state.tasksEnded id = false) :
    (healEpic healed (id, state) : Method ε ℕ).run b = (.ok healed, b) := by
  have hread : (read fun s => s.tasksEnded id : Method ε Bool).run b = (.ok false, b) := by
    rw [← hended]
    rfl
  change ((read fun s => s.tasksEnded id : Method ε Bool) >>= _).run b = _
  rw [Locked.run_bind_ok hread]
  rfl

/-- One round. -/
lemma run_healEpic (healed : ℕ) (hb : b.state.WellFormed) (hc : b.state.items[id]? = some c)
    (hroot : c.parent = none) (hlive : c.state.isTerminal = false) :
    ∃ b', (healEpic healed (id, c.state) : Method ε ℕ).run b =
        (.ok (healed + if b.state.tasksEnded id then 1 else 0), b') ∧
      Treated id (healedState (b.state.tasksEnded id) c.state) b.state b'.state := by
  refine ⟨_, Prod.ext (run_healEpic_count healed id c.state b) rfl, ?_⟩
  rw [run_healEpic_state]
  cases b.state.tasksEnded id with
  | true =>
    rw [if_pos rfl]
    exact treated_moves hb hc hroot hlive _
  | false => exact ⟨hb, fun _ _ => rfl, c, hc, hroot, rfl⟩

/-! ## All Projects -/

/-- The Projects that a run of the hygiene goes over. -/
def epics (s : BoardState) : List (ItemId × State) :=
  (s.cards.filter fun i => i.parent.isNone && !i.state.isTerminal).map fun i => (i.id, i.state)

omit [UnicodeTables] in
lemma mem_epics {s : BoardState} (hs : s.WellFormed) {p : ItemId × State} :
    p ∈ epics s ↔ ∃ c, s.items[p.1]? = some c ∧ c.parent = none ∧ c.state = p.2 ∧
      c.state.isTerminal = false := by
  simp only [epics, List.mem_map, List.mem_filter, hs.mem_cards_iff, Bool.and_eq_true,
    Option.isNone_iff_eq_none, Bool.not_eq_true']
  constructor
  · rintro ⟨c, ⟨hc, hroot, hlive⟩, rfl⟩
    exact ⟨c, hc, hroot, rfl, hlive⟩
  · rintro ⟨c, hc, hroot, hstate, hlive⟩
    have hid : c.id = p.1 := hs.key p.1 c hc
    exact ⟨c, ⟨hid ▸ hc, hroot, hlive⟩, Prod.ext hid hstate⟩

/-- The rounds over a list of Projects. -/
lemma run_foldlM_healEpic (todo : List (ItemId × State)) (hnodup : (todo.map Prod.fst).Nodup)
    (healed : ℕ) {b : Board} (hb : b.state.WellFormed)
    (htodo : ∀ p ∈ todo, ∃ c, b.state.items[p.1]? = some c ∧ c.parent = none ∧ c.state = p.2 ∧
      c.state.isTerminal = false) :
    ∃ b', (todo.foldlM healEpic healed : Method ε ℕ).run b =
        (.ok (healed + todo.countP fun p => b.state.tasksEnded p.1), b') ∧
      b'.state.WellFormed ∧ SameTasks b.state b'.state ∧
      (∀ k, k ∉ todo.map Prod.fst → b'.state.items[k]? = b.state.items[k]?) ∧
      ∀ p ∈ todo, b'.state.items[p.1]?.map WorkItem.state =
        some (healedState (b.state.tasksEnded p.1) p.2) := by
  induction todo generalizing b healed with
  | nil => exact ⟨b, rfl, hb, fun _ _ _ => Iff.rfl, fun _ _ => rfl, nofun⟩
  | cons p todo ih =>
    obtain ⟨pid, state⟩ := p
    obtain ⟨c, hc, hroot, rfl, hlive⟩ := htodo _ List.mem_cons_self
    obtain ⟨hnot, hnodup⟩ := List.nodup_cons.1 hnodup
    obtain ⟨b₁, hrun, htreated⟩ := run_healEpic (ε := ε) healed hb hc hroot hlive
    obtain ⟨c₁, hc₁, hroot₁, hstate₁⟩ := htreated.root
    have hsame : SameTasks b.state b₁.state := .of_root htreated.others hc hroot hc₁ hroot₁
    have htodo₁ : ∀ p ∈ todo, ∃ c, b₁.state.items[p.1]? = some c ∧ c.parent = none ∧
        c.state = p.2 ∧ c.state.isTerminal = false := by
      intro p hp
      have hne : p.1 ≠ pid := by
        rintro rfl
        exact hnot (List.mem_map.2 ⟨p, hp, rfl⟩)
      rw [htreated.others p.1 hne]
      exact htodo p (List.mem_cons_of_mem _ hp)
    obtain ⟨b', hrest, hwf, hsame', hothers, hdone⟩ := ih hnodup _ htreated.wellFormed htodo₁
    refine ⟨b', ?_, hwf, hsame.trans hsame', fun k hk => ?_, fun p hp => ?_⟩
    · rw [List.foldlM_cons, Locked.run_bind_ok hrun, hrest]
      simp only [hsame.tasksEnded_eq, List.countP_cons, Nat.add_assoc, Nat.add_comm]
    · rw [List.map_cons, List.mem_cons, not_or] at hk
      rw [hothers k hk.2, htreated.others k hk.1]
    · rcases List.mem_cons.1 hp with rfl | hp
      · rw [hothers pid hnot, hc₁, Option.map_some, hstate₁]
      · rw [hdone p hp, hsame.tasksEnded_eq]

/-- The hygiene as a whole. -/
lemma run_healCompletedEpics (hb : b.state.WellFormed) :
    ∃ b', (healCompletedEpics : Method ε ℕ).run b =
        (.ok ((epics b.state).countP fun p => b.state.tasksEnded p.1), b') ∧
      b'.state.WellFormed ∧ SameTasks b.state b'.state ∧
      (∀ k, k ∉ (epics b.state).map Prod.fst → b'.state.items[k]? = b.state.items[k]?) ∧
      ∀ p ∈ epics b.state, b'.state.items[p.1]?.map WorkItem.state =
        some (healedState (b.state.tasksEnded p.1) p.2) := by
  have hnodup : ((epics b.state).map Prod.fst).Nodup := by
    have hids : (epics b.state).map Prod.fst =
        (b.state.cards.filter fun i => i.parent.isNone && !i.state.isTerminal).map
          WorkItem.id := by
      rw [epics, List.map_map]
      rfl
    rw [hids]
    exact hb.nodup_ids.sublist (List.filter_sublist.map _)
  have hloop := run_foldlM_healEpic (ε := ε) (epics b.state) hnodup 0 hb
    fun p hp => (mem_epics hb).1 hp
  rw [Nat.zero_add] at hloop
  unfold healCompletedEpics
  rw [Locked.run_bind_ok (run_read _ _)]
  exact hloop

/-! ## What the hygiene is for -/

omit [UnicodeTables] in
/-- A completed Project is one that the hygiene counts. -/
lemma completed_iff (hb : b.state.WellFormed) :
    b.state.Completed id c ↔ b.state.items[id]? = some c ∧ (id, c.state) ∈ epics b.state ∧
      b.state.tasksEnded id = true := by
  rw [mem_epics hb]
  constructor
  · intro h
    exact ⟨h.item, ⟨c, h.item, h.root, rfl, h.live⟩, h.ended⟩
  · rintro ⟨hc, ⟨c', hc', hroot, -, hlive⟩, hended⟩
    rw [hc, Option.some.injEq] at hc'
    subst hc'
    exact ⟨hc, hroot, hlive, hended⟩

omit [UnicodeTables] in
/-- When no completed Project is in Claimed, the number that is returned is right. -/
lemma countP_epics {b' : Board} (hb : b.state.WellFormed)
    (hclaimed : ∀ id c, b.state.Completed id c → c.state ≠ .claimed)
    (hothers : ∀ k, k ∉ (epics b.state).map Prod.fst →
      b'.state.items[k]? = b.state.items[k]?)
    (hroots : ∀ p ∈ epics b.state, b'.state.items[p.1]?.map WorkItem.state =
      some (healedState (b.state.tasksEnded p.1) p.2)) :
    ((epics b.state).countP fun p => b.state.tasksEnded p.1) =
      b.state.finishedCount b'.state := by
  unfold epics finishedCount
  rw [List.countP_map, List.countP_filter]
  refine List.countP_congr fun c hmem => ?_
  have hc : b.state.items[c.id]? = some c := hb.mem_cards_iff.1 hmem
  have hany : (b'.state.items[c.id]?.any fun j => j.state == .done) = true ↔
      b'.state.items[c.id]?.map WorkItem.state = some .done := by
    cases b'.state.items[c.id]? <;> simp
  simp only [Function.comp_apply, Bool.and_eq_true, Option.isNone_iff_eq_none, Bool.not_eq_true',
    bne_iff_ne, hany]
  by_cases hroot : c.parent = none ∧ c.state.isTerminal = false
  · have hin : (c.id, c.state) ∈ epics b.state :=
      (mem_epics hb).2 ⟨c, hc, hroot.1, rfl, hroot.2⟩
    have hdone : c.state ≠ .done := by
      intro hdone
      rw [hdone] at hroot
      cases hroot.2
    rw [hroots _ hin]
    dsimp only
    cases hended : b.state.tasksEnded c.id with
    | false => simp [healedState, hdone]
    | true =>
      have hne := hclaimed c.id c ⟨hc, hroot.1, hroot.2, hended⟩
      simp [healedState, hdone, hne, hroot]
  · have hout : c.id ∉ (epics b.state).map Prod.fst := by
      intro hmem
      obtain ⟨p, hp, hid⟩ := List.mem_map.1 hmem
      obtain ⟨c', hc', hroot', -, hlive'⟩ := (mem_epics hb).1 hp
      rw [hid, hc, Option.some.injEq] at hc'
      subst hc'
      exact hroot ⟨hroot', hlive'⟩
    rw [hothers _ hout, hc, Option.map_some, Option.some.injEq]
    constructor
    · rintro ⟨-, hroot'⟩
      exact absurd hroot' hroot
    · rintro ⟨hne, hdone⟩
      exact absurd hdone hne

/-- When no Project is completed, the hygiene does nothing. -/
lemma run_healCompletedEpics_idle (hended : ∀ p ∈ epics b.state, b.state.tasksEnded p.1 = false) :
    (healCompletedEpics : Method ε ℕ).run b = (.ok 0, b) := by
  unfold healCompletedEpics
  rw [Locked.run_bind_ok (run_read _ _)]
  change ((epics b.state).foldlM healEpic 0 : Method ε ℕ).run b = _
  generalize epics b.state = todo at hended ⊢
  induction todo with
  | nil => rfl
  | cons p todo ih =>
    rw [List.foldlM_cons, Locked.run_bind_ok
      (run_healEpic_idle 0 p.2 (hended p List.mem_cons_self))]
    exact ih fun q hq => hended q (List.mem_cons_of_mem _ hq)

/-- The hygiene on a board without a completed Project in Claimed. -/
lemma exists_heals (hb : b.state.WellFormed)
    (hclaimed : ∀ id c, b.state.Completed id c → c.state ≠ .claimed) :
    ∃ healed b', (healCompletedEpics : Method Empty ℕ).run b = (.ok healed, b') ∧
      Heals b b' healed := by
  obtain ⟨b', hrun, hwf, hsame, hothers, hroots⟩ := run_healCompletedEpics (ε := Empty) hb
  refine ⟨_, b', hrun, fun id c hcompleted => ?_, fun id hnone => ?_,
    countP_epics hb hclaimed hothers hroots, run_healCompletedEpics_idle fun p hp => ?_⟩
  · obtain ⟨-, hin, hended⟩ := (completed_iff hb).1 hcompleted
    have hne := hclaimed id c hcompleted
    rw [hroots _ hin]
    dsimp only
    rw [hended]
    simp [healedState, hne]
  · by_cases hin : id ∈ (epics b.state).map Prod.fst
    · obtain ⟨p, hp, rfl⟩ := List.mem_map.1 hin
      obtain ⟨c, hc, hroot, hstate, hlive⟩ := (mem_epics hb).1 hp
      have hended : b.state.tasksEnded p.1 = false := by
        rw [← Bool.not_eq_true]
        exact fun hended => hnone c ⟨hc, hroot, hlive, hended⟩
      rw [hroots p hp, hc, hended, Option.map_some, hstate]
      rfl
    · rw [hothers id hin]
  · -- A Project that is still not Done or Retired was not completed.
    obtain ⟨c', hc', hroot', hstate', hlive'⟩ := (mem_epics hwf).1 hp
    rw [hsame.tasksEnded_eq, ← Bool.not_eq_true]
    intro hended
    by_cases hin : p.1 ∈ (epics b.state).map Prod.fst
    · obtain ⟨q, hq, hid⟩ := List.mem_map.1 hin
      obtain ⟨c, hc, hroot, hstate, hlive⟩ := (mem_epics hb).1 hq
      have hne := hclaimed q.1 c ⟨hc, hroot, hlive, hid ▸ hended⟩
      have hdone := hroots q hq
      rw [hid, hc', hended, Option.map_some, Option.some.injEq, ← hstate] at hdone
      simp only [healedState, Bool.true_and, bne_iff_ne, ne_eq, hne, not_false_eq_true,
        if_true] at hdone
      rw [hdone] at hlive'
      cases hlive'
    · rw [hothers p.1 hin] at hc'
      exact hin (List.mem_map.2 ⟨p, (mem_epics hb).2 ⟨c', hc', hroot', hstate', hlive'⟩, rfl⟩)

/-- A completed Project in Claimed stays there. -/
lemma not_heals_of_claimed (hb : b.state.WellFormed) (hcompleted : b.state.Completed id c)
    (hclaimed : c.state = .claimed) (healed : ℕ) (b' : Board)
    (hrun : (healCompletedEpics : Method Empty ℕ).run b = (.ok healed, b')) :
    ¬Heals b b' healed := by
  intro hheals
  obtain ⟨b'', hrun', -, -, -, hroots⟩ := run_healCompletedEpics (ε := Empty) hb
  rw [hrun, Prod.mk.injEq] at hrun'
  obtain ⟨-, rfl⟩ := hrun'
  obtain ⟨-, hin, -⟩ := (completed_iff hb).1 hcompleted
  have hstays := hroots _ hin
  dsimp only at hstays
  rw [hheals.completed id c hcompleted, hclaimed] at hstays
  simp [healedState] at hstays

/-- On every board whose cards are stored under their ids, the hygiene returns; and it moves every
Project whose Tasks have all ended to Done, leaves the state of every other card alone, counts the
Projects that it moved and does nothing when it is called again, exactly when no such Project is in
Claimed. -/
theorem heals_iff (hb : b.state.WellFormed) :
    (∃ healed b', (healCompletedEpics : Method Empty ℕ).run b = (.ok healed, b') ∧
      Heals b b' healed) ↔ ∀ id c, b.state.Completed id c → c.state ≠ .claimed := by
  constructor
  · rintro ⟨healed, b', hrun, hheals⟩ id c hcompleted hclaimed
    exact not_heals_of_claimed hb hcompleted hclaimed healed b' hrun hheals
  · exact exists_heals hb

end Unicode

/-- A Project whose Initial plan is retired. -/
def retiredPlanRun : List Operation :=
  [.create ⟨none, "Docs", "", none, .human, false, none⟩, .transition 2 .retired "human" none]

set_option maxRecDepth 100000 in
/-- The theorem on a Project in Draft. -/
theorem heals_draft :
    let := asciiTables
    let b := (Board.new Schema.default (fun _ _ => 0) fun _ => true).after retiredPlanRun
    ∃ healed b', (healCompletedEpics : Method Empty ℕ).run b = (.ok healed, b') ∧
      Heals b b' healed := by
  intro tables b
  have hb : b.state.WellFormed := wellFormed_reached _ _ _ retiredPlanRun
  refine (heals_iff hb).2 fun id c hcompleted hclaimed => ?_
  have hnone : (b.state.cards.all fun c => c.state != .claimed) = true := by decide
  have hcard := List.all_eq_true.1 hnone c (mem_cards.2 ⟨id, hcompleted.item⟩)
  rw [hclaimed] at hcard
  cases hcard

/-- A Project that is claimed after its Initial plan was retired. -/
def claimedProjectRun : List Operation :=
  [.create ⟨none, "Docs", "", none, .human, false, none⟩, .transition 1 .shaping "human" none,
    .transition 1 .backlog "human" none, .transition 2 .retired "human" none,
    .claim 1 "agent" none 60]

set_option maxRecDepth 100000 in
/-- The Project is not healed, though it is counted. -/
theorem not_heals_claimed :
    let := asciiTables
    let b := (Board.new Schema.default (fun _ _ => 0) fun _ => true).after claimedProjectRun
    ¬∃ healed b', (healCompletedEpics : Method Empty ℕ).run b = (.ok healed, b') ∧
      Heals b b' healed := by
  intro tables b
  rintro ⟨healed, b', hrun, hheals⟩
  have hb : b.state.WellFormed := wellFormed_reached _ _ _ claimedProjectRun
  have hproject : b.state.items[1]?.map (fun c => (c.parent, c.state)) = some (none, .claimed) := by
    decide
  have hended : b.state.tasksEnded 1 = true := by decide
  obtain ⟨c, hc, hfields⟩ := Option.map_eq_some_iff.1 hproject
  obtain ⟨hroot, hclaimed⟩ := Prod.mk.inj hfields
  have hlive : c.state.isTerminal = false := by
    rw [hclaimed]
    rfl
  exact not_heals_of_claimed hb ⟨hc, hroot, hlive, hended⟩ hclaimed healed b' hrun hheals

end Board

end Sandboard

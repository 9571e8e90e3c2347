import Sandboard.Supervisor.Fleet

/-!
# Which sandboxes belong to a card

A sandbox is kept for a card by its name, which holds the id of the card in decimal digits between
two separators.  So the name of a sandbox says which card it is for: no other card keeps it by the
start of its name, and it is not the cockpit.  A pass over the listed sandboxes deletes none whose
card it would adopt, neither as the card was read nor after a reopening.
-/

namespace Sandboard

open Std Text

/-- The one sandbox of the control plane. -/
def cockpitSandboxName : String := "sandboard-cockpit"

/-- A name that starts with the stem of a card is not the name of a sandbox of another card. -/
lemma isCardSandbox_cardSandboxName_of_ne {i j : ItemId} (hne : i ≠ j) (attempt : UInt32) :
    isCardSandbox i (cardSandboxName j attempt) = false := by
  rw [Bool.eq_false_iff]
  intro hi
  have hcard := cardOfSandbox_of_isCardSandbox hi
  rw [cardOfSandbox_of_isCardSandbox (isCardSandbox_cardSandboxName j attempt)] at hcard
  exact hne (Option.some.inj hcard).symm

lemma cardSandboxName_ne_cockpit (j : ItemId) (attempt : UInt32) :
    cardSandboxName j attempt ≠ cockpitSandboxName := by
  intro heq
  have hcard := cardOfSandbox_of_isCardSandbox (isCardSandbox_cardSandboxName j attempt)
  have hcockpit : cardOfSandbox cockpitSandboxName = none := by decide
  rw [heq, hcockpit] at hcard
  cases hcard

namespace Supervisor

/-- A card keeps the sandbox of another card only when it has it. -/
lemma environment_of_keep {c : WorkItem} {j : ItemId} (hne : c.id ≠ j) {attempt : UInt32}
    (hkeep : shouldKeepSandbox (some c) (cardSandboxName j attempt) = true) :
    c.environment = some (cardSandboxName j attempt) := by
  rw [shouldKeepSandbox, isCardSandbox_cardSandboxName_of_ne hne, Bool.and_eq_true,
    Option.any_eq_true] at hkeep
  obtain ⟨-, env, henv, hname⟩ := hkeep
  rw [Bool.or_false, beq_iff_eq] at hname
  rw [henv, hname]

/-- The sandbox that a card has is kept until the card is over. -/
lemma shouldKeepSandbox_of_environment {c : WorkItem} {sandbox : String}
    (hstate : c.state.isTerminal = false) (henv : c.environment = some sandbox) :
    shouldKeepSandbox (some c) sandbox = true := by
  simp [shouldKeepSandbox, hstate, henv]

/-- What would be adopted is kept. -/
lemma keep_of_adoptable {card : Option WorkItem} {sandbox : String}
    (h : adoptable card sandbox ≠ none) : shouldKeepSandbox card sandbox = true := by
  obtain ⟨c, hc⟩ := Option.ne_none_iff_exists'.1 h
  obtain ⟨hcard, howns⟩ := Option.filter_eq_some_iff.1 hc
  rw [Bool.and_eq_true, beq_iff_eq] at howns
  have hstate : c.state.isTerminal = false := by
    have hrun := howns.1
    cases hs : c.state <;> rw [hs] at hrun <;> first | rfl | cases hrun
  rw [hcard]
  exact shouldKeepSandbox_of_environment hstate howns.2

/-- What would be adopted after a reopening is kept. -/
lemma keep_of_adoptable_reopened {card : Option WorkItem} {sandbox : String} {timeoutSecs : ℤ}
    {b : Board} (h : adoptable (reopenFor card sandbox timeoutSecs b).1 sandbox ≠ none) :
    shouldKeepSandbox card sandbox = true := by
  rcases hrun : reopenFor card sandbox timeoutSecs b with ⟨card', b'⟩
  rw [hrun] at h
  rcases reopenFor_cases hrun with ⟨rfl, -⟩ | ⟨c, item, rfl, -, hreopenable, -, -⟩
  · exact keep_of_adoptable h
  · have hstate : c.state.isTerminal = false := by
      rw [hreopenable.state]
      rfl
    exact shouldKeepSandbox_of_environment hstate hreopenable.environment

/-! ## A whole pass -/

/-- What a step of a pass finds: the cards that are active, the clock, the answer of the probe and
the board, which other tasks may have changed since the step before. -/
structure Look where
  active : Finset ItemId
  now : Time
  probe : Except String Output
  board : Board

/-- The card of a listed sandbox, as it is read. -/
def Listed.card (sb : Listed) (b : Board) : Option WorkItem :=
  b.state.items[sb.item]?.map b.state.populateBlockers

/-- The pass would not adopt the sandbox: neither for its card as it is read, nor after a
reopening. -/
def NotAdopted (timeoutSecs : ℤ) (sb : Listed) (b : Board) : Prop :=
  adoptable (sb.card b) sb.name = none ∧
    adoptable (reopenFor (sb.card b) sb.name timeoutSecs b).1 sb.name = none

section Unicode

variable [UnicodeTables]

/-- The sandboxes that a pass deletes. -/
def Pass.deletes (reopen : Bool) (timeoutSecs : ℤ) : Pass → List Look → List String
  | _, [] => []
  | p, l :: looks =>
    let (p, _, gone) := p.advance reopen l.active timeoutSecs l.now l.probe l.board
    gone.toList ++ p.deletes reopen timeoutSecs looks

/-- A step goes on with the sandboxes that are left. -/
lemma left_advance {p : Pass} {reopen : Bool} {timeoutSecs : ℤ} {l : Look} {sb : Listed}
    (h : sb ∈ (p.advance reopen l.active timeoutSecs l.now l.probe l.board).1.left) :
    sb ∈ p.left := by
  revert h
  unfold Pass.advance
  split
  · split
    · exact id
    · rename_i sb' left hleft
      dsimp only
      rw [hleft]
      split <;> exact List.mem_cons_of_mem sb'
  · exact id
  · exact id
  · dsimp only
    split
    · exact id
    · split <;> exact id
  · split <;> exact id
  · exact id

/-- A step deletes the sandbox that was to be reaped. -/
lemma gone_advance {p : Pass} {reopen : Bool} {timeoutSecs : ℤ} {l : Look} {name : String}
    (h : (p.advance reopen l.active timeoutSecs l.now l.probe l.board).2.2 = some name) :
    p.stage = .reap name := by
  revert h
  unfold Pass.advance
  split
  · split
    · exact nofun
    · dsimp only
      split <;> exact nofun
  · rename_i hstage
    intro h
    rw [hstage, Option.some.inj h]
  · exact nofun
  · dsimp only
    split
    · exact nofun
    · split <;> exact nofun
  · split <;> exact nofun
  · exact nofun

/-- A sandbox that is to be reaped would not be adopted. -/
lemma notAdopted_advance {p : Pass} {reopen : Bool} {timeoutSecs : ℤ} {l : Look} {name : String}
    (h : (p.advance reopen l.active timeoutSecs l.now l.probe l.board).1.stage = .reap name) :
    ∃ sb ∈ p.left, sb.name = name ∧ NotAdopted timeoutSecs sb l.board := by
  revert h
  unfold Pass.advance
  split
  · rename_i hnext
    split
    · intro h
      rw [hnext] at h
      cases h
    · rename_i sb left hleft
      dsimp only
      split
      · exact nofun
      · rename_i hkeep
        intro h
        cases h
        refine ⟨sb, by rw [hleft]; exact List.mem_cons_self, rfl, ?_, ?_⟩
        · exact not_not.1 fun hadopt => hkeep (keep_of_adoptable hadopt)
        · exact not_not.1 fun hadopt => hkeep (keep_of_adoptable_reopened hadopt)
  · exact nofun
  · dsimp only
    split <;> exact nofun
  · dsimp only
    split
    · exact nofun
    · split <;> exact nofun
  · split <;> exact nofun
  · exact nofun

/-- Every sandbox that a pass deletes was to be reaped already, or there was a step in which it
would not have been adopted. -/
lemma notAdopted_of_mem_deletes {p : Pass} {reopen : Bool} {timeoutSecs : ℤ} {looks : List Look}
    {name : String} (h : name ∈ p.deletes reopen timeoutSecs looks) :
    p.stage = .reap name ∨
      ∃ sb ∈ p.left, sb.name = name ∧ ∃ l ∈ looks, NotAdopted timeoutSecs sb l.board := by
  induction looks generalizing p with
  | nil => cases h
  | cons l looks ih =>
    rw [Pass.deletes] at h
    rcases List.mem_append.1 h with hgone | hlater
    · exact Or.inl (gone_advance (Option.mem_toList.1 hgone))
    · refine Or.inr ?_
      rcases ih hlater with hreap | ⟨sb, hsb, hname, later, hlooks, hnot⟩
      · obtain ⟨sb, hsb, hname, hnot⟩ := notAdopted_advance hreap
        exact ⟨sb, hsb, hname, l, List.mem_cons_self, hnot⟩
      · exact ⟨sb, left_advance hsb, hname, later, List.mem_cons_of_mem l hlooks, hnot⟩

/-- The name of a sandbox starts with no stem of another card and is not the cockpit; so a card
keeps the sandbox of another card only when it has it, and not by the start of its name.  What
would be adopted is kept; so whatever the board is in each step, a pass deletes a listed sandbox
only after a step in which it would not have adopted it. -/
theorem ownership_spec :
    (∀ (i j : ItemId) (attempt : UInt32), i ≠ j →
        startsWith (cardSandboxStem i) (cardSandboxName j attempt) = false ∧
          startsWith (legacyCardSandboxStem i) (cardSandboxName j attempt) = false ∧
            cardSandboxName j attempt ≠ cockpitSandboxName) ∧
      (∀ (c : WorkItem) (j : ItemId) (attempt : UInt32), c.id ≠ j →
        shouldKeepSandbox (some c) (cardSandboxName j attempt) = true →
          c.environment = some (cardSandboxName j attempt)) ∧
      (∀ (card : Option WorkItem) (sandbox : String),
        adoptable card sandbox ≠ none → shouldKeepSandbox card sandbox = true) ∧
      ∀ (reopen : Bool) (timeoutSecs : ℤ) (listed : List Listed) (looks : List Look),
        ∀ name ∈ (Pass.over listed).deletes reopen timeoutSecs looks,
          ∃ sb ∈ listed, sb.name = name ∧ ∃ l ∈ looks, NotAdopted timeoutSecs sb l.board := by
  refine ⟨fun i j attempt hne => ?_, fun c j attempt hne hkeep => environment_of_keep hne hkeep,
    fun card sandbox hadopt => keep_of_adoptable hadopt, ?_⟩
  · obtain ⟨hstem, hlegacy⟩ :=
      Bool.or_eq_false_iff.1 (isCardSandbox_cardSandboxName_of_ne hne attempt)
    exact ⟨hstem, hlegacy, cardSandboxName_ne_cockpit j attempt⟩
  · intro reopen timeoutSecs listed looks name hname
    rcases notAdopted_of_mem_deletes hname with hreap | hnot
    · cases hreap
    · exact hnot

end Unicode

/-- The sandboxes of card 12 are none of those of card 1. -/
theorem ownership_one_twelve :
    startsWith (cardSandboxStem 1) (cardSandboxName 12 3) = false ∧
      startsWith (legacyCardSandboxStem 1) (cardSandboxName 12 3) = false ∧
        cardSandboxName 12 3 ≠ cockpitSandboxName :=
  let := asciiTables
  ownership_spec.1 1 12 3 (by decide)

end Supervisor

end Sandboard

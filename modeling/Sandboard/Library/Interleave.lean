import Sandboard.Library.Locked

/-!
# Parties at one object

Several parties use one lock-protected object at a time.  A party rests in a local state of its
own, or is in the middle of a method; a step of the whole is a step of one party, which begins
a method it may begin or performs the next section of the one it is in.  So every interleaving
of sections is a run, and a method that returns leaves its result as the local state.

Sections are followed by *phases*: `Locked.Paced R Q` says that the method, from any states that
it finds, moves through the phases along `R` and returns in a phase that `Q` allows.  The phases
of all parties together with the shared object carry an invariant over every interleaving
(`Parties.invariant`).
-/

namespace Locked

variable {σ ε ε' α β P : Type} {R : P → σ → σ → P → Prop}

/-- Each section of the method, in any state, is a step of `R` from one phase to the next, and
the method returns as `Q` says. -/
def Paced (R : P → σ → σ → P → Prop) (Q : Except ε α → P → Prop) : P → Locked σ ε α → Prop
  | p, ret r => Q r p
  | p, sect upd next => ∀ s, ∃ p', R p s (upd s) p' ∧ Paced R Q p' (next s)

namespace Paced

variable {Q Q' : Except ε α → P → Prop} {p : P}

lemma ret {r : Except ε α} (h : Q r p) : (Locked.ret r).Paced R Q p := h

lemma atomic {f : σ → Except ε α × σ} (h : ∀ s, ∃ p', R p s (f s).2 p' ∧ Q (f s).1 p') :
    (Locked.atomic f).Paced R Q p := h

lemma mono {m : Locked σ ε α} (hQ : ∀ r p, Q r p → Q' r p) (hm : m.Paced R Q p) :
    m.Paced R Q' p := by
  induction m generalizing p with
  | ret r => exact hQ r p hm
  | sect upd next ih =>
    intro s
    obtain ⟨p', hstep, hnext⟩ := hm s
    exact ⟨p', hstep, ih s hnext⟩

lemma failIf {c : Prop} [Decidable c] {e : ε} {Q : Except ε Unit → P → Prop}
    (hok : ¬ c → Q (.ok ()) p) (herror : c → Q (.error e) p) :
    (Locked.failIf c e).Paced R Q p := by
  unfold Locked.failIf
  split
  · rename_i hc
    exact herror hc
  · rename_i hc
    exact hok hc

lemma bind {Q₁ : Except ε β → P → Prop} {m : Locked σ ε α} {k : α → Locked σ ε β}
    (hm : m.Paced R (fun r p => match r with
      | .ok a => (k a).Paced R Q₁ p
      | .error e => Q₁ (.error e) p) p) : (m >>= k).Paced R Q₁ p := by
  change (m.bind k).Paced R Q₁ p
  induction m generalizing p with
  | ret r => cases r <;> exact hm
  | sect upd next ih =>
    intro s
    obtain ⟨p', hstep, hnext⟩ := hm s
    exact ⟨p', hstep, ih s hnext⟩

lemma attempt {Q₁ : Except ε' (Except ε α) → P → Prop} {m : Locked σ ε α}
    (hm : m.Paced R (fun r p => Q₁ (.ok r) p) p) :
    (m.attempt : Locked σ ε' _).Paced R Q₁ p := by
  induction m generalizing p with
  | ret r => exact hm
  | sect upd next ih =>
    intro s
    obtain ⟨p', hstep, hnext⟩ := hm s
    exact ⟨p', hstep, ih s hnext⟩

lemma mapErr {Q₁ : Except ε' α → P → Prop} {f : ε → ε'} {m : Locked σ ε α}
    (hm : m.Paced R (fun r p => Q₁ (r.mapError f) p) p) : (m.mapErr f).Paced R Q₁ p := by
  induction m generalizing p with
  | ret r => cases r <;> exact hm
  | sect upd next ih =>
    intro s
    obtain ⟨p', hstep, hnext⟩ := hm s
    exact ⟨p', hstep, ih s hnext⟩

end Paced

end Locked

/-- A shared object, and what each party is at: what is left of the method that it is in, and
`ret` with its local state when it rests. -/
structure Parties (σ : Type) {ι : Type} (L : ι → Type) where
  shared : σ
  doing : ∀ i, Locked σ Empty (L i)

namespace Parties

variable {σ ι : Type} {L : ι → Type} [DecidableEq ι]
  {begins : ∀ i, L i → Locked σ Empty (L i) → Prop}

/-- One party begins a method, or performs a section. -/
inductive Step (begins : ∀ i, L i → Locked σ Empty (L i) → Prop) :
    Parties σ L → Parties σ L → Prop where
  | start {c : Parties σ L} {i : ι} {l : L i} {m : Locked σ Empty (L i)}
    (hrest : c.doing i = .ret (.ok l)) (hm : begins i l m) :
    Step begins c ⟨c.shared, Function.update c.doing i m⟩
  | sect {c : Parties σ L} {i : ι} {upd : σ → σ} {next : σ → Locked σ Empty (L i)}
    (hdoing : c.doing i = .sect upd next) :
    Step begins c ⟨upd c.shared, Function.update c.doing i (next c.shared)⟩

/-- Any number of steps, in any order of the parties. -/
def Runs (begins : ∀ i, L i → Locked σ Empty (L i) → Prop) : Parties σ L → Parties σ L → Prop :=
  Relation.ReflTransGen (Step begins)

/-- Party `i` begins a method, when it rests. -/
def start (c : Parties σ L) (i : ι) (m : Locked σ Empty (L i)) : Parties σ L :=
  match c.doing i with
  | .ret (.ok _) => ⟨c.shared, Function.update c.doing i m⟩
  | _ => c

/-- Party `i` performs its next section, when it is in a method. -/
def perform (c : Parties σ L) (i : ι) : Parties σ L :=
  match c.doing i with
  | .ret _ => c
  | .sect upd next => ⟨upd c.shared, Function.update c.doing i (next c.shared)⟩

lemma runs_start {c c' : Parties σ L} {i : ι} {m : Locked σ Empty (L i)} (h : Runs begins c c')
    (hm : ∀ l, begins i l m) : Runs begins c (c'.start i m) := by
  unfold start
  split
  · rename_i l hrest
    exact h.tail (.start hrest (hm l))
  · exact h

lemma runs_perform {c c' : Parties σ L} (h : Runs begins c c') (i : ι) :
    Runs begins c (c'.perform i) := by
  unfold perform
  split
  · exact h
  · rename_i hdoing
    exact h.tail (.sect hdoing)

lemma runs_performAll {c c' : Parties σ L} (h : Runs begins c c') (is : List ι) :
    Runs begins c (is.foldl perform c') := by
  induction is generalizing c' with
  | nil => exact h
  | cons i is ih => exact ih (runs_perform h i)

variable {P : ι → Type} {R : ∀ i, P i → σ → σ → P i → Prop} {Q : ∀ i, L i → P i → Prop}
  {G : (∀ i, P i) → σ → Prop}

/-- How a method of a party returns: never with an error, and with a local state that its phase
allows. -/
def Returns {α β : Type} (Q : α → β → Prop) : Except Empty α → β → Prop
  | .ok a, p => Q a p
  | .error e, _ => e.elim

/-- The parties are in phases that the invariant allows. -/
def Phased (R : ∀ i, P i → σ → σ → P i → Prop) (Q : ∀ i, L i → P i → Prop)
    (G : (∀ i, P i) → σ → Prop) (c : Parties σ L) : Prop :=
  ∃ p : ∀ i, P i, G p c.shared ∧ ∀ i, (c.doing i).Paced (R i) (Returns (Q i)) (p i)

/-- What every beginning and every section of every party keeps holds over every
interleaving. -/
theorem invariant
    (hstart : ∀ i p s l m, G p s → Q i l (p i) → begins i l m →
      ∃ p', m.Paced (R i) (Returns (Q i)) p' ∧ G (Function.update p i p') s)
    (hsect : ∀ i p s s' p', G p s → R i (p i) s s' p' → G (Function.update p i p') s')
    {c c' : Parties σ L} (h : Runs begins c c') (hc : Phased R Q G c) : Phased R Q G c' := by
  -- a party that does not move keeps its phase
  have hothers : ∀ {p : ∀ i, P i} {d : ∀ i, Locked σ Empty (L i)} {i : ι} {p' : P i}
      {m : Locked σ Empty (L i)},
      (∀ j, (d j).Paced (R j) (Returns (Q j)) (p j)) → m.Paced (R i) (Returns (Q i)) p' →
      ∀ j, (Function.update d i m j).Paced (R j) (Returns (Q j)) (Function.update p i p' j) := by
    intro p d i p' m hp hm j
    by_cases hj : j = i
    · subst hj
      rw [Function.update_self, Function.update_self]
      exact hm
    · rw [Function.update_of_ne hj, Function.update_of_ne hj]
      exact hp j
  induction h with
  | refl => exact hc
  | tail _ hstep ih =>
    obtain ⟨p, hG, hp⟩ := ih
    cases hstep with
    | @start i l m hrest hm =>
      have hl : Q i l (p i) := by
        have hpi := hp i
        rw [hrest] at hpi
        exact hpi
      obtain ⟨p', hm', hG'⟩ := hstart i p _ l m hG hl hm
      exact ⟨_, hG', hothers hp hm'⟩
    | @sect i upd next hdoing =>
      have hpi := hp i
      rw [hdoing] at hpi
      obtain ⟨p', hR, hnext⟩ := hpi _
      exact ⟨_, hsect i p _ _ p' hG hR, hothers hp hnext⟩

end Parties

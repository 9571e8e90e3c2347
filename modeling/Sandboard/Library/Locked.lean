import Mathlib.Logic.Relation
import Mathlib.Tactic.Common

/-!
# Methods of a lock-protected object

A method of an object whose state sits behind one lock is a sequence of *critical
sections*: each section reads the shared state, updates it, and decides from what it read
how the method goes on.  Between two sections the lock is free, so another thread may run
sections of its own there.

`Locked σ ε α` is the type of such methods over a shared state `σ`, returning an `α` or
failing with an `ε`.  A failing method keeps the updates its earlier sections made: there is
no rollback.  `Locked.run` is the meaning of a method that is alone on the object; the
interleaved meaning is in `Library/Interleave.lean`.

Two kinds of rules are proved about methods.  `Locked.Sections R` says that every section,
taken on its own from any state, respects the relation `R`; it holds under every
interleaving.  `Locked.Triple` is the usual triple for a method that runs alone.
-/

/-- A method of a lock-protected object, as the sequence of its critical sections. -/
inductive Locked (σ ε α : Type) where
  /-- The method is over. -/
  | ret (r : Except ε α)
  /-- One critical section: update the state, and go on as the state read there decides. -/
  | sect (upd : σ → σ) (next : σ → Locked σ ε α)

namespace Locked

variable {σ ε ε' α β : Type}

/-! ## The monad of methods -/

/-- Sequential composition; a failure of the first method ends the whole. -/
def bind : Locked σ ε α → (α → Locked σ ε β) → Locked σ ε β
  | ret (.ok a), k => k a
  | ret (.error e), _ => ret (.error e)
  | sect upd next, k => sect upd fun s => (next s).bind k

instance : Monad (Locked σ ε) where
  pure a := ret (.ok a)
  bind := bind

/-- Fail with `e`, keeping the state. -/
def fail (e : ε) : Locked σ ε α := ret (.error e)

/-- A single critical section. -/
def atomic (f : σ → Except ε α × σ) : Locked σ ε α :=
  sect (fun s => (f s).2) fun s => ret (f s).1

/-- Fail with `e` when `c` holds. -/
def failIf (c : Prop) [Decidable c] (e : ε) : Locked σ ε Unit :=
  if c then fail e else pure ()

/-- Run the method only when `c` holds. -/
def when (c : Prop) [Decidable c] (m : Locked σ ε Unit) : Locked σ ε Unit :=
  if c then m else pure ()

/-- Run the method on the value that is there, if any. -/
def onSome (o : Option β) (f : β → Locked σ ε Unit) : Locked σ ε Unit :=
  match o with
  | some b => f b
  | none => pure ()

/-- Run a method and hand its outcome, success or failure, to the caller. -/
def attempt : Locked σ ε α → Locked σ ε' (Except ε α)
  | ret r => ret (.ok r)
  | sect upd next => sect upd fun s => (next s).attempt

/-- Translate the error of a method. -/
def mapErr (f : ε → ε') : Locked σ ε α → Locked σ ε' α
  | ret (.ok a) => ret (.ok a)
  | ret (.error e) => ret (.error (f e))
  | sect upd next => sect upd fun s => (next s).mapErr f

/-- The outcome and the final state of a method that is alone on the object. -/
def run : Locked σ ε α → σ → Except ε α × σ
  | ret r, s => (r, s)
  | sect upd next, s => (next s).run (upd s)

/-- Continue a finished run: on success with `k`, on failure not at all. -/
def andThen (k : α → Locked σ ε β) : Except ε α × σ → Except ε β × σ
  | (.ok a, s) => (k a).run s
  | (.error e, s) => (.error e, s)

@[simp] lemma andThen_ok (k : α → Locked σ ε β) (a : α) (s : σ) :
    andThen k (.ok a, s) = (k a).run s := rfl

@[simp] lemma andThen_error (k : α → Locked σ ε β) (e : ε) (s : σ) :
    andThen k (.error e, s) = (.error e, s) := rfl

@[simp] lemma run_pure (a : α) (s : σ) : (pure a : Locked σ ε α).run s = (.ok a, s) := rfl

@[simp] lemma run_fail (e : ε) (s : σ) : (fail e : Locked σ ε α).run s = (.error e, s) := rfl

@[simp] lemma run_atomic (f : σ → Except ε α × σ) (s : σ) : (atomic f).run s = f s := rfl

lemma run_failIf (c : Prop) [Decidable c] (e : ε) (s : σ) :
    (failIf c e : Locked σ ε Unit).run s = (if c then .error e else .ok (), s) := by
  unfold failIf
  split <;> rfl

lemma run_when (c : Prop) [Decidable c] (m : Locked σ ε Unit) (s : σ) :
    (when c m).run s = if c then m.run s else (.ok (), s) := by
  unfold when
  split <;> rfl

@[simp] lemma onSome_none (f : β → Locked σ ε Unit) : onSome none f = pure () := rfl

@[simp] lemma onSome_some (b : β) (f : β → Locked σ ε Unit) : onSome (some b) f = f b := rfl

/-- A composed method runs its parts one after the other. -/
@[simp] lemma run_bind (m : Locked σ ε α) (k : α → Locked σ ε β) (s : σ) :
    (m >>= k).run s = andThen k (m.run s) := by
  change (m.bind k).run s = _
  induction m generalizing s with
  | ret r => cases r <;> rfl
  | sect upd next ih => exact ih s (upd s)

lemma run_bind_ok {m : Locked σ ε α} {s s' : σ} {a : α} (h : m.run s = (.ok a, s'))
    (k : α → Locked σ ε β) : (m >>= k).run s = (k a).run s' := by
  rw [run_bind, h, andThen_ok]

lemma run_bind_error {m : Locked σ ε α} {s s' : σ} {e : ε} (h : m.run s = (.error e, s'))
    (k : α → Locked σ ε β) : (m >>= k).run s = (.error e, s') := by
  rw [run_bind, h, andThen_error]

/-- A composed method succeeds when both of its parts do. -/
lemma run_bind_eq_ok {m : Locked σ ε α} {k : α → Locked σ ε β} {s s' : σ} {b : β} :
    (m >>= k).run s = (.ok b, s') ↔
      ∃ a s₁, m.run s = (.ok a, s₁) ∧ (k a).run s₁ = (.ok b, s') := by
  rw [run_bind]
  cases hm : m.run s with
  | mk r s₁ =>
    cases r with
    | ok a =>
      constructor
      · exact fun h => ⟨a, s₁, rfl, h⟩
      · rintro ⟨a', s₂, heq, h⟩
        cases heq
        exact h
    | error e =>
      constructor
      · intro h
        cases h
      · rintro ⟨a', s₂, heq, -⟩
        cases heq

/-- Attempting a method changes the state as the method does. -/
@[simp] lemma run_attempt (m : Locked σ ε α) (s : σ) :
    (m.attempt : Locked σ ε' _).run s = (.ok (m.run s).1, (m.run s).2) := by
  induction m generalizing s with
  | ret r => rfl
  | sect upd next ih => exact ih s (upd s)

/-- Translating the error leaves the state and a success alone. -/
@[simp] lemma run_mapErr (f : ε → ε') (m : Locked σ ε α) (s : σ) :
    (m.mapErr f).run s = ((m.run s).1.mapError f, (m.run s).2) := by
  induction m generalizing s with
  | ret r => cases r <;> rfl
  | sect upd next ih => exact ih s (upd s)

lemma run_failIf_bind (c : Prop) [Decidable c] (e : ε) (k : Unit → Locked σ ε β) (s : σ) :
    (failIf c e >>= k).run s = if c then (.error e, s) else (k ()).run s := by
  rw [run_bind, run_failIf]
  split <;> rfl

lemma bind_eq (m : Locked σ ε α) (k : α → Locked σ ε β) : m >>= k = m.bind k := rfl

lemma bind_assoc {γ : Type} (m : Locked σ ε α) (k : α → Locked σ ε β) (h : β → Locked σ ε γ) :
    (m >>= k) >>= h = m >>= fun a => k a >>= h := by
  simp only [bind_eq]
  induction m with
  | ret r => cases r <;> rfl
  | sect upd next ih => simp only [bind, ih]

/-! ## Relations respected by every section -/

/-- Every critical section of the method, from any state, respects `R`. -/
def Sections (R : σ → σ → Prop) : Locked σ ε α → Prop
  | ret _ => True
  | sect upd next => ∀ s, R s (upd s) ∧ (next s).Sections R

/-- Every critical section of the method respects `R`, as long as the states that it finds are
in `I`. -/
def SectionsOn (I : σ → Prop) (R : σ → σ → Prop) : Locked σ ε α → Prop
  | ret _ => True
  | sect upd next => ∀ s, I s → R s (upd s) ∧ (next s).SectionsOn I R

namespace SectionsOn

variable {I : σ → Prop} {R : σ → σ → Prop}

lemma pure (a : α) : (Pure.pure a : Locked σ ε α).SectionsOn I R := trivial

lemma fail (e : ε) : (Locked.fail e : Locked σ ε α).SectionsOn I R := trivial

lemma atomic {f : σ → Except ε α × σ} (h : ∀ s, I s → R s (f s).2) :
    (Locked.atomic f).SectionsOn I R :=
  fun s hs => ⟨h s hs, trivial⟩

lemma when {c : Prop} [Decidable c] {m : Locked σ ε Unit} (hm : c → m.SectionsOn I R) :
    (Locked.when c m).SectionsOn I R := by
  unfold Locked.when
  split
  · rename_i hc
    exact hm hc
  · trivial

lemma onSome {o : Option β} {f : β → Locked σ ε Unit} (hf : ∀ b, (f b).SectionsOn I R) :
    (Locked.onSome o f).SectionsOn I R := by
  cases o with
  | none => trivial
  | some b => exact hf b

lemma bind {m : Locked σ ε α} {k : α → Locked σ ε β} (hm : m.SectionsOn I R)
    (hk : ∀ a, (k a).SectionsOn I R) : (m >>= k).SectionsOn I R := by
  change (m.bind k).SectionsOn I R
  induction m with
  | ret r =>
    cases r with
    | ok a => exact hk a
    | error e => trivial
  | sect upd next ih => exact fun s hs => ⟨(hm s hs).1, ih s (hm s hs).2⟩

lemma attempt {m : Locked σ ε α} (hm : m.SectionsOn I R) :
    (m.attempt : Locked σ ε' _).SectionsOn I R := by
  induction m with
  | ret r => trivial
  | sect upd next ih => exact fun s hs => ⟨(hm s hs).1, ih s (hm s hs).2⟩

lemma mapErr {f : ε → ε'} {m : Locked σ ε α} (hm : m.SectionsOn I R) :
    (m.mapErr f).SectionsOn I R := by
  induction m with
  | ret r => cases r <;> trivial
  | sect upd next ih => exact fun s hs => ⟨(hm s hs).1, ih s (hm s hs).2⟩

lemma forM {xs : List β} {f : β → Locked σ ε Unit} (hf : ∀ x, (f x).SectionsOn I R) :
    (xs.forM f).SectionsOn I R := by
  induction xs with
  | nil => exact pure ()
  | cons x xs ih => exact bind (hf x) fun _ => ih

lemma foldlM {xs : List β} {f : α → β → Locked σ ε α} (hf : ∀ a x, (f a x).SectionsOn I R)
    (a : α) : (xs.foldlM f a).SectionsOn I R := by
  induction xs generalizing a with
  | nil => exact pure a
  | cons x xs ih => exact bind (hf a x) ih

lemma mono {R' : σ → σ → Prop} (hR : ∀ s s', R s s' → R' s s') {m : Locked σ ε α}
    (hm : m.SectionsOn I R) : m.SectionsOn I R' := by
  induction m with
  | ret r => trivial
  | sect upd next ih => exact fun s hs => ⟨hR _ _ (hm s hs).1, ih s (hm s hs).2⟩

lemma and {R' : σ → σ → Prop} {m : Locked σ ε α} (hm : m.SectionsOn I R)
    (hm' : m.SectionsOn I R') : m.SectionsOn I fun s s' => R s s' ∧ R' s s' := by
  induction m with
  | ret r => trivial
  | sect upd next ih =>
    exact fun s hs => ⟨⟨(hm s hs).1, (hm' s hs).1⟩, ih s (hm s hs).2 (hm' s hs).2⟩

/-- Sections that respect `R` in every state respect it in some. -/
lemma of_sections {R' : σ → σ → Prop} (hR : ∀ s s', R' s s' → R s s') {m : Locked σ ε α}
    (hm : m.Sections R') : m.SectionsOn I R := by
  induction m with
  | ret r => trivial
  | sect upd next ih => exact fun s _ => ⟨hR _ _ (hm s).1, ih s (hm s).2⟩

/-- Respecting `R` in all states is respecting it in every state. -/
lemma sections {m : Locked σ ε α} (hm : m.SectionsOn (fun _ => True) R) : m.Sections R := by
  induction m with
  | ret r => trivial
  | sect upd next ih => exact fun s => ⟨(hm s trivial).1, ih s (hm s trivial).2⟩

end SectionsOn

namespace Sections

variable {R : σ → σ → Prop}

/-- The sections in all states, as those in states of which nothing is known. -/
lemma on {m : Locked σ ε α} (hm : m.Sections R) : m.SectionsOn (fun _ => True) R :=
  .of_sections (fun _ _ h => h) hm

lemma pure (a : α) : (Pure.pure a : Locked σ ε α).Sections R := trivial

lemma fail (e : ε) : (Locked.fail e : Locked σ ε α).Sections R := trivial

lemma atomic {f : σ → Except ε α × σ} (h : ∀ s, R s (f s).2) : (Locked.atomic f).Sections R :=
  fun s => ⟨h s, trivial⟩

lemma failIf (c : Prop) [Decidable c] (e : ε) :
    (Locked.failIf c e : Locked σ ε Unit).Sections R := by
  unfold Locked.failIf
  split <;> trivial

lemma when {c : Prop} [Decidable c] {m : Locked σ ε Unit} (hm : c → m.Sections R) :
    (Locked.when c m).Sections R :=
  (SectionsOn.when fun hc => (hm hc).on).sections

lemma onSome {o : Option β} {f : β → Locked σ ε Unit} (hf : ∀ b, (f b).Sections R) :
    (Locked.onSome o f).Sections R :=
  (SectionsOn.onSome fun b => (hf b).on).sections

lemma bind {m : Locked σ ε α} {k : α → Locked σ ε β} (hm : m.Sections R)
    (hk : ∀ a, (k a).Sections R) : (m >>= k).Sections R :=
  (SectionsOn.bind hm.on fun a => (hk a).on).sections

lemma attempt {m : Locked σ ε α} (hm : m.Sections R) :
    (m.attempt : Locked σ ε' _).Sections R :=
  (SectionsOn.attempt hm.on).sections

lemma mapErr {f : ε → ε'} {m : Locked σ ε α} (hm : m.Sections R) :
    (m.mapErr f).Sections R :=
  (SectionsOn.mapErr hm.on).sections

lemma mono {R' : σ → σ → Prop} (hR : ∀ s s', R s s' → R' s s') {m : Locked σ ε α}
    (hm : m.Sections R) : m.Sections R' :=
  (SectionsOn.of_sections hR hm).sections

lemma forM {xs : List β} {f : β → Locked σ ε Unit} (hf : ∀ x, (f x).Sections R) :
    (xs.forM f).Sections R :=
  (SectionsOn.forM fun x => (hf x).on).sections

lemma mapM {xs : List β} {f : β → Locked σ ε α} (hf : ∀ x, (f x).Sections R) :
    (xs.mapM f).Sections R := by
  suffices hloop : ∀ acc, (List.mapM.loop f xs acc).Sections R from hloop []
  induction xs with
  | nil => exact fun acc => pure acc.reverse
  | cons x xs ih => exact fun acc => bind (hf x) fun y => ih (y :: acc)

lemma foldlM {xs : List β} {f : α → β → Locked σ ε α} (hf : ∀ a x, (f a x).Sections R) (a : α) :
    (xs.foldlM f a).Sections R :=
  (SectionsOn.foldlM (fun a x => (hf a x).on) a).sections

/-- A run of the method is a chain of steps of `R`. -/
lemma run {m : Locked σ ε α} (hm : m.Sections R) (s : σ) :
    Relation.ReflTransGen R s (m.run s).2 := by
  induction m generalizing s with
  | ret r => exact .refl
  | sect upd next ih => exact .head (hm s).1 (ih s (hm s).2 (upd s))

end Sections

/-- An invariant kept by every section of a method is kept by its run. -/
lemma Sections.invariant {I : σ → Prop} {m : Locked σ ε α}
    (hm : m.Sections fun s s' => I s → I s') {s : σ} (hs : I s) : I (m.run s).2 := by
  induction m generalizing s with
  | ret r => exact hs
  | sect upd next ih => exact ih s (hm s).2 ((hm s).1 hs)

/-! ## Triples for a method that runs alone -/

/-- From a state in `P`, the run of `m` ends with a value and a state in `Q`, or with an error
and a state in `E`. -/
def Triple (P : σ → Prop) (m : Locked σ ε α) (Q : α → σ → Prop) (E : ε → σ → Prop) : Prop :=
  ∀ s, P s → match m.run s with
    | (.ok a, s') => Q a s'
    | (.error e, s') => E e s'

/-- The run of `m` keeps the invariant `I`, whether it succeeds or fails. -/
def Keeps (I : σ → Prop) (m : Locked σ ε α) : Prop :=
  m.Triple I (fun _ => I) fun _ => I

namespace Triple

variable {P P' : σ → Prop} {Q Q' : α → σ → Prop} {E E' : ε → σ → Prop}

lemma pure {a : α} (h : ∀ s, P s → Q a s) : (Pure.pure a : Locked σ ε α).Triple P Q E :=
  fun s hs => h s hs

lemma fail {e : ε} (h : ∀ s, P s → E e s) : (Locked.fail e : Locked σ ε α).Triple P Q E :=
  fun s hs => h s hs

lemma atomic {f : σ → Except ε α × σ}
    (h : ∀ s, P s → match f s with
      | (.ok a, s') => Q a s'
      | (.error e, s') => E e s') : (Locked.atomic f).Triple P Q E :=
  fun s hs => h s hs

lemma bind {R : β → σ → Prop} {m : Locked σ ε α} {k : α → Locked σ ε β}
    (hm : m.Triple P Q E) (hk : ∀ a, (k a).Triple (Q a) R E) : (m >>= k).Triple P R E := by
  intro s hs
  have h := hm s hs
  rw [run_bind]
  generalize m.run s = r at h ⊢
  obtain ⟨a | e, s'⟩ := r
  · exact h
  · exact hk _ s' h

lemma attempt {m : Locked σ ε α} (hm : m.Triple P Q E) :
    (m.attempt : Locked σ ε' _).Triple P
      (fun r s => match r with
        | .ok a => Q a s
        | .error e => E e s) fun _ _ => False := by
  intro s hs
  have h := hm s hs
  rw [run_attempt]
  generalize m.run s = r at h ⊢
  obtain ⟨a | e, s'⟩ := r <;> exact h

lemma mapErr {f : ε → ε'} {E' : ε' → σ → Prop} {m : Locked σ ε α}
    (hm : m.Triple P Q fun e => E' (f e)) : (m.mapErr f).Triple P Q E' := by
  intro s hs
  have h := hm s hs
  rw [run_mapErr]
  generalize m.run s = r at h ⊢
  obtain ⟨a | e, s'⟩ := r <;> exact h

lemma conseq {m : Locked σ ε α} (hm : m.Triple P Q E) (hP : ∀ s, P' s → P s)
    (hQ : ∀ a s, Q a s → Q' a s) (hE : ∀ e s, E e s → E' e s) : m.Triple P' Q' E' := by
  intro s hs
  have h := hm s (hP s hs)
  generalize m.run s = r at h ⊢
  obtain ⟨a | e, s'⟩ := r
  · exact hE _ _ h
  · exact hQ _ _ h

end Triple

namespace Keeps

variable {I : σ → Prop}

/-- A kept invariant holds in the final state of the run. -/
lemma run {m : Locked σ ε α} (hm : m.Keeps I) {s : σ} (hs : I s) : I (m.run s).2 := by
  have h := hm s hs
  generalize m.run s = r at h ⊢
  obtain ⟨a | e, s'⟩ := r <;> exact h

/-- An invariant of the final state is kept, whatever the outcome. -/
lemma of_run {m : Locked σ ε α} (hm : ∀ s, I s → I (m.run s).2) : m.Keeps I := by
  intro s hs
  have h := hm s hs
  generalize m.run s = r at h ⊢
  obtain ⟨a | e, s'⟩ := r <;> exact h

/-- Sections that each keep the invariant keep it together. -/
lemma of_sections {m : Locked σ ε α} (hm : m.Sections fun s s' => I s → I s') : m.Keeps I :=
  of_run fun _ hs => hm.invariant hs

lemma bind {m : Locked σ ε α} {k : α → Locked σ ε β} (hm : m.Keeps I)
    (hk : ∀ a, (k a).Keeps I) : (m >>= k).Keeps I :=
  Triple.bind hm hk

lemma attempt {m : Locked σ ε α} (hm : m.Keeps I) : (m.attempt : Locked σ ε' _).Keeps I :=
  (Triple.attempt hm).conseq (fun _ h => h) (fun r _ h => by cases r <;> exact h)
    fun _ _ h => h.elim

lemma mapErr {f : ε → ε'} {m : Locked σ ε α} (hm : m.Keeps I) : (m.mapErr f).Keeps I :=
  Triple.mapErr hm

lemma pure (a : α) : (Pure.pure a : Locked σ ε α).Keeps I := fun _ hs => hs

lemma fail (e : ε) : (Locked.fail e : Locked σ ε α).Keeps I := fun _ hs => hs

lemma ret (r : Except ε α) : (Locked.ret r : Locked σ ε α).Keeps I := by
  cases r with
  | ok a => exact pure a
  | error e => exact fail e

lemma failIf (c : Prop) [Decidable c] (e : ε) :
    (Locked.failIf c e : Locked σ ε Unit).Keeps I := by
  unfold Locked.failIf
  split
  · exact fail e
  · exact pure ()

lemma when {c : Prop} [Decidable c] {m : Locked σ ε Unit} (hm : c → m.Keeps I) :
    (Locked.when c m).Keeps I := by
  unfold Locked.when
  split
  · rename_i hc
    exact hm hc
  · exact pure ()

lemma onSome {o : Option β} {f : β → Locked σ ε Unit} (hf : ∀ b, (f b).Keeps I) :
    (Locked.onSome o f).Keeps I := by
  cases o with
  | none => exact pure ()
  | some b => exact hf b

lemma forM {xs : List β} {f : β → Locked σ ε Unit} (hf : ∀ x ∈ xs, (f x).Keeps I) :
    (xs.forM f).Keeps I := by
  induction xs with
  | nil => exact pure ()
  | cons x xs ih =>
    exact bind (hf x (by simp)) fun _ => ih fun y hy => hf y (by simp [hy])

lemma foldlM {xs : List β} {f : α → β → Locked σ ε α} (hf : ∀ a, ∀ x ∈ xs, (f a x).Keeps I)
    (a : α) : (xs.foldlM f a).Keeps I := by
  induction xs generalizing a with
  | nil => exact pure a
  | cons x xs ih =>
    exact bind (hf a x (by simp)) fun b => ih (fun c y hy => hf c y (by simp [hy])) b

end Keeps

/-! ## Failures under every interleaving -/

/-- Whatever its sections find, the method fails only with errors of `E`. -/
def FailsIn (E : ε → Prop) : Locked σ ε α → Prop
  | ret (.ok _) => True
  | ret (.error e) => E e
  | sect _ next => ∀ s, (next s).FailsIn E

namespace FailsIn

variable {E : ε → Prop} {E' : ε' → Prop}

lemma pure (a : α) : (Pure.pure a : Locked σ ε α).FailsIn E := trivial

lemma ret {r : Except ε α} (h : ∀ e, r = .error e → E e) : (Locked.ret r : Locked σ ε α).FailsIn E := by
  cases r with
  | ok a => trivial
  | error e => exact h e rfl

lemma fail {e : ε} (h : E e) : (Locked.fail e : Locked σ ε α).FailsIn E := h

lemma atomic {f : σ → Except ε α × σ} (h : ∀ s e, (f s).1 = .error e → E e) :
    (Locked.atomic f).FailsIn E :=
  fun s => ret (h s)

lemma bind {m : Locked σ ε α} {k : α → Locked σ ε β} (hm : m.FailsIn E)
    (hk : ∀ a, (k a).FailsIn E) : (m >>= k).FailsIn E := by
  change (m.bind k).FailsIn E
  induction m with
  | ret r =>
    cases r with
    | ok a => exact hk a
    | error e => exact hm
  | sect upd next ih => exact fun s => ih s (hm s)

/-- After a result that is known, the rest is only asked about its value. -/
lemma ret_bind {r : Except ε α} {k : α → Locked σ ε β} (herror : ∀ e, r = .error e → E e)
    (hok : ∀ a, r = .ok a → (k a).FailsIn E) : ((Locked.ret r : Locked σ ε α) >>= k).FailsIn E := by
  cases r with
  | ok a => exact hok a rfl
  | error e => exact herror e rfl

lemma attempt (m : Locked σ ε α) : (m.attempt : Locked σ ε' _).FailsIn E' := by
  induction m with
  | ret r => trivial
  | sect upd next ih => exact fun s => ih s

lemma mapErr {f : ε → ε'} (hf : ∀ e, E' (f e)) (m : Locked σ ε α) :
    (m.mapErr f).FailsIn E' := by
  induction m with
  | ret r =>
    cases r with
    | ok a => trivial
    | error e => exact hf e
  | sect upd next ih => exact fun s => ih s

lemma onSome {o : Option β} {f : β → Locked σ ε Unit} (hf : ∀ b, (f b).FailsIn E) :
    (Locked.onSome o f).FailsIn E := by
  cases o with
  | none => exact pure ()
  | some b => exact hf b

lemma when {c : Prop} [Decidable c] {m : Locked σ ε Unit} (hm : m.FailsIn E) :
    (Locked.when c m).FailsIn E := by
  unfold Locked.when
  split
  · exact hm
  · exact pure ()

/-- The failure of a method that runs alone. -/
lemma run {m : Locked σ ε α} (hm : m.FailsIn E) {s : σ} {e : ε} (h : (m.run s).1 = .error e) :
    E e := by
  induction m generalizing s with
  | ret r =>
    cases r with
    | ok a => cases h
    | error e' =>
      cases h
      exact hm
  | sect upd next ih => exact ih s (hm s) h

end FailsIn

end Locked

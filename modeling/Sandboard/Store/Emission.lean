import Sandboard.Library.Interleave
import Sandboard.Store.Board

/-!
# Sending events

An event is sent in three sections: its number is drawn, it is put into the buffer, it goes out
on the channel.  `Emits m` says that a method touches the numbers, the buffer and the channel in
this order only, whatever it does to the cards in between two events.
-/

namespace Sandboard

/-- The sequence number of an event. -/
def BoardEvent.seq : BoardEvent → ℕ
  | upsert seq _ => seq
  | story seq .. => seq
  | delete seq _ => seq
  | mainAdvanced seq .. => seq

/-- The numbers, the buffer and the channel are as they were, and so is the schema. -/
structure SameFeed (b b' : Board) : Prop where
  seq : b'.seq = b.seq
  eventBuffer : b'.eventBuffer = b.eventBuffer
  bufferCapacity : b'.bufferCapacity = b.bufferCapacity
  tx : b'.tx = b.tx
  schema : b'.schema = b.schema

lemma SameFeed.refl (b : Board) : SameFeed b b := ⟨rfl, rfl, rfl, rfl, rfl⟩

/-- Where a method is in sending an event. -/
inductive Emission where
  | idle
  /-- The number is drawn. -/
  | drawn (seq : ℕ)
  /-- The event is in the buffer. -/
  | recorded (event : BoardEvent)

/-- The sections that send an event, and those aside of them. -/
inductive Emission.Step : Emission → Board → Board → Emission → Prop where
  | aside {b b' : Board} (h : SameFeed b b') : Step .idle b b' .idle
  | draw (b : Board) : Step .idle b { b with seq := b.seq + 1 } (.drawn (b.seq + 1))
  | record {event : BoardEvent} {seq : ℕ} (b : Board) (h : event.seq = seq) :
    Step (.drawn seq) b
      { b with eventBuffer := Board.pushBounded b.bufferCapacity b.eventBuffer event }
      (.recorded event)
  | send (event : BoardEvent) (b : Board) :
    Step (.recorded event) b { b with tx := b.tx ++ [event] } .idle

/-- The method sends its events one after the other, each one whole. -/
def Emits {ε α : Type} (m : Method ε α) : Prop :=
  m.Paced Emission.Step (fun _ p => p = .idle) .idle

namespace Emits

variable {ε ε' α β : Type}

lemma pure (a : α) : Emits (Pure.pure a : Method ε α) := rfl

lemma fail (e : ε) : Emits (Locked.fail e : Method ε α) := rfl

lemma ret (r : Except ε α) : Emits (Locked.ret r : Method ε α) := rfl

lemma bind {m : Method ε α} {k : α → Method ε β} (hm : Emits m) (hk : ∀ a, Emits (k a)) :
    Emits (m >>= k) := by
  refine Locked.Paced.bind (hm.mono ?_)
  rintro (e | a) p rfl
  · rfl
  · exact hk a

lemma failIf (c : Prop) [Decidable c] (e : ε) : Emits (Locked.failIf c e : Method ε Unit) := by
  unfold Locked.failIf
  split <;> rfl

lemma when {c : Prop} [Decidable c] {m : Method ε Unit} (hm : c → Emits m) :
    Emits (Locked.when c m) := by
  unfold Locked.when
  split
  · rename_i hc
    exact hm hc
  · rfl

lemma onSome {o : Option β} {f : β → Method ε Unit} (hf : ∀ b, Emits (f b)) :
    Emits (Locked.onSome o f) := by
  cases o with
  | none => rfl
  | some b => exact hf b

lemma attempt {m : Method ε α} (hm : Emits m) : Emits (m.attempt : Method ε' _) :=
  Locked.Paced.attempt hm

lemma mapErr {f : ε → ε'} {m : Method ε α} (hm : Emits m) : Emits (m.mapErr f) :=
  Locked.Paced.mapErr hm

lemma forM {xs : List β} {f : β → Method ε Unit} (hf : ∀ x, Emits (f x)) : Emits (xs.forM f) := by
  induction xs with
  | nil => rfl
  | cons x xs ih => exact bind (hf x) fun _ => ih

lemma foldlM {xs : List β} {f : α → β → Method ε α} (hf : ∀ a x, Emits (f a x)) (a : α) :
    Emits (xs.foldlM f a) := by
  induction xs generalizing a with
  | nil => rfl
  | cons x xs ih => exact bind (hf a x) ih

/-- A section aside of the events. -/
lemma atomic {f : Board → Except ε α × Board} (h : ∀ b, SameFeed b (f b).2) :
    Emits (Locked.atomic f) :=
  Locked.Paced.atomic fun b => ⟨.idle, .aside (h b), rfl⟩

/-- Drawing a number, recording the event with it, sending it, and going on. -/
lemma publish {event : ℕ → BoardEvent} (h : ∀ n, (event n).seq = n) {k : Unit → Method ε α}
    (hk : ∀ u, Emits (k u)) :
    Emits (Board.nextSeq >>= fun n => Board.recordAndSend (event n) >>= k) := by
  refine Locked.Paced.bind (Locked.Paced.atomic fun b => ⟨_, .draw b, ?_⟩)
  refine Locked.Paced.bind (Locked.Paced.bind (Locked.Paced.atomic fun b' =>
    ⟨_, .record b' (h _), ?_⟩))
  exact Locked.Paced.atomic fun b' => ⟨_, .send _ b', hk ()⟩

/-- No section that sends events, or is aside of them, writes the schema. -/
lemma keepsSchema_of_paced {Q : Except ε α → Emission → Prop} {p : Emission} {m : Method ε α}
    (hm : m.Paced Emission.Step Q p) : m.Sections fun b b' => b'.schema = b.schema := by
  induction m generalizing p with
  | ret r => trivial
  | sect upd next ih =>
    intro b
    obtain ⟨p', hstep, hnext⟩ := hm b
    refine ⟨?_, ih b hnext⟩
    generalize hb' : upd b = b' at hstep
    cases hstep with
    | aside h => exact h.schema
    | draw => rfl
    | record => rfl
    | send => rfl

lemma keepsSchema {m : Method ε α} (hm : Emits m) :
    m.Sections fun b b' => b'.schema = b.schema :=
  keepsSchema_of_paced hm

end Emits

end Sandboard

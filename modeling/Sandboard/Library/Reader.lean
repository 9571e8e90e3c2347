import Mathlib.Algebra.GroupWithZero.Nat
import Mathlib.Data.List.Basic

/-!
# Reads that can be suspended

A reader asks a stream for exact numbers of bytes, one request after the other, and goes on with
what it gets, or with nothing when the stream has ended.  `Reader.poll` gives it the bytes that
have come in: the reader takes what it can and is suspended in the middle of a request, with the
bytes of that request it already has, until more come in.  How the bytes are split over the polls
makes no difference (`Reading.poll_append`).

`r.Takes bytes res` says that the reader returns `res` after exactly these bytes, whatever follows
them.  `Reader.runToEnd` runs a reader on a stream that ends.
-/

/-- A computation that reads bytes and returns a value or fails. -/
inductive Reader (β ε α : Type) where
  | done (res : Except ε α)
  /-- The next request, and what is done with the bytes, or at the end of the stream. -/
  | readExact (n : ℕ) (next : Option (List β) → Reader β ε α)

/-- How many bytes a reader asks for first. -/
def Reader.request {β ε α : Type} : Reader β ε α → ℕ
  | done _ => 0
  | readExact n _ => n

/-- A suspended reader, with the bytes of the present request that it already has. -/
structure Reading (β ε α : Type) where
  reader : Reader β ε α
  buf : List β
  fits : buf.length ≤ reader.request

namespace Reader

variable {β ε α α' : Type}

protected def bind (k : α → Reader β ε α') : Reader β ε α → Reader β ε α'
  | done (.ok a) => k a
  | done (.error e) => done (.error e)
  | readExact n next => readExact n fun got => (next got).bind k

instance : Monad (Reader β ε) where
  pure a := done (.ok a)
  bind m k := m.bind k

/-- The computation fails. -/
def throw (e : ε) : Reader β ε α := done (.error e)

/-- So many bytes, or nothing at the end of the stream. -/
def readExact? (n : ℕ) : Reader β ε (Option (List β)) :=
  readExact n fun got => done (.ok got)

/-- So many bytes; the end of the stream is a failure. -/
def readExactOr (n : ℕ) (e : ε) : Reader β ε (List β) :=
  readExact n fun got => done (match got with
    | some bytes => .ok bytes
    | none => .error e)

/-- The reader before any byte. -/
def start (r : Reader β ε α) : Reading β ε α := ⟨r, [], Nat.zero_le _⟩

/-- Run the reader on all the bytes of a stream that ends: what it returns, and what is left of
the stream. -/
def runToEnd : Reader β ε α → List β → Except ε α × List β
  | done res, input => (res, input)
  | readExact n next, input =>
    if n ≤ input.length then (next (some (input.take n))).runToEnd (input.drop n)
    else (next none).runToEnd []

/-- The reader gets the bytes that have come in; those it does not take are left over. -/
def poll : (r : Reader β ε α) → (buf : List β) → buf.length ≤ r.request → List β →
    Reading β ε α × List β
  | done res, _, _, input => ((done res).start, input)
  | readExact n next, buf, _, input =>
    if h : n ≤ (buf ++ input).length then
      (next (some ((buf ++ input).take n))).poll [] (Nat.zero_le _) ((buf ++ input).drop n)
    else (⟨readExact n next, buf ++ input, Nat.le_of_not_le h⟩, [])

end Reader

namespace Reading

variable {β ε α α' : Type}

/-- A suspended reader gets the bytes that have come in. -/
def poll (r : Reading β ε α) (input : List β) : Reading β ε α × List β :=
  r.reader.poll r.buf r.fits input

/-- What a reader that has returned returned. -/
def result? (r : Reading β ε α) : Option (Except ε α) :=
  match r.reader with
  | .done res => some res
  | .readExact .. => none

/-- A reader that is still waiting has taken all there was. -/
lemma rest_eq_nil_of_pending {r : Reading β ε α} {input : List β}
    (h : (r.poll input).1.result? = none) : (r.poll input).2 = [] := by
  rcases r with ⟨reader, buf, hfits⟩
  unfold poll at h ⊢
  dsimp only at h ⊢
  induction reader generalizing buf input with
  | done res => cases h
  | readExact n next ih =>
    unfold Reader.poll at h ⊢
    split
    · rename_i hn
      rw [dif_pos hn] at h
      exact ih _ _ (Nat.zero_le _) h
    · rfl

/-- What a reader leaves over is the end of what came in. -/
lemma rest_suffix (r : Reading β ε α) (input : List β) : (r.poll input).2 <:+ input := by
  rcases r with ⟨reader, buf, hfits⟩
  unfold poll
  dsimp only
  induction reader generalizing buf input with
  | done res => exact List.suffix_refl input
  | readExact n next ih =>
    unfold Reader.poll
    split
    · have hbuf : (buf ++ input).drop n = input.drop (n - buf.length) := by
        have hnil : buf.drop n = [] := List.drop_eq_nil_of_le hfits
        rw [List.drop_append, hnil, List.nil_append]
      have hsuffix := ih (some ((buf ++ input).take n)) ((buf ++ input).drop n) [] (Nat.zero_le _)
      exact hsuffix.trans (hbuf ▸ List.drop_suffix _ _)
    · exact List.nil_suffix

/-- A reader that has returned takes no more. -/
lemma poll_of_done {r : Reading β ε α} {res : Except ε α} (h : r.result? = some res)
    (input : List β) : r.poll input = (r, input) := by
  rcases r with ⟨_ | _, buf, hfits⟩
  · obtain rfl := List.eq_nil_of_length_eq_zero (Nat.le_zero.1 hfits)
    rfl
  · cases h

/-- It makes no difference whether the bytes come in at once or one part after the other. -/
theorem poll_append (r : Reading β ε α) (input more : List β) :
    r.poll (input ++ more) = (r.poll input).1.poll ((r.poll input).2 ++ more) := by
  rcases r with ⟨reader, buf, hfits⟩
  unfold poll
  dsimp only
  induction reader generalizing buf input with
  | done res => rfl
  | readExact n next ih =>
    by_cases hn : n ≤ (buf ++ input).length
    · have hn' : n ≤ (buf ++ (input ++ more)).length := by
        rw [← List.append_assoc, List.length_append]
        exact Nat.le_add_right_of_le hn
      have htake : (buf ++ (input ++ more)).take n = (buf ++ input).take n := by
        rw [← List.append_assoc, List.take_append_of_le_length hn]
      have hdrop : (buf ++ (input ++ more)).drop n = (buf ++ input).drop n ++ more := by
        rw [← List.append_assoc, List.drop_append_of_le_length hn]
      simp only [Reader.poll, dif_pos hn', dif_pos hn, htake, hdrop]
      exact ih _ _ _ (Nat.zero_le _)
    · simp only [Reader.poll, dif_neg hn, List.nil_append, List.append_assoc]

end Reading

namespace Reader

variable {β ε α α' : Type} {r : Reader β ε α} {bytes more : List β} {res : Except ε α}

/-- The reader returns this after exactly these bytes, whatever follows them. -/
def Takes (r : Reader β ε α) (bytes : List β) (res : Except ε α) : Prop :=
  ∀ more, r.start.poll (bytes ++ more) = ((done res).start, more)

namespace Takes

lemma pure (a : α) : (Pure.pure a : Reader β ε α).Takes [] (.ok a) := fun _ => rfl

lemma throw (e : ε) : (Reader.throw e : Reader β ε α).Takes [] (.error e) := fun _ => rfl

/-- A request takes the bytes it asks for. -/
lemma readExact (next : Option (List β) → Reader β ε α) {n : ℕ} (hlen : bytes.length = n)
    (h : (next (some bytes)).Takes more res) :
    (Reader.readExact n next).Takes (bytes ++ more) res := by
  intro rest
  unfold start Reading.poll poll
  dsimp only
  have hn : n ≤ ([] ++ (bytes ++ more ++ rest)).length := by
    rw [List.nil_append, List.length_append, List.length_append, hlen]
    omega
  rw [dif_pos hn]
  have hall : [] ++ (bytes ++ more ++ rest) = bytes ++ (more ++ rest) := List.append_assoc ..
  simp only [hall, List.take_left' hlen, List.drop_left' hlen]
  exact h rest

lemma readExact? {n : ℕ} (hlen : bytes.length = n) :
    (Reader.readExact? n : Reader β ε _).Takes bytes (.ok (some bytes)) := by
  have h := readExact (fun got => (done (.ok got) : Reader β ε _)) hlen (pure (some bytes))
  rwa [List.append_nil] at h

lemma readExactOr {n : ℕ} {e : ε} (hlen : bytes.length = n) :
    (Reader.readExactOr n e : Reader β ε _).Takes bytes (.ok bytes) := by
  unfold Reader.readExactOr
  have h := readExact (fun got => (done (match got with
    | some bytes => .ok bytes
    | none => .error e) : Reader β ε (List β))) hlen (pure bytes)
  rwa [List.append_nil] at h

end Takes

/-- Polling a sequence of two computations polls the first, and the second once that has
returned. -/
lemma poll_bind (m : Reader β ε α) (k : α → Reader β ε α') (input : List β) {a : α}
    {rest : List β} (h : m.start.poll input = ((done (.ok a)).start, rest)) :
    (m >>= k).start.poll input = (k a).start.poll rest := by
  change (m.bind k).start.poll input = _
  induction m generalizing input with
  | done res =>
    injection h with hreading hrest
    injection hreading with hreader _
    injection hreader with hres
    subst hres hrest
    rfl
  | readExact n next ih =>
    unfold start Reading.poll Reader.poll at h
    unfold Reader.bind start Reading.poll
    dsimp only at h ⊢
    rw [poll]
    split
    · rename_i hn
      rw [dif_pos hn] at h
      exact ih _ _ h
    · rename_i hn
      rw [dif_neg hn] at h
      injection h with hreading _
      injection hreading with hreader _
      cases hreader

/-- The second computation reads on where the first one has returned. -/
lemma Takes.bind {m : Reader β ε α'} {k : α' → Reader β ε α} {a : α'}
    (hm : m.Takes bytes (.ok a)) (hk : (k a).Takes more res) :
    (m >>= k).Takes (bytes ++ more) res := by
  intro rest
  rw [List.append_assoc]
  exact (poll_bind m k _ (hm (more ++ rest))).trans (hk rest)

/-- Before the last of the bytes the reader is still waiting. -/
lemma Takes.pending (h : r.Takes (bytes ++ more) res) (hmore : more ≠ []) :
    (r.start.poll bytes).1.result? = none := by
  by_contra hdone
  obtain ⟨res', hres'⟩ := Option.ne_none_iff_exists'.1 hdone
  have htakes := h []
  rw [List.append_nil, Reading.poll_append, Reading.poll_of_done hres'] at htakes
  injection htakes with _ hrest
  exact hmore (List.append_eq_nil_iff.1 hrest).2

section

variable {stream input : List β}

/-- A reader that has returned on a part of the stream has taken its bytes from it. -/
lemma Takes.of_result (h : r.Takes bytes res) (hbytes : bytes <+: stream)
    (hinput : input <+: stream) {res' : Except ε α}
    (hres : (r.start.poll input).1.result? = some res') :
    res' = res ∧ bytes ++ (r.start.poll input).2 = input := by
  rcases List.prefix_or_prefix_of_prefix hbytes hinput with ⟨rest, hle⟩ | ⟨more, hge⟩
  · have hpoll := h rest
    rw [hle] at hpoll
    rw [hpoll] at hres ⊢
    exact ⟨(Option.some.inj hres).symm, hle⟩
  · cases more with
    | nil =>
      rw [List.append_nil] at hge
      have hpoll := h []
      rw [List.append_nil, ← hge] at hpoll
      rw [hpoll] at hres ⊢
      exact ⟨(Option.some.inj hres).symm, by rw [List.append_nil, hge]⟩
    | cons b more =>
      rw [← hge] at h
      rw [h.pending (List.cons_ne_nil b more)] at hres
      cases hres

/-- A reader that is still waiting on a part of the stream has not got all of its bytes. -/
lemma Takes.length_lt (h : r.Takes bytes res) (hbytes : bytes <+: stream)
    (hinput : input <+: stream) (hres : (r.start.poll input).1.result? = none) :
    input.length < bytes.length := by
  by_contra hlen
  obtain ⟨rest, hle⟩ := List.prefix_of_prefix_length_le hbytes hinput (Nat.not_lt.1 hlen)
  have hpoll := h rest
  rw [hle] at hpoll
  rw [hpoll] at hres
  cases hres

end

/-! ## A stream that ends -/

/-- What a reader returns before the end of the stream it returns on the whole stream. -/
lemma runToEnd_of_poll (r : Reader β ε α) {input rest : List β} {res : Except ε α}
    (h : r.start.poll input = ((done res).start, rest)) : r.runToEnd input = (res, rest) := by
  induction r generalizing input with
  | done res' =>
    injection h with hreading hrest
    injection hreading with hreader _
    injection hreader with hres
    rw [runToEnd, hres, hrest]
  | readExact n next ih =>
    unfold start Reading.poll Reader.poll at h
    simp only [List.nil_append] at h
    split at h
    · rename_i hn
      rw [runToEnd, if_pos hn]
      exact ih _ h
    · injection h with hreading _
      injection hreading with hreader _
      cases hreader

lemma Takes.runToEnd (h : r.Takes bytes res) (rest : List β) :
    r.runToEnd (bytes ++ rest) = (res, rest) :=
  runToEnd_of_poll r (h rest)

/-- The second computation runs on what the first one has left. -/
lemma runToEnd_bind (m : Reader β ε α) (k : α → Reader β ε α') {input rest : List β} {a : α}
    (h : m.runToEnd input = (.ok a, rest)) : (m >>= k).runToEnd input = (k a).runToEnd rest := by
  change (m.bind k).runToEnd input = _
  induction m generalizing input with
  | done res =>
    injection h with hres hrest
    subst hres hrest
    rfl
  | readExact n next ih =>
    unfold Reader.bind
    rw [runToEnd] at h ⊢
    split
    · rename_i hn
      rw [if_pos hn] at h
      exact ih _ h
    · rename_i hn
      rw [if_neg hn] at h
      exact ih _ h

end Reader

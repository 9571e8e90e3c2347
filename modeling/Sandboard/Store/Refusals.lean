import Sandboard.Store.Runs

/-!
# What a refused call leaves behind

Several verbs edit the card in one section and ask the transition table in the next.  When the
table refuses the move, the edit stays.  For each of them this file says in which case a
failing call leaves the board as it was.
-/

namespace Sandboard

open Std Text

namespace BoardState

variable {s : BoardState} {id : ItemId} {c : WorkItem} {f : WorkItem → WorkItem}

/-! ## Edits and the check of a transition -/

/-- An edit that changes its card changes the board. -/
lemma editItem_eq_iff (hc : s.items[id]? = some c) : s.editItem id f = s ↔ f c = c := by
  constructor
  · intro h
    have hitem := congrArg (fun s : BoardState => s.items[id]?) h
    simpa [hc] using hitem
  · intro h
    have hitems : s.items.modify id f = s.items := by
      refine ExtTreeMap.ext_getElem? fun k => ?_
      change (s.editItem id f).items[k]? = _
      rw [items_editItem]
      split
      · rename_i hk
        rw [hk, hc, Option.map_some, h]
      · rfl
    exact congrArg (fun items => { s with items := items }) hitems

/-- The edit keeps what the check of a transition reads of a card. -/
structure CheckBlind (f : WorkItem → WorkItem) : Prop where
  id : ∀ i, (f i).id = i.id
  state : ∀ i, (f i).state = i.state
  definitionOfDone : ∀ i, (f i).definitionOfDone = i.definitionOfDone
  blockedBy : ∀ i, (f i).blockedBy = i.blockedBy

namespace CheckBlind

variable (hf : CheckBlind f)

include hf

/-- The edit changes no state. -/
lemma map_editItem {α : Type} (g : State → α) (k : ItemId) :
    (s.editItem id f).items[k]?.map (fun i => g i.state) =
      s.items[k]?.map fun i => g i.state := by
  rw [items_editItem]
  split
  · rw [Option.map_map]
    congr 1
    funext i
    exact congrArg g (hf.state i)
  · rfl

lemma hasChildren_editItem (k : ItemId) : (s.editItem id f).hasChildren k = s.hasChildren k := by
  unfold hasChildren nonRetiredChildCount
  simp only [hf.map_editItem fun st => decide (st ≠ .retired)]
  rfl

lemma unresolvedBlockers_editItem (i : WorkItem) :
    (s.editItem id f).unresolvedBlockers i = s.unresolvedBlockers i := by
  unfold unresolvedBlockers isUnresolved
  simp only [hf.map_editItem fun st => !st.isTerminal]

/-- The check of a move is the same before and after the edit. -/
lemma checkMove_editItem (i : WorkItem) (target : State) :
    (s.editItem id f).checkMove id (f i) target = s.checkMove id i target := by
  unfold checkMove
  rw [hf.hasChildren_editItem, hf.unresolvedBlockers_editItem, unresolvedBlockers, hf.blockedBy]
  exact check_congr (hf.id i) (hf.state i) (hf.definitionOfDone i) _ _ _

/-- So is the check of a dispatch. -/
lemma checkDispatch_editItem (i : WorkItem) :
    Board.checkDispatch (s.editItem id f) id i = Board.checkDispatch s id i := by
  unfold Board.checkDispatch
  rw [hf.hasChildren_editItem, hf.unresolvedBlockers_editItem]

end CheckBlind

/-- A move between states other than Retired changes no container. -/
lemma hasChildren_moveItem (hc : s.items[id]? = some c) {target : State}
    (hsource : c.state ≠ .retired) (htarget : target ≠ .retired) (now : Time) (byWhom : String)
    (reason : Option String) (k : ItemId) :
    (s.moveItem id c now target byWhom reason).hasChildren k = s.hasChildren k := by
  have hcount : ∀ cid : ItemId, ((s.moveItem id c now target byWhom reason).items[cid]?.map
      fun i => decide (i.state ≠ .retired)) = s.items[cid]?.map fun i =>
        decide (i.state ≠ .retired) := by
    intro cid
    rw [items_moveItem]
    split
    · rename_i hk
      rw [hk, hc]
      simp [hsource, htarget]
    · rfl
  unfold hasChildren nonRetiredChildCount
  simp only [hcount]
  rfl

/-- Whether a card may go to Backlog depends on its edge, its children and its definition of
done. -/
lemma checkMove_backlog_iff {i : WorkItem} :
    s.checkMove id i .backlog = .ok () ↔
      allowed i.state .backlog = true ∧
        (s.hasChildren id = true ∨ i.definitionOfDone.isSome = true) :=
  check_backlog_iff

/-- Review and NeedsHuman are guarded by the edge alone. -/
lemma checkMove_free_iff {i : WorkItem} {target : State}
    (hfree : requiresClaimable target = false) (hbacklog : target ≠ .backlog) :
    s.checkMove id i target = .ok () ↔ allowed i.state target = true :=
  check_free_iff hfree hbacklog

end BoardState

namespace Board

open BoardState

variable {ε α : Type}

/-! ## Failing calls -/

/-- The state that a failing call leaves; none when the call succeeds. -/
def failure (m : Method ε α) (b : Board) : Option BoardState :=
  match m.run b with
  | (.error _, b') => some b'.state
  | (.ok _, _) => none

/-- A call goes on where its first part ended. -/
lemma failure_bind_ok {β : Type} {m : Method ε α} {k : α → Method ε β} {b b' : Board} {a : α}
    (h : m.run b = (.ok a, b')) : failure (m >>= k) b = failure (k a) b' := by
  simp [failure, h]

lemma failure_bind_error {β : Type} {m : Method ε α} {k : α → Method ε β} {b b' : Board} {e : ε}
    (h : m.run b = (.error e, b')) : failure (m >>= k) b = some b'.state := by
  simp [failure, h]

@[simp] lemma failure_fail (e : ε) (b : Board) :
    failure (Locked.fail e : Method ε α) b = some b.state := rfl

@[simp] lemma failure_ret_bind_error {β : Type} (e : ε) (k : α → Method ε β) (b : Board) :
    failure (Locked.ret (.error e) >>= k) b = some b.state := rfl

@[simp] lemma failure_ret_bind_ok {β : Type} (a : α) (k : α → Method ε β) (b : Board) :
    failure (Locked.ret (.ok a) >>= k) b = failure (k a) b := rfl

@[simp] lemma failure_failIf_bind {β : Type} (p : Prop) [Decidable p] (e : ε)
    (k : Unit → Method ε β) (b : Board) :
    failure (Locked.failIf p e >>= k) b = if p then some b.state else failure (k ()) b := by
  unfold Locked.failIf
  split <;> rfl

/-- A call that fails where there is no card, and elsewhere succeeds or leaves a known state,
keeps the state on failure exactly where it succeeds or that state is the old one. -/
lemma keeps_iff {m : Method ε α} {b : Board} {id : ItemId} {P Q : WorkItem → Prop}
    (hnone : b.state.items[id]? = none → failure m b = some b.state)
    (hok : ∀ c, b.state.items[id]? = some c → P c → failure m b = none)
    (hrefused : ∀ c, b.state.items[id]? = some c → ¬P c →
      ∃ s', failure m b = some s' ∧ (s' = b.state ↔ Q c)) :
    (∀ s', failure m b = some s' → s' = b.state) ↔
      ∀ c, b.state.items[id]? = some c → P c ∨ Q c := by
  cases hitem : b.state.items[id]? with
  | none => simp [hnone hitem]
  | some c =>
    by_cases hP : P c
    · simp [hok c hitem hP, hP]
    · obtain ⟨s', hs', hQ⟩ := hrefused c hitem hP
      simp [hs', hP, hQ]

variable {b b₁ : Board} {id : ItemId} {c : WorkItem} {f : WorkItem → WorkItem} {target : State}

/-! ## A move after an edit -/

section Unicode

variable [UnicodeTables]

/-- A card that is not on the board does not move. -/
lemma run_transition_missing (target : State) (hc : b.state.items[id]? = none)
    (byWhom : String) (reason : Option String) :
    (transition id target byWhom reason).run b = (.error (.noSuchItem id), b.stepped b.state) :=
  run_transition_error (transitionLocked_of_none hc _ _ _ _)

/-- A move that the table refuses changes nothing. -/
lemma run_transition_refused (hc : b.state.items[id]? = some c)
    (hcheck : b.state.checkMove id c target ≠ .ok ()) (byWhom : String)
    (reason : Option String) :
    ∃ e, (transition id target byWhom reason).run b = (.error e, b.stepped b.state) := by
  cases hmove : b.state.checkMove id c target with
  | ok u => exact absurd hmove hcheck
  | error e => exact ⟨e, run_transition_error (transitionLocked_of_error hc hmove _ _ _)⟩

/-- A move that the table allows succeeds, and the card is there afterwards. -/
lemma run_transition_allowed (hc : b.state.items[id]? = some c) (htarget : target ≠ .done)
    (hcheck : b.state.checkMove id c target = .ok ()) (byWhom : String)
    (reason : Option String) :
    ∃ item b₂, (transition id target byWhom reason).run b = (.ok item, b₂) ∧
      b₂.state = b.state.moveItem id c (b.now 0) target byWhom reason ∧
      b₂.state.items[id]? = some (c.moved (b.now 0) target byWhom reason) := by
  have hmove := transitionLocked_of_ok hc hcheck (b.now 0) byWhom reason
  refine ⟨_, _, run_transition_ok htarget hmove, rfl, ?_⟩
  rw [emitted_state, stepped_state, items_moveItem, if_pos rfl, hc, Option.map_some]

lemma run_transitionOrMessage_missing (target : State) (hc : b.state.items[id]? = none)
    (byWhom text : String) :
    ∃ e, (transitionOrMessage id target byWhom text).run b = (.error e, b.stepped b.state) := by
  refine ⟨(TransitionError.noSuchItem id).message, ?_⟩
  rw [transitionOrMessage, Locked.run_mapErr, run_transition_missing target hc]
  rfl

lemma run_transitionOrMessage_refused (hc : b.state.items[id]? = some c)
    (hcheck : b.state.checkMove id c target ≠ .ok ()) (byWhom text : String) :
    ∃ e, (transitionOrMessage id target byWhom text).run b = (.error e, b.stepped b.state) := by
  obtain ⟨e, hrun⟩ := run_transition_refused hc hcheck byWhom (some text)
  refine ⟨e.message, ?_⟩
  rw [transitionOrMessage, Locked.run_mapErr, hrun]
  rfl

lemma run_transitionOrMessage_allowed (hc : b.state.items[id]? = some c)
    (htarget : target ≠ .done) (hcheck : b.state.checkMove id c target = .ok ())
    (byWhom text : String) :
    ∃ item b₂, (transitionOrMessage id target byWhom text).run b = (.ok item, b₂) ∧
      b₂.state = b.state.moveItem id c (b.now 0) target byWhom (some text) ∧
      b₂.state.items[id]? = some (c.moved (b.now 0) target byWhom (some text)) := by
  obtain ⟨item, b₂, hrun, hstate, hc₂⟩ :=
    run_transition_allowed hc htarget hcheck byWhom (some text)
  refine ⟨item, b₂, ?_, hstate, hc₂⟩
  rw [transitionOrMessage, Locked.run_mapErr, hrun]
  rfl

/-- A refused move leaves the edit made before it. -/
lemma run_edited_refused (hf : CheckBlind f) (hc : b.state.items[id]? = some c)
    (hb : b₁.state = b.state.editItem id f) (hcheck : b.state.checkMove id c target ≠ .ok ())
    (byWhom text : String) :
    ∃ e, (transitionOrMessage id target byWhom text).run b₁ =
      (.error e, b₁.stepped b₁.state) := by
  rw [← hf.checkMove_editItem, ← hb] at hcheck
  exact run_transitionOrMessage_refused (by simp [hb, hc]) hcheck byWhom text

/-- An allowed move is made on the edited card. -/
lemma run_edited_moved (hf : CheckBlind f) (hc : b.state.items[id]? = some c)
    (hb : b₁.state = b.state.editItem id f) (htarget : target ≠ .done)
    (hcheck : b.state.checkMove id c target = .ok ()) (byWhom text : String) :
    ∃ item b₂, (transitionOrMessage id target byWhom text).run b₁ = (.ok item, b₂) ∧
      b₂.state = (b.state.editItem id f).moveItem id (f c) (b₁.now 0) target byWhom (some text) ∧
      b₂.state.items[id]? = some ((f c).moved (b₁.now 0) target byWhom (some text)) := by
  rw [← hf.checkMove_editItem, ← hb] at hcheck
  obtain ⟨item, b₂, hrun, hstate, hc₂⟩ :=
    run_transitionOrMessage_allowed (by simp [hb, hc]) htarget hcheck byWhom text
  rw [hb] at hstate
  exact ⟨item, b₂, hrun, hstate, hc₂⟩

lemma run_edited_allowed (hf : CheckBlind f) (hc : b.state.items[id]? = some c)
    (hb : b₁.state = b.state.editItem id f) (htarget : target ≠ .done)
    (hcheck : b.state.checkMove id c target = .ok ()) (byWhom text : String) :
    ∃ item b₂ c₂, (transitionOrMessage id target byWhom text).run b₁ = (.ok item, b₂) ∧
      b₂.state.items[id]? = some c₂ := by
  obtain ⟨item, b₂, hrun, -, hc₂⟩ := run_edited_moved hf hc hb htarget hcheck byWhom text
  exact ⟨item, b₂, _, hrun, hc₂⟩

end Unicode

lemma run_holdForHost_some (hc : b.state.items[id]? = some c) (title : String) :
    ∃ item b', (holdForHost id title).run b = (.ok item, b') := by
  simp [holdForHost, tryEdit_some hc]

/-- A dispatch that passes its check is queued. -/
lemma run_enqueueDispatch_ok (hc : b.state.items[id]? = some c)
    (hcheck : checkDispatch b.state id c = .ok ()) :
    ∃ item b', (enqueueDispatch id).run b = (.ok item, b') := by
  have hparked : c.parked = false := by
    unfold checkDispatch at hcheck
    cases hparked : c.parked with
    | false => rfl
    | true =>
      simp only [hparked, if_true] at hcheck
      split at hcheck <;> cases hcheck
  have hqueue : enqueueSection id b.state = (.ok (b.state.populateBlockers c.queued),
      b.state.editItem id WorkItem.queued) := by
    simp only [enqueueSection, hc, hcheck]
  simp [enqueueDispatch, mayClaim, hc, hparked, Locked.run_failIf, hqueue]

/-- A dispatch that fails its check changes nothing. -/
lemma run_enqueueDispatch_error {e : String} (hc : b.state.items[id]? = some c)
    (hcheck : checkDispatch b.state id c = .error e) :
    ∃ e' b', (enqueueDispatch id).run b = (.error e', b') ∧ b'.state = b.state := by
  have hqueue : enqueueSection id b.state = (.error e, b.state) := by
    simp only [enqueueSection, hc, hcheck]
  cases hparked : c.parked with
  | true => simp [enqueueDispatch, mayClaim, hc, hparked, Locked.run_failIf]
  | false => simp [enqueueDispatch, mayClaim, hc, hparked, Locked.run_failIf, hqueue]

/-! ## Which edits change a card -/

lemma noted_ne (now : Time) (author text : String) (c : WorkItem) :
    c.noted now author text ≠ c := by
  intro h
  have hnotes := congrArg (fun i => i.notes.length) h
  simp [WorkItem.noted] at hnotes

/-- An answer is noted on the card. -/
lemma answered_ne (choice : String) (now : Time) (c : WorkItem) :
    c.answered choice now ≠ c := by
  intro h
  have hnotes := congrArg (fun i => i.notes.length) h
  simp [WorkItem.answered, WorkItem.steered, WorkItem.noted] at hnotes

/-- So is a request for changes. -/
lemma requested_ne (text : String) (now : Time) (c : WorkItem) :
    (c.steered text now).unproposed ≠ c := by
  intro h
  have hnotes := congrArg (fun i => i.notes.length) h
  simp [WorkItem.unproposed, WorkItem.steered, WorkItem.noted] at hnotes

lemma checkBlind_notedPark (reason : Option String) (now : Time) :
    CheckBlind (notedPark reason now) := by
  cases reason with
  | none => exact ⟨fun _ => rfl, fun _ => rfl, fun _ => rfl, fun _ => rfl⟩
  | some r => exact ⟨fun _ => rfl, fun _ => rfl, fun _ => rfl, fun _ => rfl⟩

lemma notedPark_eq_iff {reason : Option String} {now : Time} :
    notedPark reason now c = c ↔ reason = none := by
  cases reason with
  | none => simp [notedPark]
  | some r => simpa [notedPark] using noted_ne now "human" s!"Parked: {r}" c

/-- The card with a bounce reason recorded, when one is given. -/
def bouncedWith (reason : Option String) (it : WorkItem) : WorkItem :=
  match reason with
  | some r => it.bounced r
  | none => it

lemma checkBlind_bouncedWith (reason : Option String) : CheckBlind (bouncedWith reason) := by
  cases reason with
  | none => exact ⟨fun _ => rfl, fun _ => rfl, fun _ => rfl, fun _ => rfl⟩
  | some r => exact ⟨fun _ => rfl, fun _ => rfl, fun _ => rfl, fun _ => rfl⟩

lemma bouncedWith_eq_iff {reason : Option String} :
    bouncedWith reason c = c ↔ ∀ r, reason = some r → c.lastBounceReason = some r := by
  cases reason with
  | none => simp [bouncedWith]
  | some r =>
    simp only [bouncedWith, WorkItem.bounced, Option.some.injEq, forall_eq']
    constructor
    · intro h
      rw [← h]
    · intro h
      rw [← h]

/-! ## The verbs -/

section Unicode

variable [UnicodeTables]

lemma keeps_park_iff (id : ItemId) (reason : Option String) (b : Board) :
    (∀ s', failure (park id reason) b = some s' → s' = b.state) ↔
      ∀ c, b.state.items[id]? = some c →
        b.state.checkMove id c .backlog = .ok () ∨ reason.filter (fun r => !isBlank r) = none := by
  unfold park
  generalize reason.filter (fun r => !isBlank r) = r
  have hf := checkBlind_notedPark r (b.now 0)
  have hb : (b.stepped (b.state.editItem id (notedPark r (b.now 0)))).state =
      b.state.editItem id (notedPark r (b.now 0)) := rfl
  refine keeps_iff (fun hc => ?_) (fun c hc hcheck => ?_) (fun c hc hcheck => ?_)
  · simp [failure, tryEdit_none hc]
  · obtain ⟨item, b₂, c₂, hrun, hc₂⟩ := run_edited_allowed hf hc hb (by decide) hcheck "human"
      (r.getD "parked")
    simp [failure, tryEdit_some hc, hrun, tryEdit_some hc₂]
  · obtain ⟨e, hrun⟩ := run_edited_refused hf hc hb hcheck "human" (r.getD "parked")
    refine ⟨b.state.editItem id (notedPark r (b.now 0)), ?_, ?_⟩
    · simp [failure, tryEdit_some hc, hrun]
    · rw [editItem_eq_iff hc, notedPark_eq_iff]

omit [UnicodeTables] in
lemma keeps_unpark_iff (id : ItemId) (b : Board) :
    (∀ s', failure (unpark id) b = some s' → s' = b.state) ↔
      ∀ c, b.state.items[id]? = some c → c.state = .backlog → c.parked = true →
        checkDispatch b.state id c.unheld = .ok () := by
  have hf : CheckBlind WorkItem.unheld := ⟨fun _ => rfl, fun _ => rfl, fun _ => rfl, fun _ => rfl⟩
  cases hc : b.state.items[id]? with
  | none => simp [unpark, unparkSection, failure, hc]
  | some c =>
    by_cases hheld : c.state = .backlog ∧ c.parked = true
    · have hsection : unparkSection id b.state = (.ok (), b.state.editItem id WorkItem.unheld) := by
        simp [unparkSection, hc, hheld]
      have hc₁ : (b.stepped (b.state.editItem id WorkItem.unheld)).state.items[id]? =
          some c.unheld := by simp [hc]
      have hdispatch : checkDispatch (b.stepped (b.state.editItem id WorkItem.unheld)).state id
          c.unheld = checkDispatch b.state id c.unheld := hf.checkDispatch_editItem c.unheld
      cases hcheck : checkDispatch b.state id c.unheld with
      | ok u =>
        rw [hcheck] at hdispatch
        obtain ⟨item, b₂, hrun⟩ := run_enqueueDispatch_ok hc₁ hdispatch
        simp [unpark, failure, hsection, hrun, hcheck]
      | error e =>
        rw [hcheck] at hdispatch
        obtain ⟨e', b₂, hrun, hstate⟩ := run_enqueueDispatch_error hc₁ hdispatch
        have hne : b.state.editItem id WorkItem.unheld ≠ b.state := by
          rw [Ne, editItem_eq_iff hc]
          intro h
          have hparked := congrArg WorkItem.parked h
          rw [hheld.2] at hparked
          cases hparked
        simp [unpark, failure, hsection, hrun, hstate, hheld, hcheck, hne]
    · have hrefused : ∃ e, unparkSection id b.state = (.error e, b.state) := by
        simp only [unparkSection, hc]
        split
        · exact ⟨_, rfl⟩
        · split
          · exact ⟨_, rfl⟩
          · simp_all
      obtain ⟨e, hsection⟩ := hrefused
      rw [not_and] at hheld
      simp [unpark, failure, hsection]
      exact fun hstate hparked => absurd hparked (hheld hstate)

lemma keeps_halt_iff (id : ItemId) (reason : Option String) (b : Board) :
    (∀ s', failure (halt id reason) b = some s' → s' = b.state) ↔
      ∀ c, b.state.items[id]? = some c →
        b.state.checkMove id c .backlog = .ok () ∨ c.wiped = c := by
  unfold halt
  have hf : CheckBlind WorkItem.wiped := ⟨fun _ => rfl, fun _ => rfl, fun _ => rfl, fun _ => rfl⟩
  have hb : (b.stepped (b.state.editItem id WorkItem.wiped)).state =
      b.state.editItem id WorkItem.wiped := rfl
  refine keeps_iff (fun hc => ?_) (fun c hc hcheck => ?_) (fun c hc hcheck => ?_)
  · have hc₁ : (b.stepped b.state).state.items[id]? = none := hc
    obtain ⟨e, hrun⟩ := run_transitionOrMessage_missing .backlog hc₁ "human"
      (reason.getD "halted")
    simp [failure, editItem_of_none hc, hrun]
  · obtain ⟨item, b₂, c₂, hrun, hc₂⟩ := run_edited_allowed hf hc hb (by decide) hcheck "human"
      (reason.getD "halted")
    simp [failure, hrun]
  · obtain ⟨e, hrun⟩ := run_edited_refused hf hc hb hcheck "human" (reason.getD "halted")
    refine ⟨b.state.editItem id WorkItem.wiped, ?_, editItem_eq_iff hc⟩
    simp [failure, hrun]

lemma keeps_report_iff (id : ItemId) (agentId : String) (added removed : UInt32)
    (gates : List String) (b : Board) :
    (∀ s', failure (report id agentId added removed gates) b = some s' → s' = b.state) ↔
      ∀ c, b.state.items[id]? = some c →
        allowed c.state .review = true ∨ c.reported added removed gates = c := by
  unfold report
  let f := WorkItem.reported added removed gates
  have hf : CheckBlind f := ⟨fun _ => rfl, fun _ => rfl, fun _ => rfl, fun _ => rfl⟩
  let b₁ := b.stepped (b.state.editItem id f)
  have hcheck_iff : ∀ c, b.state.items[id]? = some c → (b₁.state.items[id]? = some (f c) ∧
      (b₁.state.checkMove id (f c) .review = .ok () ↔ allowed c.state .review = true)) := by
    intro c hc
    refine ⟨by simp [b₁, hc], checkMove_free_iff (by decide) (by decide)⟩
  refine keeps_iff (fun hc => ?_) (fun c hc hcheck => ?_) (fun c hc hcheck => ?_)
  · have hc₁ : (b.stepped b.state).state.items[id]? = none := hc
    simp [failure, editItem_of_none hc, run_transition_missing .review hc₁]
  · obtain ⟨hc₁, hiff⟩ := hcheck_iff c hc
    obtain ⟨item, b₂, hrun, -, -⟩ := run_transition_allowed hc₁ (by decide) (hiff.2 hcheck)
      agentId none
    simp [failure, b₁, f] at hrun ⊢
    simp [hrun]
  · obtain ⟨hc₁, hiff⟩ := hcheck_iff c hc
    obtain ⟨e, hrun⟩ := run_transition_refused hc₁ (fun h => hcheck (hiff.1 h)) agentId none
    refine ⟨b.state.editItem id f, ?_, editItem_eq_iff hc⟩
    simp [failure, b₁, f] at hrun ⊢
    simp [hrun]

omit [UnicodeTables] in
lemma checkBlind_asking (question : String) (options : List EscalationOption)
    (recommended : ℕ) (now : Time) : CheckBlind (WorkItem.asking question options recommended now) :=
  ⟨fun _ => rfl, fun _ => rfl, fun _ => rfl, fun _ => rfl⟩

/-- A well-formed question succeeds exactly when the card may go to NeedsHuman, and stays on
the card when it may not. -/
lemma failure_escalate {agentId question : String} {options : List EscalationOption}
    {recommended : ℕ} (hoptions : checkOptions options recommended = .ok ())
    (hc : b.state.items[id]? = some c) :
    failure (escalate id agentId question options recommended) b =
      if allowed c.state .needsHuman = true then none
      else some (b.state.editItem id (WorkItem.asking question options recommended (b.now 0))) := by
  have hf := checkBlind_asking question options recommended (b.now 0)
  have hb : (b.stepped (b.state.editItem id
        (WorkItem.asking question options recommended (b.now 0)))).state =
      b.state.editItem id (WorkItem.asking question options recommended (b.now 0)) := rfl
  unfold escalate
  rw [hoptions]
  split
  · rename_i hallowed
    have hmove : b.state.checkMove id c .needsHuman = .ok () :=
      (checkMove_free_iff (by decide) (by decide)).2 hallowed
    obtain ⟨item, b₂, c₂, hrun, hc₂⟩ := run_edited_allowed hf hc hb (by decide) hmove agentId
      question
    simp [failure, tryEdit_some hc, hrun]
  · rename_i hallowed
    have hmove : b.state.checkMove id c .needsHuman ≠ .ok () := fun h =>
      hallowed ((checkMove_free_iff (by decide) (by decide)).1 h)
    obtain ⟨e, hrun⟩ := run_edited_refused hf hc hb hmove agentId question
    simp [failure, tryEdit_some hc, hrun]

lemma keeps_escalate_iff (id : ItemId) (agentId question : String)
    (options : List EscalationOption) (recommended : ℕ) (b : Board) :
    (∀ s', failure (escalate id agentId question options recommended) b = some s' →
        s' = b.state) ↔
      (checkOptions options recommended = .ok () → ∀ c, b.state.items[id]? = some c →
        allowed c.state .needsHuman = true ∨
          c.asking question options recommended (b.now 0) = c) := by
  cases hoptions : checkOptions options recommended with
  | error e => simp [escalate, failure, hoptions]
  | ok u =>
    rw [forall_prop_of_true rfl]
    refine keeps_iff (fun hc => ?_) (fun c hc hcheck => ?_) (fun c hc hcheck => ?_)
    · simp [escalate, hoptions, failure, tryEdit_none hc]
    · rw [failure_escalate hoptions hc, if_pos hcheck]
    · rw [failure_escalate hoptions hc, if_neg hcheck]
      exact ⟨_, rfl, editItem_eq_iff hc⟩

lemma keeps_answerEscalation_iff (id : ItemId) (choice : String) (b : Board) :
    (∀ s', failure (answerEscalation id choice) b = some s' → s' = b.state) ↔
      ∀ c, b.state.items[id]? = some c → c.escalation.isSome = true →
        b.state.checkMove id c .backlog = .ok () := by
  have hf : CheckBlind (WorkItem.answered choice (b.now 0)) :=
    ⟨fun _ => rfl, fun _ => rfl, fun _ => rfl, fun _ => rfl⟩
  have hb : (b.stepped (b.state.editItem id (WorkItem.answered choice (b.now 0)))).state =
      b.state.editItem id (WorkItem.answered choice (b.now 0)) := rfl
  unfold answerEscalation
  cases hc : b.state.items[id]? with
  | none => simp [failure, answerSection, hc]
  | some c =>
    cases hasked : c.escalation with
    | none => simp [failure, answerSection, hc, hasked]
    | some question =>
      have hsection : answerSection id choice (b.now 0) b.state =
          (.ok (c.answered choice (b.now 0)),
            b.state.editItem id (WorkItem.answered choice (b.now 0))) := by
        simp [answerSection, hc, hasked, tryEdit_some hc]
      by_cases hcheck : b.state.checkMove id c .backlog = .ok ()
      · obtain ⟨item, b₂, c₂, hrun, hc₂⟩ := run_edited_allowed hf hc hb (by decide) hcheck
          "human" s!"answered: {choice}"
        obtain ⟨held, b₃, hheld⟩ := run_holdForHost_some
          (told_item hc₂ id s!"{(c.answered choice (b.now 0)).title}: unblocked — {choice}")
          (c.answered choice (b.now 0)).title
        by_cases hdefers : decisionDefersHostPrerequisite choice = true
        · simp [failure, hsection, hrun, hcheck, hdefers, hheld]
        · simp [failure, hsection, hrun, hcheck, hdefers]
      · obtain ⟨e, hrun⟩ := run_edited_refused hf hc hb hcheck "human" s!"answered: {choice}"
        have hne : b.state.editItem id (WorkItem.answered choice (b.now 0)) ≠ b.state := by
          rw [Ne, editItem_eq_iff hc]
          exact answered_ne _ _ c
        simp [failure, hsection, hrun, hasked, hcheck, hne]

lemma keeps_requestChanges_iff (id : ItemId) (note : String) (b : Board) :
    (∀ s', failure (requestChanges id note) b = some s' → s' = b.state) ↔
      ∀ c, b.state.items[id]? = some c → b.state.checkMove id c .backlog = .ok () := by
  unfold requestChanges steer
  set text := s!"Changes requested: {note}" with htext
  set reason := s!"changes requested: {note}" with hreason
  cases hc : b.state.items[id]? with
  | none => simp [failure, run_editOr_none hc]
  | some c =>
    have hf : CheckBlind fun i => (i.steered text (b.now 0)).unproposed :=
      ⟨fun _ => rfl, fun _ => rfl, fun _ => rfl, fun _ => rfl⟩
    have hne : (b.state.editItem id (WorkItem.steered text (b.now 0))).editItem id
        WorkItem.unproposed ≠ b.state := by
      rw [editItem_editItem, Ne, editItem_eq_iff hc]
      exact requested_ne _ _ c
    let noted := (b.stepped (b.state.editItem id (WorkItem.steered text (b.now 0)))).emitted
      (c.steered text (b.now 0))
    have hb : (noted.stepped (noted.state.editItem id WorkItem.unproposed)).state =
        b.state.editItem id fun i => (i.steered text (b.now 0)).unproposed :=
      editItem_editItem _ _
    by_cases hcheck : b.state.checkMove id c .backlog = .ok ()
    · obtain ⟨item, b₂, c₂, hrun, hc₂⟩ := run_edited_allowed hf hc hb (by decide) hcheck "human"
        reason
      simp only [noted, emitted_state, stepped_state] at hrun
      simp [failure, run_editOr_some hc, hcheck, hrun]
    · obtain ⟨e, hrun⟩ := run_edited_refused hf hc hb hcheck "human" reason
      simp only [noted, emitted_state, stepped_state] at hrun
      simp [failure, run_editOr_some hc, hcheck, hrun, hne]

omit [UnicodeTables] in
/-- A release records its reason, when it has one, and then tries the move. -/
lemma releaseSection_eq (id : ItemId) (agentId : String) (reason : Option String) (now : Time)
    (s : BoardState) :
    ∃ text, releaseSection id agentId reason now s =
      (s.editItem id (bouncedWith reason)).tryMove now id .backlog agentId (some text) := by
  refine ⟨reason.getD "released by agent", ?_⟩
  cases reason with
  | none =>
    have hid : s.editItem id (bouncedWith none) = s := editItem_id _ _
    rw [hid]
    rfl
  | some r => rfl

omit [UnicodeTables] in
lemma keeps_releaseWithReason_iff (id : ItemId) (agentId : String) (reason : Option String)
    (b : Board) :
    (∀ s', failure (releaseWithReason id agentId reason) b = some s' → s' = b.state) ↔
      ∀ c, b.state.items[id]? = some c → b.state.checkMove id c .backlog = .ok () ∨
        ∀ r, reason = some r → c.lastBounceReason = some r := by
  have hf := checkBlind_bouncedWith reason
  obtain ⟨text, hsection⟩ := releaseSection_eq id agentId reason (b.now 0) b.state
  refine keeps_iff (fun hc => ?_) (fun c hc hcheck => ?_) (fun c hc hcheck => ?_)
  · simp [releaseWithReason, failure, hsection, editItem_of_none hc, tryMove_missing hc]
  · rw [← hf.checkMove_editItem] at hcheck
    have hmove := tryMove_allowed (by simp [hc]) hcheck (b.now 0) agentId (some text)
    cases reason <;> simp [releaseWithReason, failure, hsection, hmove]
  · rw [← hf.checkMove_editItem] at hcheck
    obtain ⟨e, hmove⟩ := tryMove_refused (by simp [hc]) hcheck (b.now 0) agentId (some text)
    refine ⟨b.state.editItem id (bouncedWith reason), ?_, ?_⟩
    · simp [releaseWithReason, failure, hsection, hmove]
    · rw [editItem_eq_iff hc, bouncedWith_eq_iff]

/-- Promoting a Claimed card whose run failed keeps what the requeue depends on. -/
lemma run_promote_failed (hc : b.state.items[id]? = some c) :
    ∃ b₂ c₂, (Locked.when (c.state = .claimed) do
        let _ ← (transition id .running "supervisor" none).attempt : Method String Unit).run b =
          (.ok (), b₂) ∧
      b₂.state.items[id]? = some c₂ ∧ c₂.runFailures = c.runFailures ∧
      (b₂.state.checkMove id c₂ .backlog = .ok () ↔ b.state.checkMove id c .backlog = .ok ()) ∧
      allowed c₂.state .needsHuman = allowed c.state .needsHuman ∧
      (c₂.state = .needsHuman ↔ c.state = .needsHuman) := by
  by_cases hclaimed : c.state = .claimed
  · by_cases hcheck : b.state.checkMove id c .running = .ok ()
    · obtain ⟨item, b₂, hrun, hstate, hc₂⟩ := run_transition_allowed hc (by decide) hcheck
        "supervisor" none
      refine ⟨b₂, _, ?_, hc₂, rfl, ?_, ?_, ?_⟩
      · simp [Locked.run_when, hclaimed, hrun]
      · rw [checkMove_backlog_iff, checkMove_backlog_iff, hstate,
          hasChildren_moveItem hc (by simp [hclaimed]) (by decide), hclaimed]
        rfl
      · rw [hclaimed]
        rfl
      · simp [hclaimed]
    · obtain ⟨e, hrun⟩ := run_transition_refused hc hcheck "supervisor" none
      refine ⟨b.stepped b.state, c, ?_, hc, rfl, Iff.rfl, rfl, Iff.rfl⟩
      simp [Locked.run_when, hclaimed, hrun]
  · exact ⟨b, c, by simp [Locked.run_when, hclaimed], hc, rfl, Iff.rfl, rfl, Iff.rfl⟩

lemma keeps_recordRunFailure_iff (id : ItemId) (reason : String) (maxAttempts : UInt32)
    (b : Board) :
    (∀ s', failure (recordRunFailure id reason maxAttempts) b = some s' → s' = b.state) ↔
      ∀ c, b.state.items[id]? = some c →
        if c.runFailures + 1 < maxAttempts then b.state.checkMove id c .backlog = .ok ()
        else allowed c.state .needsHuman = true := by
  have hf : CheckBlind failedOnce := ⟨fun _ => rfl, fun _ => rfl, fun _ => rfl, fun _ => rfl⟩
  cases hc : b.state.items[id]? with
  | none => simp [recordRunFailure, failure, tryEdit_none hc]
  | some c =>
    have hc₁ : (b.stepped (b.state.editItem id failedOnce)).state.items[id]? =
        some (failedOnce c) := by simp [hc]
    have hwrite : (write fun _ s => s.tryEdit id "no such item" failedOnce).run b =
        (.ok (failedOnce c), b.stepped (b.state.editItem id failedOnce)) := by
      simp [tryEdit_some hc]
    obtain ⟨b₂, c₂, hpromote, hc₂, hfailures, hbacklog, hhuman, -⟩ := run_promote_failed hc₁
    have hbacklog : b₂.state.checkMove id c₂ .backlog = .ok () ↔
        b.state.checkMove id c .backlog = .ok () := by
      rw [hbacklog, stepped_state, hf.checkMove_editItem]
    have hcounted : ∀ {s' : BoardState} {c' : WorkItem}, s'.items[id]? = some c' →
        c'.runFailures = c₂.runFailures → s' ≠ b.state := by
      rintro s' c' hc' hsame rfl
      rw [hc, Option.some.injEq] at hc'
      rw [hfailures, ← hc'] at hsame
      simp [failedOnce] at hsame
    unfold recordRunFailure
    rw [failure_bind_ok hwrite]
    dsimp only
    rw [failure_bind_ok hpromote]
    simp only [Option.some.injEq, forall_eq']
    change (∀ s', failure (if c.runFailures + 1 < maxAttempts then _ else _) b₂ = some s' → _) ↔ _
    split
    · by_cases hcheck : b₂.state.checkMove id c₂ .backlog = .ok ()
      · obtain ⟨item, b₃, hrun, -, -⟩ := run_transitionOrMessage_allowed hc₂ (by decide) hcheck
          "supervisor" s!"run failed: {reason}"
        simp [failure, hrun, hbacklog.1 hcheck]
      · obtain ⟨e, hrun⟩ := run_transitionOrMessage_refused hc₂ hcheck "supervisor"
          s!"run failed: {reason}"
        rw [failure_bind_error hrun]
        simp [hcounted hc₂ rfl, ← hbacklog, hcheck]
    · rw [failure_escalate (by decide) hc₂, hhuman]
      have hasked : ∀ question, b₂.state.editItem id
          (WorkItem.asking question runFailureOptions 0 (b₂.now 0)) ≠ b.state := by
        intro question
        have hc₃ : (b₂.state.editItem id
            (WorkItem.asking question runFailureOptions 0 (b₂.now 0))).items[id]? =
              some (c₂.asking question runFailureOptions 0 (b₂.now 0)) := by simp [hc₂]
        exact hcounted hc₃ rfl
      change (∀ s', (if allowed c.state .needsHuman = true then _ else _) = some s' → _) ↔ _
      split
      · simpa
      · rename_i hno
        simp only [Option.some.injEq, forall_eq']
        exact iff_of_false (hasked _) hno

/-- The proposal that `proposeSplit` stores on the card. -/
def splitProposal (card : WorkItem) (children : List SplitChildSpec) : TaskProposal :=
  ⟨s!"Split of «{card.title}»", splitSpecs children⟩

/-- The children of a split of the card get past the validation. -/
structure AcceptsSplit (s : BoardState) (card : WorkItem) (children : List SplitChildSpec)
    (maxChildren : ℕ) : Prop where
  notPlan : card.isInitialPlanTask = false
  noPr : card.prUrl = none
  size : checkSplitSize children.length maxChildren = .ok ()
  related : ∃ projectId project, card.parent = some projectId ∧
    s.items[projectId]? = some project ∧ project.parent = none ∧
      checkSplitRelatedness card project children = .ok ()
  distinct : 2 ≤ (splitSpecs children).length
  rows : checkProposal (splitProposal card children) = .ok ()

omit [UnicodeTables] in
lemma run_setProposal_ok {proposal : TaskProposal} (hproposal : checkProposal proposal = .ok ())
    (hc : b.state.items[id]? = some c) (hinit : c.isInitialPlanTask = false) :
    (setProposal id proposal).run b = (.ok (c.withProposal proposal),
      (b.stepped (b.state.editItem id (WorkItem.withProposal proposal))).emitted
        (c.withProposal proposal)) := by
  simp [setProposal, hproposal, hc, hinit]

omit [UnicodeTables] in
lemma run_setProposal_error {proposal : TaskProposal} {e : String}
    (hproposal : checkProposal proposal = .error e) :
    (setProposal id proposal).run b = (.error e, b) := by
  simp [setProposal, hproposal]

/-- A stored proposal leaves the card in Review, or stays behind where Review is out of
reach. -/
lemma failure_after_setProposal {β : Type} {proposal : TaskProposal} {byWhom text : String}
    {k : WorkItem → Method String β}
    (hk : ∀ item b', ∃ r b'', (k item).run b' = (.ok r, b''))
    (hproposal : checkProposal proposal = .ok ()) (hc : b.state.items[id]? = some c)
    (hinit : c.isInitialPlanTask = false) :
    failure (do
        let _ ← setProposal id proposal
        let item ← transitionOrMessage id .review byWhom text
        k item) b =
      if allowed c.state .review = true then none
      else some (b.state.editItem id (WorkItem.withProposal proposal)) := by
  have hf : CheckBlind (WorkItem.withProposal proposal) :=
    ⟨fun _ => rfl, fun _ => rfl, fun _ => rfl, fun _ => rfl⟩
  have hb : ((b.stepped (b.state.editItem id (WorkItem.withProposal proposal))).emitted
        (c.withProposal proposal)).state =
      b.state.editItem id (WorkItem.withProposal proposal) := rfl
  rw [failure_bind_ok (run_setProposal_ok hproposal hc hinit)]
  split
  · rename_i hallowed
    have hmove : b.state.checkMove id c .review = .ok () :=
      (checkMove_free_iff (by decide) (by decide)).2 hallowed
    obtain ⟨item, b₂, c₂, hrun, hc₂⟩ := run_edited_allowed hf hc hb (by decide) hmove byWhom text
    rw [failure_bind_ok hrun]
    obtain ⟨r, b₃, hlast⟩ := hk item b₂
    simp [failure, hlast]
  · rename_i hallowed
    have hmove : b.state.checkMove id c .review ≠ .ok () := fun h =>
      hallowed ((checkMove_free_iff (by decide) (by decide)).1 h)
    obtain ⟨e, hrun⟩ := run_edited_refused hf hc hb hmove byWhom text
    rw [failure_bind_error hrun]
    rfl

/-- Children that get past the validation are stored; a refused Review leaves them behind. -/
lemma failure_proposeSplit_accepted (agentId : String) {children : List SplitChildSpec}
    {maxChildren : ℕ} (hc : b.state.items[id]? = some c)
    (h : AcceptsSplit b.state c children maxChildren) :
    failure (proposeSplit id agentId children maxChildren) b =
      if allowed c.state .review = true then none
      else some (b.state.editItem id (WorkItem.withProposal (splitProposal c children))) := by
  obtain ⟨projectId, project, hparent, hproject, hroot, hrelated⟩ := h.related
  have hinit : (b.state.populateBlockers c).isInitialPlanTask = false := h.notPlan
  have hpr : (b.state.populateBlockers c).prUrl = none := h.noPr
  have hparent' : (b.state.populateBlockers c).parent = some projectId := hparent
  have hrelated' : checkSplitRelatedness (b.state.populateBlockers c)
      (b.state.populateBlockers project) children = .ok () := hrelated
  have hnested : (read fun s => (s.items[projectId]?.bind WorkItem.parent).isSome :
      Method String Bool).run b = (.ok false, b) := by
    simp [hproject, hroot]
  unfold proposeSplit
  rw [failure_bind_ok (run_getOr_some hc _), failure_failIf_bind, hinit, hpr, hparent']
  simp only [Bool.false_eq_true, if_false, h.size, failure_ret_bind_ok]
  rw [failure_bind_ok (run_getOr_some hproject _), failure_bind_ok hnested]
  simp only [failure_failIf_bind, Bool.false_eq_true, if_false, hrelated', failure_ret_bind_ok,
    Nat.not_lt.2 h.distinct]
  exact failure_after_setProposal (fun item b' => by simp) h.rows hc h.notPlan

/-- Children that fail the validation change nothing. -/
lemma failure_proposeSplit_rejected (agentId : String) {children : List SplitChildSpec}
    {maxChildren : ℕ} (hc : b.state.items[id]? = some c)
    (hpr : c.isInitialPlanTask = true ∨ c.prUrl = none)
    (h : ¬AcceptsSplit b.state c children maxChildren) :
    failure (proposeSplit id agentId children maxChildren) b = some b.state := by
  unfold proposeSplit
  rw [failure_bind_ok (run_getOr_some hc _), failure_failIf_bind]
  change (if c.isInitialPlanTask = true then _ else _) = _
  cases hinit : c.isInitialPlanTask with
  | true => rfl
  | false =>
    have hnone : c.prUrl = none := by simpa [hinit] using hpr
    have hnone' : (b.state.populateBlockers c).prUrl = none := hnone
    rw [hnone']
    simp only [Bool.false_eq_true, if_false]
    cases hsize : checkSplitSize children.length maxChildren with
    | error e => rfl
    | ok u =>
      rw [failure_ret_bind_ok]
      cases hparent : (b.state.populateBlockers c).parent with
      | none => rfl
      | some projectId =>
        dsimp only
        cases hproject : b.state.items[projectId]? with
        | none => rw [failure_bind_error (run_getOr_none hproject _)]
        | some project =>
          have hnested : (read fun s => (s.items[projectId]?.bind WorkItem.parent).isSome :
              Method String Bool).run b = (.ok project.parent.isSome, b) := by
            simp [hproject]
          rw [failure_bind_ok (run_getOr_some hproject _), failure_bind_ok hnested,
            failure_failIf_bind]
          split
          · rfl
          · rename_i hroot
            cases hrelated : checkSplitRelatedness (b.state.populateBlockers c)
                (b.state.populateBlockers project) children with
            | error e => rfl
            | ok u =>
              rw [failure_ret_bind_ok, failure_failIf_bind]
              split
              · rfl
              · rename_i hdistinct
                cases hrows : checkProposal (splitProposal c children) with
                | error e => exact failure_bind_error (run_setProposal_error hrows)
                | ok u =>
                  have hroot' : project.parent = none := by simpa using hroot
                  exact absurd ⟨hinit, hnone, hsize,
                    ⟨projectId, project, hparent, hproject, hroot', hrelated⟩,
                    Nat.not_lt.1 hdistinct, hrows⟩ h

lemma keeps_proposeSplit_iff (id : ItemId) (agentId : String) (children : List SplitChildSpec)
    (maxChildren : ℕ) (b : Board)
    (hpr : ∀ c, b.state.items[id]? = some c → c.isInitialPlanTask = true ∨ c.prUrl = none) :
    (∀ s', failure (proposeSplit id agentId children maxChildren) b = some s' →
        s' = b.state) ↔
      ∀ c, b.state.items[id]? = some c → AcceptsSplit b.state c children maxChildren →
        allowed c.state .review = true ∨ c.proposal = some (splitProposal c children) := by
  cases hc : b.state.items[id]? with
  | none =>
    unfold proposeSplit
    rw [failure_bind_error (run_getOr_none hc _)]
    simp
  | some c =>
    have hkept : b.state.editItem id (WorkItem.withProposal (splitProposal c children)) = b.state ↔
        c.proposal = some (splitProposal c children) := by
      rw [editItem_eq_iff hc]
      constructor
      · intro h
        rw [← h]
        rfl
      · intro h
        rw [WorkItem.withProposal, ← h]
    by_cases haccepts : AcceptsSplit b.state c children maxChildren
    · rw [failure_proposeSplit_accepted agentId hc haccepts]
      by_cases hallowed : allowed c.state .review = true
      · simp [hallowed]
      · simp [hallowed, hkept, haccepts]
    · rw [failure_proposeSplit_rejected agentId hc (hpr c hc) haccepts]
      simp [haccepts]

end Unicode

end Board

/-! ## The law of the verbs -/

/-- The verbs that edit a card in one section and move it in a later one. -/
inductive Verb where
  | park (id : ItemId) (reason : Option String)
  | unpark (id : ItemId)
  | halt (id : ItemId) (reason : Option String)
  | report (id : ItemId) (agentId : String) (added removed : UInt32) (gates : List String)
  | escalate (id : ItemId) (agentId question : String) (options : List EscalationOption)
      (recommended : ℕ)
  | answerEscalation (id : ItemId) (choice : String)
  | requestChanges (id : ItemId) (note : String)
  | releaseWithReason (id : ItemId) (agentId : String) (reason : Option String)
  | recordRunFailure (id : ItemId) (reason : String) (maxAttempts : UInt32)
  | proposeSplit (id : ItemId) (agentId : String) (children : List SplitChildSpec)
      (maxChildren : ℕ)

namespace Verb

open BoardState

variable [UnicodeTables]

/-- The state that the failing verb leaves; none when it succeeds. -/
def failure (b : Board) : Verb → Option BoardState
  | park id reason => Board.failure (Board.park id reason) b
  | unpark id => Board.failure (Board.unpark id) b
  | halt id reason => Board.failure (Board.halt id reason) b
  | report id agentId added removed gates =>
    Board.failure (Board.report id agentId added removed gates) b
  | escalate id agentId question options recommended =>
    Board.failure (Board.escalate id agentId question options recommended) b
  | answerEscalation id choice => Board.failure (Board.answerEscalation id choice) b
  | requestChanges id note => Board.failure (Board.requestChanges id note) b
  | releaseWithReason id agentId reason =>
    Board.failure (Board.releaseWithReason id agentId reason) b
  | recordRunFailure id reason maxAttempts =>
    Board.failure (Board.recordRunFailure id reason maxAttempts) b
  | proposeSplit id agentId children maxChildren =>
    Board.failure (Board.proposeSplit id agentId children maxChildren) b

omit [UnicodeTables] in
/-- The refusal that escalates on purpose: a split of a card that has a pull request. -/
def RefusesForPr (s : BoardState) : Verb → Prop
  | proposeSplit id _ _ _ =>
    ∃ c, s.items[id]? = some c ∧ c.isInitialPlanTask = false ∧ c.prUrl.isSome = true
  | _ => False

/-- When the verb fails, the board is as it was. -/
def KeepsOnError (b : Board) (v : Verb) : Prop :=
  ∀ s', v.failure b = some s' → ¬v.RefusesForPr b.state → s' = b.state

/-- The table allows the move that the verb makes last, or the edits before it changed
nothing. -/
def Safe (b : Board) : Verb → Prop
  | park id reason => ∀ c, b.state.items[id]? = some c →
    b.state.checkMove id c .backlog = .ok () ∨ reason.filter (fun r => !isBlank r) = none
  | unpark id => ∀ c, b.state.items[id]? = some c → c.state = .backlog → c.parked = true →
    Board.checkDispatch b.state id c.unheld = .ok ()
  | halt id _ => ∀ c, b.state.items[id]? = some c →
    b.state.checkMove id c .backlog = .ok () ∨ c.wiped = c
  | report id _ added removed gates => ∀ c, b.state.items[id]? = some c →
    allowed c.state .review = true ∨ c.reported added removed gates = c
  | escalate id _ question options recommended =>
    Board.checkOptions options recommended = .ok () → ∀ c, b.state.items[id]? = some c →
      allowed c.state .needsHuman = true ∨ c.asking question options recommended (b.now 0) = c
  | answerEscalation id _ => ∀ c, b.state.items[id]? = some c → c.escalation.isSome = true →
    b.state.checkMove id c .backlog = .ok ()
  | requestChanges id _ => ∀ c, b.state.items[id]? = some c →
    b.state.checkMove id c .backlog = .ok ()
  | releaseWithReason id _ reason => ∀ c, b.state.items[id]? = some c →
    b.state.checkMove id c .backlog = .ok () ∨ ∀ r, reason = some r → c.lastBounceReason = some r
  | recordRunFailure id _ maxAttempts => ∀ c, b.state.items[id]? = some c →
    if c.runFailures + 1 < maxAttempts then b.state.checkMove id c .backlog = .ok ()
    else allowed c.state .needsHuman = true
  | proposeSplit id _ children maxChildren => ∀ c, b.state.items[id]? = some c →
    Board.AcceptsSplit b.state c children maxChildren →
      allowed c.state .review = true ∨ c.proposal = some (Board.splitProposal c children)

variable {b : Board}

/-- The exception is about the split of a card with a pull request only. -/
lemma keepsOnError_iff {v : Verb} (h : ¬v.RefusesForPr b.state) :
    v.KeepsOnError b ↔ ∀ s', v.failure b = some s' → s' = b.state :=
  ⟨fun hkeeps s' hs' => hkeeps s' hs' h, fun hkeeps s' hs' _ => hkeeps s' hs'⟩

/-- A card that has a pull request is not accepted for a split. -/
lemma RefusesForPr.safe {v : Verb} (h : v.RefusesForPr b.state) : v.Safe b := by
  cases v with
  | proposeSplit id agentId children maxChildren =>
    obtain ⟨c, hc, -, hpr⟩ := h
    intro c' hc' haccepts
    rw [hc, Option.some.injEq] at hc'
    rw [hc', haccepts.noPr] at hpr
    cases hpr
  | _ => exact h.elim

/-- A failing verb leaves the board as it was exactly when it is safe there. -/
theorem keepsOnError_iff_safe (b : Board) (v : Verb) : v.KeepsOnError b ↔ v.Safe b := by
  by_cases hrefuses : v.RefusesForPr b.state
  · exact iff_of_true (fun s' _ h => absurd hrefuses h) hrefuses.safe
  · rw [keepsOnError_iff hrefuses]
    cases v with
    | park id reason => exact Board.keeps_park_iff id reason b
    | unpark id => exact Board.keeps_unpark_iff id b
    | halt id reason => exact Board.keeps_halt_iff id reason b
    | report id agentId added removed gates =>
      exact Board.keeps_report_iff id agentId added removed gates b
    | escalate id agentId question options recommended =>
      exact Board.keeps_escalate_iff id agentId question options recommended b
    | answerEscalation id choice => exact Board.keeps_answerEscalation_iff id choice b
    | requestChanges id note => exact Board.keeps_requestChanges_iff id note b
    | releaseWithReason id agentId reason =>
      exact Board.keeps_releaseWithReason_iff id agentId reason b
    | recordRunFailure id reason maxAttempts =>
      exact Board.keeps_recordRunFailure_iff id reason maxAttempts b
    | proposeSplit id agentId children maxChildren =>
      refine Board.keeps_proposeSplit_iff id agentId children maxChildren b fun c hc => ?_
      by_contra hno
      push Not at hno
      exact hrefuses ⟨c, hc, by simpa using hno.1, Option.isSome_iff_ne_none.2 hno.2⟩

end Verb

namespace Verb

/-- A board with one Project, which is in Draft. -/
def draftBoard : Board :=
  let := asciiTables
  (Board.new Schema.default (fun _ _ => 0) fun _ => true).after
    [.create ⟨none, "Docs", "", none, .human, false, none⟩]

set_option maxRecDepth 100000 in
/-- Parking a Draft card with a reason fails, and leaves the reason on the card as a note. -/
theorem not_keepsOnError_park :
    let := asciiTables
    ¬(park 1 (some "later")).KeepsOnError draftBoard := by
  intro tables hkeeps
  have hnotes : ((park 1 (some "later")).failure draftBoard).map
      (fun s => s.items[1]?.map fun i => i.notes.length) = some (some 1) := by decide
  have hbefore : draftBoard.state.items[1]?.map (fun i => i.notes.length) = some 0 := by decide
  obtain ⟨s', hs', hnotes⟩ := Option.map_eq_some_iff.1 hnotes
  rw [hkeeps s' hs' fun h => h, hbefore] at hnotes
  cases hnotes

end Verb

end Sandboard

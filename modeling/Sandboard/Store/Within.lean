import Sandboard.Store.Emission
import Sandboard.Store.Structure

/-!
# Sections of the board methods

`Within R m` says that every critical section of `m`, from any board and so under every
interleaving, takes the board state to an `R`-related one, and that `m` sends its events whole.
There is one lemma for each building block and for each method whose sections do not depend on
one another, over any `R` that tolerates changes aside of the cards.
-/

namespace Sandboard

/-- Every critical section of the method respects `R` on the board state, and events are sent
whole.  A structure, so that unification does not look into the method. -/
structure Within {ε α : Type} (R : BoardState → BoardState → Prop) (m : Method ε α) : Prop where
  sections : m.Sections fun b b' => R b.state b'.state
  emits : Emits m

/-- The relation allows any change that leaves the cards and their indexes alone. -/
structure Lax (R : BoardState → BoardState → Prop) : Prop where
  aside : ∀ {s s' : BoardState}, s'.items = s.items → s'.nextId = s.nextId →
    s'.childrenByParent = s.childrenByParent → s'.idsByState = s.idsByState → R s s'

/-- A run of the method respects `R` when `R` is reflexive and transitive. -/
lemma Within.run_state {ε α : Type} {R : BoardState → BoardState → Prop} {m : Method ε α}
    (h : Within R m) (hrefl : ∀ s, R s s) (htrans : ∀ s s' s'', R s s' → R s' s'' → R s s'')
    (b : Board) : R b.state (m.run b).2.state := by
  have hchain := h.sections.run b
  generalize (m.run b).2 = b' at hchain ⊢
  induction hchain with
  | refl => exact hrefl b.state
  | tail _ hstep ih => exact htrans _ _ _ ih hstep

lemma Lax.refl {R : BoardState → BoardState → Prop} (hR : Lax R) (s : BoardState) : R s s :=
  hR.aside rfl rfl rfl rfl

/-- `Within` for the sections that find the board in `I`. -/
structure WithinOn {ε α : Type} (I : Board → Prop) (R : BoardState → BoardState → Prop)
    (m : Method ε α) : Prop where
  sections : m.SectionsOn I fun b b' => R b.state b'.state
  emits : Emits m

lemma Within.on {ε α : Type} {I : Board → Prop} {R₀ R : BoardState → BoardState → Prop}
    {m : Method ε α} (hm : Within R₀ m) (hR : ∀ {s s'}, R₀ s s' → R s s') : WithinOn I R m :=
  ⟨.of_sections (fun _ _ => hR) hm.sections, hm.emits⟩

lemma WithinOn.within {ε α : Type} {R : BoardState → BoardState → Prop} {m : Method ε α}
    (hm : WithinOn (fun _ => True) R m) : Within R m :=
  ⟨hm.sections.sections, hm.emits⟩

namespace Board

variable {ε ε' α β : Type} {R : BoardState → BoardState → Prop}

/-! ## Building blocks -/

lemma within_pure (a : α) : Within R (pure a : Method ε α) := ⟨.pure a, .pure a⟩

lemma within_fail (e : ε) : Within R (Locked.fail e : Method ε α) :=
  ⟨.fail e, .fail e⟩

lemma within_ret (r : Except ε α) : Within R (Locked.ret r : Method ε α) :=
  ⟨trivial, .ret r⟩

lemma within_failIf (c : Prop) [Decidable c] (e : ε) :
    Within R (Locked.failIf c e : Method ε Unit) := ⟨.failIf c e, .failIf c e⟩

lemma within_when {c : Prop} [Decidable c] {m : Method ε Unit} (hm : c → Within R m) :
    Within R (Locked.when c m) := 
  ⟨.when fun h => (hm h).sections, .when fun h => (hm h).emits⟩

lemma within_onSome {o : Option β} {f : β → Method ε Unit} (hf : ∀ b, Within R (f b)) :
    Within R (Locked.onSome o f) := 
  ⟨.onSome fun b => (hf b).sections, .onSome fun b => (hf b).emits⟩

lemma within_bind {m : Method ε α} {k : α → Method ε β} (hm : Within R m)
    (hk : ∀ a, Within R (k a)) : Within R (m >>= k) :=
  ⟨.bind hm.sections fun a => (hk a).sections, .bind hm.emits fun a => (hk a).emits⟩

lemma within_attempt {m : Method ε α} (hm : Within R m) :
    Within R (m.attempt : Method ε' _) := 
  ⟨.attempt hm.sections, .attempt hm.emits⟩

lemma within_mapErr {f : ε → ε'} {m : Method ε α} (hm : Within R m) :
    Within R (m.mapErr f) := 
  ⟨.mapErr hm.sections, .mapErr hm.emits⟩

lemma within_forM {xs : List β} {f : β → Method ε Unit} (hf : ∀ x, Within R (f x)) :
    Within R (xs.forM f) := 
  ⟨.forM fun x => (hf x).sections, .forM fun x => (hf x).emits⟩

lemma within_foldlM {xs : List β} {f : α → β → Method ε α} (hf : ∀ a x, Within R (f a x))
    (a : α) : Within R (xs.foldlM f a) := 
  ⟨.foldlM (fun a x => (hf a x).sections) a, .foldlM (fun a x => (hf a x).emits) a⟩

lemma within_silent {m : Method ε α} (hm : Within R m) : Within R (Operation.silent m) :=
  within_bind (within_attempt hm) fun _ => within_pure ()

lemma within_write {f : (ℕ → Time) → BoardState → Except ε α × BoardState}
    (hf : ∀ now s, R s (f now s).2) : Within R (write f) :=
  ⟨.atomic fun b => hf _ b.state, .atomic fun _ => ⟨rfl, rfl, rfl, rfl, rfl⟩⟩

lemma within_editQuietly {id : ItemId} {f : Time → WorkItem → WorkItem}
    (hf : ∀ (s : BoardState) (now : Time), R s (s.editItem id (f now))) :
    Within R (editQuietly id f : Method ε Unit) :=
  within_write fun _ s => hf s _

/-! ## Building blocks, in the sections that find the board in `I` -/

section WithinOn

variable {I : Board → Prop}

lemma withinOn_pure (a : α) : WithinOn I R (pure a : Method ε α) := ⟨.pure a, .pure a⟩

lemma withinOn_fail (e : ε) : WithinOn I R (Locked.fail e : Method ε α) := ⟨.fail e, .fail e⟩

lemma withinOn_ret (r : Except ε α) : WithinOn I R (Locked.ret r : Method ε α) :=
  ⟨trivial, .ret r⟩

lemma withinOn_failIf (c : Prop) [Decidable c] (e : ε) :
    WithinOn I R (Locked.failIf c e : Method ε Unit) :=
  ⟨.of_sections (fun _ _ h => h) (.failIf c e), .failIf c e⟩

lemma withinOn_when {c : Prop} [Decidable c] {m : Method ε Unit} (hm : c → WithinOn I R m) :
    WithinOn I R (Locked.when c m) :=
  ⟨.when fun h => (hm h).sections, .when fun h => (hm h).emits⟩

lemma withinOn_onSome {o : Option β} {f : β → Method ε Unit} (hf : ∀ b, WithinOn I R (f b)) :
    WithinOn I R (Locked.onSome o f) :=
  ⟨.onSome fun b => (hf b).sections, .onSome fun b => (hf b).emits⟩

lemma withinOn_bind {m : Method ε α} {k : α → Method ε β} (hm : WithinOn I R m)
    (hk : ∀ a, WithinOn I R (k a)) : WithinOn I R (m >>= k) :=
  ⟨.bind hm.sections fun a => (hk a).sections, .bind hm.emits fun a => (hk a).emits⟩

lemma withinOn_attempt {m : Method ε α} (hm : WithinOn I R m) :
    WithinOn I R (m.attempt : Method ε' _) :=
  ⟨.attempt hm.sections, .attempt hm.emits⟩

lemma withinOn_mapErr {f : ε → ε'} {m : Method ε α} (hm : WithinOn I R m) :
    WithinOn I R (m.mapErr f) :=
  ⟨.mapErr hm.sections, .mapErr hm.emits⟩

lemma withinOn_forM {xs : List β} {f : β → Method ε Unit} (hf : ∀ x, WithinOn I R (f x)) :
    WithinOn I R (xs.forM f) :=
  ⟨.forM fun x => (hf x).sections, .forM fun x => (hf x).emits⟩

lemma withinOn_foldlM {xs : List β} {f : α → β → Method ε α}
    (hf : ∀ a x, WithinOn I R (f a x)) (a : α) : WithinOn I R (xs.foldlM f a) :=
  ⟨.foldlM (fun a x => (hf a x).sections) a, .foldlM (fun a x => (hf a x).emits) a⟩

/-- The schema that a section reads is that of a board in `I`. -/
lemma withinOn_readSchema_bind (hR : ∀ s, R s s) {k : Schema → Method ε α}
    (hk : ∀ b, I b → (k b.schema).SectionsOn I fun b b' => R b.state b'.state)
    (hemits : ∀ schema, Emits (k schema)) : WithinOn I R (readSchema >>= k) :=
  ⟨fun b hb => ⟨hR b.state, hk b hb⟩, .bind (.atomic fun _ => ⟨rfl, rfl, rfl, rfl, rfl⟩) hemits⟩

lemma withinOn_silent {m : Method ε α} (hm : WithinOn I R m) :
    WithinOn I R (Operation.silent m) :=
  withinOn_bind (withinOn_attempt hm) fun _ => withinOn_pure ()

end WithinOn

section Lax

variable (hR : Lax R)

include hR

/-- A section that leaves the cards and the events alone. -/
lemma within_aside {f : Board → Except ε α × Board} (hstate : ∀ b, (f b).2.state = b.state)
    (hfeed : ∀ b, SameFeed b (f b).2) : Within R (Locked.atomic f : Method ε α) :=
  ⟨.atomic fun b => by
    rw [hstate b]
    exact hR.refl b.state, .atomic hfeed⟩

lemma within_read (f : BoardState → α) : Within R (read f : Method ε α) :=
  within_aside hR (fun _ => rfl) fun b => .refl b

lemma within_utcNow : Within R (utcNow : Method ε Time) :=
  within_aside hR (fun _ => rfl) fun _ => ⟨rfl, rfl, rfl, rfl, rfl⟩

lemma within_readSchema : Within R (readSchema : Method ε Schema) :=
  within_aside hR (fun _ => rfl) fun b => .refl b

/-- Draw a number, send the event with it, and go on. -/
lemma within_publish {event : ℕ → BoardEvent} (hevent : ∀ n, (event n).seq = n)
    {k : Unit → Method ε α} (hk : ∀ u, Within R (k u)) :
    Within R (nextSeq >>= fun n => recordAndSend (event n) >>= k) :=
  ⟨.bind (.atomic fun b => hR.refl b.state) fun _ =>
    .bind (.bind (.atomic fun b => hR.refl b.state) fun _ => .atomic fun b => hR.refl b.state)
      fun u => (hk u).sections,
    .publish hevent fun u => (hk u).emits⟩

lemma within_publishLast {event : ℕ → BoardEvent} (hevent : ∀ n, (event n).seq = n) :
    Within R (nextSeq >>= fun n => recordAndSend (event n) : Method ε Unit) :=
  within_publish hR hevent fun _ => within_pure ()

lemma within_markDirty : Within R (markDirty : Method ε Unit) :=
  within_aside hR (fun _ => rfl) fun _ => ⟨rfl, rfl, rfl, rfl, rfl⟩

lemma within_emit (item : WorkItem) : Within R (emit item : Method ε Unit) :=
  within_bind (within_read hR _) fun _ =>
    within_publish hR (fun _ => rfl) fun _ => within_markDirty hR

lemma within_flush : Within R (flush : Method ε Unit) :=
  within_bind (within_aside hR (fun _ => rfl) fun _ => ⟨rfl, rfl, rfl, rfl, rfl⟩) fun _ =>
    within_when fun _ => within_bind (within_read hR _) fun _ =>
      within_bind (within_aside hR (fun _ => rfl) fun _ => ⟨rfl, rfl, rfl, rfl, rfl⟩) fun _ =>
        within_when fun _ => within_markDirty hR

lemma within_story (near : ItemId) (text : String) : Within R (story near text : Method ε Unit) :=
  within_bind (within_write fun _ _ => hR.aside rfl rfl rfl rfl) fun _ =>
    within_bind (within_markDirty hR) fun _ => within_publishLast hR fun _ => rfl

lemma within_get (id : ItemId) : Within R (get id : Method ε _) := within_read hR _

lemma within_childrenOf (id : ItemId) : Within R (childrenOf id : Method ε _) := within_read hR _

lemma within_getOr (id : ItemId) (e : ε) : Within R (getOr id e) := by
  refine within_bind (within_get hR id) fun item => ?_
  cases item with
  | some item => exact within_pure item
  | none => exact within_fail e

/-! ## Single edits -/

lemma within_editIf {id : ItemId} {wanted : WorkItem → Bool} {f : WorkItem → WorkItem}
    (hf : ∀ s : BoardState, R s (s.editItem id f)) :
    Within R (editIf id wanted f : Method ε Unit) := by
  refine within_bind (within_write fun now s => ?_) fun edited =>
    within_onSome fun item => within_emit hR item
  split
  · split
    · exact hf s
    · exact hR.refl s
  · exact hR.refl s

lemma lax_tryEdit {id : ItemId} {e : ε} {f : WorkItem → WorkItem} {s : BoardState}
    (hf : R s (s.editItem id f)) : R s (s.tryEdit id e f).2 := by
  unfold BoardState.tryEdit
  split
  · exact hR.refl s
  · exact hf

lemma within_editOr {id : ItemId} {e : ε} {f : Time → WorkItem → WorkItem}
    (hf : ∀ (s : BoardState) (now : Time), R s (s.editItem id (f now))) :
    Within R (editOr id e f) :=
  within_bind (within_write fun _ s => lax_tryEdit hR (hf s _)) fun item =>
    within_bind (within_emit hR item) fun _ => within_pure item

lemma within_setPrUrl {id : ItemId} {url : Option String}
    (hf : ∀ (s : BoardState) prs, R s (s.editItem id (WorkItem.withPullRequests prs))) :
    Within R (setPrUrl id url : Method ε Unit) :=
  within_bind (within_get hR id) fun _ => within_editIf hR fun s => hf s _

/-! ## Methods whose sections stand on their own -/

lemma within_setProposal {id : ItemId} {proposal : TaskProposal}
    (hf : ∀ s : BoardState, R s (s.editItem id (WorkItem.withProposal proposal))) :
    Within R (setProposal id proposal) := by
  refine within_bind (within_ret _) fun _ => within_bind (within_write fun _ s => ?_) fun item =>
    within_bind (within_emit hR item) fun _ => within_pure item
  split
  · exact hR.refl s
  · split
    · exact hR.refl s
    · exact hf s

lemma within_findInitialPlan (ids : List ItemId) :
    Within R (findInitialPlan ids : Method ε _) := by
  induction ids with
  | nil => exact within_pure none
  | cons cid rest ih =>
    refine within_bind (within_get hR cid) fun child => ?_
    split
    · exact within_pure _
    · exact ih

lemma within_resolveInitialPlanId (id : ItemId) : Within R (resolveInitialPlanId id) := by
  refine within_bind (within_getOr hR id _) fun item => ?_
  split
  · exact within_pure id
  · split
    · refine within_bind (within_childrenOf hR id) fun kids =>
        within_bind (within_findInitialPlan hR kids) fun found => ?_
      cases found with
      | some cid => exact within_pure cid
      | none => exact within_fail _
    · exact within_fail _

lemma within_proposePlan {id : ItemId} {summary : String} {tasks : List PlanTaskSpec}
    (hf : ∀ (s : BoardState) (seedId : ItemId) (proposal : TaskProposal),
      R s (s.editItem seedId (WorkItem.withProposal proposal))) :
    Within R (proposePlan id summary tasks) :=
  within_bind (within_ret _) fun _ => within_bind (within_resolveInitialPlanId hR id) fun seedId =>
    within_bind (within_getOr hR seedId _) fun _ => within_bind (within_failIf _ _) fun _ =>
      within_bind (within_setProposal hR fun s => hf s _ _) fun _ =>
        within_bind (within_story hR _ _) fun _ => within_pure _

lemma within_setProjectSandboxProfile {projectId : ItemId} {profileId : Option String}
    (hf : ∀ (s : BoardState) (resolved : Option String),
      R s (s.editItem projectId (WorkItem.withSandboxProfile resolved))) :
    Within R (setProjectSandboxProfile projectId profileId) := by
  refine within_bind (within_write fun _ s => ?_) fun item =>
    within_bind (within_emit hR item) fun _ => within_pure item
  split
  · exact hR.refl s
  · split
    · exact hR.refl s
    · split
      · exact hR.refl s
      · exact lax_tryEdit hR (hf s _)

lemma within_setSandboxProfiles (ids : List String) :
    Within R (setSandboxProfiles ids : Method ε Unit) :=
  within_bind (within_write fun _ _ => hR.aside rfl rfl rfl rfl) fun _ => within_markDirty hR

lemma within_announceUnblocked (id : ItemId) :
    Within R (announceUnblocked id : Method ε Unit) := by
  refine within_bind (within_read hR _) fun unblocked => ?_
  split
  · exact within_pure ()
  · exact within_story hR _ _
  · exact within_story hR _ _

/-- A transition is one move, and on Done what the hook does. -/
lemma within_transitionWith {onDone : ItemId → String → Method String ℕ} {id : ItemId}
    {target : State} {byWhom : String} {reason : Option String}
    (hmove : ∀ (s : BoardState) (now : Time), R s (s.tryMove now id target byWhom reason).2)
    (hdone : target = .done → Within R (onDone id byWhom)) :
    Within R (transitionWith onDone id target byWhom reason) :=
  within_bind (within_write fun _ s => hmove s _) fun item =>
    within_bind (within_emit hR item) fun _ =>
      within_bind (within_when fun htarget =>
        within_bind (within_attempt (hdone htarget)) fun _ => within_announceUnblocked hR id)
      fun _ => within_bind (within_get hR id) fun _ => within_pure _

lemma within_mayClaim (id : ItemId) : Within R (mayClaim id : Method ε Bool) := within_read hR _

lemma within_enqueueDispatch {id : ItemId}
    (hf : ∀ s : BoardState, R s (enqueueSection id s).2) :
    Within R (enqueueDispatch id) :=
  within_bind (within_mayClaim hR id) fun _ => within_bind (within_failIf _ _) fun _ =>
    within_bind (within_write fun _ s => hf s) fun item =>
      within_bind (within_emit hR item) fun _ =>
        within_bind (within_story hR _ _) fun _ => within_pure item

lemma within_clearDispatch {id : ItemId}
    (hf : ∀ s : BoardState, R s (s.editItem id WorkItem.unqueued)) :
    Within R (clearDispatch id) :=
  within_editOr hR fun s _ => hf s

lemma within_autoEnqueueProject {projectId : ItemId}
    (hf : ∀ (s : BoardState) (id : ItemId), R s (enqueueSection id s).2) :
    Within R (autoEnqueueProject projectId : Method ε Unit) :=
  within_bind (within_read hR _) fun _ => within_forM fun _ =>
    within_bind (within_attempt (within_enqueueDispatch hR fun s => hf s _)) fun _ =>
      within_pure ()

lemma within_autoEnqueueAll (hf : ∀ (s : BoardState) (id : ItemId), R s (enqueueSection id s).2) :
    Within R (autoEnqueueAll : Method ε Unit) :=
  within_bind (within_read hR _) fun _ => within_forM fun _ => within_autoEnqueueProject hR hf

lemma within_clearAwaitingUnderProject {projectId : ItemId}
    (hf : ∀ (s : BoardState) (id : ItemId), R s (s.editItem id WorkItem.unqueued)) :
    Within R (clearAwaitingUnderProject projectId : Method ε ℕ) :=
  within_bind (within_read hR _) fun _ =>
    within_bind (within_forM fun _ =>
      within_bind (within_attempt (within_clearDispatch hR fun s => hf s _)) fun _ =>
        within_pure ()) fun _ => within_pure _

lemma within_setAutoDispatch {id : ItemId} {enabled : Bool}
    (hauto : ∀ s : BoardState, R s (s.editItem id (WorkItem.inAuto enabled)))
    (hqueue : ∀ (s : BoardState) (id : ItemId), R s (enqueueSection id s).2)
    (hunqueue : ∀ (s : BoardState) (id : ItemId), R s (s.editItem id WorkItem.unqueued)) :
    Within R (setAutoDispatch id enabled) := by
  refine within_bind (within_write fun _ s => ?_) fun r => ?_
  · unfold setAutoSection
    split
    · exact hR.refl s
    · split
      · exact hR.refl s
      · exact hauto s
  · obtain ⟨title, changed, item⟩ := r
    dsimp only
    split
    · exact within_pure item
    · refine within_bind (within_emit hR item) fun _ => ?_
      split
      · exact within_bind (within_bind (within_story hR _ _) fun _ =>
          within_autoEnqueueProject hR hqueue) fun _ => within_getOr hR id _
      · exact within_bind (within_bind (within_clearAwaitingUnderProject hR hunqueue) fun _ =>
          within_story hR _ _) fun _ => within_getOr hR id _

lemma within_projectOf (item : WorkItem) : Within R (projectOf item : Method ε _) := by
  unfold projectOf
  split
  · exact within_pure _
  · split
    · exact within_get hR _
    · exact within_pure none

lemma within_claimPlanContext [UnicodeTables] (id : ItemId) (item : WorkItem) (deadline : Time) :
    Within R (claimPlanContext id item deadline : Method ε ClaimGrant) := by
  refine within_bind (within_projectOf hR item) fun project => ?_
  cases project with
  | none => exact within_pure _
  | some project =>
    refine within_bind (within_read hR _) fun seed => ?_
    dsimp only
    split
    · exact within_pure _
    · exact within_pure _

lemma within_claim [UnicodeTables] {id : ItemId} {agentId : String} {model : Option String}
    {timeoutSecs : ℤ}
    (hf : ∀ (s : BoardState) granted deadline now,
      R s (claimSection id agentId model granted deadline now s).2) :
    Within R (claim id agentId model timeoutSecs) :=
  within_bind (within_utcNow hR) fun _ => within_bind (within_write fun _ s => hf s _ _ _) fun _ =>
    within_bind (within_emit hR _) fun _ => within_claimPlanContext hR _ _ _

lemma within_reopenForAdoption {id : ItemId} {agentId : String} {timeoutSecs : ℤ}
    (hf : ∀ (s : BoardState) granted deadline now,
      R s (reopenSection id agentId granted deadline now s).2) :
    Within R (reopenForAdoption id agentId timeoutSecs) :=
  within_bind (within_utcNow hR) fun _ => within_bind (within_write fun _ s => hf s _ _ _) fun _ =>
    within_bind (within_emit hR _) fun _ => within_pure _

lemma within_heartbeat {id : ItemId} {agentId : String} {progress : ℚ} {leaseSecs : ℤ}
    (hf : ∀ (s : BoardState) now, R s (heartbeatSection id agentId progress now s).2) :
    Within R (heartbeat id agentId progress leaseSecs) :=
  within_bind (within_write fun now s => hf s now) fun _ =>
    within_bind (within_when fun _ => within_emit hR _) fun _ => within_pure _

lemma within_releaseWithReason {id : ItemId} {agentId : String} {reason : Option String}
    (hf : ∀ (s : BoardState) now, R s (releaseSection id agentId reason now s).2) :
    Within R (releaseWithReason id agentId reason) :=
  within_bind (within_write fun _ s => hf s _) fun item =>
    within_bind (within_emit hR item) fun _ =>
      within_bind (within_onSome fun _ => within_story hR _ _) fun _ => within_pure item

lemma within_steer {id : ItemId} {text : String}
    (hf : ∀ (s : BoardState) now, R s (s.editItem id (WorkItem.steered text now))) :
    Within R (steer id text) :=
  within_editOr hR hf

lemma within_unpark {id : ItemId} (hunpark : ∀ s : BoardState, R s (unparkSection id s).2)
    (hqueue : ∀ s : BoardState, R s (enqueueSection id s).2) : Within R (unpark id) :=
  within_bind (within_write fun _ s => hunpark s) fun _ =>
    within_bind (within_enqueueDispatch hR hqueue) fun _ =>
      within_bind (within_story hR _ _) fun _ => within_pure _

lemma within_deleteItem {id : ItemId} (hf : ∀ s : BoardState, R s (deleteSection id s).2) :
    Within R (deleteItem id) :=
  within_bind (within_write fun _ s => hf s) fun _ => within_bind (within_markDirty hR) fun _ =>
    within_bind (within_flush hR) fun _ => within_publishLast hR fun _ => rfl

lemma within_subtreeWalk (fuel : ℕ) (stack order : List ItemId) :
    Within R (subtreeWalk fuel stack order : Method ε _) := by
  induction fuel generalizing stack order with
  | zero => exact within_pure order
  | succ fuel ih =>
    cases stack with
    | nil => exact within_pure order
    | cons cur stack => exact within_bind (within_childrenOf hR cur) fun _ => ih _ _

lemma within_stampReported (pr : PullRequest) : Within R (stampReported pr : Method ε _) := by
  unfold stampReported
  split
  · exact within_pure pr
  · exact within_bind (within_utcNow hR) fun _ => within_pure _

lemma within_reportPullRequest {id : ItemId} {pr : PullRequest}
    (hf : ∀ (s : BoardState) needle pr, R s (s.editItem id (WorkItem.withReportedPr needle pr))) :
    Within R (reportPullRequest id pr) := by
  unfold reportPullRequest
  split
  · exact within_fail _
  · exact within_bind (within_stampReported hR pr) fun _ =>
      within_bind (within_editOr hR fun s _ => hf s _ _) fun item =>
        within_bind (within_story hR _ _) fun _ => within_pure item

lemma within_dispatchRebase {id : ItemId}
    (hf : ∀ s : BoardState, R s (dispatchRebaseSection id s).2) :
    Within R (dispatchRebase id) :=
  within_bind (within_write fun _ s => hf s) fun _ =>
    within_bind (within_when fun _ =>
      within_bind (within_emit hR _) fun _ => within_story hR _ _) fun _ => within_pure _

lemma within_readOr (id : ItemId) (e : ε) : Within R (readOr id e) := by
  refine within_bind (within_read hR _) fun item => ?_
  cases item with
  | some item => exact within_pure item
  | none => exact within_fail e

lemma within_resolveCardRepo (id : ItemId) :
    Within R (resolveCardRepo id : Method ε _) := by
  refine within_bind (within_get hR id) fun item => ?_
  cases item with
  | some item => exact within_pure _
  | none => exact within_pure _

lemma within_cardRepo (id : ItemId) : Within R (cardRepo id : Method ε _) :=
  within_bind (within_resolveCardRepo hR id) fun _ => within_pure _

lemma within_cardMatchesMainAdvancedRepo (id : ItemId) (advancedRepo : String) :
    Within R (cardMatchesMainAdvancedRepo id advancedRepo : Method ε Bool) := by
  unfold cardMatchesMainAdvancedRepo
  dsimp only
  split
  · exact within_pure _
  · refine within_bind (within_cardRepo hR id) fun repo => ?_
    cases repo with
    | some repo => exact within_pure _
    | none => exact within_bind (within_readSchema hR) fun _ => within_pure _

end Lax

end Board

end Sandboard

import Mathlib.Data.List.Perm.Basic
import Sandboard.Supervisor.Fleet

/-!
# The slots of the supervisor

Every supervised run has one slot: its card is active, and counted.  At start, no two adopted runs
have the same card, because a card has one sandbox at a time and only a run changes it.  A slot is
freed at the end of the task of the run, so that a task that panics keeps it; and the sweeper looks
at the set of active cards once, before it asks a sandbox.
-/

namespace Sandboard

open Std

namespace Supervisor

/-- The sandbox is one of the card, and the card has it or none. -/
structure Tied (s : BoardState) (id : ItemId) (name : String) : Prop where
  own : isCardSandbox id name = true
  env : ∀ c : WorkItem, s.items[id]? = some c →
    c.environment = none ∨ c.environment = some name

lemma Tied.mono {s s' : BoardState} {id : ItemId} {name : String} (h : Tied s id name)
    (hs : s.KeepsEnvironments s') : Tied s' id name where
  own := h.own
  env c' hc' := by
    rcases hs.card id c' hc' with ⟨-, hnone⟩ | ⟨c, hc, -, hsame | hnone⟩
    · exact .inl hnone
    · rw [hsame]
      exact h.env c hc
    · exact .inl hnone

/-! ## A pass at start -/

/-- The sandbox that a stage is about, before anything is decided. -/
def Stage.sandbox? : Stage → Option String
  | .kept sb _ | .free sb _ | .probing sb _ => some sb.name
  | _ => none

/-- The card `item` is the one of the sandbox `sb`, and no run of it was adopted. -/
structure Adopts (s : BoardState) (adopted : List Adoption) (sb : Listed) : Prop where
  tied : Tied s sb.item sb.name
  fresh : ∀ a ∈ adopted, a.itemId ≠ sb.item

/-- What a stage knows about its card. -/
def Stage.Fits (s : BoardState) (adopted : List Adoption) : Stage → Prop
  | .kept sb card | .free sb card => ∀ c, card = some c →
    c.id = sb.item ∧ (c.environment = some sb.name → Adopts s adopted sb)
  | .probing sb item => item.id = sb.item ∧ Adopts s adopted sb
  | _ => True

/-- The pass has adopted one run at most for a sandbox, and for a card. -/
structure Pass.Orderly (s : BoardState) (p : Pass) : Prop where
  names : (p.adopted.map Adoption.sandbox ++
    (p.stage.sandbox?.toList ++ p.left.map Listed.name)).Nodup
  items : (p.adopted.map Adoption.itemId).Nodup
  tied : ∀ a ∈ p.adopted, Tied s a.itemId a.sandbox
  stage : p.stage.Fits s p.adopted

section Unicode

variable [UnicodeTables] {s s' : BoardState} {b : Board} {p : Pass} {reopen : Bool}
  {active : Finset ItemId} {timeoutSecs : ℤ} {now : Time} {probe : Except String Output}

omit [UnicodeTables] in
lemma Adopts.mono {adopted : List Adoption} {sb : Listed} (h : Adopts s adopted sb)
    (hs : s.KeepsEnvironments s') : Adopts s' adopted sb :=
  ⟨h.tied.mono hs, h.fresh⟩

omit [UnicodeTables] in
lemma Pass.Orderly.mono (h : p.Orderly s) (hs : s.KeepsEnvironments s') : p.Orderly s' where
  names := h.names
  items := h.items
  tied a ha := (h.tied a ha).mono hs
  stage := by
    have hstage := h.stage
    revert hstage
    cases p.stage with
    | kept sb card | free sb card =>
      exact fun h c hc => ⟨(h c hc).1, fun henv => ((h c hc).2 henv).mono hs⟩
    | probing sb item => exact fun h => ⟨h.1, h.2.mono hs⟩
    | _ => exact fun h => h

lemma keepsEnvironments_attach (item : WorkItem) (a : Adoption) (b : Board) :
    b.state.KeepsEnvironments (attach item a b).state :=
  (Board.keepsEnvironments_exec rfl b).trans
    (Board.keepsEnvironments_exec rfl _)

omit [UnicodeTables] in
lemma keepsEnvironments_of_state (h : s' = s) : s.KeepsEnvironments s' := by
  rw [h]
  exact .refl s

omit [UnicodeTables] in
/-- The card that a pass decides on, with the board after the look. -/
lemma keepsEnvironments_reopenFor {card card' : Option WorkItem} {sandbox : String} {b' : Board}
    (h : reopenFor card sandbox timeoutSecs b = (card', b')) :
    b.state.KeepsEnvironments b'.state := by
  rcases reopenFor_cases h with ⟨-, hstate⟩ | ⟨-, -, -, -, -, -, hkeeps⟩
  · exact keepsEnvironments_of_state hstate
  · exact hkeeps

/-- A pass keeps the sandboxes of the cards. -/
lemma keepsEnvironments_advance :
    b.state.KeepsEnvironments (p.advance reopen active timeoutSecs now probe b).2.1.state := by
  unfold Pass.advance
  split
  · split
    · exact .refl _
    · dsimp only
      split <;> exact .refl _
  · exact .refl _
  · exact .refl _
  · rename_i sb card hstage
    rcases hlook : (if reopen then reopenFor card sb.name timeoutSecs b else (card, b)) with
      ⟨card', b'⟩
    have hkeeps : b.state.KeepsEnvironments b'.state := by
      cases reopen with
      | true => exact keepsEnvironments_reopenFor hlook
      | false =>
        cases hlook
        exact .refl _
    dsimp only
    split
    · exact hkeeps
    · split <;> exact hkeeps
  · split
    · exact keepsEnvironments_attach _ _ _
    · exact .refl _
  · exact Board.keepsEnvironments_exec rfl b

omit [UnicodeTables] in
/-- A card that was just read: it has this sandbox only when no run of it was adopted. -/
lemma adopts_of_read (hs : s.Housed) {left : List Listed} {sb : Listed} {adopted : List Adoption}
    (htied : ∀ a ∈ adopted, Tied s a.itemId a.sandbox)
    (hnames : (adopted.map Adoption.sandbox ++ (sb.name :: left.map Listed.name)).Nodup)
    {c : WorkItem} (hc : s.items[sb.item]? = some c) (henv : c.environment = some sb.name) :
    Adopts s adopted sb where
  tied := by
    refine ⟨hs.own _ c _ hc henv, fun c' hc' => ?_⟩
    cases hc.symm.trans hc'
    exact .inr henv
  fresh a ha hid := by
    have hother : a.sandbox ≠ sb.name := fun hname =>
      (List.nodup_append.1 hnames).2.2 _ (List.mem_map_of_mem ha) _ List.mem_cons_self hname
    rw [← hid] at hc
    rcases (htied a ha).env c hc with hnone | hsame
    · cases hnone.symm.trans henv
    · exact hother (Option.some.inj (hsame.symm.trans henv))

/-- A pass at start stays orderly. -/
lemma orderly_advance (hb : b.state.Housed) (h : p.Orderly b.state) :
    (p.advance true ∅ timeoutSecs now probe b).1.Orderly
      (p.advance true ∅ timeoutSecs now probe b).2.1.state := by
  obtain ⟨left, adopted, stage⟩ := p
  obtain ⟨hnames, hitems, htied, hstage⟩ := h
  have hdone : (adopted.map Adoption.sandbox ++ left.map Listed.name).Nodup :=
    hnames.sublist ((List.sublist_append_right _ _).append_left _)
  cases stage with
  | next =>
    cases left with
    | nil => exact ⟨hnames, hitems, htied, trivial⟩
    | cons sb left =>
      dsimp only [Pass.advance]
      split
      · refine ⟨hnames, hitems, htied, fun c hc => ?_⟩
        obtain ⟨c₀, hc₀, rfl⟩ := Option.map_eq_some_iff.1 hc
        exact ⟨hb.id _ c₀ hc₀, fun henv => adopts_of_read hb htied hnames hc₀ henv⟩
      · exact ⟨hnames.sublist ((List.sublist_cons_self _ _).append_left _), hitems, htied, trivial⟩
  | reap name => exact ⟨hnames, hitems, htied, trivial⟩
  | kept sb card => exact ⟨hnames, hitems, htied, hstage⟩
  | free sb card =>
    dsimp only [Pass.advance]
    rw [if_pos rfl]
    rcases hlook : reopenFor card sb.name timeoutSecs b with ⟨card', b'⟩
    have hkeeps : b.state.KeepsEnvironments b'.state := keepsEnvironments_reopenFor hlook
    have htied' : ∀ a ∈ adopted, Tied b'.state a.itemId a.sandbox :=
      fun a ha => (htied a ha).mono hkeeps
    have hfits : ∀ c, card' = some c →
        c.id = sb.item ∧ (c.environment = some sb.name → Adopts b'.state adopted sb) := by
      intro c' hc'
      rcases reopenFor_cases hlook with ⟨rfl, -⟩ | ⟨c, item, hc, hitem, hopen, hcard, -⟩
      · exact ⟨(hstage c' hc').1, fun henv => ((hstage c' hc').2 henv).mono hkeeps⟩
      · obtain ⟨hid, hadopts⟩ := hstage c hc
        cases hitem.symm.trans hc'
        exact ⟨((hkeeps.housed hb).id _ _ hcard).trans hid,
          fun _ => (hadopts hopen.environment).mono hkeeps⟩
    dsimp only
    cases hadoptable : adoptable card' sb.name with
    | none => exact ⟨hdone, hitems, htied', trivial⟩
    | some item =>
      dsimp only
      split
      · exact ⟨hdone, hitems, htied', trivial⟩
      · obtain ⟨hitem, hthis⟩ := Option.filter_eq_some_iff.1 hadoptable
        rw [Bool.and_eq_true, beq_iff_eq] at hthis
        obtain ⟨hid, hadopts⟩ := hfits item hitem
        exact ⟨hnames, hitems, htied', hid, hadopts hthis.2⟩
  | probing sb item =>
    obtain ⟨hid, hadopts⟩ := hstage
    dsimp only [Pass.advance]
    cases hadoption : adoption item sb.name probe with
    | none => exact ⟨hdone, hitems, htied, trivial⟩
    | some a =>
      have hkeeps := keepsEnvironments_attach item a b
      obtain ⟨haid, hasandbox, -⟩ := adoption_eq_some hadoption
      refine ⟨?_, ?_, fun a' ha' => ?_, trivial⟩
      · change ((adopted ++ [a]).map Adoption.sandbox ++ ([] ++ left.map Listed.name)).Nodup
        rw [List.map_append, List.append_assoc, List.map_singleton, hasandbox]
        exact hnames
      · change ((adopted ++ [a]).map Adoption.itemId).Nodup
        rw [List.map_append, List.map_singleton, List.nodup_append]
        refine ⟨hitems, List.nodup_singleton _, fun k hk k' hk' => ?_⟩
        obtain ⟨a', ha', rfl⟩ := List.mem_map.1 hk
        rw [List.mem_singleton.1 hk', haid, hid]
        exact hadopts.fresh a' ha'
      · rcases List.mem_append.1 ha' with hold | hnew
        · exact (htied a' hold).mono hkeeps
        · rw [List.mem_singleton.1 hnew, haid, hasandbox, hid]
          exact hadopts.tied.mono hkeeps
  | requeue id byWhom reason =>
    have hkeeps : b.state.KeepsEnvironments
        (b.exec (.transition id .backlog byWhom (some reason))).state :=
      Board.keepsEnvironments_exec rfl b
    exact ⟨hdone, hitems, fun a ha => (htied a ha).mono hkeeps, trivial⟩

end Unicode

/-! ## Runs and slots -/

namespace Fleet

/-- What the first task relies on. -/
def Fits (f : Fleet) : Desk → Prop
  | .starting => f.runs = [] ∧ f.active = ∅
  | .reconciling pass => f.runs = [] ∧ f.active = ∅ ∧ pass.Orderly f.board.state
  | .supervising left => (left.map Adoption.itemId).Nodup ∧
    ∀ a ∈ left, a.itemId ∉ f.active ∧ isCardSandbox a.itemId a.sandbox = true
  | .waiting => True
  | .queueing max | .listing max | .choosing max _ => f.inFlight < max
  | .claiming max id | .claimed max id => f.inFlight < max ∧ id ∉ f.active

/-- Every run has a slot of its own, for its card and a sandbox of its card. -/
structure Staffed (f : Fleet) : Prop where
  housed : f.board.state.Housed
  ids : (f.runs.map SupervisedRun.id).Nodup
  own : ∀ r ∈ f.runs, ∀ name, r.sandbox = some name → isCardSandbox r.id name = true
  active : ∀ r ∈ f.runs, r.id ∈ f.active
  count : f.inFlight = f.active.card
  desk : f.Fits f.desk

variable {f f' : Fleet} {i : ℕ} {r r' : SupervisedRun}

/-- Changes of the board and of the sandboxes leave the slots alone. -/
lemma Staffed.frame (h : f.Staffed) (hboard : f.board.state.KeepsEnvironments f'.board.state)
    (hdesk : f'.desk = f.desk) (hruns : f'.runs = f.runs) (hactive : f'.active = f.active)
    (hcount : f'.inFlight = f.inFlight) : f'.Staffed where
  housed := hboard.housed h.housed
  ids := by
    rw [hruns]
    exact h.ids
  own := by
    rw [hruns]
    exact h.own
  active := by
    rw [hruns, hactive]
    exact h.active
  count := by
    rw [hcount, hactive]
    exact h.count
  desk := by
    have hfits := h.desk
    rw [hdesk]
    revert hfits
    cases f.desk with
    | reconciling pass =>
      rintro ⟨hnone, hempty, hpass⟩
      exact ⟨hruns.trans hnone, hactive.trans hempty, hpass.mono hboard⟩
    | _ =>
      simp only [Fits, hruns, hactive, hcount]
      exact fun hfits => hfits

lemma ids_set (hr : f.runs[i]? = some r) (hid : r'.id = r.id) :
    (f.runs.set i r').map SupervisedRun.id = f.runs.map SupervisedRun.id := by
  obtain ⟨hi, rfl⟩ := List.getElem?_eq_some_iff.1 hr
  have hself := @List.set_getElem_self _ (f.runs.map SupervisedRun.id) i
    (by rwa [List.length_map])
  rw [List.getElem_map] at hself
  rw [List.map_set, hid, hself]

lemma mem_of_run (hr : f.runs[i]? = some r) : r ∈ f.runs := List.mem_of_getElem? hr

/-- A run goes on. -/
lemma Staffed.setRun (h : f.Staffed) (hr : f.runs[i]? = some r) (hid : r'.id = r.id)
    (hown : ∀ name, r'.sandbox = some name → isCardSandbox r.id name = true) :
    (f.setRun i r').Staffed where
  housed := h.housed
  ids := by
    change ((f.runs.set i r').map SupervisedRun.id).Nodup
    rw [ids_set hr hid]
    exact h.ids
  own r'' hr'' name hname := by
    rcases List.mem_or_eq_of_mem_set hr'' with hold | rfl
    · exact h.own r'' hold name hname
    · rw [hid]
      exact hown name hname
  active r'' hr'' := by
    rcases List.mem_or_eq_of_mem_set hr'' with hold | rfl
    · exact h.active r'' hold
    · rw [hid]
      exact h.active r (mem_of_run hr)
  count := h.count
  desk := by
    have hnone : (f.setRun i r').runs = [] ↔ f.runs = [] := List.set_eq_nil_iff _ _
    have hfits := h.desk
    change (f.setRun i r').Fits f.desk
    revert hfits
    cases f.desk with
    | starting =>
      rintro ⟨hruns, hempty⟩
      exact ⟨hnone.2 hruns, hempty⟩
    | reconciling pass =>
      rintro ⟨hruns, hrest⟩
      exact ⟨hnone.2 hruns, hrest⟩
    | _ => exact fun hfits => hfits

/-- A run puts its card into another sandbox. -/
lemma Staffed.withBoard (h : f.Staffed) (hr : f.runs[i]? = some r) {b : Board}
    (hb : b.state.Housed) : ({ f with board := b }).Staffed where
  housed := hb
  ids := h.ids
  own := h.own
  active := h.active
  count := h.count
  desk := by
    have hsome : f.runs ≠ [] := List.ne_nil_of_mem (mem_of_run hr)
    have hfits := h.desk
    change Fits _ f.desk
    revert hfits
    cases f.desk with
    | reconciling pass => exact fun hfits => absurd hfits.1 hsome
    | _ => exact fun hfits => hfits

/-- No other run has the card of a run. -/
lemma Staffed.ne_of_mem_eraseIdx (h : f.Staffed) (hr : f.runs[i]? = some r)
    (hr' : r' ∈ f.runs.eraseIdx i) : r'.id ≠ r.id := by
  obtain ⟨hi, hri⟩ := List.getElem?_eq_some_iff.1 hr
  obtain ⟨j, hj, hji, hrj⟩ := List.mem_eraseIdx_iff_getElem.1 hr'
  intro hid
  have hi' : i < (f.runs.map SupervisedRun.id).length := by rwa [List.length_map]
  have hj' : j < (f.runs.map SupervisedRun.id).length := by rwa [List.length_map]
  have hids : (f.runs.map SupervisedRun.id)[j] = (f.runs.map SupervisedRun.id)[i] := by
    rw [List.getElem_map, List.getElem_map, hrj, hri, hid]
  exact hji (h.ids.getElem_inj_iff.1 hids)

/-- The task of a run is over, and its slot is freed or kept. -/
lemma Staffed.eraseRun (h : f.Staffed) (hr : f.runs[i]? = some r)
    (hruns : f'.runs = f.runs.eraseIdx i) (hboard : f'.board = f.board) (hdesk : f'.desk = f.desk)
    (hactive : f'.active = f.active ∨ f'.active = f.active.erase r.id)
    (hcount : f'.inFlight = f'.active.card) : f'.Staffed := by
  have hsub : f'.active ⊆ f.active := by
    rcases hactive with hsame | herase
    · rw [hsame]
    · rw [herase]
      exact Finset.erase_subset _ _
  have hless : f'.inFlight ≤ f.inFlight := by
    rw [hcount, h.count]
    exact Finset.card_le_card hsub
  have hsome : f.runs ≠ [] := List.ne_nil_of_mem (mem_of_run hr)
  refine ⟨by rw [hboard]; exact h.housed, ?_, ?_, ?_, hcount, ?_⟩
  · rw [hruns]
    exact h.ids.sublist ((List.eraseIdx_sublist _ _).map _)
  · intro r' hr'
    rw [hruns] at hr'
    exact h.own r' (List.mem_of_mem_eraseIdx hr')
  · intro r' hr'
    rw [hruns] at hr'
    have hold := h.active r' (List.mem_of_mem_eraseIdx hr')
    rcases hactive with hsame | herase
    · rw [hsame]
      exact hold
    · rw [herase]
      exact Finset.mem_erase.2 ⟨h.ne_of_mem_eraseIdx hr hr', hold⟩
  · have hfits := h.desk
    rw [hdesk]
    revert hfits
    cases f.desk with
    | starting => exact fun hfits => absurd hfits.1 hsome
    | reconciling pass => exact fun hfits => absurd hfits.1 hsome
    | supervising left =>
      exact fun hfits => ⟨hfits.1, fun a ha => ⟨fun hmem => (hfits.2 a ha).1 (hsub hmem),
        (hfits.2 a ha).2⟩⟩
    | waiting => exact fun _ => trivial
    | queueing max | listing max | choosing max awaiting =>
      exact fun hfits => hless.trans_lt hfits
    | claiming max id | claimed max id =>
      exact fun hfits => ⟨hless.trans_lt hfits.1, fun hmem => hfits.2 (hsub hmem)⟩

/-- A run is put under supervision, for a card that is not active; the desk goes on. -/
lemma Staffed.supervise (h : f.Staffed) (hid : r.id ∉ f.active)
    (hown : ∀ name, r.sandbox = some name → isCardSandbox r.id name = true) {desk : Desk}
    (hdesk : ({ f.supervise r with desk := desk }).Fits desk) :
    ({ f.supervise r with desk := desk }).Staffed := by
  have hnew : ∀ r' ∈ f.runs, r'.id ≠ r.id := fun r' hr' hsame => hid (hsame ▸ h.active r' hr')
  refine ⟨h.housed, ?_, ?_, ?_, ?_, hdesk⟩
  · change ((f.runs ++ [r]).map SupervisedRun.id).Nodup
    rw [List.map_append, List.map_singleton, List.nodup_append]
    refine ⟨h.ids, List.nodup_singleton _, fun k hk k' hk' => ?_⟩
    obtain ⟨r', hr', rfl⟩ := List.mem_map.1 hk
    rw [List.mem_singleton.1 hk']
    exact hnew r' hr'
  · intro r' hr'
    rcases List.mem_append.1 hr' with hold | hthis
    · exact h.own r' hold
    · rw [List.mem_singleton.1 hthis]
      exact hown
  · intro r' hr'
    rcases List.mem_append.1 hr' with hold | hthis
    · exact Finset.mem_insert_of_mem (h.active r' hold)
    · rw [List.mem_singleton.1 hthis]
      exact Finset.mem_insert_self _ _
  · change f.inFlight + 1 = (insert r.id f.active).card
    rw [Finset.card_insert_of_notMem hid, h.count]

/-- The listed names are among the names to list, in their order. -/
lemma sublist_listed {look : String → Option Listed} (hlook : ∀ name sb, look name = some sb →
    sb.name = name) (names : List String) :
    ((names.filterMap look).map Listed.name).Sublist names := by
  induction names with
  | nil => exact List.Sublist.slnil
  | cons name names ih =>
    rw [List.filterMap_cons]
    cases hname : look name with
    | none => exact ih.cons name
    | some sb =>
      dsimp only
      rw [List.map_cons, hlook name sb hname]
      exact ih.cons_cons name

lemma nodup_listing (f : Fleet) (names : List String) :
    ((f.listing names).map Listed.name).Nodup := by
  refine (List.nodup_dedup names).sublist (sublist_listed (fun name sb hsb => ?_) _)
  simp only [Option.bind_eq_bind, Option.bind_eq_some_iff] at hsb
  obtain ⟨sandbox, -, item, -, hsb⟩ := hsb
  cases hsb
  rfl

section Unicode

variable [UnicodeTables]

omit [UnicodeTables] in
lemma staffed_restarted (h : f.Staffed) : f.restarted.Staffed :=
  ⟨h.housed, List.nodup_nil, nofun, nofun, rfl, rfl, rfl⟩

/-- A call of a board method leaves the slots alone. -/
lemma Staffed.exec (h : f.Staffed) {op : Operation} (hop : op.housesCard = false) :
    ({ f with board := f.board.exec op }).Staffed :=
  h.frame (Board.keepsEnvironments_exec hop f.board) rfl rfl rfl rfl

lemma staffed_chooseSandbox (h : f.Staffed) (hr : f.runs[i]? = some r) (live : Bool) :
    (f.chooseSandbox i r live).Staffed := by
  have hown := h.own r (mem_of_run hr)
  unfold chooseSandbox
  dsimp only
  split
  · rename_i name hname
    refine h.setRun hr rfl fun name' hname' => ?_
    cases hname'
    obtain ⟨henv, -⟩ := Option.filter_eq_some_iff.1 hname
    obtain ⟨c, hc, hcenv⟩ := Option.bind_eq_some_iff.1 henv
    exact h.housed.own r.id c _ hc hcenv
  · have hgone : ∀ gone, (f.without gone).Staffed :=
      fun _ => h.frame (.refl _) rfl rfl rfl rfl
    split
    · exact (hgone _).setRun hr rfl hown
    · have hname := isCardSandbox_cardSandboxName r.id
        ((f.board.state.items[r.id]?.map fun c => c.runFailures + 1).getD 1)
      have hboard := Board.housed_setEnvironment
        ((@Board.keepsEnvironments_exec _ (.setConversationId r.id none) rfl
          f.board).housed h.housed) hname
      refine Staffed.setRun ((hgone _).withBoard hr hboard) hr rfl fun name' hname' => ?_
      cases hname'
      exact hname

lemma staffed_accountFor (h : f.Staffed) (hr : f.runs[i]? = some r) (agent : Option Process)
    (result : Except Abort Unit) (maxAttempts : UInt32) :
    (f.accountFor i r agent result maxAttempts).Staffed := by
  have hdone : (f.setRun i { r with phase := .accounted }).Staffed :=
    h.setRun hr rfl (h.own r (mem_of_run hr))
  unfold accountFor
  dsimp only
  split
  · exact hdone.exec rfl
  · exact h.eraseRun hr rfl rfl rfl (.inl rfl) h.count
  · split
    · exact hdone
    · split
      · exact hdone
      · split
        · exact hdone.exec rfl
        · exact (hdone.exec rfl).frame (.refl _) rfl rfl rfl rfl

lemma staffed_runTurn (h : f.Staffed) (hr : f.runs[i]? = some r) (turn : RunTurn) :
    (f.runTurn i r turn).Staffed := by
  have hown := h.own r (mem_of_run hr)
  have hset : ∀ f' : Fleet, f'.Staffed → f'.runs = f.runs → ∀ phase,
      (f'.setRun i { r with phase := phase }).Staffed := by
    intro f' h' hruns phase
    refine Staffed.setRun (r := r) h' ?_ rfl hown
    rw [hruns]
    exact hr
  have hworld : ∀ f' : Fleet, f'.board = f.board → f'.desk = f.desk → f'.runs = f.runs →
      f'.active = f.active → f'.inFlight = f.inFlight → f'.Staffed := by
    intro f' hboard hdesk hruns hactive hcount
    refine h.frame ?_ hdesk hruns hactive hcount
    rw [hboard]
    exact .refl _
  unfold runTurn
  split
  · exact hset f h rfl _
  · exact hset f h rfl _
  · exact staffed_chooseSandbox h hr _
  · split
    · exact h
    · rename_i name _
      exact hset { f with sandboxes := f.sandboxes.insert name ⟨some r.id, none⟩ }
        (hworld _ rfl rfl rfl rfl rfl) rfl _
  · split
    · exact h
    · rename_i name sandbox _
      exact hset (f.withAgent name sandbox.item) (hworld _ rfl rfl rfl rfl rfl) rfl _
  · split
    · exact h
    · exact hset f h rfl _
  · rename_i answers run agent _
    have hkeeps := keepsEnvironments_finish answers r.id r.agentId (cardBranchName r.id) run f.board
    split
    · rename_i b hrun
      rw [hrun] at hkeeps
      have hsettled : ({ f with board := b }).Staffed := h.frame hkeeps rfl rfl rfl rfl
      exact (hset _ hsettled rfl _).frame (.refl _) rfl rfl rfl rfl
    · rename_i e b hrun
      rw [hrun] at hkeeps
      have hsettled : ({ f with board := b }).Staffed := h.frame hkeeps rfl rfl rfl rfl
      exact hset _ hsettled rfl _
  · exact hset f h rfl _
  · exact hset f h rfl _
  · exact hset f h rfl _
  · exact hset f h rfl _
  · exact hset f h rfl _
  · exact staffed_accountFor h hr _ _ _
  · refine h.eraseRun hr rfl rfl rfl (.inr rfl) ?_
    change f.inFlight - 1 = (f.active.erase r.id).card
    rw [Finset.card_erase_of_mem (h.active r (mem_of_run hr)), h.count]
  · exact h

lemma staffed_dispatchStep (h : f.Staffed) (max : ℕ) (timeoutSecs : ℤ) (now : Time)
    (probe : Except String Output) : (f.dispatchStep max timeoutSecs now probe).Staffed := by
  have hfits := h.desk
  have hmove : ∀ f' : Fleet, f.board.state.KeepsEnvironments f'.board.state →
      f'.runs = f.runs → f'.active = f.active → f'.inFlight = f.inFlight → f'.Fits f'.desk →
        f'.Staffed := by
    intro f' hboard hruns hactive hcount hdesk
    have hframe : ({ f' with desk := f.desk }).Staffed := h.frame hboard rfl hruns hactive hcount
    exact ⟨hframe.housed, hframe.ids, hframe.own, hframe.active, hframe.count, hdesk⟩
  unfold dispatchStep
  split
  · exact h
  · -- The pass at start is over.
    rename_i adopted hdesk
    rw [hdesk] at hfits
    obtain ⟨-, hempty, hpass⟩ := hfits
    refine hmove _ (.refl _) rfl rfl rfl ⟨hpass.items, fun a ha => ⟨?_, (hpass.tied a ha).own⟩⟩
    change a.itemId ∉ f.active
    rw [hempty]
    exact Finset.notMem_empty _
  · rename_i pass _ hdesk
    rw [hdesk] at hfits
    obtain ⟨hnone, hempty, hpass⟩ := hfits
    exact hmove _ keepsEnvironments_advance rfl rfl rfl
      ⟨hnone, hempty, orderly_advance h.housed hpass⟩
  · exact hmove _ (.refl _) rfl rfl rfl trivial
  · rename_i a left hdesk
    rw [hdesk] at hfits
    obtain ⟨hids, hleft⟩ := hfits
    rw [List.map_cons, List.nodup_cons] at hids
    obtain ⟨hactive, hown⟩ := hleft a List.mem_cons_self
    refine h.supervise hactive (fun name hname => ?_) ⟨hids.2, fun a' ha' => ?_⟩
    · cases hname
      exact hown
    · obtain ⟨hactive', hown'⟩ := hleft a' (List.mem_cons_of_mem _ ha')
      refine ⟨fun hmem => ?_, hown'⟩
      rcases Finset.mem_insert.1 hmem with hsame | hold
      · exact hids.1 (List.mem_map.2 ⟨a', ha', hsame⟩)
      · exact hactive' hold
  · split
    · exact h
    · rename_i hfull
      exact hmove _ (.refl _) rfl rfl rfl (Nat.lt_of_not_le hfull)
  · rename_i max hdesk
    rw [hdesk] at hfits
    exact hmove _ (Board.keepsEnvironments_exec rfl _) rfl rfl rfl hfits
  · rename_i max hdesk
    rw [hdesk] at hfits
    exact hmove _ (.refl _) rfl rfl rfl hfits
  · exact hmove _ (.refl _) rfl rfl rfl trivial
  · rename_i max id awaiting hdesk
    rw [hdesk] at hfits
    split
    · exact hmove _ (.refl _) rfl rfl rfl hfits
    · rename_i hfree
      rw [Bool.or_eq_true, decide_eq_true_iff, not_or] at hfree
      exact hmove _ (.refl _) rfl rfl rfl ⟨hfits, hfree.1⟩
  · rename_i max id hdesk
    rw [hdesk] at hfits
    have hkeeps := keepsEnvironments_claim id s!"sandbox-{id}" none timeoutSecs f.board
    split
    · rename_i hrun
      rw [hrun] at hkeeps
      exact hmove _ hkeeps rfl rfl rfl hfits
    · rename_i hrun
      rw [hrun] at hkeeps
      exact hmove _ hkeeps rfl rfl rfl trivial
  · rename_i max id hdesk
    rw [hdesk] at hfits
    refine h.supervise hfits.2 (fun name hname => ?_) trivial
    cases hname

/-- Every step keeps the slots. -/
theorem staffed_step (h : f.Staffed) (e : Event) : (f.step e).Staffed := by
  have hworld : ∀ f' : Fleet, f'.board = f.board → f'.desk = f.desk → f'.runs = f.runs →
      f'.active = f.active → f'.inFlight = f.inFlight → f'.Staffed := by
    intro f' hboard hdesk hruns hactive hcount
    refine h.frame ?_ hdesk hruns hactive hcount
    rw [hboard]
    exact .refl _
  have hmove : ∀ desk, f.Fits desk → ({ f with desk := desk }).Staffed :=
    fun desk hdesk => ⟨h.housed, h.ids, h.own, h.active, h.count, by cases desk <;> exact hdesk⟩
  have hfits := h.desk
  cases e with
  | operation op =>
    dsimp only [step]
    split
    · exact h
    · rename_i hop
      exact h.exec (Bool.not_eq_true _ ▸ hop)
  | restart => exact staffed_restarted h
  | unreachable =>
    dsimp only [step]
    split
    · exact hmove _ ⟨List.nodup_nil, nofun⟩
    · exact h
  | listed names =>
    dsimp only [step]
    split
    · rename_i hdesk
      rw [hdesk] at hfits
      refine hmove _ ⟨hfits.1, hfits.2, ?_, List.nodup_nil, nofun, trivial⟩
      exact nodup_listing f names
    · exact h
  | dispatch max timeoutSecs now probe => exact staffed_dispatchStep h max timeoutSecs now probe
  | swept names =>
    dsimp only [step]
    split
    · exact hworld _ rfl rfl rfl rfl rfl
    · exact h
  | sweep timeoutSecs now probe =>
    dsimp only [step]
    split
    · exact h
    · exact hworld _ rfl rfl rfl rfl rfl
    · exact h.frame keepsEnvironments_advance rfl rfl rfl rfl
  | run i turn =>
    dsimp only [step]
    split
    · exact h
    · rename_i r hr
      exact staffed_runTurn h hr turn
  | appears name item agent =>
    dsimp only [step]
    split
    · exact h
    · split
      · exact hworld _ rfl rfl rfl rfl rfl
      · exact hworld _ rfl rfl rfl rfl rfl
  | vanishes name => exact hworld _ rfl rfl rfl rfl rfl

/-! ## Slots that are given back -/

end Unicode

end Fleet

end Supervisor

end Sandboard

import Sandboard.Supervisor.Freeing

/-!
# The outcome of an agent

The outcome of an agent is applied to the board when its run is settled, or when a failure is
counted for it.  Its sandbox is kept after that, with the files of the agent in it.  A start looks
at the card and at these files, and not at whether the outcome was applied: `FindsUnfinished` says
when no start takes up a run for a second time.
-/

namespace Sandboard

open Std Text

namespace Supervisor

/-- The runs that the first task is about to put under supervision. -/
def Desk.adopted : Desk → List Adoption
  | .reconciling pass => pass.adopted
  | .supervising left => left
  | _ => []

namespace Fleet

/-- The outcome of the agent in the sandbox was not applied yet. -/
def Clear (f : Fleet) (name : String) : Prop :=
  ∀ (sandbox : Sandbox) (n : ℕ), f.sandboxes[name]? = some sandbox → sandbox.agent = some n →
    ⟨name, n⟩ ∉ f.applied

/-- What a run may still apply, in a phase, is not applied yet. -/
def Owes (f : Fleet) (id : ItemId) (sandbox : Option String) : Phase → Prop
  | .adopted => ∀ name, sandbox = some name → f.Clear name
  | .watching (some p) | .finished (some p) (.error _) =>
    p.number < f.agents ∧ isCardSandbox id p.sandbox = true ∧ p ∉ f.applied
  | _ => True

/-- Every outcome was applied once, and no outcome that was applied is awaited. -/
structure Unapplied (f : Fleet) : Prop where
  once : f.applied.Nodup
  old : ∀ p ∈ f.applied, p.number < f.agents
  sandboxes : ∀ (name : String) (sandbox : Sandbox) (n : ℕ), f.sandboxes[name]? = some sandbox →
    sandbox.agent = some n → n < f.agents
  runs : ∀ r ∈ f.runs, f.Owes r.id r.sandbox r.phase
  desk : ∀ a ∈ f.desk.adopted, f.Clear a.sandbox

variable {f f' : Fleet} {i : ℕ} {r r' : SupervisedRun}

/-! ## What happens to the sandboxes -/

/-- The sandboxes change, and none of them gets an agent whose outcome was applied. -/
structure Tidy (f f' : Fleet) : Prop where
  applied : f'.applied = f.applied
  agents : f.agents ≤ f'.agents
  clear : ∀ name, f.Clear name → f'.Clear name
  sandboxes : ∀ (name : String) (sandbox : Sandbox) (n : ℕ), f'.sandboxes[name]? = some sandbox →
    sandbox.agent = some n → n < f'.agents

lemma Tidy.owes (h : f.Tidy f') {id : ItemId} {sandbox : Option String} {phase : Phase}
    (howes : f.Owes id sandbox phase) : f'.Owes id sandbox phase := by
  revert howes
  unfold Owes
  split
  · exact fun hclear name hname => h.clear name (hclear name hname)
  · rw [h.applied]
    exact fun hp => ⟨hp.1.trans_le h.agents, hp.2⟩
  · rw [h.applied]
    exact fun hp => ⟨hp.1.trans_le h.agents, hp.2⟩
  · exact fun _ => trivial

lemma Unapplied.tidy (hu : f.Unapplied) (h : f.Tidy f') (hruns : f'.runs = f.runs)
    (hdesk : ∀ a ∈ f'.desk.adopted, f.Clear a.sandbox) : f'.Unapplied where
  once := by
    rw [h.applied]
    exact hu.once
  old p hp := by
    rw [h.applied] at hp
    exact (hu.old p hp).trans_le h.agents
  sandboxes := h.sandboxes
  runs r hr := by
    rw [hruns] at hr
    exact h.owes (hu.runs r hr)
  desk a ha := h.clear _ (hdesk a ha)

/-- Nothing changes in the sandboxes. -/
lemma Unapplied.tidy_of_eq (hu : f.Unapplied) (hsandboxes : f'.sandboxes = f.sandboxes)
    (hagents : f'.agents = f.agents) (happlied : f'.applied = f.applied) : f.Tidy f' where
  applied := happlied
  agents := hagents.ge
  clear name hclear sandbox n hsandbox hn := by
    rw [happlied]
    rw [hsandboxes] at hsandbox
    exact hclear sandbox n hsandbox hn
  sandboxes name sandbox n hsandbox hn := by
    rw [hsandboxes] at hsandbox
    rw [hagents]
    exact hu.sandboxes name sandbox n hsandbox hn

/-- A sandbox is deleted. -/
lemma Unapplied.tidy_erase (hu : f.Unapplied) {gone : String}
    (hsandboxes : f'.sandboxes = f.sandboxes.erase gone) (hagents : f'.agents = f.agents)
    (happlied : f'.applied = f.applied) : f.Tidy f' := by
  have hold : ∀ (name : String) (sandbox : Sandbox), f'.sandboxes[name]? = some sandbox →
      f.sandboxes[name]? = some sandbox := by
    intro name sandbox hsandbox
    rw [hsandboxes, ExtTreeMap.getElem?_erase] at hsandbox
    split at hsandbox
    · cases hsandbox
    · exact hsandbox
  refine ⟨happlied, hagents.ge, fun name hclear sandbox n hsandbox hn => ?_,
    fun name sandbox n hsandbox hn => ?_⟩
  · rw [happlied]
    exact hclear sandbox n (hold name sandbox hsandbox) hn
  · rw [hagents]
    exact hu.sandboxes name sandbox n (hold name sandbox hsandbox) hn

/-- A sandbox comes up without an agent, or with a new one. -/
lemma Unapplied.tidy_insert (hu : f.Unapplied) {new : String} {sandbox : Sandbox}
    (hsandboxes : f'.sandboxes = f.sandboxes.insert new sandbox)
    (happlied : f'.applied = f.applied) (hagents : f.agents ≤ f'.agents)
    (hagent : ∀ n, sandbox.agent = some n → n = f.agents ∧ f.agents < f'.agents) :
    f.Tidy f' := by
  have hold : ∀ (name : String) (s : Sandbox), f'.sandboxes[name]? = some s →
      s = sandbox ∨ f.sandboxes[name]? = some s := by
    intro name s hs
    rw [hsandboxes, ExtTreeMap.getElem?_insert] at hs
    split at hs
    · exact .inl (Option.some.inj hs).symm
    · exact .inr hs
  refine ⟨happlied, hagents, fun name hclear s n hs hn => ?_, fun name s n hs hn => ?_⟩
  · rw [happlied]
    rcases hold name s hs with rfl | hs
    · obtain ⟨rfl, -⟩ := hagent n hn
      exact fun hmem => (hu.old _ hmem).false
    · exact hclear s n hs hn
  · rcases hold name s hs with rfl | hs
    · obtain ⟨rfl, hless⟩ := hagent n hn
      exact hless
    · exact (hu.sandboxes name s n hs hn).trans_le hagents

lemma Unapplied.tidy_without (hu : f.Unapplied) (gone : Option String) {b : Board} {desk : Desk}
    {sweep : Option Pass} :
    f.Tidy { f.without gone with board := b, desk := desk, sweep := sweep } := by
  cases gone with
  | none => exact hu.tidy_of_eq rfl rfl rfl
  | some name => exact hu.tidy_erase rfl rfl rfl

lemma Unapplied.tidy_withAgent (hu : f.Unapplied) (name : String) (item : Option ItemId) :
    f.Tidy (f.withAgent name item) :=
  hu.tidy_insert rfl rfl (Nat.le_succ _) fun _ hn => ⟨(Option.some.inj hn).symm, Nat.lt_succ_self _⟩

/-! ## What happens to the runs -/

/-- A run goes on to a phase in which it owes nothing that was applied. -/
lemma Unapplied.setRun (hu : f.Unapplied) (howes : f.Owes r'.id r'.sandbox r'.phase) :
    (f.setRun i r').Unapplied where
  once := hu.once
  old := hu.old
  sandboxes := hu.sandboxes
  runs r hr := by
    rcases List.mem_or_eq_of_mem_set hr with hold | rfl
    · exact hu.runs r hold
    · exact howes
  desk := hu.desk

lemma Unapplied.subRuns (hu : f.Unapplied) (hruns : ∀ r ∈ f'.runs, r ∈ f.runs)
    (hsandboxes : f'.sandboxes = f.sandboxes) (hagents : f'.agents = f.agents)
    (happlied : f'.applied = f.applied) (hdesk : ∀ a ∈ f'.desk.adopted, a ∈ f.desk.adopted) :
    f'.Unapplied := by
  have htidy : f.Tidy f' := hu.tidy_of_eq hsandboxes hagents happlied
  refine ⟨happlied ▸ hu.once, fun p hp => ?_, htidy.sandboxes, fun r hr => ?_, fun a ha => ?_⟩
  · rw [happlied] at hp
    exact (hu.old p hp).trans_le htidy.agents
  · exact htidy.owes (hu.runs r (hruns r hr))
  · exact htidy.clear _ (hu.desk a (hdesk a ha))

/-- The sandboxes of two cards have different names. -/
lemma ne_of_isCardSandbox {id id' : ItemId} {name name' : String} (hid : id' ≠ id)
    (h : isCardSandbox id name = true) (h' : isCardSandbox id' name' = true) : name' ≠ name := by
  rintro rfl
  have hsame := (cardOfSandbox_of_isCardSandbox h').symm.trans (cardOfSandbox_of_isCardSandbox h)
  exact hid (Option.some.inj hsame)

/-- After a run went on, a run is that one or another one. -/
lemma mem_set_cases {r'' : SupervisedRun} (h : r'' ∈ f.runs.set i r') :
    r'' = r' ∨ r'' ∈ f.runs.eraseIdx i := by
  obtain ⟨j, hj, rfl⟩ := List.getElem_of_mem h
  rw [List.getElem_set]
  split
  · exact .inl rfl
  · rename_i hji
    rw [List.length_set] at hj
    exact .inr (List.mem_eraseIdx_iff_getElem.2 ⟨j, hj, Ne.symm hji, rfl⟩)

/-- The outcome of the agent of a run is applied: no other run awaits it. -/
lemma Unapplied.apply (hu : f.Unapplied) (hs : f.Staffed) (hr : f.runs[i]? = some r)
    {agent : Option Process} {phase : Phase}
    (hagent : ∀ p, agent = some p →
      p.number < f.agents ∧ isCardSandbox r.id p.sandbox = true ∧ p ∉ f.applied)
    (hphase : ∀ f' : Fleet, f'.Owes r.id r.sandbox phase) :
    ((f.setRun i { r with phase := phase }).apply agent).Unapplied := by
  cases agent with
  | none =>
    exact (hu.setRun (hphase f)).subRuns (fun _ h => h) rfl rfl (List.append_nil _) fun _ h => h
  | some p =>
    obtain ⟨hnumber, howner, hnew⟩ := hagent p rfl
    have hclear : ∀ (id : ItemId) (name : String), id ≠ r.id → isCardSandbox id name = true →
        f.Clear name → ((f.setRun i { r with phase := phase }).apply (some p)).Clear name := by
      intro id name hid hname hc sandbox n hsandbox hn hmem
      rcases List.mem_append.1 hmem with hold | hthis
      · exact hc sandbox n hsandbox hn hold
      · have heq : (⟨name, n⟩ : Process) = p := by simpa using hthis
        exact ne_of_isCardSandbox hid howner hname (congrArg Process.sandbox heq)
    have hother' : ∀ (id : ItemId) (q : Process), id ≠ r.id →
        q.number < f.agents ∧ isCardSandbox id q.sandbox = true ∧ q ∉ f.applied →
        q.number < f.agents ∧ isCardSandbox id q.sandbox = true ∧ q ∉ f.applied ++ [p] := by
      rintro id q hid ⟨hless, hname, hold⟩
      refine ⟨hless, hname, fun hmem => ?_⟩
      rcases List.mem_append.1 hmem with hin | hthis
      · exact hold hin
      · exact ne_of_isCardSandbox hid howner hname
          (congrArg Process.sandbox (List.mem_singleton.1 hthis))
    refine ⟨?_, ?_, hu.sandboxes, ?_, ?_⟩
    · exact List.nodup_append.2 ⟨hu.once, List.nodup_singleton p, fun q hq q' hq' heq =>
        hnew (by rw [← List.mem_singleton.1 hq', ← heq]; exact hq)⟩
    · intro q hq
      rcases List.mem_append.1 hq with hold | hthis
      · exact hu.old q hold
      · rw [List.mem_singleton.1 hthis]
        exact hnumber
    · intro r'' hr''
      rcases mem_set_cases hr'' with rfl | hother
      · exact hphase _
      · have hid := hs.ne_of_mem_eraseIdx hr hother
        have hmem := List.mem_of_mem_eraseIdx hother
        have howes := hu.runs r'' hmem
        have hown := hs.own r'' hmem
        revert howes
        unfold Owes
        split
        · exact fun hc name hname => hclear r''.id name hid (hown name hname) (hc name hname)
        · exact hother' r''.id _ hid
        · exact hother' r''.id _ hid
        · exact fun _ => trivial
    · intro a ha
      have hsome : f.runs ≠ [] := List.ne_nil_of_mem (mem_of_run hr)
      have hfits := hs.desk
      change a ∈ f.desk.adopted at ha
      have hdesk := hu.desk a ha
      revert hfits ha
      cases f.desk with
      | reconciling pass => exact fun hfits => absurd hfits.1 hsome
      | supervising left =>
        intro hfits ha
        obtain ⟨hactive, hown⟩ := hfits.2 a ha
        refine hclear a.itemId a.sandbox (fun hid => hactive ?_) hown hdesk
        rw [hid]
        exact hs.active r (mem_of_run hr)
      | _ => exact fun _ ha => absurd ha List.not_mem_nil

/-! ## Steps -/

section Unicode

variable [UnicodeTables]

/-- Where a start comes upon an agent whose outcome was applied, it does not reopen the card for it,
and the probe does not show the agent. -/
def FindsUnfinished (f : Fleet) : Event → Prop
  | .dispatch _ _ _ probe => ∀ pass, f.desk = .reconciling pass →
    (∀ sb c, pass.stage = .free sb (some c) → ¬f.Clear sb.name →
      ¬Reopenable f.board.state c sb.name) ∧
    ∀ sb item, pass.stage = .probing sb item → ¬f.Clear sb.name →
      (printedOf probe).bind probeOf = none
  | _ => True

omit [UnicodeTables] in
lemma Unapplied.sameWorld (hu : f.Unapplied) (hsandboxes : f'.sandboxes = f.sandboxes)
    (hagents : f'.agents = f.agents) (happlied : f'.applied = f.applied) (hruns : f'.runs = f.runs)
    (hdesk : f'.desk = f.desk) : f'.Unapplied :=
  hu.tidy (hu.tidy_of_eq hsandboxes hagents happlied) hruns (by rw [hdesk]; exact hu.desk)

lemma unapplied_chooseSandbox (hu : f.Unapplied) (live : Bool) :
    (f.chooseSandbox i r live).Unapplied := by
  unfold chooseSandbox
  dsimp only
  split
  · exact hu.setRun trivial
  · have hgone : ∀ gone b, ({ f.without gone with board := b }).Unapplied :=
      fun gone b => hu.tidy (hu.tidy_without gone) rfl hu.desk
    split
    · exact (hgone _ f.board).setRun trivial
    · exact (hgone _ _).setRun trivial

lemma unapplied_accountFor (hu : f.Unapplied) (hs : f.Staffed) (hr : f.runs[i]? = some r)
    {agent : Option Process} {result : Except Abort Unit} (maxAttempts : UInt32)
    (hphase : r.phase = .finished agent result) :
    (f.accountFor i r agent result maxAttempts).Unapplied := by
  have hdone : (f.setRun i { r with phase := .accounted }).Unapplied := hu.setRun trivial
  unfold accountFor
  dsimp only
  split
  · exact hdone.sameWorld rfl rfl rfl rfl rfl
  · exact hu.subRuns (fun _ h => List.mem_of_mem_eraseIdx h) rfl rfl rfl fun _ h => h
  · split
    · exact hdone
    · split
      · exact hdone
      · split
        · exact hdone.sameWorld rfl rfl rfl rfl rfl
        · have hagent : ∀ p, agent = some p →
              p.number < f.agents ∧ isCardSandbox r.id p.sandbox = true ∧ p ∉ f.applied := by
            rintro p rfl
            have howes := hu.runs r (mem_of_run hr)
            rw [hphase] at howes
            exact howes
          have happly : ((f.setRun i { r with phase := .accounted }).apply agent).Unapplied :=
            hu.apply hs hr hagent fun _ => trivial
          exact happly.sameWorld rfl rfl rfl rfl rfl

omit [UnicodeTables] in
/-- A sandbox that is up, by the name that the run has for it. -/
lemma sandbox_of_bind {name : String} {sandbox : Sandbox}
    (h : (r.sandbox.bind fun name => f.sandboxes[name]?.map fun sandbox => (name, sandbox)) =
      some (name, sandbox)) : r.sandbox = some name ∧ f.sandboxes[name]? = some sandbox := by
  obtain ⟨name', hname', hsandbox⟩ := Option.bind_eq_some_iff.1 h
  obtain ⟨sandbox', hsandbox', heq⟩ := Option.map_eq_some_iff.1 hsandbox
  cases heq
  exact ⟨hname', hsandbox'⟩

lemma unapplied_runTurn (hu : f.Unapplied) (hs : f.Staffed) (hr : f.runs[i]? = some r)
    (turn : RunTurn) : (f.runTurn i r turn).Unapplied := by
  have howes := hu.runs r (mem_of_run hr)
  have hown := hs.own r (mem_of_run hr)
  unfold runTurn
  split
  · exact hu.setRun trivial
  · exact hu.setRun trivial
  · exact unapplied_chooseSandbox hu _
  · split
    · exact hu
    · rename_i name _
      have hup : ({ f with sandboxes := f.sandboxes.insert name ⟨some r.id, none⟩ }).Unapplied :=
        hu.tidy (hu.tidy_insert rfl rfl le_rfl fun _ hn => by cases hn) rfl hu.desk
      exact hup.setRun trivial
  · split
    · exact hu
    · rename_i name sandbox hsandbox
      obtain ⟨hname, -⟩ := sandbox_of_bind hsandbox
      have hup : (f.withAgent name sandbox.item).Unapplied :=
        hu.tidy (hu.tidy_withAgent name _) rfl hu.desk
      exact hup.setRun ⟨Nat.lt_succ_self _, hown name hname, fun hmem => (hu.old _ hmem).false⟩
  · rename_i hphase
    split
    · exact hu
    · rename_i name sandbox hsandbox
      obtain ⟨hname, hbox⟩ := sandbox_of_bind hsandbox
      rw [hphase] at howes
      refine hu.setRun ?_
      cases hagent : sandbox.agent with
      | none => trivial
      | some n =>
        exact ⟨hu.sandboxes name sandbox n hbox hagent, hown name hname,
          howes name hname sandbox n hbox hagent⟩
  · rename_i answers run agent hphase
    rw [hphase] at howes
    have hagent : ∀ p, agent = some p →
        p.number < f.agents ∧ isCardSandbox r.id p.sandbox = true ∧ p ∉ f.applied := by
      rintro p rfl
      exact howes
    split
    · rename_i b _
      have hdone : ((f.setRun i { r with phase := .finished agent (.ok ()) }).apply
          agent).Unapplied := by
        refine hu.apply hs hr hagent fun f' => ?_
        cases agent <;> trivial
      exact hdone.sameWorld rfl rfl rfl rfl rfl
    · rename_i e b _
      have hdone : (f.setRun i { r with phase := .finished agent (.error e) }).Unapplied := by
        refine hu.setRun ?_
        cases agent with
        | none => trivial
        | some p => exact howes
      exact hdone.sameWorld rfl rfl rfl rfl rfl
  · rename_i e agent hphase
    rw [hphase] at howes
    refine hu.setRun ?_
    cases agent with
    | none => trivial
    | some p => exact howes
  · exact hu.setRun trivial
  · exact hu.setRun trivial
  · exact hu.setRun trivial
  · exact hu.setRun trivial
  · rename_i hphase
    exact unapplied_accountFor hu hs hr _ hphase
  · exact hu.subRuns (fun _ h => List.mem_of_mem_eraseIdx h) rfl rfl rfl fun _ h => h
  · exact hu

/-- The runs that a pass has adopted: those of before, and the one in the sandbox that was probed. -/
lemma adopted_advance {p : Pass} {reopen : Bool} {active : Finset ItemId} {timeoutSecs : ℤ}
    {now : Time} {probe : Except String Output} {b : Board} {a : Adoption}
    (ha : a ∈ (p.advance reopen active timeoutSecs now probe b).1.adopted) :
    a ∈ p.adopted ∨ ∃ sb item, p.stage = .probing sb item ∧ a.sandbox = sb.name ∧
      (printedOf probe).bind probeOf ≠ none := by
  revert ha
  unfold Pass.advance
  split
  · split
    · exact .inl
    · dsimp only
      split <;> exact .inl
  · exact .inl
  · exact .inl
  · dsimp only
    split
    · exact .inl
    · split <;> exact .inl
  · rename_i sb item hstage
    split
    · rename_i a' hadoption
      intro ha
      rcases List.mem_append.1 ha with hold | hnew
      · exact .inl hold
      · obtain ⟨-, hsandbox, hshown⟩ := adoption_eq_some hadoption
        rw [List.mem_singleton.1 hnew]
        exact .inr ⟨sb, item, hstage, hsandbox, hshown⟩
    · exact .inl
  · exact .inl

omit [UnicodeTables] in
/-- A run is put under supervision. -/
lemma Unapplied.supervise (hu : f.Unapplied) (howes : f.Owes r.id r.sandbox r.phase) {desk : Desk}
    (hdesk : ∀ a ∈ desk.adopted, a ∈ f.desk.adopted) :
    ({ f.supervise r with desk := desk }).Unapplied where
  once := hu.once
  old := hu.old
  sandboxes := hu.sandboxes
  runs r' hr' := by
    rcases List.mem_append.1 hr' with hold | hnew
    · exact hu.runs r' hold
    · rw [List.mem_singleton.1 hnew]
      exact howes
  desk a ha := hu.desk a (hdesk a ha)

lemma unapplied_dispatchStep (hu : f.Unapplied) {max : ℕ} {timeoutSecs : ℤ} {now : Time}
    {probe : Except String Output}
    (hfinds : f.FindsUnfinished (.dispatch max timeoutSecs now probe)) :
    (f.dispatchStep max timeoutSecs now probe).Unapplied := by
  have hidle : ∀ f' : Fleet, f'.sandboxes = f.sandboxes → f'.agents = f.agents →
      f'.applied = f.applied → f'.runs = f.runs →
        (∀ a ∈ f'.desk.adopted, a ∈ f.desk.adopted) → f'.Unapplied := by
    intro f' hsandboxes hagents happlied hruns hdesk
    exact hu.tidy (hu.tidy_of_eq hsandboxes hagents happlied) hruns fun a ha =>
      hu.desk a (hdesk a ha)
  unfold dispatchStep
  split
  · exact hu
  · rename_i adopted hdesk
    refine hidle _ rfl rfl rfl rfl fun a ha => ?_
    rw [hdesk]
    exact ha
  · rename_i pass _ hdesk
    refine hu.tidy (hu.tidy_without _) rfl fun a ha => ?_
    rcases adopted_advance ha with hold | ⟨sb, item, hstage, hsandbox, hshown⟩
    · refine hu.desk a ?_
      rw [hdesk]
      exact hold
    · rw [hsandbox]
      by_contra hsettled
      exact hshown ((hfinds pass hdesk).2 sb item hstage hsettled)
  · exact hidle _ rfl rfl rfl rfl nofun
  · rename_i a left hdesk
    refine hu.supervise ?_ fun a' ha' => ?_
    · intro name hname
      cases hname
      refine hu.desk a ?_
      rw [hdesk]
      exact List.mem_cons_self
    · rw [hdesk]
      exact List.mem_cons_of_mem a ha'
  · split
    · exact hu
    · exact hidle _ rfl rfl rfl rfl nofun
  · exact hidle _ rfl rfl rfl rfl nofun
  · exact hidle _ rfl rfl rfl rfl nofun
  · exact hidle _ rfl rfl rfl rfl nofun
  · split
    · exact hidle _ rfl rfl rfl rfl nofun
    · exact hidle _ rfl rfl rfl rfl nofun
  · split
    · exact hidle _ rfl rfl rfl rfl nofun
    · exact hidle _ rfl rfl rfl rfl nofun
  · refine hu.supervise ?_ nofun
    trivial

lemma unapplied_step (hu : f.Unapplied) (hs : f.Staffed) {e : Event}
    (hfinds : f.FindsUnfinished e) : (f.step e).Unapplied := by
  cases e with
  | operation op =>
    dsimp only [step]
    split
    · exact hu
    · exact hu.sameWorld rfl rfl rfl rfl rfl
  | restart => exact hu.subRuns nofun rfl rfl rfl nofun
  | unreachable =>
    dsimp only [step]
    split
    · exact hu.subRuns (fun _ h => h) rfl rfl rfl nofun
    · exact hu
  | listed names =>
    dsimp only [step]
    split
    · exact hu.subRuns (fun _ h => h) rfl rfl rfl nofun
    · exact hu
  | dispatch max timeoutSecs now probe => exact unapplied_dispatchStep hu hfinds
  | swept names =>
    dsimp only [step]
    split
    · exact hu.sameWorld rfl rfl rfl rfl rfl
    · exact hu
  | sweep timeoutSecs now probe =>
    dsimp only [step]
    split
    · exact hu
    · exact hu.sameWorld rfl rfl rfl rfl rfl
    · exact hu.tidy (hu.tidy_without _) rfl hu.desk
  | run i turn =>
    dsimp only [step]
    split
    · exact hu
    · rename_i r hr
      exact unapplied_runTurn hu hs hr turn
  | appears name item agent =>
    dsimp only [step]
    split
    · exact hu
    · split
      · exact hu.tidy (hu.tidy_withAgent name _) rfl hu.desk
      · exact hu.tidy (hu.tidy_insert rfl rfl le_rfl fun _ hn => by cases hn) rfl hu.desk
  | vanishes name => exact hu.tidy (hu.tidy_erase rfl rfl rfl) rfl hu.desk

/-! ## Cards in Backlog -/

/-- Where a start looks at a card for a sandbox, with an agent whose outcome was applied, it leaves
the cards as they are. -/
def SparesSettled (f : Fleet) (e : Event) : Prop :=
  ∀ max timeoutSecs now probe pass sb card, e = .dispatch max timeoutSecs now probe →
    f.desk = .reconciling pass → pass.stage = .free sb card → ¬f.Clear sb.name →
      (f.step e).board.state = f.board.state

/-- Where a start looks at a card for a sandbox, with an agent whose outcome was applied, the card
cannot be reopened. -/
def FindsSettledShut (f : Fleet) (e : Event) : Prop :=
  ∀ max timeoutSecs now probe pass sb c, e = .dispatch max timeoutSecs now probe →
    f.desk = .reconciling pass → pass.stage = .free sb (some c) → ¬f.Clear sb.name →
      ¬Reopenable f.board.state c sb.name

omit [UnicodeTables] in
/-- A look at a card changes the board exactly when the card can be reopened. -/
lemma state_reopenFor_iff {b : Board} {card : Option WorkItem} {sandbox : String}
    {timeoutSecs : ℤ} : (reopenFor card sandbox timeoutSecs b).2.state = b.state ↔
      ∀ c, card = some c → ¬Reopenable b.state c sandbox := by
  constructor
  · rintro hstate c rfl hopen
    obtain ⟨c₀, hc₀⟩ := hopen.claim
    obtain ⟨item, b', hrun, c', hc', hclaimed⟩ := run_prepareForAdoption_of_reopenable hopen
    have hlook : (reopenFor (some c) sandbox timeoutSecs b).2 = b' := by
      rw [reopenFor, hrun]
    rw [hlook] at hstate
    rw [hstate, hc₀.1] at hc'
    cases hc'
    cases hclaimed.symm.trans (check_claimed_iff.1 hc₀.2.2).1
  · intro hshut
    rcases hlook : reopenFor card sandbox timeoutSecs b with ⟨card', b'⟩
    rcases reopenFor_cases hlook with ⟨-, hstate⟩ | ⟨c, -, hc, -, hopen, -⟩
    · exact hstate
    · exact absurd hopen (hshut c hc)

/-- The step that looks at a card. -/
lemma state_step_free {pass : Pass} {sb : Listed} {card : Option WorkItem} {max : ℕ}
    {timeoutSecs : ℤ} {now : Time} {probe : Except String Output}
    (hdesk : f.desk = .reconciling pass) (hstage : pass.stage = .free sb card) :
    (f.step (.dispatch max timeoutSecs now probe)).board.state =
      (reopenFor card sb.name timeoutSecs f.board).2.state := by
  have hadvance : (pass.advance true ∅ timeoutSecs now probe f.board).2.1 =
      (reopenFor card sb.name timeoutSecs f.board).2 := by
    rw [Pass.advance, hstage]
    dsimp only
    split
    · rfl
    · split <;> rfl
  obtain ⟨left, adopted, stage⟩ := pass
  cases hstage
  dsimp only [step]
  rw [dispatchStep, hdesk, ← hadvance]
  cases left <;> rfl

lemma sparesSettled_iff (f : Fleet) (e : Event) : f.SparesSettled e ↔ f.FindsSettledShut e := by
  constructor
  · intro h max timeoutSecs now probe pass sb c he hdesk hstage hsettled
    have hstate := h max timeoutSecs now probe pass sb (some c) he hdesk hstage hsettled
    rw [he, state_step_free hdesk hstage] at hstate
    exact state_reopenFor_iff.1 hstate c rfl
  · intro h max timeoutSecs now probe pass sb card he hdesk hstage hsettled
    rw [he, state_step_free hdesk hstage]
    refine state_reopenFor_iff.2 fun c hc => ?_
    exact h max timeoutSecs now probe pass sb c he hdesk (hc ▸ hstage) hsettled

omit [UnicodeTables] in
lemma FindsUnfinished.shut {e : Event} (h : f.FindsUnfinished e) : f.FindsSettledShut e := by
  intro max timeoutSecs now probe pass sb c he hdesk hstage hsettled
  subst he
  exact (h pass hdesk).1 sb c hstage hsettled

omit [UnicodeTables] in
lemma unapplied_start (b : Board) : (start b).Unapplied where
  once := List.nodup_nil
  old _ hp := absurd hp List.not_mem_nil
  sandboxes _ _ _ hsandbox := by cases hsandbox
  runs _ hr := absurd hr List.not_mem_nil
  desk _ ha := absurd ha List.not_mem_nil

end Unicode

/-! ## An agent that failed -/

/-- A step of the first task, where the sandbox shows an agent that has exited. -/
def probeTick : Event := .dispatch 1 60 0 (.ok ⟨0, probeScript .exited 3, ""⟩)

/-- The process is restarted, and the run in the sandbox is adopted. -/
def adoptedRun : List Event :=
  [.restart, .listed ["sb-card-3-a1"]] ++ List.replicate 6 probeTick ++ [.run 0 .follow]

/-- The run ends with a failure, which is counted. -/
def failedEnd : List Event :=
  [.run 0 (.finish publishing ⟨1, "boom", ""⟩), .run 0 (.account 3)]

/-- The run fails, the process is restarted, and the run is adopted. -/
def countedTwice : List Event :=
  startedRun ++ failedEnd ++ [.run 0 .release] ++ adoptedRun ++ failedEnd

/-- No run is settled or accounted for. -/
def Event.appliesNothing : Event → Bool
  | .run _ (.finish ..) | .run _ (.account _) => false
  | _ => true

lemma applied_chooseSandbox [UnicodeTables] {f : Fleet} {i : ℕ} {r : SupervisedRun} {live : Bool} :
    (f.chooseSandbox i r live).applied = f.applied := by
  unfold chooseSandbox
  dsimp only
  split
  · rfl
  · split <;> rfl

lemma applied_step [UnicodeTables] {f : Fleet} {e : Event} (he : Event.appliesNothing e = true) :
    (f.step e).applied = f.applied := by
  cases e with
  | operation | unreachable | listed | swept =>
    dsimp only [step]
    split <;> rfl
  | restart | vanishes => rfl
  | dispatch max timeoutSecs now probe =>
    dsimp only [step]
    unfold dispatchStep
    split <;> first | rfl | (split <;> rfl)
  | sweep timeoutSecs now probe =>
    dsimp only [step]
    split <;> rfl
  | appears name item agent =>
    dsimp only [step]
    split
    · rfl
    · split <;> rfl
  | run i turn =>
    dsimp only [step]
    split
    · rfl
    · cases turn with
      | finish | account => cases he
      | choose live =>
        unfold runTurn
        split <;> first | contradiction | exact applied_chooseSandbox | rfl
      | park | create | start | follow | stop | release =>
        unfold runTurn
        split <;> first | contradiction | rfl | (split <;> rfl)

/-- While no outcome was applied, no start comes upon a settled run. -/
lemma meets_findsUnfinished [UnicodeTables] {f : Fleet} (hnone : f.applied = [])
    {events : List Event} (hquiet : events.all Event.appliesNothing = true) :
    Run.Meets step FindsUnfinished f events := by
  induction events generalizing f with
  | nil => trivial
  | cons e events ih =>
    rw [List.all_cons, Bool.and_eq_true] at hquiet
    have hclear : ∀ name, f.Clear name := by
      intro name sandbox n _ _
      rw [hnone]
      exact List.not_mem_nil
    refine ⟨?_, ih ((applied_step hquiet.1).trans hnone) hquiet.2⟩
    unfold FindsUnfinished
    split
    · exact fun pass _ => ⟨fun sb _ _ hsettled => absurd (hclear sb.name) hsettled,
        fun sb _ _ hsettled => absurd (hclear sb.name) hsettled⟩
    · trivial

end Fleet

end Supervisor

end Sandboard

import Sandboard.Library.Run
import Sandboard.Settings.Catalog

/-!
# References between the settings

Profiles refer to policies and to MCP servers, designations and overrides refer to profiles, and
the profile of the cockpit lists the board's own server.  Seeding and upserts only add entries
that others may refer to (`Adds`); the verbs that delete look for references first.  One verb
can leave the cockpit with a profile that does not list the server: deleting the profile that is
designated for the cockpit, which then inherits the default profile as it is.
-/

namespace Sandboard

open Std Text

/-- A settings operation, or a change of the cards. -/
inductive SettingsVerb where
  | upsertSandboxProfile (profile : SandboxProfile)
  | deleteSandboxProfile (id : String)
  | upsertOpenshellPolicy (policy : OpenShellPolicy)
  | deleteOpenshellPolicy (id : String)
  | upsertMcpServer (server : McpServerDesired)
  | deleteMcpServer (id : String)
  | setDefaultSandboxProfile (id : String)
  | setCockpitSandboxProfile (id : String)
  | clearCockpitSandboxProfile
  | setProjectSandboxProfile (projectId : ItemId) (profileId : Option String)
  | ensureMinimalPolicy
  | ensureShippedMcpServers
  | ensureCockpitSandboardMcpAttach
  | ensureShippedSandboxProfiles
  /-- A card is created, without an override. -/
  | addCard (card : WorkItem)
  /-- A card is deleted. -/
  | removeCard (id : ItemId)

namespace Settings

/-- A new card comes onto the board, without an override. -/
def addCard (s : Settings) (card : WorkItem) : Settings :=
  if s.items.contains card.id then s
  else { s with items := s.items.insert card.id { card with sandboxProfileId := none } }

variable [UnicodeTables] [PolicyYaml]

/-- The settings after an operation; a refused one leaves them as the verb leaves them. -/
def exec (s : Settings) : SettingsVerb → Settings
  | .upsertSandboxProfile profile => (s.upsertSandboxProfile profile).2
  | .deleteSandboxProfile id => (s.deleteSandboxProfile id).2
  | .upsertOpenshellPolicy policy => (s.upsertOpenshellPolicy policy).2
  | .deleteOpenshellPolicy id => (s.deleteOpenshellPolicy id).2
  | .upsertMcpServer server => (s.upsertMcpServer server).2
  | .deleteMcpServer id => (s.deleteMcpServer id).2
  | .setDefaultSandboxProfile id => (s.setDefaultSandboxProfile id).2
  | .setCockpitSandboxProfile id => (s.setCockpitSandboxProfile id).2
  | .clearCockpitSandboxProfile => s.clearCockpitSandboxProfile
  | .setProjectSandboxProfile projectId profileId =>
    (s.setProjectSandboxProfile projectId profileId).2
  | .ensureMinimalPolicy => s.ensureMinimalPolicy
  | .ensureShippedMcpServers => s.ensureShippedMcpServers
  | .ensureCockpitSandboardMcpAttach => s.ensureCockpitSandboardMcpAttach
  | .ensureShippedSandboxProfiles => s.ensureShippedSandboxProfiles
  | .addCard card => s.addCard card
  | .removeCard id => { s with items := s.items.erase id }

/-- Every reference between the settings is to an entry that is there. -/
structure References (s : Settings) : Prop where
  policy : ∀ (pid : String) (p : SandboxProfile), s.sandboxProfiles[pid]? = some p →
    p.policyId ∈ s.openshellPolicies
  server : ∀ (pid : String) (p : SandboxProfile), s.sandboxProfiles[pid]? = some p →
    ∀ m ∈ p.mcpServerIds, m ∈ s.mcpServers
  default : ∀ pid : String, s.defaultSandboxProfileId = some pid → pid ∈ s.sandboxProfiles
  cockpit : ∀ pid : String, s.cockpitSandboxProfileId = some pid → pid ∈ s.sandboxProfiles
  override : ∀ (k : ItemId) (it : WorkItem), s.items[k]? = some it → it.isProject →
    ∀ pid : String, it.sandboxProfileId = some pid → pid ∈ s.sandboxProfiles

/-- The profile of the cockpit lists the board's own server. -/
def Attached (s : Settings) : Prop :=
  ∀ (pid : String) (p : SandboxProfile), s.cockpitTarget = some pid →
    s.sandboxProfiles[pid]? = some p → sandboardMcpServerId ∈ p.mcpServerIds

/-- The references hold, and the profile of the cockpit lists the board's own server whenever
the catalog has it. -/
structure Consistent (s : Settings) : Prop extends References s where
  attached : sandboardMcpServerId ∈ s.mcpServers → Attached s

/-- The operation does not take the profile of the cockpit away from under it while the default
profile, which the cockpit then inherits, does not list the board's own server. -/
def KeepsAttached (s : Settings) : SettingsVerb → Prop
  | .deleteSandboxProfile id => s.cockpitSandboxProfileId = some id → ∀ (d : String) (p : SandboxProfile),
      s.defaultSandboxProfileId = some d → d ≠ id → s.sandboxProfiles[d]? = some p →
        sandboardMcpServerId ∈ p.mcpServerIds
  | _ => True

omit [UnicodeTables] [PolicyYaml]

lemma mem_entries {κ β : Type} [Ord κ] [TransOrd κ] [LawfulEqOrd κ] {catalog : ExtTreeMap κ β}
    {v : β} : v ∈ entries catalog ↔ ∃ k : κ, catalog[k]? = some v := by
  simp [entries]

variable {s s' : Settings}

/-! ## Operations that only add policies and servers -/

/-- Policies and servers are added, and everything else is as it was. -/
structure Adds (s s' : Settings) : Prop where
  items : s'.items = s.items
  profiles : s'.sandboxProfiles = s.sandboxProfiles
  default : s'.defaultSandboxProfileId = s.defaultSandboxProfileId
  cockpit : s'.cockpitSandboxProfileId = s.cockpitSandboxProfileId
  policies : ∀ id, id ∈ s.openshellPolicies → id ∈ s'.openshellPolicies
  servers : ∀ id, id ∈ s.mcpServers → id ∈ s'.mcpServers

namespace Adds

lemma refl (s : Settings) : Adds s s := ⟨rfl, rfl, rfl, rfl, fun _ h => h, fun _ h => h⟩

lemma trans {s'' : Settings} (h : Adds s s') (h' : Adds s' s'') : Adds s s'' where
  items := h'.items.trans h.items
  profiles := h'.profiles.trans h.profiles
  default := h'.default.trans h.default
  cockpit := h'.cockpit.trans h.cockpit
  policies id hid := h'.policies id (h.policies id hid)
  servers id hid := h'.servers id (h.servers id hid)

lemma target (h : Adds s s') : s'.cockpitTarget = s.cockpitTarget := by
  rw [cockpitTarget, cockpitTarget, h.cockpit, h.default]

end Adds

lemma adds_policy (s : Settings) (id : String) (policy : OpenShellPolicy) :
    Adds s { s with openshellPolicies := s.openshellPolicies.insert id policy } :=
  ⟨rfl, rfl, rfl, rfl, fun _ h => ExtTreeMap.mem_insert.2 (.inr h), fun _ h => h⟩

lemma adds_server (s : Settings) (id : String) (server : McpServerDesired) :
    Adds s { s with mcpServers := s.mcpServers.insert id server } :=
  ⟨rfl, rfl, rfl, rfl, fun _ h => h, fun _ h => ExtTreeMap.mem_insert.2 (.inr h)⟩

lemma adds_seedPolicy [PolicyYaml] (s : Settings) (row : String × String) :
    Adds s (s.seedPolicy row) := by
  unfold seedPolicy
  split
  · exact .refl s
  · exact adds_policy s _ _

lemma mem_seedPolicy [PolicyYaml] (s : Settings) (row : String × String) :
    row.1 ∈ (s.seedPolicy row).openshellPolicies := by
  unfold seedPolicy
  split
  · rename_i h
    exact ExtTreeMap.mem_iff_contains.2 h
  · exact ExtTreeMap.mem_insert_self

lemma adds_seedPolicies [PolicyYaml] (rows : List (String × String)) (s : Settings) :
    Adds s (rows.foldl seedPolicy s) := by
  induction rows generalizing s with
  | nil => exact .refl s
  | cons row rows ih => exact (adds_seedPolicy s row).trans (ih _)

lemma mem_seedPolicies [PolicyYaml] {rows : List (String × String)} {row : String × String}
    (h : row ∈ rows) (s : Settings) : row.1 ∈ (rows.foldl seedPolicy s).openshellPolicies := by
  induction rows generalizing s with
  | nil => cases h
  | cons first rows ih =>
    rw [List.foldl_cons]
    cases h with
    | head => exact (adds_seedPolicies rows _).policies _ (mem_seedPolicy s row)
    | tail _ h => exact ih h _

lemma adds_ensureShippedMcpServers (s : Settings) : Adds s s.ensureShippedMcpServers := by
  unfold ensureShippedMcpServers
  dsimp only
  split
  · exact adds_server s _ _
  · split
    · exact adds_server s _ _
    · exact .refl s

/-- After seeding, the catalog has the board's own server. -/
lemma sandboard_mem_ensureShippedMcpServers (s : Settings) :
    sandboardMcpServerId ∈ s.ensureShippedMcpServers.mcpServers := by
  unfold ensureShippedMcpServers
  dsimp only
  split
  · exact ExtTreeMap.mem_insert_self
  · rename_i existing hexisting
    split
    · exact ExtTreeMap.mem_insert_self
    · rw [ExtTreeMap.mem_iff_isSome_getElem?]
      change (s.mcpServers[McpServerDesired.shippedSandboard.id]?).isSome
      rw [hexisting]
      rfl

lemma adds_upsertMcpServer [PolicyYaml] (s : Settings) (server : McpServerDesired) :
    Adds s (s.upsertMcpServer server).2 := by
  unfold upsertMcpServer
  split
  · exact .refl s
  · dsimp only
    split
    · exact .refl s
    · split
      · exact .refl s
      · exact adds_server s _ _

lemma adds_upsertOpenshellPolicy (s : Settings) (policy : OpenShellPolicy) :
    Adds s (s.upsertOpenshellPolicy policy).2 := by
  unfold upsertOpenshellPolicy
  split
  · exact .refl s
  · split
    · exact .refl s
    · exact adds_policy s _ _

/-! ## Keeping the references -/

namespace References

lemma empty : References Settings.empty := by
  constructor <;> simp [Settings.empty]

/-- Adding policies and servers breaks no reference. -/
lemma adds (hs : References s) (h : Adds s s') : References s' where
  policy pid p hp := by
    rw [h.profiles] at hp
    exact h.policies _ (hs.policy pid p hp)
  server pid p hp m hm := by
    rw [h.profiles] at hp
    exact h.servers _ (hs.server pid p hp m hm)
  default := by
    rw [h.default, h.profiles]
    exact hs.default
  cockpit := by
    rw [h.cockpit, h.profiles]
    exact hs.cockpit
  override := by
    rw [h.items, h.profiles]
    exact hs.override

/-- Storing a profile whose references hold breaks none. -/
lemma store (hs : References s) {id : String} {p : SandboxProfile}
    (hpolicy : p.policyId ∈ s.openshellPolicies)
    (hserver : ∀ m ∈ p.mcpServerIds, m ∈ s.mcpServers) :
    References { s with sandboxProfiles := s.sandboxProfiles.insert id p } := by
  have hmem : ∀ pid, pid ∈ s.sandboxProfiles → pid ∈ s.sandboxProfiles.insert id p :=
    fun pid h => ExtTreeMap.mem_insert.2 (.inr h)
  constructor
  · intro pid q hq
    rw [ExtTreeMap.getElem?_insert] at hq
    split at hq
    · cases hq
      exact hpolicy
    · exact hs.policy pid q hq
  · intro pid q hq
    rw [ExtTreeMap.getElem?_insert] at hq
    split at hq
    · cases hq
      exact hserver
    · exact hs.server pid q hq
  · exact fun pid hpid => hmem pid (hs.default pid hpid)
  · exact fun pid hpid => hmem pid (hs.cockpit pid hpid)
  · exact fun k it hit hproject pid hpid => hmem pid (hs.override k it hit hproject pid hpid)

/-- Designating a profile that is there. -/
lemma designate (hs : References s) {default cockpit : Option String}
    (hdefault : ∀ pid, default = some pid → pid ∈ s.sandboxProfiles)
    (hcockpit : ∀ pid, cockpit = some pid → pid ∈ s.sandboxProfiles) :
    References { s with
      defaultSandboxProfileId := default
      cockpitSandboxProfileId := cockpit } :=
  ⟨hs.policy, hs.server, hdefault, hcockpit, hs.override⟩

end References

/-- What the operations keep: the references, and that the profile of the cockpit lists the
board's own server, in the catalog or not. -/
structure Sound (s : Settings) : Prop extends References s where
  attached : Attached s

namespace Sound

lemma consistent (hs : Sound s) : Consistent s := ⟨hs.toReferences, fun _ => hs.attached⟩

lemma empty : Sound Settings.empty :=
  ⟨.empty, by simp [Attached, Settings.empty, cockpitTarget]⟩

lemma adds (hs : Sound s) (h : Adds s s') : Sound s' := by
  refine ⟨hs.toReferences.adds h, fun pid p htarget hp => ?_⟩
  rw [h.target] at htarget
  rw [h.profiles] at hp
  exact hs.attached pid p htarget hp

end Sound

/-- Attaching the server to the profile of the cockpit, whatever that profile lists before. -/
lemma sound_ensureCockpitSandboardMcpAttach (hs : References s) :
    Sound s.ensureCockpitSandboardMcpAttach := by
  unfold ensureCockpitSandboardMcpAttach
  have hsandboard := sandboard_mem_ensureShippedMcpServers s
  have hrefs := hs.adds (adds_ensureShippedMcpServers s)
  generalize s.ensureShippedMcpServers = s at hsandboard hrefs
  dsimp only
  split
  · rename_i hmissing
    rw [ExtTreeMap.mem_iff_contains] at hsandboard
    simp [hsandboard] at hmissing
  · split
    · rename_i htarget
      refine ⟨hrefs, fun pid p hpid => ?_⟩
      rw [htarget] at hpid
      cases hpid
    · rename_i pid htarget
      split
      · rename_i hprofile
        refine ⟨hrefs, fun pid' p htarget' hp => ?_⟩
        cases htarget.symm.trans htarget'
        rw [hprofile] at hp
        cases hp
      · rename_i p hprofile
        split
        · rename_i hlisted
          refine ⟨hrefs, fun pid' p' htarget' hp => ?_⟩
          cases htarget.symm.trans htarget'
          cases hprofile.symm.trans hp
          exact List.contains_iff_mem.1 hlisted
        · refine ⟨hrefs.store (hrefs.policy pid p hprofile) ?_, fun pid' p' htarget' hp => ?_⟩
          · intro m hm
            rcases List.mem_cons.1 hm with rfl | hm
            · exact hsandboard
            · exact hrefs.server pid p hprofile m hm
          · cases htarget.symm.trans htarget'
            rw [ExtTreeMap.getElem?_insert_self] at hp
            cases hp
            exact List.mem_cons_self

/-! ## The verbs -/

lemma find?_not_contains_eq_none {β : Type} {catalog : ExtTreeMap String β} {ids : List String}
    (h : (ids.find? fun id => !catalog.contains id) = none) : ∀ id ∈ ids, id ∈ catalog := by
  intro id hid
  have hcontains := List.find?_eq_none.1 h id hid
  rw [ExtTreeMap.mem_iff_contains]
  simpa using hcontains

/-- A profile that is stored as the one of the cockpit lists the board's own server. -/
lemma mem_keptServers (hsandboard : sandboardMcpServerId ∈ s.mcpServers) {id : String}
    {ids : List String}
    (htarget : s.cockpitSandboxProfileId.or
      (if s.sandboxProfiles.isEmpty && s.defaultSandboxProfileId.isNone then some id
        else s.defaultSandboxProfileId) = some id) :
    sandboardMcpServerId ∈ s.keptServers id ids := by
  rw [ExtTreeMap.mem_iff_contains] at hsandboard
  unfold keptServers
  dsimp only
  split
  · exact List.mem_cons_self
  · rename_i hkept
    by_contra hnot
    apply hkept
    rw [hsandboard, Bool.and_true, Bool.and_eq_true]
    refine ⟨?_, by simpa using hnot⟩
    split at htarget
    · rename_i hfirst
      rw [hfirst, Bool.or_true]
    · rw [cockpitTarget, htarget]
      simp

lemma sound_upsertSandboxProfile (hs : Sound s) (profile : SandboxProfile) :
    Sound (s.upsertSandboxProfile profile).2 := by
  unfold upsertSandboxProfile
  have hsandboard := sandboard_mem_ensureShippedMcpServers s
  have hsound := hs.adds (adds_ensureShippedMcpServers s)
  generalize s.ensureShippedMcpServers = s at hsandboard hsound
  dsimp only
  split
  · exact hsound
  · split
    · exact hsound
    · split
      · exact hsound
      · split
        · exact hsound
        · rename_i hpolicy
          split
          · exact hsound
          · rename_i hservers
            have hserverIds := find?_not_contains_eq_none hservers
            have hpolicyId : trim profile.policyId ∈ s.openshellPolicies := by
              rw [ExtTreeMap.mem_iff_contains]
              simpa using hpolicy
            generalize idOrNew s.sandboxProfiles profile.id (trim profile.name) = id
            set stored := storedProfile profile id
              (s.keptServers id (normalizedNames profile.mcpServerIds)) with hstored
            have hrefs : References { s with sandboxProfiles := s.sandboxProfiles.insert id stored }
                := by
              refine hsound.toReferences.store hpolicyId fun m hm => ?_
              change m ∈ s.keptServers id _ at hm
              unfold keptServers at hm
              dsimp only at hm
              split at hm
              · rcases List.mem_cons.1 hm with rfl | hm
                · exact hsandboard
                · exact hserverIds m hm
              · exact hserverIds m hm
            refine ⟨hrefs.designate ?_ hrefs.cockpit, fun pid p htarget hp => ?_⟩
            · intro pid hpid
              split at hpid
              · cases hpid
                exact ExtTreeMap.mem_insert_self
              · exact hrefs.default pid hpid
            · change (s.sandboxProfiles.insert id stored)[pid]? = some p at hp
              change s.cockpitSandboxProfileId.or (if s.sandboxProfiles.isEmpty &&
                s.defaultSandboxProfileId.isNone then some id else s.defaultSandboxProfileId) =
                  some pid at htarget
              rw [ExtTreeMap.getElem?_insert] at hp
              split at hp
              · rename_i heq
                cases LawfulEqCmp.compare_eq_iff_eq.1 heq
                cases hp
                exact mem_keptServers hsandboard htarget
              · rename_i hne
                refine hsound.attached pid p ?_ hp
                split at htarget
                · -- the first profile of an empty catalog: the other one is not there
                  rename_i hfirst
                  rw [Bool.and_eq_true] at hfirst
                  have hempty := ExtTreeMap.isEmpty_iff.1 hfirst.1
                  rw [hempty] at hp
                  simp at hp
                · exact htarget

lemma sound_deleteMcpServer (hs : Sound s) (id : String) : Sound (s.deleteMcpServer id).2 := by
  unfold deleteMcpServer
  split
  · exact hs
  · split
    · exact hs
    · split
      · exact hs
      · rename_i hunused
        refine ⟨⟨hs.policy, fun pid p hp m hm => ?_, hs.default, hs.cockpit, hs.override⟩,
          hs.attached⟩
        have hlisted := List.find?_eq_none.1 hunused p (mem_entries.2 ⟨pid, hp⟩)
        refine ExtTreeMap.mem_erase.2 ⟨fun heq => ?_, hs.server pid p hp m hm⟩
        cases LawfulEqCmp.compare_eq_iff_eq.1 heq
        exact hlisted (List.contains_iff_mem.2 hm)

lemma sound_deleteOpenshellPolicy [UnicodeTables] (hs : Sound s) (id : String) :
    Sound (s.deleteOpenshellPolicy id).2 := by
  unfold deleteOpenshellPolicy
  split
  · exact hs
  · dsimp only
    split
    · exact hs
    · rename_i hunused
      refine ⟨⟨fun pid p hp => ?_, hs.server, hs.default, hs.cockpit, hs.override⟩, hs.attached⟩
      refine ExtTreeMap.mem_erase.2 ⟨fun heq => hunused ?_, hs.policy pid p hp⟩
      have hused : p ∈ (entries s.sandboxProfiles).filter fun p => p.policyId == id :=
        List.mem_filter.2 ⟨mem_entries.2 ⟨pid, hp⟩, by simp [LawfulEqCmp.compare_eq_iff_eq.1 heq]⟩
      cases hfilter : (entries s.sandboxProfiles).filter fun p => p.policyId == id with
      | nil =>
        rw [hfilter] at hused
        cases hused
      | cons q qs => rfl

lemma sound_setDefaultSandboxProfile (hs : Sound s) (id : String) :
    Sound (s.setDefaultSandboxProfile id).2 := by
  unfold setDefaultSandboxProfile
  split
  · exact hs
  · rename_i hid
    have hmem : id ∈ s.sandboxProfiles := by
      rw [ExtTreeMap.mem_iff_contains]
      simpa using hid
    have hrefs : References { s with defaultSandboxProfileId := some id } :=
      hs.toReferences.designate (fun pid hpid => Option.some.inj hpid ▸ hmem) hs.cockpit
    dsimp only
    split
    · exact sound_ensureCockpitSandboardMcpAttach hrefs
    · rename_i hcockpit
      refine ⟨hrefs, fun pid p htarget hp => hs.attached pid p ?_ hp⟩
      unfold cockpitTarget at htarget ⊢
      cases hc : s.cockpitSandboxProfileId with
      | none => simp [hc] at hcockpit
      | some c =>
        rw [hc] at htarget
        exact htarget

lemma sound_setCockpitSandboxProfile (hs : Sound s) (id : String) :
    Sound (s.setCockpitSandboxProfile id).2 := by
  unfold setCockpitSandboxProfile
  split
  · exact hs
  · rename_i hid
    have hmem : id ∈ s.sandboxProfiles := by
      rw [ExtTreeMap.mem_iff_contains]
      simpa using hid
    exact sound_ensureCockpitSandboardMcpAttach (hs.toReferences.designate hs.default
      fun pid hpid => Option.some.inj hpid ▸ hmem)

lemma sound_clearCockpitSandboxProfile (hs : Sound s) : Sound s.clearCockpitSandboxProfile := by
  unfold clearCockpitSandboxProfile
  split
  · exact sound_ensureCockpitSandboardMcpAttach (hs.toReferences.designate hs.default nofun)
  · exact hs

/-- An override that is resolved to a profile names one that is there. -/
lemma mem_of_resolveOverride {profileId : Option String} {pid : String}
    (h : s.resolveOverride profileId = .ok (some pid)) : pid ∈ s.sandboxProfiles := by
  unfold resolveOverride at h
  split at h
  · cases h
  · split at h
    · cases h
    · split at h
      · cases h
      · rename_i hpid
        cases h
        rw [ExtTreeMap.mem_iff_contains]
        simpa using hpid

lemma sound_setProjectSandboxProfile (hs : Sound s) (projectId : ItemId)
    (profileId : Option String) : Sound (s.setProjectSandboxProfile projectId profileId).2 := by
  unfold setProjectSandboxProfile
  split
  · exact hs
  · split
    · exact hs
    · split
      · exact hs
      · rename_i resolved hresolved
        refine ⟨⟨hs.policy, hs.server, hs.default, hs.cockpit, fun k it hit hproject pid hpid => ?_⟩,
          hs.attached⟩
        change (s.items.insert projectId _)[k]? = some it at hit
        rw [ExtTreeMap.getElem?_insert] at hit
        split at hit
        · cases hit
          change resolved = some pid at hpid
          rw [hpid] at hresolved
          exact mem_of_resolveOverride hresolved
        · exact hs.override k it hit hproject pid hpid

lemma sound_seedProfile (hs : Sound s) (row : ShippedProfile)
    (hpolicy : row.policyId ∈ s.openshellPolicies)
    (hsandboard : sandboardMcpServerId ∈ s.mcpServers) : Sound (s.seedProfile row) := by
  unfold seedProfile
  split
  · exact hs
  · refine ⟨hs.toReferences.store hpolicy fun m hm => ?_, fun pid p htarget hp => ?_⟩
    · cases List.mem_singleton.1 hm
      exact hsandboard
    · rw [ExtTreeMap.getElem?_insert] at hp
      split at hp
      · cases hp
        exact List.mem_cons_self
      · exact hs.attached pid p htarget hp

/-- Seeding profiles changes neither the policies nor the servers. -/
lemma sound_seedProfiles (rows : List ShippedProfile) (hs : Sound s)
    (hpolicy : ∀ row ∈ rows, row.policyId ∈ s.openshellPolicies)
    (hsandboard : sandboardMcpServerId ∈ s.mcpServers) : Sound (rows.foldl seedProfile s) := by
  induction rows generalizing s with
  | nil => exact hs
  | cons row rows ih =>
    have hsame : (s.seedProfile row).openshellPolicies = s.openshellPolicies ∧
        (s.seedProfile row).mcpServers = s.mcpServers := by
      unfold seedProfile
      split <;> exact ⟨rfl, rfl⟩
    refine ih (sound_seedProfile hs row (hpolicy row List.mem_cons_self) hsandboard) ?_ ?_
    · rw [hsame.1]
      exact fun r hr => hpolicy r (List.mem_cons_of_mem _ hr)
    · rw [hsame.2]
      exact hsandboard

lemma sound_ensureShippedSandboxProfiles [PolicyYaml] (hs : Sound s) :
    Sound s.ensureShippedSandboxProfiles := by
  have hservers := adds_ensureShippedMcpServers s
  have hpolicies := adds_seedPolicies cockpitPolicies s.ensureShippedMcpServers
  have hrows : ∀ row ∈ shippedProfiles, ∃ name, (row.policyId, name) ∈ cockpitPolicies := by
    simp [shippedProfiles, cockpitPolicies]
  refine sound_seedProfiles shippedProfiles (hs.adds (hservers.trans hpolicies)) ?_
    (hpolicies.servers _ (sandboard_mem_ensureShippedMcpServers s))
  intro row hrow
  obtain ⟨name, hname⟩ := hrows row hrow
  exact mem_seedPolicies hname s.ensureShippedMcpServers

/-- Deleting a profile: overrides refuse it, designations are cleared, and a cockpit that falls
back on the default profile must find the board's own server there. -/
lemma sound_deleteSandboxProfile (hs : Sound s) {id : String}
    (hkeeps : KeepsAttached s (.deleteSandboxProfile id)) :
    Sound (s.deleteSandboxProfile id).2 := by
  unfold deleteSandboxProfile
  split
  · exact hs
  · dsimp only
    split
    · exact hs
    · rename_i hunused
      have hmem : ∀ pid : String, pid ≠ id → pid ∈ s.sandboxProfiles →
          pid ∈ s.sandboxProfiles.erase id := fun pid hne hpid =>
        ExtTreeMap.mem_erase.2 ⟨fun heq => hne (LawfulEqCmp.compare_eq_iff_eq.1 heq).symm, hpid⟩
      have hold : ∀ (pid : String) (p : SandboxProfile),
          (s.sandboxProfiles.erase id)[pid]? = some p → s.sandboxProfiles[pid]? = some p := by
        intro pid p hp
        rw [ExtTreeMap.getElem?_erase] at hp
        split at hp
        · cases hp
        · exact hp
      refine ⟨⟨fun pid p hp => hs.policy pid p (hold pid p hp),
        fun pid p hp => hs.server pid p (hold pid p hp), fun pid hpid => ?_, fun pid hpid => ?_,
        fun k it hit hproject pid hpid => ?_⟩, fun pid p htarget hp => ?_⟩
      · obtain ⟨hdefault, hne⟩ := Option.filter_eq_some_iff.1 hpid
        exact hmem pid (by simpa using hne) (hs.default pid hdefault)
      · obtain ⟨hcockpit, hne⟩ := Option.filter_eq_some_iff.1 hpid
        exact hmem pid (by simpa using hne) (hs.cockpit pid hcockpit)
      · refine hmem pid (fun heq => hunused ?_) (hs.override k it hit hproject pid hpid)
        have hused : it ∈ (entries s.items).filter fun i =>
            i.isProject && i.sandboxProfileId == some id :=
          List.mem_filter.2 ⟨mem_entries.2 ⟨k, hit⟩, by simp [hproject, hpid, heq]⟩
        cases hfilter : (entries s.items).filter fun i =>
            i.isProject && i.sandboxProfileId == some id with
        | nil =>
          rw [hfilter] at hused
          cases hused
        | cons i is => rfl
      · change (s.cockpitSandboxProfileId.filter (· ≠ id)).or
          (s.defaultSandboxProfileId.filter (· ≠ id)) = some pid at htarget
        have hp := hold pid p hp
        cases hcockpit : s.cockpitSandboxProfileId with
        | none =>
          rw [hcockpit] at htarget
          refine hs.attached pid p ?_ hp
          rw [cockpitTarget, hcockpit]
          exact (Option.filter_eq_some_iff.1 htarget).1
        | some c =>
          by_cases hc : c = id
          · -- the designated profile goes, and the default one takes its place
            rw [hcockpit, hc] at htarget
            simp only [Option.filter, ne_eq, not_true_eq_false, decide_false, Bool.false_eq_true,
              if_false, Option.none_or] at htarget
            obtain ⟨hdefault, hne⟩ := Option.filter_eq_some_iff.1 htarget
            exact hkeeps (hcockpit.trans (congrArg some hc)) pid p hdefault (by simpa using hne) hp
          · rw [hcockpit] at htarget
            simp only [Option.filter, ne_eq, hc, not_false_eq_true, decide_true, if_true,
              Option.some_or] at htarget
            refine hs.attached pid p ?_ hp
            rw [cockpitTarget, hcockpit]
            exact htarget

/-! ## Runs -/

section Runs

variable [UnicodeTables] [PolicyYaml]

/-- What one operation keeps. -/
lemma sound_exec (hs : Sound s) (op : SettingsVerb) (hkeeps : KeepsAttached s op) :
    Sound (s.exec op) := by
  cases op with
  | upsertSandboxProfile profile => exact sound_upsertSandboxProfile hs profile
  | deleteSandboxProfile id => exact sound_deleteSandboxProfile hs hkeeps
  | upsertOpenshellPolicy policy => exact hs.adds (adds_upsertOpenshellPolicy s policy)
  | deleteOpenshellPolicy id => exact sound_deleteOpenshellPolicy hs id
  | upsertMcpServer server => exact hs.adds (adds_upsertMcpServer s server)
  | deleteMcpServer id => exact sound_deleteMcpServer hs id
  | setDefaultSandboxProfile id => exact sound_setDefaultSandboxProfile hs id
  | setCockpitSandboxProfile id => exact sound_setCockpitSandboxProfile hs id
  | clearCockpitSandboxProfile => exact sound_clearCockpitSandboxProfile hs
  | setProjectSandboxProfile k profileId => exact sound_setProjectSandboxProfile hs k profileId
  | ensureMinimalPolicy => exact hs.adds (adds_seedPolicy s _)
  | ensureShippedMcpServers => exact hs.adds (adds_ensureShippedMcpServers s)
  | ensureCockpitSandboardMcpAttach => exact sound_ensureCockpitSandboardMcpAttach hs.toReferences
  | ensureShippedSandboxProfiles => exact sound_ensureShippedSandboxProfiles hs
  | addCard card =>
    change Sound (s.addCard card)
    unfold addCard
    split
    · exact hs
    · refine ⟨⟨hs.policy, hs.server, hs.default, hs.cockpit, fun k it hit hproject pid hpid => ?_⟩,
        hs.attached⟩
      change (s.items.insert card.id _)[k]? = some it at hit
      rw [ExtTreeMap.getElem?_insert] at hit
      split at hit
      · cases hit
        cases hpid
      · exact hs.override k it hit hproject pid hpid
  | removeCard id =>
    refine ⟨⟨hs.policy, hs.server, hs.default, hs.cockpit, fun k it hit hproject pid hpid => ?_⟩,
      hs.attached⟩
    change (s.items.erase id)[k]? = some it at hit
    rw [ExtTreeMap.getElem?_erase] at hit
    split at hit
    · cases hit
    · exact hs.override k it hit hproject pid hpid

/-- In every run from an empty board that never deletes the designated cockpit profile while the
default profile does not list the board's own server, the settings are consistent. -/
theorem consistent_after {ops : List SettingsVerb} (h : Run.Meets exec KeepsAttached empty ops) :
    Consistent (Run.after exec empty ops) :=
  (Run.Meets.invariant (I := Sound) (fun _ op hs hkeeps => sound_exec hs op hkeeps) Sound.empty h).consistent

end Runs

/-! ## A deleted cockpit profile -/

/-- A profile to store, with a name and nothing attached. -/
def plainProfile (id : String) : SandboxProfile where
  id := id
  name := id
  image := "image"
  policyId := "p"
  policyInlineLegacy := none
  cpu := none
  memory := none
  engine := none
  model := none
  providerNames := []
  mcpServerIds := []
  env := ∅
  prompt := none
  shipped := false

/-- A default profile, and another one that is designated for the cockpit. -/
def designated : List SettingsVerb :=
  [.upsertOpenshellPolicy ⟨"p", "P", "version: 1"⟩, .upsertSandboxProfile (plainProfile "a"),
    .upsertSandboxProfile (plainProfile "b"), .setCockpitSandboxProfile "b"]

/-- What the counterexample and the witness read off settings. -/
def glance (s : Settings) : Option String × Option String × Option (List String) × Bool :=
  (s.cockpitSandboxProfileId, s.defaultSandboxProfileId,
    (s.sandboxProfiles["a"]?).map (·.mcpServerIds), s.mcpServers.contains sandboardMcpServerId)

lemma glance_designated :
    let := asciiTables
    let := PolicyYaml.untouched
    glance (Run.after exec empty designated) = (some "b", some "a", some ["sandboard"], true) := by
  decide +kernel

/-- The designated profile is deleted while the default one lists the board's own server. -/
theorem consistent_after_delete :
    let := asciiTables
    let := PolicyYaml.untouched
    Consistent (Run.after exec empty (designated ++ [.deleteSandboxProfile "b"])) := by
  have h := glance_designated
  refine @consistent_after asciiTables PolicyYaml.untouched _ ⟨trivial, trivial, trivial, trivial,
    fun _ d p hdefault _ hp => ?_, trivial⟩
  simp only [glance, Prod.mk.injEq] at h
  obtain ⟨-, hd, hids, -⟩ := h
  cases hd.symm.trans hdefault
  have hlist : some p.mcpServerIds = some ["sandboard"] := (congrArg _ hp).symm.trans hids
  rw [Option.some.inj hlist]
  exact List.mem_singleton_self _

lemma glance_undesignated :
    let := asciiTables
    let := PolicyYaml.untouched
    glance (Run.after exec empty (designated ++
      [.upsertSandboxProfile (plainProfile "a"), .deleteSandboxProfile "b"])) =
        (none, some "a", some [], true) := by
  decide +kernel

lemma not_consistent_of_glance (h : glance s = (none, some "a", some [], true)) :
    ¬ Consistent s := by
  intro hconsistent
  simp only [glance, Prod.mk.injEq] at h
  obtain ⟨hcockpit, hdefault, hids, hserver⟩ := h
  obtain ⟨p, hp, hlist⟩ := Option.map_eq_some_iff.1 hids
  have htarget : s.cockpitTarget = some "a" := by
    rw [cockpitTarget, hcockpit, hdefault]
    rfl
  have hlisted := hconsistent.attached (ExtTreeMap.mem_iff_contains.2 hserver) "a" p htarget hp
  rw [hlist] at hlisted
  cases hlisted

/-- The default profile loses the board's own server while another profile is designated for the
cockpit; when that one is deleted, the cockpit is left with a profile that does not list it. -/
theorem inconsistent_after_delete :
    let := asciiTables
    let := PolicyYaml.untouched
    ∃ ops, ¬ Consistent (Run.after exec empty ops) :=
  ⟨_, not_consistent_of_glance glance_undesignated⟩

end Settings

end Sandboard

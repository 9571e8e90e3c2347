import Sandboard.Library.Run
import Sandboard.Settings.Requests

/-!
# Provider names on the profiles

Profiles attach providers by name.  A renaming is a deletion and an upsert, which look neither at
the profiles nor at the row that has the new name; a deletion does not look at the profiles
either, and the next start drops the name from them.  `moves` follows a row through the requests,
and `Clean` says which requests keep every attached name with its row.
-/

namespace Sandboard

open Std Text

/-- A request about a provider, or a start of the process. -/
inductive ProviderVerb where
  | create (req : BoardSettings.ProviderWrite) (nonces : ℕ × ℕ) (sync : BoardSettings.TokenSync)
  | update (name : String) (req : BoardSettings.ProviderWrite) (nonces : ℕ × ℕ)
      (sync : BoardSettings.TokenSync)
  | delete (name : String)
  | prune

namespace BoardSettings

/-- Drop attach names that are not in the Providers catalog. -/
def pruneSandboxAttachNames (s : BoardSettings) : BoardSettings :=
  { s with sandboxProfiles := s.sandboxProfiles.map fun _ p =>
      { p with providerNames := p.providerNames.filter fun n => (s.provider n).isSome } }

/-- The row that an update asks for. -/
def updatedRow (existing : OpenShellProviderDesired) (req : ProviderWrite)
    (sealed : Option String) (keys : List String)
    (refresh : Option OpenShellProviderRefreshDesired) : OpenShellProviderDesired :=
  let row : OpenShellProviderDesired :=
    { name := newName existing.name req
      providerType :=
        if (trim req.providerType).isEmpty then existing.providerType else trim req.providerType
      config := if req.config.isEmpty then existing.config else req.config
      credentialsSealed := sealed
      credentialKeys := keys
      refresh := refresh }
  row.normalized

section Requests

variable [UnicodeTables] [Vault]

/-- The settings after a request. -/
def perform (s : BoardSettings) : ProviderVerb → BoardSettings
  | .create req nonces sync => (s.createOpenshellProvider req nonces sync).2
  | .update name req nonces sync => (s.updateOpenshellProvider name req nonces sync).2
  | .delete name => (s.deleteProvider name).2
  | .prune => s.pruneSandboxAttachNames

/-- The name that a row has after a request, unless it is gone. -/
def moves (s : BoardSettings) : ProviderVerb → String → Option String
  | .create .., k => some k
  | .prune, k => some k
  | .delete name, k => if k = trim name then none else some k
  | .update name req nonces sync, k =>
    if (s.provider (trim name)).isNone ∨ newName (trim name) req = trim name then some k
    else
      match (s.updateOpenshellProvider name req nonces sync).1 with
      | .error _ => if k = trim name then none else some k
      | .ok () =>
        if k = trim name then some (newName (trim name) req)
        else if k = newName (trim name) req then none else some k

/-- The name that a row has after a run of requests. -/
def follow (s : BoardSettings) : List ProviderVerb → String → Option String
  | [], k => some k
  | v :: vs, k => (s.moves v k).bind ((s.perform v).follow vs)

end Requests

/-- Every attached name of a provider is still there, and names the row that it named. -/
def Still (s s' : BoardSettings) (moved : String → Option String) : Prop :=
  ∀ (id : String) (p : SandboxProfile), s.sandboxProfiles[id]? = some p →
    ∃ p', s'.sandboxProfiles[id]? = some p' ∧ ∀ n ∈ p.providerNames, (s.provider n).isSome →
      n ∈ p'.providerNames ∧ moved n = some n ∧ (s'.provider n).isSome

/-- A profile attaches the provider. -/
def AttachedProvider (s : BoardSettings) (n : String) : Prop :=
  (s.provider n).isSome ∧ ∃ (id : String) (p : SandboxProfile),
    s.sandboxProfiles[id]? = some p ∧ n ∈ p.providerNames

/-- A renaming moves one row, keeps of it what the request does not give, and leaves every other
row alone. -/
structure RenamesOnly (s s' : BoardSettings) (req : ProviderWrite)
    (existing row : OpenShellProviderDesired) : Prop where
  credentials : req.credentials = none → row.credentialsSealed = existing.credentialsSealed
  material : req.refresh = none →
    row.refresh.map (·.materialSealed) = existing.refresh.map (·.materialSealed)
  type : (trim req.providerType).isEmpty → row.providerType = trim existing.providerType
  gone : s'.provider existing.name = none
  renamed : s'.provider row.name = some row
  others : ∀ k ≠ existing.name, ∀ r, s.provider k = some r →
    k ≠ row.name ∧ s'.provider k = some r
  nothingNew : ∀ k ≠ row.name, s.provider k = none → s'.provider k = none

section Conditions

variable [UnicodeTables] [Vault]

/-- A renaming that succeeds changes nothing but its row. -/
def RenamesWell (s : BoardSettings) (name : String) (req : ProviderWrite) (nonces : ℕ × ℕ)
    (sync : TokenSync) : Prop :=
  ∀ existing, s.provider (trim name) = some existing → newName (trim name) req ≠ trim name →
    (s.updateOpenshellProvider name req nonces sync).1 = .ok () → ∃ sealed keys refresh,
      sealCredentialsFromWrite req.credentials (some existing) nonces.1 = .ok (sealed, keys) ∧
        sealRefreshFromWrite req.refresh (some existing) nonces.2 = .ok refresh ∧
          s.RenamesOnly (s.updateOpenshellProvider name req nonces sync).2 req existing
            (updatedRow existing req sealed keys refresh).normalized

/-- A request keeps the attached names with their rows, and renames well. -/
def KeepsCatalog (s : BoardSettings) (v : ProviderVerb) : Prop :=
  s.Still (s.perform v) (s.moves v) ∧
    match v with
    | .update name req nonces sync => s.RenamesWell name req nonces sync
    | _ => True

/-- No attached name is deleted or renamed; a renaming that succeeds takes a free name, and the
token of the App that may follow leaves the rows as they are. -/
def Clean (s : BoardSettings) : ProviderVerb → Prop
  | .create .. => True
  | .prune => True
  | .delete name => ¬s.AttachedProvider (trim name)
  | .update name req nonces sync => ∀ existing, s.provider (trim name) = some existing →
    newName (trim name) req ≠ trim name → ¬s.AttachedProvider (trim name) ∧
      ∀ sealed keys refresh,
        sealCredentialsFromWrite req.credentials (some existing) nonces.1 = .ok (sealed, keys) →
          sealRefreshFromWrite req.refresh (some existing) nonces.2 = .ok refresh →
            s.provider (newName (trim name) req) = none ∧
              let row := updatedRow existing req sealed keys refresh
              let stored := (s.deleteOpenshellProvider (trim name)).upsertOpenshellProvider row
              ∀ k, (stored.afterProvider sync row.normalized).provider k = stored.provider k

end Conditions

/-! ## Rows by their names -/

lemma find?_upsertRow (stored : OpenShellProviderDesired) (k : String)
    (rows : List OpenShellProviderDesired) :
    (upsertRow stored rows).find? (fun p => p.name == k) =
      if stored.name = k then some stored else rows.find? (fun p => p.name == k) := by
  induction rows with
  | nil =>
    rw [upsertRow, List.find?_cons, List.find?_nil]
    by_cases hk : stored.name = k
    · rw [if_pos hk, beq_iff_eq.2 hk]
    · rw [if_neg hk, beq_eq_false_iff_ne.2 hk]
  | cons p ps ih =>
    rw [upsertRow]
    by_cases hp : p.name = stored.name
    · rw [if_pos hp, List.find?_cons, List.find?_cons, hp]
      by_cases hk : stored.name = k
      · rw [if_pos hk, beq_iff_eq.2 hk]
      · rw [if_neg hk, beq_eq_false_iff_ne.2 hk]
    · rw [if_neg hp, List.find?_cons, List.find?_cons, ih]
      by_cases hk : p.name = k
      · have hne : ¬stored.name = k := fun h => hp (hk.trans h.symm)
        rw [beq_iff_eq.2 hk, if_neg hne, if_neg hne]
      · rw [beq_eq_false_iff_ne.2 hk]

lemma provider_upsert (s : BoardSettings) (p : OpenShellProviderDesired) (k : String) :
    (s.upsertOpenshellProvider p).provider k =
      if p.normalized.name = k then some p.normalized else s.provider k :=
  find?_upsertRow p.normalized k s.openshellProviders

lemma provider_delete (s : BoardSettings) (name k : String) :
    (s.deleteOpenshellProvider name).provider k =
      if k = trim name then none else s.provider k := by
  unfold provider deleteOpenshellProvider
  dsimp only
  rw [List.find?_filter]
  by_cases hk : k = trim name
  · rw [if_pos hk, List.find?_eq_none]
    intro p _ hp
    obtain ⟨hne, heq⟩ := of_decide_eq_true hp
    exact bne_iff_ne.1 hne ((beq_iff_eq.1 heq).trans hk)
  · rw [if_neg hk]
    refine congrArg (fun f => s.openshellProviders.find? f) (funext fun p => ?_)
    by_cases hp : p.name = k
    · have hkept : (p.name != trim name) = true := bne_iff_ne.2 fun h => hk (hp.symm.trans h)
      rw [beq_iff_eq.2 hp, hkept]
      rfl
    · rw [beq_eq_false_iff_ne.2 hp]
      exact decide_eq_false fun h => Bool.false_ne_true h.2

/-! ## What the token of the App writes -/

/-- The profiles are as they were, and no provider is gone. -/
structure KeepsRows (s s' : BoardSettings) : Prop where
  profiles : s'.sandboxProfiles = s.sandboxProfiles
  rows : ∀ k, (s.provider k).isSome → (s'.provider k).isSome

namespace KeepsRows

variable {s s' s'' : BoardSettings}

lemma refl (s : BoardSettings) : KeepsRows s s := ⟨rfl, fun _ h => h⟩

lemma trans (h : KeepsRows s s') (h' : KeepsRows s' s'') : KeepsRows s s'' :=
  ⟨h'.profiles.trans h.profiles, fun k hk => h'.rows k (h.rows k hk)⟩

lemma upsert (s : BoardSettings) (p : OpenShellProviderDesired) :
    KeepsRows s (s.upsertOpenshellProvider p) where
  profiles := rfl
  rows k hk := by
    rw [provider_upsert]
    split
    · rfl
    · exact hk

variable [Vault]

lemma ensureDesiredRow (s : BoardSettings) (freshToken : Option String) (nonce : ℕ) :
    KeepsRows s (BoardSettings.ensureDesiredRow freshToken nonce s).2 := by
  unfold BoardSettings.ensureDesiredRow
  dsimp only
  split
  · exact refl s
  · split
    · exact refl s
    · exact upsert s _

lemma ensureGithubProvider (s : BoardSettings) (sync : TokenSync) :
    KeepsRows s (s.ensureGithubProvider sync) := by
  unfold BoardSettings.ensureGithubProvider
  split
  · exact refl s
  · split
    · exact refl s
    · have hfirst := ensureDesiredRow s none sync.nonces.1
      generalize BoardSettings.ensureDesiredRow none sync.nonces.1 s = result at hfirst
      obtain ⟨outcome, left⟩ := result
      cases outcome with
      | error e => exact hfirst
      | ok u =>
        have htoken := fun token => hfirst.trans
          (ensureDesiredRow left (some token) sync.nonces.2)
        dsimp only
        split
        · split
          · exact hfirst
          · exact hfirst
          · exact hfirst
          · exact htoken _
          · split
            · exact hfirst
            · exact htoken _
        · split
          · exact hfirst
          · exact htoken _

lemma afterProvider (s : BoardSettings) (sync : TokenSync) (stored : OpenShellProviderDesired) :
    KeepsRows s (s.afterProvider sync stored) := by
  unfold BoardSettings.afterProvider
  split
  · exact ensureGithubProvider s sync
  · exact refl s

end KeepsRows

/-! ## A request keeps the catalog exactly when it is clean -/

section

variable {s s' : BoardSettings} {moved : String → Option String}

lemma newName_trim (name : String) (req : ProviderWrite) :
    trim (newName (trim name) req) = newName (trim name) req := by
  unfold newName
  split <;> exact trim_trim _

lemma provider_name {k : String} {p : OpenShellProviderDesired} (h : s.provider k = some p) :
    p.name = k := by
  unfold provider at h
  have hname := List.find?_some h
  exact beq_iff_eq.1 hname

/-- Where the profiles stay, only the rows of the attached names matter. -/
lemma still_iff_of_profiles (h : s'.sandboxProfiles = s.sandboxProfiles) : s.Still s' moved ↔
    ∀ n, s.AttachedProvider n → moved n = some n ∧ (s'.provider n).isSome := by
  constructor
  · intro hstill n ⟨hrow, id, p, hp, hn⟩
    obtain ⟨p', hp', hnames⟩ := hstill id p hp
    exact (hnames n hn hrow).2
  · intro hattached id p hp
    rw [h]
    exact ⟨p, hp, fun n hn hrow => ⟨hn, hattached n ⟨hrow, id, p, hp, hn⟩⟩⟩

lemma still_of_keepsRows (h : KeepsRows s s') : s.Still s' some :=
  (still_iff_of_profiles h.profiles).2 fun n hn => ⟨rfl, h.rows n hn.1⟩

lemma keepsRows_storeProvider [Vault] {row existing req nonces sync} :
    KeepsRows s (s.storeProvider row existing req nonces sync).2 := by
  unfold storeProvider
  split
  · exact .refl s
  · split
    · exact .refl s
    · exact (KeepsRows.upsert s _).trans (.afterProvider _ sync _)

/-- Pruning drops only names that have no provider. -/
lemma still_prune : s.Still s.pruneSandboxAttachNames some := by
  intro id p hp
  refine ⟨{ p with providerNames := p.providerNames.filter fun n => (s.provider n).isSome }, ?_,
    fun n hn hrow => ⟨List.mem_filter.2 ⟨hn, hrow⟩, rfl, hrow⟩⟩
  unfold pruneSandboxAttachNames
  dsimp only
  rw [ExtTreeMap.getElem?_map, hp]
  rfl

end

section

variable [UnicodeTables] [Vault] {s : BoardSettings}

/-- A provider that is deleted must not be attached. -/
lemma still_delete_iff {name : String} :
    s.Still (s.deleteProvider name).2 (s.moves (.delete name)) ↔
      ¬s.AttachedProvider (trim name) := by
  have hprofiles : (s.deleteProvider name).2.sandboxProfiles = s.sandboxProfiles := by
    unfold deleteProvider
    split <;> rfl
  rw [still_iff_of_profiles hprofiles]
  constructor
  · intro hstill hattached
    have hmoved := (hstill _ hattached).1
    rw [moves, if_pos rfl] at hmoved
    cases hmoved
  · intro hfree n hn
    have hne : n ≠ trim name := fun h => hfree (h ▸ hn)
    refine ⟨if_neg hne, ?_⟩
    unfold deleteProvider
    split
    · exact hn.1
    · dsimp only
      rw [provider_delete, trim_trim, if_neg hne]
      exact hn.1

lemma update_renamed {name : String} {req : ProviderWrite} {nonces : ℕ × ℕ} {sync : TokenSync}
    {existing : OpenShellProviderDesired} (hexisting : s.provider (trim name) = some existing)
    (hname : newName (trim name) req ≠ trim name) :
    s.updateOpenshellProvider name req nonces sync =
      match sealCredentialsFromWrite req.credentials (some existing) nonces.1 with
      | .error e => (.error e.2, s.deleteOpenshellProvider (trim name))
      | .ok (sealed, keys) =>
        match sealRefreshFromWrite req.refresh (some existing) nonces.2 with
        | .error e => (.error e.2, s.deleteOpenshellProvider (trim name))
        | .ok refresh =>
          (.ok (), ((s.deleteOpenshellProvider (trim name)).upsertOpenshellProvider
            (updatedRow existing req sealed keys refresh)).afterProvider sync
              (updatedRow existing req sealed keys refresh).normalized) := by
  unfold updateOpenshellProvider storeProvider updatedRow
  dsimp only
  rw [hexisting, provider_name hexisting]
  dsimp only
  rw [if_pos hname]
  all_goals rfl

section Renaming

variable {name : String} {req : ProviderWrite} {nonces : ℕ × ℕ} {sync : TokenSync}
  {existing row : OpenShellProviderDesired}

lemma moves_renamed (hexisting : s.provider (trim name) = some existing)
    (hname : newName (trim name) req ≠ trim name) (k : String) :
    s.moves (.update name req nonces sync) k =
      match (s.updateOpenshellProvider name req nonces sync).1 with
      | .error _ => if k = trim name then none else some k
      | .ok () =>
        if k = trim name then some (newName (trim name) req)
        else if k = newName (trim name) req then none else some k := by
  rw [moves, hexisting, if_neg]
  rintro (hnone | hsame)
  · cases hnone
  · exact hname hsame

/-- A renaming that is refused takes the row away. -/
lemma still_update_refused {e : String} (hexisting : s.provider (trim name) = some existing)
    (hname : newName (trim name) req ≠ trim name)
    (h : s.updateOpenshellProvider name req nonces sync =
      (.error e, s.deleteOpenshellProvider (trim name))) :
    s.Still (s.perform (.update name req nonces sync)) (s.moves (.update name req nonces sync)) ↔
      ¬s.AttachedProvider (trim name) := by
  have hmoves : ∀ k, s.moves (.update name req nonces sync) k =
      if k = trim name then none else some k := by
    intro k
    rw [moves_renamed hexisting hname, h]
  have hprofiles : (s.perform (.update name req nonces sync)).sandboxProfiles =
      s.sandboxProfiles := by
    rw [perform, h]
    rfl
  rw [still_iff_of_profiles hprofiles]
  constructor
  · intro hstill hattached
    have hmoved := (hstill _ hattached).1
    rw [hmoves, if_pos rfl] at hmoved
    cases hmoved
  · intro hfree n hn
    have hne : n ≠ trim name := fun heq => hfree (heq ▸ hn)
    rw [hmoves, if_neg hne, perform, h, provider_delete, trim_trim, if_neg hne]
    exact ⟨rfl, hn.1⟩

omit [UnicodeTables] [Vault] in
/-- The rows after a renaming, before a token of the App is synchronized. -/
lemma provider_renamed (hrow : row.normalized.name = newName (trim name) req) (k : String) :
    ((s.deleteOpenshellProvider (trim name)).upsertOpenshellProvider row).provider k =
      if newName (trim name) req = k then some row.normalized
      else if k = trim name then none else s.provider k := by
  rw [provider_upsert, hrow, provider_delete, trim_trim]

omit [UnicodeTables] [Vault] in
/-- A renaming changes nothing but its row exactly when the new name is free and the token of the
App leaves the rows as they are. -/
lemma renamesOnly_iff {s' : BoardSettings} (hexisting : s.provider (trim name) = some existing)
    (hname : newName (trim name) req ≠ trim name)
    (hrow : row.normalized.name = newName (trim name) req)
    (hcredentials : req.credentials = none →
      row.normalized.credentialsSealed = existing.credentialsSealed)
    (hmaterial : req.refresh = none → row.normalized.refresh.map (·.materialSealed) =
      existing.refresh.map (·.materialSealed))
    (htype : (trim req.providerType).isEmpty →
      row.normalized.providerType = trim existing.providerType) :
    s.RenamesOnly s' req existing row.normalized ↔ s.provider (newName (trim name) req) = none ∧
      ∀ k, s'.provider k =
        ((s.deleteOpenshellProvider (trim name)).upsertOpenshellProvider row).provider k := by
  have hold := provider_name hexisting
  constructor
  · intro h
    have hfree : s.provider (newName (trim name) req) = none := by
      rw [Option.eq_none_iff_forall_not_mem]
      intro r hr
      exact (h.others _ (hold ▸ hname) r hr).1 hrow.symm
    refine ⟨hfree, fun k => ?_⟩
    rw [provider_renamed hrow]
    by_cases hk : newName (trim name) req = k
    · rw [if_pos hk, ← hk, ← hrow]
      exact h.renamed
    · rw [if_neg hk]
      by_cases hkn : k = trim name
      · rw [if_pos hkn, hkn, ← hold]
        exact h.gone
      · rw [if_neg hkn]
        cases hrest : s.provider k with
        | none => exact h.nothingNew k (fun heq => hk (hrow.symm.trans heq.symm)) hrest
        | some r => exact (h.others k (hold ▸ hkn) r hrest).2
  · rintro ⟨hfree, hafter⟩
    refine ⟨hcredentials, hmaterial, htype, ?_, ?_, fun k hk r hr => ?_, fun k hk hnone => ?_⟩
    · rw [hafter, provider_renamed hrow, hold, if_neg hname, if_pos rfl]
    · rw [hafter, provider_renamed hrow, hrow, if_pos rfl]
    · have hne : newName (trim name) req ≠ k := by
        rintro rfl
        rw [hfree] at hr
        cases hr
      rw [hold] at hk
      rw [hafter, provider_renamed hrow, if_neg hne, if_neg hk, hrow]
      exact ⟨fun h => hne h.symm, hr⟩
    · rw [hrow] at hk
      rw [hafter, provider_renamed hrow, if_neg (fun h => hk h.symm), hnone, ite_self]

/-- A renaming that succeeds. -/
lemma still_update_renamed_iff (hexisting : s.provider (trim name) = some existing)
    (hname : newName (trim name) req ≠ trim name)
    (hfree : s.provider (newName (trim name) req) = none)
    (hrow : row.normalized.name = newName (trim name) req)
    (h : s.updateOpenshellProvider name req nonces sync =
      (.ok (), ((s.deleteOpenshellProvider (trim name)).upsertOpenshellProvider row).afterProvider
        sync row.normalized)) :
    s.Still (s.perform (.update name req nonces sync)) (s.moves (.update name req nonces sync)) ↔
      ¬s.AttachedProvider (trim name) := by
  have hmoves : ∀ k, s.moves (.update name req nonces sync) k =
      if k = trim name then some (newName (trim name) req)
      else if k = newName (trim name) req then none else some k := by
    intro k
    rw [moves_renamed hexisting hname, h]
  have hkeeps := KeepsRows.afterProvider
    ((s.deleteOpenshellProvider (trim name)).upsertOpenshellProvider row) sync row.normalized
  have hprofiles : (s.perform (.update name req nonces sync)).sandboxProfiles =
      s.sandboxProfiles := by
    rw [perform, h]
    exact hkeeps.profiles
  rw [still_iff_of_profiles hprofiles]
  constructor
  · intro hstill hattached
    have hmoved := (hstill _ hattached).1
    rw [hmoves, if_pos rfl] at hmoved
    exact hname (Option.some.inj hmoved)
  · intro hunattached n hn
    have hne : n ≠ trim name := fun heq => hunattached (heq ▸ hn)
    have hnew : n ≠ newName (trim name) req := by
      rintro rfl
      have hsome := hn.1
      rw [hfree] at hsome
      cases hsome
    rw [hmoves, if_neg hne, if_neg hnew, perform, h]
    refine ⟨rfl, hkeeps.rows n ?_⟩
    rw [provider_renamed hrow, if_neg (fun heq => hnew heq.symm), if_neg hne]
    exact hn.1

end Renaming

omit [UnicodeTables] [Vault] in
lemma material_normalized (p : OpenShellProviderDesired) :
    p.normalized.refresh.map (·.materialSealed) = p.refresh.map (·.materialSealed) :=
  Option.map_map _ _ p.refresh

omit [UnicodeTables] in
lemma sealCredentialsFromWrite_none (existing : OpenShellProviderDesired) (nonce : ℕ) :
    sealCredentialsFromWrite none (some existing) nonce =
      .ok (existing.credentialsSealed, existing.credentialKeys) := rfl

omit [UnicodeTables] in
lemma sealRefreshFromWrite_none (existing : OpenShellProviderDesired) (nonce : ℕ) :
    sealRefreshFromWrite none (some existing) nonce = .ok existing.refresh := rfl

omit [UnicodeTables] in
/-- What a request does not give is kept in the row that it asks for. -/
lemma updatedRow_keeps {existing : OpenShellProviderDesired} {req : ProviderWrite} {nonces : ℕ × ℕ}
    {sealed : Option String} {keys : List String}
    {refresh : Option OpenShellProviderRefreshDesired}
    (hsealed : sealCredentialsFromWrite req.credentials (some existing) nonces.1 =
      .ok (sealed, keys))
    (hrefresh : sealRefreshFromWrite req.refresh (some existing) nonces.2 = .ok refresh) :
    let row := (updatedRow existing req sealed keys refresh).normalized
    (req.credentials = none → row.credentialsSealed = existing.credentialsSealed) ∧
      (req.refresh = none → row.refresh.map (·.materialSealed) =
        existing.refresh.map (·.materialSealed)) ∧
      ((trim req.providerType).isEmpty → row.providerType = trim existing.providerType) := by
  refine ⟨fun hnone => ?_, fun hnone => ?_, fun hempty => ?_⟩
  · rw [hnone, sealCredentialsFromWrite_none] at hsealed
    exact (congrArg Prod.fst (Except.ok.inj hsealed)).symm
  · rw [hnone, sealRefreshFromWrite_none] at hrefresh
    rw [material_normalized, Except.ok.inj hrefresh]
    exact material_normalized _
  · unfold updatedRow OpenShellProviderDesired.normalized
    dsimp only
    rw [if_pos hempty, trim_trim]

/-- An update that does not rename keeps every row and name. -/
lemma still_update_inPlace {name : String} {req : ProviderWrite} {nonces : ℕ × ℕ}
    {sync : TokenSync}
    (h : (s.provider (trim name)).isNone ∨ newName (trim name) req = trim name) :
    s.Still (s.perform (.update name req nonces sync))
      (s.moves (.update name req nonces sync)) := by
  have hmoves : s.moves (.update name req nonces sync) = some := funext fun k => if_pos h
  rw [hmoves]
  apply still_of_keepsRows
  change KeepsRows s (s.updateOpenshellProvider name req nonces sync).2
  unfold updateOpenshellProvider
  dsimp only
  cases hexisting : s.provider (trim name) with
  | none => exact .refl s
  | some existing =>
    dsimp only
    have hsame : newName (trim name) req = trim name := by
      rcases h with hnone | hsame
      · rw [hexisting] at hnone
        cases hnone
      · exact hsame
    rw [if_neg (not_not.2 hsame)]
    exact keepsRows_storeProvider

lemma keepsCatalog_update_iff {name : String} {req : ProviderWrite} {nonces : ℕ × ℕ}
    {sync : TokenSync} :
    s.KeepsCatalog (.update name req nonces sync) ↔ s.Clean (.update name req nonces sync) := by
  unfold KeepsCatalog Clean RenamesWell
  dsimp only
  by_cases hname : newName (trim name) req = trim name
  · exact iff_of_true
      ⟨still_update_inPlace (Or.inr hname), fun _ _ hne => (hne hname).elim⟩
      fun _ _ hne => (hne hname).elim
  · cases hexisting : s.provider (trim name) with
    | none =>
      refine iff_of_true ⟨still_update_inPlace (Or.inl ?_), ?_⟩ ?_
      · rw [hexisting]
        rfl
      · intro existing hsome
        cases hsome
      · intro existing hsome
        cases hsome
    | some existing =>
      have hupdate : s.updateOpenshellProvider name req nonces sync = _ :=
        update_renamed hexisting hname
      cases hsealed : sealCredentialsFromWrite req.credentials (some existing) nonces.1 with
      | error e =>
        rw [hsealed] at hupdate
        dsimp only at hupdate
        rw [still_update_refused hexisting hname hupdate]
        constructor
        · rintro ⟨hfree, -⟩ existing' hsome -
          obtain rfl := Option.some.inj hsome
          refine ⟨hfree, fun sealed keys refresh hok => ?_⟩
          rw [hsealed] at hok
          cases hok
        · intro h
          refine ⟨(h existing rfl hname).1, fun existing' _ _ hok => ?_⟩
          rw [hupdate] at hok
          cases hok
      | ok kept =>
        obtain ⟨sealed, keys⟩ := kept
        cases hrefresh : sealRefreshFromWrite req.refresh (some existing) nonces.2 with
        | error e =>
          rw [hsealed, hrefresh] at hupdate
          dsimp only at hupdate
          rw [still_update_refused hexisting hname hupdate]
          constructor
          · rintro ⟨hfree, -⟩ existing' hsome -
            obtain rfl := Option.some.inj hsome
            refine ⟨hfree, fun sealed keys refresh _ hok => ?_⟩
            rw [hrefresh] at hok
            cases hok
          · intro h
            refine ⟨(h existing rfl hname).1, fun existing' _ _ hok => ?_⟩
            rw [hupdate] at hok
            cases hok
        | ok refresh =>
          rw [hsealed, hrefresh] at hupdate
          dsimp only at hupdate
          obtain ⟨hcredentials, hmaterial, htype⟩ := updatedRow_keeps hsealed hrefresh
          have hold := provider_name hexisting
          have hrow : (updatedRow existing req sealed keys refresh).normalized.name =
              newName (trim name) req := by
            unfold updatedRow OpenShellProviderDesired.normalized
            dsimp only
            rw [hold, newName_trim, newName_trim]
          have hrenames :
              s.RenamesOnly (s.updateOpenshellProvider name req nonces sync).2 req existing
                  (updatedRow existing req sealed keys refresh).normalized ↔ _ :=
            renamesOnly_iff hexisting hname hrow hcredentials hmaterial htype
          constructor
          · rintro ⟨hstill, hrenamed⟩ existing' hsome -
            obtain rfl := Option.some.inj hsome
            obtain ⟨sealed', keys', refresh', hsealed', hrefresh', honly⟩ :=
              hrenamed existing rfl hname (by rw [hupdate])
            obtain ⟨rfl, rfl⟩ := Prod.mk.inj (Except.ok.inj (hsealed.symm.trans hsealed'))
            obtain rfl := Except.ok.inj (hrefresh.symm.trans hrefresh')
            obtain ⟨hfree, hrows⟩ := hrenames.1 honly
            rw [hupdate] at hrows
            refine ⟨(still_update_renamed_iff hexisting hname hfree hrow hupdate).1 hstill, ?_⟩
            intro sealed' keys' refresh' hsealed' hrefresh'
            obtain ⟨rfl, rfl⟩ := Prod.mk.inj (Except.ok.inj (hsealed.symm.trans hsealed'))
            obtain rfl := Except.ok.inj (hrefresh.symm.trans hrefresh')
            exact ⟨hfree, hrows⟩
          · intro h
            obtain ⟨hunattached, hnew⟩ := h existing rfl hname
            obtain ⟨hfree, hrows⟩ := hnew sealed keys refresh hsealed hrefresh
            refine ⟨(still_update_renamed_iff hexisting hname hfree hrow hupdate).2 hunattached, ?_⟩
            intro existing' hsome _ _
            obtain rfl := Option.some.inj hsome
            refine ⟨sealed, keys, refresh, hsealed, hrefresh, hrenames.2 ⟨hfree, ?_⟩⟩
            rw [hupdate]
            exact hrows

/-- A request keeps the catalog exactly when it is clean. -/
lemma keepsCatalog_iff_clean (s : BoardSettings) (v : ProviderVerb) :
    s.KeepsCatalog v ↔ s.Clean v := by
  cases v with
  | create req nonces sync =>
    refine iff_of_true ⟨still_of_keepsRows ?_, trivial⟩ trivial
    unfold perform createOpenshellProvider
    dsimp only
    split
    · exact .refl s
    · split
      · exact .refl s
      · exact keepsRows_storeProvider
  | update name req nonces sync => exact keepsCatalog_update_iff
  | delete name => exact (and_iff_left trivial).trans still_delete_iff
  | prune => exact iff_of_true ⟨still_prune, trivial⟩ trivial

/-- What a run of requests keeps. -/
lemma still_follow {s : BoardSettings} {vs : List ProviderVerb}
    (h : Run.Meets perform KeepsCatalog s vs) :
    s.Still (Run.after perform s vs) (s.follow vs) := by
  induction vs generalizing s with
  | nil => exact still_of_keepsRows (.refl s)
  | cons v vs ih =>
    intro id p hp
    obtain ⟨p', hp', hfirst⟩ := h.1.1 id p hp
    obtain ⟨p'', hp'', hrest⟩ := ih h.2 id p' hp'
    refine ⟨p'', hp'', fun n hn hrow => ?_⟩
    obtain ⟨hn', hmoved, hrow'⟩ := hfirst n hn hrow
    obtain ⟨hn'', hmoved', hrow''⟩ := hrest n hn' hrow'
    refine ⟨hn'', ?_, hrow''⟩
    rw [follow, hmoved]
    exact hmoved'

/-- A run of provider requests keeps the catalog at every step exactly when each of its requests
is clean; then every attached name is still there at the end, and names the row that it named. -/
theorem keepsCatalog_run_iff (s : BoardSettings) (vs : List ProviderVerb) :
    (Run.Meets perform KeepsCatalog s vs ↔ Run.Meets perform Clean s vs) ∧
      (Run.Meets perform Clean s vs → s.Still (Run.after perform s vs) (s.follow vs)) := by
  have hiff : Run.Meets perform KeepsCatalog s vs ↔ Run.Meets perform Clean s vs :=
    Run.meets_congr keepsCatalog_iff_clean
  exact ⟨hiff, fun hclean => still_follow (hiff.2 hclean)⟩

end

/-! ## A name that is taken, and a name that is attached -/

/-- A board with two providers, one of them attached to its only profile. -/
def twoProviders : BoardSettings :=
  { empty with
    openshellProviders := [⟨"deploy", "generic", ∅, some "deploy key", [], none⟩,
      ⟨"prod", "generic", ∅, some "prod key", [], none⟩]
    sandboxProfiles := (∅ : ExtTreeMap String SandboxProfile).insert "coder"
      ⟨"coder", "Coder", "", "", none, none, none, none, none, ["prod"], [], ∅, none, false⟩ }

/-- A new name and nothing else. -/
def renameToProd : ProviderWrite := ⟨"prod", "", ∅, none, none⟩

/-- A renaming onto a name that is taken, and a deletion of the attached provider. -/
theorem not_keepsCatalog_taken :
    let := asciiTables
    let := lockedVault
    ¬Run.Meets perform KeepsCatalog twoProviders
        [.update "deploy" renameToProd (0, 1) ⟨false, false, .ok false, .error "", (2, 3)⟩] ∧
      ¬Run.Meets perform KeepsCatalog twoProviders [.delete "prod"] := by
  intro tables vault
  have hprod : (twoProviders.provider "prod").isSome := by decide +kernel
  constructor
  · intro hkeeps
    have hclean := (keepsCatalog_iff_clean _ _).1 hkeeps.1
      ⟨"deploy", "generic", ∅, some "deploy key", [], none⟩ (by decide +kernel) (by decide +kernel)
    have hfree := (hclean.2 (some "deploy key") [] none rfl rfl).1
    have htaken : newName (trim "deploy") renameToProd = "prod" := by decide +kernel
    rw [htaken] at hfree
    rw [hfree] at hprod
    cases hprod
  · intro hkeeps
    have hunattached := (keepsCatalog_iff_clean _ _).1 hkeeps.1
    have htrim : trim "prod" = "prod" := by decide +kernel
    apply hunattached
    rw [htrim]
    exact ⟨hprod, "coder", _, ExtTreeMap.getElem?_insert_self, List.mem_singleton_self _⟩

end BoardSettings

end Sandboard

import Sandboard.Settings.Requests

/-!
# Refused writes of settings

A request that is refused should leave the settings as they were.  The handlers write field after
field, so one that is refused at a later check keeps what it wrote before.  `Unspoiled` says for
each handler when that cannot be: it is not refused after a write, or what it wrote was there
already.
-/

namespace Sandboard

open Text Auth

/-- A request that writes settings, with what its handler draws and is answered. -/
inductive SettingsWrite where
  | putOpenshell (req : BoardSettings.OpenshellWrite) (nonce : ℕ)
  | putGithubApp (req : BoardSettings.GithubAppWrite) (nonce : ℕ) (sync : BoardSettings.TokenSync)
  | updateOpenshellProvider (name : String) (req : BoardSettings.ProviderWrite) (nonces : ℕ × ℕ)
      (sync : BoardSettings.TokenSync)
  | putAuthSettings (operator : Bool) (body : BoardSettings.AuthSettingsWrite) (draws : ℕ × ℕ)

namespace BoardSettings

/-- The endpoint and the mode of a request are the stored ones. -/
def SameGateway (s : BoardSettings) (req : OpenshellWrite) : Prop :=
  trimmedOrNone req.gatewayEndpoint = s.openshellGatewayEndpoint ∧
    (req.authMode.isSome = true → req.authMode = s.openshellAuthMode)

/-- The OIDC settings of a request are the stored ones, and there is no secret to clear. -/
def SameOidc (s : BoardSettings) (req : OpenshellWrite) (oidc : Option OpenShellOidcConfig) :
    Prop :=
  (oidc.isSome = true → (s.setOpenshellOidcConfig oidc).openshellOidcConfig =
    s.openshellOidcConfig) ∧ (req.clearOidc = true → s.openshellOidcSealed = none)

/-- The allow-lists of a request are the stored ones. -/
def SameAllowlists (s : BoardSettings) (body : AuthSettingsWrite) : Prop :=
  body.allowedUsers.isSome = true ∨ body.allowedTeams.isSome = true →
    normalizedNames (body.allowedUsers.getD s.authAllowedUsers) = s.authAllowedUsers ∧
      normalizedNames (body.allowedTeams.getD s.authAllowedTeams) = s.authAllowedTeams

lemma withGateway_eq (s : BoardSettings) (req : OpenshellWrite) :
    s.withGateway req = { s with
      openshellGatewayEndpoint := trimmedOrNone req.gatewayEndpoint
      openshellAuthMode := if req.authMode.isSome then req.authMode else s.openshellAuthMode } := by
  unfold withGateway
  cases req.authMode.isSome <;> rfl

/-- The first writes of the gateway's settings change nothing exactly when nothing is new. -/
lemma withGateway_eq_self_iff {s : BoardSettings} {req : OpenshellWrite} :
    s.withGateway req = s ↔ s.SameGateway req := by
  rw [withGateway_eq]
  constructor
  · intro h
    refine ⟨congrArg openshellGatewayEndpoint h, fun hmode => ?_⟩
    have hsame := congrArg openshellAuthMode h
    rwa [if_pos hmode] at hsame
  · rintro ⟨hendpoint, hmode⟩
    rw [hendpoint, ite_eq_right_iff.2 hmode]

/-- The writes of the gateway's settings before the certificates, field by field. -/
lemma withOidc_eq (s : BoardSettings) (req : OpenshellWrite) (oidc : Option OpenShellOidcConfig) :
    (s.withGateway req).withOidc req oidc = { s.withGateway req with
      openshellOidcConfig := if oidc.isSome then (s.setOpenshellOidcConfig oidc).openshellOidcConfig
        else s.openshellOidcConfig
      openshellOidcSealed := if req.clearOidc then none else s.openshellOidcSealed } := by
  rw [withGateway_eq]
  unfold withOidc
  cases oidc.isSome <;> cases req.clearOidc <;> rfl

lemma withOidc_eq_self_iff {s : BoardSettings} {req : OpenshellWrite}
    {oidc : Option OpenShellOidcConfig} :
    (s.withGateway req).withOidc req oidc = s ↔ s.SameGateway req ∧ s.SameOidc req oidc := by
  rw [withOidc_eq]
  constructor
  · intro h
    refine ⟨withGateway_eq_self_iff.1 ?_, fun hoidc => ?_, fun hclear => ?_⟩
    · have hendpoint := congrArg openshellGatewayEndpoint h
      have hmode := congrArg openshellAuthMode h
      rw [withGateway_eq] at hendpoint hmode ⊢
      dsimp only at hendpoint hmode
      rw [hendpoint, hmode]
    · have hsame := congrArg openshellOidcConfig h
      rwa [if_pos hoidc] at hsame
    · have hsame := congrArg openshellOidcSealed h
      rw [if_pos hclear] at hsame
      exact hsame.symm
  · rintro ⟨hgateway, hoidc, hclear⟩
    rw [withGateway_eq_self_iff.2 hgateway, ite_eq_right_iff.2 hoidc,
      ite_eq_right_iff.2 fun h => (hclear h).symm]

lemma withAllowlists_eq_self_iff {s : BoardSettings} {body : AuthSettingsWrite} :
    s.withAllowlists body = s ↔ s.SameAllowlists body := by
  have hset : ∀ users teams, s.setAuthAllowlists users teams = s ↔
      normalizedNames users = s.authAllowedUsers ∧ normalizedNames teams = s.authAllowedTeams := by
    intro users teams
    refine ⟨fun h => ⟨congrArg authAllowedUsers h, congrArg authAllowedTeams h⟩, fun h => ?_⟩
    unfold setAuthAllowlists
    rw [h.1, h.2]
  unfold withAllowlists SameAllowlists
  cases body.allowedUsers with
  | none =>
    cases body.allowedTeams with
    | none => exact iff_of_true rfl (by rintro (h | h) <;> cases h)
    | some teams => exact (hset _ _).trans ⟨fun h _ => h, fun h => h (Or.inr rfl)⟩
  | some users => exact (hset _ _).trans ⟨fun h _ => h, fun h => h (Or.inl rfl)⟩

/-- A provider that is removed is gone. -/
lemma deleteOpenshellProvider_ne {s : BoardSettings} {name : String} {p : OpenShellProviderDesired}
    (hp : s.provider name = some p) (htrim : trim name = name) :
    s.deleteOpenshellProvider name ≠ s := by
  intro heq
  have hrows : s.openshellProviders.filter (fun p => p.name != trim name) =
      s.openshellProviders := congrArg BoardSettings.openshellProviders heq
  have hfind : s.openshellProviders.find? (fun p => p.name == name) = some p := hp
  have hmem : p ∈ s.openshellProviders := List.mem_of_find?_eq_some hfind
  have hname := List.find?_some hfind
  have hkept := (List.filter_eq_self.1 hrows) p hmem
  rw [htrim, bne, hname] at hkept
  cases hkept

/-- A provider whose sealing is refused leaves the settings from before the row was stored. -/
lemma storeProvider_leaves_iff [Vault] {row existing req nonces sync} {s before : BoardSettings} :
    (∀ e : Refusal, ((before.storeProvider row existing req nonces sync).1.mapError
        fun e => (400, e)) = .error e →
      (before.storeProvider row existing req nonces sync).2 = s) ↔
        ((∃ e, sealCredentialsFromWrite req.credentials existing nonces.1 = .error e) ∨
          ∃ e, sealRefreshFromWrite req.refresh existing nonces.2 = .error e) → before = s := by
  unfold storeProvider
  cases hcredentials : sealCredentialsFromWrite req.credentials existing nonces.1 with
  | error e => exact ⟨fun h _ => h _ rfl, fun h _ _ => h (Or.inl ⟨e, rfl⟩)⟩
  | ok kept =>
    cases hrefresh : sealRefreshFromWrite req.refresh existing nonces.2 with
    | error e => exact ⟨fun h _ => h _ rfl, fun h _ _ => h (Or.inr ⟨e, rfl⟩)⟩
    | ok refresh => exact iff_of_true nofun (by rintro (⟨e, he⟩ | ⟨e, he⟩) <;> cases he)

lemma setGithubAppBundle_refused [Vault] {bundle : GitHubAppBundle} {nonce : ℕ}
    {s : BoardSettings} {e : String} (h : (setGithubAppBundle bundle nonce s).1 = .error e) :
    (setGithubAppBundle bundle nonce s).2 = s := by
  unfold setGithubAppBundle at h ⊢
  split
  · rfl
  · rename_i hvalid
    rw [hvalid] at h
    dsimp only at h ⊢
    split
    · rfl
    · rename_i hsealed
      rw [hsealed] at h
      cases h

/-- New allow-lists leave the operator's credentials alone. -/
lemma authBundle_withAllowlists [Vault] (s : BoardSettings) (body : AuthSettingsWrite) :
    (s.withAllowlists body).authBundle = s.authBundle := by
  unfold withAllowlists
  split <;> rfl

/-- The writes before the certificates leave the certificates alone. -/
lemma openshellMtlsSealed_withOidc (s : BoardSettings) (req : OpenshellWrite)
    (oidc : Option OpenShellOidcConfig) :
    ((s.withGateway req).withOidc req oidc).openshellMtlsSealed = s.openshellMtlsSealed := by
  unfold withOidc withGateway
  dsimp only
  split <;> split <;> split <;> rfl

end BoardSettings

namespace SettingsWrite

variable [UnicodeTables] [Vault]

/-- Serve a request. -/
def serve (s : BoardSettings) : SettingsWrite → Except Refusal Unit × BoardSettings
  | putOpenshell req nonce => s.putOpenshell req nonce
  | putGithubApp req nonce sync => s.putGithubApp req nonce sync
  | updateOpenshellProvider name req nonces sync =>
    let (outcome, s) := s.updateOpenshellProvider name req nonces sync
    (outcome.mapError fun e => (400, e), s)
  | putAuthSettings operator body draws => s.putAuthSettings operator body draws

/-- If the request is refused, the settings are what they were. -/
def Atomic (s : BoardSettings) (w : SettingsWrite) : Prop :=
  ∀ e, (w.serve s).1 = .error e → (w.serve s).2 = s

/-- The request is not refused after a write, or only after one that changes nothing. -/
def Unspoiled (s : BoardSettings) : SettingsWrite → Prop
  | putOpenshell req nonce => req.isPlaintext = false →
    match req.checkedOidc with
    | .error _ => s.SameGateway req
    | .ok oidc => req.clearMtls = false → req.anyPem = true →
      (∃ e, sealMtls nonce (req.merged s.openshellMtlsSealed) = .error e) →
        s.SameGateway req ∧ s.SameOidc req oidc
  | putGithubApp req nonce _ => req.clear = false → req.touching = true →
    (∃ e, (BoardSettings.setGithubAppBundle
      (req.merged ((s.withInstallation req).githubAppBundle.getD .empty)) nonce
        (s.withInstallation req)).1 = .error e) → s.withInstallation req = s
  | updateOpenshellProvider name req nonces _ => ∀ existing, s.provider (trim name) = some existing →
    ((∃ e, BoardSettings.sealCredentialsFromWrite req.credentials existing nonces.1 = .error e) ∨
      ∃ e, BoardSettings.sealRefreshFromWrite req.refresh existing nonces.2 = .error e) →
        BoardSettings.newName (trim name) req = trim name
  | putAuthSettings operator body draws => operator = true → ∀ auth, s.authBundle = some auth →
    ∀ pw, (body.newPassword.map trim).filter (fun pw => !pw.isEmpty) = some pw →
      match BoardSettings.sealedPassword auth pw draws with
      | .error _ => s.SameAllowlists body
      | .ok blob => (authFromSealed (trimmedOrNone (some blob))).isSome = true

variable {s : BoardSettings}

lemma putOpenshell_atomic_iff {req : BoardSettings.OpenshellWrite} {nonce : ℕ} :
    Atomic s (putOpenshell req nonce) ↔ Unspoiled s (putOpenshell req nonce) := by
  unfold Atomic Unspoiled serve BoardSettings.putOpenshell
  dsimp only
  cases hplain : req.isPlaintext with
  | true => exact iff_of_true (fun _ _ => rfl) nofun
  | false =>
    rw [if_neg Bool.false_ne_true]
    cases hoidc : req.checkedOidc with
    | error e =>
      dsimp only
      rw [← BoardSettings.withGateway_eq_self_iff]
      exact ⟨fun h _ => h _ rfl, fun h _ _ => h rfl⟩
    | ok oidc =>
      dsimp only
      rw [← BoardSettings.withOidc_eq_self_iff]
      rw [BoardSettings.openshellMtlsSealed_withOidc]
      cases hclear : req.clearMtls with
      | true => exact iff_of_true nofun nofun
      | false =>
        rw [if_neg Bool.false_ne_true]
        cases hany : req.anyPem with
        | false => exact iff_of_true nofun nofun
        | true =>
          rw [if_pos rfl]
          cases hsealed : sealMtls nonce (req.merged s.openshellMtlsSealed) with
          | error e => exact ⟨fun h _ _ _ _ => h _ rfl, fun h _ _ => h rfl rfl rfl ⟨e, rfl⟩⟩
          | ok blob => exact iff_of_true nofun fun _ _ _ ⟨_, he⟩ => nomatch he

lemma putGithubApp_atomic_iff {req : BoardSettings.GithubAppWrite} {nonce : ℕ}
    {sync : BoardSettings.TokenSync} :
    Atomic s (putGithubApp req nonce sync) ↔ Unspoiled s (putGithubApp req nonce sync) := by
  unfold Atomic Unspoiled serve BoardSettings.putGithubApp
  dsimp only
  cases hclear : req.clear with
  | true => exact iff_of_true nofun nofun
  | false =>
    rw [if_neg Bool.false_ne_true]
    cases htouching : req.touching with
    | false => exact iff_of_true nofun nofun
    | true =>
      rw [if_pos rfl]
      generalize hbundle : req.merged ((s.withInstallation req).githubAppBundle.getD .empty) = bundle
      have hkeeps : ∀ e, (BoardSettings.setGithubAppBundle bundle nonce
          (s.withInstallation req)).1 = .error e →
            (BoardSettings.setGithubAppBundle bundle nonce (s.withInstallation req)).2 =
              s.withInstallation req := fun _ => BoardSettings.setGithubAppBundle_refused
      generalize BoardSettings.setGithubAppBundle bundle nonce (s.withInstallation req) = result
        at hkeeps ⊢
      obtain ⟨outcome, left⟩ := result
      cases outcome with
      | error e =>
        obtain rfl : left = s.withInstallation req := hkeeps e rfl
        exact ⟨fun h _ _ _ => h _ rfl, fun h _ _ => h rfl rfl ⟨e, rfl⟩⟩
      | ok u => exact iff_of_true nofun fun _ _ ⟨_, he⟩ => nomatch he

lemma updateOpenshellProvider_atomic_iff {name : String} {req : BoardSettings.ProviderWrite}
    {nonces : ℕ × ℕ} {sync : BoardSettings.TokenSync} :
    Atomic s (updateOpenshellProvider name req nonces sync) ↔
      Unspoiled s (updateOpenshellProvider name req nonces sync) := by
  unfold Atomic Unspoiled serve BoardSettings.updateOpenshellProvider
  dsimp only
  cases hprovider : s.provider (trim name) with
  | none => exact iff_of_true (fun _ _ => rfl) nofun
  | some existing =>
    dsimp only
    -- What is refused leaves the settings from before the row was stored, that is without the old
    -- row when the provider was to be renamed.
    have hbefore : (if BoardSettings.newName (trim name) req ≠ trim name then
        s.deleteOpenshellProvider (trim name) else s) = s ↔
          BoardSettings.newName (trim name) req = trim name := by
      by_cases hname : BoardSettings.newName (trim name) req = trim name
      · rw [if_neg (not_not.2 hname)]
        exact iff_of_true rfl hname
      · rw [if_pos hname]
        exact iff_of_false (BoardSettings.deleteOpenshellProvider_ne hprovider (trim_trim name)) hname
    rw [BoardSettings.storeProvider_leaves_iff, hbefore]
    exact ⟨fun h _ hsome => Option.some.inj hsome ▸ h, fun h => h _ rfl⟩

lemma putAuthSettings_atomic_iff {operator : Bool} {body : BoardSettings.AuthSettingsWrite}
    {draws : ℕ × ℕ} :
    Atomic s (putAuthSettings operator body draws) ↔
      Unspoiled s (putAuthSettings operator body draws) := by
  unfold Atomic Unspoiled serve BoardSettings.putAuthSettings
  dsimp only
  cases operator with
  | false => exact iff_of_true (fun _ _ => rfl) fun hoperator => by cases hoperator
  | true =>
    rw [if_neg (by decide)]
    cases hauth : s.authBundle with
    | none => exact iff_of_true (fun _ _ => rfl) fun _ _ hauth => by cases hauth
    | some auth =>
      dsimp only
      rw [← BoardSettings.withAllowlists_eq_self_iff]
      have hkept := (BoardSettings.authBundle_withAllowlists s body).trans hauth
      cases hpw : (body.newPassword.map trim).filter fun pw => !pw.isEmpty with
      | none =>
        dsimp only
        rw [hkept]
        refine iff_of_true (fun e he => ?_) fun _ _ _ pw hpw => ?_
        · cases he
        · cases hpw
      | some pw =>
        dsimp only
        simp only [Option.some.injEq, forall_eq', true_implies]
        cases hsealed : BoardSettings.sealedPassword auth pw draws with
        | error e => exact ⟨fun h => h _ rfl, fun h _ _ => h⟩
        | ok blob =>
          dsimp only
          have hbundle : ((s.withAllowlists body).setAuthSealed (some blob)).authBundle =
              authFromSealed (trimmedOrNone (some blob)) := rfl
          rw [hbundle]
          cases hopen : authFromSealed (trimmedOrNone (some blob)) with
          | some kept =>
            refine iff_of_true (fun e he => ?_) rfl
            cases he
          | none =>
            -- The credentials that were there no longer open, so the settings did change.
            refine iff_of_false (fun h => ?_) Bool.false_ne_true
            have hsame : (s.withAllowlists body).setAuthSealed (some blob) = s := h _ rfl
            rw [← hbundle, hsame, hauth] at hopen
            cases hopen

end SettingsWrite

/-- A refused write of settings leaves them as they were exactly when it is not refused after a
write, or when what it wrote was there already. -/
theorem atomic_iff_unspoiled [UnicodeTables] [Vault] (s : BoardSettings) (w : SettingsWrite) :
    w.Atomic s ↔ w.Unspoiled s := by
  cases w with
  | putOpenshell req nonce => exact SettingsWrite.putOpenshell_atomic_iff
  | putGithubApp req nonce sync => exact SettingsWrite.putGithubApp_atomic_iff
  | updateOpenshellProvider name req nonces sync =>
    exact SettingsWrite.updateOpenshellProvider_atomic_iff
  | putAuthSettings operator body draws => exact SettingsWrite.putAuthSettings_atomic_iff

/-- A board with one provider. -/
def oneProvider : BoardSettings :=
  { BoardSettings.empty with openshellProviders := [⟨"deploy", "generic", ∅, none, [], none⟩] }

/-- A new name for the provider, with refresh material that has no entry. -/
def emptyRefresh : BoardSettings.ProviderWrite where
  name := "prod"
  providerType := ""
  config := ∅
  credentials := none
  refresh := some ⟨"TOKEN", "oauth2", ∅, []⟩

/-- An endpoint with OIDC settings whose issuer is a plaintext one. -/
def plaintextIssuer : BoardSettings.OpenshellWrite where
  gatewayEndpoint := some "https://gateway"
  authMode := none
  oidc := some ⟨"http://idp", "sandboard", ""⟩
  caPem := none
  clientCertPem := none
  clientKeyPem := none
  clearMtls := false
  clearOidc := false

/-- A refused renaming removes the provider, and a refused issuer leaves the new endpoint. -/
theorem refused_spoils :
    let := asciiTables
    let := lockedVault
    ¬(SettingsWrite.updateOpenshellProvider "deploy" emptyRefresh (0, 1)
      ⟨true, false, .ok false, .error "", (2, 3)⟩).Atomic oneProvider ∧
        ¬(SettingsWrite.putOpenshell plaintextIssuer 0).Atomic .empty := by
  intro tables vault
  constructor
  · intro hatomic
    have hname := SettingsWrite.updateOpenshellProvider_atomic_iff.1 hatomic
      ⟨"deploy", "generic", ∅, none, [], none⟩ (by decide +kernel) (Or.inr ⟨_, rfl⟩)
    exact absurd hname (by decide +kernel)
  · intro hatomic
    have hsame := SettingsWrite.putOpenshell_atomic_iff.1 hatomic (by decide +kernel)
    have hrefused : plaintextIssuer.checkedOidc = .error
        "OIDC issuer must be https:// (Keycloak is not reachable over plaintext HTTP)" := by
      decide +kernel
    rw [hrefused] at hsame
    exact absurd hsame.1 (by decide +kernel)

end Sandboard

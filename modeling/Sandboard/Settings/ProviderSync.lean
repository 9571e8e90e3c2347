import Sandboard.Library.Locked
import Sandboard.RepoAccess
import Sandboard.Settings.ProviderNames

/-!
# Providers on the gateway

Before a sandbox is created, the providers that it attaches are brought to the gateway.  A row is
sent with its type, its configuration and its credentials.  The row that the GitHub App manages is
different: while the App is complete its token is minted or kept fresh, and only that token is
sent; what belongs to the App itself stays on the board.

Everything outside answers as it likes, and so may depend on all that was sent before.  What is
sent is recorded with the board at that time.
-/

namespace Sandboard

open Std Text

/-! ## The outside -/

/-- A provider on the gateway; its secrets are never listed. -/
structure GatewayProvider where
  name : String
  providerType : String
  profileWorkspace : String
  credentialKeys : List String
  deriving DecidableEq

/-- What is sent for a provider. -/
structure ProviderPayload where
  name : String
  providerType : String
  credentials : StringMap
  config : StringMap

/-- Refresh material that is opened. -/
structure ProviderRefreshSpec where
  credentialKey : String
  strategy : String
  material : StringMap
  secretMaterialKeys : List String

/-- What the sync finds outside of the board, in a world `W` that each request changes. -/
class Outside (W : Type) where
  listProviders : W → Except String (List GatewayProvider) × W
  createProvider : ProviderPayload → W → Except String Unit × W
  updateProvider : ProviderPayload → W → Except String Unit × W
  deleteProvider : String → W → Except String Unit × W
  configureProviderRefresh : String → ProviderRefreshSpec → W → Except String Unit × W
  /-- Import the profile of a provider type, or update it. -/
  upsertProviderTypeYaml : String → String → W → Except String Unit × W
  github : W → GithubApi × W
  /-- The clock, in seconds. -/
  now : W → ℕ × W
  /-- The random bytes of a sealing. -/
  nonce : W → ℕ × W

/-- A request to the gateway; a listing comes with its answer. -/
inductive GatewayCall where
  | list (providers : List GatewayProvider)
  | create (p : ProviderPayload)
  | update (p : ProviderPayload)
  | delete (name : String)
  | refresh (name : String) (spec : ProviderRefreshSpec)
  | typeYaml (id yaml : String)

/-- The provider that a request creates or updates. -/
def GatewayCall.payload : GatewayCall → Option ProviderPayload
  | .create p => some p
  | .update p => some p
  | _ => none

/-- `TokenCache`. -/
structure TokenCache where
  expiresAt : Option ℕ
  lastError : Option String

/-- Ten minutes before its end a token is minted again. -/
def refreshSkew : ℕ := 600

def TokenCache.needsMint (cache : TokenCache) (now : ℕ) : Bool :=
  match cache.expiresAt with
  | none => true
  | some exp => decide (exp ≤ now + refreshSkew)

/-- A provider type of the board. -/
structure ProviderTypeDesired where
  id : String
  yaml : String

/-- A request that was sent, with the board at that time. -/
structure Sent where
  call : GatewayCall
  ok : Bool
  settings : BoardSettings
  cache : TokenCache
  /-- The clock as it was read last. -/
  clock : ℕ

/-- The board while providers are synchronized. -/
structure SyncState (W : Type) where
  settings : BoardSettings
  /-- The values of the type map, in the order of their keys. -/
  providerTypes : List ProviderTypeDesired
  cache : TokenCache
  clock : ℕ
  world : W
  sent : List Sent

/-- Why a sync fails. -/
inductive SyncError where
  /-- The board has no row of this name. -/
  | notDesired (name : String)
  | failed (message : String)

/-! ## What the gateway may see -/

/-- Configuration that stays on the board. -/
def boardOnlyConfigKeys : List String := [configAppId, configInstallationId]

/-- Credentials that stay on the board. -/
def boardOnlyCredentialKeys : List String :=
  [credPrivateKey, credWebhookSecret, credClientId, credClientSecret]

/-- `provider_credentials`. -/
def providerCredentials (token : String) : StringMap :=
  (∅ : StringMap).insert credentialKey token

/-- `gateway_config`. -/
def gatewayConfig (config : StringMap) : StringMap :=
  config.filter fun k _ => !boardOnlyConfigKeys.contains k

/-- `gateway_credentials`. -/
def gatewayCredentials (creds : StringMap) : StringMap :=
  creds.filter fun k v => !boardOnlyCredentialKeys.contains k && !isBlank v

/-- The row is handled as that of the App. -/
def OpenShellProviderDesired.isApp (p : OpenShellProviderDesired) : Bool :=
  p.name == githubProviderName || p.providerType == githubProviderType

section Sync

variable [vault : Vault]

/-- `credentials_for_apply`. -/
def credentialsForApply (p : OpenShellProviderDesired) : Except String StringMap :=
  match p.credentialsSealed.filter fun t => !t.isEmpty with
  | none => .ok ∅
  | some t => (vault.openStringMap t).mapError fun e => s!"open credentials: {e}"

/-- `refresh_for_apply`. -/
def refreshForApply (p : OpenShellProviderDesired) : Except String (Option ProviderRefreshSpec) :=
  match p.refresh with
  | none => .ok none
  | some r =>
    match vault.openStringMap r.materialSealed with
    | .error e => .error s!"open refresh material: {e}"
    | .ok material => .ok (some ⟨r.credentialKey, r.strategy, material, r.secretMaterialKeys⟩)

/-- The App and its installation are there, so a token can be minted. -/
def BoardSettings.mintable (s : BoardSettings) : Bool :=
  s.githubAppBundle.any (fun b => !isBlank b.appId && !isBlank b.privateKeyPem) &&
    s.githubAppInstallation.isSome

/-! ## The sync -/

variable {W : Type} [outside : Outside W]

/-- A method that synchronizes providers. -/
abbrev Sync (W α : Type) : Type := Locked (SyncState W) SyncError α

namespace ProviderSync

/-- Read the board. -/
def board : Sync W (SyncState W) := Locked.atomic fun s => (.ok s, s)

/-- Draw from the world. -/
def draw {α : Type} (f : W → α × W) : Sync W α :=
  Locked.atomic fun s => (.ok (f s.world).1, { s with world := (f s.world).2 })

def readClock : Sync W ℕ :=
  Locked.atomic fun s =>
    (.ok (outside.now s.world).1,
      { s with world := (outside.now s.world).2, clock := (outside.now s.world).1 })

/-- Send a request; `record` is what is noted of its answer, and `what` starts its error. -/
def send {α : Type} (what : String) (f : W → Except String α × W)
    (record : Option α → GatewayCall) : Sync W α :=
  Locked.atomic fun s =>
    ((f s.world).1.mapError fun e => .failed s!"{what}{e}",
      { s with
        world := (f s.world).2
        sent := s.sent ++ [⟨record (f s.world).1.toOption, (f s.world).1.toBool, s.settings,
          s.cache, s.clock⟩] })

/-- What a computation without effects returns. -/
def lift {α : Type} (r : Except String α) : Sync W α := Locked.ret (r.mapError .failed)

def listProviders (what : String) : Sync W (List GatewayProvider) :=
  send what outside.listProviders fun providers => .list (providers.getD [])

def createProvider (what : String) (p : ProviderPayload) : Sync W Unit :=
  send what (outside.createProvider p) fun _ => .create p

def updateProvider (what : String) (p : ProviderPayload) : Sync W Unit :=
  send what (outside.updateProvider p) fun _ => .update p

/-- Write the row of the App. -/
def ensureDesiredRow (freshToken : Option String) : Sync W Unit := do
  let nonce ← draw outside.nonce
  Locked.atomic fun s =>
    (((s.settings.ensureDesiredRow freshToken nonce).1).mapError .failed,
      { s with settings := (s.settings.ensureDesiredRow freshToken nonce).2 })

def setTokenCache (cache : TokenCache) : Sync W Unit :=
  Locked.atomic fun s => (.ok (), { s with cache := cache })

/-- `gateway_github_provider_needs_push`. -/
def gatewayNeedsPush : Sync W Bool := do
  let list ← listProviders "github api: openshell list providers: "
  match list.find? fun p => p.name == githubProviderName with
  | none => return true
  | some p =>
    return !p.credentialKeys.contains credentialKey || p.credentialKeys.contains "GITHUB_TOKEN"

/-- `push_github_provider_on_gateway`. -/
def pushGithubProvider (token : String) : Sync W Unit := do
  let s ← board
  match s.settings.provider githubProviderName with
  | none => Locked.fail (.failed "github app: github-app provider missing after upsert")
  | some desired =>
    let list ← listProviders "github api: openshell list providers: "
    let config := gatewayConfig desired.config
    if list.any fun p => p.name == githubProviderName then
      updateProvider "github api: openshell update github-app provider: " ⟨githubProviderName,
        githubProviderType, (providerCredentials token).insert "GITHUB_TOKEN" "", config⟩
    else
      createProvider "github api: openshell create github-app provider: " ⟨githubProviderName,
        githubProviderType, providerCredentials token, config⟩

/-- `mint_installation_token`: the token and its end. -/
def mintInstallationToken (api : GithubApi) (bundle : GitHubAppBundle) (installationId now : ℕ) :
    Except AppError (String × ℕ) := do
  let jwt ← makeAppJwt api bundle now
  let body ← readResponse "installation token" (api.accessTokens jwt installationId)
  match body.expiresAt with
  | .error e => throw (.api s!"expires_at: {e}")
  | .ok expiresAt =>
    if isBlank body.token then throw (.api "empty installation token")
    return (body.token, expiresAt)

/-- A fresh cache: nothing is pushed when the gateway has the token, and the sealed token is pushed
when it has not.  Without a sealed token, one is minted after all. -/
def confirmOrRepair : Sync W Bool := do
  if !(← gatewayNeedsPush) then return true
  let s ← board
  match ← lift s.settings.sealedGithubToken with
  | none => return false
  | some token =>
    ensureDesiredRow (some token)
    pushGithubProvider token
    return true

/-- The gateway has a token that is not near its end. -/
def confirmFresh (cache : TokenCache) (now : ℕ) : Sync W Bool :=
  if cache.needsMint now then pure false else confirmOrRepair

/-- Mint a token, seal it and push it. -/
def mintAndPush (bundle : GitHubAppBundle) (installationId : ℕ) (cache : TokenCache) :
    Sync W Unit := do
  let now ← readClock
  let api ← draw outside.github
  match mintInstallationToken api bundle installationId now with
  | .error e =>
    setTokenCache { cache with lastError := some e.text }
    Locked.fail (.failed e.text)
  | .ok (token, expiresAt) =>
    ensureDesiredRow (some token)
    pushGithubProvider token
    setTokenCache ⟨some expiresAt, none⟩

/-- `ensure_github_provider`: false when the App is not complete. -/
def ensureGithubProvider : Sync W Bool := do
  let s ← board
  match s.settings.githubAppBundle with
  | none => return false
  | some bundle =>
    if !isBlank bundle.appId && isBlank bundle.privateKeyPem then
      Locked.fail (.failed "github app: GitHub App private key missing")
    else if isBlank bundle.appId || isBlank bundle.privateKeyPem then return false
    else match s.settings.githubAppInstallation with
      | none => return false
      | some installationId =>
        let now ← readClock
        ensureDesiredRow none
        let done ← confirmFresh s.cache now
        if done then return true
        mintAndPush bundle installationId s.cache
        return true

/-- Create the provider or update it; one of another type is created again. -/
def upsertProvider (existing : List GatewayProvider) (p : ProviderPayload) : Sync W Unit :=
  match existing.find? fun g => g.name == p.name with
  | some current =>
    if toAsciiLowercase current.providerType ≠ toAsciiLowercase p.providerType ||
        current.profileWorkspace != "default" then do
      send "" (outside.deleteProvider p.name) fun _ => .delete p.name
      createProvider "" p
    else updateProvider "" p
  | none => createProvider "" p

/-- `apply_provider`; a listing that fails counts as an empty one. -/
def applyProvider (p : ProviderPayload) (refresh : Option ProviderRefreshSpec) : Sync W Unit := do
  let existing ← (listProviders "").attempt
  upsertProvider (existing.toOption.getD []) p
  match refresh with
  | none => return ()
  | some r =>
    send "" (outside.configureProviderRefresh p.name r) fun _ => .refresh p.name r

/-- The token of the App is on the gateway; other rows have none. -/
def syncToken (p : OpenShellProviderDesired) : Sync W Bool :=
  if p.isApp then ensureGithubProvider else pure false

/-- `apply_desired_to_gateway`. -/
def applyDesiredToGateway (p : OpenShellProviderDesired) : Sync W Unit := do
  let done ← syncToken p
  if done then return ()
  let credentials ← lift (credentialsForApply p)
  let refresh ← lift (refreshForApply p)
  applyProvider
    { name := p.name
      providerType := p.providerType
      credentials := if p.isApp then gatewayCredentials credentials else credentials
      config := if p.isApp then gatewayConfig p.config else p.config } refresh

/-- The row of a name, among the rows as they were read. -/
def desiredRow (desired : List OpenShellProviderDesired) (name : String) :
    Sync W OpenShellProviderDesired :=
  match desired.find? fun p => p.name == name with
  | none => Locked.fail (.notDesired name)
  | some p => pure p

/-- `import_attached_provider_types_to_gateway`. -/
def importAttachedProviderTypes (names : List String) : Sync W Unit := do
  let s ← board
  let rows ← names.mapM (desiredRow s.settings.openshellProviders)
  let typeIds := ((rows.map (·.providerType)).mergeSort fun a b => decide (a ≤ b)).eraseDups
  typeIds.forM fun id =>
    match s.providerTypes.find? fun entry => entry.id == id with
    | none => pure ()
    | some entry =>
      send s!"reconcile provider type {entry.id}: "
        (outside.upsertProviderTypeYaml entry.id entry.yaml) fun _ => .typeYaml entry.id entry.yaml

/-- `reconcile_attached_providers`. -/
def reconcileAttachedProviders (names : List String) : Sync W Unit := do
  if names.isEmpty then return ()
  importAttachedProviderTypes names
  let s ← board
  names.forM fun name => do
    let p ← desiredRow s.settings.openshellProviders name
    applyDesiredToGateway p

end ProviderSync

end Sync

/-! ## What a sync does -/

/-- Nothing that stays on the board is sent. -/
def ProviderPayload.Clean (p : ProviderPayload) : Prop :=
  (∀ k ∈ boardOnlyCredentialKeys, p.credentials[k]? = none) ∧
    ∀ k ∈ boardOnlyConfigKeys, p.config[k]? = none

def ProviderPayload.isApp (p : ProviderPayload) : Bool :=
  p.name == githubProviderName || p.providerType == githubProviderType

/-- A provider that is handled as that of the App is sent clean. -/
def Sent.Discreet (c : Sent) : Prop :=
  ∀ p, c.call.payload = some p → p.isApp = true → p.Clean

/-- The gateway accepted the provider, as it is created or updated. -/
def Sent.Applies (c : Sent) (p : ProviderPayload) : Prop := c.ok = true ∧ c.call.payload = some p

section Covered

variable [vault : Vault]

/-- The row seals credentials with this token. -/
def OpenShellProviderDesired.Seals (row : OpenShellProviderDesired) (token : String) : Prop :=
  ∃ nonce map blob, sealStringMap nonce map = .ok blob ∧ row.credentialsSealed = some blob ∧
    map[credentialKey]? = some token

/-- The row was applied as it is. -/
def AppliedPlain (row : OpenShellProviderDesired) (c : Sent) : Prop :=
  c.settings.provider row.name = some row ∧
    ∃ credentials, credentialsForApply row = .ok credentials ∧
      c.Applies ⟨row.name, row.providerType, credentials, row.config⟩

/-- The App was not complete, and the row was applied without what stays on the board. -/
def AppliedFiltered (row : OpenShellProviderDesired) (c : Sent) : Prop :=
  c.settings.mintable = false ∧ ∃ credentials, credentialsForApply row = .ok credentials ∧
    c.Applies ⟨row.name, row.providerType, gatewayCredentials credentials,
      gatewayConfig row.config⟩

/-- The token was not near its end, and the gateway listed the provider of the App with it. -/
def ConfirmedFresh (c : Sent) : Prop :=
  c.ok = true ∧ c.cache.needsMint c.clock = false ∧ ∃ providers g, c.call = .list providers ∧
    providers.find? (fun p => p.name == githubProviderName) = some g ∧
      credentialKey ∈ g.credentialKeys ∧ "GITHUB_TOKEN" ∉ g.credentialKeys

/-- The provider of the App was sent with the token that its row seals. -/
def PushedToken (c : Sent) : Prop :=
  ∃ row token credentials, c.settings.provider githubProviderName = some row ∧
    row.providerType = githubProviderType ∧ row.Seals token ∧
      (credentials = providerCredentials token ∨
        credentials = (providerCredentials token).insert "GITHUB_TOKEN" "") ∧
          c.Applies ⟨githubProviderName, githubProviderType, credentials, gatewayConfig row.config⟩

/-- What was sent brings the provider of a name to the gateway. -/
def Covered (settings : BoardSettings) (sent : List Sent) (name : String) : Prop :=
  ∃ row, settings.provider name = some row ∧
    (row.isApp = false → ∃ c ∈ sent, AppliedPlain row c) ∧
      (row.isApp = true → settings.mintable = false → ∃ c ∈ sent, AppliedFiltered row c) ∧
        (name = githubProviderName →
          ∃ c ∈ sent, AppliedFiltered row c ∨ ConfirmedFresh c ∨ PushedToken c)

end Covered

/-! ## What every section does -/

/-- Requests are added that are discreet, and only the row of the App is written. -/
structure Advances {W : Type} (s s' : SyncState W) : Prop where
  sent : ∃ new, s'.sent = s.sent ++ new ∧ ∀ c ∈ new, c.Discreet
  others : ∀ name, name ≠ githubProviderName → s'.settings.provider name = s.settings.provider name

namespace Advances

variable {W : Type} {s s' s'' : SyncState W}

lemma refl (s : SyncState W) : Advances s s :=
  ⟨⟨[], (List.append_nil _).symm, fun _ hc => absurd hc List.not_mem_nil⟩, fun _ _ => rfl⟩

lemma trans (h : Advances s s') (h' : Advances s' s'') : Advances s s'' := by
  obtain ⟨new, hnew, hclean⟩ := h.sent
  obtain ⟨new', hnew', hclean'⟩ := h'.sent
  refine ⟨⟨new ++ new', by rw [hnew', hnew, List.append_assoc], fun c hc => ?_⟩, fun name hne =>
    (h'.others name hne).trans (h.others name hne)⟩
  rcases List.mem_append.1 hc with hc | hc
  · exact hclean c hc
  · exact hclean' c hc

/-- Neither requests nor rows change. -/
lemma of_eq (hsent : s'.sent = s.sent) (hsettings : s'.settings = s.settings) : Advances s s' :=
  ⟨⟨[], by rw [hsent, List.append_nil], fun _ hc => absurd hc List.not_mem_nil⟩,
    fun _ _ => by rw [hsettings]⟩

lemma of_run {α : Type} {m : Locked (SyncState W) SyncError α} {r : Except SyncError α}
    (hm : m.Sections Advances) (h : m.run s = (r, s')) : Advances s s' := by
  have hrun := hm.run s
  rw [h] at hrun
  change Relation.ReflTransGen Advances s s' at hrun
  clear h
  induction hrun with
  | refl => exact refl s
  | tail _ hstep ih => exact ih.trans hstep

lemma mem (h : Advances s s') {c : Sent} (hc : c ∈ s.sent) : c ∈ s'.sent := by
  obtain ⟨new, hnew, -⟩ := h.sent
  rw [hnew]
  exact List.mem_append_left new hc

end Advances

lemma clean_of_filters {p : ProviderPayload} {config : StringMap}
    (hcreds : ∀ k ∈ boardOnlyCredentialKeys, p.credentials[k]? = none)
    (hconfig : p.config = gatewayConfig config) : p.Clean := by
  refine ⟨hcreds, fun k hk => ?_⟩
  have hkey : boardOnlyConfigKeys.contains k = true := List.contains_iff_mem.2 hk
  rw [hconfig, gatewayConfig, ExtTreeMap.getElem?_filter', Option.filter_eq_none_iff]
  intro v _
  rw [hkey]
  exact Bool.false_ne_true

lemma gatewayCredentials_clean (creds : StringMap) :
    ∀ k ∈ boardOnlyCredentialKeys, (gatewayCredentials creds)[k]? = none := by
  intro k hk
  have hkey : boardOnlyCredentialKeys.contains k = true := List.contains_iff_mem.2 hk
  rw [gatewayCredentials, ExtTreeMap.getElem?_filter', Option.filter_eq_none_iff]
  intro v _
  rw [hkey]
  exact Bool.false_ne_true

lemma providerCredentials_clean (token : String) :
    (∀ k ∈ boardOnlyCredentialKeys, (providerCredentials token)[k]? = none) ∧
      ∀ k ∈ boardOnlyCredentialKeys,
        ((providerCredentials token).insert "GITHUB_TOKEN" "")[k]? = none := by
  have hkey : ∀ k ∈ boardOnlyCredentialKeys, credentialKey ≠ k ∧ "GITHUB_TOKEN" ≠ k := by
    decide
  have hfirst : ∀ k ∈ boardOnlyCredentialKeys, (providerCredentials token)[k]? = none := by
    intro k hk
    rw [providerCredentials, ExtTreeMap.getElem?_insert, if_neg, ExtTreeMap.getElem?_empty]
    rw [Std.compare_eq_iff_eq]
    exact (hkey k hk).1
  refine ⟨hfirst, fun k hk => ?_⟩
  rw [ExtTreeMap.getElem?_insert, if_neg]
  · exact hfirst k hk
  · rw [Std.compare_eq_iff_eq]
    exact (hkey k hk).2

/-! ## The row of the App -/

section Rows

variable [vault : Vault]

/-- Only the row of the App is written. -/
lemma provider_ensureDesiredRow (s : BoardSettings) (freshToken : Option String) (nonce : ℕ)
    {name : String} (hname : name ≠ githubProviderName) :
    (s.ensureDesiredRow freshToken nonce).2.provider name = s.provider name := by
  have htrim : trim (trim githubProviderName) = githubProviderName := by decide +kernel
  unfold BoardSettings.ensureDesiredRow
  dsimp only
  split
  · rfl
  · split
    · rfl
    · rw [BoardSettings.provider_upsert, if_neg]
      simp only [OpenShellProviderDesired.normalized, htrim]
      exact hname.symm

/-- A fresh token is sealed on the row of the App. -/
lemma provider_ensureDesiredRow_token {s : BoardSettings} {token : String} {nonce : ℕ}
    (h : (s.ensureDesiredRow (some token) nonce).1 = .ok ()) :
    ∃ row, (s.ensureDesiredRow (some token) nonce).2.provider githubProviderName = some row ∧
      row.providerType = githubProviderType ∧ row.Seals token := by
  have hname : trim (trim githubProviderName) = githubProviderName := by decide +kernel
  have htype : trim (trim githubProviderType) = githubProviderType := by decide +kernel
  unfold BoardSettings.ensureDesiredRow at h ⊢
  dsimp only at h ⊢
  split at h
  · cases h
  · rename_i stored hstored
    have hkept : (((stored.getD ∅).insert credentialKey token).erase "GITHUB_TOKEN")[
        credentialKey]? = some token := by
      rw [ExtTreeMap.getElem?_erase, if_neg (by decide), ExtTreeMap.getElem?_insert_self]
    generalize (((stored.getD ∅).insert credentialKey token).erase "GITHUB_TOKEN") = map
      at h hkept ⊢
    have hfull : map.isEmpty = false := by
      rw [← Bool.not_eq_true, ExtTreeMap.isEmpty_iff]
      rintro rfl
      rw [ExtTreeMap.getElem?_empty] at hkept
      cases hkept
    rw [hfull, if_neg Bool.false_ne_true] at h ⊢
    cases hseal : sealStringMap nonce map with
    | error e =>
      rw [hseal] at h
      cases h
    | ok blob =>
      dsimp only [Except.map]
      rw [BoardSettings.provider_upsert]
      exact ⟨_, if_pos hname, htype, nonce, map, blob, hseal, rfl, hkept⟩

end Rows

/-! ## What each method does -/

section Methods

variable {W : Type} {s s' : SyncState W}

namespace ProviderSync

lemma advances_board : (board : Sync W (SyncState W)).Sections Advances :=
  Locked.Sections.atomic Advances.refl

lemma advances_draw {α : Type} (f : W → α × W) : (draw f).Sections Advances :=
  Locked.Sections.atomic fun _ => Advances.of_eq rfl rfl

lemma sections_lift {α : Type} {R : SyncState W → SyncState W → Prop} (r : Except String α) :
    (lift r : Sync W α).Sections R := by
  cases r <;> trivial

lemma advances_setTokenCache (cache : TokenCache) :
    (setTokenCache cache : Sync W Unit).Sections Advances :=
  Locked.Sections.atomic fun _ => Advances.of_eq rfl rfl

/-- A request is discreet when the provider in it is. -/
lemma advances_send {α : Type} {what : String} {f : W → Except String α × W}
    {record : Option α → GatewayCall}
    (h : ∀ a p, (record a).payload = some p → p.isApp = true → p.Clean) :
    (send what f record).Sections Advances :=
  Locked.Sections.atomic fun s => ⟨⟨_, rfl, fun c hc p hp => by
    rw [List.mem_singleton.1 hc] at hp
    exact h _ p hp⟩, fun _ _ => rfl⟩

variable [outside : Outside W]

lemma advances_readClock : (readClock : Sync W ℕ).Sections Advances :=
  Locked.Sections.atomic fun _ => Advances.of_eq rfl rfl

lemma advances_listProviders (what : String) :
    (listProviders what : Sync W (List GatewayProvider)).Sections Advances := by
  refine advances_send fun a p hp => ?_
  cases hp

lemma advances_createProvider {what : String} {p : ProviderPayload}
    (hp : p.isApp = true → p.Clean) : (createProvider what p : Sync W Unit).Sections Advances := by
  refine advances_send fun a q hq => ?_
  cases hq
  exact hp

lemma advances_updateProvider {what : String} {p : ProviderPayload}
    (hp : p.isApp = true → p.Clean) : (updateProvider what p : Sync W Unit).Sections Advances := by
  refine advances_send fun a q hq => ?_
  cases hq
  exact hp

lemma advances_gatewayNeedsPush : (gatewayNeedsPush : Sync W Bool).Sections Advances := by
  refine .bind (advances_listProviders _) fun list => ?_
  split <;> trivial

lemma advances_pushGithubProvider (token : String) :
    (pushGithubProvider token : Sync W Unit).Sections Advances := by
  have hclean := providerCredentials_clean token
  refine .bind advances_board fun s => ?_
  split
  · trivial
  · refine .bind (advances_listProviders _) fun list => ?_
    dsimp only
    split
    · exact advances_updateProvider fun _ => clean_of_filters hclean.2 rfl
    · exact advances_createProvider fun _ => clean_of_filters hclean.1 rfl

variable [vault : Vault]

lemma advances_ensureDesiredRow (freshToken : Option String) :
    (ensureDesiredRow freshToken : Sync W Unit).Sections Advances := by
  refine .bind (advances_draw _) fun nonce => ?_
  refine .atomic fun s => ?_
  refine ⟨⟨[], (List.append_nil _).symm, fun _ hc => absurd hc List.not_mem_nil⟩,
    fun name hname => ?_⟩
  exact provider_ensureDesiredRow s.settings freshToken nonce hname

lemma advances_confirmOrRepair : (confirmOrRepair : Sync W Bool).Sections Advances := by
  refine .bind advances_gatewayNeedsPush fun needs => ?_
  split
  · trivial
  · refine .bind advances_board fun s => ?_
    refine .bind (sections_lift _) fun token => ?_
    split
    · trivial
    · refine .bind (advances_ensureDesiredRow _) fun _ => ?_
      refine .bind (advances_pushGithubProvider _) fun _ => ?_
      trivial

lemma advances_confirmFresh (cache : TokenCache) (now : ℕ) :
    (confirmFresh cache now : Sync W Bool).Sections Advances := by
  unfold confirmFresh
  split
  · trivial
  · exact advances_confirmOrRepair

lemma advances_mintAndPush (bundle : GitHubAppBundle) (installationId : ℕ) (cache : TokenCache) :
    (mintAndPush bundle installationId cache : Sync W Unit).Sections Advances := by
  refine .bind advances_readClock fun now => ?_
  refine .bind (advances_draw _) fun api => ?_
  split
  · exact .bind (advances_setTokenCache _) fun _ => trivial
  · refine .bind (advances_ensureDesiredRow _) fun _ => ?_
    exact .bind (advances_pushGithubProvider _) fun _ => advances_setTokenCache _

lemma advances_ensureGithubProvider : (ensureGithubProvider : Sync W Bool).Sections Advances := by
  refine .bind advances_board fun s => ?_
  split
  · trivial
  · split
    · trivial
    · split
      · trivial
      · split
        · trivial
        · refine .bind advances_readClock fun now => ?_
          refine .bind (advances_ensureDesiredRow _) fun _ => ?_
          refine .bind (advances_confirmFresh _ _) fun done => ?_
          split
          · trivial
          · exact .bind (advances_mintAndPush _ _ _) fun _ => trivial

omit vault outside in
/-- A request about no provider is discreet. -/
lemma advances_send_none {α : Type} {what : String} {f : W → Except String α × W}
    {c : GatewayCall} (hc : c.payload = none) :
    (send what f fun _ => c).Sections Advances := by
  refine advances_send fun a q hq => ?_
  cases hc.symm.trans hq

omit vault in
lemma advances_upsertProvider (existing : List GatewayProvider) {p : ProviderPayload}
    (hp : p.isApp = true → p.Clean) :
    (upsertProvider existing p : Sync W Unit).Sections Advances := by
  unfold upsertProvider
  split
  · split
    · exact .bind (advances_send_none rfl) fun _ => advances_createProvider hp
    · exact advances_updateProvider hp
  · exact advances_createProvider hp

omit vault in
lemma advances_applyProvider {p : ProviderPayload} (hp : p.isApp = true → p.Clean)
    (refresh : Option ProviderRefreshSpec) :
    (applyProvider p refresh : Sync W Unit).Sections Advances := by
  refine .bind (advances_listProviders _).attempt fun existing => ?_
  refine .bind (advances_upsertProvider _ hp) fun _ => ?_
  split
  · trivial
  · exact advances_send_none rfl

lemma advances_syncToken (p : OpenShellProviderDesired) :
    (syncToken p : Sync W Bool).Sections Advances := by
  unfold syncToken
  split
  · exact advances_ensureGithubProvider
  · trivial

/-- What is sent for a row of the App is filtered. -/
lemma advances_applyDesiredToGateway (p : OpenShellProviderDesired) :
    (applyDesiredToGateway p : Sync W Unit).Sections Advances := by
  refine .bind (advances_syncToken p) fun done => ?_
  split
  · trivial
  · refine .bind (sections_lift _) fun credentials => ?_
    refine .bind (sections_lift _) fun refresh => ?_
    refine advances_applyProvider (fun hp => ?_) refresh
    have happ : p.isApp = true := hp
    refine clean_of_filters ?_ (if_pos happ)
    dsimp only
    rw [if_pos happ]
    exact gatewayCredentials_clean credentials

omit vault outside in
lemma advances_desiredRow (desired : List OpenShellProviderDesired) (name : String) :
    (desiredRow desired name : Sync W OpenShellProviderDesired).Sections Advances := by
  unfold desiredRow
  split <;> trivial

omit vault in
lemma advances_importAttachedProviderTypes (names : List String) :
    (importAttachedProviderTypes names : Sync W Unit).Sections Advances := by
  refine .bind advances_board fun s => ?_
  refine .bind (.mapM fun name => advances_desiredRow _ name) fun rows => ?_
  refine .forM fun id => ?_
  split
  · trivial
  · exact advances_send_none rfl

lemma advances_rows (settings : BoardSettings) (names : List String) :
    (names.forM fun name => do
      let p ← desiredRow settings.openshellProviders name
      applyDesiredToGateway p : Sync W Unit).Sections Advances :=
  .forM fun _ => .bind (advances_desiredRow _ _) fun p => advances_applyDesiredToGateway p

lemma advances_reconcile (names : List String) :
    (reconcileAttachedProviders names : Sync W Unit).Sections Advances := by
  unfold reconcileAttachedProviders
  split
  · trivial
  · refine .bind (advances_importAttachedProviderTypes names) fun _ => ?_
    exact .bind advances_board fun s => advances_rows s.settings names

/-! ## What a method did that is over -/

omit vault outside in
lemma run_send_ok {α : Type} {what : String} {f : W → Except String α × W}
    {record : Option α → GatewayCall} {a : α} (h : (send what f record).run s = (.ok a, s')) :
    (f s.world).1 = .ok a ∧ s'.settings = s.settings ∧
      s'.sent = s.sent ++ [⟨record (some a), true, s.settings, s.cache, s.clock⟩] := by
  rw [send, Locked.run_atomic] at h
  cases hf : (f s.world).1 with
  | error e =>
    rw [hf] at h
    cases h
  | ok b =>
    rw [hf] at h
    cases h
    exact ⟨rfl, rfl, rfl⟩

omit vault in
lemma createProvider_ok {what : String} {p : ProviderPayload}
    (h : (createProvider what p).run s = (.ok (), s')) :
    s'.settings = s.settings ∧ ∃ c ∈ s'.sent, c.settings = s.settings ∧ c.Applies p := by
  obtain ⟨-, hsettings, hsent⟩ := run_send_ok h
  refine ⟨hsettings, _, hsent ▸ List.mem_append_right _ List.mem_cons_self, rfl, rfl, rfl⟩

omit vault in
lemma updateProvider_ok {what : String} {p : ProviderPayload}
    (h : (updateProvider what p).run s = (.ok (), s')) :
    s'.settings = s.settings ∧ ∃ c ∈ s'.sent, c.settings = s.settings ∧ c.Applies p := by
  obtain ⟨-, hsettings, hsent⟩ := run_send_ok h
  refine ⟨hsettings, _, hsent ▸ List.mem_append_right _ List.mem_cons_self, rfl, rfl, rfl⟩

omit vault in
lemma upsertProvider_ok {existing : List GatewayProvider} {p : ProviderPayload}
    (h : (upsertProvider existing p).run s = (.ok (), s')) :
    ∃ c ∈ s'.sent, c.settings = s.settings ∧ c.Applies p := by
  unfold upsertProvider at h
  split at h
  · split at h
    · obtain ⟨_, s₁, hdelete, hcreate⟩ := Locked.run_bind_eq_ok.1 h
      obtain ⟨-, hsettings, -⟩ := run_send_ok hdelete
      rw [← hsettings]
      exact (createProvider_ok hcreate).2
    · exact (updateProvider_ok h).2
  · exact (createProvider_ok h).2

omit vault in
/-- The provider is accepted before its refresh material is sent. -/
lemma applyProvider_ok {p : ProviderPayload} {refresh : Option ProviderRefreshSpec}
    (h : (applyProvider p refresh).run s = (.ok (), s')) :
    ∃ c ∈ s'.sent, c.settings = s.settings ∧ c.Applies p := by
  obtain ⟨existing, s₁, hlist, h⟩ := Locked.run_bind_eq_ok.1 h
  obtain ⟨_, s₂, hupsert, h⟩ := Locked.run_bind_eq_ok.1 h
  have hsettings : s₁.settings = s.settings := by
    rw [Locked.run_attempt] at hlist
    obtain ⟨-, rfl⟩ := Prod.mk.injEq .. ▸ hlist
    rfl
  obtain ⟨c, hc, hboard, happlies⟩ := upsertProvider_ok hupsert
  refine ⟨c, ?_, hboard.trans hsettings, happlies⟩
  cases refresh with
  | none =>
    cases h
    exact hc
  | some r =>
    obtain ⟨-, -, hsent⟩ := run_send_ok h
    rw [hsent]
    exact List.mem_append_left _ hc

lemma run_ensureDesiredRow_ok {freshToken : Option String}
    (h : (ensureDesiredRow freshToken).run s = (.ok (), s')) :
    ∃ nonce, (s.settings.ensureDesiredRow freshToken nonce).1 = .ok () ∧
      s'.settings = (s.settings.ensureDesiredRow freshToken nonce).2 ∧ s'.cache = s.cache ∧
        s'.clock = s.clock := by
  obtain ⟨nonce, s₁, hdraw, h⟩ := Locked.run_bind_eq_ok.1 h
  rw [draw, Locked.run_atomic] at hdraw
  cases hdraw
  rw [Locked.run_atomic] at h
  refine ⟨(outside.nonce s.world).1, ?_⟩
  dsimp only at h
  generalize s.settings.ensureDesiredRow freshToken (outside.nonce s.world).1 = r at h ⊢
  obtain ⟨_ | _, settings⟩ := r
  · cases h
  · cases h
    exact ⟨rfl, rfl, rfl, rfl⟩

/-- What is pushed is the token that the row seals. -/
lemma pushGithubProvider_ok {token : String} {row : OpenShellProviderDesired}
    (hrow : s.settings.provider githubProviderName = some row)
    (htype : row.providerType = githubProviderType) (hseals : row.Seals token)
    (h : (pushGithubProvider token).run s = (.ok (), s')) : ∃ c ∈ s'.sent, PushedToken c := by
  obtain ⟨s₁, _, hboard, h⟩ := Locked.run_bind_eq_ok.1 h
  rw [board, Locked.run_atomic] at hboard
  cases hboard
  rw [hrow] at h
  obtain ⟨list, s₂, hlist, h⟩ := Locked.run_bind_eq_ok.1 h
  obtain ⟨-, hsettings, -⟩ := run_send_ok hlist
  dsimp only at h
  split at h
  · obtain ⟨-, c, hc, hboard, happlies⟩ := updateProvider_ok h
    rw [hsettings] at hboard
    exact ⟨c, hc, row, token, _, by rw [hboard, hrow], htype, hseals, .inr rfl, happlies⟩
  · obtain ⟨-, c, hc, hboard, happlies⟩ := createProvider_ok h
    rw [hsettings] at hboard
    exact ⟨c, hc, row, token, _, by rw [hboard, hrow], htype, hseals, .inl rfl, happlies⟩

/-- A token is sealed on the row and pushed from there. -/
lemma seal_push_ok {token : String} {s₁ : SyncState W}
    (hseal : (ensureDesiredRow (some token)).run s = (.ok (), s₁))
    (hpush : (pushGithubProvider token).run s₁ = (.ok (), s')) : ∃ c ∈ s'.sent, PushedToken c := by
  obtain ⟨nonce, hok, hsettings, -⟩ := run_ensureDesiredRow_ok hseal
  obtain ⟨row, hrow, htype, hseals⟩ := provider_ensureDesiredRow_token hok
  rw [← hsettings] at hrow
  exact pushGithubProvider_ok hrow htype hseals hpush

omit vault in
lemma gatewayNeedsPush_ok {needs : Bool} (h : gatewayNeedsPush.run s = (.ok needs, s'))
    (hcache : s.cache.needsMint s.clock = false) :
    needs = false → ∃ c ∈ s'.sent, ConfirmedFresh c := by
  rintro rfl
  obtain ⟨list, s₁, hlist, h⟩ := Locked.run_bind_eq_ok.1 h
  obtain ⟨-, -, hsent⟩ := run_send_ok hlist
  split at h
  · cases h
  · rename_i g hg
    obtain ⟨hr, rfl⟩ := Prod.mk.injEq .. ▸ h
    obtain ⟨hkey, hold⟩ : credentialKey ∈ g.credentialKeys ∧ "GITHUB_TOKEN" ∉ g.credentialKeys := by
      simpa using hr
    exact ⟨_, hsent ▸ List.mem_append_right _ List.mem_cons_self, rfl, hcache, list, g, rfl, hg,
      hkey, hold⟩

/-- The token of the provider of the App is on the gateway. -/
def Fresh (s : SyncState W) : Prop := ∃ c ∈ s.sent, ConfirmedFresh c ∨ PushedToken c

lemma confirmOrRepair_ok (hcache : s.cache.needsMint s.clock = false)
    (h : confirmOrRepair.run s = (.ok true, s')) : Fresh s' := by
  obtain ⟨needs, s₁, hneeds, h⟩ := Locked.run_bind_eq_ok.1 h
  split at h
  · rename_i hno
    cases h
    obtain ⟨c, hc, hfresh⟩ := gatewayNeedsPush_ok hneeds hcache (by simpa using hno)
    exact ⟨c, hc, .inl hfresh⟩
  · obtain ⟨s₂, _, hboard, h⟩ := Locked.run_bind_eq_ok.1 h
    obtain ⟨token, s₃, hlift, h⟩ := Locked.run_bind_eq_ok.1 h
    split at h
    · cases h
    · obtain ⟨_, s₄, hseal, h⟩ := Locked.run_bind_eq_ok.1 h
      obtain ⟨_, s₅, hpush, h⟩ := Locked.run_bind_eq_ok.1 h
      cases h
      obtain ⟨c, hc, hpushed⟩ := seal_push_ok hseal hpush
      exact ⟨c, hc, .inr hpushed⟩

lemma mintAndPush_ok {bundle : GitHubAppBundle} {installationId : ℕ} {cache : TokenCache}
    (h : (mintAndPush bundle installationId cache).run s = (.ok (), s')) : Fresh s' := by
  obtain ⟨now, s₁, hclock, h⟩ := Locked.run_bind_eq_ok.1 h
  obtain ⟨api, s₂, hapi, h⟩ := Locked.run_bind_eq_ok.1 h
  split at h
  · obtain ⟨_, s₃, -, h⟩ := Locked.run_bind_eq_ok.1 h
    cases h
  · obtain ⟨_, s₃, hseal, h⟩ := Locked.run_bind_eq_ok.1 h
    obtain ⟨_, s₄, hpush, h⟩ := Locked.run_bind_eq_ok.1 h
    obtain ⟨c, hc, hpushed⟩ := seal_push_ok hseal hpush
    obtain ⟨-, rfl⟩ := Prod.mk.injEq .. ▸ h
    exact ⟨c, hc, .inr hpushed⟩

omit outside in
lemma mintable_iff {settings : BoardSettings} : settings.mintable = true ↔
    ∃ bundle installationId, settings.githubAppBundle = some bundle ∧
      isBlank bundle.appId = false ∧ isBlank bundle.privateKeyPem = false ∧
        settings.githubAppInstallation = some installationId := by
  unfold BoardSettings.mintable
  rw [Bool.and_eq_true, Option.any_eq_true, Option.isSome_iff_exists]
  constructor
  · rintro ⟨⟨bundle, hbundle, hfilled⟩, installationId, hinstallation⟩
    rw [Bool.and_eq_true, Bool.not_eq_true', Bool.not_eq_true'] at hfilled
    exact ⟨bundle, installationId, hbundle, hfilled.1, hfilled.2, hinstallation⟩
  · rintro ⟨bundle, installationId, hbundle, hid, hpem, hinstallation⟩
    exact ⟨⟨bundle, hbundle, by rw [hid, hpem]; rfl⟩, installationId, hinstallation⟩

/-- While the App is not complete nothing happens. -/
lemma run_ensureGithubProvider_incomplete (h : s.settings.mintable = false) :
    (ensureGithubProvider.run s).2 = s ∧ (ensureGithubProvider.run s).1 ≠ .ok true := by
  rw [ensureGithubProvider, Locked.run_bind, board, Locked.run_atomic, Locked.andThen_ok]
  split
  · exact ⟨rfl, nofun⟩
  · rename_i bundle hbundle
    split
    · exact ⟨rfl, nofun⟩
    · split
      · exact ⟨rfl, nofun⟩
      · rename_i hfilled
        rw [Bool.not_eq_true, Bool.or_eq_false_iff] at hfilled
        split
        · exact ⟨rfl, nofun⟩
        · rename_i installationId hinstallation
          have hcomplete := mintable_iff.2
            ⟨bundle, installationId, hbundle, hfilled.1, hfilled.2, hinstallation⟩
          cases h.symm.trans hcomplete

/-- While the App is complete its token comes to the gateway. -/
lemma ensureGithubProvider_ok {done : Bool} (hcomplete : s.settings.mintable = true)
    (h : ensureGithubProvider.run s = (.ok done, s')) : done = true ∧ Fresh s' := by
  obtain ⟨bundle, installationId, hbundle, hid, hpem, hinstallation⟩ := mintable_iff.1 hcomplete
  rw [ensureGithubProvider, Locked.run_bind, board, Locked.run_atomic, Locked.andThen_ok, hbundle]
    at h
  dsimp only at h
  rw [hid, hpem, hinstallation] at h
  obtain ⟨now, s₂, hclock, h⟩ := Locked.run_bind_eq_ok.1 h
  obtain ⟨_, s₃, hrow, h⟩ := Locked.run_bind_eq_ok.1 h
  obtain ⟨fresh, s₄, hfresh, h⟩ := Locked.run_bind_eq_ok.1 h
  split at h
  · rename_i hdone
    cases h
    refine ⟨rfl, ?_⟩
    rw [hdone, confirmFresh] at hfresh
    split at hfresh
    · cases hfresh
    · rename_i hneeds
      rw [readClock, Locked.run_atomic] at hclock
      cases hclock
      obtain ⟨nonce, -, -, hcache, hclock⟩ := run_ensureDesiredRow_ok hrow
      refine confirmOrRepair_ok ?_ hfresh
      rw [hcache, hclock]
      exact Bool.eq_false_of_not_eq_true hneeds
  · obtain ⟨_, s₅, hmint, h⟩ := Locked.run_bind_eq_ok.1 h
    cases h
    exact ⟨rfl, mintAndPush_ok hmint⟩

/-! ## The board while the App is not complete -/

omit vault in
lemma applyProvider_settings (p : ProviderPayload) (refresh : Option ProviderRefreshSpec) :
    (applyProvider p refresh : Sync W Unit).Sections fun s s' => s'.settings = s.settings := by
  refine .bind (.attempt (.atomic fun _ => rfl)) fun existing => ?_
  refine .bind ?_ fun _ => ?_
  · unfold upsertProvider
    split
    · split
      · exact .bind (.atomic fun _ => rfl) fun _ => .atomic fun _ => rfl
      · exact .atomic fun _ => rfl
    · exact .atomic fun _ => rfl
  · split
    · trivial
    · exact .atomic fun _ => rfl

omit vault in
lemma importAttachedProviderTypes_settings (names : List String) :
    (importAttachedProviderTypes names : Sync W Unit).Sections
      fun s s' => s'.settings = s.settings := by
  refine .bind (.atomic fun _ => rfl) fun s => ?_
  refine .bind (.mapM fun name => ?_) fun rows => .forM fun id => ?_
  · unfold desiredRow
    split <;> trivial
  · split
    · trivial
    · exact .atomic fun _ => rfl

/-- While the App is not complete, nothing is written to the board. -/
lemma applyDesiredToGateway_incomplete (settings : BoardSettings)
    (h : settings.mintable = false) (p : OpenShellProviderDesired) :
    (applyDesiredToGateway p : Sync W Unit).Keeps fun s => s.settings = settings := by
  refine .bind ?_ fun done => ?_
  · refine .of_run fun s hs => ?_
    unfold syncToken
    split
    · rw [(run_ensureGithubProvider_incomplete (hs ▸ h)).1]
      exact hs
    · exact hs
  · split
    · exact .pure ()
    · refine .of_sections ?_
      refine .bind (sections_lift _) fun credentials => .bind (sections_lift _) fun refresh => ?_
      exact (applyProvider_settings _ _).mono fun _ _ hkeeps hs => hkeeps.trans hs

/-! ## The rows that are attached -/

omit vault outside in
lemma lift_ok {α : Type} {r : Except String α} {a : α} (h : (lift r).run s = (.ok a, s')) :
    r = .ok a ∧ s' = s := by
  cases r with
  | error e => cases h
  | ok b =>
    cases h
    exact ⟨rfl, rfl⟩

omit vault outside in
lemma desiredRow_ok {desired : List OpenShellProviderDesired} {name : String}
    {row : OpenShellProviderDesired} (h : (desiredRow desired name).run s = (.ok row, s')) :
    desired.find? (fun p => p.name == name) = some row ∧ s' = s := by
  unfold desiredRow at h
  split at h
  · cases h
  · rename_i p hp
    cases h
    exact ⟨hp, rfl⟩

/-- A row that is not left to its token is applied with its credentials. -/
lemma applyDesiredToGateway_ok {p : OpenShellProviderDesired}
    (h : (applyDesiredToGateway p).run s = (.ok (), s')) :
    (p.isApp = true ∧ s.settings.mintable = true ∧ Fresh s') ∨
      ∃ c ∈ s'.sent, c.settings = s.settings ∧ (p.isApp = true → s.settings.mintable = false) ∧
        ∃ credentials, credentialsForApply p = .ok credentials ∧ c.Applies
          { name := p.name
            providerType := p.providerType
            credentials := if p.isApp then gatewayCredentials credentials else credentials
            config := if p.isApp then gatewayConfig p.config else p.config } := by
  obtain ⟨done, s₁, hsync, h⟩ := Locked.run_bind_eq_ok.1 h
  have hstep : (p.isApp = true ∧ s.settings.mintable = true ∧ done = true ∧ Fresh s₁) ∨
      (s₁ = s ∧ done = false ∧ (p.isApp = true → s.settings.mintable = false)) := by
    unfold syncToken at hsync
    split at hsync
    · rename_i happ
      by_cases hcomplete : s.settings.mintable = true
      · exact .inl ⟨happ, hcomplete, ensureGithubProvider_ok hcomplete hsync⟩
      · rw [Bool.not_eq_true] at hcomplete
        obtain ⟨hsame, hdone⟩ := run_ensureGithubProvider_incomplete hcomplete
        rw [hsync] at hsame hdone
        refine .inr ⟨hsame, ?_, fun _ => hcomplete⟩
        cases done with
        | false => rfl
        | true => cases hdone rfl
    · rename_i hplain
      cases hsync
      exact .inr ⟨rfl, rfl, fun happ => absurd happ hplain⟩
  rcases hstep with ⟨happ, hcomplete, rfl, hfresh⟩ | ⟨rfl, rfl, hincomplete⟩
  · cases h
    exact .inl ⟨happ, hcomplete, hfresh⟩
  · rw [if_neg Bool.false_ne_true] at h
    obtain ⟨credentials, s₂, hopen, hrest⟩ := Locked.run_bind_eq_ok.1 h
    obtain ⟨hcreds, rfl⟩ := lift_ok hopen
    obtain ⟨refresh, s₃, hrefresh, happly⟩ := Locked.run_bind_eq_ok.1 hrest
    obtain ⟨-, rfl⟩ := lift_ok hrefresh
    obtain ⟨c, hc, hboard, happlies⟩ := applyProvider_ok happly
    exact .inr ⟨c, hc, hboard, hincomplete, credentials, hcreds, happlies⟩

lemma covered_mono {settings : BoardSettings} {sent sent' : List Sent} {name : String}
    (hsub : ∀ c ∈ sent, c ∈ sent') (h : Covered settings sent name) :
    Covered settings sent' name := by
  obtain ⟨row, hrow, hplain, hfiltered, hfixed⟩ := h
  refine ⟨row, hrow, fun hp => ?_, fun hp hm => ?_, fun hn => ?_⟩
  · exact (hplain hp).imp fun c hc => ⟨hsub c hc.1, hc.2⟩
  · exact (hfiltered hp hm).imp fun c hc => ⟨hsub c hc.1, hc.2⟩
  · exact (hfixed hn).imp fun c hc => ⟨hsub c hc.1, hc.2⟩

/-- A name is covered once its row has been applied, wherever the other rows stand. -/
lemma applyDesiredToGateway_covered {settings : BoardSettings} {name : String}
    {p : OpenShellProviderDesired} (hp : settings.provider name = some p)
    (hothers : ∀ name, name ≠ githubProviderName →
      s.settings.provider name = settings.provider name)
    (hincomplete : settings.mintable = false → s.settings = settings)
    (h : (applyDesiredToGateway p).run s = (.ok (), s')) : Covered settings s'.sent name := by
  have hname : p.name = name := BoardSettings.provider_name hp
  have hfixed : name = githubProviderName → p.isApp = true := by
    rintro rfl
    rw [OpenShellProviderDesired.isApp, hname, beq_self_eq_true, Bool.true_or]
  rcases applyDesiredToGateway_ok h with ⟨happ, hcomplete, c, hc, hfresh⟩ |
    ⟨c, hc, hboard, hleft, credentials, hcreds, happlies⟩
  · refine ⟨p, hp, fun hplain => ?_, fun _ hm => ?_, fun _ => ⟨c, hc, .inr hfresh⟩⟩
    · cases hplain.symm.trans happ
    · rw [hincomplete hm, hm] at hcomplete
      cases hcomplete
  · have hfiltered : p.isApp = true → AppliedFiltered p c := by
      intro happ
      rw [if_pos happ, if_pos happ] at happlies
      exact ⟨hboard ▸ hleft happ, credentials, hcreds, happlies⟩
    refine ⟨p, hp, fun hplain => ⟨c, hc, ?_, credentials, hcreds, ?_⟩, fun happ _ =>
      ⟨c, hc, hfiltered happ⟩, fun hn => ⟨c, hc, .inl (hfiltered (hfixed hn))⟩⟩
    · have hne : p.name ≠ githubProviderName := by
        intro heq
        cases hplain.symm.trans (hfixed (hname.symm.trans heq))
      rw [hboard, hothers p.name hne, hname, hp]
    · have hno : ¬p.isApp = true := by rw [hplain]; exact Bool.false_ne_true
      rw [if_neg hno, if_neg hno] at happlies
      exact happlies

/-- By induction over the names that are attached. -/
lemma forM_covered {settings : BoardSettings} (names : List String)
    (hothers : ∀ name, name ≠ githubProviderName →
      s.settings.provider name = settings.provider name)
    (hincomplete : settings.mintable = false → s.settings = settings)
    (h : (names.forM fun name => do
      let p ← desiredRow settings.openshellProviders name
      applyDesiredToGateway p : Sync W Unit).run s = (.ok (), s')) :
    ∀ name ∈ names, Covered settings s'.sent name := by
  induction names generalizing s with
  | nil => exact fun name hname => absurd hname List.not_mem_nil
  | cons name names ih =>
    obtain ⟨_, s₁, hfirst, hrest⟩ := Locked.run_bind_eq_ok.1 h
    obtain ⟨p, s₂, hrow, happly⟩ := Locked.run_bind_eq_ok.1 hfirst
    obtain ⟨hp, rfl⟩ := desiredRow_ok hrow
    have hstep : Advances s₂ s₁ := .of_run (advances_applyDesiredToGateway p) happly
    have hboard : settings.mintable = false → s₁.settings = settings := by
      intro hm
      have := (applyDesiredToGateway_incomplete settings hm p).run (hincomplete hm)
      rwa [happly] at this
    have hlast := ih (fun name hne => (hstep.others name hne).trans (hothers name hne)) hboard hrest
    have hmore : Advances s₁ s' := .of_run (advances_rows settings names) hrest
    intro name' hname'
    rcases List.mem_cons.1 hname' with rfl | hname'
    · exact covered_mono (fun c hc => hmore.mem hc)
        (applyDesiredToGateway_covered hp hothers hincomplete happly)
    · exact hlast name' hname'

end ProviderSync

/-- The board before anything is sent. -/
def SyncState.start (settings : BoardSettings) (providerTypes : List ProviderTypeDesired)
    (cache : TokenCache) (world : W) : SyncState W :=
  ⟨settings, providerTypes, cache, 0, world, []⟩

variable [outside : Outside W] [vault : Vault]

/-- What a sync sends is discreet, and a sync that succeeds has covered each name. -/
theorem reconcile_covers (settings : BoardSettings) (providerTypes : List ProviderTypeDesired)
    (cache : TokenCache) (world : W) (names : List String) :
    let r := (ProviderSync.reconcileAttachedProviders names).run
      (.start settings providerTypes cache world)
    (∀ c ∈ r.2.sent, c.Discreet) ∧
      (r.1 = .ok () → ∀ name ∈ names, Covered settings r.2.sent name) := by
  intro r
  constructor
  · obtain ⟨new, hnew, hdiscreet⟩ :=
      (Advances.of_run (ProviderSync.advances_reconcile names) (Prod.eta r).symm).sent
    rw [hnew]
    exact hdiscreet
  · intro hok name hname
    have h : (ProviderSync.reconcileAttachedProviders names).run
        (.start settings providerTypes cache world) = (.ok (), r.2) := Prod.ext hok rfl
    unfold ProviderSync.reconcileAttachedProviders at h
    split at h
    · rename_i hempty
      rw [List.isEmpty_iff.1 hempty] at hname
      cases hname
    · obtain ⟨_, s₁, himport, h⟩ := Locked.run_bind_eq_ok.1 h
      obtain ⟨s₂, s₃, hboard, h⟩ := Locked.run_bind_eq_ok.1 h
      rw [ProviderSync.board, Locked.run_atomic] at hboard
      cases hboard
      have hkeeps := (ProviderSync.importAttachedProviderTypes_settings (W := W) names).mono
        fun s s' h (hs : s.settings = settings) => h.trans hs
      have hsame : s₁.settings = settings := by
        have := hkeeps.invariant (s := SyncState.start settings providerTypes cache world) rfl
        rwa [himport] at this
      rw [hsame] at h
      exact ProviderSync.forM_covered names (fun _ _ => by rw [hsame]) (fun _ => hsame) h name hname

end Methods

/-! ## A token that is fresh -/

/-- A vault that opens the App material of boards from before. -/
abbrev legacyVault : Vault where
  encrypt _ _ := .error "no key"
  openStringMap _ := .error "no key"
  openMtls _ := .error "no key"
  openGithubApp _ := .ok ⟨"12", "pem", "", "", ""⟩
  openAuth _ := .error "no key"
  hashPassword _ _ := .error "no key"

/-- A gateway that has a provider of this name with a token, but of another type. -/
abbrev staleGateway : Outside Unit where
  listProviders w := (.ok [⟨githubProviderName, "generic", "default", [credentialKey]⟩], w)
  createProvider _ w := (.ok (), w)
  updateProvider _ w := (.ok (), w)
  deleteProvider _ w := (.ok (), w)
  configureProviderRefresh _ _ w := (.ok (), w)
  upsertProviderTypeYaml _ _ w := (.ok (), w)
  github w := (⟨fun _ _ => .error "", fun _ => .error "", fun _ _ => .error "",
    fun _ _ => .error "", fun _ => ""⟩, w)
  now w := (0, w)
  nonce w := (0, w)

/-- A complete App with its row. -/
def completeApp : BoardSettings :=
  { BoardSettings.empty with
    openshellProviders := [⟨githubProviderName, githubProviderType, ∅, none, [], none⟩]
    githubAppSealed := some "app"
    githubAppInstallationId := some 7 }

/-- While the token is fresh the sync succeeds, and the row is neither created nor updated. -/
theorem not_reconcile_sends :
    let := legacyVault
    let := staleGateway
    ¬∀ (settings : BoardSettings) (providerTypes : List ProviderTypeDesired) (cache : TokenCache)
        (world : Unit) (names : List String),
      let r := (ProviderSync.reconcileAttachedProviders names).run
        (.start settings providerTypes cache world)
      r.1 = .ok () → ∀ name ∈ names, ∃ row, settings.provider name = some row ∧
        ∃ c ∈ r.2.sent, ∃ credentials config,
          c.Applies ⟨name, row.providerType, credentials, config⟩ := by
  intro vault outside hsends
  have hrun :
      let r := (ProviderSync.reconcileAttachedProviders [githubProviderName]).run
        (SyncState.start completeApp [] ⟨some 1000, none⟩ ())
      r.1.isOk = true ∧ r.2.sent.all (fun c => c.call.payload.isNone) = true := by
    decide +kernel
  obtain ⟨hok, hnone⟩ := hrun
  obtain ⟨row, -, c, hc, credentials, config, -, hpayload⟩ :=
    hsends completeApp [] ⟨some 1000, none⟩ () [githubProviderName]
      (by
        generalize ((ProviderSync.reconcileAttachedProviders [githubProviderName]).run
          (SyncState.start completeApp [] ⟨some 1000, none⟩ ())).1 = result at hok
        cases result with
        | ok _ => rfl
        | error e => cases hok)
      githubProviderName List.mem_cons_self
  have hempty := List.all_eq_true.1 hnone c hc
  rw [hpayload] at hempty
  cases hempty

end Sandboard

import Sandboard.Settings.Providers

/-!
# Requests that write settings

The handlers of the settings pages, as functions from the settings to an outcome with the settings
they leave: how the gateway is reached, the GitHub App, the providers, and who may log in.  Each
handler writes field after field, with checks and sealings in between.  What the network answers
where a token of the App is synchronized is part of the request (`TokenSync`).
-/

namespace Sandboard

open Std Text Auth

/-- A write-only field that is filled in. -/
def filledIn (field : Option String) : Option String :=
  field.filter fun s => !isBlank s

namespace BoardSettings

variable [vault : Vault]

/-! ## The gateway -/

/-- The body of `PUT openshell`. -/
structure OpenshellWrite where
  gatewayEndpoint : Option String
  authMode : Option OpenShellAuthMode
  oidc : Option OpenShellOidcConfig
  caPem : Option String
  clientCertPem : Option String
  clientKeyPem : Option String
  clearMtls : Bool
  clearOidc : Bool

namespace OpenshellWrite

/-- The endpoint is a plaintext one. -/
def isPlaintext (req : OpenshellWrite) : Bool :=
  req.gatewayEndpoint.any fun ep => startsWith "http://" (trim ep)

/-- The OIDC settings to store; complete ones must be valid. -/
def checkedOidc (req : OpenshellWrite) : Except String (Option OpenShellOidcConfig) :=
  match req.oidc.map OpenShellOidcConfig.trimmed with
  | none => .ok none
  | some oidc =>
    if oidc.isComplete then oidc.validate.map fun _ => some oidc else .ok (some oidc)

def anyPem (req : OpenshellWrite) : Bool :=
  (filledIn req.caPem).isSome || (filledIn req.clientCertPem).isSome ||
    (filledIn req.clientKeyPem).isSome

/-- The stored certificates, with those of the request over them. -/
def merged (req : OpenshellWrite) (mtlsSealed : Option String) : OpenShellMtlsBundle :=
  let stored := ((trimmedOrNone mtlsSealed).bind fun t => (vault.openMtls t).toOption).getD .empty
  { caPem := (filledIn req.caPem).getD stored.caPem
    clientCertPem := (filledIn req.clientCertPem).getD stored.clientCertPem
    clientKeyPem := (filledIn req.clientKeyPem).getD stored.clientKeyPem }

end OpenshellWrite

def setOpenshellGatewayEndpoint (s : BoardSettings) (endpoint : Option String) : BoardSettings :=
  { s with openshellGatewayEndpoint := trimmedOrNone endpoint }

def setOpenshellAuthMode (s : BoardSettings) (mode : Option OpenShellAuthMode) : BoardSettings :=
  { s with openshellAuthMode := mode }

def setOpenshellOidcConfig (s : BoardSettings) (cfg : Option OpenShellOidcConfig) :
    BoardSettings :=
  { s with openshellOidcConfig := (cfg.map OpenShellOidcConfig.trimmed).filter fun c =>
      !c.issuer.isEmpty || !c.clientId.isEmpty || !c.audience.isEmpty }

def setOpenshellOidcSealed (s : BoardSettings) (blob : Option String) : BoardSettings :=
  { s with openshellOidcSealed := trimmedOrNone blob }

def setOpenshellMtlsSealed (s : BoardSettings) (blob : Option String) : BoardSettings :=
  { s with openshellMtlsSealed := trimmedOrNone blob }

/-- The writes of `PUT openshell` before the OIDC settings. -/
def withGateway (s : BoardSettings) (req : OpenshellWrite) : BoardSettings :=
  let s := s.setOpenshellGatewayEndpoint req.gatewayEndpoint
  if req.authMode.isSome then s.setOpenshellAuthMode req.authMode else s

/-- The OIDC writes of `PUT openshell`. -/
def withOidc (s : BoardSettings) (req : OpenshellWrite) (oidc : Option OpenShellOidcConfig) :
    BoardSettings :=
  let s := if oidc.isSome then s.setOpenshellOidcConfig oidc else s
  if req.clearOidc then s.setOpenshellOidcSealed none else s

/-- `PUT openshell`: the endpoint and the mode, the OIDC settings, and the certificates. -/
def putOpenshell (req : OpenshellWrite) (nonce : ℕ) (s : BoardSettings) :
    Except Refusal Unit × BoardSettings :=
  if req.isPlaintext then
    (.error (400, "gateway endpoint must be https:// (plaintext HTTP is not supported)"), s)
  else
    let s := s.withGateway req
    match req.checkedOidc with
    | .error e => (.error (400, e), s)
    | .ok oidc =>
      let s := s.withOidc req oidc
      if req.clearMtls then (.ok (), s.setOpenshellMtlsSealed none)
      else if req.anyPem then
        match sealMtls nonce (req.merged s.openshellMtlsSealed) with
        | .error e => (.error (400, s!"seal mTLS: {e}"), s)
        | .ok blob => (.ok (), s.setOpenshellMtlsSealed (some blob))
      else (.ok (), s)

/-! ## The GitHub App -/

/-- Put the installation that mints tokens on the provider of the App, or take it off. -/
def setGithubAppInstallationId (s : BoardSettings) (id : Option ℕ) : BoardSettings :=
  let existing := s.provider githubProviderName
  let config := (existing.map OpenShellProviderDesired.config).getD ∅
  let config := match id.filter fun n => 0 < n with
    | some n => config.insert configInstallationId (toString n)
    | none => config.erase configInstallationId
  let row : OpenShellProviderDesired :=
    { name := githubProviderName
      providerType := (existing.map OpenShellProviderDesired.providerType).getD githubProviderType
      config := config
      credentialsSealed := existing.bind OpenShellProviderDesired.credentialsSealed
      credentialKeys := (existing.map OpenShellProviderDesired.credentialKeys).getD []
      refresh := existing.bind OpenShellProviderDesired.refresh }
  { s.upsertOpenshellProvider row.normalized with githubAppInstallationId := none }

/-- A credential under its key, and no entry when it is empty. -/
def withCredential (map : StringMap) (key value : String) : StringMap :=
  if value.isEmpty then map.erase key else map.insert key value

/-- Seal the App credentials on the provider of the App. -/
def setGithubAppBundle (bundle : GitHubAppBundle) (nonce : ℕ) (s : BoardSettings) :
    Except String Unit × BoardSettings :=
  match bundle.validateForSeal with
  | .error e => (.error s!"GitHub App: {e}", s)
  | .ok () =>
    let existing := s.provider githubProviderName
    let config := ((existing.map OpenShellProviderDesired.config).getD ∅).insert configAppId
      (trim bundle.appId)
    let map := ((existing.bind OpenShellProviderDesired.credentialsSealed).bind fun t =>
      (vault.openStringMap t).toOption).getD ∅
    let map := map.insert credPrivateKey bundle.privateKeyPem
    let map := withCredential map credWebhookSecret bundle.webhookSecret
    let map := withCredential map credClientId (trim bundle.clientId)
    let map := withCredential map credClientSecret bundle.clientSecret
    match sealStringMap nonce map with
    | .error e => (.error s!"seal GitHub App credentials: {e}", s)
    | .ok blob =>
      let row : OpenShellProviderDesired :=
        { name := githubProviderName
          providerType := githubProviderType
          config := config
          credentialsSealed := some blob
          credentialKeys := map.keys
          refresh := existing.bind OpenShellProviderDesired.refresh }
      (.ok (), { s.upsertOpenshellProvider row.normalized with githubAppSealed := none })

/-- Take the App material off the provider, and off the board. -/
def clearGithubApp (nonce : ℕ) (s : BoardSettings) : BoardSettings :=
  let s := match s.provider githubProviderName with
    | none => s
    | some existing =>
      let map := ((existing.credentialsSealed.bind fun t =>
        (vault.openStringMap t).toOption).getD ∅).eraseMany
          [credPrivateKey, credWebhookSecret, credClientId, credClientSecret, credentialKey,
            "GITHUB_TOKEN"]
      let row : OpenShellProviderDesired :=
        { existing with
          name := githubProviderName
          config := (existing.config.erase configAppId).erase configInstallationId
          credentialsSealed :=
            if map.isEmpty then none else (sealStringMap nonce map).toOption
          credentialKeys := map.keys }
      s.upsertOpenshellProvider row.normalized
  { s with githubAppSealed := none, githubAppInstallationId := none }

/-! ## The token of the App -/

/-- What the network answers while a token of the App is synchronized. -/
structure TokenSync where
  /-- The custom provider types are on the gateway. -/
  imported : Bool
  /-- The cached token is not near its end. -/
  cacheFresh : Bool
  /-- The gateway lacks the provider, or has an old credential on it. -/
  needsPush : Except String Bool
  minted : Except String String
  nonces : ℕ × ℕ

/-- The installation that mints tokens. -/
def githubAppInstallation (s : BoardSettings) : Option ℕ :=
  let onProvider := (s.provider githubProviderName).bind fun p =>
    (p.config[configInstallationId]?.bind fun t => parseU64 (trim t)).filter fun n => 0 < n
  onProvider.or s.githubAppInstallationId

/-- Write the provider of the App, with a fresh token among its credentials. -/
def ensureDesiredRow (freshToken : Option String) (nonce : ℕ) (s : BoardSettings) :
    Except String Unit × BoardSettings :=
  let existing := s.provider githubProviderName
  let stored := (existing.bind OpenShellProviderDesired.credentialsSealed).filter fun t =>
    !isBlank t
  match stored.mapM vault.openStringMap with
  | .error e => (.error s!"github app: open credentials: {e}", s)
  | .ok stored =>
    let map := stored.getD ∅
    let map := match freshToken with
      | some token => (map.insert credentialKey token).erase "GITHUB_TOKEN"
      | none => map
    let sealed : Except String (Option String) :=
      if map.isEmpty then .ok none else (sealStringMap nonce map).map some
    match sealed with
    | .error e => (.error s!"github app: seal credentials: {e}", s)
    | .ok sealed =>
      let row : OpenShellProviderDesired :=
        { name := githubProviderName
          providerType := githubProviderType
          config := (existing.map OpenShellProviderDesired.config).getD ∅
          credentialsSealed := sealed
          credentialKeys := map.keys
          refresh := existing.bind OpenShellProviderDesired.refresh }
      (.ok (), s.upsertOpenshellProvider row.normalized)

/-- The token that is sealed on the provider of the App. -/
def sealedGithubToken (s : BoardSettings) : Except String (Option String) :=
  match (s.provider githubProviderName).bind OpenShellProviderDesired.credentialsSealed with
  | none => .ok none
  | some t => (vault.openStringMap t).map fun map =>
    (map[credentialKey]?.filter fun v => !v.isEmpty).or
      (map["GITHUB_TOKEN"]?.filter fun v => !v.isEmpty)

/-- The settings once a token of the App is minted, or the sealed one is pushed again. -/
def ensureGithubProvider (sync : TokenSync) (s : BoardSettings) : BoardSettings :=
  match s.githubAppBundle with
  | none => s
  | some bundle =>
    if isBlank bundle.appId || isBlank bundle.privateKeyPem || s.githubAppInstallation.isNone then s
    else
      match ensureDesiredRow none sync.nonces.1 s with
      | (.error _, s) => s
      | (.ok (), s) =>
        let mint := match sync.minted with
          | .error _ => s
          | .ok token => (ensureDesiredRow (some token) sync.nonces.2 s).2
        if sync.cacheFresh then
          match sync.needsPush, sealedGithubToken s with
          | .error _, _ => s
          | .ok false, _ => s
          | .ok true, .error _ => s
          | .ok true, .ok (some token) => (ensureDesiredRow (some token) sync.nonces.2 s).2
          | .ok true, .ok none => mint
        else mint

/-- The body of `PUT github-app`. -/
structure GithubAppWrite where
  appId : Option String
  installationId : Option ℕ
  clientId : Option String
  privateKeyPem : Option String
  webhookSecret : Option String
  clientSecret : Option String
  clear : Bool
  clearInstallationId : Bool

namespace GithubAppWrite

/-- The request writes App material. -/
def touching (req : GithubAppWrite) : Bool :=
  (filledIn req.appId).isSome || req.clientId.isSome || (filledIn req.privateKeyPem).isSome ||
    req.webhookSecret.isSome || req.clientSecret.isSome

/-- The stored App material, with that of the request over it. -/
def merged (req : GithubAppWrite) (stored : GitHubAppBundle) : GitHubAppBundle where
  appId := ((filledIn req.appId).map trim).getD stored.appId
  privateKeyPem := (filledIn req.privateKeyPem).getD stored.privateKeyPem
  webhookSecret := req.webhookSecret.getD stored.webhookSecret
  clientId := (req.clientId.map trim).getD stored.clientId
  clientSecret := req.clientSecret.getD stored.clientSecret

end GithubAppWrite

/-- The write of `PUT github-app` before the App material. -/
def withInstallation (s : BoardSettings) (req : GithubAppWrite) : BoardSettings :=
  if req.clearInstallationId then s.setGithubAppInstallationId none
  else match req.installationId with
    | some id => s.setGithubAppInstallationId (some id)
    | none => s

/-- A token is minted once the App and its installation are there. -/
def afterGithubApp (sync : TokenSync) (s : BoardSettings) : BoardSettings :=
  if s.githubAppBundle.any (fun b => !isBlank b.appId && !isBlank b.privateKeyPem) &&
      s.githubAppInstallation.isSome then s.ensureGithubProvider sync
  else s

/-- `PUT github-app`: the installation, and the App material. -/
def putGithubApp (req : GithubAppWrite) (nonce : ℕ) (sync : TokenSync) (s : BoardSettings) :
    Except Refusal Unit × BoardSettings :=
  if req.clear then (.ok (), s.clearGithubApp nonce)
  else
    let s := s.withInstallation req
    if req.touching then
      match setGithubAppBundle (req.merged (s.githubAppBundle.getD .empty)) nonce s with
      | (.error e, s) => (.error (400, s!"seal GitHub App: {e}"), s)
      | (.ok (), s) => (.ok (), s.afterGithubApp sync)
    else (.ok (), s.afterGithubApp sync)

/-! ## Providers -/

/-- Refresh material in the body of a provider request. -/
structure ProviderRefreshWrite where
  credentialKey : String
  strategy : String
  material : StringMap
  secretMaterialKeys : List String

/-- The body of a provider request. -/
structure ProviderWrite where
  name : String
  providerType : String
  config : StringMap
  credentials : Option StringMap
  refresh : Option ProviderRefreshWrite

/-- The credentials of a request that are filled in. -/
def filledCredentials (credentials : StringMap) : List (String × String) :=
  credentials.toList.filterMap fun (k, v) =>
    if (trim k).isEmpty || isBlank v then none else some (trim k, v)

/-- The sealed credentials of a provider with those of a request merged in, and their keys. -/
def sealCredentialsFromWrite (credentials : Option StringMap)
    (existing : Option OpenShellProviderDesired) (nonce : ℕ) :
    Except Refusal (Option String × List String) :=
  let kept := (existing.bind OpenShellProviderDesired.credentialsSealed,
    (existing.map OpenShellProviderDesired.credentialKeys).getD [])
  match credentials with
  | none => .ok kept
  | some credentials =>
    let stored := (existing.bind OpenShellProviderDesired.credentialsSealed).filter fun t =>
      !isBlank t
    match stored.mapM vault.openStringMap with
    | .error e => .error (500, s!"open existing credentials: {e}")
    | .ok stored =>
      if (filledCredentials credentials).isEmpty then .ok kept
      else
        let merged := (filledCredentials credentials).foldl (fun m (k, v) => m.insert k v)
          (stored.getD ∅)
        match sealStringMap nonce merged with
        | .error e => .error (500, s!"seal credentials: {e}")
        | .ok blob => .ok (some blob, merged.keys)

/-- The refresh material of a provider: that of the request, or what it has. -/
def sealRefreshFromWrite (refresh : Option ProviderRefreshWrite)
    (existing : Option OpenShellProviderDesired) (nonce : ℕ) :
    Except Refusal (Option OpenShellProviderRefreshDesired) :=
  match refresh with
  | none => .ok (existing.bind OpenShellProviderDesired.refresh)
  | some r =>
    let material := r.material.toList.foldl (fun (m : StringMap) (k, v) =>
      if (trim k).isEmpty || v.isEmpty then m else m.insert (trim k) v) ∅
    if material.isEmpty then .error (400, "refresh.material must not be empty")
    else
      match sealStringMap nonce material with
      | .error e => .error (500, s!"seal refresh material: {e}")
      | .ok blob => .ok (some ⟨trim r.credentialKey, trim r.strategy, blob, r.secretMaterialKeys⟩)

/-- A stored provider is applied at the gateway; one of the App gets a token there. -/
def afterProvider (sync : TokenSync) (stored : OpenShellProviderDesired) (s : BoardSettings) :
    BoardSettings :=
  if sync.imported &&
      (stored.name == githubProviderName || stored.providerType == githubProviderType) then
    s.ensureGithubProvider sync
  else s

/-- Seal what a request gives, store the row, and apply it. -/
def storeProvider (row : Option String → List String → Option OpenShellProviderRefreshDesired →
      OpenShellProviderDesired) (existing : Option OpenShellProviderDesired) (req : ProviderWrite)
    (nonces : ℕ × ℕ) (sync : TokenSync) (s : BoardSettings) :
    Except String Unit × BoardSettings :=
  match sealCredentialsFromWrite req.credentials existing nonces.1 with
  | .error e => (.error e.2, s)
  | .ok (sealed, keys) =>
    match sealRefreshFromWrite req.refresh existing nonces.2 with
    | .error e => (.error e.2, s)
    | .ok refresh =>
      let desired := (row sealed keys refresh).normalized
      (.ok (), (s.upsertOpenshellProvider desired).afterProvider sync desired.normalized)

/-- `POST openshell/providers`. -/
def createOpenshellProvider (req : ProviderWrite) (nonces : ℕ × ℕ) (sync : TokenSync)
    (s : BoardSettings) : Except String Unit × BoardSettings :=
  let name := trim req.name
  if name.isEmpty then (.error "name is required", s)
  else if (trim req.providerType).isEmpty then (.error "type is required", s)
  else
    s.storeProvider (fun sealed keys refresh =>
      ⟨name, trim req.providerType, req.config, sealed, keys, refresh⟩) (s.provider name) req
        nonces sync

/-- The name of a provider after an update. -/
def newName (name : String) (req : ProviderWrite) : String :=
  if (trim req.name).isEmpty then name else trim req.name

/-- `PUT openshell/providers/{name}`: the body may rename the provider. -/
def updateOpenshellProvider [tables : UnicodeTables] (name : String) (req : ProviderWrite)
    (nonces : ℕ × ℕ) (sync : TokenSync) (s : BoardSettings) : Except String Unit × BoardSettings :=
  let name := trim name
  match s.provider name with
  | none => (.error s!"no provider {tables.debug name}", s)
  | some existing =>
    let s := if newName name req ≠ name then s.deleteOpenshellProvider name else s
    s.storeProvider (fun sealed keys refresh =>
      { name := newName name req
        providerType :=
          if (trim req.providerType).isEmpty then existing.providerType else trim req.providerType
        config := if req.config.isEmpty then existing.config else req.config
        credentialsSealed := sealed
        credentialKeys := keys
        refresh := refresh }) (some existing) req nonces sync

/-- `DELETE openshell/providers/{name}`. -/
def deleteProvider [tables : UnicodeTables] (name : String) (s : BoardSettings) :
    Except String Unit × BoardSettings :=
  if (s.provider (trim name)).isNone then
    (.error s!"no provider {tables.debug (trim name)}", s)
  else (.ok (), s.deleteOpenshellProvider (trim name))

/-! ## Who may log in -/

/-- The body of `PUT auth/settings`. -/
structure AuthSettingsWrite where
  allowedUsers : Option (List String)
  allowedTeams : Option (List String)
  newPassword : Option String

def setAuthAllowlists (s : BoardSettings) (users teams : List String) : BoardSettings :=
  { s with
    authAllowedUsers := normalizedNames users
    authAllowedTeams := normalizedNames teams }

def setAuthSealed (s : BoardSettings) (blob : Option String) : BoardSettings :=
  { s with authSealed := trimmedOrNone blob }

/-- The allow-lists of `PUT auth/settings`. -/
def withAllowlists (s : BoardSettings) (body : AuthSettingsWrite) : BoardSettings :=
  match body.allowedUsers, body.allowedTeams with
  | some users, teams => s.setAuthAllowlists users (teams.getD s.authAllowedTeams)
  | none, some teams => s.setAuthAllowlists s.authAllowedUsers teams
  | none, none => s

/-- The operator's credentials under a new password, sealed. -/
def sealedPassword (auth : Auth.AuthBundle) (pw : String) (draws : ℕ × ℕ) : Except Refusal String :=
  if byteLength pw < 8 then .error (400, "password must be at least 8 characters")
  else
    match vault.hashPassword draws.1 pw with
    | .error e => .error (500, e)
    | .ok hash => (sealAuth draws.2 { auth with passwordHash := hash }).mapError fun e =>
      (500, s!"seal auth: {e}")

/-- `PUT auth/settings` by an operator, or by someone who is not logged in. -/
def putAuthSettings (operator : Bool) (body : AuthSettingsWrite) (draws : ℕ × ℕ)
    (s : BoardSettings) : Except Refusal Unit × BoardSettings :=
  if !operator then (.error (401, "authentication required"), s)
  else
    match s.authBundle with
    | none => (.error (400, "bootstrap required"), s)
    | some auth =>
      let s := s.withAllowlists body
      let written : Except Refusal Unit × BoardSettings :=
        match (body.newPassword.map trim).filter fun pw => !pw.isEmpty with
        | none => (.ok (), s)
        | some pw =>
          match sealedPassword auth pw draws with
          | .error e => (.error e, s)
          | .ok blob => (.ok (), s.setAuthSealed (some blob))
      match written with
      | (.error e, s) => (.error e, s)
      | (.ok (), s) =>
        if s.authBundle.isNone then (.error (500, "auth missing after update"), s)
        else (.ok (), s)

end BoardSettings

end Sandboard

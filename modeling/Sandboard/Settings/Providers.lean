import Sandboard.Auth.Bootstrap
import Sandboard.Settings.Catalog

/-!
# OpenShell providers and sealed settings

The rows of the provider catalog, what the board seals, and the settings around them: how the
gateway is reached, the material of the GitHub App, and who may log in.  The crates that encrypt
and hash are a parameter (`Vault`); the checks before a sealing are the program's own.
-/

namespace Sandboard

open Std Text

/-- Names with texts: the configuration of a provider, or credentials that are not sealed. -/
abbrev StringMap : Type := ExtTreeMap String String

/-! ## Sealing -/

/-- Client certificates for the gateway. -/
structure OpenShellMtlsBundle where
  caPem : String
  clientCertPem : String
  clientKeyPem : String
  deriving DecidableEq

def OpenShellMtlsBundle.empty : OpenShellMtlsBundle := ⟨"", "", ""⟩

/-- Credentials of the GitHub App. -/
structure GitHubAppBundle where
  appId : String
  privateKeyPem : String
  webhookSecret : String
  clientId : String
  clientSecret : String
  deriving DecidableEq

def GitHubAppBundle.empty : GitHubAppBundle := ⟨"", "", "", "", ""⟩

/-- What is sealed. -/
inductive Plaintext where
  | strings (map : StringMap)
  | mtls (bundle : OpenShellMtlsBundle)
  | auth (bundle : Auth.AuthBundle)

/-- What sealing rests on outside the program.  A sealing and a hash each draw random bytes, which
a number stands for. -/
class Vault where
  encrypt : ℕ → Plaintext → Except String String
  openStringMap : String → Except String StringMap
  openMtls : String → Except String OpenShellMtlsBundle
  openGithubApp : String → Except String GitHubAppBundle
  openAuth : String → Except String Auth.AuthBundle
  /-- Argon2id with a salt: the PHC text. -/
  hashPassword : ℕ → String → Except String String

/-- A vault without a key. -/
abbrev lockedVault : Vault where
  encrypt _ _ := .error "no key"
  openStringMap _ := .error "no key"
  openMtls _ := .error "no key"
  openGithubApp _ := .error "no key"
  openAuth _ := .error "no key"
  hashPassword _ _ := .error "no key"

/-- A text that has the shape of a PEM block. -/
def checkPem (label pem : String) : Except String Unit :=
  let t := trim pem
  if t.isEmpty then .error s!"encrypt: {label}: empty PEM"
  else if !contains "BEGIN" t || !contains "END" t then
    .error s!"encrypt: {label}: expected PEM block (BEGIN … END)"
  else .ok ()

def OpenShellMtlsBundle.validatePemShape (b : OpenShellMtlsBundle) : Except String Unit := do
  checkPem "ca" b.caPem
  checkPem "client_cert" b.clientCertPem
  checkPem "client_key" b.clientKeyPem

def GitHubAppBundle.validateForSeal (b : GitHubAppBundle) : Except String Unit :=
  let pem := trim b.privateKeyPem
  if (trim b.appId).isEmpty then .error "encrypt: app_id: empty"
  else if pem.isEmpty then .error "encrypt: private_key: empty"
  else if !contains "BEGIN" pem || !contains "END" pem || !contains "PRIVATE KEY" pem then
    .error "encrypt: private_key: expected PEM block (BEGIN … PRIVATE KEY … END)"
  else .ok ()

section Vault

variable [vault : Vault]

def sealMtls (nonce : ℕ) (b : OpenShellMtlsBundle) : Except String String := do
  b.validatePemShape
  vault.encrypt nonce (.mtls b)

def sealStringMap (nonce : ℕ) (map : StringMap) : Except String String :=
  vault.encrypt nonce (.strings map)

def sealAuth (nonce : ℕ) (b : Auth.AuthBundle) : Except String String :=
  if !b.isConfigured then
    .error "encrypt: auth: admin_username and password_hash required"
  else if (trim b.sessionKeyB64).isEmpty then .error "encrypt: auth: session_key required"
  else vault.encrypt nonce (.auth b)

/-- The stored credentials of the operator. -/
def authFromSealed (blob : Option String) : Option Auth.AuthBundle := do
  let blob ← trimmedOrNone blob
  (vault.openAuth blob).toOption.filter Auth.AuthBundle.isConfigured

def githubAppViewFromSealed (blob : Option String) : Option GitHubAppBundle := do
  let blob ← trimmedOrNone blob
  (vault.openGithubApp blob).toOption

end Vault

/-! ## Providers -/

/-- Refresh material that the gateway owns. -/
structure OpenShellProviderRefreshDesired where
  credentialKey : String
  strategy : String
  materialSealed : String
  secretMaterialKeys : List String
  deriving DecidableEq

/-- A provider as the board wants it; its credentials are sealed. -/
structure OpenShellProviderDesired where
  name : String
  providerType : String
  config : StringMap
  credentialsSealed : Option String
  credentialKeys : List String
  refresh : Option OpenShellProviderRefreshDesired
  deriving DecidableEq

/-- `OpenShellProviderDesired::normalized`. -/
def OpenShellProviderDesired.normalized (p : OpenShellProviderDesired) :
    OpenShellProviderDesired where
  name := trim p.name
  providerType := trim p.providerType
  config := normalizedEnv p.config
  credentialsSealed := p.credentialsSealed
  credentialKeys :=
    ((normalizedNames p.credentialKeys).mergeSort fun a b => decide (a ≤ b)).eraseDups
  refresh := p.refresh.map fun r => { r with
    credentialKey := trim r.credentialKey
    strategy := trim r.strategy
    secretMaterialKeys := normalizedNames r.secretMaterialKeys }

/-- Replace the first row of the name, or add one at the end. -/
def upsertRow (stored : OpenShellProviderDesired) :
    List OpenShellProviderDesired → List OpenShellProviderDesired
  | [] => [stored]
  | p :: ps => if p.name = stored.name then stored :: ps else p :: upsertRow stored ps

/-! ## The settings of a board -/

/-- How the board authenticates at the gateway. -/
inductive OpenShellAuthMode where
  | mtls
  | oidc
  deriving DecidableEq

structure OpenShellOidcConfig where
  issuer : String
  clientId : String
  audience : String
  deriving DecidableEq

namespace OpenShellOidcConfig

def trimmed (c : OpenShellOidcConfig) : OpenShellOidcConfig where
  issuer := trimEndMatches '/' (trim c.issuer)
  clientId := trim c.clientId
  audience := trim c.audience

def isComplete (c : OpenShellOidcConfig) : Bool :=
  !(trim c.issuer).isEmpty && !(trim c.clientId).isEmpty

/-- The issuer is an `https` URL. -/
def validate (c : OpenShellOidcConfig) : Except String Unit :=
  let issuer := trim c.issuer
  if issuer.isEmpty then .error "OIDC issuer is required"
  else if startsWith "http://" issuer then
    .error "OIDC issuer must be https:// (Keycloak is not reachable over plaintext HTTP)"
  else if !startsWith "https://" issuer then .error "OIDC issuer must be an https:// URL"
  else if (trim c.clientId).isEmpty then .error "OIDC client id is required"
  else .ok ()

end OpenShellOidcConfig

/-- The settings of a board: the catalogs, and what the settings pages write. -/
structure BoardSettings extends Settings where
  openshellGatewayEndpoint : Option String
  openshellAuthMode : Option OpenShellAuthMode
  openshellOidcConfig : Option OpenShellOidcConfig
  openshellOidcSealed : Option String
  openshellMtlsSealed : Option String
  openshellProviders : List OpenShellProviderDesired
  /-- The App material of boards from before it moved to a provider. -/
  githubAppSealed : Option String
  githubAppInstallationId : Option ℕ
  authSealed : Option String
  authAllowedUsers : List String
  authAllowedTeams : List String

/-- Instance name of the provider that the App manages. -/
def githubProviderName : String := "github-app"

/-- Provider type of the App. -/
def githubProviderType : String := "github-app"

def configAppId : String := "GITHUB_APP_ID"

def configInstallationId : String := "GITHUB_INSTALLATION_ID"

def credPrivateKey : String := "GITHUB_APP_PRIVATE_KEY"

def credWebhookSecret : String := "GITHUB_APP_WEBHOOK_SECRET"

def credClientId : String := "GITHUB_APP_CLIENT_ID"

def credClientSecret : String := "GITHUB_APP_CLIENT_SECRET"

/-- Credential key that sandboxes read the App's token from. -/
def credentialKey : String := "GH_TOKEN"

namespace BoardSettings

/-- No settings. -/
def empty : BoardSettings where
  toSettings := .empty
  openshellGatewayEndpoint := none
  openshellAuthMode := none
  openshellOidcConfig := none
  openshellOidcSealed := none
  openshellMtlsSealed := none
  openshellProviders := []
  githubAppSealed := none
  githubAppInstallationId := none
  authSealed := none
  authAllowedUsers := []
  authAllowedTeams := []

/-- The row of a provider. -/
def provider (s : BoardSettings) (name : String) : Option OpenShellProviderDesired :=
  s.openshellProviders.find? fun p => p.name == name

/-- Upsert one provider by its name. -/
def upsertOpenshellProvider (s : BoardSettings) (p : OpenShellProviderDesired) : BoardSettings :=
  { s with openshellProviders := upsertRow p.normalized s.openshellProviders }

/-- Remove a provider by its name. -/
def deleteOpenshellProvider (s : BoardSettings) (name : String) : BoardSettings :=
  { s with openshellProviders := s.openshellProviders.filter fun p => p.name != trim name }

section Vault

variable [vault : Vault]

/-- App credentials on the provider row. -/
def bundleFromProvider (s : BoardSettings) : Option GitHubAppBundle := do
  let p ← s.provider githubProviderName
  let map := ((p.credentialsSealed.filter fun t => !isBlank t).bind fun t =>
    (vault.openStringMap t).toOption).getD ∅
  let appId := trim (p.config[configAppId]?.getD "")
  let privateKeyPem := map[credPrivateKey]?.getD ""
  if appId.isEmpty && privateKeyPem.isEmpty then none
  else some ⟨appId, privateKeyPem, map[credWebhookSecret]?.getD "", map[credClientId]?.getD "",
    map[credClientSecret]?.getD ""⟩

/-- App credentials: those of the provider row, or the ones sealed on the board before. -/
def githubAppBundle (s : BoardSettings) : Option GitHubAppBundle :=
  s.bundleFromProvider.or (githubAppViewFromSealed s.githubAppSealed)

def authBundle (s : BoardSettings) : Option Auth.AuthBundle :=
  authFromSealed s.authSealed

end Vault

end BoardSettings

end Sandboard

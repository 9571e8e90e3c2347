import Sandboard.Library.Interleave
import Sandboard.OAuth.Tokens

/-!
# The authorization server

The store of clients and codes behind its lock, and the handlers of the endpoints: registration,
authorization, tokens, and the gate before the MCP endpoint.  A handler is a method of the server:
each access to the store, each reading of the session key and each reading of the clock is a
section of its own, and so is sending a token response.  The server also keeps a log of the codes
it issues, of its token responses and of the requests it admits; no handler reads the log.

What a handler gets from elsewhere is an argument: the random text of a new code or client, the
document that the metadata URL of a client returns, and who is logged in.  The authorization
query of a consent form is what its payload parses to.
-/

namespace Sandboard

open Std Text

/-- The PKCE challenge of a verifier, by SHA-256 and base64. -/
class Pkce where
  pkceS256Challenge : String → String

structure ClientRecord where
  redirectUris : List String
  clientName : Option String

structure CodeRecord where
  clientId : String
  redirectUri : String
  codeChallenge : String
  resource : String
  sub : String
  exp : ℕ
  deriving DecidableEq

structure RegisterBody where
  redirectUris : List String
  clientName : Option String
  tokenEndpointAuthMethod : Option String
  grantTypes : Option (List String)
  responseTypes : Option (List String)

structure AuthorizeQuery where
  responseType : Option String
  clientId : Option String
  redirectUri : Option String
  state : Option String
  codeChallenge : Option String
  codeChallengeMethod : Option String
  resource : Option String
  scope : Option String

/-- The document behind the metadata URL of a client. -/
structure ClientDoc where
  clientId : String
  clientName : Option String
  redirectUris : List String

structure TokenForm where
  grantType : Option String
  code : Option String
  redirectUri : Option String
  clientId : Option String
  codeVerifier : Option String
  refreshToken : Option String
  resource : Option String

/-- The session key of the admin who is configured, or why it cannot be read. -/
structure AuthBundle where
  sessionKeyBytes : Except String Bytes

/-! ## The log -/

/-- A code that was issued: the request of its consent, and its record. -/
structure Issue where
  code : String
  query : AuthorizeQuery
  headers : HeaderMap
  record : CodeRecord

/-- What a token response was given for. -/
inductive TokenGrant where
  /-- A code, with the reading of the clock at which its expiry was tested. -/
  | code (code : String) (record : CodeRecord) (checkedAt : ℕ)
  /-- A refresh token. -/
  | refresh (claims : RefreshClaims)

/-- A token response: its request, the claims of its tokens, and when it was sent. -/
structure TokenResponse where
  grant : TokenGrant
  form : TokenForm
  headers : HeaderMap
  access : AccessClaims
  refresh : RefreshClaims
  sentAt : ℕ

/-- A request that the gate admitted, with the claims of its token; a preflight request has none,
and without a configured admin none is asked for. -/
structure Admission where
  headers : HeaderMap
  claims : Option AccessClaims

/-- The server. -/
structure OAuthServer where
  clients : ExtTreeMap String ClientRecord
  /-- One-time authorization codes. -/
  codes : ExtTreeMap String CodeRecord
  auth : Option AuthBundle
  /-- What the clock shows. -/
  now : ℕ
  issued : List Issue
  responses : List TokenResponse
  admitted : List Admission

/-- A reply. -/
inductive Reply where
  | text (status : ℕ) (body : String)
  | oauthError (status : ℕ) (error description : String)
  | registered (clientId : String) (issuedAt : ℕ) (redirectUris : List String)
      (clientName : Option String) (grantTypes responseTypes : List String)
  | redirect (url : String)
  /-- The consent page: who is signed in, which client asks, and the query it posts back. -/
  | consent (login name query : String)
  | tokens (accessToken refreshToken : String)
  | unauthorized
  /-- The request goes on to the MCP endpoint. -/
  | admitted
  | done

/-- A handler of the server, which may end early with a reply. -/
abbrev Handler : Type → Type := Locked OAuthServer Reply

/-- A trimmed field, and none when it is blank. -/
def filled (field : Option String) : Option String :=
  (field.map trim).filter (· ≠ "")

/-- A reading of the clock. -/
def nowSecs {ε : Type} : Locked OAuthServer ε ℕ :=
  .atomic fun s => (.ok s.now, s)

/-! ## Clients -/

def cursorClientId : String := "sandboard-cursor"

def cockpitClientId : String := "sandboard-cockpit"

/-- The clients that are always there. -/
def staticClients : List (String × ClientRecord) :=
  [(cursorClientId,
      { redirectUris := ["http://localhost:8787/callback", "http://127.0.0.1:8787/callback",
          "cursor://anysphere.cursor-mcp/oauth/callback",
          "https://www.cursor.com/agents/mcp/oauth/callback"]
        clientName := some "Cursor (sandboard)" }),
    (cockpitClientId,
      { redirectUris := ["http://127.0.0.1/sandboard-cockpit-no-redirect"]
        clientName := some "sandboard cockpit (injected)" })]

def OAuthServer.ensureStaticClients (s : OAuthServer) : OAuthServer :=
  { s with clients := staticClients.foldl (fun cs (id, c) => cs.insertIfNew id c) s.clients }

def redirectUriAllowed [web : WebServer] (uri : String) : Bool :=
  let uri := trim uri
  if uri.isEmpty then false
  else if uri == "https://www.cursor.com/agents/mcp/oauth/callback" then true
  else if startsWith "cursor://" uri then true
  else
    match web.parseUri uri with
    | none => false
    | some parsed =>
      let scheme := parsed.scheme.getD ""
      if scheme != "http" && scheme != "https" then false
      else
        let host := parsed.host.getD ""
        host == "localhost" || host == "127.0.0.1" || host == "[::1]" || host == "::1"

def clientNameMax : ℕ := 128

/-- Register a client; `random` is a random text. -/
def registerClient [WebServer] (body : RegisterBody) (random : String) : Handler Reply := do
  .failIf body.redirectUris.isEmpty
    (.oauthError 400 "invalid_client_metadata" "redirect_uris required")
  match body.redirectUris.find? fun uri => !redirectUriAllowed uri with
  | some uri => .fail (.oauthError 400 "invalid_redirect_uri" s!"redirect_uri not allowed: {uri}")
  | none =>
    .failIf ((body.tokenEndpointAuthMethod.getD "none") ≠ "none")
      (.oauthError 400 "invalid_client_metadata"
        "only token_endpoint_auth_method=none is supported")
    let clientId := "sandboard-" ++ String.ofList (random.toList.take 16)
    let name := (filled body.clientName).map fun n => String.ofList (n.toList.take clientNameMax)
    .atomic fun s =>
      (.ok (), { s with clients := s.clients.insert clientId ⟨body.redirectUris, name⟩ })
    let now ← nowSecs
    pure (.registered clientId now body.redirectUris name
      (body.grantTypes.getD ["authorization_code", "refresh_token"])
      (body.responseTypes.getD ["code"]))

/-- The client that a metadata document describes. -/
def fetchClientMetadata [WebServer] (url : String) (fetched : Except String ClientDoc) :
    Locked OAuthServer String ClientRecord := do
  match fetched with
  | .error e => .fail e
  | .ok doc =>
    .failIf (doc.clientId ≠ url) "client_id in metadata must match URL"
    match doc.redirectUris.find? fun uri => !redirectUriAllowed uri with
    | some uri => .fail s!"redirect_uri not allowed: {uri}"
    | none =>
      let record : ClientRecord := ⟨doc.redirectUris, doc.clientName⟩
      .atomic fun s => (.ok record, { s with clients := s.clients.insert url record })

/-- A client of the store, or the one behind an HTTPS client id. -/
def resolveClient [WebServer] (clientId : String) (fetched : Except String ClientDoc) :
    Locked OAuthServer String ClientRecord := do
  let known ← Locked.atomic fun s =>
    let s := s.ensureStaticClients
    (.ok s.clients[clientId]?, s)
  match known with
  | some c => pure c
  | none =>
    if startsWith "https://" clientId then fetchClientMetadata clientId fetched
    else .fail "unknown client_id"

/-! ## Authorization -/

/-- The redirect URI, the challenge and the resource of an authorization request. -/
def validateAuthorizeRequest [WebServer] (q : AuthorizeQuery) (client : ClientRecord)
    (headers : HeaderMap) : Except String (String × String × String) :=
  if q.responseType ≠ some "code" then .error "response_type must be code"
  else
    match filled q.redirectUri with
    | none => .error "redirect_uri required"
    | some redirectUri =>
      if !client.redirectUris.contains redirectUri then
        .error "redirect_uri not registered for client"
      else if q.codeChallengeMethod.getD "" ≠ "S256" then
        .error "code_challenge_method must be S256"
      else
        match filled q.codeChallenge with
        | none => .error "code_challenge required"
        | some challenge =>
          let resource := (filled q.resource).getD (requestResource headers)
          if !resourcesEquivalent resource (requestResource headers) &&
              !resourcesEquivalent resource (altRequestResource headers) then
            .error "resource does not match this MCP server"
          else
            match ((q.scope.map splitWhitespace).getD []).find? fun part => part ≠ mcpScope with
            | some part => .error s!"unsupported scope: {part}"
            | none => .ok (redirectUri, challenge, resource)

/-- Percent-encode the bytes that are not unreserved. -/
def urlencodingEncode (s : String) : String :=
  String.join ((asBytes s).map fun b =>
    let c := Char.ofNat b.toNat
    if c.isAlphanum || c == '-' || c == '_' || c == '.' || c == '~' then c.toString
    else "%" ++ toAsciiUppercase (hexEncode [b]))

/-- The query string of an authorization request. -/
def authorizeQueryString (q : AuthorizeQuery) : String :=
  String.intercalate "&" ([("response_type", q.responseType), ("client_id", q.clientId),
    ("redirect_uri", q.redirectUri), ("state", q.state), ("code_challenge", q.codeChallenge),
    ("code_challenge_method", q.codeChallengeMethod), ("resource", q.resource),
    ("scope", q.scope)].filterMap fun (k, v) =>
      (v.filter (· ≠ "")).map fun v => k ++ "=" ++ urlencodingEncode v)

/-- The page that asks for consent. -/
def authorizeGet [WebServer] (user : Option SessionUser) (headers : HeaderMap)
    (q : AuthorizeQuery) (fetched : Except String ClientDoc) : Handler Reply := do
  match filled q.clientId with
  | none => .fail (.text 400 "client_id required")
  | some clientId =>
    let client ← (resolveClient clientId fetched).mapErr (.text 400)
    match validateAuthorizeRequest q client headers with
    | .error e => .fail (.text 400 e)
    | .ok _ =>
      match user with
      | none =>
        let next := "/oauth/authorize?" ++ authorizeQueryString q
        pure (.redirect ("/?next=" ++ urlencodingEncode next))
      | some user =>
        pure (.consent user.login (client.clientName.getD clientId) (authorizeQueryString q))

def codeTtlSecs : ℕ := 600

/-- The redirect back to the client, with the state it sent. -/
def backToClient (redirectUri parameter : String) (q : AuthorizeQuery) : Reply :=
  .redirect (redirectUri ++ "?" ++ parameter ++
    (q.state.map fun state => "&state=" ++ urlencodingEncode state).getD "")

/-- The consent form comes back; `code` is random. -/
def authorizePost [WebServer] (user : Option SessionUser) (headers : HeaderMap)
    (decision : String) (q : AuthorizeQuery) (fetched : Except String ClientDoc) (code : String) :
    Handler Reply := do
  match user with
  | none => .fail (.text 401 "login required")
  | some user =>
    match q.clientId with
    | none => .fail (.text 400 "client_id required")
    | some clientId =>
      let client ← (resolveClient clientId fetched).mapErr (.text 400)
      match validateAuthorizeRequest q client headers with
      | .error e => .fail (.text 400 e)
      | .ok (redirectUri, challenge, resource) =>
        if decision ≠ "approve" then
          pure (backToClient redirectUri "error=access_denied" q)
        else
          .atomic fun s =>
            let record : CodeRecord := ⟨clientId, redirectUri, challenge, resource, user.login,
              saturatingAdd s.now codeTtlSecs⟩
            (.ok (), { s with
              codes := s.codes.insert code record
              issued := ⟨code, q, headers, record⟩ :: s.issued })
          pure (backToClient redirectUri ("code=" ++ urlencodingEncode code) q)

/-! ## Tokens -/

def sessionHmacKey : Locked OAuthServer String Bytes :=
  .atomic fun s =>
    (match s.auth with
      | none => .error "auth not configured"
      | some auth => auth.sessionKeyBytes, s)

section Tokens

variable [crates : TokenCrates]

/-- Mint an access token: its claims and its text. -/
def issueAccessToken (sub resource : String) :
    Locked OAuthServer String (AccessClaims × String) := do
  let key ← sessionHmacKey
  let now ← nowSecs
  pure (accessClaims now sub resource, mintAccessToken now key sub resource)

/-- Mint a refresh token: its claims and its text. -/
def issueRefreshToken (sub clientId resource : String) :
    Locked OAuthServer String (RefreshClaims × String) := do
  let key ← sessionHmacKey
  let now ← nowSecs
  pure (refreshClaims now sub clientId resource, mintRefreshToken now key sub clientId resource)

/-- Mint both tokens and send them. -/
def issueTokens (grant : TokenGrant) (headers : HeaderMap) (form : TokenForm)
    (clientId sub resource : String) : Handler Reply := do
  let access ← (issueAccessToken sub resource).mapErr (.oauthError 500 "server_error")
  let refresh ← (issueRefreshToken sub clientId resource).mapErr (.oauthError 500 "server_error")
  .atomic fun s =>
    (.ok (.tokens access.2 refresh.2), { s with
      responses := ⟨grant, form, headers, access.1, refresh.1, s.now⟩ :: s.responses })

/-- Exchange a code. -/
def tokenAuthorizationCode [WebServer] [pkce : Pkce] (headers : HeaderMap) (form : TokenForm) :
    Handler Reply := do
  let code := trim (form.code.getD "")
  let clientId := trim (form.clientId.getD "")
  let redirectUri := trim (form.redirectUri.getD "")
  let verifier := trim (form.codeVerifier.getD "")
  .failIf (code = "" ∨ clientId = "" ∨ redirectUri = "" ∨ verifier = "")
    (.oauthError 400 "invalid_request"
      "code, client_id, redirect_uri, and code_verifier required")
  let taken ← Locked.atomic fun s =>
    (.ok s.codes[code]?, { s with codes := s.codes.erase code })
  match taken with
  | none => .fail (.oauthError 400 "invalid_grant" "unknown code")
  | some record =>
    let now ← nowSecs
    .failIf (record.exp < now) (.oauthError 400 "invalid_grant" "code expired")
    .failIf (record.clientId ≠ clientId ∨ record.redirectUri ≠ redirectUri)
      (.oauthError 400 "invalid_grant" "code does not match client_id/redirect_uri")
    .failIf (pkce.pkceS256Challenge verifier ≠ record.codeChallenge)
      (.oauthError 400 "invalid_grant" "pkce failed")
    let resource := (filled form.resource).getD record.resource
    .failIf (!resourcesEquivalent resource record.resource &&
        !resourcesEquivalent resource (requestResource headers))
      (.oauthError 400 "invalid_target" "resource mismatch")
    issueTokens (.code code record now) headers form clientId record.sub resource

/-- Exchange a refresh token. -/
def tokenRefresh [WebServer] (headers : HeaderMap) (form : TokenForm) : Handler Reply := do
  let refresh := trim (form.refreshToken.getD "")
  let clientId := trim (form.clientId.getD "")
  .failIf (refresh = "" ∨ clientId = "")
    (.oauthError 400 "invalid_request" "refresh_token and client_id required")
  let invalid := Reply.oauthError 400 "invalid_grant" "invalid or expired refresh_token"
  let key ← sessionHmacKey.mapErr fun _ => invalid
  let now ← nowSecs
  match verifyRefreshToken now key refresh clientId with
  | none => .fail invalid
  | some claims =>
    let resource := (filled form.resource).getD claims.aud
    .failIf (!resourcesEquivalent resource claims.aud &&
        !resourcesEquivalent resource (requestResource headers))
      (.oauthError 400 "invalid_target" "resource mismatch")
    issueTokens (.refresh claims) headers form clientId claims.sub resource

/-- The token endpoint; the body of the request is parsed after the configuration is looked at. -/
def token [WebServer] [Pkce] (headers : HeaderMap) (body : Except String TokenForm) :
    Handler Reply := do
  let configured ← Locked.atomic fun s => (.ok s.auth.isSome, s)
  .failIf (!configured)
    (.oauthError 400 "invalid_request" "bootstrap local admin before MCP OAuth")
  match body with
  | .error e => .fail (.oauthError 400 "invalid_request" e)
  | .ok form =>
    if form.grantType = some "authorization_code" then tokenAuthorizationCode headers form
    else if form.grantType = some "refresh_token" then tokenRefresh headers form
    else .fail (.oauthError 400 "unsupported_grant_type"
      "use authorization_code or refresh_token")

/-! ## The gate before the MCP endpoint -/

/-- Verify an access token for a resource, and keep its claims. -/
def verifyBearer [WebServer] (bearer resource : String) : Handler (Option AccessClaims) := do
  match ← sessionHmacKey.attempt with
  | .error _ => pure none
  | .ok key =>
    let now ← nowSecs
    pure ((verifyAccessToken now key bearer resource).bind fun _ =>
      decodeAccessToken now key bearer)

/-- The bearer of a request. -/
def bearerOf (headers : HeaderMap) : Option String := do
  let authz ← headers.authorization
  let token ← (stripPrefix "Bearer " authz).or (stripPrefix "bearer " authz)
  filled (some token)

/-- Let the request through. -/
def letThrough (headers : HeaderMap) (claims : Option AccessClaims) : Handler Reply :=
  .atomic fun s => (.ok .admitted, { s with admitted := ⟨headers, claims⟩ :: s.admitted })

/-- The gate: a bearer for the resource that the headers name, in either spelling.  A preflight
request, by the method `OPTIONS`, needs none. -/
def requireMcpBearer [WebServer] (options : Bool) (headers : HeaderMap) : Handler Reply := do
  let configured ← Locked.atomic fun s => (.ok s.auth.isSome, s)
  if options || !configured then letThrough headers none
  else
    match bearerOf headers with
    | none => .fail .unauthorized
    | some bearer =>
      match ← verifyBearer bearer (requestResource headers) with
      | some claims => letThrough headers (some claims)
      | none =>
        match ← verifyBearer bearer (altRequestResource headers) with
        | some claims => letThrough headers (some claims)
        | none => .fail .unauthorized

end Tokens

/-! ## Requests -/

/-- A request, or something else that happens to the server. -/
inductive OAuthEvent where
  | register (body : RegisterBody) (random : String)
  | authorizeGet (user : Option SessionUser) (headers : HeaderMap) (q : AuthorizeQuery)
      (fetched : Except String ClientDoc)
  | authorizePost (user : Option SessionUser) (headers : HeaderMap) (decision : String)
      (q : AuthorizeQuery) (fetched : Except String ClientDoc) (code : String)
  | token (headers : HeaderMap) (body : Except String TokenForm)
  | mcp (options : Bool) (headers : HeaderMap)
  /-- The clock shows another second, an earlier one too. -/
  | clock (now : ℕ)
  /-- The admin is configured anew. -/
  | configure (auth : Option AuthBundle)

variable [WebServer] [TokenCrates] [Pkce]

/-- What happens. -/
def OAuthEvent.handle : OAuthEvent → Handler Reply
  | register body random => registerClient body random
  | authorizeGet user headers q fetched => Sandboard.authorizeGet user headers q fetched
  | authorizePost user headers decision q fetched code =>
    Sandboard.authorizePost user headers decision q fetched code
  | .token headers body => Sandboard.token headers body
  | mcp options headers => requireMcpBearer options headers
  | clock now => .atomic fun s => (.ok .done, { s with now := now })
  | configure auth => .atomic fun s => (.ok .done, { s with auth := auth })

/-- The handler up to its reply, an early one too. -/
def OAuthEvent.serve (event : OAuthEvent) : Locked OAuthServer Empty (Option Reply) := do
  match ← event.handle.attempt with
  | .ok reply => pure (some reply)
  | .error reply => pure (some reply)

/-- A client may send any request at any time, one after the other. -/
def Serves {ι : Type} (_ : ι) (_ : Option Reply) (m : Locked OAuthServer Empty (Option Reply)) :
    Prop :=
  ∃ event : OAuthEvent, m = event.serve

/-- A server that has just started, and clients that have not sent anything. -/
def OAuthServer.started (ι : Type) (auth : Option AuthBundle) (now : ℕ) :
    Parties OAuthServer fun _ : ι => Option Reply where
  shared := ⟨∅, ∅, auth, now, [], [], []⟩
  doing _ := .ret (.ok none)

/-- Every interleaving of the requests of any number of clients. -/
def OAuthServer.Reached {ι : Type} [DecidableEq ι] (auth : Option AuthBundle) (now : ℕ)
    (c : Parties OAuthServer fun _ : ι => Option Reply) : Prop :=
  Parties.Runs Serves (started ι auth now) c

end Sandboard

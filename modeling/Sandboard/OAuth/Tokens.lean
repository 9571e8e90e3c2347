import Sandboard.OAuth.Resource

/-!
# Signed tokens

The session cookie, the state of a GitHub login, and the access and refresh tokens of the MCP
server, with the functions that mint and verify them.  All of them are signed with the session
key.  Base64, HMAC, the JSON serializer and the JWT library are parameters; how a payload is read
from its JSON fields is the program's own.
-/

namespace Sandboard

open Text

/-- The bytes of a key, a payload or a signature. -/
abbrev Bytes : Type := List UInt8

/-- A field of a JSON payload. -/
inductive JsonValue where
  | null
  | str (s : String)
  | num (n : ℕ)
  deriving DecidableEq

/-- The fields of a JSON payload, in order. -/
abbrev JsonObject : Type := List (String × JsonValue)

namespace JsonObject

/-- A field that must be a string. -/
def str (o : JsonObject) (key : String) : Option String :=
  match o.lookup key with
  | some (.str s) => some s
  | _ => none

/-- A field that must be a number. -/
def num (o : JsonObject) (key : String) : Option ℕ :=
  match o.lookup key with
  | some (.num n) => some n
  | _ => none

/-- A field that may be missing; the outer `none` refuses the payload. -/
def optStr (o : JsonObject) (key : String) : Option (Option String) :=
  match o.lookup key with
  | none | some .null => some none
  | some (.str s) => some (some s)
  | some (.num _) => none

end JsonObject

/-- What the tokens rest on outside the program. -/
class TokenCrates where
  /-- HMAC-SHA256 of the bytes of a text. -/
  hmac : Bytes → String → Bytes
  /-- URL-safe base64 without padding. -/
  base64 : Bytes → String
  unbase64 : String → Option Bytes
  /-- `serde_json::to_vec` on the fields of a payload. -/
  toVec : JsonObject → Bytes
  fromSlice : Bytes → Option JsonObject
  /-- `jsonwebtoken::encode` for HS256. -/
  encodeJwt : Bytes → JsonObject → String
  /-- `jsonwebtoken::decode` for HS256 at a time, with `exp` and `sub` required and the audience
  not validated: the claims of a token that passes. -/
  decodeJwt : ℕ → Bytes → String → Option JsonObject

/-- The leeway of the JWT library when it validates `exp`, in seconds. -/
def jwtLeeway : ℕ := 60

/-- What is documented of the crates, for a payload and a key: the encodings read back what they
write, base64 has no dot, a JWT is three parts with two dots between them, and one with an `exp`
and a `sub` passes up to the leeway after its `exp`. -/
structure TokenCrates.Documented [crates : TokenCrates] (key : Bytes) (o : JsonObject) : Prop where
  unbase64_base64 : crates.unbase64 (crates.base64 (crates.toVec o)) = some (crates.toVec o)
  dot_notMem_base64 : '.' ∉ (crates.base64 (crates.toVec o)).toList
  fromSlice_toVec : crates.fromSlice (crates.toVec o) = some o
  count_encodeJwt : (crates.encodeJwt key o).toList.count '.' = 2
  count_of_decodeJwt : ∀ (now : ℕ) (text : String) (o' : JsonObject),
    crates.decodeJwt now key text = some o' → text.toList.count '.' = 2
  decodeJwt_encodeJwt : ∀ (now exp : ℕ) (sub : String),
    o.num "exp" = some exp → o.str "sub" = some sub →
      crates.decodeJwt now key (crates.encodeJwt key o) =
        if exp + jwtLeeway < now then none else some o

/-- `u64::saturating_add`. -/
def saturatingAdd (a b : ℕ) : ℕ := min (a + b) (2 ^ 64 - 1)

/-! ## Signed payloads -/

/-- A digit of `hex::encode`. -/
def hexDigit (n : ℕ) : Char := if n < 10 then Char.ofNat (48 + n) else Char.ofNat (87 + n)

/-- `hex::encode`. -/
def hexEncode (bytes : Bytes) : String :=
  String.ofList (bytes.flatMap fun b => [hexDigit (b.toNat / 16), hexDigit (b.toNat % 16)])

/-- The bytes of a text. -/
def asBytes (s : String) : Bytes := s.toUTF8.data.toList

/-- `String::from_utf8`. -/
def fromUtf8? (bytes : Bytes) : Option String := String.fromUTF8? ⟨bytes.toArray⟩

lemma fromUtf8?_asBytes (s : String) : fromUtf8? (asBytes s) = some s := dif_pos s.isValidUTF8

/-- A comparison whose time does not depend on where two texts differ. -/
def constantTimeEq (a b : Bytes) : Bool :=
  if a.length != b.length then false
  else (a.zip b).foldl (fun acc (x, y) => acc ||| (x ^^^ y)) 0 == 0

section Signed

variable [crates : TokenCrates]

/-- The signature of a payload; a key of any length will do. -/
def signPayload (key : Bytes) (payloadB64 : String) : String :=
  hexEncode (crates.hmac key payloadB64)

/-- A payload with its signature after a dot. -/
def signed (key : Bytes) (payload : JsonObject) : String :=
  let payloadB64 := crates.base64 (crates.toVec payload)
  payloadB64 ++ "." ++ signPayload key payloadB64

/-- The fields of a payload whose signature is right. -/
def unsigned (key : Bytes) (text : String) : Option JsonObject := do
  let (payloadB64, sig) ← splitOnce "." text
  if !constantTimeEq (asBytes sig) (asBytes (signPayload key payloadB64)) then none
  else
    let raw ← crates.unbase64 payloadB64
    crates.fromSlice raw

end Signed

/-! ## Session cookies -/

/-- Who is logged in. -/
inductive SessionKind where
  | admin
  | github
  deriving DecidableEq

structure SessionUser where
  kind : SessionKind
  login : String
  deriving DecidableEq

structure SessionPayload where
  kind : SessionKind
  login : String
  exp : ℕ

namespace SessionPayload

def toJson (p : SessionPayload) : JsonObject :=
  [("kind", .str (match p.kind with | .admin => "admin" | .github => "github")),
    ("login", .str p.login), ("exp", .num p.exp)]

def fromJson (o : JsonObject) : Option SessionPayload := do
  let kind ← o.str "kind"
  let kind ←
    if kind = "admin" then some SessionKind.admin
    else if kind = "github" then some .github
    else none
  let login ← o.str "login"
  let exp ← o.num "exp"
  pure ⟨kind, login, exp⟩

end SessionPayload

/-- The payload of a new session. -/
def sessionPayload (now : ℕ) (user : SessionUser) (ttlSecs : ℕ) : SessionPayload :=
  ⟨user.kind, user.login, saturatingAdd now ttlSecs⟩

def encodeSession [TokenCrates] (now : ℕ) (key : Bytes) (user : SessionUser) (ttlSecs : ℕ) :
    String :=
  signed key (sessionPayload now user ttlSecs).toJson

def decodeSession [TokenCrates] (now : ℕ) (key : Bytes) (cookie : String) :
    Option SessionUser := do
  let o ← unsigned key cookie
  let payload ← SessionPayload.fromJson o
  if payload.exp < now then none
  else if isBlank payload.login then none
  else pure ⟨payload.kind, payload.login⟩

/-! ## The state of a GitHub login -/

/-- The state that comes back from GitHub. -/
structure OAuthStatePayload where
  n : String
  exp : ℕ
  /-- The redirect URI of the login. -/
  ru : String
  /-- The path to go to after the login. -/
  next : Option String

namespace OAuthStatePayload

def toJson (p : OAuthStatePayload) : JsonObject :=
  [("n", .str p.n), ("exp", .num p.exp), ("ru", .str p.ru)] ++
    (p.next.map fun next => ("next", JsonValue.str next)).toList

def fromJson (o : JsonObject) : Option OAuthStatePayload := do
  let n ← o.str "n"
  let exp ← o.num "exp"
  let ru ← o.str "ru"
  let next ← o.optStr "next"
  pure ⟨n, exp, ru, next⟩

end OAuthStatePayload

def oauthStateTtlSecs : ℕ := 600

/-- Only the return paths of the MCP authorization. -/
def sanitizeLoginNext (raw : String) : Option String :=
  let raw := trim raw
  if !startsWith "/oauth/authorize" raw then none
  else if contains "://" raw || raw.toList.contains '\\' || raw.toList.contains '\n' ||
      raw.toList.contains '\r' then none
  else some raw

/-- The state of a new login, with a random nonce. -/
def oauthStatePayload (now : ℕ) (nonce : Bytes) (redirect : String) (next : Option String) :
    OAuthStatePayload :=
  ⟨hexEncode nonce, saturatingAdd now oauthStateTtlSecs, redirect, next.bind sanitizeLoginNext⟩

def encodeOauthState [TokenCrates] (now : ℕ) (key nonce : Bytes) (redirect : String)
    (next : Option String) : String :=
  signed key (oauthStatePayload now nonce redirect next).toJson

def decodeOauthState [TokenCrates] (now : ℕ) (key : Bytes) (state : String) :
    Option OAuthStatePayload := do
  let o ← unsigned key state
  let payload ← OAuthStatePayload.fromJson o
  if payload.exp < now || isBlank payload.ru then none else pure payload

/-! ## MCP tokens -/

/-- The scope of every MCP token. -/
def mcpScope : String := "mcp"

def accessTtlSecs : ℕ := 60 * 60

def refreshTtlSecs : ℕ := 60 * 60 * 24 * 30

structure AccessClaims where
  sub : String
  aud : String
  scope : String
  exp : ℕ
  iat : ℕ
  typ : String
  deriving DecidableEq

namespace AccessClaims

def toJson (c : AccessClaims) : JsonObject :=
  [("sub", .str c.sub), ("aud", .str c.aud), ("scope", .str c.scope), ("exp", .num c.exp),
    ("iat", .num c.iat), ("typ", .str c.typ)]

def fromJson (o : JsonObject) : Option AccessClaims := do
  let sub ← o.str "sub"
  let aud ← o.str "aud"
  let scope ← o.str "scope"
  let exp ← o.num "exp"
  let iat ← o.num "iat"
  let typ ← o.str "typ"
  pure ⟨sub, aud, scope, exp, iat, typ⟩

end AccessClaims

structure RefreshClaims where
  sub : String
  aud : String
  clientId : String
  scope : String
  exp : ℕ
  iat : ℕ
  typ : String
  deriving DecidableEq

namespace RefreshClaims

def toJson (c : RefreshClaims) : JsonObject :=
  [("sub", .str c.sub), ("aud", .str c.aud), ("client_id", .str c.clientId),
    ("scope", .str c.scope), ("exp", .num c.exp), ("iat", .num c.iat), ("typ", .str c.typ)]

def fromJson (o : JsonObject) : Option RefreshClaims := do
  let sub ← o.str "sub"
  let aud ← o.str "aud"
  let clientId ← o.str "client_id"
  let scope ← o.str "scope"
  let exp ← o.num "exp"
  let iat ← o.num "iat"
  let typ ← o.str "typ"
  pure ⟨sub, aud, clientId, scope, exp, iat, typ⟩

end RefreshClaims

/-- The claims of a new access token. -/
def accessClaims (now : ℕ) (sub resource : String) : AccessClaims :=
  ⟨sub, resource, mcpScope, saturatingAdd now accessTtlSecs, now, "mcp_access"⟩

/-- The claims of a new refresh token. -/
def refreshClaims (now : ℕ) (sub clientId resource : String) : RefreshClaims :=
  ⟨sub, resource, clientId, mcpScope, saturatingAdd now refreshTtlSecs, now, "mcp_refresh"⟩

section Jwt

variable [crates : TokenCrates]

def mintAccessToken (now : ℕ) (key : Bytes) (sub resource : String) : String :=
  crates.encodeJwt key (accessClaims now sub resource).toJson

def mintRefreshToken (now : ℕ) (key : Bytes) (sub clientId resource : String) : String :=
  crates.encodeJwt key (refreshClaims now sub clientId resource).toJson

/-- The claims of an access token whose signature, time, type and scope are right. -/
def decodeAccessToken (now : ℕ) (key : Bytes) (token : String) : Option AccessClaims := do
  let o ← crates.decodeJwt now key token
  let claims ← AccessClaims.fromJson o
  if claims.typ ≠ "mcp_access" then none
  else if claims.scope ≠ mcpScope then none
  else pure claims

def verifyAccessToken [WebServer] (now : ℕ) (key : Bytes) (token resource : String) :
    Option String := do
  let claims ← decodeAccessToken now key token
  if !resourcesEquivalent claims.aud resource then none
  else pure claims.sub

def verifyRefreshToken (now : ℕ) (key : Bytes) (token clientId : String) :
    Option RefreshClaims := do
  let o ← crates.decodeJwt now key token
  let claims ← RefreshClaims.fromJson o
  if claims.typ ≠ "mcp_refresh" then none
  else if claims.scope ≠ mcpScope then none
  else if claims.clientId ≠ clientId then none
  else pure claims

end Jwt

end Sandboard

import Sandboard.Search

/-!
# The resource of an MCP server

The origin at which a request reached the board, as its headers tell it, and the resource that
tokens are issued for.  Two spellings of a loopback host name one resource.  The parser of URIs
is a parameter.
-/

namespace Sandboard

open Text

/-- The parts of a parsed URI. -/
structure Uri where
  scheme : Option String
  authority : Option String
  host : Option String
  port : Option ℕ
  path : String

/-- What surrounds the server: the parser of URIs, and the `SANDBOARD_PUBLIC_URL` of the
process. -/
class WebServer where
  parseUri : String → Option Uri
  publicUrl : Option String

/-- The headers that the server reads, each where it is there and is visible ASCII. -/
structure HeaderMap where
  xForwardedProto : Option String
  xForwardedHost : Option String
  origin : Option String
  referer : Option String
  host : Option String
  authorization : Option String
  deriving DecidableEq

/-- A request without headers. -/
def HeaderMap.empty : HeaderMap := ⟨none, none, none, none, none, none⟩

/-- The first piece of a header with pieces separated by commas. -/
def firstOfList (value : String) : String :=
  trim (((splitOnce "," value).map Prod.fst).getD value)

/-- The origin that a `Referer` names. -/
def refererOrigin [web : WebServer] (proto : String) (headers : HeaderMap) : Option String := do
  let referer ← headers.referer
  let u ← web.parseUri referer
  let auth ← u.authority
  pure (u.scheme.getD proto ++ "://" ++ auth)

/-- The origin the browser used: what a proxy forwarded, then `Origin`, `Referer` and `Host`, and
the public URL of the process last. -/
def publicOrigin [web : WebServer] (headers : HeaderMap) : String :=
  let proto := firstOfList (headers.xForwardedProto.getD "http")
  let forwarded := (headers.xForwardedHost.map firstOfList).filter (· ≠ "")
  let origin := (headers.origin.map trim).filter fun s => s ≠ "" ∧ s ≠ "null"
  let host := (headers.host.map trim).filter (· ≠ "")
  let publicUrl := (web.publicUrl.map fun s => trimEndMatches '/' (trim s)).filter (· ≠ "")
  ((forwarded.map fun host => proto ++ "://" ++ host).or
    (origin.or ((refererOrigin proto headers).or
      ((host.map fun host => proto ++ "://" ++ host).or publicUrl)))).getD ""

/-- The resource of the MCP server at an origin. -/
def canonicalResource (origin : String) : String :=
  trimEndMatches '/' origin ++ "/mcp"

/-- A resource as it is compared: without the scheme, with one name for all loopback hosts. -/
def normalizeResource [web : WebServer] (raw : String) : String :=
  match web.parseUri (trim raw) with
  | none => trim raw
  | some uri =>
    let host := uri.host.getD ""
    let host := if host == "localhost" || host == "127.0.0.1" || host == "[::1]" || host == "::1"
      then "loopback" else host
    let path := trimEndMatches '/' uri.path
    match uri.port with
    | some p => host ++ ":" ++ toString p ++ path
    | none => host ++ path

/-- `localhost` and `127.0.0.1`, with the same port and path, are one resource. -/
def resourcesEquivalent [WebServer] (a b : String) : Bool :=
  normalizeResource a == normalizeResource b

/-- `str::replacen` for the first occurrence. -/
def replaceFirst (needle replacement s : String) : String :=
  match splitOnce needle s with
  | some (before, after) => before ++ replacement ++ after
  | none => s

/-- The origin with the other spelling of its loopback host. -/
def altOrigin (origin : String) : String :=
  if contains "localhost" origin then replaceFirst "localhost" "127.0.0.1" origin
  else if contains "127.0.0.1" origin then replaceFirst "127.0.0.1" "localhost" origin
  else origin

/-- The resource that the headers of a request name. -/
def requestResource [WebServer] (headers : HeaderMap) : String :=
  canonicalResource (publicOrigin headers)

/-- The same with the other spelling of a loopback host. -/
def altRequestResource [WebServer] (headers : HeaderMap) : String :=
  canonicalResource (altOrigin (publicOrigin headers))

/-! ## Equivalence of resources -/

section Equivalence

variable [WebServer] {a b c : String}

lemma resourcesEquivalent_refl (a : String) : resourcesEquivalent a a := beq_self_eq_true _

lemma resourcesEquivalent_trans (h : resourcesEquivalent a b) (h' : resourcesEquivalent b c) :
    resourcesEquivalent a c := by
  rw [resourcesEquivalent, beq_iff_eq] at *
  exact h.trans h'

end Equivalence

/-! ## Plain addresses -/

/-- A parser for addresses of the form `scheme://host:port/path`, for runs on fixed inputs. -/
def plainUri (s : String) : Option Uri := do
  let (scheme, rest) ← splitOnce "://" s
  let (authority, path) := (splitOnce "/" rest).getD (rest, "")
  let (host, port) := match splitOnce ":" authority with
    | some (host, port) => (host, parseU64 port)
    | none => (authority, none)
  pure ⟨some scheme, some authority, some host, port, "/" ++ path⟩

/-- A server that is reached at plain addresses and has no public URL. -/
abbrev plainServer : WebServer := ⟨plainUri, none⟩

end Sandboard

import Sandboard.Search
import Sandboard.Settings.References

/-!
# The MCP servers of a sandbox

What a profile resolves to when a sandbox is created from it, which servers of the catalog the
sandbox receives, and the documents that name them to the engines.  A worker receives the servers
whose audience allows it and whose transport does not carry the bearer of the cockpit seat.  An
entry of the catalog with an empty command stands for the relay to the board, and its audience is
what the last upsert says, so what keeps the relay away from workers is a condition on the
catalog and not a property of every run.
-/

namespace Sandboard

open Std Text

/-! ## Tokens and the relay -/

/-- The tokens of the cockpit seat. -/
structure OpsMcpTokens where
  accessToken : String
  refreshToken : String
  expiresIn : ℕ
  expiresAt : ℕ
  resource : String
  clientId : String
  sub : String

/-- The stdio client of the board's relay. -/
def sandboardMcpStdioWrapper : String := "/sandbox/.sandboard/mcp/sandboard-mcp-stdio"

/-- The socket on which the relay listens inside a sandbox. -/
def agentSockPath : String := "/sandbox/.sandboard/mcp/agent.sock"

/-- The resource of the cockpit's board server: the label of its transport. -/
def cockpitMcpResource : String :=
  "stdio:socat - UNIX-CONNECT:/sandbox/.sandboard/mcp/agent.sock"

/-- The command of a stdio entry; an empty one stands for the relay. -/
def resolveStdioCommand (command : String) (args : List String) : String × List String :=
  let t := trim command
  if !t.isEmpty then (t, args) else (sandboardMcpStdioWrapper, [])

/-- The command is the client of the board's relay, of this or of an older form. -/
def isSandboardUdsRelay (command : String) (args : List String) : Bool :=
  (command == sandboardMcpStdioWrapper && args.isEmpty) ||
    (command == "socat" && args == ["-", "UNIX-CONNECT:" ++ agentSockPath])

/-- The environment of the relay's client. -/
def localStdioEnv : Env :=
  [("PATH", "/usr/local/bin:/usr/bin:/usr/sbin:/bin:/sbin:/sandbox/.local/bin"),
    ("HOME", "/sandbox"), ("USER", "sandbox")].foldl (fun env (k, v) => env.insert k v) ∅

/-- The environment of every other stdio server, before its own entries. -/
def proxiedEnv : Env :=
  let proxy := "http://10.200.0.1:3128"
  let bundle := "/etc/openshell-tls/ca-bundle.pem"
  [("PATH", "/usr/local/bin:/usr/bin:/bin:/sandbox/.local/bin"), ("HOME", "/sandbox"),
    ("USER", "sandbox"), ("HTTPS_PROXY", proxy), ("HTTP_PROXY", proxy), ("https_proxy", proxy),
    ("http_proxy", proxy), ("ALL_PROXY", proxy), ("NO_PROXY", "127.0.0.1,localhost,::1"),
    ("no_proxy", "127.0.0.1,localhost,::1"), ("SSL_CERT_FILE", bundle),
    ("REQUESTS_CA_BUNDLE", bundle),
    ("NODE_EXTRA_CA_CERTS", "/etc/openshell-tls/openshell-ca.pem")].foldl
      (fun env (k, v) => env.insert k v) ∅

/-- The environment of a stdio server: its own entries win, and the address of the metadata
helper follows its host. -/
def stdioEnv (extra : Env) : Env :=
  let env := extra.toList.foldl (fun env (k, v) => env.insert k v) proxiedEnv
  match env["GCE_METADATA_HOST"]? with
  | some host =>
    if env.contains "GCE_METADATA_IP" then env else env.insert "GCE_METADATA_IP" host
  | none => env

/-- The address of an HTTP entry; an empty one stands for the board's own resource. -/
def resolveHttpUrl (url : String) (auth : McpHttpAuth) (tokens : Option OpsMcpTokens) :
    Option String :=
  let t := trim url
  if !t.isEmpty then some t
  else if auth == .cockpitBearer then
    match tokens with
    | some tok => some tok.resource
    | none => some cockpitMcpResource
  else none

/-- The authorization header of an HTTP entry. -/
def httpHeaders (auth : McpHttpAuth) (tokens : Option OpsMcpTokens) : Option String :=
  match auth with
  | .none => none
  | .cockpitBearer => tokens.map fun tok => "Bearer " ++ tok.accessToken
  | .oAuth _ env => some ("Bearer " ++ ("$\x7b" ++ env ++ "\x7d"))

/-! ## Rendered entries -/

/-- How a document writes the command of a server. -/
inductive CommandLine where
  /-- The command, and its arguments in a field of their own. -/
  | split (command : String) (args : List String)
  /-- One list of the command and its arguments. -/
  | joined (words : List String)

/-- The entry of a server in a document. -/
inductive RenderedEntry where
  | remote (type : Option String) (url : String) (authorization : Option String)
      (env : Option Env)
  | process (type : Option String) (command : CommandLine) (env : Env) (cwd : Option String)

/-- What the entries of one engine look like. -/
structure EntryShape where
  httpType : Option String
  stdioType : Option String
  joinsCommand : Bool
  keepsHttpEnv : Bool
  keepsCwd : Bool

/-- The entry of a server, and none for an HTTP server without an address. -/
def renderEntry (shape : EntryShape) (server : McpServerDesired) (tokens : Option OpsMcpTokens) :
    Option RenderedEntry :=
  match server.transport with
  | .http url auth =>
    (resolveHttpUrl url auth tokens).map fun url =>
      .remote shape.httpType url (httpHeaders auth tokens)
        (if shape.keepsHttpEnv && !server.env.isEmpty then some server.env else none)
  | .stdio command args cwd =>
    let (command, args) := resolveStdioCommand command args
    let env := if isSandboardUdsRelay command args then localStdioEnv else stdioEnv server.env
    some (.process shape.stdioType
      (if shape.joinsCommand then .joined (command :: args) else .split command args) env
      (if shape.keepsCwd then cwd else none))

def renderCursorEntry : McpServerDesired → Option OpsMcpTokens → Option RenderedEntry :=
  renderEntry ⟨some "http", some "stdio", false, true, true⟩

def renderOpencodeEntry : McpServerDesired → Option OpsMcpTokens → Option RenderedEntry :=
  renderEntry ⟨some "remote", some "local", true, false, true⟩

def renderHermesEntry : McpServerDesired → Option OpsMcpTokens → Option RenderedEntry :=
  renderEntry ⟨none, none, false, false, false⟩

/-- The entries of a document, by the ids of their servers. -/
abbrev Document : Type := ExtTreeMap String RenderedEntry

/-- Write the servers that have an entry, one after the other. -/
def document (render : McpServerDesired → Option RenderedEntry) (servers : List McpServerDesired) :
    Document :=
  servers.foldl (fun map s =>
    match render s with
    | some entry => map.insert s.id entry
    | none => map) ∅

/-- What is uploaded into a sandbox: the tokens, and one document an engine. -/
structure InjectedMcp where
  token : Option OpsMcpTokens
  /-- Cursor's document, which Claude and agy read too. -/
  mcpJson : Document
  opencode : Document
  hermes : Document

/-- The configuration for a list of servers. -/
def injectSandboxMcp (tokens : Option OpsMcpTokens) (servers : List McpServerDesired) :
    InjectedMcp where
  token := tokens
  mcpJson := document (renderCursorEntry · tokens) servers
  opencode := document (renderOpencodeEntry · tokens) servers
  hermes := document (renderHermesEntry · tokens) servers

/-! ## Resolving a profile -/

/-- What a sandbox is created with. -/
structure ResolvedSandboxCreate where
  image : String
  policy : String
  cpu : Option String
  memory : Option String
  engine : Option String
  model : Option String
  profileId : Option String
  providers : List String
  mcpServerIds : List String
  env : Env
  prompt : Option String

namespace McpServerDesired

/-- The entry may be given to the kind of sandbox. -/
def allowedFor (forCockpit : Bool) (server : McpServerDesired) : Bool :=
  if forCockpit then server.audience.allowsCockpit
  else server.audience.allowsWorker && !server.transport.isCockpitBearer

end McpServerDesired

namespace Settings

/-- The policy text of a profile, and the seeded minimal one when its policy is missing. -/
def policyYamlForProfile [yaml : PolicyYaml] (s : Settings) (p : SandboxProfile) : String :=
  let id := trim p.policyId
  if id.isEmpty then yaml.seeded "minimal"
  else
    match s.openshellPolicies[id]? with
    | some pol => pol.yaml
    | none => yaml.seeded "minimal"

/-- The servers a profile attaches; a cockpit always gets the board's own. -/
def materializedServers (s : Settings) (p : SandboxProfile) (forCockpit : Bool) :
    List McpServerDesired :=
  let servers := (p.mcpServerIds.filterMap fun id => s.mcpServers[id]?).filter
    (·.allowedFor forCockpit)
  if forCockpit then
    match s.mcpServers[sandboardMcpServerId]? with
    | some sandboard =>
      if sandboard.audience.allowsCockpit && !servers.any (·.id == sandboardMcpServerId) then
        sandboard :: servers
      else servers
    | none => servers
  else servers

/-- The providers of a profile, and those of its servers. -/
def materializedProviders (p : SandboxProfile) (servers : List McpServerDesired) : List String :=
  (servers.flatMap (·.providerNames)).foldl (fun providers n =>
    let n := trim n
    if !n.isEmpty && !providers.contains n then providers ++ [n] else providers) p.providerNames

/-- What a profile resolves to. -/
def materializeResolved [yaml : PolicyYaml] (s : Settings) (p : SandboxProfile)
    (forCockpit : Bool) : ResolvedSandboxCreate :=
  let baseYaml := s.policyYamlForProfile p
  let servers := s.materializedServers p forCockpit
  let fragments := (servers.filterMap (·.policyFragmentYaml)).filter fun f => !isBlank f
  let policy :=
    if fragments.isEmpty then baseYaml
    else
      match yaml.mergePolicyFragments baseYaml fragments with
      | .ok y => y
      | .error _ => baseYaml
  { image := p.image
    policy := policy
    cpu := p.cpu
    memory := p.memory
    engine := trimmedOrNone p.engine
    model := trimmedOrNone p.model
    profileId := some p.id
    providers := materializedProviders p servers
    mcpServerIds := servers.map (·.id)
    env := p.env
    prompt := trimmedOrNone p.prompt }

/-- The servers of a resolved create, read from the catalog again. -/
def attachMcpServersForResolved (s : Settings) (resolved : ResolvedSandboxCreate)
    (forCockpit : Bool) : List McpServerDesired :=
  (resolved.mcpServerIds.filterMap fun id => s.ensureShippedMcpServers.mcpServers[id]?).filter
    (·.allowedFor forCockpit)

/-- The configuration of a worker sandbox. -/
def provisionWorkerMcp (s : Settings) (resolved : ResolvedSandboxCreate) : InjectedMcp :=
  injectSandboxMcp none (s.attachMcpServersForResolved resolved false)

end Settings

end Sandboard

import Sandboard.Model

/-!
# The settings catalogs

The sandbox profiles, the OpenShell policies and the MCP servers of a board, the designated
profiles, and the verbs that change them.  Each verb runs under the write lock of the board
state, so here it is a function from settings to settings with an outcome.  What reads YAML is
a parameter: the texts of the seeded policies and the merge of policy fragments.
-/

namespace Sandboard

open Std Text

/-- The parts of the policy code that are about YAML. -/
class PolicyYaml where
  /-- The text of a seeded policy, by the id of its row. -/
  seeded : String → String
  /-- `merge_policy_fragments`. -/
  mergePolicyFragments : String → List String → Except String String

/-- The policy code where no policy is seeded and no fragment is merged. -/
abbrev PolicyYaml.untouched : PolicyYaml where
  seeded _ := ""
  mergePolicyFragments base _ := .ok base

/-- A policy of the catalog. -/
structure OpenShellPolicy where
  id : String
  name : String
  yaml : String

/-- Id of the board's own MCP server. -/
def sandboardMcpServerId : String := "sandboard"

/-- Which sandboxes may receive an MCP server. -/
inductive McpAudience where
  | cockpit
  | worker
  | both
  deriving DecidableEq

namespace McpAudience

def allowsCockpit : McpAudience → Bool
  | cockpit | both => true
  | worker => false

def allowsWorker : McpAudience → Bool
  | worker | both => true
  | cockpit => false

end McpAudience

/-- How a client authenticates at an HTTP server. -/
inductive McpHttpAuth where
  | none
  /-- The bearer of the cockpit seat, for the board's own server only. -/
  | cockpitBearer
  | oAuth (provider env : String)
  deriving DecidableEq

/-- How a server is reached. -/
inductive McpTransport where
  | http (url : String) (auth : McpHttpAuth)
  | stdio (command : String) (args : List String) (cwd : Option String)
  deriving DecidableEq

namespace McpTransport

/-- The transport carries the bearer of the cockpit seat. -/
def isCockpitBearer : McpTransport → Bool
  | http _ auth => auth == .cockpitBearer
  | stdio .. => false

/-- Trim the fields, and refuse the ones that must not be empty. -/
def normalized (id : String) : McpTransport → Except String McpTransport
  | http url auth =>
    let url := trim url
    if url.isEmpty && auth != .cockpitBearer then
      .error "http mcp server url must not be empty"
    else
      match auth with
      | .oAuth provider env =>
        let provider := trim provider
        let env := trim env
        if provider.isEmpty then .error "oauth auth requires provider"
        else if env.isEmpty then .error "oauth auth requires env"
        else .ok (.http url (.oAuth provider env))
      | auth => .ok (.http url auth)
  | stdio command args cwd =>
    let command := trim command
    if command.isEmpty && id != sandboardMcpServerId then
      .error "stdio mcp server command must not be empty"
    else .ok (.stdio command args ((cwd.map trim).filter fun c => !c.isEmpty))

end McpTransport

/-- Non-secret environment variables. -/
abbrev Env : Type := ExtTreeMap String String

/-- Trim the names, and drop the blank ones. -/
def normalizedEnv (env : Env) : Env :=
  env.toList.foldl (fun acc (k, v) => if (trim k).isEmpty then acc else acc.insert (trim k) v) ∅

/-- Trim the names of a list, and drop the blank ones. -/
def normalizedNames (names : List String) : List String :=
  (names.map trim).filter fun n => !n.isEmpty

/-- A trimmed text, and nothing when it is blank. -/
def trimmedOrNone (text : Option String) : Option String :=
  (text.map trim).filter fun t => !t.isEmpty

/-- A catalog entry for an MCP server. -/
structure McpServerDesired where
  id : String
  name : String
  transport : McpTransport
  policyFragmentYaml : Option String
  providerNames : List String
  env : Env
  audience : McpAudience
  /-- Seeded from the repository. -/
  shipped : Bool

namespace McpServerDesired

/-- The provider of an OAuth server is one of its providers. -/
def withOAuthProvider (transport : McpTransport) (providerNames : List String) : List String :=
  match transport with
  | .http _ (.oAuth provider _) =>
    if providerNames.contains provider then providerNames else providerNames ++ [provider]
  | _ => providerNames

/-- Trim the fields of an entry, and refuse an entry that must not be stored. -/
def normalized (server : McpServerDesired) : Except String McpServerDesired :=
  let id := trim server.id
  let name := trim server.name
  if name.isEmpty then .error "mcp server name must not be empty"
  else
    match server.transport.normalized id with
    | .error e => .error e
    | .ok transport =>
      if transport.isCockpitBearer && id != sandboardMcpServerId then
        .error "cockpit_bearer is reserved for the shipped sandboard cockpit MCP"
      else if transport.isCockpitBearer && server.audience != .cockpit then
        .error "shipped sandboard MCP must use cockpit audience"
      else
        .ok { server with
          id := id
          name := name
          transport := transport
          policyFragmentYaml := trimmedOrNone server.policyFragmentYaml
          providerNames := withOAuthProvider transport (normalizedNames server.providerNames)
          env := normalizedEnv server.env }

/-- The board's own server: stdio with a placeholder for its command. -/
def shippedSandboard : McpServerDesired where
  id := sandboardMcpServerId
  name := "sandboard"
  transport := .stdio "" [] none
  policyFragmentYaml := none
  providerNames := []
  env := ∅
  audience := .cockpit
  shipped := true

/-- The entry is the stdio placeholder that ships today. -/
def isStdioPlaceholder (server : McpServerDesired) : Bool :=
  match server.transport with
  | .stdio command args none => command.isEmpty && args.isEmpty
  | _ => false

end McpServerDesired

/-- A named create-spec for sandboxes. -/
structure SandboxProfile where
  id : String
  name : String
  image : String
  policyId : String
  policyInlineLegacy : Option String
  cpu : Option String
  memory : Option String
  engine : Option String
  model : Option String
  providerNames : List String
  mcpServerIds : List String
  env : Env
  prompt : Option String
  shipped : Bool

/-- The settings of a board, and the cards whose profile overrides refer to them. -/
structure Settings where
  items : ExtTreeMap ItemId WorkItem
  sandboxProfiles : ExtTreeMap String SandboxProfile
  openshellPolicies : ExtTreeMap String OpenShellPolicy
  mcpServers : ExtTreeMap String McpServerDesired
  defaultSandboxProfileId : Option String
  cockpitSandboxProfileId : Option String

/-- The entries of a catalog, in the order of their keys. -/
def entries {κ β : Type} [Ord κ] [TransOrd κ] (catalog : ExtTreeMap κ β) : List β :=
  catalog.toList.map Prod.snd

/-! ## Ids -/

/-- One character of a slug: the text so far, and whether a hyphen is due. -/
def slugStep : List Char × Bool → Char → List Char × Bool
  | (out, pendingHyphen), c =>
    if isAsciiAlphanumeric c then
      ((if pendingHyphen && !out.isEmpty then out ++ ['-'] else out) ++ [c.toLower], false)
    else if isWhitespace c || c == '-' || c == '_' then (out, true)
    else (out, pendingHyphen)

/-- A stable id from a display name. -/
def slugifySandboxProfileId (name : String) : String :=
  let out := (name.toList.foldl slugStep ([], false)).1
  if out.isEmpty then "profile" else String.ofList out

/-- The id `base-n`. -/
def nthId (base : String) (n : ℕ) : String := s!"{base}-{n}"

/-- The first of so many ids from `base-n` on that is not taken. -/
def firstFree {β : Type} (existing : ExtTreeMap String β) (base : String) : ℕ → ℕ → Option String
  | _, 0 => none
  | n, fuel + 1 =>
    if existing.contains (nthId base n) then firstFree existing base (n + 1) fuel
    else some (nthId base n)

/-- The first of `base`, `base-2`, `base-3`, … that is not taken.  At the end of its range the
counter is used unchecked. -/
def allocateUniqueId {β : Type} (existing : ExtTreeMap String β) (base : String) : String :=
  if existing.contains base then
    (firstFree existing base 2 4294967293).getD (nthId base 4294967295)
  else base

/-- The first of `base`, `base-2`, `base-3`, … that is not taken.  The counter is checked to the end
of its range, where counting on overflows. -/
def allocateUniqueMcpServerId {β : Type} (existing : ExtTreeMap String β) (base : String) :
    Except String String :=
  if existing.contains base then
    match firstFree existing base 2 4294967294 with
    | some id => .ok id
    | none => .error "attempt to add with overflow"
  else .ok base

/-- A trimmed id, and a new one from the name when it is blank. -/
def idOrNew {β : Type} (existing : ExtTreeMap String β) (id name : String) : String :=
  if (trim id).isEmpty then allocateUniqueId existing (slugifySandboxProfileId name) else trim id

/-- A trimmed id of an MCP server, and a new one from the name when it is blank. -/
def mcpServerIdOrNew {β : Type} (existing : ExtTreeMap String β) (id name : String) :
    Except String String :=
  if (trim id).isEmpty then allocateUniqueMcpServerId existing (slugifySandboxProfileId name)
  else .ok (trim id)

namespace Settings

/-- The settings of a new board. -/
def empty : Settings where
  items := ∅
  sandboxProfiles := ∅
  openshellPolicies := ∅
  mcpServers := ∅
  defaultSandboxProfileId := none
  cockpitSandboxProfileId := none

/-- The profile that the cockpit is created from. -/
def cockpitTarget (s : Settings) : Option String :=
  s.cockpitSandboxProfileId.or s.defaultSandboxProfileId

/-! ## Seeding -/

/-- Seed a policy row when its id is free. -/
def seedPolicy [yaml : PolicyYaml] (s : Settings) (row : String × String) : Settings :=
  if s.openshellPolicies.contains row.1 then s
  else { s with
    openshellPolicies := s.openshellPolicies.insert row.1 ⟨row.1, row.2, yaml.seeded row.1⟩ }

/-- Seed the minimal policy. -/
def ensureMinimalPolicy [PolicyYaml] (s : Settings) : Settings :=
  s.seedPolicy ("minimal", "Minimal")

/-- The policies of the shipped sandbox images. -/
def cockpitPolicies : List (String × String) :=
  [("cockpit-cursor", "Cockpit (cursor)"), ("cockpit-agy", "Cockpit (agy)"),
    ("cockpit-claude", "Cockpit (claude)"), ("cockpit-opencode", "Cockpit (opencode)"),
    ("cockpit-hermes", "Cockpit (hermes)"), ("cockpit-pi", "Cockpit (pi)")]

/-- Seed the policies of the shipped sandbox images. -/
def ensureShippedCockpitPolicies [PolicyYaml] (s : Settings) : Settings :=
  cockpitPolicies.foldl seedPolicy s

/-- Seed the board's own MCP server, or rewrite a shipped row of an older form. -/
def ensureShippedMcpServers (s : Settings) : Settings :=
  let sandboard := McpServerDesired.shippedSandboard
  match s.mcpServers[sandboard.id]? with
  | none => { s with mcpServers := s.mcpServers.insert sandboard.id sandboard }
  | some existing =>
    if existing.shipped && !existing.isStdioPlaceholder then
      { s with mcpServers := s.mcpServers.insert sandboard.id sandboard }
    else s

/-- The profile with the board's own server first in its list. -/
def attachSandboard (p : SandboxProfile) : SandboxProfile :=
  { p with mcpServerIds := sandboardMcpServerId :: p.mcpServerIds }

/-- Attach the board's own server to the profile of the cockpit. -/
def ensureCockpitSandboardMcpAttach (s : Settings) : Settings :=
  let s := s.ensureShippedMcpServers
  if !s.mcpServers.contains sandboardMcpServerId then s
  else
    match s.cockpitTarget with
    | none => s
    | some pid =>
      match s.sandboxProfiles[pid]? with
      | none => s
      | some p =>
        if p.mcpServerIds.contains sandboardMcpServerId then s
        else { s with sandboxProfiles := s.sandboxProfiles.insert pid (attachSandboard p) }

/-- A shipped profile: its id, name, image, policy id and engine. -/
structure ShippedProfile where
  id : String
  name : String
  image : String
  policyId : String
  engine : String

/-- One profile for each split image. -/
def shippedProfiles : List ShippedProfile :=
  [⟨"sandbox-cursor", "Sandbox (cursor)", "quay.io/sandboard-app/sandbox-cursor:latest",
      "cockpit-cursor", "cursor"⟩,
    ⟨"sandbox-agy", "Sandbox (agy)", "quay.io/sandboard-app/sandbox-agy:latest",
      "cockpit-agy", "agy"⟩,
    ⟨"sandbox-claude", "Sandbox (claude)", "quay.io/sandboard-app/sandbox-claude:latest",
      "cockpit-claude", "claude"⟩,
    ⟨"sandbox-opencode", "Sandbox (opencode)", "quay.io/sandboard-app/sandbox-opencode:latest",
      "cockpit-opencode", "opencode"⟩,
    ⟨"sandbox-hermes", "Sandbox (hermes)", "quay.io/sandboard-app/sandbox-hermes:latest",
      "cockpit-hermes", "hermes"⟩,
    ⟨"sandbox-pi", "Sandbox (pi)", "quay.io/sandboard-app/sandbox-pi:latest",
      "cockpit-pi", "pi"⟩]

/-- The catalog row of a shipped profile. -/
def ShippedProfile.profile (row : ShippedProfile) : SandboxProfile where
  id := row.id
  name := row.name
  image := row.image
  policyId := row.policyId
  policyInlineLegacy := none
  cpu := none
  memory := none
  engine := some row.engine
  model := none
  providerNames := []
  mcpServerIds := [sandboardMcpServerId]
  env := ∅
  prompt := none
  shipped := true

/-- Seed a profile when its id is free. -/
def seedProfile (s : Settings) (row : ShippedProfile) : Settings :=
  if s.sandboxProfiles.contains row.id then s
  else { s with sandboxProfiles := s.sandboxProfiles.insert row.id row.profile }

/-- Seed one profile for each split image; none becomes the default. -/
def ensureShippedSandboxProfiles [PolicyYaml] (s : Settings) : Settings :=
  shippedProfiles.foldl seedProfile s.ensureShippedMcpServers.ensureShippedCockpitPolicies

/-! ## MCP servers -/

/-- Insert or replace an MCP server. -/
def upsertMcpServer [yaml : PolicyYaml] (s : Settings) (server : McpServerDesired) :
    Except String McpServerDesired × Settings :=
  match server.normalized with
  | .error e => (.error e, s)
  | .ok server =>
    let merged := (server.policyFragmentYaml.map fun frag =>
      yaml.mergePolicyFragments "version: 1\nnetwork_policies: {}\n" [frag]).getD (.ok "")
    match merged with
    | .error e => (.error s!"policy_fragment_yaml: {e}", s)
    | .ok _ =>
      match mcpServerIdOrNew s.mcpServers server.id server.name with
      | .error e => (.error e, s)
      | .ok id =>
        let server := { server with id := id }
        (.ok server, { s with mcpServers := s.mcpServers.insert id server })

/-- Delete an MCP server that no profile has attached. -/
def deleteMcpServer (s : Settings) (id : String) : Except String Unit × Settings :=
  match s.mcpServers[id]? with
  | none => (.error s!"no mcp server `{id}`", s)
  | some server =>
    if server.shipped then (.error s!"cannot delete shipped mcp server `{id}`", s)
    else
      match (entries s.sandboxProfiles).find? fun p => p.mcpServerIds.contains id with
      | some p => (.error s!"mcp server `{id}` is attached to sandbox spec `{p.id}`", s)
      | none => (.ok (), { s with mcpServers := s.mcpServers.erase id })

/-! ## Policies -/

/-- Insert or replace a policy. -/
def upsertOpenshellPolicy (s : Settings) (policy : OpenShellPolicy) :
    Except String OpenShellPolicy × Settings :=
  if isBlank policy.name then (.error "policy name must not be empty", s)
  else if isBlank policy.yaml then (.error "policy yaml must not be empty", s)
  else
    let name := trim policy.name
    let id := idOrNew s.openshellPolicies policy.id name
    let stored : OpenShellPolicy := ⟨id, name, policy.yaml⟩
    (.ok stored, { s with openshellPolicies := s.openshellPolicies.insert id stored })

/-- Delete a policy that no profile refers to. -/
def deleteOpenshellPolicy [tables : UnicodeTables] (s : Settings) (id : String) :
    Except String Unit × Settings :=
  if !s.openshellPolicies.contains id then (.error s!"no policy `{id}`", s)
  else
    let inUse := ((entries s.sandboxProfiles).filter fun p => p.policyId == id).map (·.id)
    if !inUse.isEmpty then
      (.error (s!"cannot delete policy `{id}`: in use by sandbox spec(s) " ++
        "[" ++ String.intercalate ", " (inUse.map tables.debug) ++ "]; reassign those specs first"), s)
    else (.ok (), { s with openshellPolicies := s.openshellPolicies.erase id })

/-! ## Sandbox profiles -/

/-- The profile as it is stored: trimmed, and never shipped. -/
def storedProfile (profile : SandboxProfile) (id : String) (mcpServerIds : List String) :
    SandboxProfile where
  id := id
  name := trim profile.name
  image := trim profile.image
  policyId := trim profile.policyId
  policyInlineLegacy := none
  cpu := profile.cpu.filter fun c => !isBlank c
  memory := profile.memory.filter fun m => !isBlank m
  engine := trimmedOrNone profile.engine
  model := trimmedOrNone profile.model
  providerNames := normalizedNames profile.providerNames
  mcpServerIds := mcpServerIds
  env := normalizedEnv profile.env
  prompt := trimmedOrNone profile.prompt
  shipped := false

/-- The list of servers of a profile to store under `id`: the profile of the cockpit keeps the
board's own server. -/
def keptServers (s : Settings) (id : String) (mcpServerIds : List String) : List String :=
  let becomesFirstDefault := s.sandboxProfiles.isEmpty && s.defaultSandboxProfileId.isNone
  if (s.cockpitTarget == some id || becomesFirstDefault) &&
      s.mcpServers.contains sandboardMcpServerId && !mcpServerIds.contains sandboardMcpServerId
  then sandboardMcpServerId :: mcpServerIds
  else mcpServerIds

/-- Insert or replace a profile; the first one becomes the default. -/
def upsertSandboxProfile (s : Settings) (profile : SandboxProfile) :
    Except String SandboxProfile × Settings :=
  let s := s.ensureShippedMcpServers
  if isBlank profile.name then (.error "sandbox profile name must not be empty", s)
  else if isBlank profile.image then (.error "sandbox profile image must not be empty", s)
  else
    let policyId := trim profile.policyId
    if policyId.isEmpty then (.error "sandbox profile policy_id must not be empty", s)
    else if !s.openshellPolicies.contains policyId then (.error s!"no policy `{policyId}`", s)
    else
      let mcpServerIds := normalizedNames profile.mcpServerIds
      match mcpServerIds.find? fun mid => !s.mcpServers.contains mid with
      | some mid => (.error s!"no mcp server `{mid}`", s)
      | none =>
        let id := idOrNew s.sandboxProfiles profile.id (trim profile.name)
        let stored := storedProfile profile id (s.keptServers id mcpServerIds)
        let first := s.sandboxProfiles.isEmpty
        (.ok stored, { s with
          sandboxProfiles := s.sandboxProfiles.insert id stored
          defaultSandboxProfileId :=
            if first && s.defaultSandboxProfileId.isNone then some id
            else s.defaultSandboxProfileId })

/-- Designate the default profile; a cockpit that inherits it keeps the board's own server. -/
def setDefaultSandboxProfile (s : Settings) (id : String) : Except String Unit × Settings :=
  if !s.sandboxProfiles.contains id then (.error s!"no sandbox profile `{id}`", s)
  else
    let s := { s with defaultSandboxProfileId := some id }
    (.ok (), if s.cockpitSandboxProfileId.isNone then s.ensureCockpitSandboardMcpAttach else s)

/-- Designate the profile of the cockpit. -/
def setCockpitSandboxProfile (s : Settings) (id : String) : Except String Unit × Settings :=
  if !s.sandboxProfiles.contains id then (.error s!"no sandbox profile `{id}`", s)
  else
    let s := { s with cockpitSandboxProfileId := some id }
    (.ok (), s.ensureCockpitSandboardMcpAttach)

/-- Let the cockpit inherit the default profile again. -/
def clearCockpitSandboxProfile (s : Settings) : Settings :=
  if s.cockpitSandboxProfileId.isSome then
    { s with cockpitSandboxProfileId := none }.ensureCockpitSandboardMcpAttach
  else s

/-- The resolved override of a Project: blank clears, an unknown id is refused. -/
def resolveOverride (s : Settings) (profileId : Option String) : Except String (Option String) :=
  match profileId.map trim with
  | none => .ok none
  | some pid =>
    if pid.isEmpty then .ok none
    else if !s.sandboxProfiles.contains pid then .error s!"no sandbox profile `{pid}`"
    else .ok (some pid)

/-- Assign the profile override of a Project. -/
def setProjectSandboxProfile (s : Settings) (projectId : ItemId) (profileId : Option String) :
    Except String WorkItem × Settings :=
  match s.items[projectId]? with
  | none => (.error s!"no such item #{projectId}", s)
  | some it =>
    if !it.isProject then (.error s!"#{projectId} is not a Project", s)
    else
      match s.resolveOverride profileId with
      | .error e => (.error e, s)
      | .ok resolved =>
        let it := { it with sandboxProfileId := resolved }
        (.ok it, { s with items := s.items.insert projectId it })

/-- Delete a profile that no Project has as its override; designations of it are cleared. -/
def deleteSandboxProfile (s : Settings) (id : String) : Except String Unit × Settings :=
  if !s.sandboxProfiles.contains id then (.error s!"no sandbox profile `{id}`", s)
  else
    let inUse := ((entries s.items).filter fun i =>
      i.isProject && i.sandboxProfileId == some id).map (·.id)
    if !inUse.isEmpty then
      (.error (s!"cannot delete sandbox profile `{id}`: in use by Project(s) {debugIds inUse}; " ++
        "clear or reassign those overrides first"), s)
    else
      (.ok (), { s with
        defaultSandboxProfileId := s.defaultSandboxProfileId.filter (· ≠ id)
        cockpitSandboxProfileId := s.cockpitSandboxProfileId.filter (· ≠ id)
        sandboxProfiles := s.sandboxProfiles.erase id })

end Settings

end Sandboard

import Sandboard.Settings.Rendering

/-!
# What workers can reach

The configuration of a worker never carries a token of the cockpit seat.  Whether it names the
board's own server or the relay depends on the catalog alone: it does as soon as an attached
entry that allows workers has the id of the board's server or runs the relay.
-/

namespace Sandboard

open Std Text

/-- The text of a signed token: base64url parts with dots between them. -/
def IsJwtText (token : String) : Prop :=
  ∀ c ∈ token.toList, c.isAlphanum ∨ c = '-' ∨ c = '_' ∨ c = '.'

/-- The command starts the relay's client. -/
def startsRelay (command : String) (args : List String) : Bool :=
  command == sandboardMcpStdioWrapper || isSandboardUdsRelay command args

/-- The transport of an entry starts the relay's client. -/
def McpTransport.runsRelay : McpTransport → Bool
  | .stdio command args _ => startsRelay (trim command) args
  | .http _ _ => false

def CommandLine.namesRelay : CommandLine → Bool
  | .split command args => startsRelay command args
  | .joined (command :: args) => startsRelay command args
  | .joined [] => false

def RenderedEntry.namesRelay : RenderedEntry → Bool
  | .process _ command _ _ => command.namesRelay
  | .remote .. => false

/-- The entry carries a token in its authorization header. -/
def RenderedEntry.HoldsToken : RenderedEntry → Prop
  | .remote _ _ authorization _ =>
    ∃ token, IsJwtText token ∧ authorization = some ("Bearer " ++ token)
  | .process .. => False

/-- No document has the board's own server, the relay or a token of the cockpit seat. -/
structure InjectedMcp.Clean (config : InjectedMcp) : Prop where
  token : config.token = none
  entry : ∀ doc ∈ [config.mcpJson, config.opencode, config.hermes],
    ∀ (id : String) (e : RenderedEntry), doc[id]? = some e →
      id ≠ sandboardMcpServerId ∧ e.namesRelay = false ∧ ¬ e.HoldsToken

namespace Settings

/-- Of the servers that the profile attaches for a worker in `s`, none that is still allowed in
`s'` has the id of the board's own server or runs the relay. -/
def Withholds (s s' : Settings) (p : SandboxProfile) : Prop :=
  ∀ id ∈ p.mcpServerIds, ∀ m m' : McpServerDesired,
    s.mcpServers[id]? = some m → m.allowedFor false →
    s'.ensureShippedMcpServers.mcpServers[id]? = some m' → m'.allowedFor false →
      id ≠ sandboardMcpServerId ∧ m'.transport.runsRelay = false

end Settings

/-! ## Catalog entries -/

/-- The entry has an address or a command of its own, where it must have one. -/
def McpTransport.Resolvable (id : String) : McpTransport → Prop
  | .http url auth => (trim url).isEmpty = false ∨ auth = .cockpitBearer
  | .stdio command _ _ => (trim command).isEmpty = false ∨ id = sandboardMcpServerId

lemma McpTransport.resolvable_normalized {id : String} {t t' : McpTransport}
    (h : t.normalized id = .ok t') : t'.Resolvable id := by
  unfold normalized at h
  split at h
  · rename_i url auth
    dsimp only at h
    split at h
    · cases h
    · rename_i hurl
      have hkept : (trim (trim url)).isEmpty = false ∨ auth = .cockpitBearer := by
        rw [trim_trim]
        by_cases hauth : auth = .cockpitBearer
        · exact .inr hauth
        · left
          simpa [hauth] using hurl
      split at h
      · split at h
        · cases h
        · split at h
          · cases h
          · cases h
            refine .inl (hkept.resolve_right ?_)
            intro hauth
            cases hauth
      · cases h
        exact hkept
  · rename_i command args cwd
    dsimp only at h
    split at h
    · cases h
    · rename_i hcommand
      cases h
      change (trim (trim command)).isEmpty = false ∨ id = sandboardMcpServerId
      rw [trim_trim]
      by_cases hid : id = sandboardMcpServerId
      · exact .inr hid
      · left
        simpa [hid] using hcommand

namespace McpServerDesired

/-- A normalized entry has a trimmed id, and a transport that can be resolved. -/
lemma resolvable_normalized {server stored : McpServerDesired}
    (h : server.normalized = .ok stored) :
    stored.id = trim server.id ∧ stored.transport.Resolvable stored.id := by
  unfold normalized at h
  dsimp only at h
  split at h
  · cases h
  · split at h
    · cases h
    · rename_i transport htransport
      split at h
      · cases h
      · split at h
        · cases h
        · cases h
          exact ⟨rfl, McpTransport.resolvable_normalized htransport⟩

/-- It can be resolved under the id under which it is stored, a new one too. -/
lemma resolvable_mcpServerIdOrNew {β : Type} {existing : ExtTreeMap String β}
    {server stored : McpServerDesired} {id : String} (h : server.normalized = .ok stored)
    (hnew : mcpServerIdOrNew existing stored.id stored.name = .ok id) :
    stored.transport.Resolvable id := by
  obtain ⟨hid, hresolvable⟩ := resolvable_normalized h
  have htrim : trim stored.id = stored.id := by rw [hid, trim_trim]
  unfold mcpServerIdOrNew at hnew
  rw [htrim] at hnew
  split at hnew
  · rename_i hblank
    have hne : stored.id ≠ sandboardMcpServerId := by
      intro heq
      rw [heq] at hblank
      exact absurd hblank (by decide)
    cases htransport : stored.transport with
    | http url auth =>
      rw [htransport] at hresolvable
      exact hresolvable
    | stdio command args cwd =>
      rw [htransport] at hresolvable
      exact .inl (hresolvable.resolve_right hne)
  · injection hnew with hnew
    subst hnew
    exact hresolvable

end McpServerDesired

namespace Settings

/-- Every entry of the catalog is stored under its own id and can be resolved. -/
def Catalogued (s : Settings) : Prop :=
  ∀ (k : String) (m : McpServerDesired), s.mcpServers[k]? = some m →
    m.id = k ∧ m.transport.Resolvable k

variable {s s' : Settings}

namespace Catalogued

lemma of_eq (hs : Catalogued s) (h : s'.mcpServers = s.mcpServers) : Catalogued s' := by
  intro k m hm
  rw [h] at hm
  exact hs k m hm

lemma insert (hs : Catalogued s) {m : McpServerDesired} (hm : m.transport.Resolvable m.id) :
    Catalogued { s with mcpServers := s.mcpServers.insert m.id m } := by
  intro k m' hm'
  change (s.mcpServers.insert m.id m)[k]? = some m' at hm'
  rw [ExtTreeMap.getElem?_insert] at hm'
  split at hm'
  · rename_i hk
    cases hm'
    cases LawfulEqCmp.compare_eq_iff_eq.1 hk
    exact ⟨rfl, hm⟩
  · exact hs k m' hm'

lemma erase (hs : Catalogued s) (id : String) :
    Catalogued { s with mcpServers := s.mcpServers.erase id } := by
  intro k m hm
  change (s.mcpServers.erase id)[k]? = some m at hm
  rw [ExtTreeMap.getElem?_erase] at hm
  split at hm
  · cases hm
  · exact hs k m hm

lemma empty : Catalogued Settings.empty := by
  intro k m hm
  simp [Settings.empty] at hm

lemma ensureShippedMcpServers (hs : Catalogued s) : Catalogued s.ensureShippedMcpServers := by
  have hshipped : McpServerDesired.shippedSandboard.transport.Resolvable
      McpServerDesired.shippedSandboard.id := .inr rfl
  unfold Settings.ensureShippedMcpServers
  dsimp only
  split
  · exact hs.insert hshipped
  · split
    · exact hs.insert hshipped
    · exact hs

lemma upsertMcpServer [PolicyYaml] (hs : Catalogued s) (server : McpServerDesired) :
    Catalogued (s.upsertMcpServer server).2 := by
  unfold Settings.upsertMcpServer
  split
  · exact hs
  · rename_i stored hstored
    dsimp only
    split
    · exact hs
    · split
      · exact hs
      · rename_i id hnew
        have hresolvable := McpServerDesired.resolvable_mcpServerIdOrNew hstored hnew
        exact hs.insert (m := { stored with id := id }) hresolvable

end Catalogued

/-! ## Operations that leave the catalog as it is -/

lemma mcpServers_seedPolicies [PolicyYaml] (rows : List (String × String)) (s : Settings) :
    (rows.foldl seedPolicy s).mcpServers = s.mcpServers := by
  induction rows generalizing s with
  | nil => rfl
  | cons row rows ih =>
    rw [List.foldl_cons, ih, seedPolicy]
    split <;> rfl

lemma mcpServers_seedProfiles (rows : List ShippedProfile) (s : Settings) :
    (rows.foldl seedProfile s).mcpServers = s.mcpServers := by
  induction rows generalizing s with
  | nil => rfl
  | cons row rows ih =>
    rw [List.foldl_cons, ih, seedProfile]
    split <;> rfl

lemma mcpServers_ensureShippedSandboxProfiles [PolicyYaml] (s : Settings) :
    s.ensureShippedSandboxProfiles.mcpServers = s.ensureShippedMcpServers.mcpServers :=
  (mcpServers_seedProfiles _ _).trans (mcpServers_seedPolicies _ _)

lemma mcpServers_ensureCockpitSandboardMcpAttach (s : Settings) :
    s.ensureCockpitSandboardMcpAttach.mcpServers = s.ensureShippedMcpServers.mcpServers := by
  unfold ensureCockpitSandboardMcpAttach
  dsimp only
  split
  · rfl
  · split
    · rfl
    · split
      · rfl
      · split <;> rfl

lemma mcpServers_upsertSandboxProfile (s : Settings) (profile : SandboxProfile) :
    (s.upsertSandboxProfile profile).2.mcpServers = s.ensureShippedMcpServers.mcpServers := by
  unfold upsertSandboxProfile
  dsimp only
  split
  · rfl
  · split
    · rfl
    · split
      · rfl
      · split
        · rfl
        · split <;> rfl

lemma mcpServers_deleteSandboxProfile (s : Settings) (id : String) :
    (s.deleteSandboxProfile id).2.mcpServers = s.mcpServers := by
  unfold deleteSandboxProfile
  dsimp only
  split
  · rfl
  · split <;> rfl

lemma mcpServers_upsertOpenshellPolicy (s : Settings) (policy : OpenShellPolicy) :
    (s.upsertOpenshellPolicy policy).2.mcpServers = s.mcpServers := by
  unfold upsertOpenshellPolicy
  dsimp only
  split
  · rfl
  · split <;> rfl

lemma mcpServers_deleteOpenshellPolicy [UnicodeTables] (s : Settings) (id : String) :
    (s.deleteOpenshellPolicy id).2.mcpServers = s.mcpServers := by
  unfold deleteOpenshellPolicy
  dsimp only
  split
  · rfl
  · split <;> rfl

lemma mcpServers_setProjectSandboxProfile (s : Settings) (k : ItemId) (profileId : Option String) :
    (s.setProjectSandboxProfile k profileId).2.mcpServers = s.mcpServers := by
  unfold setProjectSandboxProfile
  split
  · rfl
  · split
    · rfl
    · split <;> rfl

namespace Catalogued

lemma deleteMcpServer (hs : Catalogued s) (id : String) : Catalogued (s.deleteMcpServer id).2 := by
  unfold Settings.deleteMcpServer
  split
  · exact hs
  · split
    · exact hs
    · split
      · exact hs
      · exact hs.erase id

lemma ensureCockpitSandboardMcpAttach (hs : Catalogued s) :
    Catalogued s.ensureCockpitSandboardMcpAttach :=
  hs.ensureShippedMcpServers.of_eq (mcpServers_ensureCockpitSandboardMcpAttach s)

lemma setDefaultSandboxProfile (hs : Catalogued s) (id : String) :
    Catalogued (s.setDefaultSandboxProfile id).2 := by
  have hset : Catalogued { s with defaultSandboxProfileId := some id } := hs.of_eq rfl
  unfold Settings.setDefaultSandboxProfile
  dsimp only
  split
  · exact hs
  · dsimp only
    split
    · exact hset.ensureCockpitSandboardMcpAttach
    · exact hset

lemma setCockpitSandboxProfile (hs : Catalogued s) (id : String) :
    Catalogued (s.setCockpitSandboxProfile id).2 := by
  unfold Settings.setCockpitSandboxProfile
  split
  · exact hs
  · exact ensureCockpitSandboardMcpAttach (hs.of_eq rfl)

lemma clearCockpitSandboxProfile (hs : Catalogued s) : Catalogued s.clearCockpitSandboxProfile := by
  unfold Settings.clearCockpitSandboxProfile
  split
  · exact ensureCockpitSandboardMcpAttach (hs.of_eq rfl)
  · exact hs

end Catalogued

section Runs

variable [UnicodeTables] [PolicyYaml]

/-- Every operation keeps the catalog in order. -/
lemma catalogued_exec (hs : Catalogued s) (op : SettingsVerb) : Catalogued (s.exec op) := by
  cases op with
  | upsertSandboxProfile profile =>
    exact hs.ensureShippedMcpServers.of_eq (mcpServers_upsertSandboxProfile s profile)
  | deleteSandboxProfile id => exact hs.of_eq (mcpServers_deleteSandboxProfile s id)
  | upsertOpenshellPolicy policy => exact hs.of_eq (mcpServers_upsertOpenshellPolicy s policy)
  | deleteOpenshellPolicy id => exact hs.of_eq (mcpServers_deleteOpenshellPolicy s id)
  | upsertMcpServer server => exact hs.upsertMcpServer server
  | deleteMcpServer id => exact hs.deleteMcpServer id
  | setDefaultSandboxProfile id => exact hs.setDefaultSandboxProfile id
  | setCockpitSandboxProfile id => exact hs.setCockpitSandboxProfile id
  | clearCockpitSandboxProfile => exact hs.clearCockpitSandboxProfile
  | setProjectSandboxProfile k profileId =>
    exact hs.of_eq (mcpServers_setProjectSandboxProfile s k profileId)
  | ensureMinimalPolicy => exact hs.of_eq (mcpServers_seedPolicies [("minimal", "Minimal")] s)
  | ensureShippedMcpServers => exact hs.ensureShippedMcpServers
  | ensureCockpitSandboardMcpAttach => exact hs.ensureCockpitSandboardMcpAttach
  | ensureShippedSandboxProfiles =>
    exact hs.ensureShippedMcpServers.of_eq (mcpServers_ensureShippedSandboxProfiles s)
  | addCard card =>
    change Catalogued (s.addCard card)
    unfold addCard
    split
    · exact hs
    · exact hs.of_eq rfl
  | removeCard id => exact hs.of_eq rfl

/-- The catalog is in order after every run from an empty board. -/
lemma catalogued_after (ops : List SettingsVerb) : Catalogued (Run.after exec empty ops) :=
  Run.invariant (I := Catalogued) (fun _ op hs => catalogued_exec hs op) Catalogued.empty ops

end Runs

end Settings

/-! ## Documents -/

section Documents

variable {render : McpServerDesired → Option RenderedEntry} {servers : List McpServerDesired}

/-- One step of writing a document. -/
lemma document_concat (m : McpServerDesired) :
    document render (servers ++ [m]) =
      match render m with
      | some entry => (document render servers).insert m.id entry
      | none => document render servers := by
  rw [document, List.foldl_append]
  rfl

/-- What a document holds comes from one of the servers. -/
lemma exists_of_mem_document {id : String} {e : RenderedEntry}
    (h : (document render servers)[id]? = some e) :
    ∃ m ∈ servers, m.id = id ∧ render m = some e := by
  induction servers using List.reverseRecOn with
  | nil => simp [document] at h
  | append_singleton servers m ih =>
    have hearlier : (document render servers)[id]? = some e →
        ∃ m' ∈ servers ++ [m], m'.id = id ∧ render m' = some e := by
      intro h
      obtain ⟨m', hm', hid, he⟩ := ih h
      exact ⟨m', List.mem_append_left _ hm', hid, he⟩
    rw [document_concat] at h
    split at h
    · rename_i entry hentry
      rw [ExtTreeMap.getElem?_insert] at h
      split at h
      · rename_i hid
        cases h
        exact ⟨m, by simp, LawfulEqCmp.compare_eq_iff_eq.1 hid, hentry⟩
      · exact hearlier h
    · exact hearlier h

/-- A document holds the entry of each server, when no other server has its id. -/
lemma getElem?_document {m : McpServerDesired} {e : RenderedEntry} (hm : m ∈ servers)
    (he : render m = some e) (hsame : ∀ m' ∈ servers, m'.id = m.id → m' = m) :
    (document render servers)[m.id]? = some e := by
  induction servers using List.reverseRecOn with
  | nil => cases hm
  | append_singleton servers last ih =>
    rw [document_concat]
    by_cases hlast : last.id = m.id
    · cases hsame last (by simp) hlast
      rw [he]
      exact ExtTreeMap.getElem?_insert_self
    · have hmem : m ∈ servers := by
        rcases List.mem_append.1 hm with hm | hm
        · exact hm
        · exact absurd (congrArg McpServerDesired.id (List.mem_singleton.1 hm)).symm hlast
      have hkept := ih hmem fun m' hm' => hsame m' (List.mem_append_left _ hm')
      cases render last with
      | none => exact hkept
      | some entry =>
        change ((document render servers).insert last.id entry)[m.id]? = some e
        rw [ExtTreeMap.getElem?_insert, if_neg (fun h => hlast (Std.compare_eq_iff_eq.1 h))]
        exact hkept

end Documents

/-! ## Entries of a worker -/

section Entries

variable {m : McpServerDesired} {e : RenderedEntry} (shape : EntryShape)

/-- Without tokens the only authorization header is the placeholder of an environment variable,
which is no token. -/
lemma not_holdsToken (he : renderEntry shape m none = some e) : ¬ e.HoldsToken := by
  unfold renderEntry at he
  split at he
  · rename_i url auth _
    obtain ⟨url, -, rfl⟩ := Option.map_eq_some_iff.1 he
    rintro ⟨token, htoken, hheader⟩
    cases auth with
    | none => cases hheader
    | cockpitBearer => cases hheader
    | oAuth provider env =>
      have hlists := congrArg String.toList (Option.some.inj hheader)
      rw [String.toList_append, @String.toList_append "Bearer " token,
        List.append_right_inj] at hlists
      have hmem : '$' ∈ token.toList := by
        rw [← hlists, String.toList_append, String.toList_append]
        exact List.mem_append_left _ (List.mem_append_left _ (by decide))
      exact absurd (htoken '$' hmem) (by decide)
  · cases he
    exact id

/-- The entry of a server other than the board's own names the relay when its transport runs it. -/
lemma namesRelay_renderEntry {tokens : Option OpsMcpTokens}
    (hresolvable : m.transport.Resolvable m.id)
    (hid : m.id ≠ sandboardMcpServerId) (he : renderEntry shape m tokens = some e) :
    e.namesRelay = m.transport.runsRelay := by
  unfold renderEntry at he
  cases htransport : m.transport with
  | http url auth =>
    rw [htransport] at he
    obtain ⟨url, -, rfl⟩ := Option.map_eq_some_iff.1 he
    rfl
  | stdio command args cwd =>
    rw [htransport] at he hresolvable
    have hcommand : (trim command).isEmpty = false := hresolvable.resolve_right hid
    have hresolved : resolveStdioCommand command args = (trim command, args) := by
      rw [resolveStdioCommand, hcommand]
      rfl
    simp only [hresolved, Option.some.injEq] at he
    subst he
    cases shape.joinsCommand <;> rfl

/-- A server that may be given to workers always has an entry. -/
lemma exists_renderEntry (tokens : Option OpsMcpTokens)
    (hresolvable : m.transport.Resolvable m.id) (hallowed : m.allowedFor false) :
    ∃ e, renderEntry shape m tokens = some e := by
  unfold renderEntry
  cases htransport : m.transport with
  | http url auth =>
    have hbearer : auth ≠ .cockpitBearer := by
      intro hauth
      have := (Bool.and_eq_true _ _ ▸ hallowed : _ ∧ _).2
      rw [htransport, hauth] at this
      cases this
    rw [htransport] at hresolvable
    have hurl : resolveHttpUrl url auth tokens = some (trim url) := by
      unfold resolveHttpUrl
      simp only [hresolvable.resolve_right hbearer, Bool.not_false, if_true]
    simp only [hurl, Option.map_some]
    exact ⟨_, rfl⟩
  | stdio command args cwd => exact ⟨_, rfl⟩

end Entries

/-! ## The configuration of a worker -/

namespace Settings

section Workers

variable [PolicyYaml] {s s' : Settings} {p : SandboxProfile} {m : McpServerDesired}

/-- The configuration of a worker that is created from a profile: the profile is resolved in one
state and the servers are read again in another. -/
def workerMcp (s s' : Settings) (p : SandboxProfile) : InjectedMcp :=
  s'.provisionWorkerMcp (s.materializeResolved p false)

/-- A worker receives exactly the servers that both states allow it. -/
lemma mem_attachMcpServersForResolved (hs : Catalogued s) :
    m ∈ s'.attachMcpServersForResolved (s.materializeResolved p false) false ↔
      ∃ id ∈ p.mcpServerIds, ∃ before, s.mcpServers[id]? = some before ∧ before.allowedFor false ∧
        s'.ensureShippedMcpServers.mcpServers[id]? = some m ∧ m.allowedFor false := by
  have hids : ∀ k, k ∈ (s.materializeResolved p false).mcpServerIds ↔
      k ∈ p.mcpServerIds ∧ ∃ before, s.mcpServers[k]? = some before ∧ before.allowedFor false := by
    intro k
    change k ∈ (s.materializedServers p false).map (·.id) ↔ _
    simp only [materializedServers, Bool.false_eq_true, if_false, List.mem_map, List.mem_filter,
      List.mem_filterMap]
    constructor
    · rintro ⟨before, ⟨⟨id, hid, hbefore⟩, hallowed⟩, rfl⟩
      rw [(hs id before hbefore).1]
      exact ⟨hid, before, hbefore, hallowed⟩
    · rintro ⟨hk, before, hbefore, hallowed⟩
      exact ⟨before, ⟨⟨k, hk, hbefore⟩, hallowed⟩, (hs k before hbefore).1⟩
  rw [attachMcpServersForResolved, List.mem_filter, List.mem_filterMap]
  constructor
  · rintro ⟨⟨id, hid, hm⟩, hallowed⟩
    obtain ⟨hlisted, before, hbefore, hbeforeAllowed⟩ := (hids id).1 hid
    exact ⟨id, hlisted, before, hbefore, hbeforeAllowed, hm, hallowed⟩
  · rintro ⟨id, hlisted, before, hbefore, hbeforeAllowed, hm, hallowed⟩
    exact ⟨⟨id, (hids id).2 ⟨hlisted, before, hbefore, hbeforeAllowed⟩, hm⟩, hallowed⟩

/-- What a document of a worker holds, when the catalog withholds the board's own server. -/
lemma clean_entry (hs : Catalogued s) (hs' : Catalogued s') (hwithholds : Withholds s s' p)
    (shape : EntryShape) {id : String} {e : RenderedEntry}
    (h : (document (renderEntry shape · none)
      (s'.attachMcpServersForResolved (s.materializeResolved p false) false))[id]? = some e) :
    id ≠ sandboardMcpServerId ∧ e.namesRelay = false ∧ ¬ e.HoldsToken := by
  obtain ⟨m, hm, rfl, he⟩ := exists_of_mem_document h
  obtain ⟨k, hk, before, hbefore, hbeforeAllowed, hmk, hallowed⟩ :=
    (mem_attachMcpServersForResolved hs).1 hm
  obtain ⟨rfl, hresolvable⟩ := hs'.ensureShippedMcpServers k m hmk
  obtain ⟨hid, hrelay⟩ := hwithholds m.id hk before m hbefore hbeforeAllowed hmk hallowed
  exact ⟨hid, (namesRelay_renderEntry shape hresolvable hid he).trans hrelay,
    not_holdsToken shape he⟩

/-- The configuration is clean when the catalog withholds the board's own server and the relay. -/
lemma clean_of_withholds (hs : Catalogued s) (hs' : Catalogued s')
    (hwithholds : Withholds s s' p) : (workerMcp s s' p).Clean := by
  refine ⟨rfl, fun doc hdoc id e he => ?_⟩
  simp only [List.mem_cons, List.not_mem_nil, or_false] at hdoc
  rcases hdoc with rfl | rfl | rfl
  · exact clean_entry hs hs' hwithholds _ he
  · exact clean_entry hs hs' hwithholds _ he
  · exact clean_entry hs hs' hwithholds _ he

/-- A server that the catalog does not withhold shows in the configuration. -/
lemma withholds_of_clean (hs : Catalogued s) (hs' : Catalogued s')
    (hclean : (workerMcp s s' p).Clean) : Withholds s s' p := by
  intro id hid before m hbefore hbeforeAllowed hm hallowed
  obtain ⟨rfl, hresolvable⟩ := hs'.ensureShippedMcpServers id m hm
  obtain ⟨e, he⟩ := exists_renderEntry ⟨some "http", some "stdio", false, true, true⟩
    none hresolvable hallowed
  have hmem : m ∈ s'.attachMcpServersForResolved (s.materializeResolved p false) false :=
    (mem_attachMcpServersForResolved hs).2
      ⟨m.id, hid, before, hbefore, hbeforeAllowed, hm, hallowed⟩
  have hdoc : (workerMcp s s' p).mcpJson[m.id]? = some e := by
    refine getElem?_document hmem he fun m' hm' heq => ?_
    obtain ⟨k, -, -, -, -, hk, -⟩ := (mem_attachMcpServersForResolved hs).1 hm'
    obtain ⟨rfl, -⟩ := hs'.ensureShippedMcpServers k m' hk
    rw [heq] at hk
    exact Option.some.inj (hk.symm.trans hm)
  obtain ⟨hne, hrelay, -⟩ := hclean.entry _ List.mem_cons_self m.id e hdoc
  exact ⟨hne, (namesRelay_renderEntry _ hresolvable hne he).symm.trans hrelay⟩

/-- In every run from an empty board, whatever happens between the resolution of a profile and
the reading of its servers, a worker's configuration is free of the board's own server, of the
relay and of the tokens of the cockpit seat if and only if the catalog withholds them. -/
theorem workerMcp_clean_iff [UnicodeTables] (ops later : List SettingsVerb) (p : SandboxProfile) :
    (workerMcp (Run.after exec empty ops) (Run.after exec empty (ops ++ later)) p).Clean ↔
      Withholds (Run.after exec empty ops) (Run.after exec empty (ops ++ later)) p :=
  ⟨withholds_of_clean (catalogued_after ops) (catalogued_after _),
    clean_of_withholds (catalogued_after ops) (catalogued_after _)⟩

end Workers

/-! ## The board's own server with another audience -/

/-- The shipped profiles are seeded, and an operator saves the board's own server for every
kind of sandbox. -/
def widened : List SettingsVerb :=
  [.ensureShippedSandboxProfiles,
    .upsertMcpServer { McpServerDesired.shippedSandboard with audience := .both }]

lemma sandboard_widened :
    let := asciiTables
    let := PolicyYaml.untouched
    let s := Run.after exec empty widened
    (s.mcpServers[sandboardMcpServerId]?).any (·.allowedFor false) ∧
      (s.ensureShippedMcpServers.mcpServers[sandboardMcpServerId]?).any (·.allowedFor false) := by
  decide +kernel

lemma not_withholds_of_any {s : Settings} {p : SandboxProfile}
    (hp : sandboardMcpServerId ∈ p.mcpServerIds)
    (h : (s.mcpServers[sandboardMcpServerId]?).any (·.allowedFor false) ∧
      (s.ensureShippedMcpServers.mcpServers[sandboardMcpServerId]?).any (·.allowedFor false)) :
    ¬ Withholds s s p := by
  intro hwithholds
  obtain ⟨m, hm, hallowed⟩ := (Option.any_eq_true _ _).1 h.1
  obtain ⟨m', hm', hallowed'⟩ := (Option.any_eq_true _ _).1 h.2
  exact (hwithholds _ hp m m' hm hallowed hm' hallowed').1 rfl

/-- With the audience of the board's own server widened, a worker that is created from a shipped
profile receives it. -/
theorem not_clean_widened :
    let := asciiTables
    let := PolicyYaml.untouched
    ∃ row ∈ shippedProfiles, ¬ (workerMcp (Run.after exec empty widened)
      (Run.after exec empty widened) row.profile).Clean := by
  have hafter := @catalogued_after asciiTables PolicyYaml.untouched widened
  refine ⟨_, List.mem_cons_self, fun hclean => ?_⟩
  exact not_withholds_of_any List.mem_cons_self sandboard_widened
    (@withholds_of_clean PolicyYaml.untouched _ _ _ hafter hafter hclean)

end Settings

end Sandboard

import Mathlib.Data.List.Forall2
import Sandboard.Library.Run
import Sandboard.Search
import Sandboard.Settings.Catalog

/-!
# Names of outbound OAuth connections

A connected MCP server gets a provider, a provider type, a variable in the environment of the
sandboxes and an entry of their network policies, each named after the id of the server.  The
first two hold the id as it is; the last two hold a slug of it, and two ids with the same slug
share the variable and the policy.
-/

namespace Sandboard

open Std Text

namespace McpOAuth

/-! ## Names -/

/-- Stable provider instance name for an MCP catalog id. -/
def providerNameFor (serverId : String) : String := "mcp-" ++ serverId

/-- Stable provider type id for an MCP catalog id. -/
def providerTypeIdFor (serverId : String) : String := "mcp-oauth-" ++ serverId

/-- One character of a slug. -/
def slugChar (c : Char) : Char :=
  if isAsciiAlphanumeric c then c.toUpper else '_'

def envSlug (serverId : String) : String :=
  let out := String.ofList (serverId.toList.map slugChar)
  if out.isEmpty then "SERVER" else out

/-- Variable with the credential in the sandboxes. -/
def accessTokenEnvFor (serverId : String) : String :=
  "MCP_OAUTH_" ++ envSlug serverId ++ "_ACCESS_TOKEN"

/-- Name of the entry that `render_mcp_egress_fragment` writes. -/
def policyNameFor (serverId : String) : String :=
  "mcp_oauth_" ++ toAsciiLowercase (envSlug serverId)

def sanitizeServerId (id : String) : Except String String :=
  let id := trim id
  if id.isEmpty then .error "server_id required"
  else if 64 < byteLength id ||
      !id.toList.all fun c => isAsciiAlphanumeric c || c == '-' || c == '_' then
    .error "server_id must be [A-Za-z0-9_-]\x7b\x7b1,64\x7d\x7d"
  else .ok id

/-- The names of two servers differ, each kind by itself. -/
structure DistinctNames (a b : String) : Prop where
  provider : providerNameFor a ≠ providerNameFor b
  type : providerTypeIdFor a ≠ providerTypeIdFor b
  env : accessTokenEnvFor a ≠ accessTokenEnvFor b
  policy : policyNameFor a ≠ policyNameFor b

/-- Two characters that a slug does not tell apart: letters or digits up to case, or two that are
neither. -/
def SameInSlug (c d : Char) : Prop :=
  isAsciiAlphanumeric c = isAsciiAlphanumeric d ∧ (isAsciiAlphanumeric c → c.toUpper = d.toUpper)

/-- The characters that a slug is made of. -/
def slugged (serverId : String) : List Char :=
  if serverId.isEmpty then "SERVER".toList else serverId.toList

/-- Two ids that differ only in what a slug does not tell apart. -/
def Confusable (a b : String) : Prop :=
  List.Forall₂ SameInSlug (slugged a) (slugged b)

lemma ascii_of_isAsciiAlphanumeric {c : Char} (h : isAsciiAlphanumeric c) : c.toNat < 128 := by
  simp only [isAsciiAlphanumeric, Char.isAlphanum, isAlpha_eq, isUpper_eq, isLower_eq,
    Char.isDigit, Bool.or_eq_true, Bool.and_eq_true, decide_eq_true_eq, ge_iff_le,
    UInt32.le_iff_toNat_le] at h
  have hupper : 'Z'.val.toNat = 90 := rfl
  have hlower : 'z'.val.toNat = 122 := rfl
  have hdigit : '9'.val.toNat = 57 := rfl
  change c.val.toNat < 128
  omega

/-- A letter or digit in upper case is no underscore, and lower case does not lose it. -/
lemma toUpper_spec {c : Char} (h : isAsciiAlphanumeric c) :
    c.toUpper ≠ '_' ∧ c.toUpper.toLower.toUpper = c.toUpper := by
  have hall : ∀ n < 128, isAsciiAlphanumeric (Char.ofNat n) → (Char.ofNat n).toUpper ≠ '_' ∧
      (Char.ofNat n).toUpper.toLower.toUpper = (Char.ofNat n).toUpper := by decide
  have hc := hall c.toNat (ascii_of_isAsciiAlphanumeric h)
  rw [Char.ofNat_toNat] at hc
  exact hc h

lemma slugChar_eq_iff {c d : Char} : slugChar c = slugChar d ↔ SameInSlug c d := by
  unfold slugChar SameInSlug
  cases hc : isAsciiAlphanumeric c with
  | false =>
    cases hd : isAsciiAlphanumeric d with
    | false => exact iff_of_true rfl ⟨rfl, nofun⟩
    | true => exact iff_of_false (fun h => (toUpper_spec hd).1 h.symm) (fun h => nomatch h.1)
  | true =>
    cases hd : isAsciiAlphanumeric d with
    | false => exact iff_of_false (toUpper_spec hc).1 (fun h => nomatch h.1)
    | true => exact ⟨fun h => ⟨rfl, fun _ => h⟩, fun h => h.2 rfl⟩

lemma toUpper_toLower_slugChar (c : Char) : (slugChar c).toLower.toUpper = slugChar c := by
  unfold slugChar
  split
  · rename_i h
    exact (toUpper_spec h).2
  · decide

lemma toList_envSlug (id : String) : (envSlug id).toList = (slugged id).map slugChar := by
  unfold envSlug slugged
  dsimp only
  by_cases hid : id = ""
  · subst hid
    decide
  · have hout : ¬(String.ofList (id.toList.map slugChar)).isEmpty = true := by
      rw [String.isEmpty_iff, ← String.toList_eq_nil_iff, String.toList_ofList,
        List.map_eq_nil_iff, String.toList_eq_nil_iff]
      exact hid
    have hin : ¬id.isEmpty = true := by
      rw [String.isEmpty_iff]
      exact hid
    rw [if_neg hout, if_neg hin, String.toList_ofList]

lemma map_eq_iff {f : Char → Char} (hf : ∀ c d, f c = f d ↔ SameInSlug c d) {a b : List Char} :
    a.map f = b.map f ↔ List.Forall₂ SameInSlug a b := by
  have hrel : (fun c d => f c = f d) = SameInSlug :=
    funext fun c => funext fun d => propext (hf c d)
  rw [← List.forall₂_eq_eq_eq, List.forall₂_map_left_iff, List.forall₂_map_right_iff, hrel]

lemma envSlug_eq_iff {a b : String} : envSlug a = envSlug b ↔ Confusable a b := by
  rw [← String.toList_inj, toList_envSlug, toList_envSlug]
  exact map_eq_iff fun c d => slugChar_eq_iff

lemma toAsciiLowercase_envSlug_eq_iff {a b : String} :
    toAsciiLowercase (envSlug a) = toAsciiLowercase (envSlug b) ↔ Confusable a b := by
  have hlower : ∀ c d, (slugChar c).toLower = (slugChar d).toLower ↔ SameInSlug c d := by
    intro c d
    rw [← slugChar_eq_iff]
    constructor
    · intro h
      rw [← toUpper_toLower_slugChar c, h, toUpper_toLower_slugChar]
    · exact congrArg Char.toLower
  rw [← String.toList_inj, toList_toAsciiLowercase, toList_toAsciiLowercase, toList_envSlug,
    toList_envSlug, List.map_map, List.map_map]
  exact map_eq_iff hlower

lemma accessTokenEnvFor_eq_iff {a b : String} :
    accessTokenEnvFor a = accessTokenEnvFor b ↔ Confusable a b := by
  unfold accessTokenEnvFor
  rw [String.append_left_inj, String.append_right_inj, envSlug_eq_iff]

lemma policyNameFor_eq_iff {a b : String} : policyNameFor a = policyNameFor b ↔ Confusable a b := by
  unfold policyNameFor
  rw [String.append_right_inj, toAsciiLowercase_envSlug_eq_iff]

lemma Confusable.symm {a b : String} (h : Confusable a b) : Confusable b a :=
  envSlug_eq_iff.1 (envSlug_eq_iff.2 h).symm

/-- The names of two servers differ exactly when a slug tells the ids apart. -/
lemma distinctNames_iff {a b : String} (hne : a ≠ b) : DistinctNames a b ↔ ¬Confusable a b := by
  constructor
  · exact fun h hconfusable => h.env (accessTokenEnvFor_eq_iff.2 hconfusable)
  · intro h
    exact ⟨fun heq => hne ((String.append_right_inj _).1 heq),
      fun heq => hne ((String.append_right_inj _).1 heq), fun heq => h (accessTokenEnvFor_eq_iff.1 heq), fun heq => h (policyNameFor_eq_iff.1 heq)⟩

/-! ## Connections -/

/-- What connected servers have on the board, with their credentials opened. -/
structure Connections where
  /-- The policy fragments of the catalog, an entry name with its hosts. -/
  servers : ExtTreeMap String (String × List String)
  /-- The variable and the access token of a provider. -/
  providers : ExtTreeMap String (String × String)
  /-- The variable of a provider type. -/
  providerTypes : ExtTreeMap String String

/-- What the network answers to a callback. -/
structure TokenAnswer where
  accessToken : Option String
  refreshToken : Option String
  hosts : List String
  /-- The provider type is imported by the gateway. -/
  imported : Except String Unit

/-- A request about the connection of a server. -/
inductive OAuthVerb where
  | connect (serverId : String) (answer : TokenAnswer)
  | disconnect (serverId : String)
  | delete (serverId : String)

namespace Connections

/-- No server is connected. -/
def empty : Connections := ⟨∅, ∅, ∅⟩

/-- Store what a connected server needs, under the names of its id. -/
def finishOauthConnect (serverId : String) (answer : TokenAnswer) (s : Connections) :
    Except String Unit × Connections :=
  match answer.accessToken.filter fun t => !t.isEmpty with
  | none => (.error "token response missing access_token", s)
  | some access =>
    if (answer.refreshToken.filter fun t => !t.isEmpty).isNone then
      (.error "token response missing refresh_token (need offline_access)", s)
    else
      let envKey := accessTokenEnvFor serverId
      let typeId := providerTypeIdFor serverId
      let s := { s with providerTypes := s.providerTypes.insert typeId envKey }
      match answer.imported with
      | .error e => (.error s!"import provider type {typeId}: {e}", s)
      | .ok () =>
        (.ok (), { s with
          providers := s.providers.insert (providerNameFor serverId) (envKey, access)
          servers := s.servers.insert serverId (policyNameFor serverId, answer.hosts) })

/-- Drop the provider and the provider type of a server. -/
def dropProvider (serverId : String) (s : Connections) : Connections :=
  { s with
    providers := s.providers.erase (providerNameFor serverId)
    providerTypes := s.providerTypes.erase (providerTypeIdFor serverId) }

/-- The connections after a request. -/
def perform (s : Connections) : OAuthVerb → Connections
  | .connect serverId answer =>
    match sanitizeServerId serverId with
    | .error _ => s
    | .ok id => (s.finishOauthConnect id answer).2
  | .disconnect serverId =>
    match sanitizeServerId (trim serverId) with
    | .error _ => s
    | .ok id => s.dropProvider id
  | .delete serverId =>
    if s.servers.contains serverId then
      { s with servers := s.servers.erase serverId }.dropProvider serverId
    else s

end Connections

/-- The server that a request is about. -/
def OAuthVerb.target : OAuthVerb → Option String
  | connect serverId _ => (sanitizeServerId serverId).toOption
  | disconnect serverId => (sanitizeServerId (trim serverId)).toOption
  | delete serverId => some serverId

/-- Put the entry of an id into a map. -/
def addRow {β : Type} (row : String → Option (String × β)) (m : ExtTreeMap String β)
    (id : String) : ExtTreeMap String β :=
  match row id with
  | some (k, v) => m.insert k v
  | none => m

/-- Put entries into a map one after the other. -/
def merged {β : Type} (row : String → Option (String × β)) (ids : List String) :
    ExtTreeMap String β :=
  ids.foldl (addRow row) ∅

namespace Connections

/-- The environment of a sandbox that attaches servers: the credentials of their providers. -/
def environment (s : Connections) (attached : List String) : ExtTreeMap String String :=
  merged (fun id => s.providers[providerNameFor id]?) attached

/-- The network policies of a sandbox that attaches servers: `merge_network_policies` of their
fragments. -/
def networkPolicies (s : Connections) (attached : List String) :
    ExtTreeMap String (List String) :=
  merged (fun id => s.servers[id]?) attached

/-- A request about one server leaves every other attached server its own credential and policy
in the sandbox. -/
def KeepsOthers (s : Connections) (v : OAuthVerb) (attached : List String) : Prop :=
  ∀ id ∈ attached, v.target ≠ some id →
    (∀ k token, s.providers[providerNameFor id]? = some (k, token) →
      ((s.perform v).environment attached)[accessTokenEnvFor id]? = some token) ∧
    (∀ name hosts, s.servers[id]? = some (name, hosts) →
      ((s.perform v).networkPolicies attached)[policyNameFor id]? = some hosts)

end Connections

/-! ## Maps that are merged -/

section Merging

variable {β : Type} {row : String → Option (String × β)} {k : String} {v : β}

lemma getElem?_addRow_of_ne {m : ExtTreeMap String β} {id : String}
    (h : ∀ w, row id ≠ some (k, w)) : (addRow row m id)[k]? = m[k]? := by
  unfold addRow
  cases hrow : row id with
  | none => rfl
  | some p =>
    obtain ⟨k', w⟩ := p
    have hne : k' ≠ k := by
      rintro rfl
      exact h w hrow
    dsimp only
    rw [ExtTreeMap.getElem?_insert, if_neg fun heq => hne (Std.compare_eq_iff_eq.1 heq)]

/-- An entry that no other one replaces is in the merged map. -/
lemma getElem?_foldl_addRow {ids : List String} (hsome : ∃ id ∈ ids, row id = some (k, v))
    (hall : ∀ id ∈ ids, ∀ w, row id = some (k, w) → w = v) (m : ExtTreeMap String β) :
    (ids.foldl (addRow row) m)[k]? = some v := by
  induction ids generalizing m with
  | nil =>
    obtain ⟨id, hid, -⟩ := hsome
    cases hid
  | cons x xs ih =>
    rw [List.foldl_cons]
    have hrest : ∀ id ∈ xs, ∀ w, row id = some (k, w) → w = v :=
      fun id hid => hall id (List.mem_cons_of_mem x hid)
    by_cases hlater : ∃ id ∈ xs, row id = some (k, v)
    · exact ih hlater hrest _
    · have hnone : ∀ id ∈ xs, ∀ w, row id ≠ some (k, w) := by
        intro id hid w hrow
        exact hlater ⟨id, hid, hrest id hid w hrow ▸ hrow⟩
      have hx : row x = some (k, v) := by
        obtain ⟨id, hid, hrow⟩ := hsome
        rcases List.mem_cons.1 hid with rfl | htail
        · exact hrow
        · exact absurd ⟨id, htail, hrow⟩ hlater
      have hkept : ∀ (l : List String) (m : ExtTreeMap String β),
          (∀ id ∈ l, ∀ w, row id ≠ some (k, w)) → (l.foldl (addRow row) m)[k]? = m[k]? := by
        intro l
        induction l with
        | nil => exact fun _ _ => rfl
        | cons y ys ihy =>
          intro m hys
          rw [List.foldl_cons, ihy _ fun id hid => hys id (List.mem_cons_of_mem y hid)]
          exact getElem?_addRow_of_ne (hys y List.mem_cons_self)
      rw [hkept xs _ hnone]
      unfold addRow
      rw [hx]
      exact ExtTreeMap.getElem?_insert_self

end Merging

/-! ## Requests about other servers -/

/-- An id that the requests accept as it is. -/
def Admitted (id : String) : Prop := sanitizeServerId id = .ok id

lemma admitted_of_sanitize {raw id : String} (h : sanitizeServerId raw = .ok id) : Admitted id := by
  have htrim : id = trim raw := by
    unfold sanitizeServerId at h
    dsimp only at h
    split at h
    · cases h
    · split at h
      · cases h
      · exact (Except.ok.inj h).symm
  unfold Admitted
  rw [← h, htrim]
  unfold sanitizeServerId
  rw [trim_trim]

namespace Connections

variable {s : Connections} {v : OAuthVerb} {id : String}

lemma getElem?_insert_provider (m : ExtTreeMap String (String × String)) (id' : String)
    (row : String × String) : (m.insert (providerNameFor id') row)[providerNameFor id]? =
      if id' = id then some row else m[providerNameFor id]? := by
  rw [ExtTreeMap.getElem?_insert]
  refine if_congr ?_ rfl rfl
  rw [Std.compare_eq_iff_eq]
  exact String.append_right_inj _

lemma getElem?_erase_provider (m : ExtTreeMap String (String × String)) (id' : String) :
    (m.erase (providerNameFor id'))[providerNameFor id]? =
      if id' = id then none else m[providerNameFor id]? := by
  rw [ExtTreeMap.getElem?_erase]
  refine if_congr ?_ rfl rfl
  rw [Std.compare_eq_iff_eq]
  exact String.append_right_inj _

/-- The rows of a server after a callback for one. -/
lemma rows_finishOauthConnect (serverId : String) (answer : TokenAnswer) (s : Connections) :
    (s.finishOauthConnect serverId answer).2.providers = s.providers ∧
        (s.finishOauthConnect serverId answer).2.servers = s.servers ∨
      ∃ access, answer.accessToken = some access ∧
        (s.finishOauthConnect serverId answer).2.providers =
          s.providers.insert (providerNameFor serverId) (accessTokenEnvFor serverId, access) ∧
        (s.finishOauthConnect serverId answer).2.servers =
          s.servers.insert serverId (policyNameFor serverId, answer.hosts) := by
  unfold finishOauthConnect
  split
  · exact Or.inl ⟨rfl, rfl⟩
  · rename_i access haccess
    split
    · exact Or.inl ⟨rfl, rfl⟩
    · dsimp only
      split
      · exact Or.inl ⟨rfl, rfl⟩
      · exact Or.inr ⟨access, (Option.filter_eq_some_iff.1 haccess).1, rfl, rfl⟩

/-- The provider row of a server after a request: a callback stores one, the other requests can
only drop it, and a request about another server leaves it alone. -/
lemma providers_perform (s : Connections) (v : OAuthVerb) (id : String) :
    (s.perform v).providers[providerNameFor id]? = s.providers[providerNameFor id]? ∨
      v.target = some id ∧ ((s.perform v).providers[providerNameFor id]? = none ∨
        Admitted id ∧ ∃ access, (s.perform v).providers[providerNameFor id]? =
          some (accessTokenEnvFor id, access)) := by
  cases v with
  | connect raw answer =>
    unfold perform OAuthVerb.target
    dsimp only
    cases hid : sanitizeServerId raw with
    | error e => exact Or.inl rfl
    | ok id' =>
      dsimp only
      rcases rows_finishOauthConnect id' answer s with ⟨hsame, -⟩ | ⟨access, -, hnew, -⟩
      · rw [hsame]
        exact Or.inl rfl
      · rw [hnew, getElem?_insert_provider]
        by_cases heq : id' = id
        · subst heq
          rw [if_pos rfl]
          exact Or.inr ⟨rfl, Or.inr ⟨admitted_of_sanitize hid, access, rfl⟩⟩
        · rw [if_neg heq]
          exact Or.inl rfl
  | disconnect raw =>
    unfold perform OAuthVerb.target
    dsimp only
    cases hid : sanitizeServerId (trim raw) with
    | error e => exact Or.inl rfl
    | ok id' =>
      unfold dropProvider
      dsimp only
      rw [getElem?_erase_provider]
      by_cases heq : id' = id
      · subst heq
        rw [if_pos rfl]
        exact Or.inr ⟨rfl, Or.inl rfl⟩
      · rw [if_neg heq]
        exact Or.inl rfl
  | delete id' =>
    unfold perform OAuthVerb.target
    dsimp only
    split
    · unfold dropProvider
      dsimp only
      rw [getElem?_erase_provider]
      by_cases heq : id' = id
      · subst heq
        rw [if_pos rfl]
        exact Or.inr ⟨rfl, Or.inl rfl⟩
      · rw [if_neg heq]
        exact Or.inl rfl
    · exact Or.inl rfl

/-- The policy fragment of a server after a request. -/
lemma servers_perform (s : Connections) (v : OAuthVerb) (id : String) :
    (s.perform v).servers[id]? = s.servers[id]? ∨
      v.target = some id ∧ ((s.perform v).servers[id]? = none ∨
        Admitted id ∧ ∃ hosts, (s.perform v).servers[id]? = some (policyNameFor id, hosts)) := by
  cases v with
  | connect raw answer =>
    unfold perform OAuthVerb.target
    dsimp only
    cases hid : sanitizeServerId raw with
    | error e => exact Or.inl rfl
    | ok id' =>
      dsimp only
      rcases rows_finishOauthConnect id' answer s with ⟨-, hsame⟩ | ⟨access, -, -, hnew⟩
      · rw [hsame]
        exact Or.inl rfl
      · rw [hnew, ExtTreeMap.getElem?_insert]
        by_cases heq : id' = id
        · subst heq
          rw [if_pos (Std.compare_eq_iff_eq.2 rfl)]
          exact Or.inr ⟨rfl, Or.inr ⟨admitted_of_sanitize hid, answer.hosts, rfl⟩⟩
        · rw [if_neg fun h => heq (Std.compare_eq_iff_eq.1 h)]
          exact Or.inl rfl
  | disconnect raw =>
    unfold perform
    dsimp only
    split <;> exact Or.inl rfl
  | delete id' =>
    unfold perform OAuthVerb.target
    dsimp only
    split
    · unfold dropProvider
      dsimp only
      rw [ExtTreeMap.getElem?_erase]
      by_cases heq : id' = id
      · subst heq
        rw [if_pos (Std.compare_eq_iff_eq.2 rfl)]
        exact Or.inr ⟨rfl, Or.inl rfl⟩
      · rw [if_neg fun h => heq (Std.compare_eq_iff_eq.1 h)]
        exact Or.inl rfl
    · exact Or.inl rfl

/-- Each row has the names of the id that it is under, and the requests accept that id. -/
structure Named (s : Connections) : Prop where
  providers : ∀ id k token, s.providers[providerNameFor id]? = some (k, token) →
    k = accessTokenEnvFor id ∧ Admitted id
  servers : ∀ id name hosts, s.servers[id]? = some (name, hosts) →
    name = policyNameFor id ∧ Admitted id

lemma named_empty : Named empty where
  providers _ _ _ h := nomatch h
  servers _ _ _ h := nomatch h

/-- Every request keeps the rows named. -/
lemma named_perform (hs : Named s) (v : OAuthVerb) : Named (s.perform v) where
  providers id k token h := by
    rcases providers_perform s v id with hsame | ⟨-, hnone | ⟨hid, access, hnew⟩⟩
    · exact hs.providers id k token (hsame ▸ h)
    · rw [hnone] at h
      cases h
    · rw [hnew] at h
      exact ⟨(congrArg Prod.fst (Option.some.inj h)).symm, hid⟩
  servers id name hosts h := by
    rcases servers_perform s v id with hsame | ⟨-, hnone | ⟨hid, hosts', hnew⟩⟩
    · exact hs.servers id name hosts (hsame ▸ h)
    · rw [hnone] at h
      cases h
    · rw [hnew] at h
      exact ⟨(congrArg Prod.fst (Option.some.inj h)).symm, hid⟩

/-- Where a slug tells the attached ids apart, a request about one server leaves the others their
credentials and policies. -/
lemma keepsOthers_of_distinct (hs : Named s) {attached : List String}
    (hdistinct : ∀ a ∈ attached, ∀ b ∈ attached, Admitted a → Admitted b → Confusable a b → a = b) :
    s.KeepsOthers v attached := by
  have hafter := named_perform hs v
  intro id hid hother
  constructor
  · intro k token hrow
    have hkept : (s.perform v).providers[providerNameFor id]? = some (k, token) := by
      rcases providers_perform s v id with hsame | ⟨htarget, -⟩
      · rw [hsame, hrow]
      · exact absurd htarget hother
    obtain ⟨rfl, hadmitted⟩ := hafter.providers id k token hkept
    refine getElem?_foldl_addRow ⟨id, hid, hkept⟩ (fun id' hid' w hw => ?_) ∅
    obtain ⟨hname, hadmitted'⟩ := hafter.providers id' _ w hw
    obtain rfl := hdistinct id hid id' hid' hadmitted hadmitted'
      (accessTokenEnvFor_eq_iff.1 hname)
    rw [hkept] at hw
    exact (congrArg Prod.snd (Option.some.inj hw)).symm
  · intro name hosts hrow
    have hkept : (s.perform v).servers[id]? = some (name, hosts) := by
      rcases servers_perform s v id with hsame | ⟨htarget, -⟩
      · rw [hsame, hrow]
      · exact absurd htarget hother
    obtain ⟨rfl, hadmitted⟩ := hafter.servers id name hosts hkept
    refine getElem?_foldl_addRow ⟨id, hid, hkept⟩ (fun id' hid' w hw => ?_) ∅
    obtain ⟨hname, hadmitted'⟩ := hafter.servers id' _ w hw
    obtain rfl := hdistinct id hid id' hid' hadmitted hadmitted' (policyNameFor_eq_iff.1 hname)
    rw [hkept] at hw
    exact (congrArg Prod.snd (Option.some.inj hw)).symm

/-- A callback that brings an access token and a refresh token. -/
def bringing (token : String) : TokenAnswer := ⟨some token, some "refresh", [], .ok ()⟩

lemma perform_bringing {a token : String} (ha : Admitted a) (ht : token.isEmpty = false)
    (s : Connections) : (s.perform (.connect a (bringing token))).providers =
      s.providers.insert (providerNameFor a) (accessTokenEnvFor a, token) := by
  have hfilter : ((some token).filter fun t => !t.isEmpty) = some token := by
    rw [Option.filter_some, ht]
    rfl
  unfold perform
  dsimp only
  rw [ha]
  unfold finishOauthConnect bringing
  dsimp only
  rw [hfilter]
  rfl

/-- Two ids with one slug: the server that is connected last takes the variable. -/
lemma not_keepsOthers_of_confusable {a b : String} (hne : a ≠ b) (ha : Admitted a)
    (hb : Admitted b) (h : Confusable a b) :
    ¬(Run.after perform empty [.connect a (bringing "first")]).KeepsOthers
      (.connect b (bringing "second")) [a, b] := by
  intro hkeeps
  have htarget : (OAuthVerb.connect b (bringing "second")).target ≠ some a := by
    unfold OAuthVerb.target
    dsimp only
    rw [hb]
    exact fun heq => hne (Option.some.inj heq).symm
  have hfirst : (perform empty (.connect a (bringing "first"))).providers[providerNameFor a]? =
      some (accessTokenEnvFor a, "first") := by
    rw [perform_bringing ha (by decide), getElem?_insert_provider, if_pos rfl]
  have henv := (hkeeps a List.mem_cons_self htarget).1 _ _ hfirst
  have hsecond : ((Run.after perform empty [.connect a (bringing "first")]).perform
      (.connect b (bringing "second"))).providers[providerNameFor b]? =
        some (accessTokenEnvFor a, "second") := by
    rw [perform_bringing hb (by decide), getElem?_insert_provider, if_pos rfl,
      accessTokenEnvFor_eq_iff.2 h]
  generalize (Run.after perform empty [.connect a (bringing "first")]).perform
    (.connect b (bringing "second")) = s at henv hsecond
  unfold environment merged at henv
  rw [List.foldl_cons, List.foldl_cons, List.foldl_nil, addRow, hsecond] at henv
  dsimp only at henv
  rw [ExtTreeMap.getElem?_insert_self] at henv
  exact absurd (Option.some.inj henv) (by decide)

end Connections

/-- The names of two servers differ, and no run of requests about connections lets a request
about one take the credential or the policy of the other in a sandbox that attaches both, exactly
when a slug tells the two ids apart (for the run, or when the requests do not accept both).  The
same holds for any list of attached servers. -/
theorem oauthNames_iff (a b : String) (hne : a ≠ b) :
    (DistinctNames a b ↔ ¬Confusable a b) ∧
      ((∀ ops v, (Run.after Connections.perform .empty ops).KeepsOthers v [a, b]) ↔
        ¬(Admitted a ∧ Admitted b ∧ Confusable a b)) ∧
      ∀ ops v (attached : List String),
        (∀ a ∈ attached, ∀ b ∈ attached, Admitted a → Admitted b → Confusable a b → a = b) →
          (Run.after Connections.perform .empty ops).KeepsOthers v attached := by
  have hkeeps : ∀ ops v (attached : List String),
      (∀ a ∈ attached, ∀ b ∈ attached, Admitted a → Admitted b → Confusable a b → a = b) →
        (Run.after Connections.perform .empty ops).KeepsOthers v attached := by
    intro ops v attached hdistinct
    have hnamed : (Run.after Connections.perform .empty ops).Named :=
      Run.invariant (I := Connections.Named) (fun _ v hs => Connections.named_perform hs v)
        Connections.named_empty ops
    exact Connections.keepsOthers_of_distinct hnamed hdistinct
  refine ⟨distinctNames_iff hne, ⟨?_, fun hslug ops v => hkeeps ops v _ ?_⟩, hkeeps⟩
  · rintro hall ⟨ha, hb, hconfusable⟩
    exact Connections.not_keepsOthers_of_confusable hne ha hb hconfusable (hall _ _)
  · intro x hx y hy hxadmitted hyadmitted hconfusable
    rcases List.mem_pair.1 hx with rfl | rfl <;> rcases List.mem_pair.1 hy with rfl | rfl
    · rfl
    · exact absurd ⟨hxadmitted, hyadmitted, hconfusable⟩ hslug
    · exact absurd ⟨hyadmitted, hxadmitted, hconfusable.symm⟩ hslug
    · rfl

/-- Two servers with names of their own. -/
theorem oauthNames_linear :
    "github" ≠ "linear" ∧ DistinctNames "github" "linear" := by
  have hne : "github" ≠ "linear" := by decide
  refine ⟨hne, (oauthNames_iff "github" "linear" hne).1.2 fun hconfusable => ?_⟩
  have hslug := envSlug_eq_iff.2 hconfusable
  exact absurd hslug (by decide)

/-- Two ids that the catalog holds side by side, and that the requests accept. -/
theorem not_oauthNames_hyphen : ¬DistinctNames "team-a" "Team_A" ∧
    ¬(Run.after Connections.perform .empty
        [.connect "team-a" (Connections.bringing "first")]).KeepsOthers
      (.connect "Team_A" (Connections.bringing "second")) ["team-a", "Team_A"] := by
  have hne : "team-a" ≠ "Team_A" := by decide
  have hconfusable : Confusable "team-a" "Team_A" := by
    rw [← envSlug_eq_iff]
    decide
  exact ⟨fun h => (distinctNames_iff hne).1 h hconfusable,
    Connections.not_keepsOthers_of_confusable hne (by unfold Admitted; decide +kernel)
      (by unfold Admitted; decide +kernel) hconfusable⟩

end McpOAuth

end Sandboard

import Sandboard.OAuth.QueryStrings
import Sandboard.OAuth.Transitions

/-!
# The consent page

The consent page carries the request that it was rendered for as base64 of a query string, and the
approval reads it back.  The request comes back as it was, without its empty fields
(`parseAuthorizePayload_payload`), and so it does through the detour by the login page.  But the
page is rendered for the trimmed client id and the approval takes the id as it was sent, and each of
the two tests the resource against its own headers.
-/

namespace Sandboard

open Std Text

/-! ## The request in the page -/

namespace AuthorizeQuery

/-- A request without fields. -/
def empty : AuthorizeQuery := ⟨none, none, none, none, none, none, none, none⟩

/-- The request with the field of this name set, if there is one. -/
def setField (q : AuthorizeQuery) (k v : String) : AuthorizeQuery :=
  match k with
  | "response_type" => { q with responseType := some v }
  | "client_id" => { q with clientId := some v }
  | "redirect_uri" => { q with redirectUri := some v }
  | "state" => { q with state := some v }
  | "code_challenge" => { q with codeChallenge := some v }
  | "code_challenge_method" => { q with codeChallengeMethod := some v }
  | "resource" => { q with resource := some v }
  | "scope" => { q with scope := some v }
  | _ => q

/-- The request without its empty fields. -/
def withoutEmpty (q : AuthorizeQuery) : AuthorizeQuery where
  responseType := q.responseType.filter (· ≠ "")
  clientId := q.clientId.filter (· ≠ "")
  redirectUri := q.redirectUri.filter (· ≠ "")
  state := q.state.filter (· ≠ "")
  codeChallenge := q.codeChallenge.filter (· ≠ "")
  codeChallengeMethod := q.codeChallengeMethod.filter (· ≠ "")
  resource := q.resource.filter (· ≠ "")
  scope := q.scope.filter (· ≠ "")

/-- The names and values of the fields, in the order of the query string. -/
def fields (q : AuthorizeQuery) : List (String × Option String) :=
  [("response_type", q.responseType), ("client_id", q.clientId), ("redirect_uri", q.redirectUri),
    ("state", q.state), ("code_challenge", q.codeChallenge),
    ("code_challenge_method", q.codeChallengeMethod), ("resource", q.resource), ("scope", q.scope)]

/-- The fields that are not empty. -/
def pairs (q : AuthorizeQuery) : List (String × String) :=
  q.fields.filterMap fun (k, v) => (v.filter (· ≠ "")).map (k, ·)

end AuthorizeQuery

/-- A piece of the query string of a request. -/
def readPiece (q : AuthorizeQuery) (pair : String) : AuthorizeQuery :=
  match splitOnce "=" pair with
  | none => q
  | some (k, v) => q.setField k (urlencodingDecode v)

/-- The request in a form that was posted. -/
def parseAuthorizePayload [crates : TokenCrates] (payload : String) : AuthorizeQuery :=
  let decoded := ((crates.unbase64 (trim payload)).bind fromUtf8?).getD payload
  (split (· == '&') decoded).foldl readPiece .empty

/-- What is documented of the base64 crate, for some bytes: it decodes what it encodes, into the
URL-safe alphabet. -/
structure TokenCrates.Base64Documented [crates : TokenCrates] (bytes : Bytes) : Prop where
  unbase64_base64 : crates.unbase64 (crates.base64 bytes) = some bytes
  alphabet : ∀ c ∈ (crates.base64 bytes).toList, c.isAlphanum = true ∨ c = '-' ∨ c = '_'

/-- What the form of a consent page posts for a query string. -/
def payloadOf [crates : TokenCrates] (query : String) : String :=
  crates.base64 (asBytes query)

/-! ## Reading the request back -/

section Payload

variable {q : AuthorizeQuery}

lemma authorizeQueryString_eq (q : AuthorizeQuery) : authorizeQueryString q =
    String.intercalate "&" (q.pairs.map fun (k, v) => encodedPair k v) := by
  unfold AuthorizeQuery.pairs
  rw [List.map_filterMap]
  unfold authorizeQueryString
  congr 2
  funext ⟨k, v⟩
  rw [Option.map_map]
  rfl

lemma mem_pairs {k v : String} (h : (k, v) ∈ q.pairs) : v ≠ "" ∧
    k ∈ ["response_type", "client_id", "redirect_uri", "state", "code_challenge",
      "code_challenge_method", "resource", "scope"] := by
  obtain ⟨⟨k', f⟩, hfield, hsome⟩ := List.mem_filterMap.1 h
  obtain ⟨v', hv, heq⟩ := Option.map_eq_some_iff.1 hsome
  obtain ⟨rfl, rfl⟩ := Prod.mk.inj heq
  refine ⟨of_decide_eq_true (Option.filter_eq_some_iff.1 hv).2, ?_⟩
  exact List.mem_map_of_mem (f := Prod.fst) hfield

/-- A name of a field is written as it is, and has neither separator. -/
lemma plain_of_mem_pairs {k v : String} (h : (k, v) ∈ q.pairs) :
    '&' ∉ k.toList ∧ '=' ∉ k.toList ∧ urlencodingDecode k = k := by
  have hall : ∀ k ∈ ["response_type", "client_id", "redirect_uri", "state", "code_challenge",
      "code_challenge_method", "resource", "scope"], '&' ∉ k.toList ∧ '=' ∉ k.toList ∧
        PercentCoding.plus ∉ asBytes k ∧ PercentCoding.percent ∉ asBytes k := by
    decide +kernel
  obtain ⟨hamp, hequals, hplus, hpercent⟩ := hall k (mem_pairs h).2
  exact ⟨hamp, hequals, urlencodingDecode_plain hplus hpercent⟩

lemma amp_notMem_encodedPair {k v : String} (h : (k, v) ∈ q.pairs) :
    '&' ∉ (encodedPair k v).toList :=
  notMem_encodedPair rfl (by decide) (plain_of_mem_pairs h).1 v

lemma readPiece_encodedPair (q' : AuthorizeQuery) {k v : String} (h : (k, v) ∈ q.pairs) :
    readPiece q' (encodedPair k v) = q'.setField k v := by
  have hcut : splitOnce "=" (encodedPair k v) = some (k, urlencodingEncode v) :=
    splitOnce_char (plain_of_mem_pairs h).2.1 (urlencodingEncode v)
  rw [readPiece, hcut]
  dsimp only
  rw [urlencodingDecode_encode]

/-- The query string is read field by field. -/
lemma foldl_readPiece (q : AuthorizeQuery) :
    (split (· == '&') (authorizeQueryString q)).foldl readPiece .empty =
      q.pairs.foldl (fun q' (k, v) => q'.setField k v) .empty := by
  rw [authorizeQueryString_eq]
  by_cases hempty : q.pairs = []
  · rw [hempty]
    rfl
  · rw [split_amp_intercalate (fun h => hempty (List.map_eq_nil_iff.1 h))]
    · rw [List.foldl_map]
      exact List.foldl_ext _ _ _ fun q' (k, v) h => readPiece_encodedPair q' h
    · intro p hp
      obtain ⟨⟨k, v⟩, hpair, rfl⟩ := List.mem_map.1 hp
      exact amp_notMem_encodedPair hpair

/-- The request with the field of this name set to a value, if there is one. -/
def setSome (q' : AuthorizeQuery) (field : String × Option String) : AuthorizeQuery :=
  match field.2 with
  | none => q'
  | some v => q'.setField field.1 v

/-- Setting every field of a request, one by one, gives the request. -/
lemma foldl_setSome (q : AuthorizeQuery) : q.fields.foldl setSome .empty = q := by
  obtain ⟨a, b, c, d, e, f, g, h⟩ := q
  have hresponse : setSome .empty ("response_type", a) =
      ⟨a, none, none, none, none, none, none, none⟩ := by
    cases a <;> rfl
  have hclient : setSome ⟨a, none, none, none, none, none, none, none⟩ ("client_id", b) =
      ⟨a, b, none, none, none, none, none, none⟩ := by
    cases b <;> rfl
  have hredirect : setSome ⟨a, b, none, none, none, none, none, none⟩ ("redirect_uri", c) =
      ⟨a, b, c, none, none, none, none, none⟩ := by
    cases c <;> rfl
  have hstate : setSome ⟨a, b, c, none, none, none, none, none⟩ ("state", d) =
      ⟨a, b, c, d, none, none, none, none⟩ := by
    cases d <;> rfl
  have hchallenge : setSome ⟨a, b, c, d, none, none, none, none⟩ ("code_challenge", e) =
      ⟨a, b, c, d, e, none, none, none⟩ := by
    cases e <;> rfl
  have hmethod : setSome ⟨a, b, c, d, e, none, none, none⟩ ("code_challenge_method", f) =
      ⟨a, b, c, d, e, f, none, none⟩ := by
    cases f <;> rfl
  have hresource : setSome ⟨a, b, c, d, e, f, none, none⟩ ("resource", g) =
      ⟨a, b, c, d, e, f, g, none⟩ := by
    cases g <;> rfl
  have hscope : setSome ⟨a, b, c, d, e, f, g, none⟩ ("scope", h) = ⟨a, b, c, d, e, f, g, h⟩ := by
    cases h <;> rfl
  unfold AuthorizeQuery.fields
  rw [List.foldl_cons, hresponse, List.foldl_cons, hclient, List.foldl_cons, hredirect,
    List.foldl_cons, hstate, List.foldl_cons, hchallenge, List.foldl_cons, hmethod,
    List.foldl_cons, hresource, List.foldl_cons, hscope, List.foldl_nil]

lemma pairs_eq (q : AuthorizeQuery) :
    q.pairs = q.withoutEmpty.fields.filterMap fun (k, f) => f.map (k, ·) := rfl

/-- Setting the fields that are not empty gives the request without its empty fields. -/
lemma foldl_setField (q : AuthorizeQuery) :
    q.pairs.foldl (fun q' (k, v) => q'.setField k v) .empty = q.withoutEmpty := by
  rw [pairs_eq, List.foldl_filterMap]
  refine Eq.trans (List.foldl_ext _ setSome _ ?_) (foldl_setSome q.withoutEmpty)
  rintro q' ⟨k, f⟩ -
  cases f with
  | none => rfl
  | some v => rfl

/-- The URL-safe alphabet has no white space. -/
lemma isWhitespace_of_alphabet {c : Char} (h : c.isAlphanum = true ∨ c = '-' ∨ c = '_') :
    isWhitespace c = false := by
  rcases h with h | rfl | rfl
  · have hletter : 48 ≤ c.toNat ∧ c.toNat ≤ 122 := by
      simp only [Char.isAlphanum, isAlpha_eq, isUpper_eq, isLower_eq, Char.isDigit,
        Bool.or_eq_true, Bool.and_eq_true, decide_eq_true_eq, ge_iff_le,
        UInt32.le_iff_toNat_le] at h
      change (65 ≤ c.toNat ∧ c.toNat ≤ 90 ∨ 97 ≤ c.toNat ∧ c.toNat ≤ 122) ∨
        48 ≤ c.toNat ∧ c.toNat ≤ 57 at h
      omega
    unfold isWhitespace
    simp only [Bool.or_eq_false_iff, Bool.and_eq_false_iff, decide_eq_false_iff_not,
      beq_eq_false_iff_ne]
    omega
  · rfl
  · rfl

/-- Base64 has no blanks around it. -/
lemma trim_payloadOf [crates : TokenCrates] {query : String}
    (h : crates.Base64Documented (asBytes query)) : trim (payloadOf query) = payloadOf query := by
  apply Text.trim_eq_self
  · intro c hc
    exact isWhitespace_of_alphabet (h.alphabet c (List.mem_of_head? hc))
  · intro c hc
    exact isWhitespace_of_alphabet (h.alphabet c (List.mem_of_getLast? hc))

/-- A request is read back from the page without its empty fields. -/
lemma parseAuthorizePayload_payloadOf [crates : TokenCrates]
    (h : crates.Base64Documented (asBytes (authorizeQueryString q))) :
    parseAuthorizePayload (payloadOf (authorizeQueryString q)) = q.withoutEmpty := by
  unfold parseAuthorizePayload
  rw [trim_payloadOf h]
  unfold payloadOf
  rw [h.unbase64_base64, Option.bind_some, fromUtf8?_asBytes, Option.getD_some]
  exact (foldl_readPiece q).trans (foldl_setField q)

end Payload

/-! ## Empty fields -/

/-- The scopes that a request asks for. -/
def AuthorizeQuery.scopes (q : AuthorizeQuery) : List String :=
  (q.scope.map splitWhitespace).getD []

lemma filter_nonempty (f : Option String) :
    f.filter (· ≠ "") = f ∨ f = some "" ∧ f.filter (· ≠ "") = none := by
  cases f with
  | none => exact Or.inl rfl
  | some v =>
    by_cases hv : v = ""
    · subst hv
      exact Or.inr ⟨rfl, rfl⟩
    · refine Or.inl ?_
      rw [Option.filter_some, if_pos (by simpa using hv)]

lemma filled_filter (f : Option String) : filled (f.filter (· ≠ "")) = filled f := by
  rcases filter_nonempty f with h | ⟨rfl, h⟩
  · rw [h]
  · rfl

lemma filter_getD (f : Option String) : (f.filter (· ≠ "")).getD "" = f.getD "" := by
  rcases filter_nonempty f with h | ⟨rfl, h⟩
  · rw [h]
  · rfl

lemma filter_filter (f : Option String) :
    (f.filter (· ≠ "")).filter (· ≠ "") = f.filter (· ≠ "") := by
  rcases filter_nonempty f with h | ⟨rfl, h⟩
  · rw [h, h]
  · rfl

lemma scopes_withoutEmpty (q : AuthorizeQuery) : q.withoutEmpty.scopes = q.scopes := by
  unfold AuthorizeQuery.scopes AuthorizeQuery.withoutEmpty
  rcases filter_nonempty q.scope with h | ⟨hempty, h⟩
  · dsimp only
    rw [h]
  · dsimp only
    rw [h, hempty]
    rfl

lemma pairs_withoutEmpty (q : AuthorizeQuery) : q.withoutEmpty.pairs = q.pairs := by
  rw [pairs_eq, pairs_eq]
  unfold AuthorizeQuery.withoutEmpty
  simp only [filter_filter]

/-! ## Validating a request -/

section Validation

variable [WebServer] {q : AuthorizeQuery} {client : ClientRecord} {headers headers' : HeaderMap}
  {redirectUri challenge resource : String}

/-- A resource is the one that a request reached the board under. -/
def Reaches (headers : HeaderMap) (resource : String) : Prop :=
  resourcesEquivalent resource (requestResource headers) ∨
    resourcesEquivalent resource (altRequestResource headers)

/-- What passes the validation, and what it returns. -/
lemma validateAuthorizeRequest_eq_ok_iff :
    validateAuthorizeRequest q client headers = .ok (redirectUri, challenge, resource) ↔
      q.responseType = some "code" ∧ filled q.redirectUri = some redirectUri ∧
        client.redirectUris.contains redirectUri = true ∧
        q.codeChallengeMethod.getD "" = "S256" ∧ filled q.codeChallenge = some challenge ∧
        (filled q.resource).getD (requestResource headers) = resource ∧
        Reaches headers resource ∧ ∀ part ∈ q.scopes, part = mcpScope := by
  have hscopes : (q.scopes.find? fun part => part ≠ mcpScope) = none ↔
      ∀ part ∈ q.scopes, part = mcpScope := by
    simp
  have hreaches : (!resourcesEquivalent resource (requestResource headers) &&
      !resourcesEquivalent resource (altRequestResource headers)) = true ↔
        ¬ Reaches headers resource := by
    unfold Reaches
    simp
  constructor
  · intro h
    unfold validateAuthorizeRequest at h
    split at h
    · cases h
    · rename_i htype
      split at h
      · cases h
      · rename_i hredirect
        split at h
        · cases h
        · rename_i hregistered
          split at h
          · cases h
          · rename_i hmethod
            split at h
            · cases h
            · rename_i hchallenge
              dsimp only at h
              split at h
              · cases h
              · rename_i hresource
                split at h
                · cases h
                · rename_i hfind
                  cases h
                  exact ⟨not_not.1 htype, hredirect, by simpa using hregistered,
                    not_not.1 hmethod, hchallenge, rfl, not_not.1 (mt hreaches.2 hresource),
                    hscopes.1 hfind⟩
  · rintro ⟨htype, hredirect, hregistered, hmethod, hchallenge, hresource, hreach, hscope⟩
    have hfind := hscopes.2 hscope
    unfold AuthorizeQuery.scopes at hfind
    unfold validateAuthorizeRequest
    rw [if_neg (not_not.2 htype), hredirect]
    dsimp only
    rw [if_neg (by rw [hregistered]; decide), if_neg (not_not.2 hmethod), hchallenge]
    dsimp only
    rw [hresource, if_neg (fun h => hreaches.1 h hreach), hfind]

/-- The approval reaches the board under the resource of the page: under the one that the request
names, or the same where it names none. -/
def SameResource (q : AuthorizeQuery) (headers headers' : HeaderMap) : Prop :=
  match filled q.resource with
  | some resource => Reaches headers' resource
  | none => requestResource headers' = requestResource headers

/-- A validated request is validated again, with the same result, under the same resource. -/
lemma validateAuthorizeRequest_again
    (h : validateAuthorizeRequest q client headers = .ok (redirectUri, challenge, resource)) :
    validateAuthorizeRequest q client headers' = .ok (redirectUri, challenge, resource) ↔
      SameResource q headers headers' := by
  obtain ⟨htype, hredirect, hregistered, hmethod, hchallenge, hresource, hreach, hscope⟩ :=
    validateAuthorizeRequest_eq_ok_iff.1 h
  rw [validateAuthorizeRequest_eq_ok_iff]
  unfold SameResource
  cases hnamed : filled q.resource with
  | some named =>
    rw [hnamed] at hresource
    change named = resource at hresource
    subst hresource
    exact ⟨fun hagain => hagain.2.2.2.2.2.2.1, fun hagain =>
      ⟨htype, hredirect, hregistered, hmethod, hchallenge, rfl, hagain, hscope⟩⟩
  | none =>
    rw [hnamed] at hresource
    change requestResource headers = resource at hresource
    subst hresource
    constructor
    · exact fun hagain => hagain.2.2.2.2.2.1
    · intro hsame
      change requestResource headers' = requestResource headers at hsame
      refine ⟨htype, hredirect, hregistered, hmethod, hchallenge, hsame, Or.inl ?_, hscope⟩
      rw [hsame]
      exact resourcesEquivalent_refl _

/-- Empty fields make no difference to the validation. -/
lemma validate_withoutEmpty (q : AuthorizeQuery) (client : ClientRecord) (headers : HeaderMap) :
    validateAuthorizeRequest q.withoutEmpty client headers =
      validateAuthorizeRequest q client headers := by
  have htype : (q.responseType.filter (· ≠ "") ≠ some "code") = (q.responseType ≠ some "code") := by
    rcases filter_nonempty q.responseType with h | ⟨hempty, h⟩
    · rw [h]
    · rw [h, hempty]
      simp
  have hscopes := scopes_withoutEmpty q
  unfold AuthorizeQuery.scopes at hscopes
  unfold validateAuthorizeRequest
  rw [hscopes]
  unfold AuthorizeQuery.withoutEmpty
  simp only [htype, filled_filter, filter_getD]

/-- Empty fields make no difference to the page. -/
lemma authorizeGet_withoutEmpty (user : Option SessionUser) (headers : HeaderMap)
    (q : AuthorizeQuery) (fetched : Except String ClientDoc) :
    authorizeGet user headers q.withoutEmpty fetched = authorizeGet user headers q fetched := by
  have hclient : filled q.withoutEmpty.clientId = filled q.clientId := filled_filter _
  have hquery : authorizeQueryString q.withoutEmpty = authorizeQueryString q := by
    rw [authorizeQueryString_eq, authorizeQueryString_eq, pairs_withoutEmpty]
  unfold authorizeGet
  simp only [hclient, hquery, validate_withoutEmpty]

end Validation

/-! ## Pages and approvals -/

section Approval

variable [WebServer]

/-- What a request is validated for, and what an approval records. -/
structure Consent where
  clientId : String
  redirectUri : String
  codeChallenge : String
  resource : String
  scopes : List String

/-- A consent page that was rendered for a request. -/
structure ConsentPage (q : AuthorizeQuery) where
  user : SessionUser
  headers : HeaderMap
  fetched : Except String ClientDoc
  before : OAuthServer
  after : OAuthServer
  login : String
  name : String
  query : String
  rendered : (authorizeGet (some user) headers q fetched).run before =
    (.ok (.consent login name query), after)

/-- What the request was validated for when the page was rendered. -/
def ConsentPage.Shows {q : AuthorizeQuery} (page : ConsentPage q) (consent : Consent) : Prop :=
  filled q.clientId = some consent.clientId ∧ consent.scopes = q.scopes ∧
    ∃ client, page.after.clients[consent.clientId]? = some client ∧
      validateAuthorizeRequest q client page.headers =
        .ok (consent.redirectUri, consent.codeChallenge, consent.resource)

/-- The clients that one state of the server knows are the same in another one. -/
def KeepsClients (s s' : OAuthServer) : Prop :=
  ∀ (id : String) (client : ClientRecord),
    s.clients[id]? = some client → s'.clients[id]? = some client

/-- Approving a request is granted, and records a code for exactly this. -/
def Records (s : OAuthServer) (user : SessionUser) (headers : HeaderMap) (q : AuthorizeQuery)
    (fetched : Except String ClientDoc) (code : String) (consent : Consent) : Prop :=
  consent.scopes = q.scopes ∧ ∃ reply s',
    (authorizePost (some user) headers "approve" q fetched code).run s = (.ok reply, s') ∧
      s'.codes[code]? = some ⟨consent.clientId, consent.redirectUri, consent.codeChallenge,
        consent.resource, user.login, saturatingAdd s.now codeTtlSecs⟩

omit [WebServer] in
lemma keepsClients_ensureStaticClients (s : OAuthServer) : KeepsClients s s.ensureStaticClients := by
  have hfold : ∀ (l : List (String × ClientRecord)) (cs : ExtTreeMap String ClientRecord)
      (id : String) (client : ClientRecord), cs[id]? = some client →
        (l.foldl (fun cs row => cs.insertIfNew row.1 row.2) cs)[id]? = some client := by
    intro l
    induction l with
    | nil => exact fun cs id client h => h
    | cons row l ih =>
      intro cs id client h
      apply ih
      dsimp only
      rw [ExtTreeMap.getElem?_insertIfNew, if_neg]
      · exact h
      · rintro ⟨heq, hnew⟩
        rw [Std.compare_eq_iff_eq] at heq
        subst heq
        exact hnew (ExtTreeMap.mem_iff_isSome_getElem?.2 (by rw [h]; rfl))
  exact fun id client h => hfold staticClients s.clients id client h

lemma run_resolveClient {s : OAuthServer} {clientId : String} {client : ClientRecord}
    (h : s.ensureStaticClients.clients[clientId]? = some client)
    (fetched : Except String ClientDoc) :
    (resolveClient clientId fetched).run s = (.ok client, s.ensureStaticClients) := by
  unfold resolveClient
  rw [Locked.run_bind, Locked.run_atomic]
  dsimp only
  rw [h]
  rfl

/-- A client that is known is the one that is found. -/
lemma run_resolveClient_known {s : OAuthServer} {clientId : String} {client : ClientRecord}
    (h : s.clients[clientId]? = some client) (fetched : Except String ClientDoc) :
    (resolveClient clientId fetched).run s = (.ok client, s.ensureStaticClients) :=
  run_resolveClient (keepsClients_ensureStaticClients s clientId client h) fetched

/-- A client that is found is known from then on. -/
lemma known_of_resolveClient {s s' : OAuthServer} {clientId : String} {client : ClientRecord}
    {fetched : Except String ClientDoc}
    (h : (resolveClient clientId fetched).run s = (.ok client, s')) :
    s'.clients[clientId]? = some client := by
  unfold resolveClient at h
  rw [Locked.run_bind, Locked.run_atomic] at h
  dsimp only at h
  rw [Locked.andThen_ok] at h
  cases hknown : s.ensureStaticClients.clients[clientId]? with
  | some c =>
    rw [hknown] at h
    cases h
    exact hknown
  | none =>
    rw [hknown] at h
    dsimp only at h
    split at h
    · unfold fetchClientMetadata at h
      cases fetched with
      | error e => cases h
      | ok doc =>
        dsimp only at h
        rw [Locked.run_failIf_bind] at h
        split at h
        · cases h
        · split at h
          · cases h
          · cases h
            exact ExtTreeMap.getElem?_insert_self
    · cases h

/-- The page for a client that is there, and a request that is validated. -/
lemma authorizeGet_renders {user : SessionUser} {headers : HeaderMap} {q : AuthorizeQuery}
    {fetched : Except String ClientDoc} {s : OAuthServer} {clientId : String}
    {client : ClientRecord} {redirectUri challenge resource : String}
    (hfilled : filled q.clientId = some clientId)
    (hclient : s.ensureStaticClients.clients[clientId]? = some client)
    (hvalidate :
      validateAuthorizeRequest q client headers = .ok (redirectUri, challenge, resource)) :
    (authorizeGet (some user) headers q fetched).run s =
      (.ok (.consent user.login (client.clientName.getD clientId) (authorizeQueryString q)),
        s.ensureStaticClients) := by
  unfold authorizeGet
  rw [hfilled]
  dsimp only
  rw [Locked.run_bind, Locked.run_mapErr, run_resolveClient hclient]
  change Locked.run _ s.ensureStaticClients = _
  beta_reduce
  rw [hvalidate]
  rfl

/-- A page shows what its request was validated for, and carries its query string. -/
lemma ConsentPage.exists_shows {q : AuthorizeQuery} (page : ConsentPage q) :
    page.query = authorizeQueryString q ∧ ∃ consent, page.Shows consent := by
  have hrun := page.rendered
  unfold authorizeGet at hrun
  cases hclient : filled q.clientId with
  | none =>
    rw [hclient] at hrun
    cases hrun
  | some clientId =>
    rw [hclient] at hrun
    dsimp only at hrun
    rw [Locked.run_bind, Locked.run_mapErr] at hrun
    rcases hresolve : (resolveClient clientId page.fetched).run page.before with ⟨outcome, s₁⟩
    rw [hresolve] at hrun
    cases outcome with
    | error e => cases hrun
    | ok client =>
      change Locked.run _ s₁ = _ at hrun
      beta_reduce at hrun
      cases hvalidate : validateAuthorizeRequest q client page.headers with
      | error e =>
        rw [hvalidate] at hrun
        cases hrun
      | ok validated =>
        obtain ⟨redirectUri, challenge, resource⟩ := validated
        rw [hvalidate] at hrun
        dsimp only at hrun
        rw [Locked.run_pure] at hrun
        obtain ⟨hreply, hafter⟩ := Prod.mk.inj hrun
        obtain ⟨-, -, hquery⟩ := Reply.consent.inj (Except.ok.inj hreply)
        refine ⟨hquery.symm, ⟨clientId, redirectUri, challenge, resource, q.scopes⟩, hclient, rfl,
          client, ?_, hvalidate⟩
        rw [← hafter]
        exact known_of_resolveClient hresolve

/-- An approval that is granted found the client, validated the request and recorded the code. -/
lemma authorizePost_granted {s s' : OAuthServer} {user : SessionUser} {headers : HeaderMap}
    {q : AuthorizeQuery} {fetched : Except String ClientDoc} {code : String} {reply : Reply}
    (h : (authorizePost (some user) headers "approve" q fetched code).run s = (.ok reply, s')) :
    ∃ clientId client s₁ redirectUri challenge resource,
      q.clientId = some clientId ∧ (resolveClient clientId fetched).run s = (.ok client, s₁) ∧
        validateAuthorizeRequest q client headers = .ok (redirectUri, challenge, resource) ∧
          s'.codes[code]? = some ⟨clientId, redirectUri, challenge, resource, user.login,
            saturatingAdd s₁.now codeTtlSecs⟩ := by
  unfold authorizePost at h
  dsimp only at h
  cases hclient : q.clientId with
  | none =>
    rw [hclient] at h
    cases h
  | some clientId =>
    rw [hclient] at h
    dsimp only at h
    rw [Locked.run_bind, Locked.run_mapErr] at h
    rcases hresolve : (resolveClient clientId fetched).run s with ⟨outcome, s₁⟩
    rw [hresolve] at h
    cases outcome with
    | error e => cases h
    | ok client =>
      change Locked.run _ s₁ = _ at h
      beta_reduce at h
      cases hvalidate : validateAuthorizeRequest q client headers with
      | error e =>
        rw [hvalidate] at h
        cases h
      | ok validated =>
        obtain ⟨redirectUri, challenge, resource⟩ := validated
        rw [hvalidate] at h
        dsimp only at h
        rw [if_neg (by simp), Locked.run_bind, Locked.run_atomic] at h
        obtain ⟨-, hstate⟩ := Prod.mk.inj h
        refine ⟨clientId, client, s₁, redirectUri, challenge, resource, rfl, hresolve, hvalidate, ?_⟩
        rw [← hstate]
        exact ExtTreeMap.getElem?_insert_self

/-- A request with a known client that is validated is granted. -/
lemma authorizePost_grants {s : OAuthServer} {user : SessionUser} {headers : HeaderMap}
    {q : AuthorizeQuery} {clientId : String} {client : ClientRecord}
    {redirectUri challenge resource : String} (hclient : q.clientId = some clientId)
    (hknown : s.clients[clientId]? = some client)
    (hvalidate : validateAuthorizeRequest q client headers = .ok (redirectUri, challenge, resource))
    (fetched : Except String ClientDoc) (code : String) :
    ∃ reply s', (authorizePost (some user) headers "approve" q fetched code).run s =
        (.ok reply, s') ∧
      s'.codes[code]? = some ⟨clientId, redirectUri, challenge, resource, user.login,
        saturatingAdd s.now codeTtlSecs⟩ := by
  unfold authorizePost
  rw [hclient]
  dsimp only
  rw [Locked.run_bind, Locked.run_mapErr, run_resolveClient_known hknown]
  change ∃ reply s', Locked.run _ s.ensureStaticClients = _ ∧ _
  beta_reduce
  rw [hvalidate]
  dsimp only
  rw [if_neg (by simp), Locked.run_bind, Locked.run_atomic, Locked.andThen_ok, Locked.run_pure]
  exact ⟨_, _, rfl, ExtTreeMap.getElem?_insert_self⟩

/-- An approval records what the page showed exactly when the client id was sent without blanks
around it and the approval reaches the board under the resource of the page. -/
lemma records_iff {q : AuthorizeQuery} {page : ConsentPage q} {consent : Consent}
    (hshows : page.Shows consent) {server : OAuthServer} (hkeeps : KeepsClients page.after server)
    (user : SessionUser) (headers : HeaderMap) (fetched : Except String ClientDoc)
    (code : String) :
    Records server user headers q.withoutEmpty fetched code consent ↔
      q.clientId = some consent.clientId ∧ SameResource q page.headers headers := by
  obtain ⟨hfilled, hscopes, client, hclient, hvalidate⟩ := hshows
  have hknown := hkeeps _ _ hclient
  have hagain : validateAuthorizeRequest q.withoutEmpty client headers =
      .ok (consent.redirectUri, consent.codeChallenge, consent.resource) ↔
        SameResource q page.headers headers := by
    rw [validate_withoutEmpty]
    exact validateAuthorizeRequest_again hvalidate
  constructor
  · rintro ⟨-, reply, s', hrun, hcode⟩
    obtain ⟨clientId, client', s₁, redirectUri, challenge, resource, hid, hresolve, hvalid,
      hrecord⟩ := authorizePost_granted hrun
    rw [hrecord] at hcode
    obtain ⟨hid', hredirect, hchallenge, hresource, -⟩ :=
      CodeRecord.mk.inj (Option.some.inj hcode)
    subst hid' hredirect hchallenge hresource
    rw [run_resolveClient_known hknown] at hresolve
    obtain ⟨hsame, -⟩ := Prod.mk.inj hresolve
    obtain rfl := Except.ok.inj hsame
    exact ⟨(Option.filter_eq_some_iff.1 hid).1, hagain.1 hvalid⟩
  · rintro ⟨hid, hsame⟩
    have hid' : q.withoutEmpty.clientId = some consent.clientId := by
      have hne : consent.clientId ≠ "" := of_decide_eq_true (Option.filter_eq_some_iff.1 hfilled).2
      change q.clientId.filter (· ≠ "") = _
      rw [hid, Option.filter_some, if_pos (by simpa using hne)]
    obtain ⟨reply, s', hrun, hcode⟩ :=
      authorizePost_grants hid' hknown (hagain.2 hsame) fetched code
    exact ⟨hscopes.trans (scopes_withoutEmpty q).symm, reply, s', hrun, hcode⟩

end Approval

end Sandboard

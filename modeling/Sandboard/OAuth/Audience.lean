import Sandboard.OAuth.Redemption

/-!
# The audience of a token

A code carries the resource of its consent.  Its exchange, and every refresh after it, may keep
that resource or take the one that the headers of the request name, so along a chain of refreshes
the audience is the resource of the consent or one that some request of the chain named itself.
The gate before the MCP endpoint compares the audience with what the headers of its own request
name.
-/

namespace Sandboard

open Text

namespace OAuth

/-- The response comes from the exchange of a code, by any number of refreshes; the requests on
the way, the latest first. -/
inductive Descends (log : List TokenResponse) :
    TokenResponse → CodeRecord → List HeaderMap → Prop where
  | exchange {e : TokenResponse} {code : String} {record : CodeRecord} {checkedAt : ℕ}
    (he : e ∈ log) (hgrant : e.grant = .code code record checkedAt) :
    Descends log e record [e.headers]
  | refresh {e earlier : TokenResponse} {record : CodeRecord} {requests : List HeaderMap}
    (he : e ∈ log) (hgrant : e.grant = .refresh earlier.refresh)
    (hearlier : Descends log earlier record requests) :
    Descends log e record (e.headers :: requests)

lemma Descends.mem {log : List TokenResponse} {e : TokenResponse} {record : CodeRecord}
    {requests : List HeaderMap} (h : Descends log e record requests) : e ∈ log := by
  cases h with
  | exchange he _ => exact he
  | refresh he _ _ => exact he

section Audience

variable {ι : Type} [Fintype ι] [DecidableEq ι] [WebServer] [Pkce]

/-- Along a chain the audience is the resource of the consent, or one that a request named. -/
lemma audience_of_descends {log : List TokenResponse} (hvalid : ∀ e ∈ log, e.Valid)
    {e : TokenResponse} {record : CodeRecord} {requests : List HeaderMap}
    (h : Descends log e record requests) :
    resourcesEquivalent e.access.aud record.resource ∨
      ∃ headers ∈ requests, resourcesEquivalent e.access.aud (requestResource headers) := by
  induction h with
  | @exchange e code record checkedAt he hgrant =>
    have haudience := (hvalid e he).audience
    rw [hgrant] at haudience
    exact haudience.imp id fun hrequest => ⟨_, List.mem_singleton_self _, hrequest⟩
  | @refresh e earlier record requests he hgrant hearlier ih =>
    rcases (hvalid e he).audience with hkept | hrequest
    · have hearlierMem : earlier ∈ log := by
        cases hearlier with
        | exchange he _ => exact he
        | refresh he _ _ => exact he
      have hsame : e.grant.resource = earlier.access.aud := by
        rw [hgrant]
        exact (hvalid earlier hearlier.mem).same
      rw [hsame] at hkept
      rcases ih with hrecord | ⟨headers, hheaders, hnamed⟩
      · exact .inl (resourcesEquivalent_trans hkept hrecord)
      · exact .inr ⟨headers, List.mem_cons_of_mem _ hheaders,
          resourcesEquivalent_trans hkept hnamed⟩
    · exact .inr ⟨_, List.mem_cons_self, hrequest⟩

omit [WebServer] [Pkce] in
/-- The record at the start of a chain was issued. -/
lemma issued_of_descends {s : OAuthServer}
    (hredeemed : s.redemptions.Subperm s.issues) {e : TokenResponse} {record : CodeRecord}
    {requests : List HeaderMap} (h : Descends s.responses e record requests) :
    ∃ i ∈ s.issued, i.record = record := by
  induction h with
  | @exchange e code record checkedAt he hgrant =>
    have hmem : (code, record) ∈ s.redemptions :=
      List.mem_filterMap.2 ⟨e, he, by rw [hgrant]⟩
    obtain ⟨i, hi, heq⟩ := List.mem_map.1 (hredeemed.subset hmem)
    exact ⟨i, hi, congrArg Prod.snd heq⟩
  | refresh _ _ _ ih => exact ih

/-- In every interleaving, the audience of a token is the resource of its consent, or one that a
token request on the way from the consent named by its headers; the resource of the consent is one
that the headers of the consent name, and the gate admits a token only for a resource that the
headers of its own request name. -/
theorem audience_of_chain [TokenCrates] {auth : Option AuthBundle} {now : ℕ}
    {c : Parties OAuthServer fun _ : ι => Option Reply} (h : OAuthServer.Reached auth now c) :
    (∀ e record requests, Descends c.shared.responses e record requests →
      (∃ i ∈ c.shared.issued, i.record = record ∧
        (resourcesEquivalent record.resource (requestResource i.headers) ∨
          resourcesEquivalent record.resource (altRequestResource i.headers))) ∧
      (resourcesEquivalent e.access.aud record.resource ∨
        ∃ headers ∈ requests, resourcesEquivalent e.access.aud (requestResource headers))) ∧
    ∀ a ∈ c.shared.admitted, ∀ claims, a.claims = some claims →
      resourcesEquivalent claims.aud (requestResource a.headers) ∨
        resourcesEquivalent claims.aud (altRequestResource a.headers) := by
  obtain ⟨p, hp⟩ := accounted_of_reached h
  refine ⟨fun e record requests hdescends => ⟨?_, audience_of_descends hp.responses hdescends⟩,
    hp.admitted⟩
  obtain ⟨i, hi, rfl⟩ := issued_of_descends hp.redemptions_subperm hdescends
  exact ⟨i, hi, rfl, (hp.issued i hi).resource⟩

end Audience

/-! ## A token that leaves the resource of its consent -/

/-- Headers that name another host. -/
def forwardedHeaders : HeaderMap := { localHeaders with xForwardedHost := some "evil.example" }

/-- The client exchanges its code for the resource that the headers name. -/
def forwardedForm : TokenForm where
  grantType := some "authorization_code"
  code := some sampleCode
  redirectUri := some "http://localhost:8787/callback"
  clientId := some "sandboard-cursor"
  codeVerifier := some "dBjftJeZ4CVP-mB92K27uhbUJU1p1r_wW1gFWFOEjXk"
  refreshToken := none
  resource := some "http://evil.example/mcp"

/-- The access token of the exchange. -/
def forwardedToken : String :=
  "eyJ0eXAiOiJKV1QiLCJhbGciOiJIUzI1NiJ9." ++ "eyJzdWIiOiJhZG1pbiIsImF1ZCI6Imh0dHA6Ly9l" ++
  "dmlsLmV4YW1wbGUvbWNwIiwic2NvcGUiOiJtY3Ai" ++ "LCJleHAiOjE3MDAwMDM2MDAsImlhdCI6MTcwMDAw" ++
  "MDAwMCwidHlwIjoibWNwX2FjY2VzcyJ9" ++ ".FGBXPW1ixmQZ4jpaRWwQazoxGzeFzzl-WVWESwKOndk"

/-- The access token of the exchange, by its claims. -/
abbrev forwardedCrates : TokenCrates := tableCrates
  [((accessClaims sampleTime "admin" "http://evil.example/mcp").toJson, forwardedToken)]

section Forward

variable [WebServer] [TokenCrates] [Pkce]

/-- The approved code is exchanged. -/
def forwarded : Parties OAuthServer fun _ : Bool => Option Reply :=
  (List.replicate 8 false).foldl Parties.perform
    (approved.start false (OAuthEvent.token forwardedHeaders (.ok forwardedForm)).serve)

/-- Headers that present the access token. -/
def presentingHeaders : HeaderMap :=
  { forwardedHeaders with authorization := some ("Bearer " ++ forwardedToken) }

/-- The access token is presented at the gate. -/
def presented : Parties OAuthServer fun _ : Bool => Option Reply :=
  (List.replicate 4 false).foldl Parties.perform
    (forwarded.start false (OAuthEvent.mcp false presentingHeaders).serve)

lemma reached_forwarded : OAuthServer.Reached (some sampleAuth) sampleTime forwarded :=
  Parties.runs_performAll (Parties.runs_start reached_approved (serves_serve _ false)) _

lemma reached_presented : OAuthServer.Reached (some sampleAuth) sampleTime presented :=
  Parties.runs_performAll (Parties.runs_start reached_forwarded (serves_serve _ false)) _

end Forward

/-- What is read off a run: the audience and the grant of each response, and of each admission
the audience. -/
def audiences (s : OAuthServer) :
    List (String × HeaderMap × Option (String × CodeRecord)) × List (Option String) :=
  (s.responses.map fun e => (e.access.aud, e.headers, match e.grant with
      | .code code record _ => some (code, record)
      | .refresh _ => none),
    s.admitted.map fun a => a.claims.map (·.aud))

lemma stripPrefix_append (pre s : String) : stripPrefix pre (pre ++ s) = some s := by
  have hafter : ∀ ps cs : List Char, afterPrefix ps (ps ++ cs) = some cs := by
    intro ps cs
    induction ps with
    | nil => rfl
    | cons p ps ih => rw [List.cons_append, afterPrefix, if_pos rfl, ih]
  rw [stripPrefix, String.toList_append, hafter, Option.map_some, String.ofList_toList]

/-- A text without blanks is trimmed. -/
lemma trim_eq_self {s : String} (h : (s.toList.all fun c => !isWhitespace c) = true) :
    trim s = s := by
  have hdrop : ∀ cs : List Char, (cs.all fun c => !isWhitespace c) = true →
      cs.dropWhile isWhitespace = cs := by
    intro cs hcs
    cases cs with
    | nil => rfl
    | cons c cs =>
      rw [List.all_cons, Bool.and_eq_true, Bool.not_eq_true'] at hcs
      rw [List.dropWhile_cons, if_neg]
      rw [hcs.1]
      exact Bool.false_ne_true
  rw [trim, dropTailWhile, hdrop _ h, hdrop, List.reverse_reverse, String.ofList_toList]
  rw [List.all_reverse]
  exact h

lemma forwardedToken_filled : filled (some forwardedToken) = some forwardedToken := by
  have hblank : (forwardedToken.toList.all fun c => !isWhitespace c) = true := by
    unfold forwardedToken
    simp only [String.toList_append, List.all_append, Bool.and_eq_true]
    refine ⟨⟨⟨⟨⟨?_, ?_⟩, ?_⟩, ?_⟩, ?_⟩, ?_⟩
    all_goals
      rw [String.toList_ofList]
      decide +kernel
  rw [filled, Option.map_some, trim_eq_self hblank]
  decide +kernel

lemma bearerOf_of_authorization {headers : HeaderMap} {token : String}
    (h : headers.authorization = some ("Bearer " ++ token))
    (hfilled : filled (some token) = some token) : bearerOf headers = some token := by
  rw [bearerOf, h, Option.bind_eq_bind, Option.bind_some, stripPrefix_append, Option.some_or,
    Option.bind_some, hfilled]

lemma audiences_presented :
    let := plainServer
    let := forwardedCrates
    let := samplePkce
    audiences presented.shared =
      ([("http://evil.example/mcp", forwardedHeaders, some (sampleCode, sampleRecord))],
        [some "http://evil.example/mcp"]) := by
  unfold presented OAuthEvent.serve OAuthEvent.handle requireMcpBearer
  have hbearer : bearerOf presentingHeaders = some forwardedToken :=
    bearerOf_of_authorization rfl forwardedToken_filled
  simp only [hbearer]
  decide +kernel

lemma exists_of_audiences {s : OAuthServer} {aud admitted code : String} {headers : HeaderMap}
    {record : CodeRecord}
    (h : audiences s = ([(aud, headers, some (code, record))], [some admitted])) :
    (∃ e, Descends s.responses e record [headers] ∧ e.access.aud = aud) ∧
      ∃ a ∈ s.admitted, ∃ claims, a.claims = some claims ∧ claims.aud = admitted := by
  obtain ⟨hresponses, hadmitted⟩ := Prod.mk.inj h
  constructor
  · obtain ⟨e, he, hpair⟩ := List.map_eq_singleton_iff.1 hresponses
    have hmem : e ∈ s.responses := by
      rw [he]
      exact List.mem_singleton_self e
    have hheaders : e.headers = headers := congrArg (fun r => r.2.1) hpair
    have hgrant := congrArg (fun r => r.2.2) hpair
    cases hcode : e.grant with
    | code code' record' checkedAt =>
      simp only [hcode, Option.some.injEq, Prod.mk.injEq] at hgrant
      obtain ⟨rfl, rfl⟩ := hgrant
      refine ⟨e, ?_, congrArg Prod.fst hpair⟩
      rw [← hheaders]
      exact .exchange hmem hcode
    | refresh claims => simp [hcode] at hgrant
  · obtain ⟨a, ha, haud⟩ := List.map_eq_singleton_iff.1 hadmitted
    obtain ⟨claims, hclaims, heq⟩ := Option.map_eq_some_iff.1 haud
    refine ⟨a, ?_, claims, hclaims, heq⟩
    rw [ha]
    exact List.mem_singleton_self a

/-- The token of the run has the audience that its request named, and is admitted for it. -/
theorem audience_of_chain_presented :
    let := plainServer
    let := forwardedCrates
    let := samplePkce
    ∃ e ∈ presented.shared.responses, ∃ a ∈ presented.shared.admitted, ∃ claims,
      a.claims = some claims ∧
      (resourcesEquivalent e.access.aud sampleRecord.resource ∨
        ∃ headers ∈ [forwardedHeaders],
          resourcesEquivalent e.access.aud (requestResource headers)) ∧
      (resourcesEquivalent claims.aud (requestResource a.headers) ∨
        resourcesEquivalent claims.aud (altRequestResource a.headers)) := by
  obtain ⟨⟨e, he, -⟩, a, ha, claims, hclaims, -⟩ := exists_of_audiences audiences_presented
  obtain ⟨hresponses, hadmitted⟩ :=
    @audience_of_chain Bool _ _ plainServer samplePkce forwardedCrates _ _ _
      (@reached_presented plainServer forwardedCrates samplePkce)
  exact ⟨e, he.mem, a, ha, claims, hclaims, (hresponses e _ _ he).2, hadmitted a ha claims hclaims⟩

/-- The exchange of a code leaves the resource of its consent, and the gate admits its token for
a resource that the board never had at the consent. -/
theorem audience_forwarded :
    let := plainServer
    let := forwardedCrates
    let := samplePkce
    OAuthServer.Reached (some sampleAuth) sampleTime presented ∧
      (∃ e requests, Descends presented.shared.responses e sampleRecord requests ∧
        ¬resourcesEquivalent e.access.aud sampleRecord.resource) ∧
      ∃ a ∈ presented.shared.admitted, ∃ claims, a.claims = some claims ∧
        ¬resourcesEquivalent claims.aud sampleRecord.resource := by
  obtain ⟨⟨e, he, haud⟩, a, ha, claims, hclaims, hadmitted⟩ :=
    exists_of_audiences audiences_presented
  refine ⟨@reached_presented plainServer forwardedCrates samplePkce, ⟨e, _, he, ?_⟩,
    a, ha, claims, hclaims, ?_⟩
  · rw [haud]
    decide +kernel
  · rw [hadmitted]
    decide +kernel

end OAuth

end Sandboard

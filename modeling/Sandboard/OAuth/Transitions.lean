import Sandboard.OAuth.Server

/-!
# What the sections of the handlers do

Between its sections a handler is idle or holds the record of a code that it has taken out of the
store.  A section leaves codes and log alone, or issues a code, takes one, sends a token response
or admits a request; what it logs is valid.
-/

namespace Sandboard

open Std Text

section Validity

variable [WebServer] [Pkce]

/-- The record of a code is what its consent asked for, and its resource one of those that the
headers of the consent name. -/
structure Issue.Valid (i : Issue) : Prop where
  client : i.query.clientId = some i.record.clientId
  redirect : filled i.query.redirectUri = some i.record.redirectUri
  challenge : filled i.query.codeChallenge = some i.record.codeChallenge
  resource : resourcesEquivalent i.record.resource (requestResource i.headers) ∨
    resourcesEquivalent i.record.resource (altRequestResource i.headers)

/-- The request presents the code, with the client, the redirect URI and the verifier of its
record, before its time is over. -/
structure TokenForm.Redeems (form : TokenForm) (code : String) (record : CodeRecord)
    (checkedAt : ℕ) : Prop where
  code : trim (form.code.getD "") = code
  client : trim (form.clientId.getD "") = record.clientId
  redirect : trim (form.redirectUri.getD "") = record.redirectUri
  verifier : Pkce.pkceS256Challenge (trim (form.codeVerifier.getD "")) = record.codeChallenge
  time : checkedAt ≤ record.exp

/-- The resource that the code or the refresh token was for. -/
def TokenGrant.resource : TokenGrant → String
  | code _ record _ => record.resource
  | refresh claims => claims.aud

/-- Both tokens are for one resource, which is that of the grant or the one that the headers of
the request name; a code is redeemed by its own client. -/
structure TokenResponse.Valid (e : TokenResponse) : Prop where
  same : e.refresh.aud = e.access.aud
  audience : resourcesEquivalent e.access.aud e.grant.resource ∨
    resourcesEquivalent e.access.aud (requestResource e.headers)
  redeems : ∀ code record checkedAt, e.grant = .code code record checkedAt →
    e.form.Redeems code record checkedAt

/-- The token of an admitted request is for a resource that the headers of the request name. -/
def Admission.Valid (a : Admission) : Prop :=
  ∀ claims, a.claims = some claims →
    resourcesEquivalent claims.aud (requestResource a.headers) ∨
      resourcesEquivalent claims.aud (altRequestResource a.headers)

end Validity

namespace OAuth

/-- Where a handler is. -/
inductive Phase where
  | idle
  /-- It has taken a code. -/
  | holding (code : String) (record : CodeRecord)

/-- Codes and log are the same. -/
structure SameLog (s s' : OAuthServer) : Prop where
  codes : s'.codes = s.codes
  issued : s'.issued = s.issued
  responses : s'.responses = s.responses
  admitted : s'.admitted = s.admitted

lemma SameLog.refl (s : OAuthServer) : SameLog s s := ⟨rfl, rfl, rfl, rfl⟩

/-- What one section does. -/
inductive Transition [WebServer] [Pkce] : Phase → OAuthServer → OAuthServer → Phase → Prop where
  | quiet {p : Phase} {s s' : OAuthServer} (h : SameLog s s') : Transition p s s' p
  | issue {p : Phase} (s : OAuthServer) {i : Issue} (h : i.Valid) :
    Transition p s
      { s with codes := s.codes.insert i.code i.record, issued := i :: s.issued } p
  | take {p : Phase} {s : OAuthServer} {code : String} {record : CodeRecord}
    (h : s.codes[code]? = some record) :
    Transition p s { s with codes := s.codes.erase code } (.holding code record)
  | miss {p : Phase} {s : OAuthServer} {code : String} (h : s.codes[code]? = none) :
    Transition p s { s with codes := s.codes.erase code } p
  | respond {p : Phase} (s : OAuthServer) {e : TokenResponse} (h : e.Valid)
    (hgrant : ∀ code record checkedAt, e.grant = .code code record checkedAt →
      p = .holding code record) :
    Transition p s { s with responses := e :: s.responses } .idle
  | letThrough {p : Phase} (s : OAuthServer) {a : Admission} (h : a.Valid) :
    Transition p s { s with admitted := a :: s.admitted } p

/-- The sections of the method are transitions. -/
structure Serving [WebServer] [Pkce] {ε α : Type} (p : Phase) (m : Locked OAuthServer ε α) :
    Prop where
  paced : m.Paced Transition (fun _ _ => True) p

/-- The method leaves codes and log alone, and what it returns is as `Q` says. -/
structure Steady [WebServer] [Pkce] {ε α : Type} (Q : α → Prop) (m : Locked OAuthServer ε α) :
    Prop where
  paced : ∀ p, m.Paced Transition (fun r q => q = p ∧ ∀ a, r = .ok a → Q a) p

section Methods

variable [WebServer] [Pkce] {ε ε' α β : Type} {Q : α → Prop} {p : Phase}

namespace Steady

lemma pure {a : α} (h : Q a) : Steady Q (Pure.pure a : Locked OAuthServer ε α) :=
  ⟨fun _ => ⟨rfl, fun _ ha => Except.ok.inj ha ▸ h⟩⟩

lemma fail (e : ε) : Steady Q (Locked.fail e : Locked OAuthServer ε α) :=
  ⟨fun _ => ⟨rfl, fun _ h => nomatch h⟩⟩

lemma atomic {f : OAuthServer → Except ε α × OAuthServer} (h : ∀ s, SameLog s (f s).2)
    (hQ : ∀ s a, (f s).1 = .ok a → Q a) : Steady Q (Locked.atomic f) :=
  ⟨fun p => Locked.Paced.atomic fun s => ⟨p, .quiet (h s), rfl, hQ s⟩⟩

lemma bind {Q' : β → Prop} {m : Locked OAuthServer ε α} {k : α → Locked OAuthServer ε β}
    (hm : Steady Q m) (hk : ∀ a, Q a → Steady Q' (k a)) : Steady Q' (m >>= k) := by
  refine ⟨fun p => Locked.Paced.bind ((hm.paced p).mono ?_)⟩
  rintro (e | a) q ⟨rfl, ha⟩
  · exact ⟨rfl, fun _ h => nomatch h⟩
  · exact (hk a (ha a rfl)).paced q

lemma failIf (c : Prop) [Decidable c] (e : ε) :
    Steady (fun _ => ¬ c) (Locked.failIf c e : Locked OAuthServer ε Unit) :=
  ⟨fun _ => Locked.Paced.failIf (fun hc => ⟨rfl, fun _ _ => hc⟩)
    fun _ => ⟨rfl, fun _ h => nomatch h⟩⟩

lemma mapErr {f : ε → ε'} {m : Locked OAuthServer ε α} (hm : Steady Q m) :
    Steady Q (m.mapErr f) := by
  refine ⟨fun p => Locked.Paced.mapErr ((hm.paced p).mono ?_)⟩
  rintro (e | a) q ⟨rfl, ha⟩
  · exact ⟨rfl, fun _ h => nomatch h⟩
  · exact ⟨rfl, fun _ h => ha _ (congrArg Except.ok (Except.ok.inj h))⟩

lemma attempt {m : Locked OAuthServer ε α} (hm : Steady Q m) :
    Steady (fun r => ∀ a, r = .ok a → Q a) (m.attempt : Locked OAuthServer ε' (Except ε α)) := by
  refine ⟨fun p => Locked.Paced.attempt ((hm.paced p).mono ?_)⟩
  rintro r q ⟨rfl, ha⟩
  exact ⟨rfl, fun _ h => Except.ok.inj h ▸ ha⟩

lemma serving {m : Locked OAuthServer ε α} (hm : Steady Q m) : Serving p m :=
  ⟨(hm.paced p).mono fun _ _ _ => trivial⟩

/-- After a method that leaves everything alone. -/
lemma andThen {m : Locked OAuthServer ε α} {k : α → Locked OAuthServer ε β} (hm : Steady Q m)
    (hk : ∀ a, Q a → Serving p (k a)) : Serving p (m >>= k) := by
  refine ⟨Locked.Paced.bind ((hm.paced p).mono ?_)⟩
  rintro (e | a) q ⟨rfl, ha⟩
  · trivial
  · exact (hk a (ha a rfl)).paced

end Steady

namespace Serving

lemma pure (a : α) : Serving p (Pure.pure a : Locked OAuthServer ε α) := ⟨trivial⟩

lemma fail (e : ε) : Serving p (Locked.fail e : Locked OAuthServer ε α) := ⟨trivial⟩

/-- A section that is a transition, and what follows it. -/
lemma atomic {f : OAuthServer → Except ε α × OAuthServer} {k : α → Locked OAuthServer ε β}
    (h : ∀ s, ∃ q, Transition p s (f s).2 q ∧ ∀ a, (f s).1 = .ok a → Serving q (k a)) :
    Serving p (Locked.atomic f >>= k) := by
  refine ⟨Locked.Paced.bind (Locked.Paced.atomic fun s => ?_)⟩
  obtain ⟨q, hstep, hk⟩ := h s
  refine ⟨q, hstep, ?_⟩
  cases hr : (f s).1 with
  | error e => trivial
  | ok a => exact (hk a hr).paced

end Serving

/-! ## Clients -/

omit [WebServer] [Pkce] in
lemma sameLog_clients (s : OAuthServer) (clients : ExtTreeMap String ClientRecord) :
    SameLog s { s with clients := clients } := ⟨rfl, rfl, rfl, rfl⟩

lemma steady_nowSecs : Steady (fun _ => True) (nowSecs : Locked OAuthServer ε ℕ) :=
  .atomic .refl fun _ _ _ => trivial

lemma steady_sessionHmacKey : Steady (fun _ => True) sessionHmacKey :=
  .atomic .refl fun _ _ _ => trivial

lemma steady_registerClient (body : RegisterBody) (random : String) :
    Steady (fun _ => True) (registerClient body random) := by
  unfold registerClient
  refine (Steady.failIf _ _).bind fun _ _ => ?_
  split
  · exact .fail _
  · refine (Steady.failIf _ _).bind fun _ _ => ?_
    refine Steady.bind (Q := fun _ => True)
      (.atomic (fun s => sameLog_clients s _) fun _ _ _ => trivial) fun _ _ => ?_
    exact steady_nowSecs.bind fun _ _ => .pure trivial

lemma steady_resolveClient (clientId : String) (fetched : Except String ClientDoc) :
    Steady (fun _ => True) (resolveClient clientId fetched) := by
  unfold resolveClient
  refine Steady.bind (Q := fun _ => True)
    (.atomic (fun s => sameLog_clients s _) fun _ _ _ => trivial) fun known _ => ?_
  split
  · exact .pure trivial
  · split
    · unfold fetchClientMetadata
      split
      · exact .fail _
      · refine (Steady.failIf _ _).bind fun _ _ => ?_
        split
        · exact .fail _
        · exact .atomic (fun s => sameLog_clients s _) fun _ _ _ => trivial
    · exact .fail _

/-! ## Authorization -/

omit [Pkce] in
/-- A resource that passes a test against two others. -/
lemma audience_of_not {resource granted requested : String}
    (h : ¬ (!resourcesEquivalent resource granted && !resourcesEquivalent resource requested)) :
    resourcesEquivalent resource granted ∨ resourcesEquivalent resource requested := by
  simp only [Bool.and_eq_true, Bool.not_eq_true', not_and, Bool.not_eq_false] at h
  by_cases hgranted : resourcesEquivalent resource granted
  · exact .inl hgranted
  · exact .inr (h (Bool.eq_false_iff.2 hgranted))

omit [Pkce] in
/-- What a validated authorization request contains. -/
lemma validateAuthorizeRequest_ok {q : AuthorizeQuery} {client : ClientRecord}
    {headers : HeaderMap} {redirectUri challenge resource : String}
    (h : validateAuthorizeRequest q client headers = .ok (redirectUri, challenge, resource)) :
    filled q.redirectUri = some redirectUri ∧ filled q.codeChallenge = some challenge ∧
      (resourcesEquivalent resource (requestResource headers) ∨
        resourcesEquivalent resource (altRequestResource headers)) := by
  unfold validateAuthorizeRequest at h
  split at h
  · cases h
  · split at h
    · cases h
    · rename_i hredirect
      split at h
      · cases h
      · split at h
        · cases h
        · split at h
          · cases h
          · rename_i hchallenge
            dsimp only at h
            split at h
            · cases h
            · rename_i hresource
              split at h
              · cases h
              · cases h
                exact ⟨hredirect, hchallenge, audience_of_not hresource⟩

lemma steady_authorizeGet (user : Option SessionUser) (headers : HeaderMap) (q : AuthorizeQuery)
    (fetched : Except String ClientDoc) :
    Steady (fun _ => True) (authorizeGet user headers q fetched) := by
  unfold authorizeGet
  split
  · exact .fail _
  · refine (steady_resolveClient _ _).mapErr.bind fun client _ => ?_
    split
    · exact .fail _
    · split
      · exact .pure trivial
      · exact .pure trivial

/-- A consent issues a code that is valid, or leaves everything alone. -/
lemma serving_authorizePost (user : Option SessionUser) (headers : HeaderMap) (decision : String)
    (q : AuthorizeQuery) (fetched : Except String ClientDoc) (code : String) :
    Serving p (authorizePost user headers decision q fetched code) := by
  unfold authorizePost
  split
  · exact .fail _
  · split
    · exact .fail _
    · rename_i clientId hclient
      refine (steady_resolveClient _ _).mapErr.andThen fun client _ => ?_
      split
      · exact .fail _
      · rename_i redirectUri challenge resource hvalidated
        obtain ⟨hredirect, hchallenge, hresource⟩ := validateAuthorizeRequest_ok hvalidated
        split
        · exact .pure _
        · refine .atomic fun s => ⟨p, .issue s (i := ⟨code, q, headers,
            ⟨clientId, redirectUri, challenge, resource, _, _⟩⟩) ?_, fun _ _ => .pure _⟩
          exact ⟨hclient, hredirect, hchallenge, hresource⟩

/-! ## Tokens -/

section Tokens

variable [TokenCrates]

lemma steady_issueAccessToken (sub resource : String) :
    Steady (fun access => access.1.aud = resource) (issueAccessToken sub resource) := by
  unfold issueAccessToken
  exact steady_sessionHmacKey.bind fun _ _ => steady_nowSecs.bind fun _ _ => .pure rfl

lemma steady_issueRefreshToken (sub clientId resource : String) :
    Steady (fun refresh => refresh.1.aud = resource) (issueRefreshToken sub clientId resource) := by
  unfold issueRefreshToken
  exact steady_sessionHmacKey.bind fun _ _ => steady_nowSecs.bind fun _ _ => .pure rfl

/-- Tokens are sent for a grant that allows the resource. -/
lemma serving_issueTokens {grant : TokenGrant} {headers : HeaderMap} {form : TokenForm}
    {clientId sub resource : String}
    (haudience : resourcesEquivalent resource grant.resource ∨
      resourcesEquivalent resource (requestResource headers))
    (hredeems : ∀ code record checkedAt, grant = .code code record checkedAt →
      p = .holding code record ∧ form.Redeems code record checkedAt) :
    Serving p (issueTokens grant headers form clientId sub resource) := by
  unfold issueTokens
  refine (steady_issueAccessToken sub resource).mapErr.andThen fun access haccess => ?_
  refine (steady_issueRefreshToken sub clientId resource).mapErr.andThen fun refresh hrefresh => ?_
  refine ⟨Locked.Paced.atomic fun s => ⟨.idle, .respond s ⟨hrefresh.trans haccess.symm, ?_,
    fun code record checkedAt h => (hredeems code record checkedAt h).2⟩
    fun code record checkedAt h => (hredeems code record checkedAt h).1, trivial⟩⟩
  rw [haccess]
  exact haudience

lemma serving_tokenAuthorizationCode (headers : HeaderMap) (form : TokenForm) :
    Serving p (tokenAuthorizationCode headers form) := by
  unfold tokenAuthorizationCode
  refine (Steady.failIf _ _).andThen fun _ _ => ?_
  refine .atomic fun s => ?_
  cases hcode : s.codes[trim (form.code.getD "")]? with
  | none =>
    refine ⟨p, .miss hcode, fun taken htaken => ?_⟩
    cases htaken
    exact .fail _
  | some record =>
    refine ⟨_, .take hcode, fun taken htaken => ?_⟩
    cases htaken
    refine steady_nowSecs.andThen fun now _ => ?_
    refine (Steady.failIf _ _).andThen fun _ htime => ?_
    refine (Steady.failIf _ _).andThen fun _ hclient => ?_
    refine (Steady.failIf _ _).andThen fun _ hpkce => ?_
    refine (Steady.failIf _ _).andThen fun _ hresource => ?_
    rw [not_or, not_not, not_not] at hclient
    refine serving_issueTokens (audience_of_not hresource) ?_
    rintro _ _ _ ⟨rfl⟩
    exact ⟨rfl, rfl, hclient.1.symm, hclient.2.symm, not_not.1 hpkce, Nat.le_of_not_lt htime⟩

lemma serving_tokenRefresh (headers : HeaderMap) (form : TokenForm) :
    Serving p (tokenRefresh headers form) := by
  unfold tokenRefresh
  refine (Steady.failIf _ _).andThen fun _ _ => ?_
  refine steady_sessionHmacKey.mapErr.andThen fun key _ => ?_
  refine steady_nowSecs.andThen fun now _ => ?_
  split
  · exact .fail _
  · refine (Steady.failIf _ _).andThen fun _ hresource => ?_
    exact serving_issueTokens (audience_of_not hresource) fun _ _ _ h => nomatch h

lemma serving_token (headers : HeaderMap) (body : Except String TokenForm) :
    Serving p (token headers body) := by
  unfold token
  refine Steady.andThen (Q := fun _ => True) (.atomic .refl fun _ _ _ => trivial) fun _ _ => ?_
  refine (Steady.failIf _ _).andThen fun _ _ => ?_
  split
  · exact .fail _
  · split
    · exact serving_tokenAuthorizationCode headers _
    · split
      · exact serving_tokenRefresh headers _
      · exact .fail _

/-! ## The gate -/

omit [Pkce] in
/-- A verified bearer is for the resource. -/
lemma resource_of_verifyAccessToken {now : ℕ} {key : Bytes} {bearer resource : String}
    {claims : AccessClaims}
    (h : ((verifyAccessToken now key bearer resource).bind fun _ =>
      decodeAccessToken now key bearer) = some claims) :
    resourcesEquivalent claims.aud resource := by
  obtain ⟨sub, hverify, hdecode⟩ := Option.bind_eq_some_iff.1 h
  rw [verifyAccessToken, hdecode] at hverify
  by_contra hdiffers
  simp [hdiffers] at hverify

lemma steady_verifyBearer (bearer resource : String) :
    Steady (fun verified => ∀ claims, verified = some claims →
      resourcesEquivalent claims.aud resource) (verifyBearer bearer resource) := by
  unfold verifyBearer
  refine steady_sessionHmacKey.attempt.bind fun key _ => ?_
  split
  · exact .pure fun _ h => nomatch h
  · exact steady_nowSecs.bind fun now _ => .pure fun _ h => resource_of_verifyAccessToken h

omit [TokenCrates] in
lemma serving_letThrough {headers : HeaderMap} {claims : Option AccessClaims}
    (h : Admission.Valid ⟨headers, claims⟩) : Serving p (letThrough headers claims) :=
  ⟨Locked.Paced.atomic fun s => ⟨p, .letThrough s h, trivial⟩⟩

lemma serving_requireMcpBearer (options : Bool) (headers : HeaderMap) :
    Serving p (requireMcpBearer options headers) := by
  unfold requireMcpBearer
  refine Steady.andThen (Q := fun _ => True) (.atomic .refl fun _ _ _ => trivial) fun _ _ => ?_
  split
  · exact serving_letThrough fun _ h => nomatch h
  · split
    · exact .fail _
    · refine (steady_verifyBearer _ _).andThen fun verified hverified => ?_
      split
      · exact serving_letThrough fun _ h => .inl (hverified _ h)
      · refine (steady_verifyBearer _ _).andThen fun verified' hverified' => ?_
        split
        · exact serving_letThrough fun _ h => .inr (hverified' _ h)
        · exact .fail _

/-! ## Events -/

/-- Whatever happens, the sections are transitions. -/
theorem serving_serve (event : OAuthEvent) : Serving p event.serve := by
  have hhandle : Serving p event.handle := by
    cases event with
    | register body random => exact (steady_registerClient body random).serving
    | authorizeGet user headers q fetched =>
      exact (steady_authorizeGet user headers q fetched).serving
    | authorizePost user headers decision q fetched code =>
      exact serving_authorizePost user headers decision q fetched code
    | token headers body => exact serving_token headers body
    | mcp options headers => exact serving_requireMcpBearer options headers
    | clock now => exact ⟨Locked.Paced.atomic fun s => ⟨p, .quiet ⟨rfl, rfl, rfl, rfl⟩, trivial⟩⟩
    | configure auth =>
      exact ⟨Locked.Paced.atomic fun s => ⟨p, .quiet ⟨rfl, rfl, rfl, rfl⟩, trivial⟩⟩
  unfold OAuthEvent.serve
  refine ⟨Locked.Paced.bind (Locked.Paced.attempt (hhandle.paced.mono ?_))⟩
  rintro (reply | reply) q -
  · trivial
  · trivial

end Tokens

end Methods

end OAuth

end Sandboard

import Sandboard.OAuth.Consent
import Sandboard.OAuth.Redemption

/-!
# The detour by the login page

A request for the consent page without a session is sent to the login page with the request as its
`next` parameter.  The login page returns to it after a login with a password, and hands it on to a
login through GitHub, which keeps it in its signed state.  The request that arrives is the one that
left, without its empty fields.
-/

namespace Sandboard

open Std Text

/-! ## Queries as the server reads them -/

/-- The crate that reads the query strings of requests. -/
class FormUrlencoded where
  parse : String → List (String × String)

/-- It is documented to parse `application/x-www-form-urlencoded`. -/
structure FormUrlencoded.Documented [forms : FormUrlencoded] : Prop where
  parse_eq : ∀ s, forms.parse s = formPairs s

/-- An optional field of a query; a query that gives it twice is refused. -/
def queryField (pairs : List (String × String)) (key : String) : Option (Option String) :=
  match pairs.filter (·.1 == key) with
  | [] => some none
  | [(_, v)] => some (some v)
  | _ => none

/-- The request with these fields. -/
def AuthorizeQuery.fromPairs (pairs : List (String × String)) : Option AuthorizeQuery := do
  let responseType ← queryField pairs "response_type"
  let clientId ← queryField pairs "client_id"
  let redirectUri ← queryField pairs "redirect_uri"
  let state ← queryField pairs "state"
  let codeChallenge ← queryField pairs "code_challenge"
  let codeChallengeMethod ← queryField pairs "code_challenge_method"
  let resource ← queryField pairs "resource"
  let scope ← queryField pairs "scope"
  pure ⟨responseType, clientId, redirectUri, state, codeChallenge, codeChallengeMethod, resource,
    scope⟩

structure GithubStartQuery where
  /-- The origin of the browser. -/
  returnOrigin : Option String
  /-- The path to land on after the login. -/
  next : Option String

def GithubStartQuery.fromPairs (pairs : List (String × String)) : Option GithubStartQuery := do
  let returnOrigin ← queryField pairs "return_origin"
  let next ← queryField pairs "next"
  pure ⟨returnOrigin, next⟩

/-- What the server reads when the browser requests the consent page. -/
def authorizeRequest [forms : FormUrlencoded] (url : String) : Option AuthorizeQuery := do
  let (path, query) ← splitOnce "?" url
  if path = "/oauth/authorize" then AuthorizeQuery.fromPairs (forms.parse query) else none

/-- What the server reads when the browser starts a login through GitHub. -/
def githubStartRequest [forms : FormUrlencoded] (url : String) : Option GithubStartQuery := do
  let (path, query) ← splitOnce "?" url
  if path = "/auth/github" then GithubStartQuery.fromPairs (forms.parse query) else none

/-- The path at which a login through GitHub ends. -/
def githubCallbackPath [TokenCrates] (now : ℕ) (key : Bytes) (state : String) : Option String :=
  (decodeOauthState now key state).map fun oauth => (oauth.next.bind sanitizeLoginNext).getD "/"

/-! ## The login page -/

/-- What follows the question mark of an address. -/
def searchOf (url : String) : String := ((splitOnce "?" url).map Prod.snd).getD ""

/-- Safe return to the consent page after a login. -/
def returnNext (search : String) : Option String := do
  let raw ← (formPairs search).lookup "next"
  if !startsWith "/oauth/authorize" raw then none
  else if contains "//" raw || raw.toList.contains '\\' then none
  else some raw

/-- The bytes that `encodeURIComponent` leaves alone. -/
def uriComponentSafe (b : UInt8) : Bool :=
  let c := Char.ofNat b.toNat
  c.isAlphanum || c == '-' || c == '_' || c == '.' || c == '!' || c == '~' || c == '*' ||
    c == '\'' || c == '(' || c == ')'

def encodeUriComponent (s : String) : String := percentEncoded uriComponentSafe s

/-- The link to a login through GitHub. -/
def githubLoginHref (origin : String) (next : Option String) : String :=
  "/auth/github?return_origin=" ++ encodeUriComponent origin ++
    (next.map fun next => "&next=" ++ encodeUriComponent next).getD ""

/-! ## The query string of a request -/

section QueryString

variable {q : AuthorizeQuery}

/-- A parser of forms finds the fields that are not empty. -/
lemma formPairs_authorizeQueryString (q : AuthorizeQuery) :
    formPairs (authorizeQueryString q) = q.pairs := by
  rw [authorizeQueryString_eq]
  by_cases hempty : q.pairs = []
  · rw [hempty]
    rfl
  · have hpieces : ∀ p ∈ q.pairs.map (fun (k, v) => encodedPair k v), '&' ∉ p.toList := by
      intro p hp
      obtain ⟨⟨k, v⟩, hpair, rfl⟩ := List.mem_map.1 hp
      exact amp_notMem_encodedPair hpair
    have hall : (q.pairs.map fun (k, v) => encodedPair k v).filter (· ≠ "") =
        q.pairs.map fun (k, v) => encodedPair k v := by
      rw [List.filter_eq_self]
      intro p hp
      obtain ⟨⟨k, v⟩, -, rfl⟩ := List.mem_map.1 hp
      rw [decide_eq_true_eq]
      exact encodedPair_ne_empty k v
    unfold formPairs
    rw [split_amp_intercalate (fun h => hempty (List.map_eq_nil_iff.1 h)) hpieces, hall,
      List.map_map]
    refine Eq.trans (List.map_congr_left ?_) (List.map_id _)
    rintro ⟨k, v⟩ hpair
    obtain ⟨-, hequals, hk⟩ := plain_of_mem_pairs hpair
    exact formPair_encodedPair hequals hk v

/-- A field of the query string is read once, or not at all when it is empty. -/
lemma queryField_pairs {k : String} {f : Option String}
    (hfield : (q.withoutEmpty.fields.filter fun field => field.1 == k) = [(k, f)]) :
    queryField q.pairs k = some f := by
  have hfilter : ∀ l : List (String × Option String),
      (l.filterMap fun field => field.2.map (field.1, ·)).filter (·.1 == k) =
        (l.filter fun field => field.1 == k).filterMap fun field => field.2.map (field.1, ·) := by
    intro l
    rw [List.filter_filterMap, List.filterMap_filter]
    congr 1
    funext field
    obtain ⟨k', f'⟩ := field
    cases f' with
    | none => exact (ite_self none).symm
    | some v => rfl
  have hpairs : q.pairs = q.withoutEmpty.fields.filterMap fun field => field.2.map (field.1, ·) :=
    rfl
  unfold queryField
  rw [hpairs, hfilter, hfield]
  cases f with
  | none => rfl
  | some v => rfl

/-- The query string of a request is read back without its empty fields. -/
lemma fromPairs_pairs (q : AuthorizeQuery) :
    AuthorizeQuery.fromPairs q.pairs = some q.withoutEmpty := by
  unfold AuthorizeQuery.fromPairs
  rw [queryField_pairs (k := "response_type") rfl, queryField_pairs (k := "client_id") rfl,
    queryField_pairs (k := "redirect_uri") rfl, queryField_pairs (k := "state") rfl,
    queryField_pairs (k := "code_challenge") rfl,
    queryField_pairs (k := "code_challenge_method") rfl, queryField_pairs (k := "resource") rfl,
    queryField_pairs (k := "scope") rfl]
  rfl

/-- A reserved character that does not separate is in no query string. -/
lemma notMem_authorizeQueryString {c : Char} (hc : isReserved c = true) (hamp : c ≠ '&')
    (hequals : c ≠ '=') (q : AuthorizeQuery) : c ∉ (authorizeQueryString q).toList := by
  intro h
  have hnames : ∀ k ∈ ["response_type", "client_id", "redirect_uri", "state", "code_challenge",
      "code_challenge_method", "resource", "scope"],
        (k.toList.all fun c => !isReserved c) = true := by
    decide +kernel
  rw [authorizeQueryString_eq] at h
  rcases mem_intercalate_amp h with rfl | ⟨p, hp, hin⟩
  · exact hamp rfl
  · obtain ⟨⟨k, v⟩, hpair, rfl⟩ := List.mem_map.1 hp
    refine notMem_encodedPair hc hequals (fun hk => ?_) v hin
    have hplain := List.all_eq_true.1 (hnames k (mem_pairs hpair).2) c hk
    rw [hc] at hplain
    cases hplain

end QueryString

/-! ## Returning from the login page -/

/-- The address of the consent page for a request. -/
def consentUrl (q : AuthorizeQuery) : String := "/oauth/authorize?" ++ authorizeQueryString q

section Return

variable {q : AuthorizeQuery}

/-- A reserved character that does not separate is not in the address, or in its path. -/
lemma notMem_consentUrl {c : Char} (hc : isReserved c = true) (hamp : c ≠ '&') (hequals : c ≠ '=')
    (hpath : c ∉ "/oauth/authorize?".toList) (q : AuthorizeQuery) : c ∉ (consentUrl q).toList := by
  unfold consentUrl
  rw [String.toList_append, List.mem_append, not_or]
  exact ⟨hpath, notMem_authorizeQueryString hc hamp hequals q⟩

lemma isReserved_of_isWhitespace {c : Char} (h : isWhitespace c = true) : isReserved c = true := by
  by_contra hc
  have hsafe : c.isAlphanum = true ∨ c = '-' ∨ c = '_' ∨ c = '.' ∨ c = '~' ∨ c = '%' := by
    simp only [isReserved, Bool.not_eq_true', Bool.not_eq_false, Bool.or_eq_true, beq_iff_eq,
      or_assoc] at hc
    exact hc
  have hfalse : isWhitespace c = false := by
    rcases hsafe with halnum | rfl | rfl | rfl | rfl | rfl
    · exact isWhitespace_of_alphabet (Or.inl halnum)
    · rfl
    · rfl
    · rfl
    · rfl
    · rfl
  rw [hfalse] at h
  cases h

lemma trim_consentUrl (q : AuthorizeQuery) : trim (consentUrl q) = consentUrl q := by
  have hall : ∀ c ∈ (consentUrl q).toList, isWhitespace c = false := by
    intro c hc
    by_contra hspace
    rw [Bool.not_eq_false] at hspace
    refine notMem_consentUrl (isReserved_of_isWhitespace hspace) ?_ ?_ ?_ q hc
    · rintro rfl
      cases hspace
    · rintro rfl
      cases hspace
    · intro hpath
      have hplain : ("/oauth/authorize?".toList.all fun c => !isWhitespace c) = true := by
        decide +kernel
      have hchar := List.all_eq_true.1 hplain c hpath
      rw [hspace] at hchar
      cases hchar
  exact Text.trim_eq_self (fun c hc => hall c (List.mem_of_head? hc))
    fun c hc => hall c (List.mem_of_getLast? hc)

lemma startsWith_consentUrl (q : AuthorizeQuery) :
    startsWith "/oauth/authorize" (consentUrl q) = true := by
  have hsome : afterPrefix "/oauth/authorize".toList (consentUrl q).toList =
      some ("?" ++ authorizeQueryString q).toList := by
    rw [afterPrefix_eq_some_iff, ← String.toList_append]
    rfl
  rw [startsWith, hsome]
  rfl

/-- A needle that a text avoids is not in it. -/
lemma contains_of_avoids {needle text : String}
    (h : avoids needle.toList text.toList = true) (hneedle : needle.toList ≠ []) :
    contains needle text = false := by
  have hcut := cutAt_append h []
  rw [List.append_nil] at hcut
  have hnone : cutAt needle.toList [] = none := by
    obtain ⟨c, cs, hcs⟩ := List.exists_cons_of_ne_nil hneedle
    rw [hcs]
    rfl
  rw [contains, hcut, hnone]
  rfl

/-- The address of the consent page passes the check of the login page. -/
lemma returnNext_consentUrl (q : AuthorizeQuery) :
    returnNext ("next=" ++ urlencodingEncode (consentUrl q)) = some (consentUrl q) := by
  have hpiece : '&' ∉ (encodedPair "next" (consentUrl q)).toList :=
    notMem_encodedPair rfl (by decide) (by decide) _
  have hpairs : formPairs ("next=" ++ urlencodingEncode (consentUrl q)) =
      [("next", consentUrl q)] := by
    change formPairs (encodedPair "next" (consentUrl q)) = _
    have hpos : decide (encodedPair "next" (consentUrl q) ≠ "") = true :=
      decide_eq_true (encodedPair_ne_empty _ _)
    unfold formPairs
    rw [split_amp_self hpiece, List.filter_singleton, hpos]
    change [formPair (encodedPair "next" (consentUrl q))] = _
    rw [formPair_encodedPair (by decide) (urlencodingDecode_plain (by decide) (by decide))]
  have hslashes : contains "//" (consentUrl q) = false := by
    apply contains_of_avoids
    · unfold consentUrl
      rw [String.toList_append]
      exact avoids_append (by decide)
        (avoids_of_notMem (notMem_authorizeQueryString rfl (by decide) (by decide) q))
    · decide
  have hbackslash : (consentUrl q).toList.contains '\\' = false := by
    rw [List.contains_eq_mem, decide_eq_false_iff_not]
    exact notMem_consentUrl rfl (by decide) (by decide) (by decide) q
  unfold returnNext
  rw [hpairs]
  change (if !startsWith "/oauth/authorize" (consentUrl q) then none
    else if contains "//" (consentUrl q) || (consentUrl q).toList.contains '\\' then none
    else some (consentUrl q)) = _
  rw [startsWith_consentUrl, hslashes, hbackslash]
  rfl

/-- The check of the server lets the address of the consent page pass too. -/
lemma sanitizeLoginNext_consentUrl (q : AuthorizeQuery) :
    sanitizeLoginNext (consentUrl q) = some (consentUrl q) := by
  have hnone : ∀ c, isReserved c = true → c ≠ '&' → c ≠ '=' → c ∉ "/oauth/authorize?".toList →
      (consentUrl q).toList.contains c = false := by
    intro c hc hamp hequals hpath
    rw [List.contains_eq_mem, decide_eq_false_iff_not]
    exact notMem_consentUrl hc hamp hequals hpath q
  have hscheme : contains "://" (consentUrl q) = false :=
    contains_of_avoids (avoids_of_notMem (notMem_consentUrl rfl (by decide) (by decide)
      (by decide) q)) (by decide)
  unfold sanitizeLoginNext
  rw [trim_consentUrl]
  dsimp only
  rw [startsWith_consentUrl, hscheme, hnone '\\' rfl (by decide) (by decide) (by decide),
    hnone '\n' rfl (by decide) (by decide) (by decide),
    hnone '\r' rfl (by decide) (by decide) (by decide)]
  rfl

/-- The consent page is requested with the request that left it, without its empty fields. -/
lemma authorizeRequest_consentUrl [forms : FormUrlencoded] (h : forms.Documented)
    (q : AuthorizeQuery) : authorizeRequest (consentUrl q) = some q.withoutEmpty := by
  have hurl : consentUrl q = "/oauth/authorize" ++ "?" ++ authorizeQueryString q := rfl
  have hpath : '?' ∉ "/oauth/authorize".toList := by decide
  have hcut : splitOnce "?" (consentUrl q) = some ("/oauth/authorize", authorizeQueryString q) := by
    rw [hurl]
    exact splitOnce_char hpath _
  unfold authorizeRequest
  rw [hcut]
  change (if "/oauth/authorize" = "/oauth/authorize" then
    AuthorizeQuery.fromPairs (forms.parse (authorizeQueryString q)) else none) = _
  rw [if_pos rfl, h.parse_eq, formPairs_authorizeQueryString, fromPairs_pairs]

lemma urlencodingDecode_encodeUriComponent (s : String) :
    urlencodingDecode (encodeUriComponent s) = s := by
  have hascii : ∀ b : UInt8, uriComponentSafe b = true → b < 0x80 :=
    forall_byte (by decide +kernel)
  exact urlencodingDecode_percentEncoded hascii (by decide) (by decide) s

lemma amp_notMem_encodeUriComponent (s : String) : '&' ∉ (encodeUriComponent s).toList := by
  intro h
  have hsafe : ∀ b : UInt8, uriComponentSafe b = true → '&' ≠ Char.ofNat b.toNat :=
    forall_byte (by decide +kernel)
  rcases urlSafe_of_mem h with ⟨b, hb, hc⟩ | hc | halnum
  · exact hsafe b hb hc
  · cases hc
  · cases halnum

/-- The link to a login through GitHub tells the server where to return to. -/
lemma githubStartRequest_href [forms : FormUrlencoded] (h : forms.Documented)
    (origin next : String) :
    githubStartRequest (githubLoginHref origin (some next)) = some ⟨some origin, some next⟩ := by
  have hurl : githubLoginHref origin (some next) = "/auth/github" ++ "?" ++
      ("return_origin" ++ "=" ++ encodeUriComponent origin ++ "&" ++
        ("next" ++ "=" ++ encodeUriComponent next)) := by
    unfold githubLoginHref
    apply String.toList_inj.1
    simp only [String.toList_append, List.append_assoc, Option.map_some, Option.getD_some]
    rfl
  have horigin : '&' ∉ ("return_origin" ++ "=" ++ encodeUriComponent origin).toList := by
    rw [String.toList_append, List.mem_append, not_or]
    exact ⟨by decide, amp_notMem_encodeUriComponent origin⟩
  have hnext : '&' ∉ ("next" ++ "=" ++ encodeUriComponent next).toList := by
    rw [String.toList_append, List.mem_append, not_or]
    exact ⟨by decide, amp_notMem_encodeUriComponent next⟩
  have hne : ∀ k v : String, decide (k ++ "=" ++ v ≠ "") = true := by
    intro k v
    rw [decide_eq_true_eq]
    intro hempty
    have hlength := congrArg (fun s => s.toList.length) hempty
    rw [String.toList_append, String.toList_append, List.length_append,
      List.length_append] at hlength
    change k.toList.length + 1 + v.toList.length = 0 at hlength
    omega
  have hpairs : formPairs ("return_origin" ++ "=" ++ encodeUriComponent origin ++ "&" ++
      ("next" ++ "=" ++ encodeUriComponent next)) =
        [("return_origin", origin), ("next", next)] := by
    unfold formPairs
    rw [split_amp_cons horigin, split_amp_self hnext, List.filter_cons, hne, if_pos rfl,
      List.filter_singleton, hne]
    change [formPair ("return_origin" ++ "=" ++ encodeUriComponent origin),
      formPair ("next" ++ "=" ++ encodeUriComponent next)] = _
    rw [formPair_cut (by decide), formPair_cut (by decide), urlencodingDecode_encodeUriComponent,
      urlencodingDecode_encodeUriComponent, urlencodingDecode_plain (by decide) (by decide),
      urlencodingDecode_plain (by decide) (by decide)]
  have hcut : splitOnce "?" (githubLoginHref origin (some next)) = some ("/auth/github",
      "return_origin" ++ "=" ++ encodeUriComponent origin ++ "&" ++
        ("next" ++ "=" ++ encodeUriComponent next)) := by
    have hpath : '?' ∉ "/auth/github".toList := by decide
    rw [hurl]
    exact splitOnce_char hpath _
  unfold githubStartRequest
  rw [hcut]
  change (if "/auth/github" = "/auth/github" then
    GithubStartQuery.fromPairs (forms.parse _) else none) = _
  rw [if_pos rfl, h.parse_eq, hpairs]
  rfl

/-- A login through GitHub that is in time ends at the consent page. -/
lemma githubCallbackPath_consentUrl [crates : TokenCrates] {key nonce : Bytes} {redirect : String}
    {t now : ℕ} (q : AuthorizeQuery)
    (h : crates.Documented key (oauthStatePayload t nonce redirect (some (consentUrl q))).toJson) :
    githubCallbackPath now key (encodeOauthState t key nonce redirect (some (consentUrl q))) =
      if saturatingAdd t oauthStateTtlSecs < now || isBlank redirect then none
      else some (consentUrl q) := by
  have hdecode : decodeOauthState now key (encodeOauthState t key nonce redirect
      (some (consentUrl q))) = if saturatingAdd t oauthStateTtlSecs < now || isBlank redirect
        then none else some (oauthStatePayload t nonce redirect (some (consentUrl q))) :=
    decodeOauthState_state h
  have hnext : (oauthStatePayload t nonce redirect (some (consentUrl q))).next =
      some (consentUrl q) := by
    unfold oauthStatePayload
    dsimp only
    rw [Option.bind_some, sanitizeLoginNext_consentUrl]
  unfold githubCallbackPath
  rw [hdecode]
  split
  · rfl
  · rw [Option.map_some, hnext, Option.bind_some, sanitizeLoginNext_consentUrl, Option.getD_some]

/-- Without a session the browser is sent to the login page, with the request to return to. -/
lemma authorizeGet_detour [WebServer] {headers : HeaderMap} {q : AuthorizeQuery}
    {fetched : Except String ClientDoc} {s s' : OAuthServer} {url : String}
    (h : (authorizeGet none headers q fetched).run s = (.ok (.redirect url), s')) :
    searchOf url = "next=" ++ urlencodingEncode (consentUrl q) := by
  unfold authorizeGet at h
  cases hclient : filled q.clientId with
  | none =>
    rw [hclient] at h
    cases h
  | some clientId =>
    rw [hclient] at h
    dsimp only at h
    rw [Locked.run_bind, Locked.run_mapErr] at h
    rcases hresolve : (resolveClient clientId fetched).run s with ⟨outcome, s₁⟩
    rw [hresolve] at h
    cases outcome with
    | error e => cases h
    | ok client =>
      change Locked.run _ s₁ = _ at h
      beta_reduce at h
      cases hvalidate : validateAuthorizeRequest q client headers with
      | error e =>
        rw [hvalidate] at h
        cases h
      | ok validated =>
        rw [hvalidate] at h
        dsimp only at h
        rw [Locked.run_pure] at h
        obtain ⟨hreply, -⟩ := Prod.mk.inj h
        have hurl := Reply.redirect.inj (Except.ok.inj hreply)
        have hcut : splitOnce "?" url = some ("/", "next=" ++ urlencodingEncode (consentUrl q)) := by
          have hpath : '?' ∉ "/".toList := by decide
          have htext : url = "/" ++ "?" ++ ("next=" ++ urlencodingEncode (consentUrl q)) := by
            rw [← hurl, ← String.append_assoc]
            rfl
          rw [htext]
          exact splitOnce_char hpath _
        rw [searchOf, hcut]
        rfl

end Return

/-! ## Consent to what was shown -/

section Main

variable [WebServer] [crates : TokenCrates] [forms : FormUrlencoded]

/-- Whenever a request is sent to the login page, it arrives again without its empty fields, after a
login with a password and after one through GitHub. -/
def ArrivesAgain (q : AuthorizeQuery) : Prop :=
  ∀ (headers : HeaderMap) (fetched : Except String ClientDoc) (s s' : OAuthServer) (url : String),
    (authorizeGet none headers q fetched).run s = (.ok (.redirect url), s') →
      ∃ next, returnNext (searchOf url) = some next ∧
        authorizeRequest next = some q.withoutEmpty ∧
        (∀ origin, githubStartRequest (githubLoginHref origin (some next)) =
          some ⟨some origin, some next⟩) ∧
        ∀ (t now : ℕ) (key nonce : Bytes) (redirect : String),
          crates.Documented key (oauthStatePayload t nonce redirect (some next)).toJson →
            githubCallbackPath now key (encodeOauthState t key nonce redirect (some next)) =
              if saturatingAdd t oauthStateTtlSecs < now || isBlank redirect then none
              else some next

/-- The request behind a consent page is posted back without its empty fields, which is the same
request, and it survives the detour by the login page.  What an approval then records is what the
page was rendered for exactly when the client id was sent without blanks around it and the approval
reaches the board under the resource of the page. -/
theorem records_shown_iff (q : AuthorizeQuery)
    (hbase : crates.Base64Documented (asBytes (authorizeQueryString q)))
    (hforms : forms.Documented) :
    parseAuthorizePayload (payloadOf (authorizeQueryString q)) = q.withoutEmpty ∧
      (∀ user headers fetched,
        authorizeGet user headers q.withoutEmpty fetched = authorizeGet user headers q fetched) ∧
      ArrivesAgain q ∧
      ∀ page : ConsentPage q, ∃ consent, page.Shows consent ∧
        ∀ server, KeepsClients page.after server → ∀ user headers fetched code,
          (Records server user headers (parseAuthorizePayload (payloadOf page.query)) fetched code
              consent ↔
            filled q.clientId = q.clientId ∧ SameResource q page.headers headers) := by
  have hparse : parseAuthorizePayload (payloadOf (authorizeQueryString q)) = q.withoutEmpty :=
    parseAuthorizePayload_payloadOf hbase
  refine ⟨hparse, fun user headers fetched => authorizeGet_withoutEmpty user headers q fetched,
    ?_, fun page => ?_⟩
  · intro headers fetched s s' url h
    refine ⟨consentUrl q, ?_, authorizeRequest_consentUrl hforms q,
      fun origin => githubStartRequest_href hforms origin _,
      fun t now key nonce redirect hstate => githubCallbackPath_consentUrl q hstate⟩
    rw [authorizeGet_detour h]
    exact returnNext_consentUrl q
  · obtain ⟨hquery, consent, hshows⟩ := page.exists_shows
    refine ⟨consent, hshows, fun server hkeeps user headers fetched code => ?_⟩
    rw [hquery, hparse, records_iff hshows hkeeps user headers fetched code, hshows.1]
    exact and_congr_left' eq_comm

end Main

/-! ## A client id with a blank before it -/

/-- A request by the client that is always there, under some spelling of its id. -/
def cursorRequest (clientId : String) : AuthorizeQuery where
  responseType := some "code"
  clientId := some clientId
  redirectUri := some "http://localhost:8787/callback"
  state := some "xyz"
  codeChallenge := some "E9Melhoa2OwvFrEMTJguCHaoeK1t8URWbuGJSstw-cM"
  codeChallengeMethod := some "S256"
  resource := none
  scope := some "mcp"

/-- The base64 of the query string of the request, from where the client id ends. -/
def base64Tail : String :=
  "kYm9hcmQtY3Vyc29yJnJlZGlyZWN0X3VyaT1odHRwJTNBJTJGJTJGbG9jYWxob3N0JTNBODc4NyUyRmNhbGxi" ++
    "YWNrJnN0YXRlPXh5eiZjb2RlX2NoYWxsZW5nZT1FOU1lbGhvYTJPd3ZGckVNVEpndUNIYW9lSzF0OFVSV2J1" ++
    "R0pTc3R3LWNNJmNvZGVfY2hhbGxlbmdlX21ldGhvZD1TMjU2JnNjb3BlPW1jcA"

/-- The crates at the page of a request whose query string has this base64. -/
abbrev pageCrates (q : AuthorizeQuery) (text : String) : TokenCrates where
  hmac _ _ := []
  base64 _ := text
  unbase64 _ := some (asBytes (authorizeQueryString q))
  toVec _ := []
  fromSlice _ := none
  encodeJwt _ _ := ""
  decodeJwt _ _ _ := none

/-- The crates at the page of the request. -/
abbrev cursorCrates : TokenCrates :=
  pageCrates (cursorRequest "sandboard-cursor")
    ("cmVzcG9uc2VfdHlwZT1jb2RlJmNsaWVudF9pZD1zYW5" ++ base64Tail)

/-- The crates at the page of the request with a blank before the client id. -/
abbrev paddedCrates : TokenCrates :=
  pageCrates (cursorRequest " sandboard-cursor")
    ("cmVzcG9uc2VfdHlwZT1jb2RlJmNsaWVudF9pZD0lMjBzYW5" ++ base64Tail)

/-- A server that has just started. -/
def freshServer : OAuthServer := ⟨∅, ∅, none, 1700000000, [], [], []⟩

/-- The client that is always there. -/
def cursorClient : ClientRecord where
  redirectUris := ["http://localhost:8787/callback", "http://127.0.0.1:8787/callback",
    "cursor://anysphere.cursor-mcp/oauth/callback",
    "https://www.cursor.com/agents/mcp/oauth/callback"]
  clientName := some "Cursor (sandboard)"

lemma freshServer_knows :
    freshServer.ensureStaticClients.clients["sandboard-cursor"]? = some cursorClient := by
  change ((((∅ : ExtTreeMap String ClientRecord).insertIfNew "sandboard-cursor" cursorClient
    ).insertIfNew "sandboard-cockpit" _)["sandboard-cursor"]?) = _
  rw [ExtTreeMap.getElem?_insertIfNew, if_neg (by rintro ⟨h, -⟩; revert h; decide),
    ExtTreeMap.getElem?_insertIfNew, if_pos ⟨Std.compare_eq_iff_eq.2 rfl, ExtTreeMap.not_mem_empty⟩]

lemma validate_cursorRequest [WebServer] (clientId : String) :
    validateAuthorizeRequest (cursorRequest clientId) cursorClient OAuth.localHeaders =
      .ok ("http://localhost:8787/callback", "E9Melhoa2OwvFrEMTJguCHaoeK1t8URWbuGJSstw-cM",
        requestResource OAuth.localHeaders) := by
  have hredirect : filled (some "http://localhost:8787/callback") =
      some "http://localhost:8787/callback" := by
    decide +kernel
  have hchallenge : filled (some "E9Melhoa2OwvFrEMTJguCHaoeK1t8URWbuGJSstw-cM") =
      some "E9Melhoa2OwvFrEMTJguCHaoeK1t8URWbuGJSstw-cM" := by
    decide +kernel
  have hscopes : ∀ part ∈ splitWhitespace "mcp", part = mcpScope := by
    decide +kernel
  exact validateAuthorizeRequest_eq_ok_iff.2 ⟨rfl, hredirect, by decide, rfl, hchallenge, rfl,
    Or.inl (resourcesEquivalent_refl _), hscopes⟩

/-- The consent page of a fresh server for the request. -/
def cursorPage [WebServer] (clientId : String)
    (h : filled (some clientId) = some "sandboard-cursor") :
    ConsentPage (cursorRequest clientId) where
  user := ⟨.admin, "admin"⟩
  headers := OAuth.localHeaders
  fetched := .error ""
  before := freshServer
  after := freshServer.ensureStaticClients
  login := "admin"
  name := "Cursor (sandboard)"
  query := authorizeQueryString (cursorRequest clientId)
  rendered := authorizeGet_renders h freshServer_knows (validate_cursorRequest clientId)

/-- A text in the URL-safe alphabet. -/
def inAlphabet (text : String) : Bool :=
  text.toList.all fun c => c.isAlphanum || c == '-' || c == '_'

lemma alphabet_of_inAlphabet {text : String} (h : inAlphabet text = true) :
    ∀ c ∈ text.toList, c.isAlphanum = true ∨ c = '-' ∨ c = '_' := by
  intro c hc
  have hchar := List.all_eq_true.1 h c hc
  rwa [Bool.or_eq_true, Bool.or_eq_true, beq_iff_eq, beq_iff_eq, or_assoc] at hchar

/-- Base64 that ends as that of the request is what the crate is documented to write. -/
lemma pageCrates_documented {q : AuthorizeQuery} {head : String}
    (hhead : inAlphabet head = true) :
    (pageCrates q (head ++ base64Tail)).Base64Documented (asBytes (authorizeQueryString q)) := by
  refine @TokenCrates.Base64Documented.mk (pageCrates q (head ++ base64Tail)) _ rfl fun c hc => ?_
  change c ∈ (head ++ base64Tail).toList at hc
  rw [String.toList_append, List.mem_append] at hc
  have htail : inAlphabet base64Tail = true := by decide +kernel
  exact hc.elim (alphabet_of_inAlphabet hhead c) (alphabet_of_inAlphabet htail c)

/-- A request that names its client without blanks: the approval records what the page showed. -/
theorem records_shown_cursor :
    let := plainServer
    let := cursorCrates
    ∃ page : ConsentPage (cursorRequest "sandboard-cursor"), ∃ consent, page.Shows consent ∧
      Records page.after page.user page.headers (parseAuthorizePayload (payloadOf page.query))
        page.fetched "code" consent := by
  have hfilled : filled (some "sandboard-cursor") = some "sandboard-cursor" := by decide +kernel
  have hdocumented : cursorCrates.Base64Documented
      (asBytes (authorizeQueryString (cursorRequest "sandboard-cursor"))) :=
    pageCrates_documented (by decide +kernel)
  have hforms : @FormUrlencoded.Documented ⟨formPairs⟩ :=
    @FormUrlencoded.Documented.mk ⟨formPairs⟩ fun _ => rfl
  obtain ⟨-, -, -, hpages⟩ := @records_shown_iff plainServer cursorCrates ⟨formPairs⟩
    (cursorRequest "sandboard-cursor") hdocumented hforms
  obtain ⟨consent, hshows, hrecords⟩ := hpages (@cursorPage plainServer "sandboard-cursor" hfilled)
  refine ⟨@cursorPage plainServer "sandboard-cursor" hfilled, consent, hshows, ?_⟩
  exact (hrecords _ (fun _ _ h => h) _ _ _ _).2 ⟨hfilled, rfl⟩

/-- With a blank before the client id, the page is rendered for the client, and its approval is
refused. -/
theorem not_records_padded :
    let := plainServer
    let := paddedCrates
    ¬ ∀ (q : AuthorizeQuery) (page : ConsentPage q) (consent : Consent), page.Shows consent →
      Records page.after page.user page.headers (parseAuthorizePayload (payloadOf page.query))
        page.fetched "code" consent := by
  intro server crates h
  have hfilled : filled (some " sandboard-cursor") = some "sandboard-cursor" := by decide +kernel
  let page := @cursorPage server " sandboard-cursor" hfilled
  obtain ⟨hquery, consent, hshows⟩ := page.exists_shows
  have hrecords := h _ page consent hshows
  have hdocumented : crates.Base64Documented
      (asBytes (authorizeQueryString (cursorRequest " sandboard-cursor"))) :=
    pageCrates_documented (by decide +kernel)
  rw [hquery, parseAuthorizePayload_payloadOf hdocumented,
    records_iff hshows (fun _ _ hknown => hknown)] at hrecords
  have hid : filled (some " sandboard-cursor") = some consent.clientId := hshows.1
  have hsame : (some " sandboard-cursor" : Option String) = some consent.clientId := hrecords.1
  rw [hfilled] at hid
  rw [← hid] at hsame
  revert hsame
  decide

end Sandboard

import Sandboard.OAuth.Tokens

/-!
# One verifier for each kind of token

Session cookies and login states are a payload and a signature with one dot between them, MCP
tokens are three parts with two dots, and within each form the fields of the payload tell the
kinds apart.  So a token is accepted by the verifier of its own kind only.  Cookies and login
states end with the second of their `exp`; the JWT library accepts MCP tokens for some more time.
-/

namespace Sandboard

open Text

/-! ## Texts -/

section Texts

/-- Nothing before the first dot is a dot. -/
lemma notMem_of_cutAt {c : Char} {cs before after : List Char}
    (h : cutAt [c] cs = some (before, after)) : c ∉ before := by
  induction cs generalizing before with
  | nil => cases h
  | cons d cs ih =>
    rw [cutAt] at h
    split at h
    · cases h
      exact List.not_mem_nil
    · rename_i hprefix
      obtain ⟨⟨b, a⟩, hcut, heq⟩ := Option.map_eq_some_iff.1 h
      cases heq
      have hne : c ≠ d := by
        intro hcd
        rw [hcd, afterPrefix, if_pos rfl] at hprefix
        cases hprefix
      rw [List.mem_cons, not_or]
      exact ⟨hne, ih hcut⟩

/-- A text that splits at its first dot has one more dot than the rest. -/
lemma count_of_splitOnce {s before after : String} (h : splitOnce "." s = some (before, after)) :
    s.toList.count '.' = after.toList.count '.' + 1 := by
  obtain ⟨⟨b, a⟩, hcut, heq⟩ := Option.map_eq_some_iff.1 h
  cases heq
  have hbefore : b.count '.' = 0 := List.count_eq_zero.2 (notMem_of_cutAt hcut)
  rw [eq_of_cutAt hcut, List.count_append, hbefore, Nat.zero_add]
  simp only [String.toList_ofList]
  change ('.' :: a).count '.' = a.count '.' + 1
  rw [List.count_cons_self]

/-- A text is split at its first dot. -/
lemma splitOnce_dot {before : String} (h : '.' ∉ before.toList) (after : String) :
    splitOnce "." (before ++ "." ++ after) = some (before, after) := by
  have havoids : avoids ['.'] before.toList = true := avoids_of_notMem h
  have hcut := cutAt_append havoids ('.' :: after.toList)
  have hself : cutAt ['.'] ('.' :: after.toList) = some ([], after.toList) :=
    cutAt_self ['.'] after.toList
  have htext : (before ++ "." ++ after).toList = before.toList ++ '.' :: after.toList := by
    rw [String.toList_append, String.toList_append, List.append_assoc]
    rfl
  have hdot : ".".toList = ['.'] := rfl
  rw [splitOnce, htext, hdot, hcut, hself]
  simp

lemma hexDigit_ne_dot {n : ℕ} (h : n < 16) : hexDigit n ≠ '.' := by
  have hall : ∀ m < 16, hexDigit m ≠ '.' := by decide
  exact hall n h

/-- A text in hex has no dot. -/
lemma dot_notMem_hexEncode (bytes : Bytes) : '.' ∉ (hexEncode bytes).toList := by
  rw [hexEncode, String.toList_ofList, List.mem_flatMap]
  rintro ⟨b, -, hb⟩
  have hb256 : b.toNat < 256 := b.toNat_lt
  have hhigh := hexDigit_ne_dot (n := b.toNat / 16) (by omega)
  have hlow := hexDigit_ne_dot (n := b.toNat % 16) (by omega)
  simp only [List.mem_cons, List.not_mem_nil, or_false] at hb
  exact hb.elim hhigh.symm hlow.symm

lemma asBytes_injective : Function.Injective asBytes := by
  intro a b h
  have hdata : a.toUTF8.data = b.toUTF8.data := Array.toList_inj.1 h
  exact String.toByteArray_inj.1 (ByteArray.ext hdata)

/-- The accumulated differences of two texts vanish only when none of them differ. -/
lemma eq_of_foldl_xor {a b : Bytes} (hlen : a.length = b.length) {acc : UInt8}
    (h : (a.zip b).foldl (fun acc (x, y) => acc ||| (x ^^^ y)) acc = 0) : acc = 0 ∧ a = b := by
  induction a generalizing b acc with
  | nil =>
    cases b with
    | nil => exact ⟨h, rfl⟩
    | cons y b => cases hlen
  | cons x a ih =>
    cases b with
    | nil => cases hlen
    | cons y b =>
      rw [List.zip_cons_cons, List.foldl_cons] at h
      obtain ⟨hacc, hrest⟩ := ih (Nat.succ.inj hlen) h
      obtain ⟨hzero, hxor⟩ := UInt8.or_eq_zero_iff.1 hacc
      rw [UInt8.xor_eq_zero_iff.1 hxor, hrest]
      exact ⟨hzero, rfl⟩

lemma constantTimeEq_iff {a b : Bytes} : constantTimeEq a b = true ↔ a = b := by
  unfold constantTimeEq
  constructor
  · intro h
    split at h
    · cases h
    · rename_i hlen
      exact (eq_of_foldl_xor (by simpa using hlen) (beq_iff_eq.1 h)).2
  · rintro rfl
    have hzero : ∀ bytes : Bytes,
        (bytes.zip bytes).foldl (fun acc (x, y) => acc ||| (x ^^^ y)) (0 : UInt8) = 0 := by
      intro bytes
      induction bytes with
      | nil => rfl
      | cons b bytes ih =>
        rw [List.zip_cons_cons, List.foldl_cons]
        simpa using ih
    simp [hzero]

end Texts

/-! ## The two forms -/

section Forms

variable [crates : TokenCrates] {key : Bytes} {o : JsonObject} {now : ℕ}

/-- A signed payload has one dot. -/
lemma count_signed (h : crates.Documented key o) : (signed key o).toList.count '.' = 1 := by
  have hpayload := List.count_eq_zero.2 h.dot_notMem_base64
  have hsig : (signPayload key (crates.base64 (crates.toVec o))).toList.count '.' = 0 :=
    List.count_eq_zero.2 (dot_notMem_hexEncode _)
  rw [signed, String.toList_append, String.toList_append, List.count_append, List.count_append,
    hpayload, hsig]
  rfl

/-- A signed payload is read back. -/
lemma unsigned_signed (h : crates.Documented key o) : unsigned key (signed key o) = some o := by
  unfold unsigned signed
  rw [splitOnce_dot h.dot_notMem_base64]
  simp [constantTimeEq_iff.2, h.unbase64_base64, h.fromSlice_toVec]

/-- A text with two dots is no signed payload. -/
lemma unsigned_eq_none {text : String} (h : text.toList.count '.' = 2) :
    unsigned key text = none := by
  unfold unsigned
  cases hsplit : splitOnce "." text with
  | none => rfl
  | some parts =>
    obtain ⟨payload, sig⟩ := parts
    have hsig : sig ≠ signPayload key payload := by
      intro heq
      have hcount := count_of_splitOnce hsplit
      rw [h, heq, signPayload, List.count_eq_zero.2 (dot_notMem_hexEncode _)] at hcount
      cases hcount
    have hbytes : constantTimeEq (asBytes sig) (asBytes (signPayload key payload)) = false := by
      rw [Bool.eq_false_iff, Ne, constantTimeEq_iff]
      exact fun heq => hsig (asBytes_injective heq)
    simp [hbytes]

/-- A signed payload is no JWT. -/
lemma decodeJwt_signed (h : crates.Documented key o) :
    crates.decodeJwt now key (signed key o) = none := by
  cases hdecode : crates.decodeJwt now key (signed key o) with
  | none => rfl
  | some o' =>
    have hcount := h.count_of_decodeJwt now _ o' hdecode
    rw [count_signed h] at hcount
    cases hcount

end Forms

/-! ## Tokens and their verifiers -/

/-- What a minter is asked for. -/
inductive Minted where
  | session (user : SessionUser) (ttlSecs : ℕ)
  | state (nonce : Bytes) (redirect : String) (next : Option String)
  | access (sub resource : String)
  | refresh (sub clientId resource : String)

namespace Minted

/-- The token that is minted. -/
def text [TokenCrates] (time : ℕ) (key : Bytes) : Minted → String
  | session user ttlSecs => encodeSession time key user ttlSecs
  | state nonce redirect next => encodeOauthState time key nonce redirect next
  | access sub resource => mintAccessToken time key sub resource
  | refresh sub clientId resource => mintRefreshToken time key sub clientId resource

/-- The payload of the token. -/
def payload (time : ℕ) : Minted → JsonObject
  | session user ttlSecs => (sessionPayload time user ttlSecs).toJson
  | state nonce redirect next => (oauthStatePayload time nonce redirect next).toJson
  | access sub resource => (accessClaims time sub resource).toJson
  | refresh sub clientId resource => (refreshClaims time sub clientId resource).toJson

/-- The last second of the token. -/
def exp (time : ℕ) : Minted → ℕ
  | session _ ttlSecs => saturatingAdd time ttlSecs
  | state .. => saturatingAdd time oauthStateTtlSecs
  | access .. => saturatingAdd time accessTtlSecs
  | refresh .. => saturatingAdd time refreshTtlSecs

end Minted

/-- Who a token is presented to. -/
inductive Verifier where
  | session
  | state
  | access (resource : String)
  | refresh (clientId : String)

namespace Verifier

/-- The verifier accepts a text. -/
def accepts [TokenCrates] [WebServer] (now : ℕ) (key : Bytes) (text : String) : Verifier → Bool
  | session => (decodeSession now key text).isSome
  | state => (decodeOauthState now key text).isSome
  | access resource => (verifyAccessToken now key text resource).isSome
  | refresh clientId => (verifyRefreshToken now key text clientId).isSome

/-- The verifier is the one for the token. -/
def isFor : Verifier → Minted → Bool
  | session, .session .. | state, .state .. | access _, .access .. | refresh _, .refresh .. => true
  | _, _ => false

end Verifier

/-- An MCP token is presented, for its resource or by its client, in the leeway after its last
second. -/
def InLeeway [WebServer] (time now : ℕ) : Minted → Verifier → Prop
  | .access sub aud, .access resource =>
    let exp := (Minted.access sub aud).exp time
    exp < now ∧ now ≤ exp + jwtLeeway ∧ resourcesEquivalent aud resource
  | .refresh sub clientId aud, .refresh presented =>
    let exp := (Minted.refresh sub clientId aud).exp time
    exp < now ∧ now ≤ exp + jwtLeeway ∧ clientId = presented
  | _, _ => False

/-! ## Reading the payloads -/

section Payloads

lemma SessionPayload.fromJson_toJson (p : SessionPayload) : fromJson p.toJson = some p := by
  obtain ⟨kind, login, exp⟩ := p
  cases kind <;> rfl

lemma OAuthStatePayload.fromJson_toJson (p : OAuthStatePayload) : fromJson p.toJson = some p := by
  obtain ⟨n, exp, ru, next⟩ := p
  cases next <;> rfl

/-- A login state has no `kind`. -/
lemma SessionPayload.fromJson_state (p : OAuthStatePayload) :
    SessionPayload.fromJson p.toJson = none := by
  obtain ⟨n, exp, ru, next⟩ := p
  cases next <;> rfl

/-- A session has no `n`. -/
lemma OAuthStatePayload.fromJson_session (p : SessionPayload) :
    OAuthStatePayload.fromJson p.toJson = none := rfl

lemma AccessClaims.fromJson_toJson (c : AccessClaims) : fromJson c.toJson = some c := rfl

lemma RefreshClaims.fromJson_toJson (c : RefreshClaims) : fromJson c.toJson = some c := rfl

/-- An access token has no `client_id`. -/
lemma RefreshClaims.fromJson_access (c : AccessClaims) : RefreshClaims.fromJson c.toJson = none :=
  rfl

/-- A refresh token has the fields of an access token, with another type. -/
lemma AccessClaims.fromJson_refresh (c : RefreshClaims) :
    AccessClaims.fromJson c.toJson = some ⟨c.sub, c.aud, c.scope, c.exp, c.iat, c.typ⟩ := rfl

end Payloads

section Separation

variable [crates : TokenCrates] {key : Bytes} {t now : ℕ}

/-! ## Every verifier on every token -/

lemma decodeSession_session {user : SessionUser} {ttlSecs : ℕ}
    (h : crates.Documented key ((Minted.session user ttlSecs).payload t)) :
    decodeSession now key (encodeSession t key user ttlSecs) =
      if saturatingAdd t ttlSecs < now then none
      else if isBlank user.login then none else some user := by
  have hread := unsigned_signed h
  unfold decodeSession encodeSession
  rw [Minted.payload] at hread
  rw [hread]
  simp [SessionPayload.fromJson_toJson, sessionPayload]

lemma decodeOauthState_state {nonce : Bytes} {redirect : String} {next : Option String}
    (h : crates.Documented key ((Minted.state nonce redirect next).payload t)) :
    decodeOauthState now key (encodeOauthState t key nonce redirect next) =
      if saturatingAdd t oauthStateTtlSecs < now || isBlank redirect then none
      else some (oauthStatePayload t nonce redirect next) := by
  have hread := unsigned_signed h
  unfold decodeOauthState encodeOauthState
  rw [Minted.payload] at hread
  rw [hread]
  simp [OAuthStatePayload.fromJson_toJson, oauthStatePayload]

lemma decodeSession_state {nonce : Bytes} {redirect : String} {next : Option String}
    (h : crates.Documented key ((Minted.state nonce redirect next).payload t)) :
    decodeSession now key (encodeOauthState t key nonce redirect next) = none := by
  have hread := unsigned_signed h
  unfold decodeSession encodeOauthState
  rw [Minted.payload] at hread
  rw [hread]
  simp [SessionPayload.fromJson_state]

lemma decodeOauthState_session {user : SessionUser} {ttlSecs : ℕ}
    (h : crates.Documented key ((Minted.session user ttlSecs).payload t)) :
    decodeOauthState now key (encodeSession t key user ttlSecs) = none := by
  have hread := unsigned_signed h
  unfold decodeOauthState encodeSession
  rw [Minted.payload] at hread
  rw [hread]
  simp [OAuthStatePayload.fromJson_session]

/-- No text with two dots is a session. -/
lemma decodeSession_eq_none {text : String} (h : text.toList.count '.' = 2) :
    decodeSession now key text = none := by
  unfold decodeSession
  rw [unsigned_eq_none h]
  rfl

/-- No text with two dots is a login state. -/
lemma decodeOauthState_eq_none {text : String} (h : text.toList.count '.' = 2) :
    decodeOauthState now key text = none := by
  unfold decodeOauthState
  rw [unsigned_eq_none h]
  rfl

lemma decodeJwt_access {sub aud : String}
    (h : crates.Documented key ((Minted.access sub aud).payload t)) :
    crates.decodeJwt now key (mintAccessToken t key sub aud) =
      if (Minted.access sub aud).exp t + jwtLeeway < now then none
      else some (accessClaims t sub aud).toJson :=
  h.decodeJwt_encodeJwt now _ sub rfl rfl

lemma decodeJwt_refresh {sub clientId aud : String}
    (h : crates.Documented key ((Minted.refresh sub clientId aud).payload t)) :
    crates.decodeJwt now key (mintRefreshToken t key sub clientId aud) =
      if (Minted.refresh sub clientId aud).exp t + jwtLeeway < now then none
      else some (refreshClaims t sub clientId aud).toJson :=
  h.decodeJwt_encodeJwt now _ sub rfl rfl

/-- A minted access token is decoded up to the leeway after its last second. -/
lemma decodeAccessToken_access {sub aud : String}
    (h : crates.Documented key ((Minted.access sub aud).payload t)) :
    decodeAccessToken now key (mintAccessToken t key sub aud) =
      if (Minted.access sub aud).exp t + jwtLeeway < now then none
      else some (accessClaims t sub aud) := by
  rw [decodeAccessToken, decodeJwt_access h]
  split
  · rfl
  · rfl

/-- A refresh token is no access token. -/
lemma decodeAccessToken_refresh {sub clientId aud : String}
    (h : crates.Documented key ((Minted.refresh sub clientId aud).payload t)) :
    decodeAccessToken now key (mintRefreshToken t key sub clientId aud) = none := by
  rw [decodeAccessToken, decodeJwt_refresh h]
  split
  · rfl
  · rfl

/-- A minted refresh token is verified for its client up to the leeway after its last second. -/
lemma verifyRefreshToken_refresh {sub clientId aud presented : String}
    (h : crates.Documented key ((Minted.refresh sub clientId aud).payload t)) :
    verifyRefreshToken now key (mintRefreshToken t key sub clientId aud) presented =
      if (Minted.refresh sub clientId aud).exp t + jwtLeeway < now then none
      else if clientId = presented then some (refreshClaims t sub clientId aud) else none := by
  rw [verifyRefreshToken, decodeJwt_refresh h]
  split
  · rfl
  · change (if clientId ≠ presented then none else some (refreshClaims t sub clientId aud)) = _
    rw [ite_not]

/-- An access token is no refresh token. -/
lemma verifyRefreshToken_access {sub aud presented : String}
    (h : crates.Documented key ((Minted.access sub aud).payload t)) :
    verifyRefreshToken now key (mintAccessToken t key sub aud) presented = none := by
  rw [verifyRefreshToken, decodeJwt_access h]
  split
  · rfl
  · rfl

/-! ## Separation -/

variable [WebServer]

/-- A value that the board signs is no access token. -/
lemma not_accepts_access_signed {o : JsonObject} (h : crates.Documented key o)
    (resource : String) : ¬(Verifier.access resource).accepts now key (signed key o) := by
  rw [Verifier.accepts, verifyAccessToken, decodeAccessToken, decodeJwt_signed h]
  exact Bool.false_ne_true

/-- A value that the board signs is no refresh token. -/
lemma not_accepts_refresh_signed {o : JsonObject} (h : crates.Documented key o)
    (clientId : String) : ¬(Verifier.refresh clientId).accepts now key (signed key o) := by
  rw [Verifier.accepts, verifyRefreshToken, decodeJwt_signed h]
  exact Bool.false_ne_true

/-- A cookie is accepted as a session only, up to the second of its `exp`. -/
lemma accepts_session {user : SessionUser} {ttlSecs : ℕ}
    (h : crates.Documented key ((Minted.session user ttlSecs).payload t)) (v : Verifier)
    (haccepts : v.accepts now key ((Minted.session user ttlSecs).text t key)) :
    v.isFor (.session user ttlSecs) ∧ now ≤ (Minted.session user ttlSecs).exp t := by
  cases v with
  | session =>
    simp only [Verifier.accepts, Minted.text, decodeSession_session h] at haccepts
    split at haccepts
    · cases haccepts
    · rename_i hexp
      exact ⟨rfl, Nat.le_of_not_lt hexp⟩
  | state =>
    simp only [Verifier.accepts, Minted.text, decodeOauthState_session h] at haccepts
    cases haccepts
  | access resource => exact absurd haccepts (not_accepts_access_signed h resource)
  | refresh clientId => exact absurd haccepts (not_accepts_refresh_signed h clientId)

/-- A login state is accepted as a login state only, up to the second of its `exp`. -/
lemma accepts_state {nonce : Bytes} {redirect : String} {next : Option String}
    (h : crates.Documented key ((Minted.state nonce redirect next).payload t)) (v : Verifier)
    (haccepts : v.accepts now key ((Minted.state nonce redirect next).text t key)) :
    v.isFor (.state nonce redirect next) ∧ now ≤ (Minted.state nonce redirect next).exp t := by
  cases v with
  | session =>
    simp only [Verifier.accepts, Minted.text, decodeSession_state h] at haccepts
    cases haccepts
  | state =>
    simp only [Verifier.accepts, Minted.text, decodeOauthState_state h] at haccepts
    split at haccepts
    · cases haccepts
    · rename_i hexp
      rw [Bool.or_eq_true, not_or, decide_eq_true_eq] at hexp
      exact ⟨rfl, Nat.le_of_not_lt hexp.1⟩
  | access resource => exact absurd haccepts (not_accepts_access_signed h resource)
  | refresh clientId => exact absurd haccepts (not_accepts_refresh_signed h clientId)

/-- An access token is accepted as an access token for an equivalent resource only, up to the
leeway after its `exp`. -/
lemma accepts_access {sub aud : String}
    (h : crates.Documented key ((Minted.access sub aud).payload t)) (v : Verifier) :
    v.accepts now key ((Minted.access sub aud).text t key) ↔
      ∃ resource, v = .access resource ∧ resourcesEquivalent aud resource ∧
        now ≤ (Minted.access sub aud).exp t + jwtLeeway := by
  have hcount : (mintAccessToken t key sub aud).toList.count '.' = 2 := h.count_encodeJwt
  cases v with
  | session =>
    simp [Verifier.accepts, Minted.text, decodeSession_eq_none hcount]
  | state =>
    simp [Verifier.accepts, Minted.text, decodeOauthState_eq_none hcount]
  | access resource =>
    simp only [Verifier.accepts, Minted.text, verifyAccessToken, decodeAccessToken_access h,
      Verifier.access.injEq, exists_eq_left']
    split
    · rename_i hlate
      simp
      omega
    · rename_i hlate
      simp [accessClaims]
      omega
  | refresh clientId =>
    simp [Verifier.accepts, Minted.text, verifyRefreshToken_access h]

/-- A refresh token is accepted as a refresh token of its client only, up to the leeway after its
`exp`. -/
lemma accepts_refresh {sub clientId aud : String}
    (h : crates.Documented key ((Minted.refresh sub clientId aud).payload t)) (v : Verifier) :
    v.accepts now key ((Minted.refresh sub clientId aud).text t key) ↔
      v = .refresh clientId ∧ now ≤ (Minted.refresh sub clientId aud).exp t + jwtLeeway := by
  have hcount : (mintRefreshToken t key sub clientId aud).toList.count '.' = 2 := h.count_encodeJwt
  cases v with
  | session =>
    simp [Verifier.accepts, Minted.text, decodeSession_eq_none hcount]
  | state =>
    simp [Verifier.accepts, Minted.text, decodeOauthState_eq_none hcount]
  | access resource =>
    simp [Verifier.accepts, Minted.text, verifyAccessToken, decodeAccessToken_refresh h]
  | refresh presented =>
    simp only [Verifier.accepts, Minted.text, verifyRefreshToken_refresh h,
      Verifier.refresh.injEq]
    by_cases hlate : (Minted.refresh sub clientId aud).exp t + jwtLeeway < now
    · simp [hlate]
    · by_cases hclient : clientId = presented
      · simp [hclient]
      · simp [hclient, Ne.symm hclient]

/-- A token is accepted by its own verifier only and never after the second of its `exp`, except
for an MCP token that is presented as it should be within the leeway. -/
theorem separated_iff (m : Minted) (v : Verifier) (h : crates.Documented key (m.payload t)) :
    (v.accepts now key (m.text t key) → v.isFor m ∧ now ≤ m.exp t) ↔ ¬ InLeeway t now m v := by
  cases m with
  | session user ttlSecs => exact iff_of_true (accepts_session h v) id
  | state nonce redirect next => exact iff_of_true (accepts_state h v) id
  | access sub aud =>
    rw [accepts_access h]
    constructor
    · intro hown hleeway
      cases v with
      | access resource =>
        obtain ⟨hexpired, hlate, hequivalent⟩ := hleeway
        exact absurd (hown ⟨resource, rfl, hequivalent, hlate⟩).2 (Nat.not_le_of_lt hexpired)
      | session => exact hleeway
      | state => exact hleeway
      | refresh clientId => exact hleeway
    · rintro hleeway ⟨resource, rfl, hequivalent, hlate⟩
      exact ⟨rfl, Nat.le_of_not_lt fun hexpired => hleeway ⟨hexpired, hlate, hequivalent⟩⟩
  | refresh sub clientId aud =>
    rw [accepts_refresh h]
    constructor
    · intro hown hleeway
      cases v with
      | refresh presented =>
        obtain ⟨hexpired, hlate, rfl⟩ := hleeway
        exact absurd (hown ⟨rfl, hlate⟩).2 (Nat.not_le_of_lt hexpired)
      | session => exact hleeway
      | state => exact hleeway
      | access resource => exact hleeway
    · rintro hleeway ⟨rfl, hlate⟩
      exact ⟨rfl, Nat.le_of_not_lt fun hexpired => hleeway ⟨hexpired, hlate, rfl⟩⟩

end Separation

/-! ## A token at the end of its time -/

/-- A session key. -/
def sampleKey : Bytes := List.replicate 32 7

/-- An access token of the year 2023. -/
def sampleMinted : Minted := .access "admin" "http://127.0.0.1:8080/mcp"

def sampleTime : ℕ := 1700000000

/-- The JSON of its claims. -/
def sampleJson : String :=
  "\x7b\"sub\":\"admin\",\"aud\":\"http://127.0.0.1:8080/mcp\",\"scope\":\"mcp\"," ++
    "\"exp\":1700003600,\"iat\":1700000000,\"typ\":\"mcp_access\"\x7d"

/-- The base64 of the JSON. -/
def sampleBase64 : String :=
  "eyJzdWIiOiJhZG1pbiIsImF1ZCI6Imh0dHA6Ly8xMjcuMC4wLjE6ODA4MC9tY3AiLCJzY29wZSI6" ++
    "Im1jcCIsImV4cCI6MTcwMDAwMzYwMCwiaWF0IjoxNzAwMDAwMDAwLCJ0eXAiOiJtY3BfYWNjZXNzIn0"

/-- The signed token. -/
def sampleText : String :=
  "eyJ0eXAiOiJKV1QiLCJhbGciOiJIUzI1NiJ9." ++ sampleBase64 ++
    ".J9Nn50gS2VFqLT2bCqVsPA0xbzjZz8IZZqsCH-XttZk"

/-- The crates at this token. -/
abbrev sampleCrates : TokenCrates where
  hmac _ _ := []
  base64 _ := sampleBase64
  unbase64 _ := some (asBytes sampleJson)
  toVec _ := asBytes sampleJson
  fromSlice _ := some (sampleMinted.payload sampleTime)
  encodeJwt _ _ := sampleText
  decodeJwt now _ text :=
    if text = sampleText then
      if 1700003600 + jwtLeeway < now then none else some (sampleMinted.payload sampleTime)
    else none

lemma dot_notMem_sampleBase64 : '.' ∉ sampleBase64.toList := by
  unfold sampleBase64
  rw [String.toList_append, List.mem_append, not_or]
  constructor
  · rw [String.toList_ofList]
    decide +kernel
  · rw [String.toList_ofList]
    decide +kernel

lemma count_sampleText : sampleText.toList.count '.' = 2 := by
  have hhead : "eyJ0eXAiOiJKV1QiLCJhbGciOiJIUzI1NiJ9.".toList.count '.' = 1 := by
    rw [String.toList_ofList]
    decide +kernel
  have hsignature : ".J9Nn50gS2VFqLT2bCqVsPA0xbzjZz8IZZqsCH-XttZk".toList.count '.' = 1 := by
    rw [String.toList_ofList]
    decide +kernel
  unfold sampleText
  rw [String.toList_append, String.toList_append, List.count_append, List.count_append, hhead,
    hsignature, List.count_eq_zero.2 dot_notMem_sampleBase64]

lemma sampleCrates_documented :
    @TokenCrates.Documented sampleCrates sampleKey (sampleMinted.payload sampleTime) := by
  refine @TokenCrates.Documented.mk sampleCrates _ _ rfl dot_notMem_sampleBase64 rfl
    count_sampleText ?_ ?_
  · intro now text o' h
    have htext : text = sampleText := (Option.ite_none_right_eq_some.1 h).1
    rw [htext]
    exact count_sampleText
  · intro now exp sub hexp hsub
    have hvalue : some exp = some 1700003600 := hexp.symm
    rw [Option.some.inj hvalue]
    exact if_pos rfl

/-- The token is accepted in the second of its `exp`. -/
theorem separated_sample :
    let := sampleCrates
    let := plainServer
    let presented := Verifier.access "http://127.0.0.1:8080/mcp"
    presented.accepts 1700003600 sampleKey (sampleMinted.text sampleTime sampleKey) ∧
      presented.isFor sampleMinted ∧ 1700003600 ≤ sampleMinted.exp sampleTime := by
  intro crates server presented
  have haccepts := (@accepts_access sampleCrates sampleKey sampleTime 1700003600 plainServer _ _
    sampleCrates_documented (.access "http://127.0.0.1:8080/mcp")).2
    ⟨_, rfl, by decide +kernel, by decide⟩
  refine ⟨haccepts, (@separated_iff sampleCrates sampleKey sampleTime 1700003600 plainServer
    sampleMinted (.access "http://127.0.0.1:8080/mcp") sampleCrates_documented).2 ?_ haccepts⟩
  rintro ⟨hexpired, -, -⟩
  exact absurd hexpired (by decide)

/-- The token is accepted a minute after the second of its `exp`, under `localhost` too. -/
theorem accepted_expired :
    let := sampleCrates
    let := plainServer
    ¬ (((Verifier.access "http://localhost:8080/mcp").accepts 1700003660 sampleKey
      (sampleMinted.text sampleTime sampleKey)) →
        (Verifier.access "http://localhost:8080/mcp").isFor sampleMinted ∧
          1700003660 ≤ sampleMinted.exp sampleTime) := by
  intro crates server hown
  have haccepts := (@accepts_access sampleCrates sampleKey sampleTime 1700003660 plainServer _ _
    sampleCrates_documented (.access "http://localhost:8080/mcp")).2
    ⟨_, rfl, by decide +kernel, by decide⟩
  exact absurd (hown haccepts).2 (by decide)

end Sandboard

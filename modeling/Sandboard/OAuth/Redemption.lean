import Mathlib.Algebra.BigOperators.Group.Finset.Piecewise
import Mathlib.Data.List.Perm.Subperm
import Sandboard.OAuth.Separation
import Sandboard.OAuth.Transitions

/-!
# Authorization codes are redeemed once

However the requests of any number of clients interleave, an issued code is in the store, or held
by one handler, or redeemed, or lost, and never in two of these places.  So the redemptions, each
with the record of its code, are among the issued codes with their multiplicity.
-/

namespace Sandboard

open Std Text

/-- The redeemed codes, each with its record. -/
def OAuthServer.redemptions (s : OAuthServer) : List (String × CodeRecord) :=
  s.responses.filterMap fun e =>
    match e.grant with
    | .code code record _ => some (code, record)
    | .refresh _ => none

/-- The issued codes, each with its record. -/
def OAuthServer.issues (s : OAuthServer) : List (String × CodeRecord) :=
  s.issued.map fun i => (i.code, i.record)

namespace OAuth

/-- What a handler holds. -/
def Phase.held : Phase → List (String × CodeRecord)
  | idle => []
  | holding code record => [(code, record)]

/-- Whether the store has a code with its record. -/
def stored (s : OAuthServer) (x : String × CodeRecord) : ℕ :=
  if s.codes[x.1]? = some x.2 then 1 else 0

section Balance

variable {ι : Type} [Fintype ι] [DecidableEq ι]

/-- How many handlers hold a code with its record. -/
def holders (p : ι → Phase) (x : String × CodeRecord) : ℕ := ∑ i, (p i).held.count x

/-- A code is redeemed, held and stored together at most as often as it was issued. -/
def Balanced (p : ι → Phase) (s : OAuthServer) : Prop :=
  ∀ x, s.redemptions.count x + holders p x + stored s x ≤ s.issues.count x

/-- When one handler moves on, what it held is replaced by what it then holds. -/
lemma holders_update (p : ι → Phase) (i : ι) (q : Phase) (x : String × CodeRecord) :
    holders (Function.update p i q) x + (p i).held.count x = holders p x + q.held.count x := by
  have hcomp : ∀ j, (Function.update p i q j).held.count x =
      Function.update (fun j => (p j).held.count x) i (q.held.count x) j := by
    intro j
    by_cases hj : j = i
    · subst hj
      rw [Function.update_self, Function.update_self]
    · rw [Function.update_of_ne hj, Function.update_of_ne hj]
  have hupdate := Finset.sum_update_of_mem (Finset.mem_univ i)
    (fun j => (p j).held.count x) (q.held.count x)
  have hsplit := Finset.sum_sdiff (f := fun j => (p j).held.count x)
    (Finset.singleton_subset_iff.2 (Finset.mem_univ i))
  rw [Finset.sum_singleton] at hsplit
  simp only [holders, hcomp, hupdate]
  omega

end Balance

lemma stored_insert_le (s : OAuthServer) (i : Issue) (x : String × CodeRecord) :
    stored { s with codes := s.codes.insert i.code i.record, issued := i :: s.issued } x ≤
      stored s x + [(i.code, i.record)].count x := by
  unfold stored
  rw [List.count_singleton]
  change (if (s.codes.insert i.code i.record)[x.1]? = some x.2 then 1 else 0) ≤ _
  rw [ExtTreeMap.getElem?_insert]
  split
  · rename_i hcode
    split
    · rename_i hrecord
      have hx : ((i.code, i.record) == x) = true := by
        rw [beq_iff_eq]
        exact Prod.ext (LawfulEqCmp.compare_eq_iff_eq.1 hcode) (Option.some.inj hrecord)
      rw [if_pos hx]
      exact Nat.le_add_left 1 _
    · exact Nat.zero_le _
  · exact Nat.le_add_right _ _

lemma stored_erase_le (s : OAuthServer) (code : String) (x : String × CodeRecord) :
    stored { s with codes := s.codes.erase code } x ≤ stored s x := by
  unfold stored
  change (if (s.codes.erase code)[x.1]? = some x.2 then 1 else 0) ≤ _
  rw [ExtTreeMap.getElem?_erase]
  split
  · rw [if_neg (fun h => nomatch h)]
    exact Nat.zero_le _
  · exact Nat.le_refl _

/-- What is taken out of the store is no longer there. -/
lemma stored_erase_add_le {s : OAuthServer} {code : String} {record : CodeRecord}
    (h : s.codes[code]? = some record) (x : String × CodeRecord) :
    stored { s with codes := s.codes.erase code } x + [(code, record)].count x ≤ stored s x := by
  rw [List.count_singleton]
  split
  · rename_i hx
    rw [beq_iff_eq] at hx
    subst hx
    unfold stored
    change (if (s.codes.erase code)[code]? = some record then 1 else 0) + 1 ≤ _
    rw [ExtTreeMap.getElem?_erase_self, if_pos h]
    rfl
  · exact stored_erase_le s code x

section Account

variable {ι : Type} [Fintype ι] [DecidableEq ι] [WebServer] [Pkce] {p : ι → Phase}
  {s s' : OAuthServer} {i : ι} {q : Phase}

/-- The codes balance, and everything in the log is valid. -/
structure Accounted (p : ι → Phase) (s : OAuthServer) : Prop where
  balanced : Balanced p s
  issued : ∀ i ∈ s.issued, i.Valid
  responses : ∀ e ∈ s.responses, e.Valid
  admitted : ∀ a ∈ s.admitted, a.Valid

omit [WebServer] [Pkce] in
/-- A response for a code is one redemption. -/
lemma count_redemptions_cons (e : TokenResponse) (x : String × CodeRecord) :
    { s with responses := e :: s.responses }.redemptions.count x = s.redemptions.count x +
      (match e.grant with
        | .code code record _ => [(code, record)]
        | .refresh _ => []).count x := by
  unfold OAuthServer.redemptions
  rw [List.filterMap_cons]
  cases e.grant with
  | code code record checkedAt =>
    change ((code, record) :: _).count x = _
    rw [List.count_cons, List.count_singleton]
  | refresh claims => rfl

/-- What one section keeps. -/
lemma Accounted.transition (h : Accounted p s) (hstep : Transition (p i) s s' q) :
    Accounted (Function.update p i q) s' := by
  have hmove := holders_update p i q
  cases hstep with
  | quiet hsame =>
    obtain ⟨hcodes, hissued, hresponses, hadmitted⟩ := hsame
    rw [Function.update_eq_self]
    refine ⟨fun x => ?_, hissued ▸ h.issued, hresponses ▸ h.responses, hadmitted ▸ h.admitted⟩
    have hbalanced := h.balanced x
    unfold OAuthServer.redemptions OAuthServer.issues stored at *
    rw [hcodes, hissued, hresponses]
    exact hbalanced
  | @issue new hvalid =>
    rw [Function.update_eq_self]
    refine ⟨fun x => ?_, fun j hj => ?_, h.responses, h.admitted⟩
    · have hbalanced := h.balanced x
      have hstored := stored_insert_le s new x
      change s.redemptions.count x + _ + _ ≤ ((new.code, new.record) :: s.issues).count x
      rw [List.count_singleton] at hstored
      rw [List.count_cons]
      omega
    · rcases List.mem_cons.1 hj with rfl | hj
      · exact hvalid
      · exact h.issued j hj
  | @take code record hcode =>
    refine ⟨fun x => ?_, h.issued, h.responses, h.admitted⟩
    have hbalanced := h.balanced x
    have hstored := stored_erase_add_le hcode x
    have hx := hmove x
    change s.redemptions.count x + _ + _ ≤ s.issues.count x
    change _ = _ + [(code, record)].count x at hx
    omega
  | @miss code hcode =>
    rw [Function.update_eq_self]
    refine ⟨fun x => ?_, h.issued, h.responses, h.admitted⟩
    have hbalanced := h.balanced x
    have hstored := stored_erase_le s code x
    change s.redemptions.count x + _ + _ ≤ s.issues.count x
    omega
  | @respond e hvalid hgrant =>
    refine ⟨fun x => ?_, h.issued, fun e' he' => ?_, h.admitted⟩
    · have hbalanced := h.balanced x
      have hx := hmove x
      have hcount := count_redemptions_cons (s := s) e x
      change _ + _ + stored s x ≤ s.issues.count x
      change _ = _ + [].count x at hx
      rw [hcount]
      cases hg : e.grant with
      | code code record checkedAt =>
        rw [hgrant code record checkedAt hg] at hx
        change _ + [(code, record)].count x = _ at hx
        dsimp only
        rw [List.count_nil] at hx
        omega
      | refresh claims =>
        dsimp only
        rw [List.count_nil] at hx ⊢
        omega
    · rcases List.mem_cons.1 he' with rfl | he'
      · exact hvalid
      · exact h.responses e' he'
  | @letThrough a hvalid =>
    rw [Function.update_eq_self]
    refine ⟨h.balanced, h.issued, h.responses, fun a' ha' => ?_⟩
    rcases List.mem_cons.1 ha' with rfl | ha'
    · exact hvalid
    · exact h.admitted a' ha'

/-- A handler that begins another request drops what it holds. -/
lemma Accounted.restart (h : Accounted p s) : Accounted (Function.update p i .idle) s := by
  refine ⟨fun x => ?_, h.issued, h.responses, h.admitted⟩
  have hbalanced := h.balanced x
  have hx := holders_update p i .idle x
  change _ = _ + [].count x at hx
  rw [List.count_nil] at hx
  omega

/-- The account of every interleaving. -/
theorem accounted_of_reached [TokenCrates] {auth : Option AuthBundle} {now : ℕ}
    {c : Parties OAuthServer fun _ : ι => Option Reply} (h : OAuthServer.Reached auth now c) :
    ∃ p : ι → Phase, Accounted p c.shared := by
  have hphased := Parties.invariant (R := fun _ : ι => Transition) (Q := fun _ _ _ => True)
    (G := Accounted)
    (fun i p s l m hp _ hbegins => by
      obtain ⟨event, rfl⟩ := hbegins
      refine ⟨.idle, (serving_serve event).paced.mono ?_, hp.restart⟩
      rintro (e | a) q -
      · exact e.elim
      · trivial)
    (fun i p s s' q hp hstep => hp.transition hstep) h
    ⟨fun _ => .idle, ⟨fun x => ?_, by simp [OAuthServer.started], by simp [OAuthServer.started],
      by simp [OAuthServer.started]⟩, fun i => trivial⟩
  · obtain ⟨p, hp, -⟩ := hphased
    exact ⟨p, hp⟩
  · simp [holders, Phase.held, stored, OAuthServer.redemptions, OAuthServer.issues,
      OAuthServer.started]

omit [DecidableEq ι] in
/-- The redemptions are among the issued codes. -/
lemma Accounted.redemptions_subperm (h : Accounted p s) : s.redemptions.Subperm s.issues := by
  rw [List.subperm_ext_iff]
  intro x _
  have hbalanced := h.balanced x
  omega

/-- In every interleaving of the requests of any number of clients, the redemptions are among the
issued codes with their multiplicity, and each of them presents the client, the redirect URI and
the verifier of its authorization request, as they are once trimmed, by the time of its code. -/
theorem codes_redeemed_once [TokenCrates] {auth : Option AuthBundle} {now : ℕ}
    {c : Parties OAuthServer fun _ : ι => Option Reply} (h : OAuthServer.Reached auth now c) :
    c.shared.redemptions.Subperm c.shared.issues ∧
      ∀ e ∈ c.shared.responses, ∀ code record checkedAt,
        e.grant = .code code record checkedAt → e.form.Redeems code record checkedAt ∧
          ∃ i ∈ c.shared.issued, i.code = code ∧ i.record = record ∧ i.Valid := by
  obtain ⟨p, hp⟩ := accounted_of_reached h
  have hsubperm := hp.redemptions_subperm
  refine ⟨hsubperm, fun e he code record checkedAt hgrant => ?_⟩
  refine ⟨(hp.responses e he).redeems code record checkedAt hgrant, ?_⟩
  have hredeemed : (code, record) ∈ c.shared.redemptions :=
    List.mem_filterMap.2 ⟨e, he, by rw [hgrant]⟩
  obtain ⟨i, hi, heq⟩ := List.mem_map.1 (hsubperm.subset hredeemed)
  exact ⟨i, hi, congrArg Prod.fst heq, congrArg Prod.snd heq, hp.issued i hi⟩

end Account

/-! ## A code that is redeemed late -/

/-- A request that reaches the board at its own address. -/
def localHeaders : HeaderMap := { HeaderMap.empty with host := some "127.0.0.1:8080" }

/-- A code. -/
def sampleCode : String := "AAAAAAAAAAAAAAAAAAAAAAAAAAAAAAAAAAAAAAAAAAA"

/-- The challenge of the sample verifier. -/
abbrev samplePkce : Pkce where
  pkceS256Challenge _ := "E9Melhoa2OwvFrEMTJguCHaoeK1t8URWbuGJSstw-cM"

/-- A client asks for the board's resource. -/
def sampleQuery : AuthorizeQuery where
  responseType := some "code"
  clientId := some "sandboard-cursor"
  redirectUri := some "http://localhost:8787/callback"
  state := none
  codeChallenge := some "E9Melhoa2OwvFrEMTJguCHaoeK1t8URWbuGJSstw-cM"
  codeChallengeMethod := some "S256"
  resource := some "http://127.0.0.1:8080/mcp"
  scope := some "mcp"

/-- The admin approves it. -/
def approval : OAuthEvent :=
  .authorizePost (some ⟨.admin, "admin"⟩) localHeaders "approve" sampleQuery (.error "") sampleCode

/-- The client exchanges the code, with blanks around its id. -/
def paddedForm : TokenForm where
  grantType := some "authorization_code"
  code := some sampleCode
  redirectUri := some "http://localhost:8787/callback"
  clientId := some " sandboard-cursor "
  codeVerifier := some "dBjftJeZ4CVP-mB92K27uhbUJU1p1r_wW1gFWFOEjXk"
  refreshToken := none
  resource := none

/-- An admin with the sample key. -/
def sampleAuth : AuthBundle := ⟨.ok sampleKey⟩

/-- The crates at some tokens: the claims of each, and its text. -/
abbrev tableCrates (table : List (JsonObject × String)) : TokenCrates where
  hmac _ _ := []
  base64 _ := ""
  unbase64 _ := none
  toVec _ := []
  fromSlice _ := none
  encodeJwt _ o := (table.lookup o).getD ""
  decodeJwt now _ text := ((table.find? fun row => row.2 == text).map Prod.fst).filter fun o =>
    (o.num "exp").any fun exp => !decide (exp + jwtLeeway < now)

/-- The tokens of the exchange. -/
abbrev lateCrates : TokenCrates := tableCrates
  [((accessClaims 1700000601 "admin" "http://127.0.0.1:8080/mcp").toJson,
      "eyJ0eXAiOiJKV1QiLCJhbGciOiJIUzI1NiJ9.eyJzdWIiOiJhZG1pbiIsImF1ZCI6Imh0dHA6Ly8xMjcuMC4w" ++
      "LjE6ODA4MC9tY3AiLCJzY29wZSI6Im1jcCIsImV4cCI6MTcwMDAwNDIwMSwiaWF0IjoxNzAwMDAwNjAxLCJ0eXAi" ++
      "OiJtY3BfYWNjZXNzIn0._S9vYiNYAHycy0woWW8hWHzDpxnutfB9wFhxMq2GI0w"),
    ((refreshClaims 1700000601 "admin" "sandboard-cursor" "http://127.0.0.1:8080/mcp").toJson,
      "eyJ0eXAiOiJKV1QiLCJhbGciOiJIUzI1NiJ9.eyJzdWIiOiJhZG1pbiIsImF1ZCI6Imh0dHA6Ly8xMjcuMC4w" ++
      "LjE6ODA4MC9tY3AiLCJjbGllbnRfaWQiOiJzYW5kYm9hcmQtY3Vyc29yIiwic2NvcGUiOiJtY3AiLCJleHAiOjE3" ++
      "MDI1OTI2MDEsImlhdCI6MTcwMDAwMDYwMSwidHlwIjoibWNwX3JlZnJlc2gifQ.6J9FuqWlDQyVry02SGU-gXlK" ++
      "KzhBsbGEKXe30xDEDew")]

section Exchange

variable [WebServer] [TokenCrates] [Pkce]

/-- The code is approved. -/
def approved : Parties OAuthServer fun _ : Bool => Option Reply :=
  [false, false].foldl Parties.perform
    ((OAuthServer.started Bool (some sampleAuth) sampleTime).start false approval.serve)

/-- A request presents the code, takes it and tests it. -/
def checked : Parties OAuthServer fun _ : Bool => Option Reply :=
  [false, false, false].foldl Parties.perform
    (approved.start false (OAuthEvent.token localHeaders (.ok paddedForm)).serve)

/-- The clock moves beyond the time of the code before the tokens are minted. -/
def lateExchange : Parties OAuthServer fun _ : Bool => Option Reply :=
  [true, false, false, false, false, false].foldl Parties.perform
    (checked.start true (OAuthEvent.clock (sampleTime + codeTtlSecs + 1)).serve)

lemma serves_serve (event : OAuthEvent) (i : Bool) (l : Option Reply) :
    Serves i l event.serve := ⟨event, rfl⟩

lemma reached_approved : OAuthServer.Reached (some sampleAuth) sampleTime approved :=
  Parties.runs_performAll (Parties.runs_start .refl (serves_serve approval false)) _

lemma reached_checked : OAuthServer.Reached (some sampleAuth) sampleTime checked :=
  Parties.runs_performAll (Parties.runs_start reached_approved (serves_serve _ false)) _

lemma reached_lateExchange :
    OAuthServer.Reached (some sampleAuth) sampleTime lateExchange :=
  Parties.runs_performAll (Parties.runs_start reached_checked (serves_serve _ true)) _

end Exchange

/-- What is read off the run. -/
def glance (s : OAuthServer) : List (Option String × ℕ) × List (String × CodeRecord) :=
  (s.responses.map fun e => (e.form.clientId, e.sentAt), s.redemptions)

/-- The record of the code. -/
def sampleRecord : CodeRecord where
  clientId := "sandboard-cursor"
  redirectUri := "http://localhost:8787/callback"
  codeChallenge := "E9Melhoa2OwvFrEMTJguCHaoeK1t8URWbuGJSstw-cM"
  resource := "http://127.0.0.1:8080/mcp"
  sub := "admin"
  exp := sampleTime + codeTtlSecs

lemma glance_lateExchange :
    let := plainServer
    let := lateCrates
    let := samplePkce
    glance lateExchange.shared =
      ([(some " sandboard-cursor ", sampleTime + codeTtlSecs + 1)],
        [(sampleCode, sampleRecord)]) := by
  decide +kernel

lemma redemptions_of_glance {s : OAuthServer} {responses : List (Option String × ℕ)}
    {redeemed : List (String × CodeRecord)} (h : glance s = (responses, redeemed)) :
    s.redemptions = redeemed := congrArg Prod.snd h

/-- The one redemption of the run is of the one code that it issues. -/
theorem codes_redeemed_once_lateExchange :
    let := plainServer
    let := lateCrates
    let := samplePkce
    [(sampleCode, sampleRecord)].Subperm lateExchange.shared.issues := by
  have hsubperm := (@codes_redeemed_once Bool _ _ plainServer samplePkce lateCrates _ _ _
    (@reached_lateExchange plainServer lateCrates samplePkce)).1
  rw [redemptions_of_glance glance_lateExchange] at hsubperm
  exact hsubperm

lemma exists_of_glance {s : OAuthServer} {clientId : Option String} {sentAt : ℕ}
    {code : String} {record : CodeRecord}
    (h : glance s = ([(clientId, sentAt)], [(code, record)])) :
    ∃ e ∈ s.responses, e.form.clientId = clientId ∧ e.sentAt = sentAt ∧
      ∃ checkedAt, e.grant = .code code record checkedAt := by
  obtain ⟨hread, hredeemed⟩ := Prod.mk.inj h
  obtain ⟨e, hresponses, hpair⟩ := List.map_eq_singleton_iff.1 hread
  refine ⟨e, by rw [hresponses]; exact List.mem_singleton_self e, congrArg Prod.fst hpair,
    congrArg Prod.snd hpair, ?_⟩
  rw [OAuthServer.redemptions, hresponses] at hredeemed
  cases hgrant : e.grant with
  | code code' record' checkedAt =>
    simp only [List.filterMap_cons, hgrant, List.filterMap_nil, List.cons.injEq, Prod.mk.injEq,
      and_true] at hredeemed
    obtain ⟨rfl, rfl⟩ := hredeemed
    exact ⟨checkedAt, rfl⟩
  | refresh claims => simp [hgrant] at hredeemed

/-- A request whose client id is not the one of the authorization request redeems the code, and
its tokens are sent when the time of the code is over. -/
theorem redeemed_padded_late :
    let := plainServer
    let := lateCrates
    let := samplePkce
    OAuthServer.Reached (some sampleAuth) sampleTime lateExchange ∧
      ∃ e ∈ lateExchange.shared.responses, ∃ checkedAt,
        e.grant = .code sampleCode sampleRecord checkedAt ∧
          e.form.clientId ≠ sampleQuery.clientId ∧ sampleRecord.exp < e.sentAt := by
  obtain ⟨e, he, hclient, hsent, checkedAt, hgrant⟩ := exists_of_glance glance_lateExchange
  refine ⟨@reached_lateExchange plainServer lateCrates samplePkce, e, he, checkedAt, hgrant, ?_, ?_⟩
  · rw [hclient]
    decide
  · rw [hsent]
    exact Nat.lt_succ_self _

end OAuth

end Sandboard

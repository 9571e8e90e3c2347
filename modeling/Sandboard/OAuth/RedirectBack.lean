import Sandboard.OAuth.LoginDetour

/-!
# The redirect back to the client

The answer to an authorization request is appended to the redirect URI of the client behind a
question mark.  The parts of an address are those of its generic syntax, and its query pairs those
that a form parser finds.  The answer adds its pairs to those of the redirect URI, and changes no
other part, exactly for redirect URIs with neither a query nor a fragment
(`answers_iff`).
-/

namespace Sandboard

open Std Text

/-! ## The parts of an address -/

/-- The parts of an address by the generic syntax. -/
structure UrlParts where
  scheme : Option String
  authority : Option String
  path : String
  query : Option String
  fragment : Option String
  deriving DecidableEq

/-- The scheme of what precedes query and fragment, and what follows the scheme. -/
def schemeOf (s : String) : Option String × String :=
  match splitOnce ":" s with
  | some (scheme, rest) =>
    if scheme = "" || contains "/" scheme then (none, s) else (some scheme, rest)
  | none => (none, s)

/-- The authority and the path of what follows the scheme. -/
def authorityOf (s : String) : Option String × String :=
  match stripPrefix "//" s with
  | some rest =>
    match splitOnce "/" rest with
    | some (authority, path) => (some authority, "/" ++ path)
    | none => (some rest, "")
  | none => (none, s)

/-- The part before a separator, and what follows it. -/
def cutPart (separator : Char) (s : String) : String × Option String :=
  match splitOnce separator.toString s with
  | some (before, after) => (before, some after)
  | none => (s, none)

/-- The parts of an address. -/
def urlParts (url : String) : UrlParts :=
  let (withQuery, fragment) := cutPart '#' url
  let (hierarchy, query) := cutPart '?' withQuery
  let (scheme, rest) := schemeOf hierarchy
  let (authority, path) := authorityOf rest
  ⟨scheme, authority, path, query, fragment⟩

/-- The query pairs of an address. -/
def queryPairs (url : String) : List (String × String) := formPairs ((urlParts url).query.getD "")

/-- The address answers to a redirect URI with some pairs: nothing but its query differs, and that
by these pairs behind its own ones. -/
structure AnswersRedirect (redirectUri location : String) (pairs : List (String × String)) :
    Prop where
  scheme : (urlParts location).scheme = (urlParts redirectUri).scheme
  authority : (urlParts location).authority = (urlParts redirectUri).authority
  path : (urlParts location).path = (urlParts redirectUri).path
  fragment : (urlParts location).fragment = (urlParts redirectUri).fragment
  pairs : queryPairs location = queryPairs redirectUri ++ pairs

/-! ## Cutting addresses -/

lemma cutPart_append {c : Char} {before : String} (h : c ∉ before.toList) (after : String) :
    cutPart c (before ++ c.toString ++ after) = (before, some after) := by
  unfold cutPart
  rw [splitOnce_char h]

lemma cutPart_of_notMem {c : Char} {s : String} (h : c ∉ s.toList) : cutPart c s = (s, none) := by
  unfold cutPart
  rw [splitOnce_eq_none h]

/-- A text with a character is cut at its first occurrence. -/
lemma exists_cut {c : Char} {s : String} (h : c ∈ s.toList) :
    ∃ before after, s = before ++ c.toString ++ after ∧ c ∉ before.toList := by
  obtain ⟨before, after, hs, hbefore⟩ := List.eq_append_cons_of_mem h
  refine ⟨String.ofList before, String.ofList after, ?_, by rwa [String.toList_ofList]⟩
  have hneedle : c.toString.toList = [c] := String.toList_singleton c
  apply String.toList_inj.1
  rw [String.toList_append, String.toList_append, hneedle, String.toList_ofList,
    String.toList_ofList, hs, List.append_assoc, List.singleton_append]

/-- The parts of an address with a query and no fragment. -/
lemma urlParts_query {hierarchy query : String} (hhash : '#' ∉ hierarchy.toList)
    (hmark : '?' ∉ hierarchy.toList) (hquery : '#' ∉ query.toList) :
    urlParts (hierarchy ++ "?" ++ query) =
      { urlParts hierarchy with query := some query } := by
  have hall : '#' ∉ (hierarchy ++ "?" ++ query).toList := by
    rw [String.toList_append, String.toList_append, List.mem_append, List.mem_append, not_or,
      not_or]
    exact ⟨⟨hhash, by decide⟩, hquery⟩
  have hcut : cutPart '?' (hierarchy ++ "?" ++ query) = (hierarchy, some query) :=
    cutPart_append hmark query
  unfold urlParts
  rw [cutPart_of_notMem hall, cutPart_of_notMem hhash]
  dsimp only
  rw [hcut, cutPart_of_notMem hmark]

/-- The fragment of an address is all that follows its first number sign. -/
lemma fragment_append {before : String} (h : '#' ∉ before.toList) (after : String) :
    (urlParts (before ++ "#" ++ after)).fragment = some after := by
  have hcut : cutPart '#' (before ++ "#" ++ after) = (before, some after) := cutPart_append h after
  unfold urlParts
  rw [hcut]

/-! ## The pairs of an answer -/

/-- The query string of an answer: a pair, and the state where there is one. -/
def answerQuery (k v : String) (state : Option String) : String :=
  encodedPair k v ++ (state.map fun state => "&" ++ encodedPair "state" state).getD ""

/-- The pairs of an answer. -/
def answerPairs (k v : String) (state : Option String) : List (String × String) :=
  (k, v) :: (state.map fun state => ("state", state)).toList

section Pairs

variable {k v : String} {state : Option String}

/-- What is required of the name of the pair. -/
structure PlainName (k : String) : Prop where
  amp : '&' ∉ k.toList
  equals : '=' ∉ k.toList
  hash : '#' ∉ k.toList
  plus : PercentCoding.plus ∉ asBytes k
  percent : PercentCoding.percent ∉ asBytes k

lemma plainName_state : PlainName "state" := by
  constructor <;> decide

lemma amp_notMem_pair (hk : PlainName k) (v : String) : '&' ∉ (encodedPair k v).toList :=
  notMem_encodedPair rfl (by decide) hk.amp v

lemma formPair_pair (hk : PlainName k) (v : String) : formPair (encodedPair k v) = (k, v) :=
  formPair_encodedPair hk.equals (urlencodingDecode_plain hk.plus hk.percent) v

/-- A query string of pieces that are not empty gives a pair for each of them. -/
lemma formPairs_append (s t : String) :
    formPairs (s ++ "&" ++ t) = formPairs s ++ formPairs t := by
  have htext : s ++ "&" ++ t = String.ofList (s.toList ++ '&' :: t.toList) := by
    apply String.toList_inj.1
    rw [String.toList_append, String.toList_append, List.append_assoc]
    exact String.toList_ofList.symm
  unfold formPairs
  rw [htext, split_append rfl, String.ofList_toList, String.ofList_toList, List.filter_append,
    List.map_append]

lemma formPairs_pair (hk : PlainName k) (v : String) : formPairs (encodedPair k v) = [(k, v)] := by
  have hpos : decide (encodedPair k v ≠ "") = true := decide_eq_true (encodedPair_ne_empty k v)
  unfold formPairs
  rw [split_amp_self (amp_notMem_pair hk v), List.filter_singleton, hpos]
  change [formPair (encodedPair k v)] = _
  rw [formPair_pair hk]

/-- The query string of an answer has the pairs of the answer. -/
lemma formPairs_answerQuery (hk : PlainName k) (v : String) (state : Option String) :
    formPairs (answerQuery k v state) = answerPairs k v state := by
  unfold answerQuery answerPairs
  cases state with
  | none =>
    change formPairs (encodedPair k v ++ "") = _
    rw [String.append_empty, formPairs_pair hk]
    rfl
  | some state =>
    change formPairs (encodedPair k v ++ ("&" ++ encodedPair "state" state)) = _
    rw [← String.append_assoc, formPairs_append, formPairs_pair hk,
      formPairs_pair plainName_state]
    rfl

lemma hash_notMem_answerQuery (hk : PlainName k) (v : String) (state : Option String) :
    '#' ∉ (answerQuery k v state).toList := by
  have hpair : '#' ∉ (encodedPair k v).toList := notMem_encodedPair rfl (by decide) hk.hash v
  unfold answerQuery
  rw [String.toList_append, List.mem_append, not_or]
  refine ⟨hpair, ?_⟩
  cases state with
  | none => exact List.not_mem_nil
  | some state =>
    change '#' ∉ ("&" ++ encodedPair "state" state).toList
    rw [String.toList_append, List.mem_append, not_or]
    exact ⟨by decide, notMem_encodedPair rfl (by decide) plainName_state.hash state⟩

/-- A query string is its last piece behind the others, and what is appended to it is appended to
that piece. -/
lemma exists_last_piece (own : String) : ∃ ps last, ∀ w : String, '&' ∉ w.toList →
    split (· == '&') (own ++ w) = ps ++ [last ++ w] := by
  by_cases hamp : '&' ∈ own.toList.reverse
  · obtain ⟨last, before, hown, hlast⟩ := List.eq_append_cons_of_mem hamp
    have htext : own.toList = before.reverse ++ '&' :: last.reverse := by
      rw [← List.reverse_inj, hown]
      simp
    refine ⟨split (· == '&') (String.ofList before.reverse), String.ofList last.reverse,
      fun w hw => ?_⟩
    have hwhole : own ++ w =
        String.ofList (before.reverse ++ '&' :: (last.reverse ++ w.toList)) := by
      apply String.toList_inj.1
      rw [String.toList_append, htext, String.toList_ofList, List.append_assoc, List.cons_append]
    have hpiece : String.ofList (last.reverse ++ w.toList) = String.ofList last.reverse ++ w := by
      apply String.toList_inj.1
      rw [String.toList_append, String.toList_ofList, String.toList_ofList]
    have hnot : '&' ∉ (String.ofList last.reverse ++ w).toList := by
      rw [String.toList_append, String.toList_ofList, List.mem_append, not_or, List.mem_reverse]
      exact ⟨hlast, hw⟩
    rw [hwhole, split_append rfl, hpiece, split_amp_self hnot]
  · refine ⟨[], own, fun w hw => ?_⟩
    rw [List.mem_reverse] at hamp
    rw [List.nil_append, split_amp_self]
    rw [String.toList_append, List.mem_append, not_or]
    exact ⟨hamp, hw⟩

/-- A second question mark spoils the pair behind it, and the pair before it, if there is one. -/
lemma formPairs_mark_ne (hk : PlainName k) (hname : urlencodingDecode ("?" ++ k) ≠ k)
    (own v : String) :
    formPairs (own ++ ("?" ++ encodedPair k v)) ≠ formPairs own ++ [(k, v)] := by
  obtain ⟨ps, last, hsplit⟩ := exists_last_piece own
  have hmark : '&' ∉ ("?" ++ encodedPair k v).toList := by
    rw [String.toList_append, List.mem_append, not_or]
    exact ⟨by decide, amp_notMem_pair hk v⟩
  have hown := hsplit "" List.not_mem_nil
  rw [String.append_empty, String.append_empty] at hown
  have hne : ∀ s : String, s ++ ("?" ++ encodedPair k v) ≠ "" := by
    intro s h
    have hlength := congrArg (fun s => s.toList.length) h
    rw [String.toList_append, String.toList_append, List.length_append,
      List.length_append] at hlength
    change s.toList.length + (1 + (encodedPair k v).toList.length) = 0 at hlength
    omega
  have hpiece : decide (last ++ ("?" ++ encodedPair k v) ≠ "") = true := decide_eq_true (hne last)
  unfold formPairs
  rw [hsplit _ hmark, hown, List.filter_append, List.filter_append, List.map_append,
    List.map_append, List.append_assoc]
  intro h
  have hlast := List.append_cancel_left h
  rw [List.filter_singleton, hpiece] at hlast
  by_cases hempty : last = ""
  · subst hempty
    have hpair : formPair ("" ++ ("?" ++ encodedPair k v)) = (k, v) := by
      have hhead := List.head_eq_of_cons_eq hlast
      exact hhead
    have hmarked : '=' ∉ ("?" ++ k).toList := by
      rw [String.toList_append, List.mem_append, not_or]
      exact ⟨by decide, hk.equals⟩
    have htext : "" ++ ("?" ++ encodedPair k v) = "?" ++ k ++ "=" ++ urlencodingEncode v := by
      unfold encodedPair
      rw [String.empty_append, String.append_assoc, String.append_assoc, String.append_assoc]
    rw [htext, formPair_cut hmarked] at hpair
    exact hname (congrArg Prod.fst hpair)
  · rw [List.filter_singleton, decide_eq_true hempty] at hlast
    have hlength := congrArg List.length hlast
    simp at hlength

end Pairs

/-! ## Answering a redirect URI -/

section Answer

variable {k v uri : String} {state : Option String}

/-- The answer to a redirect URI. -/
def answerLocation (uri k v : String) (state : Option String) : String :=
  uri ++ "?" ++ answerQuery k v state

/-- Behind a number sign the answer is part of the fragment. -/
lemma not_answers_of_hash (h : '#' ∈ uri.toList) :
    ¬ AnswersRedirect uri (answerLocation uri k v state) (answerPairs k v state) := by
  intro hanswers
  obtain ⟨before, after, rfl, hbefore⟩ := exists_cut h
  have hfragment := hanswers.fragment
  have hlocation : answerLocation (before ++ '#'.toString ++ after) k v state =
      before ++ "#" ++ (after ++ "?" ++ answerQuery k v state) := by
    unfold answerLocation
    simp only [String.append_assoc]
    rfl
  have hown : (urlParts (before ++ '#'.toString ++ after)).fragment = some after :=
    fragment_append hbefore after
  rw [hlocation, fragment_append hbefore, hown] at hfragment
  have hlength := congrArg (fun s => s.toList.length) (Option.some.inj hfragment)
  rw [String.toList_append, String.toList_append, List.length_append,
    List.length_append] at hlength
  change after.toList.length + 1 + _ = after.toList.length at hlength
  omega

/-- Behind a question mark the answer is part of the last pair of the redirect URI. -/
lemma not_answers_of_mark (hk : PlainName k) (hname : urlencodingDecode ("?" ++ k) ≠ k)
    (hhash : '#' ∉ uri.toList) (h : '?' ∈ uri.toList) :
    ¬ AnswersRedirect uri (answerLocation uri k v state) (answerPairs k v state) := by
  intro hanswers
  obtain ⟨before, own, rfl, hbefore⟩ := exists_cut h
  have hparts : '#' ∉ before.toList ∧ '#' ∉ own.toList := by
    rw [String.toList_append, String.toList_append, List.mem_append, List.mem_append, not_or,
      not_or] at hhash
    exact ⟨hhash.1.1, hhash.2⟩
  have hlocation : answerLocation (before ++ '?'.toString ++ own) k v state =
      before ++ "?" ++ (own ++ ("?" ++ answerQuery k v state)) := by
    unfold answerLocation
    simp only [String.append_assoc]
    rfl
  have hquery : '#' ∉ (own ++ ("?" ++ answerQuery k v state)).toList := by
    rw [String.toList_append, String.toList_append, List.mem_append, List.mem_append, not_or,
      not_or]
    exact ⟨hparts.2, by decide, hash_notMem_answerQuery hk v state⟩
  have hown : queryPairs (before ++ '?'.toString ++ own) = formPairs own := by
    have hurl : urlParts (before ++ '?'.toString ++ own) =
        { urlParts before with query := some own } :=
      urlParts_query hparts.1 hbefore hparts.2
    unfold queryPairs
    rw [hurl]
    rfl
  have hpairs := hanswers.pairs
  rw [hlocation, hown] at hpairs
  unfold queryPairs at hpairs
  rw [urlParts_query hparts.1 hbefore hquery] at hpairs
  change formPairs (own ++ ("?" ++ answerQuery k v state)) = _ at hpairs
  unfold answerQuery answerPairs at hpairs
  cases state with
  | none =>
    rw [Option.map_none, Option.getD_none, String.append_empty] at hpairs
    exact formPairs_mark_ne hk hname own v hpairs
  | some state =>
    have htext : own ++ ("?" ++ (encodedPair k v ++ ("&" ++ encodedPair "state" state))) =
        own ++ ("?" ++ encodedPair k v) ++ "&" ++ encodedPair "state" state := by
      simp only [String.append_assoc]
    rw [Option.map_some, Option.getD_some, htext, formPairs_append,
      formPairs_pair plainName_state] at hpairs
    have hcancel : formPairs (own ++ ("?" ++ encodedPair k v)) ++ [("state", state)] =
        formPairs own ++ [(k, v)] ++ [("state", state)] := by
      rw [hpairs, List.append_assoc]
      rfl
    exact formPairs_mark_ne hk hname own v (List.append_cancel_right hcancel)

/-- Behind a redirect URI with neither, the answer is the query. -/
lemma answers_of_plain (hk : PlainName k) (hmark : '?' ∉ uri.toList) (hhash : '#' ∉ uri.toList) :
    AnswersRedirect uri (answerLocation uri k v state) (answerPairs k v state) := by
  have hlocation : urlParts (answerLocation uri k v state) =
      { urlParts uri with query := some (answerQuery k v state) } :=
    urlParts_query hhash hmark (hash_notMem_answerQuery hk v state)
  have hown : (urlParts uri).query = none := by
    unfold urlParts
    rw [cutPart_of_notMem hhash]
    dsimp only
    rw [cutPart_of_notMem hmark]
  constructor
  · rw [hlocation]
  · rw [hlocation]
  · rw [hlocation]
  · rw [hlocation]
  · unfold queryPairs
    rw [hlocation, hown]
    change formPairs (answerQuery k v state) = formPairs "" ++ _
    rw [formPairs_answerQuery hk]
    rfl

/-- An answer adds its pairs, and changes nothing else, exactly for a redirect URI without a query
and without a fragment. -/
lemma answers_location_iff (hk : PlainName k) (hname : urlencodingDecode ("?" ++ k) ≠ k) :
    AnswersRedirect uri (answerLocation uri k v state) (answerPairs k v state) ↔
      '?' ∉ uri.toList ∧ '#' ∉ uri.toList := by
  constructor
  · intro h
    have hhash : '#' ∉ uri.toList := fun hin => not_answers_of_hash hin h
    exact ⟨fun hin => not_answers_of_mark hk hname hhash hin h, hhash⟩
  · exact fun ⟨hmark, hhash⟩ => answers_of_plain hk hmark hhash

end Answer

/-! ## The answer of the server -/

/-- The pairs that a decision answers with. -/
def decisionPairs (decision code : String) (state : Option String) : List (String × String) :=
  if decision = "approve" then answerPairs "code" code state
  else answerPairs "error" "access_denied" state

section Server

lemma plainName_code : PlainName "code" := by
  constructor <;> decide

lemma plainName_error : PlainName "error" := by
  constructor <;> decide

lemma decode_marked_ne : urlencodingDecode ("?" ++ "code") ≠ "code" ∧
    urlencodingDecode ("?" ++ "error") ≠ "error" := by
  have hcode : urlencodingDecode ("?" ++ "code") = "?" ++ "code" :=
    urlencodingDecode_plain (by decide) (by decide)
  have herror : urlencodingDecode ("?" ++ "error") = "?" ++ "error" :=
    urlencodingDecode_plain (by decide) (by decide)
  rw [hcode, herror]
  decide

lemma backToClient_eq (uri k v : String) (q : AuthorizeQuery) :
    backToClient uri (encodedPair k v) q = .redirect (answerLocation uri k v q.state) := by
  have hstate : ∀ state : String,
      "&state=" ++ urlencodingEncode state = "&" ++ encodedPair "state" state := by
    intro state
    unfold encodedPair
    rw [← String.append_assoc]
    rfl
  unfold backToClient answerLocation answerQuery
  simp only [hstate, String.append_assoc]

variable [WebServer]

/-- The server answers the redirect URI of the request. -/
lemma authorizePost_redirects {user : Option SessionUser} {headers : HeaderMap}
    {decision : String} {q : AuthorizeQuery} {fetched : Except String ClientDoc} {code : String}
    {s s' : OAuthServer} {reply : Reply}
    (h : (authorizePost user headers decision q fetched code).run s = (.ok reply, s')) :
    ∃ uri, filled q.redirectUri = some uri ∧ reply = .redirect (if decision = "approve" then
      answerLocation uri "code" code q.state
        else answerLocation uri "error" "access_denied" q.state) := by
  have hdenied : "error=access_denied" = encodedPair "error" "access_denied" := by decide +kernel
  have hcode : "code=" ++ urlencodingEncode code = encodedPair "code" code := rfl
  unfold authorizePost at h
  cases user with
  | none => cases h
  | some user =>
    dsimp only at h
    cases hclient : q.clientId with
    | none =>
      rw [hclient] at h
      cases h
    | some clientId =>
      rw [hclient] at h
      dsimp only at h
      rw [Locked.run_bind, Locked.run_mapErr] at h
      rcases hresolve : (resolveClient clientId fetched).run s with ⟨outcome, s₁⟩
      rw [hresolve] at h
      cases outcome with
      | error e => cases h
      | ok client =>
        change Locked.run _ s₁ = _ at h
        beta_reduce at h
        cases hvalidate : validateAuthorizeRequest q client headers with
        | error e =>
          rw [hvalidate] at h
          cases h
        | ok validated =>
          obtain ⟨redirectUri, challenge, resource⟩ := validated
          rw [hvalidate] at h
          dsimp only at h
          refine ⟨redirectUri, (validateAuthorizeRequest_eq_ok_iff.1 hvalidate).2.1, ?_⟩
          by_cases hdecision : decision = "approve"
          · rw [if_neg (not_not.2 hdecision), Locked.run_bind, Locked.run_atomic, hcode,
              backToClient_eq] at h
            rw [if_pos hdecision]
            exact (Except.ok.inj (congrArg Prod.fst h)).symm
          · rw [if_pos hdecision, hdenied, backToClient_eq] at h
            rw [if_neg hdecision]
            exact (Except.ok.inj (congrArg Prod.fst h)).symm

/-- Whenever the server answers an approval or a denial with a redirect, the address adds the pairs
of the answer to the redirect URI and changes nothing else exactly when the redirect URI has
neither a query nor a fragment. -/
theorem redirect_answers_iff {user : Option SessionUser} {headers : HeaderMap} {decision : String}
    {q : AuthorizeQuery} {fetched : Except String ClientDoc} {code location : String}
    {s s' : OAuthServer}
    (h : (authorizePost user headers decision q fetched code).run s =
      (.ok (.redirect location), s')) :
    ∃ uri, filled q.redirectUri = some uri ∧
      (AnswersRedirect uri location (decisionPairs decision code q.state) ↔
        '?' ∉ uri.toList ∧ '#' ∉ uri.toList) := by
  obtain ⟨uri, huri, hreply⟩ := authorizePost_redirects h
  refine ⟨uri, huri, ?_⟩
  rw [Reply.redirect.inj hreply]
  unfold decisionPairs
  by_cases hdecision : decision = "approve"
  · rw [if_pos hdecision, if_pos hdecision]
    exact answers_location_iff plainName_code decode_marked_ne.1
  · rw [if_neg hdecision, if_neg hdecision]
    exact answers_location_iff plainName_error decode_marked_ne.2

end Server

/-! ## A redirect URI without a query, and one with it -/

/-- An approval is answered at the redirect URI of the client that is always there. -/
theorem redirect_answers_cursor :
    let := plainServer
    ∃ location s', (authorizePost (some ⟨.admin, "admin"⟩) OAuth.localHeaders "approve"
        (cursorRequest "sandboard-cursor") (.error "") "code").run
          freshServer.ensureStaticClients = (.ok (.redirect location), s') ∧
      AnswersRedirect "http://localhost:8787/callback" location
        [("code", "code"), ("state", "xyz")] := by
  intro server
  obtain ⟨reply, s', hrun, -⟩ := @authorizePost_grants server freshServer.ensureStaticClients
    ⟨.admin, "admin"⟩ OAuth.localHeaders (cursorRequest "sandboard-cursor") _ _ _ _ _ rfl
    freshServer_knows (validate_cursorRequest "sandboard-cursor") (.error "") "code"
  obtain ⟨uri₀, -, hreply⟩ := authorizePost_redirects hrun
  rw [hreply] at hrun
  obtain ⟨uri, huri, hiff⟩ := redirect_answers_iff hrun
  have hfilled : filled (some "http://localhost:8787/callback") =
      some "http://localhost:8787/callback" := by
    decide +kernel
  have huri' : filled (some "http://localhost:8787/callback") = some uri := huri
  rw [hfilled] at huri'
  obtain rfl := Option.some.inj huri'
  exact ⟨_, s', hrun, hiff.2 (by decide +kernel)⟩

/-- A redirect URI with a query, which clients may register. -/
def sessionUri : String := "http://localhost:8787/callback?session=7"

/-- A server that knows a client with this redirect URI. -/
def sessionServer : OAuthServer :=
  { freshServer with
    clients := (∅ : ExtTreeMap String ClientRecord).insert "sandboard-0123456789abcdef"
      ⟨[sessionUri], none⟩ }

/-- A request by this client. -/
def sessionRequest : AuthorizeQuery :=
  { cursorRequest "sandboard-0123456789abcdef" with redirectUri := some sessionUri }

lemma filled_sessionUri : filled (some sessionUri) = some sessionUri := by
  decide +kernel

lemma validate_sessionRequest [WebServer] :
    validateAuthorizeRequest sessionRequest ⟨[sessionUri], none⟩ OAuth.localHeaders =
      .ok (sessionUri, "E9Melhoa2OwvFrEMTJguCHaoeK1t8URWbuGJSstw-cM",
        requestResource OAuth.localHeaders) := by
  have hchallenge : filled (some "E9Melhoa2OwvFrEMTJguCHaoeK1t8URWbuGJSstw-cM") =
      some "E9Melhoa2OwvFrEMTJguCHaoeK1t8URWbuGJSstw-cM" := by
    decide +kernel
  have hscopes : ∀ part ∈ splitWhitespace "mcp", part = mcpScope := by
    decide +kernel
  exact validateAuthorizeRequest_eq_ok_iff.2 ⟨rfl, filled_sessionUri, by decide, rfl, hchallenge,
    rfl, Or.inl (resourcesEquivalent_refl _), hscopes⟩

/-- An allowed redirect URI with a query gets the answer into the value of its last pair. -/
theorem not_answers_session :
    let := plainServer
    ¬ ∀ (user : Option SessionUser) (headers : HeaderMap) (decision : String)
      (q : AuthorizeQuery) (fetched : Except String ClientDoc) (code location uri : String)
      (s s' : OAuthServer), redirectUriAllowed uri = true → filled q.redirectUri = some uri →
        (authorizePost user headers decision q fetched code).run s =
          (.ok (.redirect location), s') →
        AnswersRedirect uri location (decisionPairs decision code q.state) := by
  intro server h
  have hallowed : redirectUriAllowed sessionUri = true := by decide +kernel
  have hknown : sessionServer.clients["sandboard-0123456789abcdef"]? =
      some ⟨[sessionUri], none⟩ :=
    ExtTreeMap.getElem?_insert_self
  obtain ⟨reply, s', hrun, -⟩ := @authorizePost_grants server sessionServer ⟨.admin, "admin"⟩
    OAuth.localHeaders sessionRequest _ _ _ _ _ rfl hknown validate_sessionRequest (.error "")
    "code"
  obtain ⟨uri, huri, hreply⟩ := authorizePost_redirects hrun
  have huri' : filled (some sessionUri) = some uri := huri
  rw [filled_sessionUri] at huri'
  obtain rfl := Option.some.inj huri'
  rw [hreply] at hrun
  have hanswers := h _ _ _ _ _ _ _ _ _ _ hallowed filled_sessionUri hrun
  exact ((answers_location_iff plainName_code decode_marked_ne.1).1 hanswers).1 (by decide +kernel)

end Sandboard

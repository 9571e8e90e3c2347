import Mathlib.Data.List.Nodup
import Sandboard.OAuth.Server
import Sandboard.Settings.OAuthNames

/-!
# Outbound OAuth of MCP servers

A start parks what the callback needs under a random state and sends the browser away; the callback
takes the parked row out, exchanges the code, and stores the tokens.  The calls of all browsers
share one table, each taking its lock once; between the locks they wait for the network, so a run
is any list of the locked sections (`OAuthEvent`), and a callback waits in `exchanging` for its
answer.

Rows that have expired are dropped by the next start only.  A callback takes whatever row is there.
-/

namespace Sandboard

open Std Text

namespace McpOAuth

/-! ## Starts -/

def pendingTtlSecs : ℕ := 600

/-- What a start keeps for its callback. -/
structure PendingOAuth where
  serverId : String
  name : String
  mcpUrl : String
  codeVerifier : String
  clientId : String
  tokenEndpoint : String
  redirectUri : String
  resource : String
  scopes : List String
  mcpHosts : List String
  createdAt : ℕ
  returnPath : String

structure OAuthStartReq where
  url : String
  serverId : Option String
  name : Option String
  returnPath : Option String

structure OAuthStartOut where
  authorizeUrl : String
  serverId : String

/-- The metadata of an authorization server. -/
structure Discovered where
  resource : String
  authorizationEndpoint : String
  tokenEndpoint : String
  scopesSupported : List String
  asHost : Option String

/-- What a start gets from elsewhere: the parsed URL (scheme and host), the ids of the catalog,
the network's answers, the public origin, and the random texts. -/
structure StartAnswers where
  uri : Option (Option String × Option String)
  existing : List String
  discovered : Except String Discovered
  origin : String
  clientId : Except String String
  codeVerifier : String
  state : String

def sanitizeReturnPath (raw : Option String) : String :=
  match trimmedOrNone raw with
  | none => "/settings/mcp-servers"
  | some r =>
    if startsWith "/settings/" r && !contains "://" r && !contains "\n" r then r
    else "/settings/mcp-servers"

/-- The id of a start: the one it gives, or a free one from its name. -/
def startServerId (req : OAuthStartReq) (existing : List String) : Except String String :=
  match trimmedOrNone req.serverId with
  | some id => sanitizeServerId id
  | none =>
    let base := slugifySandboxProfileId (req.name.getD "mcp-oauth")
    let candidates := base :: (List.range existing.length).map fun n => s!"{base}-{n + 2}"
    .ok ((candidates.find? fun id => !existing.contains id).getD base)

/-- The scopes to ask for; a refresh token needs offline access. -/
def startScopes (supported : List String) : List String :=
  if supported.isEmpty then ["offline_access"]
  else if supported.contains "offline_access" then supported
  else supported ++ ["offline_access"]

/-- A status with a message. -/
abbrev ApiErr : Type := ℕ × String

def apiErr (status : ℕ) (msg : String) : ApiErr := (status, msg)

/-- `POST oauth/start` up to the table: the reply, the state and the row. -/
def oauthStart [pkce : Pkce] (req : OAuthStartReq) (answers : StartAnswers) (createdAt : ℕ) :
    Except ApiErr (OAuthStartOut × String × PendingOAuth) := do
  let mcpUrl := trimEndMatches '/' (trim req.url)
  if mcpUrl.isEmpty then throw (apiErr 400 "url required")
  let (scheme, host) ← match answers.uri with
    | none => throw (apiErr 400 "url is not a valid URI")
    | some uri => pure uri
  if scheme ≠ some "https" ∧ scheme ≠ some "http" then throw (apiErr 400 "url must be http(s)")
  let host ← match host with
    | none => throw (apiErr 400 "url missing host")
    | some host => pure host
  let serverId ← (startServerId req answers.existing).mapError (apiErr 400)
  let discovered ← answers.discovered.mapError (apiErr 502)
  if answers.origin.isEmpty then
    throw <| apiErr 400 ("cannot resolve public origin (Host / Origin / X-Forwarded-Host, or " ++
      "SANDBOARD_PUBLIC_URL)")
  let redirectUri := trimEndMatches '/' answers.origin ++ "/oauth/mcp-client/callback"
  let clientId ← answers.clientId.mapError (apiErr 502)
  let scopes := startScopes discovered.scopesSupported
  let row : PendingOAuth :=
    { serverId := serverId
      name := (trimmedOrNone req.name).getD serverId
      mcpUrl := mcpUrl
      codeVerifier := answers.codeVerifier
      clientId := clientId
      tokenEndpoint := discovered.tokenEndpoint
      redirectUri := redirectUri
      resource := discovered.resource
      scopes := scopes
      mcpHosts := host :: (discovered.asHost.toList.filter (· ≠ host))
      createdAt := createdAt
      returnPath := sanitizeReturnPath req.returnPath }
  let authorizeUrl := discovered.authorizationEndpoint ++ "?response_type=code&client_id=" ++
    urlencodingEncode clientId ++ "&redirect_uri=" ++ urlencodingEncode redirectUri ++ "&state=" ++
    urlencodingEncode answers.state ++ "&code_challenge=" ++
    urlencodingEncode (pkce.pkceS256Challenge answers.codeVerifier) ++
    "&code_challenge_method=S256&scope=" ++ urlencodingEncode (String.intercalate " " scopes) ++
    "&resource=" ++ urlencodingEncode discovered.resource
  return (⟨authorizeUrl, serverId⟩, answers.state, row)

/-! ## The table and its events -/

structure CallbackQuery where
  code : Option String
  state : Option String
  error : Option String

/-- What `exchange_code` sends. -/
structure TokenRequest where
  tokenEndpoint : String
  clientId : String
  code : String
  codeVerifier : String
  redirectUri : String
  resource : String

/-- A state that a callback took out of the table, and when. -/
structure Redeemed where
  state : String
  row : PendingOAuth
  takenAt : ℕ
  request : TokenRequest

/-- The table, the callbacks that wait for tokens, the connections that are stored, and an account
of what was parked, taken and stored, which nothing reads. -/
structure OAuthClient where
  pending : ExtTreeMap String PendingOAuth
  exchanging : List Redeemed
  connections : Connections
  started : List (String × PendingOAuth)
  redeemed : List Redeemed
  finished : List (Redeemed × TokenAnswer)

/-- A locked section of a call, or what follows an answer of the token endpoint. -/
inductive OAuthEvent where
  | start (req : OAuthStartReq) (answers : StartAnswers) (prunedAt createdAt : ℕ)
  | callback (query : CallbackQuery) (now : ℕ)
  | answer (k : ℕ) (tokens : Except String TokenAnswer)

namespace OAuthClient

def empty : OAuthClient := ⟨∅, [], .empty, [], [], []⟩

/-- Drop the rows that have expired, and park a new one. -/
def park (s : OAuthClient) (prunedAt : ℕ) (state : String) (row : PendingOAuth) : OAuthClient :=
  { s with
    pending := (s.pending.filter fun _ p => prunedAt - p.createdAt < pendingTtlSecs).insert
      state row
    started := (state, row) :: s.started }

/-- Take the row of a state out of the table, and send its code to its token endpoint. -/
def take (s : OAuthClient) (code state : String) (now : ℕ) : OAuthClient :=
  match s.pending[state]? with
  | none => s
  | some p =>
    let taken : Redeemed := ⟨state, p, now,
      ⟨p.tokenEndpoint, p.clientId, code, p.codeVerifier, p.redirectUri, p.resource⟩⟩
    { s with
      pending := s.pending.erase state
      exchanging := s.exchanging ++ [taken]
      redeemed := taken :: s.redeemed }

/-- `GET oauth/callback` up to the token endpoint. -/
def callback (s : OAuthClient) (q : CallbackQuery) (now : ℕ) : OAuthClient :=
  if q.error.isSome then s
  else
    match q.code, q.state with
    | some code, some state => s.take code state now
    | _, _ => s

/-- A callback goes on when the token endpoint has answered. -/
def finish (s : OAuthClient) (k : ℕ) (tokens : Except String TokenAnswer) : OAuthClient :=
  match s.exchanging[k]? with
  | none => s
  | some taken =>
    let s := { s with exchanging := s.exchanging.eraseIdx k }
    match tokens with
    | .error _ => s
    | .ok answer =>
      let answer := { answer with hosts := taken.row.mcpHosts }
      { s with
        connections := (s.connections.finishOauthConnect taken.row.serverId answer).2
        finished := (taken, answer) :: s.finished }

/-- The state after an event. -/
def perform [Pkce] (s : OAuthClient) : OAuthEvent → OAuthClient
  | .start req answers prunedAt createdAt =>
    match oauthStart req answers createdAt with
    | .error _ => s
    | .ok (_, state, row) => s.park prunedAt state row
  | .callback q now => s.callback q now
  | .answer k tokens => s.finish k tokens

/-! ## What holds after every run -/

/-- A callback takes no row that has expired. -/
def Timely (s : OAuthClient) : OAuthEvent → Prop
  | .callback q now => q.error = none → q.code.isSome → ∀ state row, q.state = some state →
    s.pending[state]? = some row → now - row.createdAt < pendingTtlSecs
  | _ => True

/-- A redemption is of a parked row, and sends what that row holds. -/
structure Genuine (s : OAuthClient) (r : Redeemed) : Prop where
  parked : (r.state, r.row) ∈ s.started
  endpoint : r.request.tokenEndpoint = r.row.tokenEndpoint
  verifier : r.request.codeVerifier = r.row.codeVerifier
  redirectUri : r.request.redirectUri = r.row.redirectUri
  client : r.request.clientId = r.row.clientId
  resource : r.request.resource = r.row.resource

/-- What holds whenever the callbacks come: no state is redeemed more often than it was parked (so
at most once, as the random states differ), each redemption is genuine, and a stored token is one
that a redemption brought for the server of its start. -/
structure Accounted (s : OAuthClient) : Prop where
  noMore : ∀ state, (s.redeemed.map Redeemed.state).count state ≤
    (s.started.map Prod.fst).count state
  once : (s.started.map Prod.fst).Nodup → (s.redeemed.map Redeemed.state).Nodup
  genuine : ∀ r ∈ s.redeemed, s.Genuine r
  stored : ∀ id k token, s.connections.providers[providerNameFor id]? = some (k, token) →
    ∃ x ∈ s.finished, x.1 ∈ s.redeemed ∧ x.1.row.serverId = id ∧ x.2.accessToken = some token

/-- Each redemption was within its time. -/
def InTime (s : OAuthClient) : Prop :=
  ∀ r ∈ s.redeemed, r.takenAt - r.row.createdAt < pendingTtlSecs

/-- The account is in order, and every state was redeemed within its time. -/
structure Sound (s : OAuthClient) : Prop extends Accounted s where
  inTime : InTime s

/-- The invariant behind the account: a state that is in the table can be redeemed once more. -/
structure Ledger (s : OAuthClient) : Prop where
  pending : ∀ state row, s.pending[state]? = some row → (state, row) ∈ s.started
  balance : ∀ state, (s.redeemed.map Redeemed.state).count state +
    (if state ∈ s.pending then 1 else 0) ≤ (s.started.map Prod.fst).count state
  exchanging : ∀ r ∈ s.exchanging, r ∈ s.redeemed
  genuine : ∀ r ∈ s.redeemed, s.Genuine r
  stored : ∀ id k token, s.connections.providers[providerNameFor id]? = some (k, token) →
    ∃ x ∈ s.finished, x.1 ∈ s.redeemed ∧ x.1.row.serverId = id ∧ x.2.accessToken = some token

lemma Ledger.accounted {s : OAuthClient} (hs : Ledger s) : Accounted s where
  noMore state := Nat.le_trans (Nat.le_add_right _ _) (hs.balance state)
  once hdistinct := by
    rw [List.nodup_iff_count_le_one] at hdistinct ⊢
    intro state
    exact Nat.le_trans (Nat.le_trans (Nat.le_add_right _ _) (hs.balance state)) (hdistinct state)
  genuine := hs.genuine
  stored := hs.stored

lemma ledger_empty : Ledger empty where
  pending _ _ h := nomatch h
  balance _ := by
    unfold empty
    rw [if_neg ExtTreeMap.not_mem_empty]
    exact Nat.le_refl _
  exchanging _ h := nomatch h
  genuine _ h := nomatch h
  stored _ _ _ h := nomatch h

lemma Genuine.of_started {s s' : OAuthClient} {r : Redeemed} (h : s.Genuine r)
    (hstarted : ∀ x ∈ s.started, x ∈ s'.started) : s'.Genuine r :=
  ⟨hstarted _ h.parked, h.endpoint, h.verifier, h.redirectUri, h.client, h.resource⟩

lemma Ledger.park {s : OAuthClient} (hs : Ledger s) (prunedAt : ℕ) (state : String)
    (row : PendingOAuth) : Ledger (s.park prunedAt state row) where
  pending := by
    intro state' row' h
    unfold OAuthClient.park at h ⊢
    dsimp only at h ⊢
    rw [ExtTreeMap.getElem?_insert] at h
    split at h
    · rename_i heq
      obtain rfl := Std.compare_eq_iff_eq.1 heq
      obtain rfl := Option.some.inj h
      exact List.mem_cons_self
    · rw [ExtTreeMap.getElem?_filter'] at h
      exact List.mem_cons_of_mem _ (hs.pending state' row' (Option.filter_eq_some_iff.1 h).1)
  balance := by
    intro state'
    have hbefore := hs.balance state'
    unfold OAuthClient.park
    dsimp only
    rw [List.map_cons, List.count_cons]
    by_cases heq : state = state'
    · subst heq
      rw [if_pos ExtTreeMap.mem_insert_self, beq_self_eq_true, if_pos rfl]
      omega
    · have hmem : state' ∈ (s.pending.filter fun _ p =>
          decide (prunedAt - p.createdAt < pendingTtlSecs)).insert state row → state' ∈ s.pending := by
        intro h
        rcases ExtTreeMap.mem_insert.1 h with hself | hkept
        · exact absurd (Std.compare_eq_iff_eq.1 hself) heq
        · exact ExtTreeMap.mem_of_mem_filter hkept
      rw [beq_eq_false_iff_ne.2 heq, if_neg Bool.false_ne_true]
      split
      · rename_i hin
        rw [if_pos (hmem hin)] at hbefore
        exact hbefore
      · omega
  exchanging := hs.exchanging
  genuine r hr := (hs.genuine r hr).of_started fun _ h => List.mem_cons_of_mem _ h
  stored := hs.stored

lemma Ledger.take {s : OAuthClient} (hs : Ledger s) (code state : String) (now : ℕ) :
    Ledger (s.take code state now) := by
  unfold OAuthClient.take
  cases hpending : s.pending[state]? with
  | none => exact hs
  | some p =>
    dsimp only
    have hmem : state ∈ s.pending := by
      rw [ExtTreeMap.mem_iff_isSome_getElem?, hpending]
      rfl
    refine ⟨fun state' row' h => ?_, fun state' => ?_, fun r hr => ?_, fun r hr => ?_,
      fun id k token h => ?_⟩
    · dsimp only at h
      rw [ExtTreeMap.getElem?_erase] at h
      split at h
      · cases h
      · exact hs.pending state' row' h
    · have hbefore := hs.balance state'
      dsimp only
      rw [List.map_cons, List.count_cons]
      by_cases heq : state = state'
      · subst heq
        rw [if_pos hmem] at hbefore
        have hgone : state ∉ s.pending.erase state :=
          fun h => (ExtTreeMap.mem_erase.1 h).1 (Std.compare_eq_iff_eq.2 rfl)
        rw [beq_self_eq_true, if_pos rfl, if_neg hgone]
        exact hbefore
      · rw [beq_eq_false_iff_ne.2 heq, if_neg Bool.false_ne_true]
        split
        · rename_i hin
          rw [if_pos (ExtTreeMap.mem_erase.1 hin).2] at hbefore
          exact hbefore
        · omega
    · rcases List.mem_append.1 hr with hold | hnew
      · exact List.mem_cons_of_mem _ (hs.exchanging r hold)
      · exact List.mem_cons.2 (Or.inl (List.mem_singleton.1 hnew))
    · rcases List.mem_cons.1 hr with rfl | hold
      · exact ⟨hs.pending state p hpending, rfl, rfl, rfl, rfl, rfl⟩
      · exact (hs.genuine r hold).of_started fun _ h => h
    · obtain ⟨x, hx, hredeemed, hid⟩ := hs.stored id k token h
      exact ⟨x, hx, List.mem_cons_of_mem _ hredeemed, hid⟩

lemma Ledger.finish {s : OAuthClient} (hs : Ledger s) (k : ℕ)
    (tokens : Except String TokenAnswer) : Ledger (s.finish k tokens) := by
  unfold OAuthClient.finish
  cases hk : s.exchanging[k]? with
  | none => exact hs
  | some taken =>
    have htaken := hs.exchanging taken (List.mem_of_getElem? hk)
    have hrest : ∀ r ∈ s.exchanging.eraseIdx k, r ∈ s.redeemed :=
      fun r hr => hs.exchanging r (List.mem_of_mem_eraseIdx hr)
    cases tokens with
    | error e => exact ⟨hs.pending, hs.balance, hrest, fun r hr => (hs.genuine r hr).of_started
        fun _ h => h, hs.stored⟩
    | ok answer =>
      dsimp only
      refine ⟨hs.pending, hs.balance, hrest, fun r hr => (hs.genuine r hr).of_started fun _ h => h,
        fun id k token h => ?_⟩
      have hold : ∀ {providers : ExtTreeMap String (String × String)},
          providers[providerNameFor id]? = some (k, token) → providers = s.connections.providers →
            ∃ x ∈ (taken, { answer with hosts := taken.row.mcpHosts }) :: s.finished,
              x.1 ∈ s.redeemed ∧ x.1.row.serverId = id ∧ x.2.accessToken = some token := by
        rintro providers hrow rfl
        obtain ⟨x, hx, hredeemed⟩ := hs.stored id k token hrow
        exact ⟨x, List.mem_cons_of_mem _ hx, hredeemed⟩
      rcases Connections.rows_finishOauthConnect taken.row.serverId
        { answer with hosts := taken.row.mcpHosts } s.connections with
        ⟨hsame, -⟩ | ⟨access, haccess, hnew, -⟩
      · exact hold h hsame
      · dsimp only at h
        rw [hnew, Connections.getElem?_insert_provider] at h
        split at h
        · rename_i hid
          have htoken : access = token := congrArg Prod.snd (Option.some.inj h)
          exact ⟨_, List.mem_cons_self, htaken, hid, htoken ▸ haccess⟩
        · exact hold h rfl

/-- Every event keeps the ledger. -/
lemma ledger_perform [Pkce] {s : OAuthClient} (hs : Ledger s) (event : OAuthEvent) :
    Ledger (s.perform event) := by
  cases event with
  | start req answers prunedAt createdAt =>
    unfold perform
    dsimp only
    split
    · exact hs
    · exact hs.park prunedAt _ _
  | callback q now =>
    unfold perform callback
    dsimp only
    split
    · exact hs
    · split
      · exact hs.take _ _ now
      · exact hs
  | answer k tokens => exact hs.finish k tokens

/-- An event keeps the redemptions within their times exactly when it is timely. -/
lemma inTime_perform_iff [Pkce] (s : OAuthClient) (event : OAuthEvent) :
    InTime (s.perform event) ↔ InTime s ∧ s.Timely event := by
  cases event with
  | start req answers prunedAt createdAt =>
    have hsame : (s.perform (.start req answers prunedAt createdAt)).redeemed = s.redeemed := by
      unfold perform
      dsimp only
      split <;> rfl
    unfold InTime
    rw [hsame]
    exact (and_iff_left trivial).symm
  | callback q now =>
    unfold Timely perform callback
    dsimp only
    cases herror : q.error with
    | some e => exact (and_iff_left fun h => nomatch h).symm
    | none =>
      rw [Option.isSome_none, if_neg Bool.false_ne_true]
      cases hcode : q.code with
      | none => exact (and_iff_left fun _ h => nomatch h).symm
      | some code =>
        cases hstate : q.state with
        | none => exact (and_iff_left fun _ _ _ _ h => nomatch h).symm
        | some state =>
          dsimp only
          have hrow : ((none : Option String) = none → (some code).isSome →
              ∀ state' row, some state = some state' → s.pending[state']? = some row →
                now - row.createdAt < pendingTtlSecs) ↔
                  ∀ row, s.pending[state]? = some row → now - row.createdAt < pendingTtlSecs :=
            ⟨fun h row hrow => h rfl rfl state row rfl hrow,
              fun h _ _ state' row heq hrow => h row (Option.some.inj heq ▸ hrow)⟩
          rw [hrow]
          unfold take InTime
          cases hpending : s.pending[state]? with
          | none => exact (and_iff_left fun row h => nomatch h).symm
          | some p =>
            dsimp only
            rw [List.forall_mem_cons, and_comm]
            exact and_congr_right fun _ => ⟨fun h row heq => Option.some.inj heq ▸ h, fun h => h p rfl⟩
  | answer k tokens =>
    have hsame : (s.perform (.answer k tokens)).redeemed = s.redeemed := by
      unfold perform finish
      dsimp only
      split
      · rfl
      · split <;> rfl
    unfold InTime
    rw [hsame]
    exact (and_iff_left trivial).symm

lemma inTime_after_iff [Pkce] (s : OAuthClient) (events : List OAuthEvent) :
    InTime (Run.after perform s events) ↔ InTime s ∧ Run.Meets perform Timely s events := by
  induction events generalizing s with
  | nil => exact (and_iff_left trivial).symm
  | cons event events ih =>
    rw [Run.after_cons, ih, inTime_perform_iff, Run.Meets, and_assoc]

end OAuthClient

/-- In every run of starts and callbacks the account is in order, and every state is redeemed
within its time exactly when no callback takes a row that has expired. -/
theorem sound_iff_timely [Pkce] (events : List OAuthEvent) :
    (Run.after OAuthClient.perform .empty events).Sound ↔
      Run.Meets OAuthClient.perform OAuthClient.Timely .empty events := by
  have hledger : (Run.after OAuthClient.perform .empty events).Ledger :=
    Run.invariant (I := OAuthClient.Ledger) (fun _ event hs => OAuthClient.ledger_perform hs event)
      OAuthClient.ledger_empty events
  have hempty : OAuthClient.InTime .empty := fun _ h => nomatch h
  have htime := OAuthClient.inTime_after_iff .empty events
  constructor
  · exact fun h => (htime.1 h.inTime).2
  · exact fun h => ⟨hledger.accounted, htime.2 ⟨hempty, h⟩⟩

/-- A server that is connected by hand. -/
def jiraStart : OAuthStartReq := ⟨"https://jira", some "jira", none, none⟩

/-- The answers of a server with the usual metadata. -/
def jiraAnswers : StartAnswers where
  uri := some (some "https", some "jira")
  existing := []
  discovered := .ok ⟨"https://jira", "https://idp/authorize", "https://idp/token", [], none⟩
  origin := "https://board"
  clientId := .ok "client"
  codeVerifier := "verifier"
  state := "state"

/-- The callback comes a day after the only start. -/
theorem not_sound_dayLater :
    let : Pkce := ⟨id⟩
    ¬(Run.after OAuthClient.perform .empty [.start jiraStart jiraAnswers 0 0,
      .callback ⟨some "code", some "state", none⟩ 86400]).Sound := by
  intro pkce hsound
  have hparked : (oauthStart jiraStart jiraAnswers 0).toOption.map
      (fun x => (x.2.1, x.2.2.createdAt)) = some ("state", 0) := by
    decide +kernel
  cases hstart : oauthStart jiraStart jiraAnswers 0 with
  | error e =>
    rw [hstart] at hparked
    cases hparked
  | ok x =>
    obtain ⟨out, state, row⟩ := x
    rw [hstart] at hparked
    obtain ⟨rfl, hcreated⟩ := Prod.mk.inj (Option.some.inj hparked)
    have htimely := ((OAuthClient.inTime_after_iff .empty _).1 hsound.inTime).2.2.1 rfl rfl "state"
      row rfl
    have hpending : (OAuthClient.perform .empty (.start jiraStart jiraAnswers 0 0)).pending["state"]? =
        some row := by
      unfold OAuthClient.perform
      dsimp only
      rw [hstart]
      exact ExtTreeMap.getElem?_insert_self
    have hlate := htimely hpending
    have hnow : row.createdAt = 0 := hcreated
    rw [hnow] at hlate
    exact absurd hlate (by decide)

end McpOAuth

end Sandboard

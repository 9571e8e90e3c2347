import Mathlib.Logic.Function.Iterate
import Sandboard.Library.Json
import Sandboard.Settings.Providers

/-!
# The repository access cache

A refresh asks GitHub for the installations of the App and for the repositories of each of them,
and replaces the cache when every request is answered.  The repositories are asked for page by
page, up to fifty pages; the installations with one request, which GitHub answers with its first
page of thirty.  So a refresh maps what it has seen and nothing else, keeps the mapping when a
request fails, and always ends, but it is complete exactly when no repository is behind the first
thirty installations or the first five thousand repositories of one.
-/

namespace Sandboard

open Std Text

/-! ## Requests -/

/-- What goes wrong with the App. -/
inductive AppError where
  | config (message : String)
  | jwt (message : String)
  | api (message : String)

/-- The text of an error. -/
def AppError.text : AppError → String
  | .config message => s!"github app: {message}"
  | .jwt message => s!"jwt: {message}"
  | .api message => s!"github api: {message}"

/-- An answer of GitHub. -/
structure HttpResponse (α : Type) where
  /-- The status is one of success. -/
  success : Bool
  status : String
  text : String
  json : Except String α

/-- What a request was answered, with the words its errors start with. -/
def readResponse {α : Type} (what : String) (resp : Except String (HttpResponse α)) :
    Except AppError α :=
  match resp with
  | .error e => .error (.api s!"{what}: {e}")
  | .ok resp =>
    if !resp.success then
      .error (.api s!"{what} HTTP {resp.status}: {String.ofList (resp.text.toList.take 200)}")
    else
      match resp.json with
      | .error e => .error (.api s!"{what} json: {e}")
      | .ok v => .ok v

/-- A row of the installations. -/
structure InstallationRow where
  id : ℕ
  /-- The login and the type of the account. -/
  account : Option (String × Option String)

structure InstallationInfo where
  id : ℕ
  accountLogin : String
  accountType : String

/-- An installation token, and when it ends as far as that can be read. -/
structure InstallationTokenResponse where
  token : String
  expiresAt : Except String ℕ

/-- What the refresh gets from GitHub and from the crates. -/
structure GithubApi where
  /-- The signature of the App's claims. -/
  sign : GitHubAppBundle → ℕ → Except String String
  /-- `GET /app/installations`. -/
  installations : String → Except String (HttpResponse (List InstallationRow))
  /-- `POST /app/installations/{id}/access_tokens`. -/
  accessTokens : String → ℕ → Except String (HttpResponse InstallationTokenResponse)
  /-- `GET /installation/repositories?per_page=100&page={page}`. -/
  repositories : String → ℕ → Except String (HttpResponse (List Json))
  /-- `Value::to_string`. -/
  jsonText : Json → String

/-- `make_app_jwt`. -/
def makeAppJwt (api : GithubApi) (bundle : GitHubAppBundle) (now : ℕ) : Except AppError String :=
  if isBlank bundle.appId then .error (.config "app_id empty")
  else if isBlank bundle.privateKeyPem then .error (.config "private_key empty")
  else (api.sign bundle now).mapError .jwt

/-- `list_installations`. -/
def listInstallations (api : GithubApi) (jwt : String) : Except AppError (List InstallationInfo) :=
  (readResponse "list installations" (api.installations jwt)).map fun rows =>
    rows.map fun r =>
      ⟨r.id, (r.account.map Prod.fst).getD "", (r.account.bind Prod.snd).getD ""⟩

/-- `create_installation_token`. -/
def createInstallationToken (api : GithubApi) (jwt : String) (installationId : ℕ) :
    Except AppError String := do
  let body ← readResponse "installation token" (api.accessTokens jwt installationId)
  match body.expiresAt with
  | .error e => throw (.api s!"expires_at: {e}")
  | .ok _ =>
    if isBlank body.token then throw (.api "empty installation token")
    return body.token

/-! ## Repositories -/

/-- A repository of an installation. -/
structure InstallationRepo where
  fullName : String
  permissions : ExtTreeMap String String

/-- `permissions_from_json`. -/
def permissionsFromJson (jsonText : Json → String) : Option Json → ExtTreeMap String String
  | some (.object map) =>
    map.foldl (fun out (k, v) =>
      out.insert k (match v with
        | .string s => s
        | other => jsonText other)) ∅
  | _ => ∅

/-- The repository of a row, when it has a name. -/
def installationRepo (jsonText : Json → String) (row : Json) : Option InstallationRepo :=
  match (((row.pointer ["full_name"]).bind Json.asStr).map trim).filter fun s => !s.isEmpty with
  | some fullName => some ⟨fullName, permissionsFromJson jsonText (row.pointer ["permissions"])⟩
  | none => none

/-- The loop over the pages: read on, or done. -/
inductive PageLoop where
  | reading (page : ℕ) (out : List InstallationRepo)
  | done (result : Except AppError (List InstallationRepo))

/-- One request of the loop. -/
def PageLoop.step (jsonText : Json → String) (get : ℕ → Except AppError (List Json)) :
    PageLoop → PageLoop
  | .reading page out =>
    match get page with
    | .error e => .done (.error e)
    | .ok rows =>
      let out := out ++ rows.filterMap (installationRepo jsonText)
      if rows.length < 100 then .done (.ok out)
      else if page + 1 > 50 then .done (.ok out)
      else .reading (page + 1) out
  | .done result => .done result

/-- The loop from one page on. -/
def walkPages (jsonText : Json → String) (get : ℕ → Except AppError (List Json)) (page : ℕ)
    (out : List InstallationRepo) : Except AppError (List InstallationRepo) :=
  match get page with
  | .error e => .error e
  | .ok rows =>
    let out := out ++ rows.filterMap (installationRepo jsonText)
    if rows.length < 100 then .ok out
    else if page + 1 > 50 then .ok out
    else walkPages jsonText get (page + 1) out
termination_by 51 - page

/-- One page of the repositories of an installation. -/
def repositoryPage (api : GithubApi) (token : String) (page : ℕ) : Except AppError (List Json) :=
  readResponse "list installation repos" (api.repositories token page)

/-- `list_installation_repositories`. -/
def listInstallationRepositories (api : GithubApi) (token : String) :
    Except AppError (List InstallationRepo) :=
  walkPages api.jsonText (repositoryPage api token) 1 []

/-! ## The cache -/

/-- What the cache knows of a repository. -/
structure RepoAccessEntry where
  installationId : ℕ
  permissions : ExtTreeMap String String
  lastSeenAt : ℕ

structure RepoAccessCache where
  refreshedAt : Option ℕ
  lastError : Option String
  installations : List InstallationInfo
  repos : ExtTreeMap String RepoAccessEntry

/-- Add one repository to the cache; its name has an owner. -/
def addRepo (installation : InstallationInfo) (now : ℕ)
    (repos : ExtTreeMap String RepoAccessEntry) (repo : InstallationRepo) :
    ExtTreeMap String RepoAccessEntry :=
  let fullName := trim repo.fullName
  if fullName.isEmpty || !contains "/" fullName then repos
  else repos.insert fullName ⟨installation.id, repo.permissions, now⟩

/-- `apply_installation_repos`. -/
def applyInstallationRepos (cache : RepoAccessCache) (installation : InstallationInfo)
    (repos : List InstallationRepo) (now : ℕ) : RepoAccessCache :=
  { cache with
    installations :=
      if cache.installations.any (·.id == installation.id) then cache.installations
      else cache.installations ++ [installation]
    repos := repos.foldl (addRepo installation now) cache.repos }

/-- The walk over the installations; an error comes with what is noted of it. -/
def walkInstallations (api : GithubApi) (jwt : String) (now : ℕ) :
    List InstallationInfo → RepoAccessCache → Except (String × AppError) RepoAccessCache
  | [], next => .ok next
  | inst :: installations, next =>
    match createInstallationToken api jwt inst.id with
    | .error e => .error (s!"installation {inst.id}: {e.text}", e)
    | .ok token =>
      match listInstallationRepositories api token with
      | .error e => .error (s!"repos for installation {inst.id}: {e.text}", e)
      | .ok repos =>
        walkInstallations api jwt now installations (applyInstallationRepos next inst repos now)

/-- The App has an id and a key. -/
def GitHubAppBundle.isComplete (bundle : GitHubAppBundle) : Bool :=
  !isBlank bundle.appId && !isBlank bundle.privateKeyPem

/-- `refresh_repo_access_cache`: the cache of the board afterwards, and what is returned. -/
def refreshRepoAccessCache (api : GithubApi) (bundle : Option GitHubAppBundle) (now : ℕ)
    (cache : RepoAccessCache) : RepoAccessCache × Except AppError RepoAccessCache :=
  match bundle with
  | none => (cache, .ok cache)
  | some bundle =>
    if !bundle.isComplete then (cache, .ok cache)
    else
      match makeAppJwt api bundle now with
      | .error e => (cache, .error e)
      | .ok jwt =>
        match listInstallations api jwt with
        | .error e => ({ cache with lastError := some e.text }, .error e)
        | .ok installations =>
          match walkInstallations api jwt now installations ⟨some now, none, [], ∅⟩ with
          | .error (note, e) => ({ cache with lastError := some note }, .error e)
          | .ok next => (next, .ok next)

/-! ## What GitHub has -/

/-- An installation of the App with the repositories it can see. -/
structure Installation where
  row : InstallationRow
  repositories : List Json

/-- The name of a repository: an owner and a name. -/
def repositoryName (row : Json) : Option String :=
  (((row.pointer ["full_name"]).bind Json.asStr).map trim).filter fun s => contains "/" s

/-- The installation can see the repository. -/
def Installation.Sees (inst : Installation) (name : String) : Prop :=
  ∃ row ∈ inst.repositories, repositoryName row = some name

/-- What GitHub answers, where it answers: the first page of the installations, which has thirty
of them, and the page of the repositories that was asked for. -/
structure GithubApi.Serves (api : GithubApi) (app : List Installation) : Prop where
  installations : ∀ {jwt rows},
    readResponse "list installations" (api.installations jwt) = .ok rows →
      rows = (app.take 30).map (·.row)
  repositories : ∀ inst ∈ app, ∀ {jwt token},
    createInstallationToken api jwt inst.row.id = .ok token → ∀ {page rows},
      repositoryPage api token page = .ok rows →
        rows = (inst.repositories.drop ((page - 1) * 100)).take 100

/-- The mapping has every repository that some installation can see, with an installation that can
see it, and nothing else. -/
structure IsComplete (app : List Installation) (repos : ExtTreeMap String RepoAccessEntry) :
    Prop where
  mapped : ∀ inst ∈ app, ∀ name, inst.Sees name → name ∈ repos
  seen : ∀ name e, repos[name]? = some e →
    ∃ inst ∈ app, inst.row.id = e.installationId ∧ inst.Sees name

/-- Every repository is among the first five thousand of one of the first thirty installations. -/
def WithinCaps (app : List Installation) : Prop :=
  ∀ inst ∈ app, ∀ name, inst.Sees name →
    ∃ inst' ∈ app.take 30, ∃ row ∈ inst'.repositories.take 5000, repositoryName row = some name

/-! ## The loop over the pages -/

section Pages

variable {jsonText : Json → String} {get : ℕ → Except AppError (List Json)}

/-- The loop gets to what the walk returns before the fifty-first page. -/
lemma iterate_step (n : ℕ) (page : ℕ) (hpage : page + n = 51) (hn : 0 < n)
    (out : List InstallationRepo) :
    (PageLoop.step jsonText get)^[n] (.reading page out) =
      .done (walkPages jsonText get page out) := by
  have hdone : ∀ (k : ℕ) result, (PageLoop.step jsonText get)^[k] (.done result) = .done result :=
    fun k result => Function.iterate_fixed rfl k
  induction n generalizing page out with
  | zero => omega
  | succ n ih =>
    rw [Function.iterate_succ_apply, PageLoop.step, walkPages]
    cases get page with
    | error e => exact hdone n _
    | ok rows =>
      dsimp only
      by_cases hshort : rows.length < 100
      · rw [if_pos hshort, if_pos hshort]
        exact hdone n _
      · rw [if_neg hshort, if_neg hshort]
        by_cases hlast : page + 1 > 50
        · rw [if_pos hlast, if_pos hlast]
          exact hdone n _
        · rw [if_neg hlast, if_neg hlast]
          exact ih (page + 1) (by omega) (by omega) _

/-- Where every page that is read is the page that was asked for, the walk returns what is on the
pages from its first one to the fiftieth. -/
lemma walkPages_of_pages {rows : List Json}
    (hget : ∀ page answer, get page = .ok answer →
      answer = (rows.drop ((page - 1) * 100)).take 100)
    {page : ℕ} (hpage : 1 ≤ page) (hcap : page ≤ 50) {out result : List InstallationRepo}
    (h : walkPages jsonText get page out = .ok result) :
    result = out ++
      ((rows.drop ((page - 1) * 100)).take ((51 - page) * 100)).filterMap
        (installationRepo jsonText) := by
  generalize hleft : 50 - page = left
  induction left generalizing page out with
  | zero =>
    obtain rfl : page = 50 := by omega
    rw [walkPages] at h
    cases hanswer : get 50 with
    | error e =>
      rw [hanswer] at h
      cases h
    | ok answer =>
      rw [hanswer] at h
      dsimp only at h
      rw [if_pos (show 50 + 1 > 50 by decide), ite_self] at h
      rw [← Except.ok.inj h, hget 50 answer hanswer]
  | succ left ih =>
    rw [walkPages] at h
    cases hanswer : get page with
    | error e =>
      rw [hanswer] at h
      cases h
    | ok answer =>
      rw [hanswer] at h
      dsimp only at h
      have hrows := hget page answer hanswer
      have hcount : (51 - page) * 100 = 100 + (50 - page) * 100 := by omega
      have hnext : (page - 1) * 100 + 100 = (page + 1 - 1) * 100 := by omega
      by_cases hshort : answer.length < 100
      · -- A short page is the last one with something on it.
        rw [if_pos hshort] at h
        rw [hrows, List.length_take] at hshort
        have hlen : (rows.drop ((page - 1) * 100)).length < 100 := by omega
        rw [← Except.ok.inj h, hrows, List.take_of_length_le (Nat.le_of_lt hlen),
          List.take_of_length_le (by omega)]
      · rw [if_neg hshort, if_neg (by omega)] at h
        rw [ih (by omega) (by omega) h (by omega), hrows, hcount, List.take_add, List.drop_drop,
          hnext, List.filterMap_append, List.append_assoc]
        congr 5
        omega

end Pages

/-! ## The mapping -/

/-- The name under which a repository is mapped. -/
def repoKey (repo : InstallationRepo) : Option String :=
  let fullName := trim repo.fullName
  if fullName.isEmpty || !contains "/" fullName then none else some fullName

lemma repoKey_mk_trim (s : String) (permissions : ExtTreeMap String String) :
    repoKey ⟨trim s, permissions⟩ =
      if !(trim s).isEmpty && contains "/" (trim s) then some (trim s) else none := by
  unfold repoKey
  dsimp only
  rw [trim_trim]
  cases (trim s).isEmpty <;> cases contains "/" (trim s) <;> rfl

/-- A text with a slash is not empty. -/
lemma isEmpty_of_contains {s : String} (h : contains "/" s = true) : s.isEmpty = false := by
  by_contra hempty
  rw [Bool.not_eq_false, String.isEmpty_iff] at hempty
  rw [hempty] at h
  exact absurd h (by decide)

/-- A row is mapped under the name of its repository. -/
lemma installationRepo_bind_repoKey (jsonText : Json → String) (row : Json) :
    (installationRepo jsonText row).bind repoKey = repositoryName row := by
  unfold installationRepo repositoryName
  cases (row.pointer ["full_name"]).bind Json.asStr with
  | none => rfl
  | some s =>
    rw [Option.map_some, Option.filter_some, Option.filter_some]
    by_cases hslash : contains "/" (trim s) = true
    · have hfull := isEmpty_of_contains hslash
      simp only [hfull, hslash, Bool.not_false, if_true, Option.bind_some, repoKey_mk_trim,
        Bool.and_self]
    · cases hempty : (trim s).isEmpty with
      | true => simp [hslash]
      | false =>
        simp only [hslash, hempty, Bool.not_false, if_true, Option.bind_some, repoKey_mk_trim,
          Bool.and_false, Bool.false_eq_true, if_false]

section Mapping

variable {inst : InstallationInfo} {now : ℕ} {repos : ExtTreeMap String RepoAccessEntry}
  {rs : List InstallationRepo} {name : String} {e : RepoAccessEntry}

lemma mem_addRepo {r : InstallationRepo} :
    name ∈ addRepo inst now repos r ↔ name ∈ repos ∨ repoKey r = some name := by
  unfold addRepo repoKey
  dsimp only
  split
  · simp
  · rw [ExtTreeMap.mem_insert, Std.compare_eq_iff_eq, Option.some.injEq, or_comm]

lemma getElem?_addRepo {r : InstallationRepo} (h : (addRepo inst now repos r)[name]? = some e) :
    repos[name]? = some e ∨ (repoKey r = some name ∧ e.installationId = inst.id) := by
  unfold addRepo at h
  unfold repoKey
  dsimp only at h ⊢
  split at h
  · exact Or.inl h
  · rename_i hkey
    rw [ExtTreeMap.getElem?_insert] at h
    split at h
    · rename_i hname
      cases h
      rw [if_neg hkey, Std.compare_eq_iff_eq.1 hname]
      exact Or.inr ⟨rfl, rfl⟩
    · exact Or.inl h

lemma mem_foldl_addRepo :
    name ∈ rs.foldl (addRepo inst now) repos ↔
      name ∈ repos ∨ ∃ r ∈ rs, repoKey r = some name := by
  induction rs generalizing repos with
  | nil => simp
  | cons r rs ih => rw [List.foldl_cons, ih, mem_addRepo, List.exists_mem_cons_iff, or_assoc]

lemma getElem?_foldl_addRepo (h : (rs.foldl (addRepo inst now) repos)[name]? = some e) :
    repos[name]? = some e ∨
      ((∃ r ∈ rs, repoKey r = some name) ∧ e.installationId = inst.id) := by
  induction rs generalizing repos with
  | nil => exact Or.inl h
  | cons r rs ih =>
    rw [List.foldl_cons] at h
    rcases ih h with h | ⟨⟨r', hr', hkey⟩, hid⟩
    · rcases getElem?_addRepo h with h | ⟨hkey, hid⟩
      · exact Or.inl h
      · exact Or.inr ⟨⟨r, List.mem_cons_self, hkey⟩, hid⟩
    · exact Or.inr ⟨⟨r', List.mem_cons_of_mem _ hr', hkey⟩, hid⟩

end Mapping

/-! ## The walk over the installations -/

section Walk

variable {api : GithubApi} {jwt : String} {now : ℕ} {infos : List InstallationInfo}
  {next result : RepoAccessCache} {name : String}

/-- The repositories of an installation were read, and the name is one of theirs. -/
def Reads (api : GithubApi) (jwt : String) (info : InstallationInfo) (name : String) : Prop :=
  ∃ token repos, createInstallationToken api jwt info.id = .ok token ∧
    listInstallationRepositories api token = .ok repos ∧ ∃ r ∈ repos, repoKey r = some name

/-- What a walk over the installations has mapped, when it goes through. -/
structure WalkMaps (api : GithubApi) (jwt : String) (infos : List InstallationInfo)
    (next result : RepoAccessCache) : Prop where
  answered : ∀ info ∈ infos, ∃ token repos, createInstallationToken api jwt info.id = .ok token ∧
    listInstallationRepositories api token = .ok repos
  mem : ∀ name, name ∈ result.repos ↔ name ∈ next.repos ∨ ∃ info ∈ infos, Reads api jwt info name
  get : ∀ name e, result.repos[name]? = some e → next.repos[name]? = some e ∨
    ∃ info ∈ infos, Reads api jwt info name ∧ e.installationId = info.id

lemma walkMaps_of_walk (h : walkInstallations api jwt now infos next = .ok result) :
    WalkMaps api jwt infos next result := by
  induction infos generalizing next with
  | nil =>
    cases h
    exact ⟨by simp, by simp, fun name e h => Or.inl h⟩
  | cons info infos ih =>
    rw [walkInstallations] at h
    cases htoken : createInstallationToken api jwt info.id with
    | error e =>
      rw [htoken] at h
      cases h
    | ok token =>
      cases hlist : listInstallationRepositories api token with
      | error e =>
        simp only [htoken, hlist] at h
        cases h
      | ok repos =>
        simp only [htoken, hlist] at h
        have hrest := ih h
        have hreads (name : String) :
            Reads api jwt info name ↔ ∃ r ∈ repos, repoKey r = some name := by
          constructor
          · rintro ⟨token', repos', htoken', hlist', hr⟩
            rw [htoken] at htoken'
            cases htoken'
            rw [hlist] at hlist'
            cases hlist'
            exact hr
          · exact fun hr => ⟨token, repos, htoken, hlist, hr⟩
        refine ⟨?_, fun name => ?_, fun name e he => ?_⟩
        · exact List.forall_mem_cons.2 ⟨⟨token, repos, htoken, hlist⟩, hrest.answered⟩
        · rw [hrest.mem, List.exists_mem_cons_iff, hreads, ← or_assoc]
          exact or_congr_left mem_foldl_addRepo
        · rcases hrest.get name e he with he | ⟨info', hinfo', hread, hid⟩
          · rcases getElem?_foldl_addRepo he with he | ⟨hr, hid⟩
            · exact Or.inl he
            · exact Or.inr ⟨info, List.mem_cons_self, (hreads name).2 hr, hid⟩
          · exact Or.inr ⟨info', List.mem_cons_of_mem _ hinfo', hread, hid⟩

end Walk

/-! ## What a refresh leaves -/

section Refresh

variable {api : GithubApi} {app : List Installation} {jwt : String} {name : String}

/-- The repositories that were read from an installation are its first five thousand. -/
lemma exists_repoKey_iff (hserves : api.Serves app) {inst : Installation} (hinst : inst ∈ app)
    {token : String} {repos : List InstallationRepo}
    (htoken : createInstallationToken api jwt inst.row.id = .ok token)
    (hlist : listInstallationRepositories api token = .ok repos) :
    (∃ r ∈ repos, repoKey r = some name) ↔
      ∃ row ∈ inst.repositories.take 5000, repositoryName row = some name := by
  have hrepos := walkPages_of_pages
    (fun page answer h => hserves.repositories inst hinst htoken h) (Nat.le_refl 1) (by decide) hlist
  have hpages : repos = (inst.repositories.take 5000).filterMap (installationRepo api.jsonText) := by
    simpa using hrepos
  rw [hpages]
  constructor
  · rintro ⟨r, hr, hkey⟩
    obtain ⟨row, hrow, hrepo⟩ := List.mem_filterMap.1 hr
    refine ⟨row, hrow, ?_⟩
    rw [← installationRepo_bind_repoKey api.jsonText, hrepo, Option.bind_some, hkey]
  · rintro ⟨row, hrow, hname⟩
    rw [← installationRepo_bind_repoKey api.jsonText] at hname
    obtain ⟨r, hrepo, hkey⟩ := Option.bind_eq_some_iff.1 hname
    exact ⟨r, List.mem_filterMap.2 ⟨row, hrow, hrepo⟩, hkey⟩

/-- The installations that are walked are the first thirty. -/
lemma listInstallations_eq (hserves : api.Serves app) {infos : List InstallationInfo}
    (h : listInstallations api jwt = .ok infos) :
    infos.map InstallationInfo.id = (app.take 30).map fun inst => inst.row.id := by
  unfold listInstallations at h
  cases hrows : readResponse "list installations" (api.installations jwt) with
  | error e =>
    rw [hrows] at h
    cases h
  | ok rows =>
    rw [hrows] at h
    rw [← Except.ok.inj h, hserves.installations hrows, List.map_map, List.map_map]
    rfl

/-- A name is read from the installations exactly when it is among the first five thousand
repositories of one of the first thirty. -/
lemma exists_reads_iff (hserves : api.Serves app) {infos : List InstallationInfo}
    (hinfos : listInstallations api jwt = .ok infos)
    (hanswered : ∀ info ∈ infos, ∃ token repos,
      createInstallationToken api jwt info.id = .ok token ∧
        listInstallationRepositories api token = .ok repos) {id : ℕ} :
    (∃ info ∈ infos, info.id = id ∧ Reads api jwt info name) ↔
      ∃ inst ∈ app.take 30, inst.row.id = id ∧
        ∃ row ∈ inst.repositories.take 5000, repositoryName row = some name := by
  have hids := listInstallations_eq hserves hinfos
  constructor
  · rintro ⟨info, hinfo, rfl, token, repos, htoken, hlist, hr⟩
    have hmem : info.id ∈ (app.take 30).map fun inst => inst.row.id :=
      hids ▸ List.mem_map_of_mem hinfo
    obtain ⟨inst, hinst, hid⟩ := List.mem_map.1 hmem
    rw [← hid] at htoken
    exact ⟨inst, hinst, hid,
      (exists_repoKey_iff hserves (List.mem_of_mem_take hinst) htoken hlist).1 hr⟩
  · rintro ⟨inst, hinst, rfl, hrow⟩
    have hmem : inst.row.id ∈ infos.map InstallationInfo.id :=
      hids ▸ List.mem_map_of_mem (f := fun inst => inst.row.id) hinst
    obtain ⟨info, hinfo, hid⟩ := List.mem_map.1 hmem
    obtain ⟨token, repos, htoken, hlist⟩ := hanswered info hinfo
    refine ⟨info, hinfo, hid, token, repos, htoken, hlist, ?_⟩
    rw [hid] at htoken
    exact (exists_repoKey_iff hserves (List.mem_of_mem_take hinst) htoken hlist).2 hrow

/-- What a refresh maps, when it goes through. -/
structure Maps (app : List Installation) (repos : ExtTreeMap String RepoAccessEntry) : Prop where
  mem : ∀ name, name ∈ repos ↔ ∃ inst ∈ app.take 30, ∃ row ∈ inst.repositories.take 5000,
    repositoryName row = some name
  get : ∀ name e, repos[name]? = some e → ∃ inst ∈ app.take 30, inst.row.id = e.installationId ∧
    ∃ row ∈ inst.repositories.take 5000, repositoryName row = some name

lemma maps_of_ok (hserves : api.Serves app) {b : GitHubAppBundle} (hb : b.isComplete = true)
    {now : ℕ} {cache next : RepoAccessCache}
    (h : (refreshRepoAccessCache api (some b) now cache).2 = .ok next) :
    Maps app (refreshRepoAccessCache api (some b) now cache).1.repos := by
  simp only [refreshRepoAccessCache, hb, Bool.not_true, Bool.false_eq_true, if_false] at h ⊢
  cases hjwt : makeAppJwt api b now with
  | error e => simp [hjwt] at h
  | ok jwt =>
    cases hinfos : listInstallations api jwt with
    | error e => simp [hjwt, hinfos] at h
    | ok infos =>
      cases hwalk : walkInstallations api jwt now infos ⟨some now, none, [], ∅⟩ with
      | error e => simp [hjwt, hinfos, hwalk] at h
      | ok result =>
        simp only [hinfos, hwalk]
        have hmaps := walkMaps_of_walk hwalk
        have hempty : ∀ name, name ∉ (∅ : ExtTreeMap String RepoAccessEntry) := by simp
        refine ⟨fun name => ?_, fun name e he => ?_⟩
        · rw [hmaps.mem, or_iff_right (hempty name)]
          constructor
          · rintro ⟨info, hinfo, hread⟩
            obtain ⟨inst, hinst, -, hrow⟩ :=
              (exists_reads_iff hserves hinfos hmaps.answered).1 ⟨info, hinfo, rfl, hread⟩
            exact ⟨inst, hinst, hrow⟩
          · rintro ⟨inst, hinst, hrow⟩
            obtain ⟨info, hinfo, -, hread⟩ :=
              (exists_reads_iff hserves hinfos hmaps.answered).2 ⟨inst, hinst, rfl, hrow⟩
            exact ⟨info, hinfo, hread⟩
        · rcases hmaps.get name e he with he | ⟨info, hinfo, hread, hid⟩
          · simp at he
          · rw [hid]
            exact (exists_reads_iff hserves hinfos hmaps.answered).1 ⟨info, hinfo, rfl, hread⟩

/-- A mapping is complete exactly when no repository is behind the caps. -/
lemma Maps.isComplete_iff {repos : ExtTreeMap String RepoAccessEntry} (h : Maps app repos) :
    IsComplete app repos ↔ WithinCaps app := by
  constructor
  · intro hcomplete inst hinst name hsees
    exact (h.mem name).1 (hcomplete.mapped inst hinst name hsees)
  · intro hcaps
    refine ⟨fun inst hinst name hsees => (h.mem name).2 (hcaps inst hinst name hsees),
      fun name e he => ?_⟩
    obtain ⟨inst, hinst, hid, row, hrow, hname⟩ := h.get name e he
    exact ⟨inst, List.mem_of_mem_take hinst, hid, row, List.mem_of_mem_take hrow, hname⟩

lemma repos_of_error {bundle : Option GitHubAppBundle} {now : ℕ} {cache : RepoAccessCache}
    {e : AppError} (h : (refreshRepoAccessCache api bundle now cache).2 = .error e) :
    (refreshRepoAccessCache api bundle now cache).1.repos = cache.repos := by
  unfold refreshRepoAccessCache at h ⊢
  split at h
  · rfl
  · rename_i b
    split at h
    · rename_i hb
      rw [if_pos hb]
    · rename_i hb
      rw [if_neg hb]
      cases hjwt : makeAppJwt api b now with
      | error e => rfl
      | ok jwt =>
        cases hinfos : listInstallations api jwt with
        | error e => simp only [hinfos]
        | ok infos =>
          cases hwalk : walkInstallations api jwt now infos ⟨some now, none, [], ∅⟩ with
          | error note => simp only [hinfos, hwalk]
          | ok result =>
            simp only [hjwt, hinfos, hwalk] at h
            cases h

/-- A refresh of a complete App that returns leaves a complete mapping exactly when every
repository is among the first five thousand of one of the first thirty installations; one that
fails keeps the mapping; and the loop over the pages ends after at most fifty requests, whatever
is answered. -/
theorem refresh_spec (hserves : api.Serves app) (bundle : Option GitHubAppBundle) (now : ℕ)
    (cache : RepoAccessCache) :
    (∀ b next, bundle = some b → b.isComplete = true →
        (refreshRepoAccessCache api bundle now cache).2 = .ok next →
          (IsComplete app (refreshRepoAccessCache api bundle now cache).1.repos ↔
            WithinCaps app)) ∧
      (∀ e, (refreshRepoAccessCache api bundle now cache).2 = .error e →
        (refreshRepoAccessCache api bundle now cache).1.repos = cache.repos) ∧
      ∀ (jsonText : Json → String) (get : ℕ → Except AppError (List Json)),
        (PageLoop.step jsonText get)^[50] (.reading 1 []) = .done (walkPages jsonText get 1 []) := by
  refine ⟨?_, fun e he => repos_of_error he, fun jsonText get => ?_⟩
  · rintro b next rfl hb hok
    exact (maps_of_ok hserves hb hok).isComplete_iff
  · exact iterate_step 50 1 rfl (by decide) []

end Refresh

/-! ## A small App and a larger one -/

/-- The row of a repository. -/
def sampleRow : Json := .object [("full_name", .string "acme/app")]

/-- So many installations without a repository, and one that can see a repository. -/
def sampleApp (n : ℕ) : List Installation :=
  (List.range (n + 1)).map fun i => ⟨⟨i, none⟩, if i = n then [sampleRow] else []⟩

/-- GitHub answers every request about the App. -/
def sampleApi (n : ℕ) : GithubApi where
  sign _ _ := .ok "jwt"
  installations _ := .ok ⟨true, "200 OK", "", .ok (((sampleApp n).take 30).map (·.row))⟩
  accessTokens _ id := .ok ⟨true, "201 Created", "",
    .ok ⟨if id = n then "last" else "other", .ok 0⟩⟩
  repositories token page := .ok ⟨true, "200 OK", "",
    .ok (((if token = "last" then [sampleRow] else []).drop ((page - 1) * 100)).take 100)⟩
  jsonText _ := ""

lemma createInstallationToken_sampleApi (n : ℕ) (jwt : String) (id : ℕ) :
    createInstallationToken (sampleApi n) jwt id = .ok (if id = n then "last" else "other") := by
  have hlast : isBlank "last" = false := by decide
  have hother : isBlank "other" = false := by decide
  by_cases hid : id = n
  · simp [createInstallationToken, readResponse, sampleApi, hid, hlast, bind, Except.bind, pure,
      Except.pure]
  · simp [createInstallationToken, readResponse, sampleApi, hid, hother, bind, Except.bind, pure,
      Except.pure]

lemma serves_sampleApi (n : ℕ) : (sampleApi n).Serves (sampleApp n) where
  installations h := (Except.ok.inj h).symm
  repositories inst hinst := by
    intro jwt token htoken page rows hrows
    rw [createInstallationToken_sampleApi, Except.ok.injEq] at htoken
    obtain ⟨i, -, rfl⟩ := List.mem_map.1 hinst
    rw [← Except.ok.inj hrows, ← htoken]
    by_cases hi : i = n
    · simp [hi]
    · simp [hi]

lemma listInstallationRepositories_sampleApi (n : ℕ) (token : String) :
    ∃ repos, listInstallationRepositories (sampleApi n) token = .ok repos := by
  unfold listInstallationRepositories
  rw [walkPages]
  by_cases htoken : token = "last"
  · simp [repositoryPage, readResponse, sampleApi, htoken]
  · simp [repositoryPage, readResponse, sampleApi, htoken]

lemma walkInstallations_sampleApi (n : ℕ) (jwt : String) (now : ℕ) (infos : List InstallationInfo)
    (next : RepoAccessCache) :
    ∃ result, walkInstallations (sampleApi n) jwt now infos next = .ok result := by
  induction infos generalizing next with
  | nil => exact ⟨next, rfl⟩
  | cons info infos ih =>
    obtain ⟨repos, hrepos⟩ := listInstallationRepositories_sampleApi n
      (if info.id = n then "last" else "other")
    rw [walkInstallations, createInstallationToken_sampleApi]
    dsimp only
    rw [hrepos]
    exact ih _

/-- An App that is complete. -/
def sampleBundle : GitHubAppBundle := ⟨"1", "pem", "", "", ""⟩

def emptyCache : RepoAccessCache := ⟨none, none, [], ∅⟩

lemma refresh_sampleApi (n : ℕ) : ∃ next,
    (refreshRepoAccessCache (sampleApi n) (some sampleBundle) 0 emptyCache).2 = .ok next := by
  have hbundle : sampleBundle.isComplete = true := by decide
  have hjwt : makeAppJwt (sampleApi n) sampleBundle 0 = .ok "jwt" := rfl
  obtain ⟨result, hresult⟩ := walkInstallations_sampleApi n "jwt" 0
    (((sampleApp n).take 30).map (·.row) |>.map fun r =>
      ⟨r.id, (r.account.map Prod.fst).getD "", (r.account.bind Prod.snd).getD ""⟩)
    ⟨some 0, none, [], ∅⟩
  refine ⟨result, ?_⟩
  simp only [refreshRepoAccessCache, hbundle, hjwt, Bool.not_true, Bool.false_eq_true, if_false]
  change (match walkInstallations _ _ _ _ _ with
    | .error (note, e) => _
    | .ok next => _ : RepoAccessCache × Except AppError RepoAccessCache).2 = _
  rw [hresult]

lemma id_of_mem_sampleApp {n : ℕ} {inst : Installation} (hinst : inst ∈ sampleApp n) {row : Json}
    (hrow : row ∈ inst.repositories) : inst.row.id = n := by
  obtain ⟨i, -, rfl⟩ := List.mem_map.1 hinst
  by_contra hne
  simp [show i ≠ n from hne] at hrow

lemma length_repositories_sampleApp {n : ℕ} {inst : Installation} (hinst : inst ∈ sampleApp n) :
    inst.repositories.length ≤ 1 := by
  obtain ⟨i, -, rfl⟩ := List.mem_map.1 hinst
  dsimp only
  split
  · exact Nat.le_refl 1
  · exact Nat.zero_le 1

/-- The mapping of a small App is complete. -/
theorem refresh_complete_small :
    IsComplete (sampleApp 0)
      (refreshRepoAccessCache (sampleApi 0) (some sampleBundle) 0 emptyCache).1.repos := by
  obtain ⟨next, hnext⟩ := refresh_sampleApi 0
  refine ((refresh_spec (serves_sampleApi 0) (some sampleBundle) 0 emptyCache).1 sampleBundle next
    rfl (by decide) hnext).2 fun inst hinst name hsees => ?_
  obtain ⟨row, hrow, hname⟩ := hsees
  refine ⟨inst, ?_, row, ?_, hname⟩
  · rwa [List.take_of_length_le (by simp [sampleApp])]
  · rwa [List.take_of_length_le (Nat.le_trans (length_repositories_sampleApp hinst) (by decide))]

/-- A repository that only the thirty-first installation can see is missing. -/
theorem not_refresh_complete_large :
    (∃ next, (refreshRepoAccessCache (sampleApi 30) (some sampleBundle) 0 emptyCache).2 =
        .ok next) ∧
      ¬IsComplete (sampleApp 30)
        (refreshRepoAccessCache (sampleApi 30) (some sampleBundle) 0 emptyCache).1.repos := by
  refine ⟨refresh_sampleApi 30, ?_⟩
  obtain ⟨next, hnext⟩ := refresh_sampleApi 30
  rw [(maps_of_ok (serves_sampleApi 30) (by decide) hnext).isComplete_iff]
  intro hcaps
  have hlast : (⟨⟨30, none⟩, [sampleRow]⟩ : Installation) ∈ sampleApp 30 :=
    List.mem_map.2 ⟨30, by simp, by simp⟩
  obtain ⟨inst, hinst, row, hrow, -⟩ :=
    hcaps _ hlast "acme/app" ⟨sampleRow, List.mem_singleton_self _, by decide⟩
  have hid := id_of_mem_sampleApp (List.mem_of_mem_take hinst) (List.mem_of_mem_take hrow)
  have hfirst : (sampleApp 30).take 30 =
      (List.range 30).map fun i => ⟨⟨i, none⟩, if i = 30 then [sampleRow] else []⟩ := by
    unfold sampleApp
    rw [← List.map_take, List.take_range]
    rfl
  rw [hfirst] at hinst
  obtain ⟨i, hi, rfl⟩ := List.mem_map.1 hinst
  exact absurd (List.mem_range.1 hi) (by rw [show i = 30 from hid]; decide)

end Sandboard

import Sandboard.Text

/-!
# The level schema and clone prose

Project and Task are the only rungs.  The schema names them and carries the default remotes
of a run; the clone target of a Project travels in its prose.
-/

namespace Sandboard

open Text

/-- A declared rung of the tree. -/
structure Level where
  name : String
  claimable : Bool
  deriving DecidableEq

/-- Resolved remotes for one card run. -/
structure RepoConfig where
  /-- `owner/name` that pull requests target. -/
  upstream : String
  /-- Distinct push remote; empty for the same repository. -/
  fork : String
  base : String
  deriving DecidableEq

namespace RepoConfig

/-- Default an empty base to `main`, and trim the owner/name fields. -/
def normalized (r : RepoConfig) : RepoConfig where
  upstream := trim r.upstream
  fork := trim r.fork
  base := if isBlank r.base then "main" else r.base

end RepoConfig

/-- The parts of the schema file that the board reads: the levels, and the default remotes
of `execution.agents.repo`. -/
structure Schema where
  levels : List Level
  repo : RepoConfig

namespace Schema

/-- The first container rung, else the first rung. -/
def projectLevel (schema : Schema) : Option Level :=
  (schema.levels.find? fun l => !l.claimable).or schema.levels.head?

/-- The first claimable rung, else the last rung. -/
def taskLevel (schema : Schema) : Option Level :=
  (schema.levels.find? fun l => l.claimable).or schema.levels.getLast?

/-- `Schema::default()`: Project and Task, and no default remotes. -/
def default : Schema where
  levels := [⟨"Project", false⟩, ⟨"Task", true⟩]
  repo := ⟨"", "", "main"⟩

end Schema

/-- A character of an owner or a repository name. -/
def isNameChar (c : Char) : Bool :=
  isAsciiAlphanumeric c || c == '-' || c == '_' || c == '.'

/-- Validate a GitHub-style `owner/name`: no URL, and a trailing `.git` is dropped. -/
def parseOwnerName [UnicodeTables] (raw : String) : Except String String :=
  let s := trim raw
  if s.isEmpty then .error "clone_repo is required (`owner/name`)"
  else if contains "://" s || startsWith "git@" s then
    .error s!"clone_repo must be `owner/name`, not a URL ({s})"
  else
    let s := (stripSuffix ".git" s).getD s
    match split (· == '/') s with
    | [owner, name] =>
      if owner.isEmpty || name.isEmpty || !owner.toList.all isNameChar ||
          !name.toList.all isNameChar then
        .error s!"clone_repo must be a valid `owner/name` (got {UnicodeTables.debug s})"
      else .ok s!"{owner}/{name}"
    | _ => .error s!"clone_repo must be exactly `owner/name` (got {UnicodeTables.debug s})"

/-- The standing line stamped into Project intent and Initial plan prose. -/
def cloneRepoProseLine (ownerName : String) : String :=
  s!"Clone repository: {ownerName} into /sandbox/repo for planning and as the default Task " ++
    "clone target."

/-- The clone target stamped on one line of prose. -/
def cloneRepoOfLine [UnicodeTables] (line : String) : Option String := do
  let t := trim line
  let rest ← (stripPrefix "Clone repository:" t).or (stripPrefix "clone repository:" t)
  let token ← (splitWhitespace rest).head?
  (parseOwnerName token).toOption

/-- Pull `owner/name` out of stamped prose. -/
def cloneRepoFromProse [UnicodeTables] (text : String) : Option String :=
  (lines text).findSome? cloneRepoOfLine

end Sandboard

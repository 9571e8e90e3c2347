import Mathlib.Data.Nat.Basic
import Mathlib.Tactic.Common
import Sandboard.Library.Run
import Sandboard.Search

/-!
# The bootstrap of the operator

A bootstrap request looks whether an operator exists, hashes the password, seals the credentials
under the master key of the host, and stores them.  The look and the store take the lock of the
board one after the other, with the hash and the files in between, so that any number of requests
may pass the look before the first one stores.  At most one of them succeeds, and the stored
credentials are its own, when each request that comes to store still finds no operator.
-/

namespace Sandboard

open Text

namespace Auth

/-! ## The host -/

/-- Local admin credentials and the key of the session cookies. -/
structure AuthBundle where
  adminUsername : String
  passwordHash : String
  sessionKeyB64 : String
  deriving DecidableEq

/-- `AuthBundle::is_configured`. -/
def AuthBundle.isConfigured (b : AuthBundle) : Bool :=
  !isBlank b.adminUsername && !isBlank b.passwordHash

/-- A master key is 32 bytes. -/
structure MasterKey where
  raw : List UInt8
  length : raw.length = 32
  deriving DecidableEq

/-- What the bootstrap rests on outside the program. -/
class OperatorCrates where
  /-- Argon2id with a salt: the PHC text. -/
  hashPassword : String → String → Except String String
  /-- The JSON of a bundle under a key and a nonce, as the base64 text of a sealed blob. -/
  encrypt : MasterKey → List UInt8 → AuthBundle → Except String String
  decrypt : MasterKey → String → Option AuthBundle
  /-- Base64 of the bytes of a session key, and back. -/
  encodeKey : List UInt8 → String
  decodeKey : String → Except String (List UInt8)
  /-- The signed cookie of an admin session, at a time. -/
  encodeSession : List UInt8 → String → ℕ → Except String String

/-- What the requests share: the sealed credentials on the board, and the master key of the
host. -/
structure Host where
  authSealed : Option String
  /-- What `SANDBOARD_MASTER_KEY` parses to, when it is set. -/
  envKey : Option (Except String MasterKey)
  keyPath : String
  /-- The bytes of the key file, when it is there. -/
  keyFile : Option (List UInt8)

namespace Host

/-- A key file of the right length. -/
def fileKey (h : Host) : Option MasterKey :=
  h.keyFile.bind fun raw => if hlength : raw.length = 32 then some ⟨raw, hlength⟩ else none

/-- The master key, when there is one. -/
def masterKey (h : Host) : Option MasterKey :=
  match h.envKey with
  | some key => key.toOption
  | none => h.fileKey

/-- `Board::set_auth_sealed`. -/
def setAuthSealed (h : Host) (blob : Option String) : Host :=
  { h with authSealed := (blob.map trim).filter fun s => !s.isEmpty }

/-- `Board::auth_bundle`: the credentials of the operator, when there is one.  A blob that is
stored was sealed under a key, which is there to open it. -/
def authBundle [OperatorCrates] (h : Host) : Option AuthBundle := do
  let blob ← (h.authSealed.map trim).filter fun s => !s.isEmpty
  let key ← h.masterKey
  (OperatorCrates.decrypt key blob).filter AuthBundle.isConfigured

end Host

/-! ## Requests -/

/-- A bootstrap request, with the random bytes that its handler draws. -/
structure Request where
  username : String
  password : String
  salt : String
  sessionKey : List UInt8
  nonce : List UInt8
  /-- The master key that it makes when there is none. -/
  freshKey : MasterKey
  now : ℕ

section Crates

variable [OperatorCrates]

/-- The credentials that the request makes of a password hash. -/
def Request.bundle (r : Request) (passwordHash : String) : AuthBundle where
  adminUsername := trim r.username
  passwordHash := passwordHash
  sessionKeyB64 := OperatorCrates.encodeKey r.sessionKey

/-- The credentials of the request. -/
def Request.credentials (r : Request) : Option AuthBundle :=
  (OperatorCrates.hashPassword r.salt r.password).toOption.map r.bundle

/-- `AuthBundle::session_key_bytes`. -/
def AuthBundle.sessionKeyBytes (b : AuthBundle) : Except String (List UInt8) :=
  if (trim b.sessionKeyB64).isEmpty then .error "decrypt: session_key: empty"
  else (OperatorCrates.decodeKey (trim b.sessionKeyB64)).mapError fun e =>
    s!"decrypt: session_key base64: {e}"

/-- What is documented of the crates, for what a request draws: a sealed blob opens to what was
sealed, base64 has no blank and reads back what it writes, and HMAC takes every key. -/
structure Request.Documented (r : Request) : Prop where
  decrypt_encrypt : ∀ (key : MasterKey) (b : AuthBundle) (blob : String),
    OperatorCrates.encrypt key r.nonce b = .ok blob → OperatorCrates.decrypt key blob = some b
  trim_encrypt : ∀ (key : MasterKey) (b : AuthBundle) (blob : String),
    OperatorCrates.encrypt key r.nonce b = .ok blob → trim blob = blob ∧ blob.isEmpty = false
  isEmpty_encodeKey : (trim (OperatorCrates.encodeKey r.sessionKey)).isEmpty = false
  decodeKey_encodeKey :
    OperatorCrates.decodeKey (trim (OperatorCrates.encodeKey r.sessionKey)) = .ok r.sessionKey
  encodeSession_ok : ∀ login : String,
    ∃ token, OperatorCrates.encodeSession r.sessionKey login r.now = .ok token

end Crates

/-- The status and the text of an error response. -/
abbrev Refusal : Type := ℕ × String

/-- The cookie and the login of a successful bootstrap. -/
structure Session where
  token : String
  login : String
  deriving DecidableEq

/-- Where the handler of a request stands. -/
inductive Stage where
  /-- It looks whether an operator exists. -/
  | checks
  | hashes
  /-- It looks for the master key. -/
  | loads (bundle : AuthBundle)
  /-- It makes the key file, which was not there. -/
  | creates (bundle : AuthBundle)
  /-- It writes the new key into the file that it made. -/
  | fills (bundle : AuthBundle)
  /-- It stores the sealed credentials. -/
  | stores (bundle : AuthBundle) (blob : String)
  /-- It makes the session of the new operator. -/
  | signs (bundle : AuthBundle)
  | answered (r : Except Refusal Session)

section Crates

variable [OperatorCrates]

/-- Seal the credentials under a key. -/
def Request.sealUnder (r : Request) (key : MasterKey) (bundle : AuthBundle) : Stage :=
  match OperatorCrates.encrypt key r.nonce bundle with
  | .error e => .answered (.error (500, s!"seal auth: encrypt: {e}"))
  | .ok blob => .stores bundle blob

/-- The next section of the handler. -/
def Request.advance (r : Request) (h : Host) : Stage → Host × Stage
  | .checks =>
    if h.authBundle.isSome then (h, .answered (.error (409, "already bootstrapped")))
    else if (trim r.username).isEmpty || r.password.utf8ByteSize < 8 then
      (h, .answered (.error (400,
        "username required; password must be at least 8 characters")))
    else (h, .hashes)
  | .hashes =>
    match OperatorCrates.hashPassword r.salt r.password with
    | .error e => (h, .answered (.error (500, e)))
    | .ok passwordHash =>
      if !(r.bundle passwordHash).isConfigured then
        (h, .answered (.error (500,
          "seal auth: encrypt: auth: admin_username and password_hash required")))
      else if isBlank (r.bundle passwordHash).sessionKeyB64 then
        (h, .answered (.error (500, "seal auth: encrypt: auth: session_key required")))
      else (h, .loads (r.bundle passwordHash))
  | .loads bundle =>
    match h.envKey with
    | some (.error e) => (h, .answered (.error (500, s!"seal auth: master key: {e}")))
    | some (.ok key) => (h, r.sealUnder key bundle)
    | none =>
      match h.keyFile with
      | none => (h, .creates bundle)
      | some raw =>
        if hlength : raw.length = 32 then (h, r.sealUnder ⟨raw, hlength⟩ bundle)
        else (h, .answered (.error (500,
          s!"seal auth: master key: {h.keyPath}: expected 32 bytes, got {raw.length}")))
  | .creates bundle =>
    match h.keyFile with
    | some _ => (h, .answered (.error (500, "seal auth: io: File exists (os error 17)")))
    | none => ({ h with keyFile := some [] }, .fills bundle)
  | .fills bundle => ({ h with keyFile := some r.freshKey.raw }, r.sealUnder r.freshKey bundle)
  | .stores bundle blob => (h.setAuthSealed (some blob), .signs bundle)
  | .signs bundle =>
    match bundle.sessionKeyBytes with
    | .error e => (h, .answered (.error (500, e)))
    | .ok key =>
      match OperatorCrates.encodeSession key (trim r.username) r.now with
      | .error e => (h, .answered (.error (500, e)))
      | .ok token => (h, .answered (.ok ⟨token, trim r.username⟩))
  | .answered reply => (h, .answered reply)

end Crates

/-! ## Requests at the same time -/

/-- A request that has arrived. -/
structure Attempt where
  request : Request
  stage : Stage

/-- The request succeeded. -/
def Attempt.succeeded (a : Attempt) : Bool :=
  match a.stage with
  | .answered (.ok _) => true
  | _ => false

/-- A failure of the files ends the request, when it is at them. -/
def Attempt.broken (a : Attempt) (e : String) : Attempt :=
  match a.stage with
  | .loads _ | .creates _ | .fills _ =>
    { a with stage := .answered (.error (500, s!"seal auth: io: {e}")) }
  | _ => a

/-- The host with the requests that have arrived. -/
structure Bootstraps where
  host : Host
  attempts : List Attempt

namespace Bootstraps

/-- A request arrives, a handler takes its next section, or the files of the key fail it. -/
inductive Event where
  | arrives (r : Request)
  | advances (n : ℕ)
  | breaks (n : ℕ) (e : String)

/-- A host without an operator. -/
def new (envKey : Option (Except String MasterKey)) (keyPath : String)
    (keyFile : Option (List UInt8)) : Bootstraps where
  host := ⟨none, envKey, keyPath, keyFile⟩
  attempts := []

variable [OperatorCrates]

/-- One event. -/
def step (t : Bootstraps) : Event → Bootstraps
  | .arrives r => { t with attempts := t.attempts ++ [⟨r, .checks⟩] }
  | .advances n =>
    match t.attempts[n]? with
    | none => t
    | some a =>
      let (host, stage) := a.request.advance t.host a.stage
      { host := host, attempts := t.attempts.set n { a with stage := stage } }
  | .breaks n e =>
    match t.attempts[n]? with
    | none => t
    | some a => { t with attempts := t.attempts.set n (a.broken e) }

/-- At most one request succeeded, the stored credentials are its own, and once all requests are
answered an operator is stored only when one succeeded. -/
structure SingleBootstrap (t : Bootstraps) : Prop where
  once : t.attempts.countP Attempt.succeeded ≤ 1
  credentials : ∀ a ∈ t.attempts, a.succeeded = true →
    ∃ b, a.request.credentials = some b ∧ t.host.authBundle = some b
  nobody : (∀ a ∈ t.attempts, ∃ r, a.stage = .answered r) → t.host.authBundle.isSome = true →
    ∃ a ∈ t.attempts, a.succeeded = true

/-- A request that comes to store finds no operator. -/
def StoresFirst (t : Bootstraps) : Event → Prop
  | .advances n => ∀ a b blob, t.attempts[n]? = some a → a.stage = .stores b blob →
    t.host.authBundle = none
  | _ => True

end Bootstraps

/-! ## What one section does -/

section Crates

variable [OperatorCrates]

-- the sections are taken apart by their branches, never by computing the texts
attribute [local irreducible] trim isBlank

/-- The request stored its credentials. -/
def Stage.won : Stage → Bool
  | .signs _ | .answered (.ok _) => true
  | _ => false

/-- The request is about to write the key into the file that it made. -/
def Stage.isFills : Stage → Bool
  | .fills _ => true
  | _ => false

/-- The bundle is that of the request, and may be stored. -/
structure Request.Offers (r : Request) (b : AuthBundle) : Prop where
  credentials : r.credentials = some b
  configured : b.isConfigured = true

/-- The blob opens to the bundle, under the master key of the host. -/
structure Host.Opens (h : Host) (blob : String) (b : AuthBundle) : Prop where
  opens : ∃ key, h.masterKey = some key ∧ OperatorCrates.decrypt key blob = some b
  trimmed : trim blob = blob
  nonempty : blob.isEmpty = false

/-- What a request knows of its bundle and of the files in each stage. -/
def Stage.Fits (r : Request) (h : Host) : Stage → Prop
  | .checks | .hashes | .answered (.error _) => True
  | .loads b => r.Offers b
  | .creates b => r.Offers b ∧ h.envKey = none
  | .fills b => r.Offers b ∧ h.envKey = none ∧ h.keyFile = some []
  | .stores b blob => r.Offers b ∧ h.Opens blob b
  | .signs b => r.Offers b
  | .answered (.ok _) => ∃ b, r.Offers b

variable {r : Request} {h : Host} {stage : Stage} {b : AuthBundle}

/-- Credentials sealed under the master key may be stored. -/
lemma fits_sealUnder (hdoc : r.Documented) {key : MasterKey} (hkey : h.masterKey = some key)
    (hb : r.Offers b) : (r.sealUnder key b).Fits r h := by
  unfold Request.sealUnder
  cases hsealed : OperatorCrates.encrypt key r.nonce b with
  | error e => trivial
  | ok blob =>
    obtain ⟨htrim, hempty⟩ := hdoc.trim_encrypt key b blob hsealed
    exact ⟨hb, ⟨key, hkey, hdoc.decrypt_encrypt key b blob hsealed⟩, htrim, hempty⟩

lemma won_sealUnder (key : MasterKey) : (r.sealUnder key b).won = false := by
  unfold Request.sealUnder
  cases OperatorCrates.encrypt key r.nonce b <;> rfl

lemma isFills_sealUnder (key : MasterKey) : (r.sealUnder key b).isFills = false := by
  unfold Request.sealUnder
  cases OperatorCrates.encrypt key r.nonce b <;> rfl

omit [OperatorCrates] in
/-- The key that a request wrote is the master key. -/
lemma masterKey_filled (henv : h.envKey = none) (key : MasterKey) :
    { h with keyFile := some key.raw : Host }.masterKey = some key := by
  unfold Host.masterKey Host.fileKey
  rw [henv]
  simp only [Option.bind_some, dif_pos key.length]

/-- The session of credentials that were stored does not fail. -/
lemma advance_signs (hdoc : r.Documented) (hb : r.Offers b) :
    ∃ token, r.advance h (.signs b) = (h, .answered (.ok ⟨token, trim r.username⟩)) := by
  obtain ⟨token, htoken⟩ := hdoc.encodeSession_ok (trim r.username)
  refine ⟨token, ?_⟩
  have hkey : b.sessionKeyB64 = OperatorCrates.encodeKey r.sessionKey := by
    obtain ⟨hash, -, rfl⟩ := Option.map_eq_some_iff.1 hb.credentials
    rfl
  simp only [Request.advance, AuthBundle.sessionKeyBytes, hkey, hdoc.isEmpty_encodeKey,
    hdoc.decodeKey_encodeKey, Bool.false_eq_true, if_false, Except.mapError, htoken]

/-- The stage after a section fits the host after it. -/
lemma fits_advance (hdoc : r.Documented) (hfits : stage.Fits r h) :
    (r.advance h stage).2.Fits r (r.advance h stage).1 := by
  cases stage with
  | checks =>
    rw [Request.advance]
    by_cases hsome : h.authBundle.isSome = true
    · rw [if_pos hsome]
      trivial
    · rw [if_neg hsome]
      by_cases hshort : ((trim r.username).isEmpty || r.password.utf8ByteSize < 8) = true
      · rw [if_pos hshort]
        trivial
      · rw [if_neg hshort]
        trivial
  | hashes =>
    cases hhash : OperatorCrates.hashPassword r.salt r.password with
    | error e =>
      rw [Request.advance, hhash]
      trivial
    | ok hash =>
      have hcredentials : r.credentials = some (r.bundle hash) := by
        rw [Request.credentials, hhash]
        rfl
      rw [Request.advance, hhash]
      dsimp only
      by_cases hconfigured : (!(r.bundle hash).isConfigured) = true
      · rw [if_pos hconfigured]
        trivial
      · rw [if_neg hconfigured]
        have hoffers : r.Offers (r.bundle hash) := ⟨hcredentials, by simpa using hconfigured⟩
        by_cases hblank : isBlank (r.bundle hash).sessionKeyB64 = true
        · rw [if_pos hblank]
          trivial
        · rw [if_neg hblank]
          exact hoffers
  | loads b =>
    unfold Request.advance
    dsimp only
    cases henv : h.envKey with
    | some key =>
      cases key with
      | error e => trivial
      | ok key => exact fits_sealUnder hdoc (by rw [Host.masterKey, henv]; rfl) hfits
    | none =>
      dsimp only
      cases hfile : h.keyFile with
      | none => exact ⟨hfits, henv⟩
      | some raw =>
        dsimp only
        split
        · rename_i hlength
          refine fits_sealUnder hdoc ?_ hfits
          simp only [Host.masterKey, Host.fileKey, henv, hfile, Option.bind_some, dif_pos hlength]
        · trivial
  | creates b =>
    unfold Request.advance
    dsimp only
    cases h.keyFile with
    | some raw => trivial
    | none => exact ⟨hfits.1, hfits.2, rfl⟩
  | fills b =>
    rw [Request.advance]
    exact fits_sealUnder hdoc (masterKey_filled hfits.2.1 r.freshKey) hfits.1
  | stores b blob =>
    rw [Request.advance]
    exact hfits.1
  | signs b =>
    obtain ⟨token, htoken⟩ := advance_signs (h := h) hdoc hfits
    rw [htoken]
    exact ⟨b, hfits⟩
  | answered reply =>
    cases reply with
    | ok session => exact hfits
    | error e => trivial

omit [OperatorCrates] in
/-- Storing credentials leaves the keys alone. -/
lemma masterKey_setAuthSealed (blob : Option String) :
    (h.setAuthSealed blob).masterKey = h.masterKey := by
  simp only [Host.masterKey, Host.fileKey, Host.setAuthSealed]

/-- A section that leaves the host alone, makes no key file and stores nothing. -/
structure Request.Looks (r : Request) (h : Host) (stage : Stage) : Prop where
  host : (r.advance h stage).1 = h
  isFills : (r.advance h stage).2.isFills = false
  won : (r.advance h stage).2.won = true → stage.won = true

/-- All that a section can do to the host. -/
lemma advance_cases (r : Request) (h : Host) (stage : Stage) : r.Looks h stage ∨
    (∃ b, stage = .creates b ∧ h.keyFile = none ∧
      r.advance h stage = ({ h with keyFile := some [] }, .fills b)) ∨
    (∃ b, stage = .fills b ∧
      r.advance h stage = ({ h with keyFile := some r.freshKey.raw }, r.sealUnder r.freshKey b)) ∨
    ∃ b blob, stage = .stores b blob ∧
      r.advance h stage = (h.setAuthSealed (some blob), .signs b) := by
  -- a section that answers with an error leaves everything else alone
  have herror : ∀ e : Refusal, r.advance h stage = (h, .answered (.error e)) →
      r.Looks h stage := by
    intro e heq
    exact ⟨by rw [heq], by rw [heq]; rfl, by rw [heq]; exact fun hwon => by cases hwon⟩
  have hseals : ∀ key b, r.advance h stage = (h, r.sealUnder key b) → r.Looks h stage := by
    intro key b heq
    refine ⟨by rw [heq], by rw [heq]; exact isFills_sealUnder key, ?_⟩
    rw [heq, won_sealUnder]
    exact fun hwon => by cases hwon
  cases hstage : stage with
  | checks =>
    rw [← hstage]
    refine Or.inl ?_
    by_cases hsome : h.authBundle.isSome = true
    · exact herror _ (by rw [hstage, Request.advance, if_pos hsome])
    · by_cases hshort : ((trim r.username).isEmpty || r.password.utf8ByteSize < 8) = true
      · exact herror _ (by rw [hstage, Request.advance, if_neg hsome, if_pos hshort])
      · have heq : r.advance h stage = (h, .hashes) := by
          rw [hstage, Request.advance, if_neg hsome, if_neg hshort]
        exact ⟨by rw [heq], by rw [heq]; rfl, by rw [heq]; exact fun hwon => by cases hwon⟩
  | hashes =>
    rw [← hstage]
    refine Or.inl ?_
    cases hhash : OperatorCrates.hashPassword r.salt r.password with
    | error e => exact herror _ (by rw [hstage, Request.advance, hhash])
    | ok hash =>
      have heq : r.advance h stage = if !(r.bundle hash).isConfigured then
          (h, .answered (.error (500,
            "seal auth: encrypt: auth: admin_username and password_hash required")))
          else if isBlank (r.bundle hash).sessionKeyB64 then
            (h, .answered (.error (500, "seal auth: encrypt: auth: session_key required")))
          else (h, .loads (r.bundle hash)) := by
        rw [hstage, Request.advance, hhash]
      split at heq
      · exact herror _ heq
      · split at heq
        · exact herror _ heq
        · exact ⟨by rw [heq], by rw [heq]; rfl, by rw [heq]; exact fun hwon => by cases hwon⟩
  | loads b =>
    rw [← hstage]
    refine Or.inl ?_
    cases henv : h.envKey with
    | some key =>
      cases key with
      | error e => exact herror _ (by rw [hstage, Request.advance, henv])
      | ok key => exact hseals key b (by rw [hstage, Request.advance, henv])
    | none =>
      cases hfile : h.keyFile with
      | none =>
        have heq : r.advance h stage = (h, .creates b) := by
          simp only [hstage, Request.advance, henv, hfile]
        exact ⟨by rw [heq], by rw [heq]; rfl, by rw [heq]; exact fun hwon => by cases hwon⟩
      | some raw =>
        by_cases hlength : raw.length = 32
        · exact hseals ⟨raw, hlength⟩ b (by
            simp only [hstage, Request.advance, henv, hfile, dif_pos hlength])
        · exact herror _ (by simp only [hstage, Request.advance, henv, hfile, dif_neg hlength]; rfl)
  | creates b =>
    cases hfile : h.keyFile with
    | none => exact Or.inr (Or.inl ⟨b, rfl, rfl, by simp only [Request.advance, hfile]⟩)
    | some raw =>
      rw [← hstage]
      exact Or.inl (herror _ (by simp only [hstage, Request.advance, hfile]; rfl))
  | fills b => exact Or.inr (Or.inr (Or.inl ⟨b, rfl, by rw [Request.advance]⟩))
  | stores b blob => exact Or.inr (Or.inr (Or.inr ⟨b, blob, rfl, by rw [Request.advance]⟩))
  | signs b =>
    rw [← hstage]
    refine Or.inl ?_
    cases hkey : b.sessionKeyBytes with
    | error e => exact herror (500, e) (by simp only [hstage, Request.advance, hkey])
    | ok key =>
      cases htoken : OperatorCrates.encodeSession key (trim r.username) r.now with
      | error e => exact herror (500, e) (by simp only [hstage, Request.advance, hkey, htoken])
      | ok token =>
        have heq : r.advance h stage = (h, .answered (.ok ⟨token, trim r.username⟩)) := by
          simp only [hstage, Request.advance, hkey, htoken]
        exact ⟨by rw [heq], by rw [heq]; rfl, fun _ => by rw [hstage]; rfl⟩
  | answered reply => exact Or.inl ⟨rfl, rfl, fun hwon => hwon⟩

/-- What was stored stays. -/
lemma won_advance (hdoc : r.Documented) (hfits : stage.Fits r h) (hwon : stage.won = true) :
    (r.advance h stage).2.won = true := by
  cases stage with
  | signs b =>
    obtain ⟨token, htoken⟩ := advance_signs (h := h) hdoc hfits
    rw [htoken, Stage.won]
  | answered reply =>
    rw [Request.advance]
    exact hwon
  | checks | hashes | loads | creates | fills | stores => cases hwon

/-- A master key that is there stays. -/
lemma masterKey_advance (hfits : stage.Fits r h) {key : MasterKey}
    (hkey : h.masterKey = some key) : (r.advance h stage).1.masterKey = some key := by
  rcases advance_cases r h stage with
    hlooks | ⟨b, rfl, hfile, heq⟩ | ⟨b, rfl, heq⟩ | ⟨b, blob, -, heq⟩
  · rw [hlooks.host]
    exact hkey
  · rw [Host.masterKey, hfits.2, Host.fileKey, hfile] at hkey
    cases hkey
  · -- the file that the request made holds no key yet
    rw [Host.masterKey, hfits.2.1, Host.fileKey, hfits.2.2] at hkey
    cases hkey
  · rw [heq, masterKey_setAuthSealed]
    exact hkey

/-- A section of one request leaves what the others know. -/
lemma fits_of_advance (hfits : stage.Fits r h) {r' : Request} {stage' : Stage}
    (hfits' : stage'.Fits r' h) (hfills : stage.isFills = true → stage'.isFills = false) :
    stage'.Fits r' (r.advance h stage).1 := by
  have henv : (r.advance h stage).1.envKey = h.envKey := by
    rcases advance_cases r h stage with
      hlooks | ⟨b, -, -, heq⟩ | ⟨b, -, heq⟩ | ⟨b, blob, -, heq⟩
    · rw [hlooks.host]
    · rw [heq]
    · rw [heq]
    · rw [heq, Host.setAuthSealed]
  cases stage' with
  | checks | hashes => trivial
  | loads b | signs b => exact hfits'
  | creates b => exact ⟨hfits'.1, henv.trans hfits'.2⟩
  | fills b =>
    refine ⟨hfits'.1, henv.trans hfits'.2.1, ?_⟩
    rcases advance_cases r h stage with
      hlooks | ⟨b, -, hfile, -⟩ | ⟨b, rfl, -⟩ | ⟨b, blob, -, heq⟩
    · rw [hlooks.host]
      exact hfits'.2.2
    · rw [hfits'.2.2] at hfile
      cases hfile
    · cases hfills rfl
    · rw [heq, Host.setAuthSealed]
      exact hfits'.2.2
  | stores b blob =>
    obtain ⟨key, hkey, hopens⟩ := hfits'.2.opens
    exact ⟨hfits'.1, ⟨key, masterKey_advance hfits hkey, hopens⟩, hfits'.2.trimmed,
      hfits'.2.nonempty⟩
  | answered reply =>
    cases reply with
    | ok session => exact hfits'
    | error e => trivial

/-- Credentials that were sealed under the master key are those of the operator once stored. -/
lemma authBundle_setAuthSealed {blob : String} (hopens : h.Opens blob b)
    (hconfigured : b.isConfigured = true) :
    (h.setAuthSealed (some blob)).authBundle = some b := by
  obtain ⟨key, hkey, hdecrypt⟩ := hopens.opens
  have hkey' : (h.setAuthSealed (some blob)).masterKey = some key := by
    rw [masterKey_setAuthSealed, hkey]
  have hfilter : (some blob).filter (fun s => !s.isEmpty) = some blob := by
    rw [Option.filter_some, hopens.nonempty]
    rfl
  have hstored : (h.setAuthSealed (some blob)).authSealed = some blob := by
    rw [Host.setAuthSealed, Option.map_some, hopens.trimmed, hfilter]
  have hopened : (some b).filter AuthBundle.isConfigured = some b := by
    rw [Option.filter_some, if_pos hconfigured]
  rw [Host.authBundle, hstored, Option.map_some, hopens.trimmed, hfilter, hkey']
  change (OperatorCrates.decrypt key blob).filter AuthBundle.isConfigured = some b
  rw [hdecrypt, hopened]

/-- Only the sealed credentials and the master key matter for who the operator is. -/
lemma authBundle_of_masterKey {h' : Host} (hsealed : h'.authSealed = h.authSealed)
    (hkey : ∀ key, h.masterKey = some key → h'.masterKey = some key)
    (hb : h.authBundle = some b) : h'.authBundle = some b := by
  unfold Host.authBundle at hb ⊢
  rw [hsealed]
  cases hblob : (h.authSealed.map trim).filter fun s => !s.isEmpty with
  | none =>
    rw [hblob] at hb
    cases hb
  | some blob =>
    rw [hblob] at hb
    cases hold : h.masterKey with
    | none =>
      rw [hold] at hb
      cases hb
    | some key =>
      rw [hold] at hb
      rw [hkey key hold]
      exact hb

end Crates

/-! ## Runs -/

/-- Replacing an entry changes a count by what the two entries count for. -/
lemma countP_set_add {α : Type} {p : α → Bool} {l : List α} {n : ℕ} {a : α}
    (h : l[n]? = some a) (a' : α) :
    (l.set n a').countP p + (if p a then 1 else 0) = l.countP p + if p a' then 1 else 0 := by
  obtain ⟨hn, hget⟩ := List.getElem?_eq_some_iff.1 h
  have hle : (if p a then 1 else 0) ≤ l.countP p := by
    split
    · exact List.one_le_countP_iff.2 ⟨a, List.mem_of_getElem? h, ‹_›⟩
    · exact Nat.zero_le _
  rw [List.countP_set hn, hget]
  omega

/-- The entries after one was replaced. -/
lemma getElem?_set_eq_some {α : Type} {l : List α} {n m : ℕ} {a' x : α}
    (h : (l.set n a')[m]? = some x) : m = n ∧ x = a' ∨ m ≠ n ∧ l[m]? = some x := by
  rw [List.getElem?_set] at h
  split at h
  · rename_i hnm
    split at h
    · exact Or.inl ⟨hnm.symm, (Option.some.inj h).symm⟩
    · cases h
  · rename_i hnm
    exact Or.inr ⟨Ne.symm hnm, h⟩

namespace Bootstraps

variable [OperatorCrates] {t : Bootstraps}

/-- The request stored its credentials. -/
def won (a : Attempt) : Bool := a.stage.won

/-- What holds in every run. -/
structure Inv (t : Bootstraps) : Prop where
  documented : ∀ a ∈ t.attempts, a.request.Documented
  fits : ∀ (m : ℕ) (a : Attempt), t.attempts[m]? = some a → a.stage.Fits a.request t.host
  /-- One request at most is filling the key file. -/
  filling : ∀ (m n : ℕ) (a b : Attempt), t.attempts[m]? = some a → t.attempts[n]? = some b →
    a.stage.isFills = true → b.stage.isFills = true → m = n
  stored : t.host.authSealed ≠ none → 1 ≤ t.attempts.countP won

/-- What holds when every request that came to store found no operator. -/
structure Single (t : Bootstraps) : Prop where
  once : t.attempts.countP won ≤ 1
  credentials : ∀ a ∈ t.attempts, won a = true →
    ∃ b, a.request.credentials = some b ∧ t.host.authBundle = some b

lemma inv_new (envKey : Option (Except String MasterKey)) (keyPath : String)
    (keyFile : Option (List UInt8)) : (new envKey keyPath keyFile).Inv where
  documented a ha := by cases ha
  fits m a ha := by simp [new] at ha
  filling m n a b ha := by simp [new] at ha
  stored h := absurd rfl h

lemma single_new (envKey : Option (Except String MasterKey)) (keyPath : String)
    (keyFile : Option (List UInt8)) : (new envKey keyPath keyFile).Single where
  once := Nat.zero_le 1
  credentials a ha := by cases ha

/-- Each section of a handler, on the whole. -/
lemma step_advances {n : ℕ} {a : Attempt} (ha : t.attempts[n]? = some a) :
    t.step (.advances n) = ⟨(a.request.advance t.host a.stage).1,
      t.attempts.set n { a with stage := (a.request.advance t.host a.stage).2 }⟩ := by
  simp only [step, ha]

lemma step_breaks {n : ℕ} {e : String} {a : Attempt} (ha : t.attempts[n]? = some a) :
    t.step (.breaks n e) = { t with attempts := t.attempts.set n (a.broken e) } := by
  simp only [step, ha]

/-- A failure of the files stores nothing and leaves no file to fill. -/
lemma broken_spec (a : Attempt) (e : String) (h : Host) (hfits : a.stage.Fits a.request h) :
    (a.broken e).request = a.request ∧ (a.broken e).stage.Fits a.request h ∧
      won (a.broken e) = won a ∧ ((a.broken e).stage.isFills = true → a.stage.isFills = true) := by
  obtain ⟨r, stage⟩ := a
  cases stage with
  | loads | creates | fills => exact ⟨rfl, trivial, rfl, fun hfills => by cases hfills⟩
  | checks | hashes | stores | signs | answered => exact ⟨rfl, hfits, rfl, fun hfills => hfills⟩

/-- Every event keeps what holds in every run, and no request that stored its credentials is
forgotten. -/
lemma inv_step (hinv : t.Inv) (e : Event) (he : ∀ r, e = .arrives r → r.Documented) :
    (t.step e).Inv ∧ t.attempts.countP won ≤ (t.step e).attempts.countP won := by
  cases e with
  | arrives r =>
    have hcount : (t.attempts ++ [(⟨r, .checks⟩ : Attempt)]).countP won =
        t.attempts.countP won := by
      rw [List.countP_append, List.countP_singleton]
      rfl
    have hcases : ∀ (m : ℕ) (a : Attempt), (t.attempts ++ [⟨r, .checks⟩])[m]? = some a →
        t.attempts[m]? = some a ∨ a = ⟨r, .checks⟩ := by
      intro m a ha
      rw [List.getElem?_append] at ha
      split at ha
      · exact Or.inl ha
      · exact Or.inr (List.mem_singleton.1 (List.mem_of_getElem? ha))
    refine ⟨⟨?_, ?_, ?_, fun hsealed => hcount.symm ▸ hinv.stored hsealed⟩,
      Nat.le_of_eq hcount.symm⟩
    · intro a ha
      rcases List.mem_append.1 ha with ha | ha
      · exact hinv.documented a ha
      · rw [List.mem_singleton.1 ha]
        exact he r rfl
    · intro m a ha
      rcases hcases m a ha with hold | rfl
      · exact hinv.fits m a hold
      · trivial
    · intro m n a b ha hb hfa hfb
      rcases hcases m a ha with hold | rfl
      · rcases hcases n b hb with hold' | rfl
        · exact hinv.filling m n a b hold hold' hfa hfb
        · cases hfb
      · cases hfa
  | advances n =>
    cases ha : t.attempts[n]? with
    | none =>
      have hsame : t.step (.advances n) = t := by simp only [step, ha]
      rw [hsame]
      exact ⟨hinv, Nat.le_refl _⟩
    | some a =>
      rw [step_advances ha]
      have hdoc := hinv.documented a (List.mem_of_getElem? ha)
      have hfits := hinv.fits n a ha
      have hcount := countP_set_add (p := won) ha
        { a with stage := (a.request.advance t.host a.stage).2 }
      have hwon : won a = true →
          won { a with stage := (a.request.advance t.host a.stage).2 } = true :=
        won_advance hdoc hfits
      have hmono : t.attempts.countP won ≤ (t.attempts.set n
          { a with stage := (a.request.advance t.host a.stage).2 }).countP won := by
        split at hcount
        · rw [if_pos (hwon ‹_›)] at hcount
          omega
        · omega
      refine ⟨⟨?_, ?_, ?_, ?_⟩, hmono⟩
      · intro a' ha'
        rcases List.mem_or_eq_of_mem_set ha' with hold | rfl
        · exact hinv.documented a' hold
        · exact hdoc
      · intro m a' ha'
        rcases getElem?_set_eq_some ha' with ⟨-, rfl⟩ | ⟨hne, hold⟩
        · exact fits_advance hdoc hfits
        · refine fits_of_advance hfits (hinv.fits m a' hold) fun hfills => ?_
          cases hfills' : a'.stage.isFills with
          | false => rfl
          | true => exact absurd (hinv.filling m n a' a hold ha hfills' hfills) hne
      · -- only a request that finds no file becomes one that fills it
        have hnew : (a.request.advance t.host a.stage).2.isFills = true →
            t.host.keyFile = none := by
          rcases advance_cases a.request t.host a.stage with
            hlooks | ⟨b, -, hfile, -⟩ | ⟨b, -, heq⟩ | ⟨b, blob, -, heq⟩
          · rw [hlooks.isFills]
            exact fun hfalse => by cases hfalse
          · exact fun _ => hfile
          · rw [heq, isFills_sealUnder]
            exact fun hfalse => by cases hfalse
          · rw [heq]
            exact fun hfalse => by cases hfalse
        have hfile : ∀ (m : ℕ) (a' : Attempt), t.attempts[m]? = some a' →
            a'.stage.isFills = true → t.host.keyFile ≠ none := by
          intro m a' ha' hfills
          have hfits' := hinv.fits m a' ha'
          cases hstage : a'.stage with
          | fills b =>
            rw [hstage] at hfits'
            rw [hfits'.2.2]
            exact fun hnone => by cases hnone
          | checks | hashes | loads | creates | stores | signs | answered =>
            rw [hstage] at hfills
            cases hfills
        intro m k a' b' ha' hb' hfa hfb
        rcases getElem?_set_eq_some ha' with ⟨rfl, rfl⟩ | ⟨hne, hold⟩
        · rcases getElem?_set_eq_some hb' with ⟨rfl, -⟩ | ⟨hne', hold'⟩
          · rfl
          · exact absurd (hnew hfa) (hfile k b' hold' hfb)
        · rcases getElem?_set_eq_some hb' with ⟨rfl, rfl⟩ | ⟨hne', hold'⟩
          · exact absurd (hnew hfb) (hfile m a' hold hfa)
          · exact hinv.filling m k a' b' hold hold' hfa hfb
      · intro hsealed
        rcases advance_cases a.request t.host a.stage with
          hlooks | ⟨b, -, -, heq⟩ | ⟨b, -, heq⟩ | ⟨b, blob, hstage, heq⟩
        · exact Nat.le_trans (hinv.stored (by rw [← hlooks.host]; exact hsealed)) hmono
        · rw [heq] at hsealed
          exact Nat.le_trans (hinv.stored hsealed) hmono
        · rw [heq] at hsealed
          exact Nat.le_trans (hinv.stored hsealed) hmono
        · refine List.one_le_countP_iff.2 ⟨_, List.mem_set
            (List.getElem?_eq_some_iff.1 ha).1 _, ?_⟩
          rw [heq]
          rfl
  | breaks n e =>
    cases ha : t.attempts[n]? with
    | none =>
      have hsame : t.step (.breaks n e) = t := by simp only [step, ha]
      rw [hsame]
      exact ⟨hinv, Nat.le_refl _⟩
    | some a =>
      rw [step_breaks ha]
      obtain ⟨hrequest, hfits, hwon, hfills⟩ := broken_spec a e t.host (hinv.fits n a ha)
      have hcount : (t.attempts.set n (a.broken e)).countP won = t.attempts.countP won := by
        have h := countP_set_add (p := won) ha (a.broken e)
        rw [hwon] at h
        omega
      refine ⟨⟨?_, ?_, ?_, fun hsealed => hcount.symm ▸ hinv.stored hsealed⟩,
        Nat.le_of_eq hcount.symm⟩
      · intro a' ha'
        rcases List.mem_or_eq_of_mem_set ha' with hold | rfl
        · exact hinv.documented a' hold
        · rw [hrequest]
          exact hinv.documented a (List.mem_of_getElem? ha)
      · intro m a' ha'
        rcases getElem?_set_eq_some ha' with ⟨-, rfl⟩ | ⟨-, hold⟩
        · rw [hrequest]
          exact hfits
        · exact hinv.fits m a' hold
      · intro m k a' b' ha' hb' hfa hfb
        rcases getElem?_set_eq_some ha' with ⟨rfl, rfl⟩ | ⟨-, hold⟩
        · rcases getElem?_set_eq_some hb' with ⟨rfl, -⟩ | ⟨-, hold'⟩
          · rfl
          · exact hinv.filling m k a b' ha hold' (hfills hfa) hfb
        · rcases getElem?_set_eq_some hb' with ⟨rfl, rfl⟩ | ⟨-, hold'⟩
          · exact hinv.filling m k a' a hold ha hfa (hfills hfb)
          · exact hinv.filling m k a' b' hold hold' hfa hfb

/-- A request that stores the first credentials keeps the bootstrap single. -/
lemma single_step (hinv : t.Inv) (hsingle : t.Single) (e : Event) (hfirst : t.StoresFirst e) :
    (t.step e).Single := by
  cases e with
  | arrives r =>
    refine ⟨?_, fun a ha hwon => ?_⟩
    · change (t.attempts ++ [(⟨r, .checks⟩ : Attempt)]).countP won ≤ 1
      rw [List.countP_append, List.countP_singleton]
      exact hsingle.once
    · rcases List.mem_append.1 ha with ha | ha
      · exact hsingle.credentials a ha hwon
      · rw [List.mem_singleton.1 ha] at hwon
        cases hwon
  | advances n =>
    cases ha : t.attempts[n]? with
    | none =>
      have hsame : t.step (.advances n) = t := by simp only [step, ha]
      rw [hsame]
      exact hsingle
    | some a =>
      have hmem := List.mem_of_getElem? ha
      have hfits := hinv.fits n a ha
      have hkey : ∀ key, t.host.masterKey = some key →
          (a.request.advance t.host a.stage).1.masterKey = some key :=
        fun key => masterKey_advance hfits
      have hcount := countP_set_add (p := won) ha
        { a with stage := (a.request.advance t.host a.stage).2 }
      -- a section that stores nothing makes no new winner
      have hquiet : (won { a with stage := (a.request.advance t.host a.stage).2 } = true →
          won a = true) → (a.request.advance t.host a.stage).1.authSealed = t.host.authSealed →
          (t.step (.advances n)).Single := by
        intro hold hsealed
        rw [step_advances ha]
        refine ⟨?_, fun a' ha' hwon => ?_⟩
        · have honce := hsingle.once
          dsimp only
          split at hcount
          · split at hcount <;> omega
          · rename_i hnot
            rw [if_neg fun hwon => hnot (hold hwon)] at hcount
            omega
        · have hstored : ∃ b, a'.request.credentials = some b ∧ t.host.authBundle = some b := by
            rcases List.mem_or_eq_of_mem_set ha' with hmem' | rfl
            · exact hsingle.credentials a' hmem' hwon
            · exact hsingle.credentials a hmem (hold hwon)
          obtain ⟨b, hcredentials, hbundle⟩ := hstored
          exact ⟨b, hcredentials, authBundle_of_masterKey hsealed hkey hbundle⟩
      rcases advance_cases a.request t.host a.stage with
        hlooks | ⟨b, -, -, heq⟩ | ⟨b, -, heq⟩ | ⟨b, blob, hstage, heq⟩
      · exact hquiet hlooks.won (by rw [hlooks.host])
      · exact hquiet (by rw [heq]; exact fun hwon => by cases hwon) (by rw [heq])
      · refine hquiet ?_ (by rw [heq])
        rw [heq]
        intro hwon
        change (a.request.sealUnder a.request.freshKey b).won = true at hwon
        rw [won_sealUnder] at hwon
        cases hwon
      · have hnone : t.host.authBundle = none := hfirst a b blob ha hstage
        have hnobody : ∀ a' ∈ t.attempts, won a' = false := by
          intro a' ha'
          cases hwon : won a' with
          | false => rfl
          | true =>
            obtain ⟨b', -, hbundle⟩ := hsingle.credentials a' ha' hwon
            rw [hnone] at hbundle
            cases hbundle
        have hzero : t.attempts.countP won = 0 :=
          List.countP_eq_zero.2 fun a' ha' hwon => by rw [hnobody a' ha'] at hwon; cases hwon
        rw [hstage] at hfits
        rw [heq, hzero, hnobody a hmem] at hcount
        rw [step_advances ha, heq]
        refine ⟨Nat.le_of_eq (hcount.trans rfl), fun a' ha' hwon => ?_⟩
        rcases List.mem_or_eq_of_mem_set ha' with hold | rfl
        · rw [hnobody a' hold] at hwon
          cases hwon
        · exact ⟨b, hfits.1.credentials, authBundle_setAuthSealed hfits.2 hfits.1.configured⟩
  | breaks n e =>
    cases ha : t.attempts[n]? with
    | none =>
      have hsame : t.step (.breaks n e) = t := by simp only [step, ha]
      rw [hsame]
      exact hsingle
    | some a =>
      rw [step_breaks ha]
      obtain ⟨hrequest, -, hwon, -⟩ := broken_spec a e t.host (hinv.fits n a ha)
      have hcount := countP_set_add (p := won) ha (a.broken e)
      rw [hwon] at hcount
      have honce := hsingle.once
      refine ⟨by dsimp only; omega, fun a' ha' hwon' => ?_⟩
      rcases List.mem_or_eq_of_mem_set ha' with hold | rfl
      · exact hsingle.credentials a' hold hwon'
      · rw [hrequest]
        exact hsingle.credentials a (List.mem_of_getElem? ha) (hwon ▸ hwon')

/-- A request that stores over an operator is a second one to do so. -/
lemma two_le_of_not_storesFirst (hinv : t.Inv) {e : Event} (hsecond : ¬t.StoresFirst e) :
    2 ≤ (t.step e).attempts.countP won := by
  cases e with
  | arrives r => exact absurd trivial hsecond
  | breaks n e => exact absurd trivial hsecond
  | advances n =>
    have hbad : ∃ a b blob, t.attempts[n]? = some a ∧ a.stage = .stores b blob ∧
        t.host.authBundle ≠ none := by
      by_contra hgood
      refine hsecond fun a b blob ha hstage => ?_
      by_contra hsome
      exact hgood ⟨a, b, blob, ha, hstage, hsome⟩
    obtain ⟨a, b, blob, ha, hstage, hsome⟩ := hbad
    have hsealed : t.host.authSealed ≠ none := by
      intro hnone
      rw [Host.authBundle, hnone] at hsome
      exact hsome rfl
    have hone := hinv.stored hsealed
    have hcount := countP_set_add (p := won) ha
      { a with stage := (a.request.advance t.host a.stage).2 }
    have hnot : won a = false := by
      rw [won, hstage]
      rfl
    have hnew : won { a with stage := (a.request.advance t.host a.stage).2 } = true := by
      rw [won, hstage]
      rfl
    rw [step_advances ha]
    rw [if_pos hnew, hnot, if_neg Bool.false_ne_true] at hcount
    dsimp only
    omega

/-- In a run in which a request stores over an operator, two requests store. -/
lemma two_le_of_not_meets {events : List Event} (hinv : t.Inv)
    (hdoc : ∀ r, Event.arrives r ∈ events → r.Documented)
    (hsecond : ¬Run.Meets step StoresFirst t events) :
    (Run.after step t events).Inv ∧ 2 ≤ (Run.after step t events).attempts.countP won := by
  have hkeep : ∀ (events : List Event) (t : Bootstraps), t.Inv →
      (∀ r, Event.arrives r ∈ events → r.Documented) → 2 ≤ t.attempts.countP won →
      (Run.after step t events).Inv ∧ 2 ≤ (Run.after step t events).attempts.countP won := by
    intro events
    induction events with
    | nil => exact fun t hinv _ htwo => ⟨hinv, htwo⟩
    | cons e events ih =>
      intro t hinv hdoc htwo
      obtain ⟨hinv', hmono⟩ := inv_step hinv e fun r hr => hdoc r (hr ▸ List.mem_cons_self)
      exact ih _ hinv' (fun r hr => hdoc r (List.mem_cons_of_mem e hr)) (Nat.le_trans htwo hmono)
  induction events generalizing t with
  | nil => exact absurd trivial hsecond
  | cons e events ih =>
    have hinv' := (inv_step hinv e fun r hr => hdoc r (hr ▸ List.mem_cons_self)).1
    have hdoc' : ∀ r, Event.arrives r ∈ events → r.Documented :=
      fun r hr => hdoc r (List.mem_cons_of_mem e hr)
    by_cases hfirst : t.StoresFirst e
    · exact ih hinv' hdoc' fun hmeets => hsecond ⟨hfirst, hmeets⟩
    · exact hkeep events _ hinv' hdoc' (two_le_of_not_storesFirst hinv hfirst)

omit [OperatorCrates] in
/-- A request that succeeded stored its credentials. -/
lemma won_of_succeeded {a : Attempt} (h : a.succeeded = true) : won a = true := by
  obtain ⟨r, stage⟩ := a
  cases stage with
  | answered reply =>
    cases reply with
    | ok session => rfl
    | error e => cases h
  | checks | hashes | loads | creates | fills | stores | signs => cases h

omit [OperatorCrates] in
lemma succeeded_of_won {a : Attempt} {reply : Except Refusal Session}
    (hanswered : a.stage = .answered reply) (h : won a = true) : a.succeeded = true := by
  rw [won, hanswered] at h
  rw [Attempt.succeeded, hanswered]
  cases reply with
  | ok session => rfl
  | error e => cases h

lemma Single.singleBootstrap (hinv : t.Inv) (hsingle : t.Single) : t.SingleBootstrap where
  once := Nat.le_trans (List.countP_mono_left fun _ _ => won_of_succeeded) hsingle.once
  credentials a ha hsucceeded := hsingle.credentials a ha (won_of_succeeded hsucceeded)
  nobody hanswered hsome := by
    have hsealed : t.host.authSealed ≠ none := by
      intro hnone
      rw [Host.authBundle, hnone] at hsome
      cases hsome
    obtain ⟨a, ha, hwon⟩ := List.one_le_countP_iff.1 (hinv.stored hsealed)
    obtain ⟨reply, hreply⟩ := hanswered a ha
    exact ⟨a, ha, succeeded_of_won hreply hwon⟩

/-- On a host without an operator, whatever requests arrive, and however their sections and the
failures of the key file interleave: as long as every request that comes to store finds no
operator, the bootstrap is single; and once every request is answered it is single only then. -/
theorem bootstrapped_once (envKey : Option (Except String MasterKey)) (keyPath : String)
    (keyFile : Option (List UInt8)) (events : List Event)
    (hdoc : ∀ r, Event.arrives r ∈ events → r.Documented) :
    let start := new envKey keyPath keyFile
    let final := Run.after step start events
    (Run.Meets step StoresFirst start events → final.SingleBootstrap) ∧
      ((∀ a ∈ final.attempts, ∃ reply, a.stage = .answered reply) →
        (final.SingleBootstrap ↔ Run.Meets step StoresFirst start events)) := by
  intro start final
  have hfirst : Run.Meets step StoresFirst start events → final.SingleBootstrap := by
    intro hmeets
    have hboth : Run.Meets step (fun t e => StoresFirst t e ∧ ∀ r, e = .arrives r → r.Documented)
        start events :=
      Run.meets_and hmeets (Run.meets_of_forall fun e he r hr => hdoc r (hr ▸ he))
    have hinvariant : final.Inv ∧ final.Single :=
      Run.Meets.invariant (I := fun t => t.Inv ∧ t.Single)
        (fun t e ht he => ⟨(inv_step ht.1 e he.2).1, single_step ht.1 ht.2 e he.1⟩)
        ⟨inv_new envKey keyPath keyFile, single_new envKey keyPath keyFile⟩ hboth
    exact hinvariant.2.singleBootstrap hinvariant.1
  refine ⟨hfirst, fun hanswered => ⟨fun hsingle => ?_, hfirst⟩⟩
  by_contra hsecond
  have htwo : 2 ≤ final.attempts.countP won :=
    (two_le_of_not_meets (inv_new envKey keyPath keyFile) hdoc hsecond).2
  have hle : final.attempts.countP won ≤ final.attempts.countP Attempt.succeeded := by
    refine List.countP_mono_left fun a ha hwon => ?_
    obtain ⟨reply, hreply⟩ := hanswered a ha
    exact succeeded_of_won hreply hwon
  have honce := hsingle.once
  omega

/-! ## Two requests -/

instance (t : Bootstraps) (e : Event) : Decidable (t.StoresFirst e) :=
  match e with
  | .arrives _ | .breaks _ _ => isTrue trivial
  | .advances n =>
    if hbad : (t.attempts[n]?.any fun a => match a.stage with
        | .stores _ _ => true
        | _ => false) = true ∧ t.host.authBundle ≠ none then
      isFalse fun h => by
        obtain ⟨a, ha, hstage⟩ := (Option.any_eq_true _ _).1 hbad.1
        split at hstage
        · exact hbad.2 (h a _ _ ha ‹_›)
        · cases hstage
    else
      isTrue fun a b blob ha hstage => by
        by_contra hsome
        refine hbad ⟨?_, hsome⟩
        rw [ha, Option.any_some, hstage]

end Bootstraps

/-- The master key of the bytes 0 to 31. -/
def sampleMaster : MasterKey := ⟨(List.range 32).map UInt8.ofNat, by decide⟩

def sampleTime : ℕ := 1700000000

/-- The operator of the host. -/
def adminRequest : Request where
  username := "admin"
  password := "correct horse"
  salt := "AAECAwQFBgcICQoLDA0ODw"
  sessionKey := List.replicate 32 7
  nonce := List.replicate 12 1
  freshKey := sampleMaster
  now := sampleTime

/-- Somebody else. -/
def malloryRequest : Request where
  username := "mallory"
  password := "battery staple"
  salt := "EBESExQVFhcYGRobHB0eHw"
  sessionKey := List.replicate 32 9
  nonce := List.replicate 12 2
  freshKey := sampleMaster
  now := sampleTime

def adminBundle : AuthBundle where
  adminUsername := "admin"
  passwordHash := "$argon2id$v=19$m=19456,t=2,p=1$AAECAwQFBgcICQoLDA0ODw$" ++
    "0AuQxA+RjPiJeA19Op7DwrFxnfh9xeTU2T6mFj2wThc"
  sessionKeyB64 := "BwcHBwcHBwcHBwcHBwcHBwcHBwcHBwcHBwcHBwcHBwc="

def malloryBundle : AuthBundle where
  adminUsername := "mallory"
  passwordHash := "$argon2id$v=19$m=19456,t=2,p=1$EBESExQVFhcYGRobHB0eHw$" ++
    "tSnbNP9r2UthJXQ3YL620mNqrEkx8TDpHBsGLudBgE0"
  sessionKeyB64 := "CQkJCQkJCQkJCQkJCQkJCQkJCQkJCQkJCQkJCQkJCQk="

/-- Each bundle, sealed under the master key. -/
def adminBlob : String :=
  "c2FuZGJvYXJkMQEBAQEBAQEBAQEBAeQW76Jk9vSOZuLhOHQLIZq9cN/x8yWRnsEOoSH5kL6lvGWtjXkQK0BYSIGg" ++
    "iYk5MzvuzlKTUIqB8UiMP/44nc+X7zXsVlbClFxATRdF58EvLXSnwTbd/rNLXPWbc+fs6KwVrTpduC2vs5QBhANG" ++
    "odmzSGQ7M0FFQmWRyVSu5XlgiOSRBTXc1LAvy0ZG+x/7f3C2yIkFRCK/2X+xrEpLT7dvFHhR3AWs3JGZOIgeHzTI" ++
    "sP8NO+Sf+exSwhHipSGwkzfdfZCXnJnk38yuYPNdMlhRm61iMfJUE+xxMTuSesA="

def malloryBlob : String :=
  "c2FuZGJvYXJkMQICAgICAgICAgICAnUw+6P7E4rSnLMJ3VlDYKiL1adg+pMly//io3jLb/MStIEg5OjG8WPHte/n" ++
    "Iwc350N6FV5EoVmjo7vSpwG4owPI+S9dupJiZ60aOFSvI6lfLEugvRz2RD7dkD9VnSkqumM3Sv5A4DqKINj9mOZ2" ++
    "M4CBCEyCTluxIEbxkHKgTdXac0OY6vKwk7uXkKfS9F5ANehK+1iJiP2OgQY1J7NKRheF3gn6GIGVOIKblllPNBe/" ++
    "2GmniOMowHPlZdL68EhCkA60BNsef7IXNLmocdwxeQE+tiYq57C507NfQG3hCBGTiQ=="

/-- The cookie of each session. -/
def adminToken : String :=
  "eyJraW5kIjoiYWRtaW4iLCJsb2dpbiI6ImFkbWluIiwiZXhwIjoxNzAxMjA5NjAwfQ." ++
    "ed14569c26172282725ba3d886d1b204f42bc2e43e5d1c061f27ce6a3707c798"

def malloryToken : String :=
  "eyJraW5kIjoiYWRtaW4iLCJsb2dpbiI6Im1hbGxvcnkiLCJleHAiOjE3MDEyMDk2MDB9." ++
    "c7588fa998abc22cf62fa901e83cb6d7da4d9ede471ad631895c62125a6517f7"

/-- The crates on what the two requests draw. -/
abbrev sampleCrates : OperatorCrates where
  hashPassword salt password :=
    if salt = adminRequest.salt ∧ password = adminRequest.password then .ok adminBundle.passwordHash
    else if salt = malloryRequest.salt ∧ password = malloryRequest.password then
      .ok malloryBundle.passwordHash
    else .error "unknown"
  encrypt key _ b :=
    if key = sampleMaster ∧ b = adminBundle then .ok adminBlob
    else if key = sampleMaster ∧ b = malloryBundle then .ok malloryBlob
    else .error "unknown"
  decrypt key blob :=
    if key = sampleMaster ∧ blob = adminBlob then some adminBundle
    else if key = sampleMaster ∧ blob = malloryBlob then some malloryBundle
    else none
  encodeKey key :=
    if key = adminRequest.sessionKey then adminBundle.sessionKeyB64
    else if key = malloryRequest.sessionKey then malloryBundle.sessionKeyB64 else ""
  decodeKey text :=
    if text = adminBundle.sessionKeyB64 then .ok adminRequest.sessionKey
    else if text = malloryBundle.sessionKeyB64 then .ok malloryRequest.sessionKey
    else .error "unknown"
  encodeSession key _ _ :=
    if key = adminRequest.sessionKey then .ok adminToken else .ok malloryToken

/-- A text that starts with a `c` and ends with a `=` is no blank, and has none at its ends. -/
lemma trim_of_ends {text : String} (hfirst : text.toList.head? = some 'c')
    (hlast : text.toList.getLast? = some '=') : trim text = text ∧ text.isEmpty = false := by
  refine ⟨trim_eq_self (fun c hc => ?_) (fun c hc => ?_), ?_⟩
  · rw [hfirst, Option.some.injEq] at hc
    rw [← hc]
    decide
  · rw [hlast, Option.some.injEq] at hc
    rw [← hc]
    decide
  · cases hempty : text.isEmpty with
    | false => rfl
    | true =>
      rw [String.isEmpty_iff.1 hempty] at hfirst
      cases hfirst

lemma trim_adminBlob : trim adminBlob = adminBlob ∧ adminBlob.isEmpty = false := by
  refine trim_of_ends ?_ ?_
  · unfold adminBlob
    simp only [String.toList_append, List.head?_append]
    decide +kernel
  · unfold adminBlob
    simp only [String.toList_append, List.getLast?_append]
    decide +kernel

lemma trim_malloryBlob : trim malloryBlob = malloryBlob ∧ malloryBlob.isEmpty = false := by
  refine trim_of_ends ?_ ?_
  · unfold malloryBlob
    simp only [String.toList_append, List.head?_append]
    decide +kernel
  · unfold malloryBlob
    simp only [String.toList_append, List.getLast?_append]
    decide +kernel

lemma malloryBlob_ne : malloryBlob ≠ adminBlob := by
  intro heq
  have hsize := congrArg String.utf8ByteSize heq
  unfold malloryBlob adminBlob at hsize
  simp only [String.utf8ByteSize_append] at hsize
  revert hsize
  decide +kernel

/-- What the crates document holds of the two requests. -/
lemma documented_sample {r : Request} (hr : r = adminRequest ∨ r = malloryRequest) :
    @Request.Documented sampleCrates r := by
  have hsealed : ∀ (key : MasterKey) (b : AuthBundle) (blob : String),
      sampleCrates.encrypt key r.nonce b = .ok blob → key = sampleMaster ∧
        (b = adminBundle ∧ blob = adminBlob ∨ b = malloryBundle ∧ blob = malloryBlob) := by
    intro key b blob h
    unfold sampleCrates at h
    dsimp only at h
    split at h
    · rename_i hadmin
      exact ⟨hadmin.1, Or.inl ⟨hadmin.2, (Except.ok.inj h).symm⟩⟩
    · split at h
      · rename_i hmallory
        exact ⟨hmallory.1, Or.inr ⟨hmallory.2, (Except.ok.inj h).symm⟩⟩
      · cases h
  refine @Request.Documented.mk sampleCrates r (fun key b blob h => ?_) (fun key b blob h => ?_)
    ?_ ?_ fun login => ?_
  · unfold sampleCrates
    dsimp only
    obtain ⟨hkey, ⟨hb, hblob⟩ | ⟨hb, hblob⟩⟩ := hsealed key b blob h
    · rw [if_pos ⟨hkey, hblob⟩, hb]
    · rw [if_neg fun hadmin => malloryBlob_ne (hblob.symm.trans hadmin.2), if_pos ⟨hkey, hblob⟩, hb]
  · obtain ⟨-, ⟨-, rfl⟩ | ⟨-, rfl⟩⟩ := hsealed key b blob h
    · exact trim_adminBlob
    · exact trim_malloryBlob
  · rcases hr with rfl | rfl <;> decide +kernel
  · rcases hr with rfl | rfl <;> decide +kernel
  · unfold sampleCrates
    dsimp only
    split
    · exact ⟨_, rfl⟩
    · exact ⟨_, rfl⟩

namespace Bootstraps

/-- The path of the key file. -/
def samplePath : String := "/root/.config/sandboard/master.key"

/-- Both requests look before one of them stores. -/
def racedRun : List Event :=
  [.arrives adminRequest, .arrives malloryRequest, .advances 0, .advances 1] ++
    List.replicate 6 (.advances 0) ++ List.replicate 4 (.advances 1)

def racedEnd : Bootstraps := Run.after (@step sampleCrates) (new none samplePath none) racedRun

set_option maxRecDepth 100000 in
lemma succeeded_racedEnd : racedEnd.attempts.countP Attempt.succeeded = 2 := by
  decide +kernel

/-- Both requests succeed. -/
theorem not_bootstrapped_once_racedRun : ¬@SingleBootstrap sampleCrates racedEnd := by
  intro hsingle
  have honce := @SingleBootstrap.once sampleCrates racedEnd hsingle
  rw [succeeded_racedEnd] at honce
  exact absurd honce (by decide)

/-- The second request looks when the first one is answered. -/
def turnRun : List Event :=
  [.arrives adminRequest] ++ List.replicate 7 (.advances 0) ++
    [.arrives malloryRequest, .advances 1]

set_option maxRecDepth 100000 in
lemma storesFirst_turnRun : Run.Meets (@step sampleCrates) (@StoresFirst sampleCrates)
    (new none samplePath none) turnRun := by
  decide +kernel

/-- The theorem on requests one after the other. -/
theorem bootstrapped_once_turnRun : @SingleBootstrap sampleCrates
    (Run.after (@step sampleCrates) (new none samplePath none) turnRun) := by
  refine (@bootstrapped_once sampleCrates none samplePath none turnRun fun r hr => ?_).1
    storesFirst_turnRun
  refine documented_sample ?_
  simp [turnRun] at hr
  exact hr

end Bootstraps

end Auth

end Sandboard

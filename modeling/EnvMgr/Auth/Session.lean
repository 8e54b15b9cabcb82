/-
Sessions: `auth_session_service.py` and the routes that call it.

A session is a family of refresh tokens of which each was exchanged for the
next. Only the SHA-256 of a token is stored, under a unique constraint; `sha256`
stands for the hash function, and a `Draw` for what `secrets.token_urlsafe` and
`uuid4` return to one request. A rejection that has revoked something carries
what it wrote, because the route commits it before it answers 401.
-/
import EnvMgr.Core.Values
import EnvMgr.Lib.Raising
import EnvMgr.Lib.Table

namespace EnvMgr.Auth

/-! ## Rows -/

/-- A UUID; `family_id` stores its `.hex`. -/
abbrev Uuid := BitVec 128

structure User where
  id : ℕ
  tenant_id : ℕ
  is_active : Bool
  deriving DecidableEq

structure RefreshToken where
  id : ℕ
  tenant_id : ℕ
  user_id : ℕ
  token_hash : String
  family_id : Uuid
  replaced_by_id : Option ℕ
  expires_at : DateTime
  used_at : Option DateTime
  revoked_at : Option DateTime
  revoked_reason : Option String
  user_agent : Option String
  client_ip : Option String
  deriving DecidableEq

structure Db where
  users : List User
  tokens : Table RefreshToken RefreshToken.id

/-- A database in which nobody has signed in yet. -/
def Db.fresh (users : List User) : Db := ⟨users, Table.empty⟩

/-- What a request says about the browser it comes from. -/
structure Client where
  user_agent : Option String
  client_ip : Option String
  deriving DecidableEq

/-- The random values a request draws. -/
structure Draw where
  refresh_token : String
  uuid : Uuid
  deriving DecidableEq

/-- The claims of an access token. -/
structure AccessToken where
  sub : String
  tenant_id : ℕ
  impersonating_tenant_id : Option ℕ
  exp : DateTime
  deriving DecidableEq

structure IssuedSession where
  access_token : AccessToken
  refresh_token : String
  expires_in : ℤ
  deriving DecidableEq

inductive RotationRaised
  | InvalidRefreshToken (message : String)
  | RefreshTokenRevocationWritten (written : Db) (message : String)
  | IntegrityError
  | NoResultFound

def ACCESS_TOKEN_MINUTES : ℤ := 15

def REFRESH_TOKEN_DAYS : ℤ := 14

/-! ## The service -/

section Service

variable (sha256 : String → String)

/-- The row `issue_session` adds. -/
def issued_row (user : User) (client : Client) (family_id : Uuid) (token : String)
    (now : DateTime) (id : ℕ) : RefreshToken where
  id := id
  tenant_id := user.tenant_id
  user_id := user.id
  token_hash := sha256 token
  family_id := family_id
  replaced_by_id := none
  expires_at := now + timedelta.days REFRESH_TOKEN_DAYS
  used_at := none
  revoked_at := none
  revoked_reason := none
  user_agent := match client.user_agent with
    | none => none
    | some agent => if agent = "" then none else some (String.ofList (agent.toList.take 300))
  client_ip := client.client_ip

def issue_session (db : Db) (user : User) (client : Client)
    (impersonating_tenant_id : Option ℕ) (family_id : Option Uuid) (draw : Draw)
    (now : DateTime) : Except RotationRaised (Db × IssuedSession) := do
  let access_token : AccessToken :=
    ⟨toString user.id, user.tenant_id, impersonating_tenant_id,
      now + timedelta.minutes ACCESS_TOKEN_MINUTES⟩
  raise_if (∃ r ∈ db.tokens.rows, r.token_hash = sha256 draw.refresh_token) .IntegrityError
  let row := issued_row sha256 user client (family_id.getD draw.uuid) draw.refresh_token now
  .ok ({ db with tokens := db.tokens.insert ⟨row, fun _ => rfl⟩ },
    ⟨access_token, draw.refresh_token, ACCESS_TOKEN_MINUTES * 60⟩)

def _load_token (db : Db) (refresh_token : String) : Except RotationRaised RefreshToken :=
  get_or_raise (db.tokens.select_one fun r => r.token_hash = sha256 refresh_token)
    (.InvalidRefreshToken "unknown refresh token")

/-- What a revocation writes on a row. -/
def revoke (reason : String) (now : DateTime) : Table.Edit RefreshToken.id where
  apply := fun r => { r with revoked_at := some now, revoked_reason := some reason }
  key_apply := fun _ => rfl

def _revoke_family (db : Db) (family_id : Uuid) (reason : String) (now : DateTime) : Db :=
  { db with
    tokens := db.tokens.update (fun r => r.family_id = family_id ∧ r.revoked_at = none)
      (revoke reason now) }

/-- What a successful exchange writes on the old row. -/
def spend (replaced_by_id : ℕ) (now : DateTime) : Table.Edit RefreshToken.id where
  apply := fun r => { r with used_at := some now, replaced_by_id := some replaced_by_id }
  key_apply := fun _ => rfl

def rotate_refresh_token (db : Db) (refresh_token : String) (client : Client) (draw : Draw)
    (now : DateTime) : Except RotationRaised (Db × IssuedSession) := do
  let row ← _load_token sha256 db refresh_token
  raise_if (row.used_at ≠ none)
    (.RefreshTokenRevocationWritten (_revoke_family db row.family_id "reuse_detected" now)
      "refresh token already used")
  raise_if (row.revoked_at ≠ none) (.InvalidRefreshToken "refresh token revoked")
  raise_if (row.expires_at ≤ now) (.InvalidRefreshToken "refresh token expired")
  let inactive := RotationRaised.RefreshTokenRevocationWritten
    (_revoke_family db row.family_id "user_inactive" now) "user is not active"
  let user ← get_or_raise (db.users.find? fun u => u.id = row.user_id) inactive
  raise_if (user.is_active = false) inactive
  let (db₁, issued) ←
    issue_session sha256 db user client none (some row.family_id) draw now
  let successor ← get_or_raise
    (db₁.tokens.select_one fun r => r.token_hash = sha256 issued.refresh_token) .NoResultFound
  .ok ({ db₁ with
      tokens := db₁.tokens.update (fun r => r.id = row.id) (spend successor.id now) }, issued)

/-- Unknown tokens are ignored so logout is idempotent. -/
def revoke_refresh_token (db : Db) (refresh_token reason : String) (now : DateTime) : Db :=
  match _load_token sha256 db refresh_token with
  | .error _ => db
  | .ok row =>
    if row.revoked_at = none then
      { db with tokens := db.tokens.update (fun r => r.id = row.id) (revoke reason now) }
    else db

def revoke_all_for_user (db : Db) (user_id : ℕ) (reason : String) (now : DateTime) : Db :=
  { db with
    tokens := db.tokens.update (fun r => r.user_id = user_id ∧ r.revoked_at = none)
      (revoke reason now) }

end Service

/-! ## Events -/

/-- What can happen to the store. `issue_session` is a sign-in, `users` any
write of another service to the user rows. -/
inductive Event
  | issue_session (user : User) (client : Client) (impersonating_tenant_id : Option ℕ)
      (draw : Draw) (now : DateTime)
  | refresh (refresh_token : String) (client : Client) (draw : Draw) (now : DateTime)
  | logout (refresh_token reason : String) (now : DateTime)
  | revoke_all_for_user (user_id : ℕ) (reason : String) (now : DateTime)
  | users (rows : List User)

def step (sha256 : String → String) (db : Db) : Event → Db
  | .issue_session user client impersonating_tenant_id draw now =>
    match Auth.issue_session sha256 db user client impersonating_tenant_id none draw now with
    | .ok (db', _) => db'
    | .error _ => db
  | .refresh refresh_token client draw now =>
    match rotate_refresh_token sha256 db refresh_token client draw now with
    | .ok (db', _) => db'
    -- the route commits the revocation before it raises its 401
    | .error (.RefreshTokenRevocationWritten written _) => written
    | .error _ => db
  | .logout refresh_token reason now => revoke_refresh_token sha256 db refresh_token reason now
  | .revoke_all_for_user user_id reason now => Auth.revoke_all_for_user db user_id reason now
  | .users rows => { db with users := rows }

/-- The clock an event reads, if it reads one. -/
def Event.now : Event → Option DateTime
  | .issue_session _ _ _ _ now => some now
  | .refresh _ _ _ now => some now
  | .logout _ _ now => some now
  | .revoke_all_for_user _ _ now => some now
  | .users _ => none

/-- The event exchanges `refresh_token` for a new session. -/
def exchanges (sha256 : String → String) (refresh_token : String) (db : Db) : Event → Bool
  | .refresh presented client draw now =>
    presented = refresh_token
      && (rotate_refresh_token sha256 db presented client draw now).toOption.isSome
  | _ => false

/-- How often a run exchanges `refresh_token`. -/
def exchange_count (sha256 : String → String) (refresh_token : String) : Db → List Event → ℕ
  | _, [] => 0
  | db, e :: es =>
    (if exchanges sha256 refresh_token db e then 1 else 0)
      + exchange_count sha256 refresh_token (step sha256 db e) es

/-! ## A sample session -/

namespace Sample

/-- SHA-256 on the four tokens of the sample runs. -/
def sha256 (token : String) : String :=
  if token = "first" then "a7937b64b8caa58f03721bb6bacf5c78cb235febe0e70b1b84cd99541461a08e"
  else if token = "second" then "16367aacb67a4a017c8da8ab95682ccb390863780f7114dda0a0e0c55644c7c4"
  else if token = "third" then "b1e99324505bd32da0e1f85dcf5e19a09db0481e8a15f62c41eb320304a8e927"
  else "d9298a10d1b0735837dc4bd85dac641b0f3cef27a47e5d53a54f2f3f5b2fcffa"

def alice : User := ⟨7, 1, true⟩

def browser : Client := ⟨some "Firefox", none⟩

/-- Sign in at `first`. -/
def sign_in : Event := .issue_session alice browser none ⟨"first", 1#128⟩ 0

/-- Exchange `first` for `second`. -/
def first_refresh : Event := .refresh "first" browser ⟨"second", 2#128⟩ 60

end Sample

end EnvMgr.Auth

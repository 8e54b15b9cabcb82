/-
Rotation under concurrency.

`n` requests present one refresh token at the same time, each in a transaction
of its own under READ COMMITTED, the database's default. A request is the list
of statements `rotate_refresh_token` issues, one of which runs at each event;
the schedule picks whose. The table holds row versions: one inserted by an open
transaction is visible to that transaction alone, and a row that a transaction
has updated stays locked until it ends. A statement that meets a lock waits,
which is an event that changes nothing.
-/
import EnvMgr.Auth.SingleUse

namespace EnvMgr.Auth.Concurrent

/-- A row as a transaction wrote it. `inserted_by` is the request whose open
transaction inserted it, and `none` once that has committed. -/
structure Version where
  row : RefreshToken
  inserted_by : Option ℕ
  deriving DecidableEq

def Version.id (v : Version) : ℕ := v.row.id

/-- How far a request has come. The row it carries is the one it loaded. -/
inductive Phase
  | received
  /-- the row was loaded and is neither used, revoked nor expired -/
  | loaded (row : RefreshToken)
  /-- the user was loaded and is active -/
  | authorised (row : RefreshToken) (user : User)
  /-- `issue_session` has flushed its `INSERT` -/
  | inserted (row : RefreshToken)
  /-- the successor was loaded -/
  | found (row : RefreshToken) (successor_id : ℕ)
  /-- the `UPDATE` of the presented row is flushed -/
  | spent (row : RefreshToken) (successor_id : ℕ) (used_at : DateTime)
  /-- about to revoke the family -/
  | revoking (family_id : Uuid) (reason : String)
  /-- the revocation has found its rows and has locked and written those in `done` -/
  | scanned (todo done : List ℕ) (reason : String) (revoked_at : DateTime)
  | succeeded
  | refused
  deriving DecidableEq

structure State (n : ℕ) where
  users : List User
  versions : Table Version Version.id
  requests : Fin n → Phase

/-- The store before the first of the requests arrives. -/
def start (n : ℕ) (db : Db) : State n where
  users := db.users
  versions :=
    { rows := db.tokens.rows.map fun r => ⟨r, none⟩
      next := db.tokens.next
      keys_nodup := by simpa [Function.comp_def, Version.id] using db.tokens.keys_nodup
      keys_lt := by simpa [Version.id] using db.tokens.keys_lt }
  requests := fun _ => .received

/-! ## Locks -/

variable {n : ℕ}

/-- The request holds the lock on row `id`. -/
def Phase.locks (id : ℕ) : Phase → Bool
  | .spent row _ _ => row.id = id
  | .scanned _ done _ _ => id ∈ done
  | _ => false

/-- Another request than `p` holds the lock on row `id`. -/
def locked_for (s : State n) (p : Fin n) (id : ℕ) : Prop :=
  ∃ q : Fin n, q ≠ p ∧ (s.requests q).locks id = true
  deriving Decidable

/-! ## Commit and rollback -/

/-- The commit of an exchange: the row is spent and the successor shows. -/
def commit_exchange (p : ℕ) (row_id successor_id : ℕ) (used_at : DateTime) :
    Table.Edit Version.id where
  apply := fun v =>
    { row := if v.row.id = row_id then (spend successor_id used_at).apply v.row else v.row
      inserted_by := if v.inserted_by = some p then none else v.inserted_by }
  key_apply := by
    intro v
    by_cases h : v.row.id = row_id <;> simp [Version.id, h, spend]

def commit_revocation (reason : String) (revoked_at : DateTime) : Table.Edit Version.id where
  apply := fun v => { v with row := (revoke reason revoked_at).apply v.row }
  key_apply := fun _ => rfl

def rollback (versions : Table Version Version.id) (p : ℕ) : Table Version Version.id :=
  versions.delete fun v => v.inserted_by = some p

/-! ## One statement of one request -/

section Statements

variable (sha256 : String → String) (token : String) (clients : Fin n → Client)
  (draws : Fin n → Draw)

/-- `_load_token` and the three checks on what it returns. -/
def load (versions : Table Version Version.id) (now : DateTime) : Phase :=
  match versions.select_one fun v => v.inserted_by = none ∧ v.row.token_hash = sha256 token with
  | none => .refused
  | some v =>
    if v.row.used_at ≠ none then .revoking v.row.family_id "reuse_detected"
    else if v.row.revoked_at ≠ none then .refused
    else if v.row.expires_at ≤ now then .refused
    else .loaded v.row

/-- The `SELECT` of the user. -/
def authorise (users : List User) (row : RefreshToken) : Phase :=
  match users.find? fun u => u.id = row.user_id with
  | none => .revoking row.family_id "user_inactive"
  | some user =>
    if user.is_active then .authorised row user else .revoking row.family_id "user_inactive"

/-- What request `p` makes of the table and of itself with its next statement. -/
def advance (s : State n) (p : Fin n) (now : DateTime) : Table Version Version.id × Phase :=
  match s.requests p with
  | .received => (s.versions, load sha256 token s.versions now)
  | .loaded row => (s.versions, authorise s.users row)
  | .authorised row user =>
    let hash := sha256 (draws p).refresh_token
    if ∃ v ∈ s.versions, v.inserted_by = none ∧ v.row.token_hash = hash then
      (s.versions, .refused)
    else if ∃ v ∈ s.versions, v.row.token_hash = hash then
      (s.versions, .authorised row user)
    else
      (s.versions.insert
        ⟨fun id => ⟨issued_row sha256 user (clients p) row.family_id (draws p).refresh_token
            now id, some p⟩, fun _ => rfl⟩,
        .inserted row)
  | .inserted row =>
    match s.versions.select_one fun v =>
        (v.inserted_by = none ∨ v.inserted_by = some p.val)
          ∧ v.row.token_hash = sha256 (draws p).refresh_token with
    | none => (rollback s.versions p, .refused)
    | some v => (s.versions, .found row v.row.id)
  | .found row successor_id =>
    if locked_for s p row.id then (s.versions, .found row successor_id)
    else (s.versions, .spent row successor_id now)
  | .spent row successor_id used_at =>
    (s.versions.update (fun _ => true) (commit_exchange p row.id successor_id used_at),
      .succeeded)
  | .revoking family_id reason =>
    let rows := s.versions.select fun v =>
      v.inserted_by = none ∧ v.row.family_id = family_id ∧ v.row.revoked_at = none
    (s.versions, .scanned (rows.map Version.id) [] reason now)
  | .scanned (id :: todo) done reason revoked_at =>
    if locked_for s p id then (s.versions, .scanned (id :: todo) done reason revoked_at)
    -- the row is read again once its lock is free
    else if ∃ v ∈ s.versions, v.row.id = id ∧ v.row.revoked_at = none then
      (s.versions, .scanned todo (done ++ [id]) reason revoked_at)
    else (s.versions, .scanned todo done reason revoked_at)
  | .scanned [] done reason revoked_at =>
    (s.versions.update (fun v => v.row.id ∈ done) (commit_revocation reason revoked_at),
      .refused)
  | .succeeded => (s.versions, .succeeded)
  | .refused => (s.versions, .refused)

/-- What a schedule consists of: the next statement of a request, the loss of a
request that has not ended, or a write of another service to the users. -/
inductive Event (n : ℕ)
  | proceed (p : Fin n) (now : DateTime)
  | abort (p : Fin n)
  | users (rows : List User)

def step (s : State n) : Event n → State n
  | .proceed p now =>
    { s with
      versions := (advance sha256 token clients draws s p now).1
      requests := Function.update s.requests p (advance sha256 token clients draws s p now).2 }
  | .abort p =>
    if s.requests p = .succeeded then s
    else
      { s with
        versions := rollback s.versions p
        requests := Function.update s.requests p .refused }
  | .users rows => { s with users := rows }

end Statements

/-! ## Single use -/

/-- One request at most has succeeded, and no family shows two live tokens. -/
structure SingleUse (s : State n) : Prop where
  one_success : ∀ p q, s.requests p = .succeeded → s.requests q = .succeeded → p = q
  one_live : ∀ now, ∀ v ∈ s.versions, ∀ v' ∈ s.versions, v.inserted_by = none →
    v'.inserted_by = none → live now v.row → live now v'.row →
    v.row.family_id = v'.row.family_id → v = v'

/-- What a request is about to commit is not already spent. -/
def Phase.unspent (versions : Table Version Version.id) : Phase → Prop
  | .spent row _ _ => ∀ v ∈ versions, v.row.id = row.id → v.row.used_at = none
  | _ => True

instance (versions : Table Version Version.id) : (ph : Phase) → Decidable (ph.unspent versions)
  | .spent row _ _ =>
    inferInstanceAs (Decidable (∀ v ∈ versions, v.row.id = row.id → v.row.used_at = none))
  | .received | .loaded _ | .authorised .. | .inserted _ | .found .. | .revoking ..
  | .scanned .. | .succeeded | .refused => .isTrue trivial

/-- A request that commits its exchange finds the row it loaded still unspent. -/
def StillUnspent (s : State n) : Event n → Prop
  | .proceed p _ => (s.requests p).unspent s.versions
  | _ => True

instance (s : State n) : (e : Event n) → Decidable (StillUnspent s e)
  | .proceed p _ => inferInstanceAs (Decidable ((s.requests p).unspent s.versions))
  | .abort _ | .users _ => .isTrue trivial

/-! ## Two tabs of one browser -/

namespace Sample

/-- The two requests. -/
def one : Fin 2 := ⟨0, Nat.two_pos⟩

def other : Fin 2 := ⟨1, Nat.one_lt_two⟩

/-- The tokens they draw. -/
def draws (p : Fin 2) : Draw := ⟨if p = one then "second" else "third", 9#128⟩

/-- The store after one sign-in, as two requests come in. -/
def signed_in : State 2 :=
  start 2 (Runs.run (Auth.step Auth.Sample.sha256) (Db.fresh [Auth.Sample.alice])
    [Auth.Sample.sign_in])

/-- One request after the other. -/
def in_turn : List (Event 2) :=
  List.replicate 6 (.proceed one 60) ++ List.replicate 4 (.proceed other 61)

/-- Both requests load the row before either commits. -/
def at_once : List (Event 2) :=
  [.proceed one 60, .proceed other 60] ++ List.replicate 5 (.proceed one 60)
    ++ List.replicate 5 (.proceed other 60)

end Sample

end EnvMgr.Auth.Concurrent

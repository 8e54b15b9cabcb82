/-
Connecting a tenant to GitHub: `services/github_oauth_service.py` over
`services/tenant_secret_service.py` and `core/secrets.py`, with the routes that call them.

The secrets of a tenant are rows under a unique name, encrypted; what is read and written of them
is a map from names to texts that may lapse, and the operations are shown to be that map's. Over
it runs the device flow: `connect` asks GitHub for a device code and keeps it with a handle, `poll`
trades it in. GitHub is a parameter of each request: what it would answer to each device code at
that moment. `last_used_at` is written by the reads and read by nothing. The deployment has an
encryption key, and keeps it.
-/
import EnvMgr.Core.Directory
import EnvMgr.Lib.Runs
import EnvMgr.Lib.Table

namespace EnvMgr.GitHub

open Runs (run Always)

/-! ## Secrets -/

/-- What these services raise. -/
inductive Failure
  | GitHubNotConfigured
  | GitHubOAuthError
  | HTTPError
  | SecretDecryptionError
  | refused (e : Raised)

/-- Fernet under the key of the deployment. `nonce` is the randomness a ciphertext carries. -/
structure Fernet where
  encrypt : ℕ → String → String
  decrypt : String → Option String
  decrypt_encrypt : ∀ nonce text, decrypt (encrypt nonce text) = some text

def CURRENT_KEY_VERSION : ℕ := 1

def decrypt (fernet : Fernet) (ciphertext : String) (key_version : ℕ) : Except Failure String := do
  raise_if (key_version ≠ CURRENT_KEY_VERSION) .SecretDecryptionError
  get_or_raise (fernet.decrypt ciphertext) .SecretDecryptionError

structure TenantSecret where
  id : ℕ
  tenant_id : ℕ
  kind : String
  ciphertext : String
  key_version : ℕ
  created_by : Option ℕ
  expires_at : Option DateTime
  created_at : DateTime
  deriving DecidableEq

def Names (tenant_id : ℕ) (kind : String) (r : TenantSecret) : Prop :=
  r.tenant_id = tenant_id ∧ r.kind = kind
  deriving Decidable

structure Db (fernet : Fernet) where
  secrets : Table TenantSecret TenantSecret.id
  /-- `uq_tenant_secret_tenant_kind`. -/
  unique : ∀ a ∈ secrets, ∀ b ∈ secrets, a.tenant_id = b.tenant_id ∧ a.kind = b.kind → a = b
  /-- The key has not changed since a row was written. -/
  legible : ∀ r ∈ secrets, ∃ text, decrypt fernet r.ciphertext r.key_version = .ok text

variable {fernet : Fernet}

def Db.fresh : Db fernet where
  secrets := Table.empty
  unique a ha := absurd ha (Table.not_mem_empty a)
  legible r hr := absurd hr (Table.not_mem_empty r)

def find (db : Db fernet) (tenant_id : ℕ) (kind : String) : Option TenantSecret :=
  db.secrets.select_one fun r => Names tenant_id kind r

/-- What `put_secret` writes on the row that is there. -/
def replace (fernet : Fernet) (nonce : ℕ) (text : String) (created_by : Option ℕ)
    (expires_at : Option DateTime) : Table.Edit TenantSecret.id where
  apply r :=
    { r with
      ciphertext := fernet.encrypt nonce text
      key_version := CURRENT_KEY_VERSION
      created_by := created_by
      expires_at := expires_at }
  key_apply _ := rfl

def new_secret (fernet : Fernet) (tenant_id : ℕ) (kind : String) (nonce : ℕ) (text : String)
    (created_by : Option ℕ) (expires_at : Option DateTime) (now : DateTime) :
    Table.New TenantSecret.id where
  row n :=
    ⟨n, tenant_id, kind, fernet.encrypt nonce text, CURRENT_KEY_VERSION, created_by, expires_at, now⟩
  key_row _ := rfl

theorem decrypt_sealed (nonce : ℕ) (text : String) :
    decrypt fernet (fernet.encrypt nonce text) CURRENT_KEY_VERSION = .ok text := by
  unfold decrypt
  rw [fernet.decrypt_encrypt]
  rfl

/-- `put_secret` on the rows: the one under the name is replaced, or one is added. -/
def put_rows (fernet : Fernet) (secrets : Table TenantSecret TenantSecret.id) (tenant_id : ℕ)
    (kind : String) (nonce : ℕ) (text : String) (created_by : Option ℕ)
    (expires_at : Option DateTime) (now : DateTime) : Table TenantSecret TenantSecret.id :=
  match secrets.select_one fun r => Names tenant_id kind r with
  | some existing =>
    secrets.update (fun r => r.id = existing.id) (replace fernet nonce text created_by expires_at)
  | none => secrets.insert (new_secret fernet tenant_id kind nonce text created_by expires_at now)

/-- **One row under the name is new, the others are the old ones.** -/
theorem put_rows_spec {secrets : Table TenantSecret TenantSecret.id}
    (hunique : ∀ a ∈ secrets, ∀ b ∈ secrets, a.tenant_id = b.tenant_id ∧ a.kind = b.kind → a = b)
    (fernet : Fernet) (tenant_id : ℕ) (kind : String) (nonce : ℕ) (text : String)
    (created_by : Option ℕ) (expires_at : Option DateTime) (now : DateTime) :
    ∃ w, Names tenant_id kind w ∧
      decrypt fernet w.ciphertext w.key_version = .ok text ∧ w.expires_at = expires_at ∧
      w.created_at = ((secrets.select_one fun r => Names tenant_id kind r).map
        TenantSecret.created_at).getD now ∧
      ∀ r, r ∈ put_rows fernet secrets tenant_id kind nonce text created_by expires_at now ↔
        (r ∈ secrets ∧ ¬ Names tenant_id kind r) ∨ r = w := by
  unfold put_rows
  cases hfound : secrets.select_one fun r => Names tenant_id kind r with
  | some existing =>
    obtain ⟨hmem, hp⟩ := Table.select_one_some hfound
    have hnames : Names tenant_id kind existing := of_decide_eq_true hp
    refine ⟨(replace fernet nonce text created_by expires_at).apply existing, hnames,
      decrypt_sealed nonce text, rfl, rfl, fun r => ?_⟩
    -- the row that is replaced is the only one under the name
    have hid : ∀ r ∈ secrets, (r.id = existing.id ↔ Names tenant_id kind r) := fun r hr =>
      ⟨fun h => Table.eq_of_key_eq hr hmem h ▸ hnames, fun h => by
        rw [hunique r hr existing hmem ⟨h.1.trans hnames.1.symm, h.2.trans hnames.2.symm⟩]⟩
    constructor
    · intro hr
      rcases Table.mem_update_cases hr with ⟨r₀, hr₀, heq, rfl⟩ | ⟨hr, hne⟩
      · exact Or.inr (by rw [Table.eq_of_key_eq hr₀ hmem (of_decide_eq_true heq)])
      · exact Or.inl ⟨hr, fun h => of_decide_eq_false hne ((hid r hr).2 h)⟩
    · rintro (⟨hr, hnot⟩ | rfl)
      · exact Table.mem_update_of_neg hr (decide_eq_false fun h => hnot ((hid r hr).1 h))
      · exact Table.mem_update_of_pos hmem (decide_eq_true rfl)
  | none =>
    refine ⟨(new_secret fernet tenant_id kind nonce text created_by expires_at now).row secrets.next,
      ⟨rfl, rfl⟩, decrypt_sealed nonce text, rfl, rfl, fun r => ?_⟩
    rw [Table.mem_insert]
    refine or_congr_left ⟨fun hr => ⟨hr, ?_⟩, And.left⟩
    exact of_decide_eq_false (Table.select_one_none hfound hr)

def put_secret (db : Db fernet) (tenant_id : ℕ) (kind : String) (nonce : ℕ) (text : String)
    (created_by : Option ℕ) (expires_at : Option DateTime) (now : DateTime) : Db fernet where
  secrets := put_rows fernet db.secrets tenant_id kind nonce text created_by expires_at now
  unique := by
    obtain ⟨w, hw, -, -, -, hmem⟩ := put_rows_spec db.unique fernet tenant_id kind nonce text
      created_by expires_at now
    intro a ha b hb hab
    rcases (hmem a).1 ha with ⟨ha, hna⟩ | rfl <;> rcases (hmem b).1 hb with ⟨hb, hnb⟩ | rfl
    · exact db.unique a ha b hb hab
    · exact absurd ⟨hab.1.trans hw.1, hab.2.trans hw.2⟩ hna
    · exact absurd ⟨hab.1.symm.trans hw.1, hab.2.symm.trans hw.2⟩ hnb
    · rfl
  legible := by
    obtain ⟨w, -, htext, -, -, hmem⟩ := put_rows_spec db.unique fernet tenant_id kind nonce text
      created_by expires_at now
    intro r hr
    rcases (hmem r).1 hr with ⟨hr, -⟩ | rfl
    · exact db.legible r hr
    · exact ⟨text, htext⟩

def delete_secret (db : Db fernet) (tenant_id : ℕ) (kind : String) : Db fernet where
  secrets := db.secrets.delete fun r => Names tenant_id kind r
  unique a ha b hb := db.unique a (Table.mem_delete.1 ha).1 b (Table.mem_delete.1 hb).1
  legible r hr := db.legible r (Table.mem_delete.1 hr).1

def get_secret (db : Db fernet) (tenant_id : ℕ) (kind : String) (now : DateTime) :
    Except Failure (Option String) :=
  match find db tenant_id kind with
  | none => .ok none
  | some row =>
    if row.expires_at.any (· ≤ now) then .ok none
    else (decrypt fernet row.ciphertext row.key_version).map some

/-! ## The secrets are a map -/

/-- What is kept under a name: its text, when it lapses, and since when there is one. -/
def held (db : Db fernet) (tenant_id : ℕ) (kind : String) :
    Option (String × Option DateTime × DateTime) :=
  (find db tenant_id kind).bind fun r =>
    (decrypt fernet r.ciphertext r.key_version).toOption.map fun text =>
      (text, r.expires_at, r.created_at)

variable {db : Db fernet} {t t' : ℕ} {kind kind' : String} {r : TenantSecret}

theorem find_iff : find db t kind = some r ↔ r ∈ db.secrets ∧ Names t kind r :=
  Table.select_one_iff fun a ha b hb hpa hpb =>
    db.unique a ha b hb ⟨hpa.1.trans hpb.1.symm, hpa.2.trans hpb.2.symm⟩

/-- What is found under a name is decided by the rows that have it. -/
theorem find_congr {db' : Db fernet}
    (h : ∀ r, Names t kind r → (r ∈ db'.secrets ↔ r ∈ db.secrets)) :
    find db' t kind = find db t kind := by
  refine Option.ext fun r => ?_
  rw [find_iff, find_iff]
  exact ⟨fun hr => ⟨(h r hr.2).1 hr.1, hr.2⟩, fun hr => ⟨(h r hr.2).2 hr.1, hr.2⟩⟩

/-- Every row can be read, so there is something under a name where there is a row. -/
theorem held_created_at : (held db t kind).map (·.2.2) =
    (find db t kind).map TenantSecret.created_at := by
  unfold held
  cases hfind : find db t kind with
  | none => rfl
  | some r =>
    obtain ⟨text, htext⟩ := db.legible r (find_iff.1 hfind).1
    rw [Option.bind_some, htext]
    rfl

/-- `put_secret` writes the map at one name. -/
theorem held_put (nonce : ℕ) (text : String) (created_by : Option ℕ)
    (expires_at : Option DateTime) (now : DateTime) :
    held (put_secret db t kind nonce text created_by expires_at now) t' kind' =
      if t' = t ∧ kind' = kind then
        some (text, expires_at, ((held db t kind).map (·.2.2)).getD now)
      else held db t' kind' := by
  obtain ⟨w, hw, htext, hexpires, hcreated, hmem⟩ := put_rows_spec db.unique fernet t kind nonce
    text created_by expires_at now
  rw [held_created_at]
  unfold held
  by_cases hsame : t' = t ∧ kind' = kind
  · obtain ⟨rfl, rfl⟩ := hsame
    have hfind : find (put_secret db t' kind' nonce text created_by expires_at now) t' kind' =
        some w := find_iff.2 ⟨(hmem w).2 (Or.inr rfl), hw⟩
    rw [if_pos ⟨rfl, rfl⟩, hfind, Option.bind_some, htext, hexpires, hcreated]
    rfl
  · rw [if_neg hsame, find_congr fun r hr => ?_]
    refine (hmem r).trans ⟨?_, fun h => Or.inl ⟨h, fun hn => ?_⟩⟩
    · rintro (⟨h, -⟩ | rfl)
      · exact h
      · exact absurd ⟨hr.1.symm.trans hw.1, hr.2.symm.trans hw.2⟩ hsame
    · exact hsame ⟨hr.1.symm.trans hn.1, hr.2.symm.trans hn.2⟩

/-- `delete_secret` clears it there. -/
theorem held_delete : held (delete_secret db t kind) t' kind' =
    if t' = t ∧ kind' = kind then none else held db t' kind' := by
  unfold held
  by_cases hsame : t' = t ∧ kind' = kind
  · obtain ⟨rfl, rfl⟩ := hsame
    have hnone : find (delete_secret db t' kind') t' kind' = none := by
      refine Option.eq_none_iff_forall_ne_some.2 fun r hr => ?_
      obtain ⟨hmem, hnames⟩ := find_iff.1 hr
      exact of_decide_eq_false (Table.mem_delete.1 hmem).2 hnames
    rw [if_pos ⟨rfl, rfl⟩, hnone]
    rfl
  · rw [if_neg hsame, find_congr fun r hr => ?_]
    refine Table.mem_delete.trans ⟨And.left, fun h => ⟨h, decide_eq_false fun hn => ?_⟩⟩
    exact hsame ⟨hr.1.symm.trans hn.1, hr.2.symm.trans hn.2⟩

/-- `get_secret` reads it, where it has not lapsed, and never fails. -/
theorem get_secret_eq (now : DateTime) : get_secret db t kind now =
    .ok (((held db t kind).map fun h => (h.1, h.2.1)).bind fun h =>
      if h.2.any (· ≤ now) then none else some h.1) := by
  unfold get_secret held
  cases hfind : find db t kind with
  | none => rfl
  | some r =>
    obtain ⟨text, htext⟩ := db.legible r (find_iff.1 hfind).1
    rw [Option.bind_some, htext]
    dsimp only [Except.toOption, Option.map_some, Option.bind_some]
    split
    · rfl
    · rw [htext]
      rfl

/-! ## The device flow -/

def TOKEN_KIND : String := "github_oauth_token"

def PENDING_KIND : String := "github_device_pending"

def LOGIN_KIND : String := "github_login"

/-- The alphabet of `secrets.token_urlsafe` has no colon. -/
structure Handle where
  text : String
  urlsafe : ':' ∉ text.toList

/-- GitHub's answer to a request for a device code. -/
inductive CodeReply
  /-- A transport failure, an error status, no JSON, or a field that is missing. -/
  | failed
  | codes (device_code user_code verification_uri : String) (expires_in interval : Option ℤ)

/-- GitHub's answer to a device code. -/
inductive TokenReply
  | failed
  | json (error : Option String) (access_token : Option String) (interval : Option ℤ)

/-- `s.partition(":")`, without the middle. -/
def partition_colon (s : String) : String × String :=
  (String.ofList (s.toList.takeWhile (· ≠ ':')),
    String.ofList ((s.toList.dropWhile (· ≠ ':')).drop 1))

inductive PollResult
  | pending
  | slow_down (interval : ℤ)
  | denied
  | expired
  | connected (github_login : String)
  deriving DecidableEq

/-- What a request draws and reads: the clock, and the nonces of what it encrypts. -/
structure Draw where
  now : DateTime
  nonce : ℕ
  nonce' : ℕ

structure ConnectStarted where
  handle : String
  user_code : String
  verification_uri : String
  expires_in : ℤ
  interval : ℤ
  deriving DecidableEq

def start_device_flow (db : Db fernet) (client_id : String) (tenant_id user_id : ℕ)
    (reply : CodeReply) (handle : Handle) (draw : Draw) :
    Except Failure (Db fernet × ConnectStarted) := do
  raise_if (client_id = "") .GitHubNotConfigured
  match reply with
  | .failed => .error .GitHubOAuthError
  | .codes device_code user_code verification_uri expires_in interval =>
    .ok (put_secret db tenant_id PENDING_KIND draw.nonce (handle.text ++ ":" ++ device_code)
        (some user_id) (some (draw.now + expires_in.getD 900 * 1000000)) draw.now,
      ⟨handle.text, user_code, verification_uri, expires_in.getD 900, interval.getD 5⟩)

/-- `github` is what GitHub would answer to a device code, `who` what it answers to the token:
the login it gives, nothing it gives, or a failure. -/
def poll_device_flow (db : Db fernet) (client_id : String) (tenant_id user_id : ℕ) (handle : String)
    (github : String → TokenReply) (who : Except Unit (Option String)) (draw : Draw) :
    Except Failure (Db fernet × PollResult) := do
  raise_if (client_id = "") .GitHubNotConfigured
  let stored ← get_secret db tenant_id PENDING_KIND draw.now
  match stored with
  | none => .ok (db, .expired)
  | some stored =>
    let (stored_handle, device_code) := partition_colon stored
    if stored_handle ≠ handle then .ok (db, .expired)
    else
      match github device_code with
      | .failed => .error .GitHubOAuthError
      | .json (some "authorization_pending") _ _ => .ok (db, .pending)
      | .json (some "slow_down") _ interval => .ok (db, .slow_down (interval.getD 10))
      | .json (some "access_denied") _ _ => .ok (delete_secret db tenant_id PENDING_KIND, .denied)
      | .json (some "expired_token") _ _ => .ok (delete_secret db tenant_id PENDING_KIND, .expired)
      | .json (some _) _ _ => .error .GitHubOAuthError
      | .json none none _ => .error .GitHubOAuthError
      | .json none (some token) _ =>
        -- this request stands outside every `try`: where it fails the token is not kept
        match who with
        | .error () => .error .HTTPError
        | .ok login =>
          let db₁ := put_secret db tenant_id TOKEN_KIND draw.nonce token (some user_id) none draw.now
          let db₂ := put_secret db₁ tenant_id LOGIN_KIND draw.nonce' (login.getD "") (some user_id)
            none draw.now
          .ok (delete_secret db₂ tenant_id PENDING_KIND, .connected (login.getD ""))

structure Status where
  connected : Bool
  github_login : Option String
  connected_at : Option DateTime
  deriving DecidableEq

def get_created_at (db : Db fernet) (tenant_id : ℕ) (kind : String) : Option DateTime :=
  (find db tenant_id kind).map TenantSecret.created_at

def get_status (db : Db fernet) (tenant_id : ℕ) (now : DateTime) : Except Failure Status := do
  let token ← get_secret db tenant_id TOKEN_KIND now
  match token with
  | none => .ok ⟨false, none, none⟩
  | some _ =>
    let login ← get_secret db tenant_id LOGIN_KIND now
    .ok ⟨true, login.filter (· ≠ ""), get_created_at db tenant_id TOKEN_KIND⟩

def disconnect (db : Db fernet) (tenant_id : ℕ) : Db fernet :=
  delete_secret (delete_secret (delete_secret db tenant_id TOKEN_KIND) tenant_id LOGIN_KIND)
    tenant_id PENDING_KIND

/-! ## Requests -/

/-- The routes that write, each with what GitHub would answer at that moment. -/
inductive Request
  | connect (user : CurrentUser) (reply : CodeReply) (handle : Handle) (draw : Draw)
  | poll (user : CurrentUser) (handle : String) (github : String → TokenReply)
      (who : Except Unit (Option String)) (draw : Draw)
  | disconnect (user : CurrentUser)

def admin (user : CurrentUser) : Except Failure Unit :=
  (require_role Role.ADMIN user).mapError .refused

def handle_request (client_id : String) (db : Db fernet) : Request → Except Failure (Db fernet)
  | .connect user reply handle draw => do
    admin user
    let (db', _) ← start_device_flow db client_id user.active_tenant_id user.id reply handle draw
    .ok db'
  | .poll user handle github who draw => do
    admin user
    let (db', _) ← poll_device_flow db client_id user.active_tenant_id user.id handle github who draw
    .ok db'
  | .disconnect user => do
    admin user
    .ok (disconnect db user.active_tenant_id)

def step (client_id : String) (db : Db fernet) (request : Request) : Db fernet :=
  commit_or_rollback db (handle_request client_id db request)

/-! ## What a connection is

One tenant's: a device code that waits to be authorised, and the account it is connected to. -/

/-- What a connect leaves to be polled. -/
structure Pending where
  handle : Handle
  device_code : String
  lapses : DateTime

/-- What the rows of a tenant say. -/
structure Connection where
  pending : Option Pending
  /-- The token, whose it is, and since when there is one. -/
  account : Option (String × String × DateTime)

namespace Connection

def none : Connection := ⟨.none, .none⟩

/-- What GitHub's answer to the code that waits makes of the connection. -/
def answered (c : Connection) (now : DateTime) :
    TokenReply → Except Unit (Option String) → Connection
  | .json (some error) _ _, _ =>
    if error = "access_denied" ∨ error = "expired_token" then { c with pending := .none } else c
  | .json .none (some token) _, .ok login =>
    ⟨.none, some (token, login.getD "", (c.account.map (·.2.2)).getD now)⟩
  | _, _ => c

/-- A request of an admin of the tenant, where the integration is configured. -/
def next (c : Connection) : Request → Connection
  | .connect _ (.codes device_code _ _ expires_in _) handle draw =>
    { c with pending := some ⟨handle, device_code, draw.now + expires_in.getD 900 * 1000000⟩ }
  | .connect _ .failed _ _ => c
  | .poll _ handle github who draw =>
    match c.pending with
    | some p =>
      if p.lapses ≤ draw.now ∨ p.handle.text ≠ handle then c
      else c.answered draw.now (github p.device_code) who
    | .none => c
  | .disconnect _ => none

end Connection

def Request.user : Request → CurrentUser
  | .connect user _ _ _ | .poll user _ _ _ _ | .disconnect user => user

def administers (user : CurrentUser) : Bool :=
  user.is_master_admin || user.role = Role.ADMIN

/-- Only `disconnect` does without the client id. -/
def Request.configured (client_id : String) : Request → Bool
  | .disconnect _ => true
  | _ => client_id ≠ ""

/-- The requests that get through, of one tenant. -/
def Request.counts (client_id : String) (tenant_id : ℕ) (e : Request) : Bool :=
  e.user.active_tenant_id = tenant_id && administers e.user && e.configured client_id

/-! ## The rows are that connection -/

/-- What a tenant keeps under the three names. -/
structure Represents (own : String → Option (String × Option DateTime × DateTime))
    (c : Connection) : Prop where
  pending : (own PENDING_KIND).map (fun h => (h.1, h.2.1)) =
    c.pending.map fun p => (p.handle.text ++ ":" ++ p.device_code, some p.lapses)
  token : own TOKEN_KIND = c.account.map fun a => (a.1, none, a.2.2)
  login : (own LOGIN_KIND).map (fun h => (h.1, h.2.1)) = c.account.map fun a => (a.2.1, none)

/-- A handle has no colon, so that what was joined comes apart where it was joined. -/
theorem partition_joined (handle : Handle) (code : String) :
    partition_colon (handle.text ++ ":" ++ code) = (handle.text, code) := by
  have hhandle : ∀ c ∈ handle.text.toList, decide (c ≠ ':') = true := fun c hc =>
    decide_eq_true fun h => handle.urlsafe (h ▸ hc)
  unfold partition_colon
  rw [String.toList_append, String.toList_append, List.append_assoc,
    List.takeWhile_append_of_pos hhandle, List.dropWhile_append_of_pos hhandle]
  simp

theorem kinds : TOKEN_KIND ≠ PENDING_KIND ∧ LOGIN_KIND ≠ PENDING_KIND ∧ LOGIN_KIND ≠ TOKEN_KIND := by
  decide

section

variable {client_id : String} {c : Connection} {nonce : ℕ} {by_ : Option ℕ} {now : DateTime}

/-- Two names of one tenant, apart. -/
theorem held_put_ne {text : String} {lapses : Option DateTime} (h : kind' ≠ kind) :
    held (put_secret db t kind nonce text by_ lapses now) t kind' = held db t kind' := by
  rw [held_put, if_neg fun hsame => h hsame.2]

theorem held_delete_ne (h : kind' ≠ kind) :
    held (delete_secret db t kind) t kind' = held db t kind' := by
  rw [held_delete, if_neg fun hsame => h hsame.2]

/-- Another tenant's names stay as they are. -/
theorem held_put_elsewhere {text : String} {lapses : Option DateTime} (ht : t' ≠ t) :
    held (put_secret db t kind nonce text by_ lapses now) t' = held db t' := by
  funext k
  rw [held_put, if_neg fun hsame => ht hsame.1]

theorem held_delete_elsewhere (ht : t' ≠ t) :
    held (delete_secret db t kind) t' = held db t' := by
  funext k
  rw [held_delete, if_neg fun hsame => ht hsame.1]

theorem Represents.put_pending (h : Represents (held db t) c) (p : Pending) :
    Represents (held (put_secret db t PENDING_KIND nonce (p.handle.text ++ ":" ++ p.device_code) by_
      (some p.lapses) now) t) { c with pending := some p } where
  pending := by
    rw [held_put, if_pos ⟨rfl, rfl⟩]
    rfl
  token := by
    rw [held_put_ne kinds.1]
    exact h.token
  login := by
    rw [held_put_ne kinds.2.1]
    exact h.login

theorem Represents.clear_pending (h : Represents (held db t) c) :
    Represents (held (delete_secret db t PENDING_KIND) t) { c with pending := none } where
  pending := by
    rw [held_delete, if_pos ⟨rfl, rfl⟩]
    rfl
  token := by
    rw [held_delete_ne kinds.1]
    exact h.token
  login := by
    rw [held_delete_ne kinds.2.1]
    exact h.login

theorem Represents.put_account (h : Represents (held db t) c) (token login : String)
    (nonce' : ℕ) : Represents (held (put_secret (put_secret db t TOKEN_KIND nonce token by_ none now)
      t LOGIN_KIND nonce' login by_ none now) t)
      { c with account := some (token, login, (c.account.map (·.2.2)).getD now) } where
  pending := by
    rw [held_put_ne kinds.2.1.symm, held_put_ne kinds.1.symm]
    exact h.pending
  token := by
    rw [held_put_ne kinds.2.2.symm, held_put, if_pos ⟨rfl, rfl⟩, h.token, Option.map_map]
    rfl
  login := by
    rw [held_put, if_pos ⟨rfl, rfl⟩]
    rfl

theorem Represents.cleared : Represents (held (disconnect db t) t) Connection.none where
  pending := by
    unfold disconnect
    rw [held_delete, if_pos ⟨rfl, rfl⟩]
    rfl
  token := by
    unfold disconnect
    rw [held_delete_ne kinds.1, held_delete_ne kinds.2.2.symm, held_delete, if_pos ⟨rfl, rfl⟩]
    rfl
  login := by
    unfold disconnect
    rw [held_delete_ne kinds.2.1, held_delete, if_pos ⟨rfl, rfl⟩]
    rfl

/-- What `poll` reads: the code that waits under this handle, where it has not lapsed. -/
theorem Represents.stored (h : Represents (held db t) c) (now : DateTime) :
    get_secret db t PENDING_KIND now =
    .ok (c.pending.bind fun p =>
      if p.lapses ≤ now then none else some (p.handle.text ++ ":" ++ p.device_code)) := by
  rw [get_secret_eq, h.pending]
  cases c.pending with
  | none => rfl
  | some p =>
    simp only [Option.map_some, Option.bind_some, Option.any_some, decide_eq_true_eq]

/-- A poll that answers leaves what the connection becomes, one that raises raises where the
connection stands still. -/
theorem poll_represents (h : Represents (held db t) c) (hconf : client_id ≠ "") (user : CurrentUser)
    (handle : String) (github : String → TokenReply) (who : Except Unit (Option String))
    (draw : Draw) : Represents (held (commit_or_rollback db
      ((poll_device_flow db client_id t user.id handle github who draw).map Prod.fst)) t)
      (c.next (.poll user handle github who draw)) := by
  have hstored := h.stored draw.now
  unfold poll_device_flow
  cases hp : c.pending with
  | none =>
    rw [hp] at hstored
    simpa [raise_if, hconf, hstored, Connection.next, hp, bind, Except.bind, Except.map] using h
  | some p =>
    rw [hp, Option.bind_some] at hstored
    by_cases hlapsed : p.lapses ≤ draw.now
    · rw [if_pos hlapsed] at hstored
      simpa [raise_if, hconf, hstored, Connection.next, hp, hlapsed, bind, Except.bind, Except.map] using h
    · rw [if_neg hlapsed] at hstored
      simp only [raise_if, hconf, if_false, hstored, bind, Except.bind, partition_joined]
      by_cases hhandle : p.handle.text = handle
      · -- the code that waits is asked about, and nothing else
        have hnext : c.next (.poll user handle github who draw) =
            c.answered draw.now (github p.device_code) who := by
          simp [Connection.next, hp, hlapsed, hhandle]
        rw [if_neg (not_not.2 hhandle), hnext]
        split
        · next heq =>
          rw [heq]
          exact h
        · next heq =>
          rw [heq]
          exact h
        · next heq =>
          rw [heq]
          exact h
        · next heq =>
          rw [heq]
          exact h.clear_pending
        · next heq =>
          rw [heq]
          exact h.clear_pending
        · next hdenied hexpired heq =>
          -- an error that the flow does not act on
          rw [heq, Connection.answered, if_neg (not_or.2 ⟨hdenied, hexpired⟩)]
          exact h
        · next heq =>
          rw [heq]
          exact h
        · next token _ heq =>
          rw [heq]
          rcases who with _ | login
          · exact h
          · exact (h.put_account token (login.getD "") draw.nonce').clear_pending
      · have hnext : c.next (.poll user handle github who draw) = c := by
          simp [Connection.next, hp, hhandle]
        rw [if_pos hhandle, hnext]
        exact h

theorem admin_ok {user : CurrentUser} : admin user = .ok () ↔ administers user = true := by
  unfold admin require_role administers
  by_cases hmaster : user.is_master_admin = true <;> simp [hmaster]

/-- A request that does not get through writes nothing. -/
theorem accepted {e : Request} {db' : Db fernet} (h : handle_request client_id db e = .ok db') :
    administers e.user = true ∧ e.configured client_id = true := by
  unfold handle_request at h
  cases e with
  | connect user reply handle draw =>
    obtain ⟨_, hadmin, h⟩ := bind_eq_ok.1 h
    obtain ⟨_, h, -⟩ := bind_eq_ok.1 h
    obtain ⟨_, hconf, -⟩ := bind_eq_ok.1 h
    exact ⟨admin_ok.1 hadmin, decide_eq_true (raise_if_eq_ok.1 hconf)⟩
  | poll user handle github who draw =>
    obtain ⟨_, hadmin, h⟩ := bind_eq_ok.1 h
    obtain ⟨_, h, -⟩ := bind_eq_ok.1 h
    obtain ⟨_, hconf, -⟩ := bind_eq_ok.1 h
    exact ⟨admin_ok.1 hadmin, decide_eq_true (raise_if_eq_ok.1 hconf)⟩
  | disconnect user =>
    obtain ⟨_, hadmin, -⟩ := bind_eq_ok.1 h
    exact ⟨admin_ok.1 hadmin, rfl⟩

/-- A poll writes under the names of its own tenant. -/
theorem poll_elsewhere {user_id : ℕ} {handle : String} {github : String → TokenReply}
    {who : Except Unit (Option String)} {draw : Draw} {db' : Db fernet} {result : PollResult}
    (h : poll_device_flow db client_id t user_id handle github who draw = .ok (db', result))
    (ht : t' ≠ t) : held db' t' = held db t' := by
  obtain ⟨_, -, h⟩ := bind_eq_ok.1 h
  obtain ⟨stored, -, h⟩ := bind_eq_ok.1 h
  cases stored with
  | none =>
    cases h
    rfl
  | some stored =>
    dsimp only at h
    split at h
    · cases h
      rfl
    · split at h <;> try split at h
      all_goals cases h
      all_goals simp only [held_put_elsewhere ht, held_delete_elsewhere ht]

/-- Requests of other tenants write under none of this one's names. -/
theorem step_elsewhere {e : Request} (h : e.user.active_tenant_id ≠ t) :
    held (step client_id db e) t = held db t := by
  refine commit_or_rollback_keeps (P := fun db' => held db' t = held db t) rfl fun db' hdb' => ?_
  unfold handle_request at hdb'
  cases e with
  | connect user reply handle draw =>
    obtain ⟨_, -, hdb'⟩ := bind_eq_ok.1 hdb'
    obtain ⟨⟨_, _⟩, hstart, hdb'⟩ := bind_eq_ok.1 hdb'
    obtain ⟨_, -, hstart⟩ := bind_eq_ok.1 hstart
    cases hdb'
    cases reply with
    | failed => cases hstart
    | codes =>
      cases hstart
      exact held_put_elsewhere h.symm
  | poll user handle github who draw =>
    obtain ⟨_, -, hdb'⟩ := bind_eq_ok.1 hdb'
    obtain ⟨⟨_, _⟩, hpoll, hdb'⟩ := bind_eq_ok.1 hdb'
    cases hdb'
    exact poll_elsewhere hpoll h.symm
  | disconnect user =>
    obtain ⟨_, -, hdb'⟩ := bind_eq_ok.1 hdb'
    cases hdb'
    exact (held_delete_elsewhere h.symm).trans
      ((held_delete_elsewhere h.symm).trans (held_delete_elsewhere h.symm))

/-- **One request of the tenant.** -/
theorem step_represents {e : Request} (hcounts : e.counts client_id t = true)
    (h : Represents (held db t) c) : Represents (held (step client_id db e) t) (c.next e) := by
  simp only [Request.counts, Bool.and_eq_true, decide_eq_true_eq] at hcounts
  obtain ⟨⟨rfl, hadmin⟩, hconf⟩ := hcounts
  have hadmin := admin_ok.2 hadmin
  unfold step handle_request
  cases e with
  | connect user reply handle draw =>
    have hconf : client_id ≠ "" := of_decide_eq_true hconf
    dsimp only [Request.user] at hadmin h ⊢
    simp only [hadmin, start_device_flow, raise_if, hconf, if_false, bind, Except.bind]
    cases reply with
    | failed => exact h
    | codes code _ _ expires_in _ =>
      exact h.put_pending ⟨handle, code, draw.now + expires_in.getD 900 * 1000000⟩
  | poll user handle github who draw =>
    have hconf : client_id ≠ "" := of_decide_eq_true hconf
    have hpoll := poll_represents h hconf user handle github who draw
    dsimp only [Request.user] at hadmin hpoll ⊢
    simpa only [hadmin, bind, Except.bind, Except.map] using hpoll
  | disconnect user =>
    dsimp only [Request.user] at hadmin ⊢
    simp only [hadmin, bind, Except.bind]
    exact Represents.cleared

/-- **Everyone else's.** -/
theorem step_represents_others {e : Request} (hcounts : e.counts client_id t = false)
    (h : Represents (held db t) c) : Represents (held (step client_id db e) t) c := by
  by_cases ht : e.user.active_tenant_id = t
  · -- the tenant's own, but it does not get through
    have hrefused : step client_id db e = db :=
      commit_or_rollback_keeps (P := (· = db)) rfl fun db' hdb' => by
        simp [Request.counts, ht, (accepted hdb').1, (accepted hdb').2] at hcounts
    rw [hrefused]
    exact h
  · rw [step_elsewhere ht]
    exact h

theorem represents_fresh : Represents (held (Db.fresh : Db fernet) t) Connection.none :=
  ⟨rfl, rfl, rfl⟩

theorem run_represents (client_id : String) (t : ℕ) (es : List Request) :
    Represents (held (run (step client_id) (Db.fresh : Db fernet) es) t)
      (run Connection.next Connection.none (es.filter (Request.counts client_id t))) :=
  Runs.run_view (R := fun db c => Represents (held db t) c)
    (fun _ _ _ => step_represents) (fun _ _ _ => step_represents_others) represents_fresh es

theorem Represents.get_token (h : Represents (held db t) c) :
    get_secret db t TOKEN_KIND now = .ok (c.account.map Prod.fst) := by
  rw [get_secret_eq, h.token]
  cases c.account <;> rfl

theorem Represents.get_status (h : Represents (held db t) c) : get_status db t now =
    .ok ⟨c.account.isSome, (c.account.map (·.2.1)).filter (· ≠ ""), c.account.map (·.2.2)⟩ := by
  have hlogin : get_secret db t LOGIN_KIND now = .ok (c.account.map (·.2.1)) := by
    rw [get_secret_eq, h.login]
    cases c.account <;> rfl
  have hcreated : get_created_at db t TOKEN_KIND = c.account.map (·.2.2) := by
    rw [get_created_at, ← held_created_at, h.token, Option.map_map]
    rfl
  unfold GitHub.get_status
  rw [h.get_token, hlogin, hcreated]
  cases c.account <;> rfl

end

/-- **The status of a tenant is that of the connection its own admitted requests lead to**, whatever
the other tenants do in between. -/
theorem status_of_run (client_id : String) (t : ℕ) (es : List Request) (now : DateTime) :
    let c := run Connection.next Connection.none (es.filter (Request.counts client_id t))
    get_status (run (step client_id) (Db.fresh : Db fernet) es) t now =
      .ok ⟨c.account.isSome, (c.account.map (·.2.1)).filter (· ≠ ""), c.account.map (·.2.2)⟩ :=
  (run_represents client_id t es).get_status

/-! ## Where a token comes from -/

section

variable {c : Connection}

/-- The connect that got the device code. -/
def Asked (p : Pending) (e : Request) : Prop :=
  ∃ user user_code uri expires_in interval draw,
    e = .connect user (.codes p.device_code user_code uri expires_in interval) p.handle draw ∧
      p.lapses = draw.now + expires_in.getD 900 * 1000000

/-- The poll that traded it in. -/
def Traded (p : Pending) (token : String) (e : Request) : Prop :=
  ∃ user github login draw interval, e = .poll user p.handle.text github (.ok login) draw ∧
    github p.device_code = .json none (some token) interval ∧ draw.now < p.lapses

/-- An answer leaves the code waiting or clears it, and gives an account where it has a token. -/
theorem answered_cases (c : Connection) (now : DateTime) (reply : TokenReply)
    (who : Except Unit (Option String)) :
    c.answered now reply who = c ∨ c.answered now reply who = { c with pending := none } ∨
      ∃ token login interval since, reply = .json none (some token) interval ∧ who = .ok login ∧
        c.answered now reply who = ⟨none, some (token, login.getD "", since)⟩ := by
  unfold Connection.answered
  split
  · split
    · exact Or.inr (Or.inl rfl)
    · exact Or.inl rfl
  · exact Or.inr (Or.inr ⟨_, _, _, _, rfl, rfl, rfl⟩)
  · exact Or.inl rfl

/-- What one request makes of a connection. -/
theorem next_cases (c : Connection) (e : Request) :
    c.next e = c ∨ c.next e = { c with pending := none } ∨ c.next e = Connection.none ∨
      (∃ p, Asked p e ∧ c.next e = { c with pending := some p }) ∨
      ∃ p token account, c.pending = some p ∧ Traded p token e ∧
        c.next e = ⟨none, some (token, account)⟩ := by
  cases e with
  | connect user reply handle draw =>
    cases reply with
    | failed => exact Or.inl rfl
    | codes code user_code uri expires_in interval =>
      refine Or.inr (Or.inr (Or.inr (Or.inl ⟨⟨handle, code, _⟩, ?_, rfl⟩)))
      exact ⟨user, user_code, uri, expires_in, interval, draw, rfl, rfl⟩
  | poll user handle github who draw =>
    unfold Connection.next
    dsimp only
    split
    · next p hp =>
      split
      · exact Or.inl rfl
      · next hopen =>
        obtain ⟨hlapses, hhandle⟩ := not_or.1 hopen
        rcases answered_cases c draw.now (github p.device_code) who with
          h | h | ⟨token, login, interval, since, hreply, rfl, h⟩
        · exact Or.inl h
        · exact Or.inr (Or.inl h)
        · refine Or.inr (Or.inr (Or.inr (Or.inr ⟨p, token, _, hp, ?_, h⟩)))
          exact ⟨user, github, login, draw, interval, by rw [not_not.1 hhandle], hreply,
            not_le.1 hlapses⟩
    · exact Or.inl rfl
  | disconnect user => exact Or.inr (Or.inr (Or.inl rfl))

/-- What waits after a request waited before it, or was asked for by it. -/
theorem next_pending {p : Pending} {e : Request} (h : (c.next e).pending = some p) :
    c.pending = some p ∨ Asked p e := by
  rcases next_cases c e with hc | hc | hc | ⟨q, hq, hc⟩ | ⟨q, token, login, -, -, hc⟩ <;> rw [hc] at h
  · exact Or.inl h
  · cases h
  · cases h
  · cases h
    exact Or.inr hq
  · cases h

/-- The account there is after a request was there before, or was got for the code that waited. -/
theorem next_account {token : String} {e : Request}
    (h : (c.next e).account.map Prod.fst = some token) :
    c.account.map Prod.fst = some token ∨ ∃ p, c.pending = some p ∧ Traded p token e := by
  rcases next_cases c e with hc | hc | hc | ⟨q, -, hc⟩ | ⟨q, token', login, hq, ht, hc⟩ <;>
    rw [hc] at h
  · exact Or.inl h
  · exact Or.inl h
  · cases h
  · exact Or.inl h
  · cases h
    exact Or.inr ⟨q, hq, ht⟩

end

/-- **A token is one that GitHub gave for a device code of this tenant's.** Among its own admitted
requests is the connect that was given the code, after it the poll that traded the code in, under
its handle and before it lapsed, with the code waiting from the one to the other; and the token has
been kept ever since. -/
theorem token_origin {client_id : String} {t : ℕ} {es : List Request} {now : DateTime}
    {token : String}
    (h : get_secret (run (step client_id) (Db.fresh : Db fernet) es) t TOKEN_KIND now =
      .ok (some token)) :
    ∃ p es₁ asked es₂ traded es₃,
      es.filter (Request.counts client_id t) = es₁ ++ asked :: es₂ ++ traded :: es₃ ∧
      Asked p asked ∧ Traded p token traded ∧
      Always Connection.next (fun c => c.pending = some p)
        (run Connection.next Connection.none (es₁ ++ [asked])) es₂ ∧
      Always Connection.next (fun c => c.account.map Prod.fst = some token)
        (run Connection.next Connection.none (es₁ ++ asked :: es₂ ++ [traded])) es₃ := by
  rw [(run_represents client_id t es).get_token] at h
  -- since when the account is there, and then since when the code waited
  rcases Runs.run_since (fun (c : Connection) token => c.account.map Prod.fst = some token)
    (fun _ _ _ => next_account) (Except.ok.inj h) with
    hall | ⟨before, traded, es₃, hes, ⟨p, hp, htraded⟩, hkept⟩
  · cases hall.head
  · rcases Runs.run_since (fun (c : Connection) p => c.pending = some p)
      (fun _ _ _ => next_pending) hp with
      hall | ⟨es₁, asked, es₂, rfl, hasked, hwaits⟩
    · cases hall.head
    · exact ⟨p, es₁, asked, es₂, traded, es₃, hes, hasked, htraded, hwaits, hkept⟩

/-- A cipher to run the flow with: the nonce stands in front. -/
def plain : Fernet where
  encrypt nonce text := String.ofList (Char.ofNat nonce :: text.toList)
  decrypt ciphertext :=
    match ciphertext.toList with
    | [] => none
    | _ :: text => some (String.ofList text)
  decrypt_encrypt nonce text := by simp

/-- Tenant 1 connects, tenant 2 polls with its handle, and tenant 1 polls. -/
def two_tenants : List Request :=
  [.connect ⟨7, 1, Role.ADMIN, false⟩ (.codes "dc" "WDJB" "github.com/login/device" none none)
      ⟨"h", by decide⟩ ⟨0, 0, 1⟩,
    .poll ⟨8, 2, Role.ADMIN, false⟩ "h" (fun _ => .json none (some "gho") none) (.ok none) ⟨1, 2, 3⟩,
    .poll ⟨7, 1, Role.ADMIN, false⟩ "h" (fun _ => .json none (some "gho") none) (.ok (some "octo"))
      ⟨2, 4, 5⟩]

theorem token_origin_two_tenants :
    get_secret (run (step "app") (Db.fresh : Db plain) two_tenants) 1 TOKEN_KIND 3 =
      .ok (some "gho") ∧
    ∃ p es₁ asked es₂ traded es₃,
      two_tenants.filter (Request.counts "app" 1) = es₁ ++ asked :: es₂ ++ traded :: es₃ ∧
      Asked p asked ∧ Traded p "gho" traded ∧
      Always Connection.next (fun c => c.pending = some p)
        (run Connection.next Connection.none (es₁ ++ [asked])) es₂ ∧
      Always Connection.next (fun c => c.account.map Prod.fst = some "gho")
        (run Connection.next Connection.none (es₁ ++ asked :: es₂ ++ [traded])) es₃ :=
  have hconnected : get_secret (run (step "app") (Db.fresh : Db plain) two_tenants) 1 TOKEN_KIND 3 =
      .ok (some "gho") := by
    rw [(run_represents "app" 1 two_tenants).get_token]
    rfl
  ⟨hconnected, token_origin hconnected⟩

end EnvMgr.GitHub

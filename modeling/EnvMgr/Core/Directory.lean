/-
Who is calling, how a request is refused, and the rows other services own.

Of `core/security.py` the current user and the exceptions a handler can end in. An
`HTTPException` carries a status code and a detail, which is a string everywhere except in the
exclusive-use refusal, where it also lists the bookings in the way. The others are what the
database and the interpreter raise; each of them rolls the request back.

Runbooks and bookings look up releases, environments, user groups and their members without
ever writing them. What they read of each is here, under the tables' names, with the look-ups
that several services share.
-/
import EnvMgr.Core.Values
import EnvMgr.Lib.Raising

namespace EnvMgr

/-- The `detail` of an `HTTPException`. -/
inductive Detail
  | text (message : String)
  | conflicts (message : String) (ids : List ℕ)
  deriving DecidableEq

/-- What a request can raise. -/
inductive Raised
  | HTTPException (status_code : ℕ) (detail : Detail)
  | IntegrityError
  | MultipleResultsFound
  | NoResultFound
  | StatementError
  | AttributeError
  | TypeError
  | ValueError
  | KeyError
  | RuntimeError
  | IndexError
  | OverflowError
  deriving DecidableEq

/-- `HTTPException(code, message)`. -/
def http (status_code : ℕ) (message : String) : Raised :=
  .HTTPException status_code (.text message)

namespace Role

def ADMIN : String := "Admin"
def RELEASE_MANAGER : String := "Release Manager"
def TEST_MANAGER : String := "Test Manager"
def DEVELOPER : String := "Developer"
def VIEWER : String := "Viewer"

end Role

/-- The authenticated caller. `active_tenant_id` is the tenant being acted in,
which for a master admin who impersonates is not the home tenant. -/
structure CurrentUser where
  id : ℕ
  active_tenant_id : ℕ
  role : String
  is_master_admin : Bool
  deriving DecidableEq

/-- `require_role(required_role)`. -/
def require_role (required_role : String) (current_user : CurrentUser) :
    Except Raised Unit :=
  if current_user.is_master_admin then .ok ()
  else raise_if (current_user.role ≠ required_role ∧ current_user.role ≠ Role.ADMIN)
    (http 403 s!"Role '{required_role}' required")


structure Release where
  id : ℕ
  tenant_id : ℕ
  deleted_at : Option DateTime
  deriving DecidableEq

/-- A system taking part in a release. -/
structure ReleaseSystem where
  tenant_id : ℕ
  release_id : ℕ
  system_id : ℕ
  deriving DecidableEq

inductive EnvironmentStatus
  | active
  | inactive
  | maintenance
  | decommissioned
  deriving DecidableEq

structure Environment where
  id : ℕ
  tenant_id : ℕ
  name : String
  status : EnvironmentStatus
  owner_user_id : Option ℕ
  operations_group_id : Option ℕ
  deleted_at : Option DateTime
  deriving DecidableEq

structure UserGroup where
  id : ℕ
  tenant_id : ℕ
  deleted_at : Option DateTime
  deriving DecidableEq

structure UserGroupMember where
  tenant_id : ℕ
  group_id : ℕ
  user_id : ℕ
  deriving DecidableEq

/-- `release_service.get_release`. -/
def get_release (releases : List Release) (release_id tenant_id : ℕ) :
    Except Raised Release :=
  get_or_raise
    (releases.find? fun r => r.id = release_id ∧ r.tenant_id = tenant_id ∧ r.deleted_at = none)
    (http 404 "Release not found")

/-- `user_group_service.get_group`. -/
def get_group (groups : List UserGroup) (group_id tenant_id : ℕ) :
    Except Raised UserGroup :=
  get_or_raise
    (groups.find? fun g => g.id = group_id ∧ g.tenant_id = tenant_id ∧ g.deleted_at = none)
    (http 404 "User group not found")

end EnvMgr

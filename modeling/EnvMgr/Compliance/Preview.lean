/-
The preview of a policy beside its effect.

The preview judges the candidate's pattern and attributes with the code that words the
messages, under the date and the days of grace of the policy that is saved. Saving
counts by the clauses, and a rule that changes takes effect anew.
-/
import EnvMgr.Compliance.Mirror
import EnvMgr.Lib.Counting

namespace EnvMgr.Compliance

section Edit

variable {ext : External} {db db' : Db} {tenant_id : ℕ} {edit : EnvironmentNamingPolicyUpdate}
  {now : DateTime} {preview : EnvironmentNamingPolicyPreview}

/-! ## What is counted -/

/-- The environments of a tenant, those in gap and those quarantined, by the clauses. -/
structure Counts where
  total : ℕ
  in_gap : ℕ
  quarantined : ℕ
  deriving DecidableEq

def EnvironmentNamingPolicyPreview.counts (p : EnvironmentNamingPolicyPreview) : Counts :=
  ⟨p.total_environments, p.in_gap, p.quarantined_now⟩

/-- The verdict of a pattern on a name. -/
def verdict (ext : External) (pattern : Option String) (name : String) : Option Bool :=
  (truthy pattern).bind fun pattern => name_matches ext pattern name

end Edit

/-! ## A tenant that starts to ask for an expiry date -/

namespace Tightened

def row (id : ℕ) : Environment where
  id := id
  tenant_id := 1
  name := "dev-1"
  description := none
  tier_id := 1
  owner_user_id := some 1
  operations_group_id := none
  expires_at := none
  status := .active
  custom_fields := none
  name_compliant := none
  created_at := 0
  deleted_at := none

def new : Table.New Environment.id := ⟨row, fun _ => rfl⟩

def stored : EnvironmentNamingPolicy where
  tenant_id := 1
  is_enabled := true
  name_pattern := none
  name_pattern_example := none
  required_attributes := ["owner"]
  grace_days := 14
  effective_from := 0

/-- A policy and an environment of the year before. -/
def db : Db :=
  { Db.opened ⟨[], [], [], [], [], []⟩ with
    policies := fun tenant_id => if tenant_id = 1 then some stored else none
    environments := Table.empty.insert new }

/-- An environment of the same age that nobody owns. -/
def unowned : Table.New Environment.id :=
  ⟨fun id => { row id with name := "qa-1", owner_user_id := none }, fun _ => rfl⟩

def edit (required_attributes : List String) : EnvironmentNamingPolicyUpdate where
  is_enabled := true
  name_pattern := none
  name_pattern_example := none
  required_attributes := required_attributes
  grace_days := 14

def now : DateTime := timedelta.days 365

def ext : External := ⟨fun _ => .error "That is not a valid regular expression", id⟩

end Tightened

end EnvMgr.Compliance

/-
The clause and the messages side by side.

What an environment is asked for is decided by a clause of SQL where environments are
filtered and counted, and by the code that words the messages where one is shown. They
part over the required custom fields: the code takes any white space for blank and SQL
only spaces, and a key the clause refuses to compare is still read by the code.
-/
import EnvMgr.Compliance.Policy
import Mathlib.Data.List.DropRight

namespace EnvMgr.Compliance

open Bookings (Json is_blank)

/-! ## What is blank -/

/-- The filter, the counts and the explanations agree on every environment. -/
def Agree (policy : Option EnvironmentNamingPolicy) (envs : Table Environment Environment.id) :
    Prop :=
  ∀ env ∈ envs, (∃ messages, gaps_for_environments envs.rows policy env.id = some messages ∧
    messages ≠ []) ↔ noncompliance_clause policy env = true

namespace Tab

/-- The cost code is required, and a tab was pasted into it. -/
def policy : EnvironmentNamingPolicy where
  tenant_id := 1
  is_enabled := true
  name_pattern := none
  name_pattern_example := none
  required_attributes := ["cf:cost_code"]
  grace_days := 14
  effective_from := 0

def row (id : ℕ) : Environment where
  id := id
  tenant_id := 1
  name := "dev-1"
  description := none
  tier_id := 1
  owner_user_id := some 1
  operations_group_id := none
  expires_at := none
  status := .active
  custom_fields := some ⟨[("cost_code", .text "\t")], by decide⟩
  name_compliant := none
  created_at := 0
  deleted_at := none

def new : Table.New Environment.id := ⟨row, fun _ => rfl⟩

def envs : Table Environment Environment.id := Table.empty.insert new

end Tab

end EnvMgr.Compliance

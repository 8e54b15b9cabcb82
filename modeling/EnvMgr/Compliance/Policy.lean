/-
The naming policy of a tenant: `services/environment_compliance_service.py`.

An environment keeps the verdict of the naming pattern on its name in a column of its own,
because no regular expression means the same to both databases. The required attributes
are read off the row each time.

A policy asks two things of an environment: a name that its pattern matches, and a value
for each attribute it requires. Whether an environment is in gap is decided twice, by a
clause of SQL and by the code that words the messages, and what a policy would do is
counted once more before it is saved.
-/
import EnvMgr.Bookings.CustomFields
import EnvMgr.Lifecycle.Service

namespace EnvMgr.Compliance

open Bookings (Json CustomFieldDefinition is_blank list_definitions)
open Lifecycle (LifecycleTemplate)

/-! ## Tables -/

structure Environment where
  id : ℕ
  tenant_id : ℕ
  name : String
  description : Option String
  tier_id : ℕ
  owner_user_id : Option ℕ
  operations_group_id : Option ℕ
  expires_at : Option DateTime
  status : EnvironmentStatus
  custom_fields : Option (Dict Json)
  /-- `none` where no pattern applies. -/
  name_compliant : Option Bool
  created_at : DateTime
  deleted_at : Option DateTime
  deriving DecidableEq

structure EnvironmentNamingPolicy where
  tenant_id : ℕ
  is_enabled : Bool
  name_pattern : Option String
  name_pattern_example : Option String
  required_attributes : List String
  grace_days : ℕ
  effective_from : DateTime
  deriving DecidableEq

inductive RequestKind
  | access
  | new_environment
  deriving DecidableEq

def RequestKind.value : RequestKind → String
  | access => "access"
  | new_environment => "new_environment"

structure EnvironmentRequest where
  id : ℕ
  tenant_id : ℕ
  kind : RequestKind
  status : String
  lifecycle_id : ℕ
  requested_by : ℕ
  justification : String
  needed_by : Option DateTime
  environment_id : Option ℕ
  proposed_name : Option String
  tier_id : Option ℕ
  expires_at : Option DateTime
  operations_group_id : Option ℕ
  created_environment_id : Option ℕ
  deleted_at : Option DateTime
  deriving DecidableEq

structure EnvironmentTier where
  id : ℕ
  tenant_id : ℕ
  name : String
  category : String
  deleted_at : Option DateTime
  deriving DecidableEq

structure User where
  id : ℕ
  tenant_id : ℕ
  deriving DecidableEq

/-- The rows of other services that these look up. -/
structure Reference where
  tiers : List EnvironmentTier
  users : List User
  user_groups : List UserGroup
  group_members : List UserGroupMember
  custom_fields : List CustomFieldDefinition
  templates : List LifecycleTemplate

structure Db where
  reference : Reference
  /-- The policy of each tenant: its column `tenant_id` is unique. -/
  policies : ℕ → Option EnvironmentNamingPolicy
  environments : Table Environment Environment.id
  requests : Table EnvironmentRequest EnvironmentRequest.id

/-- A database without environments, policies and requests. -/
def Db.opened (reference : Reference) : Db :=
  ⟨reference, fun _ => none, Table.empty, Table.empty⟩

def Environment.live (env : Environment) : Bool := env.deleted_at = none

/-- The live environments of a tenant. -/
def Db.estate (db : Db) (tenant_id : ℕ) : List Environment :=
  db.environments.select fun env => env.tenant_id = tenant_id && env.live

/-- The definitions of custom fields, where their service looks them up. -/
def Db.custom (db : Db) : Bookings.Db :=
  Bookings.Db.fresh Table.empty ⟨[], [], [], [], [], db.reference.custom_fields⟩

/-! ## The package `regex`, and `str.lower` -/

/-- A matcher answers `fullmatch`, and `none` where it runs out of its tenth of a second. It is
taken to answer a name alike at every call. -/
abbrev Matcher := String → Option Bool

structure External where
  /-- `regex.compile`, behind the ceiling on repeats, or the detail of
  `_PatternUnusable`. -/
  compile : String → Except String Matcher
  /-- `str.lower`. -/
  lower : String → String

/-! ## Patterns -/

def MAX_PATTERN_LENGTH : ℕ := 500

def MAX_NAME_LENGTH : ℕ := 200

/-- `s`, where it is neither `None` nor empty. -/
def truthy (s : Option String) : Option String := s.filter fun s => s ≠ ""

def _compiled (ext : External) (pattern : String) : Except String Matcher :=
  if pattern.length > MAX_PATTERN_LENGTH then
    .error s!"A naming pattern may be at most {MAX_PATTERN_LENGTH} characters."
  else ext.compile pattern

/-- `none` where the pattern could not be evaluated. -/
def name_matches (ext : External) (pattern name : String) : Option Bool :=
  if name.length > MAX_NAME_LENGTH then some false
  else
    match _compiled ext pattern with
    | .ok fullmatch => fullmatch name
    | .error _ => none

def _pattern_in_force (policy : Option EnvironmentNamingPolicy) : Option String :=
  policy.bind fun p => if p.is_enabled then truthy p.name_pattern else none

def evaluate_name (ext : External) (policy : Option EnvironmentNamingPolicy) (name : String) :
    Option Bool :=
  (_pattern_in_force policy).bind fun pattern => name_matches ext pattern name

/-- `hint`, worded around the example if there is one. -/
def example_hint (before : String) (policy : Option EnvironmentNamingPolicy) (after : String) :
    String :=
  match truthy (policy.bind EnvironmentNamingPolicy.name_pattern_example) with
  | some text => s!"{before}'{text}'{after}"
  | none => ""

/-- Only a changed name is refused. -/
def assert_name_allowed (ext : External) (policy : Option EnvironmentNamingPolicy)
    (submitted : String) (stored : Option String) : Except Raised Unit :=
  match _pattern_in_force policy with
  | none => .ok ()
  | some pattern =>
    raise_if (some submitted ≠ stored ∧ name_matches ext pattern submitted = some false)
      (http 422 (s!"'{submitted}' does not match this tenant's environment naming "
        ++ s!"convention ({pattern})." ++ example_hint " For example: " policy "."))

def too_slow : Raised :=
  http 422 ("That pattern is too slow to evaluate safely — it does not finish "
    ++ "within 0.1s against a name of the full "
    ++ s!"{MAX_NAME_LENGTH} characters an environment name may reach. "
    ++ "Simplify nested quantifiers such as '(a|a)*', and repeated "
    ++ "overlapping alternations such as '(?:a|b|ab)*'.")

def validate_example (ext : External) (pattern text : String) : Except Raised Unit := do
  raise_if (text.length > MAX_NAME_LENGTH)
    (http 422 (s!"An example may be at most {MAX_NAME_LENGTH} characters — it has "
      ++ "to be a name an environment could actually be given."))
  raise_if (name_matches ext pattern text = none) too_slow
  raise_if (name_matches ext pattern text = some false)
    (http 422 (s!"The example '{text}' does not match the pattern it illustrates. "
      ++ "It appears in the error users see, so it has to be a name that works."))

def validate_pattern (ext : External) (pattern name_example : Option String) :
    Except Raised Unit :=
  match truthy pattern with
  | none => .ok ()
  | some pattern => do
    let _ ← (_compiled ext pattern).mapError (http 422)
    for_each (truthy name_example).toList fun text => validate_example ext pattern text

/-- `_PROBE_SUBJECTS`: as long as a name may be, none of one alphabet alone. -/
def _PROBE_SUBJECTS : List String :=
  [['a'], ['A'], ['1'], ['-'], ['a', 'A', '1', '-']].map fun alphabet =>
    String.ofList (((List.replicate MAX_NAME_LENGTH alphabet).flatten.take (MAX_NAME_LENGTH - 1))
      ++ ['!'])

def validate_pattern_async (ext : External) (pattern name_example : Option String) :
    Except Raised Unit := do
  validate_pattern ext pattern name_example
  for_each (truthy pattern).toList fun pattern =>
    for_each _PROBE_SUBJECTS fun subject =>
      raise_if (name_matches ext pattern subject = none) too_slow

/-! ## Required attributes -/

def FIXED_ATTRIBUTES : List String := ["owner", "expiry", "operations_group"]

def CUSTOM_FIELD_PREFIX : String := "cf:"

/-- `attr[len(CUSTOM_FIELD_PREFIX):]`, if that is what it starts with. -/
def custom_field_key (attr : String) : Option String :=
  if CUSTOM_FIELD_PREFIX.toList.isPrefixOf attr.toList then
    some (String.ofList (attr.toList.drop CUSTOM_FIELD_PREFIX.length))
  else none

def _assert_attributes_known (db : Db) (tenant_id : ℕ) (attributes : List String) :
    Except Raised Unit :=
  let defined := (list_definitions db.custom tenant_id "environment").map fun d => d.field_key
  for_each attributes fun attr =>
    match custom_field_key attr with
    | some key =>
      raise_if (attr ∉ FIXED_ATTRIBUTES ∧ key ∉ defined)
        (http 422 (s!"'{key}' is not a custom field defined for environments in "
          ++ "this tenant."))
    | none =>
      raise_if (attr ∉ FIXED_ATTRIBUTES)
        (http 422 (s!"'{attr}' is not an attribute a naming policy can require. "
          ++ "Use one of ['expiry', 'operations_group', 'owner'], or 'cf:<field_key>'. "
          ++ "Tier is always required by the schema, so it cannot be listed here."))

/-- `(env.custom_fields or {}).get(key)`. -/
def Environment.custom_field (env : Environment) (key : String) : Option Json :=
  (env.custom_fields.getD Dict.empty).get key

def is_lower (c : Char) : Bool := 'a' ≤ c && c ≤ 'z'

/-- `_SAFE_FIELD_KEY_RE.match(key)`. Its `$` also stands before a last line feed. -/
def is_safe_field_key (key : String) : Bool :=
  let line := if key.toList.getLast? = some '\n' then key.toList.dropLast else key.toList
  match line with
  | [] => false
  | c :: cs => is_lower c && cs.all fun c => is_lower c || c.isDigit || c = '_'

/-- `trim(s)` of both databases, which is about spaces and no other white space. -/
def trim (s : String) : String :=
  String.ofList ((s.toList.dropWhile (· = ' ')).reverse.dropWhile (· = ' ')).reverse

/-- `value IS NULL OR trim(CAST(value AS VARCHAR)) = ''`. The text of a number, of a truth
value and of a composite is never blank. -/
def is_null_or_spaces : Option Json → Bool
  | none => true
  | some .null => true
  | some (.text s) => trim s = ""
  | some _ => false

/-- The clause, or nothing where the key is refused with a `ValueError`. -/
def custom_field_missing_clause (field_key : String) : Option (Environment → Bool) :=
  if is_safe_field_key field_key then
    some fun env => is_null_or_spaces (env.custom_field field_key)
  else none

def _ATTRIBUTE_CLAUSES (attr : String) : Option (Environment → Bool) :=
  if attr = "owner" then some fun env => env.owner_user_id = none
  else if attr = "expiry" then some fun env => env.expires_at = none
  else if attr = "operations_group" then some fun env => env.operations_group_id = none
  else none

def _ATTRIBUTE_LABELS (attr : String) : Option String :=
  if attr = "owner" then some "no named owner"
  else if attr = "expiry" then some "no expiry date"
  else if attr = "operations_group" then some "no operating team"
  else none

def _attribute_clauses (policy : EnvironmentNamingPolicy) : List (Environment → Bool) :=
  policy.required_attributes.filterMap fun attr =>
    (_ATTRIBUTE_CLAUSES attr).or ((custom_field_key attr).bind custom_field_missing_clause)

/-! ## In gap, by the clause -/

/-- `policy is not None and policy.is_enabled`. -/
def in_force (policy : Option EnvironmentNamingPolicy) : Option EnvironmentNamingPolicy :=
  policy.filter EnvironmentNamingPolicy.is_enabled

def noncompliance_clause (policy : Option EnvironmentNamingPolicy) (env : Environment) : Bool :=
  match in_force policy with
  | none => false
  | some policy =>
    env.name_compliant = some false || (_attribute_clauses policy).any fun clause => clause env

/-- The start of the UTC day that `now` is in. -/
def expiry_boundary (now : DateTime) : DateTime := now - now % timedelta.days 1

def _is_attribute_missing (env : Environment) (attr : String) : Bool :=
  if attr = "owner" then env.owner_user_id = none
  else if attr = "expiry" then env.expires_at = none
  else if attr = "operations_group" then env.operations_group_id = none
  else false

/-- The message about one required attribute, if there is one. -/
def attribute_message (env : Environment) (attr : String) : Option String :=
  match _ATTRIBUTE_LABELS attr with
  | some label => if _is_attribute_missing env attr then some label else none
  | none =>
    (custom_field_key attr).bind fun key =>
      if is_blank (env.custom_field key) then some ("no " ++ replace_char key '_' " ") else none

def _gap_messages (env : Environment) (policy : EnvironmentNamingPolicy)
    (name_verdict : Option Bool) : List String :=
  (if name_verdict = some false then
    ["The name does not match this tenant's naming convention"
      ++ example_hint " (for example: " (some policy) ")"]
  else []) ++ policy.required_attributes.filterMap (attribute_message env)

/-- By the id of the environment. -/
def gaps_for_environments (envs : List Environment) (policy : Option EnvironmentNamingPolicy)
    (id : ℕ) : Option (List String) :=
  -- of two entries with one key a `dict` keeps the last
  (envs.reverse.find? fun env => env.id = id).map fun env =>
    match in_force policy with
    | none => []
    | some policy => _gap_messages env policy env.name_compliant

/-! ## Saving -/

structure EnvironmentNamingPolicyUpdate where
  is_enabled : Bool
  name_pattern : Option String
  name_pattern_example : Option String
  required_attributes : List String
  grace_days : ℕ
  deriving DecidableEq

def load_policy (db : Db) (tenant_id : ℕ) : Option EnvironmentNamingPolicy :=
  db.policies tenant_id

/-- What an environment is asked for has changed. -/
def rule_changed (policy : Option EnvironmentNamingPolicy) (data : EnvironmentNamingPolicyUpdate) :
    Bool :=
  match policy with
  | none => truthy data.name_pattern ≠ none || data.required_attributes ≠ []
  | some policy =>
    policy.name_pattern ≠ data.name_pattern
      || policy.required_attributes ≠ data.required_attributes

/-- A new row takes its default of `effective_from` from the clock too. -/
def EnvironmentNamingPolicyUpdate.row (data : EnvironmentNamingPolicyUpdate) (tenant_id : ℕ)
    (policy : Option EnvironmentNamingPolicy) (now : DateTime) : EnvironmentNamingPolicy where
  tenant_id := tenant_id
  is_enabled := data.is_enabled
  name_pattern := data.name_pattern
  name_pattern_example := data.name_pattern_example
  required_attributes := data.required_attributes
  grace_days := data.grace_days
  effective_from :=
    if rule_changed policy data then now
    else (policy.map EnvironmentNamingPolicy.effective_from).getD now

/-- `env.name_compliant = evaluate_name(policy, env.name)`. -/
def Environment.judge (ext : External) (policy : Option EnvironmentNamingPolicy)
    (env : Environment) : Environment :=
  { env with name_compliant := evaluate_name ext policy env.name }

def recompute_tenant (ext : External) (db : Db) (tenant_id : ℕ)
    (policy : Option EnvironmentNamingPolicy) : Db :=
  { db with
    environments := db.environments.update (fun env => env.tenant_id = tenant_id && env.live)
      { apply := Environment.judge ext policy, key_apply _ := rfl } }

def upsert_policy (ext : External) (db : Db) (tenant_id : ℕ)
    (data : EnvironmentNamingPolicyUpdate) (now : DateTime) : Except Raised Db := do
  validate_pattern_async ext data.name_pattern data.name_pattern_example
  _assert_attributes_known db tenant_id data.required_attributes
  let policy := data.row tenant_id (load_policy db tenant_id) now
  .ok (recompute_tenant ext
    { db with policies := Function.update db.policies tenant_id (some policy) } tenant_id policy)

/-! ## The preview -/

structure EnvironmentNamingPolicyPreview where
  total_environments : ℕ
  in_gap : ℕ
  quarantined_now : ℕ
  sample_names : List String
  deriving DecidableEq

end EnvMgr.Compliance

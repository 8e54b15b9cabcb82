/-
The lifecycles change requests are seeded with, and the moves a request is offered.

Three definitions come with every tenant, typed in as dictionaries that no schema reads.
Two of them spell the keys of a transition as the services do; the third, on which code
deployments run, spells them `from`, `to` and `roles`.
-/
import EnvMgr.Lifecycle.Offered
import EnvMgr.Lifecycle.Saving
import EnvMgr.Statuses.Always

namespace EnvMgr.Statuses

open Lifecycle (Definition LifecycleTemplate PermissionEntry RecordValues Supplied TransitionEntry
  Usable validate_transition)

/-! ## The seeds -/

structure LifecycleSeed where
  name : String
  is_default : Bool
  description : String
  definition : Definition

def EDITORS : List String := ["Admin", "Release Manager", "Test Manager", "Developer"]

def APPROVERS : List String := ["Admin", "Release Manager"]

def arc (from_state to_state label : String) (allowed_roles : List String) : TransitionEntry :=
  ⟨some from_state, some to_state, some label, some allowed_roles⟩

def simple_approval : Definition where
  states :=
    [Lifecycle.Seeded.state "draft" "Draft" true false,
      Lifecycle.Seeded.state "submitted" "Submitted" false false,
      Lifecycle.Seeded.state "approved" "Approved" false false,
      Lifecycle.Seeded.state "rejected" "Rejected" false true,
      Lifecycle.Seeded.state "completed" "Completed" false true]
  transitions :=
    [arc "draft" "submitted" "Submit" EDITORS,
      arc "submitted" "approved" "Approve" APPROVERS,
      arc "submitted" "rejected" "Reject" APPROVERS,
      arc "submitted" "draft" "Return for Revision" APPROVERS,
      arc "approved" "completed" "Mark Completed" EDITORS]
  field_permissions := Dict.empty
  action_permissions := none

def emergency : Definition where
  states :=
    [Lifecycle.Seeded.state "draft" "Draft" true false,
      Lifecycle.Seeded.state "in_progress" "In Progress" false false,
      Lifecycle.Seeded.state "completed" "Completed" false true]
  transitions :=
    [arc "draft" "in_progress" "Start" EDITORS,
      arc "in_progress" "completed" "Mark Completed" EDITORS]
  field_permissions := Dict.empty
  action_permissions := none

def no_fields : PermissionEntry where
  editable_fields := none
  editable_by := none
  standard_fields := some Dict.empty
  custom_fields := some Dict.empty
  required_fields := none

def code_deployment : Definition where
  states :=
    [Lifecycle.Seeded.state "created" "Created" true false,
      Lifecycle.Seeded.state "deployed" "Deployed" false true,
      Lifecycle.Seeded.state "failed" "Failed" false true]
  -- the keys of the two entries are `from`, `to` and `roles`, which nothing reads
  transitions := [⟨none, none, none, none⟩, ⟨none, none, none, none⟩]
  field_permissions :=
    ⟨["created", "deployed", "failed"].map fun s => (s, no_fields), by decide⟩
  action_permissions := none

def DEFAULT_LIFECYCLE_DEFINITIONS : List LifecycleSeed :=
  [⟨"Simple Approval", true, "Standard change-request flow with an approval gate.",
      simple_approval⟩,
    ⟨"Emergency", false, "Minimal flow for urgent changes — no approval gate.", emergency⟩,
    ⟨"Code Deployment", false, "Lifecycle for code deployment change requests.",
      code_deployment⟩]

def LifecycleSeed.row (spec : LifecycleSeed) (tenant_id id : ℕ) : LifecycleTemplate :=
  ⟨id, tenant_id, ENTITY_TYPE, spec.name, some spec.description, spec.is_default, none,
    spec.definition, none⟩

def seed_default_lifecycles (templates : Table LifecycleTemplate LifecycleTemplate.id)
    (tenant_id : ℕ) : Table LifecycleTemplate LifecycleTemplate.id :=
  let existing_names := (templates.select fun t =>
    t.tenant_id = tenant_id ∧ t.entity_type = ENTITY_TYPE ∧ t.deleted_at = none).map
      LifecycleTemplate.name
  templates.insert_all
    ((DEFAULT_LIFECYCLE_DEFINITIONS.filter fun spec => spec.name ∉ existing_names).map
      fun spec => ⟨spec.row tenant_id, fun _ => rfl⟩)

/-- **Of the seeds, one is not usable, and that in no state.** -/
theorem seed_usable_iff {spec : LifecycleSeed} (hspec : spec ∈ DEFAULT_LIFECYCLE_DEFINITIONS)
    (status : String) : Usable spec.definition status ↔ spec.name ≠ "Code Deployment" := by
  simp only [DEFAULT_LIFECYCLE_DEFINITIONS, List.mem_cons, List.not_mem_nil, or_false] at hspec
  rcases hspec with rfl | rfl | rfl
  · exact iff_of_true (Lifecycle.usable_of_distinct (by decide) (by decide) status) (by decide)
  · exact iff_of_true (Lifecycle.usable_of_distinct (by decide) (by decide) status) (by decide)
  · refine iff_of_false (fun h => ?_) (fun h => h rfl)
    exact (h.readable ⟨none, none, none, none⟩ List.mem_cons_self).1 rfl

/-! ## What a request is offered -/

def get_allowed_transitions (db : Db) (cr_id : ℕ) (current_user : CurrentUser) (tenant_id : ℕ) :
    Except Raised (List TransitionEntry) := do
  let cr ← _get_cr db cr_id tenant_id
  let tpl ← _load_lifecycle db cr.lifecycle_id tenant_id
  Lifecycle.get_allowed_transitions tpl.definition cr.status current_user.role

/-- Whoever asks: a verdict is given on every target, and the targets on the list are those
the verdict accepts once the required fields are supplied. -/
structure Answers (db : Db) (cr : ChangeRequest) (tpl : LifecycleTemplate) : Prop where
  verdict : ∀ (user : CurrentUser) to_state values, ∃ verdict,
    validate_transition tpl.definition cr.status to_state user.role values = .ok verdict
  offered : ∀ user : CurrentUser, ∃ offered,
    get_allowed_transitions db cr.id user cr.tenant_id = .ok offered ∧
      ∀ to_state values, Supplied tpl.definition to_state values →
        ((∃ t ∈ offered, t.to_state = some to_state) ↔
          validate_transition tpl.definition cr.status to_state user.role values = .ok (true, none))

/-- **When a change request is offered what it would be granted.** On any template, in any
state: its entries have their keys, and an entry repeated from that state names no role
that the first does not. -/
theorem answers_iff {db : Db} {cr : ChangeRequest} {tpl : LifecycleTemplate}
    (hcr : _get_cr db cr.id cr.tenant_id = .ok cr)
    (htpl : _load_lifecycle db cr.lifecycle_id cr.tenant_id = .ok tpl) :
    Answers db cr tpl ↔ Usable tpl.definition cr.status := by
  have hservice : ∀ user : CurrentUser, get_allowed_transitions db cr.id user cr.tenant_id =
      Lifecycle.get_allowed_transitions tpl.definition cr.status user.role := by
    intro user
    rw [get_allowed_transitions, hcr]
    change (_load_lifecycle db cr.lifecycle_id cr.tenant_id >>= _) = _
    rw [htpl]
    rfl
  -- every role is held by some user
  have holder : ∀ role : String, ∃ user : CurrentUser, user.role = role :=
    fun role => ⟨⟨0, 0, role, false⟩, rfl⟩
  rw [← Lifecycle.offers_iff]
  constructor
  · rintro ⟨hverdict, hoffered⟩
    refine ⟨fun to_state role values => ?_, fun role => ?_⟩
    · obtain ⟨user, rfl⟩ := holder role
      exact hverdict user to_state values
    · obtain ⟨user, rfl⟩ := holder role
      obtain ⟨offered, hlist, hagree⟩ := hoffered user
      exact ⟨offered, (hservice user).symm.trans hlist, hagree⟩
  · rintro ⟨hverdict, hoffered⟩
    refine ⟨fun user to_state values => hverdict to_state user.role values, fun user => ?_⟩
    obtain ⟨offered, hlist, hagree⟩ := hoffered user.role
    exact ⟨offered, (hservice user).trans hlist, hagree⟩

namespace Sample

/-- A tenant with its seeded change-request lifecycles. -/
def seeded : Db :=
  Db.seeded (seed_default_lifecycles Table.empty 1) Table.empty Bookings.Sample.environments
    Bookings.Sample.reference ⟨[], [], [], [], []⟩

/-- A change request on the lifecycle. -/
def change (lifecycle_id : ℕ) : ChangeRequestCreate :=
  ⟨"Ship the release", none, "code", lifecycle_id, none, [1], [], none, false, none, none, 0, 1,
    none⟩

def raised (lifecycle_id : ℕ) : Db :=
  Runs.run (step Bookings.Sample.ext) seeded
    [.create_change_request Lifecycle.Seeded.admin (change lifecycle_id)]

def row (lifecycle_id : ℕ) (status : String) : ChangeRequest :=
  (change lifecycle_id).row status 1 1 1

end Sample

/-- A draft on the seeded approval flow. -/
theorem simple_approval_answers :
    Answers (Sample.raised 1) (Sample.row 1 "draft") (DEFAULT_LIFECYCLE_DEFINITIONS[0].row 1 1) :=
  (answers_iff rfl rfl).2 (Lifecycle.usable_of_distinct (by decide) (by decide) "draft")

/-- A change request created on the seeded lifecycle of code deployments. -/
theorem code_deployment_raises :
    _get_cr (Sample.raised 3) 1 1 = .ok (Sample.row 3 "created") ∧
      _load_lifecycle (Sample.raised 3) 3 1 = .ok (DEFAULT_LIFECYCLE_DEFINITIONS[2].row 1 3) ∧
      ¬ Answers (Sample.raised 3) (Sample.row 3 "created")
        (DEFAULT_LIFECYCLE_DEFINITIONS[2].row 1 3) := by
  refine ⟨rfl, rfl, fun h => ?_⟩
  obtain ⟨verdict, hverdict⟩ :=
    h.verdict Lifecycle.Seeded.admin "deployed" ⟨Dict.empty, Dict.empty⟩
  cases hverdict

end EnvMgr.Statuses

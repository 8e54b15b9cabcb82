/-
Hyper-care and closeout: `services/release_closeout_service.py`, and the phase endpoints.

The closeout tab lists every closed state of a release's lifecycle template with what is missing
for it, and a transition into a closed state is refused for what is missing. The tab goes through
the states and the refusal looks one up by its key, which is the same where the key is that of one
state; and the tab is of project releases only. The queue of releases whose hyper-care is overdue
is a query, and the state shown on the tab is computed from the one phase that is found first: a
release has no second one, since a template that creates two is refused and so is adding one.
-/
import EnvMgr.Compliance.Policy
import EnvMgr.ReleaseTemplates.Layout
import EnvMgr.Statuses.Effects

namespace EnvMgr.Closeout

open Compliance (expiry_boundary)
open Lifecycle (LifecycleTemplate StateEntry scalar_one_or_none validate_transition)
open ReleaseTemplates (PhaseKind ReleaseTemplateCreate ReleaseTemplateInstantiate
  ReleaseTemplateUpdate TestPhase)
open Runs
open Statuses (PIR state_for_key unmet_requirements)

variable {p : TestPhase} {now : DateTime} {r : Statuses.Release}
variable {to_state user_role : String} {data : ReleaseTemplateInstantiate} {q : TestPhase}
  {exclude_phase_id : Option ℕ}
variable {phase_id template_id : ℕ}

/-! ## Tables -/

/-- `declared_stable_at` is the column of that name of a release. -/
structure Db where
  base : ReleaseTemplates.Db
  declared_stable_at : ℕ → Option DateTime

/-- No templates and no phases yet; releases, lifecycles and PIRs as they are. -/
def Db.opened (statuses : Statuses.Db) (gates : Gates.Db) : Db :=
  ⟨⟨statuses, gates, Table.empty, Table.empty⟩, fun _ => none⟩

structure TestPhaseCreate where
  name : String
  order : ℤ
  start_date : Option DateTime
  end_date : Option DateTime
  status : String
  kind : PhaseKind
  name_length : name.length ≤ 100

structure TestPhaseUpdate where
  name : Sent String
  order : Sent ℤ
  start_date : Sent DateTime
  end_date : Sent DateTime
  status : Sent String
  kind : Sent PhaseKind
  name_length : ∀ n, name = .value n → n.length ≤ 100

/-! ## The one hyper-care phase -/

/-- The first by its id. -/
def live_hypercare_phase (phases : Table TestPhase TestPhase.id) (release_id tenant_id : ℕ) :
    Option TestPhase :=
  (order_by TestPhase.id (phases.select fun p =>
    p.release_id = release_id ∧ p.tenant_id = tenant_id ∧ p.kind = .hypercare ∧
      p.deleted_at = none)).head?

def assert_hypercare_slot_free (phases : Table TestPhase TestPhase.id)
    (release_id tenant_id : ℕ) (exclude_phase_id : Option ℕ) : Except Raised Unit :=
  for_each (live_hypercare_phase phases release_id tenant_id).toList fun existing =>
    raise_if (some existing.id ≠ exclude_phase_id)
      (http 422 (s!"This release already has a hyper-care phase ('{existing.name}'); "
        ++ "edit or delete it rather than adding a second."))

/-- Only a hyper-care phase takes the slot. -/
def assert_slot_for (phases : Table TestPhase TestPhase.id) (kind : Option PhaseKind)
    (release_id tenant_id : ℕ) (exclude_phase_id : Option ℕ) : Except Raised Unit :=
  if kind = some .hypercare then
    assert_hypercare_slot_free phases release_id tenant_id exclude_phase_id
  else .ok ()

inductive HypercareState
  | none
  | planned
  | active
  | overdue
  | stable
  deriving DecidableEq

/-- The bounds are days. -/
def hypercare_state (phase : Option TestPhase) (declared_stable_at : Option DateTime)
    (now : DateTime) : HypercareState :=
  if declared_stable_at ≠ none then .stable
  else
    match phase with
    | none => .none
    | some phase =>
      let today := expiry_boundary now
      if ∃ start_date ∈ phase.start_date, today < expiry_boundary start_date then .planned
      else if ∃ end_date ∈ phase.end_date, expiry_boundary end_date < today then .overdue
      else .active

/-! ## Phases -/

def _require_phase (db : ReleaseTemplates.Db) (phase_id tenant_id : ℕ) : Except Raised TestPhase :=
  get_or_raise
    (db.phases.select_one fun p =>
      p.id = phase_id ∧ p.tenant_id = tenant_id ∧ p.deleted_at = none)
    (http 404 "Test phase not found")

def TestPhaseCreate.row (data : TestPhaseCreate) (release_id tenant_id id : ℕ) : TestPhase where
  id := id
  tenant_id := tenant_id
  release_id := release_id
  name := data.name
  order := data.order
  start_date := data.start_date
  end_date := data.end_date
  status := data.status
  kind := data.kind
  deleted_at := none

def create_phase (db : ReleaseTemplates.Db) (release_id : ℕ) (data : TestPhaseCreate)
    (tenant_id : ℕ) : Except Raised ReleaseTemplates.Db := do
  let _ ← Statuses._get_release db.statuses release_id tenant_id
  assert_slot_for db.phases (some data.kind) release_id tenant_id none
  .ok { db with phases := db.phases.insert ⟨data.row release_id tenant_id, fun _ => rfl⟩ }

def TestPhaseUpdate.set (data : TestPhaseUpdate) (phase : TestPhase) : TestPhase :=
  { phase with
    name := data.name.set_required phase.name
    order := data.order.set_required phase.order
    start_date := data.start_date.set_nullable phase.start_date
    end_date := data.end_date.set_nullable phase.end_date
    status := data.status.set_required phase.status
    kind := data.kind.set_required phase.kind }

def update_phase (db : ReleaseTemplates.Db) (phase_id : ℕ) (data : TestPhaseUpdate)
    (tenant_id : ℕ) : Except Raised ReleaseTemplates.Db := do
  let phase ← _require_phase db phase_id tenant_id
  assert_slot_for db.phases (data.kind.set_nullable none) phase.release_id tenant_id
    (some phase.id)
  raise_if (data.name = .null ∨ data.order = .null ∨ data.status = .null ∨ data.kind = .null)
    .IntegrityError
  .ok { db with
    phases := db.phases.update (fun p => p.id = phase.id) ⟨data.set, fun _ => rfl⟩ }

def delete_phase (db : ReleaseTemplates.Db) (phase_id tenant_id : ℕ) (now : DateTime) :
    Except Raised ReleaseTemplates.Db := do
  let phase ← _require_phase db phase_id tenant_id
  .ok { db with
    phases := db.phases.update (fun p => p.id = phase.id)
      ⟨fun p => { p with deleted_at := some now }, fun _ => rfl⟩ }

/-! ## Declarations -/

def _require_project_release (release : Statuses.Release) : Except Raised Unit :=
  raise_if (release.release_kind = "enterprise")
    (http 422 "Hyper-care and closeout apply to project releases only")

def declare_stable (db : Db) (release : Statuses.Release) (now : DateTime) : Except Raised Db := do
  _require_project_release release
  raise_if (db.declared_stable_at release.id ≠ none)
    (http 409 "This release is already declared stable; withdraw the declaration first")
  .ok { db with
    declared_stable_at := Function.update db.declared_stable_at release.id (some now) }

def withdraw_stable (db : Db) (release : Statuses.Release) : Except Raised Db := do
  _require_project_release release
  raise_if (db.declared_stable_at release.id = none)
    (http 409 "This release is not declared stable")
  .ok { db with declared_stable_at := Function.update db.declared_stable_at release.id none }

def set_handover (handover_confirmed_at : Option DateTime) : Table.Edit Statuses.Release.id where
  apply r := { r with handover_confirmed_at := handover_confirmed_at }
  key_apply _ := rfl

def Db.with_base (db : Db) (base : ReleaseTemplates.Db) : Db := { db with base := base }

def Db.with_statuses (db : Db) (statuses : Statuses.Db) : Db :=
  db.with_base { db.base with statuses := statuses }

def write_handover (db : Db) (release : Statuses.Release)
    (handover_confirmed_at : Option DateTime) : Db :=
  db.with_statuses { db.base.statuses with
    releases := db.base.statuses.releases.update (fun r => r.id = release.id)
      (set_handover handover_confirmed_at) }

def confirm_handover (db : Db) (release : Statuses.Release) (now : DateTime) :
    Except Raised Db := do
  _require_project_release release
  raise_if (release.operations_group_id = none)
    (http 422 "Set the release's operations group before confirming the handover")
  raise_if (release.handover_confirmed_at ≠ none)
    (http 409 "Handover is already confirmed; withdraw it first")
  .ok (write_handover db release (some now))

def withdraw_handover (db : Db) (release : Statuses.Release) : Except Raised Db := do
  _require_project_release release
  raise_if (release.handover_confirmed_at = none) (http 409 "Handover is not confirmed")
  .ok (write_handover db release none)

/-! ## The tab -/

/-- `pir_service.get_for_release`. -/
def get_for_release (db : Db) (tenant_id release_id : ℕ) : Except Raised (Option PIR) :=
  scalar_one_or_none (db.base.statuses.reference.pirs.filter fun p =>
    p.release_id = release_id ∧ p.tenant_id = tenant_id ∧ p.deleted_at = none)

structure HypercarePhaseRead where
  id : ℕ
  name : String
  start_date : Option DateTime
  end_date : Option DateTime

structure HypercareRead where
  state : HypercareState
  phase : Option HypercarePhaseRead
  declared_stable_at : Option DateTime

structure HandoverRead where
  operations_group_id : Option ℕ
  confirmed_at : Option DateTime

structure PirStateRead where
  exists_ : Bool
  status : Option String

structure CloseTargetRead where
  state_key : String
  label : String
  requires_pir_complete : Bool
  requires_handover_confirmed : Bool
  unmet : List String
  can_close : Bool

structure CloseoutRead where
  hypercare : HypercareRead
  handover : HandoverRead
  pir : PirStateRead
  close_targets : List CloseTargetRead

def close_target (pir : Option PIR) (release : Statuses.Release) (state : StateEntry) :
    CloseTargetRead where
  state_key := state.key
  label := state.label.getD state.key
  requires_pir_complete := state.flag "requires_pir_complete"
  requires_handover_confirmed := state.flag "requires_handover_confirmed"
  unmet := unmet_requirements state pir release
  can_close := unmet_requirements state pir release = []

/-- The states of the template, if the tenant has it. -/
def close_targets (tpl : Option LifecycleTemplate) (pir : Option PIR) (release : Statuses.Release) :
    List CloseTargetRead :=
  let states := (tpl.map fun t => t.definition.states).getD []
  (states.filter fun state => state.flag "is_closed").map (close_target pir release)

def lifecycle_of (statuses : Statuses.Db) (release : Statuses.Release) (tenant_id : ℕ) :
    Option LifecycleTemplate :=
  statuses.templates.select_one fun t =>
    t.id = release.lifecycle_template_id ∧ t.tenant_id = tenant_id

def build_closeout (db : Db) (release : Statuses.Release) (tenant_id : ℕ) (now : DateTime) :
    Except Raised CloseoutRead := do
  _require_project_release release
  let phase := live_hypercare_phase db.base.phases release.id tenant_id
  let pir ← get_for_release db tenant_id release.id
  let tpl := lifecycle_of db.base.statuses release tenant_id
  .ok {
    hypercare := {
      state := hypercare_state phase (db.declared_stable_at release.id) now
      phase := phase.map fun p => ⟨p.id, p.name, p.start_date, p.end_date⟩
      declared_stable_at := db.declared_stable_at release.id }
    handover := ⟨release.operations_group_id, release.handover_confirmed_at⟩
    pir := ⟨pir.isSome, pir.map PIR.status⟩
    close_targets := close_targets tpl pir release }

/-! ## The queue -/

def HORIZON_DAYS : ℤ := 7

/-- The join and the clauses on one release and one phase. -/
def queued (db : Db) (tenant_id : ℕ) (latest : DateTime) (r : Statuses.Release)
    (p : TestPhase) : Prop :=
  (p.release_id = r.id ∧ p.kind = .hypercare ∧ p.deleted_at = none) ∧
    r.tenant_id = tenant_id ∧ r.deleted_at = none ∧ r.release_kind = "project" ∧
    db.declared_stable_at r.id = none ∧ ∃ end_date ∈ p.end_date, end_date < latest
  deriving Decidable

/-- The rows, each with the id and the name of a release and the end of its phase. -/
def _hypercare_queue_query (db : Db) (tenant_id : ℕ) (boundary : DateTime) (overdue_only : Bool) :
    List (ℕ × String × Option DateTime) :=
  let latest := if overdue_only then boundary else boundary + timedelta.days (HORIZON_DAYS + 1)
  let rows := db.base.statuses.releases.rows.flatMap fun r =>
    (db.base.phases.rows.filter fun p => queued db tenant_id latest r p).map fun p =>
      (r.id, r.name, p.end_date)
  order_by (fun row => toLex (row.2.2.getD 0, row.1)) rows

/-! ## The routes -/

inductive Request
  | statuses (request : Statuses.Request)
  | create_template (data : ReleaseTemplateCreate)
  | update_template (template_id : ℕ) (data : ReleaseTemplateUpdate)
  | delete_template (template_id : ℕ)
  | instantiate (template_id : ℕ) (data : ReleaseTemplateInstantiate)
  | create_phase (release_id : ℕ) (data : TestPhaseCreate)
  | update_phase (phase_id : ℕ) (data : TestPhaseUpdate)
  | delete_phase (phase_id : ℕ)
  | declare_stable (release_id : ℕ)
  | withdraw_stable (release_id : ℕ)
  | confirm_handover (release_id : ℕ)
  | withdraw_handover (release_id : ℕ)

structure Call where
  current_user : CurrentUser
  request : Request
  now : DateTime

/-- `_run`, for a release manager. -/
def on_release (db : Db) (user : CurrentUser) (release_id : ℕ)
    (f : Statuses.Release → Except Raised Db) : Except Raised Db := do
  require_role Role.RELEASE_MANAGER user
  let release ← Statuses._get_release db.base.statuses release_id user.active_tenant_id
  f release

def handle (ext : Bookings.External) (db : Db) (call : Call) : Except Raised Db :=
  let user := call.current_user
  let tenant_id := user.active_tenant_id
  match call.request with
  | .statuses request => (Statuses.handle ext db.base.statuses request).map db.with_statuses
  | .create_template data =>
    (ReleaseTemplates.create_template db.base data tenant_id).map db.with_base
  | .update_template template_id data =>
    (ReleaseTemplates.update_template db.base template_id data tenant_id).map db.with_base
  | .delete_template template_id =>
    (ReleaseTemplates.delete_template db.base template_id tenant_id call.now).map db.with_base
  | .instantiate template_id data =>
    (ReleaseTemplates.instantiate db.base template_id data tenant_id user.id).map db.with_base
  | .create_phase release_id data =>
    (create_phase db.base release_id data tenant_id).map db.with_base
  | .update_phase phase_id data => (update_phase db.base phase_id data tenant_id).map db.with_base
  | .delete_phase phase_id => (delete_phase db.base phase_id tenant_id call.now).map db.with_base
  | .declare_stable release_id =>
    on_release db user release_id fun release => declare_stable db release call.now
  | .withdraw_stable release_id => on_release db user release_id (withdraw_stable db)
  | .confirm_handover release_id =>
    on_release db user release_id fun release => confirm_handover db release call.now
  | .withdraw_handover release_id => on_release db user release_id (withdraw_handover db)

def step (ext : Bookings.External) (db : Db) (call : Call) : Db :=
  commit_or_rollback db (handle ext db call)

/-! ## The property -/

/-- The transition is allowed by the lifecycle of the release. -/
structure Move (db : Db) (release_id : ℕ) (to_state : String) (tenant_id : ℕ)
    (user_role : String) (release : Statuses.Release) (tpl : LifecycleTemplate) : Prop where
  found : Statuses._get_release db.base.statuses release_id tenant_id = .ok release
  template : lifecycle_of db.base.statuses release tenant_id = some tpl
  allowed : ∃ reason, validate_transition tpl.definition release.status to_state user_role
    release.record_values = .ok (true, reason)

/-- The tab says that something is missing for the state. -/
def Listed (db : Db) (release : Statuses.Release) (tenant_id : ℕ) (key : String)
    (now : DateTime) : Prop :=
  ∃ closeout, build_closeout db release tenant_id now = .ok closeout ∧
    ∃ target ∈ closeout.close_targets, target.state_key = key ∧ target.can_close = false

/-- The transition answers 422. -/
def Refused (db : Db) (release_id : ℕ) (to_state : String) (tenant_id : ℕ) (user_role : String)
    (now : DateTime) : Prop :=
  ∃ message, Statuses.transition_release db.base.statuses release_id to_state tenant_id user_role
    now = .error (http 422 message)

/-- No two states have this key. -/
def OneState (definition : Lifecycle.Definition) (key : String) : Prop :=
  ∀ s ∈ definition.states, ∀ s' ∈ definition.states, s.key = key → s'.key = key → s = s'

def LiveHypercare (p : TestPhase) : Prop := p.kind = .hypercare ∧ p.deleted_at = none

/-- No release has two live hyper-care phases. -/
def Single (phases : Table TestPhase TestPhase.id) : Prop :=
  ∀ p ∈ phases, ∀ q ∈ phases,
    LiveHypercare p ∧ LiveHypercare q ∧ p.release_id = q.release_id → p = q

/-- A phase whose last day is over does not start after today. -/
def Forward (phase : Option TestPhase) (now : DateTime) : Prop :=
  ∀ p ∈ phase, (∃ end_date ∈ p.end_date, expiry_boundary end_date < expiry_boundary now) →
    ¬ ∃ start_date ∈ p.start_date, expiry_boundary now < expiry_boundary start_date

/-- The tab and the refusal agree, and so do the state and the queue. -/
structure Agrees (db : Db) : Prop where
  tab : ∀ {release_id : ℕ} {to_state : String} {tenant_id : ℕ} {user_role : String}
    {release : Statuses.Release} {tpl : LifecycleTemplate} (now now' : DateTime),
    Move db release_id to_state tenant_id user_role release tpl →
      release.release_kind ≠ "enterprise" → OneState tpl.definition to_state →
        (Listed db release tenant_id to_state now ↔
          Refused db release_id to_state tenant_id user_role now')
  single : Single db.base.phases
  queue : ∀ r ∈ db.base.statuses.releases, r.deleted_at = none → r.release_kind = "project" →
    ∀ now, Forward (live_hypercare_phase db.base.phases r.id r.tenant_id) now →
      (hypercare_state (live_hypercare_phase db.base.phases r.id r.tenant_id)
          (db.declared_stable_at r.id) now = .overdue ↔
        ∃ row ∈ _hypercare_queue_query db r.tenant_id (expiry_boundary now) true, row.1 = r.id)

/-! ## The tab and the refusal -/

section Tab

variable {db : Db} {release : Statuses.Release} {tpl : LifecycleTemplate} {tenant_id : ℕ}
variable {key : String}

theorem state_for_key_iff {definition : Lifecycle.Definition} (h : OneState definition key)
    {state : StateEntry} :
    state_for_key definition key = some state ↔ state ∈ definition.states ∧ state.key = key := by
  constructor
  · intro hfind
    have hkey := List.find?_some hfind
    exact ⟨List.mem_of_find?_eq_some hfind, of_decide_eq_true hkey⟩
  · rintro ⟨hmem, hkey⟩
    cases hfind : state_for_key definition key with
    | none => exact absurd (decide_eq_true hkey) (List.find?_eq_none.1 hfind state hmem)
    | some found =>
      have hfound := List.mem_of_find?_eq_some hfind
      have hkey' := List.find?_some hfind
      rw [h found hfound state hmem (of_decide_eq_true hkey') hkey]

/-- What the tab lists, the closed states with something missing. -/
theorem listed_iff (hkind : release.release_kind ≠ "enterprise")
    (htpl : lifecycle_of db.base.statuses release tenant_id = some tpl) (now : DateTime) :
    Listed db release tenant_id key now ↔
      ∃ pir, get_for_release db tenant_id release.id = .ok pir ∧
        ∃ state ∈ tpl.definition.states, state.key = key ∧ state.flag "is_closed" = true ∧
          unmet_requirements state pir release ≠ [] := by
  simp only [Listed, build_closeout, _require_project_release, bind_eq_ok, raise_if_eq_ok, htpl,
    Except.ok.injEq]
  constructor
  · rintro ⟨_, ⟨_, -, pir, hpir, rfl⟩, target, htarget, hkey, hclose⟩
    obtain ⟨state, hstate, rfl⟩ := List.mem_map.1 htarget
    obtain ⟨hmem, hclosed⟩ := List.mem_filter.1 hstate
    exact ⟨pir, hpir, state, hmem, hkey, hclosed, of_decide_eq_false hclose⟩
  · rintro ⟨pir, hpir, state, hmem, hkey, hclosed, hunmet⟩
    refine ⟨_, ⟨(), hkind, pir, hpir, rfl⟩, close_target pir release state, ?_, hkey,
      decide_eq_false hunmet⟩
    exact List.mem_map_of_mem (List.mem_filter.2 ⟨hmem, hclosed⟩)

/-- Two rows are no answer of the service. -/
theorem scalar_one_or_none_error {α : Type} {rows : List α} {e : Raised}
    (h : scalar_one_or_none rows = .error e) : e = .MultipleResultsFound := by
  rw [scalar_one_or_none, bind_eq_error] at h
  rcases h with h | ⟨_, -, h⟩
  · exact (raise_if_eq_error.1 h).2.symm
  · cases h

/-- What the guard refuses. -/
theorem assert_may_close_iff {target_state : Option StateEntry} :
    (∃ message, Statuses.assert_may_close db.base.statuses release target_state tenant_id =
        .error (http 422 message)) ↔
      ∃ pir, get_for_release db tenant_id release.id = .ok pir ∧
        ∃ state, target_state = some state ∧ state.flag "is_closed" = true ∧
          unmet_requirements state pir release ≠ [] := by
  cases target_state with
  | none => simp [Statuses.assert_may_close]
  | some state =>
    rw [Statuses.assert_may_close]
    by_cases hclosed : state.flag "is_closed" = false
    · simp [hclosed]
    · rw [if_neg hclosed]
      rw [Bool.not_eq_false] at hclosed
      simp only [bind_eq_error, raise_if_eq_error]
      constructor
      · rintro ⟨message, hmany | ⟨pir, hpir, hunmet, -⟩⟩
        · cases scalar_one_or_none_error hmany
        · exact ⟨pir, hpir, state, rfl, hclosed, hunmet⟩
      · rintro ⟨pir, hpir, _, ⟨⟩, -, hunmet⟩
        exact ⟨_, Or.inr ⟨pir, hpir, hunmet, rfl⟩⟩

theorem refused_iff {release_id : ℕ}
    (h : Move db release_id to_state tenant_id user_role release tpl)
    (hone : OneState tpl.definition to_state) (now : DateTime) :
    Refused db release_id to_state tenant_id user_role now ↔
      ∃ pir, get_for_release db tenant_id release.id = .ok pir ∧
        ∃ state ∈ tpl.definition.states, state.key = to_state ∧ state.flag "is_closed" = true ∧
          unmet_requirements state pir release ≠ [] := by
  obtain ⟨reason, hallowed⟩ := h.allowed
  have htransition : ∀ message, Statuses.transition_release db.base.statuses release_id to_state
      tenant_id user_role now = .error (http 422 message) ↔
      Statuses.assert_may_close db.base.statuses release
        (state_for_key tpl.definition to_state) tenant_id = .error (http 422 message) := by
    intro message
    have htpl : get_or_raise (db.base.statuses.templates.select_one fun t =>
        t.id = release.lifecycle_template_id ∧ t.tenant_id = tenant_id)
        (http 500 "Release lifecycle template not found") = .ok tpl :=
      get_or_raise_eq_ok.2 h.template
    simp only [Statuses.transition_release, bind_eq_error, h.found, htpl, hallowed,
      reduceCtorEq, false_or, Except.ok.injEq, exists_eq_left', raise_if_eq_error,
      raise_if_eq_ok, false_and, and_false, not_false_eq_true, true_and, exists_const, or_false]
  rw [Refused, exists_congr htransition, assert_may_close_iff]
  simp only [state_for_key_iff hone, and_assoc]

theorem tab_agrees {release_id : ℕ} (now now' : DateTime)
    (h : Move db release_id to_state tenant_id user_role release tpl)
    (hkind : release.release_kind ≠ "enterprise") (hone : OneState tpl.definition to_state) :
    Listed db release tenant_id to_state now ↔
      Refused db release_id to_state tenant_id user_role now' :=
  (listed_iff hkind h.template now).trans (refused_iff h hone now').symm

end Tab

/-! ## The state and the queue -/

section Queue

variable {phases : Table TestPhase TestPhase.id} {release_id tenant_id : ℕ}

/-- The phase that is found first is the one there is. -/
theorem live_hypercare_phase_iff (h : Single phases) :
    live_hypercare_phase phases release_id tenant_id = some p ↔
      p ∈ phases ∧ p.release_id = release_id ∧ p.tenant_id = tenant_id ∧ LiveHypercare p := by
  have hmem : ∀ p, p ∈ order_by TestPhase.id (phases.select fun p =>
      p.release_id = release_id ∧ p.tenant_id = tenant_id ∧ p.kind = .hypercare ∧
        p.deleted_at = none) ↔
      p ∈ phases ∧ p.release_id = release_id ∧ p.tenant_id = tenant_id ∧ LiveHypercare p := by
    intro p
    rw [mem_order_by, Table.mem_select, decide_eq_true_eq]
    rfl
  rw [live_hypercare_phase, ← hmem]
  constructor
  · exact List.mem_of_mem_head?
  · intro hp
    obtain ⟨q, hq⟩ := Option.isSome_iff_exists.1 (List.isSome_head?.2 (List.ne_nil_of_mem hp))
    obtain ⟨hp', hid, -, hlive⟩ := (hmem p).1 hp
    obtain ⟨hq', hid', -, hlive'⟩ := (hmem q).1 (List.mem_of_mem_head? hq)
    rw [hq, h p hp' q hq' ⟨hlive, hlive', hid.trans hid'.symm⟩]

/-- The day is over when the day of `now` has begun. -/
theorem expiry_boundary_lt {t : DateTime} :
    expiry_boundary t < expiry_boundary now ↔ t < expiry_boundary now := by
  have hday : ∀ t now : ℤ, t - t % 86400000000 < now - now % 86400000000 ↔
      t < now - now % 86400000000 := by
    intro t now
    omega
  exact hday t now

theorem overdue_iff {phase : Option TestPhase} {declared_stable_at : Option DateTime}
    (h : Forward phase now) :
    hypercare_state phase declared_stable_at now = .overdue ↔ declared_stable_at = none ∧
      ∃ p ∈ phase, ∃ end_date ∈ p.end_date, end_date < expiry_boundary now := by
  unfold hypercare_state
  by_cases hstable : declared_stable_at = none
  · rw [if_neg (not_not.2 hstable), and_iff_right hstable]
    cases phase with
    | none => simp
    | some p =>
      have hends : (∃ q ∈ some p, ∃ end_date ∈ q.end_date, end_date < expiry_boundary now) ↔
          ∃ end_date ∈ p.end_date, expiry_boundary end_date < expiry_boundary now := by
        simp only [Option.mem_def, Option.some.injEq, exists_eq_left', expiry_boundary_lt]
      rw [hends]
      by_cases hended : ∃ end_date ∈ p.end_date, expiry_boundary end_date < expiry_boundary now
      · have hstarted := h p rfl hended
        dsimp only
        rw [if_neg hstarted, if_pos hended]
        exact iff_of_true rfl hended
      · dsimp only
        rw [if_neg hended]
        refine iff_of_false ?_ hended
        split <;> nofun
  · rw [if_pos hstable]
    exact iff_of_false nofun fun h => hstable h.1

theorem queue_iff {db : Db} (hr : r ∈ db.base.statuses.releases) {boundary : DateTime} :
    (∃ row ∈ _hypercare_queue_query db tenant_id boundary true, row.1 = r.id) ↔
      ∃ p ∈ db.base.phases, queued db tenant_id boundary r p := by
  simp only [_hypercare_queue_query, mem_order_by, if_true, List.mem_flatMap, List.mem_map,
    List.mem_filter, decide_eq_true_eq]
  constructor
  · rintro ⟨_, ⟨r', hr', p, ⟨hp, hqueued⟩, rfl⟩, hid⟩
    obtain rfl := Table.eq_of_key_eq hr' hr hid
    exact ⟨p, hp, hqueued⟩
  · rintro ⟨p, hp, hqueued⟩
    exact ⟨_, ⟨r, hr, p, ⟨hp, hqueued⟩, rfl⟩, rfl⟩

end Queue

/-! ## What every request keeps -/

/-- No template makes two hyper-care phases, a phase is of its release's tenant, and no release
has two live hyper-care phases. -/
structure Sound (db : ReleaseTemplates.Db) : Prop where
  templates : ∀ t ∈ db.templates, t.hypercare_cfgs.length ≤ 1
  housed : ∀ p ∈ db.phases, ∃ r ∈ db.statuses.releases,
    r.id = p.release_id ∧ r.tenant_id = p.tenant_id
  single : Single db.phases

section Sound

variable {db : ReleaseTemplates.Db} {tenant_id : ℕ}

/-! ### Releases -/

/-- The same release of the same tenant. -/
def SameRelease (a b : Statuses.Release) : Prop := b.id = a.id ∧ b.tenant_id = a.tenant_id

theorem SameRelease.refl (r : Statuses.Release) : SameRelease r r := ⟨rfl, rfl⟩

theorem sound_statuses (h : Sound db) {statuses : Statuses.Db}
    (hretains : Table.Retains SameRelease db.statuses.releases statuses.releases) :
    Sound { db with statuses := statuses } where
  templates := h.templates
  housed p hp := by
    obtain ⟨r, hr, hid, htenant⟩ := h.housed p hp
    obtain ⟨r', hr', hid', htenant'⟩ := hretains r hr
    exact ⟨r', hr', hid'.trans hid, htenant'.trans htenant⟩
  single := h.single

theorem retains_of_handle {ext : Bookings.External} {statuses statuses' : Statuses.Db}
    {request : Statuses.Request} (hok : Statuses.handle ext statuses request = .ok statuses') :
    Table.Retains SameRelease statuses.releases statuses'.releases := by
  cases Statuses.effect_of_handle hok with
  | templates => exact Table.retains_refl SameRelease.refl _
  | created => exact Table.retains_insert SameRelease.refl _ _
  | moved => exact Table.retains_update SameRelease.refl _ _ fun r => ⟨rfl, rfl⟩
  | deleted => exact Table.retains_update SameRelease.refl _ _ fun r => ⟨rfl, rfl⟩
  | other _ _ hreleases =>
    rw [hreleases]
    exact Table.retains_refl SameRelease.refl _

theorem get_release_ok {statuses : Statuses.Db} {release_id : ℕ} :
    Statuses._get_release statuses release_id tenant_id = .ok r ↔
      r ∈ statuses.releases ∧ r.id = release_id ∧ r.tenant_id = tenant_id ∧
        r.deleted_at = none := by
  rw [Statuses._get_release, get_or_raise_eq_ok]
  exact Table.select_one_key_iff fun _ hmatch => hmatch.1

/-! ### Templates -/

/-- The hyper-care phases of a template, counted where they are stored. -/
theorem length_hypercare_cfgs (t : ReleaseTemplates.ReleaseTemplate) :
    t.hypercare_cfgs.length =
      (t.phases.getD []).countP fun p => (ReleaseTemplates._cfg p).kind = .hypercare := by
  rw [ReleaseTemplates.ReleaseTemplate.hypercare_cfgs,
    ReleaseTemplates.ReleaseTemplate.phases_config, ← List.countP_eq_length_filter,
    List.countP_map]
  rfl

theorem single_of_validate {phases : List ReleaseTemplates.ReleaseTemplatePhase}
    (h : ReleaseTemplates._validate_single_hypercare_phase phases = .ok ()) :
    (phases.countP fun p => (ReleaseTemplates._cfg p).kind = .hypercare) ≤ 1 := by
  rw [ReleaseTemplates._validate_single_hypercare_phase, raise_if_eq_ok, not_lt,
    List.length_map, ← List.countP_eq_length_filter] at h
  exact h

theorem sound_templates (h : Sound db)
    {templates : Table ReleaseTemplates.ReleaseTemplate ReleaseTemplates.ReleaseTemplate.id}
    (htemplates : ∀ t ∈ templates, t.hypercare_cfgs.length ≤ 1) :
    Sound { db with templates := templates } :=
  ⟨htemplates, h.housed, h.single⟩

theorem sound_create_template (h : Sound db) {data : ReleaseTemplateCreate}
    {db' : ReleaseTemplates.Db}
    (hok : ReleaseTemplates.create_template db data tenant_id = .ok db') : Sound db' := by
  simp only [ReleaseTemplates.create_template, bind_eq_ok] at hok
  obtain ⟨_, -, _, hsingle, _, -, hok⟩ := hok
  cases hok
  refine sound_templates h ((Table.forall_insert_iff h.templates).2 ?_)
  rw [length_hypercare_cfgs]
  show ((data.phases.map ReleaseTemplates.ReleaseTemplatePhase.model_dump).countP _) ≤ 1
  -- a default that is written out is the default that is read
  rw [List.countP_map]
  exact single_of_validate hsingle

theorem sound_update_template (h : Sound db) {data : ReleaseTemplateUpdate}
    {db' : ReleaseTemplates.Db}
    (hok : ReleaseTemplates.update_template db template_id data tenant_id = .ok db') :
    Sound db' := by
  simp only [ReleaseTemplates.update_template, bind_eq_ok] at hok
  obtain ⟨tpl, -, _, -, _, hsingle, _, -, _, -, hok⟩ := hok
  cases hok
  refine sound_templates h ((Table.forall_update_iff h.templates).2 fun t ht _ => ?_)
  rw [length_hypercare_cfgs]
  show (((data.phases.set_nullable t.phases).getD []).countP _) ≤ 1
  -- the phases are those the template had, or none, or those that were checked
  cases hphases : data.phases with
  | omitted =>
    have hkept := h.templates t ht
    rwa [length_hypercare_cfgs] at hkept
  | null => exact Nat.zero_le 1
  | value phases =>
    rw [hphases] at hsingle
    exact single_of_validate (for_each_eq_ok.1 hsingle phases (List.mem_singleton_self _))

theorem sound_delete_template (h : Sound db) {db' : ReleaseTemplates.Db}
    (hok : ReleaseTemplates.delete_template db template_id tenant_id now = .ok db') :
    Sound db' := by
  simp only [ReleaseTemplates.delete_template, bind_eq_ok] at hok
  obtain ⟨tpl, -, _, -, hok⟩ := hok
  cases hok
  exact sound_templates h ((Table.forall_update_iff h.templates).2 fun t ht _ => h.templates t ht)

/-! ### A release from a template -/

/-- Every phase that is added is of the new release. -/
theorem owned_of_add_phases {phases : Table TestPhase TestPhase.id}
    {tpl : ReleaseTemplates.ReleaseTemplate} {release_id : ℕ} {s : ReleaseTemplates.Placing}
    (hok : ReleaseTemplates.add_phases phases tpl data release_id tenant_id = .ok s) :
    ∀ p ∈ s.phases, p ∈ phases ∨ p.release_id = release_id ∧ p.tenant_id = tenant_id := by
  let Owned := fun s : ReleaseTemplates.Placing =>
    ∀ p ∈ s.phases, p ∈ phases ∨ p.release_id = release_id ∧ p.tenant_id = tenant_id
  have hadd : ∀ s c window cursor, Owned s →
      Owned (ReleaseTemplates.add_phase release_id tenant_id c window cursor s) := by
    intro s c window cursor hs p hp
    rcases Table.mem_insert.1 hp with hp | rfl
    · exact hs p hp
    · exact Or.inr ⟨rfl, rfl⟩
  simp only [ReleaseTemplates.add_phases, bind_eq_ok] at hok
  obtain ⟨s₁, htests, hcares⟩ := hok
  have hs₁ : Owned s₁ := by
    refine foldlM_inv (P := Owned) ?_ (fun p hp => Or.inl hp) htests
    intro s c s' hs hturn
    obtain ⟨-, rfl⟩ := ReleaseTemplates.add_test_phase_ok.1 hturn
    exact hadd s c _ _ hs
  have hrewound : Owned { s₁ with cursor := data.target_date } := hs₁
  refine foldlM_inv (P := Owned) ?_ hrewound hcares
  intro s c s' hs hturn
  obtain ⟨-, rfl⟩ := ReleaseTemplates.add_hypercare_phase_ok.1 hturn
  exact hadd s c _ _ hs

/-- There is at most one hyper-care phase among those that are added. -/
theorem hypercare_eq {tpl : ReleaseTemplates.ReleaseTemplate} {release_id : ℕ}
    {added : List TestPhase} {target : DateTime}
    (hare : ReleaseTemplates.Are release_id added (tpl.windows target))
    (hone : tpl.hypercare_cfgs.length ≤ 1) (hp : p ∈ added) (hq : q ∈ added)
    (hpkind : p.kind = .hypercare) (hqkind : q.kind = .hypercare) : p = q := by
  have hlength := congrArg List.length hare.hypercare
  rw [List.length_map, List.length_map] at hlength
  have hplace := congrArg List.length (@Interval.place_map_fst _ _ _
    ReleaseTemplates.PhaseConfig.duration target tpl.hypercare_cfgs)
  rw [List.length_map] at hplace
  have hle : (ReleaseTemplates.hypercare_phases added).length ≤ 1 := by omega
  have hmem : ∀ p ∈ added, p.kind = .hypercare → p ∈ ReleaseTemplates.hypercare_phases added :=
    fun p hp hkind => List.mem_filter.2 ⟨hp, decide_eq_true hkind⟩
  obtain ⟨i, hi, rfl⟩ := List.getElem_of_mem (hmem p hp hpkind)
  obtain ⟨j, hj, rfl⟩ := List.getElem_of_mem (hmem q hq hqkind)
  obtain rfl : i = j := by omega
  rfl

theorem sound_instantiate (h : Sound db) {user_id : ℕ} {db' : ReleaseTemplates.Db}
    (hok : ReleaseTemplates.instantiate db template_id data tenant_id user_id = .ok db') :
    Sound db' := by
  simp only [ReleaseTemplates.instantiate, bind_eq_ok] at hok
  obtain ⟨tpl, htpl, statuses, hrelease, placed, hplaced, gates, -, hok⟩ := hok
  cases hok
  have hstored := (Table.select_one_some (get_or_raise_eq_ok.1 htpl)).1
  simp only [Statuses.create_release, bind_eq_ok] at hrelease
  obtain ⟨lifecycle, -, _, -, _, -, _, -, hrelease⟩ := hrelease
  cases hrelease
  have howned := owned_of_add_phases hplaced
  obtain ⟨added, hrows, hare⟩ := (ReleaseTemplates.add_phases_ok.2 placed hplaced).rows
  -- no phase that was there is of the new release
  have hold : ∀ p ∈ db.phases, p.release_id < db.statuses.releases.next := by
    intro p hp
    obtain ⟨r, hr, hid, -⟩ := h.housed p hp
    rw [← hid]
    exact Table.key_lt_next hr
  refine ⟨h.templates, fun p hp => ?_, ?_⟩
  · rcases howned p hp with hp | ⟨hid, htenant⟩
    · obtain ⟨r, hr, hfields⟩ := h.housed p hp
      exact ⟨r, Table.mem_insert.2 (Or.inl hr), hfields⟩
    · exact ⟨_, Table.mem_insert.2 (Or.inr rfl), hid.symm, htenant.symm⟩
  · -- the new release has no phases but those that are added
    have hadded : ∀ p ∈ placed.phases, p.release_id = db.statuses.releases.next → p ∈ added := by
      intro p hp hid
      rw [Table.mem_def, hrows] at hp
      rcases List.mem_append.1 hp with hp | hp
      · exact absurd hid (hold p hp).ne
      · exact hp
    rintro p hp q hq ⟨hplive, hqlive, hsame⟩
    rcases howned p hp with hpold | ⟨hpid, -⟩
    · rcases howned q hq with hqold | ⟨hqid, -⟩
      · exact h.single p hpold q hqold ⟨hplive, hqlive, hsame⟩
      · exact absurd (hsame.trans hqid) (hold p hpold).ne
    · exact hypercare_eq hare (h.templates tpl hstored) (hadded p hp hpid)
        (hadded q hq (hsame.symm.trans hpid)) hplive.1 hqlive.1

/-! ### Phases -/

theorem slot_free_ok {phases : Table TestPhase TestPhase.id} {release_id : ℕ} :
    assert_hypercare_slot_free phases release_id tenant_id exclude_phase_id = .ok () ↔
      ∀ p, live_hypercare_phase phases release_id tenant_id = some p →
        some p.id = exclude_phase_id := by
  simp only [assert_hypercare_slot_free, for_each_eq_ok, raise_if_eq_ok, Option.mem_toList,
    ne_eq, not_not]

/-- A live hyper-care phase of the release is in the way, unless it is the one left out. -/
theorem slot_taken (h : Sound db) (hr : r ∈ db.statuses.releases) {kind : Option PhaseKind}
    (hok : assert_slot_for db.phases kind r.id r.tenant_id exclude_phase_id = .ok ())
    (hkind : kind = some .hypercare) (hp : p ∈ db.phases) (hlive : LiveHypercare p)
    (hid : p.release_id = r.id) : some p.id = exclude_phase_id := by
  rw [assert_slot_for, if_pos hkind, slot_free_ok] at hok
  obtain ⟨r', hr', hid', htenant'⟩ := h.housed p hp
  obtain rfl := Table.eq_of_key_eq hr' hr (hid'.trans hid)
  exact hok p ((live_hypercare_phase_iff h.single).2 ⟨hp, hid, htenant'.symm, hlive⟩)

theorem live_symm (h : LiveHypercare p ∧ LiveHypercare q ∧ p.release_id = q.release_id) :
    LiveHypercare q ∧ LiveHypercare p ∧ q.release_id = p.release_id :=
  ⟨h.2.1, h.1, h.2.2.symm⟩

theorem sound_create_phase (h : Sound db) {release_id : ℕ} {data : TestPhaseCreate}
    {db' : ReleaseTemplates.Db} (hok : create_phase db release_id data tenant_id = .ok db') :
    Sound db' := by
  simp only [create_phase, bind_eq_ok] at hok
  obtain ⟨r, hget, _, hslot, hok⟩ := hok
  cases hok
  obtain ⟨hr, rfl, rfl, -⟩ := get_release_ok.1 hget
  refine ⟨h.templates, (Table.forall_insert_iff h.housed).2 ⟨r, hr, rfl, rfl⟩, ?_⟩
  refine Table.unique_insert live_symm h.single ?_
  rintro p hp ⟨hlive, hnew, hid⟩
  cases slot_taken h hr hslot (congrArg some hnew.1) hp hlive hid

theorem require_phase_ok {phase : TestPhase} :
    _require_phase db phase_id tenant_id = .ok phase ↔
      phase ∈ db.phases ∧ phase.id = phase_id ∧ phase.tenant_id = tenant_id ∧
        phase.deleted_at = none := by
  rw [_require_phase, get_or_raise_eq_ok]
  exact Table.select_one_key_iff fun _ hmatch => hmatch.1

theorem sound_update_phase (h : Sound db) {data : TestPhaseUpdate} {db' : ReleaseTemplates.Db}
    (hok : update_phase db phase_id data tenant_id = .ok db') :
    Sound db' := by
  simp only [update_phase, bind_eq_ok, raise_if_eq_ok] at hok
  obtain ⟨phase, hget, _, hslot, _, hnull, hok⟩ := hok
  cases hok
  obtain ⟨hphase, -, rfl, hlive⟩ := require_phase_ok.1 hget
  refine ⟨h.templates, (Table.forall_update_iff h.housed).2 fun p hp _ => h.housed p hp, ?_⟩
  refine (Table.unique_update_iff live_symm h.single hphase fun p hp => ?_).2 ?_
  · rw [decide_eq_true_eq]
    exact ⟨fun hid => Table.eq_of_key_eq hp hphase hid, fun heq => by rw [heq]⟩
  · rintro p hp ⟨hplive, hnew, hid⟩
    have hkind : data.kind.set_required phase.kind = .hypercare := hnew.1
    cases hsent : data.kind with
    | omitted =>
      rw [hsent] at hkind
      exact h.single p hp phase hphase ⟨hplive, ⟨hkind, hlive⟩, hid⟩
    | null => exact absurd (Or.inr (Or.inr (Or.inr hsent))) hnull
    | value kind =>
      rw [hsent] at hkind hslot
      obtain ⟨r, hr, hrid, hrtenant⟩ := h.housed phase hphase
      rw [← hrid, ← hrtenant] at hslot
      have htaken := slot_taken h hr hslot (congrArg some hkind) hp hplive (hid.trans hrid.symm)
      exact Table.eq_of_key_eq hp hphase (Option.some.inj htaken)

theorem sound_delete_phase (h : Sound db) {db' : ReleaseTemplates.Db}
    (hok : delete_phase db phase_id tenant_id now = .ok db') :
    Sound db' := by
  simp only [delete_phase, bind_eq_ok] at hok
  obtain ⟨phase, -, hok⟩ := hok
  cases hok
  refine ⟨h.templates, (Table.forall_update_iff h.housed).2 fun p hp _ => h.housed p hp, ?_⟩
  -- what is still live has not been deleted
  have hkept : ∀ p ∈ db.phases.update (fun p => p.id = phase.id)
      ⟨fun p => { p with deleted_at := some now }, fun _ => rfl⟩,
      LiveHypercare p → p ∈ db.phases := by
    intro p hp hlive
    rcases Table.mem_update_cases hp with ⟨p₀, -, -, rfl⟩ | ⟨hp, -⟩
    · cases hlive.2
    · exact hp
  rintro p hp q hq ⟨hplive, hqlive, hid⟩
  exact h.single p (hkept p hp hplive) q (hkept q hq hqlive) ⟨hplive, hqlive, hid⟩

end Sound

/-! ## Every run -/

section Runs

variable {ext : Bookings.External} {db db' : Db} {call : Call}

theorem on_release_ok {user : CurrentUser} {release_id : ℕ}
    {f : Statuses.Release → Except Raised Db} (hok : on_release db user release_id f = .ok db') :
    ∃ release, f release = .ok db' := by
  simp only [on_release, bind_eq_ok] at hok
  obtain ⟨_, -, release, -, hok⟩ := hok
  exact ⟨release, hok⟩

theorem sound_write_handover (h : Sound db.base) (release : Statuses.Release)
    (handover_confirmed_at : Option DateTime) :
    Sound (write_handover db release handover_confirmed_at).base :=
  sound_statuses h (Table.retains_update SameRelease.refl _ _ fun _ => ⟨rfl, rfl⟩)

/-- Only templates, phases and releases can touch it, each by the lemma of its request. -/
theorem sound_of_handle (h : Sound db.base) (hok : handle ext db call = .ok db') :
    Sound db'.base := by
  obtain ⟨user, request, now⟩ := call
  cases request with
  | statuses request =>
    obtain ⟨statuses, hstatuses, rfl⟩ := map_eq_ok.1 hok
    exact sound_statuses h (retains_of_handle hstatuses)
  | create_template data =>
    obtain ⟨base, hbase, rfl⟩ := map_eq_ok.1 hok
    exact sound_create_template h hbase
  | update_template template_id data =>
    obtain ⟨base, hbase, rfl⟩ := map_eq_ok.1 hok
    exact sound_update_template h hbase
  | delete_template template_id =>
    obtain ⟨base, hbase, rfl⟩ := map_eq_ok.1 hok
    exact sound_delete_template h hbase
  | instantiate template_id data =>
    obtain ⟨base, hbase, rfl⟩ := map_eq_ok.1 hok
    exact sound_instantiate h hbase
  | create_phase release_id data =>
    obtain ⟨base, hbase, rfl⟩ := map_eq_ok.1 hok
    exact sound_create_phase h hbase
  | update_phase phase_id data =>
    obtain ⟨base, hbase, rfl⟩ := map_eq_ok.1 hok
    exact sound_update_phase h hbase
  | delete_phase phase_id =>
    obtain ⟨base, hbase, rfl⟩ := map_eq_ok.1 hok
    exact sound_delete_phase h hbase
  | declare_stable release_id =>
    obtain ⟨release, hdeclare⟩ := on_release_ok hok
    simp only [declare_stable, bind_eq_ok] at hdeclare
    obtain ⟨_, -, _, -, hdeclare⟩ := hdeclare
    cases hdeclare
    exact h
  | withdraw_stable release_id =>
    obtain ⟨release, hwithdraw⟩ := on_release_ok hok
    simp only [withdraw_stable, bind_eq_ok] at hwithdraw
    obtain ⟨_, -, _, -, hwithdraw⟩ := hwithdraw
    cases hwithdraw
    exact h
  | confirm_handover release_id =>
    obtain ⟨release, hconfirm⟩ := on_release_ok hok
    simp only [confirm_handover, bind_eq_ok] at hconfirm
    obtain ⟨_, -, _, -, _, -, hconfirm⟩ := hconfirm
    cases hconfirm
    exact sound_write_handover h release _
  | withdraw_handover release_id =>
    obtain ⟨release, hwithdraw⟩ := on_release_ok hok
    simp only [withdraw_handover, bind_eq_ok] at hwithdraw
    obtain ⟨_, -, _, -, hwithdraw⟩ := hwithdraw
    cases hwithdraw
    exact sound_write_handover h release _

theorem sound_step (ext : Bookings.External) (db : Db) (call : Call) (h : Sound db.base) :
    Sound (step ext db call).base :=
  commit_or_rollback_keeps (P := fun db : Db => Sound db.base) h fun _ hok => sound_of_handle h hok

theorem sound_opened (statuses : Statuses.Db) (gates : Gates.Db) :
    Sound (Db.opened statuses gates).base where
  templates t ht := absurd ht (Table.not_mem_empty t)
  housed p hp := absurd hp (Table.not_mem_empty p)
  single p hp := absurd hp (Table.not_mem_empty p)

/-- The queue has a release for its one live hyper-care phase. -/
theorem queue_agrees (h : Sound db.base) (hr : r ∈ db.base.statuses.releases)
    (hlive : r.deleted_at = none) (hkind : r.release_kind = "project")
    (hforward : Forward (live_hypercare_phase db.base.phases r.id r.tenant_id) now) :
    hypercare_state (live_hypercare_phase db.base.phases r.id r.tenant_id)
        (db.declared_stable_at r.id) now = .overdue ↔
      ∃ row ∈ _hypercare_queue_query db r.tenant_id (expiry_boundary now) true, row.1 = r.id := by
  rw [overdue_iff hforward, queue_iff hr]
  constructor
  · rintro ⟨hstable, p, hp, hended⟩
    obtain ⟨hmem, hid, -, hplive⟩ := (live_hypercare_phase_iff h.single).1 hp
    exact ⟨p, hmem, ⟨hid, hplive⟩, rfl, hlive, hkind, hstable, hended⟩
  · rintro ⟨p, hmem, ⟨hid, hplive⟩, -, -, -, hstable, hended⟩
    obtain ⟨r', hr', hid', htenant'⟩ := h.housed p hmem
    obtain rfl := Table.eq_of_key_eq hr' hr (hid'.trans hid)
    exact ⟨hstable, p,
      (live_hypercare_phase_iff h.single).2 ⟨hmem, hid, htenant'.symm, hplive⟩, hended⟩

theorem agrees_of_sound (h : Sound db.base) : Agrees db where
  tab now now' := tab_agrees now now'
  single := h.single
  queue _ hr hlive hkind _ := queue_agrees h hr hlive hkind

/-- **In every state that templates, phases, lifecycles, releases and declarations lead to** the
tab lists what the transition refuses, a release has at most one live hyper-care phase, and the
overdue releases are those of the queue. -/
theorem always_agrees (ext : Bookings.External) (statuses : Statuses.Db) (gates : Gates.Db)
    (calls : List Call) : Always (step ext) Agrees (Db.opened statuses gates) calls := by
  have hsound : ∀ before, Sound (run (step ext) (Db.opened statuses gates) before).base :=
    @run_inv Db Call (step ext) (fun db => Sound db.base) (sound_step ext) _
      (sound_opened statuses gates)
  exact (always_iff _ _ _).2 fun before after _ => agrees_of_sound (hsound before)

end Runs

namespace Sample

/-- A lifecycle for releases of any kind, whose last state asks for the review. -/
def definition : Lifecycle.LifecycleDefinition where
  states :=
    [⟨"draft", "Draft", true, false, false, false, false, false, false, false⟩,
      ⟨"closed", "Closed", false, true, false, false, false, true, true, false⟩]
  transitions := [⟨"draft", "closed", "Close", [Role.ADMIN]⟩]
  field_permissions := Dict.empty
  action_permissions := none
  one_initial := rfl

def statuses : Statuses.Db :=
  Statuses.Db.seeded Table.empty Table.empty Bookings.Sample.environments
    Bookings.Sample.reference ⟨[], [], [], [], []⟩

def call (request : Statuses.Request) : Call := ⟨Bookings.Sample.admin, .statuses request, 0⟩

/-- An enterprise release on that lifecycle. -/
def calls : List Call :=
  [call (.templates (.create_lifecycle_template Bookings.Sample.admin
      ⟨"Releases", none, true, "release", none, definition⟩)),
    call (.create_release Bookings.Sample.admin
      ⟨"Spring wave", none, "Major", "enterprise", none, none, none, some 1, none, none, none⟩)]

def db : Db :=
  run (step Bookings.Sample.ext) (Db.opened statuses (Gates.Db.opened ⟨[], [], [], [], []⟩)) calls

/-- A project release on that lifecycle, whose hyper-care was over on the first day. -/
def shipping : List Call :=
  [call (.templates (.create_lifecycle_template Bookings.Sample.admin
      ⟨"Releases", none, true, "release", none, definition⟩)),
    call (.create_release Bookings.Sample.admin
      ⟨"Spring", none, "Major", "project", none, none, none, some 1, none, none, none⟩),
    ⟨Bookings.Sample.admin,
      .create_phase 1 ⟨"Watch", 0, none, some 0, "planned", .hypercare, by decide⟩, 0⟩]

def shipped : Db :=
  run (step Bookings.Sample.ext) (Db.opened statuses (Gates.Db.opened ⟨[], [], [], [], []⟩)) shipping

end Sample

/-- The release cannot be closed without its review, nor is it stable. -/
theorem shipped_agrees :
    ∃ r t, Move Sample.shipped 1 "closed" 1 Role.ADMIN r t ∧
      Listed Sample.shipped r 1 "closed" 0 ∧
        hypercare_state (live_hypercare_phase Sample.shipped.base.phases r.id r.tenant_id)
          (Sample.shipped.declared_stable_at r.id) (timedelta.days 1) = .overdue := by
  have hagrees : Agrees Sample.shipped :=
    (always_iff _ _ _).1 (always_agrees Bookings.Sample.ext Sample.statuses
      (Gates.Db.opened ⟨[], [], [], [], []⟩) Sample.shipping) Sample.shipping []
      (List.append_nil _).symm
  have hrows : ∃ r ∈ Sample.shipped.base.statuses.releases,
      ∃ t ∈ Sample.shipped.base.statuses.templates,
        (r.id = 1 ∧ r.tenant_id = 1 ∧ r.deleted_at = none) ∧ r.release_kind = "project" ∧
          (t.id = r.lifecycle_template_id ∧ t.tenant_id = 1) ∧
          validate_transition t.definition r.status "closed" Role.ADMIN r.record_values =
            .ok (true, none) ∧ (t.definition.states.map (·.key)).Nodup := by
    decide +kernel
  obtain ⟨r, hr, t, ht, hfound, hkind, htemplate, hallowed, hkeys⟩ := hrows
  have hmove : Move Sample.shipped 1 "closed" 1 Role.ADMIN r t :=
    ⟨get_release_ok.2 ⟨hr, hfound⟩,
      (Table.select_one_key_iff fun _ hmatch => hmatch.1).2 ⟨ht, htemplate⟩, none, hallowed⟩
  have hrefused : Refused Sample.shipped 1 "closed" 1 Role.ADMIN 0 :=
    ⟨"Cannot close this release: the post-implementation review is not complete.",
      eq_error_of_raises (by decide +kernel)⟩
  have hone : OneState t.definition "closed" := fun s hs s' hs' hkey hkey' =>
    List.inj_on_of_nodup_map hkeys hs hs' (hkey.trans hkey'.symm)
  have hqueued : ∃ row ∈ _hypercare_queue_query Sample.shipped 1 (expiry_boundary (timedelta.days 1))
      true, row.1 = 1 := by
    decide +kernel
  have hunstarted : (live_hypercare_phase Sample.shipped.base.phases 1 1).bind
      TestPhase.start_date = none := by
    decide +kernel
  refine ⟨r, t, hmove, ?_, ?_⟩
  · exact (hagrees.tab 0 0 hmove (by rw [hkind]; decide) hone).2 hrefused
  · refine (hagrees.queue r hr hfound.2.2 hkind _ ?_).2 ?_
    · rw [hfound.2.1, hfound.1]
      rintro p hp - ⟨start_date, hstart, -⟩
      rw [Option.mem_def] at hp hstart
      rw [hp, Option.bind_some, hstart] at hunstarted
      cases hunstarted
    · rw [hfound.2.1, hfound.1]
      exact hqueued

/-- An enterprise release has no tab. -/
theorem not_listed {db : Db} {release : Statuses.Release}
    (hkind : release.release_kind = "enterprise") (tenant_id : ℕ) (key : String)
    (now : DateTime) : ¬ Listed db release tenant_id key now := by
  rintro ⟨closeout, hok, -⟩
  simp only [build_closeout, _require_project_release, bind_eq_ok, raise_if_eq_ok] at hok
  obtain ⟨_, hproject, -⟩ := hok
  exact hproject hkind

/-- The enterprise release is refused its last state, and no tab says why. -/
theorem enterprise_release_has_no_tab :
    ¬ ∀ release tpl, Move Sample.db 1 "closed" 1 Role.ADMIN release tpl →
      (Listed Sample.db release 1 "closed" 0 ↔ Refused Sample.db 1 "closed" 1 Role.ADMIN 0) := by
  intro hall
  have hrows : ∃ r ∈ Sample.db.base.statuses.releases, ∃ t ∈ Sample.db.base.statuses.templates,
      (r.id = 1 ∧ r.tenant_id = 1 ∧ r.deleted_at = none) ∧ r.release_kind = "enterprise" ∧
        (t.id = r.lifecycle_template_id ∧ t.tenant_id = 1) ∧
        validate_transition t.definition r.status "closed" Role.ADMIN r.record_values =
          .ok (true, none) := by
    decide +kernel
  obtain ⟨r, hr, t, ht, hfound, hkind, htemplate, hallowed⟩ := hrows
  have hmove : Move Sample.db 1 "closed" 1 Role.ADMIN r t :=
    ⟨get_release_ok.2 ⟨hr, hfound⟩,
      (Table.select_one_key_iff fun _ hmatch => hmatch.1).2 ⟨ht, htemplate⟩, none, hallowed⟩
  have hrefused : Refused Sample.db 1 "closed" 1 Role.ADMIN 0 :=
    ⟨"Cannot close this release: the post-implementation review is not complete.",
      eq_error_of_raises (by decide +kernel)⟩
  exact not_listed hkind 1 "closed" 0 ((hall r t hmove).2 hrefused)

end EnvMgr.Closeout

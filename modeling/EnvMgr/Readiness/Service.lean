/-
Whether a release is ready: `services/release_readiness_service.py`.

Gates with their waivers and evidence, and the rollback plans and rehearsals of the systems that
the release changes, become blockers and warnings of one response. Nothing is refused here.
-/
import EnvMgr.Compliance.Policy
import EnvMgr.Gates.Service
import EnvMgr.Readiness.Evidence
import EnvMgr.Rollback.Service

namespace EnvMgr.Readiness

open Compliance (expiry_boundary)
open Gates (ReleaseGate)
open Rollback (ReleaseRollbackPlan)

/-! ## Tables -/

structure GateType where
  id : ℕ
  tenant_id : ℕ
  name : String
  failure_behaviour : String
  expected_evidence : List String
  deriving DecidableEq

structure GateWaiver where
  id : ℕ
  tenant_id : ℕ
  gate_id : ℕ
  approved_by_user_id : ℕ
  expires_at : Option DateTime
  deleted_at : Option DateTime
  deriving DecidableEq

structure User where
  id : ℕ
  username : String
  deriving DecidableEq

structure RollbackRehearsal where
  id : ℕ
  tenant_id : ℕ
  system_id : ℕ
  rehearsed_at : DateTime
  outcome : String
  deleted_at : Option DateTime
  deriving DecidableEq

structure RollbackPolicy where
  id : ℕ
  tenant_id : ℕ
  require_rollback_plan : Bool
  require_current_rehearsal : Bool
  rehearsal_validity_days : ℕ
  deriving DecidableEq

structure GoNoGoDecision where
  id : ℕ
  tenant_id : ℕ
  release_id : ℕ
  outcome : String
  decided_at : DateTime
  chaired_by_user_id : ℕ
  deriving DecidableEq

structure GoNoGoCondition where
  id : ℕ
  decision_id : ℕ
  met_at : Option DateTime
  deriving DecidableEq

structure Policies where
  rows : Table RollbackPolicy RollbackPolicy.id
  /-- One row for each tenant. -/
  unique : ∀ a ∈ rows, ∀ b ∈ rows, a.tenant_id = b.tenant_id → a = b

structure Db extends EvidenceDb, Rollback.Db where
  gates : Table ReleaseGate ReleaseGate.id
  gate_types : Table GateType GateType.id
  waivers : Table GateWaiver GateWaiver.id
  users : Table User User.id
  rehearsals : Table RollbackRehearsal RollbackRehearsal.id
  policies : Policies
  decisions : Table GoNoGoDecision GoNoGoDecision.id
  conditions : Table GoNoGoCondition GoNoGoCondition.id
  /-- `uq_rollback_plan_release_system`. -/
  one_plan : ∀ p ∈ plans, ∀ q ∈ plans,
    p.release_id = q.release_id → p.system_id = q.system_id → p = q

/-! ## The response -/

/-- A `ReadinessBlocker` or a `ReadinessWarning`; they have the same fields. -/
structure Entry where
  type : String
  ref_kind : String
  ref_id : ℕ
  gate_name : Option String
  gate_type : Option String
  detail : Option String
  deriving DecidableEq

inductive Finding
  | blocker (entry : Entry)
  | warning (entry : Entry)
  deriving DecidableEq

def Finding.as_blocker : Finding → Option Entry
  | .blocker entry => some entry
  | .warning _ => none

def Finding.as_warning : Finding → Option Entry
  | .blocker _ => none
  | .warning entry => some entry

structure LatestDecisionRead where
  outcome : String
  decided_at : DateTime
  chaired_by_username : Option String
  unmet_condition_count : ℕ
  deriving DecidableEq

structure ReleaseReadinessResponse where
  ok : Bool
  release_id : ℕ
  checked_at : DateTime
  blockers : List Entry
  warnings : List Entry
  reversibility : Option String
  latest_decision : Option LatestDecisionRead
  deriving DecidableEq

/-- `f"{dt:%Y-%m-%d}"`. -/
def format_date (dt : DateTime) : String :=
  let (year, month, day) := civil_from_days (dt / timedelta.days 1)
  toString year ++ "-" ++ zero_pad 2 month ++ "-" ++ zero_pad 2 day

/-- The names of users, whatever their tenant. -/
def usernames_for (db : Db) (user_ids : List ℕ) : Index ℕ String :=
  Index.fill User.id User.username (db.users.select fun u => u.id ∈ user_ids)

/-! ## Waivers: `services/gate_waiver_service.py` -/

inductive WaiverState
  | live
  | expired
  deriving DecidableEq

/-- A deadline is a day: on the day of its expiry a waiver is live. -/
def waiver_state (waiver : GateWaiver) (now : DateTime) : WaiverState :=
  match waiver.expires_at with
  | none => .live
  | some expires_at => if expires_at < expiry_boundary now then .expired else .live

/-- Newest first, gate by gate. -/
def waiver_order (w : GateWaiver) : ℕ ×ₗ ℕᵒᵈ := toLex (w.gate_id, OrderDual.toDual w.id)

def latest_waivers_for_gates (db : Db) (tenant_id : ℕ) (gate_ids : List ℕ) :
    Index ℕ GateWaiver :=
  Index.keep_first GateWaiver.gate_id (order_by waiver_order (db.waivers.select fun w =>
    w.tenant_id = tenant_id ∧ w.gate_id ∈ gate_ids ∧ w.deleted_at = none))

/-! ## Rehearsals: `services/rollback_rehearsal_service.py` -/

inductive RehearsalState
  | current
  | stale
  deriving DecidableEq

def rehearsal_state (rehearsal : RollbackRehearsal) (validity_days : ℕ) (now : DateTime) :
    RehearsalState :=
  if rehearsal.rehearsed_at + timedelta.days validity_days < expiry_boundary now then .stale
  else .current

/-- Newest first, system by system. -/
def rehearsal_order (r : RollbackRehearsal) : ℕ ×ₗ DateTimeᵒᵈ ×ₗ ℕᵒᵈ :=
  toLex (r.system_id, toLex (OrderDual.toDual r.rehearsed_at, OrderDual.toDual r.id))

def latest_rehearsals_for_systems (db : Db) (tenant_id : ℕ) (system_ids : List ℕ) :
    Index ℕ RollbackRehearsal :=
  Index.keep_first RollbackRehearsal.system_id (order_by rehearsal_order
    (db.rehearsals.select fun r =>
      r.tenant_id = tenant_id ∧ r.system_id ∈ system_ids ∧ r.deleted_at = none))

/-! ## Policy: `services/rollback_policy_service.py` -/

def DEFAULT_REHEARSAL_VALIDITY_DAYS : ℕ := 90

def default_policy (tenant_id : ℕ) : Table.New RollbackPolicy.id where
  row n := ⟨n, tenant_id, false, false, DEFAULT_REHEARSAL_VALIDITY_DAYS⟩
  key_row _ := rfl

def policy_of (policies : Policies) (tenant_id : ℕ) : Option RollbackPolicy :=
  policies.rows.select_one fun p => p.tenant_id = tenant_id

theorem unique_default {policies : Policies} {tenant_id : ℕ}
    (h : policy_of policies tenant_id = none) :
    ∀ a ∈ policies.rows.insert (default_policy tenant_id),
      ∀ b ∈ policies.rows.insert (default_policy tenant_id), a.tenant_id = b.tenant_id → a = b := by
  refine Table.unique_insert (fun hab => hab.symm) policies.unique fun a ha htenant => ?_
  have hnot := Table.select_one_none h ha
  exact absurd htenant (of_decide_eq_false hnot)

def get_or_create_policy (policies : Policies) (tenant_id : ℕ) : RollbackPolicy × Policies :=
  match h : policy_of policies tenant_id with
  | some policy => (policy, policies)
  | none =>
    ((default_policy tenant_id).row policies.rows.next,
      ⟨policies.rows.insert (default_policy tenant_id), unique_default h⟩)

/-! ## Gates -/

/-- `GateType` outer joined, within the tenant. -/
def type_of (db : Db) (tenant_id : ℕ) (gate : ReleaseGate) : Option GateType :=
  db.gate_types.select_one fun t => some t.id = gate.gate_type_id ∧ t.tenant_id = tenant_id

/-- The closures `blocker` and `warning` of the loop over the gates. -/
def gate_entry (gate : ReleaseGate) (gate_type : Option GateType) (ref_kind : String)
    (ref_id : ℕ) (kind detail : String) : Entry :=
  ⟨kind, ref_kind, ref_id, some gate.name, gate_type.map GateType.name, some detail⟩

def gate_blocker (gate : ReleaseGate) (gate_type : Option GateType) (kind detail : String) :
    Finding :=
  .blocker (gate_entry gate gate_type "gate" gate.id kind detail)

def gate_warning (gate : ReleaseGate) (gate_type : Option GateType) (kind detail : String) :
    Finding :=
  .warning (gate_entry gate gate_type "gate" gate.id kind detail)

/-- Who waived it, and until when. -/
def waived_detail (approver_usernames : Index ℕ String) (waiver : GateWaiver) : String :=
  let approver := (approver_usernames.get waiver.approved_by_user_id).getD
    s!"user {waiver.approved_by_user_id}"
  match waiver.expires_at with
  | some expires_at => s!"Waived by {approver}, expires {format_date expires_at}."
  | none => s!"Waived by {approver}; no expiry."

/-- The first match wins. -/
def gate_finding (waivers : Index ℕ GateWaiver) (approver_usernames : Index ℕ String)
    (now : DateTime) (gate : ReleaseGate) (gate_type : Option GateType) : Option Finding :=
  if gate.status = "failed" then
    some (gate_blocker gate gate_type "gate_failed" "The gate was failed.")
  else if gate.status = "overridden" then
    match waivers.get gate.id with
    | none => some (gate_warning gate gate_type "gate_waived_no_record" "Waived, no expiry recorded.")
    | some waiver =>
      if waiver_state waiver now = .expired then
        some (gate_blocker gate gate_type "waiver_expired"
          "The waiver has expired; the gate is unmet again.")
      else
        some (gate_warning gate gate_type "gate_waived" (waived_detail approver_usernames waiver))
  else if gate.status = "pending" then
    match gate_type.map GateType.failure_behaviour with
    | none =>
      some (gate_warning gate gate_type "gate_untyped"
        "No gate type set, so no behaviour was declared.")
    | some behaviour =>
      if behaviour = "block" then
        some (gate_blocker gate gate_type "gate_pending" "The gate has not been decided.")
      else some (gate_warning gate gate_type "gate_pending" "The gate has not been decided.")
  else none

def stale_text (item : GateEvidence) (detail : StaleEvidenceDetail) : String :=
  s!"'{item.label}' cites {detail.superseded_build_label} " ++
  s!"deployed {format_date detail.superseded_deployed_at} to " ++
  s!"{detail.environment_name}, superseded by " ++
  s!"{detail.superseding_build_label} deployed " ++
  s!"{format_date detail.superseding_deployed_at}."

/-- Kinds that the gate's type expects and no item has. -/
def missing_evidence (gate_type : Option GateType) (items : List GateEvidence) : List String :=
  match gate_type with
  | none => []
  | some t => t.expected_evidence.filter fun k => k ∉ items.map GateEvidence.kind

/-- `ref_id or gate.id`: a warning about evidence refers to it. -/
def evidence_warning (gate : ReleaseGate) (gate_type : Option GateType) (item : GateEvidence)
    (detail : StaleEvidenceDetail) : Finding :=
  .warning (gate_entry gate gate_type (if item.id ≠ 0 then "evidence" else "gate")
    (if item.id ≠ 0 then item.id else gate.id) "evidence_stale" (stale_text item detail))

/-- Whatever the status of the gate. -/
def evidence_findings (stale_details : Index ℕ StaleEvidenceDetail) (items : List GateEvidence)
    (gate : ReleaseGate) (gate_type : Option GateType) : List Finding :=
  let missing := missing_evidence gate_type items
  (if missing = [] then []
  else [gate_warning gate gate_type "evidence_missing"
    ("Expected but not supplied: " ++ ", ".intercalate missing)]) ++
  items.filterMap fun item =>
    (stale_details.get item.id).map (evidence_warning gate gate_type item)

/-! ## Systems -/

/-- `_add`. -/
def add (is_blocker : Bool) (system_id : ℕ) (kind detail : String) : Finding :=
  let entry : Entry := ⟨kind, "system", system_id, none, none, some detail⟩
  if is_blocker then .blocker entry else .warning entry

def plan_findings (policy : RollbackPolicy) (system_id : ℕ) (system_name : String)
    (plan : Option ReleaseRollbackPlan) : List Finding :=
  match plan with
  | none =>
    [add policy.require_rollback_plan system_id "rollback_plan_missing"
      s!"{system_name} has no rollback plan."]
  | some plan =>
    (if plan.agreed_at = none then
      [add policy.require_rollback_plan system_id "rollback_plan_unagreed"
        s!"{system_name}'s rollback plan has not been agreed."]
    else []) ++
    if plan.reversibility = "irreversible" then
      [add false system_id "rollback_irreversible"
        s!"{system_name} cannot be rolled back — roll forward only."]
    else if plan.reversibility = "lossy" then
      [add false system_id "rollback_lossy"
        s!"{system_name} can be rolled back, but data written since deploy is lost."]
    else []

/-- A failed rehearsal is not a current rehearsal. -/
def rehearsal_findings (policy : RollbackPolicy) (now : DateTime) (system_id : ℕ)
    (system_name : String) (rehearsal : Option RollbackRehearsal) : List Finding :=
  match rehearsal.filter fun r => r.outcome ≠ "failed" with
  | none =>
    [add policy.require_current_rehearsal system_id "rehearsal_missing"
      s!"No successful rollback rehearsal recorded for {system_name}."]
  | some rehearsal =>
    if rehearsal_state rehearsal policy.rehearsal_validity_days now = .stale then
      [add policy.require_current_rehearsal system_id "rehearsal_stale"
        s!"{system_name}'s last rollback rehearsal was {date_isoformat rehearsal.rehearsed_at}."]
    else []

/-! ## The verdict -/

def gates_of (db : Db) (release_id tenant_id : ℕ) : List ReleaseGate :=
  order_by (fun g => toLex (g.due_date, g.id)) (db.gates.select fun g =>
    g.release_id = release_id ∧ g.tenant_id = tenant_id ∧ g.deleted_at = none)

/-- The loop over the gates. -/
def gates_findings (db : Db) (release_id tenant_id : ℕ) (now : DateTime) : List Finding :=
  let rows := gates_of db release_id tenant_id
  let gate_ids := rows.map ReleaseGate.id
  let waivers := latest_waivers_for_gates db tenant_id gate_ids
  let approver_usernames := usernames_for db (waivers.values.map GateWaiver.approved_by_user_id)
  let evidence := evidence_for_gates db.toEvidenceDb tenant_id gate_ids
  let stale_details :=
    stale_evidence_details db.toEvidenceDb tenant_id evidence.values.flatten
  rows.flatMap fun gate =>
    let gate_type := type_of db tenant_id gate
    (gate_finding waivers approver_usernames now gate gate_type).toList ++
      evidence_findings stale_details ((evidence.get gate.id).getD []) gate gate_type

/-- The loop over the systems that the release changes. -/
def systems_findings (db : Db) (policy : RollbackPolicy) (plans : List ReleaseRollbackPlan)
    (changing : List (ℕ × String)) (tenant_id : ℕ) (now : DateTime) : List Finding :=
  let rehearsals := latest_rehearsals_for_systems db tenant_id (changing.map Prod.fst)
  let by_system := Index.fill ReleaseRollbackPlan.system_id id plans
  changing.flatMap fun (system_id, system_name) =>
    plan_findings policy system_id system_name (by_system.get system_id) ++
      rehearsal_findings policy now system_id system_name (rehearsals.get system_id)

/-- `go_no_go_service.latest_decision_for`. -/
def latest_decision_for (db : Db) (release_id tenant_id : ℕ) : Option GoNoGoDecision :=
  (order_by (fun d => toLex (OrderDual.toDual d.decided_at, OrderDual.toDual d.id))
    (db.decisions.select fun d =>
      d.release_id = release_id ∧ d.tenant_id = tenant_id)).head?

/-- Reported, never judged. -/
def latest_decision (db : Db) (release_id tenant_id : ℕ) : Option LatestDecisionRead :=
  (latest_decision_for db release_id tenant_id).map fun latest =>
    let conditions := db.conditions.select fun c => c.decision_id = latest.id
    { outcome := latest.outcome
      decided_at := latest.decided_at
      chaired_by_username :=
        (usernames_for db [latest.chaired_by_user_id]).get latest.chaired_by_user_id
      unmet_condition_count := conditions.countP fun c => c.met_at = none }

/-- `plans_for_releases(db, tenant_id, [release_id]).get(release_id, [])`. -/
def plans_of (db : Db) (release_id tenant_id : ℕ) : List ReleaseRollbackPlan :=
  ((Rollback.plans_for_releases db.toDb tenant_id [release_id]).get release_id).getD []

/-- What the two loops find, in order. -/
def findings (db : Db) (release_id tenant_id : ℕ) (now : DateTime) : List Finding :=
  gates_findings db release_id tenant_id now ++
    systems_findings db (get_or_create_policy db.policies tenant_id).1
      (plans_of db release_id tenant_id)
      (Rollback.changing_systems_for_release db.toDb release_id tenant_id) tenant_id now

/-- Over the systems that the findings are about, not over every live plan. -/
def reversibility (db : Db) (release_id tenant_id : ℕ) : Option String :=
  let changing_ids :=
    (Rollback.changing_systems_for_release db.toDb release_id tenant_id).map Prod.fst
  Rollback.rollup ((plans_of db release_id tenant_id).filter fun p => p.system_id ∈ changing_ids)

def response (db : Db) (release_id tenant_id : ℕ) (now : DateTime) : ReleaseReadinessResponse :=
  let blockers := (findings db release_id tenant_id now).filterMap Finding.as_blocker
  { ok := blockers.length = 0
    release_id := release_id
    checked_at := now
    blockers := blockers
    warnings := (findings db release_id tenant_id now).filterMap Finding.as_warning
    reversibility := reversibility db release_id tenant_id
    latest_decision := latest_decision db release_id tenant_id }

/-- The policy may have to be created first, with its defaults. -/
def evaluate (db : Db) (release_id tenant_id : ℕ) (now : DateTime) :
    Except Raised (ReleaseReadinessResponse × Db) := do
  let _ ← Rollback._get_release db.toDb release_id tenant_id
  let (_, policies) := get_or_create_policy db.policies tenant_id
  .ok (response db release_id tenant_id now, { db with policies := policies })

end EnvMgr.Readiness

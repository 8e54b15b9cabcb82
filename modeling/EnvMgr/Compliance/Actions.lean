/-
The buttons of a request: `environment_request_service.allowed_transitions`.

The list and the guard look the template up in one place and apply one rule about the
operating team, each in its own code. Where they part is in the template: the list reads
every transition between two states and the guard the first one.
-/
import EnvMgr.Compliance.Environments
import EnvMgr.Lifecycle.Repeated

namespace EnvMgr.Compliance

open Lifecycle (LifecycleDefinition LifecycleTemplate TransitionEntry RecordValues Supplied
  FirstNames Complete stored get_allowed_transitions validate_transition mem_offered)

/-! ## The list -/

/-- `t["to_state"] in APPROVAL_TARGET_STATES`. -/
def is_gated (t : TransitionEntry) : Except Raised Bool := do
  let to_state ← get_or_raise t.to_state .KeyError
  .ok (decide (to_state ∈ APPROVAL_TARGET_STATES))

/-- `t["to_state"] not in APPROVAL_TARGET_STATES`. -/
def is_ungated (t : TransitionEntry) : Except Raised Bool := do
  let to_state ← get_or_raise t.to_state .KeyError
  .ok (decide (to_state ∉ APPROVAL_TARGET_STATES))

def allowed_transitions (db : Db) (request_id : ℕ) (current_user : CurrentUser) (tenant_id : ℕ) :
    Except Raised (List TransitionEntry) := do
  let req ← get_request_view db request_id tenant_id
  match _get_template_for_request db req tenant_id with
  | none => .ok []
  | some tpl => do
    let by_role ← get_allowed_transitions tpl.definition req.status current_user.role
    if current_user.role = Role.ADMIN ∨ current_user.is_master_admin = true then .ok by_role
    else do
      let gated ← select_each by_role is_gated
      let ungated ← select_each by_role is_ungated
      if gated = [] then .ok ungated
      else if _is_in_operations_group db req.environment_id current_user.id tenant_id = true then
        .ok by_role
      else .ok ungated

/-- An accepted move has no reason. -/
theorem reason_of_allowed {definition : Lifecycle.Definition} {from_state to_state role : String}
    {values : RecordValues} {reason : Option String}
    (h : validate_transition definition from_state to_state role values = .ok (true, reason)) :
    reason = none := by
  simp only [validate_transition, bind_eq_ok] at h
  obtain ⟨found, -, h⟩ := h
  cases found with
  | none => cases h
  | some t =>
    simp only [bind_eq_ok] at h
    obtain ⟨roles, -, h⟩ := h
    split_ifs at h <;> cases h
    rfl

/-! ## The operating team -/

/-- The user may decide, or the move is none that is decided. -/
def GateOpen (db : Db) (req : EnvironmentRequest) (to_state : String) (user : CurrentUser)
    (tenant_id : ℕ) : Prop :=
  to_state ∈ APPROVAL_TARGET_STATES →
    (user.role = Role.ADMIN ∨ user.is_master_admin = true) ∨
      _is_in_operations_group db req.environment_id user.id tenant_id = true

section

variable {ext : External} {db : Db} {request_id tenant_id : ℕ} {req : EnvironmentRequest}
  {tpl : LifecycleTemplate} {user : CurrentUser} {to_state : String}

theorem is_gated_ok {t : TransitionEntry} (ht : t.to_state = some to_state) :
    is_gated t = .ok (decide (to_state ∈ APPROVAL_TARGET_STATES)) := by
  simp [is_gated, ht, get_or_raise, bind, Except.bind]

theorem is_ungated_ok {t : TransitionEntry} (ht : t.to_state = some to_state) :
    is_ungated t = .ok (decide (to_state ∉ APPROVAL_TARGET_STATES)) := by
  simp [is_ungated, ht, get_or_raise, bind, Except.bind]

/-- The two halves of a list come back where every target is there. -/
theorem split_gated {by_role : List TransitionEntry} (h : ∀ t ∈ by_role, t.to_state ≠ none) :
    ∃ gated ungated, select_each by_role is_gated = .ok gated ∧
      select_each by_role is_ungated = .ok ungated ∧
      (gated = [] ↔ ∀ t ∈ by_role, ∀ dest, t.to_state = some dest →
        dest ∉ APPROVAL_TARGET_STATES) ∧
      ∀ dest, (∃ t ∈ ungated, t.to_state = some dest) ↔
        (∃ t ∈ by_role, t.to_state = some dest) ∧ dest ∉ APPROVAL_TARGET_STATES := by
  have hto : ∀ t ∈ by_role, ∃ dest, t.to_state = some dest :=
    fun t ht => Option.ne_none_iff_exists'.1 (h t ht)
  obtain ⟨gated, hgated⟩ := exists_select_each (f := is_gated) fun t ht =>
    let ⟨_, hdest⟩ := hto t ht
    ⟨_, is_gated_ok hdest⟩
  obtain ⟨ungated, hungated⟩ := exists_select_each (f := is_ungated) fun t ht =>
    let ⟨_, hdest⟩ := hto t ht
    ⟨_, is_ungated_ok hdest⟩
  refine ⟨gated, ungated, hgated, hungated, ?_, fun dest => ?_⟩
  · constructor
    · rintro rfl t ht dest hdest hmem
      have hin := ((select_each_eq_ok hgated).2 t).2
        ⟨ht, by rw [is_gated_ok hdest, decide_eq_true hmem]⟩
      cases hin
    · intro hnone
      refine List.eq_nil_iff_forall_not_mem.2 fun t ht => ?_
      obtain ⟨ht, hkept⟩ := ((select_each_eq_ok hgated).2 t).1 ht
      obtain ⟨dest, hdest⟩ := hto t ht
      rw [is_gated_ok hdest, Except.ok.injEq] at hkept
      exact hnone t ht dest hdest (of_decide_eq_true hkept)
  · constructor
    · rintro ⟨t, ht, hdest⟩
      obtain ⟨ht, hkept⟩ := ((select_each_eq_ok hungated).2 t).1 ht
      rw [is_ungated_ok hdest, Except.ok.injEq] at hkept
      exact ⟨⟨t, ht, hdest⟩, of_decide_eq_true hkept⟩
    · rintro ⟨⟨t, ht, hdest⟩, hnot⟩
      exact ⟨t, ((select_each_eq_ok hungated).2 t).2
        ⟨ht, by rw [is_ungated_ok hdest, decide_eq_true hnot]⟩, hdest⟩

/-- **What is offered.** What the role may do by some transition, as far as the gate is open. -/
theorem allowed_transitions_ok (user : CurrentUser)
    (hreq : get_request_view db request_id tenant_id = .ok req)
    (htpl : _get_template_for_request db req tenant_id = some tpl)
    (hcomplete : Complete tpl.definition) :
    ∃ by_role, get_allowed_transitions tpl.definition req.status user.role = .ok by_role ∧
      ∃ offered, allowed_transitions db request_id user tenant_id = .ok offered ∧
        ∀ dest, (∃ t ∈ offered, t.to_state = some dest) ↔
          (∃ t ∈ by_role, t.to_state = some dest) ∧ GateOpen db req dest user tenant_id := by
  obtain ⟨by_role, hrole⟩ := hcomplete.offered req.status user.role
  have hmem : ∀ t ∈ by_role, t.to_state ≠ none := fun t ht =>
    (hcomplete t (((select_each_eq_ok hrole).2 t).1 ht).1).2.1
  obtain ⟨gated, ungated, hgated, hungated, hnone, hiff⟩ := split_gated hmem
  simp only [allowed_transitions, hreq, htpl, hrole, hgated, hungated, bind, Except.bind]
  refine ⟨by_role, rfl, ?_⟩
  by_cases hadmin : user.role = Role.ADMIN ∨ user.is_master_admin = true
  · refine ⟨by_role, if_pos hadmin, fun dest => ?_⟩
    exact ⟨fun h => ⟨h, fun _ => Or.inl hadmin⟩, And.left⟩
  rw [if_neg hadmin]
  by_cases hteam : _is_in_operations_group db req.environment_id user.id tenant_id = true
  · by_cases hempty : gated = []
    · refine ⟨ungated, if_pos hempty, fun dest => ?_⟩
      rw [hiff]
      constructor
      · rintro ⟨h, -⟩
        exact ⟨h, fun _ => Or.inr hteam⟩
      · rintro ⟨⟨t, ht, hdest⟩, -⟩
        exact ⟨⟨t, ht, hdest⟩, hnone.1 hempty t ht dest hdest⟩
    · refine ⟨by_role, by rw [if_neg hempty, if_pos hteam], fun dest => ?_⟩
      exact ⟨fun h => ⟨h, fun _ => Or.inr hteam⟩, And.left⟩
  · refine ⟨ungated, by rw [if_neg hteam, ite_self], fun dest => ?_⟩
    rw [hiff]
    have hclosed : GateOpen db req dest user tenant_id ↔ dest ∉ APPROVAL_TARGET_STATES := by
      simp [GateOpen, hadmin, hteam]
    rw [hclosed]

/-! ## The guard -/

/-- Required fields are read of no values here. -/
theorem assert_may_transition_ok (htpl : _get_template_for_request db req tenant_id = some tpl) :
    assert_may_transition ext db req to_state user tenant_id = .ok () ↔
      validate_transition tpl.definition req.status to_state user.role ⟨Dict.empty, Dict.empty⟩ =
          .ok (true, none) ∧ GateOpen db req to_state user tenant_id := by
  have hgate : GateOpen db req to_state user tenant_id ↔
      ¬ (to_state ∈ APPROVAL_TARGET_STATES ∧
        ¬ (user.role = Role.ADMIN ∨ user.is_master_admin = true) ∧
        _is_in_operations_group db req.environment_id user.id tenant_id = false) := by
    unfold GateOpen
    cases _is_in_operations_group db req.environment_id user.id tenant_id <;> tauto
  rw [hgate]
  simp only [assert_may_transition, htpl, bind_eq_ok, get_or_raise_eq_ok, raise_if_eq_ok]
  constructor
  · rintro ⟨tpl', htpl', ⟨allowed, reason⟩, hverdict, -, -, -, hallowed, hteam⟩
    cases htpl'
    cases allowed with
    | false => exact absurd rfl hallowed
    | true =>
      obtain rfl := reason_of_allowed hverdict
      exact ⟨hverdict, hteam⟩
  · rintro ⟨hverdict, hteam⟩
    exact ⟨tpl, rfl, (true, none), hverdict, (), by simp, (), by simp, hteam⟩

end

/-! ## Buttons that work -/

/-- The list comes back, and the target is in it exactly if the guard and the verdict accept
the move, with the required fields supplied. -/
def Works (ext : External) (db : Db) (request_id : ℕ) (req : EnvironmentRequest)
    (to_state : String) (user : CurrentUser) (tenant_id : ℕ) : Prop :=
  ∃ offered, allowed_transitions db request_id user tenant_id = .ok offered ∧
    ((∃ t ∈ offered, t.to_state = some to_state) ↔
      assert_may_transition ext db req to_state user tenant_id = .ok () ∧
        ∃ tpl, _get_template_for_request db req tenant_id = some tpl ∧
          ∀ values, Supplied tpl.definition to_state values →
            validate_transition tpl.definition req.status to_state user.role values =
              .ok (true, none))

/-- The definition passed the rules of the entity, and is stored as the editor stores it. -/
def Saved (tpl : LifecycleTemplate) : Prop :=
  ∃ d : LifecycleDefinition,
    Lifecycle.validate_definition_for_entity d ENTITY_TYPE tpl.applies_to_kind = .ok () ∧
      tpl.definition = stored d ENTITY_TYPE

theorem Saved.complete {tpl : LifecycleTemplate} (h : Saved tpl) : Complete tpl.definition := by
  obtain ⟨d, -, hd⟩ := h
  rw [hd]
  exact Lifecycle.complete_of_dumped (Lifecycle.stored_states d ENTITY_TYPE).2

theorem Saved.supplied {tpl : LifecycleTemplate} (h : Saved tpl) (to_state : String)
    (values : RecordValues) : Supplied tpl.definition to_state values := by
  obtain ⟨d, -, hd⟩ := h
  rw [hd]
  exact Lifecycle.supplied_of_nothing_required
    (Lifecycle.stored_required_fields d ENTITY_TYPE to_state) values

/-- **When the buttons work.** A target whose gate is open to the user is offered exactly if
it is accepted, if and only if the first transition to it names the user's role when any
does. -/
theorem buttons_work_iff (ext : External) (db : Db) (request_id tenant_id : ℕ)
    (req : EnvironmentRequest) (user : CurrentUser) (to_state : String)
    (hreq : get_request_view db request_id tenant_id = .ok req)
    (hsaved : ∀ tpl, _get_template_for_request db req tenant_id = some tpl → Saved tpl) :
    Works ext db request_id req to_state user tenant_id ↔
      ∀ tpl, _get_template_for_request db req tenant_id = some tpl →
        GateOpen db req to_state user tenant_id →
          FirstNames tpl.definition req.status to_state user.role := by
  cases htpl : _get_template_for_request db req tenant_id with
  | none =>
    refine iff_of_true ⟨[], by simp [allowed_transitions, hreq, htpl, bind, Except.bind], ?_⟩ ?_
    · constructor
      · rintro ⟨t, ht, -⟩
        cases ht
      · rintro ⟨-, tpl, hfound, -⟩
        cases htpl.symm.trans hfound
    · rintro tpl hfound
      cases hfound
  | some tpl =>
    have hs := hsaved tpl htpl
    have haccepted : ∀ values, validate_transition tpl.definition req.status to_state user.role
        values = .ok (true, none) ↔ _ := fun values =>
      Lifecycle.accepted_iff (hs.complete.readable req.status)
        (hs.supplied to_state values)
    obtain ⟨by_role, hrole, offered, hoffered, hiff⟩ := allowed_transitions_ok user hreq htpl
      hs.complete
    -- the guard and the verdict ask one thing of the template
    have hmay : (assert_may_transition ext db req to_state user tenant_id = .ok () ∧
        ∃ tpl', _get_template_for_request db req tenant_id = some tpl' ∧
          ∀ values, Supplied tpl'.definition to_state values →
            validate_transition tpl'.definition req.status to_state user.role values =
              .ok (true, none)) ↔
        validate_transition tpl.definition req.status to_state user.role
          ⟨Dict.empty, Dict.empty⟩ = .ok (true, none) ∧
          GateOpen db req to_state user tenant_id := by
      rw [assert_may_transition_ok htpl]
      constructor
      · exact And.left
      · intro h
        refine ⟨h, tpl, htpl, fun values _ => ?_⟩
        exact (haccepted values).2 ((haccepted _).1 h.1)
    have hagree := Lifecycle.offered_iff_accepted hs.complete
      (hs.supplied to_state ⟨Dict.empty, Dict.empty⟩) hrole
    have hworks : Works ext db request_id req to_state user tenant_id ↔
        (GateOpen db req to_state user tenant_id →
          FirstNames tpl.definition req.status to_state user.role) := by
      rw [← hagree, ← and_congr_left_iff, ← hiff, ← hmay]
      constructor
      · rintro ⟨offered', hoffered', h⟩
        obtain rfl := Except.ok.inj (hoffered.symm.trans hoffered')
        exact h
      · exact fun h => ⟨offered, hoffered, h⟩
    rw [hworks]
    constructor
    · rintro h tpl' htpl'
      cases htpl'
      exact h
    · exact fun h => h tpl rfl

namespace Buttons

def ext : External := ⟨fun _ => .error "", String.toLower⟩

/-- A template of the editor: an admin may submit a draft, and so may a viewer, by a
transition of its own. -/
def definition : LifecycleDefinition where
  states :=
    [⟨"draft", "Draft", true, false, false, false, false, false, false, false⟩,
      ⟨"submitted", "Submitted", false, false, false, false, false, false, false, false⟩,
      ⟨"approved", "Approved", false, false, false, false, false, false, false, false⟩,
      ⟨"rejected", "Rejected", false, true, false, false, false, false, false, false⟩,
      ⟨"fulfilled", "Fulfilled", false, true, false, false, false, false, false, false⟩]
  transitions :=
    [⟨"draft", "submitted", "Submit", [Role.ADMIN]⟩,
      ⟨"draft", "submitted", "Ask", [Role.VIEWER]⟩,
      ⟨"submitted", "approved", "Approve", [Role.ADMIN]⟩]
  field_permissions := Dict.empty
  action_permissions := none
  one_initial := by decide

def template : LifecycleTemplate where
  id := 1
  tenant_id := 1
  entity_type := ENTITY_TYPE
  name := "Requests"
  description := none
  is_default := true
  applies_to_kind := none
  definition := stored definition ENTITY_TYPE
  deleted_at := none

def viewer : CurrentUser := ⟨5, 1, Role.VIEWER, false⟩

def wanted : EnvironmentRequestCreate where
  kind := .new_environment
  justification := "A place to test"
  needed_by := none
  environment_id := none
  proposed_name := some "qa-1"
  tier_id := some 1
  expires_at := some 10

/-- The viewer asks for an environment. -/
def db : Db :=
  step ext (Db.opened ⟨[⟨1, 1, "QA", "test", none⟩], [⟨5, 1⟩], [], [], [], [template]⟩)
    (.create_environment_request viewer wanted)

def request : EnvironmentRequest := wanted.row 5 1 "draft" 1 1

theorem found : get_request_view db 1 1 = .ok request := by rfl

theorem saved (tpl : LifecycleTemplate)
    (h : _get_template_for_request db request 1 = some tpl) : Saved tpl := by
  have htpl : _get_template_for_request db request 1 = some template := by rfl
  cases htpl.symm.trans h
  exact ⟨definition, by decide, rfl⟩

end Buttons

/-- The viewer's own draft shows a button to submit it, which is refused. -/
theorem second_button_is_refused :
    ¬ ∀ (ext : External) (db : Db) (request_id tenant_id : ℕ) (req : EnvironmentRequest)
        (user : CurrentUser) (to_state : String),
      get_request_view db request_id tenant_id = .ok req →
      (∀ tpl, _get_template_for_request db req tenant_id = some tpl → Saved tpl) →
        Works ext db request_id req to_state user tenant_id := by
  intro h
  obtain ⟨offered, hoffered, hiff⟩ := h Buttons.ext Buttons.db 1 1 Buttons.request Buttons.viewer
    "submitted" Buttons.found Buttons.saved
  have hlist : allowed_transitions Buttons.db 1 Buttons.viewer 1 =
      .ok [⟨some "draft", some "submitted", some "Ask", some [Role.VIEWER]⟩] := by rfl
  have hrefused : assert_may_transition Buttons.ext Buttons.db Buttons.request "submitted"
      Buttons.viewer 1 = .error (http 403 "Your role cannot make this transition") := by rfl
  cases hlist.symm.trans hoffered
  cases hrefused.symm.trans (hiff.1 ⟨_, List.mem_singleton_self _, rfl⟩).1

/-- Approving is not the viewer's by any transition, so there is no such button. -/
theorem buttons_work_approving :
    Works Buttons.ext Buttons.db 1 Buttons.request "approved" Buttons.viewer 1 :=
  (buttons_work_iff Buttons.ext Buttons.db 1 1 Buttons.request Buttons.viewer "approved"
    Buttons.found Buttons.saved).2 fun tpl htpl _ => by
    have hfound : _get_template_for_request Buttons.db Buttons.request 1 = some Buttons.template :=
      by rfl
    cases hfound.symm.trans htpl
    have hnone : ∀ t ∈ Buttons.template.definition.transitions,
        ¬ t.Arc Buttons.request.status "approved" := by decide
    exact fun t ht harc => absurd harc (hnone t ht)

end EnvMgr.Compliance

/-
The rules of a kind.

Some flags and permissions mean something on an enterprise release template only, and
some on any other. The validator has a check for both, at its end, after it has
returned for a definition whose initial state has no field permissions; and an update
that only changes the kind does not call it.
-/
import EnvMgr.Lifecycle.Service

namespace EnvMgr.Lifecycle

variable {d : LifecycleDefinition}
variable {applies_to_kind : Option String}

/-! ## The rules -/

/-- The flags an enterprise template may not carry. -/
def PROJECT_FLAGS : List String :=
  ["marks_deployed", "is_closed", "requires_pir_complete", "requires_handover_confirmed"]

/-- The entries of `action_permissions`; `null` counts as none. -/
def Definition.actions (d : Definition) : List (String × Dict (List String)) :=
  (d.action_permissions.getD Dict.empty).items

structure EnterpriseRules (d : Definition) : Prop where
  one_lockdown : (d.states.filter fun s => s.flag "is_admission_lockdown").length ≤ 1
  no_project_flag : ∀ s ∈ d.states, ∀ flag ∈ PROJECT_FLAGS, s.flag flag = false
  known_actions : ∀ entry ∈ d.actions, ∀ action_key ∈ entry.2.keys,
    action_key ∈ VALID_ENTERPRISE_ACTION_KEYS

structure OtherRules (d : Definition) : Prop where
  no_lockdown : ∀ s ∈ d.states, s.flag "is_admission_lockdown" = false
  no_actions : d.actions = []

/-- What a release template of the kind has to obey. -/
def KindRules (applies_to_kind : Option String) (d : Definition) : Prop :=
  if applies_to_kind = some "enterprise" then EnterpriseRules d else OtherRules d

/-- Every stored release template obeys the rules of its kind. -/
def KindsObeyed (db : Db) : Prop :=
  ∀ t ∈ db.templates, t.entity_type = "release" → KindRules t.applies_to_kind t.definition

instance (d : Definition) : Decidable (EnterpriseRules d) :=
  decidable_of_iff (_ ∧ _ ∧ _)
    ⟨fun h => ⟨h.1, h.2.1, h.2.2⟩, fun h => ⟨h.one_lockdown, h.no_project_flag, h.known_actions⟩⟩

instance (d : Definition) : Decidable (OtherRules d) :=
  decidable_of_iff (_ ∧ _) ⟨fun h => ⟨h.1, h.2⟩, fun h => ⟨h.no_lockdown, h.no_actions⟩⟩

instance (applies_to_kind : Option String) (d : Definition) :
    Decidable (KindRules applies_to_kind d) :=
  inferInstanceAs (Decidable (ite _ _ _))

instance (db : Db) : Decidable (KindsObeyed db) :=
  inferInstanceAs (Decidable (∀ t ∈ db.templates, _))

/-! ## What the validator lets through -/

/-- The field permissions of the initial state. -/
def LifecycleDefinition.initial_permission (d : LifecycleDefinition) :
    Option LifecycleFieldPermission := do
  let initial ← d.states.find? LifecycleState.is_initial
  d.field_permissions.get initial.key

/-- A dumped state has the flags the class lists. -/
theorem model_dump_flag (s : LifecycleState) :
    s.model_dump.flag "is_admission_lockdown" = s.is_admission_lockdown ∧
      s.model_dump.flag "marks_deployed" = s.marks_deployed ∧
      s.model_dump.flag "is_closed" = s.is_closed ∧
      s.model_dump.flag "requires_pir_complete" = s.requires_pir_complete ∧
      s.model_dump.flag "requires_handover_confirmed" = s.requires_handover_confirmed := by
  simp [StateEntry.flag, LifecycleState.model_dump, LifecycleState.flags, Dict.get]

theorem validate_enterprise_ok (h : validate_enterprise d = .ok ()) :
    EnterpriseRules d.model_dump := by
  simp only [validate_enterprise, reject_flag, bind_eq_ok, for_each_eq_ok, raise_if_eq_ok,
    not_lt, Bool.not_eq_true, not_not] at h
  obtain ⟨_, hflags, _, hone, hactions⟩ := h
  refine ⟨?_, ?_, hactions⟩
  · rw [LifecycleDefinition.model_dump, List.filter_map, List.length_map]
    have hsame : ((fun s : StateEntry => s.flag "is_admission_lockdown") ∘
        LifecycleState.model_dump) = LifecycleState.is_admission_lockdown := by
      funext s
      exact (model_dump_flag s).1
    rwa [hsame]
  · intro s hs flag hflag
    obtain ⟨s₀, hs₀, rfl⟩ := List.mem_map.1 hs
    obtain ⟨_, hdeployed, _, hclosed, _, hpir, hhandover⟩ := hflags s₀ hs₀
    obtain ⟨-, hd, hc, hp, hh⟩ := model_dump_flag s₀
    simp only [PROJECT_FLAGS, List.mem_cons, List.not_mem_nil, or_false] at hflag
    rcases hflag with rfl | rfl | rfl | rfl
    · rw [hd, hdeployed]
    · rw [hc, hclosed]
    · rw [hp, hpir]
    · rw [hh, hhandover]

theorem validate_not_enterprise_ok
    (h : validate_not_enterprise d = .ok ()) : OtherRules d.model_dump := by
  simp only [validate_not_enterprise, bind_eq_ok, for_each_eq_ok, raise_if_eq_ok,
    Bool.not_eq_true, ne_eq, not_not] at h
  obtain ⟨_, hflags, hactions⟩ := h
  refine ⟨fun s hs => ?_, hactions⟩
  obtain ⟨s₀, hs₀, rfl⟩ := List.mem_map.1 hs
  rw [(model_dump_flag s₀).1, hflags s₀ hs₀]

/-- **Where the initial state has field permissions, the validator enforces the rules.** -/
theorem kindRules_of_validate
    (h : validate_definition_for_entity d "release" applies_to_kind = .ok ())
    (hinitial : d.initial_permission ≠ none) : KindRules applies_to_kind d.model_dump := by
  simp only [LifecycleDefinition.initial_permission] at hinitial
  simp only [validate_definition_for_entity, ENTITY_FIELD_SPECS, validate_against, bind_eq_ok,
    if_neg (show ¬ "release" = "environment_request" by decide)] at h
  obtain ⟨_, -, _, -, h⟩ := h
  cases hfind : d.states.find? LifecycleState.is_initial with
  | none =>
    rw [hfind] at hinitial
    exact absurd rfl hinitial
  | some initial =>
    cases hperm : d.field_permissions.get initial.key with
    | none =>
      rw [hfind] at hinitial
      exact absurd hperm hinitial
    | some perm =>
      simp only [hfind, hperm, bind_eq_ok, true_and] at h
      obtain ⟨_, -, h⟩ := h
      by_cases hkind : applies_to_kind = some "enterprise"
      · rw [if_pos hkind] at h
        rw [KindRules, if_pos hkind]
        exact validate_enterprise_ok h
      · rw [if_neg hkind] at h
        rw [KindRules, if_neg hkind]
        exact validate_not_enterprise_ok h

/-! ## What a request does to the kinds -/

/-- The migration of field permissions leaves alone what the rules are about. -/
theorem kindRules_migrate {d : Definition} {entity_type : String} :
    KindRules applies_to_kind (migrate_field_permissions d entity_type) ↔
      KindRules applies_to_kind d := by
  have hsame : (migrate_field_permissions d entity_type).states = d.states ∧
      (migrate_field_permissions d entity_type).actions = d.actions := by
    simp only [migrate_field_permissions]
    cases (ENTITY_FIELD_SPECS entity_type).or (ENTITY_FIELD_SPECS "booking") <;> exact ⟨rfl, rfl⟩
  obtain ⟨hstates, hactions⟩ := hsame
  have henterprise : EnterpriseRules (migrate_field_permissions d entity_type) ↔
      EnterpriseRules d := by
    constructor
    · intro h
      exact ⟨hstates ▸ h.one_lockdown, hstates ▸ h.no_project_flag, hactions ▸ h.known_actions⟩
    · rintro ⟨hone, hflags, hknown⟩
      rw [← hstates] at hone hflags
      rw [← hactions] at hknown
      exact ⟨hone, hflags, hknown⟩
  have hother : OtherRules (migrate_field_permissions d entity_type) ↔ OtherRules d := by
    constructor
    · intro h
      exact ⟨hstates ▸ h.no_lockdown, hactions ▸ h.no_actions⟩
    · rintro ⟨hflags, hnone⟩
      rw [← hstates] at hflags
      rw [← hactions] at hnone
      exact ⟨hflags, hnone⟩
  rw [KindRules, KindRules]
  split
  · exact henterprise
  · exact hother

/-- No request brings in a release definition that the early return lets past the
rules, and none moves a stored one to a kind whose rules it breaks. -/
def StaysInKind (db : Db) : Request → Prop
  | .create_lifecycle_template _ data =>
    data.entity_type = "release" → data.definition.initial_permission = none →
      KindRules data.applies_to_kind data.definition.model_dump
  | .update_lifecycle_template user template_id data =>
    ∀ t, get_template db template_id user.active_tenant_id = .ok t → t.entity_type = "release" →
      match data.definition with
      | some definition => definition.initial_permission = none →
        KindRules (data.applies_to_kind.or t.applies_to_kind) definition.model_dump
      | none => ∀ kind, data.applies_to_kind = some kind → KindRules (some kind) t.definition
  | _ => True

/-- What was validated obeys the rules, or slipped past them. -/
theorem kindRules_iff_of_validate
    (h : validate_definition_for_entity d "release" applies_to_kind = .ok ()) :
    KindRules applies_to_kind d.model_dump ↔
      (d.initial_permission = none → KindRules applies_to_kind d.model_dump) := by
  refine ⟨fun hrules _ => hrules, fun hslips => ?_⟩
  by_cases hinitial : d.initial_permission = none
  · exact hslips hinitial
  · exact kindRules_of_validate h hinitial

/-- **What an accepted request does to the kinds.** -/
theorem kindsObeyed_change_iff {db db' : Db} {request : Request} (h : KindsObeyed db)
    (hc : Change db request db') : KindsObeyed db' ↔ StaysInKind db request := by
  cases hc with
  | @create user data hrole hvalid =>
    rw [KindsObeyed, Table.forall_insert_iff h]
    refine imp_congr_right fun hrelease => ?_
    have hrelease : data.entity_type = "release" := hrelease
    rw [hrelease] at hvalid
    exact kindRules_migrate.trans (kindRules_iff_of_validate hvalid)
  | @update user template_id data template hrole htemplate hvalid =>
    have hmem := (get_template_ok.1 htemplate).1
    have hone : (∀ r ∈ db.templates.update (fun r => r.id = template.id)
          ⟨data.write, fun _ => rfl⟩,
        r.entity_type = "release" → KindRules r.applies_to_kind r.definition) ↔
        (template.entity_type = "release" →
          KindRules (data.write template).applies_to_kind (data.write template).definition) :=
      Table.forall_update_key_iff h hmem
    refine hone.trans ⟨fun hrules t ht hrelease => ?_, fun hstays hrelease => ?_⟩
    · -- what the row becomes depends on whether a definition was sent
      obtain rfl : t = template := Except.ok.inj (ht.symm.trans htemplate)
      have hrules := hrules hrelease
      cases hdefinition : data.definition with
      | some definition =>
        simp only [LifecycleTemplateUpdate.write, hdefinition, Option.map_some,
          Option.getD_some] at hrules
        exact fun _ => kindRules_migrate.1 hrules
      | none =>
        intro kind hkind
        simpa only [LifecycleTemplateUpdate.write, hdefinition, hkind, Option.map_none,
          Option.getD_none, Option.some_or] using hrules
    · have hstays := hstays template htemplate hrelease
      cases hdefinition : data.definition with
      | some definition =>
        rw [hdefinition] at hstays
        have hvalid := hvalid definition hdefinition
        rw [hrelease] at hvalid
        simp only [LifecycleTemplateUpdate.write, hdefinition, Option.map_some, Option.getD_some]
        exact kindRules_migrate.2 ((kindRules_iff_of_validate hvalid).2 hstays)
      | none =>
        rw [hdefinition] at hstays
        simp only [LifecycleTemplateUpdate.write, hdefinition, Option.map_none, Option.getD_none]
        cases hkind : data.applies_to_kind with
        | none => exact h template hmem hrelease
        | some kind => exact hstays kind hkind
  | @delete user template_id now template hrole htemplate hfree =>
    rw [KindsObeyed, Table.forall_update_iff h]
    exact iff_of_true (fun r hr _ => h r hr) trivial
  | @copy user template_id name original hrole horiginal =>
    rw [KindsObeyed, Table.forall_insert_iff h]
    refine iff_of_true (fun hrelease => ?_) trivial
    exact kindRules_migrate.2 (h original (get_template_ok.1 horiginal).1 hrelease)
  | booking_types => exact iff_of_true h trivial

/-- **When the rules of the kinds hold.** From any state and over any requests, every
stored release template obeys the rules of its kind at every moment if and only if
that is so at the start, no accepted request brings in a release definition whose
initial state has no field permissions and that breaks them, and none that brings in
no definition moves a template to a kind whose rules the stored one breaks. -/
theorem kinds_obeyed_iff (db : Db) (requests : List Request) :
    Runs.Always step KindsObeyed db requests ↔
      KindsObeyed db ∧
        Runs.Along step (fun db request => Accepted db request → StaysInKind db request) db
          requests :=
  always_iff_accepted kindsObeyed_change_iff db requests

namespace Slipped

def admin : CurrentUser := ⟨1, 1, Role.ADMIN, false⟩

/-- No field permissions at all, and two states that lock admission. -/
def two_lockdowns : LifecycleDefinition where
  states :=
    [⟨"draft", "Draft", true, false, false, false, false, false, false, false⟩,
      ⟨"frozen", "Frozen", false, false, true, false, false, false, false, false⟩,
      ⟨"sealed", "Sealed", false, false, true, false, false, false, false, false⟩]
  transitions := []
  field_permissions := Dict.empty
  action_permissions := none
  one_initial := by decide

/-- A project definition, with field permissions for its initial state. -/
def deploys : LifecycleDefinition where
  states :=
    [⟨"draft", "Draft", true, false, false, false, false, false, false, false⟩,
      ⟨"deployed", "Deployed", false, false, false, false, true, false, false, false⟩]
  transitions := []
  field_permissions := ⟨[("draft", ⟨Dict.empty, none⟩)], by decide⟩
  action_permissions := none
  one_initial := by decide

def data (applies_to_kind : String) (definition : LifecycleDefinition) : LifecycleTemplateCreate :=
  ⟨"Train", none, false, "release", some applies_to_kind, definition⟩

def created : List Request := [.create_lifecycle_template admin (data "enterprise" two_lockdowns)]

/-- The second request changes the kind and nothing else. -/
def moved : List Request :=
  [.create_lifecycle_template admin (data "project" deploys),
    .update_lifecycle_template admin 1 ⟨none, none, none, some "enterprise", none⟩]

end Slipped

/-- Either way an enterprise template is stored that breaks the rules. -/
theorem kind_rules_slipped :
    KindsObeyed Db.fresh ∧ ¬ KindsObeyed (Runs.run step Db.fresh Slipped.created) ∧
      ¬ KindsObeyed (Runs.run step Db.fresh Slipped.moved) := by
  refine ⟨?_, ?_, ?_⟩ <;> decide +kernel

end EnvMgr.Lifecycle

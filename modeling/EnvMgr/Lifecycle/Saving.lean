/-
Saving a template that was not changed.

The editor reads a stored definition, and what it sends back comes through the schema.
Of what the services read, the schema does not list the `is_resolved` of a state and
the `required_fields` of a state's field permissions. The first save drops both.
-/
import EnvMgr.Lifecycle.Service

namespace EnvMgr.Lifecycle

/-! ## The save -/

/-- The body that carries a template back as it was read. -/
def unchanged (t : LifecycleTemplate) (definition : LifecycleDefinition) :
    LifecycleTemplateUpdate :=
  ⟨some t.name, t.description, some t.is_default, t.applies_to_kind, some definition⟩

/-- The definition is refused as a body, or the update is handled. -/
def resave (db : Db) (user : CurrentUser) (t : LifecycleTemplate) : Db :=
  match LifecycleDefinition.model_validate t.definition with
  | none => db
  | some definition => step db (.update_lifecycle_template user t.id (unchanged t definition))

/-- The save goes through. -/
def Saves (db : Db) (user : CurrentUser) (t : LifecycleTemplate) : Prop :=
  ∃ definition, LifecycleDefinition.model_validate t.definition = some definition ∧
    Accepted db (.update_lifecycle_template user t.id (unchanged t definition))

/-! ## The same behaviour -/

/-- The flags of a state that some service reads. -/
def READ_FLAGS : List String :=
  ["is_initial", "is_terminal", "is_resolved", "is_failed", "marks_deployed", "is_closed",
    "requires_pir_complete", "requires_handover_confirmed", "is_admission_lockdown"]

structure SameBehaviour (d d' : Definition) : Prop where
  verdicts : ∀ from_state to_state user_role record_values,
    validate_transition d from_state to_state user_role record_values =
      validate_transition d' from_state to_state user_role record_values
  flags : d.states.map (fun s => (s.key, READ_FLAGS.map s.flag)) =
    d'.states.map fun s => (s.key, READ_FLAGS.map s.flag)

theorem SameBehaviour.refl (d : Definition) : SameBehaviour d d := ⟨fun _ _ _ _ => rfl, rfl⟩

/-- Nothing that some service reads is left out by the schema. -/
structure NothingDropped (d : Definition) : Prop where
  resolved : ∀ s ∈ d.states, s.flag "is_resolved" = false
  required : ∀ from_state to_state transition,
    find_transition from_state to_state d.transitions = .ok (some transition) →
    ∀ role ∈ transition.allowed_roles.getD [], d.required_fields to_state = []

/-! ## What the schema carries -/

/-- Where each entry is read or the list is refused. -/
theorem map_of_mapM {α β γ : Type} {f : α → Option β} {g : β → γ} {h : α → γ}
    (hfg : ∀ a b, f a = some b → g b = h a) {xs : List α} {ys : List β}
    (hxs : xs.mapM f = some ys) : ys.map g = xs.map h := by
  induction xs generalizing ys with
  | nil =>
    cases hxs
    rfl
  | cons x xs ih =>
    simp only [List.mapM_cons, Option.bind_eq_bind, Option.bind_eq_some_iff, Option.pure_def,
      Option.some.injEq] at hxs
    obtain ⟨y, hy, zs, hzs, rfl⟩ := hxs
    rw [List.map_cons, List.map_cons, hfg x y hy, ih hzs]

theorem dump_of_validate_transition {t : TransitionEntry} {t' : LifecycleTransition}
    (h : LifecycleTransition.model_validate t = some t') : t'.model_dump = t := by
  simp only [LifecycleTransition.model_validate, Option.bind_eq_bind, Option.bind_eq_some_iff,
    Option.some.injEq] at h
  obtain ⟨from_state, hfrom, to_state, hto, label, hlabel, roles, hroles, rfl⟩ := h
  cases t
  simp only at hfrom hto hlabel hroles
  rw [LifecycleTransition.model_dump, hfrom, hto, hlabel, hroles]

/-- A state keeps its key and its flags, except `is_resolved`. -/
theorem dump_of_validate_state {s : StateEntry} {s' : LifecycleState}
    (h : LifecycleState.model_validate s = some s') :
    (s'.model_dump.key, READ_FLAGS.map s'.model_dump.flag) =
      (s.key, READ_FLAGS.map fun f => if f = "is_resolved" then false else s.flag f) := by
  simp only [LifecycleState.model_validate, Option.bind_eq_bind, Option.bind_eq_some_iff,
    Option.some.injEq] at h
  obtain ⟨label, -, rfl⟩ := h
  simp [READ_FLAGS, LifecycleState.model_dump, LifecycleState.flags, StateEntry.flag, Dict.get]

section Carried

variable {d : Definition} {definition : LifecycleDefinition}

/-- What an accepted update stores for the definition that was sent. -/
def stored (definition : LifecycleDefinition) (entity_type : String) : Definition :=
  migrate_field_permissions definition.model_dump entity_type

theorem model_validate_parts (h : LifecycleDefinition.model_validate d = some definition) :
    d.states.mapM LifecycleState.model_validate = some definition.states ∧
      d.transitions.mapM LifecycleTransition.model_validate = some definition.transitions := by
  simp only [LifecycleDefinition.model_validate, Option.bind_eq_bind, Option.bind_eq_some_iff] at h
  obtain ⟨states, hstates, transitions, htransitions, h⟩ := h
  split_ifs at h
  cases h
  exact ⟨hstates, htransitions⟩

theorem stored_states (definition : LifecycleDefinition) (entity_type : String) :
    (stored definition entity_type).states = definition.states.map LifecycleState.model_dump ∧
      (stored definition entity_type).transitions =
        definition.transitions.map LifecycleTransition.model_dump := by
  simp only [stored, migrate_field_permissions]
  cases (ENTITY_FIELD_SPECS entity_type).or (ENTITY_FIELD_SPECS "booking") <;> exact ⟨rfl, rfl⟩

/-- What comes through the schema requires nothing. -/
theorem stored_required_fields (definition : LifecycleDefinition) (entity_type state : String) :
    (stored definition entity_type).required_fields state = [] := by
  simp only [stored, migrate_field_permissions, Definition.required_fields]
  cases (ENTITY_FIELD_SPECS entity_type).or (ENTITY_FIELD_SPECS "booking") with
  | none =>
    simp only [LifecycleDefinition.model_dump, Dict.get_map]
    cases definition.field_permissions.get state <;> rfl
  | some spec =>
    simp only [LifecycleDefinition.model_dump, Dict.get_map]
    cases definition.field_permissions.get state <;> rfl

theorem stored_transitions (h : LifecycleDefinition.model_validate d = some definition)
    (entity_type : String) : (stored definition entity_type).transitions = d.transitions := by
  have hmap := map_of_mapM (h := id) (fun _ _ => dump_of_validate_transition)
    (model_validate_parts h).2
  rw [(stored_states definition entity_type).2, hmap, List.map_id]

/-- The flags are the same exactly if none is an `is_resolved`. -/
theorem stored_flags_iff (h : LifecycleDefinition.model_validate d = some definition)
    (entity_type : String) :
    (d.states.map fun s => (s.key, READ_FLAGS.map s.flag)) =
        ((stored definition entity_type).states.map fun s => (s.key, READ_FLAGS.map s.flag)) ↔
      ∀ s ∈ d.states, s.flag "is_resolved" = false := by
  have hmap := map_of_mapM (fun _ _ => dump_of_validate_state) (model_validate_parts h).1
  rw [(stored_states definition entity_type).1, List.map_map]
  have hcomp : (fun s : StateEntry => (s.key, READ_FLAGS.map s.flag)) ∘ LifecycleState.model_dump =
      fun s : LifecycleState => (s.model_dump.key, READ_FLAGS.map s.model_dump.flag) := rfl
  rw [hcomp, hmap, List.map_inj_left]
  refine forall₂_congr fun s _ => ?_
  simp [READ_FLAGS]

/-- A verdict is the same whatever the values exactly if nothing was required. -/
theorem stored_verdicts_iff (h : LifecycleDefinition.model_validate d = some definition)
    (entity_type : String) :
    (∀ from_state to_state user_role record_values,
      validate_transition d from_state to_state user_role record_values =
        validate_transition (stored definition entity_type) from_state to_state user_role
          record_values) ↔
      ∀ from_state to_state transition,
        find_transition from_state to_state d.transitions = .ok (some transition) →
        ∀ role ∈ transition.allowed_roles.getD [], d.required_fields to_state = [] := by
  have htransitions := stored_transitions h entity_type
  constructor
  · intro hsame from_state to_state transition hfind role hrole
    -- a record without any values meets no requirement
    have hverdict := hsame from_state to_state role ⟨Dict.empty, Dict.empty⟩
    cases hroles : transition.allowed_roles with
    | none =>
      rw [hroles] at hrole
      cases hrole
    | some roles =>
      rw [hroles] at hrole
      have hrole : role ∈ roles := hrole
      simp only [validate_transition, htransitions, hfind, hroles, get_or_raise, bind, Except.bind,
        not_not.2 hrole, if_false, stored_required_fields, List.filter_nil, ne_eq,
        not_true_eq_false] at hverdict
      by_contra hrequired
      have hall : (d.required_fields to_state).filter (fun key =>
          (RecordValues.get ⟨Dict.empty, Dict.empty⟩ key).is_empty) = d.required_fields to_state :=
        List.filter_eq_self.2 fun key _ => rfl
      rw [hall, if_pos hrequired] at hverdict
      cases hverdict
  · intro hfree from_state to_state user_role record_values
    simp only [validate_transition, htransitions]
    cases hfind : find_transition from_state to_state d.transitions with
    | error e => rfl
    | ok found =>
      cases found with
      | none => rfl
      | some transition =>
        cases hroles : transition.allowed_roles with
        | none => simp [hroles, get_or_raise, bind, Except.bind]
        | some roles =>
          by_cases hrole : user_role ∈ roles
          · have hnone := hfree from_state to_state transition hfind user_role
              (by rw [hroles]; exact hrole)
            simp [hroles, get_or_raise, bind, Except.bind, hnone, stored_required_fields]
          · simp [hroles, get_or_raise, bind, Except.bind, hrole]

end Carried

/-! ## The law -/

/-- A definition and what is stored for it behave alike exactly if nothing was
dropped. -/
theorem sameBehaviour_stored_iff {d : Definition} {definition : LifecycleDefinition}
    (h : LifecycleDefinition.model_validate d = some definition) (entity_type : String) :
    SameBehaviour d (stored definition entity_type) ↔ NothingDropped d := by
  constructor
  · intro hsame
    exact ⟨(stored_flags_iff h entity_type).1 hsame.flags,
      (stored_verdicts_iff h entity_type).1 hsame.verdicts⟩
  · intro hfree
    exact ⟨(stored_verdicts_iff h entity_type).2 hfree.required,
      (stored_flags_iff h entity_type).2 hfree.resolved⟩

/-- The row after the save. -/
theorem resave_row {db : Db} {user : CurrentUser} {t : LifecycleTemplate}
    (ht : t ∈ db.templates) {definition : LifecycleDefinition}
    (hparse : LifecycleDefinition.model_validate t.definition = some definition)
    (haccepted : Accepted db (.update_lifecycle_template user t.id (unchanged t definition)))
    (t' : LifecycleTemplate) :
    t' ∈ (resave db user t).templates ∧ t'.id = t.id ↔ t' = (unchanged t definition).write t := by
  have hresave : resave db user t =
      step db (.update_lifecycle_template user t.id (unchanged t definition)) := by
    rw [resave, hparse]
  rw [hresave]
  rcases step_cases db (.update_lifecycle_template user t.id (unchanged t definition)) with
    ⟨-, hrefused⟩ | hc
  · exact absurd haccepted hrefused
  · generalize hdb' : step db (.update_lifecycle_template user t.id (unchanged t definition)) = db'
      at hc
    cases hc with
    | @update _ _ _ template hrole htemplate hvalid =>
      obtain ⟨hmem, hid, -⟩ := get_template_ok.1 htemplate
      obtain rfl : template = t := Table.eq_of_key_eq hmem ht hid
      have hnew : (unchanged template definition).write template ∈ db.templates.update
          (fun r => r.id = template.id) ⟨(unchanged template definition).write, fun _ => rfl⟩ :=
        Table.mem_update_of_pos ht (decide_eq_true rfl)
      constructor
      · rintro ⟨hmem', hid'⟩
        exact Table.eq_of_key_eq hmem' hnew hid'
      · rintro rfl
        exact ⟨hnew, rfl⟩

theorem resave_refused {db : Db} {user : CurrentUser} {t : LifecycleTemplate}
    (hrefused : ¬ Saves db user t) : resave db user t = db := by
  rw [resave]
  cases hparse : LifecycleDefinition.model_validate t.definition with
  | none => rfl
  | some definition =>
    rcases step_cases db (.update_lifecycle_template user t.id (unchanged t definition)) with
      ⟨hsame, -⟩ | hc
    · exact hsame
    · exact absurd ⟨definition, hparse, hc.accepted⟩ hrefused

/-- **When a save changes nothing.** After a stored template was read and sent back
as it is, it behaves as before if and only if the save is refused, or no state of it
is flagged `is_resolved` and no state that some role may move to requires a field. -/
theorem saving_unchanged_iff (db : Db) (user : CurrentUser) (t : LifecycleTemplate)
    (ht : t ∈ db.templates) :
    (∀ t' ∈ (resave db user t).templates, t'.id = t.id → SameBehaviour t.definition t'.definition)
      ↔ (Saves db user t → NothingDropped t.definition) := by
  by_cases hsaves : Saves db user t
  · obtain ⟨definition, hparse, haccepted⟩ := hsaves
    have hrow := resave_row ht hparse haccepted
    have hiff := sameBehaviour_stored_iff hparse t.entity_type
    constructor
    · intro hsame _
      obtain ⟨hmem, hid⟩ := (hrow _).2 rfl
      exact hiff.1 (hsame _ hmem hid)
    · intro hfree t' ht' hid
      rw [(hrow t').1 ⟨ht', hid⟩]
      exact hiff.2 (hfree ⟨definition, hparse, haccepted⟩)
  · refine iff_of_true (fun t' ht' hid => ?_) fun h => absurd h hsaves
    rw [resave_refused hsaves] at ht'
    rw [Table.eq_of_key_eq ht' ht hid]
    exact SameBehaviour.refl t.definition

namespace Seeded

/-- `incident_defaults.ALL_ROLES`. -/
def ALL_ROLES : List String :=
  ["Admin", "Release Manager", "Test Manager", "Developer", "Viewer"]

def _t (frm to_state label : String) : TransitionEntry :=
  ⟨some frm, some to_state, some label, some ALL_ROLES⟩

def state (key label : String) (is_initial is_terminal : Bool) : StateEntry :=
  ⟨key, some label,
    ⟨[("is_initial", is_initial), ("is_terminal", is_terminal)], by simp⟩⟩

def fields : PermissionEntry where
  editable_fields := none
  editable_by := none
  standard_fields := some
    ⟨[("title", ALL_ROLES), ("description", ALL_ROLES), ("severity", ALL_ROLES)], by decide⟩
  custom_fields := some Dict.empty
  required_fields := none

/-- `incident_defaults._INCIDENT_DEFINITION`. -/
def _INCIDENT_DEFINITION : Definition where
  states :=
    [state "new" "New" true false,
      state "investigating" "Investigating" false false,
      state "identified" "Identified" false false,
      state "fix_scheduled" "Fix Scheduled" false false,
      ⟨"resolved", some "Resolved",
        ⟨[("is_initial", false), ("is_terminal", false), ("is_resolved", true)], by decide⟩⟩,
      state "closed" "Closed" false true,
      state "cancelled" "Cancelled" false true]
  transitions :=
    [_t "new" "investigating" "Start Investigating",
      _t "investigating" "identified" "Root Cause Identified",
      _t "identified" "fix_scheduled" "Schedule Fix",
      _t "fix_scheduled" "resolved" "Mark Resolved",
      _t "identified" "resolved" "Mark Resolved",
      _t "investigating" "resolved" "Mark Resolved",
      _t "resolved" "closed" "Close",
      _t "resolved" "investigating" "Reopen",
      _t "new" "cancelled" "Cancel",
      _t "investigating" "cancelled" "Cancel",
      _t "identified" "cancelled" "Cancel"]
  field_permissions :=
    ⟨["new", "investigating", "identified", "fix_scheduled", "resolved", "closed",
      "cancelled"].map fun s => (s, fields), by decide⟩
  action_permissions := none

def admin : CurrentUser := ⟨1, 1, Role.ADMIN, false⟩

def row (id : ℕ) : LifecycleTemplate :=
  ⟨id, 1, "incident", "Default Incident Lifecycle", some "Default incident state machine", true,
    none, _INCIDENT_DEFINITION, none⟩

/-- A tenant as it is created. -/
def db : Db := ⟨Table.empty.insert ⟨row, fun _ => rfl⟩, []⟩

end Seeded

theorem saving_unchanged_iff_seeded :
    Seeded.row 1 ∈ Seeded.db.templates ∧
      ((∀ t' ∈ (resave Seeded.db Seeded.admin (Seeded.row 1)).templates,
          t'.id = (Seeded.row 1).id → SameBehaviour (Seeded.row 1).definition t'.definition) ↔
        (Saves Seeded.db Seeded.admin (Seeded.row 1) → NothingDropped (Seeded.row 1).definition)) := by
  have hmem : Seeded.row 1 ∈ Seeded.db.templates := by decide +kernel
  exact ⟨hmem, saving_unchanged_iff Seeded.db Seeded.admin (Seeded.row 1) hmem⟩

/-- The save of a template that nobody has edited: `resolved` resolves no incident any
more. -/
theorem saving_drops_resolved :
    ∃ t ∈ Seeded.db.templates, ∃ t' ∈ (resave Seeded.db Seeded.admin t).templates,
      t'.id = t.id ∧ ¬ SameBehaviour t.definition t'.definition := by
  have hflags : ∃ t ∈ Seeded.db.templates, ∃ t' ∈ (resave Seeded.db Seeded.admin t).templates,
      t'.id = t.id ∧ t.definition.states.map (fun s => (s.key, READ_FLAGS.map s.flag)) ≠
        t'.definition.states.map fun s => (s.key, READ_FLAGS.map s.flag) := by decide +kernel
  obtain ⟨t, ht, t', ht', hid, hne⟩ := hflags
  exact ⟨t, ht, t', ht', hid, fun hsame => hne hsame.flags⟩

end EnvMgr.Lifecycle

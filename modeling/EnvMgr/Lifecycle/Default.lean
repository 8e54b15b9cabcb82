/-
The default template.

A new release that names no template gets the default of its kind, or else the
default for any kind. The look-up takes for granted that there is at most one of
either; the flag is set by whoever creates or edits a template, and nobody looks
whether another template has it.
-/
import EnvMgr.Lifecycle.Service

namespace EnvMgr.Lifecycle

/-! ## `release_service._resolve_lifecycle_template` -/

def default_templates (db : Db) (tenant_id : ℕ) (entity_type : String)
    (applies_to_kind : Option String) : List LifecycleTemplate :=
  db.templates.select fun t =>
    t.tenant_id = tenant_id ∧ t.entity_type = entity_type ∧ t.is_default = true ∧
      t.applies_to_kind = applies_to_kind ∧ t.deleted_at = none

def _resolve_lifecycle_template (db : Db) (lifecycle_template_id : Option ℕ) (tenant_id : ℕ)
    (release_kind : String) : Except Raised LifecycleTemplate :=
  match lifecycle_template_id with
  | some template_id => do
    let tpl ← get_or_raise
      (db.templates.select_one fun t =>
        t.id = template_id ∧ t.tenant_id = tenant_id ∧ t.entity_type = "release" ∧
          t.deleted_at = none)
      (http 422
        "lifecycle_template_id must refer to an active release lifecycle template for this tenant")
    raise_if (tpl.applies_to_kind ≠ none ∧ tpl.applies_to_kind ≠ some release_kind)
      (http 422 (s!"Lifecycle template's applies_to_kind={tpl.applies_to_kind.getD release_kind} "
        ++ s!"does not match release kind {release_kind}"))
    .ok tpl
  | none => do
    let kind_specific_tpl ← scalar_one_or_none
      (default_templates db tenant_id "release" (some release_kind))
    match kind_specific_tpl with
    | some tpl => .ok tpl
    | none => do
      let universal_tpl ← scalar_one_or_none (default_templates db tenant_id "release" none)
      get_or_raise universal_tpl
        (http 422 ("No default release lifecycle template found for this tenant. "
          ++ "Provide lifecycle_template_id explicitly or seed defaults."))

/-! ## One default of a kind -/

/-- What a default is the default for. -/
structure Slot where
  tenant_id : ℕ
  entity_type : String
  applies_to_kind : Option String
  deriving DecidableEq

def LifecycleTemplate.slot (t : LifecycleTemplate) : Slot :=
  ⟨t.tenant_id, t.entity_type, t.applies_to_kind⟩

def DefaultFor (t : LifecycleTemplate) (slot : Slot) : Prop :=
  t.deleted_at = none ∧ t.is_default = true ∧ t.slot = slot
  deriving Decidable

/-- There is at most one default of a kind, and the look-up never finds several. -/
structure OneDefault (db : Db) : Prop where
  unique : ∀ a ∈ db.templates, ∀ b ∈ db.templates,
    (∃ slot, DefaultFor a slot ∧ DefaultFor b slot) → a = b
  resolves : ∀ tenant_id release_kind,
    (default_templates db tenant_id "release" (some release_kind)).length ≤ 1 ∧
      (default_templates db tenant_id "release" none).length ≤ 1 ∧
      _resolve_lifecycle_template db none tenant_id release_kind ≠ .error .MultipleResultsFound

theorem mem_default_templates {db : Db} {tenant_id : ℕ} {entity_type : String}
    {applies_to_kind : Option String} {t : LifecycleTemplate} :
    t ∈ default_templates db tenant_id entity_type applies_to_kind ↔
      t ∈ db.templates ∧ DefaultFor t ⟨tenant_id, entity_type, applies_to_kind⟩ := by
  simp only [default_templates, Table.mem_select, decide_eq_true_eq, DefaultFor,
    LifecycleTemplate.slot, Slot.mk.injEq]
  tauto

theorem default_templates_nodup (db : Db) (tenant_id : ℕ) (entity_type : String)
    (applies_to_kind : Option String) :
    (default_templates db tenant_id entity_type applies_to_kind).Nodup :=
  db.templates.rows_nodup.filter _

/-- Rows that are all the same row are at most one row. -/
theorem length_le_one {α : Type*} {rows : List α} (hnodup : rows.Nodup)
    (h : ∀ a ∈ rows, ∀ b ∈ rows, a = b) : rows.length ≤ 1 := by
  match rows, hnodup with
  | [], _ => exact Nat.zero_le 1
  | [_], _ => exact le_refl 1
  | a :: b :: _, hnodup =>
    obtain rfl := h a (by simp) b (by simp)
    simp at hnodup

/-- The look-up relies on nothing else. -/
theorem oneDefault_iff {db : Db} :
    OneDefault db ↔ ∀ a ∈ db.templates, ∀ b ∈ db.templates,
      (∃ slot, DefaultFor a slot ∧ DefaultFor b slot) → a = b := by
  refine ⟨OneDefault.unique, fun h => ⟨h, fun tenant_id release_kind => ?_⟩⟩
  -- two rows of one look-up share its slot
  have hone : ∀ applies_to_kind,
      (default_templates db tenant_id "release" applies_to_kind).length ≤ 1 := by
    intro applies_to_kind
    refine length_le_one (default_templates_nodup db tenant_id "release" applies_to_kind) ?_
    intro a ha b hb
    obtain ⟨ha, hda⟩ := mem_default_templates.1 ha
    obtain ⟨hb, hdb⟩ := mem_default_templates.1 hb
    exact h a ha b hb ⟨_, hda, hdb⟩
  have hfinds : ∀ applies_to_kind, scalar_one_or_none
      (default_templates db tenant_id "release" applies_to_kind) =
        .ok (default_templates db tenant_id "release" applies_to_kind).head? := by
    intro applies_to_kind
    simp only [scalar_one_or_none, raise_if, if_neg (not_lt.2 (hone applies_to_kind))]
    rfl
  refine ⟨hone _, hone _, ?_⟩
  simp only [_resolve_lifecycle_template, hfinds]
  cases (default_templates db tenant_id "release" (some release_kind)).head? with
  | some tpl => simp [bind, Except.bind]
  | none =>
    cases (default_templates db tenant_id "release" none).head? with
    | some tpl => simp [bind, Except.bind, get_or_raise]
    | none => simp [bind, Except.bind, get_or_raise, http]

/-! ## What a request does to the defaults -/

/-- A request that leaves a template flagged as a default finds no other. -/
def FindsNoOther (db : Db) : Request → Prop
  | .create_lifecycle_template user data =>
    data.is_default = true → ∀ t ∈ db.templates,
      ¬ DefaultFor t ⟨user.active_tenant_id, data.entity_type, data.applies_to_kind⟩
  | .update_lifecycle_template user template_id data =>
    ∀ t, get_template db template_id user.active_tenant_id = .ok t →
      (data.write t).is_default = true →
      ∀ r ∈ db.templates, DefaultFor r (data.write t).slot → r = t
  | _ => True

/-- **What an accepted request does to the defaults.** -/
theorem oneDefault_change_iff {db db' : Db} {request : Request} (h : OneDefault db)
    (hc : Change db request db') : OneDefault db' ↔ FindsNoOther db request := by
  have hold := h.unique
  have hsymm : ∀ {a b : LifecycleTemplate}, (∃ slot, DefaultFor a slot ∧ DefaultFor b slot) →
      ∃ slot, DefaultFor b slot ∧ DefaultFor a slot := by
    rintro a b ⟨slot, ha, hb⟩
    exact ⟨slot, hb, ha⟩
  rw [oneDefault_iff]
  cases hc with
  | create hrole hvalid =>
    rw [Table.unique_insert_iff hsymm hold]
    constructor
    · intro hnew hdefault t ht hslot
      exact hnew t ht ⟨_, hslot, rfl, hdefault, rfl⟩
    · rintro hnew t ht ⟨slot, hslot, -, hdefault, rfl⟩
      exact hnew hdefault t ht hslot
  | @update user template_id data template hrole htemplate hvalid =>
    obtain ⟨hmem, hid, htenant, hlive⟩ := get_template_ok.1 htemplate
    rw [Table.unique_update_iff hsymm hold hmem (Table.key_match hmem)]
    constructor
    · intro hother t ht hdefault r hr hslot
      obtain rfl : t = template := Except.ok.inj (ht.symm.trans htemplate)
      exact hother r hr ⟨_, hslot, hlive, hdefault, rfl⟩
    · rintro hother r hr ⟨slot, hslot, -, hdefault, rfl⟩
      exact hother template htemplate hdefault r hr hslot
  | @delete user template_id now template hrole htemplate hfree =>
    obtain ⟨hmem, -⟩ := get_template_ok.1 htemplate
    rw [Table.unique_update_iff hsymm hold hmem (Table.key_match hmem)]
    refine iff_of_true ?_ trivial
    rintro r hr ⟨slot, -, hdeleted, -⟩
    cases hdeleted
  | copy hrole horiginal =>
    rw [Table.unique_insert_iff hsymm hold]
    refine iff_of_true ?_ trivial
    rintro r hr ⟨slot, -, -, hdefault, -⟩
    cases hdefault
  | booking_types => exact iff_of_true hold trivial

/-- **When there is one default.** From any state and over any requests, there is at
most one default of a kind at every moment, and the look-up of a new release finds at
most one, if and only if that is so at the start and no request that is accepted
leaves a template flagged as a default beside another one of its kind. -/
theorem one_default_iff (db : Db) (requests : List Request) :
    Runs.Always step OneDefault db requests ↔
      OneDefault db ∧
        Runs.Along step (fun db request => Accepted db request → FindsNoOther db request) db
          requests :=
  always_iff_accepted oneDefault_change_iff db requests

namespace TwoDefaults

def admin : CurrentUser := ⟨1, 1, Role.ADMIN, false⟩

/-- A draft and nothing else. -/
def definition : LifecycleDefinition where
  states := [⟨"draft", "Draft", true, false, false, false, false, false, false, false⟩]
  transitions := []
  field_permissions := Dict.empty
  action_permissions := none
  one_initial := by decide

def data (name : String) : LifecycleTemplateCreate :=
  ⟨name, none, true, "release", some "project", definition⟩

/-- Two templates for project releases, both ticked as the default. -/
def requests : List Request :=
  [.create_lifecycle_template admin (data "Major"), .create_lifecycle_template admin (data "Minor")]

end TwoDefaults

/-- Then no project release can be made without naming a template. -/
theorem two_defaults_break_lookup :
    OneDefault Db.fresh ∧ ¬ OneDefault (Runs.run step Db.fresh TwoDefaults.requests) ∧
      _resolve_lifecycle_template (Runs.run step Db.fresh TwoDefaults.requests) none 1 "project" =
        .error .MultipleResultsFound := by
  have hraises : _resolve_lifecycle_template (Runs.run step Db.fresh TwoDefaults.requests) none 1
      "project" = .error .MultipleResultsFound := by decide +kernel
  refine ⟨oneDefault_iff.2 fun a ha => absurd ha (Table.not_mem_empty a), fun h => ?_, hraises⟩
  exact (h.resolves 1 "project").2.2 hraises

end EnvMgr.Lifecycle

/-
A template that is in use.

`delete_template` asks whether any live booking type points at the template, and reads
the answer as one row or none. Two booking types that share a template are neither.
-/
import EnvMgr.Lifecycle.Service

namespace EnvMgr.Lifecycle

/-- A live booking type that points at the template. -/
def PointsAt (template_id : ℕ) (b : BookingType) : Prop :=
  b.lifecycle_template_id = template_id ∧ b.deleted_at = none
  deriving Decidable

/-- The rows `delete_template` looks for. -/
def users_of_template (db : Db) (template_id tenant_id : ℕ) : List BookingType :=
  db.booking_types.filter fun b =>
    b.lifecycle_template_id = template_id ∧ b.tenant_id = tenant_id ∧ b.deleted_at = none

/-- The delete is refused with 409, and the row stands as it did. -/
structure RefusedInUse (db : Db) (template : LifecycleTemplate) (now : DateTime) : Prop where
  conflict : delete_template db template.id template.tenant_id now =
    .error (http 409 "Cannot delete: template is in use by one or more booking types")
  untouched : template ∈
    (commit_or_rollback db (delete_template db template.id template.tenant_id now)).templates

theorem mem_users_of_template {db : Db} {template_id tenant_id : ℕ} {b : BookingType} :
    b ∈ users_of_template db template_id tenant_id ↔
      b ∈ db.booking_types ∧ PointsAt template_id b ∧ b.tenant_id = tenant_id := by
  simp only [users_of_template, List.mem_filter, decide_eq_true_eq, PointsAt]
  tauto

/-- The 409 is the answer to one row. -/
theorem delete_template_conflict_iff {db : Db} {template : LifecycleTemplate} {now : DateTime}
    (htemplate : get_template db template.id template.tenant_id = .ok template) :
    delete_template db template.id template.tenant_id now =
        .error (http 409 "Cannot delete: template is in use by one or more booking types") ↔
      (users_of_template db template.id template.tenant_id).length = 1 := by
  have hlookup : delete_template db template.id template.tenant_id now = (do
      let in_use ← scalar_one_or_none (users_of_template db template.id template.tenant_id)
      raise_if (in_use ≠ none)
        (http 409 "Cannot delete: template is in use by one or more booking types")
      .ok { db with
        templates := db.templates.update (fun t => t.id = template.id)
          ⟨fun t => { t with deleted_at := some now }, fun _ => rfl⟩ }) := by
    rw [delete_template, htemplate]
    rfl
  rw [hlookup, bind_eq_error]
  constructor
  · rintro (hraised | ⟨in_use, hfound, hraised⟩)
    · -- the look-up itself raises something else
      simp only [scalar_one_or_none, bind_eq_error, raise_if_eq_error] at hraised
      obtain ⟨-, hother⟩ | ⟨_, -, hother⟩ := hraised
      · cases hother
      · cases hother
    · obtain ⟨hlen, hhead⟩ := scalar_one_or_none_ok.1 hfound
      simp only [bind_eq_error, raise_if_eq_error, reduceCtorEq, and_false, exists_false,
        or_false, and_true] at hraised
      have hsome : users_of_template db template.id template.tenant_id ≠ [] := by
        intro hnil
        rw [hnil] at hhead
        exact hraised hhead.symm
      have hpos := List.length_pos_iff.2 hsome
      omega
  · -- of two rows or more the look-up would have raised already
    intro hone
    obtain ⟨b, hb⟩ := List.length_eq_one_iff.1 hone
    refine Or.inr ⟨some b, scalar_one_or_none_ok.2 ⟨hone.le, by rw [hb]; rfl⟩, ?_⟩
    rw [bind_eq_error, raise_if_eq_error]
    exact Or.inl ⟨Option.some_ne_none b, rfl⟩

theorem refusedInUse_iff {db : Db} {template : LifecycleTemplate} {now : DateTime}
    (htemplate : get_template db template.id template.tenant_id = .ok template) :
    RefusedInUse db template now ↔
      (users_of_template db template.id template.tenant_id).length = 1 := by
  rw [← @delete_template_conflict_iff db template now htemplate]
  constructor
  · exact RefusedInUse.conflict
  · intro hconflict
    refine ⟨hconflict, ?_⟩
    rw [hconflict]
    exact (get_template_ok.1 htemplate).1

/-- **A template in use.** The delete is refused with 409 exactly when some live
booking type points at the template, if and only if none does or exactly one of its
tenant does. -/
theorem delete_refused_in_use (db : Db) (template : LifecycleTemplate) (now : DateTime)
    (htemplate : get_template db template.id template.tenant_id = .ok template) :
    (RefusedInUse db template now ↔ ∃ b ∈ db.booking_types, PointsAt template.id b) ↔
      (∀ b ∈ db.booking_types, ¬ PointsAt template.id b) ∨
        (users_of_template db template.id template.tenant_id).length = 1 := by
  rw [refusedInUse_iff htemplate]
  by_cases hone : (users_of_template db template.id template.tenant_id).length = 1
  · -- the one row found is itself a reference
    obtain ⟨b, hb⟩ := List.length_eq_one_iff.1 hone
    have hmem : b ∈ users_of_template db template.id template.tenant_id := by rw [hb]; simp
    obtain ⟨hrow, hpoints, -⟩ := mem_users_of_template.1 hmem
    exact iff_of_true (iff_of_true hone ⟨b, hrow, hpoints⟩) (Or.inr hone)
  · constructor
    · intro h
      refine Or.inl fun b hb hpoints => hone (h.2 ⟨b, hb, hpoints⟩)
    · rintro (hnone | hone')
      · refine iff_of_false hone ?_
        rintro ⟨b, hb, hpoints⟩
        exact hnone b hb hpoints
      · exact absurd hone' hone

namespace SharedTemplate

def definition : Definition where
  states := []
  transitions := []
  field_permissions := Dict.empty
  action_permissions := none

def template : LifecycleTemplate where
  id := 1
  tenant_id := 1
  entity_type := "booking"
  name := "Standard"
  description := none
  is_default := true
  applies_to_kind := none
  definition := definition
  deleted_at := none

def booking_type (id : ℕ) : BookingType := ⟨id, 1, 1, none⟩

def db (booking_types : List BookingType) : Db :=
  ⟨Table.empty.insert ⟨fun id => { template with id := id }, fun _ => rfl⟩, booking_types⟩

end SharedTemplate

theorem delete_refused_in_use_by_one :
    (RefusedInUse (SharedTemplate.db [SharedTemplate.booking_type 1]) SharedTemplate.template 0 ↔
      ∃ b ∈ [SharedTemplate.booking_type 1], PointsAt 1 b) ↔
      (∀ b ∈ [SharedTemplate.booking_type 1], ¬ PointsAt 1 b) ∨
        (users_of_template (SharedTemplate.db [SharedTemplate.booking_type 1]) 1 1).length = 1 :=
  delete_refused_in_use (SharedTemplate.db [SharedTemplate.booking_type 1])
    SharedTemplate.template 0 (by decide)

/-- With two the answer is no 409: the look-up raises. -/
theorem two_users_of_template :
    ¬ (RefusedInUse
        (SharedTemplate.db [SharedTemplate.booking_type 1, SharedTemplate.booking_type 2])
        SharedTemplate.template 0 ↔
      ∃ b ∈ [SharedTemplate.booking_type 1, SharedTemplate.booking_type 2], PointsAt 1 b) ∧
    delete_template
        (SharedTemplate.db [SharedTemplate.booking_type 1, SharedTemplate.booking_type 2]) 1 1 0 =
      .error .MultipleResultsFound := by
  refine ⟨fun h => ?_, rfl⟩
  have hrefused := h.2 ⟨SharedTemplate.booking_type 1, by simp, rfl, rfl⟩
  cases hrefused.conflict

end EnvMgr.Lifecycle

/-
Open and closed, and neither.

A live incident or release is on exactly one of the two lists as long as the template
that governs it is there. A template may be deleted from under them: the service
refuses that for the booking types that use one, and for nothing else.
-/
import EnvMgr.Incidents.Service
import EnvMgr.Statuses.Always
import EnvMgr.Statuses.Effects

namespace EnvMgr.Incidents

open Lifecycle (LifecycleTemplate)

variable {ext : Bookings.External}
variable {request : Request} {tpl : LifecycleTemplate} {r : Statuses.Release}

/-! ## The property -/

section

variable (templates : Table LifecycleTemplate LifecycleTemplate.id) (entity_type : String)
  (tenant_id : ℕ) (template_id : Option ℕ)

/-- The row satisfies exactly one of the two clauses. -/
def Classified (status : String) : Prop :=
  terminal_status_clause templates tenant_id entity_type template_id status true ≠
    terminal_status_clause templates tenant_id entity_type template_id status false
  deriving Decidable

/-- The row's template is one of its tenant, for its kind of row. -/
def Governed : Prop :=
  ∃ t ∈ templates, template_id = some t.id ∧ t.tenant_id = tenant_id ∧ t.entity_type = entity_type

/-- It is not deleted either. -/
def GovernedLive : Prop :=
  ∃ t ∈ templates, template_id = some t.id ∧ t.tenant_id = tenant_id ∧
    t.entity_type = entity_type ∧ t.deleted_at = none

end

structure Partitioned (db : Db) : Prop where
  incidents : ∀ i ∈ db.incidents, i.deleted_at = none →
    Classified db.statuses.templates "incident" i.tenant_id i.lifecycle_template_id i.status
  releases : ∀ r ∈ db.statuses.releases, r.deleted_at = none →
    Classified db.statuses.templates "release" r.tenant_id (some r.lifecycle_template_id) r.status

/-- So the open and the closed list of a tenant share its live rows out between them. -/
theorem Partitioned.lists {db : Db} (h : Partitioned db) (tenant_id : ℕ) :
    (∀ i ∈ db.incidents, i.tenant_id = tenant_id → i.deleted_at = none →
      (i ∈ list_incidents db tenant_id true ↔ i ∉ list_incidents db tenant_id false)) ∧
    ∀ r ∈ db.statuses.releases, r.tenant_id = tenant_id → r.deleted_at = none →
      (r ∈ list_releases db tenant_id true ↔ r ∉ list_releases db tenant_id false) := by
  constructor
  · rintro i hi rfl hlive
    have hone := h.incidents i hi hlive
    simp only [list_incidents, Table.mem_select, decide_eq_true_eq, hi, hlive, true_and,
      Bool.not_true, Bool.not_false]
    -- one of the two clauses holds: in each case one list has the row
    revert hone
    unfold Classified
    cases terminal_status_clause db.statuses.templates i.tenant_id "incident"
      i.lifecycle_template_id i.status true <;>
      cases terminal_status_clause db.statuses.templates i.tenant_id "incident"
        i.lifecycle_template_id i.status false <;> simp
  · rintro r hr rfl hlive
    have hone := h.releases r hr hlive
    simp only [list_releases, Table.mem_select, decide_eq_true_eq, hr, hlive, true_and,
      Bool.not_true, Bool.not_false]
    revert hone
    unfold Classified
    cases terminal_status_clause db.statuses.templates r.tenant_id "release"
      (some r.lifecycle_template_id) r.status true <;>
      cases terminal_status_clause db.statuses.templates r.tenant_id "release"
        (some r.lifecycle_template_id) r.status false <;> simp

/-! ## What decides it -/

section

variable {templates templates' : Table LifecycleTemplate LifecycleTemplate.id}
  {entity_type : String} {tenant_id : ℕ} {template_id : Option ℕ} {status : String}

/-- The branch of the row's own template is the only one that can match. -/
theorem clause_of_mem {t : LifecycleTemplate} (ht : t ∈ templates) (htenant : t.tenant_id = tenant_id)
    (hentity : t.entity_type = entity_type) (terminal : Bool) :
    terminal_status_clause templates tenant_id entity_type (some t.id) status terminal =
      (decide (t.deleted_at = none) &&
        (if terminal then decide (status ∈ keys_with t.definition "is_terminal")
          else !decide (status ∈ keys_with t.definition "is_terminal"))) := by
  have hnone : ∀ t' : LifecycleTemplate, ((some t.id : Option ℕ) == none) = false := fun _ => rfl
  -- ids are unique, so no other template has a branch for this row
  have hown : ∀ t' ∈ list_templates templates tenant_id entity_type,
      ((some t.id : Option ℕ) == some t'.id) = true → t' = t := by
    intro t' ht' hid
    have hid : t.id = t'.id := by simpa using hid
    exact Table.eq_of_key_eq (Table.mem_select.1 ht').1 ht hid.symm
  have hlisted : t ∈ list_templates templates tenant_id entity_type ↔ t.deleted_at = none := by
    rw [list_templates, Table.mem_select, decide_eq_true_eq]
    exact ⟨fun h => h.2.2.1, fun h => ⟨ht, htenant, h, hentity⟩⟩
  rw [Bool.eq_iff_iff, terminal_status_clause]
  simp only [Bool.or_eq_true, List.any_eq_true, Option.any_eq_true_iff_get, Bool.and_eq_true,
    decide_eq_true_eq]
  constructor
  · rintro (⟨t', ht', hid, hbranch⟩ | ⟨_, hid, -⟩)
    · obtain rfl := hown t' ht' hid
      exact ⟨hlisted.1 ht', hbranch⟩
    · cases hid
  · rintro ⟨hlive, hbranch⟩
    exact Or.inl ⟨t, hlisted.2 hlive, by simp, hbranch⟩

/-- **A row is classified exactly if its template is not deleted.** -/
theorem classified_iff (h : Governed templates entity_type tenant_id template_id) :
    Classified templates entity_type tenant_id template_id status ↔
      GovernedLive templates entity_type tenant_id template_id := by
  obtain ⟨t, ht, rfl, htenant, hentity⟩ := h
  have hlive : GovernedLive templates entity_type tenant_id (some t.id) ↔ t.deleted_at = none := by
    constructor
    · rintro ⟨t', ht', hid, -, -, hlive⟩
      rwa [Table.eq_of_key_eq ht ht' (Option.some.inj hid)]
    · intro hlive
      exact ⟨t, ht, rfl, htenant, hentity, hlive⟩
  rw [hlive, Classified, clause_of_mem ht htenant hentity, clause_of_mem ht htenant hentity]
  cases decide (status ∈ keys_with t.definition "is_terminal") <;> simp

theorem GovernedLive.governed (h : GovernedLive templates entity_type tenant_id template_id) :
    Governed templates entity_type tenant_id template_id := by
  obtain ⟨t, ht, hid, htenant, hentity, -⟩ := h
  exact ⟨t, ht, hid, htenant, hentity⟩

/-! ## What requests do to templates -/

/-- The same template, whatever it says and whether it is deleted. -/
def SameTemplate (a b : LifecycleTemplate) : Prop :=
  b.id = a.id ∧ b.tenant_id = a.tenant_id ∧ b.entity_type = a.entity_type

theorem SameTemplate.refl (t : LifecycleTemplate) : SameTemplate t t := ⟨rfl, rfl, rfl⟩

theorem Governed.retain (h : Governed templates entity_type tenant_id template_id)
    (hr : Table.Retains SameTemplate templates templates') :
    Governed templates' entity_type tenant_id template_id := by
  obtain ⟨t, ht, rfl, htenant, hentity⟩ := h
  obtain ⟨t', ht', hid, htenant', hentity'⟩ := hr t ht
  exact ⟨t', ht', by rw [hid], htenant'.trans htenant, hentity'.trans hentity⟩

theorem GovernedLive.retain (h : GovernedLive templates entity_type tenant_id template_id)
    (hr : Table.Retains (fun a b => SameTemplate a b ∧ b.deleted_at = a.deleted_at)
      templates templates') :
    GovernedLive templates' entity_type tenant_id template_id := by
  obtain ⟨t, ht, rfl, htenant, hentity, hlive⟩ := h
  obtain ⟨t', ht', ⟨hid, htenant', hentity'⟩, hdeleted⟩ := hr t ht
  exact ⟨t', ht', by rw [hid], htenant'.trans htenant, hentity'.trans hentity,
    hdeleted.trans hlive⟩

theorem retains_change {db db' : Lifecycle.Db} {request : Lifecycle.Request}
    (h : Lifecycle.Change db request db') :
    Table.Retains SameTemplate db.templates db'.templates := by
  cases h with
  | create => exact Table.retains_insert SameTemplate.refl _ _
  | copy => exact Table.retains_insert SameTemplate.refl _ _
  | update => exact Table.retains_update SameTemplate.refl _ _ fun _ => ⟨rfl, rfl, rfl⟩
  | delete => exact Table.retains_update SameTemplate.refl _ _ fun _ => ⟨rfl, rfl, rfl⟩
  | booking_types => exact Table.retains_refl SameTemplate.refl _

/-- The template a request deletes. -/
def deleted_template : Lifecycle.Request → Option ℕ
  | .delete_lifecycle_template _ template_id _ => some template_id
  | _ => none

/-- Of the rows that a live template governs, a request takes away those of the template
it deletes. -/
theorem governedLive_change_iff {db db' : Lifecycle.Db} {request : Lifecycle.Request}
    (h : Lifecycle.Change db request db')
    (hlive : GovernedLive db.templates entity_type tenant_id template_id) :
    GovernedLive db'.templates entity_type tenant_id template_id ↔
      ∀ deleted ∈ deleted_template request, template_id ≠ some deleted := by
  have hrefl : ∀ t : LifecycleTemplate, SameTemplate t t ∧ t.deleted_at = t.deleted_at :=
    fun t => ⟨SameTemplate.refl t, rfl⟩
  cases h with
  | create => exact iff_of_true (hlive.retain (Table.retains_insert hrefl _ _)) nofun
  | copy => exact iff_of_true (hlive.retain (Table.retains_insert hrefl _ _)) nofun
  | booking_types => exact iff_of_true hlive nofun
  | update =>
    refine iff_of_true (hlive.retain ?_) nofun
    exact Table.retains_update hrefl _ _ fun _ => ⟨⟨rfl, rfl, rfl⟩, rfl⟩
  -- the only request that takes a template out of force
  | @delete user deleted now template hrole htemplate =>
    obtain ⟨-, rfl, -, -⟩ := Lifecycle.get_template_ok.1 htemplate
    simp only [deleted_template, Option.mem_def, Option.some.injEq, forall_eq']
    constructor
    · rintro ⟨t, ht, rfl, -, -, hdeleted⟩ heq
      rcases Table.mem_update_cases ht with ⟨t₀, -, -, rfl⟩ | ⟨-, hother⟩
      · cases hdeleted
      · exact of_decide_eq_false hother (Option.some.inj heq)
    · intro hne
      obtain ⟨t, ht, rfl, hrest⟩ := hlive
      refine ⟨t, Table.mem_update_of_neg ht (decide_eq_false fun hid => ?_), rfl, hrest⟩
      exact hne (congrArg some hid)

end

/-! ## What requests do to releases -/

section

variable {db db' : Statuses.Db}

/-- A release keeps its tenant and its template, and does not come back. -/
def SameHome (a b : Statuses.Release) : Prop :=
  b.tenant_id = a.tenant_id ∧ b.lifecycle_template_id = a.lifecycle_template_id ∧
    (b.deleted_at = none → a.deleted_at = none)

theorem resolve_lifecycle_template_ok {db : Lifecycle.Db} {lifecycle_template_id : Option ℕ}
    {tenant_id : ℕ} {release_kind : String}
    (h : Lifecycle._resolve_lifecycle_template db lifecycle_template_id tenant_id release_kind
      = .ok tpl) :
    tpl ∈ db.templates ∧ tpl.tenant_id = tenant_id ∧ tpl.entity_type = "release" ∧
      tpl.deleted_at = none := by
  -- either default, of the kind or of none, is a live release template of the tenant
  have hdefault : ∀ {kind : Option String} {found : Option LifecycleTemplate},
      Lifecycle.scalar_one_or_none (Lifecycle.default_templates db tenant_id "release" kind)
        = .ok found → found = some tpl →
      tpl ∈ db.templates ∧ tpl.tenant_id = tenant_id ∧ tpl.entity_type = "release" ∧
        tpl.deleted_at = none := by
    intro kind found hfound hsome
    simp only [Lifecycle.scalar_one_or_none, bind_eq_ok, Except.ok.injEq] at hfound
    obtain ⟨_, -, rfl⟩ := hfound
    have hmem := List.mem_of_head? hsome
    obtain ⟨ht, hlive, -, hslot⟩ := Lifecycle.mem_default_templates.1 hmem
    obtain ⟨htenant, hentity, -⟩ := Lifecycle.Slot.mk.inj hslot
    exact ⟨ht, htenant, hentity, hlive⟩
  cases lifecycle_template_id with
  | some template_id =>
    simp only [Lifecycle._resolve_lifecycle_template, bind_eq_ok, get_or_raise_eq_ok,
      Except.ok.injEq] at h
    obtain ⟨_, hfind, _, -, rfl⟩ := h
    obtain ⟨ht, hp⟩ := Table.select_one_some hfind
    obtain ⟨-, htenant, hentity, hlive⟩ := of_decide_eq_true hp
    exact ⟨ht, htenant, hentity, hlive⟩
  | none =>
    simp only [Lifecycle._resolve_lifecycle_template, bind_eq_ok] at h
    obtain ⟨kind_specific, hkind, h⟩ := h
    cases kind_specific with
    | some t =>
      obtain rfl := Except.ok.inj h
      exact hdefault hkind rfl
    | none =>
      simp only [bind_eq_ok, get_or_raise_eq_ok] at h
      obtain ⟨universal, huniversal, hsome⟩ := h
      exact hdefault huniversal hsome

/-- Where a release after a request comes from. -/
def ComesFrom (db : Statuses.Db) (r : Statuses.Release) : Prop :=
  (∃ r₀ ∈ db.releases, SameHome r₀ r) ∨
    GovernedLive db.templates "release" r.tenant_id (some r.lifecycle_template_id)

theorem comesFrom_self (hr : r ∈ db.releases) : ComesFrom db r :=
  Or.inl ⟨r, hr, rfl, rfl, id⟩

theorem comesFrom_update {p : Statuses.Release → Bool} {f : Table.Edit Statuses.Release.id}
    (hf : ∀ r, SameHome r (f.apply r)) (hr : r ∈ db.releases.update p f) :
    ComesFrom db r := by
  rcases Table.mem_update_cases hr with ⟨r₀, hr₀, -, rfl⟩ | ⟨hr, -⟩
  · exact Or.inl ⟨r₀, hr₀, hf r₀⟩
  · exact comesFrom_self hr

/-- **Only the lifecycle service writes templates, and a release is made on a live one.** -/
theorem statuses_effect {request : Statuses.Request}
    (hok : Statuses.handle ext db request = .ok db') :
    (∃ change l, request = .templates change ∧ Lifecycle.Change db.lifecycle change l ∧
        db' = { db with templates := l.templates }) ∨
      ((∀ change, request ≠ .templates change) ∧ db'.templates = db.templates ∧
        ∀ r ∈ db'.releases, ComesFrom db r) := by
  cases Statuses.effect_of_handle hok with
  | templates hchange => exact Or.inl ⟨_, _, rfl, hchange, rfl⟩
  | created htpl =>
    obtain ⟨ht, htenant, hentity, hlive⟩ := resolve_lifecycle_template_ok htpl
    refine Or.inr ⟨by rintro _ ⟨⟩, rfl, fun r hr => ?_⟩
    rcases Table.mem_insert.1 hr with hr | rfl
    · exact comesFrom_self hr
    · exact Or.inr ⟨_, ht, rfl, htenant, hentity, hlive⟩
  | moved =>
    exact Or.inr ⟨by rintro _ ⟨⟩, rfl, fun r hr => comesFrom_update (fun _ => ⟨rfl, rfl, id⟩) hr⟩
  | deleted =>
    refine Or.inr ⟨by rintro _ ⟨⟩, rfl, fun r hr => comesFrom_update (fun _ => ⟨rfl, rfl, ?_⟩) hr⟩
    intro hlive
    cases hlive
  | other hrequest htemplates hreleases =>
    refine Or.inr ⟨?_, htemplates, fun r hr => comesFrom_self ?_⟩
    · rintro change rfl
      cases hrequest
    · rwa [← hreleases]

end

/-! ## What requests do to incidents -/

theorem resolve_template_ok {db : Statuses.Db} {template_id : Option ℕ} {tenant_id : ℕ}
    (h : _resolve_template db template_id tenant_id = .ok tpl) :
    tpl ∈ db.templates ∧ tpl.tenant_id = tenant_id ∧ tpl.entity_type = "incident" ∧
      tpl.deleted_at = none := by
  cases template_id with
  | some chosen =>
    obtain ⟨ht, hp⟩ := Table.select_one_some (get_or_raise_eq_ok.1 h)
    obtain ⟨htenant, hentity, hlive, -⟩ := of_decide_eq_true hp
    exact ⟨ht, htenant, hentity, hlive⟩
  | none =>
    obtain ⟨ht, hp⟩ := Table.mem_select.1 (List.mem_of_head? (get_or_raise_eq_ok.1 h))
    obtain ⟨htenant, hentity, hlive, -⟩ := of_decide_eq_true hp
    exact ⟨ht, htenant, hentity, hlive⟩

/-- An incident of before, in its tenant and on its template, or a new one on a live
template. -/
structure IncidentEffect (db db' : Db) : Prop where
  statuses : db'.statuses = db.statuses
  incidents : ∀ i ∈ db'.incidents,
    (∃ i₀ ∈ db.incidents, i.tenant_id = i₀.tenant_id ∧
      i.lifecycle_template_id = i₀.lifecycle_template_id ∧
      (i.deleted_at = none → i₀.deleted_at = none)) ∨
    GovernedLive db.statuses.templates "incident" i.tenant_id i.lifecycle_template_id

theorem incidentEffect_update {db : Db} {p : Incident → Bool} {f : Table.Edit Incident.id}
    {history : Table IncidentStatusHistory IncidentStatusHistory.id}
    (hf : ∀ i, (f.apply i).tenant_id = i.tenant_id ∧
      (f.apply i).lifecycle_template_id = i.lifecycle_template_id ∧
      ((f.apply i).deleted_at = none → i.deleted_at = none)) :
    IncidentEffect db { db with incidents := db.incidents.update p f, history := history } := by
  refine ⟨rfl, fun i hi => Or.inl ?_⟩
  rcases Table.mem_update_cases hi with ⟨i₀, hi₀, -, rfl⟩ | ⟨hi, -⟩
  · exact ⟨i₀, hi₀, hf i₀⟩
  · exact ⟨i, hi, rfl, rfl, id⟩

/-- **An incident is made on a live template and stays with it.** -/
theorem incident_effect {db db' : Db} (hok : handle ext db request = .ok db')
    (hown : ∀ r, request ≠ .statuses r) : IncidentEffect db db' := by
  cases request with
  | statuses r => exact absurd rfl (hown r)
  | create_incident user data now =>
    simp only [handle, create_incident, bind_eq_ok] at hok
    obtain ⟨_, -, tpl, htpl, initial, -, _, -, hok⟩ := hok
    cases hok
    obtain ⟨ht, htenant, hentity, hlive⟩ := resolve_template_ok htpl
    refine ⟨rfl, fun i hi => ?_⟩
    rcases Table.mem_insert.1 hi with hi | rfl
    · exact Or.inl ⟨i, hi, rfl, rfl, id⟩
    · exact Or.inr ⟨tpl, ht, rfl, htenant, hentity, hlive⟩
  | update_incident user incident_id data =>
    simp only [handle, update_incident, bind_eq_ok] at hok
    obtain ⟨inc, -, _, -, hok⟩ := hok
    -- with custom fields there is one check more
    split at hok <;> simp only [bind_eq_ok] at hok
    · obtain ⟨_, -, _, -, hok⟩ := hok
      cases hok
      exact incidentEffect_update fun _ => ⟨rfl, rfl, id⟩
    · obtain ⟨_, -, hok⟩ := hok
      cases hok
      exact incidentEffect_update fun _ => ⟨rfl, rfl, id⟩
  | transition_incident user incident_id to_state now =>
    simp only [handle, transition, bind_eq_ok] at hok
    obtain ⟨inc, -, tpl, -, ⟨_, _⟩, -, _, -, hok⟩ := hok
    cases hok
    exact incidentEffect_update fun _ => ⟨rfl, rfl, id⟩
  | delete_incident user incident_id now =>
    simp only [handle, delete_incident, bind_eq_ok] at hok
    obtain ⟨inc, -, hok⟩ := hok
    cases hok
    refine incidentEffect_update fun _ => ⟨rfl, rfl, fun hlive => ?_⟩
    cases hlive

/-! ## Every run -/

/-- Every incident and release has a template, deleted or not. -/
structure Placed (db : Db) : Prop where
  incidents : ∀ i ∈ db.incidents,
    Governed db.statuses.templates "incident" i.tenant_id i.lifecycle_template_id
  releases : ∀ r ∈ db.statuses.releases,
    Governed db.statuses.templates "release" r.tenant_id (some r.lifecycle_template_id)

/-- Every live one has a template that is not deleted. -/
structure Running (db : Db) : Prop where
  incidents : ∀ i ∈ db.incidents, i.deleted_at = none →
    GovernedLive db.statuses.templates "incident" i.tenant_id i.lifecycle_template_id
  releases : ∀ r ∈ db.statuses.releases, r.deleted_at = none →
    GovernedLive db.statuses.templates "release" r.tenant_id (some r.lifecycle_template_id)

theorem partitioned_iff {db : Db} (h : Placed db) : Partitioned db ↔ Running db := by
  constructor
  · intro hp
    refine ⟨fun i hi hlive => ?_, fun r hr hlive => ?_⟩
    · exact (classified_iff (h.incidents i hi)).1 (hp.incidents i hi hlive)
    · exact (classified_iff (h.releases r hr)).1 (hp.releases r hr hlive)
  · intro hr
    refine ⟨fun i hi hlive => ?_, fun r hmem hlive => ?_⟩
    · exact (classified_iff (h.incidents i hi)).2 (hr.incidents i hi hlive)
    · exact (classified_iff (h.releases r hmem)).2 (hr.releases r hmem hlive)

theorem placed_handle {db db' : Db} (h : Placed db) (hok : handle ext db request = .ok db') :
    Placed db' := by
  by_cases hown : ∀ r, request ≠ .statuses r
  · obtain ⟨hstatuses, hincidents⟩ := incident_effect hok hown
    refine ⟨fun i hi => ?_, fun r hr => ?_⟩
    · rw [hstatuses]
      rcases hincidents i hi with ⟨i₀, hi₀, htenant, htemplate, -⟩ | hlive
      · rw [htenant, htemplate]
        exact h.incidents i₀ hi₀
      · exact hlive.governed
    · rw [hstatuses] at hr ⊢
      exact h.releases r hr
  · push Not at hown
    obtain ⟨r, rfl⟩ := hown
    obtain ⟨s, hs, rfl⟩ := map_eq_ok.1 hok
    rcases statuses_effect hs with ⟨change, l, -, hchange, rfl⟩ | ⟨-, htemplates, hreleases⟩
    · have hr := retains_change hchange
      exact ⟨fun i hi => (h.incidents i hi).retain hr, fun r hmem => (h.releases r hmem).retain hr⟩
    · refine ⟨fun i hi => ?_, fun r hr => ?_⟩
      · rw [htemplates]
        exact h.incidents i hi
      · rw [htemplates]
        rcases hreleases r hr with ⟨r₀, hr₀, htenant, htemplate, -⟩ | hlive
        · rw [htenant, htemplate]
          exact h.releases r₀ hr₀
        · exact hlive.governed

/-- A template is not deleted while a live incident or release runs on it. -/
def SparesGoverning (db : Db) : Request → Prop
  | .statuses (.templates request) => ∀ deleted ∈ deleted_template request,
    (∀ i ∈ db.incidents, i.deleted_at = none → i.lifecycle_template_id ≠ some deleted) ∧
      ∀ r ∈ db.statuses.releases, r.deleted_at = none → some r.lifecycle_template_id ≠ some deleted
  | _ => True

/-- **What an accepted request keeps running.** -/
theorem running_handle_iff {db db' : Db} (h : Running db) (hok : handle ext db request = .ok db') :
    Running db' ↔ SparesGoverning db request := by
  by_cases hown : ∀ r, request ≠ .statuses r
  · obtain ⟨hstatuses, hincidents⟩ := incident_effect hok hown
    have hrunning : Running db' := by
      refine ⟨fun i hi hlive => ?_, fun r hr hlive => ?_⟩
      · rw [hstatuses]
        rcases hincidents i hi with ⟨i₀, hi₀, htenant, htemplate, hlive₀⟩ | hnew
        · rw [htenant, htemplate]
          exact h.incidents i₀ hi₀ (hlive₀ hlive)
        · exact hnew
      · rw [hstatuses] at hr ⊢
        exact h.releases r hr hlive
    refine iff_of_true hrunning ?_
    cases request with
    | statuses r => exact absurd rfl (hown r)
    | create_incident | update_incident | transition_incident | delete_incident => trivial
  · push Not at hown
    obtain ⟨request, rfl⟩ := hown
    obtain ⟨s, hs, rfl⟩ := map_eq_ok.1 hok
    rcases statuses_effect hs with ⟨change, l, rfl, hchange, rfl⟩ | ⟨hne, htemplates, hreleases⟩
    -- a change of templates: the rows stay, what governs them may not
    · have hstill : ∀ {entity_type : String} {tenant_id : ℕ} {template_id : Option ℕ},
          GovernedLive db.statuses.templates entity_type tenant_id template_id →
          (GovernedLive l.templates entity_type tenant_id template_id ↔
            ∀ deleted ∈ deleted_template change, template_id ≠ some deleted) :=
        fun hlive => governedLive_change_iff hchange hlive
      constructor
      · intro hrunning deleted hdeleted
        refine ⟨fun i hi hlive => ?_, fun r hr hlive => ?_⟩
        · exact (hstill (h.incidents i hi hlive)).1 (hrunning.incidents i hi hlive) deleted hdeleted
        · exact (hstill (h.releases r hr hlive)).1 (hrunning.releases r hr hlive) deleted hdeleted
      · intro hspares
        refine ⟨fun i hi hlive => ?_, fun r hr hlive => ?_⟩
        · exact (hstill (h.incidents i hi hlive)).2 fun deleted hdeleted =>
            (hspares deleted hdeleted).1 i hi hlive
        · exact (hstill (h.releases r hr hlive)).2 fun deleted hdeleted =>
            (hspares deleted hdeleted).2 r hr hlive
    -- any other request of the status services leaves the templates alone
    · have hrunning : Running { db with statuses := s } := by
        refine ⟨fun i hi hlive => ?_, fun r hr hlive => ?_⟩
        · rw [htemplates]
          exact h.incidents i hi hlive
        · rw [htemplates]
          rcases hreleases r hr with ⟨r₀, hr₀, htenant, htemplate, hlive₀⟩ | hnew
          · rw [htenant, htemplate]
            exact h.releases r₀ hr₀ (hlive₀ hlive)
          · exact hnew
      refine iff_of_true hrunning ?_
      unfold SparesGoverning
      split
      · rename_i change heq
        exact absurd (Request.statuses.inj heq) (hne change)
      · trivial

theorem partitioned_step_iff {db : Db} (hplaced : Placed db) (h : Partitioned db)
    (request : Request) :
    Partitioned (step ext db request) ↔ (Accepted ext db request → SparesGoverning db request) := by
  refine commit_or_rollback_iff h fun db' hhandle => ?_
  rw [partitioned_iff (placed_handle hplaced hhandle)]
  exact running_handle_iff ((partitioned_iff hplaced).1 h) hhandle

theorem placed_step {db : Db} (h : Placed db) (request : Request) :
    Placed (step ext db request) :=
  commit_or_rollback_keeps h fun _ hok => placed_handle h hok

/-- **When the open and the closed lists share out all there is.** From any templates, and
whatever requests are made: every live incident and release satisfies exactly one of the
two clauses at all times, if and only if no accepted request deletes a template that a
live incident or release runs on. -/
theorem partition_iff (ext : Bookings.External)
    (templates : Table LifecycleTemplate LifecycleTemplate.id)
    (booking_types : Table Bookings.BookingType Bookings.BookingType.id)
    (environments : Table Environment Environment.id) (rows : Bookings.Reference)
    (reference : Statuses.Reference) (requests : List Request) :
    let db := Db.opened (Statuses.Db.seeded templates booking_types environments rows reference)
    Runs.Always (step ext) Partitioned db requests ↔
      Runs.Along (step ext)
        (fun db request => Accepted ext db request → SparesGoverning db request) db requests := by
  intro db
  have hplaced : Placed db :=
    ⟨fun i hi => absurd hi (Table.not_mem_empty i), fun r hr => absurd hr (Table.not_mem_empty r)⟩
  have hstart : Partitioned db :=
    ⟨fun i hi => absurd hi (Table.not_mem_empty i), fun r hr => absurd hr (Table.not_mem_empty r)⟩
  have hwf : ∀ db request, Placed db → Placed (step ext db request) :=
    fun db request h => placed_step h request
  have hstep : ∀ db request, Placed db → Partitioned db →
      (Partitioned (step ext db request) ↔
        (Accepted ext db request → SparesGoverning db request)) :=
    fun db request hp h => partitioned_step_iff hp h request
  exact Runs.always_iff_along hwf hstep hplaced hstart requests

namespace Sample

/-- An incident is reported, and its lifecycle is deleted. -/
def stranding : List Request :=
  [.create_incident Lifecycle.Seeded.admin report 0,
    .statuses (.templates (.delete_lifecycle_template Lifecycle.Seeded.admin 1 1))]

def stranded : Db := Runs.run (step Bookings.Sample.ext) db stranding

end Sample

/-- The incident is on neither list. -/
theorem stranded_is_not_partitioned : ¬ Partitioned Sample.stranded := by
  intro h
  have hstranded : ∃ i ∈ Sample.stranded.incidents, i.deleted_at = none ∧
      ¬ Classified Sample.stranded.statuses.templates "incident" i.tenant_id
        i.lifecycle_template_id i.status := by
    decide +kernel
  obtain ⟨i, hi, hlive, hneither⟩ := hstranded
  exact hneither (h.incidents i hi hlive)

end EnvMgr.Incidents

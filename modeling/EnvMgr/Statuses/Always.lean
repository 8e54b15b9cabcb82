/-
When every status is always one of its template's.

For each kind of request: what an accepted one keeps, it keeps exactly if it is
`Proper`. Over runs, then, every live record's status is at all times a state of the
template that governs it exactly if every accepted request is proper.
-/
import EnvMgr.Statuses.Declared

namespace EnvMgr.Statuses

open Bookings (Booking BookingRequest BookingType)
open Lifecycle (Definition LifecycleTemplate)

variable {user : CurrentUser} {to_state : String} {now : DateTime}
variable {status : String} {bt : BookingType} {type_id : ℕ} {target : Option String}
variable {cr_id tenant_id release_id : ℕ}

variable {ext : Bookings.External} {db db' : Db}

/-! ## Templates -/

theorem SameStates.refl (t : LifecycleTemplate) : SameStates t t := ⟨rfl, rfl⟩

theorem declared_retain (h : Declared db) {templates : Table LifecycleTemplate LifecycleTemplate.id}
    (hr : Table.Retains SameStates db.templates templates) :
    Declared { db with templates := templates } where
  bookings := fun b hb hlive =>
    (h.bookings b hb hlive).mono fun _ _ hknown => hknown.mono fun _ _ => Known.retain hr
  releases := fun r hmem hlive => (h.releases r hmem hlive).retain hr
  change_requests := fun c hmem hlive => (h.change_requests c hmem hlive).retain hr

section Template

variable {t : LifecycleTemplate} {f : Table.Edit LifecycleTemplate.id}

theorem known_written (ht : t ∈ db.templates) :
    Known (db.templates.update (fun r => r.id = t.id) f) t.id status ↔
      status ∈ state_keys (f.apply t).definition := by
  have hmem : f.apply t ∈ db.templates.update (fun r => r.id = t.id) f :=
    Table.mem_update_of_pos ht (decide_eq_true rfl)
  have hknown := @known_iff _ _ hmem status
  rwa [f.key_apply t] at hknown

theorem known_unwritten {template_id : ℕ} (hne : template_id ≠ t.id) :
    Known (db.templates.update (fun r => r.id = t.id) f) template_id status ↔
      Known db.templates template_id status := by
  constructor
  · rintro ⟨t', ht', rfl, hmem⟩
    rcases Table.mem_update_cases ht' with ⟨t₀, -, hid, rfl⟩ | ⟨ht', -⟩
    · rw [f.key_apply] at hne
      exact absurd (of_decide_eq_true hid) hne
    · exact ⟨t', ht', rfl, hmem⟩
  · rintro ⟨t', ht', rfl, hmem⟩
    exact ⟨t', Table.mem_update_of_neg ht' (decide_eq_false hne), rfl, hmem⟩

/-- New states fit as far as all that runs on the template stands in one of them. -/
theorem declared_template_iff (h : Declared db) (ht : t ∈ db.templates) :
    Declared { db with templates := db.templates.update (fun r => r.id = t.id) f } ↔
      ∀ status, Stands db t.id status → status ∈ state_keys (f.apply t).definition := by
  constructor
  · intro hnew status hstands
    cases hstands with
    | booking b hb hlive hstatus r hr hid bt hbt htype htemplate =>
      have hknown := hnew.bookings b hb hlive
      rw [← hid, knownToRequest_iff hr, ← htype, knownToType_iff hbt, htemplate, hstatus] at hknown
      exact (known_written ht).1 hknown
    | release r hr hlive hstatus htemplate =>
      have hknown := hnew.releases r hr hlive
      rw [htemplate, hstatus] at hknown
      exact (known_written ht).1 hknown
    | change_request c hc hlive hstatus htemplate =>
      have hknown := hnew.change_requests c hc hlive
      rw [htemplate, hstatus] at hknown
      exact (known_written ht).1 hknown
  · intro hall
    -- a status on another template is not touched
    have hkeep : ∀ template_id status, Known db.templates template_id status →
        (template_id = t.id → Stands db t.id status) →
        Known (db.templates.update (fun r => r.id = t.id) f) template_id status := by
      intro template_id status hknown hstands
      by_cases hid : template_id = t.id
      · rw [hid]
        exact (known_written ht).2 (hall status (hstands hid))
      · exact (known_unwritten hid).2 hknown
    refine ⟨fun b hb hlive => ?_, fun r hr hlive => ?_, fun c hc hlive => ?_⟩
    · obtain ⟨r, hr, hid, bt, hbt, htype, hknown⟩ := h.bookings b hb hlive
      refine ⟨r, hr, hid, bt, hbt, htype, hkeep _ _ hknown fun htemplate => ?_⟩
      exact .booking b hb hlive rfl r hr hid bt hbt htype htemplate
    · exact hkeep _ _ (h.releases r hr hlive) fun htemplate => .release r hr hlive rfl htemplate
    · exact hkeep _ _ (h.change_requests c hc hlive) fun htemplate =>
        .change_request c hc hlive rfl htemplate

end Template

theorem state_keys_migrate (definition : Definition) (entity_type : String) :
    state_keys (Lifecycle.migrate_field_permissions definition entity_type)
      = state_keys definition := by
  unfold Lifecycle.migrate_field_permissions
  split
  · rfl
  · rfl

theorem state_keys_dump (definition : Lifecycle.LifecycleDefinition) :
    state_keys definition.model_dump
      = definition.states.map Lifecycle.LifecycleState.key := by
  rw [state_keys, Lifecycle.LifecycleDefinition.model_dump, List.map_map]
  rfl

theorem declared_templates_iff (h : Declared db) {request : Lifecycle.Request}
    (hok : handle ext db (.templates request) = .ok db') :
    Declared db' ↔ Proper db (.templates request) := by
  obtain ⟨l, hl, rfl⟩ := map_eq_ok.1 hok
  cases Lifecycle.handle_eq_ok.1 hl with
  | create =>
    exact iff_of_true (declared_retain h (Table.retains_insert SameStates.refl _ _)) trivial
  | copy =>
    exact iff_of_true (declared_retain h (Table.retains_insert SameStates.refl _ _)) trivial
  | booking_types => exact iff_of_true h trivial
  | delete =>
    refine iff_of_true (declared_retain h ?_) trivial
    exact Table.retains_update SameStates.refl _ _ fun _ => ⟨rfl, rfl⟩
  | @update user template_id data template hrole htemplate =>
    obtain ⟨hmem, rfl, -, -⟩ := Lifecycle.get_template_ok.1 htemplate
    cases hdefinition : data.definition with
    | none =>
      have hretains : Table.Retains SameStates db.templates
          (db.templates.update (fun t => t.id = template.id) ⟨data.write, fun _ => rfl⟩) := by
        refine Table.retains_update SameStates.refl _ _ fun t => ⟨rfl, ?_⟩
        simp only [Lifecycle.LifecycleTemplateUpdate.write, hdefinition, Option.map_none,
          Option.getD_none]
      refine iff_of_true (declared_retain h hretains) ?_
      simp only [Proper, hdefinition, Option.mem_def, reduceCtorEq, false_implies, implies_true]
    | some definition =>
      have hkeys : state_keys (data.write template).definition
          = definition.states.map Lifecycle.LifecycleState.key := by
        rw [← state_keys_dump, ← state_keys_migrate definition.model_dump template.entity_type]
        simp only [Lifecycle.LifecycleTemplateUpdate.write, hdefinition, Option.map_some,
          Option.getD_some]
      refine (declared_template_iff h hmem).trans ?_
      simp only [Proper, hdefinition, Option.mem_def, Option.some.injEq, forall_eq', hkeys]

/-! ## Booking types -/

theorem SameType.refl (bt : BookingType) : SameType bt bt := ⟨rfl, rfl⟩

theorem declared_retain_types (h : Declared db) {booking_types : Table BookingType BookingType.id}
    (hr : Table.Retains SameType db.booking_types booking_types) :
    Declared { db with booking_types := booking_types } where
  bookings := fun b hb hlive => (h.bookings b hb hlive).mono fun _ _ => KnownToType.retain hr
  releases := h.releases
  change_requests := h.change_requests

/-- Another template for a type fits as far as the bookings of the type stand in one of
its states. -/
theorem declared_type_iff (h : Declared db) (hbt : bt ∈ db.booking_types)
    {f : Table.Edit BookingType.id} :
    Declared { db with booking_types := db.booking_types.update (fun b => b.id = bt.id) f } ↔
      ∀ b ∈ db.bookings.bookings, b.deleted_at = none → ∀ r ∈ db.bookings.requests,
        r.id = b.booking_request_id → r.booking_type_id = bt.id →
          Known db.templates (f.apply bt).lifecycle_template_id b.status := by
  have hmem : f.apply bt ∈ db.booking_types.update (fun b => b.id = bt.id) f :=
    Table.mem_update_of_pos hbt (decide_eq_true rfl)
  have hwritten := fun status => @knownToType_iff db.templates _ _ hmem status
  simp only [f.key_apply bt] at hwritten
  constructor
  · intro hnew b hb hlive r hr hid htype
    have hknown := hnew.bookings b hb hlive
    rw [← hid, knownToRequest_iff hr, htype] at hknown
    exact (hwritten b.status).1 hknown
  · intro hall
    refine ⟨fun b hb hlive => ?_, h.releases, h.change_requests⟩
    obtain ⟨r, hr, hid, bt', hbt', htype, hknown⟩ := h.bookings b hb hlive
    refine ⟨r, hr, hid, ?_⟩
    by_cases hsame : r.booking_type_id = bt.id
    · rw [hsame]
      exact (hwritten b.status).2 (hall b hb hlive r hr hid hsame)
    · refine ⟨bt', Table.mem_update_of_neg hbt' (decide_eq_false ?_), htype, hknown⟩
      rwa [htype]

theorem get_type_ok (hok : get_type db type_id tenant_id = .ok bt) :
    bt ∈ db.booking_types ∧ bt.id = type_id := by
  obtain ⟨hmem, hp⟩ := Table.select_one_some (get_or_raise_eq_ok.1 hok)
  exact ⟨hmem, (of_decide_eq_true hp).1⟩

theorem declared_update_type_iff (h : Declared db) {data : BookingTypeUpdate}
    (hok : handle ext db (.update_booking_type user type_id data) = .ok db') :
    Declared db' ↔ Proper db (.update_booking_type user type_id data) := by
  simp only [handle, update_type, bind_eq_ok] at hok
  obtain ⟨_, -, bt, hget, _, -, hok⟩ := hok
  cases hok
  obtain ⟨hmem, rfl⟩ := get_type_ok hget
  refine (declared_type_iff h hmem).trans ?_
  cases htemplate : data.lifecycle_template_id with
  | none =>
    refine iff_of_true (fun b hb hlive r hr hid htype => ?_) ?_
    · have hknown := h.bookings b hb hlive
      rw [← hid, knownToRequest_iff hr, htype, knownToType_iff hmem] at hknown
      simpa only [BookingTypeUpdate.write, htemplate, Option.getD_none] using hknown
    · simp only [Proper, htemplate, Option.mem_def, reduceCtorEq, false_implies, implies_true]
  | some template_id =>
    simp only [Proper, BookingTypeUpdate.write, htemplate, Option.mem_def, Option.some.injEq,
      forall_eq', Option.getD_some]

/-! ## Transitions of bookings -/

theorem declared_move_iff (h : Declared db) {moving : List Booking} :
    Declared (move_bookings db moving to_state user now) ↔ ∀ b ∈ db.bookings.bookings,
      b.id ∈ moving.map Booking.id → b.deleted_at = none →
        KnownToRequest db.templates db.booking_types db.bookings.requests b.booking_request_id
          to_state := by
  refine (declared_bookings h).trans ((Table.forall_update_iff h.bookings).trans ?_)
  constructor
  · intro hall b hb hmoving
    exact hall b hb (decide_eq_true hmoving)
  · intro hall b hb hmoving
    exact hall b hb (of_decide_eq_true hmoving)

theorem declared_transition_booking_iff (h : Declared db) {booking_id : ℕ}
    (hok : handle ext db (.transition_booking user booking_id to_state now) = .ok db') :
    Declared db' ↔ Proper db (.transition_booking user booking_id to_state now) := by
  simp only [handle, transition_state, bind_eq_ok] at hok
  obtain ⟨booking, hget, template, -, request, -, ⟨allowed, reason⟩, -, _, -, _, -, hok⟩ := hok
  cases hok
  obtain ⟨hmem, rfl, -, hlive⟩ := Bookings.get_booking_ok hget
  rw [declared_move_iff h]
  constructor
  · intro hall b hb hid
    refine hall b hb (List.mem_singleton.2 hid) ?_
    rwa [Table.eq_of_key_eq hb hmem hid]
  · intro hall b hb hid _
    exact hall b hb (List.mem_singleton.1 hid)

theorem declared_transition_group_iff (h : Declared db) {request_id group_id : ℕ}
    (hok : handle ext db (.transition_group user request_id group_id to_state now) = .ok db') :
    Declared db' ↔ Proper db (.transition_group user request_id group_id to_state now) := by
  simp only [handle, transition_group, _group_bookings, bind_eq_ok, raise_if_eq_ok] at hok
  obtain ⟨rows, ⟨_, hne, hrows⟩, first, -, template, -, checked, -, _, -, _, -, hok⟩ := hok
  cases hrows
  cases hok
  -- the members are live bookings of the request
  have hmember : ∀ b ∈ order_by Booking.id (db.bookings.bookings.select fun b =>
      b.booking_request_id = request_id ∧ b.environment_group_id = some group_id ∧
        b.tenant_id = user.active_tenant_id ∧ b.deleted_at = none ∧
        ∃ r ∈ db.bookings.requests.rows, r.id = b.booking_request_id ∧
          r.tenant_id = user.active_tenant_id ∧ r.deleted_at = none),
      b ∈ db.bookings.bookings ∧ b.booking_request_id = request_id ∧ b.deleted_at = none := by
    intro b hb
    rw [mem_order_by, Table.mem_select, decide_eq_true_eq] at hb
    exact ⟨hb.1, hb.2.1, hb.2.2.2.2.1⟩
  rw [declared_move_iff h]
  constructor
  · intro hall
    obtain ⟨b, hb⟩ := List.exists_mem_of_ne_nil _ hne
    obtain ⟨hmem, hrequest, hlive⟩ := hmember b hb
    have hknown := hall b hmem (List.mem_map_of_mem hb) hlive
    rwa [hrequest] at hknown
  · intro hknown b hb hid _
    obtain ⟨b', hb', heq⟩ := List.mem_map.1 hid
    obtain ⟨hmem, hrequest, -⟩ := hmember b' hb'
    rw [← Table.eq_of_key_eq hmem hb heq, hrequest]
    exact hknown

/-! ## Releases -/

theorem declared_releases (h : Declared db) {releases : Table Release Release.id} :
    Declared { db with releases := releases } ↔ ∀ r ∈ releases, r.deleted_at = none →
      Known db.templates r.lifecycle_template_id r.status :=
  ⟨Declared.releases, fun hall => ⟨h.bookings, hall, h.change_requests⟩⟩

theorem get_release_ok {r : Release} (hok : _get_release db release_id tenant_id = .ok r) :
    r ∈ db.releases ∧ r.id = release_id ∧ r.deleted_at = none := by
  obtain ⟨hmem, hp⟩ := Table.select_one_some (get_or_raise_eq_ok.1 hok)
  obtain ⟨hid, -, hlive⟩ := of_decide_eq_true hp
  exact ⟨hmem, hid, hlive⟩

theorem declared_create_release_iff (h : Declared db) {data : ReleaseCreate}
    (hok : handle ext db (.create_release user data) = .ok db') :
    Declared db' ↔ Proper db (.create_release user data) := by
  simp only [handle, create_release, bind_eq_ok] at hok
  obtain ⟨tpl, htpl, _, -, _, -, _, -, hok⟩ := hok
  cases hok
  refine (declared_releases h).trans ((Table.forall_insert_iff h.releases).trans ?_)
  constructor
  · intro hknown tpl' htpl'
    cases htpl.symm.trans htpl'
    exact hknown rfl
  · intro hall _
    exact hall tpl htpl

theorem declared_transition_release_iff (h : Declared db)
    (hok : handle ext db (.transition_release user release_id to_state now) = .ok db') :
    Declared db' ↔ Proper db (.transition_release user release_id to_state now) := by
  simp only [handle, transition_release, bind_eq_ok] at hok
  obtain ⟨release, hget, tpl, -, ⟨allowed, reason⟩, -, _, -, _, -, hok⟩ := hok
  cases hok
  obtain ⟨hmem, rfl, hlive⟩ := get_release_ok hget
  refine (declared_releases h).trans ((Table.forall_update_key_iff h.releases hmem).trans ?_)
  refine (forall_prop_of_true hlive).trans (Iff.symm ?_)
  exact Table.forall_key_iff (P := fun r => Known db.templates r.lifecycle_template_id to_state) hmem

theorem declared_delete_release (h : Declared db)
    (hok : handle ext db (.delete_release user release_id now) = .ok db') :
    Declared db' := by
  simp only [handle, delete_release, bind_eq_ok] at hok
  obtain ⟨release, -, hok⟩ := hok
  cases hok
  refine (declared_releases h).2 ((Table.forall_update_iff h.releases).2 fun r _ _ hlive => ?_)
  cases hlive

/-! ## Change requests -/

theorem declared_change_requests (h : Declared db) {builds : Table Build Build.id}
    {deployments : Table Deployment Deployment.id}
    {change_requests : Table ChangeRequest ChangeRequest.id} :
    Declared { db with
      builds := builds
      deployments := deployments
      change_requests := change_requests } ↔
      ∀ c ∈ change_requests, c.deleted_at = none → Known db.templates c.lifecycle_id c.status :=
  ⟨Declared.change_requests, fun hall => ⟨h.bookings, h.releases, hall⟩⟩

theorem get_cr_ok {c : ChangeRequest} (hok : _get_cr db cr_id tenant_id = .ok c) :
    c ∈ db.change_requests ∧ c.id = cr_id ∧ c.deleted_at = none := by
  obtain ⟨hmem, hp⟩ := Table.select_one_some (get_or_raise_eq_ok.1 hok)
  obtain ⟨hid, -, hlive⟩ := of_decide_eq_true hp
  exact ⟨hmem, hid, hlive⟩

theorem declared_create_change_request (h : Declared db) {data : ChangeRequestCreate}
    (hok : handle ext db (.create_change_request user data) = .ok db') : Declared db' := by
  simp only [handle, create_change_request, _initial_state, bind_eq_ok, get_or_raise_eq_ok] at hok
  obtain ⟨_, -, tpl, htpl, _, -, _, -, _, -, _, -, initial_state, ⟨state, hstate, hkey⟩, hok⟩ := hok
  cases hkey
  cases hok
  refine (declared_change_requests h).2 ((Table.forall_insert_iff h.change_requests).2 fun _ => ?_)
  obtain ⟨hmem, hp⟩ := Table.select_one_some (get_or_raise_eq_ok.1 htpl)
  exact ⟨tpl, hmem, (of_decide_eq_true hp).1,
    List.mem_map_of_mem (List.mem_of_find?_eq_some hstate)⟩

theorem declared_transition_change_request_iff (h : Declared db)
    (hok : handle ext db (.transition_change_request user cr_id to_state) = .ok db') :
    Declared db' ↔ Proper db (.transition_change_request user cr_id to_state) := by
  simp only [handle, transition_status, bind_eq_ok] at hok
  obtain ⟨cr, hget, tpl, -, ⟨allowed, reason⟩, -, _, -, hok⟩ := hok
  cases hok
  obtain ⟨hmem, rfl, hlive⟩ := get_cr_ok hget
  refine (declared_change_requests h).trans
    ((Table.forall_update_key_iff h.change_requests hmem).trans ?_)
  refine (forall_prop_of_true hlive).trans (Iff.symm ?_)
  exact Table.forall_key_iff (P := fun c => Known db.templates c.lifecycle_id to_state) hmem

theorem declared_delete_change_request (h : Declared db)
    (hok : handle ext db (.delete_change_request user cr_id now) = .ok db') :
    Declared db' := by
  simp only [handle, soft_delete_change_request, bind_eq_ok] at hok
  obtain ⟨cr, -, hok⟩ := hok
  cases hok
  refine (declared_change_requests h).2
    ((Table.forall_update_iff h.change_requests).2 fun c _ _ hlive => ?_)
  cases hlive

/-! ## Deployments -/

section Deployment

variable {change_requests change_requests' : Table ChangeRequest ChangeRequest.id}

/-- The linked change request takes the target, if there is one. -/
theorem sync_known_iff
    (h : ∀ c ∈ change_requests, c.deleted_at = none → Known db.templates c.lifecycle_id c.status)
    {change_request_id : ℕ}
    (hok : sync_status change_requests change_request_id tenant_id target = .ok change_requests') :
    (∀ c ∈ change_requests', c.deleted_at = none → Known db.templates c.lifecycle_id c.status) ↔
      ∀ status ∈ target, ∀ c ∈ change_requests, c.id = change_request_id → c.deleted_at = none →
        Known db.templates c.lifecycle_id status := by
  cases target with
  | none =>
    cases hok
    exact iff_of_true h fun status hstatus => by cases hstatus
  | some target =>
    simp only [sync_status, bind_eq_ok, get_or_raise_eq_ok] at hok
    obtain ⟨cr, hfind, hok⟩ := hok
    obtain ⟨hmem, hp⟩ := Table.select_one_some hfind
    obtain ⟨rfl, -⟩ := of_decide_eq_true hp
    simp only [Option.mem_def, Option.some.injEq, forall_eq']
    by_cases hstatus : cr.status = target
    · rw [if_pos hstatus] at hok
      cases hok
      refine iff_of_true h fun c hc hid hlive => ?_
      rw [Table.eq_of_key_eq hc hmem hid] at hlive ⊢
      rw [← hstatus]
      exact h cr hmem hlive
    · rw [if_neg hstatus] at hok
      cases hok
      refine (Table.forall_update_key_iff h hmem).trans (Iff.symm ?_)
      exact Table.forall_key_iff
        (P := fun c => c.deleted_at = none → Known db.templates c.lifecycle_id target) hmem

/-- A change request that was made for the event takes the target, or stays as it was
made. -/
theorem sync_new_iff
    (h : ∀ c ∈ change_requests, c.deleted_at = none → Known db.templates c.lifecycle_id c.status)
    (new : Table.New ChangeRequest.id) (hlive : (new.row change_requests.next).deleted_at = none)
    (hok : sync_status (change_requests.insert new) change_requests.next tenant_id target
      = .ok change_requests') :
    (∀ c ∈ change_requests', c.deleted_at = none → Known db.templates c.lifecycle_id c.status) ↔
      Known db.templates (new.row change_requests.next).lifecycle_id
        (target.getD (new.row change_requests.next).status) := by
  have hnew : new.row change_requests.next ∈ change_requests.insert new :=
    Table.mem_insert.2 (Or.inr rfl)
  have hinsert := (@Table.forall_insert_iff _ _ _ new _ h).trans (forall_prop_of_true hlive)
  cases target with
  | none =>
    cases hok
    exact hinsert
  | some target =>
    simp only [sync_status, bind_eq_ok, get_or_raise_eq_ok] at hok
    obtain ⟨cr, hfind, hok⟩ := hok
    obtain ⟨hmem, hp⟩ := Table.select_one_some hfind
    obtain ⟨hid, -⟩ := of_decide_eq_true hp
    obtain rfl : cr = new.row change_requests.next :=
      Table.eq_of_key_eq hmem hnew (hid.trans (new.key_row _).symm)
    by_cases hstatus : (new.row change_requests.next).status = target
    · rw [if_pos hstatus] at hok
      cases hok
      rw [Option.getD_some, ← hstatus]
      exact hinsert
    · rw [if_neg hstatus] at hok
      cases hok
      -- no row but the new one is written
      constructor
      · intro hall
        exact hall _ (Table.mem_update_of_pos hnew (decide_eq_true rfl)) hlive
      · intro hknown c hc hclive
        rcases Table.mem_update_cases hc with ⟨c₀, hc₀, hid₀, rfl⟩ | ⟨hc, hne⟩
        · rw [Table.eq_of_key_eq hc₀ hnew (of_decide_eq_true hid₀)]
          exact hknown
        · rcases Table.mem_insert.1 hc with hc | rfl
          · exact h c hc hclive
          · exact absurd rfl (of_decide_eq_false hne)

theorem declared_ingest_iff (h : Declared db) {created_by : ℕ} {payload : DeploymentWebhookPayload}
    (hok : handle ext db (.ingest_deployment tenant_id created_by payload now) = .ok db') :
    Declared db' ↔ Proper db (.ingest_deployment tenant_id created_by payload now) := by
  simp only [handle, ingest, bind_eq_ok] at hok
  obtain ⟨_, -, hok⟩ := hok
  by_cases hreplay : (existing_deployment db tenant_id payload).map Deployment.status
      = some payload.status
  · rw [if_pos hreplay] at hok
    cases hok
    -- a replay writes nothing
    obtain ⟨deployment, hexisting, hstatus⟩ := Option.map_eq_some_iff.1 hreplay
    refine iff_of_true h ?_
    simp only [Proper, ProperEvent, hexisting]
    exact fun hne => absurd hstatus hne
  · rw [if_neg hreplay] at hok
    simp only [bind_eq_ok] at hok
    obtain ⟨_, -, subsystem_id, -, environment_id, -, _, -, ⟨build, builds⟩, -,
      ⟨change_request_id, change_requests⟩, hresolve, synced, hsync, hok⟩ := hok
    cases hok
    rw [declared_change_requests h]
    cases hexisting : existing_deployment db tenant_id payload with
    | some deployment =>
      rw [hexisting] at hresolve hreplay
      cases hresolve
      rw [sync_known_iff h.change_requests hsync]
      simp only [Proper, ProperEvent, hexisting]
      have hne : deployment.status ≠ payload.status := by
        intro hstatus
        rw [Option.map_some, hstatus] at hreplay
        exact hreplay rfl
      exact ⟨fun hall _ => hall, fun hall => hall hne⟩
    | none =>
      rw [hexisting] at hresolve
      simp only [Proper, ProperEvent, hexisting]
      cases hcr : payload.change_request_id with
      | some cr_id =>
        simp only [resolve_change_request, hcr, bind_eq_ok, get_or_raise_eq_ok] at hresolve
        obtain ⟨cr, hfind, hresolve⟩ := hresolve
        cases hresolve
        obtain ⟨hmem, hp⟩ := Table.select_one_some hfind
        obtain ⟨rfl, -, hlive⟩ := of_decide_eq_true hp
        rw [sync_known_iff h.change_requests hsync]
        refine forall₂_congr fun status hstatus => forall₃_congr fun c hc hid => ?_
        rw [Table.eq_of_key_eq hc hmem hid]
        exact forall_prop_of_true hlive
      | none =>
        simp only [resolve_change_request, hcr, create_code_deployment, bind_eq_ok] at hresolve
        obtain ⟨tpl, htpl, hresolve⟩ := hresolve
        cases hresolve
        rw [sync_new_iff h.change_requests _ rfl hsync]
        constructor
        · intro hknown tpl' htpl'
          cases htpl.symm.trans htpl'
          exact hknown
        · intro hall
          exact hall tpl htpl

end Deployment

/-! ## Every run -/

/-- **An accepted request keeps every status known exactly if it is proper.** -/
theorem declared_handle_iff (h : Declared db) {request : Request}
    (hok : handle ext db request = .ok db') : Declared db' ↔ Proper db request := by
  cases request with
  | bookings e =>
    obtain ⟨bookings, hwrite, rfl⟩ := map_eq_ok.1 hok
    exact declared_write_iff h e.property hwrite
  | templates request => exact declared_templates_iff h hok
  | create_booking_type user data =>
    simp only [handle, create_type, bind_eq_ok] at hok
    obtain ⟨_, -, _, -, hok⟩ := hok
    cases hok
    exact iff_of_true (declared_retain_types h (Table.retains_insert SameType.refl _ _)) trivial
  | update_booking_type user type_id data => exact declared_update_type_iff h hok
  | delete_booking_type user type_id now =>
    simp only [handle, delete_type, bind_eq_ok] at hok
    obtain ⟨_, -, bt, -, hok⟩ := hok
    cases hok
    refine iff_of_true (declared_retain_types h ?_) trivial
    exact Table.retains_update SameType.refl _ _ fun _ => ⟨rfl, rfl⟩
  | transition_booking user booking_id to_state now => exact declared_transition_booking_iff h hok
  | transition_group user request_id group_id to_state now =>
    exact declared_transition_group_iff h hok
  | create_release user data => exact declared_create_release_iff h hok
  | transition_release user release_id to_state now => exact declared_transition_release_iff h hok
  | delete_release user release_id now => exact iff_of_true (declared_delete_release h hok) trivial
  | create_change_request user data =>
    exact iff_of_true (declared_create_change_request h hok) trivial
  | transition_change_request user cr_id to_state =>
    exact declared_transition_change_request_iff h hok
  | delete_change_request user cr_id now =>
    exact iff_of_true (declared_delete_change_request h hok) trivial
  | ingest_deployment tenant_id created_by payload now => exact declared_ingest_iff h hok
  | reference rows =>
    cases hok
    exact iff_of_true ⟨h.bookings, h.releases, h.change_requests⟩ trivial

/-- The request is answered. -/
def Accepted (ext : Bookings.External) (db : Db) (request : Request) : Prop :=
  ∃ db', handle ext db request = .ok db'

theorem declared_step_iff (h : Declared db) (request : Request) :
    Declared (step ext db request) ↔ (Accepted ext db request → Proper db request) :=
  commit_or_rollback_iff h fun _ hhandle => declared_handle_iff h hhandle

theorem declared_seeded (templates : Table LifecycleTemplate LifecycleTemplate.id)
    (booking_types : Table BookingType BookingType.id)
    (environments : Table Environment Environment.id) (rows : Bookings.Reference)
    (reference : Reference) :
    Declared (Db.seeded templates booking_types environments rows reference) where
  bookings := fun b hb => absurd hb (Table.not_mem_empty b)
  releases := fun r hr => absurd hr (Table.not_mem_empty r)
  change_requests := fun c hc => absurd hc (Table.not_mem_empty c)

/-- **When no record is stranded.** From any templates and booking types, and whatever
requests are made: every live booking, release and change request has a governing
template with its status among the states, at all times, if and only if every request
that is accepted is proper. -/
theorem statuses_declared_iff (ext : Bookings.External)
    (templates : Table LifecycleTemplate LifecycleTemplate.id)
    (booking_types : Table BookingType BookingType.id)
    (environments : Table Environment Environment.id) (rows : Bookings.Reference)
    (reference : Reference) (requests : List Request) :
    let db := Db.seeded templates booking_types environments rows reference
    Runs.Always (step ext) Declared db requests ↔
      Runs.Along (step ext) (fun db request => Accepted ext db request → Proper db request) db
        requests := by
  intro db
  have hwf : ∀ (db : Db) (request : Request), True → True := fun _ _ h => h
  have hstep : ∀ (db : Db) (request : Request), True → Declared db →
      (Declared (step ext db request) ↔ (Accepted ext db request → Proper db request)) :=
    fun _ request _ h => declared_step_iff h request
  exact Runs.always_iff_along hwf hstep trivial
    (declared_seeded templates booking_types environments rows reference) requests

namespace Sample

/-- A booking lifecycle that starts in `requested`. -/
def definition : Lifecycle.LifecycleDefinition where
  states :=
    [⟨"requested", "Requested", true, false, false, false, false, false, false, false⟩,
      ⟨"closed", "Closed", false, true, false, false, false, false, false, false⟩]
  transitions := [⟨"requested", "closed", "Close", [Role.ADMIN]⟩]
  field_permissions :=
    { items :=
        [("requested",
          { standard_fields :=
              { items := [("project_name", [Role.ADMIN]), ("start_date", [Role.ADMIN]),
                  ("end_date", [Role.ADMIN]), ("booking_type", [Role.ADMIN])]
                keys_nodup := by simp }
            custom_fields := none })]
      keys_nodup := by simp }
  action_permissions := none
  one_initial := rfl

/-- An administrator makes the lifecycle and a booking type over it, and books an
environment. -/
def requests : List Request :=
  [.templates (.create_lifecycle_template Bookings.Sample.admin
      ⟨"Requests", none, true, "booking", none, definition⟩),
    .create_booking_type Bookings.Sample.admin ⟨1, .soft⟩,
    .bookings ⟨.create_booking Bookings.Sample.admin
      (Bookings.Sample.booking 1 1 0 50 false none) 0, rfl⟩]

def stranded : Db :=
  Runs.run (step Bookings.Sample.ext)
    (Db.seeded Table.empty Table.empty Bookings.Sample.environments Bookings.Sample.reference
      ⟨[], [], [], [], []⟩)
    requests

end Sample

/-- A booking made in `draft`, which its lifecycle does not have. -/
theorem draft_is_not_declared : ¬ Declared Sample.stranded := by
  intro h
  have hstranded : ∃ b ∈ Sample.stranded.bookings.bookings, b.deleted_at = none ∧
      ¬ KnownToRequest Sample.stranded.templates Sample.stranded.booking_types
        Sample.stranded.bookings.requests b.booking_request_id b.status := by
    decide +kernel
  obtain ⟨b, hb, hlive, hunknown⟩ := hstranded
  exact hunknown (h.bookings b hb hlive)

end EnvMgr.Statuses

/-
How long a request can be edited: `create_request` against `update_request`.

A request is created in the initial state of the lifecycle, whatever that is called, and edited
while its status is `draft`, by that name. Until the first transition the two are the same thing
exactly where the initial state has that name.
-/
import EnvMgr.Compliance.CreatedOnce

namespace EnvMgr.Compliance

open Lifecycle (LifecycleDefinition LifecycleTemplate stored)
open Runs (run Along)

/-! ## Editing -/

/-- The payload passes the checks on its own fields. -/
structure Acceptable (db : Db) (req : EnvironmentRequest) (data : EnvironmentRequestUpdate)
    (tenant_id : ℕ) : Prop where
  justification : data.justification ≠ .null
  targets : _assert_targets_are_ours db tenant_id (data.environment_id.set_nullable none)
    (data.tier_id.set_nullable none) (data.operations_group_id.set_nullable none) = .ok ()
  complete : missing_fields (data.set req).kind (data.set req).environment_id
    (data.set req).proposed_name (data.set req).tier_id (data.set req).expires_at = []

/-- The request is there, and whatever its requester sends that passes those checks is stored. -/
def Editable (ext : External) (db : Db) (request_id requester tenant_id : ℕ) : Prop :=
  ∃ req, get_request_view db request_id tenant_id = .ok req ∧
    ∀ user : CurrentUser, user.id = requester → user.active_tenant_id = tenant_id →
      ∀ data, Acceptable db req data tenant_id →
        ∃ db', handle ext db (.update_environment_request user request_id data) = .ok db'

/-- The request is moved along its lifecycle. -/
def Moves (ext : External) (request_id : ℕ) (db : Db) (request : Request) : Prop :=
  ∃ user to_state now, request = .transition_environment_request user request_id to_state now ∧
    ∃ db', handle ext db request = .ok db'

/-! ## A request that has not moved -/

/-- A request as it stands until its first transition. -/
structure Unmoved (requester tenant_id : ℕ) (status : String) (req : EnvironmentRequest) :
    Prop where
  tenant : req.tenant_id = tenant_id
  live : req.deleted_at = none
  requester : req.requested_by = requester
  status : req.status = status
  complete : missing_fields req.kind req.environment_id req.proposed_name req.tier_id
    req.expires_at = []

/-- It is in the table under its id. -/
def Stands (request_id requester tenant_id : ℕ) (status : String) (db : Db) : Prop :=
  ∃ req ∈ db.requests, req.id = request_id ∧ Unmoved requester tenant_id status req

variable {ext : External} {db db' : Db} {request_id requester tenant_id : ℕ} {status : String}

theorem Stands.congr (h : Stands request_id requester tenant_id status db)
    (hrequests : db'.requests = db.requests) :
    Stands request_id requester tenant_id status db' := by
  rw [Stands, hrequests]
  exact h

/-- An update that keeps the request unmoved where it meets it. -/
theorem Stands.update (h : Stands request_id requester tenant_id status db)
    {p : EnvironmentRequest → Bool} {f : Table.Edit EnvironmentRequest.id}
    (hf : ∀ req ∈ db.requests, p req = true → req.id = request_id →
      Unmoved requester tenant_id status req → Unmoved requester tenant_id status (f.apply req)) :
    Stands request_id requester tenant_id status { db with requests := db.requests.update p f } := by
  obtain ⟨req, hreq, hid, hunmoved⟩ := h
  by_cases hp : p req = true
  · exact ⟨f.apply req, Table.mem_update_of_pos hreq hp, (f.key_apply req).trans hid,
      hf req hreq hp hid hunmoved⟩
  · exact ⟨req, Table.mem_update_of_neg hreq (by simpa using hp), hid, hunmoved⟩

theorem Stands.view (h : Stands request_id requester tenant_id status db) :
    ∃ req, get_request_view db request_id tenant_id = .ok req ∧
      Unmoved requester tenant_id status req := by
  obtain ⟨req, hreq, rfl, hunmoved⟩ := h
  refine ⟨req, ?_, hunmoved⟩
  rw [get_request_view, get_or_raise_eq_ok]
  refine (Table.select_one_key_iff fun _ hmatch => hmatch.1).2 ⟨hreq, rfl, ?_⟩
  exact ⟨hunmoved.tenant, hunmoved.live⟩

theorem mode_fields_ok {kind : RequestKind} {environment_id : Option ℕ}
    {proposed_name : Option String} {tier_id : Option ℕ} {expires_at : Option DateTime} {u : Unit} :
    _assert_mode_fields kind environment_id proposed_name tier_id expires_at = .ok u ↔
      missing_fields kind environment_id proposed_name tier_id expires_at = [] := by
  unfold _assert_mode_fields
  rw [raise_if_eq_ok, not_not]

/-- **One request.** What does not move the request leaves it unmoved. -/
theorem stands_handle {request : Request} (h : Stands request_id requester tenant_id status db)
    (hnot : ¬ Moves ext request_id db request) (hok : handle ext db request = .ok db') :
    Stands request_id requester tenant_id status db' := by
  cases request with
  | create_environment user data now =>
    simp only [handle, create_environment, bind_eq_ok] at hok
    obtain ⟨_, -, _, -, hok⟩ := hok
    exact h.congr (create_record_requests hok)
  | update_environment user env_id data =>
    simp only [handle, update_environment, bind_eq_ok, Except.ok.injEq] at hok
    obtain ⟨_, -, env, -, named, -, _, -, _, -, _, -, rfl⟩ := hok
    exact h.congr rfl
  | delete_environment user env_id now =>
    simp only [handle, delete_environment, bind_eq_ok, Except.ok.injEq] at hok
    obtain ⟨_, -, env, -, rfl⟩ := hok
    exact h.congr rfl
  | import_environments user file now =>
    simp only [handle, bind_eq_ok, Except.ok.injEq] at hok
    obtain ⟨_, -, ⟨db₁, result⟩, himport, rfl⟩ := hok
    exact h.congr (import_requests himport)
  | put_environment_naming_policy user data now =>
    simp only [handle, upsert_policy, bind_eq_ok, Except.ok.injEq] at hok
    obtain ⟨_, -, _, -, _, -, rfl⟩ := hok
    exact h.congr rfl
  | create_environment_request user data =>
    simp only [handle, create_request, bind_eq_ok, Except.ok.injEq] at hok
    obtain ⟨_, -, _, -, tpl, -, key, -, rfl⟩ := hok
    obtain ⟨req, hreq, hid, hunmoved⟩ := h
    exact ⟨req, Table.mem_insert.2 (Or.inl hreq), hid, hunmoved⟩
  | update_environment_request user id data =>
    simp only [handle, update_request, bind_eq_ok, Except.ok.injEq, mode_fields_ok] at hok
    obtain ⟨req, hreq, _, -, _, -, _, -, _, -, _, hcomplete, rfl⟩ := hok
    refine h.update fun r hr hmatch _ hunmoved => ?_
    obtain rfl : r = req :=
      Table.eq_of_key_eq hr (get_request_view_ok hreq).1 (of_decide_eq_true hmatch)
    exact ⟨hunmoved.tenant, hunmoved.live, hunmoved.requester, hunmoved.status, hcomplete⟩
  | transition_environment_request user id to_state now =>
    have hother : id ≠ request_id := by
      rintro rfl
      exact hnot ⟨user, to_state, now, rfl, db', hok⟩
    obtain ⟨req, hreq, hcases⟩ := transition_cases hok
    have hkept : ∀ {s : Db} {created : Option ℕ}, s.requests = db.requests →
        Stands request_id requester tenant_id status (set_status s req to_state created) := by
      intro s created hs
      refine (h.congr hs).update fun r _ hmatch hid _ => ?_
      rw [of_decide_eq_true hmatch, (get_request_view_ok hreq).2] at hid
      exact absurd hid hother
    rcases hcases with ⟨-, r, rfl⟩ | ⟨-, rfl⟩
    · exact hkept rfl
    · exact hkept rfl
  | others reference =>
    cases hok
    exact h.congr rfl

/-- **Until the first transition** the request stands as it was created, edited perhaps. -/
theorem stands_run {requests : List Request} (h : Stands request_id requester tenant_id status db)
    (hnot : Along (step ext) (fun s request => ¬ Moves ext request_id s request) db requests) :
    Stands request_id requester tenant_id status (run (step ext) db requests) :=
  Runs.run_inv_along (fun _ _ hs hmoves =>
    commit_or_rollback_keeps hs fun _ hok => stands_handle hs hmoves hok) h hnot

/-! ## When it can be edited -/

/-- The justification alone, which is sent of a request of either kind. -/
def reworded : EnvironmentRequestUpdate :=
  ⟨.value "Reworded", .omitted, .omitted, .omitted, .omitted, .omitted, .omitted⟩

theorem reworded_acceptable {req : EnvironmentRequest}
    (h : Unmoved requester tenant_id status req) : Acceptable db req reworded tenant_id where
  justification := by
    rw [reworded]
    exact nofun
  targets := rfl
  complete := by
    have hcomplete := h.complete
    cases hkind : req.kind with
    | access => simpa [reworded, EnvironmentRequestUpdate.set, Sent.set_nullable, missing_fields,
        hkind] using hcomplete
    | new_environment => simpa [reworded, EnvironmentRequestUpdate.set, Sent.set_nullable,
        missing_fields, hkind] using hcomplete

/-- **A request that stands can be edited exactly in the status `draft`.** -/
theorem editable_of_stands_iff (h : Stands request_id requester tenant_id status db) :
    Editable ext db request_id requester tenant_id ↔ status = "draft" := by
  obtain ⟨req, hreq, hunmoved⟩ := h.view
  constructor
  · rintro ⟨req', hreq', hedit⟩
    obtain rfl : req = req' := Except.ok.inj (hreq.symm.trans hreq')
    obtain ⟨db', hok⟩ := hedit ⟨requester, tenant_id, "", false⟩ rfl rfl reworded
      (reworded_acceptable hunmoved)
    simp only [handle, update_request, hreq, bind_eq_ok, raise_if_eq_ok] at hok
    obtain ⟨_, hsame, _, -, _, hdraft, -⟩ := hok
    cases hsame
    by_contra hne
    rw [← hunmoved.status] at hne
    refine hdraft ⟨hne, ?_⟩
    -- the justification is no field of the exception for admins
    rintro ⟨honly, -⟩
    cases honly
  · intro hdraft
    refine ⟨req, hreq, fun user hid htenant data hacceptable => ?_⟩
    subst htenant
    simp only [handle, update_request, bind_eq_ok, raise_if_eq_ok, mode_fields_ok]
    refine ⟨_, req, hreq, (), ?_, (), ?_, (), hacceptable.justification, (), hacceptable.targets,
      (), hacceptable.complete, rfl⟩
    · rintro ⟨hother, -⟩
      exact hother (hunmoved.requester.trans hid.symm)
    · rintro ⟨hother, -⟩
      exact hother (hunmoved.status.trans hdraft)

theorem stands_created {user : CurrentUser} {data : EnvironmentRequestCreate}
    (hok : handle ext db (.create_environment_request user data) = .ok db') :
    ∃ tpl key, _default_lifecycle db user.active_tenant_id = .ok tpl ∧
      _initial_state tpl = .ok key ∧
        Stands db.requests.next user.id user.active_tenant_id key db' := by
  simp only [handle, create_request, bind_eq_ok, Except.ok.injEq, mode_fields_ok] at hok
  obtain ⟨_, hcomplete, _, -, tpl, htpl, key, hkey, rfl⟩ := hok
  refine ⟨tpl, key, htpl, hkey, _, Table.mem_insert.2 (Or.inr rfl), rfl, rfl, rfl, rfl, rfl, ?_⟩
  cases hkind : data.kind with
  | access => simpa [EnvironmentRequestCreate.row, missing_fields, hkind] using hcomplete
  | new_environment => simpa [EnvironmentRequestCreate.row, missing_fields, hkind] using hcomplete

/-- **When a fresh request can be edited.** Whatever happens until its first transition, every
edit by its requester that passes the checks on its fields is stored, if and only if the initial
state of the lifecycle is called `draft`. -/
theorem editable_iff_draft (ext : External) (db db' : Db) (user : CurrentUser)
    (data : EnvironmentRequestCreate) (tpl : LifecycleTemplate)
    (hcreated : handle ext db (.create_environment_request user data) = .ok db')
    (htpl : _default_lifecycle db user.active_tenant_id = .ok tpl) :
    (∀ requests,
      Along (step ext) (fun s request => ¬ Moves ext db.requests.next s request) db' requests →
        Editable ext (run (step ext) db' requests) db.requests.next user.id
          user.active_tenant_id) ↔
      _initial_state tpl = .ok "draft" := by
  obtain ⟨tpl', key, htpl', hkey, hstands⟩ := stands_created hcreated
  obtain rfl : tpl = tpl' := Except.ok.inj (htpl.symm.trans htpl')
  rw [hkey, Except.ok.injEq]
  constructor
  · intro h
    exact (editable_of_stands_iff hstands).1 (h [] trivial)
  · intro hdraft requests hnot
    exact (editable_of_stands_iff (stands_run hstands hnot)).2 hdraft

namespace Renamed

/-- The tenant calls its drafts `new`. -/
def definition : LifecycleDefinition where
  states :=
    [⟨"new", "New", true, false, false, false, false, false, false, false⟩,
      ⟨"submitted", "Submitted", false, false, false, false, false, false, false, false⟩,
      ⟨"approved", "Approved", false, false, false, false, false, false, false, false⟩,
      ⟨"rejected", "Rejected", false, true, false, false, false, false, false, false⟩,
      ⟨"fulfilled", "Fulfilled", false, true, false, false, false, false, false, false⟩]
  transitions :=
    [⟨"new", "submitted", "Submit", [Role.ADMIN]⟩,
      ⟨"submitted", "approved", "Approve", [Role.ADMIN]⟩]
  field_permissions := Dict.empty
  action_permissions := none
  one_initial := by decide

def template : LifecycleTemplate :=
  { Reopened.template with definition := stored definition ENTITY_TYPE }

def tenant : Db := Db.opened { Reopened.reference with templates := [template] }

end Renamed

/-- The validator takes the template, and a request just created cannot be edited. -/
theorem renamed_draft_is_not_editable :
    Saved Renamed.template ∧
      ¬ Editable Reopened.ext
        (step Reopened.ext Renamed.tenant
          (.create_environment_request Reopened.admin Reopened.wanted)) 1 5 1 := by
  refine ⟨⟨Renamed.definition, by decide, rfl⟩, fun h => ?_⟩
  have hcreated : handle Reopened.ext Renamed.tenant
      (.create_environment_request Reopened.admin Reopened.wanted) =
        .ok (step Reopened.ext Renamed.tenant
          (.create_environment_request Reopened.admin Reopened.wanted)) := by rfl
  obtain ⟨tpl, key, htpl, hkey, hstands⟩ := stands_created hcreated
  have hfound : _default_lifecycle Renamed.tenant 1 = .ok Renamed.template := by rfl
  have hnew : _initial_state Renamed.template = .ok "new" := by rfl
  cases hfound.symm.trans htpl
  cases hnew.symm.trans hkey
  exact absurd ((editable_of_stands_iff hstands).1 h) (by decide)

/-- Where the initial state is `draft`, it can. -/
theorem draft_is_editable :
    Editable Reopened.ext
      (step Reopened.ext (Db.opened Reopened.reference)
        (.create_environment_request Reopened.admin Reopened.wanted)) 1 5 1 :=
  (editable_iff_draft Reopened.ext (Db.opened Reopened.reference)
    (step Reopened.ext (Db.opened Reopened.reference)
      (.create_environment_request Reopened.admin Reopened.wanted))
    Reopened.admin Reopened.wanted Reopened.template (by rfl) (by rfl)).2 (by rfl) [] trivial

end EnvMgr.Compliance

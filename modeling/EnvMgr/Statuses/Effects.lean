/-
What a request does to the templates and to the releases.

Templates are written by the lifecycle service alone, and a release is created, moved or
deleted by a request that says so. All other requests leave both tables as they are.
-/
import EnvMgr.Statuses.Deployments

namespace EnvMgr.Statuses

open Lifecycle (LifecycleTemplate)

variable {ext : Bookings.External}

/-- A request that is neither about templates nor deletes a release. -/
def leaves_rows : Request → Bool
  | .templates _ | .delete_release .. => false
  | _ => true

/-- What an accepted request does to templates and releases. -/
inductive Effect (db : Db) : Request → Db → Prop
  | templates {change : Lifecycle.Request} {l : Lifecycle.Db}
      (hchange : Lifecycle.Change db.lifecycle change l) :
      Effect db (.templates change) { db with templates := l.templates }
  | created {user : CurrentUser} {data : ReleaseCreate} {tpl : LifecycleTemplate}
      (htpl : Lifecycle._resolve_lifecycle_template db.lifecycle data.lifecycle_template_id
        user.active_tenant_id data.release_kind = .ok tpl) :
      Effect db (.create_release user data) { db with
        releases := db.releases.insert
          ⟨data.row tpl user.active_tenant_id user.id, fun _ => rfl⟩ }
  | moved {user : CurrentUser} {release_id : ℕ} {to_state : String} {now : DateTime}
      {release : Release} {target_state : Option Lifecycle.StateEntry} :
      Effect db (.transition_release user release_id to_state now) { db with
        releases := db.releases.update (fun r => r.id = release.id)
          ⟨set_release_status to_state target_state now, fun _ => rfl⟩ }
  | deleted {user : CurrentUser} {release_id : ℕ} {now : DateTime} {release : Release}
      (hrelease : _get_release db release_id user.active_tenant_id = .ok release) :
      Effect db (.delete_release user release_id now) { db with
        releases := db.releases.update (fun r => r.id = release.id)
          ⟨fun r => { r with deleted_at := some now }, fun _ => rfl⟩ }
  | other {request : Request} {db' : Db} (hrequest : leaves_rows request = true)
      (htemplates : db'.templates = db.templates) (hreleases : db'.releases = db.releases) :
      Effect db request db'

/-- The requests about templates, and those that change which releases there are or where. -/
def Request.structural : Request → Bool
  | .templates _ | .create_release .. | .transition_release .. | .delete_release .. => true
  | _ => false

/-- **All others** write bookings and their types, change requests, builds and deployments. -/
theorem other_of_handle {db db' : Db} {request : Request} (hrequest : request.structural = false)
    (hok : handle ext db request = .ok db') : Effect db request db' := by
  cases request with
  | templates | create_release | transition_release | delete_release => cases hrequest
  | bookings e =>
    obtain ⟨b, -, rfl⟩ := map_eq_ok.1 hok
    exact Effect.other rfl rfl rfl
  | create_booking_type user data =>
    simp only [handle, create_type, bind_eq_ok] at hok
    obtain ⟨_, -, _, -, hok⟩ := hok
    cases hok
    exact Effect.other rfl rfl rfl
  | update_booking_type user type_id data =>
    simp only [handle, update_type, bind_eq_ok] at hok
    obtain ⟨_, -, _, -, _, -, hok⟩ := hok
    cases hok
    exact Effect.other rfl rfl rfl
  | delete_booking_type user type_id now =>
    simp only [handle, delete_type, bind_eq_ok] at hok
    obtain ⟨_, -, _, -, hok⟩ := hok
    cases hok
    exact Effect.other rfl rfl rfl
  | transition_booking user booking_id to_state now =>
    simp only [handle, transition_state, bind_eq_ok] at hok
    obtain ⟨_, -, _, -, _, -, _, -, _, -, _, -, hok⟩ := hok
    cases hok
    exact Effect.other rfl rfl rfl
  | transition_group user request_id group_id to_state now =>
    simp only [handle, transition_group, bind_eq_ok] at hok
    obtain ⟨_, -, _, -, _, -, _, -, _, -, _, -, hok⟩ := hok
    cases hok
    exact Effect.other rfl rfl rfl
  | create_change_request user data =>
    simp only [handle, create_change_request, bind_eq_ok] at hok
    obtain ⟨_, -, _, -, _, -, _, -, _, -, _, -, _, -, hok⟩ := hok
    cases hok
    exact Effect.other rfl rfl rfl
  | transition_change_request user cr_id to_state =>
    simp only [handle, transition_status, bind_eq_ok] at hok
    obtain ⟨_, -, _, -, ⟨_, _⟩, -, _, -, hok⟩ := hok
    cases hok
    exact Effect.other rfl rfl rfl
  | delete_change_request user cr_id now =>
    simp only [handle, soft_delete_change_request, bind_eq_ok] at hok
    obtain ⟨_, -, hok⟩ := hok
    cases hok
    exact Effect.other rfl rfl rfl
  | ingest_deployment tenant_id created_by payload now =>
    simp only [handle, ingest, bind_eq_ok] at hok
    obtain ⟨_, -, hok⟩ := hok
    split at hok
    · cases hok
      exact Effect.other rfl rfl rfl
    · simp only [bind_eq_ok] at hok
      obtain ⟨_, -, _, -, _, -, _, -, ⟨_, _⟩, -, ⟨_, _⟩, -, _, -, hok⟩ := hok
      cases hok
      exact Effect.other rfl rfl rfl
  | reference rows =>
    cases hok
    exact Effect.other rfl rfl rfl

theorem effect_of_handle {db db' : Db} {request : Request}
    (hok : handle ext db request = .ok db') : Effect db request db' := by
  by_cases hrequest : request.structural = false
  · exact other_of_handle hrequest hok
  cases request with
  | templates change =>
    obtain ⟨l, hl, rfl⟩ := map_eq_ok.1 hok
    exact Effect.templates (Lifecycle.handle_eq_ok.1 hl)
  | create_release user data =>
    simp only [handle, create_release, bind_eq_ok] at hok
    obtain ⟨tpl, htpl, _, -, _, -, _, -, hok⟩ := hok
    cases hok
    exact Effect.created htpl
  | transition_release user release_id to_state now =>
    simp only [handle, transition_release, bind_eq_ok] at hok
    obtain ⟨_, -, _, -, ⟨_, _⟩, -, _, -, _, -, hok⟩ := hok
    cases hok
    exact Effect.moved
  | delete_release user release_id now =>
    simp only [handle, delete_release, bind_eq_ok] at hok
    obtain ⟨release, hrelease, hok⟩ := hok
    cases hok
    exact Effect.deleted hrelease
  | _ => exact absurd rfl hrequest

end EnvMgr.Statuses

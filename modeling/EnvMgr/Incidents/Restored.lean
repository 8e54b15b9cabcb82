/-
Whether a resolved incident stays counted.

The history of an incident says when it was last restored: at its last entry into a
resolved state, unless it was taken up again since. `resolved_at` is kept beside the
history, by the flags of the states that a move leaves and enters, and a move out of a
resolved state clears it wherever it leads: to `closed` as well.
-/
import EnvMgr.Incidents.Dora
import EnvMgr.Incidents.Terminal
import EnvMgr.Lifecycle.Offered

namespace EnvMgr.Incidents

open Lifecycle (Definition LifecycleTemplate validate_transition)
open Lifecycle.Seeded (_INCIDENT_DEFINITION)

variable {ext : Bookings.External}
variable {rows : List IncidentStatusHistory} {row : IncidentStatusHistory} {user_role : String}
  {values : Lifecycle.RecordValues} {reason : Option String} {inc : Incident}
variable {db' : Db} {request : Request} {i : Incident}

/-! ## The time of restoration -/

section

variable (definition : Definition)

/-- What one row of the history makes of it: it is set on entry into a resolved state, kept
on entry into a terminal one and lost on entry into any other. -/
def passage (restored : Option DateTime) (row : IncidentStatusHistory) : Option DateTime :=
  if row.to_state ∈ keys_with definition "is_resolved" then some row.changed_at
  else if row.to_state ∈ keys_with definition "is_terminal" then restored
  else none

/-- The time of the last restoration a history records, none if it was undone. -/
def restoration (rows : List IncidentStatusHistory) : Option DateTime :=
  rows.foldl (passage definition) none

end

/-- The rows of an incident, in the order they were written. -/
def history_of (db : Db) (i : Incident) : List IncidentStatusHistory :=
  db.history.select fun row => row.incident_id = i.id

/-- The stamp is what the history records. -/
def Stamped (db : Db) (i : Incident) : Prop :=
  i.resolved_at = restoration _INCIDENT_DEFINITION (history_of db i)

/-- What no request but a transition touches of an incident. -/
def SameStanding (a b : Incident) : Prop :=
  b.id = a.id ∧ b.status = a.status ∧ b.resolved_at = a.resolved_at

/-- What an accepted request writes of incidents and their history. -/
inductive Writes (db : Db) : Request → Db → Prop
  | created {user : CurrentUser} {data : IncidentCreate} {now : DateTime} {tpl : LifecycleTemplate}
      {initial : String} (htpl : tpl ∈ db.statuses.templates) (hentity : tpl.entity_type = "incident")
      (hinitial : _initial_state tpl.definition = .ok initial) :
      Writes db (.create_incident user data now) { db with
        incidents := db.incidents.insert
          ⟨data.row tpl initial user.active_tenant_id now, fun _ => rfl⟩
        history := db.history.insert
          (entry user.active_tenant_id db.incidents.next none initial user.id now) }
  | moved {user : CurrentUser} {inc : Incident} {to_state : String} {now : DateTime}
      {tpl : LifecycleTemplate} {reason : Option String} (hinc : inc ∈ db.incidents)
      (htpl : tpl ∈ db.statuses.templates) (hentity : tpl.entity_type = "incident")
      (hallowed : validate_transition tpl.definition inc.status to_state user.role
        inc.record_values = .ok (true, reason)) :
      Writes db (.transition_incident user inc.id to_state now) { db with
        incidents := db.incidents.update (fun i => i.id = inc.id)
          ⟨set_status (keys_with tpl.definition "is_resolved") to_state now, fun _ => rfl⟩
        history := db.history.insert
          (entry user.active_tenant_id inc.id (some inc.status) to_state user.id now) }
  | kept {request : Request} {db' : Db} (hstays : ∀ user id to_state now,
        request ≠ .transition_incident user id to_state now)
      (htemplates : db'.statuses.templates = db.statuses.templates)
      (hhistory : db'.history = db.history) (hnext : db'.incidents.next = db.incidents.next)
      (hincidents : ∀ i ∈ db'.incidents, ∃ i₀ ∈ db.incidents, SameStanding i₀ i) :
      Writes db request db'

/-- A request that is no edit of a lifecycle. -/
def KeepsTemplates (request : Request) : Prop := ∀ change, request ≠ .statuses (.templates change)

theorem get_incident_ok {db : Db} {incident_id tenant_id : ℕ}
    (h : get_incident db incident_id tenant_id = .ok inc) :
    inc ∈ db.incidents ∧ inc.id = incident_id := by
  obtain ⟨hinc, hp⟩ := Table.select_one_some (get_or_raise_eq_ok.1 h)
  exact ⟨hinc, (of_decide_eq_true hp).1⟩

/-- **One case for each request.** -/
theorem writes_of_handle {db : Db} (hkeeps : KeepsTemplates request)
    (hok : handle ext db request = .ok db') : Writes db request db' := by
  -- an update that writes neither template, status nor stamp
  have hupdated : ∀ {p : Incident → Bool} {f : Table.Edit Incident.id},
      (∀ i, SameStanding i (f.apply i)) → ∀ i ∈ db.incidents.update p f,
        ∃ i₀ ∈ db.incidents, SameStanding i₀ i := by
    intro p f hf i hi
    rcases Table.mem_update_cases hi with ⟨i₀, hi₀, -, rfl⟩ | ⟨hi, -⟩
    · exact ⟨i₀, hi₀, hf i₀⟩
    · exact ⟨i, hi, rfl, rfl, rfl⟩
  cases request with
  | statuses request =>
    obtain ⟨s, hs, rfl⟩ := map_eq_ok.1 hok
    have htemplates : s.templates = db.statuses.templates := by
      rcases statuses_effect hs with ⟨change, l, rfl, -, -⟩ | ⟨-, htemplates, -⟩
      · exact absurd rfl (hkeeps change)
      · exact htemplates
    exact .kept (by rintro _ _ _ _ ⟨⟩) htemplates rfl rfl fun i hi => ⟨i, hi, rfl, rfl, rfl⟩
  | create_incident user data now =>
    simp only [handle, create_incident, bind_eq_ok] at hok
    obtain ⟨_, -, tpl, htpl, initial, hinitial, _, -, hok⟩ := hok
    cases hok
    obtain ⟨ht, -, hentity, -⟩ := resolve_template_ok htpl
    exact .created ht hentity hinitial
  | update_incident user incident_id data =>
    simp only [handle, update_incident, bind_eq_ok] at hok
    obtain ⟨inc, -, _, -, hok⟩ := hok
    split at hok <;> simp only [bind_eq_ok] at hok
    · obtain ⟨_, -, _, -, hok⟩ := hok
      cases hok
      exact .kept (by rintro _ _ _ _ ⟨⟩) rfl rfl rfl (hupdated fun _ => ⟨rfl, rfl, rfl⟩)
    · obtain ⟨_, -, hok⟩ := hok
      cases hok
      exact .kept (by rintro _ _ _ _ ⟨⟩) rfl rfl rfl (hupdated fun _ => ⟨rfl, rfl, rfl⟩)
  | transition_incident user incident_id to_state now =>
    simp only [handle, transition, bind_eq_ok, raise_if_eq_ok] at hok
    obtain ⟨inc, hinc, tpl, htpl, ⟨allowed, reason⟩, hallowed, _, hraise, hok⟩ := hok
    cases hok
    obtain ⟨hmem, rfl⟩ := get_incident_ok hinc
    obtain ⟨ht, -, hentity, -⟩ := resolve_template_ok htpl
    obtain rfl : allowed = true := by simpa using hraise
    exact .moved hmem ht hentity hallowed
  | delete_incident user incident_id now =>
    simp only [handle, delete_incident, bind_eq_ok] at hok
    obtain ⟨inc, -, hok⟩ := hok
    cases hok
    exact .kept (by rintro _ _ _ _ ⟨⟩) rfl rfl rfl (hupdated fun _ => ⟨rfl, rfl, rfl⟩)

/-! ## What a row of history changes -/

section

variable {db : Db} {incidents : Table Incident Incident.id} {tenant_id incident_id user_id : ℕ}
  {from_state : Option String} {to_state : String} {now : DateTime}

end

/-- The requests that are no edit of a lifecycle. -/
abbrev Settled := {request : Request // KeepsTemplates request}

def settled_step (ext : Bookings.External) (db : Db) (request : Settled) : Db :=
  step ext db request.1

namespace Sample

def move (to_state : String) (now : DateTime) : Settled :=
  ⟨.transition_incident Lifecycle.Seeded.admin 1 to_state now, nofun⟩

/-- An incident is reported, looked into and resolved. -/
def resolving : List Settled :=
  [⟨.create_incident Lifecycle.Seeded.admin report 0, nofun⟩, move "investigating" 1,
    move "resolved" 2]

/-- Then it is closed. -/
def closed : Db :=
  settled_step Bookings.Sample.ext (Runs.run (settled_step Bookings.Sample.ext) db resolving)
    (move "closed" 3)

end Sample

end EnvMgr.Incidents

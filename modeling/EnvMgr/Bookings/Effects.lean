/-
What one request does to the bookings.

`Accepted` lists the requests that go through, each with the checks that later
files rely on and with what it writes. The three ways a booking is removed are
one: some rows get a `deleted_at`.
-/
import EnvMgr.Bookings.RequestService
import EnvMgr.Decommission.Record
import Mathlib.Data.List.Perm.Subperm

namespace EnvMgr.Bookings

open Decommission (assert_bookable)

variable {db db' : Db} {e : Event}
variable {b : Booking} {i request_id : ℕ} {user : CurrentUser} {dates : List DateTime}
  {placed' : List Placed} {p : Placed} {group_ids : List ℕ}
  {requests : Table BookingRequest BookingRequest.id}
variable {tenant_id : ℕ} {placed : List Placed}

variable {ext : External}

/-! ## The requests that go through -/

/-- Some bookings are soft-deleted. -/
def Removes (db db' : Db) : Prop :=
  ∃ (p : Booking → Bool) (now : DateTime),
    db' = { db with bookings := db.bookings.update p (set_deleted now) }

inductive Accepted (ext : External) (db : Db) : Event → Db → Prop
  | create_booking {user : CurrentUser} {data : BookingCreate} {now : DateTime}
      {dates : List DateTime} {protection_level : ProtectionLevel}
      {history : Table BookingStatusHistory BookingStatusHistory.id}
      (hdates : occurrences ext data = .ok dates)
      (hbookable : assert_bookable db.estate user.active_tenant_id [data.environment_id]
        data.start_date (some (furthest_end data dates)) = .ok ())
      (hguard : (check_overlap db data.environment_id data.window user.active_tenant_id
        data.exclusive_use none).blocked = false) :
      Accepted ext db (.create_booking user data now)
        { db with
          requests := db.requests.insert
            ⟨data.request_row user protection_level, fun _ => rfl⟩
          bookings := db.bookings.insert_all
            (data.series user db.requests.next db.bookings.next dates)
          history := history }
  | delete_occurrence {user : CurrentUser} {booking_id : ℕ} {now : DateTime} {db' : Db}
      (h : Removes db db') : Accepted ext db (.delete_occurrence user booking_id now) db'
  | delete_series {user : CurrentUser} {booking_id : ℕ} {now : DateTime} {db' : Db}
      (h : Removes db db') : Accepted ext db (.delete_series user booking_id now) db'
  | update_standard_fields {user : CurrentUser} {values : Dict Json} {b : Booking}
      (hb : b ∈ db.bookings) (htenant : b.tenant_id = user.active_tenant_id)
      (hlive : b.deleted_at = none)
      (hbookable : assert_override_bookable db b user values
        (override ext values "start_date") (override ext values "end_date") = .ok ())
      (hend : override ext values "end_date" ≠ some .null) :
      Accepted ext db (.update_standard_fields user b.id values)
        { db with
          bookings := db.bookings.update (fun r => r.id = b.id)
            (set_dates (override ext values "start_date") (override ext values "end_date")) }
  | create_request {user : CurrentUser} {data : BookingRequestCreate} {placed : List Placed}
      {initial_state : String} {context_tag : ContextTag} {protection_level : ProtectionLevel}
      (hplaced : place_environments db user.active_tenant_id data.environment_ids
        data.environment_group_ids = .ok placed)
      (hbookable : assert_bookable db.estate user.active_tenant_id
        (placed.map Placed.environment_id) data.start_date (some data.end_date) = .ok ()) :
      Accepted ext db (.create_request user data)
        { db with
          requests := db.requests.insert
            ⟨data.row user.active_tenant_id user context_tag protection_level, fun _ => rfl⟩
          bookings := db.bookings.insert_all
            (data.children user.active_tenant_id db.requests.next placed initial_state) }
  | add_environment {user : CurrentUser} {data : AddEnvironmentRequest} {req : BookingRequest}
      {initial_state : String} (hreq : req ∈ db.requests)
      (henv : ∃ e ∈ db.estate.environments,
        e.id = data.environment_id ∧ e.tenant_id = user.active_tenant_id)
      (hbookable : assert_bookable db.estate user.active_tenant_id [data.environment_id]
        (data.window req).start (some (data.window req).stop) = .ok ()) :
      Accepted ext db (.add_environment user req.id data)
        { db with
          bookings := db.bookings.insert
            (child_row user.active_tenant_id req.id data.environment_id none
              (data.window req) initial_state) }
  | remove_environment {user : CurrentUser} {request_id booking_id : ℕ} {now : DateTime}
      {db' : Db} (h : Removes db db') :
      Accepted ext db (.remove_environment user request_id booking_id now) db'
  | update_request_standard_fields {user : CurrentUser} {values : BookingRequestUpdate}
      {req : BookingRequest} {context_tag : ContextTag} (hreq : req ∈ db.requests)
      (hbookable : assert_cascade_bookable db req values user.active_tenant_id = .ok ())
      (hend : values.end_date ≠ .null) :
      Accepted ext db (.update_request_standard_fields user req.id values)
        { db with
          requests := db.requests.update (fun r => r.id = req.id) (values.write context_tag)
          bookings := db.bookings.update
            (fun b => b.booking_request_id = req.id ∧ b.deleted_at = none) values.cascade }
  | transition {booking_id : ℕ} {to_state : String} :
      Accepted ext db (.transition booking_id to_state)
        { db with
          bookings := db.bookings.update (fun b => b.id = booking_id) (set_status to_state) }
  | estate {e : Decommission.Event} {s : Decommission.Estate}
      (h : Decommission.handle db.estate e = .ok s) :
      Accepted ext db (.estate e) { db with estate := s }
  | reference {rows : Reference} : Accepted ext db (.reference rows) { db with reference := rows }

theorem get_booking_ok {booking_id : ℕ} (h : get_booking db booking_id tenant_id = .ok b) :
    b ∈ db.bookings ∧ b.id = booking_id ∧ b.tenant_id = tenant_id ∧ b.deleted_at = none := by
  obtain ⟨hb, hp⟩ := Table.select_one_some (get_or_raise_eq_ok.1 h)
  exact ⟨hb, of_decide_eq_true hp⟩

theorem get_request_ok {r : BookingRequest} (h : _get_request db request_id tenant_id = .ok r) :
    r ∈ db.requests ∧ r.id = request_id := by
  obtain ⟨hr, hp⟩ := Table.select_one_some (get_or_raise_eq_ok.1 h)
  exact ⟨hr, (of_decide_eq_true hp).1⟩

theorem create_request_ok {data : BookingRequestCreate} {detected : List (ℕ × List Booking)}
    (h : create_request db data user tenant_id = .ok (db', detected)) :
    ∃ placed initial_state context_tag protection_level,
      place_environments db tenant_id data.environment_ids data.environment_group_ids
        = .ok placed ∧
      assert_bookable db.estate tenant_id (placed.map Placed.environment_id) data.start_date
        (some data.end_date) = .ok () ∧
      _load_initial_state db data.booking_type_id tenant_id = .ok initial_state ∧
      db' = { db with
        requests := db.requests.insert
          ⟨data.row tenant_id user context_tag protection_level, fun _ => rfl⟩
        bookings := db.bookings.insert_all
          (data.children tenant_id db.requests.next placed initial_state) } ∧
      detected = detect_conflicts db'
        ((List.range placed.length).map fun i => db.bookings.next + i) tenant_id := by
  simp only [create_request, bind_eq_ok] at h
  obtain ⟨placed, hplaced, _, hbookable, initial_state, hinitial, -, -, -, -, context_tag, -,
    hmade⟩ := h
  obtain ⟨rfl, rfl⟩ := Prod.mk.inj (Except.ok.inj hmade)
  exact ⟨placed, initial_state, context_tag, _, hplaced, hbookable, hinitial, rfl, rfl⟩

theorem accepted_of_ok (h : handle ext db e = .ok db') :
    Accepted ext db e db' := by
  cases e with
  | create_booking user data now =>
    simp only [handle, create_booking, map_eq_ok, bind_eq_ok, raise_if_eq_ok] at h
    obtain ⟨made, ⟨dates, hdates, _, hbookable, -, hguard, -, -, -, -, -, -, -, -, hmade⟩, rfl⟩ := h
    obtain rfl := Except.ok.inj hmade
    exact .create_booking hdates hbookable (by simpa using hguard)
  | delete_occurrence user booking_id now =>
    simp only [handle, delete_occurrence, bind_eq_ok, raise_if_eq_ok] at h
    obtain ⟨b, -, -, -, h⟩ := h
    exact .delete_occurrence ⟨_, now, (Except.ok.inj h).symm⟩
  | delete_series user booking_id now =>
    simp only [handle, delete_series, bind_eq_ok, raise_if_eq_ok] at h
    obtain ⟨b, -, -, -, root, -, h⟩ := h
    exact .delete_series ⟨_, now, (Except.ok.inj h).symm⟩
  | update_standard_fields user booking_id values =>
    simp only [handle, update_standard_fields, bind_eq_ok, raise_if_eq_ok] at h
    obtain ⟨-, -, b, hget, -, -, -, -, _, hbookable, -, hnull, -, -, h⟩ := h
    obtain ⟨hb, rfl, htenant, hlive⟩ := get_booking_ok hget
    obtain rfl := Except.ok.inj h
    -- a null would not have got past the flush
    exact .update_standard_fields hb htenant hlive hbookable (fun hend => hnull (Or.inr hend))
  | create_request user data =>
    obtain ⟨⟨made, detected⟩, hcreate, rfl⟩ := map_eq_ok.1 h
    obtain ⟨placed, initial_state, context_tag, protection_level, hplaced, hbookable, -, rfl, -⟩ :=
      create_request_ok hcreate
    exact .create_request hplaced hbookable
  | add_environment user request_id data =>
    simp only [handle, add_environment, bind_eq_ok, raise_if_eq_ok, not_not] at h
    obtain ⟨req, hget, -, henv, -, -, -, -, _, hbookable, initial_state, -, h⟩ := h
    obtain ⟨hreq, rfl⟩ := get_request_ok hget
    obtain rfl := Except.ok.inj h
    exact .add_environment hreq henv hbookable
  | remove_environment user request_id booking_id now =>
    simp only [handle, remove_environment, bind_eq_ok] at h
    obtain ⟨req, -, child, -, h⟩ := h
    exact .remove_environment ⟨_, now, (Except.ok.inj h).symm⟩
  | update_request_standard_fields user request_id values =>
    simp only [handle, update_request_standard_fields, bind_eq_ok, raise_if_eq_ok] at h
    obtain ⟨req, hget, -, -, -, -, _, hbookable, context_tag, -, -, hnull, -, -, h⟩ := h
    obtain ⟨hreq, rfl⟩ := get_request_ok hget
    obtain rfl := Except.ok.inj h
    refine .update_request_standard_fields hreq hbookable (fun hend => hnull ?_)
    exact Or.inr (Or.inr (Or.inr (Or.inl hend)))
  | transition booking_id to_state =>
    obtain rfl := Except.ok.inj h
    exact .transition
  | estate e =>
    obtain ⟨s, hs, rfl⟩ := map_eq_ok.1 h
    exact .estate hs
  | reference rows =>
    obtain rfl := Except.ok.inj h
    exact .reference

/-- The request goes through. -/
def Succeeds (ext : External) (db : Db) (e : Event) : Prop := ∃ db', handle ext db e = .ok db'

theorem step_of_ok (h : handle ext db e = .ok db') :
    step ext db e = db' := by
  rw [step, h, commit_ok]

/-- A step is a refusal, which changes nothing, or an accepted request. -/
theorem step_cases (ext : External) (db : Db) (e : Event) :
    (¬ Succeeds ext db e ∧ step ext db e = db) ∨
      (Succeeds ext db e ∧ Accepted ext db e (step ext db e)) := by
  cases h : handle ext db e with
  | error r => exact Or.inl ⟨fun ⟨db', hok⟩ => by simp [h] at hok, by rw [step, h, rollback_error]⟩
  | ok db' =>
    rw [step_of_ok h]
    exact Or.inr ⟨⟨db', h⟩, accepted_of_ok h⟩

/-! ## The rows after a request -/

/-- The windows of a series, the booking itself first. -/
def BookingCreate.windows (data : BookingCreate) (dates : List DateTime) :
    List (Interval DateTime) :=
  data.window :: dates.map data.occurrence

/-- The rows of a series are rows of the request, one for each window. -/
theorem mem_series {data : BookingCreate} {parent_id : ℕ} {new : Table.New Booking.id}
    (h : (data.series user request_id parent_id dates)[i]? = some new) :
    ∃ window rule parent, (data.windows dates)[i]? = some window ∧
      new.row = data.booking_row user request_id window rule parent := by
  cases i with
  | zero =>
    obtain rfl := Option.some.inj h
    exact ⟨_, _, _, rfl, rfl⟩
  | succ i =>
    simp only [BookingCreate.series, List.getElem?_cons_succ, List.getElem?_map,
      Option.map_eq_some_iff] at h
    obtain ⟨dt, hdt, rfl⟩ := h
    refine ⟨data.occurrence dt, none, some parent_id, ?_, rfl⟩
    simp [BookingCreate.windows, hdt]

theorem series_of_window {data : BookingCreate} (user : CurrentUser) (request_id parent_id : ℕ)
    {window : Interval DateTime} (h : (data.windows dates)[i]? = some window) :
    ∃ new rule parent, (data.series user request_id parent_id dates)[i]? = some new ∧
      new.row = data.booking_row user request_id window rule parent := by
  cases i with
  | zero =>
    obtain rfl := Option.some.inj h
    exact ⟨_, _, _, rfl, rfl⟩
  | succ i =>
    simp only [BookingCreate.windows, List.getElem?_cons_succ, List.getElem?_map,
      Option.map_eq_some_iff] at h
    obtain ⟨dt, hdt, rfl⟩ := h
    refine ⟨⟨data.booking_row user request_id (data.occurrence dt) none (some parent_id),
      fun _ => rfl⟩, none, some parent_id, ?_, rfl⟩
    simp [BookingCreate.series, hdt]

/-! ## The environments of a request -/

/-- What an accepted request has placed. -/
structure PlacedOk (db : Db) (tenant_id : ℕ) (env_ids : List ℕ) (placed : List Placed) : Prop where
  ne_nil : placed ≠ []
  nodup : (placed.map Placed.environment_id).Nodup
  own : ∀ p ∈ placed, ∃ e ∈ db.estate.environments,
    e.id = p.environment_id ∧ e.tenant_id = tenant_id
  picked : ∀ env_id ∈ env_ids, ∃ p ∈ placed, p.environment_id = env_id

theorem place_members_mem {group : EnvironmentGroup} {members : List ℕ}
    (h : place_members group members placed = .ok placed') (hp : p ∈ placed) :
    p ∈ placed' := by
  induction members generalizing placed with
  | nil =>
    obtain rfl := Except.ok.inj h
    exact hp
  | cons env_id members ih =>
    unfold place_members at h
    split at h
    · exact absurd h (by simp)
    · exact ih h (List.mem_append_left _ hp)

theorem place_groups_mem (h : place_groups db tenant_id group_ids placed = .ok placed')
    (hp : p ∈ placed) :
    p ∈ placed' := by
  induction group_ids generalizing placed with
  | nil =>
    obtain rfl := Except.ok.inj h
    exact hp
  | cons group_id group_ids ih =>
    simp only [place_groups, bind_eq_ok] at h
    obtain ⟨group, -, -, -, placed₁, hmembers, h⟩ := h
    exact ih h (place_members_mem hmembers hp)

/-- As many environments were found as were asked for, so that each was found and
none asked for twice. -/
theorem placed_ok {env_ids : List ℕ}
    (h : place_environments db tenant_id env_ids group_ids = .ok placed) :
    PlacedOk db tenant_id env_ids placed := by
  simp only [place_environments, bind_eq_ok, raise_if_eq_ok, not_not] at h
  obtain ⟨-, -, -, -, placed', hgroups, -, hne, -, hlength, h⟩ := h
  obtain rfl := Except.ok.inj h
  -- the ids found are distinct and among those asked for, and there are as many
  have hsub : ((db.estate.environments.select fun e =>
      e.id ∈ placed'.map Placed.environment_id ∧ e.tenant_id = tenant_id).map Environment.id).Perm
        (placed'.map Placed.environment_id) := by
    refine List.Subperm.perm_of_length_le (List.Nodup.subperm ?_ (fun id hid => ?_)) ?_
    · exact db.estate.environments.keys_nodup.sublist (List.filter_sublist.map _)
    · obtain ⟨e, he, rfl⟩ := List.mem_map.1 hid
      exact (of_decide_eq_true (Table.mem_select.1 he).2).1
    · exact (hlength.symm.trans (List.length_map ..).symm).le
  refine ⟨hne, ?_, fun p hp => ?_, fun env_id hid => ?_⟩
  · exact hsub.nodup_iff.1 (db.estate.environments.keys_nodup.sublist
      (List.filter_sublist.map _))
  · obtain ⟨e, he, heid⟩ := List.mem_map.1 (hsub.mem_iff.2 (List.mem_map_of_mem hp))
    obtain ⟨hmem, hp⟩ := Table.mem_select.1 he
    exact ⟨e, hmem, heid, (of_decide_eq_true hp).2⟩
  · exact ⟨_, place_groups_mem hgroups (List.mem_map_of_mem hid), rfl⟩

/-! ## Bookings that leave -/

theorem Removes.mem (h : Removes db db') (hb : b ∈ db'.bookings) (hlive : b.deleted_at = none) :
    b ∈ db.bookings := by
  obtain ⟨p, now, rfl⟩ := h
  rcases Table.mem_update_cases hb with ⟨r, -, -, rfl⟩ | ⟨hb, -⟩
  · exact absurd hlive (Option.some_ne_none now)
  · exact hb

/-! ## Every booking has its request -/

structure Sound (db : Db) : Prop where
  estate : Decommission.Sound db.estate
  requested : ∀ b ∈ db.bookings, ∃ r ∈ db.requests, r.id = b.booking_request_id

theorem sound_fresh (environments : Table Environment Environment.id) (reference : Reference) :
    Sound (Db.fresh environments reference) :=
  ⟨Decommission.sound_fresh environments [] [] [], fun _ hb => absurd hb (Table.not_mem_empty _)⟩

/-- The same request, with whatever fields. -/
def SameRequest (r r' : BookingRequest) : Prop := r'.id = r.id

theorem SameRequest.refl (r : BookingRequest) : SameRequest r r := rfl

/-- Requests and their keys are only added to. -/
def Kept (t t' : Table BookingRequest BookingRequest.id) : Prop :=
  Table.Retains SameRequest t t'

/-- New bookings that come with their requests. -/
theorem requested_insert_all (h : Sound db) (hkept : Kept db.requests requests)
    {news : List (Table.New Booking.id)}
    (hnews : ∀ (i : ℕ) (new : Table.New Booking.id), news[i]? = some new →
      ∃ r ∈ requests, r.id = (new.row (db.bookings.next + i)).booking_request_id) :
    ∀ b ∈ db.bookings.insert_all news, ∃ r ∈ requests, r.id = b.booking_request_id := by
  intro b hb
  rcases Table.mem_insert_all.1 hb with hb | ⟨i, new, hget, rfl⟩
  · obtain ⟨r, hr, hid⟩ := h.requested b hb
    obtain ⟨r', hr', hid'⟩ := hkept r hr
    exact ⟨r', hr', hid'.trans hid⟩
  · exact hnews i new hget

/-- An edit of bookings that leaves them with their requests. -/
theorem requested_update (h : Sound db) (hkept : Kept db.requests requests) (p : Booking → Bool)
    {f : Table.Edit Booking.id} (hf : ∀ b, (f.apply b).booking_request_id = b.booking_request_id) :
    ∀ b ∈ db.bookings.update p f, ∃ r ∈ requests, r.id = b.booking_request_id := by
  intro b hb
  have hold : ∃ b₀ ∈ db.bookings, b.booking_request_id = b₀.booking_request_id := by
    rcases Table.mem_update_cases hb with ⟨b₀, hb₀, -, rfl⟩ | ⟨hb, -⟩
    · exact ⟨b₀, hb₀, hf b₀⟩
    · exact ⟨b, hb, rfl⟩
  obtain ⟨b₀, hb₀, heq⟩ := hold
  obtain ⟨r, hr, hid⟩ := h.requested b₀ hb₀
  obtain ⟨r', hr', hid'⟩ := hkept r hr
  exact ⟨r', hr', by rw [hid', hid, heq]⟩

theorem Sound.accepted (h : Sound db) (ha : Accepted ext db e db') :
    Sound db' := by
  have hremoves : ∀ {db'}, Removes db db' → Sound db' := by
    rintro _ ⟨p, now, rfl⟩
    have hkept := Table.retains_refl SameRequest.refl db.requests
    exact ⟨h.estate, requested_update h hkept p (fun _ => rfl)⟩
  cases ha with
  | @create_booking user data now dates protection_level history =>
    refine ⟨h.estate,
      requested_insert_all h (Table.retains_insert SameRequest.refl _ _) (fun i new hget => ?_)⟩
    obtain ⟨window, rule, parent, -, hrow⟩ := mem_series hget
    rw [hrow]
    exact ⟨_, Table.mem_insert.2 (Or.inr rfl), rfl⟩
  | delete_occurrence hr => exact hremoves hr
  | delete_series hr => exact hremoves hr
  | remove_environment hr => exact hremoves hr
  | update_standard_fields =>
    have hkept := Table.retains_refl SameRequest.refl db.requests
    exact ⟨h.estate, requested_update h hkept _ (fun _ => rfl)⟩
  | create_request =>
    refine ⟨h.estate,
      requested_insert_all h (Table.retains_insert SameRequest.refl _ _) (fun i new hget => ?_)⟩
    obtain ⟨p, -, rfl⟩ := List.mem_map.1 (List.mem_of_getElem? hget)
    exact ⟨_, Table.mem_insert.2 (Or.inr rfl), rfl⟩
  | @add_environment user data req initial_state hreq =>
    refine ⟨h.estate, fun b hb => ?_⟩
    rcases Table.mem_insert.1 hb with hb | rfl
    · exact h.requested b hb
    · exact ⟨req, hreq, rfl⟩
  | update_request_standard_fields =>
    refine ⟨h.estate, requested_update h ?_ _ (fun _ => rfl)⟩
    exact Table.retains_update SameRequest.refl db.requests _ (fun _ => rfl)
  | transition =>
    have hkept := Table.retains_refl SameRequest.refl db.requests
    exact ⟨h.estate, requested_update h hkept _ (fun _ => rfl)⟩
  | estate hs => exact ⟨h.estate.accepted (Decommission.accepted_of_ok hs), h.requested⟩
  | reference => exact ⟨h.estate, h.requested⟩

theorem Sound.step (h : Sound db) (e : Event) : Sound (step ext db e) := by
  rcases step_cases ext db e with ⟨-, hsame⟩ | ⟨-, ha⟩
  · rwa [hsame]
  · exact h.accepted ha

end EnvMgr.Bookings

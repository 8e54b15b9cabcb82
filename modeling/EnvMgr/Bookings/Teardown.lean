/-
Bookings and decommissions.

Every path that stores an end date first asks `assert_bookable`, with the date
that is stored and not a merged one, and for a series with the furthest. What
that check does not see are environments of other tenants: its query filters on
the caller's. `create_request` and `add_environment` take only environments of
the tenant, but `create_booking` never looks at whose environment it is given,
and the edits of such a booking then pass the check as well.
-/
import EnvMgr.Bookings.Effects

namespace EnvMgr.Bookings

open Decommission (EndsInTime Foreign assert_bookable)

variable {s : Decommission.Estate} {db : Db}
variable {tenant_id environment_id : ℕ} {data : BookingCreate} {dates : List DateTime}
  {user : CurrentUser} {b : Booking}

variable {ext : External}

/-! ## The law -/

/-- The request made this booking, or assigned its end date. -/
def Assigned (db : Db) (e : Event) (b : Booking) : Prop :=
  match e with
  | .create_booking .. => db.bookings.next ≤ b.id
  | .create_request .. => db.bookings.next ≤ b.id
  | .add_environment .. => db.bookings.next ≤ b.id
  | .update_standard_fields _ booking_id values =>
    b.id = booking_id ∧ values.get "end_date" ≠ none
  | .update_request_standard_fields _ request_id values =>
    b.booking_request_id = request_id ∧ b.deleted_at = none ∧ values.end_date ≠ .omitted
  | _ => False

instance (db : Db) (b : Booking) : ∀ e : Event, Decidable (Assigned db e b)
  | .create_booking .. => inferInstanceAs (Decidable (db.bookings.next ≤ b.id))
  | .create_request .. => inferInstanceAs (Decidable (db.bookings.next ≤ b.id))
  | .add_environment .. => inferInstanceAs (Decidable (db.bookings.next ≤ b.id))
  | .update_standard_fields .. => inferInstanceAs (Decidable (_ ∧ _))
  | .update_request_standard_fields .. => inferInstanceAs (Decidable (_ ∧ _))
  | .delete_occurrence .. => .isFalse id
  | .delete_series .. => .isFalse id
  | .remove_environment .. => .isFalse id
  | .transition .. => .isFalse id
  | .estate _ => .isFalse id
  | .reference _ => .isFalse id

/-- The request leaves every booking whose end it sets within the teardown date
of its environment, or it is refused and changes nothing. -/
structure RespectsTeardown (ext : External) (db : Db) (e : Event) : Prop where
  in_time : ∀ db', handle ext db e = .ok db' → ∀ b ∈ db'.bookings, Assigned db e b →
    EndsInTime db'.estate b.environment_id b.end_date
  refused : ∀ r, handle ext db e = .error r → step ext db e = db

/-- What the request would store on another tenant's environment is in time. -/
def InTimeElsewhere (ext : External) (db : Db) : Event → Prop
  | .create_booking user data _ =>
    Foreign db.estate user.active_tenant_id data.environment_id →
      ∀ dates, occurrences ext data = .ok dates →
        EndsInTime db.estate data.environment_id (furthest_end data dates)
  | .update_standard_fields user booking_id values =>
    ∀ b ∈ db.bookings, b.id = booking_id → values.get "end_date" ≠ none →
      Foreign db.estate user.active_tenant_id b.environment_id →
        EndsInTime db.estate b.environment_id
          (ColumnValue.stored (override ext values "end_date") b.end_date)
  | .update_request_standard_fields user request_id values =>
    ∀ b ∈ db.bookings, b.booking_request_id = request_id → b.deleted_at = none →
      values.end_date ≠ .omitted → Foreign db.estate user.active_tenant_id b.environment_id →
        EndsInTime db.estate b.environment_id (values.end_date.set_required b.end_date)
  | _ => True

/-! ## A series -/

theorem foldl_max_le_iff {xs : List DateTime} {a c : DateTime} :
    xs.foldl max a ≤ c ↔ a ≤ c ∧ ∀ x ∈ xs, x ≤ c := by
  induction xs generalizing a with
  | nil => simp
  | cons x xs ih => simp only [List.foldl_cons, ih, max_le_iff, List.forall_mem_cons, and_assoc]

/-- The furthest end is in time exactly when every end is. -/
theorem furthest_in_time_iff :
    EndsInTime s environment_id (furthest_end data dates) ↔
      ∀ w ∈ data.windows dates, EndsInTime s environment_id w.stop := by
  simp only [EndsInTime, furthest_end, foldl_max_le_iff, List.forall_mem_map]
  constructor
  · intro h w hw d hd hlive henv
    obtain ⟨hfirst, hlater⟩ := h d hd hlive henv
    rcases List.mem_cons.1 hw with rfl | hw
    · exact hfirst
    · obtain ⟨dt, hdt, rfl⟩ := List.mem_map.1 hw
      exact hlater dt hdt
  · intro h d hd hlive henv
    refine ⟨h data.window (List.mem_cons_self ..) d hd hlive henv, fun dt hdt => ?_⟩
    exact h (data.occurrence dt) (List.mem_cons_of_mem _ (List.mem_map_of_mem hdt)) d hd hlive henv

/-- The rows a create makes, by their windows. -/
theorem series_in_time_iff :
    (∀ b ∈ db.bookings.insert_all (data.series user db.requests.next db.bookings.next dates),
      db.bookings.next ≤ b.id → EndsInTime s b.environment_id b.end_date) ↔
      EndsInTime s data.environment_id (furthest_end data dates) := by
  -- an old booking has an old key
  have hold : ∀ b ∈ db.bookings, db.bookings.next ≤ b.id →
      EndsInTime s b.environment_id b.end_date :=
    fun b hb hid => absurd (Table.key_lt_next hb) (not_lt.2 hid)
  rw [Table.forall_insert_all_iff hold, furthest_in_time_iff]
  constructor
  · intro hall w hw
    obtain ⟨i, hi⟩ := List.getElem?_of_mem hw
    obtain ⟨new, rule, parent, hget, hrow⟩ :=
      series_of_window user db.requests.next db.bookings.next hi
    have hnew := hall i new hget
    rw [hrow] at hnew
    exact hnew (Nat.le_add_right _ _)
  · intro hall i new hget
    obtain ⟨w, rule, parent, hw, hrow⟩ := mem_series hget
    rw [hrow]
    exact fun _ => hall w (List.mem_of_getElem? hw)

/-! ## Environments of the tenant -/

/-- An environment that was looked up by id and tenant is not another tenant's. -/
theorem not_foreign (h : ∃ e ∈ s.environments, e.id = environment_id ∧ e.tenant_id = tenant_id) :
    ¬ Foreign s tenant_id environment_id := by
  rintro ⟨env, henv, hid, hne⟩
  obtain ⟨e, he, heid, htenant⟩ := h
  obtain rfl : e = env := Table.eq_of_key_eq he henv (heid.trans hid.symm)
  exact hne htenant

theorem children_in_time (h : Sound db) {data : BookingRequestCreate} {placed : List Placed}
    {initial_state : String} (hplaced : PlacedOk db tenant_id data.environment_ids placed)
    (hbookable : assert_bookable db.estate tenant_id (placed.map Placed.environment_id)
      data.start_date (some data.end_date) = .ok ()) :
    ∀ b ∈ db.bookings.insert_all
        (data.children tenant_id db.requests.next placed initial_state),
      db.bookings.next ≤ b.id → EndsInTime db.estate b.environment_id b.end_date := by
  intro b hb hnew
  rcases Table.mem_insert_all.1 hb with hb | ⟨i, new, hget, rfl⟩
  · exact absurd (Table.key_lt_next hb) (not_lt.2 hnew)
  · obtain ⟨p, hp, rfl⟩ := List.mem_map.1 (List.mem_of_getElem? hget)
    exact Decommission.ends_in_time_of_bookable h.estate hbookable (List.mem_map_of_mem hp)
      (not_foreign (hplaced.own p hp))

/-! ## One request -/

/-- The law of an accepted request, on the state it leaves. -/
def AssignedInTime (db db' : Db) (e : Event) : Prop :=
  ∀ b ∈ db'.bookings, Assigned db e b → EndsInTime db'.estate b.environment_id b.end_date

theorem override_in_time (h : Sound db) {values : Dict Json}
    {new_start new_end : Option ColumnValue}
    (hbookable : assert_override_bookable db b user values new_start new_end = .ok ())
    (hsent : values.get "end_date" ≠ none) (hend : new_end ≠ some .null)
    (hown : ¬ Foreign db.estate user.active_tenant_id b.environment_id) :
    EndsInTime db.estate b.environment_id (ColumnValue.stored new_end b.end_date) := by
  have hitems : values.items ≠ [] := by
    intro hnil
    simp [Dict.get, hnil] at hsent
  rw [assert_override_bookable, if_neg hitems, if_neg hend] at hbookable
  simp only [bind_eq_ok, raise_if_eq_ok] at hbookable
  obtain ⟨-, -, hbookable⟩ := hbookable
  exact Decommission.ends_in_time_of_bookable h.estate hbookable (List.mem_singleton_self _) hown

theorem cascade_in_time (h : Sound db) {req : BookingRequest} {values : BookingRequestUpdate}
    (hbookable : assert_cascade_bookable db req values tenant_id = .ok ())
    (hsent : values.end_date ≠ .omitted) (hend : values.end_date ≠ .null)
    (hb : b ∈ live_children db req.id) (hown : ¬ Foreign db.estate tenant_id b.environment_id) :
    EndsInTime db.estate b.environment_id (values.end_date.set_required b.end_date) := by
  cases hvalue : values.end_date with
  | omitted => exact absurd hvalue hsent
  | null => exact absurd hvalue hend
  | value t =>
    have hmentioned : values.start_date.mentioned = true ∨ values.end_date.mentioned = true := by
      rw [hvalue]
      exact Or.inr rfl
    rw [assert_cascade_bookable, if_pos hmentioned, hvalue] at hbookable
    exact Decommission.ends_in_time_of_bookable h.estate hbookable (List.mem_map_of_mem hb) hown

/-- **What an accepted request assigns is in time exactly when what it assigns on
other tenants' environments is.** -/
theorem assigned_in_time_iff {db' : Db} {e : Event} (h : Sound db)
    (ha : Accepted ext db e db') : AssignedInTime db db' e ↔ InTimeElsewhere ext db e := by
  cases ha with
  | @create_booking user data now dates protection_level history hdates hbookable =>
    refine series_in_time_iff.trans ⟨fun hall _ dates' hdates' => ?_, fun hcond => ?_⟩
    · obtain rfl : dates = dates' := Except.ok.inj (hdates.symm.trans hdates')
      exact hall
    -- elsewhere by assumption, at home because `assert_bookable` has looked
    · by_cases hforeign : Foreign db.estate user.active_tenant_id data.environment_id
      · exact hcond hforeign dates hdates
      · exact Decommission.ends_in_time_of_bookable h.estate hbookable
          (List.mem_singleton_self _) hforeign
  | create_request hplaced hbookable =>
    exact iff_true_intro (children_in_time h (placed_ok hplaced) hbookable)
  | @add_environment user data req initial_state hreq henv hbookable =>
    refine iff_true_intro (fun b hb hnew => ?_)
    rcases Table.mem_insert.1 hb with hb | rfl
    · exact absurd (Table.key_lt_next hb) (not_lt.2 hnew)
    · exact Decommission.ends_in_time_of_bookable h.estate hbookable
        (List.mem_singleton_self _) (not_foreign henv)
  | @update_standard_fields user values b hb htenant hlive hbookable hend =>
    constructor
    · intro hall r hr hid hsent _
      obtain rfl : r = b := Table.eq_of_key_eq hr hb hid
      exact hall _ (Table.mem_update_of_pos hr (by simp)) ⟨rfl, hsent⟩
    · rintro hcond r hr ⟨hid, hsent⟩
      rcases Table.mem_update_cases hr with ⟨r₀, hr₀, hid₀, rfl⟩ | ⟨-, hne⟩
      · obtain rfl : r₀ = b := Table.eq_of_key_eq hr₀ hb (of_decide_eq_true hid₀)
        by_cases hforeign : Foreign db.estate user.active_tenant_id r₀.environment_id
        · exact hcond r₀ hr₀ rfl hsent hforeign
        · exact override_in_time h hbookable hsent hend hforeign
      · exact absurd hid (by simpa using hne)
  | @update_request_standard_fields user values req context_tag hreq hbookable hend =>
    constructor
    · intro hall b hb hrequest hlive hsent _
      exact hall _ (Table.mem_update_of_pos hb (by simp [hrequest, hlive]))
        ⟨hrequest, hlive, hsent⟩
    · rintro hcond r hr ⟨hrequest, hlive, hsent⟩
      rcases Table.mem_update_cases hr with ⟨b, hb, hp, rfl⟩ | ⟨-, hne⟩
      · obtain ⟨hreqid, hblive⟩ := of_decide_eq_true hp
        by_cases hforeign : Foreign db.estate user.active_tenant_id b.environment_id
        · exact hcond b hb hreqid hblive hsent hforeign
        · exact cascade_in_time h hbookable hsent hend
            (Table.mem_select.2 ⟨hb, by simp [hreqid, hblive]⟩) hforeign
      · exact absurd hlive (by simpa [hrequest] using hne)
  | delete_occurrence => exact iff_of_true (fun _ _ hassigned => hassigned.elim) trivial
  | delete_series => exact iff_of_true (fun _ _ hassigned => hassigned.elim) trivial
  | remove_environment => exact iff_of_true (fun _ _ hassigned => hassigned.elim) trivial
  | transition => exact iff_of_true (fun _ _ hassigned => hassigned.elim) trivial
  | estate => exact iff_of_true (fun _ _ hassigned => hassigned.elim) trivial
  | reference => exact iff_of_true (fun _ _ hassigned => hassigned.elim) trivial

theorem respects_teardown_iff (h : Sound db) (e : Event) :
    RespectsTeardown ext db e ↔ (Succeeds ext db e → InTimeElsewhere ext db e) := by
  constructor
  · rintro ⟨hin, -⟩ ⟨db', hok⟩
    exact (assigned_in_time_iff h (accepted_of_ok hok)).1 (hin db' hok)
  · intro hcond
    refine ⟨fun db' hok => ?_, fun r hr => ?_⟩
    · exact (assigned_in_time_iff h (accepted_of_ok hok)).2 (hcond ⟨db', hok⟩)
    · rw [step, hr, rollback_error]

/-! ## Every run -/

/-- **Every booking write of a run respects decommissioning exactly when each one
that goes through stores only dates in time on other tenants' environments.** -/
theorem teardown_respected_iff (ext : External) (environments : Table Environment Environment.id)
    (reference : Reference) (es : List Event) :
    Runs.Along (step ext) (RespectsTeardown ext) (Db.fresh environments reference) es ↔
      Runs.Along (step ext) (fun db e => Succeeds ext db e → InTimeElsewhere ext db e)
        (Db.fresh environments reference) es := by
  have hkeep : ∀ (db : Db) (e : Event), Sound db → Sound (step ext db e) :=
    fun _ e h => h.step e
  have hexact : ∀ (db : Db) (e : Event), Sound db →
      (RespectsTeardown ext db e ↔ (Succeeds ext db e → InTimeElsewhere ext db e)) :=
    fun _ e h => respects_teardown_iff h e
  exact Runs.along_congr hkeep hexact (sound_fresh environments reference) es

namespace Sample

/-- The other tenant decommissions its environment, with five days' notice. -/
def warned : Event :=
  .estate (.initiate admin2 2 "end of project" none 0)

/-- A booking of that environment for the month after. -/
def booked : Event :=
  .create_booking admin (booking 2 1 (timedelta.days 6) (timedelta.days 36) false none) 60

end Sample

/-- **A booking on another tenant's environment runs past its teardown**, and is
accepted. -/
theorem foreign_booking_past_teardown :
    ¬ Runs.Along (step Sample.ext) (RespectsTeardown Sample.ext)
      (Db.fresh Sample.environments Sample.reference) [Sample.warned, Sample.booked] := by
  rintro ⟨-, hbooked, -⟩
  have hlate := hbooked.in_time _ rfl
  revert hlate
  decide

end EnvMgr.Bookings

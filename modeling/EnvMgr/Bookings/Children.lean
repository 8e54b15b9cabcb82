/-
The children of a request, when some of them are a series.

`add_environment` reads the child an environment has as one optional row, and the cascade of
a date edit writes the same dates onto every child; both are written for one child an
environment. A recurring booking has several under its one request.
-/
import EnvMgr.Bookings.Effects

namespace EnvMgr.Bookings

open Decommission (assert_bookable)

variable {ext : External}

/-! ## Adding an environment -/

/-- What an environment has in a request. -/
def live_children_on (db : Db) (request_id environment_id : ℕ) : List Booking :=
  db.bookings.select fun b =>
    b.booking_request_id = request_id ∧ b.environment_id = environment_id ∧ b.deleted_at = none

/-- The dates the environment would be added with are acceptable. -/
def DatesBookable (db : Db) (req : BookingRequest) (data : AddEnvironmentRequest)
    (tenant_id : ℕ) : Prop :=
  assert_bookable db.estate tenant_id [data.environment_id] (data.window req).start
    (some (data.window req).stop) = .ok ()

/-- The environment is added if it has nothing in the request, and refused if it has. -/
structure AddedOrRefused (db : Db) (req : BookingRequest) (data : AddEnvironmentRequest)
    (tenant_id : ℕ) : Prop where
  added : live_children_on db req.id data.environment_id = [] →
    DatesBookable db req data tenant_id →
    ∃ db', add_environment db req.id data tenant_id = .ok db'
  refused : live_children_on db req.id data.environment_id ≠ [] →
    add_environment db req.id data tenant_id = .error (http 400 "Environment already in request")

/-- The environment has one booking in the request at most; and if it has none, a booking of
the request's type has a state to start in. -/
def FewChildren (db : Db) (req : BookingRequest) (data : AddEnvironmentRequest)
    (tenant_id : ℕ) : Prop :=
  (live_children_on db req.id data.environment_id).length ≤ 1 ∧
    (live_children_on db req.id data.environment_id = [] → DatesBookable db req data tenant_id →
      ∃ initial_state, _load_initial_state db req.booking_type_id tenant_id = .ok initial_state)

section

variable {db : Db} {req : BookingRequest} {data : AddEnvironmentRequest} {tenant_id : ℕ}

theorem add_environment_ok (hreq : _get_request db req.id tenant_id = .ok req)
    (henv : ∃ e ∈ db.estate.environments, e.id = data.environment_id ∧ e.tenant_id = tenant_id) :
    (∃ db', add_environment db req.id data tenant_id = .ok db') ↔
      live_children_on db req.id data.environment_id = [] ∧ DatesBookable db req data tenant_id ∧
        ∃ initial_state,
          _load_initial_state db req.booking_type_id tenant_id = .ok initial_state := by
  simp only [add_environment, bind_eq_ok, raise_if_eq_ok, not_not]
  constructor
  · rintro ⟨db', req', hreq', -, -, -, -, -, hnone, _, hdates, initial_state, hinitial, -⟩
    obtain rfl := Except.ok.inj (hreq.symm.trans hreq')
    exact ⟨hnone, hdates, initial_state, hinitial⟩
  · rintro ⟨hnone, hdates, initial_state, hinitial⟩
    have hfew : ¬ 1 < (live_children_on db req.id data.environment_id).length := by
      rw [hnone]
      decide
    exact ⟨_, req, hreq, (), henv, (), hfew, (), hnone, (), hdates, initial_state, hinitial, rfl⟩

theorem add_environment_refused (hreq : _get_request db req.id tenant_id = .ok req)
    (henv : ∃ e ∈ db.estate.environments, e.id = data.environment_id ∧ e.tenant_id = tenant_id)
    (hsome : live_children_on db req.id data.environment_id ≠ []) :
    add_environment db req.id data tenant_id = .error (http 400 "Environment already in request") ↔
      (live_children_on db req.id data.environment_id).length ≤ 1 := by
  rw [← not_lt]
  constructor
  · intro hanswer hmany
    simp only [add_environment, bind_eq_error, raise_if_eq_error, raise_if_eq_ok] at hanswer
    rcases hanswer with hget | ⟨req', hreq', hanswer⟩
    · rw [hreq] at hget
      cases hget
    · obtain rfl := Except.ok.inj (hreq.symm.trans hreq')
      rcases hanswer with ⟨hno, -⟩ | ⟨-, -, ⟨-, hanswer⟩ | ⟨-, hfew, -⟩⟩
      · exact hno henv
      · cases hanswer
      · exact hfew hmany
  · intro hfew
    simp only [add_environment, bind_eq_error, raise_if_eq_error, raise_if_eq_ok]
    -- the answer comes from the second look at what is there
    refine Or.inr ⟨req, hreq, Or.inr ⟨(), not_not.2 henv, Or.inr ⟨(), hfew, Or.inl ?_⟩⟩⟩
    exact ⟨hsome, trivial⟩

theorem added_or_refused_iff (hreq : _get_request db req.id tenant_id = .ok req)
    (henv : ∃ e ∈ db.estate.environments, e.id = data.environment_id ∧ e.tenant_id = tenant_id) :
    AddedOrRefused db req data tenant_id ↔ FewChildren db req data tenant_id := by
  have hok := add_environment_ok hreq henv
  constructor
  · rintro ⟨hadded, hrefused⟩
    refine ⟨?_, fun hnone hdates => (hok.1 (hadded hnone hdates)).2.2⟩
    by_cases hnone : live_children_on db req.id data.environment_id = []
    · rw [hnone]
      exact Nat.zero_le 1
    · exact (add_environment_refused hreq henv hnone).1 (hrefused hnone)
  · rintro ⟨hfew, hinitial⟩
    refine ⟨fun hnone hdates => hok.2 ⟨hnone, hdates, hinitial hnone hdates⟩, fun hsome => ?_⟩
    exact (add_environment_refused hreq henv hsome).2 hfew

end

/-! ## Editing the dates -/

/-- No two live bookings of one environment in the request cover the same interval that did
not cover the same interval before. -/
def NoNewTwins (db db' : Db) (request_id : ℕ) : Prop :=
  ∀ b₁ ∈ live_children db' request_id, ∀ b₂ ∈ live_children db' request_id,
    b₁.environment_id = b₂.environment_id → b₁.interval = b₂.interval →
      ∀ a₁ ∈ db.bookings, ∀ a₂ ∈ db.bookings, a₁.id = b₁.id → a₂.id = b₂.id →
        a₁.interval = a₂.interval

/-- Two live bookings of one environment in the request that cover different intervals differ
in a date that is not sent. -/
def KeptApart (db : Db) (request_id : ℕ) (values : BookingRequestUpdate) : Prop :=
  ∀ a₁ ∈ live_children db request_id, ∀ a₂ ∈ live_children db request_id,
    a₁.environment_id = a₂.environment_id → a₁.interval ≠ a₂.interval →
      (values.start_date.mentioned = false ∧ a₁.start_date ≠ a₂.start_date) ∨
        (values.end_date.mentioned = false ∧ a₁.end_date ≠ a₂.end_date)

section

variable {db db' : Db} {user : CurrentUser} {request_id : ℕ} {values : BookingRequestUpdate}

theorem edit_request_ok
    (h : handle ext db (.update_request_standard_fields user request_id values) = .ok db') :
    values.start_date ≠ .null ∧ values.end_date ≠ .null ∧
      db'.bookings = db.bookings.update
        (fun b => b.booking_request_id = request_id ∧ b.deleted_at = none) values.cascade := by
  simp only [handle, update_request_standard_fields, bind_eq_ok, raise_if_eq_ok, not_or] at h
  obtain ⟨req, hget, -, -, -, -, -, -, context_tag, -, -, ⟨-, -, hstart, hend, -⟩, -, -, h⟩ := h
  obtain ⟨-, rfl⟩ := get_request_ok hget
  obtain rfl := Except.ok.inj h
  exact ⟨hstart, hend, rfl⟩

/-- A date that is sent is the same on all; one that is not stays. -/
theorem set_required_eq_iff {α : Type*} {sent : Sent α} (h : sent ≠ .null) {x y : α} :
    sent.set_required x = sent.set_required y ↔ ¬ (sent.mentioned = false ∧ x ≠ y) := by
  cases sent with
  | omitted => simp [Sent.set_required, Sent.get, Sent.mentioned]
  | null => exact absurd rfl h
  | value a => simp [Sent.set_required, Sent.get, Sent.mentioned]

theorem cascade_interval_eq_iff (hstart : values.start_date ≠ .null)
    (hend : values.end_date ≠ .null) {a₁ a₂ : Booking} :
    (values.cascade.apply a₁).interval = (values.cascade.apply a₂).interval ↔
      ¬ ((values.start_date.mentioned = false ∧ a₁.start_date ≠ a₂.start_date) ∨
        (values.end_date.mentioned = false ∧ a₁.end_date ≠ a₂.end_date)) := by
  rw [Interval.ext_iff, not_or, ← set_required_eq_iff hstart, ← set_required_eq_iff hend]
  rfl

theorem mem_live_children {b : Booking} :
    b ∈ live_children db request_id ↔
      b ∈ db.bookings ∧ b.booking_request_id = request_id ∧ b.deleted_at = none := by
  rw [live_children, Table.mem_select, decide_eq_true_eq]

/-- After the edit, the live children are those before it with the new dates. -/
theorem live_children_cascade (hbookings : db'.bookings = db.bookings.update
      (fun b => b.booking_request_id = request_id ∧ b.deleted_at = none) values.cascade)
    {b : Booking} :
    b ∈ live_children db' request_id ↔
      ∃ a ∈ live_children db request_id, b = values.cascade.apply a := by
  rw [mem_live_children, hbookings]
  constructor
  · rintro ⟨hb, hrequest, hlive⟩
    rcases Table.mem_update_cases hb with ⟨a, ha, hp, rfl⟩ | ⟨-, hkept⟩
    · exact ⟨a, mem_live_children.2 ⟨ha, of_decide_eq_true hp⟩, rfl⟩
    · exact absurd ⟨hrequest, hlive⟩ (of_decide_eq_false hkept)
  · rintro ⟨a, ha, rfl⟩
    obtain ⟨ha, hrequest, hlive⟩ := mem_live_children.1 ha
    exact ⟨Table.mem_update_of_pos ha (decide_eq_true ⟨hrequest, hlive⟩), hrequest, hlive⟩

theorem no_new_twins_iff
    (h : handle ext db (.update_request_standard_fields user request_id values) = .ok db') :
    NoNewTwins db db' request_id ↔ KeptApart db request_id values := by
  obtain ⟨hstart, hend, hbookings⟩ := edit_request_ok h
  constructor
  · intro hno a₁ ha₁ a₂ ha₂ henv hne
    refine not_not.1 fun hagree => hne ?_
    exact hno _ ((live_children_cascade hbookings).2 ⟨a₁, ha₁, rfl⟩) _
      ((live_children_cascade hbookings).2 ⟨a₂, ha₂, rfl⟩) henv
      ((cascade_interval_eq_iff hstart hend).2 hagree) a₁ (mem_live_children.1 ha₁).1 a₂
      (mem_live_children.1 ha₂).1 rfl rfl
  · intro hapart b₁ hb₁ b₂ hb₂ henv heq a₁ ha₁ a₂ ha₂ hid₁ hid₂
    obtain ⟨c₁, hc₁, rfl⟩ := (live_children_cascade hbookings).1 hb₁
    obtain ⟨c₂, hc₂, rfl⟩ := (live_children_cascade hbookings).1 hb₂
    obtain rfl := Table.eq_of_key_eq ha₁ (mem_live_children.1 hc₁).1 hid₁
    obtain rfl := Table.eq_of_key_eq ha₂ (mem_live_children.1 hc₂).1 hid₂
    by_contra hne
    exact (cascade_interval_eq_iff hstart hend).1 heq (hapart a₁ hc₁ a₂ hc₂ henv hne)

end

/-! ## Every run -/

/-- An addition is answered as it should be, and a date edit makes no twins. -/
def Coexists (ext : External) (db : Db) : Event → Prop
  | .add_environment user request_id data =>
    ∀ req, _get_request db request_id user.active_tenant_id = .ok req →
      (∃ e ∈ db.estate.environments,
        e.id = data.environment_id ∧ e.tenant_id = user.active_tenant_id) →
      AddedOrRefused db req data user.active_tenant_id
  | .update_request_standard_fields user request_id values =>
    NoNewTwins db (step ext db (.update_request_standard_fields user request_id values)) request_id
  | _ => True

/-- What that takes. -/
def FewOrApart (ext : External) (db : Db) : Event → Prop
  | .add_environment user request_id data =>
    ∀ req, _get_request db request_id user.active_tenant_id = .ok req →
      (∃ e ∈ db.estate.environments,
        e.id = data.environment_id ∧ e.tenant_id = user.active_tenant_id) →
      FewChildren db req data user.active_tenant_id
  | .update_request_standard_fields user request_id values =>
    Succeeds ext db (.update_request_standard_fields user request_id values) →
      KeptApart db request_id values
  | _ => True

/-- Where nothing is written there are no new twins. -/
theorem no_new_twins_self (db : Db) (request_id : ℕ) : NoNewTwins db db request_id := by
  intro b₁ hb₁ b₂ hb₂ _ heq a₁ ha₁ a₂ ha₂ hid₁ hid₂
  obtain rfl := Table.eq_of_key_eq ha₁ (mem_live_children.1 hb₁).1 hid₁
  obtain rfl := Table.eq_of_key_eq ha₂ (mem_live_children.1 hb₂).1 hid₂
  exact heq

theorem coexists_iff (db : Db) (e : Event) : Coexists ext db e ↔ FewOrApart ext db e := by
  cases e with
  | add_environment user request_id data =>
    refine forall_congr' fun req => imp_congr_right fun hreq => imp_congr_right fun henv => ?_
    obtain rfl := (get_request_ok hreq).2
    exact added_or_refused_iff hreq henv
  | update_request_standard_fields user request_id values =>
    simp only [Coexists, FewOrApart]
    cases h : handle ext db (.update_request_standard_fields user request_id values) with
    | error r =>
      rw [step, h, rollback_error]
      refine iff_of_true (no_new_twins_self db request_id) ?_
      rintro ⟨db', hok⟩
      rw [h] at hok
      cases hok
    | ok db' =>
      rw [step_of_ok h, no_new_twins_iff h]
      exact ⟨fun hapart _ => hapart, fun hapart => hapart ⟨db', h⟩⟩
  | _ => exact Iff.rfl

/-- **Requests and series coexist, at every state a run reaches, exactly as long as no
environment that is added has several live bookings in the request, the request's type still
has a state to start in, and no two bookings of one environment differ only in dates that an
edit sends.** -/
theorem series_coexist_iff (ext : External) (environments : Table Environment Environment.id)
    (reference : Reference) (es : List Event) (e : Event) :
    Coexists ext (Runs.run (step ext) (Db.fresh environments reference) es) e ↔
      FewOrApart ext (Runs.run (step ext) (Db.fresh environments reference) es) e :=
  coexists_iff _ e

namespace Sample

/-- New dates for the whole request. -/
def redated (start_date end_date : DateTime) : BookingRequestUpdate where
  project_name := .omitted
  project_id := .omitted
  booking_type_id := .omitted
  start_date := .value start_date
  end_date := .value end_date
  notes := .omitted
  context_tag := .omitted
  exclusive_use_requested := .omitted
  delegate_user_ids := .omitted
  protection_level := .omitted

/-- A booking that repeats a week later. -/
def repeated : Event :=
  .create_booking admin (booking 1 1 0 (timedelta.days 1) false (some weekly)) 0

end Sample

/-- **The environment of a series cannot be added and is not refused either, and new dates
for the request put both occurrences in one place.** -/
theorem series_under_one_request :
    let db := Runs.run (step Sample.ext) (Db.fresh Sample.environments Sample.reference)
      [Sample.repeated]
    (handle Sample.ext db (.add_environment Sample.admin 1 ⟨1, none, none⟩)).map (fun _ => ())
        = .error .MultipleResultsFound ∧
      ¬ NoNewTwins db (step Sample.ext db (.update_request_standard_fields Sample.admin 1
        (Sample.redated 0 (timedelta.days 2)))) 1 := by
  refine ⟨by decide +kernel, fun hno => ?_⟩
  revert hno
  unfold NoNewTwins
  decide +kernel

end EnvMgr.Bookings

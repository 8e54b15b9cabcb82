/-
The escalation record: the second half of `contention_service.py`, with
`upsert.py`.

An escalation asks a named person to decide a contention by a date. There is one
for each unordered pair of bookings: asking again, from either side, returns the
record that is there. `uq_contention_pair` is what makes a second row impossible,
and `insert_or_reread` is what the constraint's refusal turns into.
-/
import EnvMgr.Auth.Session
import EnvMgr.Bookings.Contention

namespace EnvMgr.Contention

open EnvMgr.Bookings (Booking conflicts_with TERMINAL_STATES Active Conflict conflicts_with_iff)

/-! ## Rows and calls -/

structure ContentionEscalation where
  id : ℕ
  tenant_id : ℕ
  booking_id : ℕ
  other_booking_id : ℕ
  escalated_by : ℕ
  owner_user_id : ℕ
  respond_by : DateTime
  decision_yields_booking_id : Option ℕ
  decision_notes : Option String
  decided_by : Option ℕ
  decided_at : Option DateTime
  deleted_at : Option DateTime
  deriving DecidableEq

def ContentionEscalation.pair (r : ContentionEscalation) : ℕ × ℕ :=
  (r.booking_id, r.other_booking_id)

abbrev BookingRows := Table Booking Booking.id

abbrev EscalationRows := Table ContentionEscalation ContentionEscalation.id

structure Db where
  users : List Auth.User
  bookings : BookingRows
  escalations : EscalationRows

/-- The arguments of `create_escalation`. -/
structure Call where
  booking_id : ℕ
  other_booking_id : ℕ
  owner_user_id : ℕ
  respond_by : DateTime
  current_user : CurrentUser
  tenant_id : ℕ
  deriving DecidableEq

/-! ## The service -/

def normalise_pair (a b : ℕ) : ℕ × ℕ := if a < b then (a, b) else (b, a)

def Call.pair (call : Call) : ℕ × ℕ := normalise_pair call.booking_id call.other_booking_id

def get_escalation (escalations : EscalationRows) (booking_id other_booking_id tenant_id : ℕ) :
    Option ContentionEscalation :=
  let pair := normalise_pair booking_id other_booking_id
  escalations.select_one fun r =>
    r.booking_id = pair.1 ∧ r.other_booking_id = pair.2 ∧ r.tenant_id = tenant_id ∧
      r.deleted_at = none

/-- Two ids, as every caller passes them. -/
def _assert_bookings_visible (bookings : BookingRows) (booking_ids : ℕ × ℕ) (tenant_id : ℕ) :
    Except Raised Unit :=
  let found := (bookings.select fun b =>
    (b.id = booking_ids.1 ∨ b.id = booking_ids.2) ∧ b.tenant_id = tenant_id ∧
      b.deleted_at = none).map Booking.id
  raise_if (¬ (booking_ids.1 ∈ found ∧ booking_ids.2 ∈ found)) (http 404 "Booking not found")

def _pair_conflict_exists (bookings : BookingRows) (higher tenant_id : ℕ) (b : Booking) : Prop :=
  ∃ other ∈ bookings,
    conflicts_with other b.id b.environment_id b.start_date b.end_date tenant_id ∧
      other.id = higher
  deriving Decidable

/-- The second statement of `_assert_in_conflict`. The subject's `deleted_at` is
left to the first. -/
def find_conflict (bookings : BookingRows) (lower higher tenant_id : ℕ) : Except Raised Unit :=
  let found := bookings.select_one fun b =>
    b.id = lower ∧ b.tenant_id = tenant_id ∧ b.status ∉ TERMINAL_STATES ∧
      _pair_conflict_exists bookings higher tenant_id b
  raise_if (found = none)
    (http 400 "These two bookings are not in conflict, so there is nothing to escalate")

def _assert_in_conflict (bookings : BookingRows) (lower higher tenant_id : ℕ) :
    Except Raised Unit := do
  _assert_bookings_visible bookings (lower, higher) tenant_id
  find_conflict bookings lower higher tenant_id

def find_owner (users : List Auth.User) (owner_user_id tenant_id : ℕ) : Except Raised Unit :=
  raise_if (users.find? (fun u => u.id = owner_user_id ∧ u.tenant_id = tenant_id) = none)
    (http 404 "Owner not found")

/-- The row that a call inserts. -/
def Call.row (call : Call) : Table.New ContentionEscalation.id where
  row id :=
    { id := id
      tenant_id := call.tenant_id
      booking_id := call.pair.1
      other_booking_id := call.pair.2
      escalated_by := call.current_user.id
      owner_user_id := call.owner_user_id
      respond_by := call.respond_by
      decision_yields_booking_id := none
      decision_notes := none
      decided_by := none
      decided_at := none
      deleted_at := none }
  key_row _ := rfl

/-- `uq_contention_pair` refuses the row: the constraint has no tenant in it. -/
def pair_taken (escalations : EscalationRows) (pair : ℕ × ℕ) : Prop :=
  ∃ r ∈ escalations, r.pair = pair
  deriving Decidable

/-- The row that stands, and whether it is the one given. -/
def insert_or_reread (escalations : EscalationRows) (call : Call)
    (reread : Option ContentionEscalation) :
    Except Raised (EscalationRows × ContentionEscalation × Bool) :=
  if pair_taken escalations call.pair then
    -- rolling the savepoint back leaves the table as it was
    (get_or_raise reread .IntegrityError).map fun existing => (escalations, existing, false)
  else .ok (escalations.insert call.row, call.row.row escalations.next, true)

/-- With what `insert_or_reread` says of the row. -/
def create_escalation (db : Db) (call : Call) :
    Except Raised (EscalationRows × ContentionEscalation × Bool) :=
  let lower := call.pair.1
  let higher := call.pair.2
  match get_escalation db.escalations lower higher call.tenant_id with
  | some existing => .ok (db.escalations, existing, false)
  | none => do
    _assert_in_conflict db.bookings lower higher call.tenant_id
    find_owner db.users call.owner_user_id call.tenant_id
    insert_or_reread db.escalations call
      (get_escalation db.escalations lower higher call.tenant_id)

/-- What `record_decision` is given. -/
structure Decision where
  yields_booking_id : ℕ
  notes : Option String
  current_user : CurrentUser
  tenant_id : ℕ
  deriving DecidableEq

/-- The four columns `record_decision` assigns. -/
def Decision.assign (decision : Decision) (now : DateTime) :
    Table.Edit ContentionEscalation.id where
  apply r :=
    { r with
      decision_yields_booking_id := some decision.yields_booking_id
      decision_notes := decision.notes
      decided_by := some decision.current_user.id
      decided_at := some now }
  key_apply _ := rfl

def get_escalation_by_id (escalations : EscalationRows) (escalation_id tenant_id : ℕ) :
    Except Raised ContentionEscalation :=
  get_or_raise
    (escalations.select_one fun r =>
      r.id = escalation_id ∧ r.tenant_id = tenant_id ∧ r.deleted_at = none)
    (http 404 "Escalation not found")

def record_decision (escalations : EscalationRows) (escalation_id : ℕ) (decision : Decision)
    (now : DateTime) : Except Raised EscalationRows := do
  let escalation ← get_escalation_by_id escalations escalation_id decision.tenant_id
  raise_if (decision.yields_booking_id ≠ escalation.booking_id ∧
      decision.yields_booking_id ≠ escalation.other_booking_id)
    (http 400 "The yielding booking must be one of the two in contention")
  pure (escalations.update (fun r => r.id = escalation.id) (decision.assign now))

/-! ## From either side -/

theorem normalise_pair_swap (a b : ℕ) : normalise_pair a b = normalise_pair b a := by
  unfold normalise_pair
  rcases Nat.lt_trichotomy a b with hlt | rfl | hgt
  · rw [if_pos hlt, if_neg hlt.not_gt]
  · rfl
  · rw [if_neg hgt.not_gt, if_pos hgt]

theorem normalise_pair_le (a b : ℕ) : (normalise_pair a b).1 ≤ (normalise_pair a b).2 := by
  unfold normalise_pair
  split <;> omega

theorem normalise_pair_of_le {a b : ℕ} (h : a ≤ b) : normalise_pair a b = (a, b) := by
  unfold normalise_pair
  rcases h.lt_or_eq with hlt | rfl
  · rw [if_pos hlt]
  · rw [if_neg (lt_irrefl _)]

/-- The pair as `get_escalation` is given it is normalised already. -/
@[simp] theorem Call.normalise_pair_pair (call : Call) :
    normalise_pair call.pair.1 call.pair.2 = call.pair :=
  normalise_pair_of_le (normalise_pair_le _ _)

/-- Both ids name bookings that the tenant can see. -/
def Visible (bookings : BookingRows) (tenant_id id : ℕ) : Prop :=
  ∃ b ∈ bookings, b.id = id ∧ b.tenant_id = tenant_id ∧ b.deleted_at = none

theorem assert_bookings_visible_ok {bookings : BookingRows} {ids : ℕ × ℕ} {tenant_id : ℕ} :
    _assert_bookings_visible bookings ids tenant_id = .ok () ↔
      Visible bookings tenant_id ids.1 ∧ Visible bookings tenant_id ids.2 := by
  rw [_assert_bookings_visible, raise_if_eq_ok, not_not]
  have hfound : ∀ id, (id = ids.1 ∨ id = ids.2) →
      (id ∈ (bookings.select fun b => (b.id = ids.1 ∨ b.id = ids.2) ∧ b.tenant_id = tenant_id ∧
        b.deleted_at = none).map Booking.id ↔ Visible bookings tenant_id id) := by
    intro id hid
    simp only [List.mem_map, Table.mem_select, decide_eq_true_eq, Visible]
    constructor
    · rintro ⟨b, ⟨hb, -, hrest⟩, rfl⟩
      exact ⟨b, hb, rfl, hrest⟩
    · rintro ⟨b, hb, rfl, hrest⟩
      exact ⟨b, ⟨hb, hid, hrest⟩, rfl⟩
  exact and_congr (hfound _ (Or.inl rfl)) (hfound _ (Or.inr rfl))

/-- Two bookings with these ids conflict. -/
def InConflict (bookings : BookingRows) (tenant_id id other_id : ℕ) : Prop :=
  ∃ a ∈ bookings, ∃ b ∈ bookings, a.id = id ∧ b.id = other_id ∧ Conflict tenant_id a b

theorem InConflict.symm {bookings : BookingRows} {tenant_id id other_id : ℕ}
    (h : InConflict bookings tenant_id id other_id) :
    InConflict bookings tenant_id other_id id := by
  obtain ⟨a, ha, b, hb, hida, hidb, hconflict⟩ := h
  exact ⟨b, hb, a, ha, hidb, hida, hconflict.symm⟩

theorem find_conflict_ok {bookings : BookingRows} {lower higher tenant_id : ℕ}
    (hvisible : Visible bookings tenant_id lower) :
    find_conflict bookings lower higher tenant_id = .ok () ↔
      InConflict bookings tenant_id lower higher := by
  rw [find_conflict, raise_if_eq_ok]
  obtain ⟨a, ha, rfl, htenant, hlive⟩ := hvisible
  constructor
  · intro hfound
    obtain ⟨a', hsome⟩ := Option.ne_none_iff_exists'.1 hfound
    obtain ⟨ha', hcond⟩ := Table.select_one_some hsome
    obtain ⟨hid, -, hstatus, b, hb, hconflicts, rfl⟩ := of_decide_eq_true hcond
    -- the row found is the visible one, which is where its `deleted_at` comes from
    obtain rfl : a' = a := Table.eq_of_key_eq ha' ha hid
    have hactive : Active tenant_id a' := ⟨htenant, hlive, hstatus⟩
    exact ⟨a', ha, b, hb, rfl, rfl, (conflicts_with_iff hactive).1 hconflicts⟩
  · rintro ⟨a', ha', b, hb, hid, rfl, hconflict⟩ hnone
    obtain rfl : a' = a := Table.eq_of_key_eq ha' ha hid
    have hmiss := Table.select_one_none hnone ha
    refine of_decide_eq_false hmiss ⟨rfl, htenant, hconflict.1.2.2, b, hb, ?_, rfl⟩
    exact (conflicts_with_iff hconflict.1).2 hconflict

theorem assert_bookings_visible_swap (bookings : BookingRows) (a b tenant_id : ℕ) :
    _assert_bookings_visible bookings (a, b) tenant_id =
      _assert_bookings_visible bookings (b, a) tenant_id := by
  have hok := fun ids : ℕ × ℕ => @assert_bookings_visible_ok bookings ids tenant_id
  exact raise_if_ext ((hok (a, b)).trans (and_comm.trans (hok (b, a)).symm))

/-- **What the conflict check asks is symmetric**, though it asks it of one
booking about the other and filters the two apart. -/
theorem assert_in_conflict_swap (bookings : BookingRows) (a b tenant_id : ℕ) :
    _assert_in_conflict bookings a b tenant_id = _assert_in_conflict bookings b a tenant_id := by
  rw [_assert_in_conflict, _assert_in_conflict, assert_bookings_visible_swap bookings b a]
  cases hvisible : _assert_bookings_visible bookings (a, b) tenant_id with
  | error e => rfl
  | ok u =>
    obtain ⟨ha, hb⟩ := assert_bookings_visible_ok.1 hvisible
    refine raise_if_ext ?_
    refine (find_conflict_ok ha).trans (Iff.trans ?_ (find_conflict_ok hb).symm)
    exact ⟨InConflict.symm, InConflict.symm⟩

end EnvMgr.Contention

/-
Who conflicts with whom: `conflict_service.py`, the pairing query of
`contention_forecast_service.py`, and the preview of
`booking_request_service.py`, which is written out a second time there.
-/
import EnvMgr.Bookings.Model
import Mathlib.Data.List.ProdSigma

namespace EnvMgr.Bookings

/-- What it means for `other` to conflict with a subject booking. -/
def conflicts_with (other : Booking) (subject_id environment_id : ℕ)
    (start_date end_date : DateTime) (tenant_id : ℕ) : Prop :=
  other.tenant_id = tenant_id ∧
  other.id ≠ subject_id ∧
  other.environment_id = environment_id ∧
  other.deleted_at = none ∧
  other.status ∉ TERMINAL_STATES ∧
  -- half-open: [start, end)
  other.start_date < end_date ∧
  start_date < other.end_date
  deriving Decidable

def list_conflicts (db : Db) (booking_id tenant_id : ℕ) : List Booking :=
  match db.bookings.select_one fun b => b.id = booking_id ∧ b.tenant_id = tenant_id with
  | none => []
  | some me =>
    if me.status ∈ TERMINAL_STATES then []
    else
      order_by (fun b => toLex (b.start_date, b.id))
        (db.bookings.select fun other =>
          conflicts_with other me.id me.environment_id me.start_date me.end_date tenant_id)

/-- The join of `b1` to its conflicting `b2`, and the filters on `b1`: the
conditions that `conflicts_with` leaves to the subject. -/
def is_pair (tenant_id : ℕ) (b1 b2 : Booking) : Prop :=
  conflicts_with b2 b1.id b1.environment_id b1.start_date b1.end_date tenant_id ∧
  b1.tenant_id = tenant_id ∧
  b1.deleted_at = none ∧
  b1.status ∉ TERMINAL_STATES ∧
  b1.id < b2.id
  deriving Decidable

/-- Max and min of the bounds against the window, without computing either. -/
def in_window (window : Interval DateTime) (b1 b2 : Booking) : Prop :=
  b1.start_date < window.stop ∧ b2.start_date < window.stop ∧
  window.start < b1.end_date ∧ window.start < b2.end_date
  deriving Decidable

/-- Every live overlapping pair of the tenant, normalised `(lower, higher)`. Only
one side need be in `booking_ids`. -/
def overlapping_pairs (db : Db) (tenant_id : ℕ) (booking_ids : Option (List ℕ))
    (window : Option (Interval DateTime)) : List (ℕ × ℕ) :=
  order_by (fun pair => toLex pair)
    (((db.bookings.rows ×ˢ db.bookings.rows).filter fun b =>
      is_pair tenant_id b.1 b.2 ∧
      (∀ ids ∈ booking_ids, b.1.id ∈ ids ∨ b.2.id ∈ ids) ∧
      (∀ w ∈ window, in_window w b.1 b.2)).map fun b => (b.1.id, b.2.id))

/-- The existing bookings that a request for `env_id` would overlap. -/
def preview_rows (db : Db) (env_id : ℕ) (start_date end_date : DateTime) (tenant_id : ℕ) :
    List Booking :=
  order_by Booking.start_date
    (db.bookings.select fun b =>
      b.tenant_id = tenant_id ∧ b.environment_id = env_id ∧ b.deleted_at = none ∧
        b.status ∉ TERMINAL_STATES ∧ b.start_date < end_date ∧ start_date < b.end_date)

/-- The dictionary of the environments that have any. An environment named twice
is looked up twice, to the same rows. -/
def preview_conflicts (db : Db) (environment_ids : List ℕ) (start_date end_date : DateTime)
    (tenant_id : ℕ) : List (ℕ × List Booking) :=
  environment_ids.filterMap fun env_id =>
    let rows := preview_rows db env_id start_date end_date tenant_id
    if rows = [] then none else some (env_id, rows)

/-- `results.get(key, [])`. -/
def rows_of (results : List (ℕ × List Booking)) (key : ℕ) : List Booking :=
  ((results.find? fun r => r.1 = key).map Prod.snd).getD []

end EnvMgr.Bookings

/-
How much of its operating time an environment is booked: `environment_utilization_service.py`.

The operating hours are wall-clock times in the environment's own timezone, one segment for
each date of the window; the booked time is what the active bookings, merged, have in common
with the segments. Seconds are floats, so every addition rounds.
-/
import EnvMgr.Lib.Binary64
import EnvMgr.Outages.Model
import Mathlib.Algebra.Order.Field.Rat

namespace EnvMgr.Utilization

open Bookings (Booking)
open Outages (INACTIVE_BOOKING_STATUSES)

/-! ## Operating hours -/

/-- A wall-clock time, `HH:MM`. -/
structure HHMM where
  hour : Fin 24
  minute : Fin 60
  deriving DecidableEq

def HHMM.minutes (t : HHMM) : ℕ := t.hour * 60 + t.minute

/-- A day of the week. Hours over midnight are refused. -/
inductive OperatingHoursDay
  | closed
  | hours (open_ close : HHMM) (open_before_close : open_.minutes < close.minutes)

structure EnvironmentOperatingHours where
  id : ℕ
  tenant_id : ℕ
  environment_id : ℕ
  timezone : String
  /-- Monday is 0. -/
  week : Fin 7 → OperatingHoursDay
  deleted_at : Option DateTime

/-- What is asked of a timezone: the date that an instant falls on there, as days since
1970-01-01, and the instant of a date and a wall-clock time. -/
structure ZoneInfo where
  date : DateTime → ℤ
  instant : ℤ → HHMM → DateTime

structure Db where
  environments : Table Environment Environment.id
  operating_hours : Table EnvironmentOperatingHours EnvironmentOperatingHours.id
  bookings : Table Booking Booking.id

/-- `environment_operating_hours_service.get_config`. -/
def get_config (db : Db) (tenant_id environment_id : ℕ) : Option EnvironmentOperatingHours :=
  db.operating_hours.select_one fun h =>
    h.environment_id = environment_id ∧ h.tenant_id = tenant_id ∧ h.deleted_at = none

/-! ## Intervals -/

/-- `d.total_seconds()`. -/
def total_seconds (d : TimeDelta) : ℚ := Binary64.round (d / 1000000)

/-- `sorted(intervals)`, merged. -/
def _merge_intervals (intervals : List (Interval DateTime)) : List (Interval DateTime) :=
  Interval.merge (order_by (fun i => toLex (i.start, i.stop)) intervals)

/-- The seconds of `seg` that the merged intervals cover. -/
def _intersect (seg : Interval DateTime) (intervals : List (Interval DateTime)) : ℚ :=
  intervals.foldl (fun total i =>
    let lo := max seg.start i.start
    let hi := min seg.stop i.stop
    if lo < hi then Binary64.round (total + total_seconds (hi - lo)) else total) 0

/-! ## Segments -/

/-- `d.weekday()`; 1970-01-01 was a Thursday. -/
def weekday (d : ℤ) : Fin 7 := Fin.ofNat 7 ((d + 3) % 7).toNat

/-- The segment of one date, if the environment operates on it inside the window. -/
def day_segment (tz : ZoneInfo) (week : Fin 7 → OperatingHoursDay) (date_from date_to : DateTime)
    (d : ℤ) : Option (Interval DateTime) :=
  match week (weekday d) with
  | .closed => none
  | .hours open_ close _ =>
    let su := max (tz.instant d open_) date_from
    let eu := min (tz.instant d close) date_to
    if su < eu then some ⟨su, eu⟩ else none

/-- One date of the loop. -/
def add_day (tz : ZoneInfo) (week : Fin 7 → OperatingHoursDay) (date_from date_to : DateTime)
    (acc : List (Interval DateTime) × ℚ) (d : ℤ) : List (Interval DateTime) × ℚ :=
  match day_segment tz week date_from date_to d with
  | none => acc
  | some seg =>
    (acc.1 ++ [seg], Binary64.round (acc.2 + total_seconds (seg.stop - seg.start)))

/-- The dates of the window in the timezone. -/
def window_dates (tz : ZoneInfo) (date_from date_to : DateTime) : List ℤ :=
  let first := tz.date date_from
  (List.range (tz.date date_to - first + 1).toNat).map fun n => first + n

/-- The segments, clipped to the window, and their seconds. -/
def _operating_segments (tz : ZoneInfo) (week : Fin 7 → OperatingHoursDay)
    (date_from date_to : DateTime) : List (Interval DateTime) × ℚ :=
  (window_dates tz date_from date_to).foldl (add_day tz week date_from date_to) ([], 0)

/-! ## Utilization -/

structure EnvironmentUtilization where
  environment_id : ℕ
  environment_name : String
  configured : Bool
  timezone : Option String
  total_operating_seconds : ℚ
  booked_operating_seconds : ℚ
  utilization_ratio : ℚ
  deriving DecidableEq

/-- The bookings that hold the environment, whenever they do. -/
def is_active (tenant_id environment_id : ℕ) (b : Booking) : Prop :=
  b.tenant_id = tenant_id ∧ b.environment_id = environment_id ∧ b.deleted_at = none ∧
    b.status ∉ INACTIVE_BOOKING_STATUSES
  deriving Decidable

/-- The rows of the query. -/
def booked_rows (db : Db) (tenant_id environment_id : ℕ) (date_from date_to : DateTime) :
    List (Interval DateTime) :=
  (db.bookings.select fun b =>
    is_active tenant_id environment_id b ∧ b.start_date < date_to ∧
      date_from < b.end_date).map Booking.interval

/-- `sum(_intersect(seg, intervals) for seg in segments)`: of floats, `sum` keeps what its
additions lose. -/
def booked_seconds (segments intervals : List (Interval DateTime)) : ℚ :=
  Binary64.sum (segments.map fun seg => _intersect seg intervals)

def environment_utilization (zone_info : String → ZoneInfo) (db : Db)
    (tenant_id environment_id : ℕ) (date_from date_to : DateTime) :
    Except Raised EnvironmentUtilization := do
  let env ← get_or_raise
    (db.environments.select_one fun e =>
      e.id = environment_id ∧ e.tenant_id = tenant_id ∧ e.deleted_at = none)
    (http 404 "Environment not found")
  match get_config db tenant_id environment_id with
  | none => .ok ⟨environment_id, env.name, false, none, 0, 0, 0⟩
  | some config =>
    let (segments, total) :=
      _operating_segments (zone_info config.timezone) config.week date_from date_to
    let intervals := _merge_intervals (booked_rows db tenant_id environment_id date_from date_to)
    let booked := booked_seconds segments intervals
    let util_ratio := if total = 0 then 0 else Binary64.round (booked / total)
    .ok ⟨environment_id, env.name, true, some config.timezone, total, booked, util_ratio⟩

end EnvMgr.Utilization

/-
Usage agreements: `agreement_gap_service.py`, and `list_bookings`, which filters by it.

Whether a booking is covered is decided in SQL, by an EXISTS over the agreements that are
live, and so is which bookings a list with the filter shows. The message is put together in
Python, over the rows that the clause has selected, and names the agreed window that misses
the booking by least.
-/
import EnvMgr.Lib.Least
import EnvMgr.Outages.Model

namespace EnvMgr.Agreements

open Bookings (Booking BookingRequest ProtectionLevel)
open Outages (INACTIVE_BOOKING_STATUSES)

/-! ## Tables -/

structure Project where
  id : ℕ
  tenant_id : ℕ
  name : String
  deleted_at : Option DateTime
  deriving DecidableEq

/-- A bound that is not there is no bound. -/
structure UsageAgreement where
  id : ℕ
  tenant_id : ℕ
  project_id : ℕ
  environment_id : ℕ
  starts_at : Option DateTime
  ends_at : Option DateTime
  deleted_at : Option DateTime
  deriving DecidableEq

structure Db where
  bookings : Table Booking Booking.id
  requests : Table BookingRequest BookingRequest.id
  projects : Table Project Project.id
  environments : Table Environment Environment.id
  agreements : Table UsageAgreement UsageAgreement.id
  /-- `booking_request_id` is a foreign key and not nullable. -/
  requested : ∀ b ∈ bookings, ∃ r ∈ requests, r.id = b.booking_request_id

/-! ## The clauses -/

/-- The joins and filters that the two clauses share: the project and the environment are
live as well. -/
def is_live (db : Db) (tenant_id : ℕ) (a : UsageAgreement) : Prop :=
  (∃ p ∈ db.projects, p.id = a.project_id ∧ p.tenant_id = tenant_id ∧ p.deleted_at = none) ∧
    (∃ e ∈ db.environments, e.id = a.environment_id ∧ e.tenant_id = tenant_id ∧
      e.deleted_at = none) ∧
    a.tenant_id = tenant_id ∧ a.deleted_at = none
  deriving Decidable

/-- The agreement starts no later than the booking and ends no earlier. -/
def window_covers (a : UsageAgreement) (b : Booking) : Prop :=
  (∀ starts_at ∈ a.starts_at, starts_at ≤ b.start_date) ∧
    (∀ ends_at ∈ a.ends_at, b.end_date ≤ ends_at)
  deriving Decidable

def covered_exists_clause (db : Db) (tenant_id : ℕ) (b : Booking) (r : BookingRequest) : Prop :=
  ∃ a ∈ db.agreements, is_live db tenant_id a ∧ r.project_id = some a.project_id ∧
    a.environment_id = b.environment_id ∧ window_covers a b
  deriving Decidable

/-- The request names a project and no live agreement covers the booking. -/
def gap_clause (db : Db) (tenant_id : ℕ) (b : Booking) (r : BookingRequest) : Prop :=
  r.project_id ≠ none ∧ ¬ covered_exists_clause db tenant_id b r
  deriving Decidable

def _live_agreements_clause (db : Db) (tenant_id : ℕ) : List UsageAgreement :=
  db.agreements.select fun a => is_live db tenant_id a

/-! ## The message -/

/-- `value:%b`. -/
def month_abbr (month : ℤ) : String :=
  ["Jan", "Feb", "Mar", "Apr", "May", "Jun", "Jul", "Aug", "Sep", "Oct", "Nov", "Dec"].getD
    (month - 1).toNat ""

def _format_date (value : DateTime) : String :=
  let (year, month, day) := civil_from_days (value / timedelta.days 1)
  toString day ++ " " ++ month_abbr month ++ " " ++ toString year

example : _format_date 1788264000000001 = "1 Sep 2026" := by decide

def _format_window (starts_at ends_at : Option DateTime) : Option String :=
  match starts_at, ends_at with
  | some starts_at, some ends_at =>
    some (_format_date starts_at ++ " – " ++ _format_date ends_at)
  | some starts_at, none => some ("from " ++ _format_date starts_at)
  | none, some ends_at => some ("until " ++ _format_date ends_at)
  | none, none => none

/-- By how much the window misses the booking. -/
def _distance (starts_at ends_at : Option DateTime) (start end_ : DateTime) : TimeDelta :=
  let early := match starts_at with
    | none => 0
    | some starts_at => if start < starts_at then starts_at - start else 0
  let late := match ends_at with
    | none => 0
    | some ends_at => if ends_at < end_ then end_ - ends_at else 0
  early + late

structure _Window where
  agreement_id : ℕ
  starts_at : Option DateTime
  ends_at : Option DateTime
  deriving DecidableEq

def UsageAgreement.window (a : UsageAgreement) : _Window := ⟨a.id, a.starts_at, a.ends_at⟩

/-- Every live window of the pairs of a project and an environment. A pair without a project
is passed over. -/
def _windows_for_pairs (db : Db) (pairs : List (Option ℕ × ℕ)) (tenant_id : ℕ) :
    Index (ℕ × ℕ) (List _Window) :=
  let usable := pairs.filterMap fun pair => pair.1.map fun project_id => (project_id, pair.2)
  let rows := (_live_agreements_clause db tenant_id).filter fun a =>
    (a.project_id, a.environment_id) ∈ usable
  Index.group (fun a => (a.project_id, a.environment_id)) UsageAgreement.window rows

/-- What the nearest window is picked by. -/
def nearness (b : Booking) (w : _Window) : TimeDelta ×ₗ ℕ :=
  toLex (_distance w.starts_at w.ends_at b.start_date b.end_date, w.agreement_id)

/-- `row.name or default`. -/
def name_or (name : Option String) (default : String) : String :=
  match name with
  | none => default
  | some name => if name = "" then default else name

/-- The name of the request's project, archived or not. -/
def project_name (db : Db) (tenant_id : ℕ) (r : BookingRequest) : String :=
  name_or ((db.projects.select_one fun p =>
    some p.id = r.project_id ∧ p.tenant_id = tenant_id).map Project.name) "This project"

def environment_name (db : Db) (tenant_id : ℕ) (b : Booking) : String :=
  name_or ((db.environments.select_one fun e =>
    e.id = b.environment_id ∧ e.tenant_id = tenant_id).map Environment.name) "this environment"

/-- What is said of a booking that no window of its pair covers, `nearest` being the nearest
of them, if there are any. -/
def gap_message (project_name environment_name : String) (nearest : Option _Window) : String :=
  match nearest with
  | none => project_name ++ " has no usage agreement for " ++ environment_name
  | some nearest =>
    let message := project_name ++ "'s booking falls outside its agreed window for "
      ++ environment_name
    match _format_window nearest.starts_at nearest.ends_at with
    | none => message
    | some window => message ++ " (" ++ window ++ ")"

/-- The rows of the query: the bookings asked about that are in gap, with their requests. -/
def gap_rows (db : Db) (booking_ids : List ℕ) (tenant_id : ℕ) :
    List (Booking × BookingRequest) :=
  (db.bookings.rows ×ˢ db.requests.rows).filter fun row =>
    row.2.id = row.1.booking_request_id ∧ row.1.id ∈ booking_ids ∧
      row.1.tenant_id = tenant_id ∧ gap_clause db tenant_id row.1 row.2

/-- The windows that one row chooses from. -/
def candidates (windows : Index (ℕ × ℕ) (List _Window)) (row : Booking × BookingRequest) :
    List _Window :=
  match row.2.project_id with
  | none => []
  | some project_id => (windows.get (project_id, row.1.environment_id)).getD []

def gap_pair (row : Booking × BookingRequest) : Option ℕ × ℕ :=
  (row.2.project_id, row.1.environment_id)

def row_message (db : Db) (tenant_id : ℕ) (windows : Index (ℕ × ℕ) (List _Window))
    (row : Booking × BookingRequest) : String :=
  gap_message (project_name db tenant_id row.2) (environment_name db tenant_id row.1)
    (least (nearness row.1) (candidates windows row))

def gaps_for_bookings (db : Db) (booking_ids : List ℕ) (tenant_id : ℕ) : Index ℕ String :=
  let rows := gap_rows db booking_ids tenant_id
  let windows := _windows_for_pairs db (rows.map gap_pair) tenant_id
  Index.fill (fun row => row.1.id) (row_message db tenant_id windows) rows

/-! ## The list -/

/-- The filters of `list_bookings`. -/
structure BookingFilters where
  environment_id : Option ℕ
  start : Option DateTime
  end_ : Option DateTime
  booking_status : Option String
  project_id : Option ℕ
  agreement_gap : Option Bool
  protection : Option ProtectionLevel
  active : Option Bool

/-- The filters on the booking's own columns. -/
def BookingFilters.own (filters : BookingFilters) (b : Booking) : Prop :=
  (∀ environment_id ∈ filters.environment_id, b.environment_id = environment_id) ∧
    (∀ start ∈ filters.start, ∀ end_ ∈ filters.end_, b.start_date ≤ end_ ∧ start ≤ b.end_date) ∧
    (∀ status ∈ filters.booking_status, b.status = status) ∧
    ∀ active ∈ filters.active, decide (b.status ∉ INACTIVE_BOOKING_STATUSES) = active
  deriving Decidable

/-- The filters on its request, but for the gap. -/
def BookingFilters.on_request (filters : BookingFilters) (r : BookingRequest) : Prop :=
  (∀ project_id ∈ filters.project_id, r.project_id = some project_id) ∧
    ∀ protection ∈ filters.protection, r.protection_level = protection
  deriving Decidable

/-- `gap if agreement_gap else ~gap`. -/
def BookingFilters.on_gap (filters : BookingFilters) (db : Db) (tenant_id : ℕ) (b : Booking)
    (r : BookingRequest) : Prop :=
  ∀ agreement_gap ∈ filters.agreement_gap, decide (gap_clause db tenant_id b r) = agreement_gap
  deriving Decidable

/-- The request is joined where a filter asks for it. -/
def BookingFilters.join (filters : BookingFilters) (db : Db) (tenant_id : ℕ) (b : Booking) :
    Prop :=
  (filters.project_id = none ∧ filters.agreement_gap = none ∧ filters.protection = none) ∨
    ∃ r ∈ db.requests, b.booking_request_id = r.id ∧ filters.on_request r ∧
      filters.on_gap db tenant_id b r
  deriving Decidable

/-- The rows of the list, before it is cut into pages. -/
def list_bookings (db : Db) (tenant_id : ℕ) (filters : BookingFilters) : List Booking :=
  order_by (fun b => toLex (b.start_date, b.id))
    (db.bookings.select fun b =>
      b.tenant_id = tenant_id ∧ b.deleted_at = none ∧ filters.own b ∧
        filters.join db tenant_id b)

end EnvMgr.Agreements

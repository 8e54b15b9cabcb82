/-
The release calendar: `release_service.list_releases`, and the endpoint that draws from it.

A release is drawn from its target date to its actual date, and a release that ships early has
its actual date first. The query for a window takes the target date for the earlier of the two:
it asks that the target date be no later than the window and the actual date no earlier. Of what
lies apart from the window it returns nothing, whichever date is first. Of a release that shipped
early it asks too much: a window that holds one of its dates and not the other does not show it.
-/
import EnvMgr.Deployments.Model
import EnvMgr.Incidents.Service
import Mathlib.Order.Interval.Set.UnorderedInterval

namespace EnvMgr.Releases

open Deployments (Page fetch_page)
open Incidents (terminal_status_clause)

variable {r : Statuses.Release} {target : DateTime}

/-! ## The query -/

/-- The rows that `list_releases` reads. `created_at` is the column of that name. -/
structure Db where
  statuses : Statuses.Db
  created_at : ℕ → DateTime
  release_systems : List ReleaseSystem

/-- `ILIKE` of the database: the text and the pattern. -/
structure External where
  ilike : String → String → Bool

structure Filters where
  release_type : Option String
  status : Option String
  date_from : Option DateTime
  date_to : Option DateTime
  owner_id : Option ℕ
  search : Option String
  release_kind : Option String
  system_id : Option ℕ
  project_id : Option ℕ
  scope_window : Option String
  implemented : Option Bool
  open_ : Option Bool
  has_target_date : Bool
  date_overlaps_range : Bool
  deriving DecidableEq

/-- `COALESCE(actual_date, target_date)`. -/
def went_live (r : Statuses.Release) : Option DateTime := r.actual_date.or r.target_date

/-- The two clauses on the window. A date that is NULL meets no comparison. -/
def Filters.dated (filters : Filters) (r : Statuses.Release) : Bool :=
  if filters.date_overlaps_range then
    (∀ date_to ∈ filters.date_to, ∃ target_date ∈ r.target_date, target_date ≤ date_to) ∧
      (∀ date_from ∈ filters.date_from, ∃ date ∈ went_live r, date_from ≤ date)
  else
    (∀ date_from ∈ filters.date_from, ∃ target_date ∈ r.target_date, date_from ≤ target_date) ∧
      (∀ date_to ∈ filters.date_to, ∃ target_date ∈ r.target_date, target_date ≤ date_to)

def Filters.gone_live (filters : Filters) (now : DateTime) (r : Statuses.Release) : Bool :=
  ∀ implemented ∈ filters.implemented,
    if implemented then ∃ date ∈ went_live r, date ≤ now else ∀ date ∈ went_live r, now < date

def Filters.actionable (filters : Filters) (now : DateTime) (r : Statuses.Release) : Bool :=
  filters.scope_window = some "actionable" →
    r.actual_date = none ∧ ∃ scope_deadline ∈ r.scope_deadline, now < scope_deadline

/-- The clauses that compare one column. -/
def Filters.columns (ext : External) (filters : Filters) (r : Statuses.Release) : Bool :=
  (∀ release_type ∈ filters.release_type, r.release_type = release_type) ∧
    (∀ status ∈ filters.status, r.status = status) ∧
    (∀ release_kind ∈ filters.release_kind, r.release_kind = release_kind) ∧
    (∀ project_id ∈ filters.project_id, r.owning_project_id = some project_id) ∧
    (∀ owner_id ∈ filters.owner_id, r.raised_by = owner_id) ∧
    (∀ search ∈ filters.search, ext.ilike r.name s!"%{search}%" = true) ∧
    (filters.has_target_date = true → r.target_date ≠ none)

/-- `base_where`. -/
def Filters.keeps (ext : External) (filters : Filters) (db : Db) (tenant_id : ℕ) (now : DateTime)
    (r : Statuses.Release) : Bool :=
  (r.tenant_id = tenant_id ∧ r.deleted_at = none) && filters.columns ext r &&
    (∀ system_id ∈ filters.system_id, ∃ s ∈ db.release_systems,
      s.release_id = r.id ∧ s.system_id = system_id ∧ s.tenant_id = tenant_id) &&
    filters.dated r && filters.gone_live now r &&
    (∀ open_ ∈ filters.open_, terminal_status_clause db.statuses.templates tenant_id "release"
      (some r.lifecycle_template_id) r.status (!open_) = true) &&
    filters.actionable now r

/-- By what it is sorted by, then the newest first, then by id. -/
def list_releases {κ : Type} [LinearOrder κ] (ext : External) (db : Db) (tenant_id : ℕ)
    (filters : Filters) (now : DateTime) (sort : Statuses.Release → κ) (page : Page) : List Statuses.Release × ℕ :=
  fetch_page
    (order_by (fun r => toLex (sort r, toLex (-db.created_at r.id, r.id)))
      (db.statuses.releases.select (filters.keeps ext db tenant_id now)))
    (some page)

/-! ## The endpoint -/

/-- What the calendar asks for. -/
def Filters.calendar (date_from date_to : Option DateTime) (has_target_date : Bool) : Filters where
  release_type := none
  status := none
  date_from := date_from
  date_to := date_to
  owner_id := none
  search := none
  release_kind := none
  system_id := none
  project_id := none
  scope_window := none
  implemented := none
  open_ := none
  has_target_date := has_target_date
  date_overlaps_range := true

structure CalendarEntry where
  id : ℕ
  title : String
  start : Option DateTime
  end_ : Option DateTime
  status : String
  release_type : String
  deriving DecidableEq

def CalendarEntry.of (r : Statuses.Release) : CalendarEntry :=
  ⟨r.id, r.name, r.target_date, r.actual_date, r.status, r.release_type⟩

def get_releases_calendar (ext : External) (db : Db) (tenant_id : ℕ)
    (date_from date_to : Option DateTime) (now : DateTime) (page : Page) :
    List CalendarEntry × ℕ :=
  let (releases, total) := list_releases ext db tenant_id (.calendar date_from date_to true) now
    (fun _ => ()) page
  (releases.map .of, total)

/-! ## Where a release belongs -/

/-- The dates that a client sends. A bound that is not there is no bound. -/
structure Window where
  date_from : Option DateTime
  date_to : Option DateTime
  deriving DecidableEq

namespace Window

variable (w : Window)

def contains (t : DateTime) : Prop :=
  (∀ date_from ∈ w.date_from, date_from ≤ t) ∧ ∀ date_to ∈ w.date_to, t ≤ date_to
  deriving Decidable

/-- Its bounds are in order, which the endpoint does not check. -/
def ordered : Prop := ∀ date_from ∈ w.date_from, ∀ date_to ∈ w.date_to, date_from ≤ date_to

/-- All of `times` is before the window, or all of it after. -/
def misses (times : Set DateTime) : Prop :=
  (∃ date_from ∈ w.date_from, ∀ t ∈ times, t < date_from) ∨
    ∃ date_to ∈ w.date_to, ∀ t ∈ times, date_to < t

end Window

/-- The instants between the two dates, in whichever order they are. -/
def occupied (r : Statuses.Release) (target : DateTime) : Set DateTime :=
  Set.uIcc target (r.actual_date.getD target)

/-- The live releases of the tenant that have a target date. -/
def Dated (db : Db) (tenant_id : ℕ) (r : Statuses.Release) (target : DateTime) : Prop :=
  r ∈ db.statuses.releases ∧ r.tenant_id = tenant_id ∧ r.deleted_at = none ∧
    r.target_date = some target

section Query

variable {κ : Type} [LinearOrder κ] (ext : External) (db : Db) (tenant_id : ℕ)
  (has_target_date : Bool) (now : DateTime) (sort : Statuses.Release → κ)

/-- It is on some page of the answer for the window. -/
def Listed (w : Window) (r : Statuses.Release) : Prop :=
  ∃ page, r ∈ (list_releases ext db tenant_id
    (.calendar w.date_from w.date_to has_target_date) now sort page).1

/-- **What the calendar is to show for a window.** -/
structure Shows (w : Window) : Prop where
  listed : ∀ r target, Dated db tenant_id r target →
    (w.contains target ∨ ∃ actual ∈ r.actual_date, w.contains actual) →
    Listed ext db tenant_id has_target_date now sort w r
  near : ∀ r, Listed ext db tenant_id has_target_date now sort w r →
    ∀ target, Dated db tenant_id r target → ¬ w.misses (occupied r target)
  common : w.ordered → ∀ r, Listed ext db tenant_id has_target_date now sort w r →
    ∀ target, Dated db tenant_id r target → ∃ t ∈ occupied r target, w.contains t

/-! ## What the query selects -/

/-- Some page has every row of a list. -/
theorem exists_page {α : Type} {rows : List α} {r : α} :
    (∃ page, r ∈ (fetch_page rows (some page)).1) ↔ r ∈ rows := by
  constructor
  · rintro ⟨page, hr⟩
    exact List.mem_of_mem_drop (List.mem_of_mem_take hr)
  · intro hr
    refine ⟨⟨rows.length, 0⟩, ?_⟩
    rw [fetch_page, List.drop_zero, List.take_length]
    exact hr

variable {ext db tenant_id has_target_date now sort}

/-- A release with a target date is on the answer exactly if its target date is no later than
the window and the date it went live no earlier. -/
theorem listed_iff {w : Window} (h : Dated db tenant_id r target) :
    Listed ext db tenant_id has_target_date now sort w r ↔
      (∀ date_to ∈ w.date_to, target ≤ date_to) ∧
        ∀ date_from ∈ w.date_from, date_from ≤ r.actual_date.getD target := by
  obtain ⟨hr, htenant, hlive, htarget⟩ := h
  have hwent : went_live r = some (r.actual_date.getD target) := by
    rw [went_live, htarget]
    cases r.actual_date <;> rfl
  rw [Listed]
  simp only [list_releases, exists_page, mem_order_by, Table.mem_select]
  simp [Filters.keeps, Filters.calendar, Filters.columns, Filters.dated, Filters.gone_live,
    Filters.actionable, hr, htenant, hlive, htarget, hwent]

/-! ## Nothing that lies apart

Either date of the release is an instant it occupies. That is all this half needs, so that it
does not matter which of them is first. -/

theorem near_of_listed {w : Window} (h : Dated db tenant_id r target)
    (hlisted : Listed ext db tenant_id has_target_date now sort w r) :
    ¬ w.misses (occupied r target) := by
  obtain ⟨hto, hfrom⟩ := (listed_iff h).1 hlisted
  rintro (⟨date_from, hmem, hbefore⟩ | ⟨date_to, hmem, hafter⟩)
  · have hlt := hbefore _ Set.right_mem_uIcc
    exact absurd (hfrom date_from hmem) (not_le.2 hlt)
  · have hlt := hafter target Set.left_mem_uIcc
    exact absurd (hto date_to hmem) (not_le.2 hlt)

/-- It is shown for a day of its own: its target date, or else the first day of the window. -/
theorem common_of_listed {w : Window} (hw : w.ordered) (h : Dated db tenant_id r target)
    (hlisted : Listed ext db tenant_id has_target_date now sort w r) :
    ∃ t ∈ occupied r target, w.contains t := by
  obtain ⟨hto, hfrom⟩ := (listed_iff h).1 hlisted
  by_cases hstarted : ∃ date_from ∈ w.date_from, target < date_from
  · obtain ⟨date_from, hmem, hlt⟩ := hstarted
    refine ⟨date_from, Set.mem_uIcc.2 (Or.inl ⟨hlt.le, hfrom date_from hmem⟩), ?_, hw _ hmem⟩
    intro date_from' hmem'
    rw [Option.mem_unique hmem hmem']
  · refine ⟨target, Set.left_mem_uIcc, fun date_from hmem => ?_, hto⟩
    exact not_lt.1 fun hlt => hstarted ⟨date_from, hmem, hlt⟩

/-! ## What belongs to the window -/

/-- One release, exactly: a window holds both of its dates or neither, or the release did not
ship early. -/
theorem listed_where_it_belongs_iff {w : Window} (h : Dated db tenant_id r target) :
    ((w.contains target ∨ ∃ actual ∈ r.actual_date, w.contains actual) →
        Listed ext db tenant_id has_target_date now sort w r) ↔
      ∀ actual ∈ r.actual_date, actual < target → (w.contains target ↔ w.contains actual) := by
  rw [listed_iff h]
  cases hactual : r.actual_date with
  | none =>
    -- The interval is the target date alone.
    simp only [Option.getD_none, Option.not_mem_none, false_and, exists_false, or_false,
      IsEmpty.forall_iff, implies_true, iff_true]
    exact fun hin => ⟨hin.2, hin.1⟩
  | some actual =>
    simp only [Option.getD_some, Option.mem_def, Option.some.injEq, exists_eq_left', forall_eq']
    constructor
    · intro hall hearly
      constructor
      · intro hin
        have hfrom := (hall (Or.inl hin)).2
        exact ⟨hfrom, fun date_to hmem => hearly.le.trans (hin.2 date_to hmem)⟩
      · intro hin
        have hto := (hall (Or.inr hin)).1
        exact ⟨fun date_from hmem => (hin.1 date_from hmem).trans hearly.le, hto⟩
    · intro hboth hin
      rcases lt_or_ge actual target with hearly | hlate
      · have htarget : w.contains target := hin.elim id (hboth hearly).2
        exact ⟨htarget.2, ((hboth hearly).1 htarget).1⟩
      · rcases hin with hin | hin
        · exact ⟨hin.2, fun date_from hmem => (hin.1 date_from hmem).trans hlate⟩
        · exact ⟨fun date_to hmem => hlate.trans (hin.2 date_to hmem), hin.1⟩

theorem shows_iff {w : Window} :
    Shows ext db tenant_id has_target_date now sort w ↔
      ∀ r target, Dated db tenant_id r target → ∀ actual ∈ r.actual_date, actual < target →
        (w.contains target ↔ w.contains actual) := by
  constructor
  · intro hshows r target h
    exact (listed_where_it_belongs_iff h).1 (hshows.listed r target h)
  · intro hboth
    exact ⟨fun r target h => (listed_where_it_belongs_iff h).2 (hboth r target h),
      fun r hlisted target h => near_of_listed h hlisted,
      fun hw r hlisted target h => common_of_listed hw h hlisted⟩

end Query

/-- A window of one instant holds no other. -/
theorem contains_instant {t t' : DateTime} : (Window.mk (some t) (some t)).contains t' ↔ t' = t := by
  simp only [Window.contains, Option.mem_def, Option.some.injEq, forall_eq']
  exact ⟨fun h => le_antisymm h.2 h.1, fun h => ⟨h.ge, h.le⟩⟩

/-- **The calendar is right for a window exactly if no release that shipped early has one of its
dates in the window and the other outside**, and right for every window exactly if no release
shipped early. -/
theorem calendar_shows_iff {κ : Type} [LinearOrder κ] (ext : External) (db : Db) (tenant_id : ℕ)
    (has_target_date : Bool) (now : DateTime) (sort : Statuses.Release → κ) :
    (∀ w, Shows ext db tenant_id has_target_date now sort w ↔
      ∀ r target, Dated db tenant_id r target → ∀ actual ∈ r.actual_date, actual < target →
        (w.contains target ↔ w.contains actual)) ∧
    ((∀ w, Shows ext db tenant_id has_target_date now sort w) ↔
      ∀ r target, Dated db tenant_id r target → ∀ actual ∈ r.actual_date, target ≤ actual) := by
  refine ⟨fun w => shows_iff, ?_⟩
  simp only [shows_iff]
  constructor
  · intro hall r target h actual hactual
    by_contra hearly
    rw [not_le] at hearly
    have hboth := hall ⟨some target, some target⟩ r target h actual hactual hearly
    rw [contains_instant, contains_instant] at hboth
    exact hearly.ne (hboth.1 rfl)
  · intro hlate w r target h actual hactual hearly
    exact absurd (hlate r target h actual hactual) (not_le.2 hearly)

/-! ## A release that ships early -/

namespace Sample

/-- A lifecycle of two states, the second of which says that the release has shipped. -/
def definition : Lifecycle.LifecycleDefinition where
  states :=
    [⟨"draft", "Draft", true, false, false, false, false, false, false, false⟩,
      ⟨"live", "Live", false, true, false, false, true, false, false, false⟩]
  transitions := [⟨"draft", "live", "Ship", [Role.ADMIN]⟩]
  field_permissions := Dict.empty
  action_permissions := none
  one_initial := rfl

/-- A release for the fifteenth day that ships on the tenth. -/
def requests : List Statuses.Request :=
  [.templates (.create_lifecycle_template Bookings.Sample.admin
      ⟨"Releases", none, true, "release", none, definition⟩),
    .create_release Bookings.Sample.admin
      ⟨"Summer", none, "Minor", "project", none, none, none, some 1, some (timedelta.days 15), none,
        none⟩,
    .transition_release Bookings.Sample.admin 1 "live" (timedelta.days 10)]

def db : Db where
  statuses := Runs.run (Statuses.step Bookings.Sample.ext)
    (Statuses.Db.seeded Table.empty Table.empty Bookings.Sample.environments
      Bookings.Sample.reference ⟨[], [], [], [], []⟩)
    requests
  created_at _ := 0
  release_systems := []

def ext : External := ⟨fun _ _ => true⟩

/-- From the twelfth day to the twentieth. -/
def window : Window := ⟨some (timedelta.days 12), some (timedelta.days 20)⟩

end Sample

/-- The window holds the target date of the one release, and shows nothing. -/
theorem early_release_is_missing :
    ¬ ∀ w, Shows Sample.ext Sample.db 1 true 0 (fun _ => ()) w := by
  intro hall
  have hrelease : ∃ r ∈ Sample.db.statuses.releases, r.tenant_id = 1 ∧ r.deleted_at = none ∧
      r.target_date = some (timedelta.days 15) ∧ r.actual_date = some (timedelta.days 10) := by
    decide +kernel
  obtain ⟨r, hr, htenant, hlive, htarget, hactual⟩ := hrelease
  have hwindow := shows_iff.1 (hall Sample.window) r (timedelta.days 15)
    ⟨hr, htenant, hlive, htarget⟩ (timedelta.days 10) hactual (by decide)
  have hin : Sample.window.contains (timedelta.days 15) := by decide
  have hout : ¬ Sample.window.contains (timedelta.days 10) := by decide
  exact hout (hwindow.1 hin)

end EnvMgr.Releases

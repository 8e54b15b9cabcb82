/-
How often bookings of an environment conflict: `release_metrics_service.booking_conflicts`.

The report counts the overlapping pairs of active bookings, each in the month in which the
overlap starts. The query cuts the bookings down to a window before any pair is formed, so that
the month at the edge of a window may be short of pairs. A month inside the window is not: both
bookings of a pair hold the environment when their overlap starts, and so both are in the window.
What remains of the order of the rows is the order in which the dictionaries are filled.
-/
import EnvMgr.Lib.Counting
import EnvMgr.Lib.Index
import EnvMgr.Utilization.Service
import Mathlib.Tactic.IntervalCases
import Std.Data.String.ToInt

namespace EnvMgr.Utilization

open Bookings (Booking)
open Counting

/-! ## The report -/

def _INACTIVE_BOOKING_STATES : List String := ["draft", "rejected", "closed"]

/-- `dt.strftime("%Y-%m")`, which pads the month only. -/
def month_of (t : DateTime) : String :=
  let (year, month, _) := civil_from_days (t / timedelta.days 1)
  toString year ++ "-" ++ zero_pad 2 month

/-- A row of the query: a booking of a live environment. -/
structure BookedRow where
  environment_id : ℕ
  environment_name : String
  interval : Interval DateTime
  deriving DecidableEq

structure ConflictRow where
  environment_id : ℕ
  environment_name : String
  month : String
  conflict_count : ℕ
  deriving DecidableEq

/-- The live environment of the tenant that a booking joins. -/
def joined_environment (db : Db) (tenant_id environment_id : ℕ) : Option Environment :=
  db.environments.select_one fun e =>
    e.id = environment_id ∧ e.tenant_id = tenant_id ∧ e.deleted_at = none

/-- The row that a booking makes, if its environment is live. -/
def joined_row (db : Db) (tenant_id : ℕ) (b : Booking) : Option BookedRow :=
  (joined_environment db tenant_id b.environment_id).map fun e =>
    ⟨b.environment_id, e.name, b.interval⟩

/-- The active bookings that touch the window. -/
def windowed (db : Db) (tenant_id : ℕ) (date_from date_to : DateTime) : List Booking :=
  db.bookings.select fun b =>
    b.tenant_id = tenant_id ∧ b.deleted_at = none ∧ b.status ∉ _INACTIVE_BOOKING_STATES ∧
      b.start_date < date_to ∧ date_from < b.end_date

/-- The rows of the query, in no order that may be relied on. -/
def conflict_query (db : Db) (tenant_id : ℕ) (date_from date_to : DateTime) : List BookedRow :=
  (windowed db tenant_id date_from date_to).filterMap (joined_row db tenant_id)

/-- `overlap_start.strftime("%Y-%m")` of two bookings that overlap. -/
def overlap_month (i j : Interval DateTime) : Option String :=
  if i.Overlaps j then some (month_of (max i.start j.start)) else none

/-- `by_env`. -/
def by_env (rows : List BookedRow) : Index (ℕ × String) (List (Interval DateTime)) :=
  Index.group (fun r => (r.environment_id, r.environment_name)) BookedRow.interval rows

/-- The keys that the loops over the environments and over their pairs count up, in turn. -/
def counted_keys (rows : List BookedRow) : List (ℕ × String × String) :=
  (by_env rows).items.flatMap fun env =>
    (pairs env.2).filterMap fun p =>
      (overlap_month p.1 p.2).map fun month => (env.1.1, env.1.2, month)

/-- What is made of the rows. -/
def conflicts_of (rows : List BookedRow) : List ConflictRow :=
  order_by (fun r => toLex (r.environment_name, r.month))
    ((Index.tally (counted_keys rows)).items.map fun i => ⟨i.1.1, i.1.2.1, i.1.2.2, i.2⟩)

def booking_conflicts (db : Db) (tenant_id : ℕ) (date_from date_to : DateTime) :
    List ConflictRow :=
  conflicts_of (conflict_query db tenant_id date_from date_to)

/-- What is reported for an environment and a month. -/
def reported (result : List ConflictRow) (environment_id : ℕ) (month : String) :
    List ConflictRow :=
  result.filter fun r => r.environment_id = environment_id ∧ r.month = month

/-! ## The rows and the keys -/

/-- The two bookings overlap, and their overlap starts in the month. -/
def ConflictIn (month : String) (i j : Interval DateTime) : Prop := overlap_month i j = some month
  deriving Decidable

theorem conflictIn_iff {month : String} {i j : Interval DateTime} :
    ConflictIn month i j ↔ i.Overlaps j ∧ month_of (max i.start j.start) = month := by
  rw [ConflictIn, overlap_month]
  by_cases h : i.Overlaps j
  · simp [h]
  · simp [h]

theorem ConflictIn.symm {month : String} {i j : Interval DateTime} (h : ConflictIn month i j) :
    ConflictIn month j i := by
  rw [conflictIn_iff] at h ⊢
  rw [max_comm]
  exact ⟨h.1.symm, h.2⟩

/-- The bookings of one environment among the rows. -/
def bookings_of (rows : List BookedRow) (environment_id : ℕ) : List (Interval DateTime) :=
  (rows.filter fun r => r.environment_id = environment_id).map BookedRow.interval

/-- A group of the loop counts its own keys and no others. -/
theorem count_group {key : ℕ × String} {vs : List (Interval DateTime)} {environment_id : ℕ}
    {name month : String} :
    ((pairs vs).filterMap fun p =>
      (overlap_month p.1 p.2).map fun month => (key.1, key.2, month)).count
        (environment_id, name, month) =
      if key = (environment_id, name) then (pairs vs).countP fun p => ConflictIn month p.1 p.2
      else 0 := by
  rw [List.count, List.countP_filterMap]
  by_cases hkey : key = (environment_id, name)
  · rw [if_pos hkey, hkey]
    refine List.countP_congr fun p _ => ?_
    rw [decide_eq_true_eq, ConflictIn]
    cases overlap_month p.1 p.2 <;> simp
  · rw [if_neg hkey, List.countP_eq_zero]
    intro p _ hp
    cases hmonth : overlap_month p.1 p.2 with
    | none => simp [hmonth] at hp
    | some month' =>
      simp only [hmonth, Option.map_some, Option.getD_some, beq_iff_eq, Prod.mk.injEq] at hp
      exact hkey (Prod.ext hp.1 hp.2.1)

/-- **A key is counted once for each pair of its environment and month.** -/
theorem count_keys {rows : List BookedRow} {environment_id : ℕ} {name month : String}
    (hname : ∀ r ∈ rows, r.environment_id = environment_id → r.environment_name = name) :
    (counted_keys rows).count (environment_id, name, month) =
      (pairs (bookings_of rows environment_id)).countP fun p => ConflictIn month p.1 p.2 := by
  have hfilter : (rows.filter fun r => (r.environment_id, r.environment_name) =
      (environment_id, name)) = rows.filter fun r => r.environment_id = environment_id := by
    refine List.filter_congr fun r hr => decide_eq_decide.2 ?_
    rw [Prod.mk.injEq]
    exact ⟨fun h => h.1, fun h => ⟨h, hname r hr h⟩⟩
  rw [counted_keys, List.count_flatMap, Index.sum_items_single _ (environment_id, name)]
  · rw [by_env, Index.get_group, hfilter]
    by_cases hrow : ∃ r ∈ rows, (r.environment_id, r.environment_name) = (environment_id, name)
    · rw [if_pos hrow, Option.map_some, Option.getD_some]
      exact (@count_group (environment_id, name) _ _ _ _).trans (if_pos rfl)
    · have hbooked : bookings_of rows environment_id = [] := by
        rw [bookings_of, ← hfilter, List.filter_eq_nil_iff.2, List.map_nil]
        intro r hr hkey
        exact hrow ⟨r, hr, of_decide_eq_true hkey⟩
      rw [if_neg hrow, hbooked]
      rfl
  · intro i _ hne
    exact count_group.trans (if_neg hne)

/-- One row for the environment and the month if a pair was counted there, and else none. -/
def ReportedIs (result : List ConflictRow) (environment_id : ℕ) (name month : String) (n : ℕ) :
    Prop :=
  reported result environment_id month =
    if n = 0 then [] else [⟨environment_id, name, month, n⟩]
  deriving Decidable

/-- A list without repetition all of whose members are one. -/
theorem eq_of_forall_eq {α : Type} {xs : List α} {x : α} (h : xs.Nodup) (hall : ∀ y ∈ xs, y = x)
    (p : Prop) [Decidable p] (hp : x ∈ xs ↔ ¬ p) : xs = if p then [] else [x] := by
  by_cases hc : p
  · rw [if_pos hc]
    refine List.eq_nil_iff_forall_not_mem.2 fun y hy => hp.1 ?_ hc
    rwa [← hall y hy]
  · rw [if_neg hc]
    exact List.perm_singleton.1 <| (List.perm_ext_iff_of_nodup h (List.nodup_singleton x)).2
      fun y => ⟨fun hy => List.mem_singleton.2 (hall y hy),
        fun hy => by rw [List.mem_singleton.1 hy]; exact hp.2 hc⟩

/-- A key comes from a row. -/
theorem exists_row_of_mem_counted_keys {rows : List BookedRow} {key : ℕ × String × String}
    (h : key ∈ counted_keys rows) :
    ∃ r ∈ rows, r.environment_id = key.1 ∧ r.environment_name = key.2.1 := by
  obtain ⟨env, henv, hkey⟩ := List.mem_flatMap.1 h
  obtain ⟨p, -, hp⟩ := List.mem_filterMap.1 hkey
  obtain ⟨month, -, rfl⟩ := Option.map_eq_some_iff.1 hp
  obtain ⟨⟨r, hr, hrow⟩, -⟩ := Index.mem_group.1 henv
  rw [Prod.ext_iff] at hrow
  exact ⟨r, hr, hrow.1, hrow.2⟩

theorem mem_conflicts_of {rows : List BookedRow} {r : ConflictRow} :
    r ∈ conflicts_of rows ↔
      (r.environment_id, r.environment_name, r.month) ∈ counted_keys rows ∧
        r.conflict_count =
          (counted_keys rows).count (r.environment_id, r.environment_name, r.month) := by
  have htally : ∀ key n, (key, n) ∈ (Index.tally (counted_keys rows)).items ↔
      key ∈ counted_keys rows ∧ n = (counted_keys rows).count key := by
    intro key n
    convert Index.mem_tally
  rw [conflicts_of, mem_order_by, List.mem_map, ← htally]
  constructor
  · rintro ⟨i, hi, rfl⟩
    exact hi
  · intro h
    exact ⟨_, h, rfl⟩

theorem conflicts_of_nodup (rows : List BookedRow) : (conflicts_of rows).Nodup := by
  refine nodup_order_by.2 (((Index.tally (counted_keys rows)).keys_nodup.of_map Prod.fst).map ?_)
  rintro ⟨⟨a, b, c⟩, n⟩ ⟨⟨a', b', c'⟩, n'⟩ heq
  rw [ConflictRow.mk.injEq] at heq
  obtain ⟨rfl, rfl, rfl, rfl⟩ := heq
  rfl

/-- **What is reported for an environment whose rows have its name.** -/
theorem reportedIs_count {rows : List BookedRow} {environment_id : ℕ} {name : String}
    (hname : ∀ r ∈ rows, r.environment_id = environment_id → r.environment_name = name)
    (month : String) :
    ReportedIs (conflicts_of rows) environment_id name month
      ((pairs (bookings_of rows environment_id)).countP fun p => ConflictIn month p.1 p.2) := by
  rw [← count_keys hname]
  have hrow : ∀ r, r ∈ reported (conflicts_of rows) environment_id month ↔
      r = ⟨environment_id, name, month, (counted_keys rows).count (environment_id, name, month)⟩ ∧
        (environment_id, name, month) ∈ counted_keys rows := by
    intro r
    rw [reported, List.mem_filter, decide_eq_true_eq, mem_conflicts_of]
    constructor
    · rintro ⟨⟨hkey, hcount⟩, hid, hmonth⟩
      obtain ⟨row, hmem, hrow, hrowname⟩ := exists_row_of_mem_counted_keys hkey
      have hnamed : r.environment_name = name := by
        rw [← hname row hmem (hrow.trans hid)]
        exact hrowname.symm
      rw [hid, hnamed, hmonth] at hkey hcount
      refine ⟨?_, hkey⟩
      rw [← hcount, ← hid, ← hnamed, ← hmonth]
    · rintro ⟨rfl, hkey⟩
      exact ⟨⟨hkey, rfl⟩, rfl, rfl⟩
  refine eq_of_forall_eq ((conflicts_of_nodup rows).filter _) (fun r hr => ((hrow r).1 hr).1) _ ?_
  rw [List.count_eq_zero, not_not]
  exact (hrow _).trans (and_iff_right rfl)

/-! ## The window -/

/-- The bookings that hold the environment. -/
def Claims (db : Db) (tenant_id environment_id : ℕ) : Set Booking :=
  {b | b ∈ db.bookings ∧ b.tenant_id = tenant_id ∧ b.environment_id = environment_id ∧
    b.deleted_at = none ∧ b.status ∉ _INACTIVE_BOOKING_STATES}

/-- Two bookings overlap, from some instant of the month on. -/
def Conflicting (month : String) (a b : Booking) : Prop := ConflictIn month a.interval b.interval

instance (month : String) : DecidableRel (Conflicting month) :=
  fun a b => inferInstanceAs (Decidable (ConflictIn month a.interval b.interval))

/-- **The conflicts of an environment in a month**, whatever the window: the unordered pairs of
its active bookings that overlap, where the overlap starts in the month. -/
noncomputable def conflict_count (db : Db) (tenant_id environment_id : ℕ) (month : String) : ℕ :=
  (related (Conflicting month) (Claims db tenant_id environment_id)).ncard

/-- Every instant of the month is in the window, which ends before `date_to`, or at `date_to` where
no booking starts then: the endpoint's windows end with the last microsecond of a day. -/
def ContainsMonth (db : Db) (date_from date_to : DateTime) (month : String) : Prop :=
  ∀ t, month_of t = month → date_from ≤ t ∧
    (t < date_to ∨ t = date_to ∧ ∀ b ∈ db.bookings, b.start_date ≠ t)

/-- **Both bookings of a pair are in the window**: they hold the environment when the overlap
starts. -/
theorem Conflicting.in_window {db : Db} {date_from date_to : DateTime} {month : String}
    {a b : Booking} (h : Conflicting month a b) (hwindow : ContainsMonth db date_from date_to month)
    (ha : a ∈ db.bookings) (hb : b ∈ db.bookings) (hproper : a.start_date < a.end_date) :
    a.start_date < date_to ∧ date_from < a.end_date := by
  obtain ⟨⟨hab, hba⟩, hmonth⟩ := conflictIn_iff.1 h
  obtain ⟨hfrom, hto⟩ := hwindow _ hmonth
  have hend : max a.start_date b.start_date < a.end_date := max_lt hproper hba
  refine ⟨(le_max_left _ _).trans_lt (hto.resolve_right ?_), hfrom.trans_lt hend⟩
  -- the overlap starts with one of the two
  rintro ⟨-, hnone⟩
  rcases max_choice a.start_date b.start_date with hmax | hmax
  · exact hnone a ha hmax.symm
  · exact hnone b hb hmax.symm

/-! ## The query -/

theorem joined_row_eq {db : Db} {tenant_id : ℕ} {b : Booking} {r : BookedRow}
    (h : joined_row db tenant_id b = some r) :
    ∃ e, joined_environment db tenant_id b.environment_id = some e ∧
      r = ⟨b.environment_id, e.name, b.interval⟩ := by
  obtain ⟨e, he, hr⟩ := Option.map_eq_some_iff.1 h
  exact ⟨e, he, hr.symm⟩

/-- The rows of an environment that is found are its bookings. -/
theorem bookings_of_joined {db : Db} {tenant_id environment_id : ℕ} {e : Environment}
    (he : joined_environment db tenant_id environment_id = some e) (bs : List Booking) :
    bookings_of (bs.filterMap (joined_row db tenant_id)) environment_id =
      (bs.filter fun b => b.environment_id = environment_id).map Booking.interval := by
  induction bs with
  | nil => rfl
  | cons b bs ih =>
    rw [bookings_of] at ih ⊢
    by_cases hb : b.environment_id = environment_id
    · have hrow : joined_row db tenant_id b = some ⟨environment_id, e.name, b.interval⟩ := by
        rw [joined_row, hb, he, Option.map_some]
      rw [List.filterMap_cons_some hrow, List.filter_cons_of_pos (by simp),
        List.filter_cons_of_pos (by simpa using hb), List.map_cons, List.map_cons, ih]
    · rw [List.filter_cons_of_neg (by simpa using hb), ← ih]
      cases hrow : joined_row db tenant_id b with
      | none => rw [List.filterMap_cons_none hrow]
      | some r =>
        obtain ⟨_, -, rfl⟩ := joined_row_eq hrow
        rw [List.filterMap_cons_some hrow, List.filter_cons_of_neg (by simpa using hb)]

theorem mem_windowed {db : Db} {tenant_id environment_id : ℕ} {date_from date_to : DateTime}
    {b : Booking} :
    b ∈ (windowed db tenant_id date_from date_to).filter
        (fun b => b.environment_id = environment_id) ↔
      b ∈ Claims db tenant_id environment_id ∧ b.start_date < date_to ∧ date_from < b.end_date := by
  rw [List.mem_filter, windowed, Table.mem_select, decide_eq_true_eq, decide_eq_true_eq]
  constructor
  · rintro ⟨⟨hmem, htenant, hlive, hactive, hwindow⟩, henv⟩
    exact ⟨⟨hmem, htenant, henv, hlive, hactive⟩, hwindow⟩
  · rintro ⟨⟨hmem, htenant, henv, hlive, hactive⟩, hwindow⟩
    exact ⟨⟨hmem, htenant, hlive, hactive, hwindow⟩, henv⟩

/-- **No pair of the month is lost and none is gained**: of the bookings of the window, as many
pairs conflict in it as of all bookings. -/
theorem count_in_window {db : Db} (hproper : ∀ b ∈ db.bookings, b.start_date < b.end_date)
    {tenant_id environment_id : ℕ} {e : Environment}
    (he : joined_environment db tenant_id environment_id = some e) {date_from date_to : DateTime}
    {month : String} (hwindow : ContainsMonth db date_from date_to month) :
    ((pairs (bookings_of (conflict_query db tenant_id date_from date_to) environment_id)).countP
        fun p => ConflictIn month p.1 p.2) =
      conflict_count db tenant_id environment_id month := by
  have hsymm : ∀ a b, Conflicting month a b → Conflicting month b a := fun _ _ h => h.symm
  rw [conflict_query, bookings_of_joined he, pairs_map, List.countP_map]
  refine (countP_pairs (Conflicting month) hsymm
    ((db.bookings.rows_nodup.filter _).filter _)).trans ?_
  rw [conflict_count]
  congr 1
  ext z
  constructor
  · rintro ⟨a, ha, b, hb, hrest⟩
    exact ⟨a, (mem_windowed.1 ha).1, b, (mem_windowed.1 hb).1, hrest⟩
  · rintro ⟨a, ha, b, hb, hne, hconflict, rfl⟩
    have hain := hconflict.in_window hwindow ha.1 hb.1 (hproper a ha.1)
    have hbin := Conflicting.in_window hconflict.symm hwindow hb.1 ha.1 (hproper b hb.1)
    exact ⟨a, mem_windowed.2 ⟨ha, hain⟩, b, mem_windowed.2 ⟨hb, hbin⟩, hne, hconflict, rfl⟩

/-- The rows of an environment are there if it is found, under its name. -/
theorem name_of_row {db : Db} {tenant_id : ℕ} {date_from date_to : DateTime} {r : BookedRow}
    (h : r ∈ conflict_query db tenant_id date_from date_to) :
    ∃ e, joined_environment db tenant_id r.environment_id = some e ∧
      r.environment_name = e.name := by
  obtain ⟨b, -, hrow⟩ := List.mem_filterMap.1 h
  obtain ⟨e, he, rfl⟩ := joined_row_eq hrow
  exact ⟨e, he, rfl⟩

/-- **The report of a month is the same for every window that contains it**, and in whatever
order the rows come: the environment's conflicts of the month. An environment that is not found is
not reported. -/
theorem conflicts_do_not_depend_on_the_window (db : Db)
    (hproper : ∀ b ∈ db.bookings, b.start_date < b.end_date) (tenant_id environment_id : ℕ)
    (month : String) (date_from date_to : DateTime)
    (hwindow : ContainsMonth db date_from date_to month) (rows : List BookedRow)
    (hrows : rows.Perm (conflict_query db tenant_id date_from date_to)) :
    (∀ e, joined_environment db tenant_id environment_id = some e →
      ReportedIs (conflicts_of rows) environment_id e.name month
        (conflict_count db tenant_id environment_id month)) ∧
    (joined_environment db tenant_id environment_id = none →
      reported (conflicts_of rows) environment_id month = []) := by
  constructor
  · intro e he
    have hname : ∀ r ∈ rows, r.environment_id = environment_id → r.environment_name = e.name := by
      rintro r hr rfl
      obtain ⟨e', he', hname⟩ := name_of_row (hrows.mem_iff.1 hr)
      rw [hname, Option.some.inj (he'.symm.trans he)]
    have hperm : (bookings_of rows environment_id).Perm
        (bookings_of (conflict_query db tenant_id date_from date_to) environment_id) :=
      (hrows.filter _).map _
    have hsymm : ∀ i j, ConflictIn month i j → ConflictIn month j i := fun _ _ h => h.symm
    rw [← count_in_window hproper he hwindow, ← countP_pairs_perm (ConflictIn month) hsymm hperm]
    exact reportedIs_count hname month
  · intro hnone
    refine List.filter_eq_nil_iff.2 fun r hr hkey => ?_
    rw [decide_eq_true_eq] at hkey
    obtain ⟨row, hmem, hrow, -⟩ := exists_row_of_mem_counted_keys (mem_conflicts_of.1 hr).1
    obtain ⟨e, he, -⟩ := name_of_row (hrows.mem_iff.1 hmem)
    rw [hrow.trans hkey.1, hnone] at he
    cases he

/-! ## A month that a window contains -/

theorem civil_january {days : ℤ} (hyear : (civil_from_days days).1 = 1970)
    (hmonth : (civil_from_days days).2.1 = 1) : 0 ≤ days ∧ days < 31 := by
  simp only [civil_from_days] at hyear hmonth
  split at hmonth <;> split at hyear <;> omega

theorem civil_month (days : ℤ) :
    1 ≤ (civil_from_days days).2.1 ∧ (civil_from_days days).2.1 ≤ 12 := by
  simp only [civil_from_days]
  split <;> omega

theorem eq_january {year month : ℤ} (hmonth : 1 ≤ month ∧ month ≤ 12)
    (h : toString year ++ "-" ++ zero_pad 2 month = "1970-01") : year = 1970 ∧ month = 1 := by
  have hlist : (toString year).toList ++ ("-".toList ++ (zero_pad 2 month).toList) =
      "1970".toList ++ ("-".toList ++ "01".toList) := by
    have hchars := congrArg String.toList h
    simpa [String.toList_append] using hchars
  obtain ⟨h1, h12⟩ := hmonth
  -- the month has two digits, so what is left in front is the year
  have hlength : (zero_pad 2 month).toList.length = 2 := by
    interval_cases month <;> decide
  obtain ⟨hyear, hrest⟩ := List.append_inj' hlist (by simp [hlength])
  refine ⟨Int.repr_inj.1 (String.toList_inj.1 hyear), ?_⟩
  have hpad := List.append_cancel_left hrest
  clear hlist hlength h hrest
  interval_cases month <;> first | rfl | (revert hpad; decide)

/-- The first month of the epoch. -/
theorem january_instants {t : DateTime} (h : month_of t = "1970-01") :
    0 ≤ t ∧ t < timedelta.days 31 := by
  obtain ⟨hyear, hmonth⟩ := eq_january (civil_month _) h
  have hinstants : ∀ n : ℤ, 0 ≤ n / (1 * 86400000000) ∧ n / (1 * 86400000000) < 31 →
      0 ≤ n ∧ n < 31 * 86400000000 := by omega
  exact hinstants t (civil_january hyear hmonth)

namespace Sample

/-- An approved booking of environment 1. -/
def booking (start_date end_date : DateTime) : Table.New Booking.id where
  row id := ⟨id, 1, 1, 1, none, start_date, end_date, "approved", none, none, none, none, none⟩
  key_row _ := rfl

/-- Three bookings that overlap in January, the first of them since the year before. -/
def db : Db where
  environments := Bookings.Sample.environments
  operating_hours := Table.empty
  bookings := Table.empty.insert_all
    [booking (timedelta.days (-20)) (timedelta.days 10),
      booking (timedelta.days 3) (timedelta.days 12),
      booking (timedelta.days 9) (timedelta.days 40)]

end Sample

/-- The endpoint's window of January: to the last microsecond of the month. -/
theorem january_contained : ContainsMonth Sample.db 0 (timedelta.days 31 - 1) "1970-01" := by
  intro t ht
  obtain ⟨hfrom, hto⟩ := january_instants ht
  refine ⟨hfrom, (Int.le_sub_one_of_lt hto).lt_or_eq.imp_right fun heq => ⟨heq, ?_⟩⟩
  rw [heq]
  decide

/-- January is reported alike by its own window and by one that starts a year before. -/
theorem january_is_reported :
    (∀ e, joined_environment Sample.db 1 1 = some e →
      ReportedIs (booking_conflicts Sample.db 1 0 (timedelta.days 31 - 1)) 1 e.name "1970-01"
        (conflict_count Sample.db 1 1 "1970-01")) ∧
    (joined_environment Sample.db 1 1 = none →
      reported (booking_conflicts Sample.db 1 0 (timedelta.days 31 - 1)) 1 "1970-01" = []) :=
  conflicts_do_not_depend_on_the_window Sample.db (by decide) 1 1 "1970-01" 0
    (timedelta.days 31 - 1) january_contained _ (List.Perm.refl _)

example : booking_conflicts Sample.db 1 (timedelta.days (-365)) (timedelta.days 31) =
    [⟨1, "uat", "1970-01", 3⟩] := by decide +kernel

end EnvMgr.Utilization

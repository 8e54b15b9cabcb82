/-
The booked time is the measure of what the bookings and the operating hours have in common.

Bookings of one environment overlap, touch and nest; merged, they are apart, and summing what
each operating segment has in common with each of them counts every instant once. The sums are
of floats. As long as every bound is a whole second, or a multiple of 1/64 of one, nothing is
rounded; with microseconds the sum over the segments may come out above their total.
-/
import EnvMgr.Utilization.Service
import Mathlib.Tactic.NormNum

namespace EnvMgr.Utilization

open Bookings (Booking)
open EnvMgr.Interval (covered)
open Binary64 (OnGrid)

variable {tz : ZoneInfo} {date_to date_from : DateTime} {db : Db}
variable {segments intervals : List (Interval DateTime)} {tenant_id environment_id : ℕ}
  {zone_info : String → ZoneInfo}
variable {s : Set DateTime} {is : List (Interval DateTime)} {i seg : Interval DateTime}
  {week : Fin 7 → OperatingHoursDay}

/-- The size of a set of instants, in seconds. -/
noncomputable def measure (s : Set DateTime) : ℚ := s.ncard / 1000000

/-- No two of them have an instant in common. -/
def Disjoints (is : List (Interval DateTime)) : Prop :=
  is.Pairwise fun i j => Disjoint i.toSet j.toSet

/-! ## Merging -/

/-- Sorted by start, apart, and covering the same instants. -/
structure Merged (intervals merged : List (Interval DateTime)) : Prop where
  sorted : merged.Pairwise fun i j => i.start ≤ j.start
  disjoint : Disjoints merged
  covers : covered merged = covered intervals

theorem answers_sorted (intervals : List (Interval DateTime)) :
    OrderBy.Answers (fun i : Interval DateTime => toLex (i.start, i.stop)) intervals
      (order_by (fun i => toLex (i.start, i.stop)) intervals) :=
  OrderBy.answers_insertionSort _ intervals

theorem merged (intervals : List (Interval DateTime)) :
    Merged intervals (_merge_intervals intervals) := by
  have hsorted := (answers_sorted intervals).sorted.imp
    fun {i j} hij => Prod.Lex.monotone_fst _ _ hij
  obtain ⟨hapart, hcovers⟩ := Interval.merge_spec hsorted
  refine ⟨hapart.imp fun hij => hij.1, hapart.disjoint, hcovers.trans ?_⟩
  exact Interval.covered_congr fun i => (answers_sorted intervals).mem_iff

/-- Whatever the order of the intervals, they merge into the same list. -/
theorem merge_intervals_perm {intervals' : List (Interval DateTime)}
    (h : intervals'.Perm intervals) : _merge_intervals intervals' = _merge_intervals intervals := by
  have hkey : ∀ i ∈ intervals, ∀ j ∈ intervals,
      toLex (i.start, i.stop) = toLex (j.start, j.stop) → i = j := by
    intro i _ j _ hij
    have hij := toLex_inj.1 hij
    exact Interval.ext (congrArg Prod.fst hij) (congrArg Prod.snd hij)
  exact congrArg Interval.merge
    ((answers_sorted intervals).unique hkey (answers_sorted intervals') h)

/-! ## Seconds -/

theorem measure_toSet (i : Interval DateTime) :
    measure i.toSet = if i.start < i.stop then ((i.stop - i.start : ℤ) : ℚ) / 1000000 else 0 := by
  rw [measure, Interval.ncard_toSet]
  by_cases h : i.start < i.stop
  · have hcast : (((i.stop - i.start).toNat : ℤ) : ℚ) = ((i.stop - i.start : ℤ) : ℚ) := by
      rw [Int.toNat_of_nonneg (sub_nonneg.2 h.le)]
    rw [if_pos h, ← hcast, Int.cast_natCast]
  · rw [if_neg h, Int.toNat_of_nonpos (sub_nonpos.2 (not_lt.1 h)), Nat.cast_zero, zero_div]

theorem measure_nonneg (s : Set DateTime) : 0 ≤ measure s :=
  div_nonneg (Nat.cast_nonneg _) (by norm_num)

theorem measure_mono {t : Set DateTime} (h : s ⊆ t) (ht : t.Finite) : measure s ≤ measure t := by
  have hcard : (s.ncard : ℚ) ≤ t.ncard := Nat.cast_le.2 (Set.ncard_le_ncard h ht)
  exact div_le_div_of_nonneg_right hcard (by norm_num)

/-- What disjoint intervals have in common with a set is the sum over the intervals. -/
theorem measure_inter_covered (h : Disjoints is) (s : Set DateTime) :
    measure (s ∩ covered is) = (is.map fun i => measure (s ∩ i.toSet)).sum := by
  rw [measure, Interval.ncard_inter_covered h]
  clear h
  induction is with
  | nil => simp
  | cons i is ih => rw [List.map_cons, List.sum_cons, List.map_cons, List.sum_cons, Nat.cast_add,
      add_div, ih, measure]

theorem measure_covered (h : Disjoints is) :
    measure (covered is) = (is.map fun i => measure i.toSet).sum := by
  have hinter := measure_inter_covered h Set.univ
  simpa only [Set.univ_inter] using hinter

theorem measure_inter_append (h : Disjoints (is ++ [i])) (s : Set DateTime) :
    measure (s ∩ covered (is ++ [i])) = measure (s ∩ covered is) + measure (s ∩ i.toSet) := by
  rw [measure_inter_covered h, measure_inter_covered (List.pairwise_append.1 h).1, List.map_append,
    List.sum_append, List.map_singleton, List.sum_singleton]

theorem measure_append (h : Disjoints (is ++ [i])) :
    measure (covered (is ++ [i])) = measure (covered is) + measure i.toSet := by
  have hinter := measure_inter_append h Set.univ
  simpa only [Set.univ_inter] using hinter

/-! ## Exact seconds -/

/-- A `datetime` at a multiple of 1/64 of a second, as every whole second is. -/
structure Exact (t : DateTime) : Prop where
  whole : 15625 ∣ t
  min_le : datetime.min ≤ t
  le_max : t ≤ datetime.max

instance (t : DateTime) : Decidable (Exact t) :=
  decidable_of_iff (15625 ∣ t ∧ datetime.min ≤ t ∧ t ≤ datetime.max)
    ⟨fun ⟨h, hmin, hmax⟩ => ⟨h, hmin, hmax⟩, fun h => ⟨h.whole, h.min_le, h.le_max⟩⟩

def ExactBounds (i : Interval DateTime) : Prop := Exact i.start ∧ Exact i.stop
  deriving Decidable

theorem ExactBounds.inter {j : Interval DateTime} (hi : ExactBounds i) (hj : ExactBounds j) :
    ExactBounds (i.inter j) := by
  constructor
  · show Exact (max i.start j.start)
    rcases max_choice i.start j.start with h | h
    · rw [h]
      exact hi.1
    · rw [h]
      exact hj.1
  · show Exact (min i.stop j.stop)
    rcases min_choice i.stop j.stop with h | h
    · rw [h]
      exact hi.2
    · rw [h]
      exact hj.2

theorem ExactBounds.onGrid (h : ExactBounds i) :
    OnGrid 6 (measure i.toSet) := by
  rw [measure_toSet]
  split
  · obtain ⟨m, hm⟩ := h.1.whole
    obtain ⟨n, hn⟩ := h.2.whole
    refine ⟨n - m, ?_⟩
    rw [hm, hn]
    push_cast
    ring
  · exact OnGrid.zero 6

theorem ExactBounds.subset (h : ExactBounds i) :
    i.toSet ⊆ Interval.toSet ⟨datetime.min, datetime.max⟩ :=
  Set.Ico_subset_Ico h.1.min_le h.2.le_max

/-- From one end of time to the other a double counts in steps of 1/64 of a second. -/
theorem abs_measure_lt (h : s ⊆ Interval.toSet ⟨datetime.min, datetime.max⟩) :
    |measure s| < 2 ^ 53 / 2 ^ 6 := by
  rw [abs_of_nonneg (measure_nonneg s)]
  refine (measure_mono h (Interval.finite_toSet _)).trans_lt ?_
  rw [measure_toSet]
  norm_num [datetime.max, datetime.min, timedelta.days]

/-- Such a measure is a double. -/
theorem round_measure (hgrid : OnGrid 6 (measure s))
    (h : s ⊆ Interval.toSet ⟨datetime.min, datetime.max⟩) :
    Binary64.round (measure s) = measure s :=
  Binary64.round_of_onGrid hgrid (abs_measure_lt h)

theorem onGrid_inter_covered (h : Disjoints is)
    (hgrid : ∀ i ∈ is, OnGrid 6 (measure (s ∩ i.toSet))) : OnGrid 6 (measure (s ∩ covered is)) := by
  rw [measure_inter_covered h]
  refine OnGrid.sum fun x hx => ?_
  obtain ⟨i, hi, rfl⟩ := List.mem_map.1 hx
  exact hgrid i hi

theorem onGrid_covered (h : Disjoints is) (hexact : ∀ i ∈ is, ExactBounds i) :
    OnGrid 6 (measure (covered is)) := by
  rw [← Set.univ_inter (covered is)]
  refine onGrid_inter_covered h fun i hi => ?_
  rw [Set.univ_inter]
  exact (hexact i hi).onGrid

theorem total_seconds_eq (h : ExactBounds i) (hlt : i.start < i.stop) :
    total_seconds (i.stop - i.start) = measure i.toSet := by
  have hround := round_measure h.onGrid h.subset
  rwa [measure_toSet, if_pos hlt] at hround ⊢

/-! ## What segments and bookings have in common -/

/-- What an exact segment has in common with each of some intervals. -/
theorem onGrid_segment (hseg : ExactBounds seg) (his : ∀ i ∈ is, ExactBounds i) (h : Disjoints is) :
    OnGrid 6 (measure (seg.toSet ∩ covered is)) := by
  refine onGrid_inter_covered h fun i hi => ?_
  rw [← Interval.toSet_inter]
  exact (hseg.inter (his i hi)).onGrid

/-- The loop adds up the common parts, and rounds none of the sums. -/
theorem intersect_eq (hseg : ExactBounds seg) (his : ∀ i ∈ is, ExactBounds i) (h : Disjoints is) :
    _intersect seg is = measure (seg.toSet ∩ covered is) := by
  induction is using List.reverseRecOn with
  | nil => simp [_intersect, measure]
  | append_singleton is i ih =>
    have hstep : _intersect seg (is ++ [i]) =
        if max seg.start i.start < min seg.stop i.stop then
          Binary64.round (_intersect seg is +
            total_seconds (min seg.stop i.stop - max seg.start i.start))
        else _intersect seg is := List.foldl_append
    have hbefore := ih (fun j hj => his j (List.mem_append_left _ hj)) (List.pairwise_append.1 h).1
    have hi : ExactBounds (seg.inter i) := hseg.inter (his i (by simp))
    have hround := round_measure (onGrid_segment hseg his h)
      (Set.inter_subset_left.trans hseg.subset)
    rw [measure_inter_append h, ← Interval.toSet_inter] at hround ⊢
    rw [hstep, hbefore]
    -- the common part is an interval, and the loop asks if it is empty
    by_cases hlt : (seg.inter i).start < (seg.inter i).stop
    · rw [← total_seconds_eq hi hlt] at hround ⊢
      exact (if_pos hlt).trans hround
    · rw [measure_toSet, if_neg hlt, add_zero]
      exact if_neg hlt

theorem covered_subset (h : ∀ i ∈ is, ExactBounds i) :
    covered is ⊆ Interval.toSet ⟨datetime.min, datetime.max⟩ := by
  rintro t ⟨i, hi, ht⟩
  exact (h i hi).subset ht

theorem booked_seconds_eq (hsegments : Disjoints segments) (his : Disjoints is)
    (hexact : ∀ i ∈ segments ++ is, ExactBounds i) :
    booked_seconds segments is = measure (covered is ∩ covered segments) := by
  obtain ⟨hexact, hexact'⟩ := List.forall_mem_append.1 hexact
  have hseg : ∀ seg ∈ segments, _intersect seg is = measure (covered is ∩ seg.toSet) := by
    intro seg hmem
    rw [intersect_eq (hexact seg hmem) hexact' his, Set.inter_comm]
  rw [booked_seconds, List.map_congr_left hseg, measure_inter_covered hsegments]
  refine Binary64.sum_of_onGrid (k := 6) ?_ ?_
  · intro x hx
    obtain ⟨seg, hmem, rfl⟩ := List.mem_map.1 hx
    rw [Set.inter_comm]
    exact ⟨onGrid_segment (hexact seg hmem) hexact' his, measure_nonneg _⟩
  · rw [← measure_inter_covered hsegments]
    refine (le_abs_self _).trans_lt (abs_measure_lt (Set.inter_subset_right.trans ?_))
    exact covered_subset hexact

/-- The booked time of any list of bookings in any list of disjoint segments, if no bound of
either is between two multiples of 1/64 of a second. -/
structure Booked (segments intervals : List (Interval DateTime)) : Prop where
  measured : booked_seconds segments (_merge_intervals intervals) =
    measure (covered intervals ∩ covered segments)
  /-- `covered segments` is the available time. -/
  bounded : booked_seconds segments (_merge_intervals intervals) ≤
    (segments.map fun seg => measure seg.toSet).sum
  unordered : ∀ segments', segments'.Perm segments →
    booked_seconds segments' (_merge_intervals intervals) =
      booked_seconds segments (_merge_intervals intervals)

theorem booked (h : Disjoints segments) (hexact : ∀ i ∈ segments ++ intervals, ExactBounds i) :
    Booked segments intervals := by
  obtain ⟨hsegments, hintervals⟩ := List.forall_mem_append.1 hexact
  have hmeasured : ∀ segments', segments'.Perm segments →
      booked_seconds segments' (_merge_intervals intervals) =
        measure (covered intervals ∩ covered segments) := by
    intro segments' hperm
    rw [booked_seconds_eq (hperm.symm.pairwise h fun h => h.symm) (merged intervals).disjoint,
      (merged intervals).covers, Interval.covered_congr fun i => hperm.mem_iff]
    refine List.forall_mem_append.2 ⟨fun i hi => hsegments i (hperm.mem_iff.1 hi), ?_⟩
    exact Interval.merge_bounds fun i hi =>
      hintervals i ((answers_sorted intervals).mem_iff.1 hi)
  refine ⟨hmeasured segments (List.Perm.refl _), ?_, fun segments' hperm => ?_⟩
  · rw [hmeasured segments (List.Perm.refl _), ← measure_covered h]
    exact measure_mono Set.inter_subset_right (Interval.finite_covered segments)
  · rw [hmeasured segments' hperm, hmeasured segments (List.Perm.refl _)]

/-! ## Operating segments -/

/-- A segment is not empty and lies in the window. -/
theorem day_segment_eq_some {d : ℤ} (h : day_segment tz week date_from date_to d = some seg) :
    seg.start < seg.stop ∧ date_from ≤ seg.start ∧ seg.stop ≤ date_to := by
  unfold day_segment at h
  split at h
  · cases h
  · simp only [Option.ite_none_right_eq_some, Option.some.injEq] at h
    obtain ⟨hlt, rfl⟩ := h
    exact ⟨hlt, le_max_right _ _, min_le_right _ _⟩

theorem add_days_fst (ds : List ℤ) :
    (ds.foldl (add_day tz week date_from date_to) ([], 0)).1 =
      ds.filterMap (day_segment tz week date_from date_to) := by
  induction ds using List.reverseRecOn with
  | nil => rfl
  | append_singleton ds d ih =>
    rw [List.foldl_append, List.foldl_cons, List.foldl_nil, add_day, List.filterMap_append]
    cases hseg : day_segment tz week date_from date_to d with
    | none => simpa [hseg] using ih
    | some seg => simp [hseg, ih]

/-- The loop adds up the segments, and where their bounds are exact it rounds none of the sums. -/
theorem add_days_snd (ds : List ℤ)
    (h : Disjoints (ds.foldl (add_day tz week date_from date_to) ([], 0)).1)
    (hexact : ∀ i ∈ (ds.foldl (add_day tz week date_from date_to) ([], 0)).1, ExactBounds i) :
    (ds.foldl (add_day tz week date_from date_to) ([], 0)).2 =
      measure (covered (ds.foldl (add_day tz week date_from date_to) ([], 0)).1) := by
  induction ds using List.reverseRecOn with
  | nil => simp [measure]
  | append_singleton ds d ih =>
    rw [List.foldl_append, List.foldl_cons, List.foldl_nil, add_day] at h hexact ⊢
    cases hseg : day_segment tz week date_from date_to d with
    | none =>
      rw [hseg] at h hexact
      exact ih h hexact
    | some seg =>
      rw [hseg] at h hexact
      dsimp only at h hexact ⊢
      have hround := round_measure (onGrid_covered h hexact) (covered_subset hexact)
      rwa [measure_append h,
        ← ih (List.pairwise_append.1 h).1 fun i hi => hexact i (List.mem_append_left _ hi),
        ← total_seconds_eq (hexact seg (by simp)) (day_segment_eq_some hseg).1] at hround ⊢

/-- The available time is the measure of the segments. -/
theorem operating_total (h : Disjoints (_operating_segments tz week date_from date_to).1)
    (hexact : ∀ i ∈ (_operating_segments tz week date_from date_to).1, ExactBounds i) :
    (_operating_segments tz week date_from date_to).2 =
      measure (covered (_operating_segments tz week date_from date_to).1) :=
  add_days_snd _ h hexact

theorem covered_operating_subset :
    covered (_operating_segments tz week date_from date_to).1 ⊆
      Interval.toSet ⟨date_from, date_to⟩ := by
  rw [_operating_segments, add_days_fst]
  rintro t ⟨seg, hseg, hstart, hstop⟩
  obtain ⟨d, -, hd⟩ := List.mem_filterMap.1 hseg
  obtain ⟨-, hfrom, hto⟩ := day_segment_eq_some hd
  exact ⟨hfrom.trans hstart, hstop.trans_le hto⟩

/-! ## The answer -/

/-- The bookings that hold the environment, in the window or not. -/
def active_intervals (db : Db) (tenant_id environment_id : ℕ) : List (Interval DateTime) :=
  (db.bookings.select fun b => is_active tenant_id environment_id b).map Booking.interval

/-- What the query leaves out has nothing in common with the window. -/
theorem covered_booked_rows (hs : s ⊆ Interval.toSet ⟨date_from, date_to⟩) :
    covered (booked_rows db tenant_id environment_id date_from date_to) ∩ s =
      covered (active_intervals db tenant_id environment_id) ∩ s := by
  ext t
  refine and_congr_left fun ht => ?_
  -- a booking that has an instant of the window overlaps it
  obtain ⟨hfrom, hto⟩ := hs ht
  constructor
  · rintro ⟨i, hi, hmem⟩
    obtain ⟨b, hb, rfl⟩ := List.mem_map.1 hi
    obtain ⟨hrow, hactive⟩ := Table.mem_select.1 hb
    have hactive := (of_decide_eq_true hactive).1
    exact ⟨_, List.mem_map_of_mem (Table.mem_select.2 ⟨hrow, decide_eq_true hactive⟩), hmem⟩
  · rintro ⟨i, hi, hmem⟩
    obtain ⟨b, hb, rfl⟩ := List.mem_map.1 hi
    obtain ⟨hrow, hactive⟩ := Table.mem_select.1 hb
    have hactive := of_decide_eq_true hactive
    refine ⟨_, List.mem_map_of_mem (Table.mem_select.2 ⟨hrow, decide_eq_true ?_⟩), hmem⟩
    exact ⟨hactive, hmem.1.trans_lt hto, hfrom.trans_lt hmem.2⟩

/-- What the endpoint answers for an environment whose operating segments are disjoint, and like
its bookings exact. -/
structure Answered (zone_info : String → ZoneInfo) (db : Db) (tenant_id environment_id : ℕ)
    (date_from date_to : DateTime) (config : EnvironmentOperatingHours)
    (answer : EnvironmentUtilization) : Prop where
  booked : answer.booked_operating_seconds =
    measure (covered (active_intervals db tenant_id environment_id) ∩
      covered (_operating_segments (zone_info config.timezone) config.week date_from date_to).1)
  total : answer.total_operating_seconds = measure (covered
    (_operating_segments (zone_info config.timezone) config.week date_from date_to).1)
  bounded : answer.booked_operating_seconds ≤ answer.total_operating_seconds

/-- The same rows, the bookings read in another order. -/
structure Reread (db db' : Db) : Prop where
  bookings : db'.bookings.rows.Perm db.bookings.rows
  environments : db'.environments = db.environments
  operating_hours : db'.operating_hours = db.operating_hours

theorem utilization_perm {db' : Db} (h : Reread db db') (tenant_id environment_id : ℕ)
    (date_from date_to : DateTime) :
    environment_utilization zone_info db' tenant_id environment_id date_from date_to =
      environment_utilization zone_info db tenant_id environment_id date_from date_to := by
  have hrows : _merge_intervals (booked_rows db' tenant_id environment_id date_from date_to) =
      _merge_intervals (booked_rows db tenant_id environment_id date_from date_to) :=
    merge_intervals_perm ((h.bookings.filter _).map _)
  simp only [environment_utilization, get_config, h.environments, h.operating_hours, hrows]

theorem answered {config : EnvironmentOperatingHours} {answer : EnvironmentUtilization}
    (hanswer : environment_utilization zone_info db tenant_id environment_id date_from date_to =
      .ok answer) (hconfig : get_config db tenant_id environment_id = some config) (h : Disjoints
      (_operating_segments (zone_info config.timezone) config.week date_from date_to).1)
    (hexact : ∀ i ∈ (_operating_segments (zone_info config.timezone) config.week date_from
      date_to).1 ++ booked_rows db tenant_id environment_id date_from date_to, ExactBounds i) :
    Answered zone_info db tenant_id environment_id date_from date_to config answer := by
  simp only [environment_utilization, hconfig, bind_eq_ok, get_or_raise_eq_ok,
    Except.ok.injEq] at hanswer
  obtain ⟨env, -, rfl⟩ := hanswer
  have hbooked := (booked h hexact).measured.trans
    (congrArg measure (covered_booked_rows covered_operating_subset))
  have htotal := operating_total h (List.forall_mem_append.1 hexact).1
  refine ⟨hbooked, htotal, ?_⟩
  rw [hbooked, htotal]
  exact measure_mono Set.inter_subset_right (Interval.finite_covered _)

/-- Merging keeps the union, no order of bookings matters, and of exact bounds the booked time is
a measure. -/
structure UtilizationMeasured (zone_info : String → ZoneInfo) (db : Db) : Prop where
  merged : ∀ intervals, Merged intervals (_merge_intervals intervals)
  any_order : ∀ segments intervals intervals', intervals'.Perm intervals →
    booked_seconds segments (_merge_intervals intervals') =
      booked_seconds segments (_merge_intervals intervals)
  booked : ∀ segments intervals, Disjoints segments →
    (∀ i ∈ segments ++ intervals, ExactBounds i) → Booked segments intervals
  answered : ∀ tenant_id environment_id date_from date_to answer,
    environment_utilization zone_info db tenant_id environment_id date_from date_to =
      .ok answer →
    ∀ config, get_config db tenant_id environment_id = some config →
      Disjoints
        (_operating_segments (zone_info config.timezone) config.week date_from date_to).1 →
      (∀ i ∈ (_operating_segments (zone_info config.timezone) config.week date_from date_to).1 ++
        booked_rows db tenant_id environment_id date_from date_to, ExactBounds i) →
      Answered zone_info db tenant_id environment_id date_from date_to config answer
  unordered : ∀ db', Reread db db' → ∀ tenant_id environment_id date_from date_to,
    environment_utilization zone_info db' tenant_id environment_id date_from date_to =
      environment_utilization zone_info db tenant_id environment_id date_from date_to

/-- **Every booked instant counts once.** -/
theorem utilization_measured (zone_info : String → ZoneInfo) (db : Db) :
    UtilizationMeasured zone_info db where
  merged := merged
  any_order _ _ _ h := congrArg _ (merge_intervals_perm h)
  booked _ _ h hexact := booked h hexact
  answered _ _ _ _ _ hanswer _ hconfig h hexact := answered hanswer hconfig h hexact
  unordered _ h := utilization_perm h

namespace Sample

def utc : ZoneInfo where
  date t := t / timedelta.days 1
  instant d t := timedelta.days d + timedelta.minutes t.minutes

/-- From 08:00 to 18:00 on every day. -/
def hours : EnvironmentOperatingHours :=
  ⟨1, 1, 1, "UTC", fun _ => .hours ⟨8, 0⟩ ⟨18, 0⟩ (by decide), none⟩

/-- From 2026-08-03T17:41:00.558976 to 2026-08-05T15:11:09.058517. -/
def window : Interval DateTime := ⟨1785778860558976, 1785942669058517⟩

/-- One booking, all through the window. -/
def stored : Db where
  environments := ⟨[⟨1, 1, "qa", .active, none, none, none⟩], 2, by decide, by decide⟩
  operating_hours := ⟨[hours], 2, by decide, by decide⟩
  bookings := ⟨[⟨1, 1, 1, 1, none, window.start, window.stop, "approved", none, none, none, none,
    none⟩], 2, by decide, by decide⟩

end Sample

open Sample in
/-- Overlapping, touching, nested and reversed bookings on two segments: ten seconds of the
first and five of the second. -/
theorem utilization_measured_overlapping :
    let segments := [⟨0, 10000000⟩, ⟨20000000, 30000000⟩]
    let intervals := [⟨3000000, 9000000⟩, ⟨9000000, 12000000⟩, ⟨-5000000, 4000000⟩,
      ⟨6000000, 7000000⟩, ⟨28000000, 22000000⟩, ⟨25000000, 40000000⟩]
    booked_seconds segments (_merge_intervals intervals) = 15 ∧
      measure (covered intervals ∩ covered segments) = 15 := by
  intro segments intervals
  have hseconds : booked_seconds segments (_merge_intervals intervals) = 15 := by decide +kernel
  have hdisjoint : Disjoints segments := Interval.Apart.disjoint (by unfold Interval.Apart; decide)
  have hexact : ∀ i ∈ segments ++ intervals, ExactBounds i := by decide +kernel
  have hbooked := (utilization_measured (fun _ => utc) stored).booked segments intervals
    hdisjoint hexact
  exact ⟨hseconds, hbooked.measured.symm.trans hseconds⟩

open Sample in
/-- **Between two multiples of 1/64 of a second** the sum over the segments rounds up to
63008.499541000005 seconds, and their total to 63008.499541. -/
theorem booked_exceeds_total : ∃ answer,
    environment_utilization (fun _ => utc) stored 1 1 window.start window.stop = .ok answer ∧
      Disjoints (_operating_segments utc hours.week window.start window.stop).1 ∧
      answer.total_operating_seconds < answer.booked_operating_seconds := by
  let total := Binary64.round (63008499541 / 1000000)
  let booked := total + 1 / 2 ^ 37
  refine ⟨⟨1, "qa", true, some "UTC", total, booked, Binary64.round (booked / total)⟩,
    by decide +kernel, ?_, by decide +kernel⟩
  · have hsegments : (_operating_segments utc hours.week window.start window.stop).1 =
        [⟨1785778860558976, 1785780000000000⟩, ⟨1785830400000000, 1785866400000000⟩,
          ⟨1785916800000000, 1785942669058517⟩] := by decide +kernel
    rw [hsegments]
    exact Interval.Apart.disjoint (by unfold Interval.Apart; decide)

end EnvMgr.Utilization

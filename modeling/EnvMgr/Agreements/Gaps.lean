/-
Which bookings are outside their agreements.

Three places answer for the coverage of a booking: the EXISTS that decides it, the list filter
that is made of it and its negation, and the distance in Python that picks the window to show.
A window covers a booking exactly when its distance is zero, so that they say the same.
-/
import EnvMgr.Agreements.Service

namespace EnvMgr.Agreements

open Bookings (Booking BookingRequest)

variable {r : BookingRequest}
variable {row : Booking × BookingRequest}

/-! ## Windows -/

/-- By how much the window misses the booking. -/
def misses (b : Booking) (w : _Window) : TimeDelta :=
  _distance w.starts_at w.ends_at b.start_date b.end_date

/-- The window of a live agreement between the booking's project and its environment. -/
def LiveWindow (db : Db) (tenant_id : ℕ) (b : Booking) (r : BookingRequest) (w : _Window) : Prop :=
  ∃ a ∈ db.agreements, is_live db tenant_id a ∧ r.project_id = some a.project_id ∧
    a.environment_id = b.environment_id ∧ a.window = w

/-- One bound: what it misses by is never negative, and nothing where it holds. -/
theorem missed_part (x y : ℤ) :
    0 ≤ (if x < y then y - x else 0) ∧ ((if x < y then y - x else 0) = 0 ↔ y ≤ x) := by
  split <;> omega

/-- **A window covers the booking exactly when it misses it by nothing.** -/
theorem distance_eq_zero {starts_at ends_at : Option DateTime} {start end_ : DateTime} :
    _distance starts_at ends_at start end_ = 0 ↔
      (∀ s ∈ starts_at, s ≤ start) ∧ (∀ e ∈ ends_at, end_ ≤ e) := by
  cases starts_at with
  | none =>
    cases ends_at with
    | none => simp [_distance]
    | some e => simpa [_distance] using (missed_part e end_).2
  | some s =>
    obtain ⟨hearly, hstart⟩ := missed_part start s
    cases ends_at with
    | none => simpa [_distance] using hstart
    | some e =>
      obtain ⟨hlate, hend⟩ := missed_part e end_
      simp only [_distance, Option.mem_some_iff, forall_eq']
      rw [add_eq_zero_iff_of_nonneg hearly hlate, hstart, hend]

theorem misses_eq_zero {a : UsageAgreement} {b : Booking} :
    misses b a.window = 0 ↔ window_covers a b := distance_eq_zero

/-- **The clause**: a project, and every live window misses. -/
theorem gap_clause_iff {db : Db} {tenant_id : ℕ} {b : Booking} :
    gap_clause db tenant_id b r ↔
      r.project_id ≠ none ∧ ∀ w, LiveWindow db tenant_id b r w → misses b w ≠ 0 := by
  refine and_congr_right fun _ => ?_
  constructor
  · rintro huncovered w ⟨a, ha, hlive, hproject, henv, rfl⟩ hzero
    exact huncovered ⟨a, ha, hlive, hproject, henv, misses_eq_zero.1 hzero⟩
  · rintro hmiss ⟨a, ha, hlive, hproject, henv, hcovers⟩
    exact hmiss _ ⟨a, ha, hlive, hproject, henv, rfl⟩ (misses_eq_zero.2 hcovers)

/-! ## The rows -/

section

variable {db : Db} {tenant_id : ℕ} {booking_ids : List ℕ}

theorem mem_gap_rows :
    row ∈ gap_rows db booking_ids tenant_id ↔
      row.1 ∈ db.bookings ∧ row.2 ∈ db.requests ∧ row.2.id = row.1.booking_request_id ∧
        row.1.id ∈ booking_ids ∧ row.1.tenant_id = tenant_id ∧
        gap_clause db tenant_id row.1 row.2 := by
  obtain ⟨b, r⟩ := row
  simp only [gap_rows, List.mem_filter, List.mem_product, decide_eq_true_eq, and_assoc]
  rfl

/-- A booking is in one row at most. -/
theorem gap_rows_inj : ∀ row ∈ gap_rows db booking_ids tenant_id,
    ∀ row' ∈ gap_rows db booking_ids tenant_id, row.1.id = row'.1.id → row = row' := by
  intro row hrow row' hrow' hid
  obtain ⟨hb, hr, hrequest, -⟩ := mem_gap_rows.1 hrow
  obtain ⟨hb', hr', hrequest', -⟩ := mem_gap_rows.1 hrow'
  have heq : row.1 = row'.1 := Table.eq_of_key_eq hb hb' hid
  refine Prod.ext heq (Table.eq_of_key_eq hr hr' ?_)
  rw [hrequest, hrequest', heq]

/-- The windows a row chooses from are those of its live agreements. -/
theorem mem_candidates {rows : List (Booking × BookingRequest)} (hrow : row ∈ rows) {w : _Window} :
    w ∈ candidates (_windows_for_pairs db (rows.map gap_pair) tenant_id) row ↔
      LiveWindow db tenant_id row.1 row.2 w := by
  unfold candidates LiveWindow
  cases hproject : row.2.project_id with
  | none => simp
  | some project_id =>
    have husable : (project_id, row.1.environment_id) ∈ (rows.map gap_pair).filterMap fun pair =>
        pair.1.map fun project_id => (project_id, pair.2) := by
      refine List.mem_filterMap.2 ⟨gap_pair row, List.mem_map_of_mem hrow, ?_⟩
      simp [gap_pair, hproject]
    simp only [_windows_for_pairs, Index.mem_group_getD, List.mem_filter, decide_eq_true_eq,
      _live_agreements_clause, Table.mem_select, Prod.mk.injEq, Option.some.injEq]
    constructor
    · rintro ⟨a, ⟨⟨ha, hlive⟩, -⟩, ⟨rfl, henv⟩, rfl⟩
      exact ⟨a, ha, hlive, rfl, henv, rfl⟩
    · rintro ⟨a, ha, hlive, rfl, henv, rfl⟩
      exact ⟨a, ⟨⟨ha, hlive⟩, henv ▸ husable⟩, ⟨rfl, henv⟩, rfl⟩

theorem get_gaps {id : ℕ} {message : String} :
    (gaps_for_bookings db booking_ids tenant_id).get id = some message ↔
      ∃ row ∈ gap_rows db booking_ids tenant_id, row.1.id = id ∧
        row_message db tenant_id (_windows_for_pairs db
          ((gap_rows db booking_ids tenant_id).map gap_pair) tenant_id) row = message :=
  Index.get_fill_eq_some gap_rows_inj

/-- The row of a booking is its own, with its request. -/
theorem gap_row_iff {b : Booking} (hb : b ∈ db.bookings) (hr : r ∈ db.requests)
    (hrequest : r.id = b.booking_request_id) :
    row ∈ gap_rows db booking_ids tenant_id ∧ row.1.id = b.id ↔
      row = (b, r) ∧ b.id ∈ booking_ids ∧ b.tenant_id = tenant_id ∧ gap_clause db tenant_id b r := by
  rw [mem_gap_rows]
  constructor
  · rintro ⟨⟨hb', hr', hrequest', hrest⟩, hid⟩
    obtain ⟨b', r'⟩ := row
    obtain rfl : b' = b := Table.eq_of_key_eq hb' hb hid
    obtain rfl : r' = r := Table.eq_of_key_eq hr' hr (hrequest'.trans hrequest.symm)
    exact ⟨rfl, hrest⟩
  · rintro ⟨rfl, hrest⟩
    exact ⟨⟨hb, hr, hrequest, hrest⟩, rfl⟩

/-! ## The list -/

variable {filters : BookingFilters} {b : Booking}

theorem mem_list_bookings :
    b ∈ list_bookings db tenant_id filters ↔
      b ∈ db.bookings ∧ b.tenant_id = tenant_id ∧ b.deleted_at = none ∧ filters.own b ∧
        filters.join db tenant_id b := by
  rw [list_bookings, mem_order_by, Table.mem_select, decide_eq_true_eq]

theorem list_bookings_nodup : (list_bookings db tenant_id filters).Nodup :=
  nodup_order_by.2 (db.bookings.rows_nodup.filter _)

/-- Every booking has its request, so that the join drops none. -/
theorem join_iff (hr : r ∈ db.requests) (hrequest : r.id = b.booking_request_id) :
    filters.join db tenant_id b ↔ filters.on_request r ∧ filters.on_gap db tenant_id b r := by
  constructor
  · rintro (⟨hproject, hgap, hprotection⟩ | ⟨r', hr', hrequest', hjoined⟩)
    · refine ⟨⟨?_, ?_⟩, ?_⟩
      · rw [hproject]
        simp
      · rw [hprotection]
        simp
      · rw [BookingFilters.on_gap, hgap]
        simp
    · obtain rfl : r' = r := Table.eq_of_key_eq hr' hr (hrequest'.symm.trans hrequest.symm)
      exact hjoined
  · intro hjoined
    exact Or.inr ⟨r, hr, hrequest.symm, hjoined⟩

/-- The list with one value of the gap filter. -/
theorem mem_list_with_gap (hr : r ∈ db.requests)
    (hrequest : r.id = b.booking_request_id) {gap : Bool} :
    b ∈ list_bookings db tenant_id { filters with agreement_gap := some gap } ↔
      b ∈ list_bookings db tenant_id { filters with agreement_gap := none } ∧
        decide (gap_clause db tenant_id b r) = gap := by
  have hgap : ∀ {g : Option Bool},
      ({ filters with agreement_gap := g } : BookingFilters).on_gap db tenant_id b r ↔
        ∀ gap ∈ g, decide (gap_clause db tenant_id b r) = gap := Iff.rfl
  have hnone : ∀ gap ∈ (none : Option Bool), decide (gap_clause db tenant_id b r) = gap := by simp
  rw [mem_list_bookings, mem_list_bookings, join_iff hr hrequest, join_iff hr hrequest, hgap, hgap]
  constructor
  · rintro ⟨hmem, htenant, hlive, hown, hrequested, hsome⟩
    exact ⟨⟨hmem, htenant, hlive, hown, hrequested, hnone⟩, hsome gap rfl⟩
  · rintro ⟨⟨hmem, htenant, hlive, hown, hrequested, -⟩, hsome⟩
    refine ⟨hmem, htenant, hlive, hown, hrequested, ?_⟩
    rintro _ ⟨⟩
    exact hsome

/-- **The two filters split the list.** -/
theorem list_split :
    (list_bookings db tenant_id { filters with agreement_gap := some true } ++
        list_bookings db tenant_id { filters with agreement_gap := some false }).Perm
      (list_bookings db tenant_id { filters with agreement_gap := none }) := by
  have hone : ∀ {gap : Bool} {b : Booking},
      b ∈ list_bookings db tenant_id { filters with agreement_gap := some gap } →
        ∃ r ∈ db.requests, r.id = b.booking_request_id ∧
          b ∈ list_bookings db tenant_id { filters with agreement_gap := none } ∧
          decide (gap_clause db tenant_id b r) = gap := by
    intro gap b hmem
    have hb := (mem_list_bookings.1 hmem).1
    obtain ⟨r, hr, hrequest⟩ := db.requested b hb
    exact ⟨r, hr, hrequest, (mem_list_with_gap hr hrequest).1 hmem⟩
  refine (List.perm_ext_iff_of_nodup ?_ list_bookings_nodup).2 fun b => ?_
  · refine List.nodup_append.2 ⟨list_bookings_nodup, list_bookings_nodup, ?_⟩
    rintro b htrue b' hfalse rfl
    obtain ⟨r, hr, hrequest, -, hgap⟩ := hone htrue
    obtain ⟨r', hr', hrequest', -, hgap'⟩ := hone hfalse
    obtain rfl := Table.eq_of_key_eq hr hr' (hrequest.trans hrequest'.symm)
    rw [hgap] at hgap'
    cases hgap'
  · rw [List.mem_append]
    constructor
    · rintro (hmem | hmem)
      · obtain ⟨r, -, -, hall, -⟩ := hone hmem
        exact hall
      · obtain ⟨r, -, -, hall, -⟩ := hone hmem
        exact hall
    · intro hall
      have hb := (mem_list_bookings.1 hall).1
      obtain ⟨r, hr, hrequest⟩ := db.requested b hb
      rw [mem_list_with_gap hr hrequest, mem_list_with_gap hr hrequest]
      cases hgap : decide (gap_clause db tenant_id b r)
      · exact Or.inr ⟨hall, rfl⟩
      · exact Or.inl ⟨hall, rfl⟩

end

/-! ## All three -/

/-- What is shown of a booking: that there is no agreement, or the window that misses it by
least. -/
def ShowsNearest (db : Db) (tenant_id : ℕ) (b : Booking) (r : BookingRequest)
    (message : String) : Prop :=
  ((∀ w, ¬ LiveWindow db tenant_id b r w) ∧
      message = gap_message (project_name db tenant_id r) (environment_name db tenant_id b) none) ∨
    ∃ w, LiveWindow db tenant_id b r w ∧
      (∀ w', LiveWindow db tenant_id b r w' → misses b w ≤ misses b w') ∧
      message =
        gap_message (project_name db tenant_id r) (environment_name db tenant_id b) (some w)

/-- The clause, the message and the filter agree. -/
structure GapsAgree (db : Db) (tenant_id : ℕ) : Prop where
  /-- A booking that is asked about is reported if and only if it names a project and no live
  window covers it. -/
  reported : ∀ (booking_ids : List ℕ), ∀ b ∈ db.bookings, ∀ r ∈ db.requests,
    r.id = b.booking_request_id → b.id ∈ booking_ids → b.tenant_id = tenant_id →
      ((∃ message, (gaps_for_bookings db booking_ids tenant_id).get b.id = some message) ↔
        r.project_id ≠ none ∧ ∀ w, LiveWindow db tenant_id b r w → misses b w ≠ 0)
  /-- The window that is shown is one of those that miss by least. -/
  nearest : ∀ (booking_ids : List ℕ), ∀ b ∈ db.bookings, ∀ r ∈ db.requests,
    r.id = b.booking_request_id → ∀ message,
      (gaps_for_bookings db booking_ids tenant_id).get b.id = some message →
        ShowsNearest db tenant_id b r message
  /-- With any other filters, the two values of the gap filter split the list. -/
  split : ∀ filters : BookingFilters,
    (list_bookings db tenant_id { filters with agreement_gap := some true } ++
        list_bookings db tenant_id { filters with agreement_gap := some false }).Perm
      (list_bookings db tenant_id { filters with agreement_gap := none })
  /-- The filter keeps the bookings that are reported. -/
  filtered : ∀ (filters : BookingFilters) (booking_ids : List ℕ) (b : Booking),
    b.id ∈ booking_ids →
      (b ∈ list_bookings db tenant_id { filters with agreement_gap := some true } ↔
        b ∈ list_bookings db tenant_id { filters with agreement_gap := none } ∧
        ∃ message, (gaps_for_bookings db booking_ids tenant_id).get b.id = some message)

theorem reported_iff {db : Db} {tenant_id : ℕ} {booking_ids : List ℕ} {b : Booking}
    (hb : b ∈ db.bookings) (hr : r ∈ db.requests) (hrequest : r.id = b.booking_request_id)
    (hid : b.id ∈ booking_ids) (htenant : b.tenant_id = tenant_id) :
    (∃ message, (gaps_for_bookings db booking_ids tenant_id).get b.id = some message) ↔
      gap_clause db tenant_id b r := by
  simp only [get_gaps]
  constructor
  · rintro ⟨message, row, hrow, hrowid, -⟩
    exact ((gap_row_iff hb hr hrequest).1 ⟨hrow, hrowid⟩).2.2.2
  · intro hgap
    obtain ⟨hrow, hrowid⟩ := (gap_row_iff hb hr hrequest).2 ⟨rfl, hid, htenant, hgap⟩
    exact ⟨_, _, hrow, hrowid, rfl⟩

theorem shows_nearest {db : Db} {tenant_id : ℕ} {booking_ids : List ℕ} {b : Booking}
    {message : String} (hb : b ∈ db.bookings) (hr : r ∈ db.requests)
    (hrequest : r.id = b.booking_request_id)
    (h : (gaps_for_bookings db booking_ids tenant_id).get b.id = some message) :
    ShowsNearest db tenant_id b r message := by
  obtain ⟨row, hrow, hrowid, rfl⟩ := get_gaps.1 h
  obtain ⟨rfl, -⟩ := (gap_row_iff hb hr hrequest).1 ⟨hrow, hrowid⟩
  have hwindows : ∀ w, w ∈ candidates (_windows_for_pairs db
      ((gap_rows db booking_ids tenant_id).map gap_pair) tenant_id) (b, r) ↔
        LiveWindow db tenant_id b r w := fun w => mem_candidates hrow
  unfold row_message
  cases hleast : least (nearness b) (candidates (_windows_for_pairs db
      ((gap_rows db booking_ids tenant_id).map gap_pair) tenant_id) (b, r)) with
  | none =>
    refine Or.inl ⟨fun w hw => ?_, rfl⟩
    have hmem := (hwindows w).2 hw
    rw [least_eq_none.1 hleast] at hmem
    cases hmem
  | some w =>
    obtain ⟨hw, hle⟩ := least_eq_some hleast
    refine Or.inr ⟨w, (hwindows w).1 hw, fun w' hw' => ?_, rfl⟩
    exact Prod.Lex.monotone_fst _ _ (hle w' ((hwindows w').2 hw'))

/-- **The three agree.** -/
theorem gaps_agree (db : Db) (tenant_id : ℕ) : GapsAgree db tenant_id where
  reported booking_ids b hb r hr hrequest hid htenant :=
    (reported_iff hb hr hrequest hid htenant).trans gap_clause_iff
  nearest booking_ids b hb r hr hrequest message h := shows_nearest hb hr hrequest h
  split filters := list_split
  filtered filters booking_ids b hid := by
    by_cases hb : b ∈ db.bookings
    · obtain ⟨r, hr, hrequest⟩ := db.requested b hb
      rw [mem_list_with_gap hr hrequest, decide_eq_true_eq]
      refine and_congr_right fun hall => (reported_iff hb hr hrequest hid ?_).symm
      exact (mem_list_bookings.1 hall).2.1
    · constructor
      · intro hmem
        exact absurd (mem_list_bookings.1 hmem).1 hb
      · rintro ⟨hmem, -⟩
        exact absurd (mem_list_bookings.1 hmem).1 hb

end EnvMgr.Agreements

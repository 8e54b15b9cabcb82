/-
One conflict relation, however it is asked.

A subject's conflicts, the tenant's overlapping pairs with and without a window,
and the preview of a request that has not been made yet are four queries over
the same table. Here each is shown to answer for the same symmetric relation,
`Conflict`.
-/
import EnvMgr.Bookings.Effects

namespace EnvMgr.Bookings

variable {a b c : Booking}
variable {booking_ids : Option (List ℕ)} {window : Option (Interval DateTime)} {env_id : ℕ}
  {env_ids : List ℕ}

/-! ## The relation -/

/-- The booking takes part in conflicts of the tenant. -/
def Active (tenant_id : ℕ) (b : Booking) : Prop :=
  b.tenant_id = tenant_id ∧ b.deleted_at = none ∧ b.status ∉ TERMINAL_STATES

/-- Two active bookings overlap on one environment. -/
def Conflict (tenant_id : ℕ) (a b : Booking) : Prop :=
  Active tenant_id a ∧ Active tenant_id b ∧ a.id ≠ b.id ∧
    a.environment_id = b.environment_id ∧ a.interval.Overlaps b.interval

theorem Conflict.symm {tenant_id : ℕ} (h : Conflict tenant_id a b) :
    Conflict tenant_id b a :=
  ⟨h.2.1, h.1, h.2.2.1.symm, h.2.2.2.1.symm, h.2.2.2.2.symm⟩

/-- `conflicts_with` leaves the subject's own state to its callers. -/
theorem conflicts_with_iff {tenant_id : ℕ} (ha : Active tenant_id a) :
    conflicts_with b a.id a.environment_id a.start_date a.end_date tenant_id ↔
      Conflict tenant_id a b := by
  constructor
  · rintro ⟨htenant, hid, henv, hlive, hstatus, hstart, hend⟩
    exact ⟨ha, ⟨htenant, hlive, hstatus⟩, hid.symm, henv.symm, hend, hstart⟩
  · rintro ⟨-, ⟨htenant, hlive, hstatus⟩, hid, henv, hend, hstart⟩
    exact ⟨htenant, hid.symm, henv.symm, hlive, hstatus, hstart, hend⟩

/-! ## The queries -/

/-- **`list_conflicts`** of a live booking. -/
theorem mem_list_conflicts {db : Db} {tenant_id : ℕ} (ha : a ∈ db.bookings)
    (htenant : a.tenant_id = tenant_id) (hlive : a.deleted_at = none) :
    b ∈ list_conflicts db a.id tenant_id ↔ b ∈ db.bookings ∧ Conflict tenant_id a b := by
  have hme : db.bookings.select_one (fun b => b.id = a.id ∧ b.tenant_id = tenant_id) = some a := by
    refine Table.select_one_eq ha (by simp [htenant]) (fun r hr hp => ?_)
    exact Table.eq_of_key_eq hr ha (of_decide_eq_true hp).1
  rw [list_conflicts, hme]
  by_cases hstatus : a.status ∈ TERMINAL_STATES
  · -- a terminal subject conflicts with nothing
    simp only [hstatus, if_true]
    constructor
    · intro h
      exact absurd h (List.not_mem_nil)
    · rintro ⟨-, hconflict⟩
      exact absurd hstatus hconflict.1.2.2
  · simp only [hstatus, if_false, mem_order_by, Table.mem_select, decide_eq_true_eq,
      conflicts_with_iff ⟨htenant, hlive, hstatus⟩]

theorem is_pair_iff {tenant_id : ℕ} :
    is_pair tenant_id a b ↔ Conflict tenant_id a b ∧ a.id < b.id := by
  constructor
  · rintro ⟨hconflicts, htenant, hlive, hstatus, hlt⟩
    exact ⟨(conflicts_with_iff ⟨htenant, hlive, hstatus⟩).1 hconflicts, hlt⟩
  · rintro ⟨hconflict, hlt⟩
    obtain ⟨htenant, hlive, hstatus⟩ := hconflict.1
    exact ⟨(conflicts_with_iff hconflict.1).2 hconflict, htenant, hlive, hstatus, hlt⟩

theorem in_window_iff {w : Interval DateTime} :
    in_window w a b ↔ (a.interval.inter b.interval).Overlaps w := by
  rw [Interval.inter_overlaps_iff, in_window, and_assoc]
  rfl

/-- **`overlapping_pairs`**, with any filters. -/
theorem mem_overlapping_pairs {db : Db} {tenant_id : ℕ} (ha : a ∈ db.bookings)
    (hb : b ∈ db.bookings) :
    (a.id, b.id) ∈ overlapping_pairs db tenant_id booking_ids window ↔
      (Conflict tenant_id a b ∧ a.id < b.id) ∧
        (∀ ids ∈ booking_ids, a.id ∈ ids ∨ b.id ∈ ids) ∧
        ∀ w ∈ window, (a.interval.inter b.interval).Overlaps w := by
  simp only [overlapping_pairs, mem_order_by, List.mem_map, List.mem_filter,
    decide_eq_true_eq, is_pair_iff, in_window_iff]
  constructor
  -- the ids of a pair determine its rows
  · rintro ⟨⟨a', b'⟩, ⟨hab, h⟩, heq⟩
    obtain ⟨ha', hb'⟩ := List.mem_product.1 hab
    obtain ⟨hida, hidb⟩ := Prod.mk.inj heq
    obtain rfl : a' = a := Table.eq_of_key_eq ha' ha hida
    obtain rfl : b' = b := Table.eq_of_key_eq hb' hb hidb
    exact h
  · intro h
    exact ⟨(a, b), ⟨List.mem_product.2 ⟨ha, hb⟩, h⟩, rfl⟩

/-- Only pairs of rows are returned. -/
theorem rows_of_pair {db : Db} {tenant_id : ℕ} {pair : ℕ × ℕ}
    (h : pair ∈ overlapping_pairs db tenant_id booking_ids window) :
    ∃ a ∈ db.bookings, ∃ b ∈ db.bookings, pair = (a.id, b.id) := by
  simp only [overlapping_pairs, mem_order_by, List.mem_map, List.mem_filter] at h
  obtain ⟨⟨a, b⟩, ⟨hab, -⟩, rfl⟩ := h
  obtain ⟨ha, hb⟩ := List.mem_product.1 hab
  exact ⟨a, ha, b, hb, rfl⟩

theorem overlapping_pairs_nodup (db : Db) (tenant_id : ℕ) (booking_ids : Option (List ℕ))
    (window : Option (Interval DateTime)) :
    (overlapping_pairs db tenant_id booking_ids window).Nodup := by
  rw [overlapping_pairs, nodup_order_by]
  refine List.Nodup.map_on ?_ ((db.bookings.rows_nodup.product db.bookings.rows_nodup).filter _)
  rintro ⟨a, b⟩ hab ⟨a', b'⟩ hab' heq
  obtain ⟨ha, hb⟩ := List.mem_product.1 (List.mem_of_mem_filter hab)
  obtain ⟨ha', hb'⟩ := List.mem_product.1 (List.mem_of_mem_filter hab')
  obtain ⟨hida, hidb⟩ := Prod.mk.inj heq
  rw [Table.eq_of_key_eq ha ha' hida, Table.eq_of_key_eq hb hb' hidb]

theorem mem_preview_rows {db : Db} {tenant_id : ℕ} {start end_ : DateTime} :
    b ∈ preview_rows db env_id start end_ tenant_id ↔
      b ∈ db.bookings ∧ Active tenant_id b ∧ b.environment_id = env_id ∧
        b.interval.Overlaps ⟨start, end_⟩ := by
  simp only [preview_rows, mem_order_by, Table.mem_select, decide_eq_true_eq]
  constructor
  · rintro ⟨hb, htenant, henv, hlive, hstatus, hstart, hend⟩
    exact ⟨hb, ⟨htenant, hlive, hstatus⟩, henv, hstart, hend⟩
  · rintro ⟨hb, ⟨htenant, hlive, hstatus⟩, henv, hstart, hend⟩
    exact ⟨hb, htenant, henv, hlive, hstatus, hstart, hend⟩

/-- A dictionary that leaves out the empty entries answers for them all the same. -/
theorem rows_of_filterMap (f : ℕ → List Booking) {keys : List ℕ} {k : ℕ} (hk : k ∈ keys) :
    rows_of (keys.filterMap fun k => if f k = [] then none else some (k, f k)) k = f k := by
  induction keys with
  | nil => exact absurd hk (List.not_mem_nil)
  | cons k' keys ih =>
    by_cases hempty : f k' = []
    -- the first key has no entry, and an absent entry reads as the empty one
    · rw [List.filterMap_cons_none (by simp [hempty])]
      by_cases hin : k ∈ keys
      · exact ih hin
      · obtain rfl : k = k' := (List.mem_cons.1 hk).resolve_right hin
        rw [hempty, rows_of, List.find?_eq_none.2]
        · rfl
        · intro r hr
          obtain ⟨k₀, hk₀, hr⟩ := List.mem_filterMap.1 hr
          split at hr
          · exact absurd hr (by simp)
          · obtain rfl := Option.some.inj hr
            simpa using fun heq : k₀ = k => hin (heq ▸ hk₀)
    · rw [List.filterMap_cons_some (by simp [hempty]; rfl)]
      by_cases heq : k' = k
      · simp [rows_of, heq]
      · have hrest := ih ((List.mem_cons.1 hk).resolve_left (Ne.symm heq))
        rw [← hrest]
        simp [rows_of, heq]

/-! ## The child of a request -/

section Children

variable {db : Db} {tenant_id : ℕ} {data : BookingRequestCreate} {placed : List Placed}
  {initial_state : String}

/-- The rows a request adds are its children. -/
theorem new_child (hc : c ∈ db.bookings.insert_all
      (data.children tenant_id db.requests.next placed initial_state))
    (hnew : db.bookings.next ≤ c.id) :
    ∃ i p, placed[i]? = some p ∧
      c = (child_row tenant_id db.requests.next p.environment_id p.environment_group_id
        ⟨data.start_date, data.end_date⟩ initial_state).row (db.bookings.next + i) := by
  rcases Table.mem_insert_all.1 hc with hc | ⟨i, new, hi, rfl⟩
  · exact absurd (Table.key_lt_next hc) (not_lt.2 hnew)
  · obtain ⟨p, hp, rfl⟩ : ∃ p, placed[i]? = some p ∧ child_row tenant_id db.requests.next
        p.environment_id p.environment_group_id ⟨data.start_date, data.end_date⟩ initial_state
          = new := by
      simpa [BookingRequestCreate.children, List.getElem?_map] using hi
    exact ⟨i, p, hp, rfl⟩

/-- A request has one child for each environment. -/
theorem child_unique (hnodup : (placed.map Placed.environment_id).Nodup) {c' : Booking}
    (hc : c ∈ db.bookings.insert_all
      (data.children tenant_id db.requests.next placed initial_state))
    (hnew : db.bookings.next ≤ c.id) (hc' : c' ∈ db.bookings.insert_all
      (data.children tenant_id db.requests.next placed initial_state))
    (hnew' : db.bookings.next ≤ c'.id) (henv : c.environment_id = c'.environment_id) :
    c = c' := by
  obtain ⟨i, p, hp, rfl⟩ := new_child hc hnew
  obtain ⟨j, p', hp', rfl⟩ := new_child hc' hnew'
  have hlt : i < (placed.map Placed.environment_id).length := by
    rw [List.length_map]
    exact (List.getElem?_eq_some_iff.1 hp).1
  have hsame : (placed.map Placed.environment_id)[i]? =
      (placed.map Placed.environment_id)[j]? := by
    rw [List.getElem?_map, List.getElem?_map, hp, hp']
    exact congrArg some henv
  obtain rfl : i = j := (List.getElem?_inj hlt hnodup).1 hsame
  rw [Option.some.inj (hp.symm.trans hp')]

theorem child_exists (hplaced : PlacedOk db tenant_id env_ids placed) (henv : env_id ∈ env_ids) :
    ∃ c ∈ db.bookings.insert_all
      (data.children tenant_id db.requests.next placed initial_state),
      db.bookings.next ≤ c.id ∧ c.environment_id = env_id := by
  obtain ⟨p, hp, hid⟩ := hplaced.picked env_id henv
  obtain ⟨i, hi⟩ := List.getElem?_of_mem hp
  have hget : (data.children tenant_id db.requests.next placed initial_state)[i]? =
      some (child_row tenant_id db.requests.next p.environment_id p.environment_group_id
        ⟨data.start_date, data.end_date⟩ initial_state) := by
    simp [BookingRequestCreate.children, hi]
  exact ⟨_, Table.mem_insert_all.2 (Or.inr ⟨i, _, hget, rfl⟩), Nat.le_add_right _ _, hid⟩

/-- Against the child, the rows after the request are the rows before it: the
other children are on other environments. -/
theorem child_conflict_iff (hnodup : (placed.map Placed.environment_id).Nodup)
    (hinitial : initial_state ∉ TERMINAL_STATES) (hc : c ∈ db.bookings.insert_all
      (data.children tenant_id db.requests.next placed initial_state))
    (hnew : db.bookings.next ≤ c.id) :
    b ∈ db.bookings.insert_all (data.children tenant_id db.requests.next placed initial_state) ∧
        Conflict tenant_id c b ↔
      b ∈ preview_rows db c.environment_id data.start_date data.end_date tenant_id := by
  have hchild := new_child hc hnew
  rw [mem_preview_rows]
  constructor
  · -- a booking in conflict is an old one, since no sibling shares the environment
    rintro ⟨hb, -, hother, hid, henv, hoverlap⟩
    by_cases hlt : b.id < db.bookings.next
    · rcases Table.mem_insert_all.1 hb with hb | ⟨j, new, -, rfl⟩
      · obtain ⟨i, p, -, rfl⟩ := hchild
        exact ⟨hb, hother, henv.symm, hoverlap.symm⟩
      · rw [new.key_row] at hlt
        omega
    · have hsame := child_unique hnodup hc hnew hb (not_lt.1 hlt) henv
      exact absurd (congrArg Booking.id hsame) hid
  · rintro ⟨hb, hother, henv, hoverlap⟩
    have hlt := Table.key_lt_next hb
    obtain ⟨i, p, -, rfl⟩ := hchild
    exact ⟨Table.mem_insert_all.2 (Or.inl hb), ⟨rfl, rfl, hinitial⟩, hother,
      fun hid => absurd hid (hlt.trans_le hnew).ne', henv.symm, hoverlap.symm⟩

end Children

/-! ## All four -/

/-- The four queries agree. -/
structure OneRelation (db : Db) (tenant_id : ℕ) : Prop where
  /-- A booking is in another's conflicts when that one is in its. -/
  symm : ∀ a ∈ db.bookings, ∀ b ∈ db.bookings, a.tenant_id = tenant_id →
    b.tenant_id = tenant_id → a.deleted_at = none → b.deleted_at = none →
      (b ∈ list_conflicts db a.id tenant_id ↔ a ∈ list_conflicts db b.id tenant_id)
  /-- Every pair is returned once. -/
  pairs_nodup : ∀ window, (overlapping_pairs db tenant_id none window).Nodup
  /-- The pairs are the conflicts of live bookings, lower id first. -/
  pairs : ∀ low high, (low, high) ∈ overlapping_pairs db tenant_id none none ↔
    low < high ∧ ∃ a ∈ db.bookings, ∃ b ∈ db.bookings, a.id = low ∧ b.id = high ∧
      a.tenant_id = tenant_id ∧ a.deleted_at = none ∧ b ∈ list_conflicts db low tenant_id
  /-- A window keeps the pairs whose common interval it overlaps. -/
  windowed : ∀ w low high, (low, high) ∈ overlapping_pairs db tenant_id none (some w) ↔
    (low, high) ∈ overlapping_pairs db tenant_id none none ∧
      ∃ a ∈ db.bookings, ∃ b ∈ db.bookings, a.id = low ∧ b.id = high ∧
        (a.interval.inter b.interval).Overlaps w
  /-- For bounds in order that is a common instant of the three. -/
  common : ∀ w : Interval DateTime, w.Proper → ∀ a ∈ db.bookings, ∀ b ∈ db.bookings,
    a.interval.Proper → b.interval.Proper →
      (a.id, b.id) ∈ overlapping_pairs db tenant_id none none →
        ((a.interval.inter b.interval).Overlaps w ↔
          (a.interval.toSet ∩ b.interval.toSet ∩ w.toSet).Nonempty)
  /-- A preview lists, for each environment, the conflicts of the one child that
  the request makes there; the request itself reports the same. -/
  preview : ∀ user data db' detected initial_state,
    create_request db data user tenant_id = .ok (db', detected) →
    _load_initial_state db data.booking_type_id tenant_id = .ok initial_state →
    initial_state ∉ TERMINAL_STATES →
      (∀ env_id ∈ data.environment_ids, ∃! c, c ∈ db'.bookings ∧ db.bookings.next ≤ c.id ∧
        c.environment_id = env_id) ∧
      ∀ c ∈ db'.bookings, db.bookings.next ≤ c.id →
        (∀ env_ids, c.environment_id ∈ env_ids → ∀ b,
          b ∈ rows_of (preview_conflicts db env_ids data.start_date data.end_date tenant_id)
              c.environment_id ↔ b ∈ list_conflicts db' c.id tenant_id) ∧
        rows_of detected c.id = list_conflicts db' c.id tenant_id

theorem preview_agrees {db db' : Db} {tenant_id : ℕ} {user : CurrentUser}
    {data : BookingRequestCreate} {detected : List (ℕ × List Booking)} {initial_state : String}
    (h : create_request db data user tenant_id = .ok (db', detected))
    (hinitial : _load_initial_state db data.booking_type_id tenant_id = .ok initial_state)
    (hstate : initial_state ∉ TERMINAL_STATES) (hc : c ∈ db'.bookings)
    (hnew : db.bookings.next ≤ c.id) (henv : c.environment_id ∈ env_ids) (b : Booking) :
    b ∈ rows_of (preview_conflicts db env_ids data.start_date data.end_date tenant_id)
        c.environment_id ↔ b ∈ list_conflicts db' c.id tenant_id := by
  obtain ⟨placed, state, context_tag, protection_level, hplaced, -, hload, rfl, -⟩ :=
    create_request_ok h
  obtain rfl : initial_state = state := Except.ok.inj (hinitial.symm.trans hload)
  have hrows : rows_of (preview_conflicts db env_ids data.start_date data.end_date tenant_id)
      c.environment_id =
        preview_rows db c.environment_id data.start_date data.end_date tenant_id :=
    rows_of_filterMap
      (fun env_id => preview_rows db env_id data.start_date data.end_date tenant_id) henv
  have hlive : c.tenant_id = tenant_id ∧ c.deleted_at = none := by
    obtain ⟨i, p, -, rfl⟩ := new_child hc hnew
    exact ⟨rfl, rfl⟩
  rw [hrows, mem_list_conflicts hc hlive.1 hlive.2]
  exact (child_conflict_iff (placed_ok hplaced).nodup hstate hc hnew).symm

/-- **The conflict relation is one relation**, over every table of bookings. -/
theorem one_conflict_relation (db : Db) (tenant_id : ℕ) : OneRelation db tenant_id where
  symm := by
    intro a ha b hb hta htb hla hlb
    rw [mem_list_conflicts ha hta hla, mem_list_conflicts hb htb hlb]
    exact ⟨fun h => ⟨ha, h.2.symm⟩, fun h => ⟨hb, h.2.symm⟩⟩
  pairs_nodup window := overlapping_pairs_nodup db tenant_id none window
  pairs := by
    intro low high
    constructor
    · intro h
      obtain ⟨a, ha, b, hb, heq⟩ := rows_of_pair h
      obtain ⟨rfl, rfl⟩ := Prod.mk.inj heq
      obtain ⟨⟨hconflict, hlt⟩, -⟩ := (mem_overlapping_pairs ha hb).1 h
      obtain ⟨htenant, hlive, -⟩ := hconflict.1
      exact ⟨hlt, a, ha, b, hb, rfl, rfl, htenant, hlive,
        (mem_list_conflicts ha htenant hlive).2 ⟨hb, hconflict⟩⟩
    · rintro ⟨hlt, a, ha, b, hb, rfl, rfl, htenant, hlive, hmem⟩
      obtain ⟨-, hconflict⟩ := (mem_list_conflicts ha htenant hlive).1 hmem
      exact (mem_overlapping_pairs ha hb).2 ⟨⟨hconflict, hlt⟩, by simp, by simp⟩
  windowed := by
    intro w low high
    constructor
    · intro h
      obtain ⟨a, ha, b, hb, heq⟩ := rows_of_pair h
      obtain ⟨rfl, rfl⟩ := Prod.mk.inj heq
      obtain ⟨hpair, -, hw⟩ := (mem_overlapping_pairs ha hb).1 h
      exact ⟨(mem_overlapping_pairs ha hb).2 ⟨hpair, by simp, by simp⟩,
        a, ha, b, hb, rfl, rfl, hw w rfl⟩
    · rintro ⟨hpair, a, ha, b, hb, rfl, rfl, hw⟩
      obtain ⟨hconflict, -⟩ := (mem_overlapping_pairs ha hb).1 hpair
      exact (mem_overlapping_pairs ha hb).2 ⟨hconflict, by simp, by simpa using hw⟩
  common := by
    intro w hw a ha b hb hpa hpb hpair
    obtain ⟨⟨hconflict, -⟩, -⟩ := (mem_overlapping_pairs ha hb).1 hpair
    obtain ⟨-, -, -, -, hoverlap⟩ := hconflict
    rw [← Interval.toSet_inter]
    exact Interval.overlaps_iff_nonempty (hoverlap.inter_proper hpa hpb) hw
  preview := by
    intro user data db' detected initial_state h hinitial hstate
    refine ⟨fun env_id henv => ?_, fun c hc hnew => ⟨fun env_ids henv b => ?_, ?_⟩⟩
    · obtain ⟨placed, state, context_tag, protection_level, hplaced, -, -, rfl, -⟩ :=
        create_request_ok h
      obtain ⟨c, hc, hnew, hid⟩ := child_exists (placed_ok hplaced) henv
      refine ⟨c, ⟨hc, hnew, hid⟩, ?_⟩
      rintro c' ⟨hc', hnew', hid'⟩
      exact child_unique (placed_ok hplaced).nodup hc' hnew' hc hnew (hid'.trans hid.symm)
    · exact preview_agrees h hinitial hstate hc hnew henv b
    · obtain ⟨placed, state, context_tag, protection_level, -, -, -, rfl, rfl⟩ :=
        create_request_ok h
      refine rows_of_filterMap (fun id => list_conflicts _ id tenant_id) ?_
      obtain ⟨i, p, hp, rfl⟩ := new_child hc hnew
      exact List.mem_map.2 ⟨i, List.mem_range.2 (List.getElem?_eq_some_iff.1 hp).1, rfl⟩

namespace Sample

/-- One booking of environment 1, over the first hundred instants. -/
def shared : Db :=
  Runs.run (step ext) (Db.fresh environments reference)
    [.create_booking admin (booking 1 1 0 100 false none) 0]

end Sample

/-- A request over an environment that is taken: its only child has the one
booking as its conflict, and the preview said so. -/
theorem one_conflict_relation_sample :
    ∃ db' detected,
      create_request Sample.shared (Sample.request [1] 50 150) Sample.admin 1
        = .ok (db', detected) ∧
      (rows_of detected 2).map Booking.id = [1] ∧
      ∀ b, b ∈ rows_of (preview_conflicts Sample.shared [1] 50 150 1) 1 ↔
        b ∈ list_conflicts db' 2 1 :=
  ⟨_, _, rfl, by decide,
    (((one_conflict_relation Sample.shared 1).preview Sample.admin (Sample.request [1] 50 150)
      _ _ "draft" rfl rfl (by decide)).2
        ⟨2, 1, 2, 1, none, 50, 150, "draft", none, none, none, none, none⟩ (by decide)
        (by decide)).1 [1] (by decide)⟩

end EnvMgr.Bookings

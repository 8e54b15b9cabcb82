/-
Exclusive use, over recurring bookings.

`create_booking` refuses with a 409 where "exclusive conflict exists", but looks
for one only among the caller's own tenant's bookings and only for the first
occurrence of the series it is about to write, while the teardown check right
before it covers the last. So two bookings of one environment can overlap
although one of them is exclusive, and this file says exactly when a request
brings that about.
-/
import EnvMgr.Bookings.Effects

namespace EnvMgr.Bookings

variable {ext : External}
variable {b : Booking} {window : Interval DateTime} {rule : Option String} {parent : Option ℕ}
  {id : ℕ}

/-! ## What must not happen -/

/-- The booking occupies its environment. -/
def Occupies (b : Booking) : Prop := b.deleted_at = none ∧ b.status ≠ "rejected"
  deriving Decidable

/-- Two bookings overlap on one environment, and one of them is exclusive. -/
def Clash (db : Db) (b b' : Booking) : Prop :=
  Occupies b ∧ Occupies b' ∧ b.environment_id = b'.environment_id ∧
    b.interval.Overlaps b'.interval ∧ (exclusive db b = true ∨ exclusive db b' = true)
  deriving Decidable

theorem Clash.symm {db : Db} {b' : Booking} (h : Clash db b b') : Clash db b' b :=
  ⟨h.2.1, h.1, h.2.2.1.symm, h.2.2.2.1.symm, h.2.2.2.2.symm⟩

def NoClash (db : Db) : Prop :=
  ∀ b ∈ db.bookings, ∀ b' ∈ db.bookings, b ≠ b' → ¬ Clash db b b'
  deriving Decidable

/-- The requests this file is about, and what other services do meanwhile. -/
def CreatesOrDeletes : Event → Prop
  | .create_booking .. => True
  | .delete_occurrence .. => True
  | .delete_series .. => True
  | .estate _ => True
  | .reference _ => True
  | _ => False

abbrev SeriesEvent := { e : Event // CreatesOrDeletes e }

/-- The request would make a clash that the guard does not look for: of a later
occurrence with a booking of the environment, of the first with one of another
tenant, or, in an exclusive series, of two occurrences with each other. -/
def Unguarded (ext : External) (db : Db) : Event → Prop
  | .create_booking user data _ => ∃ dates, occurrences ext data = .ok dates ∧
    ((∃ b ∈ db.bookings, Occupies b ∧ b.environment_id = data.environment_id ∧
        (exclusive db b = true ∨ data.exclusive_use = true) ∧
        ((∃ dt ∈ dates, b.interval.Overlaps (data.occurrence dt)) ∨
          b.tenant_id ≠ user.active_tenant_id ∧ b.interval.Overlaps data.window)) ∨
      data.exclusive_use = true ∧
        ¬ (data.windows dates).Pairwise fun i j => ¬ i.Overlaps j)
  | _ => False

/-! ## Whose flag a booking carries -/

theorem exclusive_eq {db : Db} {r : BookingRequest} (hr : r ∈ db.requests)
    (hid : r.id = b.booking_request_id) : exclusive db b = r.exclusive_use_requested := by
  have hfound : booking_request db b = some r := by
    refine Table.select_one_eq hr (by simpa using hid) (fun r' hr' hid' => ?_)
    exact Table.eq_of_key_eq hr' hr ((of_decide_eq_true hid').trans hid.symm)
  rw [exclusive, hfound]
  rfl

/-- An old booking keeps its flag when a request is added. -/
theorem exclusive_insert {db db' : Db} (h : Sound db) {new : Table.New BookingRequest.id}
    (hrequests : db'.requests = db.requests.insert new) (hb : b ∈ db.bookings) :
    exclusive db' b = exclusive db b := by
  obtain ⟨r, hr, hid⟩ := h.requested b hb
  have hr' : r ∈ db'.requests := hrequests ▸ Table.mem_insert.2 (Or.inl hr)
  rw [exclusive_eq hr hid, exclusive_eq hr' hid]

/-! ## The guard -/

/-- What the guard lets through: no booking of the caller's tenant clashes with
the first occurrence. -/
theorem guard_covers_first {db : Db} {data : BookingCreate} {tenant_id : ℕ}
    (h : (check_overlap db data.environment_id data.window tenant_id
      data.exclusive_use none).blocked = false) (hb : b ∈ db.bookings) (hocc : Occupies b)
    (henv : b.environment_id = data.environment_id) (htenant : b.tenant_id = tenant_id)
    (hoverlap : b.interval.Overlaps data.window) :
    ¬ (exclusive db b = true ∨ data.exclusive_use = true) := by
  have hmem : b ∈ overlapping_rows db data.environment_id data.window tenant_id none := by
    refine Table.mem_select.2 ⟨hb, ?_⟩
    simpa using ⟨henv, htenant, hocc.1, hocc.2, hoverlap⟩
  rintro hexclusive
  -- the query finds `b`, and the guard blocks on it
  rw [check_overlap, if_neg (List.ne_nil_of_mem hmem), if_pos] at h
  · exact absurd h (by simp)
  · rcases hexclusive with hold | hnew
    · exact Or.inr ⟨b, hmem, hold⟩
    · exact Or.inl hnew

/-! ## One request -/

/-- The state after an accepted create, as far as bookings are concerned. -/
structure Created (db : Db) (user : CurrentUser) (data : BookingCreate) (dates : List DateTime)
    (db' : Db) : Prop where
  requests : ∃ protection_level, db'.requests =
    db.requests.insert ⟨data.request_row user protection_level, fun _ => rfl⟩
  bookings : db'.bookings = db.bookings.insert_all
    (data.series user db.requests.next db.bookings.next dates)

variable {db db' : Db} {user : CurrentUser} {data : BookingCreate} {dates : List DateTime}

theorem Created.exclusive_new (hc : Created db user data dates db') (b : Booking)
    (hb : b.booking_request_id = db.requests.next) : exclusive db' b = data.exclusive_use := by
  obtain ⟨protection_level, hrequests⟩ := hc.requests
  have hr : data.request_row user protection_level db.requests.next ∈ db'.requests := by
    rw [hrequests]
    exact Table.mem_insert.2 (Or.inr rfl)
  exact exclusive_eq hr hb.symm

theorem Created.exclusive_old (hc : Created db user data dates db') (h : Sound db)
    (hb : b ∈ db.bookings) : exclusive db' b = exclusive db b := by
  obtain ⟨protection_level, hrequests⟩ := hc.requests
  exact exclusive_insert h hrequests hb

theorem occupies_row (data : BookingCreate) (user : CurrentUser) (request_id : ℕ)
    (window : Interval DateTime) (rule : Option String) (parent : Option ℕ) (id : ℕ) :
    Occupies (data.booking_row user request_id window rule parent id) :=
  ⟨rfl, (by decide : "draft" ≠ "rejected")⟩

/-- A new row against an old booking. -/
theorem Created.clash_old_iff (hc : Created db user data dates db') (h : Sound db)
    (hb : b ∈ db.bookings) :
    Clash db' b (data.booking_row user db.requests.next window rule parent id) ↔
      Occupies b ∧ b.environment_id = data.environment_id ∧ b.interval.Overlaps window ∧
        (exclusive db b = true ∨ data.exclusive_use = true) := by
  rw [Clash, hc.exclusive_old h hb,
    hc.exclusive_new (data.booking_row user db.requests.next window rule parent id) rfl]
  constructor
  · rintro ⟨hocc, -, henv, hoverlap, hexclusive⟩
    exact ⟨hocc, henv, hoverlap, hexclusive⟩
  · rintro ⟨hocc, henv, hoverlap, hexclusive⟩
    exact ⟨hocc, occupies_row .., henv, hoverlap, hexclusive⟩

/-- Two new rows. -/
theorem Created.clash_new_iff (hc : Created db user data dates db') {window' : Interval DateTime}
    {rule' : Option String} {parent' : Option ℕ} {id' : ℕ} :
    Clash db' (data.booking_row user db.requests.next window rule parent id)
        (data.booking_row user db.requests.next window' rule' parent' id') ↔
      data.exclusive_use = true ∧ window.Overlaps window' := by
  rw [Clash,
    hc.exclusive_new (data.booking_row user db.requests.next window rule parent id) rfl,
    hc.exclusive_new (data.booking_row user db.requests.next window' rule' parent' id') rfl,
    or_self]
  constructor
  · rintro ⟨-, -, -, hoverlap, hexclusive⟩
    exact ⟨hexclusive, hoverlap⟩
  · rintro ⟨hexclusive, hoverlap⟩
    exact ⟨occupies_row .., occupies_row .., rfl, hoverlap, hexclusive⟩

theorem windows_pairwise_iff :
    ((data.windows dates).Pairwise fun i j => ¬ i.Overlaps j) ↔
      ∀ (i j : ℕ) (w w' : Interval DateTime), (data.windows dates)[i]? = some w →
        (data.windows dates)[j]? = some w' → i < j → ¬ w.Overlaps w' := by
  rw [List.pairwise_iff_getElem]
  constructor
  · intro h i j w w' hi hj hij
    obtain ⟨hilt, rfl⟩ := List.getElem?_eq_some_iff.1 hi
    obtain ⟨hjlt, rfl⟩ := List.getElem?_eq_some_iff.1 hj
    exact h i j hilt hjlt hij
  · intro h i j hi hj hij
    exact h i j _ _ (List.getElem?_eq_getElem hi) (List.getElem?_eq_getElem hj) hij

/-- The rows of the series against the old bookings, by their windows. -/
theorem Created.apart_old_iff (hc : Created db user data dates db') (h : Sound db) :
    (∀ (i : ℕ) new, (data.series user db.requests.next db.bookings.next dates)[i]? = some new →
        ∀ b ∈ db.bookings, ¬ Clash db' b (new.row (db.bookings.next + i))) ↔
      ∀ w ∈ data.windows dates, ∀ b ∈ db.bookings, Occupies b →
        b.environment_id = data.environment_id →
        (exclusive db b = true ∨ data.exclusive_use = true) → ¬ b.interval.Overlaps w := by
  constructor
  · intro hnew w hw b hb hocc henv hexclusive hoverlap
    obtain ⟨i, hi⟩ := List.getElem?_of_mem hw
    obtain ⟨new, rule, parent, hget, hrow⟩ :=
      series_of_window user db.requests.next db.bookings.next hi
    refine hnew i new hget b hb ?_
    rw [hrow, hc.clash_old_iff h hb]
    exact ⟨hocc, henv, hoverlap, hexclusive⟩
  · intro hwindow i new hget b hb
    obtain ⟨w, rule, parent, hw, hrow⟩ := mem_series hget
    rw [hrow, hc.clash_old_iff h hb]
    rintro ⟨hocc, henv, hoverlap, hexclusive⟩
    exact hwindow w (List.mem_of_getElem? hw) b hb hocc henv hexclusive hoverlap

/-- The rows of the series against each other. -/
theorem Created.apart_new_iff (hc : Created db user data dates db') :
    (∀ (i j : ℕ) new new',
        (data.series user db.requests.next db.bookings.next dates)[i]? = some new →
        (data.series user db.requests.next db.bookings.next dates)[j]? = some new' → i < j →
        ¬ Clash db' (new.row (db.bookings.next + i)) (new'.row (db.bookings.next + j))) ↔
      (data.exclusive_use = true → (data.windows dates).Pairwise fun i j => ¬ i.Overlaps j) := by
  rw [windows_pairwise_iff]
  constructor
  · intro hnews hexclusive i j w w' hi hj hij hoverlap
    obtain ⟨new, rule, parent, hget, hrow⟩ :=
      series_of_window user db.requests.next db.bookings.next hi
    obtain ⟨new', rule', parent', hget', hrow'⟩ :=
      series_of_window user db.requests.next db.bookings.next hj
    refine hnews i j new new' hget hget' hij ?_
    rw [hrow, hrow', hc.clash_new_iff]
    exact ⟨hexclusive, hoverlap⟩
  · intro hpairs i j new new' hget hget' hij
    obtain ⟨w, rule, parent, hw, hrow⟩ := mem_series hget
    obtain ⟨w', rule', parent', hw', hrow'⟩ := mem_series hget'
    rw [hrow, hrow', hc.clash_new_iff]
    rintro ⟨hexclusive, hoverlap⟩
    exact hpairs hexclusive i j w w' hw hw' hij hoverlap

/-- **A create that the guard lets through leaves no clash exactly when it makes
none that the guard does not look for.** -/
theorem Created.no_clash_iff (hc : Created db user data dates db') (h : Sound db)
    (hno : NoClash db) {now : DateTime} (hdates : occurrences ext data = .ok dates)
    (hguard : (check_overlap db data.environment_id data.window user.active_tenant_id
      data.exclusive_use none).blocked = false) :
    NoClash db' ↔ ¬ Unguarded ext db (.create_booking user data now) := by
  have hold : ∀ a ∈ db.bookings, ∀ b ∈ db.bookings, a ≠ b → ¬ Clash db' a b := by
    intro a ha b hb hne hclash
    rw [Clash, hc.exclusive_old h ha, hc.exclusive_old h hb] at hclash
    exact hno a ha b hb hne hclash
  rw [NoClash, hc.bookings, Table.no_pair_insert_all_iff Clash.symm hold, hc.apart_old_iff h,
    hc.apart_new_iff]
  constructor
  · rintro ⟨hwindow, hnews⟩ ⟨dates', hdates', hbad⟩
    obtain rfl : dates = dates' := Except.ok.inj (hdates.symm.trans hdates')
    rcases hbad with ⟨b, hb, hocc, henv, hexclusive, ⟨dt, hdt, hoverlap⟩ | ⟨-, hoverlap⟩⟩ |
      ⟨hexclusive, hpairs⟩
    · exact hwindow _ (List.mem_cons_of_mem _ (List.mem_map_of_mem hdt)) b hb hocc henv hexclusive
        hoverlap
    · exact hwindow _ List.mem_cons_self b hb hocc henv hexclusive hoverlap
    · exact hpairs (hnews hexclusive)
  · intro hgood
    refine ⟨fun w hw b hb hocc henv hexclusive hoverlap => ?_, fun hexclusive => ?_⟩
    · rcases List.mem_cons.1 hw with rfl | hw
      · -- the first occurrence: the guard, unless the booking is another tenant's
        by_cases htenant : b.tenant_id = user.active_tenant_id
        · exact guard_covers_first hguard hb hocc henv htenant hoverlap hexclusive
        · exact hgood ⟨dates, hdates,
            Or.inl ⟨b, hb, hocc, henv, hexclusive, Or.inr ⟨htenant, hoverlap⟩⟩⟩
      · obtain ⟨dt, hdt, rfl⟩ := List.mem_map.1 hw
        exact hgood ⟨dates, hdates,
          Or.inl ⟨b, hb, hocc, henv, hexclusive, Or.inl ⟨dt, hdt, hoverlap⟩⟩⟩
    · by_contra hpairs
      exact hgood ⟨dates, hdates, Or.inr ⟨hexclusive, hpairs⟩⟩

/-- A delete makes no clash. -/
theorem Removes.no_clash (hr : Removes db db') (hno : NoClash db) : NoClash db' := by
  intro b hb b' hb' hne hclash
  have hsame : ∀ c, exclusive db' c = exclusive db c := by
    obtain ⟨p, now, rfl⟩ := hr
    exact fun c => rfl
  rw [Clash, hsame, hsame] at hclash
  exact hno b (hr.mem hb hclash.1.1) b' (hr.mem hb' hclash.2.1.1) hne hclash

theorem no_clash_accepted_iff {e : Event} (hlegal : CreatesOrDeletes e) (h : Sound db)
    (hno : NoClash db) (ha : Accepted ext db e db') : NoClash db' ↔ ¬ Unguarded ext db e := by
  cases ha with
  | create_booking hdates hbookable hguard =>
    exact Created.no_clash_iff ⟨⟨_, rfl⟩, rfl⟩ h hno hdates hguard
  | delete_occurrence hr => exact iff_of_true (hr.no_clash hno) id
  | delete_series hr => exact iff_of_true (hr.no_clash hno) id
  | estate => exact iff_of_true hno id
  | reference => exact iff_of_true hno id
  | update_standard_fields => exact hlegal.elim
  | create_request => exact hlegal.elim
  | add_environment => exact hlegal.elim
  | remove_environment => exact hlegal.elim
  | update_request_standard_fields => exact hlegal.elim
  | transition => exact hlegal.elim

/-! ## Every run -/

/-- **No exclusive booking overlaps another throughout a run of creates and
deletes exactly when no create that goes through makes an unguarded clash.** -/
theorem exclusive_use_iff (ext : External) (environments : Table Environment Environment.id)
    (reference : Reference) (es : List SeriesEvent) :
    Runs.Always (fun db (e : SeriesEvent) => step ext db e.1) NoClash
        (Db.fresh environments reference) es ↔
      Runs.Along (fun db (e : SeriesEvent) => step ext db e.1)
        (fun db e => Succeeds ext db e.1 → ¬ Unguarded ext db e.1)
        (Db.fresh environments reference) es := by
  have hkeep : ∀ (db : Db) (e : SeriesEvent), Sound db → Sound (step ext db e.1) :=
    fun _ e h => h.step e.1
  have hexact : ∀ (db : Db) (e : SeriesEvent), Sound db → NoClash db →
      (NoClash (step ext db e.1) ↔ (Succeeds ext db e.1 → ¬ Unguarded ext db e.1)) := by
    intro db e h hno
    rcases step_cases ext db e.1 with ⟨hrefused, hsame⟩ | ⟨hok, ha⟩
    · rw [hsame]
      exact iff_of_true hno (fun hok => absurd hok hrefused)
    · rw [no_clash_accepted_iff e.2 h hno ha]
      exact ⟨fun hw _ => hw, fun hw => hw hok⟩
  exact Runs.always_iff_along hkeep hexact (sound_fresh environments reference)
    (fun b hb => absurd hb (Table.not_mem_empty b)) es

/-- **The second occurrence of a shared series lands on an exclusive booking.** -/
theorem recurrence_lands_on_exclusive :
    ¬ NoClash (Runs.run (step Sample.ext) (Db.fresh Sample.environments Sample.reference)
      [.create_booking Sample.admin
        (Sample.booking 1 1 (timedelta.days 7) (timedelta.days 8) true none) 0,
      .create_booking Sample.admin
        (Sample.booking 1 1 0 (timedelta.days 1) false (some Sample.weekly)) 0]) := by
  decide

end EnvMgr.Bookings

/-
The series of a recurring booking.

A series is a root, which carries the rule, and the bookings that point at the root.
`delete_series` goes from any of them to the root and from there to the others, but it looks
the root up among the bookings that are not deleted, and `delete_occurrence` deletes the root
like any other occurrence. This file says which series can then still be deleted.
-/
import EnvMgr.Bookings.Effects

namespace EnvMgr.Bookings

variable {ext : External}

/-! ## Roots -/

/-- The id of the root of the series: the booking's own, unless it points at another. -/
def Booking.root_id (b : Booking) : ℕ := b.recurrence_parent_id.getD b.id

/-- What makes a booking a member of its series. -/
def lineage (b : Booking) : ℕ × ℕ × Option ℕ := (b.id, b.tenant_id, b.recurrence_parent_id)

/-- A booking points, if at all, at a root of its own tenant. -/
def Rooted (bookings : Table Booking Booking.id) : Prop :=
  ∀ b ∈ bookings, ∀ parent_id, b.recurrence_parent_id = some parent_id →
    ∃ root ∈ bookings, lineage root = (parent_id, b.tenant_id, none)

theorem rooted_update {bookings : Table Booking Booking.id} (h : Rooted bookings)
    (p : Booking → Bool) {f : Table.Edit Booking.id} (hf : ∀ b, lineage (f.apply b) = lineage b) :
    Rooted (bookings.update p f) := by
  have hlater : ∀ r ∈ bookings, ∃ r' ∈ bookings.update p f, lineage r' = lineage r :=
    Table.retains_update (R := fun r r' => lineage r' = lineage r) (fun _ => rfl) bookings p hf
  intro b hb parent_id hparent
  obtain ⟨b₀, hb₀, heq⟩ : ∃ b₀ ∈ bookings, lineage b = lineage b₀ := by
    rcases Table.mem_update_cases hb with ⟨b₀, hb₀, -, rfl⟩ | ⟨hb, -⟩
    · exact ⟨b₀, hb₀, hf b₀⟩
    · exact ⟨b, hb, rfl⟩
  simp only [lineage, Prod.mk.injEq] at heq
  obtain ⟨root, hroot, hlineage⟩ := h b₀ hb₀ parent_id (heq.2.2 ▸ hparent)
  obtain ⟨root', hroot', hsame⟩ := hlater root hroot
  exact ⟨root', hroot', by rw [hsame, hlineage, heq.2.1]⟩

theorem rooted_insert_all {bookings : Table Booking Booking.id} (h : Rooted bookings)
    {news : List (Table.New Booking.id)}
    (hnews : ∀ (i : ℕ) (new : Table.New Booking.id), news[i]? = some new →
      ∀ parent_id, (new.row (bookings.next + i)).recurrence_parent_id = some parent_id →
        ∃ root ∈ bookings.insert_all news,
          lineage root = (parent_id, (new.row (bookings.next + i)).tenant_id, none)) :
    Rooted (bookings.insert_all news) := by
  intro b hb parent_id hparent
  rcases Table.mem_insert_all.1 hb with hb | ⟨i, new, hget, rfl⟩
  · obtain ⟨root, hroot, hlineage⟩ := h b hb parent_id hparent
    exact ⟨root, Table.mem_insert_all.2 (Or.inl hroot), hlineage⟩
  · exact hnews i new hget parent_id hparent

theorem Rooted.accepted {db db' : Db} {e : Event} (h : Rooted db.bookings)
    (ha : Accepted ext db e db') : Rooted db'.bookings := by
  have hremoves : ∀ {db'}, Removes db db' → Rooted db'.bookings := by
    rintro _ ⟨p, now, rfl⟩
    exact rooted_update h p fun _ => rfl
  cases ha with
  | @create_booking user data now dates protection_level history =>
    refine rooted_insert_all h fun i new hget parent_id hparent => ?_
    -- the root is the first of the rows
    refine ⟨_, Table.mem_insert_all.2 (Or.inr ⟨0, _, rfl, rfl⟩), ?_⟩
    cases i with
    | zero =>
      obtain rfl := Option.some.inj hget
      cases hparent
    | succ i =>
      simp only [BookingCreate.series, List.getElem?_cons_succ, List.getElem?_map,
        Option.map_eq_some_iff] at hget
      obtain ⟨dt, -, rfl⟩ := hget
      obtain rfl := Option.some.inj hparent
      rfl
  | delete_occurrence hr => exact hremoves hr
  | delete_series hr => exact hremoves hr
  | remove_environment hr => exact hremoves hr
  | update_standard_fields => exact rooted_update h _ fun _ => rfl
  | create_request =>
    refine rooted_insert_all h fun i new hget parent_id hparent => ?_
    obtain ⟨p, -, rfl⟩ := List.mem_map.1 (List.mem_of_getElem? hget)
    cases hparent
  | @add_environment user data req initial_state =>
    refine @rooted_insert_all _ h [_] fun i new hget parent_id hparent => ?_
    obtain rfl := List.mem_singleton.1 (List.mem_of_getElem? hget)
    cases hparent
  | update_request_standard_fields => exact rooted_update h _ fun _ => rfl
  | transition => exact rooted_update h _ fun _ => rfl
  | estate => exact h
  | reference => exact h

theorem Rooted.step {db : Db} (h : Rooted db.bookings) (e : Event) :
    Rooted (step ext db e).bookings := by
  rcases step_cases ext db e with ⟨-, hsame⟩ | ⟨-, ha⟩
  · rwa [hsame]
  · exact h.accepted ha

/-! ## Deleting a series -/

section

variable {db db' : Db} {b : Booking} {user : CurrentUser} {now : DateTime}

theorem get_booking_eq_ok {booking_id tenant_id : ℕ} :
    get_booking db booking_id tenant_id = .ok b ↔
      b ∈ db.bookings ∧ b.id = booking_id ∧ b.tenant_id = tenant_id ∧ b.deleted_at = none := by
  rw [get_booking, get_or_raise_eq_ok]
  exact Table.select_one_key_iff fun _ hmatch => hmatch.1

/-- No live booking of the series is left, and everything else is as it was. -/
structure SeriesDeleted (db db' : Db) (b : Booking) : Prop where
  gone : ∀ r ∈ db'.bookings, r.root_id = b.root_id → r.deleted_at ≠ none
  outside : ∀ r, r.root_id ≠ b.root_id → (r ∈ db'.bookings ↔ r ∈ db.bookings)
  frame : db' = { db with bookings := db'.bookings }

/-- The root has not been deleted. -/
def RootLive (db : Db) (b : Booking) : Prop :=
  ∃ root ∈ db.bookings, root.id = b.root_id ∧ root.deleted_at = none
  deriving Decidable

theorem series_root_ok {root : Booking} (h : Rooted db.bookings) (hb : b ∈ db.bookings)
    (hlive : b.deleted_at = none) :
    series_root db b b.tenant_id = .ok root ↔
      root ∈ db.bookings ∧ root.id = b.root_id ∧ root.deleted_at = none := by
  unfold series_root Booking.root_id
  cases hparent : b.recurrence_parent_id with
  | none =>
    rw [Except.ok.injEq, Option.getD_none]
    constructor
    · rintro rfl
      exact ⟨hb, rfl, hlive⟩
    · rintro ⟨hroot, hid, -⟩
      exact Table.eq_of_key_eq hb hroot hid.symm
  | some parent_id =>
    rw [get_booking_eq_ok, Option.getD_some]
    constructor
    · rintro ⟨hroot, hid, -, hdel⟩
      exact ⟨hroot, hid, hdel⟩
    · rintro ⟨hroot, hid, hdel⟩
      obtain ⟨r, hr, hlineage⟩ := h b hb parent_id hparent
      simp only [lineage, Prod.mk.injEq] at hlineage
      obtain rfl := Table.eq_of_key_eq hr hroot (hlineage.1.trans hid.symm)
      exact ⟨hr, hid, hlineage.2.1, hdel⟩

/-- A root is its own root. -/
theorem root_of_root {root : Booking} (h : Rooted db.bookings) (hb : b ∈ db.bookings)
    (hroot : root ∈ db.bookings) (hid : root.id = b.root_id) :
    root.recurrence_parent_id = none := by
  unfold Booking.root_id at hid
  cases hparent : b.recurrence_parent_id with
  | none =>
    rw [hparent, Option.getD_none] at hid
    rw [Table.eq_of_key_eq hroot hb hid, hparent]
  | some parent_id =>
    obtain ⟨r, hr, hlineage⟩ := h b hb parent_id hparent
    simp only [lineage, Prod.mk.injEq] at hlineage
    rw [hparent, Option.getD_some] at hid
    rw [Table.eq_of_key_eq hroot hr (hid.trans hlineage.1.symm)]
    exact hlineage.2.2

/-- **From the root, the series and nothing else is deleted.** -/
theorem series_deleted {root : Booking} (h : Rooted db.bookings) (hb : b ∈ db.bookings)
    (hroot : root ∈ db.bookings) (hid : root.id = b.root_id) :
    SeriesDeleted db
      { db with
        bookings := db.bookings.update
          (fun r => r.id = root.id ∨ (r.recurrence_parent_id = some root.id ∧ r.deleted_at = none))
          (set_deleted now) } b := by
  have hparent := root_of_root h hb hroot hid
  refine ⟨fun r hr hseries => ?_, fun r houtside => ?_, rfl⟩
  · rcases Table.mem_update_cases hr with ⟨r₀, -, -, rfl⟩ | ⟨hr, hkept⟩
    · exact Option.some_ne_none now
    · intro hlive
      refine absurd (decide_eq_true ?_) (Bool.eq_false_iff.1 hkept)
      unfold Booking.root_id at hseries hid
      cases hp : r.recurrence_parent_id with
      | none =>
        rw [hp, Option.getD_none] at hseries
        exact Or.inl (hseries.trans hid.symm)
      | some parent_id =>
        rw [hp, Option.getD_some] at hseries
        exact Or.inr ⟨congrArg some (hseries.trans hid.symm), hlive⟩
  · -- a row that is written has the root for its root
    have hwritten : ∀ r₀ ∈ db.bookings,
        (r₀.id = root.id ∨ (r₀.recurrence_parent_id = some root.id ∧ r₀.deleted_at = none)) →
          r₀.root_id = b.root_id := by
      rintro r₀ hr₀ (hroot₀ | ⟨hchild, -⟩)
      · obtain rfl := Table.eq_of_key_eq hr₀ hroot hroot₀
        rw [Booking.root_id, hparent, Option.getD_none, hid]
      · rw [Booking.root_id, hchild, Option.getD_some, hid]
    constructor
    · intro hr
      rcases Table.mem_update_cases hr with ⟨r₀, hr₀, hp, rfl⟩ | ⟨hr, -⟩
      · exact absurd (hwritten r₀ hr₀ (of_decide_eq_true hp)) houtside
      · exact hr
    · intro hr
      refine Table.mem_update_of_neg hr (decide_eq_false fun hp => ?_)
      exact houtside (hwritten r hr hp)

/-- When the series can be deleted. -/
theorem delete_series_iff (h : Rooted db.bookings) (hb : b ∈ db.bookings)
    (hlive : b.deleted_at = none) (htenant : b.tenant_id = user.active_tenant_id)
    (hmay : may_delete db b user) :
    (∃ db', delete_series db b.id user now = .ok db' ∧ SeriesDeleted db db' b) ↔
      RootLive db b := by
  have hget : get_booking db b.id user.active_tenant_id = .ok b :=
    get_booking_eq_ok.2 ⟨hb, rfl, htenant, hlive⟩
  simp only [delete_series, bind_eq_ok, raise_if_eq_ok]
  constructor
  · rintro ⟨db', ⟨b', hget', -, -, root, hroot, -⟩, -⟩
    obtain rfl := Except.ok.inj (hget.symm.trans hget')
    rw [← htenant] at hroot
    exact ⟨root, (series_root_ok h hb hlive).1 hroot⟩
  · rintro ⟨root, hroot⟩
    have hfound := (series_root_ok h hb hlive).2 hroot
    rw [htenant] at hfound
    exact ⟨_, ⟨b, hget, (), not_not.2 hmay, root, hfound, rfl⟩,
      series_deleted h hb hroot.1 hroot.2.1⟩

end

/-! ## Every run -/

theorem rooted_run (ext : External) (environments : Table Environment Environment.id)
    (reference : Reference) (es : List Event) :
    Rooted (Runs.run (step ext) (Db.fresh environments reference) es).bookings :=
  @Runs.run_inv Db Event (step ext) (fun db => Rooted db.bookings) (fun _ e h => h.step e) _
    (fun b hb => absurd hb (Table.not_mem_empty b)) es

/-- **After whatever has been deleted, and whatever else has happened, `delete_series` on a
live occurrence deletes the series, and only that, exactly when the root has not been deleted
before.** -/
theorem series_deleted_iff (ext : External) (environments : Table Environment Environment.id)
    (reference : Reference) (es : List Event) (b : Booking) (user : CurrentUser) (now : DateTime) :
    let db := Runs.run (step ext) (Db.fresh environments reference) es
    b ∈ db.bookings → b.deleted_at = none → b.tenant_id = user.active_tenant_id →
      may_delete db b user →
        ((∃ db', delete_series db b.id user now = .ok db' ∧ SeriesDeleted db db' b) ↔
          RootLive db b) := by
  intro db hb hlive htenant hmay
  exact delete_series_iff (rooted_run ext environments reference es) hb hlive htenant hmay

namespace Weekly

/-- A booking that repeats a week later, and the occurrences that are deleted. -/
def booked (deleted : List ℕ) : Db :=
  Runs.run (step Sample.ext) (Db.fresh Sample.environments Sample.reference)
    (.create_booking Sample.admin
        (Sample.booking 1 1 0 (timedelta.days 1) false (some Sample.weekly)) 0 ::
      deleted.map fun id => .delete_occurrence Sample.admin id 0)

/-- The second of the two. -/
def second : Booking where
  id := 2
  tenant_id := 1
  booking_request_id := 1
  environment_id := 1
  environment_group_id := none
  start_date := timedelta.days 7
  end_date := timedelta.days 8
  status := "draft"
  recurrence_rule := none
  recurrence_parent_id := some 1
  release_id := none
  test_phase_id := none
  deleted_at := none

end Weekly

/-- Both occurrences go. -/
theorem series_deleted_iff_weekly :
    ∃ db', delete_series (Weekly.booked []) 2 Sample.admin 0 = .ok db' ∧
      SeriesDeleted (Weekly.booked []) db' Weekly.second :=
  (series_deleted_iff Sample.ext Sample.environments Sample.reference _ Weekly.second Sample.admin 0
    (by decide +kernel) rfl rfl (by decide +kernel)).2 (by decide +kernel)

/-- **Once the first occurrence is deleted, the series is not found from the second.** -/
theorem root_deleted_series_not_found :
    Weekly.second ∈ (Weekly.booked [1]).bookings ∧
      may_delete (Weekly.booked [1]) Weekly.second Sample.admin ∧
      (delete_series (Weekly.booked [1]) 2 Sample.admin 0).map (fun _ => ())
        = .error (http 404 "Booking not found") := by
  decide +kernel

end EnvMgr.Bookings

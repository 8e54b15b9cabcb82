/-
Whether a booking starts before it ends.

Everything that compares two bookings takes their bounds to be in order, and the
services for change requests and projects refuse bounds that are not. The
booking services never compare the two dates they store: five operations write
them, some one at a time, and whatever arrives is kept. So the bounds stay in
order exactly as long as each accepted write is given bounds that are, where an
edit of one date is judged together with the stored other one.
-/
import EnvMgr.Bookings.Effects

namespace EnvMgr.Bookings

variable {ext : External}

/-- Every live booking starts before it ends. -/
def Ordered (db : Db) : Prop :=
  ∀ b ∈ db.bookings, b.deleted_at = none → b.start_date < b.end_date
  deriving Decidable

/-- The dates a request would store are in order. -/
def OrderedWrite (ext : External) (db : Db) : Event → Prop
  | .create_booking _ data _ => data.start_date < data.end_date
  | .create_request _ data => data.start_date < data.end_date
  | .add_environment _ request_id data => ∀ req ∈ db.requests, req.id = request_id →
    data.start_date.getD req.start_date < data.end_date.getD req.end_date
  | .update_standard_fields _ booking_id values => ∀ b ∈ db.bookings, b.id = booking_id →
    ColumnValue.stored (override ext values "start_date") b.start_date
      < ColumnValue.stored (override ext values "end_date") b.end_date
  | .update_request_standard_fields _ request_id values =>
    ∀ b ∈ db.bookings, b.booking_request_id = request_id → b.deleted_at = none →
      values.start_date.set_required b.start_date < values.end_date.set_required b.end_date
  | _ => True

/-! ## One request -/

/-- Every occurrence of a series is as long as the first. -/
theorem windows_proper_iff (data : BookingCreate) (dates : List DateTime) :
    (∀ window ∈ data.windows dates, window.Proper) ↔ data.start_date < data.end_date := by
  have hlong : ∀ dt, (data.occurrence dt).Proper ↔ data.start_date < data.end_date :=
    fun dt => (lt_add_iff_pos_right dt).trans sub_pos
  constructor
  · intro h
    exact h data.window (List.mem_cons_self ..)
  · intro h window hwindow
    rcases List.mem_cons.1 hwindow with rfl | hwindow
    · exact h
    · obtain ⟨dt, -, rfl⟩ := List.mem_map.1 hwindow
      exact (hlong dt).2 h

theorem series_ordered_iff {db : Db} (h : Ordered db) {data : BookingCreate} {user : CurrentUser}
    {dates : List DateTime} :
    (∀ b ∈ db.bookings.insert_all (data.series user db.requests.next db.bookings.next dates),
      b.deleted_at = none → b.start_date < b.end_date) ↔ data.start_date < data.end_date := by
  rw [Table.forall_insert_all_iff h, ← windows_proper_iff data dates]
  constructor
  · intro hall window hwindow
    obtain ⟨i, hi⟩ := List.getElem?_of_mem hwindow
    obtain ⟨new, rule, parent, hget, hrow⟩ :=
      series_of_window user db.requests.next db.bookings.next hi
    have hnew := hall i new hget
    rw [hrow] at hnew
    exact hnew rfl
  · intro hall i new hget
    obtain ⟨window, rule, parent, hwindow, hrow⟩ := mem_series hget
    rw [hrow]
    exact fun _ => hall window (List.mem_of_getElem? hwindow)

theorem children_ordered_iff {db : Db} (h : Ordered db) {data : BookingRequestCreate}
    {tenant_id : ℕ} {placed : List Placed} {initial_state : String} (hne : placed ≠ []) :
    (∀ b ∈ db.bookings.insert_all (data.children tenant_id db.requests.next placed initial_state),
      b.deleted_at = none → b.start_date < b.end_date) ↔ data.start_date < data.end_date := by
  rw [Table.forall_insert_all_iff h]
  constructor
  · intro hall
    obtain ⟨p, rest, rfl⟩ := List.exists_cons_of_ne_nil hne
    exact hall 0 _ rfl rfl
  · intro hlt i new hget
    obtain ⟨p, -, rfl⟩ := List.mem_map.1 (List.mem_of_getElem? hget)
    exact fun _ => hlt

/-- **An accepted request keeps the bounds in order exactly when the ones it
stores are.** -/
theorem ordered_accepted_iff {db db' : Db} {e : Event} (h : Ordered db)
    (ha : Accepted ext db e db') : Ordered db' ↔ OrderedWrite ext db e := by
  have hremoves : ∀ {db'}, Removes db db' → (Ordered db' ↔ True) :=
    fun hr => iff_true_intro fun b hb hlive => h b (hr.mem hb hlive) hlive
  cases ha with
  -- the paths that insert judge the new rows alone, the others the rows they touch
  | create_booking => exact series_ordered_iff h
  | create_request hplaced => exact children_ordered_iff h (placed_ok hplaced).ne_nil
  | @add_environment user data req initial_state hreq =>
    refine (Table.forall_insert_iff h).trans ⟨fun hnew r hr hid => ?_, fun hall _ => ?_⟩
    · obtain rfl : r = req := Table.eq_of_key_eq hr hreq hid
      exact hnew rfl
    · exact hall req hreq rfl
  | @update_standard_fields user values b hb htenant hlive =>
    refine (Table.forall_update_key_iff h hb).trans ((forall_prop_of_true hlive).trans ?_)
    exact Iff.symm (Table.forall_key_iff (P := fun b => ColumnValue.stored _ b.start_date
      < ColumnValue.stored _ b.end_date) hb)
  | @update_request_standard_fields user values req =>
    refine (Table.forall_update_iff h).trans
      ⟨fun hall r hr hreq hlive => ?_, fun hall r hr hp _ => ?_⟩
    · exact hall r hr (by simp [hreq, hlive]) hlive
    · obtain ⟨hreq, hlive⟩ := of_decide_eq_true hp
      exact hall r hr hreq hlive
  | delete_occurrence hr => exact hremoves hr
  | delete_series hr => exact hremoves hr
  | remove_environment hr => exact hremoves hr
  | transition =>
    refine iff_true_intro ((Table.forall_update_iff h).2 (fun b hb _ => ?_))
    exact h b hb
  | estate => exact iff_true_intro h
  | reference => exact iff_true_intro h

/-! ## Every run -/

/-- **The bounds of every live booking are in order throughout a run exactly when
every request that goes through stores bounds that are.** -/
theorem bookings_ordered_iff (ext : External) (environments : Table Environment Environment.id)
    (reference : Reference) (es : List Event) :
    Runs.Always (step ext) Ordered (Db.fresh environments reference) es ↔
      Runs.Along (step ext) (fun db e => Succeeds ext db e → OrderedWrite ext db e)
        (Db.fresh environments reference) es := by
  have hkeep : ∀ (db : Db) (e : Event), True → True := fun _ _ h => h
  have hexact : ∀ (db : Db) (e : Event), True → Ordered db →
      (Ordered (step ext db e) ↔ (Succeeds ext db e → OrderedWrite ext db e)) := by
    intro db e _ h
    rcases step_cases ext db e with ⟨hrefused, hsame⟩ | ⟨hok, ha⟩
    · rw [hsame]
      exact iff_of_true h (fun hok => absurd hok hrefused)
    · rw [ordered_accepted_iff h ha]
      exact ⟨fun hw _ => hw, fun hw => hw hok⟩
  exact Runs.always_iff_along hkeep hexact trivial
    (fun b hb => absurd hb (Table.not_mem_empty b)) es

/-- **A booking that ends before it starts is accepted.** -/
theorem booking_ends_before_start :
    ¬ Ordered (Runs.run (step Sample.ext) (Db.fresh Sample.environments Sample.reference)
      [.create_booking Sample.admin (Sample.booking 1 1 100 50 false none) 0]) := by
  decide

end EnvMgr.Bookings

/-
One escalation for each contention.

A call that finds a row, or is let through, is answered with the row that stands for
the pair: the first writer's. A call with no other under way does what
`create_escalation` does.
-/
import EnvMgr.Contention.Committed

namespace EnvMgr.Contention

/-- The call with its two bookings named the other way round. -/
def Call.swap (call : Call) : Call :=
  { call with booking_id := call.other_booking_id, other_booking_id := call.booking_id }

theorem Call.swap_pair (call : Call) : call.swap.pair = call.pair := normalise_pair_swap _ _

theorem Call.swap_row (call : Call) : call.swap.row = call.row := by
  have hpair := call.swap_pair
  simp only [Call.row, hpair]
  rfl

namespace Concurrent

variable {n : ℕ} {calls : Fin n → Call}

/-! ## Every call that is let through is answered -/

/-- The call has passed its checks and has not ended. -/
def Phase.passed : Phase → Prop
  | .owned | .refused | .inserted _ => True
  | _ => False

theorem step_proceed (s : State n) (p : Fin n) :
    step calls s (.proceed p) = moved s (advance calls s p).1 p (advance calls s p).2 := rfl

/-- A row that makes an `INSERT` wait is one that another call has inserted. -/
theorem Sound.in_the_way {s : State n} (h : Sound calls s) {p : Fin n} (hph : s.calls p = .owned)
    (htaken : pair_taken s.escalations (calls p).pair)
    (hshown : ¬ pair_taken (visible_rows s) (calls p).pair) :
    ∃ q, q ≠ p ∧ (s.calls q).pending ≠ none ∧ (calls q).pair = (calls p).pair := by
  obtain ⟨r, hr, hpair⟩ := htaken
  have hopen : ¬ committed s r := fun hc => hshown ⟨r, mem_visible_rows.2 ⟨hr, hc⟩, hpair⟩
  simp only [committed, not_forall, not_not] at hopen
  obtain ⟨q, row, hrow, hid⟩ := hopen
  obtain ⟨r', hr', hid', hask⟩ := h.own_row q row.id (Phase.own_of_pending hrow)
  obtain rfl : r' = r := Table.eq_of_key_eq hr' hr (hid'.trans hid)
  refine ⟨q, ?_, ?_, ?_⟩
  · rintro rfl
    rw [hph] at hrow
    cases hrow
  · rw [hrow]
    exact Option.some_ne_none row
  · rw [← hpair, ← r'.ask_pair, hask, Call.row_pair]

/-- Once no other call has the pair under way, two statements are enough. -/
theorem Sound.answered {s : State n} (h : Sound calls s) {p : Fin n} (hpassed : (s.calls p).passed)
    (hfree : ∀ q, q ≠ p → (s.calls q).pending ≠ none → (calls q).pair ≠ (calls p).pair) :
    ∃ row inserted,
      (Runs.run (step calls) s [.proceed p, .proceed p]).calls p = .returned row inserted := by
  have hrun : ∀ rows ph row inserted, advance calls s p = (rows, ph) →
      (advance calls (moved s rows p ph) p).2 = .returned row inserted →
      (Runs.run (step calls) s [.proceed p, .proceed p]).calls p = .returned row inserted := by
    intro rows ph row inserted hfirst hsecond
    rw [Runs.run_cons, Runs.run_cons, Runs.run_nil, step_proceed s, hfirst, step_proceed,
      moved_self, hsecond]
  have hfits := h.fits p
  cases hph : s.calls p with
  | owned =>
    by_cases hshown : pair_taken (visible_rows s) (calls p).pair
    · -- refused, and the second read finds the row
      have hfirst : advance calls s p = (s.escalations, .refused) := by
        simp only [advance, hph, hshown, if_true]
      have hsound : Sound calls (moved s s.escalations p .refused) := by
        have hstep := (sound_step h (.proceed p)).1
        rwa [step_proceed, hfirst] at hstep
      have hrefused := hsound.fits p
      rw [moved_self] at hrefused
      obtain ⟨existing, hfound⟩ := Option.ne_none_iff_exists'.1 (reread_finds hsound hrefused)
      refine ⟨existing, false, hrun _ _ _ _ hfirst ?_⟩
      simp only [advance, moved_self, hfound]
    · -- a row that is there and not shown is an open call's, and no other has the pair
      have htaken : ¬ pair_taken s.escalations (calls p).pair := by
        intro htaken
        obtain ⟨q, hqp, hpending, hpair⟩ := h.in_the_way hph htaken hshown
        exact hfree q hqp hpending hpair
      let row := (calls p).row.row s.escalations.next
      refine ⟨row, true, hrun (s.escalations.insert (calls p).row) (.inserted row) _ _ ?_ ?_⟩
      · simp only [advance, hph, hshown, htaken, if_false]
        rfl
      · simp only [advance, moved_self]
  | refused =>
    rw [hph] at hfits
    obtain ⟨existing, hfound⟩ := Option.ne_none_iff_exists'.1 (reread_finds h hfits)
    refine ⟨existing, false, hrun s.escalations (.returned existing false) _ _ ?_ ?_⟩
    · simp only [advance, hph, hfound]
    · simp only [advance, moved_self]
  | inserted row =>
    refine ⟨row, true, hrun s.escalations (.returned row true) _ _ ?_ ?_⟩
    · simp only [advance, hph]
    · simp only [advance, moved_self]
  | _ =>
    rw [hph] at hpassed
    exact hpassed.elim

/-! ## One call by itself -/

section Alone

variable {s : State n} {p : Fin n}

/-- With nothing under way, the table reads as it is stored. -/
theorem visible_rows_alone (hidle : ∀ q, q ≠ p → (s.calls q).pending = none)
    (rows : EscalationRows) (ph : Phase) (hph : ph.pending = none) :
    visible_rows (moved s rows p ph) = rows := by
  -- only a call that is still open hides a row
  have hcommitted : ∀ r, committed (moved s rows p ph) r := by
    intro r q row hrow
    by_cases hqp : q = p
    · subst hqp
      rw [moved_self, hph] at hrow
      cases hrow
    · rw [moved_of_ne s rows hqp, hidle q hqp] at hrow
      cases hrow
  have hfilter : (rows.rows.filter fun r =>
      !decide (¬ committed (moved s rows p ph) r)) = rows.rows :=
    List.filter_eq_self.2 fun r _ => by simp [hcommitted r]
  cases rows
  simp only [visible_rows, Table.delete, moved] at hfilter ⊢
  simp only [hfilter]

theorem moved_moved (rows rows' : EscalationRows) (ph ph' : Phase) :
    moved (moved s rows p ph) rows' p ph' = moved s rows' p ph' := by
  simp only [moved, Function.update_idem]

/-- What the call makes of the store when nothing comes between its statements. -/
def outcome (s : State n) (p : Fin n)
    (result : Except Raised (EscalationRows × ContentionEscalation × Bool)) : State n :=
  match result with
  | .ok (rows, row, inserted) => moved s rows p (.returned row inserted)
  | .error e => moved s s.escalations p (.raised e)

theorem step_moved (rows : EscalationRows) {rows' : EscalationRows} {ph ph' : Phase}
    (h : advance calls (moved s rows p ph) p = (rows', ph')) :
    step calls (moved s rows p ph) (.proceed p) = moved s rows' p ph' := by
  rw [step_proceed, h, moved_moved]

/-- From `ph`, with the table as it was, `k` statements take the call to its result. -/
def Ends (calls : Fin n → Call) (s : State n) (p : Fin n) (ph : Phase) (k : ℕ)
    (result : Except Raised (EscalationRows × ContentionEscalation × Bool)) : Prop :=
  Runs.run (step calls) (moved s s.escalations p ph) (List.replicate k (.proceed p)) =
    outcome s p result

section Ends

variable {ph ph' : Phase} {k : ℕ}
  {result : Except Raised (EscalationRows × ContentionEscalation × Bool)}

theorem ends_step (hadvance : advance calls (moved s s.escalations p ph) p = (s.escalations, ph'))
    (hends : Ends calls s p ph' k result) : Ends calls s p ph (k + 1) result := by
  unfold Ends
  rw [List.replicate_succ, Runs.run_cons, step_moved s.escalations hadvance]
  exact hends

/-- A call that has ended stays as it is. -/
theorem ends_ended (hended : ∀ t : State n, t.calls p = ph → advance calls t p = (t.escalations, ph))
    (houtcome : moved s s.escalations p ph = outcome s p result) (k : ℕ) :
    Ends calls s p ph k result := by
  induction k with
  | zero => exact houtcome
  | succ k ih => exact ends_step (hended _ (moved_self s s.escalations p ph)) ih

theorem ends_returned (row : ContentionEscalation) (inserted : Bool) (k : ℕ) :
    Ends calls s p (.returned row inserted) k (.ok (s.escalations, row, inserted)) :=
  ends_ended (fun t ht => by simp only [advance, ht]) rfl k

theorem ends_raised (e : Raised) (k : ℕ) : Ends calls s p (.raised e) k (.error e) :=
  ends_ended (fun t ht => by simp only [advance, ht]) rfl k

/-- A check either raises or lets the call go on. -/
theorem ends_check (ph' : Phase) {check : Except Raised Unit}
    (hok : check = .ok () → advance calls (moved s s.escalations p ph) p = (s.escalations, ph'))
    (herror : ∀ e, check = .error e →
      advance calls (moved s s.escalations p ph) p = (s.escalations, .raised e))
    (hends : Ends calls s p ph' k result) :
    Ends calls s p ph (k + 1) (check >>= fun _ => result) := by
  cases hcheck : check with
  | error e => exact ends_step (herror e hcheck) (ends_raised e k)
  | ok u => exact ends_step (hok hcheck) hends

end Ends

section Statements

variable (hidle : ∀ q, q ≠ p → (s.calls q).pending = none)
include hidle

theorem ends_refused : Ends calls s p .refused 1
    ((get_or_raise (get_escalation s.escalations (calls p).pair.1 (calls p).pair.2
      (calls p).tenant_id) .IntegrityError).map fun existing => (s.escalations, existing, false)) := by
  have hread := visible_rows_alone hidle s.escalations .refused rfl
  cases hfound : get_escalation s.escalations (calls p).pair.1 (calls p).pair.2
      (calls p).tenant_id with
  | some existing =>
    refine ends_step ?_ (ends_returned existing false 0)
    simp only [advance, moved_self, moved_escalations, hread, hfound]
  | none =>
    refine ends_step ?_ (ends_raised .IntegrityError 0)
    simp only [advance, moved_self, moved_escalations, hread, hfound]

/-- The two statements of `insert_or_reread`. -/
theorem ends_owned : Ends calls s p .owned 2
    (insert_or_reread s.escalations (calls p)
      (get_escalation s.escalations (calls p).pair.1 (calls p).pair.2 (calls p).tenant_id)) := by
  have hread := visible_rows_alone hidle s.escalations .owned rfl
  by_cases htaken : pair_taken s.escalations (calls p).pair
  · rw [insert_or_reread, if_pos htaken]
    refine ends_step ?_ (ends_refused hidle)
    simp only [advance, moved_self, hread, htaken, if_true]
    rfl
  · have hinserted : advance calls (moved s s.escalations p .owned) p =
        (s.escalations.insert (calls p).row,
          .inserted ((calls p).row.row s.escalations.next)) := by
      simp only [advance, moved_self, hread, htaken, if_false]
      exact if_neg htaken
    have hcommitted : advance calls (moved s (s.escalations.insert (calls p).row) p
        (.inserted ((calls p).row.row s.escalations.next))) p =
        (s.escalations.insert (calls p).row,
          .returned ((calls p).row.row s.escalations.next) true) := by
      simp only [advance, moved_self]
      rfl
    rw [insert_or_reread, if_neg htaken]
    unfold Ends
    rw [List.replicate_succ, Runs.run_cons, step_moved _ hinserted, List.replicate_one,
      Runs.run_cons, step_moved _ hcommitted]
    rfl

/-- The checks of `create_escalation`, and then the insert. -/
theorem ends_absent : Ends calls s p .absent 5 (do
    _assert_in_conflict s.bookings (calls p).pair.1 (calls p).pair.2 (calls p).tenant_id
    find_owner s.users (calls p).owner_user_id (calls p).tenant_id
    insert_or_reread s.escalations (calls p)
      (get_escalation s.escalations (calls p).pair.1 (calls p).pair.2 (calls p).tenant_id)) := by
  rw [_assert_in_conflict, bind_assoc]
  refine ends_check .visible ?_ ?_ (ends_check .in_conflict ?_ ?_
    (ends_check .owned ?_ ?_ (ends_owned hidle)))
  all_goals
    intros
    simp only [advance, moved_self, moved_users, moved_bookings, moved_escalations, *]

end Statements

/-- **The statements of a call are those of `create_escalation`**: taken one after
another, with no other call under way, they do what it does. -/
theorem run_alone (hidle : ∀ q, q ≠ p → (s.calls q).pending = none) (hp : s.calls p = .received) :
    Runs.run (step calls) s (List.replicate 6 (.proceed p)) =
      outcome s p (create_escalation ⟨s.users, s.bookings, s.escalations⟩ (calls p)) := by
  have hstart : moved s s.escalations p .received = s := by
    rw [moved, ← hp, Function.update_eq_self]
  have hread := visible_rows_alone hidle s.escalations .received rfl
  suffices hends : Ends calls s p .received 6
      (create_escalation ⟨s.users, s.bookings, s.escalations⟩ (calls p)) by
    rwa [Ends, hstart] at hends
  rw [create_escalation]
  cases hfound : get_escalation s.escalations (calls p).pair.1 (calls p).pair.2
      (calls p).tenant_id with
  | some existing =>
    refine ends_step ?_ (ends_returned existing false 5)
    simp only [advance, moved_self, moved_escalations, hread, hfound]
  | none =>
    have hends := @ends_absent n calls s p hidle
    rw [hfound] at hends
    refine ends_step ?_ hends
    simp only [advance, moved_self, moved_escalations, hread, hfound]

end Alone

/-! ## One escalation for each contention -/

/-- Some of the calls name their bookings the other way round. -/
def swap_some (swapped : Fin n → Bool) (calls : Fin n → Call) (p : Fin n) : Call :=
  if swapped p then (calls p).swap else calls p

theorem advance_swap_some (swapped : Fin n → Bool) (calls : Fin n → Call) (s : State n)
    (p : Fin n) : advance (swap_some swapped calls) s p = advance calls s p := by
  -- all that a statement reads of a call is the same both ways round
  have hsame : ∀ call : Call, call = calls p ∨ call = (calls p).swap →
      call.pair = (calls p).pair ∧ call.row = (calls p).row ∧
        call.tenant_id = (calls p).tenant_id ∧ call.owner_user_id = (calls p).owner_user_id := by
    rintro call (rfl | rfl)
    · exact ⟨rfl, rfl, rfl, rfl⟩
    · exact ⟨Call.swap_pair _, Call.swap_row _, rfl, rfl⟩
  have hcall : swap_some swapped calls p = calls p ∨ swap_some swapped calls p = (calls p).swap := by
    unfold swap_some
    cases swapped p
    · exact Or.inl rfl
    · exact Or.inr rfl
  obtain ⟨hpair, hrow, htenant, howner⟩ := hsame _ hcall
  simp only [advance, hpair, hrow, htenant, howner]

theorem step_swap_some (swapped : Fin n → Bool) (calls : Fin n → Call) :
    step (swap_some swapped calls) = step calls := by
  funext s e
  cases e with
  | proceed p => rw [step_proceed, step_proceed, advance_swap_some]
  | _ => rfl

/-- A call that comes after the commit is answered at its first statement. -/
theorem Sound.found {s : State n} (h : Sound calls s) {p : Fin n} (hp : s.calls p = .received)
    {r : ContentionEscalation} (hr : r ∈ visible_rows s) (hpair : r.pair = (calls p).pair)
    (htenant : r.tenant_id = (calls p).tenant_id) :
    (step calls s (.proceed p)).calls p = .returned r false := by
  have hmem := (mem_visible_rows.1 hr).1
  have hfound : get_escalation (visible_rows s) (calls p).pair.1 (calls p).pair.2
      (calls p).tenant_id = some r := by
    cases hget : get_escalation (visible_rows s) (calls p).pair.1 (calls p).pair.2
        (calls p).tenant_id with
    | none => exact absurd hpair (get_escalation_none hget hr (h.live r hmem) htenant)
    | some existing =>
      -- whatever is found has the pair, and the pair has one row
      obtain ⟨hmem', hpair', -⟩ := get_escalation_some hget
      rw [h.unique_pair existing (mem_visible_rows.1 hmem').1 r hmem (hpair'.trans hpair.symm)]
  rw [step_proceed, moved_self]
  simp only [advance, hp, hfound]

/-- Two answers for one pair are one row. -/
theorem Sound.same_answer {s : State n} (h : Sound calls s) {p q : Fin n}
    {row row' : ContentionEscalation} {inserted inserted' : Bool}
    (hp : s.calls p = .returned row inserted) (hq : s.calls q = .returned row' inserted')
    (hpair : (calls p).pair = (calls q).pair) : row.ask = row'.ask := by
  have hfits := h.fits p
  have hfits' := h.fits q
  rw [hp] at hfits
  rw [hq] at hfits'
  obtain ⟨r, hr, -, hask, hrow, -⟩ := hfits
  obtain ⟨r', hr', -, hask', hrow', -⟩ := hfits'
  have hsame : r.pair = r'.pair := by
    rw [ContentionEscalation.pair_of_ask hask, ContentionEscalation.pair_of_ask hask', hrow, hrow',
      hpair]
  rw [← hask, ← hask', h.unique_pair r hr r' hr' hsame]

/-- The check that the call makes next raises `e`. -/
def Refuses (s : State n) (call : Call) (e : Raised) : Phase → Prop
  | .absent => _assert_bookings_visible s.bookings call.pair call.tenant_id = .error e
  | .visible => find_conflict s.bookings call.pair.1 call.pair.2 call.tenant_id = .error e
  | .in_conflict => find_owner s.users call.owner_user_id call.tenant_id = .error e
  | .raised e' => e' = e
  | _ => False

theorem Sound.turned_away {s : State n} (h : Sound calls s) {p : Fin n} {e : Raised}
    (hraised : (step calls s (.proceed p)).calls p = .raised e) :
    Refuses s (calls p) e (s.calls p) := by
  rw [step_proceed, moved_self] at hraised
  have hfits := h.fits p
  cases hph : s.calls p with
  | refused =>
    rw [hph] at hfits
    obtain ⟨existing, hfound⟩ := Option.ne_none_iff_exists'.1 (reread_finds h hfits)
    simp only [advance, hph, hfound] at hraised
    cases hraised
  | raised e' =>
    simp only [advance, hph] at hraised
    exact Phase.raised.inj hraised
  | _ =>
    simp only [advance, hph] at hraised
    repeat' split at hraised
    all_goals first
      | (obtain rfl := Phase.raised.inj hraised; assumption)
      | cases hraised

/-- What holds of the committed rows and of the calls, under way or ended. -/
structure FirstWriterWins (calls : Fin n → Call) (s : State n) : Prop where
  one_row : ∀ r ∈ visible_rows s, ∀ r' ∈ visible_rows s,
    normalise_pair r.booking_id r.other_booking_id =
      normalise_pair r'.booking_id r'.other_booking_id → r = r'
  normalised : ∀ r ∈ visible_rows s, r.booking_id < r.other_booking_id
  /-- one call inserted the row, and its owner and deadline are what stands -/
  first_writer : ∀ r ∈ visible_rows s, ∃ p,
    (∃ row, s.calls p = .returned row true ∧ row.id = r.id) ∧
    r.owner_user_id = (calls p).owner_user_id ∧ r.respond_by = (calls p).respond_by ∧
    ∀ q row, s.calls q = .returned row true → row.id = r.id → q = p
  /-- whoever is answered is answered with the row of the pair -/
  same_row : ∀ p row inserted, s.calls p = .returned row inserted →
    ∃ r ∈ visible_rows s, r.ask = row.ask ∧ r.pair = (calls p).pair ∧
      r.tenant_id = (calls p).tenant_id
  /-- both callers, whichever way round each names the pair -/
  both : ∀ p q row row' inserted inserted', s.calls p = .returned row inserted →
    s.calls q = .returned row' inserted' → (calls p).pair = (calls q).pair → row.ask = row'.ask
  /-- a call that comes after the commit is answered with the row at once -/
  found : ∀ p, s.calls p = .received → ∀ r ∈ visible_rows s, r.pair = (calls p).pair →
    r.tenant_id = (calls p).tenant_id →
    (step calls s (.proceed p)).calls p = .returned r false
  /-- only a check turns a call away -/
  turned_away : ∀ p e, (step calls s (.proceed p)).calls p = .raised e →
    Refuses s (calls p) e (s.calls p)
  /-- losing the race is no error -/
  no_error : ∀ p, s.calls p ≠ .raised .IntegrityError
  /-- and whoever is let through is answered -/
  answered : ∀ p, (s.calls p).passed →
    (∀ q, q ≠ p → (s.calls q).pending ≠ none → (calls q).pair ≠ (calls p).pair) →
    ∃ row inserted,
      (Runs.run (step calls) s [.proceed p, .proceed p]).calls p = .returned row inserted
  /-- the statements of a call by itself are `create_escalation` -/
  alone : ∀ p, s.calls p = .received → (∀ q, q ≠ p → (s.calls q).pending = none) →
    Runs.run (step calls) s (List.replicate 6 (.proceed p)) =
      outcome s p (create_escalation ⟨s.users, s.bookings, s.escalations⟩ (calls p))

theorem Sound.first_writer_wins {s : State n} (h : Sound calls s) : FirstWriterWins calls s where
  one_row := by
    intro r hr r' hr' hpair
    obtain ⟨hr, -⟩ := mem_visible_rows.1 hr
    obtain ⟨hr', -⟩ := mem_visible_rows.1 hr'
    rw [normalise_pair_of_le (h.normalised r hr).le,
      normalise_pair_of_le (h.normalised r' hr').le] at hpair
    exact h.unique_pair r hr r' hr' hpair
  normalised := fun r hr => h.normalised r (mem_visible_rows.1 hr).1
  first_writer := by
    intro r hr
    obtain ⟨hr, hcommitted⟩ := mem_visible_rows.1 hr
    obtain ⟨p, hp⟩ := h.writer r hr
    obtain ⟨r', hr', hid, hask⟩ := h.own_row p r.id hp
    obtain rfl : r' = r := Table.eq_of_key_eq hr' hr hid
    have howner : r'.ask.owner_user_id = (calls p).owner_user_id := by rw [hask]; rfl
    have hdeadline : r'.ask.respond_by = (calls p).respond_by := by rw [hask]; rfl
    refine ⟨p, ?_, howner, hdeadline, ?_⟩
    · -- what it inserted is committed, so it has returned it
      cases hph : s.calls p with
      | inserted row =>
        rw [hph] at hp
        have hpending : row ∈ (s.calls p).pending := by rw [hph]; rfl
        exact absurd (Option.some.inj hp) (hcommitted p row hpending)
      | returned row inserted =>
        rw [hph] at hp
        cases inserted with
        | true => exact ⟨row, rfl, Option.some.inj hp⟩
        | false => cases hp
      | _ =>
        rw [hph] at hp
        cases hp
    · intro q row hq hid'
      refine h.one_writer q p r'.id ?_ hp
      rw [hq, ← hid']
      rfl
  same_row := by
    intro p row inserted hp
    have hfits := h.fits p
    rw [hp] at hfits
    obtain ⟨r, hr, hcommitted, hask, hpair, htenant⟩ := hfits
    refine ⟨r, mem_visible_rows.2 ⟨hr, hcommitted⟩, hask, ?_, ?_⟩
    · rw [ContentionEscalation.pair_of_ask hask, hpair]
    · rw [← r.ask_tenant_id, hask, row.ask_tenant_id, htenant]
  both := fun _ _ _ _ _ _ => h.same_answer
  found := fun _ hp _ hr => h.found hp hr
  turned_away := fun _ _ => h.turned_away
  no_error := by
    intro p hp
    have hfits := h.fits p
    rw [hp] at hfits
    exact hfits rfl
  answered := fun _ => h.answered
  alone := fun _ hp hidle => run_alone hidle hp

/-- **One escalation for each contention.** After any interleaving of any calls with
each other and with the writes of others, a pair has one row, that of its first
writer, and every call that is answered is answered with it, a later one at once; a
committed row stays as it was asked for; and nothing depends on which of the two
bookings a call names first. -/
theorem one_escalation_per_contention (n : ℕ) (users : List Auth.User) (bookings : BookingRows)
    (calls : Fin n → Call) (events : List (Event n)) :
    let s := Runs.run (step calls) (start n users bookings) events
    FirstWriterWins calls s ∧
    (∀ r ∈ visible_rows s, ∀ more, ∃ r' ∈ visible_rows (Runs.run (step calls) s more),
      r'.ask = r.ask) ∧
    (∀ swapped, Runs.run (step (swap_some swapped calls)) (start n users bookings) events = s) ∧
    ∀ rows a b tenant_id,
      _assert_in_conflict rows a b tenant_id = _assert_in_conflict rows b a tenant_id := by
  have hsound : Sound calls (Runs.run (step calls) (start n users bookings) events) :=
    sound_run (sound_start users bookings) events
  refine ⟨hsound.first_writer_wins, ?_, ?_, assert_in_conflict_swap⟩
  · intro r hr more
    obtain ⟨hmem, hcommitted⟩ := mem_visible_rows.1 hr
    obtain ⟨r', hr', hc', hask⟩ := (later_run hsound more).rows r hmem hcommitted
    exact ⟨r', mem_visible_rows.2 ⟨hr', hc'⟩, hask⟩
  · intro swapped
    rw [step_swap_some]

end Concurrent

namespace Concurrent.Sample

/-- Three calls for one pair, the second from the other side. -/
def calls (p : Fin 3) : Call :=
  ⟨if p = 1 then 2 else 1, if p = 1 then 1 else 2, 5 + p, 10 * p, ⟨1, 1, "user", false⟩, 1⟩

def bookings : BookingRows :=
  (Table.empty.insert (Bookings.child_row 1 1 1 none ⟨0, 100⟩ "draft")).insert
    (Bookings.child_row 1 2 1 none ⟨50, 150⟩ "draft")

/-- The first two pass every check before either inserts; the third comes last. -/
def raced : State 3 :=
  Runs.run (step calls) (start 3 [⟨5, 1, true⟩, ⟨6, 1, true⟩] bookings)
    ([0, 0, 0, 0, 1, 1, 1, 1, 1, 0, 1, 0, 0].map .proceed)

/-- The row of the race, with the owner and the deadline of the call that inserts it. -/
def row : ContentionEscalation := (calls 1).row.row 1

end Concurrent.Sample

/-- The second call inserts, the first waits and is returned that row, and so is the
third, whose owner is not even a user. -/
theorem Concurrent.one_escalation_per_contention_raced :
    (visible_rows Sample.raced).rows = [Sample.row] ∧
      Sample.raced.calls 1 = .returned Sample.row true ∧
      Sample.raced.calls 0 = .returned Sample.row false ∧
      (step Sample.calls Sample.raced (.proceed 2)).calls 2 = .returned Sample.row false :=
  ⟨by decide, by decide, by decide,
    (one_escalation_per_contention 3 _ _ Sample.calls _).1.found 2 (by decide) Sample.row
      (by decide) (by decide) (by decide)⟩

end EnvMgr.Contention

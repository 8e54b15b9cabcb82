/-
What the calls leave committed, in every interleaving.

A call reads, and may find nothing; it may then lose the race at the constraint,
and reads again. What carries the result across is that a committed row stays,
with the columns the asking wrote, and that a row in the way of an `INSERT` is one
the second read finds: the pair has one tenant, that of its bookings.
-/
import EnvMgr.Contention.Concurrent

namespace EnvMgr.Contention

open EnvMgr.Bookings (Booking)

variable {r : ContentionEscalation} {bookings : BookingRows} {call : Call}
variable {id tenant_id : ℕ} {escalations : EscalationRows}

/-- The row as its `INSERT` wrote it: what `record_decision` leaves alone. -/
def ContentionEscalation.ask (r : ContentionEscalation) : ContentionEscalation :=
  { r with
    decision_yields_booking_id := none
    decision_notes := none
    decided_by := none
    decided_at := none }

@[simp] theorem ContentionEscalation.ask_id (r : ContentionEscalation) : r.ask.id = r.id := rfl

@[simp] theorem ContentionEscalation.ask_pair (r : ContentionEscalation) : r.ask.pair = r.pair :=
  rfl

theorem ContentionEscalation.id_of_ask {r' : ContentionEscalation} (h : r'.ask = r.ask) :
    r'.id = r.id := by
  rw [← r'.ask_id, h, r.ask_id]

theorem ContentionEscalation.pair_of_ask {r' : ContentionEscalation} (h : r'.ask = r.ask) :
    r'.pair = r.pair := by
  rw [← r'.ask_pair, h, r.ask_pair]

@[simp] theorem ContentionEscalation.ask_tenant_id (r : ContentionEscalation) :
    r.ask.tenant_id = r.tenant_id := rfl

@[simp] theorem ContentionEscalation.ask_deleted_at (r : ContentionEscalation) :
    r.ask.deleted_at = r.deleted_at := rfl

@[simp] theorem Call.row_id (call : Call) (id : ℕ) : (call.row.row id).id = id := rfl

@[simp] theorem Call.row_pair (call : Call) (id : ℕ) : (call.row.row id).pair = call.pair := rfl

@[simp] theorem Call.row_ask (call : Call) (id : ℕ) : (call.row.row id).ask = call.row.row id := rfl

/-- A booking of the tenant has this id. -/
def Named (bookings : BookingRows) (tenant_id id : ℕ) : Prop :=
  ∃ b ∈ bookings, b.id = id ∧ b.tenant_id = tenant_id

theorem Visible.named (h : Visible bookings tenant_id id) : Named bookings tenant_id id := by
  obtain ⟨b, hb, hid, htenant, -⟩ := h
  exact ⟨b, hb, hid, htenant⟩

/-- A booking has one tenant. -/
theorem Named.tenant_eq {tenant_id' : ℕ} (h : Named bookings tenant_id id)
    (h' : Named bookings tenant_id' id) :
    tenant_id = tenant_id' := by
  obtain ⟨b, hb, hid, rfl⟩ := h
  obtain ⟨b', hb', hid', rfl⟩ := h'
  rw [Table.eq_of_key_eq hb hb' (hid.trans hid'.symm)]

/-- A booking does not conflict with itself. -/
theorem find_conflict_lt
    (h : find_conflict bookings call.pair.1 call.pair.2 call.tenant_id = .ok ()) :
    call.pair.1 < call.pair.2 := by
  rw [find_conflict, raise_if_eq_ok] at h
  obtain ⟨b, hsome⟩ := Option.ne_none_iff_exists'.1 h
  obtain ⟨hid, -, -, other, -, hconflicts, hother⟩ :=
    of_decide_eq_true (Table.select_one_some hsome).2
  refine lt_of_le_of_ne (normalise_pair_le _ _) fun heq => ?_
  exact hconflicts.2.1 (hother.trans (heq.symm.trans hid.symm))

theorem get_escalation_some
    (h : get_escalation escalations call.pair.1 call.pair.2 call.tenant_id = some r) :
    r ∈ escalations ∧ r.pair = call.pair ∧ r.tenant_id = call.tenant_id := by
  obtain ⟨hr, hcond⟩ := Table.select_one_some h
  rw [call.normalise_pair_pair] at hcond
  obtain ⟨hlower, hhigher, htenant, -⟩ := of_decide_eq_true hcond
  exact ⟨hr, Prod.ext hlower hhigher, htenant⟩

theorem get_escalation_none
    (h : get_escalation escalations call.pair.1 call.pair.2 call.tenant_id = none)
    (hr : r ∈ escalations) (hlive : r.deleted_at = none) (htenant : r.tenant_id = call.tenant_id) :
    r.pair ≠ call.pair := by
  intro hpair
  have hmiss := Table.select_one_none h hr
  rw [call.normalise_pair_pair] at hmiss
  exact of_decide_eq_false hmiss
    ⟨congrArg Prod.fst hpair, congrArg Prod.snd hpair, htenant, hlive⟩

namespace Concurrent

variable {n : ℕ} {calls : Fin n → Call}

/-! ## Who wrote a row -/

/-- The row that the call has inserted, committed or not. -/
def Phase.own : Phase → Option ℕ
  | .inserted row => some row.id
  | .returned row true => some row.id
  | _ => none

theorem Phase.own_of_pending {ph : Phase} {row : ContentionEscalation}
    (h : row ∈ ph.pending) : ph.own = some row.id := by
  cases ph <;> simp_all [Phase.pending, Phase.own]

/-- What a call has made sure of so far. -/
def Fits (s : State n) (call : Call) : Phase → Prop
  | .visible => Named s.bookings call.tenant_id call.pair.1
  | .in_conflict | .owned =>
    Named s.bookings call.tenant_id call.pair.1 ∧ call.pair.1 < call.pair.2
  | .refused =>
    Named s.bookings call.tenant_id call.pair.1 ∧
      ∃ r ∈ s.escalations, committed s r ∧ r.pair = call.pair
  | .inserted row => row = call.row.row row.id
  | .returned row _ => ∃ r ∈ s.escalations, committed s r ∧ r.ask = row.ask ∧
      row.pair = call.pair ∧ row.tenant_id = call.tenant_id
  | .raised e => e ≠ .IntegrityError
  | _ => True

/-- Every row of the table, committed or not, is one call's own, and each call is where its row
puts it. -/
structure Sound (calls : Fin n → Call) (s : State n) : Prop where
  unique_pair : ∀ r ∈ s.escalations, ∀ r' ∈ s.escalations, r.pair = r'.pair → r = r'
  normalised : ∀ r ∈ s.escalations, r.booking_id < r.other_booking_id
  live : ∀ r ∈ s.escalations, r.deleted_at = none
  tenant : ∀ r ∈ s.escalations, Named s.bookings r.tenant_id r.booking_id
  writer : ∀ r ∈ s.escalations, ∃ p, (s.calls p).own = some r.id
  own_row : ∀ p id, (s.calls p).own = some id →
    ∃ r ∈ s.escalations, r.id = id ∧ r.ask = (calls p).row.row id
  one_writer : ∀ p q id, (s.calls p).own = some id → (s.calls q).own = some id → p = q
  fits : ∀ p, Fits s (calls p) (s.calls p)

theorem sound_start (users : List Auth.User) (bookings : BookingRows) :
    Sound calls (start n users bookings) where
  unique_pair := fun r hr => absurd hr (Table.not_mem_empty r)
  normalised := fun r hr => absurd hr (Table.not_mem_empty r)
  live := fun r hr => absurd hr (Table.not_mem_empty r)
  tenant := fun r hr => absurd hr (Table.not_mem_empty r)
  writer := fun r hr => absurd hr (Table.not_mem_empty r)
  own_row := fun p id hp => by simp [start, Phase.own] at hp
  one_writer := fun p q id hp => by simp [start, Phase.own] at hp
  fits := fun _ => trivial

/-! ## What stays -/

/-- Committed rows stay as they were asked for, and bookings keep their tenant. -/
structure Later (s s' : State n) : Prop where
  rows : ∀ r ∈ s.escalations, committed s r →
    ∃ r' ∈ s'.escalations, committed s' r' ∧ r'.ask = r.ask
  named : ∀ tenant_id id, Named s.bookings tenant_id id → Named s'.bookings tenant_id id

theorem Later.refl (s : State n) : Later s s where
  rows := fun r hr hc => ⟨r, hr, hc, rfl⟩
  named := fun _ _ h => h

theorem Later.trans {s s' s'' : State n} (h : Later s s') (h' : Later s' s'') :
    Later s s'' where
  rows := by
    intro r hr hc
    obtain ⟨r', hr', hc', hask⟩ := h.rows r hr hc
    obtain ⟨r'', hr'', hc'', hask'⟩ := h'.rows r' hr' hc'
    exact ⟨r'', hr'', hc'', hask'.trans hask⟩
  named := fun tenant_id id hnamed => h'.named tenant_id id (h.named tenant_id id hnamed)

/-- What a call has made sure of stays so. -/
theorem Fits.later {s s' : State n} (h : Later s s') {ph : Phase}
    (hfits : Fits s call ph) : Fits s' call ph := by
  cases ph with
  | visible => exact h.named _ _ hfits
  | in_conflict => exact ⟨h.named _ _ hfits.1, hfits.2⟩
  | owned => exact ⟨h.named _ _ hfits.1, hfits.2⟩
  | refused =>
    obtain ⟨hnamed, r, hr, hc, hpair⟩ := hfits
    obtain ⟨r', hr', hc', hask⟩ := h.rows r hr hc
    have hpair' := ContentionEscalation.pair_of_ask hask
    exact ⟨h.named _ _ hnamed, r', hr', hc', hpair'.trans hpair⟩
  | returned row inserted =>
    obtain ⟨r, hr, hc, hask, hrow⟩ := hfits
    obtain ⟨r', hr', hc', hask'⟩ := h.rows r hr hc
    exact ⟨r', hr', hc', hask'.trans hask, hrow⟩
  | inserted row => exact hfits
  | raised e => exact hfits
  | received => trivial
  | absent => trivial
  | lost => trivial

/-! ## What a statement does -/

theorem mem_visible_rows {s : State n} :
    r ∈ visible_rows s ↔ r ∈ s.escalations ∧ committed s r := by
  simp [visible_rows]

/-- The row a call has found is the one it returns. -/
theorem fits_found {s : State n} {existing : ContentionEscalation}
    (h : get_escalation (visible_rows s) call.pair.1 call.pair.2 call.tenant_id = some existing) :
    Fits s call (.returned existing false) := by
  obtain ⟨hr, hpair, htenant⟩ := get_escalation_some h
  obtain ⟨hmem, hcommitted⟩ := mem_visible_rows.1 hr
  exact ⟨existing, hmem, hcommitted, rfl, hpair, htenant⟩

/-- **The second read finds the row that was in the way.** Its tenant is that of
its bookings, which the caller has seen. -/
theorem reread_finds {s : State n} (h : Sound calls s) (hfits : Fits s call .refused) :
    get_escalation (visible_rows s) call.pair.1 call.pair.2 call.tenant_id ≠ none := by
  obtain ⟨hnamed, r, hr, hcommitted, hpair⟩ := hfits
  intro hnone
  -- the first booking of the pair has one tenant, the row's and the caller's
  have htenant : r.tenant_id = call.tenant_id := by
    have hrow := h.tenant r hr
    rw [show r.booking_id = call.pair.1 from congrArg Prod.fst hpair] at hrow
    exact hrow.tenant_eq hnamed
  exact get_escalation_none hnone (mem_visible_rows.2 ⟨hr, hcommitted⟩) (h.live r hr) htenant hpair

/-- A check raises an `HTTPException`. -/
theorem fits_raised {s : State n} {c : Prop} [Decidable c] {status_code : ℕ}
    {message : String} {e : Raised} (h : raise_if c (http status_code message) = .error e) :
    Fits s call (.raised e) := by
  rw [← (raise_if_eq_error.1 h).2]
  exact Raised.noConfusion

/-- The statement reads, and the call waits or goes on with what it has found out. -/
def Reads (calls : Fin n → Call) (s : State n) (p : Fin n) : Prop :=
  ∃ ph, advance calls s p = (s.escalations, ph) ∧ (ph = s.calls p ∨
    (s.calls p).own = none ∧ ph.own = none ∧ Fits s (calls p) ph)

/-- One of the three checks before the insertion. -/
theorem reads_check {s : State n} {p : Fin n} (result : Except Raised Unit) (ph : Phase)
    (hown : (s.calls p).own = none) (hnext : ph.own = none)
    (hok : result = .ok () → advance calls s p = (s.escalations, ph) ∧ Fits s (calls p) ph)
    (herror : ∀ e, result = .error e →
      advance calls s p = (s.escalations, .raised e) ∧ Fits s (calls p) (.raised e)) :
    Reads calls s p := by
  cases hresult : result with
  | ok u =>
    obtain ⟨hadvance, hfits⟩ := hok hresult
    exact ⟨ph, hadvance, Or.inr ⟨hown, hnext, hfits⟩⟩
  | error e =>
    obtain ⟨hadvance, hfits⟩ := herror e hresult
    exact ⟨.raised e, hadvance, Or.inr ⟨hown, rfl, hfits⟩⟩

theorem reads_received {s : State n} {p : Fin n} (hph : s.calls p = .received) :
    Reads calls s p := by
  unfold Reads
  rw [hph]
  cases hfound : get_escalation (visible_rows s) (calls p).pair.1 (calls p).pair.2
      (calls p).tenant_id with
  | some existing =>
    refine ⟨.returned existing false, ?_, Or.inr ⟨rfl, rfl, fits_found hfound⟩⟩
    simp only [advance, hph, hfound]
  | none =>
    refine ⟨.absent, ?_, Or.inr ⟨rfl, rfl, trivial⟩⟩
    simp only [advance, hph, hfound]

/-- The insertion is refused for a row that everyone sees, waits for one that is not committed,
and goes through where the pair is free. -/
theorem advance_owned {s : State n} {p : Fin n} (hph : s.calls p = .owned)
    (hfits : Fits s (calls p) .owned) : Reads calls s p ∨
      ¬ pair_taken s.escalations (calls p).pair ∧
        advance calls s p = (s.escalations.insert (calls p).row,
          .inserted ((calls p).row.row s.escalations.next)) := by
  unfold Reads
  rw [hph]
  by_cases hshown : pair_taken (visible_rows s) (calls p).pair
  · have hrow : ∃ r ∈ s.escalations, committed s r ∧ r.pair = (calls p).pair := by
      obtain ⟨r, hr, hpair⟩ := hshown
      obtain ⟨hmem, hcommitted⟩ := mem_visible_rows.1 hr
      exact ⟨r, hmem, hcommitted, hpair⟩
    refine Or.inl ⟨.refused, ?_, Or.inr ⟨rfl, rfl, hfits.1, hrow⟩⟩
    simp only [advance, hph, hshown, if_true]
  · by_cases htaken : pair_taken s.escalations (calls p).pair
    · refine Or.inl ⟨.owned, ?_, Or.inl rfl⟩
      simp only [advance, hph, hshown, htaken, if_true, if_false]
    · refine Or.inr ⟨htaken, ?_⟩
      simp only [advance, hph, hshown, htaken, if_false]

/-- A statement of a call is one of three: it reads and goes on, it inserts, or it
commits what was inserted. -/
theorem advance_cases {s : State n} (h : Sound calls s) (p : Fin n) :
    Reads calls s p ∨
    (s.calls p = .owned ∧ ¬ pair_taken s.escalations (calls p).pair ∧
      advance calls s p = (s.escalations.insert (calls p).row,
        .inserted ((calls p).row.row s.escalations.next))) ∨
    (∃ row, s.calls p = .inserted row ∧
      advance calls s p = (s.escalations, .returned row true)) := by
  have hfits := h.fits p
  cases hph : s.calls p with
  | received => exact Or.inl (reads_received hph)
  | absent =>
    refine Or.inl (reads_check
      (_assert_bookings_visible s.bookings (calls p).pair (calls p).tenant_id) .visible
      (by rw [hph]; rfl) rfl
      (fun hcheck => ⟨?_, (assert_bookings_visible_ok.1 hcheck).1.named⟩)
      fun e hcheck => ⟨?_, fits_raised hcheck⟩)
    · simp only [advance, hph, hcheck]
    · simp only [advance, hph, hcheck]
  | visible =>
    rw [hph] at hfits
    refine Or.inl (reads_check
      (find_conflict s.bookings (calls p).pair.1 (calls p).pair.2 (calls p).tenant_id) .in_conflict
      (by rw [hph]; rfl) rfl
      (fun hcheck => ⟨?_, hfits, find_conflict_lt hcheck⟩) fun e hcheck => ⟨?_, fits_raised hcheck⟩)
    · simp only [advance, hph, hcheck]
    · simp only [advance, hph, hcheck]
  | in_conflict =>
    rw [hph] at hfits
    refine Or.inl (reads_check
      (find_owner s.users (calls p).owner_user_id (calls p).tenant_id) .owned
      (by rw [hph]; rfl) rfl (fun hcheck => ⟨?_, hfits⟩) fun e hcheck => ⟨?_, fits_raised hcheck⟩)
    · simp only [advance, hph, hcheck]
    · simp only [advance, hph, hcheck]
  | owned =>
    rw [hph] at hfits
    exact (advance_owned hph hfits).imp_right fun hinserts => Or.inl ⟨rfl, hinserts⟩
  | refused =>
    -- the row that was in the way is found now
    rw [hph] at hfits
    obtain ⟨existing, hfound⟩ := Option.ne_none_iff_exists'.1 (reread_finds h hfits)
    refine Or.inl ⟨.returned existing false, ?_, Or.inr ⟨by rw [hph]; rfl, rfl, fits_found hfound⟩⟩
    simp only [advance, hph, hfound]
  | inserted row =>
    refine Or.inr (Or.inr ⟨row, rfl, ?_⟩)
    simp only [advance, hph]
  | returned row inserted =>
    refine Or.inl ⟨.returned row inserted, ?_, Or.inl hph.symm⟩
    simp only [advance, hph]
  | raised e =>
    refine Or.inl ⟨.raised e, ?_, Or.inl hph.symm⟩
    simp only [advance, hph]
  | lost =>
    refine Or.inl ⟨.lost, ?_, Or.inl hph.symm⟩
    simp only [advance, hph]

/-! ## Each event keeps it -/

/-- The call moves to `ph`, and the table to `rows`. -/
def moved (s : State n) (rows : EscalationRows) (p : Fin n) (ph : Phase) : State n :=
  { s with escalations := rows, calls := Function.update s.calls p ph }

theorem moved_self (s : State n) (rows : EscalationRows) (p : Fin n) (ph : Phase) :
    (moved s rows p ph).calls p = ph :=
  Function.update_self _ _ _

theorem moved_of_ne (s : State n) (rows : EscalationRows) {p q : Fin n} (h : q ≠ p) (ph : Phase) :
    (moved s rows p ph).calls q = s.calls q :=
  Function.update_of_ne h _ _

@[simp] theorem moved_users (s : State n) (rows : EscalationRows) (p : Fin n) (ph : Phase) :
    (moved s rows p ph).users = s.users := rfl

@[simp] theorem moved_bookings (s : State n) (rows : EscalationRows) (p : Fin n) (ph : Phase) :
    (moved s rows p ph).bookings = s.bookings := rfl

@[simp] theorem moved_escalations (s : State n) (rows : EscalationRows) (p : Fin n) (ph : Phase) :
    (moved s rows p ph).escalations = rows := rfl

/-- What holds of every call after one has moved. -/
theorem forall_moved (s : State n) (rows : EscalationRows) {p : Fin n} {ph : Phase}
    (P : Fin n → Phase → Prop) (hp : P p ph) (hother : ∀ q, q ≠ p → P q (s.calls q)) (q : Fin n) :
    P q ((moved s rows p ph).calls q) :=
  (Function.forall_update_iff s.calls P).2 ⟨hp, hother⟩ q

/-- A row stays committed when the call makes nothing new pending under its id. -/
theorem committed_moved {s : State n} {rows : EscalationRows} {p : Fin n} {ph : Phase}
    (hc : committed s r) (hph : ∀ row ∈ ph.pending, row.id ≠ r.id) :
    committed (moved s rows p ph) r :=
  forall_moved s rows (fun _ ph => ∀ row ∈ ph.pending, row.id ≠ r.id) hph fun q _ => hc q

theorem later_move {s : State n} {p : Fin n} {ph : Phase} (hpending : ph.pending = none) :
    Later s (moved s s.escalations p ph) where
  rows := fun r hr hc => ⟨r, hr, committed_moved hc (by simp [hpending]), rfl⟩
  named := fun _ _ hn => hn

/-- The call moves on and the table stays. -/
theorem Sound.move {s : State n} (h : Sound calls s) {p : Fin n} {ph : Phase}
    (hown : ph.own = (s.calls p).own) (hpending : ph.pending = none)
    (hfits : Fits (moved s s.escalations p ph) (calls p) ph) :
    Sound calls (moved s s.escalations p ph) := by
  have howns : ∀ q, ((moved s s.escalations p ph).calls q).own = (s.calls q).own :=
    forall_moved s s.escalations (fun q ph => ph.own = (s.calls q).own) hown fun _ _ => rfl
  have hlater : Later s (moved s s.escalations p ph) := later_move hpending
  refine
    { unique_pair := h.unique_pair, normalised := h.normalised, live := h.live, tenant := h.tenant
      writer := ?_, own_row := ?_, one_writer := ?_, fits := ?_ }
  · intro r hr
    obtain ⟨q, hq⟩ := h.writer r hr
    exact ⟨q, (howns q).trans hq⟩
  · intro q id hq
    exact h.own_row q id ((howns q).symm.trans hq)
  · intro q q' id hq hq'
    exact h.one_writer q q' id ((howns q).symm.trans hq) ((howns q').symm.trans hq')
  · exact forall_moved s s.escalations (fun q => Fits _ (calls q)) hfits fun q _ =>
      (h.fits q).later hlater

/-- A flushed row has the id that the sequence gave, which no other row has. -/
theorem later_insert {s : State n} {p : Fin n} :
    Later s (moved s (s.escalations.insert call.row) p
      (.inserted (call.row.row s.escalations.next))) where
  rows := by
    intro r hr hc
    refine ⟨r, Table.mem_insert.2 (Or.inl hr), committed_moved hc fun row hrow => ?_, rfl⟩
    obtain rfl : row = call.row.row s.escalations.next := (Option.some.inj hrow).symm
    exact (Table.key_lt_next hr).ne'
  named := fun _ _ hn => hn

/-- Who wrote a row, after an insert. -/
theorem own_insert {s : State n} {p q : Fin n} (hq : ((moved s (s.escalations.insert call.row) p
      (.inserted (call.row.row s.escalations.next))).calls q).own = some id) :
    q = p ∧ id = s.escalations.next ∨ q ≠ p ∧ (s.calls q).own = some id := by
  by_cases hqp : q = p
  · subst hqp
    rw [moved_self] at hq
    exact Or.inl ⟨rfl, (Option.some.inj hq).symm⟩
  · rw [moved_of_ne s _ hqp] at hq
    exact Or.inr ⟨hqp, hq⟩

theorem Sound.insert {s : State n} (h : Sound calls s) {p : Fin n} (hph : s.calls p = .owned)
    (hfree : ¬ pair_taken s.escalations (calls p).pair) :
    Sound calls (moved s (s.escalations.insert (calls p).row) p
      (.inserted ((calls p).row.row s.escalations.next))) := by
  have hfits := h.fits p
  rw [hph] at hfits
  obtain ⟨hnamed, hlt⟩ := hfits
  have hnew : ∀ r ∈ s.escalations, r.pair ≠ (calls p).pair :=
    fun r hr hpair => hfree ⟨r, hr, hpair⟩
  -- the row's id is one that no call has
  have hfresh : ∀ q, (s.calls q).own ≠ some s.escalations.next := by
    intro q hq
    obtain ⟨r, hr, hid, -⟩ := h.own_row q _ hq
    exact (Table.key_lt_next hr).ne hid
  refine
    { unique_pair := ?_
      normalised := (Table.forall_insert_iff h.normalised).2 hlt
      live := (Table.forall_insert_iff h.live).2 rfl
      tenant := (Table.forall_insert_iff h.tenant).2 hnamed
      writer := ?_, own_row := ?_, one_writer := ?_, fits := ?_ }
  · intro r hr r' hr' hpair
    rcases Table.mem_insert.1 hr with hr | rfl <;> rcases Table.mem_insert.1 hr' with hr' | rfl
    · exact h.unique_pair r hr r' hr' hpair
    · exact absurd hpair (hnew r hr)
    · exact absurd hpair.symm (hnew r' hr')
    · rfl
  · intro r hr
    rcases Table.mem_insert.1 hr with hr | rfl
    · -- until now this call had written no row, so the writer is another one
      obtain ⟨q, hq⟩ := h.writer r hr
      have hqp : q ≠ p := by
        rintro rfl
        rw [hph] at hq
        cases hq
      exact ⟨q, by rw [moved_of_ne s _ hqp, hq]⟩
    · exact ⟨p, by rw [moved_self]; rfl⟩
  · intro q id hq
    rcases own_insert hq with ⟨rfl, rfl⟩ | ⟨-, hq⟩
    · exact ⟨_, Table.mem_insert.2 (Or.inr rfl), rfl, rfl⟩
    · obtain ⟨r, hr, hid, hask⟩ := h.own_row q id hq
      exact ⟨r, Table.mem_insert.2 (Or.inl hr), hid, hask⟩
  · intro q q' id hq hq'
    rcases own_insert hq with ⟨hqp, rfl⟩ | ⟨-, hq⟩ <;>
      rcases own_insert hq' with ⟨hqp', hid⟩ | ⟨-, hq'⟩
    · rw [hqp, hqp']
    · exact absurd hq' (hfresh q')
    · subst hid
      exact absurd hq (hfresh q)
    · exact h.one_writer q q' id hq hq'
  · exact forall_moved s (s.escalations.insert (calls p).row) (fun q => Fits _ (calls q)) rfl
      fun q _ => (h.fits q).later later_insert

/-- The commit of a row that the call has inserted. -/
theorem Sound.commit {s : State n} (h : Sound calls s) {p : Fin n} {row : ContentionEscalation}
    (hph : s.calls p = .inserted row) :
    Sound calls (moved s s.escalations p (.returned row true)) := by
  have hrow : row = (calls p).row.row row.id := by
    have hfits := h.fits p
    rw [hph] at hfits
    exact hfits
  have hown : (s.calls p).own = some row.id := by rw [hph]; rfl
  obtain ⟨r, hr, hid, hask⟩ := h.own_row p row.id hown
  refine h.move (by rw [hown]; rfl) rfl ⟨r, hr, ?_, ?_, ?_, ?_⟩
  · -- no other call has inserted this row
    intro q other hother heq
    by_cases hqp : q = p
    · subst hqp
      rw [moved_self] at hother
      cases hother
    · rw [moved_of_ne s _ hqp] at hother
      have howner := Phase.own_of_pending hother
      rw [heq, hid] at howner
      exact hqp (h.one_writer q p row.id howner hown)
  · rw [hask, hrow, Call.row_id, Call.row_ask]
  · rw [hrow, Call.row_pair]
  · rw [hrow]
    rfl

theorem mem_rollback {s : State n} {p : Fin n} :
    r ∈ rollback s p ↔ r ∈ s.escalations ∧ ∀ row ∈ (s.calls p).pending, row.id ≠ r.id := by
  rw [rollback, Table.mem_delete]
  cases (s.calls p).pending <;> simp

theorem later_rollback {s : State n} {p : Fin n} :
    Later s (moved s (rollback s p) p .lost) where
  rows := fun r hr hc => ⟨r, mem_rollback.2 ⟨hr, hc p⟩,
    committed_moved hc (fun _ hrow => by cases hrow), rfl⟩
  named := fun _ _ hn => hn

/-- A call that ends before its commit takes its row with it. -/
theorem Sound.abort {s : State n} (h : Sound calls s) {p : Fin n}
    (hopen : ∀ row inserted, s.calls p ≠ .returned row inserted) :
    Sound calls (moved s (rollback s p) p .lost) := by
  -- what the call owns is what it has pending
  have hown : ∀ id, (s.calls p).own = some id →
      ∃ row ∈ (s.calls p).pending, row.id = id := by
    intro id hid
    cases hph : s.calls p with
    | inserted row =>
      rw [hph] at hid
      exact ⟨row, rfl, Option.some.inj hid⟩
    | returned row inserted => exact absurd hph (hopen row inserted)
    | _ =>
      rw [hph] at hid
      cases hid
  have howns : ∀ q, ∀ id, ((moved s (rollback s p) p .lost).calls q).own = some id →
      q ≠ p ∧ (s.calls q).own = some id := by
    refine forall_moved s (rollback s p)
      (fun q ph => ∀ id, ph.own = some id → q ≠ p ∧ (s.calls q).own = some id) ?_ ?_
    · intro id hid
      cases hid
    · intro q hqp id hq
      exact ⟨hqp, hq⟩
  refine
    { unique_pair := ?_, normalised := ?_, live := ?_, tenant := ?_, writer := ?_, own_row := ?_
      one_writer := ?_, fits := ?_ }
  · intro r hr r' hr'
    exact h.unique_pair r (mem_rollback.1 hr).1 r' (mem_rollback.1 hr').1
  · exact fun r hr => h.normalised r (mem_rollback.1 hr).1
  · exact fun r hr => h.live r (mem_rollback.1 hr).1
  · exact fun r hr => h.tenant r (mem_rollback.1 hr).1
  · intro r hr
    obtain ⟨hmem, hkept⟩ := mem_rollback.1 hr
    obtain ⟨q, hq⟩ := h.writer r hmem
    have hqp : q ≠ p := by
      rintro rfl
      obtain ⟨row, hrow, hid⟩ := hown _ hq
      exact hkept row hrow hid
    exact ⟨q, by rw [moved_of_ne s _ hqp, hq]⟩
  · intro q id hq
    obtain ⟨hqp, hq⟩ := howns q id hq
    obtain ⟨r, hr, hid, hask⟩ := h.own_row q id hq
    refine ⟨r, mem_rollback.2 ⟨hr, fun row hrow heq => hqp ?_⟩, hid, hask⟩
    refine h.one_writer q p id hq ?_
    rw [Phase.own_of_pending hrow, heq, hid]
  · intro q q' id hq hq'
    exact h.one_writer q q' id (howns q id hq).2 (howns q' id hq').2
  · exact forall_moved s (rollback s p) (fun q => Fits _ (calls q)) trivial fun q _ =>
      (h.fits q).later later_rollback

/-- What others write: every row stays as it was asked for, and no booking changes
its tenant. -/
structure Outside (s s' : State n) : Prop where
  calls : s'.calls = s.calls
  old : ∀ r ∈ s'.escalations, ∃ r₀ ∈ s.escalations, r.ask = r₀.ask
  kept : ∀ r ∈ s.escalations, ∃ r' ∈ s'.escalations, r'.ask = r.ask
  named : ∀ tenant_id id, Named s.bookings tenant_id id → Named s'.bookings tenant_id id

theorem Outside.later {s s' : State n} (h : Outside s s') : Later s s' where
  rows := by
    intro r hr hc
    obtain ⟨r', hr', hask⟩ := h.kept r hr
    have hid := ContentionEscalation.id_of_ask hask
    refine ⟨r', hr', fun p row hrow => ?_, hask⟩
    rw [h.calls] at hrow
    rw [hid]
    exact hc p row hrow
  named := h.named

theorem Sound.outside {s s' : State n} (h : Sound calls s) (ho : Outside s s') :
    Sound calls s' := by
  -- rows correspond by what was asked, and that includes the id and the pair
  have hpair := fun {r r₀ : ContentionEscalation} (hask : r.ask = r₀.ask) =>
    ContentionEscalation.pair_of_ask hask
  have hid := fun {r r₀ : ContentionEscalation} (hask : r.ask = r₀.ask) =>
    ContentionEscalation.id_of_ask hask
  refine
    { unique_pair := ?_, normalised := ?_, live := ?_, tenant := ?_, writer := ?_, own_row := ?_
      one_writer := ?_, fits := ?_ }
  · intro r hr r' hr' heq
    obtain ⟨r₀, hr₀, hask⟩ := ho.old r hr
    obtain ⟨r₁, hr₁, hask'⟩ := ho.old r' hr'
    have hsame : r₀ = r₁ :=
      h.unique_pair r₀ hr₀ r₁ hr₁ ((hpair hask).symm.trans (heq.trans (hpair hask')))
    refine Table.eq_of_key_eq hr hr' ?_
    rw [hid hask, hsame, hid hask']
  · intro r hr
    obtain ⟨r₀, hr₀, hask⟩ := ho.old r hr
    have hlt := h.normalised r₀ hr₀
    have hfst : r.booking_id = r₀.booking_id := congrArg Prod.fst (hpair hask)
    have hsnd : r.other_booking_id = r₀.other_booking_id := congrArg Prod.snd (hpair hask)
    rwa [hfst, hsnd]
  · intro r hr
    obtain ⟨r₀, hr₀, hask⟩ := ho.old r hr
    rw [← r.ask_deleted_at, hask]
    exact h.live r₀ hr₀
  · intro r hr
    obtain ⟨r₀, hr₀, hask⟩ := ho.old r hr
    have htenant : r.tenant_id = r₀.tenant_id := by rw [← r.ask_tenant_id, hask, r₀.ask_tenant_id]
    have hfst : r.booking_id = r₀.booking_id := congrArg Prod.fst (hpair hask)
    rw [htenant, hfst]
    exact ho.named _ _ (h.tenant r₀ hr₀)
  · intro r hr
    obtain ⟨r₀, hr₀, hask⟩ := ho.old r hr
    rw [ho.calls, hid hask]
    exact h.writer r₀ hr₀
  · intro p id hp
    rw [ho.calls] at hp
    obtain ⟨r, hr, hrid, hrow⟩ := h.own_row p id hp
    obtain ⟨r', hr', hask⟩ := ho.kept r hr
    exact ⟨r', hr', (hid hask).trans hrid, hask.trans hrow⟩
  · rw [ho.calls]
    exact h.one_writer
  · intro p
    rw [ho.calls]
    exact (h.fits p).later ho.later

/-- An answer leaves the rows as they were asked for. -/
theorem outside_decide (s : State n) (id : ℕ) (decision : Decision) (now : DateTime) :
    Outside s
      { s with escalations := s.escalations.update (fun r => r.id = id) (decision.assign now) } where
  calls := rfl
  old := by
    intro r hr
    rcases Table.mem_update_cases hr with ⟨r₀, hr₀, -, rfl⟩ | ⟨hr, -⟩
    · exact ⟨r₀, hr₀, rfl⟩
    · exact ⟨r, hr, rfl⟩
  kept := by
    have hkept : Table.Retains (fun r r' : ContentionEscalation => r'.ask = r.ask) s.escalations
        (s.escalations.update (fun r => r.id = id) (decision.assign now)) :=
      Table.retains_update (R := fun r r' => r'.ask = r.ask) (fun _ => rfl) s.escalations _
        fun _ => rfl
    exact hkept
  named := fun _ _ h => h

theorem outside_refl (s : State n) : Outside s s :=
  ⟨rfl, fun r hr => ⟨r, hr, rfl⟩, fun r hr => ⟨r, hr, rfl⟩, fun _ _ h => h⟩

theorem outside_users (s : State n) (users : List Auth.User) :
    Outside s { s with users := users } :=
  ⟨rfl, fun r hr => ⟨r, hr, rfl⟩, fun r hr => ⟨r, hr, rfl⟩, fun _ _ h => h⟩

theorem outside_bookings (s : State n)
    (h : Table.Retains (fun b b' => b'.id = b.id ∧ b'.tenant_id = b.tenant_id)
      s.bookings bookings) : Outside s { s with bookings := bookings } where
  calls := rfl
  old := fun r hr => ⟨r, hr, rfl⟩
  kept := fun r hr => ⟨r, hr, rfl⟩
  named := by
    rintro tenant_id id ⟨b, hb, rfl, rfl⟩
    obtain ⟨b', hb', hid, htenant⟩ := h b hb
    exact ⟨b', hb', hid, htenant⟩

/-- **Each event keeps the invariant, and what was committed.** -/
theorem sound_step {s : State n} (h : Sound calls s) (e : Event n) :
    Sound calls (step calls s e) ∧ Later s (step calls s e) := by
  cases e with
  | proceed p =>
    -- it reads, or inserts, or commits
    rcases advance_cases h p with ⟨ph, hadvance, hcase⟩ | ⟨hph, hfree, hadvance⟩ |
      ⟨row, hph, hadvance⟩
    · have hstep : step calls s (.proceed p) = moved s s.escalations p ph := by
        simp only [step, moved, hadvance]
      rw [hstep]
      rcases hcase with rfl | ⟨hnone, hown, hfits⟩
      · have hstay : moved s s.escalations p (s.calls p) = s := by
          simp only [moved, Function.update_eq_self]
        rw [hstay]
        exact ⟨h, Later.refl s⟩
      · have hpending : ph.pending = none := by
          cases hp : ph.pending with
          | none => rfl
          | some row => cases hown.symm.trans (Phase.own_of_pending hp)
        have hlater := later_move (s := s) (p := p) hpending
        exact ⟨h.move (hown.trans hnone.symm) hpending (hfits.later hlater), hlater⟩
    · have hstep : step calls s (.proceed p) = moved s (s.escalations.insert (calls p).row) p
          (.inserted ((calls p).row.row s.escalations.next)) := by
        simp only [step, moved, hadvance]
      rw [hstep]
      exact ⟨h.insert hph hfree, later_insert⟩
    · have hstep : step calls s (.proceed p) = moved s s.escalations p (.returned row true) := by
        simp only [step, moved, hadvance]
      rw [hstep]
      exact ⟨h.commit hph, later_move rfl⟩
  | abort p =>
    by_cases hended : (∃ row inserted, s.calls p = .returned row inserted) ∨
        ∃ e, s.calls p = .raised e
    · -- a call that has ended is not undone
      have hstep : step calls s (.abort p) = s := by
        rcases hended with ⟨row, inserted, hph⟩ | ⟨e, hph⟩ <;> simp only [step, hph]
      rw [hstep]
      exact ⟨h, Later.refl s⟩
    · have hstep : step calls s (.abort p) = moved s (rollback s p) p .lost := by
        cases hph : s.calls p with
        | returned row inserted => exact absurd (Or.inl ⟨row, inserted, hph⟩) hended
        | raised e => exact absurd (Or.inr ⟨e, hph⟩) hended
        | _ => simp only [step, hph, moved]
      rw [hstep]
      exact ⟨h.abort fun row inserted hph => hended (Or.inl ⟨row, inserted, hph⟩),
        later_rollback⟩
  | decide id decision now =>
    have ho : Outside s (step calls s (.decide id decision now)) := by
      simp only [step]
      cases record_decision (visible_rows s) id decision now with
      | ok _ => exact outside_decide s id decision now
      | error _ => exact outside_refl s
    exact ⟨h.outside ho, ho.later⟩
  | user u =>
    have ho := outside_users s (u :: s.users.filter fun other => other.id ≠ u.id)
    exact ⟨h.outside ho, ho.later⟩
  | book new =>
    have ho := outside_bookings s (Table.retains_insert (fun _ => ⟨rfl, rfl⟩) s.bookings new)
    exact ⟨h.outside ho, ho.later⟩
  | rebook selected edit =>
    have ho := outside_bookings s (Table.retains_update (fun _ => ⟨rfl, rfl⟩) s.bookings selected
      (f := edit.toEdit) fun b => ⟨edit.key_apply b, edit.tenant_apply b⟩)
    exact ⟨h.outside ho, ho.later⟩

theorem sound_run {s : State n} (h : Sound calls s) (es : List (Event n)) :
    Sound calls (Runs.run (step calls) s es) := by
  have hstep : ∀ s e, Sound calls s → Sound calls (step calls s e) :=
    fun _ e hs => (sound_step hs e).1
  exact Runs.run_inv hstep h es

theorem later_run {s : State n} (h : Sound calls s) (es : List (Event n)) :
    Later s (Runs.run (step calls) s es) := by
  induction es generalizing s with
  | nil => exact Later.refl s
  | cons e es ih =>
    obtain ⟨hsound, hlater⟩ := sound_step h e
    exact hlater.trans (ih hsound)

end Concurrent

end EnvMgr.Contention

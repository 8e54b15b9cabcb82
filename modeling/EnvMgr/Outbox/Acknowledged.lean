/-
A committed `published_at` is an acknowledged event.

What the rows, the worker's session and the broker's stream have to do with each other,
in every state that is reached: the rows of the session are committed and unpublished,
what the session has set `published_at` on was acknowledged, what reached the broker was
read from a committed row, and what has `published_at` was acknowledged.
-/
import EnvMgr.Outbox.Model

namespace EnvMgr.Outbox

variable {r : EventLog}
variable {tx : ℕ} {stamps : List (ℕ × DateTime)}

variable {s s' : State} {m : Move}

@[simp] theorem mem_unpublished :
    r ∈ unpublished s ↔ r ∈ s.event_log ∧ committed s r ∧ r.published_at = none := by
  rw [unpublished, Table.mem_select, decide_eq_true_eq]

@[simp] theorem mem_written :
    r ∈ written s tx ↔ r ∈ s.event_log ∧ r.xmin = tx ∧ ¬ committed s r := by
  rw [written, Table.mem_select, decide_eq_true_eq]

/-! ## The rows that others see -/

theorem committed_commit :
    committed (commit s tx) r ↔ committed s r ∨ r.xmin = tx := by
  simp only [committed, commit, Table.mem_delete, decide_eq_false_iff_not]
  constructor
  · intro h
    by_cases hr : r.xmin = tx
    · exact Or.inr hr
    · exact Or.inl fun t ht hkey => h t ⟨ht, fun htx => hr (hkey.symm.trans htx)⟩ hkey
  · rintro (h | h) t ⟨ht, htx⟩
    · exact h t ht
    · exact fun hkey => htx (hkey.trans h)

theorem committed_rollback :
    committed (rollback s tx) r ↔ committed s r ∨ r.xmin = tx :=
  committed_commit

theorem committed_begin {now : DateTime} :
    committed (begin_transaction s now) r ↔ committed s r ∧ r.xmin ≠ s.transactions.next := by
  simp only [committed, begin_transaction, Table.mem_insert, or_imp, forall_and, forall_eq,
    ne_comm]

theorem mem_rollback :
    r ∈ (rollback s tx).event_log ↔ r ∈ s.event_log ∧ (r.xmin = tx → committed s r) := by
  simp [rollback]

theorem mem_flush :
    r ∈ (flush s stamps).event_log ↔ ∃ r₀ ∈ s.event_log, (stamp stamps).apply r₀ = r := by
  simp [flush, Table.mem_update]

theorem mem_flush_apply (hr : r ∈ s.event_log) (stamps : List (ℕ × DateTime)) :
    (stamp stamps).apply r ∈ (flush s stamps).event_log :=
  mem_flush.2 ⟨r, hr, rfl⟩

/-- What the `UPDATE` sets, as the lookup sees it. -/
theorem stamped_cases (stamps : List (ℕ × DateTime)) (r : EventLog) :
    (∃ now, (r.id, now) ∈ stamps ∧ ((stamp stamps).apply r).published_at = some now) ∨
      (r.id ∉ stamps.map Prod.fst ∧ (stamp stamps).apply r = r) := by
  cases hlookup : stamps.lookup r.id with
  | some now =>
    refine Or.inl ⟨now, List.lookup_eq_some_iff.1 hlookup |>.elim ?_, ?_⟩
    · rintro l₁ ⟨l₂, rfl, -⟩
      simp
    · simp only [stamp, hlookup, Option.some_or]
  | none =>
    refine Or.inr ⟨?_, ?_⟩
    · intro hmem
      obtain ⟨⟨id, now⟩, hp, rfl⟩ := List.mem_map.1 hmem
      have hne := List.lookup_eq_none_iff.1 hlookup _ hp
      simp at hne
    · simp only [stamp, hlookup, Option.none_or]

/-! ## Rows and transactions -/

/-- The rows of a transaction have its instant, and nothing publishes them while it is
open. -/
structure Consistent (log : Table EventLog EventLog.id)
    (transactions : Table Transaction Transaction.id) : Prop where
  xmin_lt : ∀ r ∈ log, r.xmin < transactions.next
  created_now : ∀ r ∈ log, ∀ t ∈ transactions, t.id = r.xmin → r.created_at = t.now
  created_once : ∀ r ∈ log, ∀ r' ∈ log, r.xmin = r'.xmin → r.created_at = r'.created_at
  open_unpublished : ∀ r ∈ log, ∀ t ∈ transactions, t.id = r.xmin → r.published_at = none

section Consistent

variable {log : Table EventLog EventLog.id} {transactions : Table Transaction Transaction.id}

theorem Consistent.begin_ (h : Consistent log transactions) (new : Table.New Transaction.id) :
    Consistent log (transactions.insert new) := by
  -- no row has the transaction that begins
  have hfresh : ∀ r ∈ log, (new.row transactions.next).id ≠ r.xmin := by
    intro r hr hkey
    have hlt := h.xmin_lt r hr
    rw [← hkey, new.key_row] at hlt
    exact lt_irrefl _ hlt
  refine ⟨fun r hr => Nat.lt_succ_of_lt (h.xmin_lt r hr), ?_, h.created_once, ?_⟩
  · intro r hr t ht hkey
    rcases Table.mem_insert.1 ht with ht | rfl
    · exact h.created_now r hr t ht hkey
    · exact absurd hkey (hfresh r hr)
  · intro r hr t ht hkey
    rcases Table.mem_insert.1 ht with ht | rfl
    · exact h.open_unpublished r hr t ht hkey
    · exact absurd hkey (hfresh r hr)

theorem Consistent.write (h : Consistent log transactions) {db : Transaction}
    (hdb : db ∈ transactions) (data : EventData) :
    Consistent (log.insert (publish_event data db)) transactions := by
  refine ⟨?_, ?_, ?_, ?_⟩
  · intro r hr
    rcases Table.mem_insert.1 hr with hr | rfl
    · exact h.xmin_lt r hr
    · exact Table.key_lt_next hdb
  · intro r hr t ht hkey
    rcases Table.mem_insert.1 hr with hr | rfl
    · exact h.created_now r hr t ht hkey
    · rw [Table.eq_of_key_eq ht hdb hkey]
      rfl
  -- an older row of the transaction has its instant too
  · intro r hr r' hr' hxmin
    rcases Table.mem_insert.1 hr with hr | rfl <;> rcases Table.mem_insert.1 hr' with hr' | rfl
    · exact h.created_once r hr r' hr' hxmin
    · exact h.created_now r hr db hdb hxmin.symm
    · exact (h.created_now r' hr' db hdb hxmin).symm
    · rfl
  · intro r hr t ht hkey
    rcases Table.mem_insert.1 hr with hr | rfl
    · exact h.open_unpublished r hr t ht hkey
    · rfl

/-- Rows and transactions may go. -/
theorem Consistent.mono (h : Consistent log transactions)
    {log' : Table EventLog EventLog.id} {transactions' : Table Transaction Transaction.id}
    (hlog : ∀ r ∈ log', r ∈ log) (htransactions : ∀ t ∈ transactions', t ∈ transactions)
    (hnext : transactions.next ≤ transactions'.next) : Consistent log' transactions' where
  xmin_lt r hr := (h.xmin_lt r (hlog r hr)).trans_le hnext
  created_now r hr t ht := h.created_now r (hlog r hr) t (htransactions t ht)
  created_once r hr r' hr' := h.created_once r (hlog r hr) r' (hlog r' hr')
  open_unpublished r hr t ht := h.open_unpublished r (hlog r hr) t (htransactions t ht)

end Consistent

/-! ## What the worker knows -/

/-- The worker's batch: rows to be published, the first of them sent already. -/
structure Session.Holds (session : Session) (s : State) : Prop where
  waiting : ∀ r ∈ session.waiting, r ∈ unpublished s
  sorted : session.waiting.Pairwise fun a b => a.created_at ≤ b.created_at
  stamps : ∀ p ∈ session.stamps, ∃ r ∈ unpublished s, r.id = p.1 ∧ delivery r true ∈ s.stream
  nodup : (session.stamps.map Prod.fst ++ session.waiting.map EventLog.id).Nodup

/-- Every committed `published_at` is of an acknowledged event. -/
def Acknowledged (s : State) : Prop :=
  ∀ r ∈ s.event_log, committed s r → r.published_at ≠ none → delivery r true ∈ s.stream

structure WellFormed (s : State) : Prop where
  consistent : Consistent s.event_log s.transactions
  holds : ∀ session ∈ s.worker.session, session.Holds s
  sent : ∀ d ∈ s.stream, ∃ r ∈ s.event_log, committed s r ∧ d = delivery r d.acked
  acknowledged : Acknowledged s

theorem start_well_formed : WellFormed start where
  consistent := ⟨by simp [start], by simp [start], by simp [start], by simp [start]⟩
  holds := by simp [start]
  sent := by simp [start]
  acknowledged := by simp [Acknowledged, start]

/-! ## Requests

A request leaves the worker, the stream and every committed row alone. -/

structure Undisturbed (s s' : State) : Prop where
  worker : s'.worker = s.worker
  stream : s'.stream = s.stream
  rows : ∀ r ∈ s.event_log, committed s r → r ∈ s'.event_log ∧ committed s' r
  /-- A row that it adds or commits is unpublished. -/
  new : ∀ r ∈ s'.event_log, (r ∈ s.event_log ∧ committed s r) ∨ r.published_at = none

theorem Undisturbed.unpublished (h : Undisturbed s s')
    (hr : r ∈ Outbox.unpublished s) : r ∈ Outbox.unpublished s' := by
  obtain ⟨hmem, hcommitted, hnone⟩ := mem_unpublished.1 hr
  obtain ⟨hmem', hcommitted'⟩ := h.rows r hmem hcommitted
  exact mem_unpublished.2 ⟨hmem', hcommitted', hnone⟩

theorem Undisturbed.holds (h : Undisturbed s s') {session : Session} (hs : session.Holds s) :
    session.Holds s' where
  waiting r hr := h.unpublished (hs.waiting r hr)
  sorted := hs.sorted
  stamps p hp := by
    obtain ⟨r, hr, hkey, hack⟩ := hs.stamps p hp
    rw [← h.stream] at hack
    exact ⟨r, h.unpublished hr, hkey, hack⟩
  nodup := hs.nodup

theorem Undisturbed.well_formed (h : Undisturbed s s') (hs : WellFormed s)
    (hconsistent : Consistent s'.event_log s'.transactions) : WellFormed s' where
  consistent := hconsistent
  holds session hsession := by
    rw [h.worker] at hsession
    exact h.holds (hs.holds session hsession)
  sent d hd := by
    rw [h.stream] at hd
    obtain ⟨r, hr, hcommitted, hd⟩ := hs.sent d hd
    exact ⟨r, (h.rows r hr hcommitted).1, (h.rows r hr hcommitted).2, hd⟩
  acknowledged r hr _ hpublished := by
    rw [h.stream]
    rcases h.new r hr with ⟨hmem, hcommitted⟩ | hnone
    · exact hs.acknowledged r hmem hcommitted hpublished
    · exact absurd hnone hpublished

/-- Where a row is not committed, its transaction is open. -/
theorem Consistent.unpublished_of_open (h : Consistent s.event_log s.transactions)
    (hr : r ∈ s.event_log) : committed s r ∨ r.published_at = none := by
  by_cases hc : committed s r
  · exact Or.inl hc
  · simp only [committed, not_forall, not_not] at hc
    obtain ⟨t, ht, hkey⟩ := hc
    exact Or.inr (h.open_unpublished r hr t ht hkey)

theorem Step.undisturbed (h : Step s m s') (hs : Consistent s.event_log s.transactions)
    (hm : m.by_worker = false) :
    Undisturbed s s' ∧ Consistent s'.event_log s'.transactions := by
  -- a row that is there already is committed, or still unpublished
  have hold : ∀ r ∈ s.event_log, (r ∈ s.event_log ∧ committed s r) ∨ r.published_at = none := by
    intro r hr
    exact (hs.unpublished_of_open hr).imp (fun hc => ⟨hr, hc⟩) id
  cases h with
  | idle => exact ⟨⟨rfl, rfl, fun r hr hc => ⟨hr, hc⟩, hold⟩, hs⟩
  | begin_ now =>
    refine ⟨⟨rfl, rfl, fun r hr hc => ⟨hr, ?_⟩, hold⟩, hs.begin_ _⟩
    exact committed_begin.2 ⟨hc, (hs.xmin_lt r hr).ne⟩
  | write db data hdb =>
    refine ⟨⟨rfl, rfl, fun r hr hc => ⟨Table.mem_insert.2 (Or.inl hr), hc⟩, ?_⟩, hs.write hdb data⟩
    intro r hr
    rcases Table.mem_insert.1 hr with hr | rfl
    · exact hold r hr
    · exact Or.inr rfl
  | commit tx =>
    refine ⟨⟨rfl, rfl, fun r hr hc => ⟨hr, committed_commit.2 (Or.inl hc)⟩, hold⟩, ?_⟩
    exact hs.mono (fun r hr => hr) (fun t ht => (Table.mem_delete.1 ht).1) le_rfl
  | rollback tx =>
    refine ⟨⟨rfl, rfl, fun r hr hc => ⟨mem_rollback.2 ⟨hr, fun _ => hc⟩, ?_⟩, ?_⟩, ?_⟩
    · exact committed_rollback.2 (Or.inl hc)
    · exact fun r hr => hold r (mem_rollback.1 hr).1
    · exact hs.mono (fun r hr => (mem_rollback.1 hr).1) (fun t ht => (Table.mem_delete.1 ht).1)
        le_rfl
  | leave _ _ hworker => exact absurd hworker (by simp [hm])
  | poll | acked | unacknowledged | flush => cases hm

/-! ## The worker -/

theorem WellFormed.poll (hs : WellFormed s) {answer : List EventLog}
    (hanswer : OrderBy.Answers EventLog.created_at (unpublished s) answer) :
    WellFormed (s.with_worker true (some ⟨[], answer.take BATCH_SIZE⟩)) where
  consistent := hs.consistent
  sent := hs.sent
  acknowledged := hs.acknowledged
  holds session hsession := by
    obtain rfl := Option.some.inj hsession
    refine ⟨fun r hr => hanswer.mem_iff.1 (List.mem_of_mem_take hr), hanswer.sorted_take _,
      by simp, ?_⟩
    have hnodup : (answer.map EventLog.id).Nodup := by
      refine (hanswer.perm.map EventLog.id).nodup_iff.2 ?_
      exact s.event_log.keys_nodup.sublist (List.filter_sublist.map _)
    exact hnodup.sublist ((List.take_sublist _ _).map _)

theorem WellFormed.leave (hs : WellFormed s) (connected : Bool) :
    WellFormed (s.with_worker connected none) where
  consistent := hs.consistent
  sent := hs.sent
  acknowledged := hs.acknowledged
  holds _ hsession := by cases hsession

/-- A message more of a committed row. -/
theorem WellFormed.deliver (hs : WellFormed s) {event : EventLog}
    (hevent : event ∈ unpublished s) (acked : Bool) : WellFormed (s.deliver event acked) where
  consistent := hs.consistent
  sent d hd := by
    rcases List.mem_append.1 hd with hd | hd
    · exact hs.sent d hd
    · obtain rfl := List.mem_singleton.1 hd
      obtain ⟨hmem, hcommitted, -⟩ := mem_unpublished.1 hevent
      exact ⟨event, hmem, hcommitted, rfl⟩
  acknowledged r hr hc hpublished := List.mem_append_left _ (hs.acknowledged r hr hc hpublished)
  holds session hsession := by
    have hholds := hs.holds session hsession
    refine ⟨hholds.waiting, hholds.sorted, fun p hp => ?_, hholds.nodup⟩
    obtain ⟨r, hr, hkey, hack⟩ := hholds.stamps p hp
    exact ⟨r, hr, hkey, List.mem_append_left _ hack⟩

theorem WellFormed.acked (hs : WellFormed s) {event : EventLog} {waiting : List EventLog}
    (hsession : s.worker.session = some ⟨stamps, event :: waiting⟩) (now : DateTime)
    (connected : Bool) :
    WellFormed ((s.deliver event true).with_worker connected
      (some ⟨stamps ++ [(event.id, now)], waiting⟩)) := by
  have hholds := hs.holds _ hsession
  have hevent := hholds.waiting event (List.mem_cons_self ..)
  have hdelivered := hs.deliver hevent true
  refine ⟨hs.consistent, fun session hnew => ?_, hdelivered.sent, hdelivered.acknowledged⟩
  obtain rfl := Option.some.inj hnew
  have hholds' := hdelivered.holds _ hsession
  refine ⟨fun r hr => hholds.waiting r (List.mem_cons_of_mem _ hr), hholds.sorted.of_cons, ?_, ?_⟩
  · intro p hp
    rcases List.mem_append.1 hp with hp | hp
    · exact hholds'.stamps p hp
    · obtain rfl := List.mem_singleton.1 hp
      exact ⟨event, hevent, rfl, List.mem_append_right _ (List.mem_singleton.2 rfl)⟩
  · simpa using hholds.nodup

theorem WellFormed.flush (hs : WellFormed s) (hsession : s.worker.session = some ⟨stamps, []⟩) :
    WellFormed (flush s stamps) where
  consistent := by
    refine ⟨?_, ?_, ?_, ?_⟩
    · intro r hr
      obtain ⟨r₀, hr₀, rfl⟩ := mem_flush.1 hr
      exact hs.consistent.xmin_lt r₀ hr₀
    · intro r hr t ht hkey
      obtain ⟨r₀, hr₀, rfl⟩ := mem_flush.1 hr
      exact hs.consistent.created_now r₀ hr₀ t ht hkey
    · intro r hr r' hr' hxmin
      obtain ⟨r₀, hr₀, rfl⟩ := mem_flush.1 hr
      obtain ⟨r₁, hr₁, rfl⟩ := mem_flush.1 hr'
      exact hs.consistent.created_once r₀ hr₀ r₁ hr₁ hxmin
    · intro r hr t ht hkey
      obtain ⟨r₀, hr₀, rfl⟩ := mem_flush.1 hr
      rcases stamped_cases stamps r₀ with ⟨now, hp, -⟩ | ⟨-, heq⟩
      · -- the row was read by the worker, so its transaction is not open
        obtain ⟨r₁, hr₁, hid, -⟩ := (hs.holds _ hsession).stamps _ hp
        obtain ⟨hmem, hcommitted, -⟩ := mem_unpublished.1 hr₁
        obtain rfl := Table.eq_of_key_eq hmem hr₀ hid
        exact absurd hkey (hcommitted t ht)
      · rw [heq]
        exact hs.consistent.open_unpublished r₀ hr₀ t ht hkey
  holds _ hnew := by cases hnew
  sent d hd := by
    obtain ⟨r, hr, hcommitted, hd⟩ := hs.sent d hd
    exact ⟨_, mem_flush_apply hr stamps, hcommitted, hd⟩
  -- what the commit publishes was acknowledged while the session was open
  acknowledged r hr hcommitted hpublished := by
    obtain ⟨r₀, hr₀, rfl⟩ := mem_flush.1 hr
    rcases stamped_cases stamps r₀ with ⟨now, hp, -⟩ | ⟨-, heq⟩
    · obtain ⟨r₁, hr₁, hid, hack⟩ := (hs.holds _ hsession).stamps _ hp
      obtain rfl := Table.eq_of_key_eq (mem_unpublished.1 hr₁).1 hr₀ hid
      exact hack
    · rw [heq] at hpublished ⊢
      exact hs.acknowledged r₀ hr₀ hcommitted hpublished

/-! ## Runs -/

theorem Step.well_formed (h : Step s m s') (hs : WellFormed s) : WellFormed s' := by
  by_cases hm : m.by_worker = false
  · obtain ⟨hundisturbed, hconsistent⟩ := h.undisturbed hs.consistent hm
    exact hundisturbed.well_formed hs hconsistent
  · cases h with
    | idle => exact hs
    | begin_ | write | commit | rollback => exact absurd rfl hm
    | leave _ connected => exact hs.leave connected
    | poll answer _ hanswer => exact hs.poll hanswer
    | acked now stamps event waiting hsession => exact hs.acked hsession now _
    | unacknowledged stamps event waiting hsession =>
      have hevent := (hs.holds _ hsession).waiting event (List.mem_cons_self ..)
      exact (hs.deliver hevent false).leave false
    | flush stamps hsession => exact hs.flush hsession

theorem step_well_formed (s : State) (m : Move) (hs : WellFormed s) : WellFormed (step s m) :=
  (step_cases s m).well_formed hs

theorem run_well_formed (hs : WellFormed s) (ms : List Move) : WellFormed (Runs.run step s ms) :=
  Runs.run_inv step_well_formed hs ms

end EnvMgr.Outbox

/-
Delivery through the outbox, over whole runs.

What may still go wrong is decided by the commits of the requests. Once two committed
events of an aggregate are not in order, the worker can deliver them the wrong way round:
it can end its session at any point, and what it polls then may come in any order of
`created_at`, ties in any order of all.
-/
import EnvMgr.Outbox.Ordered
import EnvMgr.Outbox.Skipped

namespace EnvMgr.Outbox

variable {s : State}
variable {answer : List EventLog} {e f : EventLog}

/-- Whatever the worker does from here, the first deliveries are in the order of
writing. -/
def DeliversInOrder (s : State) : Prop :=
  ∀ ms : List Move, (∀ m ∈ ms, m.by_worker = true) → FirstInOrder (Runs.run step s ms).stream

theorem DeliversInOrder.run (h : DeliversInOrder s) {ms : List Move}
    (hms : ∀ m ∈ ms, m.by_worker = true) : DeliversInOrder (Runs.run step s ms) := by
  intro ms' hms'
  rw [← Runs.run_append]
  refine h (ms ++ ms') fun m hm => ?_
  exact (List.mem_append.1 hm).elim (hms m) (hms' m)

/-! ## What the worker can do -/

/-- `n` acknowledgements. -/
def acknowledge (n : ℕ) : List Move := List.replicate n (.publish (.acked 0))

theorem acknowledge_by_worker (n : ℕ) : ∀ m ∈ acknowledge n, m.by_worker = true := by
  intro m hm
  rw [(List.mem_replicate.1 hm).2]
  rfl

theorem run_acknowledge {stamps : List (ℕ × DateTime)} {waiting : List EventLog}
    (h : s.worker.session = some ⟨stamps, waiting⟩) :
    Runs.run step s (acknowledge waiting.length) =
      { s with
        stream := s.stream ++ waiting.map (delivery · true)
        worker := ⟨s.worker.connected, some ⟨stamps ++ waiting.map (·.id, 0), []⟩⟩ } := by
  induction waiting generalizing s stamps with
  | nil =>
    obtain ⟨log, transactions, ⟨connected, session⟩, stream⟩ := s
    obtain rfl := h
    simp [acknowledge]
  | cons event waiting ih =>
    have hfirst : step s (.publish (.acked 0)) = (s.deliver event true).with_worker
        s.worker.connected (some ⟨stamps ++ [(event.id, 0)], waiting⟩) := by
      simp only [step, publish, h]
    rw [List.length_cons, acknowledge, List.replicate_succ, Runs.run_cons, hfirst, ← acknowledge,
      ih rfl]
    simp [State.with_worker, State.deliver]

theorem mem_unpublished_flush {stamps : List (ℕ × DateTime)} {r : EventLog} :
    r ∈ unpublished (flush s stamps) ↔ r ∈ unpublished s ∧ r.id ∉ stamps.map Prod.fst := by
  rw [mem_unpublished, mem_flush, mem_unpublished]
  constructor
  · rintro ⟨⟨r₀, hr₀, rfl⟩, hcommitted, hnone⟩
    rcases stamped_cases stamps r₀ with ⟨now, -, hset⟩ | ⟨hnot, heq⟩
    · rw [hset] at hnone
      cases hnone
    · rw [heq] at hcommitted hnone ⊢
      exact ⟨⟨hr₀, hcommitted, hnone⟩, hnot⟩
  · rintro ⟨⟨hr, hcommitted, hnone⟩, hnot⟩
    rcases stamped_cases stamps r with ⟨now, hp, -⟩ | ⟨-, heq⟩
    · exact absurd (List.mem_map_of_mem hp) hnot
    · exact ⟨⟨r, hr, heq⟩, hcommitted, hnone⟩

theorem unpublished_nodup (s : State) : (unpublished s).Nodup :=
  s.event_log.rows_nodup.sublist List.filter_sublist

/-- One batch: the poll, its acknowledgements, and the commit. -/
def batch (answer : List EventLog) : List Move :=
  .poll answer :: acknowledge (answer.take BATCH_SIZE).length ++ [.commit_batch true]

theorem batch_by_worker (answer : List EventLog) : ∀ m ∈ batch answer, m.by_worker = true := by
  intro m hm
  rw [batch, List.mem_append, List.mem_cons, List.mem_singleton] at hm
  rcases hm with (rfl | hm) | rfl
  · rfl
  · exact acknowledge_by_worker _ m hm
  · rfl

/-- Without failures a batch reaches the broker, and is published, as it was returned. -/
theorem run_batch (hidle : s.worker = ⟨true, none⟩)
    (hanswer : OrderBy.Answers EventLog.created_at (unpublished s) answer) (hne : answer ≠ []) :
    Runs.run step s (batch answer) =
      flush { s with stream := s.stream ++ (answer.take BATCH_SIZE).map (delivery · true) }
        ((answer.take BATCH_SIZE).map (·.id, 0)) := by
  have hpoll : step s (.poll answer)
      = s.with_worker true (some ⟨[], answer.take BATCH_SIZE⟩) := by
    rw [step, poll, if_pos ⟨by rw [hidle], by rw [hidle]; rfl, hanswer⟩]
    cases answer with
    | nil => exact absurd rfl hne
    | cons event events => rfl
  rw [batch, List.cons_append, Runs.run_cons, hpoll, Runs.run_append, run_acknowledge rfl]
  simp only [Runs.run_cons, Runs.run_nil, step, commit_batch, if_true, List.nil_append, flush,
    State.with_worker, hidle]

/-- From an idle connection the worker can deliver all that waits, in every order that the
`ORDER BY` allows. -/
theorem exists_drain (hs : WellFormed s) (hidle : s.worker = ⟨true, none⟩)
    (hanswer : OrderBy.Answers EventLog.created_at (unpublished s) answer) :
    ∃ ms : List Move, (∀ m ∈ ms, m.by_worker = true) ∧
      (Runs.run step s ms).stream = s.stream ++ answer.map (delivery · true) := by
  induction hlength : answer.length using Nat.strong_induction_on generalizing s answer with
  | _ n ih =>
    by_cases hne : answer = []
    · subst hne
      exact ⟨[], by simp, by simp⟩
    · have hrun := run_batch hidle hanswer hne
      have hnodup : (answer.take BATCH_SIZE ++ answer.drop BATCH_SIZE).Nodup := by
        rw [List.take_append_drop]
        exact hanswer.perm.nodup_iff.2 (unpublished_nodup s)
      -- what is left is what the limit cut off
      have hrest : OrderBy.Answers EventLog.created_at
          (unpublished (Runs.run step s (batch answer))) (answer.drop BATCH_SIZE) := by
        refine ⟨?_, hanswer.sorted_drop _⟩
        rw [List.perm_ext_iff_of_nodup (List.nodup_append.1 hnodup).2.1 (unpublished_nodup _)]
        intro r
        rw [hrun, mem_unpublished_flush]
        constructor
        · intro hr
          have hwaits : r ∈ unpublished s := hanswer.mem_iff.1 (List.mem_of_mem_drop hr)
          refine ⟨hwaits, fun hid => ?_⟩
          rw [List.map_map] at hid
          obtain ⟨r₀, hr₀, hkey⟩ := List.mem_map.1 hid
          obtain rfl := eq_of_unpublished (hanswer.mem_iff.1 (List.mem_of_mem_take hr₀)) hwaits hkey
          exact (List.nodup_append.1 hnodup).2.2 r₀ hr₀ r₀ hr rfl
        · rintro ⟨hr, hid⟩
          refine (hanswer.mem_take_or_drop BATCH_SIZE hr).resolve_left fun htake => hid ?_
          rw [List.map_map]
          exact List.mem_map.2 ⟨r, htake, rfl⟩
      have hless : (answer.drop BATCH_SIZE).length < n := by
        have hpos := List.length_pos_of_ne_nil hne
        rw [List.length_drop, BATCH_SIZE]
        omega
      have hidle' : (Runs.run step s (batch answer)).worker = ⟨true, none⟩ := by
        rw [hrun]
        simp only [flush, hidle]
      obtain ⟨ms, hms, hstream⟩ := ih _ hless (run_well_formed hs _) hidle' hrest rfl
      refine ⟨batch answer ++ ms, fun m hm => ?_, ?_⟩
      · exact (List.mem_append.1 hm).elim (batch_by_worker answer m) (hms m)
      · rw [Runs.run_append, hstream, hrun]
        simp only [flush, List.append_assoc]
        rw [← List.map_append, List.take_append_drop]

/-- So can it from any state, once it has started anew. -/
theorem exists_delivery (hs : WellFormed s)
    (hanswer : OrderBy.Answers EventLog.created_at (unpublished s) answer) :
    ∃ ms : List Move, (∀ m ∈ ms, m.by_worker = true) ∧
      (Runs.run step s ms).stream = s.stream ++ answer.map (delivery · true) := by
  have hanew : Runs.run step s [.crash, .connect true] = s.with_worker true none := rfl
  obtain ⟨ms, hms, hstream⟩ :=
    exists_drain (s := s.with_worker true none) (hanew ▸ run_well_formed hs _) rfl hanswer
  refine ⟨.crash :: .connect true :: ms, fun m hm => ?_, hstream⟩
  rcases List.mem_cons.1 hm with rfl | hm
  · rfl
  · rcases List.mem_cons.1 hm with rfl | hm
    · rfl
    · exact hms m hm

/-! ## What it can do wrong -/

/-- A waiting event, with one of its aggregate that was written later and is delivered
already or returned before it. -/
theorem not_delivers_in_order (hs : WellFormed s) (he : e ∈ unpublished s) (hnot : ¬ delivered s e)
    (hf : f ∈ s.event_log) (hsame : same_aggregate e f) (hid : e.id < f.id)
    {before after : List EventLog}
    (hanswer : OrderBy.Answers EventLog.created_at (unpublished s) (before ++ e :: after))
    (hfirst : delivered s f ∨ f ∈ before) : ¬ DeliversInOrder s := by
  intro h
  obtain ⟨ms, hms, hstream⟩ := exists_delivery hs hanswer
  have hsplit : (Runs.run step s ms).stream
      = (s.stream ++ before.map (delivery · true))
        ++ delivery e true :: after.map (delivery · true) := by
    rw [hstream, List.map_append, List.map_cons, List.append_assoc]
  have hnodup : (before ++ e :: after).Nodup :=
    hanswer.perm.nodup_iff.2 (unpublished_nodup s)
  have hwaits : ∀ r ∈ before, r ∈ unpublished s :=
    fun r hr => hanswer.mem_iff.1 (List.mem_append_left _ hr)
  -- it has not been delivered before
  have hnew : ∀ d ∈ s.stream ++ before.map (delivery · true), d.event ≠ (delivery e true).event := by
    intro d hd hkey
    rcases List.mem_append.1 hd with hd | hd
    · exact hnot ⟨d, hd, hkey⟩
    · obtain ⟨r, hr, rfl⟩ := List.mem_map.1 hd
      obtain rfl := eq_of_unpublished (hwaits r hr) he hkey
      exact (List.nodup_append.1 hnodup).2.2 r hr r (List.mem_cons_self ..) rfl
  -- but the later one has
  have hlater : ∃ d ∈ s.stream ++ before.map (delivery · true),
      d.same_aggregate (delivery e true) ∧ d.event = f.id := by
    rcases hfirst with ⟨d, hd, hkey⟩ | hf
    · obtain ⟨r, hr, -, heq⟩ := hs.sent d hd
      rw [heq] at hkey
      obtain rfl := Table.eq_of_key_eq hr hf hkey
      refine ⟨d, List.mem_append_left _ hd, ?_, by rw [heq]; exact hkey⟩
      rw [heq]
      exact hsame.symm
    · exact ⟨delivery f true, List.mem_append_right _ (List.mem_map_of_mem hf), hsame.symm, rfl⟩
  obtain ⟨d, hd, hd_same, hkey⟩ := hlater
  have hlt := h ms hms _ _ _ hsplit hnew d hd hd_same
  rw [hkey] at hlt
  exact lt_asymm hid hlt

theorem not_delivers_in_order_of_delivered (hs : WellFormed s) (he : e ∈ unpublished s)
    (hnot : ¬ delivered s e) (hf : f ∈ s.event_log) (hsame : same_aggregate e f) (hid : e.id < f.id)
    (hfirst : delivered s f) :
    ¬ DeliversInOrder s := by
  obtain ⟨answer, hanswer⟩ := OrderBy.exists_answers EventLog.created_at (unpublished s)
  obtain ⟨before, after, rfl⟩ := List.append_of_mem (hanswer.mem_iff.2 he)
  exact not_delivers_in_order hs he hnot hf hsame hid hanswer (Or.inl hfirst)

theorem not_delivers_in_order_of_tie (hs : WellFormed s) (he : e ∈ unpublished s)
    (hnot : ¬ delivered s e) (hf : f ∈ unpublished s) (hsame : same_aggregate e f)
    (hid : e.id < f.id) (hle : f.created_at ≤ e.created_at) :
    ¬ DeliversInOrder s := by
  have hne : f ≠ e := by
    rintro rfl
    exact lt_irrefl _ hid
  obtain ⟨answer, hanswer, hpair⟩ := OrderBy.exists_answers_pair hf he hne hle
  obtain ⟨front, back, rfl, hfront, hback⟩ := List.cons_sublist_iff.1 hpair
  obtain ⟨middle, after, rfl⟩ := List.append_of_mem (List.singleton_sublist.1 hback)
  rw [← List.append_assoc] at hanswer
  exact not_delivers_in_order hs he hnot (mem_unpublished.1 hf).1 hsame hid hanswer
    (Or.inr (List.mem_append_left _ hfront))

/-- The worker sends the rest of its batch, which has the later event only. -/
theorem not_delivers_in_order_of_in_hand (hs : WellFormed s) (he : e ∈ unpublished s)
    (hnot : ¬ delivered s e) (hf : f ∈ s.event_log) (hsame : same_aggregate e f) (hid : e.id < f.id)
    (hhand : in_hand s f) (hout : ¬ in_hand s e) : ¬ DeliversInOrder s := by
  obtain ⟨⟨stamps, waiting⟩, hsession, hfw⟩ := hhand
  intro h
  have hrun := run_acknowledge hsession
  have hs' := run_well_formed hs (acknowledge waiting.length)
  have h' := h.run (acknowledge_by_worker waiting.length)
  rw [hrun] at hs' h'
  refine not_delivers_in_order_of_delivered hs' he ?_ hf hsame hid ?_ h'
  · rintro ⟨d, hd, hkey⟩
    rcases List.mem_append.1 hd with hd | hd
    · exact hnot ⟨d, hd, hkey⟩
    · obtain ⟨r, hr, rfl⟩ := List.mem_map.1 hd
      have hwaits := (hs.holds _ hsession).waiting r hr
      obtain rfl := eq_of_unpublished hwaits he hkey
      exact hout ⟨_, hsession, hr⟩
  · exact ⟨delivery f true, List.mem_append_right _ (List.mem_map_of_mem hfw), rfl⟩

/-! ## The order that holds whatever the worker does -/

theorem delivers_in_order_iff (hs : WellFormed s) :
    DeliversInOrder s ↔ FirstInOrder s.stream ∧ InOrder s := by
  constructor
  · intro h
    refine ⟨h [] (by simp), fun e he hce f hf hcf hsame hid => ?_⟩
    by_contra hbefore
    rw [Before, not_or] at hbefore
    obtain ⟨hnot, hbefore⟩ := hbefore
    -- the pair is not in order: the worker can deliver the later event first
    have hwaits : ∀ r ∈ s.event_log, committed s r → ¬ delivered s r → r ∈ unpublished s := by
      intro r hr hc hnot
      refine mem_unpublished.2 ⟨hr, hc, ?_⟩
      by_contra hpublished
      exact hnot ⟨_, hs.acknowledged r hr hc hpublished, rfl⟩
    have hew := hwaits e he hce hnot
    by_cases hfirst : delivered s f
    · exact not_delivers_in_order_of_delivered hs hew hnot hf hsame hid hfirst h
    · by_cases hcreated : e.created_at < f.created_at
      · have hhand : ¬ (in_hand s f → in_hand s e) := fun hhand => hbefore ⟨hfirst, hcreated, hhand⟩
        rw [Classical.not_imp] at hhand
        exact not_delivers_in_order_of_in_hand hs hew hnot hf hsame hid hhand.1 hhand.2 h
      · exact not_delivers_in_order_of_tie hs hew hnot (hwaits f hf hcf hfirst) hsame hid
          (not_lt.1 hcreated) h
  · rintro ⟨hfirst, hi⟩ ms hms
    -- no step of the worker is a commit of a request
    induction ms generalizing s with
    | nil => exact hfirst
    | cons m ms ih =>
      have hstep := step_cases s m
      have hworker := hms m (List.mem_cons_self ..)
      have hm : ∀ tx, m ≠ .commit tx := by
        rintro tx rfl
        cases hworker
      exact ih (hstep.well_formed hs) (hstep.first_in_order hs hi hfirst)
        (hstep.in_order hs hm hi) fun m' hm' => hms m' (List.mem_cons_of_mem _ hm')

/-! ## Runs -/

/-- What the outbox is for: what is published was acknowledged, nothing is skipped, and
each aggregate's events are delivered in the order of writing. -/
structure Delivers (s : State) : Prop where
  acknowledged : Acknowledged s
  none_skipped : NoneSkipped s
  in_order : DeliversInOrder s

/-- Only a commit can break the order, and which ones do is seen from the transaction. -/
def keeps_order (s : State) : Move → Prop
  | .commit tx => CommitsInOrder s tx
  | _ => True

theorem delivers_iff (hs : WellFormed s) : Delivers s ↔ FirstInOrder s.stream ∧ InOrder s := by
  rw [← delivers_in_order_iff hs]
  exact ⟨fun h => h.in_order, fun h => ⟨hs.acknowledged, none_skipped hs, h⟩⟩

theorem delivers_step_iff (s : State) (m : Move) (hs : WellFormed s) (h : Delivers s) :
    Delivers (step s m) ↔ keeps_order s m := by
  obtain ⟨hfirst, hi⟩ := (delivers_iff hs).1 h
  have hstep := step_cases s m
  rw [delivers_iff (hstep.well_formed hs), and_iff_right (hstep.first_in_order hs hi hfirst)]
  by_cases hm : ∃ tx, m = .commit tx
  · obtain ⟨tx, rfl⟩ := hm
    exact in_order_commit_iff hs hi tx
  · rw [not_exists] at hm
    have hkeeps : keeps_order s m := by
      cases m with
      | commit tx => exact absurd rfl (hm tx)
      | _ => trivial
    exact iff_of_true (hstep.in_order hs hm hi) hkeeps

theorem start_delivers : Delivers start :=
  (delivers_iff start_well_formed).2 ⟨first_in_order_nil, by simp [InOrder, start]⟩

/-- **The outbox delivers, in order, exactly the runs whose commits are in order.** -/
theorem delivers_along_iff (ms : List Move) :
    Runs.Always step Delivers start ms ↔ Runs.Along step keeps_order start ms :=
  Runs.always_iff_along step_well_formed delivers_step_iff start_well_formed start_delivers ms

/-! ## One transaction, two events -/

namespace Sample

def environment_event (event_type : String) : EventData :=
  ⟨event_type, 7, "Environment", "{}", 1⟩

def reversed_answer : List EventLog :=
  [(publish_event (environment_event "EnvironmentUpdated") ⟨1, 0⟩).row 2,
    (publish_event (environment_event "EnvironmentCreated") ⟨1, 0⟩).row 1]

/-- A request creates an environment and updates it; the database returns the two rows of
the transaction, equal in `created_at`, the second one first. -/
def reversed : List Move :=
  [.begin_ 0, .write 1 (environment_event "EnvironmentCreated"),
    .write 1 (environment_event "EnvironmentUpdated"), .commit 1, .connect true,
    .poll reversed_answer, .publish (.acked 1), .publish (.acked 2), .commit_batch true]

end Sample

theorem reversed_is_not_in_order :
    ((Runs.run step start Sample.reversed).stream.map Delivery.event = [2, 1]) ∧
      ¬ FirstInOrder (Runs.run step start Sample.reversed).stream := by
  have hstream : (Runs.run step start Sample.reversed).stream
      = Sample.reversed_answer.map (delivery · true) := by
    rfl
  rw [hstream]
  refine ⟨rfl, fun h => ?_⟩
  have hlt := h [delivery (Sample.reversed_answer[0]) true]
    (delivery (Sample.reversed_answer[1]) true) [] rfl (by decide) _
    (List.mem_singleton.2 rfl) ⟨rfl, rfl⟩
  exact absurd hlt (by decide)

end EnvMgr.Outbox

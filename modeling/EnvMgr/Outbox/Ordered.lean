/-
First deliveries in the order of writing.

Two committed events of an aggregate are in order as long as the one that was written
first has been delivered, or the other has not, was created later, and is not in the
worker's batch without it. Every step of the worker keeps them so, as does every step of a
request but its commit: the commit is what adds events, and it keeps the order exactly if
the transaction meets the condition of `CommitsInOrder`.
-/
import EnvMgr.Outbox.Acknowledged

namespace EnvMgr.Outbox

variable {e f r event : EventLog}

variable {s s' : State} {m : Move}

/-! ## The stream -/

def Delivery.same_aggregate (a b : Delivery) : Prop :=
  a.data.aggregate_type = b.data.aggregate_type ∧ a.data.aggregate_id = b.data.aggregate_id

/-- Where an event reaches the broker for the first time, the events of its aggregate that
have reached it already were written before. -/
def FirstInOrder (stream : List Delivery) : Prop :=
  ∀ earlier d later, stream = earlier ++ d :: later → (∀ d' ∈ earlier, d'.event ≠ d.event) →
    ∀ d' ∈ earlier, d'.same_aggregate d → d'.event < d.event

theorem first_in_order_nil : FirstInOrder [] := by
  intro earlier d later hnil
  cases earlier <;> cases hnil

theorem first_in_order_concat {stream : List Delivery} {d : Delivery} (h : FirstInOrder stream)
    (hd : (∀ d' ∈ stream, d'.event ≠ d.event) →
      ∀ d' ∈ stream, d'.same_aggregate d → d'.event < d.event) :
    FirstInOrder (stream ++ [d]) := by
  intro earlier d₀ later heq
  rcases List.eq_nil_or_concat later with rfl | ⟨later, last, rfl⟩
  · obtain ⟨rfl, hlast⟩ := List.append_inj' heq rfl
    obtain rfl := List.singleton_inj.1 hlast
    exact hd
  · rw [List.concat_eq_append, ← List.cons_append, ← List.append_assoc] at heq
    obtain ⟨rfl, -⟩ := List.append_inj' heq rfl
    exact h earlier d₀ later rfl

/-! ## Pairs of events -/

def delivered (s : State) (r : EventLog) : Prop := ∃ d ∈ s.stream, d.event = r.id
  deriving Decidable

/-- The worker is about to send the row. -/
def in_hand (s : State) (r : EventLog) : Prop :=
  ∃ session ∈ s.worker.session, r ∈ session.waiting
  deriving Decidable

/-- `e`, written before `f`, is delivered before `f`. -/
def Before (s : State) (e f : EventLog) : Prop :=
  delivered s e ∨
    (¬ delivered s f ∧ e.created_at < f.created_at ∧ (in_hand s f → in_hand s e))

def InOrder (s : State) : Prop :=
  ∀ e ∈ s.event_log, committed s e → ∀ f ∈ s.event_log, committed s f →
    same_aggregate e f → e.id < f.id → Before s e f

/-- What the transaction wrote meets the events of its aggregates that are committed
already, and each other, in the order of writing. -/
structure CommitsInOrder (s : State) (tx : ℕ) : Prop where
  alone : ∀ e ∈ written s tx, ∀ f ∈ written s tx, same_aggregate e f → e = f
  after : ∀ e ∈ written s tx, ∀ f ∈ s.event_log, committed s f → same_aggregate f e →
    f.id < e.id → delivered s f ∨ f.created_at < e.created_at
  before : ∀ e ∈ written s tx, ∀ f ∈ s.event_log, committed s f → same_aggregate e f →
    e.id < f.id → ¬ delivered s f ∧ ¬ in_hand s f ∧ e.created_at < f.created_at

theorem same_aggregate.symm (h : same_aggregate e f) : same_aggregate f e :=
  ⟨h.1.symm, h.2.symm⟩

/-! ## What is not committed -/

theorem WellFormed.committed_of_delivered (hs : WellFormed s)
    (hr : r ∈ s.event_log) (h : delivered s r) : committed s r := by
  obtain ⟨d, hd, hid⟩ := h
  obtain ⟨r₀, hr₀, hcommitted, heq⟩ := hs.sent d hd
  rw [heq] at hid
  obtain rfl := Table.eq_of_key_eq hr₀ hr hid
  exact hcommitted

theorem WellFormed.unpublished_of_in_hand (hs : WellFormed s) (h : in_hand s r) :
    r ∈ unpublished s := by
  obtain ⟨session, hsession, hr⟩ := h
  exact (hs.holds session hsession).waiting r hr

theorem WellFormed.committed_of_in_hand (hs : WellFormed s) (h : in_hand s r) :
    committed s r :=
  (mem_unpublished.1 (hs.unpublished_of_in_hand h)).2.1

/-! ## The commit of a transaction -/

theorem in_order_commit_iff (hs : WellFormed s) (hi : InOrder s) (tx : ℕ) :
    InOrder (commit s tx) ↔ CommitsInOrder s tx := by
  -- what is committed now is neither delivered nor in the worker's batch
  have hnew : ∀ e ∈ written s tx, committed (commit s tx) e ∧ ¬ delivered s e ∧ ¬ in_hand s e := by
    intro e he
    obtain ⟨hmem, hxmin, hopen⟩ := mem_written.1 he
    exact ⟨committed_commit.2 (Or.inr hxmin), fun h => hopen (hs.committed_of_delivered hmem h),
      fun h => hopen (hs.committed_of_in_hand h)⟩
  have hold : ∀ f, committed s f → committed (commit s tx) f :=
    fun f hf => committed_commit.2 (Or.inl hf)
  constructor
  · intro h
    refine ⟨?_, ?_, ?_⟩
    · -- the two would have one instant
      have hlt : ∀ e ∈ written s tx, ∀ f ∈ written s tx, same_aggregate e f → ¬ e.id < f.id := by
        intro e he f hf hsame hid
        obtain ⟨hemem, hexmin, -⟩ := mem_written.1 he
        obtain ⟨hfmem, hfxmin, -⟩ := mem_written.1 hf
        rcases h e hemem (hnew e he).1 f hfmem (hnew f hf).1 hsame hid with hd | ⟨-, hcreated, -⟩
        · exact (hnew e he).2.1 hd
        · exact hcreated.ne (hs.consistent.created_once e hemem f hfmem (hexmin.trans hfxmin.symm))
      intro e he f hf hsame
      refine Table.eq_of_key_eq (mem_written.1 he).1 (mem_written.1 hf).1 ?_
      exact le_antisymm (not_lt.1 (hlt f hf e he hsame.symm)) (not_lt.1 (hlt e he f hf hsame))
    · intro e he f hf hcommitted hsame hid
      have hbefore := h f hf (hold f hcommitted) e (mem_written.1 he).1 (hnew e he).1 hsame hid
      exact hbefore.imp id fun hb => hb.2.1
    · intro e he f hf hcommitted hsame hid
      have hbefore := h e (mem_written.1 he).1 (hnew e he).1 f hf (hold f hcommitted) hsame hid
      obtain ⟨hnot, hcreated, hhand⟩ := hbefore.resolve_left (hnew e he).2.1
      exact ⟨hnot, fun hf => (hnew e he).2.2 (hhand hf), hcreated⟩
  · intro h e he hce f hf hcf hsame hid
    have hcases : ∀ r ∈ s.event_log, committed (commit s tx) r → committed s r ∨ r ∈ written s tx := by
      intro r hr hc
      by_cases hcommitted : committed s r
      · exact Or.inl hcommitted
      · exact Or.inr (mem_written.2 ⟨hr, (committed_commit.1 hc).resolve_left hcommitted, hcommitted⟩)
    rcases hcases e he hce with hce | hwe <;> rcases hcases f hf hcf with hcf | hwf
    · exact hi e he hce f hf hcf hsame hid
    · refine (h.after f hwf e he hce hsame hid).imp id fun hcreated => ?_
      exact ⟨(hnew f hwf).2.1, hcreated, fun hhand => absurd hhand (hnew f hwf).2.2⟩
    · obtain ⟨hnot, hhand, hcreated⟩ := h.before e hwe f hf hcf hsame hid
      exact Or.inr ⟨hnot, hcreated, fun hf => absurd hf hhand⟩
    · exact absurd hid (by rw [h.alone e hwe f hwf hsame]; exact lt_irrefl _)

/-! ## The other steps -/

/-- Nothing but a commit adds to what others see. -/
theorem Step.committed_old (h : Step s m s') (hm : ∀ tx, m ≠ .commit tx)
    (hworker : m.by_worker = false) (hr : r ∈ s'.event_log)
    (hc : committed s' r) : r ∈ s.event_log ∧ committed s r := by
  cases h with
  | idle => exact ⟨hr, hc⟩
  | begin_ => exact ⟨hr, (committed_begin.1 hc).1⟩
  | write db data hdb =>
    rcases Table.mem_insert.1 hr with hr | rfl
    · exact ⟨hr, hc⟩
    · exact absurd rfl (hc db hdb)
  | commit tx => exact absurd rfl (hm tx)
  | rollback tx =>
    obtain ⟨hr, hxmin⟩ := mem_rollback.1 hr
    exact ⟨hr, (committed_rollback.1 hc).elim id hxmin⟩
  | leave _ _ hleave => exact absurd hleave (by simp [hworker])
  | poll | acked | unacknowledged | flush => cases hworker

theorem Before.undisturbed (h : Undisturbed s s') (hb : Before s e f) :
    Before s' e f := by
  rw [Before, delivered, delivered, in_hand, in_hand, h.stream, h.worker]
  exact hb

/-- Without a batch the third condition is void. -/
theorem Before.leave (hb : Before s e f) (connected : Bool) :
    Before (s.with_worker connected none) e f := by
  refine hb.imp id fun ⟨hnot, hcreated, _⟩ => ⟨hnot, hcreated, fun hhand => ?_⟩
  obtain ⟨session, hsession, -⟩ := hhand
  cases hsession

/-- A batch that has the later event has the earlier one. -/
theorem Before.poll (hs : WellFormed s) {answer : List EventLog}
    (hanswer : OrderBy.Answers EventLog.created_at (unpublished s) answer)
    (he : e ∈ s.event_log) (hc : committed s e) (hb : Before s e f) :
    Before (s.with_worker true (some ⟨[], answer.take BATCH_SIZE⟩)) e f := by
  by_cases hd : delivered s e
  · exact Or.inl hd
  · obtain ⟨hnot, hcreated, -⟩ := hb.resolve_left hd
    refine Or.inr ⟨hnot, hcreated, fun hhand => ⟨_, rfl, ?_⟩⟩
    obtain ⟨session, hsession, hf⟩ := hhand
    obtain rfl := Option.some.inj hsession
    -- an event that is not delivered is not published
    have hnone : e.published_at = none := by
      by_contra hpublished
      exact hd ⟨_, hs.acknowledged e he hc hpublished, rfl⟩
    exact hanswer.mem_take_of_lt (mem_unpublished.2 ⟨he, hc, hnone⟩) hf hcreated

theorem delivered_deliver {acked : Bool} :
    delivered (s.deliver event acked) r ↔ delivered s r ∨ event.id = r.id := by
  simp only [delivered, State.deliver, List.mem_append, List.mem_singleton, or_and_right,
    exists_or, exists_eq_left]
  exact Iff.rfl

/-- The first of the batch is delivered before whatever was written after it. -/
theorem Before.deliver (hs : WellFormed s) {stamps : List (ℕ × DateTime)} {waiting : List EventLog}
    (hsession : s.worker.session = some ⟨stamps, event :: waiting⟩) (hf : f ∈ s.event_log)
    (hb : Before s e f) (acked : Bool) (session : Option Session)
    (hrest : ∀ session' ∈ session, session'.waiting = waiting) (connected : Bool) :
    Before ((s.deliver event acked).with_worker connected session) e f := by
  by_cases hd : delivered (s.deliver event acked) e
  · exact Or.inl hd
  · rw [delivered_deliver, not_or] at hd
    obtain ⟨hnot, hcreated, hhand⟩ := hb.resolve_left hd.1
    have hholds := hs.holds _ hsession
    have hmem : ∀ {r}, in_hand s r → r ∈ event :: waiting := by
      rintro r ⟨session₀, hsession₀, hr⟩
      obtain rfl := Option.some.inj (hsession.symm.trans hsession₀)
      exact hr
    -- were it the later event, the earlier one would stand before it
    have hne : event.id ≠ f.id := by
      intro hid
      have hevent := hholds.waiting event (List.mem_cons_self ..)
      obtain rfl := Table.eq_of_key_eq (mem_unpublished.1 hevent).1 hf hid
      have he := hmem (hhand ⟨_, hsession, List.mem_cons_self ..⟩)
      rcases List.mem_cons.1 he with rfl | he
      · exact hd.2 rfl
      · exact absurd hcreated (not_lt.2 (List.rel_of_pairwise_cons hholds.sorted he))
    refine Or.inr ⟨fun hdf => ?_, hcreated, ?_⟩
    · exact (delivered_deliver.1 hdf).elim hnot hne
    · rintro ⟨session', hsession', hfmem⟩
      have hwaiting := hrest session' hsession'
      rw [hwaiting] at hfmem
      have he := hmem (hhand ⟨_, hsession, List.mem_cons_of_mem _ hfmem⟩)
      refine ⟨session', hsession', ?_⟩
      rw [hwaiting]
      exact (List.mem_cons.1 he).resolve_left fun heq => hd.2 (congrArg EventLog.id heq).symm

theorem Step.in_order (h : Step s m s') (hs : WellFormed s) (hm : ∀ tx, m ≠ .commit tx)
    (hi : InOrder s) : InOrder s' := by
  by_cases hworker : m.by_worker = false
  · intro e he hce f hf hcf hsame hid
    obtain ⟨he, hce⟩ := h.committed_old hm hworker he hce
    obtain ⟨hf, hcf⟩ := h.committed_old hm hworker hf hcf
    exact (hi e he hce f hf hcf hsame hid).undisturbed (h.undisturbed hs.consistent hworker).1
  · cases h with
    | idle => exact hi
    | begin_ | write | commit | rollback => exact absurd rfl hworker
    | leave _ connected =>
      intro e he hce f hf hcf hsame hid
      exact (hi e he hce f hf hcf hsame hid).leave connected
    | poll answer _ hanswer =>
      intro e he hce f hf hcf hsame hid
      exact (hi e he hce f hf hcf hsame hid).poll hs hanswer he hce
    | acked now stamps event waiting hsession =>
      intro e he hce f hf hcf hsame hid
      refine (hi e he hce f hf hcf hsame hid).deliver hs hsession hf true _ ?_ _
      rintro session' ⟨⟩
      rfl
    | unacknowledged stamps event waiting hsession =>
      intro e he hce f hf hcf hsame hid
      refine (hi e he hce f hf hcf hsame hid).deliver hs hsession hf false none ?_ false
      rintro session' ⟨⟩
    -- ids and instants stay, and the batch is gone
    | flush stamps hsession =>
      intro e he hce f hf hcf hsame hid
      obtain ⟨e₀, he₀, rfl⟩ := mem_flush.1 he
      obtain ⟨f₀, hf₀, rfl⟩ := mem_flush.1 hf
      refine (hi e₀ he₀ hce f₀ hf₀ hcf hsame hid).imp id fun ⟨hnot, hcreated, _⟩ =>
        ⟨hnot, hcreated, fun hhand => ?_⟩
      obtain ⟨session, hsession, -⟩ := hhand
      cases hsession

/-- What the worker sends next keeps the first deliveries in order. -/
theorem first_in_order_deliver (hs : WellFormed s) (hi : InOrder s) (h : FirstInOrder s.stream)
    (hevent : event ∈ unpublished s) (acked : Bool) :
    FirstInOrder (s.deliver event acked).stream := by
  refine first_in_order_concat h fun hfirst d hd hsame => ?_
  obtain ⟨hmem, hcommitted, -⟩ := mem_unpublished.1 hevent
  obtain ⟨r, hr, hc, heq⟩ := hs.sent d hd
  have hne := hfirst d hd
  rw [heq] at hne hsame ⊢
  have hpair : same_aggregate event r := same_aggregate.symm hsame
  by_contra hlt
  have hid : event.id < r.id := lt_of_le_of_ne (not_lt.1 hlt) hne.symm
  rcases hi event hmem hcommitted r hr hc hpair hid with ⟨d', hd', hkey⟩ | ⟨hnot, -⟩
  · exact hfirst d' hd' hkey
  · exact hnot ⟨d, hd, by rw [heq]; rfl⟩

theorem Step.first_in_order (h : Step s m s') (hs : WellFormed s) (hi : InOrder s)
    (hfirst : FirstInOrder s.stream) : FirstInOrder s'.stream := by
  cases h with
  | idle | begin_ | write | commit | rollback | leave | poll | flush => exact hfirst
  | acked now stamps event waiting hsession =>
    exact first_in_order_deliver hs hi hfirst
      ((hs.holds _ hsession).waiting event (List.mem_cons_self ..)) true
  | unacknowledged stamps event waiting hsession =>
    exact first_in_order_deliver hs hi hfirst
      ((hs.holds _ hsession).waiting event (List.mem_cons_self ..)) false

end EnvMgr.Outbox

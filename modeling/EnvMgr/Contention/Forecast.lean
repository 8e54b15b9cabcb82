/-
Forward contention: the pairs of `contention_forecast_service.py`, folded per booking.

Each pair has a state, from its escalation and the clock, and each requested booking gets the
most actionable state of the pairs it is in. The fold goes over the pairs in some order and
over both sides of each; it is a minimum, so neither matters.
-/
import EnvMgr.Compliance.Policy
import EnvMgr.Contention.Escalation
import EnvMgr.Lib.Least

namespace EnvMgr.Contention

open EnvMgr.Bookings (Active Booking Conflict is_pair_iff mem_overlapping_pairs overlapping_pairs
  rows_of_pair)
open EnvMgr.Compliance (expiry_boundary)

variable {pairs : List (ℕ × ℕ)} {requested : List ℕ} {id : ℕ}

/-! ## Escalations -/

/-- `uq_contention_pair`. -/
def PairUnique (escalations : EscalationRows) : Prop :=
  ∀ r ∈ escalations, ∀ r' ∈ escalations, r.pair = r'.pair → r = r'

/-- The table, with its constraint. -/
structure Escalations where
  rows : EscalationRows
  pair_unique : PairUnique rows

/-- The state of an escalation, which is computed and never stored. -/
inductive EscalationState
  | answered
  | expired
  | open_
  deriving DecidableEq

/-- The order of the branches is the rule: answering late is still answering. -/
def escalation_state (escalation : ContentionEscalation) (now : DateTime) : EscalationState :=
  if escalation.decided_at ≠ none then .answered
  else if escalation.respond_by < expiry_boundary now then .expired
  else .open_

/-- Keyed by the pair as given. -/
def escalations_for_pairs (escalations : EscalationRows) (pairs : List (ℕ × ℕ))
    (tenant_id : ℕ) : Index (ℕ × ℕ) ContentionEscalation :=
  let wanted := pairs.map fun pair => normalise_pair pair.1 pair.2
  let rows := escalations.select fun r =>
    r.tenant_id = tenant_id ∧ r.deleted_at = none ∧ r.pair ∈ wanted
  let by_normalised := Index.collect (fun r => some r.pair) rows
  Index.tabulate (fun pair => by_normalised.get (normalise_pair pair.1 pair.2)) pairs

/-! ## The fold -/

inductive ContentionState
  | unowned
  | owned
  | decided
  deriving DecidableEq

/-- Most actionable first. -/
def _PRECEDENCE : List ContentionState := [.unowned, .owned, .decided]

def ContentionState.rank (s : ContentionState) : ℕ := _PRECEDENCE.idxOf s

/-- `min(current, candidate, key=_PRECEDENCE.index)`. -/
def _more_actionable (current : Option ContentionState) (candidate : ContentionState) :
    ContentionState :=
  lesser ContentionState.rank current candidate

/-- The state of a pair. An expired escalation still has its owner. -/
def pair_state (escalation : Option ContentionEscalation) (now : DateTime) : ContentionState :=
  match escalation with
  | none => .unowned
  | some escalation => if escalation_state escalation now = .answered then .decided else .owned

/-- One turn of the loop over the pairs: both sides, those that were not requested apart. -/
def fold_pair (requested : List ℕ) (escalations : Index (ℕ × ℕ) ContentionEscalation)
    (now : DateTime) (states : Index ℕ ContentionState) (pair : ℕ × ℕ) :
    Index ℕ ContentionState :=
  [pair.1, pair.2].foldl (fun states booking_id =>
    if booking_id ∈ requested then
      states.set booking_id
        (_more_actionable (states.get booking_id) (pair_state (escalations.get pair) now))
    else states) states

/-- The fold over `pairs`, in the order they come. -/
def states_of_pairs (escalations : EscalationRows) (tenant_id : ℕ) (requested : List ℕ)
    (now : DateTime) (pairs : List (ℕ × ℕ)) : Index ℕ ContentionState :=
  pairs.foldl
    (fold_pair requested (escalations_for_pairs escalations pairs tenant_id) now) Index.empty

def contention_states_for_bookings (db : Bookings.Db) (escalations : Escalations)
    (tenant_id : ℕ) (booking_ids : List ℕ) (now : DateTime) : Index ℕ ContentionState :=
  if booking_ids = [] then Index.empty
  else
    let pairs := overlapping_pairs db tenant_id (some booking_ids) none
    if pairs = [] then Index.empty
    else states_of_pairs escalations.rows tenant_id booking_ids now pairs

/-! ## The constraint -/

/-! ## What the fold computes -/

section

variable {db : Bookings.Db} {tenant_id : ℕ} {now : DateTime}

/-- The dictionary answers as the page of one contention does. -/
theorem get_escalations_for_pairs (escalations : Escalations) {pair : ℕ × ℕ}
    (hpair : pair ∈ pairs) :
    (escalations_for_pairs escalations.rows pairs tenant_id).get pair =
      get_escalation escalations.rows pair.1 pair.2 tenant_id := by
  simp only [escalations_for_pairs, Index.get_tabulate, if_pos hpair, get_escalation]
  refine Option.ext fun r => ?_
  constructor
  · intro h
    obtain ⟨hr, hkey⟩ := Index.get_collect_some h
    obtain ⟨hr, hp⟩ := Table.mem_select.1 hr
    obtain ⟨htenant, hlive, -⟩ := of_decide_eq_true hp
    obtain ⟨hfirst, hsecond⟩ := Prod.mk.inj (Option.some.inj hkey)
    refine Table.select_one_eq hr (decide_eq_true ⟨hfirst, hsecond, htenant, hlive⟩) ?_
    intro r' hr' hp'
    obtain ⟨hfirst', hsecond', -⟩ := of_decide_eq_true hp'
    exact escalations.pair_unique r' hr' r hr
      (Prod.ext (hfirst'.trans hfirst.symm) (hsecond'.trans hsecond.symm))
  · intro h
    obtain ⟨hr, hp⟩ := Table.select_one_some h
    obtain ⟨hfirst, hsecond, htenant, hlive⟩ := of_decide_eq_true hp
    have hkey : r.pair = normalise_pair pair.1 pair.2 := Prod.ext hfirst hsecond
    refine Index.get_collect_of_unique (Table.mem_select.2 ⟨hr, decide_eq_true ?_⟩)
      (congrArg some hkey) (fun r' hr' hkey' => ?_)
    · exact ⟨htenant, hlive, hkey ▸ List.mem_map_of_mem hpair⟩
    · exact escalations.pair_unique r' (Table.mem_select.1 hr').1 r hr
        ((Option.some.inj hkey').trans hkey.symm)

/-- What the pairs give to the bookings, in the order it is given. -/
def given (requested : List ℕ) (state : ℕ × ℕ → ContentionState) (pairs : List (ℕ × ℕ)) :
    List (ℕ × ContentionState) :=
  pairs.flatMap fun pair =>
    ([pair.1, pair.2].filter fun id => id ∈ requested).map fun id => (id, state pair)

theorem states_of_pairs_eq (escalations : EscalationRows) (requested : List ℕ)
    (pairs : List (ℕ × ℕ)) :
    states_of_pairs escalations tenant_id requested now pairs =
      Index.keep_least ContentionState.rank (given requested
        (fun pair => pair_state ((escalations_for_pairs escalations pairs tenant_id).get pair) now)
        pairs) := by
  rw [states_of_pairs, Index.keep_least, given, List.foldl_flatMap]
  refine congrArg (fun f => List.foldl f Index.empty pairs) ?_
  funext states pair
  rw [List.foldl_map, List.foldl_filter, fold_pair]
  simp only [_more_actionable, decide_eq_true_eq]

/-- The booking is one of the two. -/
def TakesPart (booking_id : ℕ) (pair : ℕ × ℕ) : Prop :=
  booking_id = pair.1 ∨ booking_id = pair.2

/-- The state of a pair, as the page of its contention has it. -/
def state_of (escalations : Escalations) (tenant_id : ℕ) (now : DateTime) (pair : ℕ × ℕ) :
    ContentionState :=
  pair_state (get_escalation escalations.rows pair.1 pair.2 tenant_id) now

/-- One of the pairs that the booking is in has the state, and none of them has a more
actionable one. -/
structure IsMost (pairs : List (ℕ × ℕ)) (state : ℕ × ℕ → ContentionState) (booking_id : ℕ)
    (s : ContentionState) : Prop where
  attained : ∃ pair ∈ pairs, TakesPart booking_id pair ∧ state pair = s
  least : ∀ pair ∈ pairs, TakesPart booking_id pair → s.rank ≤ (state pair).rank

/-- It depends on the pairs that the booking is in. -/
theorem is_most_congr {pairs' : List (ℕ × ℕ)} {state : ℕ × ℕ → ContentionState} {booking_id : ℕ}
    {s : ContentionState} (h : ∀ pair, TakesPart booking_id pair → (pair ∈ pairs ↔ pair ∈ pairs')) :
    IsMost pairs state booking_id s ↔ IsMost pairs' state booking_id s := by
  constructor
  · rintro ⟨⟨pair, hpair, hside, hs⟩, hleast⟩
    exact ⟨⟨pair, (h pair hside).1 hpair, hside, hs⟩,
      fun pair hpair hside => hleast pair ((h pair hside).2 hpair) hside⟩
  · rintro ⟨⟨pair, hpair, hside, hs⟩, hleast⟩
    exact ⟨⟨pair, (h pair hside).2 hpair, hside, hs⟩,
      fun pair hpair hside => hleast pair ((h pair hside).1 hpair) hside⟩

theorem mem_given {state : ℕ × ℕ → ContentionState} {s : ContentionState} :
    (id, s) ∈ given requested state pairs ↔
      id ∈ requested ∧ ∃ pair ∈ pairs, TakesPart id pair ∧ state pair = s := by
  simp only [given, List.mem_flatMap, List.mem_map, List.mem_filter, decide_eq_true_eq,
    List.mem_cons, List.not_mem_nil, or_false, Prod.mk.injEq]
  constructor
  · rintro ⟨pair, hpair, id', ⟨hside, hrequested⟩, rfl, hs⟩
    exact ⟨hrequested, pair, hpair, hside, hs⟩
  · rintro ⟨hrequested, pair, hpair, hside, hs⟩
    exact ⟨pair, hpair, id, ⟨hside, hrequested⟩, rfl, hs⟩

theorem rank_injective : Function.Injective ContentionState.rank := by
  intro s s' h
  cases s <;> cases s' <;> first | rfl | exact absurd h (by decide)

/-- The states that a requested booking is given are those of its pairs. -/
theorem mem_given_states (escalations : Escalations) {s : ContentionState} :
    s ∈ Index.values_of (given requested (fun pair =>
        pair_state ((escalations_for_pairs escalations.rows pairs tenant_id).get pair) now)
        pairs) id ↔
      id ∈ requested ∧ ∃ pair ∈ pairs, TakesPart id pair ∧
        state_of escalations tenant_id now pair = s := by
  rw [Index.mem_values_of, mem_given]
  refine and_congr_right fun _ => exists_congr fun pair => and_congr_right fun hpair => ?_
  rw [get_escalations_for_pairs escalations hpair, state_of]

/-- **The fold gives the most actionable state.** -/
theorem get_states_of_pairs (escalations : Escalations) {s : ContentionState} :
    (states_of_pairs escalations.rows tenant_id requested now pairs).get id = some s ↔
      id ∈ requested ∧ IsMost pairs (state_of escalations tenant_id now) id s := by
  rw [states_of_pairs_eq, Index.get_keep_least,
    least_eq_some_iff (fun v _ w _ h => rank_injective h)]
  simp only [mem_given_states]
  constructor
  · rintro ⟨⟨hrequested, hsome⟩, hleast⟩
    refine ⟨hrequested, hsome, fun pair hpair hside => ?_⟩
    exact hleast _ ⟨hrequested, pair, hpair, hside, rfl⟩
  · rintro ⟨hrequested, hsome, hleast⟩
    refine ⟨⟨hrequested, hsome⟩, ?_⟩
    rintro w ⟨-, pair, hpair, hside, rfl⟩
    exact hleast pair hpair hside

theorem get_states_none (escalations : Escalations) :
    (states_of_pairs escalations.rows tenant_id requested now pairs).get id = none ↔
      (id ∈ requested → ∀ pair ∈ pairs, ¬ TakesPart id pair) := by
  rw [states_of_pairs_eq, Index.get_keep_least, least_eq_none, List.eq_nil_iff_forall_not_mem]
  simp only [mem_given_states]
  constructor
  · intro hnone hrequested pair hpair hside
    exact hnone _ ⟨hrequested, pair, hpair, hside, rfl⟩
  · rintro hnone s ⟨hrequested, pair, hpair, hside, -⟩
    exact hnone hrequested pair hpair hside

/-- The early returns are what the fold over no pair gives. -/
theorem contention_states_eq (db : Bookings.Db) (escalations : Escalations) (tenant_id : ℕ)
    (booking_ids : List ℕ) (now : DateTime) :
    contention_states_for_bookings db escalations tenant_id booking_ids now =
      states_of_pairs escalations.rows tenant_id booking_ids now
        (overlapping_pairs db tenant_id (some booking_ids) none) := by
  have hnone : ∀ {pairs : List (ℕ × ℕ)}, pairs = [] →
      states_of_pairs escalations.rows tenant_id booking_ids now pairs = Index.empty := by
    rintro _ rfl
    rfl
  simp only [contention_states_for_bookings]
  split
  · rename_i hids
    refine (hnone (List.eq_nil_iff_forall_not_mem.2 fun pair hpair => ?_)).symm
    obtain ⟨a, ha, b, hb, rfl⟩ := rows_of_pair hpair
    have hside := ((mem_overlapping_pairs ha hb).1 hpair).2.1 booking_ids rfl
    rw [hids] at hside
    simp at hside
  · split
    · rename_i hpairs
      exact (hnone hpairs).symm
    · rfl

/-- For a requested booking, asking for its pairs leaves none out. -/
theorem mem_pairs_of_requested {booking_ids : List ℕ} (hid : id ∈ booking_ids) {pair : ℕ × ℕ}
    (hside : TakesPart id pair) :
    pair ∈ overlapping_pairs db tenant_id (some booking_ids) none ↔
      pair ∈ overlapping_pairs db tenant_id none none := by
  constructor
  · intro hpair
    obtain ⟨a, ha, b, hb, rfl⟩ := rows_of_pair hpair
    have hboth := ((mem_overlapping_pairs ha hb).1 hpair).1
    exact (mem_overlapping_pairs ha hb).2 ⟨hboth, by simp, by simp⟩
  · intro hpair
    obtain ⟨a, ha, b, hb, rfl⟩ := rows_of_pair hpair
    have hboth := ((mem_overlapping_pairs ha hb).1 hpair).1
    refine (mem_overlapping_pairs ha hb).2 ⟨hboth, ?_, by simp⟩
    rintro ids hids
    obtain rfl := Option.some.inj hids
    rcases hside with rfl | rfl
    · exact Or.inl hid
    · exact Or.inr hid

end

/-! ## The forecast -/

/-- What the forecast is meant to say. -/
structure MostActionable (db : Bookings.Db) (escalations : Escalations) (tenant_id : ℕ)
    (booking_ids : List ℕ) (now : DateTime) (states : Index ℕ ContentionState) : Prop where
  /-- A requested booking has the most actionable state of all the tenant's pairs that it is
  in. -/
  most : ∀ id s, states.get id = some s ↔ id ∈ booking_ids ∧
    IsMost (overlapping_pairs db tenant_id none none) (state_of escalations tenant_id now) id s
  /-- A booking that was not requested has none. -/
  outside : ∀ id, id ∉ booking_ids → states.get id = none
  /-- A requested one has none if and only if it is in no pair. -/
  omitted : ∀ id ∈ booking_ids, states.get id = none ↔
    ∀ pair ∈ overlapping_pairs db tenant_id none none, ¬ TakesPart id pair

/-- **Every requested booking gets the most actionable state of its pairs**, in whatever
order they come. -/
theorem forecast_most_actionable (db : Bookings.Db) (escalations : Escalations) (tenant_id : ℕ)
    (booking_ids : List ℕ) (now : DateTime) :
    MostActionable db escalations tenant_id booking_ids now
        (contention_states_for_bookings db escalations tenant_id booking_ids now) ∧
      ∀ pairs : List (ℕ × ℕ),
        pairs.Perm (overlapping_pairs db tenant_id (some booking_ids) none) → ∀ id,
          (states_of_pairs escalations.rows tenant_id booking_ids now pairs).get id =
            (contention_states_for_bookings db escalations tenant_id booking_ids now).get id := by
  rw [contention_states_eq]
  refine ⟨⟨fun id s => ?_, fun id hid => ?_, fun id hid => ?_⟩, fun pairs hperm id => ?_⟩
  · rw [get_states_of_pairs]
    exact and_congr_right fun hid => is_most_congr fun pair => mem_pairs_of_requested hid
  · exact (get_states_none escalations).2 fun hmem => absurd hmem hid
  · rw [get_states_none]
    constructor
    · intro hnone pair hpair hside
      exact hnone hid pair ((mem_pairs_of_requested hid hside).2 hpair) hside
    · intro hnone _ pair hpair hside
      exact hnone pair ((mem_pairs_of_requested hid hside).1 hpair) hside
  · refine Option.ext fun s => ?_
    rw [get_states_of_pairs, get_states_of_pairs]
    exact and_congr_right fun _ => is_most_congr fun pair _ => hperm.mem_iff

end EnvMgr.Contention

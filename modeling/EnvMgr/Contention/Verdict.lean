/-
Which of two bookings in contention has to give way: the verdict of
`contention_service.py`.

Rank separates a pair only when both projects have one; protection separates a
pair only when rank does not. Neither order applies to every pair, and still the
two together never send a chain of bookings round: `precedence` puts both on one
line.
-/
import EnvMgr.Bookings.Model
import EnvMgr.Lib.Acyclic

namespace EnvMgr.Contention

open EnvMgr.Bookings

variable {a_id b_id tenant_id : ℕ} {pairs : List (ℕ × ℕ)} {db : Db}

/-! ## What the verdict reads -/

/-- What `_ranks_for` reports of a booking. The project and its rank are columns
of one outer join, so there is no rank without a project. -/
structure Standing where
  /-- The project that the request names. -/
  requested : Option ℕ
  /-- That project, when the tenant can see it. -/
  project : Option ℕ
  rank : Option ℤ
  level : Option ProtectionLevel
  project_of_rank : rank.isSome → project.isSome
  deriving DecidableEq

/-- Four `None`s. -/
def missing : Standing := ⟨none, none, none, none, by simp⟩

/-- The project of a request through the filtered join. -/
def resolved_project (db : Db) (r : BookingRequest) (tenant_id : ℕ) : Option Project :=
  db.reference.projects.find? fun p =>
    some p.id = r.project_id ∧ p.tenant_id = tenant_id ∧ p.deleted_at = none

/-- A row of the query. -/
def standing_of_row (db : Db) (r : BookingRequest) (tenant_id : ℕ) : Standing where
  requested := r.project_id
  project := (resolved_project db r tenant_id).map Project.id
  rank := (resolved_project db r tenant_id).bind Project.priority_rank
  level := some r.protection_level
  project_of_rank := by cases resolved_project db r tenant_id <;> simp

def _ranks_for (db : Db) (booking_ids : List ℕ) (tenant_id : ℕ) : List (ℕ × Standing) :=
  (db.bookings.select fun b => b.id ∈ booking_ids ∧ b.tenant_id = tenant_id).filterMap fun b =>
    (booking_request db b).map fun r => (b.id, standing_of_row db r tenant_id)

/-- `ranks.get(booking_id, missing)`. -/
def rank_or_missing (ranks : List (ℕ × Standing)) (booking_id : ℕ) : Standing :=
  (ranks.lookup booking_id).getD missing

/-! ## The decision -/

inductive Outcome
  | ranked
  | no_project
  | unranked
  | equal_rank
  | protected_
  deriving DecidableEq

structure ContentionVerdict where
  outcome : Outcome
  winner_booking_id : Option ℕ
  reason : String
  deriving DecidableEq

def PROTECTED_SUFFIX : String := "; the protected booking holds"

def REASON_NO_PROJECT : String := "at least one booking is not linked to a project"

def REASON_PROJECT_UNRESOLVABLE : String :=
  "at least one booking's project is archived or belongs to another tenant"

/-- Both levels must be known. -/
def _protection_breaks_tie (a_id : ℕ) (a_level : Option ProtectionLevel) (b_id : ℕ)
    (b_level : Option ProtectionLevel) (reason : String) : Option ContentionVerdict :=
  if a_level = none ∨ b_level = none ∨ a_level = b_level then none
  else
    let winner := if a_level = some .hard then a_id else b_id
    some ⟨.protected_, some winner, reason ++ PROTECTED_SUFFIX⟩

def _decide (a_id : ℕ) (a : Standing) (b_id : ℕ) (b : Standing) : ContentionVerdict :=
  if a.project = none ∨ b.project = none then
    let unresolvable :=
      (a.requested ≠ none ∧ a.project = none) ∨ (b.requested ≠ none ∧ b.project = none)
    let reason := if unresolvable then REASON_PROJECT_UNRESOLVABLE else REASON_NO_PROJECT
    (_protection_breaks_tie a_id a.level b_id b.level reason).getD ⟨.no_project, none, reason⟩
  else
    match a.rank, b.rank with
    | some a_rank, some b_rank =>
      if a_rank = b_rank then
        let reason := "both projects have the same priority rank"
        (_protection_breaks_tie a_id a.level b_id b.level reason).getD ⟨.equal_rank, none, reason⟩
      else
        let winner := if a_rank < b_rank then a_id else b_id
        ⟨.ranked, some winner, "the higher-priority project wins"⟩
    | _, _ =>
      let reason := "at least one project has no priority rank"
      (_protection_breaks_tie a_id a.level b_id b.level reason).getD ⟨.unranked, none, reason⟩

def verdicts_for_pairs (db : Db) (pairs : List (ℕ × ℕ)) (tenant_id : ℕ) :
    List ((ℕ × ℕ) × ContentionVerdict) :=
  let ids := pairs.flatMap fun pair => [pair.1, pair.2]
  let ranks := _ranks_for db ids tenant_id
  pairs.map fun pair =>
    (pair, _decide pair.1 (rank_or_missing ranks pair.1) pair.2 (rank_or_missing ranks pair.2))

/-- The lookup raises when the pair is not there. -/
def verdict_for_pair (db : Db) (booking_id other_booking_id tenant_id : ℕ) :
    Option ContentionVerdict :=
  (verdicts_for_pairs db [(booking_id, other_booking_id)] tenant_id).lookup
    (booking_id, other_booking_id)

/-! ## The same verdict from both sides -/

theorem protection_breaks_tie_swap (a_id : ℕ) (a_level : Option ProtectionLevel) (b_id : ℕ)
    (b_level : Option ProtectionLevel) (reason : String) :
    _protection_breaks_tie a_id a_level b_id b_level reason =
      _protection_breaks_tie b_id b_level a_id a_level reason := by
  rcases a_level with _ | _ | _ <;> rcases b_level with _ | _ | _ <;> rfl

theorem decide_swap (a_id : ℕ) (a : Standing) (b_id : ℕ) (b : Standing) :
    _decide a_id a b_id b = _decide b_id b a_id a := by
  by_cases hproject : a.project = none ∨ b.project = none
  · have hproject' : b.project = none ∨ a.project = none := hproject.symm
    have hunresolvable :
        ((a.requested ≠ none ∧ a.project = none) ∨ (b.requested ≠ none ∧ b.project = none)) ↔
          ((b.requested ≠ none ∧ b.project = none) ∨ (a.requested ≠ none ∧ a.project = none)) :=
      or_comm
    simp only [_decide, hproject, hproject', if_true, hunresolvable,
      protection_breaks_tie_swap a_id]
  · have hproject' : ¬ (b.project = none ∨ a.project = none) := fun h => hproject h.symm
    simp only [_decide, hproject, hproject', if_false]
    cases ha : a.rank with
    | none => cases hb : b.rank <;> simp only [protection_breaks_tie_swap a_id]
    | some a_rank =>
      cases hb : b.rank with
      | none => simp only [protection_breaks_tie_swap a_id]
      | some b_rank =>
        rcases lt_trichotomy a_rank b_rank with hlt | heq | hgt
        · simp [hlt, hlt.ne, hlt.ne', hlt.not_gt]
        · simp only [heq, if_true, protection_breaks_tie_swap a_id]
        · simp [hgt, hgt.ne, hgt.ne', hgt.not_gt]

/-! ## Who wins -/

/-- With two different ranks the lower one decides, whatever the protection. -/
theorem decide_ranked {a : Standing} {b : Standing} {a_rank b_rank : ℤ} (ha : a.rank = some a_rank)
    (hb : b.rank = some b_rank) (hlt : a_rank < b_rank) :
    _decide a_id a b_id b = ⟨.ranked, some a_id, "the higher-priority project wins"⟩ := by
  have hpa : a.project ≠ none := Option.isSome_iff_ne_none.1 (a.project_of_rank (by simp [ha]))
  have hpb : b.project ≠ none := Option.isSome_iff_ne_none.1 (b.project_of_rank (by simp [hb]))
  simp [_decide, hpa, hpb, ha, hb, hlt, hlt.ne]

/-- Protection names a winner only of a hard and a soft booking. -/
theorem protected_winner {a_level : Option ProtectionLevel} {b_level : Option ProtectionLevel}
    {reason : String} {outcome : Outcome} (hne : a_id ≠ b_id)
    (h : ((_protection_breaks_tie a_id a_level b_id b_level reason).getD
      ⟨outcome, none, reason⟩).winner_booking_id = some a_id) :
    a_level = some .hard ∧ b_level = some .soft := by
  rcases a_level with _ | _ | _ <;> rcases b_level with _ | _ | _ <;>
    simp_all [_protection_breaks_tie]

/-- The place of a standing on the one line that rank and protection make: the
unranked hard bookings, the ranked ones by rank with the hard ones first, the
other unranked ones. -/
def precedence (a : Standing) : ℕ ×ₗ ℤ :=
  match a.rank with
  | some rank => if a.level = some .hard then toLex (1, 2 * rank) else toLex (1, 2 * rank + 1)
  | none => if a.level = some .hard then toLex (0, 0) else toLex (2, 0)

/-- The two places of one rank lie next to each other. -/
theorem precedence_ranked {a : Standing} {rank : ℤ} (h : a.rank = some rank) :
    toLex (1, 2 * rank) ≤ precedence a ∧ precedence a ≤ toLex (1, 2 * rank + 1) := by
  have hstep : toLex ((1 : ℕ), 2 * rank) ≤ toLex (1, 2 * rank + 1) :=
    Prod.Lex.toLex_le_toLex.2 (Or.inr ⟨rfl, by omega⟩)
  simp only [precedence, h]
  split
  · exact ⟨le_rfl, hstep⟩
  · exact ⟨hstep, le_rfl⟩

/-- **A winner comes before what it beats.** -/
theorem precedence_lt_of_wins {a : Standing} {b : Standing} (hne : a_id ≠ b_id)
    (h : (_decide a_id a b_id b).winner_booking_id = some a_id) :
    precedence a < precedence b := by
  -- without two ranks the winner is hard and the other side is not
  have htie : ∀ outcome reason,
      ((_protection_breaks_tie a_id a.level b_id b.level reason).getD
        ⟨outcome, none, reason⟩).winner_booking_id = some a_id →
      a.level = some .hard ∧ b.level = some .soft := fun _ _ => protected_winner hne
  cases ha : a.rank with
  | none =>
    have hlevel : a.level = some .hard ∧ b.level = some .soft := by
      rw [_decide] at h
      split at h
      · exact htie _ _ h
      · rw [ha] at h
        exact htie _ _ h
    cases hb : b.rank with
    | none => simp [precedence, ha, hb, hlevel, Prod.Lex.toLex_lt_toLex]
    | some b_rank => simp [precedence, ha, hb, hlevel, Prod.Lex.toLex_lt_toLex]
  | some a_rank =>
    cases hb : b.rank with
    | none =>
      have hlevel : a.level = some .hard ∧ b.level = some .soft := by
        rw [_decide] at h
        split at h
        · exact htie _ _ h
        · rw [ha, hb] at h
          exact htie _ _ h
      simp [precedence, ha, hb, hlevel, Prod.Lex.toLex_lt_toLex]
    | some b_rank =>
      rcases lt_trichotomy a_rank b_rank with hlt | heq | hgt
      · -- the two places of one rank lie below those of the next
        have hstep : 2 * a_rank + 1 < 2 * b_rank := by omega
        have hapart : toLex ((1 : ℕ), 2 * a_rank + 1) < toLex (1, 2 * b_rank) :=
          Prod.Lex.toLex_lt_toLex.2 (Or.inr ⟨rfl, hstep⟩)
        exact (precedence_ranked ha).2.trans_lt (hapart.trans_le (precedence_ranked hb).1)
      · have hlevel : a.level = some .hard ∧ b.level = some .soft := by
          rw [_decide] at h
          split at h
          · exact htie _ _ h
          · simp only [ha, hb, heq, if_true] at h
            exact htie _ _ h
        simp [precedence, ha, hb, hlevel, heq, Prod.Lex.toLex_lt_toLex]
      · -- then the other side wins
        rw [decide_swap, decide_ranked hb ha hgt] at h
        exact absurd (Option.some.inj h).symm hne

/-- Nothing wins over itself. -/
theorem decide_self (a_id : ℕ) (a : Standing) :
    (_decide a_id a a_id a).winner_booking_id = none := by
  have htie : ∀ reason, _protection_breaks_tie a_id a.level a_id a.level reason = none := by
    simp [_protection_breaks_tie]
  rw [_decide]
  split
  · simp [htie]
  · cases a.rank <;> simp [htie]

/-- **No chain of winners goes round**, whatever the standings. -/
theorem decide_acyclic (standing : ℕ → Standing) :
    Acyclic fun x y => (_decide x (standing x) y (standing y)).winner_booking_id = some x := by
  refine acyclic_of_rank (fun x => precedence (standing x)) fun x y hwins => ?_
  have hne : x ≠ y := by
    rintro rfl
    rw [decide_self] at hwins
    cases hwins
  exact precedence_lt_of_wins hne hwins

/-! ## The verdict of two stored bookings -/

/-- What the database says of one booking. -/
def standing (db : Db) (tenant_id booking_id : ℕ) : Standing :=
  rank_or_missing (_ranks_for db [booking_id] tenant_id) booking_id

/-- Rows of other keys do not matter to a lookup. -/
theorem lookup_filterMap_congr {α β : Type*} {rows : List α} {f : α → Option (ℕ × β)}
    {p q : α → Bool} {k : ℕ} (h : ∀ r v, f r = some (k, v) → p r = q r) :
    ((rows.filter p).filterMap f).lookup k = ((rows.filter q).filterMap f).lookup k := by
  induction rows with
  | nil => rfl
  | cons r rows ih =>
    cases hf : f r with
    | none => cases hp : p r <;> cases hq : q r <;> simp [hp, hq, hf, ih]
    | some entry =>
      obtain ⟨key, v⟩ := entry
      by_cases hkey : key = k
      · have hpq : p r = q r := h r v (by rw [hf, hkey])
        cases hp : p r <;> simp [hp, ← hpq, hf, hkey, ih]
      · have hskip : ∀ l : List (ℕ × β), ((key, v) :: l).lookup k = l.lookup k := by
          intro l
          rw [List.lookup_cons, beq_eq_false_iff_ne.2 (Ne.symm hkey)]
        cases hp : p r <;> cases hq : q r <;> simp [hp, hq, hf, hskip, ih]

/-- Every pair asked for is answered, by the pair. -/
theorem lookup_map_pair {β : Type*} {f : ℕ × ℕ → β} {pair : ℕ × ℕ} (h : pair ∈ pairs) :
    (pairs.map fun p => (p, f p)).lookup pair = some (f pair) := by
  induction pairs with
  | nil => cases h
  | cons first pairs ih =>
    rw [List.map_cons, List.lookup_cons]
    by_cases heq : pair = first
    · rw [heq, beq_self_eq_true]
    · rw [beq_eq_false_iff_ne.2 heq]
      exact ih ((List.mem_cons.1 h).resolve_left heq)

/-- A query over more bookings says the same of each. -/
theorem rank_or_missing_ranks_for {booking_ids : List ℕ} {booking_id : ℕ}
    (h : booking_id ∈ booking_ids) :
    rank_or_missing (_ranks_for db booking_ids tenant_id) booking_id =
      standing db tenant_id booking_id := by
  rw [standing, rank_or_missing, rank_or_missing, _ranks_for, _ranks_for]
  congr 1
  refine lookup_filterMap_congr fun b v hentry => ?_
  obtain ⟨r, -, hr⟩ := Option.map_eq_some_iff.1 hentry
  have hid : b.id = booking_id := (Prod.mk.inj hr).1
  simp [hid, h]

theorem lookup_verdicts_for_pairs {a b : ℕ} (h : (a, b) ∈ pairs) :
    (verdicts_for_pairs db pairs tenant_id).lookup (a, b) =
      some (_decide a (standing db tenant_id a) b (standing db tenant_id b)) := by
  have ha : a ∈ pairs.flatMap fun pair => [pair.1, pair.2] :=
    List.mem_flatMap.2 ⟨(a, b), h, by simp⟩
  have hb : b ∈ pairs.flatMap fun pair => [pair.1, pair.2] :=
    List.mem_flatMap.2 ⟨(a, b), h, by simp⟩
  rw [verdicts_for_pairs, lookup_map_pair h, rank_or_missing_ranks_for ha,
    rank_or_missing_ranks_for hb]

theorem verdict_for_pair_eq (db : Db) (a b tenant_id : ℕ) :
    verdict_for_pair db a b tenant_id =
      some (_decide a (standing db tenant_id a) b (standing db tenant_id b)) :=
  lookup_verdicts_for_pairs (List.mem_singleton_self (a, b))

/-- The verdict on the two names `x` as the winner. -/
def WinsOver (db : Db) (tenant_id x y : ℕ) : Prop :=
  ∃ verdict ∈ verdict_for_pair db x y tenant_id, verdict.winner_booking_id = some x

/-- The batch answers each of its pairs as the single form does. -/
theorem verdicts_agree {a b : ℕ} (h : (a, b) ∈ pairs) :
    (verdicts_for_pairs db pairs tenant_id).lookup (a, b) = verdict_for_pair db a b tenant_id := by
  rw [lookup_verdicts_for_pairs h, verdict_for_pair_eq]

/-- **Contention is decided fairly and never in a circle**: for any two standings
the sides may be swapped, and of two ranks the lower one wins; and neither for any
standings nor for the stored ones is there a chain of winners that closes. -/
theorem contention_is_fair :
    (∀ a_id a b_id b, _decide a_id a b_id b = _decide b_id b a_id a) ∧
    (∀ a_id a b_id b a_rank b_rank, Standing.rank a = some a_rank → Standing.rank b = some b_rank →
      a_rank < b_rank → (_decide a_id a b_id b).winner_booking_id = some a_id) ∧
    (∀ standing : ℕ → Standing, Acyclic fun x y =>
      (_decide x (standing x) y (standing y)).winner_booking_id = some x) ∧
    ∀ db tenant_id,
      (∀ a b, verdict_for_pair db a b tenant_id = verdict_for_pair db b a tenant_id) ∧
      (∀ pairs a b, (a, b) ∈ pairs → (verdicts_for_pairs db pairs tenant_id).lookup (a, b) =
        verdict_for_pair db a b tenant_id) ∧
      Acyclic (WinsOver db tenant_id) := by
  refine ⟨decide_swap, ?_, decide_acyclic, fun db tenant_id => ⟨?_, ?_, ?_⟩⟩
  · intro a_id a b_id b a_rank b_rank ha hb hlt
    rw [decide_ranked ha hb hlt]
  · intro a b
    rw [verdict_for_pair_eq, verdict_for_pair_eq, decide_swap]
  · exact fun pairs a b => verdicts_agree
  · refine (decide_acyclic (standing db tenant_id)).mono fun x y hwins => ?_
    obtain ⟨verdict, hverdict, hwinner⟩ := hwins
    rw [verdict_for_pair_eq] at hverdict
    rw [Option.some.inj hverdict]
    exact hwinner

end EnvMgr.Contention

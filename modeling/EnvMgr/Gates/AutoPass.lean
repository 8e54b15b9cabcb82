/-
Whether a gate passes as soon as all its criteria are done.

The rule is looked at when a criterion is completed. Deleting the one criterion that is
still open leaves the same set of done criteria behind, and the rule is not looked at.
-/
import EnvMgr.Gates.Service
import EnvMgr.Lib.Runs

namespace EnvMgr.Gates

open Runs

variable {crit : GateCriterion} {db' : Db} {now : DateTime}
variable {user_id tenant_id : ℕ} {f : Table.Edit GateCriterion.id}

/-! ## The property -/

/-- The criterion is one of the gate and not deleted. -/
def LiveOf (gate : ReleaseGate) (criterion : GateCriterion) : Prop :=
  criterion.gate_id = gate.id ∧ criterion.deleted_at = none
  deriving Decidable

/-- The gate has live criteria, and all of them are done. -/
def Met (criteria : Table GateCriterion GateCriterion.id) (gate : ReleaseGate) : Prop :=
  (∃ c ∈ criteria, LiveOf gate c) ∧ ∀ c ∈ criteria, LiveOf gate c → c.status = "done"

def AutoPassed (gates : Table ReleaseGate ReleaseGate.id)
    (criteria : Table GateCriterion GateCriterion.id) : Prop :=
  ∀ gate ∈ gates, gate.deleted_at = none → gate.status = "pending" → ¬ Met criteria gate

/-- The request deletes the criterion: it names it, in its tenant, and it is not deleted. -/
structure Deletes (call : Call) (criterion : GateCriterion) : Prop where
  request : call.request = .delete_criterion criterion.id
  tenant : criterion.tenant_id = call.current_user.active_tenant_id
  live : criterion.deleted_at = none

/-- The criterion is all that keeps a pending gate from passing. -/
def LastOpen (db : Db) (criterion : GateCriterion) : Prop :=
  criterion.status ≠ "done" ∧
    ∃ gate ∈ db.gates, gate.id = criterion.gate_id ∧ gate.deleted_at = none ∧
      gate.status = "pending" ∧
      (∃ c ∈ db.criteria, LiveOf gate c ∧ c ≠ criterion) ∧
      ∀ c ∈ db.criteria, LiveOf gate c → c ≠ criterion → c.status = "done"

/-- No request deletes such a criterion. -/
def KeepsLastOpen (db : Db) (call : Call) : Prop :=
  ∀ criterion ∈ db.criteria, Deletes call criterion → ¬ LastOpen db criterion

/-- A criterion belongs to a gate of its tenant. -/
def Housed (gates : Table ReleaseGate ReleaseGate.id)
    (criteria : Table GateCriterion GateCriterion.id) : Prop :=
  ∀ c ∈ criteria, ∃ gate ∈ gates, gate.id = c.gate_id ∧ gate.tenant_id = c.tenant_id

/-! ## Look-ups -/

theorem _get_gate_ok {db : Db} {gate_id : ℕ} {gate : ReleaseGate} :
    _get_gate db gate_id tenant_id = .ok gate ↔
      gate ∈ db.gates ∧ gate.id = gate_id ∧ gate.tenant_id = tenant_id ∧
        gate.deleted_at = none := by
  rw [_get_gate, get_or_raise_eq_ok]
  exact Table.select_one_key_iff fun _ hmatch => hmatch.1

theorem get_criterion_ok {db : Db} {criterion_id : ℕ} :
    get_criterion db criterion_id tenant_id = .ok crit ↔
      crit ∈ db.criteria ∧ crit.id = criterion_id ∧ crit.tenant_id = tenant_id ∧
        crit.deleted_at = none := by
  rw [get_criterion, get_or_raise_eq_ok]
  exact Table.select_one_key_iff fun _ hmatch => hmatch.1

/-- A note on a decision touches neither gates nor criteria. -/
theorem _record_gate_event_ok {db : Db} {gate : ReleaseGate} {description : String}
    (h : _record_gate_event db gate tenant_id user_id description now = .ok db') :
    db'.gates = db.gates ∧ db'.criteria = db.criteria := by
  simp only [_record_gate_event, bind_eq_ok] at h
  obtain ⟨event_type, -, h⟩ := h
  cases event_type with
  | none =>
    obtain rfl := Except.ok.inj h
    exact ⟨rfl, rfl⟩
  | some event_type =>
    obtain rfl := Except.ok.inj h
    exact ⟨rfl, rfl⟩

/-! ## What requests write -/

/-- What a decision makes of a gate. -/
structure Decided (a b : ReleaseGate) : Prop where
  id : b.id = a.id
  tenant : b.tenant_id = a.tenant_id
  status : b.status ≠ "pending"

/-- What no other request changes of a gate. It may be deleted. -/
structure SameGate (a b : ReleaseGate) : Prop where
  id : b.id = a.id
  tenant : b.tenant_id = a.tenant_id
  status : b.status = a.status
  live : b.deleted_at = none → a.deleted_at = none

/-- What a request makes of a criterion it neither completes nor deletes. -/
structure SameCriterion (a b : GateCriterion) : Prop where
  gate : b.gate_id = a.gate_id
  tenant : b.tenant_id = a.tenant_id
  live : b.deleted_at = a.deleted_at
  status : b.status = "done" → a.status = "done"

/-- What an accepted request does to gates and criteria. -/
inductive Writes (db : Db) (call : Call) : Table ReleaseGate ReleaseGate.id →
    Table GateCriterion GateCriterion.id → Prop
  | unchanged : Writes db call db.gates db.criteria
  | gate_created (data : ReleaseGateCreate) (tenant_id release_id : ℕ) :
      Writes db call (db.gates.insert ⟨data.row tenant_id release_id, fun _ => rfl⟩) db.criteria
  | gate_changed {p : ReleaseGate → Bool} {f : Table.Edit ReleaseGate.id}
      (hf : ∀ g, SameGate g (f.apply g)) : Writes db call (db.gates.update p f) db.criteria
  | gate_decided {p : ReleaseGate → Bool} {f : Table.Edit ReleaseGate.id}
      (hf : ∀ g, Decided g (f.apply g)) : Writes db call (db.gates.update p f) db.criteria
  | criterion_created {gate : ReleaseGate} (hgate : gate ∈ db.gates) (data : GateCriterionCreate) :
      Writes db call db.gates
        (db.criteria.insert ⟨data.row gate.tenant_id gate.id, fun _ => rfl⟩)
  | criterion_changed {p : GateCriterion → Bool} {f : Table.Edit GateCriterion.id}
      (hf : ∀ c, SameCriterion c (f.apply c)) : Writes db call db.gates (db.criteria.update p f)
  | criterion_deleted {crit : GateCriterion} (hcrit : crit ∈ db.criteria)
      (hdeletes : Deletes call crit) :
      Writes db call db.gates (db.criteria.update (fun c => c.id = crit.id)
        ⟨fun c => { c with deleted_at := some call.now }, fun _ => rfl⟩)
  | criterion_completed {crit : GateCriterion} (hcrit : crit ∈ db.criteria) {gate : ReleaseGate}
      (hgate : gate ∈ db.gates) (hown : gate.id = crit.gate_id)
      (htenant : gate.tenant_id = crit.tenant_id) {gates : Table ReleaseGate ReleaseGate.id}
      {f : Table.Edit GateCriterion.id}
      (hf : ∀ c, (f.apply c).gate_id = c.gate_id ∧ (f.apply c).tenant_id = c.tenant_id)
      (hpassed : (∃ decision : Table.Edit ReleaseGate.id, (∀ g, Decided g (decision.apply g)) ∧
          gates = db.gates.update (fun g => g.id = gate.id) decision) ∨
        gates = db.gates ∧ (gate.status = "pending" →
          ¬ ((∃ c ∈ db.criteria.update (fun c => c.id = crit.id) f,
              LiveOf gate c ∧ c.tenant_id = gate.tenant_id) ∧
            ∀ c ∈ db.criteria.update (fun c => c.id = crit.id) f,
              LiveOf gate c → c.tenant_id = gate.tenant_id → c.status = "done"))) :
      Writes db call gates (db.criteria.update (fun c => c.id = crit.id) f)

theorem decided_by (status : String) (notes : Option String) (user_id : ℕ) (now : DateTime)
    (hstatus : status ≠ "pending") (g : ReleaseGate) :
    Decided g { g with
      status := status
      decided_by := some user_id
      decided_at := some now
      decision_notes := notes } :=
  ⟨rfl, rfl, hstatus⟩

theorem mem_criterion_statuses {db : Db} {gate : ReleaseGate} {s : String} :
    s ∈ criterion_statuses db gate.id tenant_id ↔
      ∃ c ∈ db.criteria, LiveOf gate c ∧ c.tenant_id = tenant_id ∧ c.status = s := by
  simp only [criterion_statuses, List.mem_map, Table.mem_select, decide_eq_true_eq, LiveOf]
  constructor
  · rintro ⟨c, ⟨hc, hgate, htenant, hlive⟩, hs⟩
    exact ⟨c, hc, ⟨hgate, hlive⟩, htenant, hs⟩
  · rintro ⟨c, hc, ⟨hgate, hlive⟩, htenant, hs⟩
    exact ⟨c, ⟨hc, hgate, htenant, hlive⟩, hs⟩

/-- The rule, as the service asks it. -/
theorem maybe_auto_pass_gate_ok {db : Db} {gate : ReleaseGate} {passed : Bool}
    (h : maybe_auto_pass_gate db gate tenant_id user_id now = .ok (passed, db')) :
    db'.criteria = db.criteria ∧
      ((∃ decision : Table.Edit ReleaseGate.id, (∀ g, Decided g (decision.apply g)) ∧
          db'.gates = db.gates.update (fun g => g.id = gate.id) decision) ∨
        db'.gates = db.gates ∧ (gate.status = "pending" →
          ¬ ((∃ c ∈ db.criteria, LiveOf gate c ∧ c.tenant_id = tenant_id) ∧
            ∀ c ∈ db.criteria, LiveOf gate c → c.tenant_id = tenant_id → c.status = "done"))) := by
  unfold maybe_auto_pass_gate at h
  by_cases hpending : gate.status = "pending"
  · rw [if_neg (not_not.2 hpending)] at h
    by_cases hnone : criterion_statuses db gate.id tenant_id = []
    · rw [if_pos hnone] at h
      obtain ⟨-, rfl⟩ := Prod.mk.inj (Except.ok.inj h)
      refine ⟨rfl, Or.inr ⟨rfl, fun _ => ?_⟩⟩
      rintro ⟨⟨c, hc, hlive, htenant⟩, -⟩
      have hmem := mem_criterion_statuses.2 ⟨c, hc, hlive, htenant, rfl⟩
      rw [hnone] at hmem
      cases hmem
    · rw [if_neg hnone] at h
      by_cases hopen : ∃ s ∈ criterion_statuses db gate.id tenant_id, s ≠ "done"
      · rw [if_pos hopen] at h
        obtain ⟨-, rfl⟩ := Prod.mk.inj (Except.ok.inj h)
        refine ⟨rfl, Or.inr ⟨rfl, fun _ => ?_⟩⟩
        rintro ⟨-, hdone⟩
        obtain ⟨s, hs, hne⟩ := hopen
        obtain ⟨c, hc, hlive, htenant, rfl⟩ := mem_criterion_statuses.1 hs
        exact hne (hdone c hc hlive htenant)
      · rw [if_neg hopen] at h
        simp only [bind_eq_ok] at h
        obtain ⟨noted, hnoted, h⟩ := h
        obtain ⟨-, rfl⟩ := Prod.mk.inj (Except.ok.inj h)
        obtain ⟨hgates, hcriteria⟩ := _record_gate_event_ok hnoted
        refine ⟨hcriteria, Or.inl ⟨_, ?_, hgates⟩⟩
        exact decided_by "passed" _ user_id now (by decide)
  · rw [if_pos hpending] at h
    obtain ⟨-, rfl⟩ := Prod.mk.inj (Except.ok.inj h)
    exact ⟨rfl, Or.inr ⟨rfl, fun h => absurd h hpending⟩⟩

/-- A decision by hand. -/
theorem writes_of_decided {db : Db} {call : Call} {gate : ReleaseGate} {status : String}
    {notes : Option String} (hstatus : status ≠ "pending")
    (hgates : db'.gates = (decide_gate db gate status notes user_id now).gates)
    (hcriteria : db'.criteria = db.criteria) : Writes db call db'.gates db'.criteria := by
  rw [hgates, hcriteria]
  exact Writes.gate_decided (decided_by status notes user_id now hstatus)

/-- Every accepted request is one of these. Only `complete_criterion` decides a gate nobody asked
it to decide. -/
theorem writes_of_handle {db : Db} {call : Call} (h : handle db call = .ok db') :
    Writes db call db'.gates db'.criteria := by
  unfold handle at h
  cases hrequest : call.request with
  | create_gate release_id data =>
    simp only [hrequest, create_gate, bind_eq_ok, Except.ok.injEq] at h
    obtain ⟨_, -, _, -, _, -, rfl⟩ := h
    exact Writes.gate_created data _ release_id
  | update_gate gate_id data =>
    simp only [hrequest, update_gate, bind_eq_ok, Except.ok.injEq] at h
    obtain ⟨gate, -, _, -, _, -, _, -, rfl⟩ := h
    exact Writes.gate_changed fun g => ⟨rfl, rfl, rfl, id⟩
  | delete_gate gate_id =>
    simp only [hrequest, delete_gate, bind_eq_ok, Except.ok.injEq] at h
    obtain ⟨gate, -, rfl⟩ := h
    exact Writes.gate_changed fun g =>
      ⟨rfl, rfl, rfl, fun hlive => absurd hlive (Option.some_ne_none call.now)⟩
  | pass_gate gate_id notes =>
    simp only [hrequest, pass_gate, bind_eq_ok] at h
    obtain ⟨gate, -, h⟩ := h
    obtain ⟨hgates, hcriteria⟩ := _record_gate_event_ok h
    exact writes_of_decided (by decide) hgates hcriteria
  | fail_gate gate_id notes =>
    simp only [hrequest, fail_gate, bind_eq_ok] at h
    obtain ⟨gate, -, h⟩ := h
    obtain ⟨hgates, hcriteria⟩ := _record_gate_event_ok h
    exact writes_of_decided (by decide) hgates hcriteria
  | override_gate gate_id data =>
    simp only [hrequest, override_gate, bind_eq_ok] at h
    obtain ⟨_, -, gate, -, _, -, h⟩ := h
    obtain ⟨hgates, hcriteria⟩ := _record_gate_event_ok h
    exact writes_of_decided (by decide) hgates hcriteria
  | create_criterion release_id gate_id data =>
    simp only [hrequest, create_criterion, bind_eq_ok, Except.ok.injEq, _get_gate_ok] at h
    obtain ⟨_, -, gate, ⟨hgate, -, htenant, -⟩, _, -, rfl⟩ := h
    rw [← htenant]
    exact Writes.criterion_created hgate data
  | update_criterion criterion_id data =>
    simp only [hrequest, update_criterion, bind_eq_ok, Except.ok.injEq] at h
    obtain ⟨crit, -, _, -, _, -, rfl⟩ := h
    exact Writes.criterion_changed fun c => ⟨rfl, rfl, rfl, id⟩
  | complete_criterion criterion_id =>
    simp only [hrequest, complete_criterion, bind_eq_ok] at h
    obtain ⟨crit, hcrit, _, -, h⟩ := h
    obtain ⟨hcrit, -, htenant, -⟩ := get_criterion_ok.1 hcrit
    split_ifs at h with hdone
    · obtain rfl := Except.ok.inj h
      exact Writes.unchanged
    · -- the gate is read before the criteria are counted, and passes if none is left
      simp only [bind_eq_ok, Except.ok.injEq, Prod.exists] at h
      obtain ⟨gate, hgate, passed, left, hauto, rfl⟩ := h
      obtain ⟨hgate, hown, htenant', -⟩ := _get_gate_ok.1 hgate
      obtain ⟨hcriteria, hpassed⟩ := maybe_auto_pass_gate_ok hauto
      rw [hcriteria]
      rw [← htenant'] at hpassed
      exact Writes.criterion_completed hcrit hgate hown (htenant'.trans htenant.symm)
        (fun c => ⟨rfl, rfl⟩) hpassed
  | reopen_criterion criterion_id =>
    simp only [hrequest, reopen_criterion, bind_eq_ok] at h
    obtain ⟨crit, -, _, -, h⟩ := h
    split_ifs at h with hopen
    · obtain rfl := Except.ok.inj h
      exact Writes.unchanged
    · obtain rfl := Except.ok.inj h
      refine Writes.criterion_changed fun c => ⟨rfl, rfl, rfl, fun hdone => ?_⟩
      exact absurd (show "open" = "done" from hdone) (by decide)
  | delete_criterion criterion_id =>
    simp only [hrequest, delete_criterion, bind_eq_ok, Except.ok.injEq, get_criterion_ok] at h
    obtain ⟨crit, ⟨hcrit, rfl, htenant, hlive⟩, rfl⟩ := h
    exact Writes.criterion_deleted hcrit ⟨hrequest, htenant, hlive⟩

/-! ## What requests keep -/

section

variable {db : Db} {call : Call} {gates gates' : Table ReleaseGate ReleaseGate.id}
  {criteria criteria' : Table GateCriterion GateCriterion.id}

/-- Gates stay, in their tenant. -/
def SamePlace (a b : ReleaseGate) : Prop := b.id = a.id ∧ b.tenant_id = a.tenant_id

theorem SamePlace.refl (gate : ReleaseGate) : SamePlace gate gate := ⟨rfl, rfl⟩

theorem Housed.retain (h : Housed gates criteria) (hgates : Table.Retains SamePlace gates gates') :
    Housed gates' criteria := by
  intro c hc
  obtain ⟨gate, hgate, hid, htenant⟩ := h c hc
  obtain ⟨gate', hgate', hid', htenant'⟩ := hgates gate hgate
  exact ⟨gate', hgate', hid'.trans hid, htenant'.trans htenant⟩

theorem Housed.update {p : GateCriterion → Bool} (h : Housed gates criteria)
    (hf : ∀ c, (f.apply c).gate_id = c.gate_id ∧ (f.apply c).tenant_id = c.tenant_id) :
    Housed gates (criteria.update p f) := by
  intro c hc
  rcases Table.mem_update_cases hc with ⟨c₀, hc₀, -, rfl⟩ | ⟨hc, -⟩
  · rw [(hf c₀).1, (hf c₀).2]
    exact h c₀ hc₀
  · exact h c hc

theorem housed_of_writes (h : Housed db.gates db.criteria)
    (hwrites : Writes db call gates criteria) : Housed gates criteria := by
  cases hwrites with
  | unchanged => exact h
  | gate_created => exact h.retain (Table.retains_insert SamePlace.refl _ _)
  | gate_changed hf =>
    exact h.retain (Table.retains_update SamePlace.refl _ _ fun g => ⟨(hf g).id, (hf g).tenant⟩)
  | gate_decided hf =>
    exact h.retain (Table.retains_update SamePlace.refl _ _ fun g => ⟨(hf g).id, (hf g).tenant⟩)
  | criterion_created hgate data =>
    intro c hc
    rcases Table.mem_insert.1 hc with hc | rfl
    · exact h c hc
    · exact ⟨_, hgate, rfl, rfl⟩
  | criterion_changed hf => exact h.update fun c => ⟨(hf c).gate, (hf c).tenant⟩
  | criterion_deleted => exact h.update fun c => ⟨rfl, rfl⟩
  | criterion_completed hcrit hgate hown htenant hf hpassed =>
    rcases hpassed with ⟨decision, hdecided, rfl⟩ | ⟨rfl, -⟩
    · refine (h.retain ?_).update hf
      exact Table.retains_update SamePlace.refl _ _
        fun g => ⟨(hdecided g).id, (hdecided g).tenant⟩
    · exact h.update hf

/-- The criteria of a gate are of its tenant. -/
theorem Housed.tenant (h : Housed gates criteria) {gate : ReleaseGate} (hgate : gate ∈ gates)
    {c : GateCriterion} (hc : c ∈ criteria) (hlive : LiveOf gate c) :
    c.tenant_id = gate.tenant_id := by
  obtain ⟨gate', hgate', hid, htenant⟩ := h c hc
  rw [← htenant, Table.eq_of_key_eq hgate' hgate (hid.trans hlive.1)]

/-- Only the id of a gate matters. -/
theorem Met.of_id {a b : ReleaseGate} (hid : b.id = a.id) (h : Met criteria b) :
    Met criteria a := by
  unfold Met LiveOf at h ⊢
  rwa [hid] at h

/-- Changing criteria so that none of the gate's becomes done does not meet its rule. -/
theorem Met.of_update {p : GateCriterion → Bool} {gate : ReleaseGate}
    (h : Met (criteria.update p f) gate)
    (hf : ∀ c ∈ criteria, p c = true → (LiveOf gate (f.apply c) ↔ LiveOf gate c) ∧
      (LiveOf gate c → (f.apply c).status = "done" → c.status = "done")) :
    Met criteria gate := by
  constructor
  · obtain ⟨c, hc, hlive⟩ := h.1
    rcases Table.mem_update_cases hc with ⟨c₀, hc₀, hp, rfl⟩ | ⟨hc, -⟩
    · exact ⟨c₀, hc₀, (hf c₀ hc₀ hp).1.1 hlive⟩
    · exact ⟨c, hc, hlive⟩
  · intro c hc hlive
    by_cases hp : p c = true
    · have hdone := h.2 _ (Table.mem_update_of_pos hc hp) ((hf c hc hp).1.2 hlive)
      exact (hf c hc hp).2 hlive hdone
    · exact h.2 c (Table.mem_update_of_neg hc (Bool.eq_false_iff.2 hp)) hlive

/-- Completing or deleting a criterion of one gate leaves the others as they were. -/
theorem Met.of_other {gate : ReleaseGate} (hcrit : crit ∈ criteria)
    (h : Met (criteria.update (fun c => c.id = crit.id) f) gate)
    (hf : ∀ c, (f.apply c).gate_id = c.gate_id) (hother : crit.gate_id ≠ gate.id) :
    Met criteria gate := by
  refine h.of_update fun c hc hp => ?_
  obtain rfl : c = crit := (Table.key_match hcrit c hc).1 hp
  have hnot : ¬ LiveOf gate c := fun hlive => hother hlive.1
  have hnot' : ¬ LiveOf gate (f.apply c) := fun hlive => hother ((hf c).symm.trans hlive.1)
  exact ⟨iff_of_false hnot' hnot, fun hlive => absurd hlive hnot⟩

/-- **What a deletion leaves behind** of a gate it did not meet the rule of before. -/
theorem lastOpen_of_met {gate : ReleaseGate} (hcrit : crit ∈ db.criteria) (hgate : gate ∈ db.gates)
    (hlive : gate.deleted_at = none) (hpending : gate.status = "pending")
    (hbefore : ¬ Met db.criteria gate) (h : Met (db.criteria.update (fun c => c.id = crit.id)
      ⟨fun c => { c with deleted_at := some now }, fun _ => rfl⟩) gate) :
    LastOpen db crit := by
  have hrest : ∀ c ∈ db.criteria, LiveOf gate c → c ≠ crit → c.status = "done" := by
    intro c hc hlive hne
    refine h.2 c (Table.mem_update_of_neg hc (decide_eq_false fun hid => hne ?_)) hlive
    exact Table.eq_of_key_eq hc hcrit hid
  have hsome : ∃ c ∈ db.criteria, LiveOf gate c ∧ c ≠ crit := by
    obtain ⟨c, hc, hlive⟩ := h.1
    rcases Table.mem_update_cases hc with ⟨c₀, -, -, rfl⟩ | ⟨hc, hp⟩
    · cases hlive.2
    · refine ⟨c, hc, hlive, ?_⟩
      rintro rfl
      exact of_decide_eq_false hp rfl
  -- otherwise the rule was met with the criterion there
  have hmissed : LiveOf gate crit ∧ crit.status ≠ "done" := by
    by_contra hnot
    refine hbefore ⟨hsome.imp fun c hc => ⟨hc.1, hc.2.1⟩, fun c hc hlive => ?_⟩
    by_cases heq : c = crit
    · subst heq
      by_contra hopen
      exact hnot ⟨hlive, hopen⟩
    · exact hrest c hc hlive heq
  exact ⟨hmissed.2, gate, hgate, hmissed.1.1.symm, hlive, hpending, hsome, hrest⟩

theorem met_of_lastOpen (hcrit : crit ∈ db.criteria) (h : LastOpen db crit) :
    ¬ AutoPassed db.gates (db.criteria.update (fun c => c.id = crit.id)
      ⟨fun c => { c with deleted_at := some now }, fun _ => rfl⟩) := by
  obtain ⟨-, gate, hgate, -, hlive, hpending, ⟨c, hc, hlive', hne⟩, hrest⟩ := h
  intro hauto
  refine hauto gate hgate hlive hpending ⟨⟨c, ?_, hlive'⟩, fun c hc hlive' => ?_⟩
  · refine Table.mem_update_of_neg hc (decide_eq_false fun hid => hne ?_)
    exact Table.eq_of_key_eq hc hcrit hid
  · rcases Table.mem_update_cases hc with ⟨c₀, -, -, rfl⟩ | ⟨hc, hp⟩
    · cases hlive'.2
    · refine hrest c hc hlive' ?_
      rintro rfl
      exact of_decide_eq_false hp rfl

/-- **One request.** -/
theorem autoPassed_of_writes (hhoused : Housed db.gates db.criteria)
    (h : AutoPassed db.gates db.criteria) (hkeeps : KeepsLastOpen db call)
    (hwrites : Writes db call gates criteria) : AutoPassed gates criteria := by
  have hhoused' := housed_of_writes hhoused hwrites
  intro gate hgate hlive hpending hmet
  cases hwrites with
  | unchanged => exact h gate hgate hlive hpending hmet
  | gate_created data tenant_id release_id =>
    rcases Table.mem_insert.1 hgate with hgate | rfl
    · exact h gate hgate hlive hpending hmet
    · -- no criterion names a gate that was not there
      obtain ⟨c, hc, hown, -⟩ := hmet.1
      obtain ⟨house, hhouse, hid, -⟩ := hhoused c hc
      exact absurd (hid.trans hown) (Table.key_lt_next hhouse).ne
  | gate_changed hf =>
    rcases Table.mem_update_cases hgate with ⟨g, hg, -, rfl⟩ | ⟨hgate, -⟩
    · exact h g hg ((hf g).live hlive) ((hf g).status.symm.trans hpending)
        (hmet.of_id (hf g).id)
    · exact h gate hgate hlive hpending hmet
  | gate_decided hf =>
    rcases Table.mem_update_cases hgate with ⟨g, -, -, rfl⟩ | ⟨hgate, -⟩
    · exact (hf g).status hpending
    · exact h gate hgate hlive hpending hmet
  | @criterion_created house hhouse data =>
    have hnew := hmet.2 _ (Table.mem_insert.2 (Or.inr rfl))
    have hnot : house.id ≠ gate.id := by
      intro hown
      exact absurd (show "open" = "done" from hnew ⟨hown, rfl⟩) (by decide)
    refine h gate hgate hlive hpending ⟨?_, fun c hc => hmet.2 c (Table.mem_insert.2 (Or.inl hc))⟩
    obtain ⟨c, hc, hlive'⟩ := hmet.1
    rcases Table.mem_insert.1 hc with hc | rfl
    · exact ⟨c, hc, hlive'⟩
    · exact absurd hlive'.1 hnot
  | criterion_changed hf =>
    refine h gate hgate hlive hpending (hmet.of_update fun c _ _ => ⟨?_, fun _ => (hf c).status⟩)
    unfold LiveOf
    rw [(hf c).gate, (hf c).live]
  | @criterion_deleted crit hcrit hdeletes =>
    refine hkeeps crit hcrit hdeletes ?_
    exact lastOpen_of_met hcrit hgate hlive hpending (h gate hgate hlive hpending) hmet
  | @criterion_completed crit hcrit passed hpassed hown _ _ f hf hrule =>
    by_cases hsame : crit.gate_id = gate.id
    · have hid : gate.id = passed.id := hsame.symm.trans hown.symm
      rcases hrule with ⟨decision, hdecided, rfl⟩ | ⟨rfl, hrule⟩
      · rcases Table.mem_update_cases hgate with ⟨g, -, -, rfl⟩ | ⟨-, hp⟩
        · exact (hdecided g).status hpending
        · exact of_decide_eq_false hp hid
      · obtain rfl : gate = passed := Table.eq_of_key_eq hgate hpassed hid
        refine hrule hpending ⟨?_, fun c hc hlive _ => hmet.2 c hc hlive⟩
        obtain ⟨c, hc, hlive'⟩ := hmet.1
        exact ⟨c, hc, hlive', hhoused'.tenant hgate hc hlive'⟩
    · have hbefore := Met.of_other hcrit hmet (fun c => (hf c).1) hsame
      rcases hrule with ⟨decision, hdecided, rfl⟩ | ⟨rfl, -⟩
      · rcases Table.mem_update_cases hgate with ⟨g, -, -, rfl⟩ | ⟨hgate, -⟩
        · exact (hdecided g).status hpending
        · exact h gate hgate hlive hpending hbefore
      · exact h gate hgate hlive hpending hbefore

end

/-! ## Runs -/

theorem handle_of_deletes {db : Db} {call : Call}
    (hcrit : crit ∈ db.criteria) (h : Deletes call crit) :
    handle db call = .ok { db with
      criteria := db.criteria.update (fun c => c.id = crit.id)
        ⟨fun c => { c with deleted_at := some call.now }, fun _ => rfl⟩ } := by
  unfold handle
  simp only [h.request, delete_criterion, bind_eq_ok, get_criterion_ok]
  exact ⟨crit, ⟨hcrit, rfl, h.tenant, h.live⟩, rfl⟩

theorem autoPassed_step_iff {db : Db} (call : Call) (hhoused : Housed db.gates db.criteria)
    (h : AutoPassed db.gates db.criteria) :
    AutoPassed (step db call).gates (step db call).criteria ↔ KeepsLastOpen db call := by
  constructor
  · intro hstep crit hcrit hdeletes hlast
    rw [step, handle_of_deletes hcrit hdeletes, commit_ok] at hstep
    exact met_of_lastOpen hcrit hlast hstep
  · intro hkeeps
    exact commit_or_rollback_keeps (P := fun db : Db => AutoPassed db.gates db.criteria) h
      fun _ hok => autoPassed_of_writes hhoused h hkeeps (writes_of_handle hok)

theorem housed_step {db : Db} (call : Call) (h : Housed db.gates db.criteria) :
    Housed (step db call).gates (step db call).criteria :=
  commit_or_rollback_keeps (P := fun db : Db => Housed db.gates db.criteria) h
    fun _ hok => housed_of_writes h (writes_of_handle hok)

/-- **A pending gate is never met exactly as long as no request deletes the criterion that
alone keeps one from passing.** -/
theorem autoPassed_iff (reference : Reference) (calls : List Call) :
    Always step (fun db => AutoPassed db.gates db.criteria) (Db.opened reference) calls ↔
      Along step KeepsLastOpen (Db.opened reference) calls := by
  have hstep : ∀ (db : Db) (call : Call), Housed db.gates db.criteria →
      Housed (step db call).gates (step db call).criteria := fun db call => housed_step call
  refine always_iff_along hstep (fun db call => autoPassed_step_iff call) ?_ ?_ calls
  · exact fun c hc => absurd hc (Table.not_mem_empty c)
  · exact fun gate hgate => absurd hgate (Table.not_mem_empty gate)

namespace Sample

def user : CurrentUser := ⟨1, 1, Role.RELEASE_MANAGER, false⟩

def reference : Reference := ⟨[⟨1, 1, none⟩], [⟨1, 1⟩], [], [], []⟩

def gate : ReleaseGateCreate := ⟨"UAT sign-off", 0, none, none, by decide⟩

def criterion (title : String) (h : title.length ≤ 250) : GateCriterionCreate :=
  ⟨title, none, none, none, h, nofun, Or.inl rfl⟩

/-- Of the two criteria of a gate one is completed and the other deleted. -/
def deleting : List Call :=
  [⟨user, .create_gate 1 gate, 0⟩,
    ⟨user, .create_criterion 1 1 (criterion "Scripts run" (by decide)), 1⟩,
    ⟨user, .create_criterion 1 1 (criterion "Report filed" (by decide)), 2⟩,
    ⟨user, .complete_criterion 1, 3⟩, ⟨user, .delete_criterion 2, 4⟩]

end Sample

/-- The gate is left pending with its one criterion done. -/
theorem deletion_leaves_gate_pending :
    ¬ Always step (fun db => AutoPassed db.gates db.criteria) (Db.opened Sample.reference)
      Sample.deleting := by
  intro h
  have hlast := (always_iff _ _ _).1 h Sample.deleting [] (List.append_nil _).symm
  have hpending : ∃ gate ∈ (run step (Db.opened Sample.reference) Sample.deleting).gates,
      gate.deleted_at = none ∧ gate.status = "pending" ∧
        Met (run step (Db.opened Sample.reference) Sample.deleting).criteria gate := by
    unfold Met
    decide +kernel
  obtain ⟨gate, hgate, hlive, hstatus, hmet⟩ := hpending
  exact hlast gate hgate hlive hstatus hmet

end EnvMgr.Gates

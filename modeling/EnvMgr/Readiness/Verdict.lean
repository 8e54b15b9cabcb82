/-
What the verdict is.

A release is ready when nothing blocks it; a gate blocks it when it is unmet, whatever else is
found; and how far it can be rolled back is said of the plans of the systems that it changes.
-/
import EnvMgr.Readiness.Reread

namespace EnvMgr.Readiness

open Gates (ReleaseGate)
open Rollback (ReleaseRollbackPlan)

variable {g : ReleaseGate} {w : GateWaiver} {e : Entry} {release : Release}
variable {names : Index ℕ String} {gate_type : Option GateType} {system_id : ℕ}

variable {db : Db} {release_id tenant_id : ℕ} {now : DateTime}

/-! ## Gates -/

/-- A live gate of the release. -/
structure OfRelease (release_id tenant_id : ℕ) (g : ReleaseGate) : Prop where
  release : g.release_id = release_id
  tenant : g.tenant_id = tenant_id
  live : g.deleted_at = none

structure LatestWaiver (db : Db) (tenant_id : ℕ) (g : ReleaseGate) (w : GateWaiver) : Prop where
  mem : w ∈ db.waivers
  gate : w.gate_id = g.id
  tenant : w.tenant_id = tenant_id
  live : w.deleted_at = none
  newest : ∀ w' ∈ db.waivers, w'.gate_id = g.id → w'.tenant_id = tenant_id →
    w'.deleted_at = none → w'.id ≤ w.id

/-- Failed, or waived until a day that is over, or undecided where the type blocks. -/
def Unmet (db : Db) (tenant_id : ℕ) (now : DateTime) (g : ReleaseGate) : Prop :=
  g.status = "failed" ∨
  (g.status = "overridden" ∧ ∃ w, LatestWaiver db tenant_id g w ∧ waiver_state w now = .expired) ∨
  (g.status = "pending" ∧ ∃ t ∈ db.gate_types, some t.id = g.gate_type_id ∧
    t.tenant_id = tenant_id ∧ t.failure_behaviour = "block")

/-- The gate has a blocker in the response. -/
def Blocks (r : ReleaseReadinessResponse) (g : ReleaseGate) : Prop :=
  ∃ e ∈ r.blockers, e.ref_kind = "gate" ∧ e.ref_id = g.id

theorem mem_gates_of :
    g ∈ gates_of db release_id tenant_id ↔ g ∈ db.gates ∧ OfRelease release_id tenant_id g := by
  rw [gates_of, mem_order_by, Table.mem_select]
  refine and_congr_right fun _ => ?_
  rw [decide_eq_true_eq]
  exact ⟨fun ⟨hrelease, htenant, hlive⟩ => ⟨hrelease, htenant, hlive⟩,
    fun h => ⟨h.release, h.tenant, h.live⟩⟩

theorem waiver_order_inj {a b : GateWaiver} (ha : a ∈ db.waivers) (hb : b ∈ db.waivers)
    (h : waiver_order a = waiver_order b) : a = b :=
  Table.eq_of_key_eq ha hb (congrArg Prod.snd (toLex_inj.1 h))

/-- Of one gate the newest come first. -/
theorem waiver_order_le_iff {w' : GateWaiver} (hgate : w.gate_id = w'.gate_id) :
    waiver_order w ≤ waiver_order w' ↔ w'.id ≤ w.id := by
  constructor
  · intro h
    rcases Prod.Lex.toLex_le_toLex.1 h with hlt | ⟨-, hle⟩
    · exact absurd hlt (by simp [hgate])
    · exact OrderDual.toDual_le_toDual.1 hle
  · intro h
    exact Prod.Lex.toLex_le_toLex.2 (Or.inr ⟨hgate, OrderDual.toDual_le_toDual.2 h⟩)

theorem mem_waivers_of_gate {gate_ids : List ℕ} (hg : g.id ∈ gate_ids) :
    w ∈ (db.waivers.select fun w =>
        w.tenant_id = tenant_id ∧ w.gate_id ∈ gate_ids ∧ w.deleted_at = none).filter
          (fun w => w.gate_id = g.id) ↔
      w ∈ db.waivers ∧ w.gate_id = g.id ∧ w.tenant_id = tenant_id ∧ w.deleted_at = none := by
  rw [List.mem_filter, Table.mem_select, decide_eq_true_eq, decide_eq_true_eq]
  constructor
  · rintro ⟨⟨hmem, htenant, -, hlive⟩, hgate⟩
    exact ⟨hmem, hgate, htenant, hlive⟩
  · rintro ⟨hmem, hgate, htenant, hlive⟩
    exact ⟨⟨hmem, htenant, hgate ▸ hg, hlive⟩, hgate⟩

/-- The dictionary has the latest waiver of each gate. -/
theorem get_waiver {gate_ids : List ℕ} (hg : g.id ∈ gate_ids) :
    (latest_waivers_for_gates db tenant_id gate_ids).get g.id = some w ↔
      LatestWaiver db tenant_id g w := by
  rw [latest_waivers_for_gates, Index.get_keep_first_of_answers
    (fun a ha b hb => waiver_order_inj (Table.mem_select.1 ha).1 (Table.mem_select.1 hb).1)
    (OrderBy.answers_order_by waiver_order _), least_eq_some_iff fun a ha b hb =>
      waiver_order_inj ((mem_waivers_of_gate hg).1 ha).1 ((mem_waivers_of_gate hg).1 hb).1]
  simp only [mem_waivers_of_gate hg]
  constructor
  · rintro ⟨⟨hmem, hgate, htenant, hlive⟩, hle⟩
    refine ⟨hmem, hgate, htenant, hlive, fun w' hmem' hgate' htenant' hlive' => ?_⟩
    exact (waiver_order_le_iff (hgate.trans hgate'.symm)).1
      (hle w' ⟨hmem', hgate', htenant', hlive'⟩)
  · intro h
    refine ⟨⟨h.mem, h.gate, h.tenant, h.live⟩, ?_⟩
    rintro w' ⟨hmem', hgate', htenant', hlive'⟩
    exact (waiver_order_le_iff (h.gate.trans hgate'.symm)).2
      (h.newest w' hmem' hgate' htenant' hlive')

theorem type_of_eq_some {t : GateType} :
    type_of db tenant_id g = some t ↔
      t ∈ db.gate_types ∧ some t.id = g.gate_type_id ∧ t.tenant_id = tenant_id := by
  exact Table.select_one_iff fun a ha b hb hqa hqb =>
    Table.eq_of_key_eq ha hb (Option.some.inj (hqa.1.trans hqb.1.symm))

/-- When one turn of the loop finds a blocker. -/
theorem gate_finding_blocks_iff {waivers : Index ℕ GateWaiver} :
    (∃ e, gate_finding waivers names now g gate_type = some (.blocker e)) ↔
      g.status = "failed" ∨
      (g.status = "overridden" ∧ ∃ w, waivers.get g.id = some w ∧ waiver_state w now = .expired) ∨
      (g.status = "pending" ∧ ∃ t, gate_type = some t ∧ t.failure_behaviour = "block") := by
  unfold gate_finding
  by_cases hfailed : g.status = "failed"
  · simp [hfailed, gate_blocker]
  · by_cases hoverridden : g.status = "overridden"
    · rw [if_neg hfailed, if_pos hoverridden]
      cases hget : waivers.get g.id with
      | none => simp [hoverridden, gate_warning]
      | some w =>
        by_cases hexpired : waiver_state w now = .expired
        · simp [hoverridden, hexpired, gate_blocker]
        · simp [hoverridden, hexpired, gate_warning]
    · by_cases hpending : g.status = "pending"
      · rw [if_neg hfailed, if_neg hoverridden, if_pos hpending]
        cases gate_type with
        | none => simp [hpending, gate_warning]
        | some t =>
          by_cases hblock : t.failure_behaviour = "block"
          · simp [hpending, hblock, gate_blocker]
          · simp [hpending, hblock, gate_warning]
      · simp [hfailed, hoverridden, hpending]

/-- A blocker of the loop over the gates refers to its gate. -/
theorem gate_finding_ref {waivers : Index ℕ GateWaiver}
    (h : gate_finding waivers names now g gate_type = some (.blocker e)) :
    e.ref_kind = "gate" ∧ e.ref_id = g.id := by
  have hentry : ∃ kind detail, e = gate_entry g gate_type "gate" g.id kind detail := by
    unfold gate_finding gate_blocker gate_warning at h
    split at h
    · cases h
      exact ⟨_, _, rfl⟩
    · split at h
      · split at h
        · cases h
        · split at h
          · cases h
            exact ⟨_, _, rfl⟩
          · cases h
      · split at h
        · split at h
          · cases h
          · split at h
            · cases h
              exact ⟨_, _, rfl⟩
            · cases h
        · cases h
  obtain ⟨kind, detail, rfl⟩ := hentry
  exact ⟨rfl, rfl⟩

/-- Evidence never blocks. -/
theorem blocker_not_mem_evidence {details : Index ℕ StaleEvidenceDetail}
    {items : List GateEvidence} :
    .blocker e ∉ evidence_findings details items g gate_type := by
  unfold evidence_findings
  simp only [List.mem_append, List.mem_filterMap, Option.map_eq_some_iff, not_or]
  constructor
  · split <;> simp [gate_warning]
  · rintro ⟨item, -, detail, -, h⟩
    cases h

theorem blocker_mem_gates :
    .blocker e ∈ gates_findings db release_id tenant_id now ↔
      ∃ g ∈ gates_of db release_id tenant_id,
        gate_finding (latest_waivers_for_gates db tenant_id
            ((gates_of db release_id tenant_id).map ReleaseGate.id))
          (usernames_for db ((latest_waivers_for_gates db tenant_id
            ((gates_of db release_id tenant_id).map ReleaseGate.id)).values.map
              GateWaiver.approved_by_user_id))
          now g (type_of db tenant_id g) = some (.blocker e) := by
  simp only [gates_findings, List.mem_flatMap, List.mem_append, Option.mem_toList,
    blocker_not_mem_evidence, or_false]

/-- What is found of a system refers to the system. -/
theorem system_finding {policy : RollbackPolicy} {system_name : String}
    {plan : Option ReleaseRollbackPlan} {rehearsal : Option RollbackRehearsal} {f : Finding}
    (h : f ∈ plan_findings policy system_id system_name plan ++
      rehearsal_findings policy now system_id system_name rehearsal) :
    ∃ is_blocker kind detail, f = add is_blocker system_id kind detail := by
  rcases List.mem_append.1 h with h | h
  · unfold plan_findings at h
    split at h
    · exact ⟨_, _, _, List.mem_singleton.1 h⟩
    · rcases List.mem_append.1 h with h | h
      · split at h
        · exact ⟨_, _, _, List.mem_singleton.1 h⟩
        · cases h
      · split at h
        · exact ⟨_, _, _, List.mem_singleton.1 h⟩
        · split at h
          · exact ⟨_, _, _, List.mem_singleton.1 h⟩
          · cases h
  · unfold rehearsal_findings at h
    split at h
    · exact ⟨_, _, _, List.mem_singleton.1 h⟩
    · split at h
      · exact ⟨_, _, _, List.mem_singleton.1 h⟩
      · cases h

theorem blocker_mem_systems {policy : RollbackPolicy} {plans : List ReleaseRollbackPlan}
    {changing : List (ℕ × String)}
    (h : .blocker e ∈ systems_findings db policy plans changing tenant_id now) :
    e.ref_kind = "system" := by
  obtain ⟨⟨system_id, system_name⟩, -, hf⟩ := List.mem_flatMap.1 h
  obtain ⟨is_blocker, kind, detail, hadd⟩ := system_finding hf
  cases is_blocker with
  | false => cases hadd
  | true =>
    cases hadd
    rfl

theorem mem_blockers :
    e ∈ (response db release_id tenant_id now).blockers ↔
      .blocker e ∈ findings db release_id tenant_id now := by
  simp only [response, List.mem_filterMap]
  constructor
  · rintro ⟨f, hf, hblocker⟩
    cases f with
    | blocker e' =>
      obtain rfl := Option.some.inj hblocker
      exact hf
    | warning e' => cases hblocker
  · intro h
    exact ⟨_, h, rfl⟩

/-- A gate's turn finds a blocker exactly if the gate is unmet. -/
theorem turn_blocks_iff (hg : g ∈ gates_of db release_id tenant_id) :
    (∃ e, gate_finding (latest_waivers_for_gates db tenant_id
        ((gates_of db release_id tenant_id).map ReleaseGate.id)) names now g
          (type_of db tenant_id g) = some (.blocker e)) ↔ Unmet db tenant_id now g := by
  rw [gate_finding_blocks_iff, Unmet]
  have hwaiver := fun w => @get_waiver g w db tenant_id _ (List.mem_map_of_mem hg)
  simp only [hwaiver, type_of_eq_some, and_assoc]

/-- **A gate blocks exactly if it is unmet.** -/
theorem blocks_iff (hg : g ∈ gates_of db release_id tenant_id) :
    Blocks (response db release_id tenant_id now) g ↔ Unmet db tenant_id now g := by
  rw [← turn_blocks_iff hg]
  constructor
  · rintro ⟨e, he, hkind, hid⟩
    rcases List.mem_append.1 (mem_blockers.1 he) with he | he
    · obtain ⟨g', hg', hfinding⟩ := blocker_mem_gates.1 he
      -- a blocker of the loop that refers to `g` is of its own turn
      have hgate : g' = g := Table.eq_of_key_eq (mem_gates_of.1 hg').1 (mem_gates_of.1 hg).1
        ((gate_finding_ref hfinding).2.symm.trans hid)
      rw [hgate] at hfinding
      exact ⟨e, hfinding⟩
    · rw [blocker_mem_systems he] at hkind
      exact absurd hkind (by decide)
  · rintro ⟨e, he⟩
    have hmem := mem_blockers.2 (List.mem_append_left _ (blocker_mem_gates.2 ⟨g, hg, he⟩))
    exact ⟨e, hmem, gate_finding_ref he⟩

/-- No other gate blocks. -/
theorem unmet_of_blocker (he : e ∈ (response db release_id tenant_id now).blockers)
    (hkind : e.ref_kind = "gate") :
    ∃ g ∈ gates_of db release_id tenant_id, Unmet db tenant_id now g ∧ e.ref_id = g.id := by
  rcases List.mem_append.1 (mem_blockers.1 he) with he | he
  · obtain ⟨g, hg, hfinding⟩ := blocker_mem_gates.1 he
    exact ⟨g, hg, (turn_blocks_iff hg).1 ⟨e, hfinding⟩, (gate_finding_ref hfinding).2⟩
  · rw [blocker_mem_systems he] at hkind
    exact absurd hkind (by decide)

/-! ## Systems -/

/-- The release changes the system. -/
def Changing (db : Db) (release_id tenant_id system_id : ℕ) : Prop :=
  ∃ rs ∈ db.attachments.release_systems, rs.release_id = release_id ∧ rs.system_id = system_id ∧
    (rs.role = "changing" ∨ rs.role = "config_only") ∧
    ∃ s ∈ db.attachments.systems, s.id = system_id ∧ s.tenant_id = tenant_id

/-- A live plan of the release. -/
structure LivePlan (db : Db) (release_id tenant_id : ℕ) (p : ReleaseRollbackPlan) : Prop where
  mem : p ∈ db.plans
  release : p.release_id = release_id
  tenant : p.tenant_id = tenant_id
  live : p.deleted_at = none

/-- The worst of the live plans of the systems that the release changes, if there are any. -/
structure Worst (db : Db) (release_id tenant_id : ℕ) (v : Option String) : Prop where
  absent : v = none ↔
    ¬ ∃ p, LivePlan db release_id tenant_id p ∧ Changing db release_id tenant_id p.system_id
  worst : ∀ value, v = some value →
    (∃ p, LivePlan db release_id tenant_id p ∧ Changing db release_id tenant_id p.system_id ∧
      p.reversibility = value) ∧
    ∀ p, LivePlan db release_id tenant_id p → Changing db release_id tenant_id p.system_id →
      Rollback.severity p.reversibility ≤ Rollback.severity value

theorem mem_changing (h : Rollback._get_release db.toDb release_id tenant_id = .ok release) :
    system_id ∈ (Rollback.changing_systems_for_release db.toDb release_id tenant_id).map Prod.fst ↔
      Changing db release_id tenant_id system_id := by
  obtain ⟨hrelease, hq⟩ := Table.select_one_some (get_or_raise_eq_ok.1 h)
  obtain ⟨hid, htenant, hlive⟩ := of_decide_eq_true hq
  have hfound : ∀ id s, (db.attachments.systems.select_one fun s =>
      s.id = id ∧ s.tenant_id = tenant_id) = some s ↔
        s ∈ db.attachments.systems ∧ s.id = id ∧ s.tenant_id = tenant_id :=
    fun _ _ => Table.select_one_key_iff fun _ hq => hq.1
  simp only [Rollback.changing_systems_for_release, List.mem_map, List.mem_filterMap,
    Table.mem_select, decide_eq_true_eq, Option.map_eq_some_iff, hfound]
  constructor
  · rintro ⟨i, ⟨rs, ⟨hrs, hof, hrole, -⟩, s, ⟨hs, hsid, hstenant⟩, rfl⟩, rfl⟩
    exact ⟨rs, hrs, hof, hsid.symm, hrole, s, hs, rfl, hstenant⟩
  · rintro ⟨rs, hrs, hof, hsystem, hrole, s, hs, hsid, hstenant⟩
    refine ⟨(s.id, s.name), ⟨rs, ⟨hrs, hof, hrole, release, hrelease, ?_, htenant, hlive⟩, s,
      ⟨hs, hsid.trans hsystem.symm, hstenant⟩, rfl⟩, hsid⟩
    rw [hid, hof]

theorem mem_plans_of_iff {p : ReleaseRollbackPlan} :
    p ∈ plans_of db release_id tenant_id ↔ LivePlan db release_id tenant_id p := by
  rw [mem_plans_of]
  exact ⟨fun ⟨hmem, hrelease, htenant, hlive⟩ => ⟨hmem, hrelease, htenant, hlive⟩,
    fun h => ⟨h.mem, h.release, h.tenant, h.live⟩⟩

theorem worst_reversibility (h : Rollback._get_release db.toDb release_id tenant_id = .ok release) :
    Worst db release_id tenant_id (reversibility db release_id tenant_id) := by
  have hmem : ∀ p, p ∈ (plans_of db release_id tenant_id).filter (fun p => p.system_id ∈
      (Rollback.changing_systems_for_release db.toDb release_id tenant_id).map Prod.fst) ↔
      LivePlan db release_id tenant_id p ∧ Changing db release_id tenant_id p.system_id := by
    intro p
    rw [List.mem_filter, mem_plans_of_iff, decide_eq_true_eq, mem_changing h]
  constructor
  · rw [reversibility, Rollback.rollup, least_eq_none, List.map_eq_nil_iff,
      List.eq_nil_iff_forall_not_mem, not_exists]
    exact forall_congr' fun p => not_congr (hmem p)
  · intro value hvalue
    obtain ⟨hin, hle⟩ := least_eq_some hvalue
    obtain ⟨p, hp, rfl⟩ := List.mem_map.1 hin
    obtain ⟨hlive, hchanging⟩ := (hmem p).1 hp
    refine ⟨⟨p, hlive, hchanging, rfl⟩, fun q hq hqchanging => ?_⟩
    have hrank := hle q.reversibility (List.mem_map_of_mem ((hmem q).2 ⟨hq, hqchanging⟩))
    exact OrderDual.toDual_le_toDual.1 hrank

/-- A changing system without a live plan is a finding of its own. -/
def ReportedMissing (r : ReleaseReadinessResponse) (system_id : ℕ) : Prop :=
  ∃ e ∈ r.blockers ++ r.warnings,
    e.type = "rollback_plan_missing" ∧ e.ref_kind = "system" ∧ e.ref_id = system_id

theorem reported_missing (h : Rollback._get_release db.toDb release_id tenant_id = .ok release)
    (hchanging : Changing db release_id tenant_id system_id)
    (hmissing : ∀ p, LivePlan db release_id tenant_id p → p.system_id ≠ system_id) :
    ReportedMissing (response db release_id tenant_id now) system_id := by
  obtain ⟨⟨system_id, name⟩, hpair, rfl⟩ := List.mem_map.1 ((mem_changing h).2 hchanging)
  have hnone : (Index.fill ReleaseRollbackPlan.system_id id
      (plans_of db release_id tenant_id)).get system_id = none := by
    cases hget : (Index.fill ReleaseRollbackPlan.system_id id
        (plans_of db release_id tenant_id)).get system_id with
    | none => rfl
    | some p =>
      obtain ⟨hp, hsystem⟩ := get_plan.1 hget
      exact absurd hsystem (hmissing p (mem_plans_of_iff.1 hp))
  have hfinding : add (get_or_create_policy db.policies tenant_id).1.require_rollback_plan system_id
      "rollback_plan_missing" s!"{name} has no rollback plan." ∈
        findings db release_id tenant_id now := by
    refine List.mem_append_right _ (List.mem_flatMap.2 ⟨(system_id, name), hpair, ?_⟩)
    refine List.mem_append_left _ ?_
    rw [hnone]
    exact List.mem_singleton_self _
  -- the policy says only whether it blocks or warns
  cases hrequired : (get_or_create_policy db.policies tenant_id).1.require_rollback_plan with
  | true =>
    rw [hrequired] at hfinding
    exact ⟨_, List.mem_append_left _ (mem_blockers.2 hfinding), rfl, rfl, rfl⟩
  | false =>
    rw [hrequired] at hfinding
    exact ⟨_, List.mem_append_right _ (List.mem_filterMap.2 ⟨_, hfinding, rfl⟩), rfl, rfl, rfl⟩

/-! ## The verdict -/

/-- What the response says besides the decision it reports. -/
def ReleaseReadinessResponse.undecided (r : ReleaseReadinessResponse) : ReleaseReadinessResponse :=
  { r with latest_decision := none }

/-- The same verdict, or refused alike. -/
def SameOutcome : Except Raised (ReleaseReadinessResponse × Db) →
    Except Raised (ReleaseReadinessResponse × Db) → Prop
  | .ok a, .ok b => SameVerdict a.1 b.1
  | .error e, .error e' => e = e'
  | _, _ => False

/-- What one evaluation of a release says. -/
structure Judged (db : Db) (release_id tenant_id : ℕ) (now : DateTime)
    (r : ReleaseReadinessResponse) : Prop where
  ok : r.ok = true ↔ r.blockers = []
  gates : ∀ g ∈ db.gates, OfRelease release_id tenant_id g →
    (Blocks r g ↔ Unmet db tenant_id now g)
  only : ∀ e ∈ r.blockers, e.ref_kind = "gate" →
    ∃ g ∈ db.gates, OfRelease release_id tenant_id g ∧ Unmet db tenant_id now g ∧ e.ref_id = g.id
  reversibility : Worst db release_id tenant_id r.reversibility
  missing : ∀ system_id, Changing db release_id tenant_id system_id →
    (∀ p, LivePlan db release_id tenant_id p → p.system_id ≠ system_id) →
      ReportedMissing r system_id

structure ReadinessJudged (db : Db) (release_id tenant_id : ℕ) (now : DateTime) : Prop where
  judged : ∀ r db', evaluate db release_id tenant_id now = .ok (r, db') →
    Judged db release_id tenant_id now r
  /-- The order of rows does not show. -/
  reread : ∀ db', Reread db db' →
    SameOutcome (evaluate db release_id tenant_id now) (evaluate db' release_id tenant_id now)
  /-- Nor does any decision. -/
  undecided : ∀ decisions conditions,
    (evaluate { db with decisions := decisions, conditions := conditions } release_id tenant_id
      now).map (fun x => x.1.undecided) =
    (evaluate db release_id tenant_id now).map fun x => x.1.undecided

theorem evaluate_ok {r : ReleaseReadinessResponse} {db' : Db}
    (h : evaluate db release_id tenant_id now = .ok (r, db')) :
    ∃ release, Rollback._get_release db.toDb release_id tenant_id = .ok release ∧
      r = response db release_id tenant_id now := by
  simp only [evaluate, bind_eq_ok, Except.ok.injEq, Prod.mk.injEq] at h
  obtain ⟨release, hrelease, hr, -⟩ := h
  exact ⟨release, hrelease, hr.symm⟩

theorem judged (h : Rollback._get_release db.toDb release_id tenant_id = .ok release) :
    Judged db release_id tenant_id now (response db release_id tenant_id now) where
  ok := by simp [response]
  gates g hg hof := blocks_iff (mem_gates_of.2 ⟨hg, hof⟩)
  only e he hkind := by
    obtain ⟨g, hg, hunmet, hid⟩ := unmet_of_blocker he hkind
    obtain ⟨hmem, hof⟩ := mem_gates_of.1 hg
    exact ⟨g, hmem, hof, hunmet, hid⟩
  reversibility := worst_reversibility h
  missing _ := reported_missing h

/-- **The verdict**: nothing but unmet gates and the systems blocks, and neither the order of rows
nor a decision shows in it. -/
theorem readiness_judged (db : Db) (release_id tenant_id : ℕ) (now : DateTime) :
    ReadinessJudged db release_id tenant_id now where
  judged r db' h := by
    obtain ⟨release, hrelease, rfl⟩ := evaluate_ok h
    exact judged hrelease
  reread db' h := by
    simp only [evaluate, get_release_reread h]
    cases Rollback._get_release db.toDb release_id tenant_id with
    | error e => rfl
    | ok release => exact response_reread h
  undecided decisions conditions := by
    unfold evaluate
    cases Rollback._get_release db.toDb release_id tenant_id with
    | error e => rfl
    | ok release => rfl

/-! ## A system without a plan -/

namespace Partly

def systems : Table Rollback.System Rollback.System.id :=
  (Table.empty.insert ⟨fun n => ⟨n, 1, "api"⟩, fun _ => rfl⟩).insert
    ⟨fun n => ⟨n, 1, "store"⟩, fun _ => rfl⟩

/-- Two systems that the release changes. -/
def release_systems : Table Rollback.ReleaseSystem Rollback.ReleaseSystem.id :=
  (Table.empty.insert ⟨fun n => ⟨n, 1, 1, 1, "changing"⟩, fun _ => rfl⟩).insert
    ⟨fun n => ⟨n, 1, 1, 2, "changing"⟩, fun _ => rfl⟩

theorem unique : ∀ a ∈ release_systems, ∀ b ∈ release_systems,
    a.release_id = b.release_id → a.system_id = b.system_id → a = b := by
  decide

theorem steps_length : 1 ≤ "Redeploy".length := by decide

theorem known : "reversible" ∈ Rollback.REVERSIBILITY_VALUES := by decide

/-- Only one of them has a plan. -/
def plans : Table ReleaseRollbackPlan ReleaseRollbackPlan.id :=
  Table.empty.insert
    (Rollback.new_plan 1 1 ⟨1, "Redeploy", "reversible", none, none, steps_length, known⟩)

theorem one_plan : ∀ p ∈ plans, ∀ q ∈ plans,
    p.release_id = q.release_id → p.system_id = q.system_id → p = q := by
  decide

def tables : Db where
  environments := Table.empty
  builds := Table.empty
  deployments := Table.empty
  evidence := Table.empty
  placed d hd := absurd hd (Table.not_mem_empty d)
  cited e he := absurd he (Table.not_mem_empty e)
  releases := Table.empty.insert (Rollback.new_release 1)
  attachments := ⟨systems, release_systems, unique⟩
  plans := plans
  gates := Table.empty
  gate_types := Table.empty
  waivers := Table.empty
  users := Table.empty
  rehearsals := Table.empty
  policies := ⟨Table.empty, fun a ha => absurd ha (Table.not_mem_empty a)⟩
  decisions := Table.empty
  conditions := Table.empty
  one_plan := one_plan

end Partly

/-- "A changing system with no live plan counting as the worst." -/
def MissingIsWorst (db : Db) (release_id tenant_id : ℕ) (now : DateTime) : Prop :=
  ∀ r db', evaluate db release_id tenant_id now = .ok (r, db') →
    ∀ system_id, Changing db release_id tenant_id system_id →
      (∀ p, LivePlan db release_id tenant_id p → p.system_id ≠ system_id) →
        ∀ value ∈ Rollback.REVERSIBILITY_VALUES, ∃ v, r.reversibility = some v ∧
          Rollback.severity value ≤ Rollback.severity v

/-- The release reads reversible all the same. -/
theorem missing_is_not_worst : ¬ MissingIsWorst Partly.tables 1 1 0 := by
  intro h
  have hchanging : Changing Partly.tables 1 1 2 :=
    ⟨⟨2, 1, 1, 2, "changing"⟩, by decide, rfl, rfl, Or.inl rfl, ⟨2, 1, "store"⟩, by decide, rfl, rfl⟩
  have hmissing : ∀ p, LivePlan Partly.tables 1 1 p → p.system_id ≠ 2 := by
    intro p hp
    have hall : ∀ p ∈ Partly.plans, p.system_id ≠ 2 := by decide
    exact hall p hp.mem
  obtain ⟨v, hv, hle⟩ := h (response Partly.tables 1 1 0) _ rfl 2 hchanging hmissing
    "irreversible" (by decide)
  have hread : (response Partly.tables 1 1 0).reversibility = some "reversible" := by decide
  rw [hread] at hv
  obtain rfl := Option.some.inj hv
  exact absurd hle (by decide)

end EnvMgr.Readiness

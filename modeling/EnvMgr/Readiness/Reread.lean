/-
What the verdict does not depend on: the order of rows, and the decisions recorded.

Each look-up is sorted by something that tells its rows apart, or finds one row by a unique
column, or fills a dictionary by one; so none of them shows the order in which the database
reads its rows. What does is the order of the systems, and which of two deployments of one
moment the text of a warning names.
-/
import EnvMgr.Lib.Reordered
import EnvMgr.Readiness.Service

namespace EnvMgr.Readiness

open Gates (ReleaseGate)
open Rollback (ReleaseRollbackPlan)
open Table (Reordered)

variable {e : GateEvidence} {items : List GateEvidence} {p : ReleaseRollbackPlan}

/-- The same rows, each table read in another order. -/
structure Reread (db db' : Db) : Prop where
  environments : Reordered db.environments db'.environments
  builds : Reordered db.builds db'.builds
  deployments : Reordered db.deployments db'.deployments
  evidence : Reordered db.evidence db'.evidence
  releases : Reordered db.releases db'.releases
  systems : Reordered db.attachments.systems db'.attachments.systems
  release_systems : Reordered db.attachments.release_systems db'.attachments.release_systems
  plans : Reordered db.plans db'.plans
  gates : Reordered db.gates db'.gates
  gate_types : Reordered db.gate_types db'.gate_types
  waivers : Reordered db.waivers db'.waivers
  users : Reordered db.users db'.users
  rehearsals : Reordered db.rehearsals db'.rehearsals
  policies : Reordered db.policies.rows db'.policies.rows
  policies_next : db'.policies.rows.next = db.policies.rows.next

variable {db db' : Db} {release_id tenant_id : ℕ} {now : DateTime}

/-! ## Look-ups -/

theorem get_release_reread (h : Reread db db') :
    Rollback._get_release db'.toDb release_id tenant_id =
      Rollback._get_release db.toDb release_id tenant_id := by
  refine congrArg (fun found => get_or_raise found _)
    (h.releases.select_one fun a ha b hb hpa hpb => ?_)
  exact Table.eq_of_key_eq ha hb ((of_decide_eq_true hpa).1.trans (of_decide_eq_true hpb).1.symm)

theorem gates_of_reread (h : Reread db db') :
    gates_of db' release_id tenant_id = gates_of db release_id tenant_id := by
  refine h.gates.order_by (fun _ _ => rfl) fun a ha b hb hab => ?_
  exact Table.eq_of_key_eq ha hb (congrArg Prod.snd (toLex_inj.1 hab))

theorem waivers_reread (h : Reread db db') (gate_ids : List ℕ) :
    latest_waivers_for_gates db' tenant_id gate_ids =
      latest_waivers_for_gates db tenant_id gate_ids := by
  refine congrArg (Index.keep_first GateWaiver.gate_id)
    (h.waivers.order_by (fun _ _ => rfl) fun a ha b hb hab => ?_)
  exact Table.eq_of_key_eq ha hb (congrArg Prod.snd (toLex_inj.1 hab))

theorem evidence_reread (h : Reread db db') (gate_ids : List ℕ) :
    evidence_for_gates db'.toEvidenceDb tenant_id gate_ids =
      evidence_for_gates db.toEvidenceDb tenant_id gate_ids := by
  have hrows : order_by (fun e : GateEvidence => toLex (e.gate_id, e.id))
      (db'.evidence.select fun e =>
        e.tenant_id = tenant_id ∧ e.gate_id ∈ gate_ids ∧ e.deleted_at = none) =
      order_by (fun e : GateEvidence => toLex (e.gate_id, e.id)) (db.evidence.select fun e =>
        e.tenant_id = tenant_id ∧ e.gate_id ∈ gate_ids ∧ e.deleted_at = none) := by
    refine h.evidence.order_by (fun _ _ => rfl) fun a ha b hb hab => ?_
    exact Table.eq_of_key_eq ha hb (congrArg Prod.snd (toLex_inj.1 hab))
  simp only [evidence_for_gates, hrows]

theorem rehearsals_reread (h : Reread db db') {system_ids system_ids' : List ℕ}
    (hids : system_ids'.Perm system_ids) :
    latest_rehearsals_for_systems db' tenant_id system_ids' =
      latest_rehearsals_for_systems db tenant_id system_ids := by
  refine congrArg (Index.keep_first RollbackRehearsal.system_id)
    (h.rehearsals.order_by (fun r _ => ?_) fun a ha b hb hab => ?_)
  -- the systems that are asked for may come in another order
  · simp only [hids.mem_iff]
  · have hab := congrArg Prod.snd (toLex_inj.1 hab)
    exact Table.eq_of_key_eq ha hb (congrArg Prod.snd (toLex_inj.1 hab))

theorem usernames_reread (h : Reread db db') (user_ids : List ℕ) (k : ℕ) :
    (usernames_for db' user_ids).get k = (usernames_for db user_ids).get k :=
  Index.get_fill_perm (fun _ ha _ hb hab =>
    Table.eq_of_key_eq (Table.mem_select.1 ha).1 (Table.mem_select.1 hb).1 hab)
    (h.users.select fun _ _ => rfl) k

theorem type_reread (h : Reread db db') (gate : ReleaseGate) :
    type_of db' tenant_id gate = type_of db tenant_id gate := by
  refine h.gate_types.select_one fun a ha b hb hpa hpb => Table.eq_of_key_eq ha hb ?_
  exact Option.some.inj ((of_decide_eq_true hpa).1.trans (of_decide_eq_true hpb).1.symm)

theorem policy_reread (h : Reread db db') :
    (get_or_create_policy db'.policies tenant_id).1 =
      (get_or_create_policy db.policies tenant_id).1 := by
  have hpolicy : policy_of db'.policies tenant_id = policy_of db.policies tenant_id := by
    refine h.policies.select_one fun a ha b hb hpa hpb => db.policies.unique a ha b hb ?_
    exact (of_decide_eq_true hpa).trans (of_decide_eq_true hpb).symm
  -- a policy that has to be made is the default one, under the next key
  have hcreated : ∀ policies : Policies, (get_or_create_policy policies tenant_id).1 =
      (policy_of policies tenant_id).getD ((default_policy tenant_id).row policies.rows.next) := by
    intro policies
    unfold get_or_create_policy
    split
    · rename_i hfound
      rw [hfound, Option.getD_some]
    · rename_i hfound
      have hdefault : (policy_of policies tenant_id).getD
          ((default_policy tenant_id).row policies.rows.next) =
            (default_policy tenant_id).row policies.rows.next := by
        rw [hfound, Option.getD_none]
      exact hdefault.symm
  rw [hcreated, hcreated, hpolicy, h.policies_next]

/-! ## Staleness -/

theorem supersedes_reread (h : Reread db db') {d d' : Deployment}
    (hsup : Supersedes db.toEvidenceDb d' d) : Supersedes db'.toEvidenceDb d' d := by
  obtain ⟨b, hb, b', hb', hid, hid', hsub⟩ := hsup.subsystem
  exact ⟨hsup.live, hsup.success,
    ⟨b, h.builds.mem_iff.2 hb, b', h.builds.mem_iff.2 hb', hid, hid', hsub⟩, hsup.environment,
    hsup.later⟩

theorem Reread.symm (h : Reread db db') : Reread db' db where
  environments := h.environments.symm
  builds := h.builds.symm
  deployments := h.deployments.symm
  evidence := h.evidence.symm
  releases := h.releases.symm
  systems := h.systems.symm
  release_systems := h.release_systems.symm
  plans := h.plans.symm
  gates := h.gates.symm
  gate_types := h.gate_types.symm
  waivers := h.waivers.symm
  users := h.users.symm
  rehearsals := h.rehearsals.symm
  policies := h.policies.symm
  policies_next := h.policies_next.symm

theorem stale_reread (h : Reread db db') (e : GateEvidence) :
    Stale db'.toEvidenceDb e ↔ Stale db.toEvidenceDb e := by
  constructor
  · rintro ⟨d, hd, hcites, d', hd', hsup⟩
    exact ⟨d, h.deployments.mem_iff.1 hd, hcites, d', h.deployments.mem_iff.1 hd',
      supersedes_reread h.symm hsup⟩
  · rintro ⟨d, hd, hcites, d', hd', hsup⟩
    exact ⟨d, h.deployments.mem_iff.2 hd, hcites, d', h.deployments.mem_iff.2 hd',
      supersedes_reread h hsup⟩

/-- The same pieces of evidence of a page are stale. -/
theorem stale_isSome_reread (h : Reread db db') {rows : List GateEvidence}
    (hrows : OfTenant db.toEvidenceDb tenant_id rows) (he : e ∈ rows) :
    ((stale_evidence_details db'.toEvidenceDb tenant_id rows).get e.id).isSome =
      ((stale_evidence_details db.toEvidenceDb tenant_id rows).get e.id).isSome := by
  have hrows' : OfTenant db'.toEvidenceDb tenant_id rows :=
    fun e he => ⟨h.evidence.mem_iff.2 (hrows e he).1, (hrows e he).2⟩
  have hstale := stale_iff hrows he
  have hstale' := stale_iff hrows' he
  rw [Bool.eq_iff_iff, Option.isSome_iff_exists, Option.isSome_iff_exists, ← Index.mem_keys,
    ← Index.mem_keys, hstale, hstale', stale_reread h]

/-! ## The gates -/

/-- A finding without the text of a warning about stale evidence. -/
def Finding.untold : Finding → Finding
  | .blocker entry => .blocker entry
  | .warning entry =>
    .warning (if entry.type = "evidence_stale" then { entry with detail := none } else entry)

theorem gate_finding_reread {waivers : Index ℕ GateWaiver} {names names' : Index ℕ String}
    (h : ∀ k, names'.get k = names.get k) (gate : ReleaseGate) (gate_type : Option GateType) :
    gate_finding waivers names' now gate gate_type =
      gate_finding waivers names now gate gate_type := by
  simp only [gate_finding, waived_detail, h]

theorem evidence_findings_reread {details details' : Index ℕ StaleEvidenceDetail}
    (h : ∀ e ∈ items, (details'.get e.id).isSome = (details.get e.id).isSome) (gate : ReleaseGate)
    (gate_type : Option GateType) :
    (evidence_findings details' items gate gate_type).map Finding.untold =
      (evidence_findings details items gate gate_type).map Finding.untold := by
  have hitem : ∀ e ∈ items,
      ((details'.get e.id).map (evidence_warning gate gate_type e)).map Finding.untold =
        ((details.get e.id).map (evidence_warning gate gate_type e)).map Finding.untold := by
    intro e he
    -- what the detail says may differ, that there is one may not
    have hsome := h e he
    cases hget : details.get e.id with
    | none =>
      rw [hget, Option.isSome_none, Option.isSome_eq_false_iff, Option.isNone_iff_eq_none] at hsome
      rw [hsome]
    | some detail =>
      rw [hget, Option.isSome_some, Option.isSome_iff_exists] at hsome
      obtain ⟨detail', hget'⟩ := hsome
      rw [hget']
      rfl
  unfold evidence_findings
  simp only [List.map_append, List.map_filterMap]
  exact congrArg _ (List.filterMap_congr hitem)

theorem mem_evidence_for_gates {gate_ids : List ℕ} {k : ℕ}
    (h : (evidence_for_gates db.toEvidenceDb tenant_id gate_ids).get k = some items)
    (he : e ∈ items) : e ∈ db.evidence ∧ e.tenant_id = tenant_id := by
  simp only [evidence_for_gates, Index.get_tabulate, Option.ite_none_right_eq_some,
    Option.some.injEq] at h
  obtain ⟨-, rfl⟩ := h
  have hmem := mem_order_by.1 (List.mem_of_mem_filter he)
  obtain ⟨hrow, hq⟩ := Table.mem_select.1 hmem
  exact ⟨hrow, (of_decide_eq_true hq).1⟩

/-- The page that is asked about. -/
theorem page_of_tenant (gate_ids : List ℕ) : OfTenant db.toEvidenceDb tenant_id
    (evidence_for_gates db.toEvidenceDb tenant_id gate_ids).values.flatten := by
  intro e he
  obtain ⟨items, hitems, he⟩ := List.mem_flatten.1 he
  obtain ⟨k, hk⟩ := Index.mem_values.1 hitems
  exact mem_evidence_for_gates hk he

theorem gates_findings_reread (h : Reread db db') :
    (gates_findings db' release_id tenant_id now).map Finding.untold =
      (gates_findings db release_id tenant_id now).map Finding.untold := by
  simp only [gates_findings, gates_of_reread h, waivers_reread h, evidence_reread h,
    type_reread h, List.map_flatMap, List.map_append,
    gate_finding_reread (usernames_reread h _)]
  refine List.flatMap_congr fun gate _ => ?_
  refine congrArg _ (evidence_findings_reread (fun e he => ?_) gate _)
  -- the evidence of the gate is on the page of all gates
  refine stale_isSome_reread h (page_of_tenant _) ?_
  cases hget : (evidence_for_gates db.toEvidenceDb tenant_id
      ((gates_of db release_id tenant_id).map ReleaseGate.id)).get gate.id with
  | none =>
    rw [hget] at he
    cases he
  | some items =>
    rw [hget] at he
    exact List.mem_flatten.2 ⟨items, Index.mem_values.2 ⟨gate.id, hget⟩, he⟩

/-! ## The systems -/

theorem changing_reread (h : Reread db db') :
    (Rollback.changing_systems_for_release db'.toDb release_id tenant_id).Perm
      (Rollback.changing_systems_for_release db.toDb release_id tenant_id) := by
  have hsystem : ∀ id, (db'.attachments.systems.select_one fun s =>
      s.id = id ∧ s.tenant_id = tenant_id) =
        db.attachments.systems.select_one fun s => s.id = id ∧ s.tenant_id = tenant_id := by
    intro id
    refine h.systems.select_one fun a ha b hb hpa hpb => Table.eq_of_key_eq ha hb ?_
    exact (of_decide_eq_true hpa).1.trans (of_decide_eq_true hpb).1.symm
  simp only [Rollback.changing_systems_for_release, hsystem]
  refine (h.release_systems.select fun rs _ => ?_).filterMap _
  simp only [h.releases.mem_iff]

theorem mem_plans_of :
    p ∈ plans_of db release_id tenant_id ↔
      p ∈ db.plans ∧ p.release_id = release_id ∧ p.tenant_id = tenant_id ∧ p.deleted_at = none := by
  rw [plans_of, Rollback.plans_for_releases, Index.mem_group_getD]
  constructor
  · rintro ⟨q, hq, hrelease, rfl⟩
    obtain ⟨hmem, hq⟩ := Table.mem_select.1 hq
    obtain ⟨-, htenant, hlive⟩ := of_decide_eq_true hq
    exact ⟨hmem, hrelease, htenant, hlive⟩
  · rintro ⟨hmem, hrelease, htenant, hlive⟩
    refine ⟨p, Table.mem_select.2 ⟨hmem, decide_eq_true ⟨?_, htenant, hlive⟩⟩, hrelease, rfl⟩
    rw [hrelease]
    exact List.mem_singleton_self release_id

theorem plans_inj {q : ReleaseRollbackPlan} (hp : p ∈ plans_of db release_id tenant_id)
    (hq : q ∈ plans_of db release_id tenant_id) (hsystem : p.system_id = q.system_id) : p = q := by
  obtain ⟨hpmem, hprelease, -⟩ := mem_plans_of.1 hp
  obtain ⟨hqmem, hqrelease, -⟩ := mem_plans_of.1 hq
  exact db.one_plan p hpmem q hqmem (hprelease.trans hqrelease.symm) hsystem

theorem mem_plans_reread (h : Reread db db') :
    p ∈ plans_of db' release_id tenant_id ↔ p ∈ plans_of db release_id tenant_id := by
  rw [mem_plans_of, mem_plans_of, h.plans.mem_iff]

/-- The plan of a system, if it has one. -/
theorem get_plan {system_id : ℕ} :
    (Index.fill ReleaseRollbackPlan.system_id id (plans_of db release_id tenant_id)).get system_id =
      some p ↔ p ∈ plans_of db release_id tenant_id ∧ p.system_id = system_id := by
  rw [Index.get_fill_eq_some fun p hp q hq => plans_inj hp hq]
  constructor
  · rintro ⟨q, hq, hsystem, rfl⟩
    exact ⟨hq, hsystem⟩
  · rintro ⟨hp, hsystem⟩
    exact ⟨p, hp, hsystem, rfl⟩

theorem systems_findings_reread (h : Reread db db') (policy : RollbackPolicy) :
    (systems_findings db' policy (plans_of db' release_id tenant_id)
        (Rollback.changing_systems_for_release db'.toDb release_id tenant_id) tenant_id now).Perm
      (systems_findings db policy (plans_of db release_id tenant_id)
        (Rollback.changing_systems_for_release db.toDb release_id tenant_id) tenant_id now) := by
  have hchanging := @changing_reread db db' release_id tenant_id h
  have hplan : ∀ system_id,
      (Index.fill ReleaseRollbackPlan.system_id id (plans_of db' release_id tenant_id)).get
        system_id =
      (Index.fill ReleaseRollbackPlan.system_id id (plans_of db release_id tenant_id)).get
        system_id := by
    intro system_id
    refine Option.ext fun p => ?_
    rw [get_plan, get_plan, mem_plans_reread h]
  simp only [systems_findings, hplan, rehearsals_reread h (hchanging.map Prod.fst)]
  exact hchanging.flatMap_right _

/-! ## Reversibility -/

/-- Known values are told apart by their severity. -/
theorem severity_inj {v w : String} (hv : v ∈ Rollback.REVERSIBILITY_VALUES)
    (h : Rollback.severity v = Rollback.severity w) : v = w :=
  (List.idxOf_inj hv).1 h

theorem rollup_congr {plans plans' : List ReleaseRollbackPlan}
    (h : ∀ p, p ∈ plans' ↔ p ∈ plans) : Rollback.rollup plans' = Rollback.rollup plans := by
  refine least_congr (fun v hv w hw hvw => ?_) fun v => by simp only [List.mem_map, h]
  obtain ⟨p, -, rfl⟩ := List.mem_map.1 hv
  obtain ⟨q, -, rfl⟩ := List.mem_map.1 hw
  exact severity_inj p.known (OrderDual.toDual_inj.1 hvw)

theorem reversibility_reread (h : Reread db db') :
    reversibility db' release_id tenant_id = reversibility db release_id tenant_id := by
  have hchanging := @changing_reread db db' release_id tenant_id h
  refine rollup_congr fun p => ?_
  rw [List.mem_filter, List.mem_filter, mem_plans_reread h]
  simp only [(hchanging.map Prod.fst).mem_iff]

/-! ## The response -/

theorem findings_reread (h : Reread db db') :
    ((findings db' release_id tenant_id now).map Finding.untold).Perm
      ((findings db release_id tenant_id now).map Finding.untold) := by
  simp only [findings, List.map_append, gates_findings_reread h, policy_reread h]
  exact ((systems_findings_reread h _).map _).append_left _

theorem as_blocker_untold (f : Finding) : f.untold.as_blocker = f.as_blocker := by
  cases f <;> rfl

/-- A warning without its text, if it is about stale evidence. -/
def Entry.untold (entry : Entry) : Entry :=
  if entry.type = "evidence_stale" then { entry with detail := none } else entry

theorem as_warning_untold (f : Finding) : f.untold.as_warning = f.as_warning.map Entry.untold := by
  cases f <;> rfl

/-- Two responses of one verdict: the same blockers and warnings, in some order. -/
structure SameVerdict (a b : ReleaseReadinessResponse) : Prop where
  ok : b.ok = a.ok
  blockers : b.blockers.Perm a.blockers
  warnings : (b.warnings.map Entry.untold).Perm (a.warnings.map Entry.untold)
  reversibility : b.reversibility = a.reversibility

theorem response_reread (h : Reread db db') :
    SameVerdict (response db release_id tenant_id now) (response db' release_id tenant_id now) := by
  have hfindings := @findings_reread db db' release_id tenant_id now h
  have hblockers : ((findings db' release_id tenant_id now).filterMap Finding.as_blocker).Perm
      ((findings db release_id tenant_id now).filterMap Finding.as_blocker) := by
    have hmap := hfindings.filterMap Finding.as_blocker
    simpa only [List.filterMap_map, Function.comp_def, as_blocker_untold] using hmap
  refine ⟨?_, hblockers, ?_, reversibility_reread h⟩
  · simp only [response, hblockers.length_eq]
  · have hmap := hfindings.filterMap Finding.as_warning
    simp only [response, List.map_filterMap]
    simpa only [List.filterMap_map, Function.comp_def, as_warning_untold] using hmap

end EnvMgr.Readiness

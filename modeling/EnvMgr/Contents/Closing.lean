/-
Whether the gaps that are reported for an environment can be closed.

Adding a system asks for a system that is not deleted, and a report does not: it names the
targets of the dependencies, and the deletion of a system leaves those on it. Where every system
that is needed in the end is there or is not deleted, each report is accepted, and every round of
adding what is reported leaves fewer systems that are not there.
-/
import EnvMgr.Contents.Gaps
import EnvMgr.Lib.Counting

namespace EnvMgr.Contents

open Rounds (Reached reached_of_mem rounds rounds_inv ends_of_decreasing)
open Runs (Along Always run)
open Scanning (Refused)

variable {s s' : Linked} {env_id system_id tenant_id : ℕ}
variable {z : ℕ} {result : EnvironmentVerify}

/-! ## What is needed -/

def LiveEnvironment (s : Linked) (env_id tenant_id : ℕ) : Prop :=
  ∃ e ∈ s.contents.environments, e.id = env_id ∧ e.tenant_id = tenant_id ∧ e.deleted_at = none

def LiveSystem (s : Linked) (system_id tenant_id : ℕ) : Prop :=
  ∃ y ∈ s.contents.systems, y.id = system_id ∧ y.tenant_id = tenant_id ∧ y.deleted_at = none

/-- One of the tenant's dependencies is of `x` on `z`. -/
def Leads (s : Linked) (tenant_id x z : ℕ) : Prop :=
  ∃ d ∈ s.dependencies, d.tenant_id = tenant_id ∧ d.from_system_id = x ∧ d.to_system_id = z

/-- A target of a system in the environment that is not in it itself. -/
def Missing (s : Linked) (env_id tenant_id z : ℕ) : Prop :=
  ¬ Assigned s.contents env_id z ∧
    ∃ x, Assigned s.contents env_id x ∧ Leads s tenant_id x z

/-- What the systems in the environment depend on, and what that depends on, and so on. -/
def Needed (s : Linked) (env_id tenant_id : ℕ) : ℕ → Prop :=
  Reached (Leads s tenant_id) (Assigned s.contents env_id)

/-- Every system that is needed is in the environment, or is there to be put into it. -/
def Supplied (s : Linked) (env_id tenant_id : ℕ) : Prop :=
  LiveEnvironment s env_id tenant_id → ∀ y, Needed s env_id tenant_id y →
    Assigned s.contents env_id y ∨ LiveSystem s y tenant_id

/-! ## Adding a system -/

theorem get_environment_iff :
    (∃ e, get_environment s.contents env_id tenant_id = .ok e) ↔
      LiveEnvironment s env_id tenant_id := by
  constructor
  · rintro ⟨e, he⟩
    exact ⟨e, get_environment_ok he⟩
  · rintro ⟨e, he, hlive⟩
    refine ⟨e, ?_⟩
    rw [get_environment, get_or_raise_eq_ok]
    refine Table.select_one_eq he (decide_eq_true hlive) fun e' he' hp => ?_
    have hid := (of_decide_eq_true hp).1
    exact Table.eq_of_key_eq he' he (hid.trans hlive.1.symm)

theorem get_system_iff :
    (∃ y, get_system s.contents system_id tenant_id = .ok y) ↔
      LiveSystem s system_id tenant_id := by
  constructor
  · rintro ⟨y, hy⟩
    exact ⟨y, get_system_ok hy⟩
  · rintro ⟨y, hy, hlive⟩
    refine ⟨y, ?_⟩
    rw [get_system, get_or_raise_eq_ok]
    refine Table.select_one_eq hy (decide_eq_true hlive) fun y' hy' hp => ?_
    have hid := (of_decide_eq_true hp).1
    exact Table.eq_of_key_eq hy' hy (hid.trans hlive.1.symm)

/-- A live system is added to a live environment that it is not in. -/
theorem add_accepts (henv : LiveEnvironment s env_id tenant_id)
    (hsystem : LiveSystem s system_id tenant_id) (hfree : ¬ Assigned s.contents env_id system_id) :
    ∃ s', s.add env_id system_id tenant_id = .ok s' := by
  obtain ⟨e, he⟩ := get_environment_iff.2 henv
  obtain ⟨y, hy⟩ := get_system_iff.2 hsystem
  have hnone : (s.contents.environment_systems.select fun a =>
      a.environment_id = env_id ∧ a.system_id = system_id) = [] := by
    refine List.eq_nil_iff_forall_not_mem.2 fun a ha => hfree ?_
    obtain ⟨hmem, hp⟩ := Table.mem_select.1 ha
    exact ⟨a, hmem, of_decide_eq_true hp⟩
  have hadd : ∃ db, add_system_to_environment s.contents env_id system_id tenant_id = .ok db := by
    unfold add_system_to_environment
    rw [he, hy, hnone]
    exact ⟨_, rfl⟩
  obtain ⟨db, hdb⟩ := hadd
  exact ⟨_, within_ok.2 ⟨db, hdb, rfl⟩⟩

/-- What is left as it was where systems are added, and which ones are added. -/
structure Filled (env_id tenant_id : ℕ) (s s' : Linked) : Prop where
  dependencies : s'.dependencies = s.dependencies
  environments : s'.contents.environments = s.contents.environments
  systems : s'.contents.systems = s.contents.systems
  assigned : ∀ z, Assigned s.contents env_id z → Assigned s'.contents env_id z
  added : ∀ z, Assigned s'.contents env_id z →
    Assigned s.contents env_id z ∨ LiveSystem s z tenant_id

theorem Filled.refl (s : Linked) : Filled env_id tenant_id s s :=
  ⟨rfl, rfl, rfl, fun _ h => h, fun _ h => Or.inl h⟩

theorem Filled.environment_iff (h : Filled env_id tenant_id s s') :
    LiveEnvironment s' env_id tenant_id ↔ LiveEnvironment s env_id tenant_id := by
  unfold LiveEnvironment
  rw [h.environments]

theorem Filled.system_iff (h : Filled env_id tenant_id s s') :
    LiveSystem s' z tenant_id ↔ LiveSystem s z tenant_id := by
  unfold LiveSystem
  rw [h.systems]

theorem Filled.leads (h : Filled env_id tenant_id s s') : Leads s' tenant_id = Leads s tenant_id := by
  funext x z
  unfold Leads
  rw [h.dependencies]

theorem Filled.trans {s'' : Linked} (h : Filled env_id tenant_id s s')
    (h' : Filled env_id tenant_id s' s'') : Filled env_id tenant_id s s'' where
  dependencies := h'.dependencies.trans h.dependencies
  environments := h'.environments.trans h.environments
  systems := h'.systems.trans h.systems
  assigned z hz := h'.assigned z (h.assigned z hz)
  added z hz := by
    rcases h'.added z hz with hz | hz
    · exact h.added z hz
    · exact Or.inr (h.system_iff.1 hz)

theorem add_filled (h : s.add env_id system_id tenant_id = .ok s') :
    Filled env_id tenant_id s s' ∧ Assigned s'.contents env_id system_id ∧
      ∀ z, Assigned s'.contents env_id z → Assigned s.contents env_id z ∨ z = system_id := by
  obtain ⟨db, hdb, rfl⟩ := within_ok.1 h
  have hlive : LiveSystem s system_id tenant_id := by
    simp only [add_system_to_environment, bind_eq_ok, raised_eq_ok] at hdb
    obtain ⟨_, -, y, hy, -⟩ := hdb
    exact get_system_iff.1 ⟨y, hy⟩
  obtain ⟨-, -, -, henvs, hsystems, -, hass, -⟩ := add_system_ok hdb
  have hadded : ∀ z, Assigned db env_id z → Assigned s.contents env_id z ∨ z = system_id := by
    rintro z ⟨a, ha, henv, hz⟩
    rw [hass, Table.mem_insert] at ha
    rcases ha with ha | rfl
    · exact Or.inl ⟨a, ha, henv, hz⟩
    · exact Or.inr hz.symm
  have hnew : Assigned db env_id system_id :=
    ⟨_, by rw [hass]; exact Table.mem_insert.2 (Or.inr rfl), rfl, rfl⟩
  refine ⟨⟨rfl, henvs, hsystems, ?_, fun z hz => ?_⟩, hnew, hadded⟩
  · rintro z ⟨a, ha, hz⟩
    exact ⟨a, by rw [hass]; exact Table.mem_insert.2 (Or.inl ha), hz⟩
  · rcases hadded z hz with hz | rfl
    · exact Or.inl hz
    · exact Or.inr hlive

theorem add_sound (hs : s.Sound) (h : s.add env_id system_id tenant_id = .ok s') : s'.Sound :=
  @linked_handle_sound s s' (.contents (.add_system_to_environment env_id system_id tenant_id)) hs h

/-! ## What is reported -/

/-- The assignments of a live environment are of its tenant. -/
theorem Linked.Sound.assigned_iff (hs : s.Sound) (henv : LiveEnvironment s env_id tenant_id) :
    Assigned s.contents env_id z ↔ ∃ a ∈ s.contents.environment_systems,
      (a.environment_id = env_id ∧ a.tenant_id = tenant_id) ∧ a.system_id = z := by
  constructor
  · rintro ⟨a, ha, rfl, hz⟩
    obtain ⟨e, he, hid, htenant, -⟩ := henv
    obtain ⟨e', he', hid', htenant'⟩ := hs.assigned_environment a ha
    rw [Table.eq_of_key_eq he' he (hid'.trans hid.symm)] at htenant'
    exact ⟨a, ha, ⟨rfl, htenant'.symm.trans htenant⟩, hz⟩
  · rintro ⟨a, ha, ⟨henv', -⟩, hz⟩
    exact ⟨a, ha, henv', hz⟩

theorem exists_system_of {y : System} (hy : y ∈ s.contents.systems) (hid : y.id = system_id) :
    system_of s system_id = some y :=
  Table.select_one_eq hy (decide_eq_true hid) fun _ hy' hp =>
    Table.eq_of_key_eq hy' hy ((of_decide_eq_true hp).trans hid.symm)

/-- The listing of a live environment names what is missing in it, and each system once. -/
theorem list_systems_ok (hs : s.Sound) (henv : LiveEnvironment s env_id tenant_id) :
    ∃ report, list_systems_in_environment s env_id tenant_id = .ok report ∧
      (∀ z, z ∈ report.missing_systems.map SystemSummary.id ↔ Missing s env_id tenant_id z) ∧
      (report.missing_systems.map SystemSummary.id).Nodup := by
  obtain ⟨e, he⟩ := get_environment_iff.2 henv
  have hrows : ∀ row ∈ s.contents.environment_systems.select fun a =>
      a.environment_id = env_id ∧ a.tenant_id = tenant_id,
      ∃ response, system_response s row = .ok response := by
    intro row hrow
    obtain ⟨y, hy, hid, -⟩ := hs.contents.assigned_system row (Table.mem_select.1 hrow).1
    refine ⟨⟨row.id, row.environment_id, row.system_id, y⟩, ?_⟩
    rw [system_response, exists_system_of hy hid]
    rfl
  obtain ⟨systems, hsystems, -⟩ := exists_mapM hrows
  refine ⟨_, bind_eq_ok.2 ⟨e, he, bind_eq_ok.2 ⟨systems, hsystems, rfl⟩⟩, ?_⟩
  generalize hassigned : (s.contents.environment_systems.select fun a =>
    a.environment_id = env_id ∧ a.tenant_id = tenant_id).map EnvironmentSystem.system_id = ids
  have hmem : ∀ z, z ∈ ids ↔ Assigned s.contents env_id z := by
    intro z
    simp only [← hassigned, List.mem_map, Table.mem_select, decide_eq_true_eq, and_assoc,
      hs.assigned_iff henv]
  generalize hdeps : (s.dependencies.select fun d =>
    d.from_system_id ∈ ids ∧ d.tenant_id = tenant_id).map SystemDependency.to_system_id = targets
  have htargets : ∀ z, z ∈ targets ↔ ∃ x, Assigned s.contents env_id x ∧ Leads s tenant_id x z := by
    intro z
    simp only [← hdeps, List.mem_map, Table.mem_select, decide_eq_true_eq, hmem]
    constructor
    · rintro ⟨d, ⟨hd, hfrom, htenant⟩, hto⟩
      exact ⟨d.from_system_id, hfrom, d, hd, htenant, rfl, hto⟩
    · rintro ⟨x, hx, d, hd, htenant, rfl, hto⟩
      exact ⟨d, ⟨hd, hx, htenant⟩, hto⟩
  -- the row of a target is there, if only as that of a deleted system
  have hids : ((targets.filter fun id => id ∉ ids).eraseDups.filterMap fun id =>
      (system_of s id).map fun y => (⟨y.id, y.name⟩ : SystemSummary)).map SystemSummary.id =
      (targets.filter fun id => id ∉ ids).eraseDups := by
    rw [List.map_filterMap]
    refine (List.filterMap_congr fun id hid => ?_).trans List.filterMap_some
    obtain ⟨x, -, d, hd, -, -, hto⟩ :=
      (htargets id).1 (List.mem_of_mem_filter (List.mem_eraseDups.1 hid))
    obtain ⟨y, hy, hyid, -⟩ := hs.target_system d hd
    rw [exists_system_of hy (hyid.trans hto)]
    exact congrArg some (hyid.trans hto)
  refine ⟨fun z => ?_, ?_⟩
  · rw [hids, List.mem_eraseDups, List.mem_filter, htargets, decide_eq_true_eq, hmem]
    exact and_comm
  · rw [hids]
    exact Counting.eraseDups_nodup _

/-- What the verification counts is missing. -/
theorem verify_missing (h : verify_environment s env_id tenant_id = .ok result)
    {i : SystemVerifyItem} (hi : i ∈ result.missing) :
    Missing s env_id tenant_id i.to_system_id := by
  simp only [verify_environment, bind_eq_ok, Except.ok.injEq] at h
  obtain ⟨_, -, systems, hsystems, rfl⟩ := h
  obtain ⟨hitem, hstatus⟩ := List.mem_filter.1 hi
  obtain ⟨verified, hverified, hi⟩ := List.mem_flatMap.1 hitem
  obtain ⟨x, -, hx⟩ := (mem_mapM hsystems).2 verified hverified
  simp only [verify_system, bind_eq_ok, Except.ok.injEq] at hx
  obtain ⟨_, -, rfl⟩ := hx
  obtain ⟨d, hd, rfl⟩ := List.mem_map.1 hi
  have hkeys : ∀ z, z ∈ (Index.collect (fun a => some a.system_id)
      (s.contents.environment_systems.select fun a => a.environment_id = env_id)).keys ↔
      Assigned s.contents env_id z := by
    intro z
    simp only [Index.mem_keys_collect, Table.mem_select, decide_eq_true_eq, Option.some.injEq,
      and_assoc, Assigned]
  simp only [List.mem_filter, Table.mem_select, decide_eq_true_eq, hkeys] at hd
  obtain ⟨⟨hmem, hfrom, htenant⟩, -⟩ := hd
  refine ⟨fun hassigned => ?_, d.from_system_id, hfrom, d, hmem, htenant, rfl, rfl⟩
  rw [verify_item, if_pos ((hkeys d.to_system_id).2 hassigned)] at hstatus
  cases of_decide_eq_true hstatus

theorem list_systems_live {report : EnvironmentSystemsResponse}
    (h : list_systems_in_environment s env_id tenant_id = .ok report) :
    LiveEnvironment s env_id tenant_id := by
  obtain ⟨e, he, -⟩ := bind_eq_ok.1 h
  exact get_environment_iff.1 ⟨e, he⟩

theorem verify_live (h : verify_environment s env_id tenant_id = .ok result) :
    LiveEnvironment s env_id tenant_id := by
  obtain ⟨e, he, -⟩ := bind_eq_ok.1 h
  exact get_environment_iff.1 ⟨e, he⟩

theorem Missing.needed (h : Missing s env_id tenant_id z) : Needed s env_id tenant_id z := by
  obtain ⟨-, x, hx, hleads⟩ := h
  exact (reached_of_mem hx).next hleads

/-- A system that is missing is there to be added. -/
theorem Supplied.live (hsup : Supplied s env_id tenant_id)
    (henv : LiveEnvironment s env_id tenant_id) (h : Missing s env_id tenant_id z) :
    LiveSystem s z tenant_id :=
  (hsup henv z h.needed).resolve_left h.1

/-! ## Rounds -/

/-- Systems that can be added one by one can be added one after the other. -/
theorem add_all (henv : LiveEnvironment s env_id tenant_id) {systems : List SystemSummary}
    (hlive : ∀ m ∈ systems, LiveSystem s m.id tenant_id ∧ ¬ Assigned s.contents env_id m.id)
    (hnodup : (systems.map SystemSummary.id).Nodup) :
    ∃ s', systems.foldlM (fun s m => s.add env_id m.id tenant_id) s = .ok s' ∧
      ∀ z, Assigned s'.contents env_id z ↔
        Assigned s.contents env_id z ∨ z ∈ systems.map SystemSummary.id := by
  induction systems generalizing s with
  | nil => exact ⟨s, rfl, fun z => by rw [List.map_nil, or_iff_left List.not_mem_nil]⟩
  | cons m systems ih =>
    obtain ⟨⟨hm, hfree⟩, hrest⟩ := List.forall_mem_cons.1 hlive
    rw [List.map_cons, List.nodup_cons] at hnodup
    obtain ⟨t, ht⟩ := add_accepts henv hm hfree
    obtain ⟨hfilled, hnew, hadded⟩ := add_filled ht
    have hstill : ∀ m' ∈ systems,
        LiveSystem t m'.id tenant_id ∧ ¬ Assigned t.contents env_id m'.id := by
      intro m' hm'
      obtain ⟨hlive', hfree'⟩ := hrest m' hm'
      refine ⟨hfilled.system_iff.2 hlive', fun hassigned => ?_⟩
      rcases hadded m'.id hassigned with hassigned | hsame
      · exact hfree' hassigned
      · exact hnodup.1 (List.mem_map.2 ⟨m', hm', hsame⟩)
    obtain ⟨s', hs', hall⟩ := ih (hfilled.environment_iff.2 henv) hstill hnodup.2
    refine ⟨s', ?_, fun z => ?_⟩
    · rw [List.foldlM_cons]
      exact bind_eq_ok.2 ⟨t, ht, hs'⟩
    · rw [hall z, List.map_cons, List.mem_cons, ← or_assoc]
      refine or_congr_left ⟨hadded z, ?_⟩
      rintro (hz | rfl)
      · exact hfilled.assigned z hz
      · exact hnew

theorem add_missing_filled (h : add_missing env_id tenant_id s = .ok s') :
    Filled env_id tenant_id s s' := by
  obtain ⟨report, -, hadds⟩ := bind_eq_ok.1 h
  exact foldlM_inv (P := Filled env_id tenant_id s) (fun _ _ _ hfilled hadd =>
    hfilled.trans (add_filled hadd).1) (Filled.refl s) hadds

theorem add_missing_sound (hs : s.Sound) (h : add_missing env_id tenant_id s = .ok s') :
    s'.Sound := by
  obtain ⟨report, -, hadds⟩ := bind_eq_ok.1 h
  exact foldlM_inv (P := Linked.Sound) (fun _ _ _ ht hadd => add_sound ht hadd) hs hadds

instance (db : Db) (env_id system_id : ℕ) : Decidable (Assigned db env_id system_id) :=
  inferInstanceAs (Decidable (∃ a ∈ db.environment_systems, _))

/-- How many systems are not in the environment. -/
def unassigned (env_id : ℕ) (s : Linked) : ℕ :=
  s.contents.systems.rows.countP fun y => ¬ Assigned s.contents env_id y.id

theorem unassigned_lt (hfilled : Filled env_id tenant_id s s') (hlive : LiveSystem s z tenant_id)
    (hfree : ¬ Assigned s.contents env_id z) (hnew : Assigned s'.contents env_id z) :
    unassigned env_id s' < unassigned env_id s := by
  obtain ⟨y, hy, rfl, -⟩ := hlive
  unfold unassigned
  rw [hfilled.systems]
  have hless : ∀ y ∈ s.contents.systems.rows,
      decide (¬ Assigned s'.contents env_id y.id) = true →
      decide (¬ Assigned s.contents env_id y.id) = true := by
    intro y _ hy
    exact decide_eq_true fun hold => of_decide_eq_true hy (hfilled.assigned y.id hold)
  refine lt_of_le_of_ne (List.countP_mono_left hless) fun hsame => ?_
  exact of_decide_eq_true ((Counting.countP_eq_iff hless).1 hsame y hy (decide_eq_true hfree)) hnew

/-- **One round**: what is reported is added, and fewer systems are left. -/
theorem round_fills (hs : s.Sound) (henv : LiveEnvironment s env_id tenant_id)
    (hsup : Supplied s env_id tenant_id) (hopen : ∃ z, Missing s env_id tenant_id z) :
    ∃ s', add_missing env_id tenant_id s = .ok s' ∧ Supplied s' env_id tenant_id ∧
      unassigned env_id s' < unassigned env_id s := by
  obtain ⟨report, hreport, hmissing, hnodup⟩ := list_systems_ok hs henv
  have hlive : ∀ m ∈ report.missing_systems,
      LiveSystem s m.id tenant_id ∧ ¬ Assigned s.contents env_id m.id := by
    intro m hm
    have hgap := (hmissing m.id).1 (List.mem_map_of_mem hm)
    exact ⟨hsup.live henv hgap, hgap.1⟩
  obtain ⟨s', hadds, hall⟩ := add_all henv hlive hnodup
  have hround : add_missing env_id tenant_id s = .ok s' :=
    bind_eq_ok.2 ⟨report, raised_eq_ok.2 hreport, hadds⟩
  have hfilled := add_missing_filled hround
  refine ⟨s', hround, fun _ y hy => ?_, ?_⟩
  · -- what is needed now was needed before
    have hneeded : Needed s env_id tenant_id y := by
      unfold Needed at hy
      rw [hfilled.leads] at hy
      refine hy.of_grown fun x hx => ?_
      rcases (hall x).1 hx with hx | hx
      · exact reached_of_mem hx
      · exact ((hmissing x).1 hx).needed
    rcases hsup henv y hneeded with hassigned | hlive
    · exact Or.inl (hfilled.assigned y hassigned)
    · exact Or.inr (hfilled.system_iff.2 hlive)
  · obtain ⟨z, hz⟩ := hopen
    exact unassigned_lt hfilled (hsup.live henv hz) hz.1 ((hall z).2 (Or.inr ((hmissing z).2 hz)))

/-! ## Which environments can be closed -/

theorem closable_of_supplied (hs : s.Sound) (hsup : Supplied s env_id tenant_id) :
    Closable s env_id tenant_id where
  listed report hreport m hm := by
    have henv := list_systems_live hreport
    obtain ⟨_, hsame, hmissing, -⟩ := list_systems_ok hs henv
    rw [hreport] at hsame
    cases hsame
    have hgap := (hmissing m.id).1 (List.mem_map_of_mem hm)
    exact add_accepts henv (hsup.live henv hgap) hgap.1
  counted result hresult i hi := by
    have henv := verify_live hresult
    have hgap := verify_missing hresult hi
    exact add_accepts henv (hsup.live henv hgap) hgap.1
  ends report hreport := by
    have hround : ∀ t, (t.Sound ∧ LiveEnvironment t env_id tenant_id ∧
        Supplied t env_id tenant_id) → ¬ (¬ ∃ z, Missing t env_id tenant_id z) →
        ∃ t', add_missing env_id tenant_id t = .ok t' ∧ (t'.Sound ∧
          LiveEnvironment t' env_id tenant_id ∧ Supplied t' env_id tenant_id) ∧
          unassigned env_id t' < unassigned env_id t := by
      rintro t ⟨ht, henv, hsup⟩ hopen
      obtain ⟨t', ht', hsup', hlt⟩ := round_fills ht henv hsup (not_not.1 hopen)
      have henv' := (add_missing_filled ht').environment_iff.2 henv
      exact ⟨t', ht', ⟨add_missing_sound ht ht', henv', hsup'⟩, hlt⟩
    have hends := ends_of_decreasing (unassigned env_id) hround
      ⟨hs, list_systems_live hreport, hsup⟩
    obtain ⟨n, s', hrounds, ⟨hs', henv', -⟩, hdone⟩ := hends
    obtain ⟨report', hreport', hmissing, -⟩ := list_systems_ok hs' henv'
    refine ⟨n, s', report', hrounds, hreport', ?_⟩
    refine List.eq_nil_iff_forall_not_mem.2 fun m hm => hdone ⟨m.id, ?_⟩
    exact (hmissing m.id).1 (List.mem_map_of_mem hm)

/-- Only live systems are added, and the environment in which nothing is missing has in it all
that was ever needed. -/
theorem supplied_of_closable (hs : s.Sound) (h : Closable s env_id tenant_id) :
    Supplied s env_id tenant_id := by
  intro henv y hy
  obtain ⟨report, hreport, -⟩ := list_systems_ok hs henv
  obtain ⟨n, s', report', hrounds, hreport', hnone⟩ := h.ends report hreport
  have hround : ∀ t t', (t.Sound ∧ Filled env_id tenant_id s t) →
      add_missing env_id tenant_id t = .ok t' → t'.Sound ∧ Filled env_id tenant_id s t' :=
    fun t t' ht hround =>
      ⟨add_missing_sound ht.1 hround, ht.2.trans (add_missing_filled hround)⟩
  obtain ⟨hs', hfilled⟩ := rounds_inv hround ⟨hs, Filled.refl s⟩ hrounds
  obtain ⟨_, hsame, hmissing, -⟩ := list_systems_ok hs' (hfilled.environment_iff.2 henv)
  rw [hreport'] at hsame
  cases hsame
  refine hfilled.added y (hy.mem_of_closed hfilled.assigned fun x z hx hleads => ?_)
  by_contra hz
  have hgap : z ∈ report'.missing_systems.map SystemSummary.id :=
    (hmissing z).2 ⟨hz, x, hx, by rwa [hfilled.leads]⟩
  rw [hnone] at hgap
  cases hgap

/-! ## Runs -/

/-- No dependency is on a deleted system. -/
def TargetsLive (s : Linked) : Prop :=
  ∀ d ∈ s.dependencies, LiveSystem s d.to_system_id d.tenant_id

/-- The change deletes a system that some dependency is on. -/
def Withdraws (s : Linked) : Change → Prop
  | .contents (.delete_system system_id _ _) => ∃ d ∈ s.dependencies, d.to_system_id = system_id
  | _ => False

theorem TargetsLive.supplied (h : TargetsLive s) : Supplied s env_id tenant_id := by
  intro _ y hy
  refine hy.mem_of_closed (B := fun z => Assigned s.contents env_id z ∨ LiveSystem s z tenant_id)
    (fun x hx => Or.inl hx) fun x z _ hleads => Or.inr ?_
  obtain ⟨d, hd, htenant, -, hto⟩ := hleads
  rw [← htenant, ← hto]
  exact h d hd

theorem delete_other {now : DateTime} {tenant : ℕ} {db' : Db}
    (h : delete_system s.contents system_id tenant now = .ok db') (hother : z ≠ system_id)
    (hlive : LiveSystem s z tenant_id) : LiveSystem ⟨db', s.dependencies⟩ z tenant_id := by
  simp only [delete_system, bind_eq_ok, raised_eq_ok, Except.ok.injEq] at h
  obtain ⟨system, hsystem, rfl⟩ := h
  obtain ⟨-, hid, -⟩ := get_system_ok hsystem
  obtain ⟨y, hy, rfl, hlive⟩ := hlive
  exact ⟨y, Table.mem_update_of_neg hy (decide_eq_false fun hsame => hother (hsame.trans hid)),
    rfl, hlive⟩

/-- A live system stays one until it is deleted. -/
theorem live_kept {change : Change} (h : s.handle change = .ok s')
    (hlive : LiveSystem s system_id tenant_id)
    (hkept : ∀ tenant now, change ≠ .contents (.delete_system system_id tenant now)) :
    LiveSystem s' system_id tenant_id := by
  -- most changes write other tables
  have hsame : s'.contents.systems = s.contents.systems → LiveSystem s' system_id tenant_id := by
    intro hsystems
    unfold LiveSystem
    rwa [hsystems]
  cases change with
  | contents operation =>
    obtain ⟨db, hdb, rfl⟩ := within_ok.1 h
    cases operation with
    | create_subsystem system_id' data tenant =>
      obtain ⟨-, -, hsystems, -⟩ := create_subsystem_ok hdb
      exact hsame hsystems
    | delete_subsystem subsystem_id system_id' tenant now =>
      obtain ⟨_, -, -, -, -, hsystems, -⟩ := delete_subsystem_ok hdb
      exact hsame hsystems
    | delete_system system_id' tenant now =>
      refine delete_other hdb (fun hid => ?_) hlive
      subst hid
      exact hkept tenant now rfl
    | apply system_id' tenant source edge_source declared =>
      obtain ⟨-, -, hsystems, -⟩ := apply_ok hdb
      exact hsame hsystems
    | add_system_to_environment env_id system_id' tenant =>
      obtain ⟨-, -, -, -, hsystems, -⟩ := add_system_ok hdb
      exact hsame hsystems
    | remove_system_from_environment env_id system_id' tenant =>
      obtain ⟨_, -, -, -, -, -, hsystems, -⟩ := remove_system_ok hdb
      exact hsame hsystems
    | delete_environment env_id tenant now =>
      obtain ⟨-, -, hsystems, -⟩ := delete_environment_ok hdb
      exact hsame hsystems
  | create_system data tenant =>
    obtain rfl := create_system_ok h
    obtain ⟨y, hy, hlive⟩ := hlive
    exact ⟨y, Table.mem_insert.2 (Or.inl hy), hlive⟩
  | update_system system_id' data tenant =>
    obtain ⟨_, _, rfl⟩ := update_system_ok h
    obtain ⟨y, hy, hid, htenant, hdel⟩ := hlive
    refine ⟨_, Table.mem_update.2 ⟨y, hy, rfl⟩, ?_⟩
    split_ifs
    · exact ⟨hid, htenant, hdel⟩
    · exact ⟨hid, htenant, hdel⟩
  | create_system_dependency system_id' data tenant =>
    obtain ⟨-, rfl⟩ := create_dependency_ok h
    exact hlive
  | update_system_dependency dep_id system_id' data tenant =>
    obtain ⟨_, _, _, _, _, rfl⟩ := update_dependency_ok h
    exact hlive
  | delete_system_dependency dep_id system_id' tenant =>
    obtain ⟨_, rfl⟩ := delete_dependency_ok h
    exact hlive
  | create_environment new =>
    cases h
    exact hlive
  | update_environment env_id change =>
    cases h
    exact hlive

theorem step_targets (change : Change) (hi : TargetsLive s) (hkept : ¬ Withdraws s change) :
    TargetsLive (s.step change) := by
  refine commit_or_rollback_keeps hi fun s' h d hd => ?_
  have hlive : LiveSystem s d.to_system_id d.tenant_id := by
    rcases dependencies_handle h d hd with ⟨d₀, hd₀, hto, htenant⟩ | hlive
    · rw [← hto, ← htenant]
      exact hi d₀ hd₀
    · exact hlive
  refine live_kept h hlive fun tenant now hdelete => hkept ?_
  -- a deletion leaves the dependencies as they are
  subst hdelete
  obtain ⟨_, -, rfl⟩ := within_ok.1 h
  exact ⟨d, hd, rfl⟩

/-- **When every gap can be closed.** In a state that is reached, exactly where all that is needed
in the environment is in it or not deleted. In a whole run, for every environment and tenant,
where no system is deleted that some dependency is on. -/
theorem closable_iff_supplied (environments : Table Environment Environment.id)
    (systems : Table System System.id) (custom_fields : List Bookings.CustomFieldDefinition)
    (changes : List Change) :
    (∀ env_id tenant_id,
      Closable (run Linked.step (Linked.opened environments systems custom_fields) changes)
          env_id tenant_id ↔
        Supplied (run Linked.step (Linked.opened environments systems custom_fields) changes)
          env_id tenant_id) ∧
      (Along Linked.step (fun s change => ¬ Withdraws s change)
          (Linked.opened environments systems custom_fields) changes →
        Always Linked.step (fun s => ∀ env_id tenant_id, Closable s env_id tenant_id)
          (Linked.opened environments systems custom_fields) changes) := by
  have hopened := linked_opened_sound environments systems custom_fields
  constructor
  · intro env_id tenant_id
    have hs := Runs.run_inv linked_step_sound hopened changes
    exact ⟨supplied_of_closable hs, closable_of_supplied hs⟩
  · intro halong
    refine (Runs.always_iff _ _ _).2 fun before after hchanges => ?_
    rw [hchanges, Runs.along_append] at halong
    have hstep : ∀ s change, (s.Sound ∧ TargetsLive s) → ¬ Withdraws s change →
        (s.step change).Sound ∧ TargetsLive (s.step change) := fun s change hs hkept =>
      ⟨linked_step_sound s change hs.1, step_targets change hs.2 hkept⟩
    obtain ⟨hs, htargets⟩ := Runs.run_inv_along hstep
      ⟨hopened, fun d hd => absurd hd (Table.not_mem_empty d)⟩ halong.1
    exact fun env_id tenant_id => closable_of_supplied hs htargets.supplied

/-! ## A system that is deleted while another depends on it -/

namespace Withdrawn

def system (name : String) : Table.New System.id := ⟨fun id => ⟨id, 1, name, none⟩, fun _ => rfl⟩

/-- The shop, the payments it depends on, and an environment. -/
def opened : Linked :=
  Linked.opened (Table.empty.insert Later.environment)
    ((Table.empty.insert (system "shop")).insert (system "payments")) []

def changes : List Change :=
  [.create_system_dependency 1 ⟨2, .API_CALL, .ONE_WAY, .MANUAL, none⟩ 1,
    .contents (.delete_system 2 1 0),
    .contents (.add_system_to_environment 1 1 1)]

end Withdrawn

/-- The payments are reported as missing, and are not found when they are added. -/
theorem deleted_system_is_reported :
    list_systems_in_environment (run Linked.step Withdrawn.opened Withdrawn.changes) 1 1 =
        .ok ⟨[⟨1, 1, 1, ⟨1, 1, "shop", none⟩⟩], [⟨2, "payments"⟩]⟩ ∧
      ¬ Closable (run Linked.step Withdrawn.opened Withdrawn.changes) 1 1 := by
  have hreport : list_systems_in_environment
      (run Linked.step Withdrawn.opened Withdrawn.changes) 1 1 =
        .ok ⟨[⟨1, 1, 1, ⟨1, 1, "shop", none⟩⟩], [⟨2, "payments"⟩]⟩ := by decide
  refine ⟨hreport, fun h => ?_⟩
  obtain ⟨s', hs'⟩ := h.listed _ hreport ⟨2, "payments"⟩ List.mem_cons_self
  have hrefused : (run Linked.step Withdrawn.opened Withdrawn.changes).add 1 2 1 =
      .error (.raised (http 404 "System not found")) := rfl
  rw [hrefused] at hs'
  cases hs'

end EnvMgr.Contents

/-
When a release gets its phases and gates as its template asks.

The test phases are placed one before the other, from the last of the list, and the hyper-care
phases one after the other; so each list comes to lie end to end. Read in the order of their
field the test phases lie end to end only if that is the order of the list, apart from phases
that take no time, and only if none takes less than no time. A gate is due when the last phase
placed under its name ends, which is the end of every phase with that name only if no time passes
between their ends.
-/
import EnvMgr.ReleaseTemplates.Service

namespace EnvMgr.ReleaseTemplates

open EnvMgr.Interval (Tiles Spread place)
open Gates (ReleaseGate)
open OrderBy (Answers)

variable {p : TestPhase} {c : PhaseConfig} {name : String}

/-! ## The property -/

/-- The days of a phase. -/
def TestPhase.window (p : TestPhase) : Option (Interval DateTime) := do
  let start ← p.start_date
  let stop ← p.end_date
  some ⟨start, stop⟩

/-- What a phase has from its template, and its release. -/
def TestPhase.config (p : TestPhase) : ℕ × String × ℤ × PhaseKind :=
  (p.release_id, p.name, p.order, p.kind)

def PhaseConfig.config (release_id : ℕ) (c : PhaseConfig) : ℕ × String × ℤ × PhaseKind :=
  (release_id, c.name, c.order, c.kind)

def test_phases (phases : List TestPhase) : List TestPhase :=
  phases.filter fun p => p.kind ≠ .hypercare

def hypercare_phases (phases : List TestPhase) : List TestPhase :=
  phases.filter fun p => p.kind = .hypercare

/-- Each phase starts where the one before it ends, and no later than it ends. -/
def Contiguous (start : DateTime) (phases : List TestPhase) (stop : DateTime) : Prop :=
  ∃ windows, phases.map TestPhase.window = windows.map some ∧ Tiles start windows stop

/-- The gate is due when the phase that its configuration names ends. The empty text names
none. -/
def Due (phases : List TestPhase) (cfg : ReleaseTemplateGate) (gate : ReleaseGate) : Prop :=
  gate.name = cfg.name ∧ ∀ name ∈ cfg.phase_name, name ≠ "" →
    (∃ p ∈ phases, p.name = name) ∧
      ∀ p ∈ phases, p.name = name → p.end_date = some gate.due_date

/-- The phases and the gates of a new release are as its template asks. -/
structure LaidOut (tpl : ReleaseTemplate) (release_id : ℕ) (target_date : DateTime)
    (phases : List TestPhase) (gates : List ReleaseGate) : Prop where
  configs : (phases.map TestPhase.config).Perm
    (tpl.phases_config.map (PhaseConfig.config release_id))
  tests : ∃ ordered, Answers TestPhase.order (test_phases phases) ordered ∧
    ∃ start, Contiguous start ordered target_date
  hypercare : ∃ stop, Contiguous target_date (hypercare_phases phases) stop
  due : List.Forall₂ (Due phases) (tpl.gates.getD []) gates

/-- The call returns, and the phases and gates that it adds are laid out. -/
def InstantiatesTo (db : Db) (template_id : ℕ) (data : ReleaseTemplateInstantiate)
    (tenant_id user_id : ℕ) (tpl : ReleaseTemplate) : Prop :=
  ∃ db' phases gates, instantiate db template_id data tenant_id user_id = .ok db' ∧
    db'.phases.rows = db.phases.rows ++ phases ∧
    db'.gates.gates.rows = db.gates.gates.rows ++ gates ∧
    LaidOut tpl db.statuses.releases.next data.target_date phases gates

/-! ## The condition -/

/-- Phases that are out of order take no time, nor do those between them. -/
def Ordered (x : PhaseConfig) (between : List PhaseConfig) (y : PhaseConfig) : Prop :=
  x.order ≤ y.order ∨ ∀ c ∈ x :: (between ++ [y]), c.duration = 0

/-- Of two phases with this name the second takes no time, nor do those between them. -/
def Namesakes (name : String) (x : PhaseConfig) (between : List PhaseConfig) (y : PhaseConfig) :
    Prop :=
  x.name = name → y.name = name → ∀ c ∈ between ++ [y], c.duration = 0

/-- The template can be laid out around the target date. -/
structure Fits (tpl : ReleaseTemplate) (data : ReleaseTemplateInstantiate) : Prop where
  durations : ∀ c ∈ tpl.phases_config, 0 ≤ c.duration
  ordered : Spread Ordered tpl.test_cfgs
  named : ∀ gate ∈ tpl.gates.getD [], ∀ name ∈ gate.phase_name, name ≠ "" →
    (∃ c ∈ tpl.phases_config, c.name = name) ∧
      Spread (Namesakes name) (tpl.test_cfgs ++ tpl.hypercare_cfgs)
  starts : datetime.min ≤
    data.target_date - (tpl.test_cfgs.map PhaseConfig.duration).sum + data.utcoffset
  stops : data.target_date + (tpl.hypercare_cfgs.map PhaseConfig.duration).sum + data.utcoffset ≤
    datetime.max

/-! ## What the phases are -/

section Phases

variable {phases : List TestPhase} {pairs : List (PhaseConfig × Interval DateTime)}
variable {release_id : ℕ}

theorem window_eq_some {window : Interval DateTime} :
    p.window = some window ↔ p.start_date = some window.start ∧ p.end_date = some window.stop := by
  cases window
  cases hstart : p.start_date <;> cases hend : p.end_date <;>
    simp [TestPhase.window, hstart, hend, Interval.mk.injEq]

/-- What the layout is about. -/
def TestPhase.seen (p : TestPhase) : (ℕ × String × ℤ × PhaseKind) × Option (Interval DateTime) :=
  (p.config, p.window)

def seen_pair (release_id : ℕ) (p : PhaseConfig × Interval DateTime) :
    (ℕ × String × ℤ × PhaseKind) × Option (Interval DateTime) :=
  (p.1.config release_id, some p.2)

/-- The phases are of these configurations and windows, in this order. -/
def Are (release_id : ℕ) (phases : List TestPhase)
    (pairs : List (PhaseConfig × Interval DateTime)) : Prop :=
  phases.map TestPhase.seen = pairs.map (seen_pair release_id)

theorem Are.map (h : Are release_id phases pairs) {β : Type}
    (g : (ℕ × String × ℤ × PhaseKind) × Option (Interval DateTime) → β) :
    phases.map (fun p => g p.seen) = pairs.map fun p => g (seen_pair release_id p) := by
  have hmap := congrArg (List.map g) h
  rwa [List.map_map, List.map_map] at hmap

theorem Are.pairwise (h : Are release_id phases pairs)
    (R : (ℕ × String × ℤ × PhaseKind) × Option (Interval DateTime) →
      (ℕ × String × ℤ × PhaseKind) × Option (Interval DateTime) → Prop) :
    (phases.Pairwise fun p q => R p.seen q.seen) ↔
      pairs.Pairwise fun p q => R (seen_pair release_id p) (seen_pair release_id q) := by
  rw [← List.pairwise_map, h, List.pairwise_map]

theorem Are.reverse (h : Are release_id phases pairs) :
    Are release_id phases.reverse pairs.reverse := by
  rw [Are, List.map_reverse, List.map_reverse, h]

theorem Are.filter (h : Are release_id phases pairs) (q : PhaseKind → Bool) :
    Are release_id (phases.filter fun p => q p.kind) (pairs.filter fun p => q p.1.kind) := by
  have hfilter := congrArg (List.filter fun v => q v.1.2.2.2) h
  rw [List.filter_map, List.filter_map] at hfilter
  exact hfilter

theorem Are.mem (h : Are release_id phases pairs) (hp : p ∈ phases) :
    ∃ q ∈ pairs, seen_pair release_id q = p.seen := by
  have hview := List.mem_map_of_mem (f := TestPhase.seen) hp
  rw [h] at hview
  exact List.mem_map.1 hview

theorem Are.mem_pairs (h : Are release_id phases pairs) {q : PhaseConfig × Interval DateTime}
    (hq : q ∈ pairs) : ∃ p ∈ phases, p.seen = seen_pair release_id q := by
  have hview := List.mem_map_of_mem (f := seen_pair release_id) hq
  rw [← h] at hview
  exact List.mem_map.1 hview

theorem name_of_seen {q : PhaseConfig × Interval DateTime}
    (h : p.seen = seen_pair release_id q) : p.name = q.1.name := congrArg (fun v => v.1.2.1) h

theorem window_of_seen {q : PhaseConfig × Interval DateTime}
    (h : p.seen = seen_pair release_id q) : p.window = some q.2 := congrArg Prod.snd h

end Phases

/-! ## The loops over the phases -/

/-- The datetime can be written down. -/
def InRange (utcoffset : TimeDelta) (dt : DateTime) : Prop :=
  datetime.min ≤ dt + utcoffset ∧ dt + utcoffset ≤ datetime.max

/-- Whatever follows a date that is computed sees that date, if it can be written down. -/
theorem arithmetic_bind_ok {α : Type} {utcoffset : TimeDelta} {dt : DateTime}
    {f : DateTime → Except Raised α} {a : α} :
    (arithmetic utcoffset dt >>= f) = .ok a ↔ InRange utcoffset dt ∧ f dt = .ok a := by
  have hok : ∀ dt', arithmetic utcoffset dt = .ok dt' ↔ InRange utcoffset dt ∧ dt = dt' := by
    intro dt'
    rw [arithmetic, bind_eq_ok]
    simp only [raise_if_eq_ok, not_not, Except.ok.injEq]
    exact ⟨fun ⟨_, hrange, heq⟩ => ⟨hrange, heq⟩, fun ⟨hrange, heq⟩ => ⟨(), hrange, heq⟩⟩
  rw [bind_eq_ok]
  constructor
  · rintro ⟨dt', harithmetic, hf⟩
    obtain ⟨hrange, rfl⟩ := (hok dt').1 harithmetic
    exact ⟨hrange, hf⟩
  · rintro ⟨hrange, hf⟩
    exact ⟨dt, (hok dt).2 ⟨hrange, rfl⟩, hf⟩

section Loops

variable {release_id tenant_id : ℕ} {utcoffset : TimeDelta} {s s' : Placing}
variable {phases : Table TestPhase TestPhase.id} {cfgs : List PhaseConfig}
variable {pairs : List (PhaseConfig × Interval DateTime)}

/-- The phases with these windows have been created, and are found by their names. -/
structure Placed (phases : Table TestPhase TestPhase.id) (release_id : ℕ) (s : Placing)
    (pairs : List (PhaseConfig × Interval DateTime)) : Prop where
  rows : ∃ added, s.phases.rows = phases.rows ++ added ∧ Are release_id added pairs
  found : ∀ name phase, s.phase_objects.get name = some phase →
    ∃ p ∈ pairs, p.1.name = name ∧ phase.end_date = some p.2.stop
  finds : ∀ p ∈ pairs, ∃ phase, s.phase_objects.get p.1.name = some phase

theorem placed_nil (phases : Table TestPhase TestPhase.id) (release_id : ℕ) (cursor : DateTime) :
    Placed phases release_id ⟨phases, Index.empty, cursor⟩ [] where
  rows := ⟨[], (List.append_nil _).symm, rfl⟩
  found name phase h := by
    rw [Index.get_empty] at h
    cases h
  finds p hp := absurd hp List.not_mem_nil

theorem Placed.add_phase (h : Placed phases release_id s pairs) (c : PhaseConfig)
    (window : Interval DateTime) (cursor : DateTime) :
    Placed phases release_id (add_phase release_id tenant_id c window cursor s)
      (pairs ++ [(c, window)]) where
  rows := by
    obtain ⟨added, hrows, hadded⟩ := h.rows
    refine ⟨added ++ [c.row window release_id tenant_id s.phases.next], ?_, ?_⟩
    · show s.phases.rows ++ [_] = _
      rw [hrows, List.append_assoc]
    · rw [Are, List.map_append, List.map_append, hadded]
      rfl
  found name phase hget := by
    have hset : (s.phase_objects.set c.name (c.row window release_id tenant_id s.phases.next)).get
        name = some phase := hget
    rw [Index.get_set] at hset
    by_cases hname : name = c.name
    · rw [if_pos hname] at hset
      obtain rfl := Option.some.inj hset
      exact ⟨(c, window), List.mem_append_right _ (List.mem_singleton_self _), hname.symm, rfl⟩
    · rw [if_neg hname] at hset
      obtain ⟨p, hp, hfound⟩ := h.found name phase hset
      exact ⟨p, List.mem_append_left _ hp, hfound⟩
  finds p hp := by
    show ∃ phase, (s.phase_objects.set c.name _).get p.1.name = some phase
    rw [Index.get_set]
    by_cases hname : p.1.name = c.name
    · rw [if_pos hname]
      exact ⟨_, rfl⟩
    · rw [if_neg hname]
      rcases List.mem_append.1 hp with hp | hp
      · exact h.finds p hp
      · rw [List.mem_singleton.1 hp] at hname
        exact absurd rfl hname

theorem add_test_phase_ok :
    add_test_phase release_id tenant_id utcoffset s c = .ok s' ↔
      InRange utcoffset (s.cursor - c.duration) ∧
        s' = add_phase release_id tenant_id c ⟨s.cursor - c.duration, s.cursor⟩
          (s.cursor - c.duration) s := by
  rw [add_test_phase, arithmetic_bind_ok, Except.ok.injEq, eq_comm (b := s')]

theorem add_hypercare_phase_ok :
    add_hypercare_phase release_id tenant_id utcoffset s c = .ok s' ↔
      InRange utcoffset (s.cursor + c.duration) ∧
        s' = add_phase release_id tenant_id c ⟨s.cursor, s.cursor + c.duration⟩
          (s.cursor + c.duration) s := by
  rw [add_hypercare_phase, arithmetic_bind_ok, Except.ok.injEq, eq_comm (b := s')]

theorem loop_concat_ok {f : Placing → PhaseConfig → Except Raised Placing} :
    (cfgs ++ [c]).foldlM f s = .ok s' ↔ ∃ s₁, cfgs.foldlM f s = .ok s₁ ∧ f s₁ c = .ok s' := by
  rw [List.foldlM_append, bind_eq_ok]
  refine exists_congr fun s₁ => and_congr_right fun _ => ?_
  rw [List.foldlM_cons, bind_eq_ok]
  exact ⟨fun ⟨_, hc, hok⟩ => (Except.ok.inj hok) ▸ hc, fun hc => ⟨s', hc, rfl⟩⟩

/-- The windows of test phases that end at `stop`, in the order of the list. -/
def test_windows (stop : DateTime) (cfgs : List PhaseConfig) :
    List (PhaseConfig × Interval DateTime) :=
  place PhaseConfig.duration (stop - (cfgs.map PhaseConfig.duration).sum) cfgs

theorem test_windows_cons (stop : DateTime) (c : PhaseConfig) (cfgs : List PhaseConfig) :
    test_windows stop (c :: cfgs) =
      (c, ⟨stop - (cfgs.map PhaseConfig.duration).sum - c.duration,
        stop - (cfgs.map PhaseConfig.duration).sum⟩) :: test_windows stop cfgs := by
  have hstart : stop - ((c :: cfgs).map PhaseConfig.duration).sum =
      stop - (cfgs.map PhaseConfig.duration).sum - c.duration := by
    rw [List.map_cons, List.sum_cons, sub_sub, add_comm]
  rw [test_windows, hstart, place, sub_add_cancel, test_windows]

/-- **The loop over the test phases.** The last of the list is the first to be placed. -/
theorem test_loop (h : Placed phases release_id s pairs) :
    ((∃ s', cfgs.reverse.foldlM (add_test_phase release_id tenant_id utcoffset) s = .ok s') ↔
      ∀ p ∈ test_windows s.cursor cfgs, InRange utcoffset p.2.start) ∧
    ∀ s', cfgs.reverse.foldlM (add_test_phase release_id tenant_id utcoffset) s = .ok s' →
      Placed phases release_id s' (pairs ++ (test_windows s.cursor cfgs).reverse) ∧
        s'.cursor = s.cursor - (cfgs.map PhaseConfig.duration).sum := by
  induction cfgs with
  | nil =>
    refine ⟨⟨fun _ p hp => absurd hp List.not_mem_nil, fun _ => ⟨s, rfl⟩⟩, ?_⟩
    rintro s' hok
    obtain rfl := Except.ok.inj hok
    refine ⟨?_, (sub_zero _).symm⟩
    show Placed phases release_id s (pairs ++ [])
    rwa [List.append_nil]
  | cons c cfgs ih =>
    obtain ⟨hexists, hplaced⟩ := ih
    rw [test_windows_cons, List.forall_mem_cons, List.reverse_cons, List.map_cons, List.sum_cons]
    simp only [List.reverse_cons, loop_concat_ok, add_test_phase_ok]
    refine ⟨⟨?_, ?_⟩, ?_⟩
    · rintro ⟨s', s₁, hs₁, hrange, -⟩
      rw [(hplaced s₁ hs₁).2] at hrange
      exact ⟨hrange, hexists.1 ⟨s₁, hs₁⟩⟩
    · rintro ⟨hrange, hranges⟩
      obtain ⟨s₁, hs₁⟩ := hexists.2 hranges
      refine ⟨_, s₁, hs₁, ?_, rfl⟩
      rwa [(hplaced s₁ hs₁).2]
    · rintro s' ⟨s₁, hs₁, -, rfl⟩
      obtain ⟨hplaced₁, hcursor⟩ := hplaced s₁ hs₁
      refine ⟨?_, ?_⟩
      · rw [← List.append_assoc, hcursor]
        exact hplaced₁.add_phase c _ _
      · show s₁.cursor - c.duration = _
        rw [hcursor, sub_sub, add_comm c.duration]

/-- **The loop over the hyper-care phases**, which goes forward. -/
theorem hypercare_loop (h : Placed phases release_id s pairs) :
    ((∃ s', cfgs.foldlM (add_hypercare_phase release_id tenant_id utcoffset) s = .ok s') ↔
      ∀ p ∈ place PhaseConfig.duration s.cursor cfgs, InRange utcoffset p.2.stop) ∧
    ∀ s', cfgs.foldlM (add_hypercare_phase release_id tenant_id utcoffset) s = .ok s' →
      Placed phases release_id s' (pairs ++ place PhaseConfig.duration s.cursor cfgs) := by
  induction cfgs generalizing s pairs with
  | nil =>
    refine ⟨⟨fun _ p hp => absurd hp List.not_mem_nil, fun _ => ⟨s, rfl⟩⟩, ?_⟩
    rintro s' hok
    obtain rfl := Except.ok.inj hok
    show Placed phases release_id s (pairs ++ [])
    rwa [List.append_nil]
  | cons c cfgs ih =>
    have hturn : Placed phases release_id (add_phase release_id tenant_id c
        ⟨s.cursor, s.cursor + c.duration⟩ (s.cursor + c.duration) s) _ := h.add_phase c _ _
    obtain ⟨hexists, hplaced⟩ := ih hturn
    rw [place, List.forall_mem_cons]
    simp only [List.foldlM_cons, bind_eq_ok, add_hypercare_phase_ok]
    refine ⟨⟨?_, ?_⟩, ?_⟩
    · rintro ⟨s', s₁, ⟨hrange, rfl⟩, hok⟩
      exact ⟨hrange, hexists.1 ⟨s', hok⟩⟩
    · rintro ⟨hrange, hranges⟩
      obtain ⟨s', hok⟩ := hexists.2 hranges
      exact ⟨s', _, ⟨hrange, rfl⟩, hok⟩
    · rintro s' ⟨s₁, ⟨-, rfl⟩, hok⟩
      have hall := hplaced s' hok
      rwa [List.append_assoc] at hall

end Loops

/-! ## The loop over the gates -/

section GateLoop

variable {phase_objects : Index String TestPhase} {target_date : DateTime}
variable {release_id tenant_id : ℕ} {cfgs : List ReleaseTemplateGate}

/-- The criterion is put on a gate that is there, and assigned to nobody. -/
theorem seed_criterion_ok {db : Gates.Db} {gate : ReleaseGate} {gate_id : ℕ} (seed_text : String)
    (hgate : Gates._get_gate db gate_id tenant_id = .ok gate) :
    ∃ db', Gates.create_criterion db gate_id tenant_id (seed_criterion seed_text) = .ok db' ∧
      db'.gates = db.gates := by
  simp only [Gates.create_criterion, hgate]
  exact ⟨_, rfl, rfl⟩

/-- A gate is added in every case. -/
theorem add_gate_ok (db : Gates.Db) (cfg : ReleaseTemplateGate) :
    ∃ db' gate, add_gate phase_objects target_date release_id tenant_id db cfg = .ok db' ∧
      db'.gates.rows = db.gates.rows ++ [gate] ∧ gate.name = cfg.name ∧ gate.due_date =
        gate_due_date (matched_phase phase_objects cfg.phase_name) target_date := by
  let matched := matched_phase phase_objects cfg.phase_name
  let gate := cfg.row matched target_date release_id tenant_id db.gates.next
  have hget : Gates._get_gate (insert_gate db
      ⟨cfg.row matched target_date release_id tenant_id, fun _ => rfl⟩) db.gates.next tenant_id =
      .ok gate :=
    Gates._get_gate_ok.2 ⟨Table.mem_insert.2 (Or.inr rfl), rfl, rfl, rfl⟩
  rw [add_gate]
  by_cases hseed : strip (cfg.acceptance_criteria.getD "") = ""
  · exact ⟨_, gate, if_pos hseed, rfl, rfl, rfl⟩
  · obtain ⟨db', hok, hgates⟩ := seed_criterion_ok (strip (cfg.acceptance_criteria.getD "")) hget
    refine ⟨db', gate, (if_neg hseed).trans hok, ?_, rfl, rfl⟩
    rw [hgates]
    rfl

/-- **The loop over the gates** adds one for each configuration. -/
theorem gate_loop (db : Gates.Db) :
    ∃ db' gates, cfgs.foldlM (add_gate phase_objects target_date release_id tenant_id) db =
        .ok db' ∧
      db'.gates.rows = db.gates.rows ++ gates ∧
      List.Forall₂ (fun cfg gate => gate.name = cfg.name ∧ gate.due_date =
        gate_due_date (matched_phase phase_objects cfg.phase_name) target_date) cfgs gates := by
  induction cfgs generalizing db with
  | nil => exact ⟨db, [], rfl, (List.append_nil _).symm, List.Forall₂.nil⟩
  | cons cfg cfgs ih =>
    obtain ⟨db₁, gate, hadd, hrow, hgate⟩ :=
      @add_gate_ok phase_objects target_date release_id tenant_id db cfg
    obtain ⟨db', gates, hloop, hrows, hgates⟩ := ih db₁
    refine ⟨db', gate :: gates, ?_, ?_, List.Forall₂.cons hgate hgates⟩
    · rw [List.foldlM_cons, bind_eq_ok]
      exact ⟨db₁, hadd, hloop⟩
    · rw [hrows, hrow, List.append_assoc, List.singleton_append]

/-- What is asked of every gate is asked of every configuration. -/
theorem forall₂_due_iff {phases : List TestPhase} {gates : List ReleaseGate}
    {due : ReleaseTemplateGate → DateTime}
    (h : List.Forall₂ (fun cfg gate => gate.name = cfg.name ∧ gate.due_date = due cfg) cfgs
      gates) :
    List.Forall₂ (Due phases) cfgs gates ↔
      ∀ cfg ∈ cfgs, ∀ name ∈ cfg.phase_name, name ≠ "" → (∃ p ∈ phases, p.name = name) ∧
        ∀ p ∈ phases, p.name = name → p.end_date = some (due cfg) := by
  induction h with
  | nil => exact ⟨fun _ cfg hcfg => absurd hcfg List.not_mem_nil, fun _ => List.Forall₂.nil⟩
  | cons hgate _ ih =>
    rw [List.forall₂_cons, ih, List.forall_mem_cons, Due, hgate.1, hgate.2]
    exact and_congr_left' (and_iff_right rfl)

end GateLoop

/-! ## Where the phases come to lie -/

section Layout

variable {tpl : ReleaseTemplate} {data : ReleaseTemplateInstantiate} {release_id tenant_id : ℕ}
variable {cfgs : List PhaseConfig} {utcoffset : TimeDelta} {start stop : DateTime}

/-- The phases of a template with their windows, in the order in which they are created. -/
def ReleaseTemplate.windows (tpl : ReleaseTemplate) (target_date : DateTime) :
    List (PhaseConfig × Interval DateTime) :=
  (test_windows target_date tpl.test_cfgs).reverse ++
    place PhaseConfig.duration target_date tpl.hypercare_cfgs

/-- The test phases and the hyper-care phases are one row of phases. -/
theorem windows_perm : (tpl.windows stop).Perm
    (place PhaseConfig.duration (stop - (tpl.test_cfgs.map PhaseConfig.duration).sum)
      (tpl.test_cfgs ++ tpl.hypercare_cfgs)) := by
  rw [Interval.place_append, sub_add_cancel]
  exact (List.reverse_perm _).append_right _

theorem add_phases_ok {phases : Table TestPhase TestPhase.id} :
    ((∃ s, add_phases phases tpl data release_id tenant_id = .ok s) ↔
      (∀ p ∈ test_windows data.target_date tpl.test_cfgs, InRange data.utcoffset p.2.start) ∧
        ∀ p ∈ place PhaseConfig.duration data.target_date tpl.hypercare_cfgs,
          InRange data.utcoffset p.2.stop) ∧
    ∀ s, add_phases phases tpl data release_id tenant_id = .ok s →
      Placed phases release_id s (tpl.windows data.target_date) := by
  have hstart := placed_nil phases release_id data.target_date
  have htests := @test_loop release_id tenant_id data.utcoffset _ phases tpl.test_cfgs [] hstart
  have hrewind : ∀ s, tpl.test_cfgs.reverse.foldlM
      (add_test_phase release_id tenant_id data.utcoffset)
      ⟨phases, Index.empty, data.target_date⟩ = .ok s →
      Placed phases release_id { s with cursor := data.target_date }
        (test_windows data.target_date tpl.test_cfgs).reverse := by
    intro s hs
    have hplaced := (htests.2 s hs).1
    exact ⟨hplaced.rows, hplaced.found, hplaced.finds⟩
  simp only [add_phases, bind_eq_ok]
  refine ⟨⟨?_, ?_⟩, ?_⟩
  · rintro ⟨s', s, hs, hok⟩
    exact ⟨htests.1.1 ⟨s, hs⟩, (hypercare_loop (hrewind s hs)).1.1 ⟨s', hok⟩⟩
  · rintro ⟨hranges, hranges'⟩
    obtain ⟨s, hs⟩ := htests.1.2 hranges
    obtain ⟨s', hok⟩ := (hypercare_loop (hrewind s hs)).1.2 hranges'
    exact ⟨s', s, hs, hok⟩
  · rintro s' ⟨s, hs, hok⟩
    exact (hypercare_loop (hrewind s hs)).2 s' hok

theorem tiles_test_windows (h : ∀ c ∈ cfgs, 0 ≤ c.duration) :
    Tiles (stop - (cfgs.map PhaseConfig.duration).sum) ((test_windows stop cfgs).map Prod.snd)
      stop :=
  Interval.tiles_place_iff.2 ⟨h, (sub_add_cancel _ _).symm⟩

/-- The first of the test phases starts first. -/
theorem test_range (h : ∀ c ∈ cfgs, 0 ≤ c.duration) (hstop : InRange utcoffset stop) :
    (∀ p ∈ test_windows stop cfgs, InRange utcoffset p.2.start) ↔
      datetime.min ≤ stop - (cfgs.map PhaseConfig.duration).sum + utcoffset := by
  constructor
  · intro hranges
    rcases cfgs with - | ⟨c, cfgs⟩
    · rw [List.map_nil, List.sum_nil, sub_zero]
      exact hstop.1
    · exact (hranges _ List.mem_cons_self).1
  · intro hmin p hp
    obtain ⟨hfirst, hproper, hlast⟩ :=
      (tiles_test_windows h).between.2 p.2 (List.mem_map_of_mem hp)
    exact ⟨hmin.trans (add_le_add_left hfirst _),
      (add_le_add_left (hproper.trans hlast) _).trans hstop.2⟩

/-- The last of the hyper-care phases stops last. -/
theorem hypercare_range (h : ∀ c ∈ cfgs, 0 ≤ c.duration) (hstart : InRange utcoffset start) :
    (∀ p ∈ place PhaseConfig.duration start cfgs, InRange utcoffset p.2.stop) ↔
      start + (cfgs.map PhaseConfig.duration).sum + utcoffset ≤ datetime.max := by
  constructor
  · intro hranges
    rcases cfgs.eq_nil_or_concat' with rfl | ⟨cfgs, c, rfl⟩
    · rw [List.map_nil, List.sum_nil, add_zero]
      exact hstart.2
    · have hlast := (hranges _ (Interval.mem_place.2 ⟨cfgs, c, [], rfl, rfl⟩)).2
      rw [List.map_append, List.sum_append, List.map_singleton, List.sum_singleton, ← add_assoc]
      exact hlast
  · intro hmax p hp
    have htiles : Tiles start ((place PhaseConfig.duration start cfgs).map Prod.snd) _ :=
      Interval.tiles_place_iff.2 ⟨h, rfl⟩
    obtain ⟨hfirst, hproper, hlast⟩ := htiles.between.2 p.2 (List.mem_map_of_mem hp)
    exact ⟨hstart.1.trans (add_le_add_left (hfirst.trans hproper) _),
      (add_le_add_left hlast _).trans hmax⟩

end Layout

/-! ## The layout -/

section LaidOut

variable {tpl : ReleaseTemplate} {release_id : ℕ} {phases : List TestPhase} {target : DateTime}

theorem mem_test_cfgs :
    c ∈ tpl.test_cfgs ↔ c ∈ tpl.phases_config ∧ c.kind ≠ .hypercare := by
  rw [ReleaseTemplate.test_cfgs, List.mem_filter, decide_eq_true_eq]

theorem mem_hypercare_cfgs :
    c ∈ tpl.hypercare_cfgs ↔ c ∈ tpl.phases_config ∧ c.kind = .hypercare := by
  rw [ReleaseTemplate.hypercare_cfgs, List.mem_filter, decide_eq_true_eq]

/-- A phase of the template is a test phase or a hyper-care phase. -/
theorem phases_config_perm : (tpl.test_cfgs ++ tpl.hypercare_cfgs).Perm tpl.phases_config := by
  have hpartition := List.filter_append_perm (fun c : PhaseConfig => decide (c.kind ≠ .hypercare))
    tpl.phases_config
  have hrest : (tpl.phases_config.filter fun c => !decide (c.kind ≠ .hypercare)) =
      tpl.hypercare_cfgs := by
    refine List.filter_congr fun c _ => ?_
    cases c.kind <;> rfl
  rwa [hrest] at hpartition

theorem fst_of_mem_place {cfgs : List PhaseConfig} {a : DateTime}
    {p : PhaseConfig × Interval DateTime} (hp : p ∈ place PhaseConfig.duration a cfgs) :
    p.1 ∈ cfgs := by
  have hfst := List.mem_map_of_mem (f := Prod.fst) hp
  rwa [Interval.place_map_fst] at hfst

theorem kind_of_test_window {p : PhaseConfig × Interval DateTime}
    (hp : p ∈ (test_windows target tpl.test_cfgs).reverse) : p.1.kind ≠ .hypercare :=
  (mem_test_cfgs.1 (fst_of_mem_place (List.mem_reverse.1 hp))).2

theorem kind_of_hypercare_window {p : PhaseConfig × Interval DateTime}
    (hp : p ∈ place PhaseConfig.duration target tpl.hypercare_cfgs) : p.1.kind = .hypercare :=
  (mem_hypercare_cfgs.1 (fst_of_mem_place hp)).2

theorem windows_filter_test : ((tpl.windows target).filter fun p => p.1.kind ≠ .hypercare) =
    (test_windows target tpl.test_cfgs).reverse := by
  have hcares : ∀ p ∈ place PhaseConfig.duration target tpl.hypercare_cfgs,
      ¬ decide (p.1.kind ≠ .hypercare) = true :=
    fun p hp hkind => of_decide_eq_true hkind (kind_of_hypercare_window hp)
  rw [ReleaseTemplate.windows, List.filter_append,
    List.filter_eq_self.2 fun p hp => decide_eq_true (kind_of_test_window hp),
    List.filter_eq_nil_iff.2 hcares, List.append_nil]

theorem windows_filter_hypercare : ((tpl.windows target).filter fun p => p.1.kind = .hypercare) =
    place PhaseConfig.duration target tpl.hypercare_cfgs := by
  have htests : ∀ p ∈ (test_windows target tpl.test_cfgs).reverse,
      ¬ decide (p.1.kind = .hypercare) = true :=
    fun p hp hkind => kind_of_test_window hp (of_decide_eq_true hkind)
  rw [ReleaseTemplate.windows, List.filter_append, List.filter_eq_nil_iff.2 htests,
    List.filter_eq_self.2 fun p hp => decide_eq_true (kind_of_hypercare_window hp),
    List.nil_append]

/-- The days of a phase that has them. -/
def TestPhase.days (p : TestPhase) : Interval DateTime := p.window.getD ⟨0, 0⟩

theorem Are.window {pairs : List (PhaseConfig × Interval DateTime)}
    (h : Are release_id phases pairs) (hp : p ∈ phases) :
    p.window = some p.days := by
  obtain ⟨q, -, hq⟩ := h.mem hp
  rw [TestPhase.days, window_of_seen hq.symm, Option.getD_some]

theorem contiguous_iff {ordered : List TestPhase} {start stop : DateTime}
    (h : ∀ p ∈ ordered, p.window = some p.days) :
    Contiguous start ordered stop ↔ Tiles start (ordered.map TestPhase.days) stop := by
  have hmap : ordered.map TestPhase.window = (ordered.map TestPhase.days).map some := by
    rw [List.map_map]
    exact List.map_congr_left h
  rw [Contiguous, hmap]
  constructor
  · rintro ⟨windows, hwindows, htiles⟩
    rwa [List.map_injective_iff.2 (Option.some_injective _) hwindows]
  · intro htiles
    exact ⟨_, rfl, htiles⟩

theorem Are.configs (h : Are release_id phases (tpl.windows target)) :
    (phases.map TestPhase.config).Perm (tpl.phases_config.map (PhaseConfig.config release_id)) := by
  have hmap : phases.map TestPhase.config =
      ((tpl.windows target).map Prod.fst).map (PhaseConfig.config release_id) := by
    rw [List.map_map]
    exact h.map Prod.fst
  rw [hmap]
  refine List.Perm.map _ ((windows_perm.map Prod.fst).trans ?_)
  rw [Interval.place_map_fst]
  exact phases_config_perm

/-- The test phases, in the order of the template. -/
theorem Are.tests (h : Are release_id phases (tpl.windows target)) :
    Are release_id (test_phases phases).reverse (test_windows target tpl.test_cfgs) := by
  have hfilter := h.filter fun kind => kind ≠ .hypercare
  rw [windows_filter_test] at hfilter
  have hreverse := hfilter.reverse
  rwa [List.reverse_reverse] at hreverse

theorem Are.hypercare (h : Are release_id phases (tpl.windows target)) :
    Are release_id (hypercare_phases phases)
      (place PhaseConfig.duration target tpl.hypercare_cfgs) := by
  have hfilter := h.filter fun kind => kind = .hypercare
  rwa [windows_filter_hypercare] at hfilter

theorem Are.days {pairs : List (PhaseConfig × Interval DateTime)}
    (h : Are release_id phases pairs) : phases.map TestPhase.days = pairs.map Prod.snd :=
  h.map fun v => v.2.getD ⟨0, 0⟩

theorem hypercare_iff (h : Are release_id phases (tpl.windows target)) :
    (∃ stop, Contiguous target (hypercare_phases phases) stop) ↔
      ∀ c ∈ tpl.hypercare_cfgs, 0 ≤ c.duration := by
  have hcontiguous : ∀ stop, Contiguous target (hypercare_phases phases) stop ↔ _ := fun stop =>
    (contiguous_iff fun p hp => h.hypercare.window hp).trans
      (by rw [h.hypercare.days, Interval.tiles_place_iff])
  simp only [hcontiguous, exists_and_left, exists_eq, and_true]

/-- In whatever order they are contiguous, no test phase takes less than no time. -/
theorem durations_of_tests (h : Are release_id phases (tpl.windows target))
    {ordered : List TestPhase} (hordered : Answers TestPhase.order (test_phases phases) ordered)
    {start : DateTime} (hcontiguous : Contiguous start ordered target) :
    ∀ c ∈ tpl.test_cfgs, 0 ≤ c.duration := by
  have hmem : ∀ p, p ∈ ordered ↔ p ∈ (test_phases phases).reverse := fun p => by
    rw [hordered.mem_iff, List.mem_reverse]
  have htiles := (contiguous_iff fun p hp => h.tests.window ((hmem p).1 hp)).1 hcontiguous
  rintro c hc
  obtain ⟨before, after, hcfgs⟩ := List.append_of_mem hc
  have hpair : (c, _) ∈ test_windows target tpl.test_cfgs :=
    Interval.mem_place.2 ⟨before, c, after, hcfgs, rfl⟩
  obtain ⟨p, hp, hseen⟩ := h.tests.mem_pairs hpair
  have hdays : p.days = _ := Option.some.inj ((h.tests.window hp).symm.trans (window_of_seen hseen))
  have hle := (htiles.between.2 p.days (List.mem_map_of_mem ((hmem p).2 hp))).2.1
  rw [hdays] at hle
  exact (le_add_iff_nonneg_right _).1 hle

/-- Two windows with a span between them are one if there is nothing of either. -/
theorem same_window_iff (c x span y : ℤ) : (⟨c, c + x⟩ : Interval DateTime) =
    ⟨c + x + span, c + x + span + y⟩ ↔ x + span = 0 ∧ span + y = 0 := by
  rw [Interval.mk.injEq]
  change (c = c + x + span ∧ c + x = c + x + span + y) ↔ _
  omega

theorem spans_eq_zero_iff {x span y : ℤ} (hx : 0 ≤ x) (hspan : 0 ≤ span) :
    x + span = 0 ∧ span + y = 0 ↔ x = 0 ∧ span = 0 ∧ y = 0 := by
  omega

/-- Between the starts of two phases no time passes. -/
theorem no_time_iff {x y : PhaseConfig} {between : List PhaseConfig}
    (h : ∀ z ∈ x :: (between ++ [y]), 0 ≤ z.duration) :
    (x.duration + (between.map PhaseConfig.duration).sum = 0 ∧
        (between.map PhaseConfig.duration).sum + y.duration = 0) ↔
      ∀ z ∈ x :: (between ++ [y]), z.duration = 0 := by
  rw [List.forall_mem_cons, List.forall_mem_append, List.forall_mem_singleton] at h ⊢
  obtain ⟨hx, hbetween, -⟩ := h
  have hspan : 0 ≤ (between.map PhaseConfig.duration).sum :=
    List.sum_nonneg (by simpa using hbetween)
  rw [spans_eq_zero_iff hx hspan, Interval.sum_length_eq_zero_iff hbetween]

/-- **In the order of their field** the test phases are contiguous if that is the order of the
list, but for phases that take no time. -/
theorem tests_iff (h : Are release_id phases (tpl.windows target))
    (hcfgs : ∀ c ∈ tpl.test_cfgs, 0 ≤ c.duration) :
    (∃ ordered, Answers TestPhase.order (test_phases phases) ordered ∧
        ∃ start, Contiguous start ordered target) ↔ Spread Ordered tpl.test_cfgs := by
  have htiles := @tiles_test_windows tpl.test_cfgs target hcfgs
  rw [← h.tests.days] at htiles
  have hanswers : ∀ ordered, Answers TestPhase.order (test_phases phases) ordered ↔
      Answers TestPhase.order (test_phases phases).reverse ordered := fun ordered =>
    ⟨fun ha => ⟨ha.perm.trans (List.reverse_perm _).symm, ha.sorted⟩,
      fun ha => ⟨ha.perm.trans (List.reverse_perm _), ha.sorted⟩⟩
  have hordered : (∃ ordered, Answers TestPhase.order (test_phases phases) ordered ∧
        ∃ start, Contiguous start ordered target) ↔
      ∃ ordered, Answers TestPhase.order (test_phases phases).reverse ordered ∧
        ∃ start, Tiles start (ordered.map TestPhase.days) target := by
    refine exists_congr fun ordered => ?_
    rw [hanswers]
    refine and_congr_right fun ha => exists_congr fun start => contiguous_iff fun p hp => ?_
    exact h.tests.window (ha.mem_iff.1 hp)
  rw [hordered, Interval.tiles_by_rank_iff htiles]
  refine (h.tests.pairwise fun v w => v.1.2.2.1 ≤ w.1.2.2.1 ∨
    v.2.getD ⟨0, 0⟩ = w.2.getD ⟨0, 0⟩).trans ?_
  refine (Interval.pairwise_place_iff (Q := fun x between y => x.order ≤ y.order ∨
    x.duration + (between.map PhaseConfig.duration).sum = 0 ∧
      (between.map PhaseConfig.duration).sum + y.duration = 0) fun c x between y =>
    or_congr_right (same_window_iff c x.duration _ y.duration)).trans ?_
  refine Interval.spread_congr fun x between y hmem => or_congr_right (no_time_iff ?_)
  exact fun z hz => hcfgs z (hmem z hz)

/-! ## The gates -/

theorem matched_phase_some {phase_objects : Index String TestPhase}
    (h : name ≠ "") : matched_phase phase_objects (some name) = phase_objects.get name := by
  rw [matched_phase]
  exact h

/-- Any two of the phases with this name end together. -/
def EndTogether (name : String) (pairs : List (PhaseConfig × Interval DateTime)) : Prop :=
  ∀ p ∈ pairs, ∀ q ∈ pairs, p.1.name = name → q.1.name = name → p.2.stop = q.2.stop

theorem end_date_of_seen {q : PhaseConfig × Interval DateTime}
    (h : p.seen = seen_pair release_id q) : p.end_date = some q.2.stop :=
  (window_eq_some.1 (window_of_seen h)).2

/-- The end of the phase that is found is the end of each phase with the name. -/
theorem due_iff_together {table : Table TestPhase TestPhase.id} {s : Placing}
    {pairs : List (PhaseConfig × Interval DateTime)} (hplaced : Placed table release_id s pairs)
    (h : Are release_id phases pairs) (hname : name ≠ "") :
    ((∃ p ∈ phases, p.name = name) ∧ ∀ p ∈ phases, p.name = name →
        p.end_date = some (gate_due_date (matched_phase s.phase_objects (some name)) target)) ↔
      (∃ q ∈ pairs, q.1.name = name) ∧ EndTogether name pairs := by
  rw [matched_phase_some hname]
  constructor
  · rintro ⟨⟨p, hp, rfl⟩, hends⟩
    obtain ⟨q, hq, hseen⟩ := h.mem hp
    have hend : ∀ q ∈ pairs, q.1.name = p.name → some q.2.stop =
        some (gate_due_date (s.phase_objects.get p.name) target) := by
      intro q hq hqname
      obtain ⟨p', hp', hseen'⟩ := h.mem_pairs hq
      rw [← end_date_of_seen hseen']
      exact hends p' hp' ((name_of_seen hseen').trans hqname)
    refine ⟨⟨q, hq, (name_of_seen hseen.symm).symm⟩, ?_⟩
    intro q₁ hq₁ q₂ hq₂ hname₁ hname₂
    exact Option.some.inj ((hend q₁ hq₁ hname₁).trans (hend q₂ hq₂ hname₂).symm)
  · rintro ⟨⟨q, hq, rfl⟩, htogether⟩
    obtain ⟨p, hp, hseen⟩ := h.mem_pairs hq
    refine ⟨⟨p, hp, name_of_seen hseen⟩, ?_⟩
    intro p' hp' hname'
    obtain ⟨q', hq', hseen'⟩ := h.mem hp'
    -- what is found under the name is one of the phases that have it
    obtain ⟨phase, hfinds⟩ := hplaced.finds q hq
    obtain ⟨q₀, hq₀, hname₀, hend₀⟩ := hplaced.found _ phase hfinds
    rw [hfinds, gate_due_date, Option.bind_some, hend₀, Option.getD_some,
      end_date_of_seen hseen'.symm]
    exact congrArg some (htogether q' hq' q₀ hq₀ ((name_of_seen hseen'.symm).symm.trans hname')
      hname₀)

theorem same_stop_iff (c x span y : ℤ) : c + x = c + x + span + y ↔ span + y = 0 := by
  omega

theorem no_time_after_iff {y : PhaseConfig} {between : List PhaseConfig}
    (h : ∀ z ∈ between ++ [y], 0 ≤ z.duration) :
    (between.map PhaseConfig.duration).sum + y.duration = 0 ↔
      ∀ z ∈ between ++ [y], z.duration = 0 := by
  rw [← Interval.sum_length_eq_zero_iff h, List.map_append, List.sum_append, List.map_singleton,
    List.sum_singleton]

/-- **Namesakes end together** if between their ends no phase takes any time. -/
theorem together_iff (hcfgs : ∀ c ∈ tpl.phases_config, 0 ≤ c.duration) :
    EndTogether name (tpl.windows target) ↔
      Spread (Namesakes name) (tpl.test_cfgs ++ tpl.hypercare_cfgs) := by
  let l := place PhaseConfig.duration (target - (tpl.test_cfgs.map PhaseConfig.duration).sum)
    (tpl.test_cfgs ++ tpl.hypercare_cfgs)
  let R := fun p q : PhaseConfig × Interval DateTime =>
    p.1.name = name → q.1.name = name → p.2.stop = q.2.stop
  have hmem : ∀ p, p ∈ tpl.windows target ↔ p ∈ l := fun p => windows_perm.mem_iff
  have hpairwise : EndTogether name (tpl.windows target) ↔ l.Pairwise R := by
    simp only [EndTogether, hmem]
    constructor
    · exact fun h => List.pairwise_of_forall_mem_list h
    · intro h p hp q hq hpname hqname
      rcases Interval.pairwise_or h hp hq with rfl | hpq | hqp
      · rfl
      · exact hpq hpname hqname
      · exact (hqp hqname hpname).symm
  rw [hpairwise]
  refine (Interval.pairwise_place_iff (Q := fun x between y => x.name = name → y.name = name →
    (between.map PhaseConfig.duration).sum + y.duration = 0) fun c x between y =>
    imp_congr_right fun _ => imp_congr_right fun _ =>
      same_stop_iff c x.duration _ y.duration).trans ?_
  refine Interval.spread_congr fun x between y hxs =>
    imp_congr_right fun _ => imp_congr_right fun _ => no_time_after_iff ?_
  intro z hz
  exact hcfgs z (phases_config_perm.mem_iff.1 (hxs z (List.mem_cons_of_mem x hz)))

end LaidOut

/-! ## From a template to a layout -/

section Instantiate

variable {tpl : ReleaseTemplate} {release_id : ℕ} {phases : List TestPhase} {target : DateTime}

theorem exists_name_iff : (∃ q ∈ tpl.windows target, q.1.name = name) ↔
    ∃ c ∈ tpl.phases_config, c.name = name := by
  have hperm := (@windows_perm tpl target).map Prod.fst
  rw [Interval.place_map_fst] at hperm
  have hmem : ∀ c, c ∈ (tpl.windows target).map Prod.fst ↔ c ∈ tpl.phases_config :=
    fun c => (hperm.trans phases_config_perm).mem_iff
  constructor
  · rintro ⟨q, hq, hname⟩
    exact ⟨q.1, (hmem q.1).1 (List.mem_map_of_mem hq), hname⟩
  · rintro ⟨c, hc, hname⟩
    obtain ⟨q, hq, rfl⟩ := List.mem_map.1 ((hmem c).2 hc)
    exact ⟨q, hq, hname⟩

/-- **What has been created is laid out** exactly if the template fits, apart from how far the
phases reach. -/
theorem laidOut_iff {table : Table TestPhase TestPhase.id} {s : Placing}
    (hplaced : Placed table release_id s (tpl.windows target))
    (hrows : s.phases.rows = table.rows ++ phases) {gates : List ReleaseGate}
    (hgates : List.Forall₂ (fun cfg gate => gate.name = cfg.name ∧ gate.due_date =
      gate_due_date (matched_phase s.phase_objects cfg.phase_name) target) (tpl.gates.getD [])
      gates) :
    LaidOut tpl release_id target phases gates ↔
      (∀ c ∈ tpl.phases_config, 0 ≤ c.duration) ∧ Spread Ordered tpl.test_cfgs ∧
        ∀ gate ∈ tpl.gates.getD [], ∀ name ∈ gate.phase_name, name ≠ "" →
          (∃ c ∈ tpl.phases_config, c.name = name) ∧
            Spread (Namesakes name) (tpl.test_cfgs ++ tpl.hypercare_cfgs) := by
  obtain ⟨added, hadded, h⟩ := hplaced.rows
  obtain rfl := List.append_cancel_left (hrows.symm.trans hadded)
  have hdue : (∀ c ∈ tpl.phases_config, 0 ≤ c.duration) →
      (List.Forall₂ (Due phases) (tpl.gates.getD []) gates ↔
        ∀ gate ∈ tpl.gates.getD [], ∀ name ∈ gate.phase_name, name ≠ "" →
          (∃ c ∈ tpl.phases_config, c.name = name) ∧
            Spread (Namesakes name) (tpl.test_cfgs ++ tpl.hypercare_cfgs)) := by
    intro hall
    rw [forall₂_due_iff hgates]
    refine forall₂_congr fun cfg _ => forall₂_congr fun name hname => imp_congr_right fun hne => ?_
    have hcfg : cfg.phase_name = some name := hname
    rw [hcfg, due_iff_together hplaced h hne, exists_name_iff, together_iff hall]
  constructor
  · rintro ⟨-, ⟨ordered, hanswers, start, hcontiguous⟩, hhypercare, hgates⟩
    have htests := durations_of_tests h hanswers hcontiguous
    have hcares := (hypercare_iff h).1 hhypercare
    have hall : ∀ c ∈ tpl.phases_config, 0 ≤ c.duration := by
      intro c hc
      rcases List.mem_append.1 (phases_config_perm.mem_iff.2 hc) with hc | hc
      · exact htests c hc
      · exact hcares c hc
    exact ⟨hall, (tests_iff h htests).1 ⟨ordered, hanswers, start, hcontiguous⟩,
      (hdue hall).1 hgates⟩
  · rintro ⟨hall, hordered, hnamed⟩
    have htests : ∀ c ∈ tpl.test_cfgs, 0 ≤ c.duration := fun c hc => hall c (mem_test_cfgs.1 hc).1
    have hcares : ∀ c ∈ tpl.hypercare_cfgs, 0 ≤ c.duration :=
      fun c hc => hall c (mem_hypercare_cfgs.1 hc).1
    exact ⟨h.configs, (tests_iff h htests).2 hordered, (hypercare_iff h).2 hcares,
      (hdue hall).2 hnamed⟩

/-- What `instantiate` goes through, where the template and the release are there. -/
theorem instantiate_ok {db db' : Db} {template_id tenant_id user_id : ℕ}
    {data : ReleaseTemplateInstantiate} {statuses : Statuses.Db}
    (htpl : _get_template db template_id tenant_id = .ok tpl)
    (hrelease : Statuses.create_release db.statuses (tpl.release_data data template_id) tenant_id
      user_id = .ok statuses) :
    instantiate db template_id data tenant_id user_id = .ok db' ↔
      ∃ s, add_phases db.phases tpl data db.statuses.releases.next tenant_id = .ok s ∧
        ∃ gates, (tpl.gates.getD []).foldlM (add_gate s.phase_objects data.target_date
            db.statuses.releases.next tenant_id) db.gates = .ok gates ∧
          { db with statuses := statuses, gates := gates, phases := s.phases } = db' := by
  simp only [instantiate, bind_eq_ok, htpl, Except.ok.injEq, exists_eq_left', hrelease]

section

variable {db : Db} {template_id tenant_id user_id : ℕ} {data : ReleaseTemplateInstantiate}
variable {statuses : Statuses.Db}
variable (htpl : _get_template db template_id tenant_id = .ok tpl)
variable (hrelease : Statuses.create_release db.statuses (tpl.release_data data template_id)
  tenant_id user_id = .ok statuses)

/-- No date is out of range if the two outermost ones are not. -/
theorem add_phases_iff (hall : ∀ c ∈ tpl.phases_config, 0 ≤ c.duration) :
    (∃ s, add_phases db.phases tpl data release_id tenant_id = .ok s) ↔
      datetime.min ≤ data.target_date - (tpl.test_cfgs.map PhaseConfig.duration).sum +
          data.utcoffset ∧
        data.target_date + (tpl.hypercare_cfgs.map PhaseConfig.duration).sum + data.utcoffset ≤
          datetime.max := by
  have htarget : InRange data.utcoffset data.target_date := ⟨data.target_min, data.target_max⟩
  rw [add_phases_ok.1, test_range (fun c hc => hall c (mem_test_cfgs.1 hc).1) htarget,
    hypercare_range (fun c hc => hall c (mem_hypercare_cfgs.1 hc).1) htarget]

include htpl hrelease

theorem fits_of_instantiates (h : InstantiatesTo db template_id data tenant_id user_id tpl) :
    Fits tpl data := by
  obtain ⟨db', phases, gates, hok, hrows, hgaterows, hlaid⟩ := h
  obtain ⟨s, hs, gates', hloop, rfl⟩ := (instantiate_ok htpl hrelease).1 hok
  obtain ⟨db'', added, hloop', hadded, hgates⟩ := @gate_loop s.phase_objects data.target_date
    db.statuses.releases.next tenant_id (tpl.gates.getD []) db.gates
  obtain rfl := Except.ok.inj (hloop.symm.trans hloop')
  obtain rfl := List.append_cancel_left (hgaterows.symm.trans hadded)
  obtain ⟨hall, hordered, hnamed⟩ := (laidOut_iff (add_phases_ok.2 s hs) hrows hgates).1 hlaid
  obtain ⟨hstarts, hstops⟩ := (add_phases_iff hall).1 ⟨s, hs⟩
  exact ⟨hall, hordered, hnamed, hstarts, hstops⟩

theorem instantiates_of_fits (h : Fits tpl data) :
    InstantiatesTo db template_id data tenant_id user_id tpl := by
  obtain ⟨s, hs⟩ := (@add_phases_iff tpl db.statuses.releases.next db tenant_id data
    h.durations).2 ⟨h.starts, h.stops⟩
  obtain ⟨gates', gates, hloop, hgaterows, hgates⟩ := @gate_loop s.phase_objects
    data.target_date db.statuses.releases.next tenant_id (tpl.gates.getD []) db.gates
  obtain ⟨phases, hrows, -⟩ := (add_phases_ok.2 s hs).rows
  have hlaid := (laidOut_iff (add_phases_ok.2 s hs) hrows hgates).2
    ⟨h.durations, h.ordered, h.named⟩
  exact ⟨_, phases, gates, (instantiate_ok htpl hrelease).2 ⟨s, hs, gates', hloop, rfl⟩, hrows,
    hgaterows, hlaid⟩

/-- **The phases and gates of a new release are as the template asks** exactly if no phase takes
less than no time, the list is in the order of the field, every name is the name of one phase,
and the dates can be written down. -/
theorem instantiates_iff :
    InstantiatesTo db template_id data tenant_id user_id tpl ↔ Fits tpl data :=
  ⟨fits_of_instantiates htpl hrelease, instantiates_of_fits htpl hrelease⟩

end

end Instantiate

/-! ## Templates that fit -/

theorem ordered_of_pairwise {cfgs : List PhaseConfig}
    (h : cfgs.Pairwise fun x y => x.order ≤ y.order) : Spread Ordered cfgs :=
  Interval.spread_of_pairwise (fun _ _ _ hle => Or.inl hle) h

theorem namesakes_of_nodup {cfgs : List PhaseConfig}
    (h : cfgs.Pairwise fun x y => x.name ≠ y.name) : Spread (Namesakes name) cfgs :=
  Interval.spread_of_pairwise (fun _ _ _ hne hx hy => absurd (hx.trans hy.symm) hne) h

namespace Sample

def definition : Lifecycle.Definition where
  states := [⟨"draft", some "Draft", ⟨[("is_initial", true)], by decide⟩⟩]
  transitions := []
  field_permissions := Dict.empty
  action_permissions := none

def lifecycle (id : ℕ) : Lifecycle.LifecycleTemplate :=
  ⟨id, 1, "release", "Releases", none, true, none, definition, none⟩

def db : Db where
  statuses := Statuses.Db.seeded (Table.empty.insert ⟨lifecycle, fun _ => rfl⟩) Table.empty
    Bookings.Sample.environments Bookings.Sample.reference ⟨[], [], [], [], []⟩
  gates := Gates.Db.opened ⟨[], [], [], [], []⟩
  templates := Table.empty
  phases := Table.empty

def phase (name : String) (order days : ℤ) (kind : PhaseKind) (h : name.length ≤ 100) :
    ReleaseTemplatePhase :=
  ⟨name, some order, some days, some kind, h⟩

/-- Two test phases, listed one after the other, and a hyper-care phase. -/
def template (sit uat : ℤ) : ReleaseTemplateCreate where
  name := "Quarterly"
  description := none
  release_type := "Major"
  default_lifecycle_template_id := none
  phases :=
    [phase "SIT" sit 5 .test (by decide), phase "UAT" uat 3 .test (by decide),
      phase "Hyper-care" 3 10 .hypercare (by decide)]
  gates :=
    [⟨"UAT exit", some "UAT", some "Scripts run", none, by decide⟩,
      ⟨"Go / no-go", none, none, none, by decide⟩]
  name_length := by decide
  release_type_length := by decide

/-- What the template is stored as. -/
def created (data : ReleaseTemplateCreate) : Db :=
  { db with templates := db.templates.insert ⟨data.row 1, fun _ => rfl⟩ }

def summer : ReleaseTemplateInstantiate where
  name := "Summer"
  target_date := timedelta.days 20666
  utcoffset := 0
  description := none
  custom_fields := none
  name_length := by decide
  target_min := by decide
  target_max := by decide

theorem created_ok (sit uat : ℤ) :
    create_template db (template sit uat) 1 = .ok (created (template sit uat)) := rfl

theorem get_created (sit uat : ℤ) :
    _get_template (created (template sit uat)) 1 1 = .ok ((template sit uat).row 1 1) := rfl

theorem release_created (sit uat : ℤ) :
    ∃ statuses, Statuses.create_release (created (template sit uat)).statuses
      (((template sit uat).row 1 1).release_data summer 1) 1 1 = .ok statuses := ⟨_, rfl⟩

end Sample

/-- A template whose phases are listed in their order is laid out. -/
theorem quarterly_is_laid_out : InstantiatesTo (Sample.created (Sample.template 1 2)) 1
    Sample.summer 1 1 ((Sample.template 1 2).row 1 1) := by
  obtain ⟨statuses, hrelease⟩ := Sample.release_created 1 2
  refine (instantiates_iff (Sample.get_created 1 2) hrelease).2 ⟨by decide, ?_, ?_, by decide,
    by decide⟩
  · exact ordered_of_pairwise (by decide)
  · intro gate hgate name hname hne
    refine ⟨?_, namesakes_of_nodup (by decide)⟩
    revert name gate
    decide

/-- The second phase of the list has the smaller order, and is placed last. -/
theorem reordered_phases_are_not_laid_out :
    ¬ ∀ db, create_template Sample.db (Sample.template 2 1) 1 = .ok db →
      ∀ tpl, _get_template db 1 1 = .ok tpl → InstantiatesTo db 1 Sample.summer 1 1 tpl := by
  intro hall
  obtain ⟨statuses, hrelease⟩ := Sample.release_created 2 1
  have hfits := fits_of_instantiates (Sample.get_created 2 1) hrelease
    (hall _ (Sample.created_ok 2 1) _ (Sample.get_created 2 1))
  have hordered := hfits.ordered [] ⟨"SIT", 2, 5, .test⟩ [] ⟨"UAT", 1, 3, .test⟩ [] rfl
  revert hordered
  unfold Ordered
  decide

end EnvMgr.ReleaseTemplates

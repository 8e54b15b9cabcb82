/-
What is in a drift report.

Each category is read off three look-ups: the catalogue's row of a name, the last
declaration of a name or of an edge, and the row of the catalogue that stands for a pair of
names.
-/
import EnvMgr.Scanning.RoundTrip

namespace EnvMgr.Scanning

variable {sub : DeclaredSubsystem} {edge : DeclaredEdge} {es : DependencySource}

/-- The last declaration of a name. -/
def last_sub (declared : DeclaredState) (name : String) : Option DeclaredSubsystem :=
  (declared_by_name declared.subsystems).get name

/-- The last declaration of an edge that can be written. -/
def last_edge (declared : DeclaredState) (key : String × String) : Option DeclaredEdge :=
  (declared_edges declared).get key

theorem last_sub_name {declared : DeclaredState} {name : String}
    (h : last_sub declared name = some sub) : sub.name = name :=
  Option.some.inj (Index.get_collect_some h).2

theorem last_edge_key {declared : DeclaredState} {key : String × String}
    (h : last_edge declared key = some edge) : (edge.from_name, edge.to_name) = key := by
  obtain ⟨-, hkey⟩ := Index.get_collect_some h
  exact (edge_key_eq_some.1 hkey).2.2.2.symm

/-- `bool(xs)`, of a list or of `None`. -/
theorem truthy_eq_false {α : Type*} {xs : Option (List α)} :
    truthy xs = false ↔ ∀ l, xs = some l → l = [] := by
  cases xs with
  | none => simp [truthy]
  | some l => simp [truthy]

theorem SubSystemSource.value_inj {a b : SubSystemSource} : a.value = b.value ↔ a = b := by
  cases a <;> cases b <;> decide

section

variable (db : Db) (system_id tenant_id : ℕ)

/-- The catalogue's row of a name. -/
def row_of (name : String) : Option SubSystem := (catalogue db system_id tenant_id).get name

/-- The catalogue's edge between two names. -/
def edge_row (key : String × String) : Option ComponentDependency :=
  (catalogue_edges_by_pair db tenant_id (catalogue db system_id tenant_id)).get key

end

section

variable {db : Db} {system_id tenant_id : ℕ} {source : SubSystemSource}
  {edge_source : Option DependencySource} {declared : DeclaredState} {absence_computed : Bool}
  {absence_reason : Option String}

theorem mem_subsystems_missing_in_catalogue :
    sub ∈ (diff db system_id tenant_id source edge_source declared absence_computed
        absence_reason).subsystems_missing_in_catalogue ↔
      last_sub declared sub.name = some sub ∧ row_of db system_id tenant_id sub.name = none := by
  simp only [diff, List.mem_map, List.mem_filter, decide_eq_true_eq]
  constructor
  · rintro ⟨⟨name, sub⟩, ⟨hitem, hmissing⟩, rfl⟩
    have hlast := Index.get_eq_some.2 hitem
    obtain rfl : sub.name = name := last_sub_name hlast
    exact ⟨hlast, Index.get_eq_none.2 hmissing⟩
  · rintro ⟨hlast, hmissing⟩
    exact ⟨(sub.name, sub), ⟨Index.get_eq_some.1 hlast, Index.get_eq_none.1 hmissing⟩, rfl⟩

theorem mem_subsystems_changed {c : ChangedSubsystem} :
    c ∈ (diff db system_id tenant_id source edge_source declared absence_computed
        absence_reason).subsystems_changed ↔
      ∃ name sub row, last_sub declared name = some sub ∧
        row_of db system_id tenant_id name = some row ∧ c ∈ changed_fields name row sub := by
  simp only [diff, List.mem_flatMap]
  constructor
  · rintro ⟨⟨name, sub⟩, hitem, hc⟩
    dsimp only at hc
    cases hrow : (catalogue db system_id tenant_id).get name with
    | none =>
      rw [hrow] at hc
      cases hc
    | some row =>
      rw [hrow] at hc
      exact ⟨name, sub, row, Index.get_eq_some.2 hitem, hrow, hc⟩
  · rintro ⟨name, sub, row, hlast, hrow, hc⟩
    refine ⟨(name, sub), Index.get_eq_some.1 hlast, ?_⟩
    dsimp only
    rw [show (catalogue db system_id tenant_id).get name = some row from hrow]
    exact hc

theorem mem_subsystems_missing_in_code {names : List String} {name : String}
    (h : (diff db system_id tenant_id source edge_source declared absence_computed
      absence_reason).subsystems_missing_in_code = some names) :
    name ∈ names ↔ (∃ row, row_of db system_id tenant_id name = some row ∧ row.source = source) ∧
      last_sub declared name = none := by
  simp only [diff] at h
  split_ifs at h
  rw [← Option.some.inj h, mem_order_by]
  simp only [List.mem_map, List.mem_filter, decide_eq_true_eq]
  constructor
  · rintro ⟨⟨name, row⟩, ⟨hitem, hsource, hmissing⟩, rfl⟩
    exact ⟨⟨row, Index.get_eq_some.2 hitem, SubSystemSource.value_inj.1 hsource⟩,
      Index.get_eq_none.2 hmissing⟩
  · rintro ⟨⟨row, hrow, hsource⟩, hmissing⟩
    exact ⟨(name, row), ⟨Index.get_eq_some.1 hrow, SubSystemSource.value_inj.2 hsource,
      Index.get_eq_none.1 hmissing⟩, rfl⟩

theorem mem_edge_drifts {d : EdgeDrift} :
    d ∈ edge_drifts db tenant_id (some es) declared (catalogue db system_id tenant_id) ↔
      ∃ key edge, last_edge declared key = some edge ∧
        edge_drift es (edge_row db system_id tenant_id key) key edge = some d := by
  rw [edge_drifts, List.mem_filterMap]
  constructor
  · rintro ⟨⟨key, edge⟩, hitem, hd⟩
    exact ⟨key, edge, Index.get_eq_some.2 hitem, hd⟩
  · rintro ⟨key, edge, hlast, hd⟩
    exact ⟨(key, edge), Index.get_eq_some.1 hlast, hd⟩

theorem mem_edges_missing_in_catalogue :
    edge ∈ (diff db system_id tenant_id source edge_source declared absence_computed
        absence_reason).edges_missing_in_catalogue ↔
      edge_source ≠ none ∧ ∃ key, last_edge declared key = some edge ∧
        edge_row db system_id tenant_id key = none := by
  simp only [diff, List.mem_filterMap]
  cases edge_source with
  | none => simp [edge_drifts]
  | some es =>
    rw [and_iff_right (by simp)]
    constructor
    · rintro ⟨d, hd, hmissing⟩
      obtain ⟨key, edge', hlast, hdrift⟩ := mem_edge_drifts.1 hd
      unfold edge_drift at hdrift
      split at hdrift
      · obtain rfl := Option.some.inj hdrift
        obtain rfl := Option.some.inj hmissing
        rename_i hrow
        exact ⟨key, hlast, hrow⟩
      · split_ifs at hdrift
        · obtain rfl := Option.some.inj hdrift
          cases hmissing
        · obtain rfl := Option.some.inj hdrift
          cases hmissing
    · rintro ⟨key, hlast, hrow⟩
      refine ⟨.missing edge, mem_edge_drifts.2 ⟨key, edge, hlast, ?_⟩, rfl⟩
      rw [hrow]
      rfl

/-- The difference of one edge, as it is reported. -/
def changed_edge (key : String × String) (row : ComponentDependency) (edge : DeclaredEdge) :
    ChangedEdge where
  from_name := key.1
  to_name := key.2
  catalogue_port := row.port
  declared_port := edge.port
  source_path := edge.source_path

theorem mem_edges_changed {c : ChangedEdge} :
    c ∈ (diff db system_id tenant_id source edge_source declared absence_computed
        absence_reason).edges_changed ↔
      ∃ key edge row, last_edge declared key = some edge ∧
        edge_row db system_id tenant_id key = some row ∧ edge_source = some row.source ∧
        row.port ≠ edge.port ∧ c = changed_edge key row edge := by
  simp only [diff, List.mem_filterMap]
  cases edge_source with
  | none => simp [edge_drifts]
  | some es =>
    constructor
    · rintro ⟨d, hd, hchanged⟩
      obtain ⟨key, edge, hlast, hdrift⟩ := mem_edge_drifts.1 hd
      unfold edge_drift at hdrift
      split at hdrift
      · obtain rfl := Option.some.inj hdrift
        cases hchanged
      · rename_i row hrow
        split_ifs at hdrift with hsource hport
        · obtain rfl := Option.some.inj hdrift
          cases hchanged
        · obtain rfl := Option.some.inj hdrift
          rw [not_not] at hsource
          exact ⟨key, edge, row, hlast, hrow,
            congrArg some (DependencySource.value_inj.1 hsource).symm, hport,
            (Option.some.inj hchanged).symm⟩
    · rintro ⟨key, edge, row, hlast, hrow, hsource, hport, rfl⟩
      obtain rfl := Option.some.inj hsource
      refine ⟨.changed (changed_edge key row edge), mem_edge_drifts.2 ⟨key, edge, hlast, ?_⟩, rfl⟩
      rw [hrow, edge_drift, if_neg (not_not.2 rfl), if_pos hport]
      rfl

theorem mem_edges_missing_in_code {ref : EdgeRef} :
    ref ∈ edges_missing_in_code db tenant_id declared (catalogue db system_id tenant_id) es ↔
      ∃ row, edge_row db system_id tenant_id (ref.from_name, ref.to_name) = some row ∧
        row.source = es ∧ row.port = ref.port ∧
        last_edge declared (ref.from_name, ref.to_name) = none := by
  simp only [edges_missing_in_code, mem_order_by, List.mem_map, List.mem_filter,
    decide_eq_true_eq]
  constructor
  · rintro ⟨⟨key, row⟩, ⟨⟨hitem, hsource⟩, hmissing⟩, rfl⟩
    exact ⟨row, Index.get_eq_some.2 hitem, DependencySource.value_inj.1 hsource, rfl,
      Index.get_eq_none.2 hmissing⟩
  · rintro ⟨row, hrow, hsource, hport, hmissing⟩
    refine ⟨((ref.from_name, ref.to_name), row), ⟨⟨Index.get_eq_some.1 hrow,
      DependencySource.value_inj.2 hsource⟩, Index.get_eq_none.1 hmissing⟩, ?_⟩
    rw [hport]

/-! ## An empty report -/

/-- The fields that are compared are the same. -/
def SameFields (row : SubSystem) (sub : DeclaredSubsystem) : Prop :=
  row.component_type = sub.component_type ∧ or_none row.technology = or_none sub.technology

theorem changed_fields_eq_nil (name : String) {row : SubSystem} :
    changed_fields name row sub = [] ↔ SameFields row sub := by
  rw [changed_fields, List.append_eq_nil_iff, SameFields]
  constructor
  · rintro ⟨htype, htech⟩
    split_ifs at htype htech with h₁ h₂
    rw [not_not] at h₁ h₂
    exact ⟨h₁, h₂⟩
  · rintro ⟨htype, htech⟩
    exact ⟨if_neg (not_not.2 htype), if_neg (not_not.2 htech)⟩

/-- The edges of a source between the names of the catalogue are those declared. -/
def SameEdges (db : Db) (system_id tenant_id : ℕ) (es : DependencySource)
    (declared : DeclaredState) : Prop :=
  ∀ key port, (∃ row, edge_row db system_id tenant_id key = some row ∧ row.source = es ∧
    row.port = port) ↔ ∃ edge, last_edge declared key = some edge ∧ edge.port = port

theorem edge_drift_eq_none_iff {row : Option ComponentDependency} {key : String × String} :
    edge_drift es row key edge = none ↔
      ∃ r, row = some r ∧ r.source = es ∧ r.port = edge.port := by
  cases row with
  | none => simp [edge_drift]
  | some r =>
    rw [edge_drift]
    constructor
    · intro h
      split_ifs at h with hsource hport
      rw [not_not] at hsource hport
      exact ⟨r, rfl, DependencySource.value_inj.1 hsource, hport⟩
    · rintro ⟨r', hr, hsource, hport⟩
      obtain rfl := Option.some.inj hr
      rw [if_neg (not_not.2 (DependencySource.value_inj.2 hsource)), if_neg (not_not.2 hport)]

/-- Nothing is reported of the edges exactly if they agree. -/
theorem sameEdges_iff :
    (edge_drifts db tenant_id (some es) declared (catalogue db system_id tenant_id) = [] ∧
        edges_missing_in_code db tenant_id declared (catalogue db system_id tenant_id) es = []) ↔
      SameEdges db system_id tenant_id es declared := by
  constructor
  · rintro ⟨hdrifts, hmissing⟩ key port
    have hnone : ∀ edge, last_edge declared key = some edge →
        edge_drift es (edge_row db system_id tenant_id key) key edge = none := by
      intro edge hlast
      by_contra hsome
      obtain ⟨d, hd⟩ := Option.ne_none_iff_exists'.1 hsome
      have hmem := mem_edge_drifts.2 ⟨key, edge, hlast, hd⟩
      rw [hdrifts] at hmem
      cases hmem
    constructor
    · rintro ⟨row, hrow, hsource, rfl⟩
      cases hlast : last_edge declared key with
      | none =>
        have hmem : (⟨key.1, key.2, row.port⟩ : EdgeRef) ∈
            edges_missing_in_code db tenant_id declared (catalogue db system_id tenant_id) es :=
          mem_edges_missing_in_code.2 ⟨row, hrow, hsource, rfl, hlast⟩
        rw [hmissing] at hmem
        cases hmem
      | some edge =>
        obtain ⟨r, hr, -, hport⟩ := edge_drift_eq_none_iff.1 (hnone edge hlast)
        rw [hrow] at hr
        obtain rfl := Option.some.inj hr
        exact ⟨edge, rfl, hport.symm⟩
    · rintro ⟨edge, hlast, rfl⟩
      exact edge_drift_eq_none_iff.1 (hnone edge hlast)
  · intro h
    constructor
    · rw [List.eq_nil_iff_forall_not_mem]
      intro d hd
      obtain ⟨key, edge, hlast, hdrift⟩ := mem_edge_drifts.1 hd
      rw [edge_drift_eq_none_iff.2 ((h key edge.port).2 ⟨edge, hlast, rfl⟩)] at hdrift
      cases hdrift
    · rw [List.eq_nil_iff_forall_not_mem]
      intro ref href
      obtain ⟨row, hrow, hsource, -, hlast⟩ := mem_edges_missing_in_code.1 href
      obtain ⟨edge, hedge, -⟩ := (h _ row.port).1 ⟨row, hrow, hsource, rfl⟩
      rw [hlast] at hedge
      cases hedge

/-- The declared names are all in the catalogue, with the declared fields. -/
theorem no_subsystem_drift_iff :
    ((diff db system_id tenant_id source edge_source declared absence_computed
          absence_reason).subsystems_missing_in_catalogue = [] ∧
        (diff db system_id tenant_id source edge_source declared absence_computed
          absence_reason).subsystems_changed = []) ↔
      ∀ name sub, last_sub declared name = some sub →
        ∃ row, row_of db system_id tenant_id name = some row ∧ SameFields row sub := by
  simp only [List.eq_nil_iff_forall_not_mem, mem_subsystems_missing_in_catalogue,
    mem_subsystems_changed]
  constructor
  · rintro ⟨hmissing, hchanged⟩ name sub hlast
    obtain rfl := last_sub_name hlast
    cases hrow : row_of db system_id tenant_id sub.name with
    | none => exact absurd ⟨hlast, hrow⟩ (hmissing sub)
    | some row =>
      refine ⟨row, rfl, (changed_fields_eq_nil sub.name).1 ?_⟩
      rw [List.eq_nil_iff_forall_not_mem]
      intro c hc
      exact hchanged c ⟨sub.name, sub, row, hlast, hrow, hc⟩
  · intro h
    constructor
    · rintro sub ⟨hlast, hrow⟩
      obtain ⟨row, hsome, -⟩ := h _ sub hlast
      rw [hrow] at hsome
      cases hsome
    · rintro c ⟨name, sub, row, hlast, hrow, hc⟩
      obtain ⟨row', hrow', hsame⟩ := h name sub hlast
      rw [hrow] at hrow'
      obtain rfl := Option.some.inj hrow'
      rw [(changed_fields_eq_nil name).2 hsame] at hc
      cases hc

/-- The source has no row of a name that is no longer declared. -/
theorem none_missing_in_code_iff :
    truthy (diff db system_id tenant_id source edge_source declared true
        absence_reason).subsystems_missing_in_code = false ↔
      ∀ name row, row_of db system_id tenant_id name = some row → row.source = source →
        last_sub declared name ≠ none := by
  obtain ⟨names, hnames⟩ : ∃ names, (diff db system_id tenant_id source edge_source declared true
      absence_reason).subsystems_missing_in_code = some names := ⟨_, rfl⟩
  rw [truthy_eq_false, hnames]
  constructor
  · intro h name row hrow hsource hlast
    have hmem := (mem_subsystems_missing_in_code hnames).2 ⟨⟨row, hrow, hsource⟩, hlast⟩
    rw [h names rfl] at hmem
    cases hmem
  · rintro h _ ⟨⟩
    rw [List.eq_nil_iff_forall_not_mem]
    intro name hmem
    obtain ⟨⟨row, hrow, hsource⟩, hlast⟩ := (mem_subsystems_missing_in_code hnames).1 hmem
    exact h name row hrow hsource hlast

/-- The three lists of edges are the differences, sorted by kind. -/
theorem edge_drifts_eq_nil_iff :
    edge_drifts db tenant_id edge_source declared (catalogue db system_id tenant_id) = [] ↔
      (diff db system_id tenant_id source edge_source declared absence_computed
          absence_reason).edges_missing_in_catalogue = [] ∧
        (diff db system_id tenant_id source edge_source declared absence_computed
          absence_reason).edges_changed = [] ∧
        (diff db system_id tenant_id source edge_source declared absence_computed
          absence_reason).edges_conflicting_source = [] := by
  simp only [diff, List.filterMap_eq_nil_iff]
  constructor
  · intro hnil
    simp [hnil]
  · rintro ⟨hmissing, hchanged, hconflicting⟩
    rw [List.eq_nil_iff_forall_not_mem]
    intro d hd
    cases d with
    | missing edge => cases hmissing _ hd
    | conflicting edge => cases hconflicting _ hd
    | changed edge => cases hchanged _ hd

/-- The edges of the source are the declared ones. -/
theorem no_edge_drift_iff :
    (edge_drifts db tenant_id edge_source declared (catalogue db system_id tenant_id) = [] ∧
        truthy (diff db system_id tenant_id source edge_source declared true
          absence_reason).edges_missing_in_code = false) ↔
      ∀ es, edge_source = some es → SameEdges db system_id tenant_id es declared := by
  cases edge_source with
  | none => simp [edge_drifts, diff, truthy]
  | some es =>
    have hempty : truthy (diff db system_id tenant_id source (some es) declared true
        absence_reason).edges_missing_in_code = false ↔ edges_missing_in_code db tenant_id
          declared (catalogue db system_id tenant_id) es = [] := by
      simp [diff, truthy]
    rw [hempty, sameEdges_iff]
    simp

/-- **A report on a repository that was read in full is empty** exactly if the rows of the
declared names have the declared fields, the source has no row of another name, and its
edges are the declared ones. -/
theorem has_drift_eq_false_iff :
    (diff db system_id tenant_id source edge_source declared true absence_reason).has_drift =
        false ↔
      (∀ name sub, last_sub declared name = some sub →
        ∃ row, row_of db system_id tenant_id name = some row ∧ SameFields row sub) ∧
      (∀ name row, row_of db system_id tenant_id name = some row → row.source = source →
        last_sub declared name ≠ none) ∧
      ∀ es, edge_source = some es → SameEdges db system_id tenant_id es declared := by
  rw [← no_subsystem_drift_iff, ← none_missing_in_code_iff, ← no_edge_drift_iff,
    edge_drifts_eq_nil_iff, DriftReport.has_drift]
  simp only [Bool.or_eq_false_iff, Bool.not_eq_false', List.isEmpty_iff]
  tauto

end

end EnvMgr.Scanning

/-
The drift report on a repository that was read only in part.

A file that was not read takes its declarations out of the sum, and the last declaration of
a name is then another one. A finding that rests on a declaration which the missing file
would have written over is in the partial report and not in the full one. Absence findings
are not computed, so nothing else can go wrong: the partial report is within the full one
exactly if nothing that differs from the catalogue is written over.
-/
import EnvMgr.Scanning.Stable

namespace EnvMgr.Scanning

variable {walk : DetectorWalk} {tree : TreeResult}
variable {name : String} {sub : DeclaredSubsystem} {c : ChangedSubsystem} {paths : List String}
  {tree' : TreeResult}

/-! ## Findings -/

/-- Each finding of the one report is in the other. -/
structure DriftReport.Within (r r' : DriftReport) : Prop where
  subsystems_missing_in_catalogue :
    ∀ sub ∈ r.subsystems_missing_in_catalogue, sub ∈ r'.subsystems_missing_in_catalogue
  subsystems_changed : ∀ c ∈ r.subsystems_changed, c ∈ r'.subsystems_changed
  subsystems_missing_in_code : ∀ names, r.subsystems_missing_in_code = some names →
    ∃ names', r'.subsystems_missing_in_code = some names' ∧ ∀ name ∈ names, name ∈ names'
  edges_missing_in_catalogue :
    ∀ edge ∈ r.edges_missing_in_catalogue, edge ∈ r'.edges_missing_in_catalogue
  edges_changed : ∀ c ∈ r.edges_changed, c ∈ r'.edges_changed
  edges_missing_in_code : ∀ edges, r.edges_missing_in_code = some edges →
    ∃ edges', r'.edges_missing_in_code = some edges' ∧ ∀ edge ∈ edges, edge ∈ edges'

/-- What is declared in the files that were read, where it differs from the catalogue, is not
written over by what all the files declare. -/
structure NotWrittenOver (db : Db) (system_id tenant_id : ℕ)
    (edge_source : Option DependencySource) (read all : DeclaredState) : Prop where
  new : ∀ name sub, last_sub read name = some sub → row_of db system_id tenant_id name = none →
    last_sub all name = some sub
  component_type : ∀ name sub sub' row, last_sub read name = some sub →
    last_sub all name = some sub' → row_of db system_id tenant_id name = some row →
      row.component_type ≠ sub.component_type →
        sub'.component_type = sub.component_type ∧ sub'.source_path = sub.source_path
  technology : ∀ name sub sub' row, last_sub read name = some sub →
    last_sub all name = some sub' → row_of db system_id tenant_id name = some row →
      or_none row.technology ≠ or_none sub.technology →
        sub'.technology = sub.technology ∧ sub'.source_path = sub.source_path
  new_edge : edge_source ≠ none → ∀ key edge, last_edge read key = some edge →
    edge_row db system_id tenant_id key = none → last_edge all key = some edge
  port : ∀ key edge edge' row, last_edge read key = some edge → last_edge all key = some edge' →
    edge_row db system_id tenant_id key = some row → edge_source = some row.source →
      row.port ≠ edge.port → edge'.port = edge.port ∧ edge'.source_path = edge.source_path

section

variable {db : Db} {system_id tenant_id : ℕ} {source : SubSystemSource}
  {edge_source : Option DependencySource} {read all : DeclaredState} {absence_computed : Bool}
  {absence_reason absence_reason' : Option String}

def type_change (name : String) (row : SubSystem) (sub : DeclaredSubsystem) : ChangedSubsystem where
  name := name
  field := "component_type"
  catalogue := some row.component_type
  declared := some sub.component_type
  source_path := sub.source_path

def technology_change (name : String) (row : SubSystem) (sub : DeclaredSubsystem) :
    ChangedSubsystem where
  name := name
  field := "technology"
  catalogue := row.technology
  declared := sub.technology
  source_path := sub.source_path

theorem mem_changed_fields {row : SubSystem} : c ∈ changed_fields name row sub ↔
      (row.component_type ≠ sub.component_type ∧ c = type_change name row sub) ∨
        (or_none row.technology ≠ or_none sub.technology ∧ c = technology_change name row sub) := by
  rw [changed_fields, List.mem_append]
  by_cases htype : row.component_type = sub.component_type <;>
    by_cases htech : or_none row.technology = or_none sub.technology <;>
    simp [htype, htech, type_change, technology_change]

theorem last_sub_of_subset (h : read.subsystems ⊆ all.subsystems)
    (hsub : last_sub read name = some sub) :
    ∃ sub', last_sub all name = some sub' := by
  obtain ⟨hmem, hname⟩ := Index.get_collect_some hsub
  exact Index.mem_keys.1 (Index.mem_keys_collect.2 ⟨sub, h hmem, hname⟩)

theorem last_edge_of_subset (h : read.subsystems ⊆ all.subsystems) (hedges : read.edges ⊆ all.edges)
    {key : String × String} {edge : DeclaredEdge} (hedge : last_edge read key = some edge) :
    ∃ edge', last_edge all key = some edge' := by
  obtain ⟨hmem, hkey⟩ := Index.get_collect_some hedge
  obtain ⟨hne, hfrom, hto, hends⟩ := edge_key_eq_some.1 hkey
  have hkeys : ∀ name, name ∈ (declared_by_name read.subsystems).keys →
      name ∈ (declared_by_name all.subsystems).keys := by
    intro name hname
    obtain ⟨sub, hsub⟩ := Index.mem_keys.1 hname
    exact Index.mem_keys.2 (last_sub_of_subset h hsub)
  refine Index.mem_keys.1 (Index.mem_keys_collect.2 ⟨edge, hedges hmem, ?_⟩)
  exact edge_key_eq_some.2 ⟨hne, hkeys _ hfrom, hkeys _ hto, hends⟩

/-- A finding that is in the full report too rests on nothing that is written over. -/
theorem notWrittenOver_of_within
    (h : (diff db system_id tenant_id source edge_source read absence_computed
        absence_reason).Within
      (diff db system_id tenant_id source edge_source all true absence_reason')) :
    NotWrittenOver db system_id tenant_id edge_source read all := by
  constructor
  case new =>
    intro name sub hsub hrow
    obtain rfl := last_sub_name hsub
    exact (mem_subsystems_missing_in_catalogue.1 (h.subsystems_missing_in_catalogue sub
      (mem_subsystems_missing_in_catalogue.2 ⟨hsub, hrow⟩))).1
  case component_type =>
    intro name sub sub' row hsub hsub' hrow hne
    have hmem := h.subsystems_changed (type_change name row sub)
      (mem_subsystems_changed.2 ⟨name, sub, row, hsub, hrow,
        mem_changed_fields.2 (Or.inl ⟨hne, rfl⟩)⟩)
    obtain ⟨name', sub'', row', hsub'', -, hc⟩ := mem_subsystems_changed.1 hmem
    rcases mem_changed_fields.1 hc with ⟨-, heq⟩ | ⟨-, heq⟩
    · simp only [type_change, ChangedSubsystem.mk.injEq, Option.some.injEq] at heq
      obtain ⟨rfl, -, -, htype, hpath⟩ := heq
      obtain rfl := Option.some.inj (hsub'.symm.trans hsub'')
      exact ⟨htype.symm, hpath.symm⟩
    · simp [type_change, technology_change] at heq
  case technology =>
    intro name sub sub' row hsub hsub' hrow hne
    have hmem := h.subsystems_changed (technology_change name row sub)
      (mem_subsystems_changed.2 ⟨name, sub, row, hsub, hrow,
        mem_changed_fields.2 (Or.inr ⟨hne, rfl⟩)⟩)
    obtain ⟨name', sub'', row', hsub'', -, hc⟩ := mem_subsystems_changed.1 hmem
    rcases mem_changed_fields.1 hc with ⟨-, heq⟩ | ⟨-, heq⟩
    · simp [type_change, technology_change] at heq
    · simp only [technology_change, ChangedSubsystem.mk.injEq] at heq
      obtain ⟨rfl, -, -, htech, hpath⟩ := heq
      obtain rfl := Option.some.inj (hsub'.symm.trans hsub'')
      exact ⟨htech.symm, hpath.symm⟩
  case new_edge =>
    intro hes key edge hedge hrow
    obtain ⟨-, key', hedge', -⟩ := mem_edges_missing_in_catalogue.1
      (h.edges_missing_in_catalogue edge
        (mem_edges_missing_in_catalogue.2 ⟨hes, key, hedge, hrow⟩))
    rwa [← last_edge_key hedge, last_edge_key hedge']
  case port =>
    intro key edge edge' row hedge hedge' hrow hsource hne
    obtain ⟨key', edge'', row', hedge'', -, -, -, heq⟩ := mem_edges_changed.1
      (h.edges_changed (changed_edge key row edge)
        (mem_edges_changed.2 ⟨key, edge, row, hedge, hrow, hsource, hne, rfl⟩))
    simp only [changed_edge, ChangedEdge.mk.injEq] at heq
    obtain ⟨hfrom, hto, -, hport, hpath⟩ := heq
    obtain rfl : key = key' := Prod.ext hfrom hto
    obtain rfl := Option.some.inj (hedge'.symm.trans hedge'')
    exact ⟨hport.symm, hpath.symm⟩

/-- What has changed by one declaration has changed by the one that stands for it. -/
theorem NotWrittenOver.subsystems_changed
    (h : NotWrittenOver db system_id tenant_id edge_source read all)
    (hsubs : read.subsystems ⊆ all.subsystems)
    (hc : c ∈ (diff db system_id tenant_id source edge_source read absence_computed
      absence_reason).subsystems_changed) :
    c ∈ (diff db system_id tenant_id source edge_source all true
      absence_reason').subsystems_changed := by
  obtain ⟨name, sub, row, hsub, hrow, hc⟩ := mem_subsystems_changed.1 hc
  obtain ⟨sub', hsub'⟩ := last_sub_of_subset hsubs hsub
  refine mem_subsystems_changed.2 ⟨name, sub', row, hsub', hrow, mem_changed_fields.2 ?_⟩
  rcases mem_changed_fields.1 hc with ⟨hne, rfl⟩ | ⟨hne, rfl⟩
  · obtain ⟨htype, hpath⟩ := h.component_type name sub sub' row hsub hsub' hrow hne
    exact Or.inl ⟨by rwa [htype], by rw [type_change, type_change, htype, hpath]⟩
  · obtain ⟨htech, hpath⟩ := h.technology name sub sub' row hsub hsub' hrow hne
    exact Or.inr ⟨by rwa [htech], by rw [technology_change, technology_change, htech, hpath]⟩

theorem NotWrittenOver.edges_changed
    (h : NotWrittenOver db system_id tenant_id edge_source read all)
    (hsubs : read.subsystems ⊆ all.subsystems) (hedges : read.edges ⊆ all.edges) {c : ChangedEdge}
    (hc : c ∈ (diff db system_id tenant_id source edge_source read absence_computed
      absence_reason).edges_changed) :
    c ∈ (diff db system_id tenant_id source edge_source all true
      absence_reason').edges_changed := by
  obtain ⟨key, edge, row, hedge, hrow, hsource, hne, rfl⟩ := mem_edges_changed.1 hc
  obtain ⟨edge', hedge'⟩ := last_edge_of_subset hsubs hedges hedge
  obtain ⟨hport, hpath⟩ := h.port key edge edge' row hedge hedge' hrow hsource hne
  refine mem_edges_changed.2 ⟨key, edge', row, hedge', hrow, hsource, by rwa [hport], ?_⟩
  rw [changed_edge, changed_edge, hport, hpath]

theorem NotWrittenOver.within (h : NotWrittenOver db system_id tenant_id edge_source read all)
    (hsubs : read.subsystems ⊆ all.subsystems) (hedges : read.edges ⊆ all.edges)
    (hfull : absence_computed = true → read = all) :
    (diff db system_id tenant_id source edge_source read absence_computed absence_reason).Within
      (diff db system_id tenant_id source edge_source all true absence_reason') := by
  constructor
  case subsystems_missing_in_catalogue =>
    intro sub hsub
    obtain ⟨hlast, hrow⟩ := mem_subsystems_missing_in_catalogue.1 hsub
    exact mem_subsystems_missing_in_catalogue.2 ⟨h.new _ sub hlast hrow, hrow⟩
  case subsystems_changed => exact fun c hc => h.subsystems_changed hsubs hc
  case subsystems_missing_in_code =>
    -- absence is computed of a read in full only
    intro names hnames
    cases absence_computed with
    | false => cases hnames
    | true =>
      rw [hfull rfl] at hnames
      exact ⟨names, hnames, fun _ hmem => hmem⟩
  case edges_missing_in_catalogue =>
    intro edge hedge
    obtain ⟨hes, key, hlast, hrow⟩ := mem_edges_missing_in_catalogue.1 hedge
    exact mem_edges_missing_in_catalogue.2 ⟨hes, key, h.new_edge hes key edge hlast hrow, hrow⟩
  case edges_changed => exact fun c hc => h.edges_changed hsubs hedges hc
  case edges_missing_in_code =>
    intro edges hmissing
    cases absence_computed with
    | false =>
      cases edge_source with
      | none => cases hmissing
      | some es => cases hmissing
    | true =>
      rw [hfull rfl] at hmissing
      exact ⟨edges, hmissing, fun _ hmem => hmem⟩

/-- The two reports on one detector, the second of them on all of its files. -/
theorem within_iff (hsubs : read.subsystems ⊆ all.subsystems) (hedges : read.edges ⊆ all.edges)
    (hfull : absence_computed = true → read = all) :
    (diff db system_id tenant_id source edge_source read absence_computed absence_reason).Within
        (diff db system_id tenant_id source edge_source all true absence_reason') ↔
      NotWrittenOver db system_id tenant_id edge_source read all :=
  ⟨notWrittenOver_of_within, fun h => h.within hsubs hedges hfull⟩

end

/-! ## Reading in part -/

/-- `part` sees no more of a repository than `full` does: it may be given a part of the tree,
if it is told so, and a file that a detector claims comes out as it does for `full`, or cannot
be fetched or parsed. -/
structure PartialRead (registry : Registry) (full part : GitHubClient) : Prop where
  branch : part.get_default_branch = full.get_default_branch
  tree : ∀ ref tree tree', full.get_tree ref = .ok tree → part.get_tree ref = .ok tree' →
    tree' = tree ∨ (tree'.truncated = true ∧ tree'.paths ⊆ tree.paths)
  file : ∀ d ∈ registry.detectors, ∀ ref path, d.matches_path path = true →
    d.reads part ref path = d.reads full ref path ∨ ∃ text, d.reads part ref path = .error text

/-- What the detector declares, in the files that the client and the limit let it read. -/
def Detector.declared_in (d : Detector) (registry : Registry) (max_scan_files : ℕ)
    (client : GitHubClient) : DeclaredState :=
  match client.get_default_branch with
  | .error _ => DeclaredState.empty
  | .ok ref =>
    match client.get_tree ref with
    | .error _ => DeclaredState.empty
    | .ok tree => d.declares client ref ((claimed registry tree.paths).take max_scan_files)

theorem absence_true {truncated stopped_early : Bool}
    (h : (absence_is_computable walk truncated stopped_early).1 = true) :
    truncated = false ∧ stopped_early = false ∧ walk.paths_unread = 0 ∧ walk.errors = [] := by
  unfold absence_is_computable at h
  split_ifs at h with htruncated hstopped hunread herrors
  rw [Bool.not_eq_true] at htruncated hstopped
  rw [not_not] at hunread herrors
  exact ⟨htruncated, hstopped, hunread, herrors⟩

section

variable {registry : Registry} {full part : GitHubClient} {d : Detector} {ref : String}

/-- What a file adds in the partial read, it adds in the full one. -/
theorem PartialRead.adds (h : PartialRead registry full part) (hd : d ∈ registry.detectors)
    (ref : String) {path : String} (hmatch : d.matches_path path = true) :
    d.adds part ref path = d.adds full ref path ∨ d.adds part ref path = DeclaredState.empty := by
  rw [Detector.adds, Detector.adds]
  rcases h.file d hd ref path hmatch with hsame | ⟨text, herror⟩
  · rw [hsame]
    exact Or.inl rfl
  · rw [herror]
    exact Or.inr rfl

theorem PartialRead.declares_subset (h : PartialRead registry full part)
    (hd : d ∈ registry.detectors) (ref : String) {read all : List String} (hsub : read ⊆ all) :
    (d.declares part ref read).subsystems ⊆ (d.declares full ref all).subsystems ∧
      (d.declares part ref read).edges ⊆ (d.declares full ref all).edges := by
  constructor
  · intro sub hmem
    obtain ⟨path, hpath, hmatch, hadds⟩ := mem_declares_subsystems.1 hmem
    rcases h.adds hd ref hmatch with hsame | hempty
    · rw [hsame] at hadds
      exact mem_declares_subsystems.2 ⟨path, hsub hpath, hmatch, hadds⟩
    · rw [hempty] at hadds
      cases hadds
  · intro edge hmem
    obtain ⟨path, hpath, hmatch, hadds⟩ := mem_declares_edges.1 hmem
    rcases h.adds hd ref hmatch with hsame | hempty
    · rw [hsame] at hadds
      exact mem_declares_edges.2 ⟨path, hsub hpath, hmatch, hadds⟩
    · rw [hempty] at hadds
      cases hadds

/-- A detector whose files came out without an error has read them as they are. -/
theorem PartialRead.declares_eq (h : PartialRead registry full part) (hd : d ∈ registry.detectors)
    (hok : ∀ path ∈ paths, d.matches_path path = true →
      ∃ declared, d.reads part ref path = .ok declared) :
    d.declares part ref paths = d.declares full ref paths := by
  refine declares_congr ?_
  intro path hpath hmatch
  rcases h.file d hd ref path hmatch with hsame | ⟨text, herror⟩
  · exact hsame
  · obtain ⟨declared, hread⟩ := hok path hpath hmatch
    rw [herror] at hread
    cases hread

theorem claimed_subset {paths' : List String} (h : paths' ⊆ paths) :
    claimed registry paths' ⊆ claimed registry paths := by
  intro path hpath
  obtain ⟨hmem, hany⟩ := List.mem_filter.1 hpath
  exact List.mem_filter.2 ⟨h hmem, hany⟩

end

/-! ## The two reports -/

/-- What a drift report has of one detector. -/
structure Drifted (system_id tenant_id : ℕ) (registry : Registry) (max_scan_files : ℕ)
    (client : GitHubClient) (db : Db) (drift : RepositoryDrift) (ref : String)
    (tree : TreeResult) : Prop where
  branch : client.get_default_branch = .ok ref
  listing : client.get_tree ref = .ok tree
  truncated : drift.truncated = tree.truncated
  stopped_early : drift.stopped_early =
    decide ((claimed registry tree.paths).length > max_scan_files)
  detectors : ∃ walk : Detector → DetectorWalk,
    (∀ d, Walked client ref ((claimed registry tree.paths).take max_scan_files)
      ((claimed registry tree.paths).drop max_scan_files) d (walk d)) ∧
    drift.detectors = registry.detectors.map fun d =>
      (walk d).drift system_id tenant_id db drift.truncated drift.stopped_early

section

variable {system_id tenant_id : ℕ} {registry : Registry} {max_scan_files : ℕ}
  {client : GitHubClient} {db : Db} {drift : RepositoryDrift}

theorem drift_repository_ok
    (h : drift_repository system_id tenant_id registry max_scan_files client db = .ok drift) :
    ∃ ref tree, Drifted system_id tenant_id registry max_scan_files client db drift ref tree := by
  simp only [drift_repository, bind_eq_ok, Except.ok.injEq] at h
  obtain ⟨result, hwalk, rfl⟩ := h
  obtain ⟨ref, tree, hbranch, htree, htruncated, hstopped, hwalks⟩ := walk_repository_ok hwalk
  refine ⟨ref, tree, hbranch, htree, htruncated, hstopped, _, fun d => walked_run _ _ _ _ d, ?_⟩
  rw [hwalks, List.map_map]
  rfl

theorem Drifted.declared_in {ref : String}
    (h : Drifted system_id tenant_id registry max_scan_files client db drift ref tree)
    (d : Detector) : d.declared_in registry max_scan_files client =
      d.declares client ref ((claimed registry tree.paths).take max_scan_files) := by
  rw [Detector.declared_in, h.branch]
  dsimp only
  rw [h.listing]

/-- A read that did not stop early had room for every claimed file. -/
theorem Drifted.length_le {ref : String}
    (h : Drifted system_id tenant_id registry max_scan_files client db drift ref tree)
    (hstopped : drift.stopped_early = false) :
    (claimed registry tree.paths).length ≤ max_scan_files := by
  have hlt := h.stopped_early
  rw [hstopped] at hlt
  exact Nat.le_of_not_lt (of_decide_eq_false hlt.symm)

end

section

variable {system_id tenant_id : ℕ} {registry : Registry} {max_full max_part : ℕ}
  {full part : GitHubClient} {db : Db} {whole rest : RepositoryDrift}

/-- Where absence is computed, the partial read has seen all that the full one has. -/
theorem PartialRead.declared_in_eq {ref : String} {d : Detector}
    (hpart : PartialRead registry full part)
    (hw : Drifted system_id tenant_id registry max_full full db whole ref tree)
    (hr : Drifted system_id tenant_id registry max_part part db rest ref tree')
    (hd : d ∈ registry.detectors) (hlength : (claimed registry tree.paths).length ≤ max_full)
    (hwalk : Walked part ref ((claimed registry tree'.paths).take max_part)
      ((claimed registry tree'.paths).drop max_part) d walk)
    (habsence : (absence_is_computable walk rest.truncated rest.stopped_early).1 = true) :
    d.declared_in registry max_part part = d.declared_in registry max_full full := by
  obtain ⟨htruncated, hstopped, -, herrors⟩ := absence_true habsence
  rw [hr.truncated] at htruncated
  obtain rfl : tree' = tree := by
    rcases hpart.tree ref tree tree' hw.listing hr.listing with heq | ⟨htrue, -⟩
    · exact heq
    · rw [htruncated] at htrue
      cases htrue
  have hlength' := hr.length_le hstopped
  have hok := hwalk.errors.1 herrors
  rw [List.take_of_length_le hlength'] at hok
  rw [hr.declared_in, hw.declared_in, List.take_of_length_le hlength,
    List.take_of_length_le hlength']
  exact hpart.declares_eq hd hok

/-- What one detector reports, read in part and in full. -/
theorem PartialRead.within_iff_of_walked {ref : String} {d : Detector} {walk' : DetectorWalk}
    (hpart : PartialRead registry full part)
    (hw : Drifted system_id tenant_id registry max_full full db whole ref tree)
    (hr : Drifted system_id tenant_id registry max_part part db rest ref tree')
    (hd : d ∈ registry.detectors) (hlength : (claimed registry tree.paths).length ≤ max_full)
    (hwalk : Walked full ref (claimed registry tree.paths) [] d walk)
    (hwalk' : Walked part ref ((claimed registry tree'.paths).take max_part)
      ((claimed registry tree'.paths).drop max_part) d walk') (htruncated : whole.truncated = false)
    (hstopped : whole.stopped_early = false) (herrors : walk.errors = []) :
    (walk'.drift system_id tenant_id db rest.truncated rest.stopped_early).report.Within
        (walk.drift system_id tenant_id db whole.truncated whole.stopped_early).report ↔
      NotWrittenOver db system_id tenant_id d.edge_source
        (d.declared_in registry max_part part) (d.declared_in registry max_full full) := by
  have hfinished : absence_is_computable walk whole.truncated whole.stopped_early =
      (true, none) := by
    rw [htruncated, hstopped, absence_of_full (hwalk.unread.2 (by simp)) herrors]
  have hsubset : (claimed registry tree'.paths).take max_part ⊆ claimed registry tree.paths := by
    refine List.Subset.trans (List.take_subset _ _) (claimed_subset ?_)
    rcases hpart.tree ref tree tree' hw.listing hr.listing with rfl | ⟨-, hsub⟩
    · exact List.Subset.refl _
    · exact hsub
  have hcomplete := hpart.declared_in_eq hw hr hd hlength hwalk'
  obtain ⟨hsubs, hedges⟩ := hpart.declares_subset hd ref hsubset
  have hmine := hwalk'.declared
  have hall := hwalk.declared
  have hin : d.declared_in registry max_full full =
      d.declares full ref (claimed registry tree.paths) := by
    rw [hw.declared_in, List.take_of_length_le hlength]
  rw [← hr.declared_in] at hsubs hedges hmine
  rw [← hin] at hsubs hedges hall
  rw [DetectorWalk.drift, DetectorWalk.drift, hfinished, hmine, hall, hwalk'.detector,
    hwalk.detector]
  exact within_iff hsubs hedges hcomplete

/-- **A partial read invents no drift exactly if nothing that differs from the catalogue is
written over** by a file that was not read. -/
theorem partial_within_iff (hpart : PartialRead registry full part)
    (hwhole : drift_repository system_id tenant_id registry max_full full db = .ok whole)
    (hread : whole.truncated = false ∧ whole.stopped_early = false ∧
      ∀ out ∈ whole.detectors, out.errors = [])
    (hrest : drift_repository system_id tenant_id registry max_part part db = .ok rest) :
    (∀ out ∈ rest.detectors, ∀ out' ∈ whole.detectors, out.detector = out'.detector →
        out.report.Within out'.report) ↔
      ∀ d ∈ registry.detectors, NotWrittenOver db system_id tenant_id d.edge_source
        (d.declared_in registry max_part part) (d.declared_in registry max_full full) := by
  obtain ⟨ref, tree, hw⟩ := drift_repository_ok hwhole
  obtain ⟨ref', tree', hr⟩ := drift_repository_ok hrest
  obtain ⟨htruncated, hstopped, herrors⟩ := hread
  obtain rfl : ref' = ref :=
    Except.ok.inj (hr.branch.symm.trans (hpart.branch.trans hw.branch))
  have hlength := hw.length_le hstopped
  obtain ⟨walk, hwalk, hdetectors⟩ := hw.detectors
  obtain ⟨walk', hwalk', hdetectors'⟩ := hr.detectors
  rw [List.take_of_length_le hlength, List.drop_of_length_le hlength] at hwalk
  -- one detector at a time
  have hone : ∀ d ∈ registry.detectors,
      ((walk' d).drift system_id tenant_id db rest.truncated rest.stopped_early).report.Within
          ((walk d).drift system_id tenant_id db whole.truncated whole.stopped_early).report ↔
        NotWrittenOver db system_id tenant_id d.edge_source
          (d.declared_in registry max_part part) (d.declared_in registry max_full full) := by
    intro d hd
    have hmem : (walk d).drift system_id tenant_id db whole.truncated whole.stopped_early ∈
        whole.detectors := by
      rw [hdetectors]
      exact List.mem_map_of_mem hd
    exact hpart.within_iff_of_walked hw hr hd hlength (hwalk d) (hwalk' d) htruncated hstopped
      (herrors _ hmem)
  constructor
  · intro h d hd
    refine (hone d hd).1 (h _ ?_ _ ?_ ?_)
    · rw [hdetectors']
      exact List.mem_map_of_mem hd
    · rw [hdetectors]
      exact List.mem_map_of_mem hd
    · rw [DetectorWalk.drift, DetectorWalk.drift, (hwalk' d).detector, (hwalk d).detector]
  · intro h out hout out' hout' hname
    rw [hdetectors'] at hout
    rw [hdetectors] at hout'
    obtain ⟨d, hd, rfl⟩ := List.mem_map.1 hout
    obtain ⟨d', hd', rfl⟩ := List.mem_map.1 hout'
    rw [DetectorWalk.drift, DetectorWalk.drift, (hwalk' d).detector, (hwalk d').detector] at hname
    obtain rfl := List.inj_on_of_nodup_map registry.names_nodup hd hd' hname
    exact (hone d hd).2 (h d hd)

end

/-! ## A base file and the one that is deployed -/

namespace Overridden

def docker_compose : Detector where
  name := "docker_compose"
  matches_path path := path = "docker-compose.yml" ∨ path = "prod/docker-compose.yml"
  parse _ path :=
    if path = "docker-compose.yml" then .ok ⟨[⟨"api", "web_service", some "node", path⟩], [], []⟩
    else .ok ⟨[⟨"api", "api_gateway", some "nginx", path⟩], [], []⟩
  subsystem_source := .DOCKER_COMPOSE
  edge_source := some .DOCKER_COMPOSE

def registry : Registry := ⟨[docker_compose], by decide⟩

def client (get_blob : String → String → Except GitHubError ByteArray) : GitHubClient where
  get_default_branch := .ok "main"
  get_tree _ := .ok ⟨["docker-compose.yml", "prod/docker-compose.yml"], false⟩
  get_blob := get_blob

def full : GitHubClient := client fun _ _ => .ok ByteArray.empty

/-- The second file cannot be fetched. -/
def part : GitHubClient := client fun path _ =>
  if path = "prod/docker-compose.yml" then .error (.unavailable "GitHub returned 502")
  else .ok ByteArray.empty

theorem partialRead : PartialRead registry full part where
  branch := rfl
  tree := by
    rintro ref tree tree' ⟨⟩ ⟨⟩
    exact Or.inl rfl
  file := by
    intro d _ ref path _
    unfold Detector.reads part client
    by_cases hpath : path = "prod/docker-compose.yml"
    · exact Or.inr ⟨"GitHub returned 502", by simp [hpath, GitHubError.text]⟩
    · exact Or.inl (by simp [hpath, full, client])

/-- The catalogue after a scan of both files. -/
def scanned : Except GitHubError (Db × ScanReport) :=
  scan_repository Shared.first_line 1 1 registry 200 full Db.fresh

end Overridden

/-- Where nothing is in the catalogue yet, and the second file is not read. -/
theorem overridden_iff : ∃ whole rest,
    drift_repository 1 1 Overridden.registry 200 Overridden.full Db.fresh = .ok whole ∧
    drift_repository 1 1 Overridden.registry 200 Overridden.part Db.fresh = .ok rest ∧
    ((∀ out ∈ rest.detectors, ∀ out' ∈ whole.detectors, out.detector = out'.detector →
        out.report.Within out'.report) ↔
      ∀ d ∈ Overridden.registry.detectors, NotWrittenOver Db.fresh 1 1 d.edge_source
        (d.declared_in Overridden.registry 200 Overridden.part)
        (d.declared_in Overridden.registry 200 Overridden.full)) := by
  have hwhole : drift_repository 1 1 Overridden.registry 200 Overridden.full Db.fresh = .ok _ := rfl
  have hrest : drift_repository 1 1 Overridden.registry 200 Overridden.part Db.fresh = .ok _ := rfl
  exact ⟨_, _, hwhole, hrest,
    partial_within_iff Overridden.partialRead hwhole ⟨rfl, rfl, by decide⟩ hrest⟩

/-- Right after a scan the full report is empty, and the one without the second file says that
the subsystem has changed. -/
theorem unread_file_invents_drift : ∃ db scan whole rest, Overridden.scanned = .ok (db, scan) ∧
    drift_repository 1 1 Overridden.registry 200 Overridden.full db = .ok whole ∧
    (whole.truncated = false ∧ whole.stopped_early = false ∧
      ∀ out ∈ whole.detectors, out.errors = []) ∧
    drift_repository 1 1 Overridden.registry 200 Overridden.part db = .ok rest ∧
    PartialRead Overridden.registry Overridden.full Overridden.part ∧
    whole.detectors.map (·.report.subsystems_changed) = [[]] ∧
    rest.detectors.map (·.report.subsystems_changed) =
      [[⟨"api", "component_type", some "api_gateway", some "web_service", "docker-compose.yml"⟩,
        ⟨"api", "technology", some "nginx", some "node", "docker-compose.yml"⟩]] :=
  ⟨_, _, _, _, rfl, rfl, ⟨rfl, rfl, by decide⟩, rfl, Overridden.partialRead, by decide, by decide⟩

end EnvMgr.Scanning

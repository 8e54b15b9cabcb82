/-
A scan and the drift report agree.

`Scanned` is everything a scan that went through has done, in terms of the
catalogue before and after; the loop variables are gone from it. That the report
is empty afterwards, that a second scan changes nothing and that the report
foretells a scan are read off it.
-/
import EnvMgr.Scanning.Edges

namespace EnvMgr.Scanning

variable {db db' : Db} {result : ApplyResult} {st : Applying} {es : DependencySource}
variable {key : String × String} {row : SubSystem} {sub : DeclaredSubsystem} {e : Refused}
variable {subs : List DeclaredSubsystem}

section

variable {system_id tenant_id : ℕ} {source : SubSystemSource}
  {edge_source : Option DependencySource} {declared : DeclaredState}

/-! ## What a scan has done -/

/-- The attributes the importer gives every edge. -/
def ComponentDependency.AsImported (d : ComponentDependency) : Prop :=
  d.dependency_type = .API_CALL ∧ d.direction = .ONE_WAY ∧ d.protocol = none ∧ d.label = none
  deriving Decidable

structure Scanned (system_id tenant_id : ℕ) (source : SubSystemSource)
    (edge_source : Option DependencySource) (declared : DeclaredState) (db db' : Db) : Prop where
  listed : ∀ name, name ∈ (catalogue db' system_id tenant_id).keys ↔
    name ∈ (catalogue db system_id tenant_id).keys ∨
      name ∈ (declared_by_name declared.subsystems).keys
  stamped : ∀ name sub, (declared_by_name declared.subsystems).get name = some sub →
    ∃ row, (catalogue db' system_id tenant_id).get name = some row ∧ Stamped source sub row
  others : ∀ d, ¬ Owned db' system_id tenant_id edge_source d →
    (d ∈ db'.dependencies ↔ d ∈ db.dependencies)
  written : ∀ key edge, (declared_edges declared).get key = some edge →
    ∃ d ∈ db'.dependencies, Owned db' system_id tenant_id edge_source d ∧
      listed_pair db' system_id tenant_id key = some (d.from_subsystem_id, d.to_subsystem_id) ∧
      d.port = edge.port ∧ d.AsImported
  only : ∀ d ∈ db'.dependencies, Owned db' system_id tenant_id edge_source d →
    ∃ key edge, (declared_edges declared).get key = some edge ∧
      listed_pair db' system_id tenant_id key = some (d.from_subsystem_id, d.to_subsystem_id) ∧
      d.port = edge.port
  undocumented : ∀ d ∈ db'.dependencies, Owned db' system_id tenant_id edge_source d →
    ∀ e ∈ db'.endpoints, e.dependency_id ≠ d.id
  endpoints : ∀ e, e ∈ db'.endpoints ↔ e ∈ db.endpoints ∧
    ¬ ∃ d ∈ db.dependencies, d.id = e.dependency_id ∧
      Owned db' system_id tenant_id edge_source d

theorem listed_id_congr (h : db'.subsystems = db.subsystems) :
    listed_id db' system_id tenant_id = listed_id db system_id tenant_id := by
  funext name
  simp only [listed_id, catalogue, h]

theorem catalogue_congr (h : db'.subsystems = db.subsystems) :
    catalogue db' system_id tenant_id = catalogue db system_id tenant_id := by
  simp only [catalogue, h]

theorem listed_pair_congr (h : db'.subsystems = db.subsystems) :
    listed_pair db' system_id tenant_id = listed_pair db system_id tenant_id := by
  funext key
  simp only [listed_pair, listed_id_congr h]

theorem owned_congr (h : db'.subsystems = db.subsystems) :
    Owned db' system_id tenant_id edge_source = Owned db system_id tenant_id edge_source := by
  funext d
  simp only [Owned, listed_id_congr h]

/-- A scan is the loop over the subsystems and, where the source has edges, the edge half. -/
theorem apply_eq_ok :
    apply system_id tenant_id source db edge_source declared = .ok (db', result) ↔
      ∃ st, declared.subsystems.foldlM (apply_subsystem system_id tenant_id source)
          { db := db
            existing := catalogue db system_id tenant_id
            declared_ids := Index.empty
            result := ⟨0, 0, 0⟩ } = .ok st ∧
        match edge_source with
        | none => declared.edges = [] ∧ st.db = db' ∧ st.result = result
        | some es => apply_edges tenant_id st es declared.edges = .ok (db', result) := by
  unfold apply
  rw [bind_eq_ok]
  refine exists_congr fun st => and_congr_right fun _ => ?_
  cases edge_source with
  | some es => exact Iff.rfl
  | none =>
    by_cases hedges : declared.edges = []
    · simp [hedges]
    · simp [hedges]

/-- A write that went through is its loop over the subsystems, as far as they go. -/
theorem apply_written
    (h : apply system_id tenant_id source db edge_source declared = .ok (db', result)) :
    ∃ st, declared.subsystems.foldlM (apply_subsystem system_id tenant_id source)
        { db := db
          existing := catalogue db system_id tenant_id
          declared_ids := Index.empty
          result := ⟨0, 0, 0⟩ } = .ok st ∧
      Written system_id tenant_id source db declared.subsystems st ∧
      db'.subsystems = st.db.subsystems ∧
      result.subsystems_created = st.result.subsystems_created := by
  obtain ⟨st, hloop, hrest⟩ := apply_eq_ok.1 h
  have hwritten : Written system_id tenant_id source db declared.subsystems st :=
    (Written.start db).run hloop
  refine ⟨st, hloop, hwritten, ?_⟩
  cases edge_source with
  | none =>
    obtain ⟨-, rfl, rfl⟩ := hrest
    exact ⟨rfl, rfl⟩
  | some es =>
    obtain ⟨hsubs, -, -, hcreated⟩ := apply_edges_ok hwritten hrest
    exact ⟨hsubs, hcreated⟩

theorem declared_edges_nil (h : declared.edges = []) (key : String × String) :
    (declared_edges declared).get key = none := by
  rw [declared_edges, h]
  rfl

theorem scanned_no_edges (hedges : declared.edges = [])
    (h : Written system_id tenant_id source db declared.subsystems st) :
    Scanned system_id tenant_id source none declared db st.db where
  listed := h.listed
  stamped := h.stamped
  others d _ := by rw [h.dependencies]
  written key edge hedge := by
    rw [declared_edges_nil hedges] at hedge
    cases hedge
  only d _ howned := nomatch howned.2.2
  undocumented d _ howned := nomatch howned.2.2
  endpoints e := by
    rw [h.endpoints]
    refine (and_iff_left ?_).symm
    rintro ⟨d, -, -, howned⟩
    cases howned.2.2

/-- A row that a scan inserts starts at a declared subsystem, so the source owns it. -/
theorem inserted_owned (h : Written system_id tenant_id source db declared.subsystems st)
    {item : (ℕ × ℕ) × DeclaredEdge}
    (hitem : item ∈ (resolved_edges st.declared_ids declared.edges).items) (n : ℕ) :
    Owned st.db system_id tenant_id (some es) ((new_dependency tenant_id es item).row n) := by
  obtain ⟨key, hkey, -⟩ := (get_resolved_edges h).1 (Index.get_eq_some.2 hitem)
  exact ⟨rfl, ⟨key.1, (listed_pair_eq_some.1 hkey).1⟩, rfl⟩

/-- The rows a scan inserts, read off the list of edges it resolved. -/
theorem mem_written (h : Written system_id tenant_id source db declared.subsystems st)
    (hdeps : db'.dependencies = (st.db.dependencies.delete (st.owned tenant_id es)).insert_all
      ((resolved_edges st.declared_ids declared.edges).items.map (new_dependency tenant_id es)))
    {d : ComponentDependency} :
    d ∈ db'.dependencies ↔
      (d ∈ db.dependencies ∧ ¬ Owned st.db system_id tenant_id (some es) d) ∨
        ∃ i pair edge, (resolved_edges st.declared_ids declared.edges).items[i]? = some (pair, edge) ∧
          d = (new_dependency tenant_id es (pair, edge)).row (st.db.dependencies.next + i) := by
  rw [hdeps, Table.mem_insert_all, Table.mem_delete, ← owned_iff h, Bool.not_eq_true,
    h.dependencies]
  refine or_congr Iff.rfl ⟨?_, ?_⟩
  · rintro ⟨i, new, hnew, rfl⟩
    rw [List.getElem?_map, Option.map_eq_some_iff] at hnew
    obtain ⟨⟨pair, edge⟩, hitem, rfl⟩ := hnew
    exact ⟨i, pair, edge, hitem, rfl⟩
  · rintro ⟨i, pair, edge, hitem, rfl⟩
    exact ⟨i, _, by rw [List.getElem?_map, hitem, Option.map_some], rfl⟩

theorem scanned_edges (h : Written system_id tenant_id source db declared.subsystems st)
    (hsubs : db'.subsystems = st.db.subsystems)
    (hdeps : db'.dependencies = (st.db.dependencies.delete (st.owned tenant_id es)).insert_all
      ((resolved_edges st.declared_ids declared.edges).items.map (new_dependency tenant_id es)))
    (hends : db'.endpoints = (st.cleared tenant_id es).endpoints) :
    Scanned system_id tenant_id source (some es) declared db db' := by
  have hmem := fun d => mem_written (d := d) h hdeps
  have howned : Owned db' system_id tenant_id (some es) = Owned st.db system_id tenant_id (some es) :=
    owned_congr hsubs
  have hpair : listed_pair db' system_id tenant_id = listed_pair st.db system_id tenant_id :=
    listed_pair_congr hsubs
  -- the delete cascades to the endpoints of the rows it takes
  have hends_iff : ∀ e, e ∈ db'.endpoints ↔ e ∈ db.endpoints ∧
      ¬ ∃ d ∈ db.dependencies, d.id = e.dependency_id ∧
        Owned db' system_id tenant_id (some es) d := by
    intro e
    rw [hends, howned]
    refine Iff.trans Table.mem_delete ?_
    rw [h.endpoints, decide_eq_false_iff_not, h.dependencies]
    simp only [owned_iff h]
  constructor
  case listed =>
    intro name
    rw [catalogue_congr hsubs]
    exact h.listed name
  case stamped =>
    intro name sub hsub
    rw [catalogue_congr hsubs]
    exact h.stamped name sub hsub
  case others =>
    intro d hnot
    rw [howned] at hnot
    rw [hmem]
    constructor
    · rintro (⟨hd, -⟩ | ⟨i, pair, edge, hitem, rfl⟩)
      · exact hd
      · exact absurd (inserted_owned h (List.mem_of_getElem? hitem) _) hnot
    · intro hd
      exact Or.inl ⟨hd, hnot⟩
  case written =>
    intro key edge hedge
    obtain ⟨pair, hkey⟩ := declared_edge_listed h hedge
    have hitem := Index.get_eq_some.1 ((get_resolved_edges h).2 ⟨key, hkey, hedge⟩)
    obtain ⟨i, hi⟩ := List.mem_iff_getElem?.1 hitem
    refine ⟨_, (hmem _).2 (Or.inr ⟨i, pair, edge, hi, rfl⟩), ?_, ?_, rfl, rfl, rfl, rfl, rfl⟩
    · rw [howned]
      exact inserted_owned h hitem _
    · rw [hpair]
      exact hkey
  case only =>
    intro d hd hown
    rw [howned] at hown
    rcases (hmem d).1 hd with ⟨-, hnot⟩ | ⟨i, pair, edge, hitem, rfl⟩
    · exact absurd hown hnot
    · obtain ⟨key, hkey, hedge⟩ :=
        (get_resolved_edges h).1 (Index.get_eq_some.2 (List.mem_of_getElem? hitem))
      exact ⟨key, edge, hedge, by rw [hpair]; exact hkey, rfl⟩
  case undocumented =>
    intro d hd hown e he heq
    rw [howned] at hown
    rcases (hmem d).1 hd with ⟨-, hnot⟩ | ⟨i, pair, edge, hitem, rfl⟩
    · exact hnot hown
    · -- the endpoint hangs on an old row, and the new row's id lies above all of them
      obtain ⟨d₀, hd₀, hid⟩ := db.fk_dependency e ((hends_iff e).1 he).1
      have hlt := Table.key_lt_next hd₀
      rw [hid, heq, ← h.dependencies] at hlt
      exact absurd hlt (Nat.not_lt.2 (Nat.le_add_right _ _))
  case endpoints => exact hends_iff

theorem apply_scanned
    (h : apply system_id tenant_id source db edge_source declared = .ok (db', result)) :
    Scanned system_id tenant_id source edge_source declared db db' := by
  obtain ⟨st, hloop, hrest⟩ := apply_eq_ok.1 h
  have hwritten : Written system_id tenant_id source db declared.subsystems st :=
    (Written.start db).run hloop
  cases edge_source with
  | none =>
    obtain ⟨hedges, rfl, -⟩ := hrest
    exact scanned_no_edges hedges hwritten
  | some es =>
    obtain ⟨hsubs, hdeps, hends, -⟩ := apply_edges_ok hwritten hrest
    exact scanned_edges hwritten hsubs hdeps hends

/-! ## The report after a scan -/

theorem edge_drift_eq_none {row : ComponentDependency} {edge : DeclaredEdge}
    (hsource : row.source = es) (hport : row.port = edge.port) :
    edge_drift es (some row) key edge = none := by
  simp [edge_drift, hsource, hport]

/-- No edge the code declares differs from the catalogue's. -/
theorem Scanned.edge_drifts (h : Scanned system_id tenant_id source edge_source declared db db') :
    edge_drifts db' tenant_id edge_source declared (catalogue db' system_id tenant_id) = [] := by
  cases edge_source with
  | none => rfl
  | some es =>
    refine List.filterMap_eq_nil_iff.2 ?_
    rintro ⟨key, edge⟩ hitem
    obtain ⟨d, hd, howned, hkey, hport, -⟩ := h.written key edge (Index.get_eq_some.2 hitem)
    have hrow := get_catalogue_edges_by_pair.2 ⟨hd, howned.1, hkey⟩
    rw [hrow]
    exact edge_drift_eq_none (Option.some.inj howned.2.2).symm hport

theorem DependencySource.value_inj {a b : DependencySource} : a.value = b.value ↔ a = b := by
  cases a <;> cases b <;> decide

/-- Nor does the source own an edge the code does not declare. -/
theorem Scanned.edges_missing_in_code
    (h : Scanned system_id tenant_id source (some es) declared db db') :
    edges_missing_in_code db' tenant_id declared (catalogue db' system_id tenant_id) es = [] := by
  have hmissing : ∀ item ∈
      (catalogue_edges_by_pair db' tenant_id (catalogue db' system_id tenant_id)).items,
      item.2.source.value = es.value → item.1 ∈ (declared_edges declared).keys := by
    rintro ⟨key, d⟩ hitem hsource
    obtain ⟨hd, htenant, hkey⟩ := get_catalogue_edges_by_pair.1 (Index.get_eq_some.2 hitem)
    have howned : Owned db' system_id tenant_id (some es) d :=
      ⟨htenant, ⟨key.1, (listed_pair_eq_some.1 hkey).1⟩,
        congrArg some (DependencySource.value_inj.1 hsource).symm⟩
    obtain ⟨key', edge, hedge, hkey', -⟩ := h.only d hd howned
    rw [listed_pair_inj hkey hkey']
    exact Index.mem_keys.2 ⟨edge, hedge⟩
  have hnone : (((catalogue_edges_by_pair db' tenant_id
      (catalogue db' system_id tenant_id)).items.filter fun item =>
        item.2.source.value = es.value).filter fun item =>
          item.1 ∉ (declared_edges declared).keys) = [] := by
    simp only [List.filter_eq_nil_iff, List.mem_filter, decide_eq_true_eq, not_not, and_imp]
    exact hmissing
  simp only [Scanning.edges_missing_in_code, hnone]
  rfl

theorem changed_fields_stamped (h : Stamped source sub row) (name : String) :
    changed_fields name row sub = [] := by
  simp [changed_fields, h.1, h.2.1]

/-- What a report says when nothing but subsystems missing in the code is left. -/
structure DriftReport.OnlyMissingInCode (report : DriftReport) : Prop where
  subsystems_missing_in_catalogue : report.subsystems_missing_in_catalogue = []
  subsystems_changed : report.subsystems_changed = []
  edges_missing_in_catalogue : report.edges_missing_in_catalogue = []
  edges_missing_in_code : truthy report.edges_missing_in_code = false
  edges_changed : report.edges_changed = []
  edges_conflicting_source : report.edges_conflicting_source = []

theorem Scanned.diff (h : Scanned system_id tenant_id source edge_source declared db db')
    (absence_computed : Bool) (absence_reason : Option String) :
    (diff db' system_id tenant_id source edge_source declared absence_computed
      absence_reason).OnlyMissingInCode := by
  have hlisted : ∀ {name sub}, (name, sub) ∈ (declared_by_name declared.subsystems).items →
      name ∈ (catalogue db' system_id tenant_id).keys := by
    intro name sub hitem
    exact (h.listed name).2 (Or.inr (Index.mem_keys.2 ⟨sub, Index.get_eq_some.2 hitem⟩))
  constructor
  case subsystems_missing_in_catalogue =>
    refine List.map_eq_nil_iff.2 (List.filter_eq_nil_iff.2 ?_)
    rintro ⟨name, sub⟩ hitem
    simpa using hlisted hitem
  case subsystems_changed =>
    refine List.flatMap_eq_nil_iff.2 ?_
    rintro ⟨name, sub⟩ hitem
    obtain ⟨row, hrow, hstamped⟩ := h.stamped name sub (Index.get_eq_some.2 hitem)
    simp only [hrow]
    exact changed_fields_stamped hstamped name
  case edges_missing_in_catalogue =>
    simp only [Scanning.diff, h.edge_drifts, List.filterMap_nil]
  case edges_changed =>
    simp only [Scanning.diff, h.edge_drifts, List.filterMap_nil]
  case edges_conflicting_source =>
    simp only [Scanning.diff, h.edge_drifts, List.filterMap_nil]
  case edges_missing_in_code =>
    cases edge_source with
    | none => rfl
    | some es =>
      cases absence_computed with
      | false => rfl
      | true =>
        simp only [Scanning.diff, h.edges_missing_in_code]
        rfl

/-! ## A second scan -/

/-- What the declarations of `subs` leave of a row, where the catalogue lists it. -/
def overwrite (system_id tenant_id : ℕ) (source : SubSystemSource)
    (subs : List DeclaredSubsystem) (row : SubSystem) : SubSystem :=
  if row.Listed system_id tenant_id then
    match (declared_by_name subs).get row.name with
    | some sub => (stamp_subsystem source sub).apply row
    | none => row
  else row

theorem overwrite_id (subs : List DeclaredSubsystem) (row : SubSystem) :
    (overwrite system_id tenant_id source subs row).id = row.id := by
  unfold overwrite
  split
  · split <;> rfl
  · rfl

/-- The last stamp is all that remains of several. -/
theorem overwrite_append (subs : List DeclaredSubsystem) (sub : DeclaredSubsystem)
    (row : SubSystem) :
    overwrite system_id tenant_id source (subs ++ [sub]) row =
      if row.Listed system_id tenant_id ∧ row.name = sub.name then
        (stamp_subsystem source sub).apply (overwrite system_id tenant_id source subs row)
      else overwrite system_id tenant_id source subs row := by
  unfold overwrite
  by_cases hlisted : row.Listed system_id tenant_id
  · simp only [hlisted, if_true, true_and, declared_by_name_append, Index.get_set]
    by_cases hname : row.name = sub.name
    · simp only [hname, if_true]
      cases (declared_by_name subs).get sub.name <;> rfl
    · simp only [hname, if_false]
  · simp only [hlisted, if_false, false_and]

/-- **Where everything declared is listed already, the loop only overwrites.** -/
theorem loop_of_listed (source : SubSystemSource)
    (hall : ∀ sub ∈ subs, sub.name ∈ (catalogue db system_id tenant_id).keys) :
    ∃ st, subs.foldlM (apply_subsystem system_id tenant_id source)
        { db := db
          existing := catalogue db system_id tenant_id
          declared_ids := Index.empty
          result := ⟨0, 0, 0⟩ } = .ok st ∧
      st.existing = catalogue db system_id tenant_id ∧
      st.db.subsystems.rows =
        db.subsystems.rows.map (overwrite system_id tenant_id source subs) ∧
      st.db.subsystems.next = db.subsystems.next := by
  induction subs using List.reverseRecOn with
  | nil =>
    refine ⟨_, rfl, rfl, ?_, rfl⟩
    have hself : overwrite system_id tenant_id source [] = id := by
      funext row
      unfold overwrite
      split <;> rfl
    rw [hself, List.map_id]
  | append_singleton subs sub ih =>
    obtain ⟨st, hloop, hexisting, hrows, hnext⟩ :=
      ih fun s hs => hall s (List.mem_append_left _ hs)
    obtain ⟨row, hrow⟩ := Index.mem_keys.1 (hall sub (List.mem_append_right _ (by simp)))
    obtain ⟨hmem, hscope, hname⟩ := get_catalogue.1 hrow
    have hstep : apply_subsystem system_id tenant_id source st sub = .ok
        { db := st.db.update_subsystem row.id (stamp_subsystem source sub)
          existing := st.existing
          declared_ids := st.declared_ids.set sub.name row.id
          result :=
            { st.result with subsystems_updated := st.result.subsystems_updated + 1 } } := by
      simp only [apply_subsystem, hexisting, hrow]
      rfl
    refine ⟨_, (foldlM_concat hloop sub).trans hstep, hexisting, ?_, hnext⟩
    have hupdate : (st.db.update_subsystem row.id (stamp_subsystem source sub)).subsystems.rows =
        st.db.subsystems.rows.map fun r =>
          if decide (r.id = row.id) then (stamp_subsystem source sub).apply r else r := rfl
    rw [hupdate, hrows, List.map_map]
    refine List.map_congr_left fun r hr => ?_
    -- the row that this turn updates is the one listed under the name
    have hthis : r.id = row.id ↔ r.Listed system_id tenant_id ∧ r.name = sub.name := by
      constructor
      · intro hid
        rw [Table.eq_of_key_eq hr hmem hid]
        exact ⟨hscope, hname⟩
      · rintro ⟨hr_scope, hr_name⟩
        have hget := get_catalogue.2 ⟨hr, hr_scope, hr_name⟩
        rw [hrow] at hget
        rw [Option.some.inj hget]
    rw [Function.comp_apply, overwrite_id, overwrite_append]
    simp only [decide_eq_true_eq, hthis]

/-- A row that has its declared attributes is not changed by having them written again. -/
theorem overwrite_eq_self (hrow : row ∈ db.subsystems)
    (hstamped : ∀ name sub, (declared_by_name subs).get name = some sub →
      ∃ r, (catalogue db system_id tenant_id).get name = some r ∧ Stamped source sub r) :
    overwrite system_id tenant_id source subs row = row := by
  unfold overwrite
  split
  · rename_i hlisted
    cases hsub : (declared_by_name subs).get row.name with
    | none => rfl
    | some sub =>
      obtain ⟨r, hr, htype, htech, hsource, hpath⟩ := hstamped row.name sub hsub
      rw [get_catalogue.2 ⟨hrow, hlisted, rfl⟩] at hr
      obtain rfl := Option.some.inj hr
      simp only [stamp_subsystem, ← htype, ← htech, ← hsource, ← hpath]
  · rfl

/-- An edge without its id. -/
def ComponentDependency.content (d : ComponentDependency) : ComponentDependency := { d with id := 0 }

/-- The same catalogue, but for the ids of edges nothing is documented on. -/
structure SameUpToEdgeIds (db db' : Db) : Prop where
  subsystems : db'.subsystems = db.subsystems
  endpoints : db'.endpoints = db.endpoints
  dependencies : db'.dependencies.rows.map ComponentDependency.content =
    db.dependencies.rows.map ComponentDependency.content
  documented : ∀ d ∈ db.dependencies, (∃ e ∈ db.endpoints, e.dependency_id = d.id) →
    d ∈ db'.dependencies

/-- The loop finds nothing left to do where every declared subsystem is listed with the
attributes it declares. -/
theorem loop_again (hlisted : ∀ name ∈ (declared_by_name subs).keys,
      name ∈ (catalogue db system_id tenant_id).keys)
    (hstamped : ∀ name sub, (declared_by_name subs).get name = some sub →
      ∃ row, (catalogue db system_id tenant_id).get name = some row ∧ Stamped source sub row) :
    ∃ st, subs.foldlM (apply_subsystem system_id tenant_id source)
        { db := db
          existing := catalogue db system_id tenant_id
          declared_ids := Index.empty
          result := ⟨0, 0, 0⟩ } = .ok st ∧ st.db.subsystems = db.subsystems := by
  have hall : ∀ sub ∈ subs, sub.name ∈ (catalogue db system_id tenant_id).keys :=
    fun sub hsub => hlisted _ (Index.mem_keys_collect.2 ⟨sub, hsub, rfl⟩)
  obtain ⟨st, hloop, -, hrows, hnext⟩ := loop_of_listed source hall
  refine ⟨st, hloop, Table.eq_of_rows ?_ hnext⟩
  have hsame : db.subsystems.rows.map (overwrite system_id tenant_id source subs) =
      db.subsystems.rows.map id :=
    List.map_congr_left fun row hrow => overwrite_eq_self hrow hstamped
  rw [hrows, hsame, List.map_id]

/-- The pair of a declared edge is occupied by the source's own row. -/
theorem Scanned.source_of_occupies
    (h : Scanned system_id tenant_id source (some es) declared db db') {pair : ℕ × ℕ}
    (hdeclared : (declared_edges declared).get key ≠ none)
    (hkey : listed_pair db' system_id tenant_id key = some pair) {d : ComponentDependency}
    (hd : d ∈ db'.dependencies) (hocc : d.Occupies tenant_id pair) : d.source = es := by
  obtain ⟨edge, hedge⟩ := Option.ne_none_iff_exists'.1 hdeclared
  obtain ⟨d', hd', howned, hkey', -⟩ := h.written key edge hedge
  obtain rfl := Option.some.inj (hkey.symm.trans hkey')
  rw [db'.uq_component_dep d hd d' hd' ⟨hocc.1, hocc.2.1, hocc.2.2.trans howned.1.symm⟩]
  exact (Option.some.inj howned.2.2).symm

/-- Two loops over one declaration resolve its edges alike if they leave the same
subsystems. -/
theorem resolved_edges_congr {st' : Applying}
    (h : Written system_id tenant_id source db declared.subsystems st)
    (h' : Written system_id tenant_id source db' declared.subsystems st')
    (hsubs : st'.db.subsystems = st.db.subsystems) :
    resolved_edges st'.declared_ids declared.edges =
      resolved_edges st.declared_ids declared.edges := by
  have hids : edge_ids st'.declared_ids = edge_ids st.declared_ids := by
    funext edge
    rw [edge_ids_eq h', edge_ids_eq h, listed_pair_congr hsubs]
  rw [resolved_edges, hids, resolved_edges]

theorem apply_again
    (h : apply system_id tenant_id source db edge_source declared = .ok (db', result)) :
    ∃ db'' result', apply system_id tenant_id source db' edge_source declared
        = .ok (db'', result') ∧ SameUpToEdgeIds db' db'' := by
  have hscanned := apply_scanned h
  obtain ⟨st, hloop, hrest⟩ := apply_eq_ok.1 h
  obtain ⟨st₂, hloop₂, hsubs₂⟩ := loop_again
    (fun name hname => (hscanned.listed name).2 (Or.inr hname)) hscanned.stamped
  have hw : Written system_id tenant_id source db declared.subsystems st :=
    (Written.start db).run hloop
  have hw₂ : Written system_id tenant_id source db' declared.subsystems st₂ :=
    (Written.start db').run hloop₂
  cases edge_source with
  | none =>
    refine ⟨st₂.db, st₂.result, apply_eq_ok.2 ⟨st₂, hloop₂, hrest.1, rfl, rfl⟩, hsubs₂,
      hw₂.endpoints, ?_, ?_⟩
    · rw [hw₂.dependencies]
    · intro d hd _
      rw [hw₂.dependencies]
      exact hd
  | some es =>
    rcases apply_edges_cases hw₂ es with
      ⟨db'', result', hok₂, hsubs'', hdeps₂, hends₂, -⟩ |
        ⟨-, key, pair, hdeclared, hkey, d, hd, hocc, hne⟩
    swap
    · -- no row of another source is in the way any more
      rw [hw₂.dependencies] at hd
      rw [listed_pair_congr hsubs₂] at hkey
      exact absurd (hscanned.source_of_occupies hdeclared hkey hd hocc) hne
    obtain ⟨hsubs, hdeps, -, -⟩ := apply_edges_ok hw hrest
    have howned : ∀ d, st₂.owned tenant_id es d = true ↔
        Owned db' system_id tenant_id (some es) d := by
      intro d
      rw [owned_iff hw₂, owned_congr hsubs₂]
    have hsame_owned : st₂.owned tenant_id es = st.owned tenant_id es := by
      funext d
      rw [Bool.eq_iff_iff, howned, owned_congr hsubs, owned_iff hw]
    have hnews : ∀ new ∈ (resolved_edges st.declared_ids declared.edges).items.map
        (new_dependency tenant_id es), ∀ n, st.owned tenant_id es (new.row n) = true := by
      intro new hnew n
      obtain ⟨item, hitem, rfl⟩ := List.mem_map.1 hnew
      exact (owned_iff hw es _).2 (inserted_owned hw hitem n)
    have hcontent : ∀ new ∈ (resolved_edges st.declared_ids declared.edges).items.map
        (new_dependency tenant_id es), ∀ n, (new.row n).content = (new.row 0).content := by
      intro new hnew n
      obtain ⟨item, -, rfl⟩ := List.mem_map.1 hnew
      rfl
    -- the second delete takes away what the first scan inserted, and nothing else
    have hdeleted : (st₂.db.dependencies.delete (st₂.owned tenant_id es)).rows =
        (st.db.dependencies.delete (st.owned tenant_id es)).rows := by
      rw [hsame_owned, hw₂.dependencies, hdeps]
      exact Table.delete_insert_all_delete hnews
    have hundocumented := hscanned.undocumented
    refine ⟨db'', result', apply_eq_ok.2 ⟨st₂, hloop₂, hok₂⟩, hsubs''.trans hsubs₂, ?_, ?_, ?_⟩
    · rw [hends₂, ← hw₂.endpoints]
      refine Table.delete_eq_self fun e he => decide_eq_false ?_
      rintro ⟨d, hd, hid, hown⟩
      rw [hw₂.dependencies] at hd
      rw [hw₂.endpoints] at he
      exact hundocumented d hd ((howned d).1 hown) e he hid.symm
    · rw [hdeps₂, resolved_edges_congr hw hw₂ (hsubs₂.trans hsubs),
        Table.insert_all_map hcontent, hdeleted, hdeps, Table.insert_all_map hcontent]
    · rintro d hd ⟨e, he, hid⟩
      rw [hdeps₂, Table.mem_insert_all, Table.mem_delete, hw₂.dependencies]
      refine Or.inl ⟨hd, ?_⟩
      rw [← Bool.not_eq_true, howned]
      exact fun hown => hundocumented d hd hown e he hid

/-- **The round trip.** After a scan that went through, the drift report for the same
declaration lists at most subsystems missing in the code, and scanning once more leaves
the catalogue as it is, up to the ids of its edges. -/
theorem scan_then_diff (db db' : Db) (system_id tenant_id : ℕ) (source : SubSystemSource)
    (edge_source : Option DependencySource) (declared : DeclaredState) (result : ApplyResult)
    (h : apply system_id tenant_id source db edge_source declared = .ok (db', result)) :
    (∀ absence_computed absence_reason,
      (diff db' system_id tenant_id source edge_source declared absence_computed
        absence_reason).OnlyMissingInCode) ∧
    ∃ db'' result', apply system_id tenant_id source db' edge_source declared
      = .ok (db'', result') ∧ SameUpToEdgeIds db' db'' :=
  ⟨(apply_scanned h).diff, apply_again h⟩

/-- Three declarations of two services, with a repeated edge, a loop and an edge to a
service no file declares. -/
def compose : DeclaredState where
  subsystems :=
    [⟨"api", "web_service", some "nginx", "docker-compose.yml"⟩,
     ⟨"db", "database", some "postgres", "docker-compose.yml"⟩,
     ⟨"api", "api_gateway", none, "edge/docker-compose.yml"⟩]
  edges :=
    [⟨"api", "db", some 5432, "docker-compose.yml"⟩, ⟨"api", "api", none, "docker-compose.yml"⟩,
     ⟨"api", "cache", none, "docker-compose.yml"⟩,
     ⟨"api", "db", some 5433, "edge/docker-compose.yml"⟩]
  warnings := []

theorem scan_then_diff_compose : ∃ db' result,
    apply 1 1 .DOCKER_COMPOSE Db.fresh (some .DOCKER_COMPOSE) compose = .ok (db', result) ∧
    (∀ absence_computed absence_reason,
      (diff db' 1 1 .DOCKER_COMPOSE (some .DOCKER_COMPOSE) compose absence_computed
        absence_reason).OnlyMissingInCode) ∧
    ∃ db'' result', apply 1 1 .DOCKER_COMPOSE db' (some .DOCKER_COMPOSE) compose
      = .ok (db'', result') ∧ SameUpToEdgeIds db' db'' := by
  obtain ⟨⟨db', result⟩, h⟩ := eq_ok_of_isOk (x := apply 1 1 .DOCKER_COMPOSE Db.fresh
    (some .DOCKER_COMPOSE) compose) (by decide)
  exact ⟨db', result, h, scan_then_diff _ _ _ _ _ _ _ _ h⟩

/-! ## The forecast -/

theorem missing_length (by_name : Index String DeclaredSubsystem) (present : List String) :
    ((by_name.items.filter fun item => item.1 ∉ present).map Prod.snd).length =
      (by_name.keys.filter fun name => name ∉ present).length := by
  rw [Index.keys, List.filter_map, List.length_map, List.length_map]
  rfl

/-- The scan creates the subsystems the report lists as missing in the catalogue. -/
theorem created_eq_missing
    (h : apply system_id tenant_id source db edge_source declared = .ok (db', result))
    (absence_computed : Bool) (absence_reason : Option String) :
    result.subsystems_created = (diff db system_id tenant_id source edge_source declared
      absence_computed absence_reason).subsystems_missing_in_catalogue.length := by
  obtain ⟨st, -, hw, -, hcreated⟩ := apply_written h
  rw [hcreated, hw.created]
  exact (missing_length _ _).symm

/-- An id that was there before the scan was listed under the same name. -/
theorem Written.listed_before {db₀ : Db} (h : Written system_id tenant_id source db₀ subs st)
    {name : String} {row_id : ℕ} (hnow : listed_id st.db system_id tenant_id name = some row_id)
    (hold : ∃ s ∈ db₀.subsystems, s.id = row_id) :
    listed_id db₀ system_id tenant_id name = some row_id := by
  obtain ⟨row, hrow, hscope, hname, hid⟩ := listed_id_eq_some.1 hnow
  obtain ⟨s, hs, hs_id⟩ := hold
  obtain ⟨s', hs', hsame_id, hsystem, htenant, hsame_name, hdeleted⟩ := h.kept s hs
  obtain rfl := Table.eq_of_key_eq hrow hs' (by rw [hid, hsame_id, hs_id])
  rw [SubSystem.Listed, hsystem, htenant, hdeleted] at hscope
  exact listed_id_eq_some.2 ⟨s, hs, hscope, hsame_name.symm.trans hname, hs_id⟩

theorem apply_subsystem_error (h : apply_subsystem system_id tenant_id source st sub = .error e) :
    e = .violates .uq_subsystem_system_name := by
  unfold apply_subsystem at h
  cases hget : st.existing.get sub.name with
  | some row =>
    rw [hget] at h
    cases h
  | none =>
    simp only [hget, bind_eq_error] at h
    rcases h with h | ⟨⟨db, row⟩, -, h⟩
    · unfold Db.add_subsystem at h
      split at h
      · cases h
      · exact (Except.error.inj h).symm
    · cases h

theorem loop_error (h : subs.foldlM (apply_subsystem system_id tenant_id source) st = .error e) :
    e = .violates .uq_subsystem_system_name := by
  induction subs generalizing st with
  | nil => cases h
  | cons sub subs ih =>
    rw [List.foldlM_cons, bind_eq_error] at h
    rcases h with h | ⟨mid, -, h⟩
    · exact apply_subsystem_error h
    · exact ih h

/-- **The constraint on the edges is broken only where the report says so.** -/
theorem conflict_of_violation (h : apply system_id tenant_id source db edge_source declared
      = .error (.violates .uq_component_dep)) (absence_computed : Bool)
    (absence_reason : Option String) :
    (diff db system_id tenant_id source edge_source declared absence_computed
      absence_reason).edges_conflicting_source ≠ [] := by
  unfold apply at h
  rcases bind_eq_error.1 h with hloop | ⟨st, hloop, hrest⟩
  · cases loop_error hloop
  · have hw : Written system_id tenant_id source db declared.subsystems st :=
      (Written.start db).run hloop
    cases edge_source with
    | none =>
      simp only at hrest
      split at hrest <;> cases hrest
    | some es =>
      simp only at hrest
      rcases apply_edges_cases hw es with
        ⟨_, _, hok, -⟩ | ⟨-, key, pair, hdeclared, hkey, d, hd, hocc, hne⟩
      · cases hok.symm.trans hrest
      rw [hw.dependencies] at hd
      obtain ⟨edge, hedge⟩ := Option.ne_none_iff_exists'.1 hdeclared
      -- the row in the way was there before the scan, so its ends were listed then
      rw [listed_pair_eq_some] at hkey
      have hkey₀ : listed_pair db system_id tenant_id key =
          some (d.from_subsystem_id, d.to_subsystem_id) := by
        refine listed_pair_eq_some.2 ⟨?_, ?_⟩
        · exact hw.listed_before (by rw [hkey.1, hocc.1]) (db.fk_from d hd)
        · exact hw.listed_before (by rw [hkey.2, hocc.2.1]) (db.fk_to d hd)
      have hrow := get_catalogue_edges_by_pair.2 ⟨hd, hocc.2.2, hkey₀⟩
      let conflict : ConflictingEdge :=
        { from_name := key.1, to_name := key.2, port := edge.port,
          source_path := edge.source_path, catalogue_source := d.source.value }
      have hdrift : edge_drift es (some d) key edge = some (.conflicting conflict) :=
        if_pos fun hvalue => hne (DependencySource.value_inj.1 hvalue)
      have hmem : EdgeDrift.conflicting conflict ∈ edge_drifts db tenant_id (some es) declared
          (catalogue db system_id tenant_id) := by
        refine List.mem_filterMap.2 ⟨(key, edge), Index.get_eq_some.1 hedge, ?_⟩
        rw [hrow]
        exact hdrift
      exact List.ne_nil_of_mem (List.mem_filterMap.2 ⟨_, hmem, rfl⟩)

/-- **The report foretells the scan**: how many subsystems it creates, which edges the
source then owns, and where it would run into an edge of another source. -/
theorem diff_forecasts_apply (db : Db) (system_id tenant_id : ℕ) (source : SubSystemSource)
    (edge_source : Option DependencySource) (declared : DeclaredState) (absence_computed : Bool)
    (absence_reason : Option String) :
    let report := diff db system_id tenant_id source edge_source declared absence_computed
      absence_reason
    (∀ db' result, apply system_id tenant_id source db edge_source declared
        = .ok (db', result) →
      result.subsystems_created = report.subsystems_missing_in_catalogue.length ∧
      (∀ d ∈ db'.dependencies, Owned db' system_id tenant_id edge_source d →
        ∃ key, listed_pair db' system_id tenant_id key
          = some (d.from_subsystem_id, d.to_subsystem_id)) ∧
      ∀ key port,
        (∃ d ∈ db'.dependencies, Owned db' system_id tenant_id edge_source d ∧
          listed_pair db' system_id tenant_id key
            = some (d.from_subsystem_id, d.to_subsystem_id) ∧ d.port = port) ↔
        ∃ edge, (declared_edges declared).get key = some edge ∧ edge.port = port) ∧
    (apply system_id tenant_id source db edge_source declared
        = .error (.violates .uq_component_dep) →
      report.edges_conflicting_source ≠ []) := by
  refine ⟨fun db' result h => ⟨created_eq_missing h _ _, ?_, ?_⟩, fun h =>
    conflict_of_violation h _ _⟩
  · intro d hd howned
    obtain ⟨key, -, -, hkey, -⟩ := (apply_scanned h).only d hd howned
    exact ⟨key, hkey⟩
  · intro key port
    constructor
    · rintro ⟨d, hd, howned, hkey, rfl⟩
      obtain ⟨key', edge, hedge, hkey', hport⟩ := (apply_scanned h).only d hd howned
      rw [listed_pair_inj hkey hkey']
      exact ⟨edge, hedge, hport.symm⟩
    · rintro ⟨edge, hedge, rfl⟩
      obtain ⟨d, hd, howned, hkey, hport, -⟩ := (apply_scanned h).written key edge hedge
      exact ⟨d, hd, howned, hkey, hport⟩

end

/-- The first scan creates two services and owns the edge between them, and a scan in the name
of another source runs into it. -/
theorem diff_forecasts_apply_compose : ∃ db' result,
    apply 1 1 .DOCKER_COMPOSE Db.fresh (some .DOCKER_COMPOSE) compose = .ok (db', result) ∧
      result.subsystems_created = 2 ∧
      (∃ d ∈ db'.dependencies, Owned db' 1 1 (some .DOCKER_COMPOSE) d ∧
        listed_pair db' 1 1 ("api", "db") = some (d.from_subsystem_id, d.to_subsystem_id) ∧
        d.port = some 5433) ∧
      (diff db' 1 1 .DOCKER_COMPOSE (some .TERRAFORM) compose true
        none).edges_conflicting_source ≠ [] := by
  obtain ⟨⟨db', result⟩, h⟩ := eq_ok_of_isOk (x := apply 1 1 .DOCKER_COMPOSE Db.fresh
    (some .DOCKER_COMPOSE) compose) (by decide)
  obtain ⟨hcreated, -, howned⟩ := (diff_forecasts_apply Db.fresh 1 1 .DOCKER_COMPOSE
    (some .DOCKER_COMPOSE) compose true none).1 db' result h
  have hconflict : (apply 1 1 .DOCKER_COMPOSE Db.fresh (some .DOCKER_COMPOSE) compose).bind
      (fun r => apply 1 1 .DOCKER_COMPOSE r.1 (some .TERRAFORM) compose) =
        .error (.violates .uq_component_dep) := eq_error_of_raises (by decide +kernel)
  rw [h] at hconflict
  refine ⟨db', result, h, hcreated.trans (by decide), ?_, ?_⟩
  · exact (howned ("api", "db") (some 5433)).2 ⟨_, rfl, rfl⟩
  · exact (diff_forecasts_apply db' 1 1 .DOCKER_COMPOSE (some .TERRAFORM) compose true
      none).2 hconflict

end EnvMgr.Scanning

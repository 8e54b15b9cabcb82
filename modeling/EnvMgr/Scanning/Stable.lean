/-
A scan, and the drift report on what it was taken from.

The detectors write into one catalogue, one after the other. In the end a row has what the
last detector that declares its name says, under that detector's source, and the edges of a
source are those of the last detector that writes edges of that source. A detector whose
declarations were written over by another finds that as drift. `Compatible` is when no
detector does.
-/
import EnvMgr.Scanning.Report
import EnvMgr.Scanning.Walking

namespace EnvMgr.Scanning

variable {name : String} {es : DependencySource}

/-! ## Rows that one write leaves alone -/

section

variable {system_id tenant_id : ℕ} {source : SubSystemSource} {db₀ : Db}

/-- A turn of the loop touches no other name. -/
theorem Written.get_of_ne {subs : List DeclaredSubsystem} {st st' : Applying}
    (h : Written system_id tenant_id source db₀ subs st) {sub : DeclaredSubsystem}
    (hstep : apply_subsystem system_id tenant_id source st sub = .ok st') (hne : name ≠ sub.name) :
    row_of st'.db system_id tenant_id name = row_of st.db system_id tenant_id name := by
  have hexisting := h.existing sub.name
  unfold apply_subsystem at hstep
  cases hget : st.existing.get sub.name with
  | none =>
    simp only [hget, bind_eq_ok, pure_eq_ok] at hstep
    obtain ⟨⟨db, row⟩, hadd, rfl⟩ := hstep
    obtain ⟨hrow, -⟩ := add_subsystem_ok hadd
    have hname : row.name = sub.name := by
      rw [hrow]
      rfl
    have hscope : row.Listed system_id tenant_id := by
      rw [hrow]
      exact ⟨rfl, rfl, rfl⟩
    rw [row_of, catalogue_add_subsystem hadd hscope, hname, if_neg hne, row_of]
  | some row =>
    simp only [hget, pure_eq_ok] at hstep
    subst hstep
    rw [hget, Option.map_some] at hexisting
    obtain ⟨row', hrow', hscope, hname, hid⟩ := listed_id_eq_some.1 hexisting.symm
    rw [row_of, ← hid, catalogue_update_subsystem hrow' hscope, hname, if_neg hne, row_of]

theorem Written.run_untouched {done subs : List DeclaredSubsystem} {st st' : Applying}
    (h : Written system_id tenant_id source db₀ done st)
    (hrun : subs.foldlM (apply_subsystem system_id tenant_id source) st = .ok st')
    (hne : ∀ sub ∈ subs, name ≠ sub.name) :
    row_of st'.db system_id tenant_id name = row_of st.db system_id tenant_id name := by
  induction subs generalizing done st with
  | nil =>
    cases hrun
    rfl
  | cons sub subs ih =>
    rw [List.foldlM_cons, bind_eq_ok] at hrun
    obtain ⟨mid, hstep, hrest⟩ := hrun
    obtain ⟨hhead, htail⟩ := List.forall_mem_cons.1 hne
    rw [ih (h.step hstep) hrest htail, h.get_of_ne hstep hhead]

end

section

variable {system_id tenant_id : ℕ} {source : SubSystemSource}
  {edge_source : Option DependencySource} {declared : DeclaredState} {db db' : Db}
  {result : ApplyResult}

/-- The row of a declared name is stamped, and any other is as it was. -/
theorem apply_rows
    (h : apply system_id tenant_id source db edge_source declared = .ok (db', result))
    (name : String) :
    match last_sub declared name with
    | some sub => ∃ row, row_of db' system_id tenant_id name = some row ∧ Stamped source sub row
    | none => row_of db' system_id tenant_id name = row_of db system_id tenant_id name := by
  cases hlast : last_sub declared name with
  | some sub => exact (apply_scanned h).stamped name sub hlast
  | none =>
    obtain ⟨st, hloop, hwritten, hsubs, -⟩ := apply_written h
    have hne : ∀ sub ∈ declared.subsystems, name ≠ sub.name := by
      rintro sub hsub rfl
      exact Index.get_eq_none.1 hlast (Index.mem_keys_collect.2 ⟨sub, hsub, rfl⟩)
    have huntouched := (Written.start db).run_untouched hloop hne
    dsimp only
    rw [row_of, catalogue_congr hsubs]
    exact huntouched

/-- The source's edges are the declared ones afterwards. -/
theorem apply_own_edges
    (h : apply system_id tenant_id source db (some es) declared = .ok (db', result)) :
    SameEdges db' system_id tenant_id es declared := by
  have hscanned := apply_scanned h
  intro key port
  constructor
  · rintro ⟨row, hrow, hsource, rfl⟩
    obtain ⟨hd, htenant, hkey⟩ := get_catalogue_edges_by_pair.1 hrow
    obtain ⟨key', edge, hedge, hkey', hport⟩ := hscanned.only row hd
      ⟨htenant, ⟨key.1, (listed_pair_eq_some.1 hkey).1⟩, by rw [hsource]⟩
    rw [listed_pair_inj hkey hkey']
    exact ⟨edge, hedge, hport.symm⟩
  · rintro ⟨edge, hedge, rfl⟩
    obtain ⟨d, hd, howned, hkey, hport, -⟩ := hscanned.written key edge hedge
    exact ⟨d, get_catalogue_edges_by_pair.2 ⟨hd, howned.1, hkey⟩,
      (Option.some.inj howned.2.2).symm, hport⟩

/-- A name that was listed keeps its id. -/
theorem apply_listed_id
    (h : apply system_id tenant_id source db edge_source declared = .ok (db', result))
    {row_id : ℕ} (hold : ∃ s ∈ db.subsystems, s.id = row_id) :
    listed_id db' system_id tenant_id name = some row_id ↔
      listed_id db system_id tenant_id name = some row_id := by
  obtain ⟨st, -, hwritten, hsubs, -⟩ := apply_written h
  rw [listed_id_congr hsubs]
  constructor
  · intro hnow
    exact hwritten.listed_before hnow hold
  · intro hbefore
    obtain ⟨s, hs, hscope, hname, hid⟩ := listed_id_eq_some.1 hbefore
    obtain ⟨s', hs', hid', hsystem, htenant, hname', hdeleted⟩ := hwritten.kept s hs
    refine listed_id_eq_some.2 ⟨s', hs', ⟨?_, ?_, ?_⟩, hname'.trans hname, hid'.trans hid⟩
    · exact hsystem.trans hscope.1
    · exact htenant.trans hscope.2.1
    · exact hdeleted.trans hscope.2.2

/-- The edges of other sources stay. -/
theorem apply_other_edges
    (h : apply system_id tenant_id source db edge_source declared = .ok (db', result))
    (hother : edge_source ≠ some es) {key : String × String}
    {row : ComponentDependency} (hsource : row.source = es) :
    edge_row db' system_id tenant_id key = some row ↔
      edge_row db system_id tenant_id key = some row := by
  have hnot : ¬ Owned db' system_id tenant_id edge_source row := by
    rintro ⟨-, -, howned⟩
    rw [hsource] at howned
    exact hother howned
  have hmem := (apply_scanned h).others row hnot
  rw [edge_row, edge_row, get_catalogue_edges_by_pair, get_catalogue_edges_by_pair, hmem]
  refine and_congr_right fun hd => and_congr_right fun _ => ?_
  rw [listed_pair_eq_some, listed_pair_eq_some, apply_listed_id h (db.fk_from row hd),
    apply_listed_id h (db.fk_to row hd)]

end

/-! ## All the detectors, one after the other -/

/-- A detector with what it declares. -/
structure Declaration where
  detector : Detector
  declared : DeclaredState

def DetectorWalk.declaration (walk : DetectorWalk) : Declaration := ⟨walk.detector, walk.declared⟩

/-- A detector that declares nothing is not applied. -/
def Declaration.Applied (d : Declaration) : Prop :=
  ¬ (d.declared.subsystems = [] ∧ d.declared.edges = [])

instance (d : Declaration) : Decidable d.Applied := inferInstanceAs (Decidable (¬ _))

/-- The last detector that declares a name. -/
def last_declaring (ds : List Declaration) (name : String) : Option Declaration :=
  ds.reverse.find? fun d => (last_sub d.declared name).isSome

/-- What the last detector that writes edges of a source declares. -/
def last_edges (ds : List Declaration) (es : DependencySource) : DeclaredState :=
  match ds.reverse.find? fun d => d.Applied ∧ d.detector.edge_source = some es with
  | some d => d.declared
  | none => DeclaredState.empty

theorem last_declaring_some {ds : List Declaration} {d : Declaration}
    (h : last_declaring ds name = some d) :
    d ∈ ds ∧ ∃ sub, last_sub d.declared name = some sub :=
  ⟨List.mem_reverse.1 (List.mem_of_find?_eq_some h), Option.isSome_iff_exists.1
    (by simpa using List.find?_some h)⟩

theorem last_declaring_none {ds : List Declaration}
    (h : last_declaring ds name = none) {d : Declaration} (hd : d ∈ ds) :
    last_sub d.declared name = none := by
  have hnone := List.find?_eq_none.1 h d (List.mem_reverse.2 hd)
  simpa using hnone

theorem last_declaring_append (ds : List Declaration) (d : Declaration) (name : String) :
    last_declaring (ds ++ [d]) name =
      if (last_sub d.declared name).isSome then some d else last_declaring ds name := by
  rw [last_declaring, List.reverse_append, List.reverse_singleton, List.singleton_append,
    List.find?_cons, last_declaring]
  cases (last_sub d.declared name).isSome <;> rfl

theorem last_edges_append (ds : List Declaration) (d : Declaration) (es : DependencySource) :
    last_edges (ds ++ [d]) es =
      if d.Applied ∧ d.detector.edge_source = some es then d.declared else last_edges ds es := by
  rw [last_edges, List.reverse_append, List.reverse_singleton, List.singleton_append,
    List.find?_cons, last_edges]
  by_cases h : d.Applied ∧ d.detector.edge_source = some es
  · rw [decide_eq_true h, if_pos h]
  · rw [decide_eq_false h, if_neg h]

/-- What the catalogue holds after the detectors of `ds` were applied to an empty one. -/
structure Reconciled (system_id tenant_id : ℕ) (ds : List Declaration) (db : Db) : Prop where
  unlisted : ∀ name, last_declaring ds name = none → row_of db system_id tenant_id name = none
  row : ∀ name d sub, last_declaring ds name = some d → last_sub d.declared name = some sub →
    ∃ row, row_of db system_id tenant_id name = some row ∧
      Stamped d.detector.subsystem_source sub row
  edges : ∀ es, SameEdges db system_id tenant_id es (last_edges ds es)

section

variable {system_id tenant_id : ℕ} {ds : List Declaration} {db db' : Db} {d : Declaration}

theorem last_edge_empty (key : String × String) : last_edge DeclaredState.empty key = none := rfl

theorem Reconciled.start (h : (catalogue db system_id tenant_id).keys = []) :
    Reconciled system_id tenant_id [] db where
  unlisted name _ := by
    rw [row_of, Index.get_eq_none, h]
    exact List.not_mem_nil
  row name d sub hlast := nomatch hlast
  edges es key port := by
    have hnone : edge_row db system_id tenant_id key = none := by
      rw [Option.eq_none_iff_forall_ne_some]
      intro row hrow
      obtain ⟨-, -, hkey⟩ := get_catalogue_edges_by_pair.1 hrow
      have hlisted := mem_catalogue_keys.2 ⟨_, (listed_pair_eq_some.1 hkey).1⟩
      rw [h] at hlisted
      cases hlisted
    constructor
    · rintro ⟨row, hrow, -⟩
      rw [hnone] at hrow
      cases hrow
    · rintro ⟨edge, hedge, -⟩
      cases hedge

/-- A detector that declares nothing changes nothing. -/
theorem Reconciled.skip (h : Reconciled system_id tenant_id ds db) (hd : ¬ d.Applied) :
    Reconciled system_id tenant_id (ds ++ [d]) db := by
  have hnone : ∀ name, last_sub d.declared name = none := by
    intro name
    rw [last_sub, declared_by_name, (not_not.1 hd).1]
    rfl
  constructor
  · intro name hlast
    rw [last_declaring_append, hnone, Option.isSome_none, if_neg Bool.false_ne_true] at hlast
    exact h.unlisted name hlast
  · intro name d' sub hlast
    rw [last_declaring_append, hnone, Option.isSome_none, if_neg Bool.false_ne_true] at hlast
    exact h.row name d' sub hlast
  · intro es
    rw [last_edges_append, if_neg fun hboth => hd hboth.1]
    exact h.edges es

/-- **One detector's write.** -/
theorem Reconciled.step (h : Reconciled system_id tenant_id ds db) (hd : d.Applied)
    {result : ApplyResult}
    (happly : apply system_id tenant_id d.detector.subsystem_source db d.detector.edge_source
      d.declared = .ok (db', result)) : Reconciled system_id tenant_id (ds ++ [d]) db' := by
  have hrows := apply_rows happly
  constructor
  · intro name hlast
    have hrow := hrows name
    rw [last_declaring_append] at hlast
    cases hsub : last_sub d.declared name with
    | some sub =>
      rw [hsub, Option.isSome_some, if_pos rfl] at hlast
      cases hlast
    | none =>
      rw [hsub, Option.isSome_none, if_neg Bool.false_ne_true] at hlast
      rw [hsub] at hrow
      exact hrow.trans (h.unlisted name hlast)
  · intro name d' sub' hlast hsub'
    have hrow := hrows name
    rw [last_declaring_append] at hlast
    cases hsub : last_sub d.declared name with
    | some sub =>
      rw [hsub, Option.isSome_some, if_pos rfl] at hlast
      obtain rfl := Option.some.inj hlast
      obtain rfl := Option.some.inj (hsub.symm.trans hsub')
      rw [hsub] at hrow
      exact hrow
    | none =>
      rw [hsub, Option.isSome_none, if_neg Bool.false_ne_true] at hlast
      rw [hsub] at hrow
      rw [hrow]
      exact h.row name d' sub' hlast hsub'
  · intro es
    rw [last_edges_append]
    by_cases hes : d.detector.edge_source = some es
    · rw [if_pos ⟨hd, hes⟩]
      rw [hes] at happly
      exact apply_own_edges happly
    · rw [if_neg fun hboth => hes hboth.2]
      intro key port
      rw [← h.edges es key port]
      refine exists_congr fun row => ?_
      constructor
      · rintro ⟨hrow, hsource, hport⟩
        exact ⟨(apply_other_edges happly hes hsource).1 hrow, hsource, hport⟩
      · rintro ⟨hrow, hsource, hport⟩
        exact ⟨(apply_other_edges happly hes hsource).2 hrow, hsource, hport⟩

end

/-! ## The report, detector by detector -/

/-- The detectors agree: on the fields of every name, on who has the names of a source, and on
the edges of a source. -/
structure Compatible (ds : List Declaration) : Prop where
  fields : ∀ d ∈ ds, ∀ d' ∈ ds, ∀ name sub sub', last_sub d.declared name = some sub →
    last_sub d'.declared name = some sub' →
      sub.component_type = sub'.component_type ∧ or_none sub.technology = or_none sub'.technology
  sources : ∀ name d, last_declaring ds name = some d → ∀ d' ∈ ds,
    d'.detector.subsystem_source = d.detector.subsystem_source → last_sub d'.declared name ≠ none
  ports : ∀ d ∈ ds, ∀ d' ∈ ds, ∀ es, d.detector.edge_source = some es →
    d'.detector.edge_source = some es → ∀ key port,
      (∃ edge, last_edge d.declared key = some edge ∧ edge.port = port) ↔
        ∃ edge, last_edge d'.declared key = some edge ∧ edge.port = port

/-- Nothing is reported against a detector's own declarations. -/
def Undrifted (system_id tenant_id : ℕ) (db : Db) (d : Declaration) : Prop :=
  (diff db system_id tenant_id d.detector.subsystem_source d.detector.edge_source d.declared true
    none).has_drift = false

section

variable {system_id tenant_id : ℕ} {ds : List Declaration} {db : Db} {d : Declaration}

/-- Agreement is what every detector's empty report says of any two. -/
theorem Reconciled.compatible (h : Reconciled system_id tenant_id ds db)
    (hnone : ∀ d ∈ ds, Undrifted system_id tenant_id db d) : Compatible ds where
  fields d hd d' hd' name sub sub' hsub hsub' := by
    obtain ⟨row, hrow, htype, htech⟩ := (has_drift_eq_false_iff.1 (hnone d hd)).1 name sub hsub
    obtain ⟨row', hrow', htype', htech'⟩ :=
      (has_drift_eq_false_iff.1 (hnone d' hd')).1 name sub' hsub'
    obtain rfl := Option.some.inj (hrow.symm.trans hrow')
    exact ⟨htype.symm.trans htype', htech.symm.trans htech'⟩
  sources name d hlast d' hd' hsource := by
    obtain ⟨-, sub, hsub⟩ := last_declaring_some hlast
    obtain ⟨row, hrow, hstamped⟩ := h.row name d sub hlast hsub
    exact (has_drift_eq_false_iff.1 (hnone d' hd')).2.1 name row hrow
      (hstamped.2.2.1.trans hsource.symm)
  ports d hd d' hd' es hes hes' key port := by
    have hown := (has_drift_eq_false_iff.1 (hnone d hd)).2.2 es hes key port
    have hown' := (has_drift_eq_false_iff.1 (hnone d' hd')).2.2 es hes' key port
    exact hown.symm.trans hown'

/-- The edges of a source are each of its detectors' own, if they agree. -/
theorem Reconciled.own_edges (h : Reconciled system_id tenant_id ds db) (hc : Compatible ds)
    (hd : d ∈ ds) (hes : d.detector.edge_source = some es) :
    SameEdges db system_id tenant_id es d.declared := by
  intro key port
  rw [h.edges es key port, last_edges]
  cases hfind : ds.reverse.find? fun d => d.Applied ∧ d.detector.edge_source = some es with
  | some d' =>
    have hmem := List.mem_reverse.1 (List.mem_of_find?_eq_some hfind)
    have hprop := List.find?_some hfind
    rw [decide_eq_true_eq] at hprop
    exact hc.ports d' hmem d hd es hprop.2 hes key port
  | none =>
    -- no detector of the source was applied, so this one declares nothing
    have hskipped := List.find?_eq_none.1 hfind d (List.mem_reverse.2 hd)
    rw [decide_eq_true_eq] at hskipped
    have hempty : d.declared.edges = [] := by
      have hnot : ¬ d.Applied := fun happlied => hskipped ⟨happlied, hes⟩
      exact (not_not.1 hnot).2
    dsimp only
    rw [last_edge_empty, last_edge, declared_edges_nil hempty]

/-- **No detector reports drift exactly if the detectors agree.** -/
theorem Reconciled.undrifted_iff (h : Reconciled system_id tenant_id ds db) :
    (∀ d ∈ ds, Undrifted system_id tenant_id db d) ↔ Compatible ds := by
  refine ⟨h.compatible, fun hc d hd => has_drift_eq_false_iff.2 ⟨?_, ?_, ?_⟩⟩
  · intro name sub hsub
    cases hlast : last_declaring ds name with
    | none =>
      rw [last_declaring_none hlast hd] at hsub
      cases hsub
    | some d' =>
      obtain ⟨hd', sub', hsub'⟩ := last_declaring_some hlast
      obtain ⟨row, hrow, hstamped⟩ := h.row name d' sub' hlast hsub'
      obtain ⟨htype, htech⟩ := hc.fields d' hd' d hd name sub' sub hsub' hsub
      exact ⟨row, hrow, hstamped.1.trans htype, by rw [hstamped.2.1, htech]⟩
  · intro name row hrow hsource
    cases hlast : last_declaring ds name with
    | none =>
      rw [h.unlisted name hlast] at hrow
      cases hrow
    | some d' =>
      obtain ⟨-, sub', hsub'⟩ := last_declaring_some hlast
      obtain ⟨row', hrow', hstamped⟩ := h.row name d' sub' hlast hsub'
      obtain rfl := Option.some.inj (hrow.symm.trans hrow')
      exact hc.sources name d' hlast d hd (hsource.symm.trans hstamped.2.2.1)
  · intro es hes
    exact h.own_edges hc hd hes

end

/-! ## The scan -/

section

variable (first_line : Refused → String) (system_id tenant_id : ℕ)

/-- What one turn reports. -/
theorem apply_walk_out (st : Db × List DetectorScan) (walk : DetectorWalk) :
    ∃ out, (apply_walk first_line system_id tenant_id st walk).2 = st.2 ++ [out] ∧
      (out.errors = [] → walk.errors = [] ∧
        ((¬ walk.declaration.Applied ∧
            (apply_walk first_line system_id tenant_id st walk).1 = st.1) ∨
          (walk.declaration.Applied ∧ ∃ result, apply system_id tenant_id
            walk.detector.subsystem_source st.1 walk.detector.edge_source walk.declared =
              .ok ((apply_walk first_line system_id tenant_id st walk).1, result)))) := by
  unfold apply_walk
  by_cases hskip : walk.declared.subsystems = [] ∧ walk.declared.edges = []
  · rw [if_pos hskip]
    exact ⟨_, rfl, fun herrors => ⟨herrors, Or.inl ⟨not_not.2 hskip, rfl⟩⟩⟩
  · rw [if_neg hskip]
    cases happly : apply system_id tenant_id walk.detector.subsystem_source st.1
        walk.detector.edge_source walk.declared with
    | ok done => exact ⟨_, rfl, fun herrors => ⟨herrors, Or.inr ⟨hskip, _, rfl⟩⟩⟩
    | error exc =>
      refine ⟨_, rfl, fun herrors => ?_⟩
      simp [DetectorWalk.scanned] at herrors

theorem apply_walks_out (walks : List DetectorWalk) (st : Db × List DetectorScan) :
    ∃ outs, (walks.foldl (apply_walk first_line system_id tenant_id) st).2 = st.2 ++ outs := by
  induction walks generalizing st with
  | nil => exact ⟨[], (List.append_nil _).symm⟩
  | cons walk walks ih =>
    obtain ⟨outs, houts⟩ := ih (apply_walk first_line system_id tenant_id st walk)
    obtain ⟨out, hout, -⟩ := apply_walk_out first_line system_id tenant_id st walk
    exact ⟨out :: outs, by rw [List.foldl_cons, houts, hout, List.append_assoc]; rfl⟩

variable {first_line system_id tenant_id}

/-- A scan without an error has applied all the detectors, one after the other. -/
theorem Reconciled.run {walks : List DetectorWalk} {ds : List Declaration}
    {st : Db × List DetectorScan} (h : Reconciled system_id tenant_id ds st.1)
    (hnone : ∀ out ∈ (walks.foldl (apply_walk first_line system_id tenant_id) st).2,
      out.errors = []) :
    (∀ walk ∈ walks, walk.errors = []) ∧
      Reconciled system_id tenant_id (ds ++ walks.map DetectorWalk.declaration)
        (walks.foldl (apply_walk first_line system_id tenant_id) st).1 := by
  induction walks generalizing ds st with
  | nil =>
    rw [List.map_nil, List.append_nil]
    exact ⟨by simp, h⟩
  | cons walk walks ih =>
    rw [List.foldl_cons] at hnone
    obtain ⟨out, hout, hcases⟩ := apply_walk_out first_line system_id tenant_id st walk
    have hfirst : out.errors = [] := by
      obtain ⟨outs, houts⟩ := apply_walks_out first_line system_id tenant_id walks
        (apply_walk first_line system_id tenant_id st walk)
      refine hnone out ?_
      rw [houts, hout]
      simp
    obtain ⟨herrors, hstep⟩ := hcases hfirst
    have hnext : Reconciled system_id tenant_id (ds ++ [walk.declaration])
        (apply_walk first_line system_id tenant_id st walk).1 := by
      rcases hstep with ⟨hskip, hsame⟩ | ⟨happlied, result, happly⟩
      · rw [hsame]
        exact h.skip hskip
      · exact h.step happlied happly
    obtain ⟨hrest, hall⟩ := ih hnext hnone
    rw [List.append_assoc] at hall
    exact ⟨List.forall_mem_cons.2 ⟨herrors, hrest⟩, hall⟩

end

/-! ## The whole repository -/

/-- What the detectors declare, of all the files of a repository. -/
def snapshot (registry : Registry) (client : GitHubClient) : List Declaration :=
  match client.get_default_branch with
  | .error _ => []
  | .ok ref =>
    match client.get_tree ref with
    | .error _ => []
    | .ok tree => registry.detectors.map fun d => ⟨d, d.declares client ref tree.paths⟩

section

variable {registry : Registry} {max_scan_files : ℕ} {client : GitHubClient} {result : WalkResult}

/-- A walk that the file limit did not cut short has the declarations of all the files. -/
theorem walk_declarations (h : walk_repository registry max_scan_files client = .ok result)
    (hfull : result.stopped_early = false) :
    result.walks.map DetectorWalk.declaration = snapshot registry client ∧
      ∀ walk ∈ result.walks, walk.paths_unread = 0 := by
  obtain ⟨ref, tree, href, htree, -, hstopped, hwalks⟩ := walk_repository_ok h
  have hlength : (claimed registry tree.paths).length ≤ max_scan_files := by
    rw [hfull] at hstopped
    exact Nat.le_of_not_lt (of_decide_eq_false hstopped.symm)
  rw [List.take_of_length_le hlength, List.drop_of_length_le hlength] at hwalks
  constructor
  · rw [hwalks, List.map_map, snapshot, href]
    dsimp only
    rw [htree]
    refine List.map_congr_left ?_
    intro d hd
    have hwalked := walked_run client ref (claimed registry tree.paths) [] d
    rw [Function.comp_apply, DetectorWalk.declaration, hwalked.detector, hwalked.declared,
      declares_claimed hd]
  · intro walk hwalk
    rw [hwalks] at hwalk
    obtain ⟨d, -, rfl⟩ := List.mem_map.1 hwalk
    exact (walked_run client ref (claimed registry tree.paths) [] d).unread.2 (by simp)

/-- Absence is computed for a detector that read all its files. -/
theorem absence_of_full {walk : DetectorWalk} (hunread : walk.paths_unread = 0)
    (herrors : walk.errors = []) : absence_is_computable walk false false = (true, none) := by
  simp [absence_is_computable, hunread, herrors]

variable {first_line : Refused → String} {system_id tenant_id : ℕ} {db db' : Db}
  {scan : ScanReport}

/-- **Scanning is stable exactly if the detectors agree**: from an empty catalogue, after a
scan in which every detector succeeded, the drift report on the same repository, read in full,
reports no drift for any of them. -/
theorem no_drift_iff_compatible (hempty : (catalogue db system_id tenant_id).keys = [])
    (hscan : scan_repository first_line system_id tenant_id registry max_scan_files client db =
      .ok (db', scan)) (hsucceed : ∀ out ∈ scan.detectors, out.errors = [])
    (hread : scan.truncated = false ∧ scan.stopped_early = false) :
    (∃ drift, drift_repository system_id tenant_id registry max_scan_files client db' = .ok drift ∧
        ∀ out ∈ drift.detectors, out.report.has_drift = false) ↔
      Compatible (snapshot registry client) := by
  simp only [scan_repository, bind_eq_ok, Except.ok.injEq, Prod.mk.injEq] at hscan
  obtain ⟨result, hwalk, rfl, rfl⟩ := hscan
  obtain ⟨htruncated, hstopped⟩ := hread
  obtain ⟨hdeclarations, hunread⟩ := walk_declarations hwalk hstopped
  obtain ⟨herrors, hreconciled⟩ := (Reconciled.start hempty).run hsucceed
  rw [List.nil_append, hdeclarations] at hreconciled
  rw [← hreconciled.undrifted_iff, ← hdeclarations]
  have hdrift : ∀ walk ∈ result.walks, ∀ db : Db,
      (walk.drift system_id tenant_id db result.truncated result.stopped_early).report.has_drift =
        false ↔ Undrifted system_id tenant_id db walk.declaration := by
    intro walk hmem db
    dsimp only at htruncated hstopped
    rw [htruncated, hstopped, DetectorWalk.drift,
      absence_of_full (hunread walk hmem) (herrors walk hmem)]
    rfl
  simp only [drift_repository, bind_eq_ok, Except.ok.injEq]
  constructor
  · rintro ⟨drift, ⟨result', hwalk', rfl⟩, hnone⟩ d hd
    obtain rfl := Except.ok.inj (hwalk.symm.trans hwalk')
    obtain ⟨walk, hmem, rfl⟩ := List.mem_map.1 hd
    exact (hdrift walk hmem _).1 (hnone _ (List.mem_map_of_mem hmem))
  · intro hnone
    refine ⟨_, ⟨result, hwalk, rfl⟩, ?_⟩
    intro out hout
    obtain ⟨walk, hmem, rfl⟩ := List.mem_map.1 hout
    exact (hdrift walk hmem _).2 (hnone _ (List.mem_map_of_mem hmem))

end

/-! ## A compose service named like a Terraform resource -/

namespace Shared

/-- A file declares the one subsystem that is written down for it. -/
def docker_compose : Detector where
  name := "docker_compose"
  matches_path path := path = "docker-compose.yml"
  parse _ path := .ok ⟨[⟨"aws_db_instance.main", "database", some "postgres", path⟩], [], []⟩
  subsystem_source := .DOCKER_COMPOSE
  edge_source := some .DOCKER_COMPOSE

def terraform_hcl : Detector where
  name := "terraform_hcl"
  matches_path path := path = "main.tf"
  parse _ path := .ok ⟨[⟨"aws_db_instance.main", "database", some "aws_db_instance", path⟩], [], []⟩
  subsystem_source := .TERRAFORM_HCL
  edge_source := none

def registry : Registry := ⟨[docker_compose, terraform_hcl], by decide⟩

/-- A repository with the files of `paths`. -/
def client (paths : List String) : GitHubClient where
  get_default_branch := .ok "main"
  get_tree _ := .ok ⟨paths, false⟩
  get_blob _ _ := .ok ByteArray.empty

def first_line : Refused → String := fun _ => ""

/-- The scan of the files of `paths`, from an empty catalogue. -/
def scanned (paths : List String) : Except GitHubError (Db × ScanReport) :=
  scan_repository first_line 1 1 registry 200 (client paths) Db.fresh

end Shared

/-- Where only the compose file is there, the condition applies. -/
theorem compose_alone_iff : ∃ db' scan,
    Shared.scanned ["docker-compose.yml"] = .ok (db', scan) ∧
      ((∃ drift, drift_repository 1 1 Shared.registry 200 (Shared.client ["docker-compose.yml"])
          db' = .ok drift ∧ ∀ out ∈ drift.detectors, out.report.has_drift = false) ↔
        Compatible (snapshot Shared.registry (Shared.client ["docker-compose.yml"]))) := by
  have hscan : Shared.scanned ["docker-compose.yml"] = .ok (_, _) := rfl
  exact ⟨_, _, hscan, no_drift_iff_compatible rfl hscan (by decide) ⟨rfl, rfl⟩⟩

/-- The scan of both files succeeds, and the compose detector then finds that its subsystem has
another technology. -/
theorem shared_name_drifts : ∃ db' scan drift,
    Shared.scanned ["docker-compose.yml", "main.tf"] = .ok (db', scan) ∧
      (∀ out ∈ scan.detectors, out.errors = []) ∧
      (scan.truncated = false ∧ scan.stopped_early = false) ∧
      drift_repository 1 1 Shared.registry 200 (Shared.client ["docker-compose.yml", "main.tf"])
        db' = .ok drift ∧
      drift.detectors.map (·.report.subsystems_changed) =
        [[⟨"aws_db_instance.main", "technology", some "aws_db_instance", some "postgres",
          "docker-compose.yml"⟩], []] ∧
      drift.detectors.map (·.report.has_drift) = [true, false] :=
  ⟨_, _, _, rfl, by decide, ⟨rfl, rfl⟩, rfl, by decide, by decide⟩

end EnvMgr.Scanning

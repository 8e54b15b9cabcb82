/-
What a scan does to the edges.

A declared edge has two keys: the names `diff` compares it under and the ids
`apply` writes it under. The catalogue translates one into the other, one to one,
so what each of the two functions keeps of a repeated edge is the same. Whether
the insert after the delete raises depends on the rows the delete leaves alone.
-/
import EnvMgr.Scanning.Writing

namespace EnvMgr.Scanning

variable {db db' db₀ : Db} {edge : DeclaredEdge} {source : SubSystemSource} {st : Applying}
  {declared : DeclaredState}
variable {name : String} {row_id : ℕ} {edge_source : DependencySource}
  {items : List ((ℕ × ℕ) × DeclaredEdge)}
variable {key : String × String} {pair : ℕ × ℕ} {subs : List DeclaredSubsystem}

/-! ## The two keys of an edge -/

section

variable {system_id tenant_id : ℕ}

/-- The ids under which the catalogue lists a pair of names. -/
def listed_pair (db : Db) (system_id tenant_id : ℕ) (key : String × String) : Option (ℕ × ℕ) :=
  match listed_id db system_id tenant_id key.1, listed_id db system_id tenant_id key.2 with
  | some from_id, some to_id => some (from_id, to_id)
  | _, _ => none

theorem listed_pair_eq_some :
    listed_pair db system_id tenant_id key = some pair ↔
      listed_id db system_id tenant_id key.1 = some pair.1 ∧
        listed_id db system_id tenant_id key.2 = some pair.2 := by
  unfold listed_pair
  cases hfrom : listed_id db system_id tenant_id key.1 with
  | none => simp
  | some from_id =>
    cases hto : listed_id db system_id tenant_id key.2 with
    | none => simp
    | some to_id => simp only [Option.some.injEq, Prod.ext_iff]

theorem listed_pair_inj {key' : String × String}
    (h : listed_pair db system_id tenant_id key = some pair)
    (h' : listed_pair db system_id tenant_id key' = some pair) : key = key' := by
  rw [listed_pair_eq_some] at h h'
  exact Prod.ext (listed_id_inj h.1 h'.1) (listed_id_inj h.2 h'.2)

theorem edge_key_eq_some {by_name : Index String DeclaredSubsystem} :
    edge_key by_name edge = some key ↔
      edge.from_name ≠ edge.to_name ∧ edge.from_name ∈ by_name.keys ∧
        edge.to_name ∈ by_name.keys ∧ key = (edge.from_name, edge.to_name) := by
  unfold edge_key
  by_cases hself : edge.from_name = edge.to_name
  · simp [hself]
  · by_cases hends : edge.from_name ∉ by_name.keys ∨ edge.to_name ∉ by_name.keys
    · rw [if_neg hself, if_pos hends]
      refine iff_of_false nofun fun h => ?_
      exact hends.elim (fun hf => hf h.2.1) fun ht => ht h.2.2.1
    · rw [if_neg hself, if_neg hends]
      simp only [not_or, not_not] at hends
      simp only [Option.some.injEq, ne_eq, hself, not_false_eq_true, hends, true_and]
      exact eq_comm

theorem edge_ids_eq_some {declared_ids : Index String ℕ} :
    edge_ids declared_ids edge = some pair ↔
      declared_ids.get edge.from_name = some pair.1 ∧ declared_ids.get edge.to_name = some pair.2 ∧
        pair.1 ≠ pair.2 := by
  unfold edge_ids
  cases declared_ids.get edge.from_name with
  | none => simp
  | some from_id =>
    cases declared_ids.get edge.to_name with
    | none => simp
    | some to_id =>
      obtain ⟨one, two⟩ := pair
      simp only [Option.some.injEq]
      split
      · rename_i heq
        refine iff_of_false (Option.some_ne_none _).symm ?_
        rintro ⟨rfl, rfl, hne⟩
        exact hne heq
      · rename_i hne
        rw [Option.some.injEq, Prod.mk.injEq]
        constructor
        · rintro ⟨rfl, rfl⟩
          exact ⟨rfl, rfl, hne⟩
        · rintro ⟨rfl, rfl, -⟩
          exact ⟨rfl, rfl⟩

theorem Written.declared_id (h : Written system_id tenant_id source db₀ subs st) :
    st.declared_ids.get name = some row_id ↔
      name ∈ (declared_by_name subs).keys ∧
        listed_id st.db system_id tenant_id name = some row_id := by
  rw [h.declared_ids]
  split
  · rename_i hname
    exact (and_iff_right hname).symm
  · rename_i hname
    exact iff_of_false nofun fun hboth => hname hboth.1

/-- **An edge is written under the ids of the names it is compared under.** -/
theorem edge_ids_eq (h : Written system_id tenant_id source db₀ subs st) (edge : DeclaredEdge) :
    edge_ids st.declared_ids edge =
      (edge_key (declared_by_name subs) edge).bind (listed_pair st.db system_id tenant_id) := by
  ext pair
  simp only [edge_ids_eq_some, h.declared_id, Option.bind_eq_some_iff, edge_key_eq_some,
    listed_pair_eq_some]
  constructor
  · rintro ⟨⟨hfrom, hfrom_id⟩, ⟨hto, hto_id⟩, hne⟩
    refine ⟨_, ⟨fun hself => hne ?_, hfrom, hto, rfl⟩, hfrom_id, hto_id⟩
    rw [hself, hto_id] at hfrom_id
    exact (Option.some.inj hfrom_id).symm
  · rintro ⟨key, ⟨hself, hfrom, hto, rfl⟩, hfrom_id, hto_id⟩
    refine ⟨⟨hfrom, hfrom_id⟩, ⟨hto, hto_id⟩, fun heq => hself ?_⟩
    -- two names with one id are one name
    exact listed_id_inj (hfrom_id.trans (congrArg some heq)) hto_id

/-- What is written for a pair of ids is what is compared for their names. -/
theorem get_resolved_edges (h : Written system_id tenant_id source db₀ declared.subsystems st) :
    (resolved_edges st.declared_ids declared.edges).get pair = some edge ↔
      ∃ key, listed_pair st.db system_id tenant_id key = some pair ∧
        (declared_edges declared).get key = some edge := by
  have hkeys : edge_ids st.declared_ids = fun e =>
      (edge_key (declared_by_name declared.subsystems) e).bind
        (listed_pair st.db system_id tenant_id) :=
    funext fun e => edge_ids_eq h e
  -- names and ids of listed subsystems determine each other, so both keep the same last edge
  have hget : ∀ {key}, listed_pair st.db system_id tenant_id key = some pair →
      (resolved_edges st.declared_ids declared.edges).get pair = (declared_edges declared).get key := by
    intro key hkey
    rw [resolved_edges, hkeys, declared_edges]
    exact Index.get_collect_bind listed_pair_inj hkey
  constructor
  · intro hedge
    have hpair := (Index.get_collect_some hedge).2
    rw [edge_ids_eq h, Option.bind_eq_some_iff] at hpair
    obtain ⟨key, -, hkey⟩ := hpair
    exact ⟨key, hkey, (hget hkey).symm.trans hedge⟩
  · rintro ⟨key, hkey, hedge⟩
    exact (hget hkey).trans hedge

theorem declared_edge_listed (h : Written system_id tenant_id source db₀ declared.subsystems st)
    (hedge : (declared_edges declared).get key = some edge) :
    ∃ pair, listed_pair st.db system_id tenant_id key = some pair := by
  obtain ⟨-, hkey⟩ := Index.get_collect_some hedge
  obtain ⟨-, hfrom, hto, rfl⟩ := edge_key_eq_some.1 hkey
  obtain ⟨from_id, hfrom_id⟩ := mem_catalogue_keys.1 ((h.listed _).2 (Or.inr hfrom))
  obtain ⟨to_id, hto_id⟩ := mem_catalogue_keys.1 ((h.listed _).2 (Or.inr hto))
  exact ⟨(from_id, to_id), listed_pair_eq_some.2 ⟨hfrom_id, hto_id⟩⟩

/-! ## The rows of the catalogue's edges -/

theorem name_by_id_eq_some :
    name_by_id (catalogue db system_id tenant_id) row_id = some name ↔
      listed_id db system_id tenant_id name = some row_id := by
  have hitem : ∀ {item : String × SubSystem}, item ∈ (catalogue db system_id tenant_id).items →
      listed_id db system_id tenant_id item.1 = some item.2.id := by
    intro item hitem
    rw [listed_id, Index.get_eq_some.2 hitem, Option.map_some]
  rw [name_by_id, Option.map_eq_some_iff]
  constructor
  · rintro ⟨item, hget, rfl⟩
    obtain ⟨hmem, hid⟩ := Index.get_collect_some hget
    rw [hitem hmem, Option.some.inj hid]
  · intro h
    obtain ⟨row, hrow, rfl⟩ := Option.map_eq_some_iff.1 h
    refine ⟨(name, row), Index.get_collect_of_unique (Index.get_eq_some.1 hrow) rfl ?_, rfl⟩
    -- no other name has the id
    intro other hother hid
    have hsame : other.1 = name := by
      refine listed_id_inj (hitem hother) ?_
      rw [Option.some.inj hid]
      exact h
    refine Prod.ext hsame (Index.value_eq hother ?_)
    rw [hsame]
    exact Index.get_eq_some.1 hrow

theorem edge_names_eq_some {d : ComponentDependency} :
    edge_names (catalogue db system_id tenant_id) d = some key ↔
      listed_pair db system_id tenant_id key = some (d.from_subsystem_id, d.to_subsystem_id) := by
  rw [listed_pair_eq_some, ← name_by_id_eq_some, ← name_by_id_eq_some, edge_names]
  cases name_by_id (catalogue db system_id tenant_id) d.from_subsystem_id with
  | none => simp
  | some from_name =>
    cases name_by_id (catalogue db system_id tenant_id) d.to_subsystem_id with
    | none => simp
    | some to_name => simp only [Option.some.injEq, Prod.ext_iff]

/-- The one row of a pair, whatever its source. -/
theorem get_catalogue_edges_by_pair {d : ComponentDependency} :
    (catalogue_edges_by_pair db tenant_id (catalogue db system_id tenant_id)).get key = some d ↔
      d ∈ db.dependencies ∧ d.tenant_id = tenant_id ∧
        listed_pair db system_id tenant_id key =
          some (d.from_subsystem_id, d.to_subsystem_id) := by
  constructor
  · intro h
    obtain ⟨hmem, hkey⟩ := Index.get_collect_some h
    obtain ⟨hd, htenant⟩ := Table.mem_select.1 hmem
    exact ⟨hd, of_decide_eq_true htenant, edge_names_eq_some.1 hkey⟩
  · rintro ⟨hd, htenant, hkey⟩
    refine Index.get_collect_of_unique (Table.mem_select.2 ⟨hd, decide_eq_true htenant⟩)
      (edge_names_eq_some.2 hkey) ?_
    intro other hother hother_key
    obtain ⟨hmem, hother_tenant⟩ := Table.mem_select.1 hother
    have hpair := (edge_names_eq_some.1 hother_key).symm.trans hkey
    obtain ⟨hfrom, hto⟩ := Prod.mk.inj (Option.some.inj hpair)
    exact db.uq_component_dep other hmem d hd
      ⟨hfrom, hto, (of_decide_eq_true hother_tenant).trans htenant.symm⟩

/-! ## The write -/

/-- The row `uq_component_dep` allows for a pair is there. -/
def ComponentDependency.Occupies (tenant_id : ℕ) (pair : ℕ × ℕ) (d : ComponentDependency) : Prop :=
  d.from_subsystem_id = pair.1 ∧ d.to_subsystem_id = pair.2 ∧ d.tenant_id = tenant_id

theorem add_dependency_ok {new : Table.New ComponentDependency.id}
    (h : db.add_dependency new = .ok db') :
    db'.subsystems = db.subsystems ∧ db'.dependencies = db.dependencies.insert new ∧
      db'.endpoints = db.endpoints := by
  unfold Db.add_dependency at h
  simp only at h
  split at h
  · split at h
    · obtain rfl := Except.ok.inj h
      exact ⟨rfl, rfl, rfl⟩
    · cases h
  · cases h

/-- With both ends there, only a row of the same pair stands in the way. -/
theorem add_dependency_cases (tenant_id : ℕ) (edge_source : DependencySource)
    {item : (ℕ × ℕ) × DeclaredEdge}
    (hends : (∃ s ∈ db.subsystems, s.id = item.1.1) ∧ ∃ s ∈ db.subsystems, s.id = item.1.2) :
    ((∃ db', db.add_dependency (new_dependency tenant_id edge_source item) = .ok db') ∧
        ∀ d ∈ db.dependencies, ¬ d.Occupies tenant_id item.1) ∨
      (db.add_dependency (new_dependency tenant_id edge_source item)
          = .error (.violates .uq_component_dep) ∧
        ∃ d ∈ db.dependencies, d.Occupies tenant_id item.1) := by
  have hrow : (∃ s ∈ db.subsystems, s.id =
        ((new_dependency tenant_id edge_source item).row db.dependencies.next).from_subsystem_id) ∧
      ∃ s ∈ db.subsystems, s.id =
        ((new_dependency tenant_id edge_source item).row db.dependencies.next).to_subsystem_id :=
    hends
  simp only [Db.add_dependency, dif_pos hrow]
  split
  · rename_i hfree
    exact Or.inl ⟨⟨_, rfl⟩, hfree⟩
  · rename_i htaken
    push Not at htaken
    exact Or.inr ⟨rfl, htaken⟩

theorem add_dependencies_ok (h : items.foldlM (fun db item =>
      db.add_dependency (new_dependency tenant_id edge_source item)) db = .ok db') :
    db'.subsystems = db.subsystems ∧
      db'.dependencies =
        db.dependencies.insert_all (items.map (new_dependency tenant_id edge_source)) ∧
      db'.endpoints = db.endpoints := by
  induction items generalizing db with
  | nil =>
    obtain rfl : db = db' := by simpa using h
    exact ⟨rfl, rfl, rfl⟩
  | cons item items ih =>
    rw [List.foldlM_cons, bind_eq_ok] at h
    obtain ⟨mid, hadd, hrest⟩ := h
    obtain ⟨hsubs, hdeps, hends⟩ := add_dependency_ok hadd
    obtain ⟨hsubs', hdeps', hends'⟩ := ih hrest
    refine ⟨hsubs'.trans hsubs, ?_, hends'.trans hends⟩
    rw [hdeps', hdeps]
    rfl

/-- **The inserts go through exactly if no pair they are for is occupied.** -/
theorem add_dependencies_cases (tenant_id : ℕ) (edge_source : DependencySource) (db : Db)
    (hnodup : (items.map Prod.fst).Nodup)
    (hends : ∀ item ∈ items, (∃ s ∈ db.subsystems, s.id = item.1.1) ∧
      ∃ s ∈ db.subsystems, s.id = item.1.2) :
    ((∃ db', items.foldlM (fun db item =>
          db.add_dependency (new_dependency tenant_id edge_source item)) db = .ok db') ∧
        ∀ item ∈ items, ∀ d ∈ db.dependencies, ¬ d.Occupies tenant_id item.1) ∨
      (items.foldlM (fun db item =>
          db.add_dependency (new_dependency tenant_id edge_source item)) db
          = .error (.violates .uq_component_dep) ∧
        ∃ item ∈ items, ∃ d ∈ db.dependencies, d.Occupies tenant_id item.1) := by
  induction items generalizing db with
  | nil => exact Or.inl ⟨⟨db, rfl⟩, by simp⟩
  | cons item items ih =>
    rw [List.map_cons, List.nodup_cons] at hnodup
    rw [List.foldlM_cons]
    rcases add_dependency_cases tenant_id edge_source
        (hends item (List.mem_cons_self ..)) with ⟨⟨mid, hadd⟩, hfree⟩ | ⟨hadd, htaken⟩
    · obtain ⟨hsubs, hdeps, -⟩ := add_dependency_ok hadd
      have hends_mid : ∀ i ∈ items, (∃ s ∈ mid.subsystems, s.id = i.1.1) ∧
          ∃ s ∈ mid.subsystems, s.id = i.1.2 := by
        rw [hsubs]
        exact fun i hi => hends i (List.mem_cons_of_mem _ hi)
      -- the row just written occupies its own pair, which comes once
      have hmid : ∀ i ∈ items, (∃ d ∈ mid.dependencies, d.Occupies tenant_id i.1) ↔
          ∃ d ∈ db.dependencies, d.Occupies tenant_id i.1 := by
        intro i hi
        rw [hdeps]
        constructor
        · rintro ⟨d, hd, hocc⟩
          rcases Table.mem_insert.1 hd with hd | rfl
          · exact ⟨d, hd, hocc⟩
          · refine absurd (List.mem_map.2 ⟨i, hi, ?_⟩) hnodup.1
            exact Prod.ext hocc.1.symm hocc.2.1.symm
        · rintro ⟨d, hd, hocc⟩
          exact ⟨d, Table.mem_insert.2 (Or.inl hd), hocc⟩
      rw [hadd]
      rcases ih mid hnodup.2 hends_mid with ⟨hok, hrest⟩ | ⟨herr, i, hi, htaken⟩
      · refine Or.inl ⟨hok, ?_⟩
        rintro i hi d hd hocc
        rcases List.mem_cons.1 hi with rfl | hi
        · exact hfree d hd hocc
        · obtain ⟨d', hd', hocc'⟩ := (hmid i hi).2 ⟨d, hd, hocc⟩
          exact hrest i hi d' hd' hocc'
      · exact Or.inr ⟨herr, i, List.mem_cons_of_mem _ hi, (hmid i hi).1 htaken⟩
    · exact Or.inr ⟨by rw [hadd]; rfl, item, List.mem_cons_self .., htaken⟩

/-- The edges a scan of this source may delete: those that start in the system. -/
def Owned (db : Db) (system_id tenant_id : ℕ) (edge_source : Option DependencySource)
    (d : ComponentDependency) : Prop :=
  d.tenant_id = tenant_id ∧
    (∃ name, listed_id db system_id tenant_id name = some d.from_subsystem_id) ∧
    edge_source = some d.source

/-- The rows the delete is for. -/
def Applying.owned (st : Applying) (tenant_id : ℕ) (edge_source : DependencySource) :
    ComponentDependency → Bool :=
  scan_owned tenant_id (st.existing.values.map SubSystem.id) edge_source

theorem owned_iff (h : Written system_id tenant_id source db₀ subs st)
    (edge_source : DependencySource) (d : ComponentDependency) :
    st.owned tenant_id edge_source d = true ↔
      Owned st.db system_id tenant_id (some edge_source) d := by
  have hids : d.from_subsystem_id ∈ st.existing.values.map SubSystem.id ↔
      ∃ name, listed_id st.db system_id tenant_id name = some d.from_subsystem_id := by
    simp only [← h.existing, List.mem_map, Index.mem_values, Option.map_eq_some_iff]
    constructor
    · rintro ⟨row, ⟨name, hget⟩, hid⟩
      exact ⟨name, row, hget, hid⟩
    · rintro ⟨name, row, hget, hid⟩
      exact ⟨row, ⟨name, hget⟩, hid⟩
  rw [Applying.owned, scan_owned, decide_eq_true_eq, hids, Owned, Option.some.injEq,
    eq_comm (a := d.source)]

/-- The catalogue with this source's edges cleared away. -/
def Applying.cleared (st : Applying) (tenant_id : ℕ) (edge_source : DependencySource) : Db :=
  st.db.delete_dependencies (st.owned tenant_id edge_source)

theorem cleared_eq (st : Applying) (edge_source : DependencySource) :
    (if st.existing.values.map SubSystem.id = [] then st.db
      else st.db.delete_dependencies
        (scan_owned tenant_id (st.existing.values.map SubSystem.id) edge_source)) =
      st.cleared tenant_id edge_source := by
  split
  · rename_i hempty
    have hnone : ∀ d, st.owned tenant_id edge_source d = false := by
      intro d
      rw [Applying.owned, hempty]
      exact decide_eq_false fun h => List.not_mem_nil h.2.1
    have hdeps : (st.cleared tenant_id edge_source).dependencies = st.db.dependencies :=
      Table.delete_eq_self fun d _ => hnone d
    have hends : (st.cleared tenant_id edge_source).endpoints = st.db.endpoints := by
      refine Table.delete_eq_self fun e _ => decide_eq_false ?_
      rintro ⟨d, -, -, hd⟩
      rw [hnone] at hd
      cases hd
    exact Db.ext rfl hdeps.symm hends.symm
  · rfl

theorem resolved_ends (h : Written system_id tenant_id source db₀ declared.subsystems st) :
    ∀ item ∈ (resolved_edges st.declared_ids declared.edges).items,
      (∃ s ∈ st.db.subsystems, s.id = item.1.1) ∧ ∃ s ∈ st.db.subsystems, s.id = item.1.2 := by
  intro item hitem
  obtain ⟨key, hkey, -⟩ := (get_resolved_edges h).1 (Index.get_eq_some.2 hitem)
  rw [listed_pair_eq_some] at hkey
  obtain ⟨s, hs, -, -, hid⟩ := listed_id_eq_some.1 hkey.1
  obtain ⟨s', hs', -, -, hid'⟩ := listed_id_eq_some.1 hkey.2
  exact ⟨⟨s, hs, hid⟩, s', hs', hid'⟩

/-- **The edge half.** It succeeds unless an edge of another source occupies the pair of
a declared edge. -/
theorem apply_edges_cases (h : Written system_id tenant_id source db₀ declared.subsystems st)
    (edge_source : DependencySource) :
    (∃ db' result, apply_edges tenant_id st edge_source declared.edges = .ok (db', result) ∧
        db'.subsystems = st.db.subsystems ∧
        db'.dependencies = (st.db.dependencies.delete (st.owned tenant_id edge_source)).insert_all
          ((resolved_edges st.declared_ids declared.edges).items.map
            (new_dependency tenant_id edge_source)) ∧
        db'.endpoints = (st.cleared tenant_id edge_source).endpoints ∧
        result.subsystems_created = st.result.subsystems_created ∧
        ∀ key pair, (declared_edges declared).get key ≠ none →
          listed_pair st.db system_id tenant_id key = some pair →
          ∀ d ∈ st.db.dependencies, d.Occupies tenant_id pair → d.source = edge_source) ∨
      (apply_edges tenant_id st edge_source declared.edges
          = .error (.violates .uq_component_dep) ∧
        ∃ key pair, (declared_edges declared).get key ≠ none ∧
          listed_pair st.db system_id tenant_id key = some pair ∧
          ∃ d ∈ st.db.dependencies, d.Occupies tenant_id pair ∧ d.source ≠ edge_source) := by
  have hkept : ∀ d, d ∈ (st.cleared tenant_id edge_source).dependencies ↔
      d ∈ st.db.dependencies ∧ ¬ Owned st.db system_id tenant_id (some edge_source) d := by
    intro d
    rw [← owned_iff h, Bool.not_eq_true]
    exact Table.mem_delete
  -- a row in the way of a declared edge starts in the system, so only its source saves it
  have hsource : ∀ {key pair d}, listed_pair st.db system_id tenant_id key = some pair →
      d.Occupies tenant_id pair →
      (Owned st.db system_id tenant_id (some edge_source) d ↔ d.source = edge_source) := by
    intro key pair d hkey hocc
    rw [listed_pair_eq_some] at hkey
    constructor
    · intro howned
      exact (Option.some.inj howned.2.2).symm
    · intro heq
      refine ⟨hocc.2.2, ⟨key.1, ?_⟩, congrArg some heq.symm⟩
      rw [hkey.1, hocc.1]
  unfold apply_edges
  simp only [cleared_eq]
  rcases add_dependencies_cases tenant_id edge_source (st.cleared tenant_id edge_source)
      (resolved_edges st.declared_ids declared.edges).keys_nodup (resolved_ends h) with
    ⟨⟨db', hok⟩, hfree⟩ | ⟨herr, item, hitem, d, hd, hocc⟩
  · obtain ⟨hsubs, hdeps, hends⟩ := add_dependencies_ok hok
    have hwritten : (resolved_edges st.declared_ids declared.edges).items.foldlM
        (fun db item => db.add_dependency (new_dependency tenant_id edge_source item))
        (st.cleared tenant_id edge_source) >>= (fun db => pure (db, { st.result with
          dependencies_written := (resolved_edges st.declared_ids declared.edges).items.length }))
        = Except.ok (db', { st.result with dependencies_written :=
          (resolved_edges st.declared_ids declared.edges).items.length }) := by
      rw [hok]
      rfl
    refine Or.inl ⟨db', _, hwritten, hsubs, hdeps, hends, rfl, ?_⟩
    intro key pair hdeclared hkey d hd hocc
    obtain ⟨edge, hedge⟩ := Option.ne_none_iff_exists'.1 hdeclared
    have hitem := Index.get_eq_some.1 ((get_resolved_edges h).2 ⟨key, hkey, hedge⟩)
    by_contra hne
    exact hfree _ hitem d ((hkept d).2 ⟨hd, fun howned => hne ((hsource hkey hocc).1 howned)⟩) hocc
  · obtain ⟨key, hkey, hedge⟩ := (get_resolved_edges h).1 (Index.get_eq_some.2 hitem)
    obtain ⟨hd, hnot⟩ := (hkept d).1 hd
    refine Or.inr ⟨by rw [herr]; rfl, key, item.1, by rw [hedge]; exact Option.some_ne_none _,
      hkey, d, hd, hocc, ?_⟩
    exact fun heq => hnot ((hsource hkey hocc).2 heq)

/-- What the edge half writes where it goes through. -/
theorem apply_edges_ok {result : ApplyResult}
    (h : Written system_id tenant_id source db₀ declared.subsystems st)
    (hok : apply_edges tenant_id st edge_source declared.edges = .ok (db', result)) :
    db'.subsystems = st.db.subsystems ∧
      db'.dependencies = (st.db.dependencies.delete (st.owned tenant_id edge_source)).insert_all
        ((resolved_edges st.declared_ids declared.edges).items.map
          (new_dependency tenant_id edge_source)) ∧
      db'.endpoints = (st.cleared tenant_id edge_source).endpoints ∧
      result.subsystems_created = st.result.subsystems_created := by
  rcases apply_edges_cases h edge_source with
    ⟨db₁, r, hdone, hsubs, hdeps, hends, hcreated, -⟩ | ⟨herr, -⟩
  · obtain ⟨rfl, rfl⟩ := Prod.mk.inj (Except.ok.inj (hdone.symm.trans hok))
    exact ⟨hsubs, hdeps, hends, hcreated⟩
  · cases herr.symm.trans hok

end

end EnvMgr.Scanning

/-
What the topology endpoints answer: `environment_service.get_environment_topology` and
`topology_service.get_system_topology`.

The answer is a graph. Its nodes are the subsystems that have a row in the environment
and, outside it, the live subsystems they depend on or are depended on by; its edges are
the dependencies that touch the environment. The two unique indexes behind it (a
subsystem has one row in an environment, a row has one key) are what makes an id of the
answer name one node and one edge. Around a system it is the same graph, but for its nodes
inside: they are the live subsystems of the system.
-/
import EnvMgr.Contents.Service

namespace EnvMgr.Topology

open Contents (EnvironmentSubSystem System get_environment get_system)
open Scanning (ComponentDependency SubSystem)

variable {row : EnvironmentSubSystem}

/-! ## Tables -/

structure EnvironmentSubSystemHost where
  id : ℕ
  tenant_id : ℕ
  environment_subsystem_id : ℕ
  infrastructure_component_id : ℕ
  role : Option String
  deleted_at : Option DateTime
  deriving DecidableEq

structure InfrastructureComponent where
  id : ℕ
  tenant_id : ℕ
  name : String
  component_type : String
  deleted_at : Option DateTime
  deriving DecidableEq

structure Db where
  contents : Contents.Db
  hosts : Table EnvironmentSubSystemHost EnvironmentSubSystemHost.id
  infrastructure : Table InfrastructureComponent InfrastructureComponent.id
  uq_env_subsystem : ∀ a ∈ contents.environment_subsystems,
    ∀ b ∈ contents.environment_subsystems,
      a.environment_id = b.environment_id → a.subsystem_id = b.subsystem_id → a = b
  fk_subsystem : ∀ r ∈ contents.environment_subsystems,
    ∃ s ∈ contents.catalogue.subsystems, s.id = r.subsystem_id

/-! ## The answer -/

structure EnvSubsystemHostRef where
  infrastructure_component_id : ℕ
  name : String
  component_type : String
  role : Option String
  deriving DecidableEq

structure EnvSubsystemNode where
  id : ℕ
  name : String
  component_type : String
  technology : Option String
  system_id : ℕ
  is_mocked : Bool
  hosts : List EnvSubsystemHostRef
  deriving DecidableEq

structure EnvironmentTopologyResponse where
  environment_id : ℕ
  subsystems : List EnvSubsystemNode
  dependencies : List ComponentDependency
  system_names : Index String String
  outside_subsystems : List EnvSubsystemNode
  outside_dependencies : List ComponentDependency

section Answer

variable (db : Db) (env_id tenant_id : ℕ)

/-- `row.subsystem`. -/
def subsystem_of (row : EnvironmentSubSystem) : Option SubSystem :=
  db.contents.catalogue.subsystems.select_one fun s => s.id = row.subsystem_id

/-- A host that was taken away, or that belongs to another tenant, is not shown. -/
def host_ref (host_row : EnvironmentSubSystemHost) : Option EnvSubsystemHostRef :=
  if host_row.deleted_at ≠ none then none
  else
    match db.infrastructure.select_one fun c => c.id = host_row.infrastructure_component_id with
    | none => none
    | some comp =>
      if comp.deleted_at ≠ none ∨ comp.tenant_id ≠ tenant_id then none
      else some
        { infrastructure_component_id := comp.id
          name := comp.name
          component_type := comp.component_type
          role := host_row.role }

/-- A node for a row of the environment. -/
def subsystem_node (row : EnvironmentSubSystem) : Option EnvSubsystemNode :=
  (subsystem_of db row).map fun sub =>
    { id := sub.id
      name := sub.name
      component_type := sub.component_type
      technology := sub.technology
      system_id := sub.system_id
      is_mocked := row.is_mocked
      hosts := (db.hosts.select fun h => h.environment_subsystem_id = row.id).filterMap
        (host_ref db tenant_id) }

/-- A node for a subsystem outside the environment. -/
def outside_node (sub : SubSystem) : EnvSubsystemNode where
  id := sub.id
  name := sub.name
  component_type := sub.component_type
  technology := sub.technology
  system_id := sub.system_id
  is_mocked := false
  hosts := []

def env_sub_rows : List EnvironmentSubSystem :=
  db.contents.environment_subsystems.select fun r =>
    r.environment_id = env_id ∧ r.tenant_id = tenant_id

def env_subsystem_ids : List ℕ := (env_sub_rows db env_id tenant_id).map (·.subsystem_id)

/-- Both ends have a row in the environment. -/
def internal_deps : List ComponentDependency :=
  db.contents.catalogue.dependencies.select fun d =>
    d.tenant_id = tenant_id ∧ d.from_subsystem_id ∈ env_subsystem_ids db env_id tenant_id ∧
      d.to_subsystem_id ∈ env_subsystem_ids db env_id tenant_id

/-- Exactly one end has a row in the environment. -/
def crossing_deps : List ComponentDependency :=
  db.contents.catalogue.dependencies.select fun d =>
    d.tenant_id = tenant_id ∧
      ((d.from_subsystem_id ∈ env_subsystem_ids db env_id tenant_id ∧
          d.to_subsystem_id ∉ env_subsystem_ids db env_id tenant_id) ∨
        (d.to_subsystem_id ∈ env_subsystem_ids db env_id tenant_id ∧
          d.from_subsystem_id ∉ env_subsystem_ids db env_id tenant_id))

def outside_sub_ids : List ℕ :=
  (crossing_deps db env_id tenant_id).flatMap fun dep =>
    [dep.from_subsystem_id, dep.to_subsystem_id].filter
      (· ∉ env_subsystem_ids db env_id tenant_id)

def outside_subsystems : List SubSystem :=
  db.contents.catalogue.subsystems.select fun s =>
    s.id ∈ outside_sub_ids db env_id tenant_id ∧ s.tenant_id = tenant_id ∧ s.deleted_at = none

/-- The id is that of a subsystem the answer has. -/
def Found (id : ℕ) : Prop :=
  id ∈ env_subsystem_ids db env_id tenant_id ∨
    id ∈ (outside_subsystems db env_id tenant_id).map SubSystem.id
  deriving Decidable

/-- A dependency on a subsystem that was deleted, or is another tenant's, is dropped. -/
def cross_deps : List ComponentDependency :=
  (crossing_deps db env_id tenant_id).filter fun d =>
    Found db env_id tenant_id d.from_subsystem_id ∧ Found db env_id tenant_id d.to_subsystem_id

/-- `for s in select(System).where(System.id.in_(ids), ..): names[s.id] = s.name`. -/
def name_systems (ids : List ℕ) (names : Index ℕ String) : Index ℕ String :=
  (db.contents.systems.select fun y => y.id ∈ ids ∧ y.tenant_id = tenant_id).foldl
    (fun names y => names.set y.id y.name) names

/-- `{str(k): v for k, v in names.items()}`. -/
def by_text (names : Index ℕ String) : Index String String :=
  names.items.foldl (fun d i => d.set (toString i.1) i.2) Index.empty

def get_environment_topology : Except Raised EnvironmentTopologyResponse := do
  let _ ← get_environment db.contents env_id tenant_id
  let rows := env_sub_rows db env_id tenant_id
  if rows = [] then
    .ok ⟨env_id, [], [], Index.empty, [], []⟩
  else do
    let system_ids := rows.filterMap fun row => (subsystem_of db row).map (·.system_id)
    let outside := outside_subsystems db env_id tenant_id
    let outside_system_ids := (outside.map (·.system_id)).filter (· ∉ system_ids)
    .ok
      { environment_id := env_id
        subsystems := rows.filterMap (subsystem_node db tenant_id)
        dependencies := internal_deps db env_id tenant_id
        system_names := by_text (name_systems db tenant_id outside_system_ids
          (name_systems db tenant_id system_ids Index.empty))
        outside_subsystems := outside.map outside_node
        outside_dependencies := cross_deps db env_id tenant_id }

end Answer

/-! ## Ids -/

section Ids

variable {db : Db} {env_id tenant_id : ℕ} {data : EnvironmentTopologyResponse}

theorem subsystem_of_id {sub : SubSystem}
    (h : subsystem_of db row = some sub) : sub.id = row.subsystem_id := by
  have hfound := Table.select_one_some h
  simpa using hfound.2

theorem subsystem_node_id {node : EnvSubsystemNode}
    (h : subsystem_node db tenant_id row = some node) : node.id = row.subsystem_id := by
  obtain ⟨sub, hsub, rfl⟩ := Option.map_eq_some_iff.1 h
  exact subsystem_of_id hsub

/-- A row of the environment has its subsystem, so it has a node. -/
theorem exists_subsystem_node (h : row ∈ db.contents.environment_subsystems) :
    ∃ node, subsystem_node db tenant_id row = some node := by
  obtain ⟨s, hs, hid⟩ := db.fk_subsystem row h
  cases hsub : subsystem_of db row with
  | none =>
    have hne := Table.select_one_none hsub hs
    exact absurd hid (by simpa using hne)
  | some sub => exact ⟨_, Option.map_eq_some_iff.2 ⟨sub, hsub, rfl⟩⟩

theorem mem_env_sub_rows : row ∈ env_sub_rows db env_id tenant_id ↔
    row ∈ db.contents.environment_subsystems ∧ row.environment_id = env_id ∧
      row.tenant_id = tenant_id := by
  rw [env_sub_rows, Table.mem_select, decide_eq_true_eq]

theorem env_subsystem_ids_nodup (db : Db) (env_id tenant_id : ℕ) :
    (env_subsystem_ids db env_id tenant_id).Nodup := by
  refine List.Nodup.map_on ?_ (db.contents.environment_subsystems.rows_nodup.filter _)
  intro a ha b hb hid
  obtain ⟨hmem, henv, -⟩ := mem_env_sub_rows.1 ha
  obtain ⟨hmem', henv', -⟩ := mem_env_sub_rows.1 hb
  exact db.uq_env_subsystem a hmem b hmem' (henv.trans henv'.symm) hid

theorem node_ids_nodup (db : Db) (env_id tenant_id : ℕ) :
    (((env_sub_rows db env_id tenant_id).filterMap (subsystem_node db tenant_id)).map
      EnvSubsystemNode.id).Nodup := by
  have hrows := env_subsystem_ids_nodup db env_id tenant_id
  rw [List.Nodup, List.pairwise_map, List.pairwise_filterMap]
  rw [env_subsystem_ids, List.Nodup, List.pairwise_map] at hrows
  refine hrows.imp ?_
  intro a b hne node hnode node' hnode'
  rwa [subsystem_node_id hnode, subsystem_node_id hnode']

theorem mem_node_ids {id : ℕ} :
    id ∈ ((env_sub_rows db env_id tenant_id).filterMap (subsystem_node db tenant_id)).map
      EnvSubsystemNode.id ↔ id ∈ env_subsystem_ids db env_id tenant_id := by
  simp only [List.mem_map, List.mem_filterMap, env_subsystem_ids]
  constructor
  · rintro ⟨node, ⟨row, hrow, hnode⟩, rfl⟩
    exact ⟨row, hrow, (subsystem_node_id hnode).symm⟩
  · rintro ⟨row, hrow, rfl⟩
    obtain ⟨node, hnode⟩ := exists_subsystem_node (mem_env_sub_rows.1 hrow).1
    exact ⟨node, ⟨row, hrow, hnode⟩, subsystem_node_id hnode⟩

theorem outside_not_env {s : SubSystem} (h : s ∈ outside_subsystems db env_id tenant_id) :
    s.id ∉ env_subsystem_ids db env_id tenant_id := by
  rw [outside_subsystems, Table.mem_select, decide_eq_true_eq] at h
  obtain ⟨dep, -, hmem⟩ := List.mem_flatMap.1 h.2.1
  simpa using (List.mem_filter.1 hmem).2

/-- What holds between the ids of an answer. -/
structure EnvironmentTopologyResponse.WellFormed (data : EnvironmentTopologyResponse) : Prop where
  nodes_nodup : ((data.subsystems ++ data.outside_subsystems).map EnvSubsystemNode.id).Nodup
  deps_nodup :
    ((data.dependencies ++ data.outside_dependencies).map ComponentDependency.id).Nodup
  closed : ∀ d ∈ data.dependencies ++ data.outside_dependencies,
    d.from_subsystem_id ∈ (data.subsystems ++ data.outside_subsystems).map EnvSubsystemNode.id ∧
      d.to_subsystem_id ∈ (data.subsystems ++ data.outside_subsystems).map EnvSubsystemNode.id

/-- The dependencies inside a set of subsystems and those across its border have ids of
their own. -/
theorem deps_apart (deps : Table ComponentDependency ComponentDependency.id) (tenant_id : ℕ)
    (ids : List ℕ) (found : ComponentDependency → Bool) :
    ((deps.select (fun d => d.tenant_id = tenant_id ∧ d.from_subsystem_id ∈ ids ∧
        d.to_subsystem_id ∈ ids) ++
      (deps.select (fun d => d.tenant_id = tenant_id ∧
        ((d.from_subsystem_id ∈ ids ∧ d.to_subsystem_id ∉ ids) ∨
          (d.to_subsystem_id ∈ ids ∧ d.from_subsystem_id ∉ ids)))).filter found).map
      ComponentDependency.id).Nodup := by
  refine List.Nodup.map_on ?_ ?_
  · intro d hd d' hd'
    refine List.inj_on_of_nodup_map deps.keys_nodup ?_ ?_
    · rcases List.mem_append.1 hd with hd | hd
      · exact List.mem_of_mem_filter hd
      · exact List.mem_of_mem_filter (List.mem_of_mem_filter hd)
    · rcases List.mem_append.1 hd' with hd' | hd'
      · exact List.mem_of_mem_filter hd'
      · exact List.mem_of_mem_filter (List.mem_of_mem_filter hd')
  rw [List.nodup_append]
  refine ⟨deps.rows_nodup.filter _, (deps.rows_nodup.filter _).filter _, ?_⟩
  -- an internal dependency has both ends inside, a crossing one has an end outside
  rintro d hd _ hd' rfl
  have hin := (List.mem_filter.1 hd).2
  have hout := (List.mem_filter.1 (List.mem_of_mem_filter hd')).2
  rw [decide_eq_true_eq] at hin hout
  rcases hout.2 with hout | hout
  · exact hout.2 hin.2.2
  · exact hout.2 hin.2.1

/-- **The answer is a graph**: an id names one node and one edge, and the ends of every edge
are nodes. -/
theorem topology_wellFormed (h : get_environment_topology db env_id tenant_id = .ok data) :
    data.WellFormed := by
  rw [get_environment_topology, bind_eq_ok] at h
  obtain ⟨env, -, h⟩ := h
  dsimp only at h
  split_ifs at h with hrows
  · obtain rfl := Except.ok.inj h
    exact ⟨by simp, by simp, by simp⟩
  obtain rfl := Except.ok.inj h
  have hfound : ∀ id, Found db env_id tenant_id id →
      id ∈ ((env_sub_rows db env_id tenant_id).filterMap (subsystem_node db tenant_id) ++
        (outside_subsystems db env_id tenant_id).map outside_node).map EnvSubsystemNode.id := by
    rintro id (hid | hid)
    · rw [List.map_append, List.mem_append]
      exact Or.inl (mem_node_ids.2 hid)
    · rw [List.map_append, List.mem_append, List.map_map]
      exact Or.inr hid
  refine ⟨?_, deps_apart _ tenant_id _ _, ?_⟩
  · rw [List.map_append, List.nodup_append]
    refine ⟨node_ids_nodup db env_id tenant_id, ?_, ?_⟩
    · rw [List.map_map]
      exact db.contents.catalogue.subsystems.keys_nodup.sublist (List.filter_sublist.map _)
    · rintro id hid _ hid' rfl
      rw [List.map_map] at hid'
      obtain ⟨s, hs, rfl⟩ := List.mem_map.1 hid'
      exact outside_not_env hs (mem_node_ids.1 hid)
  · intro d hd
    rcases List.mem_append.1 hd with hd | hd
    · have hin := (List.mem_filter.1 hd).2
      rw [decide_eq_true_eq] at hin
      exact ⟨hfound _ (Or.inl hin.2.1), hfound _ (Or.inl hin.2.2)⟩
    · have hin := (List.mem_filter.1 hd).2
      rw [decide_eq_true_eq] at hin
      exact ⟨hfound _ hin.1, hfound _ hin.2⟩

/-- In the environment, or a live subsystem of the tenant outside it. -/
def Within (db : Db) (env_id tenant_id id : ℕ) : Prop :=
  id ∈ env_subsystem_ids db env_id tenant_id ∨ ∃ s ∈ db.contents.catalogue.subsystems,
    s.id = id ∧ s.tenant_id = tenant_id ∧ s.deleted_at = none

/-- The answer looks up the ends of the dependencies across the border. -/
theorem found_iff {d : ComponentDependency} {id : ℕ} (hd : d ∈ crossing_deps db env_id tenant_id)
    (hend : id = d.from_subsystem_id ∨ id = d.to_subsystem_id) :
    Found db env_id tenant_id id ↔ Within db env_id tenant_id id := by
  by_cases hid : id ∈ env_subsystem_ids db env_id tenant_id
  · exact iff_of_true (Or.inl hid) (Or.inl hid)
  rw [Found, Within, or_iff_right hid, or_iff_right hid, List.mem_map]
  constructor
  · rintro ⟨s, hs, hsid⟩
    rw [outside_subsystems, Table.mem_select, decide_eq_true_eq] at hs
    exact ⟨s, hs.1, hsid, hs.2.2⟩
  · rintro ⟨s, hs, rfl, hlive⟩
    refine ⟨s, Table.mem_select.2 ⟨hs, decide_eq_true ⟨?_, hlive⟩⟩, rfl⟩
    refine List.mem_flatMap.2 ⟨d, hd, List.mem_filter.2 ⟨?_, decide_eq_true hid⟩⟩
    simpa using hend

theorem mem_dependencies {d : ComponentDependency} :
    d ∈ internal_deps db env_id tenant_id ++ cross_deps db env_id tenant_id ↔
      (d ∈ db.contents.catalogue.dependencies ∧ d.tenant_id = tenant_id) ∧
        (d.from_subsystem_id ∈ env_subsystem_ids db env_id tenant_id ∨
          d.to_subsystem_id ∈ env_subsystem_ids db env_id tenant_id) ∧
        Within db env_id tenant_id d.from_subsystem_id ∧
        Within db env_id tenant_id d.to_subsystem_id := by
  rw [List.mem_append, cross_deps, List.mem_filter, decide_eq_true_eq]
  constructor
  · rintro (hd | ⟨hd, hfrom, hto⟩)
    · rw [internal_deps, Table.mem_select, decide_eq_true_eq] at hd
      exact ⟨⟨hd.1, hd.2.1⟩, Or.inl hd.2.2.1, Or.inl hd.2.2.1, Or.inl hd.2.2.2⟩
    · rw [found_iff hd (Or.inl rfl)] at hfrom
      rw [found_iff hd (Or.inr rfl)] at hto
      rw [crossing_deps, Table.mem_select, decide_eq_true_eq] at hd
      exact ⟨⟨hd.1, hd.2.1⟩, hd.2.2.imp And.left And.left, hfrom, hto⟩
  · rintro ⟨⟨hd, htenant⟩, htouches, hfrom, hto⟩
    by_cases hin : d.from_subsystem_id ∈ env_subsystem_ids db env_id tenant_id ∧
        d.to_subsystem_id ∈ env_subsystem_ids db env_id tenant_id
    · exact Or.inl (Table.mem_select.2 ⟨hd, decide_eq_true ⟨htenant, hin⟩⟩)
    · have hcross : d ∈ crossing_deps db env_id tenant_id :=
        Table.mem_select.2 ⟨hd, decide_eq_true ⟨htenant, by tauto⟩⟩
      exact Or.inr ⟨hcross, (found_iff hcross (Or.inl rfl)).2 hfrom,
        (found_iff hcross (Or.inr rfl)).2 hto⟩

/-- **The answer is of the catalogue.** It has the subsystems in the environment, and the
dependencies of the tenant that touch it, but for those with an end on a subsystem that is deleted
or another tenant's. -/
theorem topology_answers (h : get_environment_topology db env_id tenant_id = .ok data) :
    (∀ id, id ∈ data.subsystems.map EnvSubsystemNode.id ↔
      id ∈ env_subsystem_ids db env_id tenant_id) ∧
    ∀ d, d ∈ data.dependencies ++ data.outside_dependencies ↔
      (d ∈ db.contents.catalogue.dependencies ∧ d.tenant_id = tenant_id) ∧
        (d.from_subsystem_id ∈ env_subsystem_ids db env_id tenant_id ∨
          d.to_subsystem_id ∈ env_subsystem_ids db env_id tenant_id) ∧
        Within db env_id tenant_id d.from_subsystem_id ∧
        Within db env_id tenant_id d.to_subsystem_id := by
  rw [get_environment_topology, bind_eq_ok] at h
  obtain ⟨env, -, h⟩ := h
  dsimp only at h
  split_ifs at h with hrows
  · obtain rfl := Except.ok.inj h
    simp [env_subsystem_ids, hrows]
  · obtain rfl := Except.ok.inj h
    exact ⟨fun _ => mem_node_ids, fun _ => mem_dependencies⟩

end Ids

/-! ## Around a system -/

structure TopologyResponse where
  subsystems : List SubSystem
  dependencies : List ComponentDependency
  external_subsystems : List SubSystem
  external_dependencies : List ComponentDependency
  system_names : Index ℕ String

namespace SystemTopology

section Answer

variable (db : Db) (system_id tenant_id : ℕ)

def subsystems : List SubSystem :=
  db.contents.catalogue.subsystems.select fun s =>
    s.system_id = system_id ∧ s.tenant_id = tenant_id ∧ s.deleted_at = none

def subsystem_ids : List ℕ := (subsystems db system_id tenant_id).map (·.id)

def internal_deps : List ComponentDependency :=
  db.contents.catalogue.dependencies.select fun d =>
    d.tenant_id = tenant_id ∧ d.from_subsystem_id ∈ subsystem_ids db system_id tenant_id ∧
      d.to_subsystem_id ∈ subsystem_ids db system_id tenant_id

/-- Exactly one end is in the system. -/
def crossing_deps : List ComponentDependency :=
  db.contents.catalogue.dependencies.select fun d =>
    d.tenant_id = tenant_id ∧
      ((d.from_subsystem_id ∈ subsystem_ids db system_id tenant_id ∧
          d.to_subsystem_id ∉ subsystem_ids db system_id tenant_id) ∨
        (d.to_subsystem_id ∈ subsystem_ids db system_id tenant_id ∧
          d.from_subsystem_id ∉ subsystem_ids db system_id tenant_id))

def external_subsystem_ids : List ℕ :=
  (crossing_deps db system_id tenant_id).flatMap fun dep =>
    [dep.from_subsystem_id, dep.to_subsystem_id].filter
      (· ∉ subsystem_ids db system_id tenant_id)

def external_subsystems : List SubSystem :=
  db.contents.catalogue.subsystems.select fun s =>
    s.id ∈ external_subsystem_ids db system_id tenant_id ∧ s.tenant_id = tenant_id ∧
      s.deleted_at = none

/-- The ids of the answer, those inside first. -/
def found_ids : List ℕ :=
  subsystem_ids db system_id tenant_id ++
    (external_subsystems db system_id tenant_id).map (·.id)

def external_deps : List ComponentDependency :=
  (crossing_deps db system_id tenant_id).filter fun d =>
    d.from_subsystem_id ∈ found_ids db system_id tenant_id ∧
      d.to_subsystem_id ∈ found_ids db system_id tenant_id

/-- The name of the system itself, deleted or not. -/
def current_name : Index ℕ String :=
  match db.contents.systems.select_one fun y => y.id = system_id ∧ y.tenant_id = tenant_id with
  | none => Index.empty
  | some current_system => Index.empty.set system_id current_system.name

end Answer

end SystemTopology

def get_system_topology (db : Db) (system_id tenant_id : ℕ) : Except Raised TopologyResponse := do
  let _ ← get_system db.contents system_id tenant_id
  let system_names := SystemTopology.current_name db system_id tenant_id
  if SystemTopology.subsystem_ids db system_id tenant_id = [] then
    .ok ⟨SystemTopology.subsystems db system_id tenant_id, [], [], [], system_names⟩
  else
    let external := SystemTopology.external_subsystems db system_id tenant_id
    let external_system_ids := (external.map (·.system_id)).filter (· ≠ system_id)
    .ok
      { subsystems := SystemTopology.subsystems db system_id tenant_id
        dependencies := SystemTopology.internal_deps db system_id tenant_id
        external_subsystems := external
        external_dependencies := SystemTopology.external_deps db system_id tenant_id
        system_names := name_systems db tenant_id external_system_ids system_names }

/-- What holds between the ids of an answer. -/
structure TopologyResponse.WellFormed (data : TopologyResponse) : Prop where
  nodes_nodup : ((data.subsystems ++ data.external_subsystems).map SubSystem.id).Nodup
  deps_nodup :
    ((data.dependencies ++ data.external_dependencies).map ComponentDependency.id).Nodup
  closed : ∀ d ∈ data.dependencies ++ data.external_dependencies,
    d.from_subsystem_id ∈ (data.subsystems ++ data.external_subsystems).map SubSystem.id ∧
      d.to_subsystem_id ∈ (data.subsystems ++ data.external_subsystems).map SubSystem.id

namespace SystemTopology

variable {db : Db} {system_id tenant_id : ℕ}

theorem external_not_inside {s : SubSystem} (h : s ∈ external_subsystems db system_id tenant_id) :
    s.id ∉ subsystem_ids db system_id tenant_id := by
  rw [external_subsystems, Table.mem_select, decide_eq_true_eq] at h
  obtain ⟨dep, -, hmem⟩ := List.mem_flatMap.1 h.2.1
  simpa using (List.mem_filter.1 hmem).2

theorem found_ids_nodup (db : Db) (system_id tenant_id : ℕ) :
    (found_ids db system_id tenant_id).Nodup := by
  have hkeys := db.contents.catalogue.subsystems.keys_nodup
  rw [found_ids, List.nodup_append]
  refine ⟨hkeys.sublist (List.filter_sublist.map _), hkeys.sublist (List.filter_sublist.map _), ?_⟩
  rintro id hid _ hid' rfl
  obtain ⟨s, hs, rfl⟩ := List.mem_map.1 hid'
  exact external_not_inside hs hid

end SystemTopology

/-- **The answer around a system is a graph** too. -/
theorem system_topology_wellFormed {db : Db} {system_id tenant_id : ℕ} {data : TopologyResponse}
    (h : get_system_topology db system_id tenant_id = .ok data) : data.WellFormed := by
  rw [get_system_topology, bind_eq_ok] at h
  obtain ⟨_, -, h⟩ := h
  dsimp only at h
  split_ifs at h with hids
  · obtain rfl := Except.ok.inj h
    rw [SystemTopology.subsystem_ids, List.map_eq_nil_iff] at hids
    rw [hids]
    exact ⟨by simp, by simp, by simp⟩
  obtain rfl := Except.ok.inj h
  refine ⟨?_, ?_, ?_⟩
  · rw [List.map_append]
    exact SystemTopology.found_ids_nodup db system_id tenant_id
  · exact deps_apart _ tenant_id _ _
  · intro d hd
    rw [List.map_append]
    rcases List.mem_append.1 hd with hd | hd
    · have hin := (List.mem_filter.1 hd).2
      rw [decide_eq_true_eq] at hin
      exact ⟨List.mem_append_left _ hin.2.1, List.mem_append_left _ hin.2.2⟩
    · have hfound := (List.mem_filter.1 hd).2
      rw [decide_eq_true_eq] at hfound
      exact hfound

end EnvMgr.Topology

/-
The topology diagram loses nothing and dangles nothing.

Grouped by system, the graph is the endpoint's answer itself: an instance is a subsystem,
and an arrow is a dependency. Grouped by host it is what `buildHostGraph` makes of it. Both
depict the instances and arrows of the answer, and stay so when types are hidden.
-/
import EnvMgr.Topology.Hosts

namespace EnvMgr.Topology

open Scanning (ComponentDependency)

/-! ## Grouped by system -/

section System

variable {data : EnvironmentTopologyResponse}

theorem instances_node (data : EnvironmentTopologyResponse) :
    (instances data .system).map Instance.node = data.subsystems ++ data.outside_subsystems := by
  have hfst : (instances data .system).map Instance.node = (placed data .system).map Prod.fst := by
    rw [← map_number 0 (placed data .system), List.map_map]
    rfl
  rw [hfst, placed, List.map_append, List.map_flatMap, List.map_map]
  simp [groupsOf, Function.comp_def]

theorem EnvironmentTopologyResponse.WellFormed.instances_nodup (h : data.WellFormed) :
    ((instances data .system).map fun i => i.node.id).Nodup := by
  have hnodup := h.nodes_nodup
  rwa [← instances_node, List.map_map] at hnodup

theorem exists_instance {id : ℕ}
    (hid : id ∈ (data.subsystems ++ data.outside_subsystems).map EnvSubsystemNode.id) :
    ∃ i ∈ instances data .system, i.node.id = id := by
  rw [← instances_node, List.map_map] at hid
  exact List.mem_map.1 hid

/-- A dependency is one arrow. -/
theorem EnvironmentTopologyResponse.WellFormed.pairs_ends (h : data.WellFormed)
    {d : ComponentDependency} (hd : d ∈ data.dependencies ++ data.outside_dependencies) :
    (pairs (instances data .system) d).map (fun a => (a.1.node.id, a.2.node.id)) =
      [(d.from_subsystem_id, d.to_subsystem_id)] := by
  obtain ⟨hfrom, hto⟩ := h.closed d hd
  obtain ⟨i, hi, hid⟩ := exists_instance hfrom
  obtain ⟨j, hj, hjd⟩ := exists_instance hto
  rw [pairs, ← hid, ← hjd, filter_key_eq h.instances_nodup hi, filter_key_eq h.instances_nodup hj]
  rfl

theorem flatMap_eq_map {α β : Type} {l : List α} {f : α → List β} {g : α → β}
    (h : ∀ a ∈ l, f a = [g a]) : l.flatMap f = l.map g := by
  rw [List.map_eq_flatMap]
  exact List.flatMap_congr h

theorem EnvironmentTopologyResponse.WellFormed.arrows_ends (h : data.WellFormed) :
    (graphBy data .system).allDeps.map VisibleDependency.ends =
      (arrows data .system).map fun a => (a.1.node.id, a.2.node.id) := by
  have hends : (graphBy data .system).allDeps.map VisibleDependency.ends =
      (data.dependencies ++ data.outside_dependencies).map fun d =>
        (d.from_subsystem_id, d.to_subsystem_id) := by
    rw [graphBy, getGraph, VisibilityInput.allDeps, ← List.map_append, List.map_map]
    rfl
  rw [hends, arrows, List.map_flatMap]
  exact (flatMap_eq_map fun d hd => h.pairs_ends hd).symm

/-- **Grouped by system**, the graph depicts the subsystems. -/
theorem EnvironmentTopologyResponse.WellFormed.depicts_system (h : data.WellFormed) :
    Depicts (graphBy data .system) (groupingBy data .system) (instances data .system)
      (arrows data .system) (fun i => VisibleSubsystem.of i.node) where
  subs := by
    rw [graphBy, getGraph, VisibilityInput.allSubs, ← List.map_append, ← instances_node,
      List.map_map]
    rfl
  inj := by
    intro i hi j hj hid
    exact List.inj_on_of_nodup_map h.instances_nodup hi hj hid
  key := by
    intro i hi
    rcases List.mem_append.1 (mem_placed hi) with hmem | hmem
    · obtain ⟨s, -, hk⟩ := List.mem_flatMap.1 hmem
      obtain ⟨k, hk, heq⟩ := List.mem_map.1 hk
      obtain ⟨hnode, hgroup⟩ := Prod.mk.inj heq
      rw [← hgroup, List.mem_singleton.1 hk, ← hnode]
      rfl
    · obtain ⟨s, -, heq⟩ := List.mem_map.1 hmem
      obtain ⟨hnode, hgroup⟩ := Prod.mk.inj heq
      rw [← hgroup, ← hnode]
      rfl
  type := fun i _ => rfl
  deps := h.arrows_ends
  deps_nodup := by
    have hnodup := h.deps_nodup
    rw [graphBy, getGraph, VisibilityInput.allDeps, ← List.map_append, List.map_map]
    exact hnodup
  closed := arrows_mem
  nodup := (instances_position_nodup data .system).of_map
  plain := fun i hi => group_plain hi

end System

/-! ## The diagram -/

/-- Whichever way it is grouped, the graph depicts the instances and arrows of the answer. -/
theorem EnvironmentTopologyResponse.WellFormed.depicts {data : EnvironmentTopologyResponse}
    (h : data.WellFormed) (groupBy : GroupBy) :
    ∃ ref, Depicts (graphBy data groupBy) (groupingBy data groupBy) (instances data groupBy)
      (arrows data groupBy) ref := by
  cases groupBy with
  | system => exact ⟨_, h.depicts_system⟩
  | host => exact ⟨_, depicts_host data⟩

/-- A drawing that loses nothing and dangles nothing: the names of its nodes are distinct,
and those of its edges; an edge goes from a drawn node to a drawn node; and the edges
together stand for `arrows` arrows. -/
structure TopologyModel.Complete (model : TopologyModel) (arrows : ℕ) : Prop where
  nodes : model.nodeIds.Nodup
  edges : (model.edges.map ModelEdge.id).Nodup
  ends : ∀ e ∈ model.edges, e.source ∈ model.drawn ∧ e.target ∈ model.drawn
  counted : (model.edges.map ModelEdge.aggregatedCount).sum = arrows

/-- **The diagram is complete**, whatever the types that are hidden and the groups that are
folded: its edges stand for the arrows with two ends that show, at different nodes. -/
theorem diagram_complete {db : Db} {env_id tenant_id : ℕ} {data : EnvironmentTopologyResponse}
    (h : get_environment_topology db env_id tenant_id = .ok data)
    (groupBy : GroupBy) (hiddenTypes collapsedGroups : Finset String) :
    (diagram data groupBy hiddenTypes collapsedGroups).Complete
      (arrowCount data groupBy hiddenTypes collapsedGroups) := by
  obtain ⟨ref, hdepicts⟩ := (topology_wellFormed h).depicts groupBy
  have hshown := hdepicts.visible hiddenTypes
  refine ⟨hshown.drawable.nodeIds_nodup, hshown.drawable.edgeIds_nodup,
    fun e he => hshown.drawable.edge_ends he, ?_⟩
  rw [diagram, sum_aggregatedCount, hshown.countP_eq, List.countP_filter, arrowCount]
  refine List.countP_congr ?_
  intro a _
  simp only [bothShown, Bool.and_eq_true, decide_eq_true_eq]
  exact and_comm.trans and_assoc

/-! ## A service on two hosts and its database -/

namespace Hosted

def catalogue : Scanning.Db where
  subsystems := ⟨[⟨1, 1, 1, "api", "web_service", none, .MANUAL, none, none⟩,
    ⟨2, 1, 1, "db", "database", none, .MANUAL, none, none⟩], 3, by decide, by decide⟩
  dependencies := ⟨[⟨1, 1, 1, 2, .DATABASE, .ONE_WAY, none, none, .MANUAL, none⟩], 2,
    by decide, by decide⟩
  endpoints := Table.empty
  uq_subsystem_system_name := by decide
  uq_component_dep := by decide
  fk_from := by decide
  fk_to := by decide
  fk_dependency := by decide

def environment : Table.New Environment.id :=
  ⟨fun id => ⟨id, 1, "qa-1", .active, some 1, none, none⟩, fun _ => rfl⟩

def system : Table.New Contents.System.id := ⟨fun id => ⟨id, 1, "orders", none⟩, fun _ => rfl⟩

def db : Db where
  contents :=
    { environments := Table.empty.insert environment
      systems := Table.empty.insert system
      catalogue := catalogue
      environment_systems := Table.empty
      environment_subsystems := ⟨[⟨1, 1, 1, 1, false⟩, ⟨2, 1, 1, 2, false⟩], 3,
        by decide, by decide⟩
      custom_fields := [] }
  hosts := ⟨[⟨1, 1, 1, 5, none, none⟩, ⟨2, 1, 1, 6, none, none⟩], 3, by decide, by decide⟩
  infrastructure := ⟨[⟨5, 1, "node-a", "server", none⟩, ⟨6, 1, "node-b", "server", none⟩], 7,
    by decide, by decide⟩
  uq_env_subsystem := by decide
  fk_subsystem := by decide

end Hosted

/-- Drawn with one of the hosts folded. -/
theorem hosted_complete : ∃ data, get_environment_topology Hosted.db 1 1 = .ok data ∧
    (diagram data .host ∅ {"6"}).Complete (arrowCount data .host ∅ {"6"}) := by
  have hanswer : get_environment_topology Hosted.db 1 1 = .ok _ := rfl
  exact ⟨_, hanswer, diagram_complete hanswer .host ∅ {"6"}⟩

/-- The dependency is drawn once for each host the service runs on. -/
example : (get_environment_topology Hosted.db 1 1).map
    (fun data => arrowCount data .host ∅ {"6"}) = .ok 2 := by
  rfl

end EnvMgr.Topology

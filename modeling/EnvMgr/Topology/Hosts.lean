/-
`buildHostGraph` mints ids; this is what they stand for.

The loop over the subsystems keeps a counter and two maps. After it has added some
instances, the map of instances has each of them under the id of its subsystem, and the map
of keys has its host under the id it was given (`Minted`). The loop over the dependencies
then adds one edge per pair of instances, under consecutive ids.
-/
import EnvMgr.Topology.Instances

namespace EnvMgr.Topology

open Scanning (ComponentDependency)

/-! ## Adding instances -/

/-- What is added for an instance: its subsystem, under the id that follows its position. -/
def Instance.minted (i : Instance) : VisibleSubsystem :=
  { VisibleSubsystem.of i.node with id := i.position + 1 }

/-- The maps, after the instances of a list were added. -/
structure Minted (is : List Instance) (st : Instances) : Prop where
  nodeSeq : st.nodeSeq = is.length + 1
  fresh : ∀ i ∈ is, i.position < is.length
  key : ∀ i ∈ is, st.hostKeyById.get (i.position + 1) = some i.group
  instancesOf : ∀ a, (st.instancesOf.get a).getD [] =
    (is.filter fun i => i.node.id = a).map Instance.minted

/-- An instance to add: a node of the answer, a host's key and its label. -/
structure Added where
  node : EnvSubsystemNode
  key : String
  label : GroupMeta

def Added.placed (a : Added) : EnvSubsystemNode × String := (a.node, a.key)

def Added.add (st : Instances × List VisibleSubsystem) (a : Added) :
    Instances × List VisibleSubsystem :=
  addInstance (VisibleSubsystem.of a.node) a.key a.label st

section Adding

variable {is : List Instance} {st : Instances × List VisibleSubsystem}

theorem minted_empty : Minted [] ⟨1, Index.empty, Index.empty, Index.empty⟩ where
  nodeSeq := rfl
  fresh := by simp
  key := by simp
  instancesOf := by simp

/-- One instance is added. -/
theorem Minted.add (h : Minted is st.1) (a : Added) :
    Minted (is ++ [⟨is.length, a.node, a.key⟩]) (a.add st).1 ∧
      (a.add st).2 = st.2 ++ [(⟨is.length, a.node, a.key⟩ : Instance).minted] := by
  have hnode : { VisibleSubsystem.of a.node with id := st.1.nodeSeq } =
      (⟨is.length, a.node, a.key⟩ : Instance).minted := by
    rw [h.nodeSeq]
    rfl
  constructor
  · constructor
    · rw [Added.add, addInstance, h.nodeSeq, List.length_append, List.length_singleton]
    · intro i hi
      rw [List.length_append, List.length_singleton]
      rcases List.mem_append.1 hi with hi | hi
      · exact Nat.lt_succ_of_lt (h.fresh i hi)
      · rw [List.mem_singleton.1 hi]
        exact Nat.lt_succ_self _
    · intro i hi
      rw [Added.add, addInstance, Index.get_set, h.nodeSeq]
      dsimp only
      rcases List.mem_append.1 hi with hi | hi
      · have hlt := h.fresh i hi
        rw [if_neg (by omega), h.key i hi]
      · rw [List.mem_singleton.1 hi, if_pos rfl]
    · intro b
      rw [Added.add, addInstance, Index.get_set, List.filter_append, List.map_append,
        ← h.instancesOf b, hnode]
      by_cases hb : b = a.node.id
      · subst hb
        simp [VisibleSubsystem.of]
      · rw [if_neg (by simpa [VisibleSubsystem.of] using hb)]
        simp [Ne.symm hb]
  · rw [Added.add, addInstance, hnode]

/-- A run of additions. -/
theorem Minted.run (st : Instances × List VisibleSubsystem) (h : Minted is st.1) (adds : List Added) :
    Minted (is ++ number is.length (adds.map Added.placed)) (adds.foldl Added.add st).1 ∧
      (adds.foldl Added.add st).2 =
        st.2 ++ (number is.length (adds.map Added.placed)).map Instance.minted := by
  induction adds generalizing is st with
  | nil =>
    rw [List.map_nil, number, List.append_nil, List.map_nil, List.append_nil]
    exact ⟨h, rfl⟩
  | cons a adds ih =>
    obtain ⟨hstep, hout⟩ := h.add a
    obtain ⟨hrun, hrest⟩ := ih _ hstep
    rw [List.length_append, List.length_singleton] at hrun hrest
    rw [List.foldl_cons, List.map_cons, number, List.map_cons]
    constructor
    · rwa [List.append_assoc] at hrun
    · rw [hrest, hout, List.append_assoc]
      rfl

end Adding

/-! ## The loops over the subsystems -/

def addsOf (s : EnvSubsystemNode) : List Added :=
  if s.hosts = [] then [⟨s, UNASSIGNED, ⟨"Unassigned", false⟩⟩]
  else s.hosts.map fun h => ⟨s, toString h.infrastructure_component_id, ⟨h.name, true⟩⟩

def addOutside (s : EnvSubsystemNode) : Added := ⟨s, EXTERNAL, ⟨"External", false⟩⟩

theorem addSubsystem_eq (st : Instances × List VisibleSubsystem) (s : EnvSubsystemNode) :
    addSubsystem st (VisibleSubsystem.of s) = (addsOf s).foldl Added.add st := by
  by_cases hs : s.hosts = []
  · rw [addSubsystem, addsOf, if_pos hs]
    simp [VisibleSubsystem.of, hs, Added.add]
  · rw [addSubsystem, addsOf, if_neg hs, List.foldl_map]
    simp [VisibleSubsystem.of, hs, Added.add]

theorem addsOf_placed (s : EnvSubsystemNode) :
    (addsOf s).map Added.placed = (groupsOf .host s).map fun k => (s, k) := by
  dsimp only [groupsOf]
  unfold addsOf
  split_ifs
  · rfl
  · rw [List.map_map, List.map_map]
    rfl

theorem addSubsystems_eq (st : Instances × List VisibleSubsystem) (ss : List EnvSubsystemNode) :
    (ss.map VisibleSubsystem.of).foldl addSubsystem st = (ss.flatMap addsOf).foldl Added.add st := by
  rw [List.foldl_map, List.foldl_flatMap]
  simp only [addSubsystem_eq]

theorem addExternals_eq (st : Instances × List VisibleSubsystem) (ss : List EnvSubsystemNode) :
    (ss.map VisibleSubsystem.of).foldl addExternal st = (ss.map addOutside).foldl Added.add st := by
  rw [List.foldl_map, List.foldl_map]
  rfl

/-- What the two loops leave, for the nodes inside and outside the environment. -/
theorem minted_all (data : EnvironmentTopologyResponse) :
    let inside := (getGraph data).subsystems.foldl addSubsystem
      (⟨1, Index.empty, Index.empty, Index.empty⟩, [])
    let all := (getGraph data).externalSubsystems.foldl addExternal (inside.1, [])
    Minted (instances data .host) all.1 ∧
      inside.2 ++ all.2 = (instances data .host).map Instance.minted := by
  have hplaced : placed data .host = (data.subsystems.flatMap addsOf).map Added.placed ++
      (data.outside_subsystems.map addOutside).map Added.placed := by
    rw [placed, List.map_flatMap, List.map_map]
    simp only [addsOf_placed]
    rfl
  dsimp only [getGraph]
  rw [addSubsystems_eq, addExternals_eq, instances, hplaced, number_append, Nat.zero_add,
    List.length_map]
  obtain ⟨hinside, hout⟩ := Minted.run (_, []) minted_empty (data.subsystems.flatMap addsOf)
  obtain ⟨hall, hrest⟩ := Minted.run (_, []) hinside
    (data.outside_subsystems.map addOutside)
  simp only [List.nil_append, List.length_nil, length_number, List.length_map] at hout hall hrest
  refine ⟨hall, ?_⟩
  rw [hout, hrest, List.map_append]

/-! ## Fanning out -/

/-- An edge to add: a dependency, and an instance of each of its ends. -/
structure Fanned where
  dep : VisibleDependency
  src : VisibleSubsystem
  tgt : VisibleSubsystem

def Fanned.add (st : FannedOut) (f : Fanned) : FannedOut := addEdge f.dep f.src st f.tgt

/-- The edges so far have consecutive ids, from `lo` on. -/
structure Consecutive (lo : ℕ) (st : FannedOut) : Prop where
  ids : st.out.map (·.id) = List.range' lo st.out.length
  edgeSeq : st.edgeSeq = lo + st.out.length

theorem Consecutive.add {lo : ℕ} {st : FannedOut} (h : Consecutive lo st) (f : Fanned) :
    Consecutive lo (f.add st) where
  ids := by
    rw [Fanned.add, addEdge, List.map_append, h.ids, List.length_append, List.length_singleton,
      List.range'_concat, Nat.one_mul, ← h.edgeSeq]
    rfl
  edgeSeq := by
    rw [Fanned.add, addEdge, h.edgeSeq, List.length_append, List.length_singleton]
    rfl

theorem Consecutive.run {lo : ℕ} {st : FannedOut} (h : Consecutive lo st) (fs : List Fanned) :
    Consecutive lo (fs.foldl Fanned.add st) := by
  induction fs generalizing st with
  | nil => exact h
  | cons f fs ih => exact ih (h.add f)

theorem foldl_add_ends (st : FannedOut) (fs : List Fanned) :
    (fs.foldl Fanned.add st).out.map VisibleDependency.ends =
      st.out.map VisibleDependency.ends ++ fs.map fun f => (f.src.id, f.tgt.id) := by
  induction fs generalizing st with
  | nil => simp
  | cons f fs ih =>
    rw [List.foldl_cons, ih, List.map_cons, Fanned.add, addEdge, List.map_append, List.append_assoc]
    rfl

section FanningOut

variable (instancesOf : Index ℕ (List VisibleSubsystem))

/-- The edges of a dependency. -/
def fannedOf (d : VisibleDependency) : List Fanned :=
  ((instancesOf.get d.from_subsystem_id).getD []).flatMap fun src =>
    ((instancesOf.get d.to_subsystem_id).getD []).map fun tgt => ⟨d, src, tgt⟩

theorem fanOut_eq (deps : List VisibleDependency) (st : FannedOut) :
    fanOut instancesOf deps st = (deps.flatMap (fannedOf instancesOf)).foldl Fanned.add st := by
  rw [fanOut, List.foldl_flatMap]
  congr 1
  funext st d
  rw [fannedOf, List.foldl_flatMap]
  simp only [List.foldl_map]
  rfl

end FanningOut

/-- The edges of a dependency are the pairs of instances of its ends. -/
theorem Minted.fannedOf_ends {is : List Instance} {st : Instances} (h : Minted is st)
    (d : ComponentDependency) :
    (fannedOf st.instancesOf (VisibleDependency.of d)).map (fun f => (f.src.id, f.tgt.id)) =
      (pairs is d).map fun a => (a.1.minted.id, a.2.minted.id) := by
  rw [fannedOf, pairs, h.instancesOf, h.instancesOf]
  simp only [List.flatMap_map, List.map_flatMap, List.map_map, SProd.sprod, List.product]
  rfl

theorem Minted.fanned_ends {is : List Instance} {st : Instances} (h : Minted is st)
    (deps : List ComponentDependency) :
    ((deps.map VisibleDependency.of).flatMap (fannedOf st.instancesOf)).map
        (fun f => (f.src.id, f.tgt.id)) =
      (deps.flatMap (pairs is)).map fun a => (a.1.minted.id, a.2.minted.id) := by
  rw [List.flatMap_map, List.map_flatMap, List.map_flatMap]
  simp only [h.fannedOf_ends]

theorem buildHostGraph_deps (data : EnvironmentTopologyResponse) :
    (graphBy data .host).allDeps.map VisibleDependency.ends =
        (arrows data .host).map (fun a => (a.1.minted.id, a.2.minted.id)) ∧
      ((graphBy data .host).allDeps.map (·.id)).Nodup := by
  obtain ⟨hminted, -⟩ := minted_all data
  rw [graphBy, buildHostGraph, VisibilityInput.allDeps]
  dsimp only
  generalize hall : (getGraph data).externalSubsystems.foldl addExternal _ = all at hminted ⊢
  rw [fanOut_eq, fanOut_eq]
  have hstart : Consecutive 1 ⟨1, Index.empty, []⟩ := ⟨rfl, rfl⟩
  have hfirst := hstart.run
    ((getGraph data).dependencies.flatMap (fannedOf all.1.instancesOf))
  have hends := foldl_add_ends ⟨1, Index.empty, []⟩
    ((getGraph data).dependencies.flatMap (fannedOf all.1.instancesOf))
  generalize ((getGraph data).dependencies.flatMap (fannedOf all.1.instancesOf)).foldl Fanned.add
    ⟨1, Index.empty, []⟩ = inner at hfirst hends ⊢
  have hnext : Consecutive inner.edgeSeq { inner with out := [] } := ⟨rfl, rfl⟩
  have hsecond := hnext.run
    ((getGraph data).externalDependencies.flatMap (fannedOf all.1.instancesOf))
  have hends' := foldl_add_ends { inner with out := [] }
    ((getGraph data).externalDependencies.flatMap (fannedOf all.1.instancesOf))
  constructor
  · rw [List.map_append, hends, hends', List.map_nil, List.nil_append, List.nil_append,
      ← List.map_append, ← List.flatMap_append, arrows, ← hminted.fanned_ends, List.map_append]
    rfl
  · rw [List.map_append, hfirst.ids, hsecond.ids, hfirst.edgeSeq, List.range'_append_1]
    exact List.nodup_range'

/-! ## Depicting -/

/-- **Grouped by host**, the graph depicts the instances on the hosts. -/
theorem depicts_host (data : EnvironmentTopologyResponse) :
    Depicts (graphBy data .host) (groupingBy data .host) (instances data .host)
      (arrows data .host) Instance.minted where
  subs := (minted_all data).2
  inj := by
    intro i hi j hj hid
    exact List.inj_on_of_nodup_map (instances_position_nodup data .host) hi hj
      (Nat.succ.inj hid)
  key := by
    intro i hi
    have hkey := (minted_all data).1.key i hi
    rw [groupingBy, byHost, buildHostGraph]
    dsimp only [Instance.minted]
    rw [hkey, Option.getD_some]
  type := fun i _ => rfl
  deps := (buildHostGraph_deps data).1
  deps_nodup := (buildHostGraph_deps data).2
  closed := arrows_mem
  nodup := (instances_position_nodup data .host).of_map
  plain := fun i hi => group_plain hi

end EnvMgr.Topology

/-
Focusing a component of the topology diagram: `topologyFocus.ts`, and the part of
`TopologyCanvas.tsx` that dims what is not in the focus set.

`computeFocusSet` collects the ids of the focused component's neighbours and of the
dependencies between them. What is drawn has other names where a group is collapsed (its
node is `sys-` and the group's key) and where an edge stands for several dependencies (it
is `agg:` and the bucket's key), and neither is ever in the set. So all that is incident
is highlighted exactly if the component has no dependency into or out of a collapsed group,
and no two dependencies on the same subsystem.

The layout engine gives positions to the nodes it is given. Dimming does not read them.
-/
import EnvMgr.Topology.Drawn

namespace EnvMgr.Topology

variable {n tenant_id : ℕ} {k : String}

/-! ## `topologyFocus.ts` -/

structure FocusSet where
  nodeIds : Finset String
  edgeIds : Finset String
  deriving DecidableEq

/-- The body of the loop over the dependencies. -/
def FocusSet.add (focusedId : String) (f : FocusSet) (d : VisibleDependency) : FocusSet :=
  if toString d.from_subsystem_id = focusedId then
    { nodeIds := insert (toString d.to_subsystem_id) f.nodeIds
      edgeIds := insert (toString d.id) f.edgeIds }
  else if toString d.to_subsystem_id = focusedId then
    { nodeIds := insert (toString d.from_subsystem_id) f.nodeIds
      edgeIds := insert (toString d.id) f.edgeIds }
  else f

def computeFocusSet (focusedId : String) (dependencies : List VisibleDependency) : FocusSet :=
  dependencies.foldl (FocusSet.add focusedId) { nodeIds := {focusedId}, edgeIds := ∅ }

/-! ## `elkToReactFlow` of `topologyElkGraph.ts` -/

inductive NodeType
  | systemGroupNode
  | collapsedSystemNode
  | subsystemNode
  deriving DecidableEq

structure Node where
  id : String
  type : NodeType
  parentId : Option String
  deriving DecidableEq

structure Edge where
  id : String
  source : String
  target : String
  deriving DecidableEq

structure Layout where
  nodes : List Node
  edges : List Edge
  deriving DecidableEq

/-- `id.startsWith('sys-')`. -/
def ElkNode.isCollapsed (node : ElkNode) : Bool := "sys-".toList.isPrefixOf node.id.toList

/-- The node of a group, or of its frame. -/
def topNode (model : TopologyModel) (node : ElkNode) : Option Node :=
  if node.isCollapsed then
    let groupId := String.ofList (node.id.toList.drop "sys-".toList.length)
    if groupId ∈ model.groups.map (·.groupId) then
      some { id := node.id, type := .collapsedSystemNode, parentId := none }
    else none
  else some { id := node.id, type := .systemGroupNode, parentId := none }

/-- The nodes of the components inside a frame; a child that is no subsystem is skipped. -/
def childNodes (subsystems : Index ℕ VisibleSubsystem) (node : ElkNode) : List Node :=
  if node.isCollapsed then []
  else
    (node.children.filter fun child => ((child.toNat?).bind subsystems.get).isSome).map fun child =>
      { id := child, type := .subsystemNode, parentId := some node.id }

def elkToReactFlow (result : List ElkNode) (model : TopologyModel)
    (subsystems : Index ℕ VisibleSubsystem) : Layout where
  nodes := result.filterMap (topNode model) ++ result.flatMap (childNodes subsystems)
  edges := model.edges.map fun e => { id := e.id, source := e.source, target := e.target }

/-! ## `TopologyCanvas.tsx` -/

section Canvas

variable (elk : List ElkNode → List ElkNode) (visibleGraph : VisibilityInput)
  (collapsedGroups : Finset String) (grouping : Grouping)

/-- The components that can be focused. -/
def renderedComponents : List VisibleSubsystem :=
  visibleGraph.allSubs.filter fun s => grouping.keyOf s ∉ collapsedGroups

/-- `layoutTopology(model, ctx)`, `elk` being the engine's `layout`. -/
def layoutTopology : Layout :=
  let model := computeCollapseModel visibleGraph collapsedGroups grouping
  elkToReactFlow (elk (buildElkGraph model)) model
    (Index.collect (fun s => some s.id) visibleGraph.allSubs)

/-- Nothing is focused when there is no id, or an empty one. -/
def focusSet (focusedId : Option String) : Option FocusSet :=
  match focusedId with
  | none => none
  | some id => if id = "" then none else some (computeFocusSet id visibleGraph.allDeps)

end Canvas

/-- The frames around the nodes that are in the focus set. -/
def brightGroups (f : FocusSet) (nodes : List Node) : List String :=
  (nodes.filter (·.id ∈ f.nodeIds)).filterMap (·.parentId)

def nodeDimmed (focusSet : Option FocusSet) (nodes : List Node) (n : Node) : Bool :=
  match focusSet with
  | none => false
  | some f =>
    match n.type with
    | .systemGroupNode | .collapsedSystemNode => n.id ∉ brightGroups f nodes
    | .subsystemNode => n.id ∉ f.nodeIds

def edgeDimmed (focusSet : Option FocusSet) (e : Edge) : Bool :=
  match focusSet with
  | none => false
  | some f => e.id ∉ f.edgeIds

/-! ## What focus is for -/

/-- The component is an end of the dependency. -/
def VisibleDependency.Touches (d : VisibleDependency) (id : ℕ) : Prop :=
  d.from_subsystem_id = id ∨ d.to_subsystem_id = id

section Purpose

variable (elk : List ElkNode → List ElkNode) (G : VisibilityInput) (collapsed : Finset String)
  (g : Grouping) (id : ℕ)

/-- The edge goes between the nodes that the ends of the dependency are drawn as. -/
def Edge.Represents (e : Edge) (d : VisibleDependency) : Prop :=
  d ∈ G.allDeps ∧ e.source = displayNode G collapsed g d.from_subsystem_id ∧
    e.target = displayNode G collapsed g d.to_subsystem_id

/-- An edge that stands for a dependency of the component. -/
def Edge.Incident (e : Edge) : Prop := ∃ d, e.Represents G collapsed g d ∧ d.Touches id

/-- **Focus highlights what is incident**: exactly the edges that stand for a dependency of
the focused component are left bright, and so are the nodes at their ends. -/
structure Highlights : Prop where
  edges : ∀ e ∈ (layoutTopology elk G collapsed g).edges,
    edgeDimmed (focusSet G (some (toString id))) e = false ↔ e.Incident G collapsed g id
  ends : ∀ e ∈ (layoutTopology elk G collapsed g).edges, e.Incident G collapsed g id →
    ∀ n ∈ (layoutTopology elk G collapsed g).nodes, n.id = e.source ∨ n.id = e.target →
      nodeDimmed (focusSet G (some (toString id))) (layoutTopology elk G collapsed g).nodes n =
        false

end Purpose

/-! ## The focus set -/

section FocusSet

variable {focusedId x : String} {f : FocusSet} {d : VisibleDependency}

theorem FocusSet.mem_add_edgeIds : x ∈ (f.add focusedId d).edgeIds ↔ x ∈ f.edgeIds ∨
    (toString d.from_subsystem_id = focusedId ∨ toString d.to_subsystem_id = focusedId) ∧
      x = toString d.id := by
  unfold FocusSet.add
  split_ifs with hfrom hto
  · simp only [hfrom, Finset.mem_insert, true_or, true_and]
    exact or_comm
  · simp only [hto, Finset.mem_insert, or_true, true_and]
    exact or_comm
  · simp only [hfrom, hto, or_self, false_and, or_false]

/-- The two branches do not exclude each other in what they add: the ends of a loop are both
the component, which is bright already. -/
theorem FocusSet.mem_add_nodeIds (hf : focusedId ∈ f.nodeIds) :
    x ∈ (f.add focusedId d).nodeIds ↔ x ∈ f.nodeIds ∨
      (toString d.from_subsystem_id = focusedId ∧ x = toString d.to_subsystem_id) ∨
        (toString d.to_subsystem_id = focusedId ∧ x = toString d.from_subsystem_id) := by
  unfold FocusSet.add
  split_ifs with hfrom hto
  · simp only [hfrom, Finset.mem_insert, true_and]
    constructor
    · rintro (hx | hx)
      · exact Or.inr (Or.inl hx)
      · exact Or.inl hx
    · rintro (hx | hx | ⟨-, rfl⟩)
      · exact Or.inr hx
      · exact Or.inl hx
      · exact Or.inr hf
  · simp only [hfrom, hto, Finset.mem_insert, false_and, false_or, true_and]
    exact or_comm
  · simp only [hfrom, hto, false_and, or_self, or_false]

theorem computeFocusSet_append (focusedId : String) (deps : List VisibleDependency)
    (d : VisibleDependency) : computeFocusSet focusedId (deps ++ [d]) =
      (computeFocusSet focusedId deps).add focusedId d :=
  List.foldl_append

theorem focusedId_mem (focusedId : String) (deps : List VisibleDependency) :
    focusedId ∈ (computeFocusSet focusedId deps).nodeIds := by
  induction deps using List.reverseRecOn with
  | nil => exact Finset.mem_singleton_self focusedId
  | append_singleton deps d ih =>
    rw [computeFocusSet_append, FocusSet.mem_add_nodeIds ih]
    exact Or.inl ih

/-- Bright are the component and its neighbours. -/
theorem mem_nodeIds (deps : List VisibleDependency) :
    x ∈ (computeFocusSet focusedId deps).nodeIds ↔ x = focusedId ∨ ∃ d ∈ deps,
      (toString d.from_subsystem_id = focusedId ∧ x = toString d.to_subsystem_id) ∨
        (toString d.to_subsystem_id = focusedId ∧ x = toString d.from_subsystem_id) := by
  induction deps using List.reverseRecOn with
  | nil => simp [computeFocusSet]
  | append_singleton deps d ih =>
    rw [computeFocusSet_append, FocusSet.mem_add_nodeIds (focusedId_mem focusedId deps), ih,
      or_assoc]
    simp only [List.mem_append, List.mem_singleton, or_and_right, exists_or, exists_eq_left]

theorem mem_edgeIds (deps : List VisibleDependency) :
    x ∈ (computeFocusSet focusedId deps).edgeIds ↔ ∃ d ∈ deps,
      (toString d.from_subsystem_id = focusedId ∨ toString d.to_subsystem_id = focusedId) ∧
        x = toString d.id := by
  induction deps using List.reverseRecOn with
  | nil => simp [computeFocusSet]
  | append_singleton deps d ih =>
    rw [computeFocusSet_append, FocusSet.mem_add_edgeIds, ih]
    simp only [List.mem_append, List.mem_singleton, or_and_right, exists_or, exists_eq_left]

end FocusSet

/-! ## The focus set of a component -/

section Component

variable {G : VisibilityInput} {id : ℕ}

theorem toString_ne_empty (n : ℕ) : toString n ≠ "" := by
  rw [Nat.toString_eq_repr]
  exact Nat.repr_ne_empty

theorem focusSet_eq (G : VisibilityInput) (id : ℕ) :
    focusSet G (some (toString id)) = some (computeFocusSet (toString id) G.allDeps) := by
  rw [focusSet, if_neg (toString_ne_empty id)]

theorem touches_iff {d : VisibleDependency} : d.Touches id ↔
    toString d.from_subsystem_id = toString id ∨ toString d.to_subsystem_id = toString id := by
  rw [toString_inj, toString_inj]
  rfl

/-- An edge is bright exactly if it has the id of a dependency of the component. -/
theorem edgeDimmed_eq_false {e : Edge} :
    edgeDimmed (focusSet G (some (toString id))) e = false ↔
      ∃ d ∈ G.allDeps, d.Touches id ∧ e.id = toString d.id := by
  rw [focusSet_eq, edgeDimmed, decide_eq_false_iff_not, not_not, mem_edgeIds]
  simp only [touches_iff]

/-- Both ends of a dependency of the component are bright. -/
theorem ends_bright {d : VisibleDependency} (hd : d ∈ G.allDeps) (htouches : d.Touches id)
    (hn : n = d.from_subsystem_id ∨ n = d.to_subsystem_id) :
    toString n ∈ (computeFocusSet (toString id) G.allDeps).nodeIds := by
  rw [mem_nodeIds]
  rcases htouches with hid | hid
  · rcases hn with rfl | rfl
    · exact Or.inl (by rw [hid])
    · exact Or.inr ⟨d, hd, Or.inl ⟨by rw [hid], rfl⟩⟩
  · rcases hn with rfl | rfl
    · exact Or.inr ⟨d, hd, Or.inr ⟨by rw [hid], rfl⟩⟩
    · exact Or.inl (by rw [hid])

end Component

/-! ## What is on the canvas -/

/-- The node of a collapsed group, or the frame of one that is not. -/
def groupNode (collapsed : Finset String) (k : String) : Node :=
  if k ∈ collapsed then { id := "sys-" ++ k, type := .collapsedSystemNode, parentId := none }
  else { id := "group-" ++ k, type := .systemGroupNode, parentId := none }

def componentNode (g : Grouping) (s : VisibleSubsystem) : Node where
  id := toString s.id
  type := .subsystemNode
  parentId := some ("group-" ++ g.keyOf s)

section Draw

variable {elk : List ElkNode → List ElkNode} {G : VisibilityInput} {collapsed : Finset String}
  {g : Grouping}

theorem isCollapsed_elkNode (k : String) (comps : List VisibleSubsystem) :
    (elkNode (modelGroup collapsed g k comps)).isCollapsed = decide (k ∈ collapsed) := by
  rw [ElkNode.isCollapsed, elkNode, modelGroup]
  by_cases hk : k ∈ collapsed
  · simp [hk]
  · simp [hk, List.isPrefixOf]

theorem topNode_elkNode {model : TopologyModel} {comps : List VisibleSubsystem}
    (hk : k ∈ model.groups.map (·.groupId)) :
    topNode model (elkNode (modelGroup collapsed g k comps)) = some (groupNode collapsed k) := by
  rw [topNode, isCollapsed_elkNode, groupNode]
  by_cases hcollapsed : k ∈ collapsed
  · have hid : (elkNode (modelGroup collapsed g k comps)).id = "sys-" ++ k := by
      simp [elkNode, modelGroup, hcollapsed]
    have hrest : String.ofList (("sys-" ++ k).toList.drop "sys-".toList.length) = k := by
      rw [String.toList_append, List.drop_left, String.ofList_toList]
    rw [decide_eq_true hcollapsed, if_pos rfl, if_pos hcollapsed, hid]
    dsimp only
    rw [hrest, if_pos hk]
  · have hid : (elkNode (modelGroup collapsed g k comps)).id = "group-" ++ k := by
      simp [elkNode, modelGroup, hcollapsed]
    rw [decide_eq_false hcollapsed, if_neg Bool.false_ne_true, if_neg hcollapsed, hid]

theorem toNat?_toString (n : ℕ) : (toString n).toNat? = some n := by
  rw [Nat.toString_eq_repr]
  exact Nat.toNat?_repr n

theorem Drawable.mem_childNodes (hd : Drawable G g) {n : Node} :
    n ∈ childNodes (Index.collect (fun s => some s.id) G.allSubs)
        (elkNode (modelGroup collapsed g k (G.allSubs.filter (g.keyOf · = k)))) ↔
      k ∉ collapsed ∧ ∃ s ∈ G.allSubs, g.keyOf s = k ∧ n = componentNode g s := by
  rw [childNodes, isCollapsed_elkNode]
  by_cases hk : k ∈ collapsed
  · rw [decide_eq_true hk, if_pos rfl]
    exact iff_of_false List.not_mem_nil fun h => h.1 hk
  have hnode : elkNode (modelGroup collapsed g k (G.allSubs.filter (g.keyOf · = k))) =
      ⟨"group-" ++ k, (G.allSubs.filter (g.keyOf · = k)).map fun c => toString c.id⟩ := by
    simp [elkNode, modelGroup, hk]
  rw [decide_eq_false hk, if_neg Bool.false_ne_true, hnode, List.mem_map]
  dsimp only
  constructor
  · rintro ⟨child, hchild, rfl⟩
    obtain ⟨s, hs, rfl⟩ := List.mem_map.1 (List.mem_of_mem_filter hchild)
    obtain ⟨hmem, hkey⟩ := List.mem_filter.1 hs
    rw [decide_eq_true_eq] at hkey
    exact ⟨hk, s, hmem, hkey, by rw [componentNode, hkey]⟩
  · rintro ⟨-, s, hs, hkey, rfl⟩
    refine ⟨toString s.id, List.mem_filter.2 ⟨?_, ?_⟩, by rw [componentNode, hkey]⟩
    · exact List.mem_map.2 ⟨s, List.mem_filter.2 ⟨hs, decide_eq_true hkey⟩, rfl⟩
    · have hget : (Index.collect (fun s : VisibleSubsystem => some s.id) G.allSubs).get s.id =
          some s := Index.get_collect_of_unique hs rfl fun s' hs' hid =>
        hd.eq_of_id hs' hs (Option.some.inj hid)
      rw [toNat?_toString, Option.bind_some, hget, Option.isSome_some]

/-- The graph that the engine lays out has a node for each group that has components. -/
theorem Drawable.mem_elkGraph (hd : Drawable G g) {node : ElkNode} :
    node ∈ buildElkGraph (computeCollapseModel G collapsed g) ↔
      ∃ s ∈ G.allSubs, node = elkNode (modelGroup collapsed g (g.keyOf s)
        (G.allSubs.filter (g.keyOf · = g.keyOf s))) := by
  rw [buildElkGraph, List.mem_map]
  simp only [hd.mem_groups]
  constructor
  · rintro ⟨m, ⟨k, ⟨s, hs, rfl⟩, rfl⟩, rfl⟩
    exact ⟨s, hs, rfl⟩
  · rintro ⟨s, hs, rfl⟩
    exact ⟨_, ⟨_, ⟨s, hs, rfl⟩, rfl⟩, rfl⟩

/-- **What is on the canvas**: a node or a frame for each group, and the components that are
in no collapsed group. -/
theorem Drawable.mem_nodes (hd : Drawable G g)
    (hElk : ∀ graph node, node ∈ elk graph ↔ node ∈ graph) {n : Node} :
    n ∈ (layoutTopology elk G collapsed g).nodes ↔
      (∃ s ∈ G.allSubs, n = groupNode collapsed (g.keyOf s)) ∨
        ∃ s ∈ renderedComponents G collapsed g, n = componentNode g s := by
  have hids : ∀ s ∈ G.allSubs,
      g.keyOf s ∈ (computeCollapseModel G collapsed g).groups.map (·.groupId) :=
    fun s hs => List.mem_map.2 ⟨_, hd.mem_groups.2 ⟨_, ⟨s, hs, rfl⟩, rfl⟩, rfl⟩
  rw [layoutTopology, elkToReactFlow, List.mem_append, List.mem_filterMap, List.mem_flatMap]
  simp only [hElk, hd.mem_elkGraph]
  refine or_congr ?_ ?_
  · constructor
    · rintro ⟨_, ⟨s, hs, rfl⟩, hn⟩
      rw [topNode_elkNode (hids s hs)] at hn
      exact ⟨s, hs, (Option.some.inj hn).symm⟩
    · rintro ⟨s, hs, rfl⟩
      exact ⟨_, ⟨s, hs, rfl⟩, topNode_elkNode (hids s hs)⟩
  · constructor
    · rintro ⟨_, ⟨s, hs, rfl⟩, hn⟩
      obtain ⟨hk, s', hs', hkey, rfl⟩ := hd.mem_childNodes.1 hn
      rw [← hkey] at hk
      exact ⟨s', List.mem_filter.2 ⟨hs', decide_eq_true hk⟩, rfl⟩
    · rintro ⟨s, hs, rfl⟩
      obtain ⟨hmem, hk⟩ := List.mem_filter.1 hs
      exact ⟨_, ⟨s, hmem, rfl⟩, hd.mem_childNodes.2 ⟨of_decide_eq_true hk, s, hmem, rfl, rfl⟩⟩

/-- The dependencies that are drawn as one edge with `d`. -/
def bucketOf (G : VisibilityInput) (collapsed : Finset String) (g : Grouping)
    (d : VisibleDependency) : List VisibleDependency :=
  (G.allDeps.filter (drawnApart G collapsed g)).filter fun d' =>
    bucketKey G collapsed g d' = bucketKey G collapsed g d

def bucketEdge (G : VisibilityInput) (collapsed : Finset String) (g : Grouping)
    (d : VisibleDependency) : Edge where
  id := (modelEdge (bucketKey G collapsed g d) (bucketOf G collapsed g d)).id
  source := displayNode G collapsed g d.from_subsystem_id
  target := displayNode G collapsed g d.to_subsystem_id

theorem Drawable.mem_edges (hd : Drawable G g) {e : Edge} :
    e ∈ (layoutTopology elk G collapsed g).edges ↔
      ∃ d ∈ G.allDeps, drawnApart G collapsed g d = true ∧ e = bucketEdge G collapsed g d := by
  have hedge : ∀ d ∈ G.allDeps, bucketEdge G collapsed g d =
      { id := (modelEdge (bucketKey G collapsed g d) (bucketOf G collapsed g d)).id
        source := (modelEdge (bucketKey G collapsed g d) (bucketOf G collapsed g d)).source
        target := (modelEdge (bucketKey G collapsed g d) (bucketOf G collapsed g d)).target } := by
    intro d hmem
    obtain ⟨hsource, htarget⟩ :=
      hd.modelEdge_bucket collapsed hmem (bucketOf G collapsed g d)
    rw [hsource, htarget, bucketEdge]
  rw [layoutTopology, elkToReactFlow, computeCollapseModel]
  dsimp only
  rw [List.map_map, List.mem_map]
  constructor
  · rintro ⟨⟨k, deps⟩, hi, rfl⟩
    obtain ⟨⟨d, hdep, rfl⟩, rfl⟩ := Index.mem_group.1 hi
    obtain ⟨hmem, hapart⟩ := List.mem_filter.1 hdep
    refine ⟨d, hmem, hapart, ?_⟩
    rw [hedge d hmem, List.map_id]
    rfl
  · rintro ⟨d, hmem, hapart, rfl⟩
    refine ⟨(_, bucketOf G collapsed g d),
      Index.mem_group.2 ⟨⟨d, List.mem_filter.2 ⟨hmem, hapart⟩, rfl⟩, ?_⟩, (hedge d hmem).symm⟩
    rw [List.map_id, bucketOf]

theorem Drawable.mem_bucketOf (hd : Drawable G g) {d d' : VisibleDependency}
    (h : d ∈ G.allDeps) (hapart : drawnApart G collapsed g d = true) :
    d' ∈ bucketOf G collapsed g d ↔ (bucketEdge G collapsed g d).Represents G collapsed g d' := by
  rw [bucketOf, List.mem_filter, List.mem_filter, decide_eq_true_eq, and_assoc]
  constructor
  · rintro ⟨hmem, -, hkey⟩
    obtain ⟨hsource, htarget⟩ := hd.modelEdge_bucket collapsed h []
    obtain ⟨hsource', htarget'⟩ := hd.modelEdge_bucket collapsed hmem []
    rw [hkey] at hsource' htarget'
    exact ⟨hmem, hsource.symm.trans hsource', htarget.symm.trans htarget'⟩
  · rintro ⟨hmem, hsource, htarget⟩
    dsimp only [bucketEdge] at hsource htarget
    refine ⟨hmem, ?_, ?_⟩
    · rw [drawnApart, hsource, htarget] at hapart
      exact hapart
    · rw [bucketKey, bucketKey, hsource, htarget]

/-- The edge that a dependency is drawn as stands for it. -/
theorem represents_bucketEdge {d : VisibleDependency} (h : d ∈ G.allDeps) :
    (bucketEdge G collapsed g d).Represents G collapsed g d :=
  ⟨h, rfl, rfl⟩

/-- A bundle has no dependency's id, so an edge that has one stands for one dependency. -/
theorem bucketOf_of_id {d : VisibleDependency} (h : (bucketEdge G collapsed g d).id = toString n) :
    ∃ x, bucketOf G collapsed g d = [x] ∧ x.id = n := by
  rcases modelEdge_id (bucketKey G collapsed g d) (bucketOf G collapsed g d) with
    ⟨x, hbucket, hx⟩ | hagg
  · exact ⟨x, hbucket, toString_inj.1 (hx.symm.trans h)⟩
  · exact absurd (hagg.symm.trans h) (agg_ne_toString _ _)

/-! ## When focus highlights what is incident -/

/-- No group with an end of the component's dependencies is collapsed, and no two of them
have the same ends. -/
structure Unfolded (G : VisibilityInput) (collapsed : Finset String) (g : Grouping) (id : ℕ) :
    Prop where
  expanded : ∀ d ∈ G.allDeps, d.Touches id → ∀ s ∈ G.allSubs,
    s.id = d.from_subsystem_id ∨ s.id = d.to_subsystem_id → g.keyOf s ∉ collapsed
  single : ∀ d ∈ G.allDeps, ∀ d' ∈ G.allDeps, d.Touches id →
    d.from_subsystem_id ≠ d.to_subsystem_id → d.ends = d'.ends → d = d'

variable {id : ℕ} {d d' : VisibleDependency} {s t : VisibleSubsystem}

theorem Drawable.displayNode_expanded (hd : Drawable G g) (hs : s ∈ G.allSubs)
    (hk : g.keyOf s ∉ collapsed) : displayNode G collapsed g s.id = toString s.id := by
  rw [hd.displayNode_eq hs, drawnAs, if_neg hk]

theorem Drawable.displayNode_collapsed (hd : Drawable G g) (hs : s ∈ G.allSubs)
    (hk : g.keyOf s ∈ collapsed) : displayNode G collapsed g s.id = "sys-" ++ g.keyOf s := by
  rw [hd.displayNode_eq hs, drawnAs, if_pos hk]

/-- Nothing else is drawn where a component of an expanded group is. -/
theorem Drawable.eq_of_displayNode (hd : Drawable G g) (hs : s ∈ G.allSubs) (ht : t ∈ G.allSubs)
    (hk : g.keyOf t ∉ collapsed)
    (h : displayNode G collapsed g s.id = displayNode G collapsed g t.id) : s.id = t.id := by
  rw [hd.displayNode_eq hs, hd.displayNode_eq ht, hd.drawnAs_eq_iff collapsed hs ht] at h
  rcases h with rfl | ⟨hkey, heq⟩
  · rfl
  · rw [heq] at hkey
    exact absurd hkey hk

theorem Unfolded.displayNode (hd : Drawable G g) (h : Unfolded G collapsed g id)
    (hmem : d ∈ G.allDeps) (htouches : d.Touches id)
    (hn : n = d.from_subsystem_id ∨ n = d.to_subsystem_id) :
    Topology.displayNode G collapsed g n = toString n := by
  obtain ⟨⟨s, hs, hfrom⟩, t, ht, hto⟩ := hd.closed d hmem
  rcases hn with rfl | rfl
  · rw [← hfrom]
    exact hd.displayNode_expanded hs (h.expanded d hmem htouches s hs (Or.inl hfrom))
  · rw [← hto]
    exact hd.displayNode_expanded ht (h.expanded d hmem htouches t ht (Or.inr hto))

/-- Dependencies that are drawn between the same two components have the same ends. -/
theorem Drawable.ends_eq (hd : Drawable G g) {e : Edge} (h : e.Represents G collapsed g d)
    (h' : e.Represents G collapsed g d')
    (hexpanded : ∀ s ∈ G.allSubs, s.id = d.from_subsystem_id ∨ s.id = d.to_subsystem_id →
      g.keyOf s ∉ collapsed) : d.ends = d'.ends := by
  obtain ⟨hmem, hsource, htarget⟩ := h
  obtain ⟨hmem', hsource', htarget'⟩ := h'
  obtain ⟨⟨s, hs, hfrom⟩, t, ht, hto⟩ := hd.closed d hmem
  obtain ⟨⟨s', hs', hfrom'⟩, t', ht', hto'⟩ := hd.closed d' hmem'
  have hsame := hsource'.symm.trans hsource
  have hsame' := htarget'.symm.trans htarget
  rw [← hfrom, ← hfrom'] at hsame
  rw [← hto, ← hto'] at hsame'
  rw [VisibleDependency.ends, VisibleDependency.ends, ← hfrom, ← hto, ← hfrom', ← hto',
    hd.eq_of_displayNode hs' hs (hexpanded s hs (Or.inl hfrom)) hsame,
    hd.eq_of_displayNode ht' ht (hexpanded t ht (Or.inr hto)) hsame']

/-- A dependency of the component has its edge to itself. -/
theorem Unfolded.bucketOf_eq (hd : Drawable G g) (h : Unfolded G collapsed g id)
    (hmem : d' ∈ G.allDeps) (hapart : drawnApart G collapsed g d' = true)
    (hbucket : d ∈ bucketOf G collapsed g d') (htouches : d.Touches id) :
    bucketOf G collapsed g d' = [d] := by
  have hdeps := hd.deps_nodup.of_map
  have hnodup : (bucketOf G collapsed g d').Nodup := (hdeps.filter _).filter _
  have hrepresents := (hd.mem_bucketOf hmem hapart).1 hbucket
  have ⟨hdep, hsource, htarget⟩ := hrepresents
  -- its own two ends are not one component, or it would not be drawn
  have hne : d.from_subsystem_id ≠ d.to_subsystem_id := by
    intro heq
    have hsame := of_decide_eq_true hapart
    dsimp only [bucketEdge] at hsource htarget
    rw [hsource, htarget, heq] at hsame
    exact hsame rfl
  refine List.perm_singleton.1 ((List.perm_ext_iff_of_nodup hnodup (List.nodup_singleton d)).2 ?_)
  intro x
  rw [List.mem_singleton]
  constructor
  · intro hx
    have hx' := (hd.mem_bucketOf hmem hapart).1 hx
    have hends := hd.ends_eq hrepresents hx' (h.expanded d hdep htouches)
    exact (h.single d hdep x hx'.1 htouches hne hends).symm
  · rintro rfl
    exact hbucket

/-- An edge has the id of a dependency of the component exactly if it stands for one. -/
theorem Unfolded.bright_iff (hd : Drawable G g) (h : Unfolded G collapsed g id)
    (hmem : d' ∈ G.allDeps) (hapart : drawnApart G collapsed g d' = true) :
    edgeDimmed (focusSet G (some (toString id))) (bucketEdge G collapsed g d') = false ↔
      (bucketEdge G collapsed g d').Incident G collapsed g id := by
  rw [edgeDimmed_eq_false]
  constructor
  · rintro ⟨d, hdep, htouches, hid⟩
    obtain ⟨x, hbucket, hx⟩ := bucketOf_of_id hid
    have hxmem : x ∈ bucketOf G collapsed g d' := by
      rw [hbucket]
      exact List.mem_singleton_self x
    have hrepresents := (hd.mem_bucketOf hmem hapart).1 hxmem
    have hsame : x = d := List.inj_on_of_nodup_map hd.deps_nodup hrepresents.1 hdep hx
    exact ⟨x, hrepresents, by rwa [hsame]⟩
  · rintro ⟨d, hrepresents, htouches⟩
    have hbucket := h.bucketOf_eq hd hmem hapart ((hd.mem_bucketOf hmem hapart).2 hrepresents)
      htouches
    refine ⟨d, hrepresents.1, htouches, ?_⟩
    rw [bucketEdge, hbucket]
    rfl

theorem Unfolded.highlights (hd : Drawable G g)
    (hElk : ∀ graph node, node ∈ elk graph ↔ node ∈ graph) (h : Unfolded G collapsed g id) :
    Highlights elk G collapsed g id where
  edges := by
    intro e he
    obtain ⟨d', hmem, hapart, rfl⟩ := hd.mem_edges.1 he
    exact h.bright_iff hd hmem hapart
  ends := by
    rintro e - ⟨d, ⟨hmem, hsource, htarget⟩, htouches⟩ n hn hend
    have hid : ∃ m, (m = d.from_subsystem_id ∨ m = d.to_subsystem_id) ∧ n.id = toString m := by
      rcases hend with hend | hend
      · exact ⟨_, Or.inl rfl, by rw [hend, hsource, h.displayNode hd hmem htouches (Or.inl rfl)]⟩
      · exact ⟨_, Or.inr rfl, by rw [hend, htarget, h.displayNode hd hmem htouches (Or.inr rfl)]⟩
    obtain ⟨m, hm, hid⟩ := hid
    rcases (hd.mem_nodes hElk).1 hn with ⟨s, -, rfl⟩ | ⟨s, -, rfl⟩
    · unfold groupNode at hid
      split_ifs at hid
      · exact absurd hid (sys_ne_toString _ _)
      · exact absurd hid (group_ne_toString _ _)
    · rw [focusSet_eq, nodeDimmed]
      have hsame : s.id = m := toString_inj.1 hid
      rw [← hsame] at hm
      exact decide_eq_false (not_not.2 (ends_bright hmem htouches hm))

/-- The node of a collapsed group is bright in no focus set: it is no frame. -/
theorem Drawable.collapsed_dimmed (hd : Drawable G g)
    (hElk : ∀ graph node, node ∈ elk graph ↔ node ∈ graph) (hk : k ∈ collapsed) :
    nodeDimmed (focusSet G (some (toString id))) (layoutTopology elk G collapsed g).nodes
      (groupNode collapsed k) = true := by
  rw [focusSet_eq, nodeDimmed, groupNode, if_pos hk]
  dsimp only
  rw [decide_eq_true_eq]
  intro hbright
  obtain ⟨n, hn, hparent⟩ := List.mem_filterMap.1 hbright
  rcases (hd.mem_nodes hElk).1 (List.mem_of_mem_filter hn) with ⟨s, -, rfl⟩ | ⟨s, -, rfl⟩
  · unfold groupNode at hparent
    split_ifs at hparent
  · exact sys_ne_group _ _ (Option.some.inj hparent).symm

/-- A dependency between a component that is drawn and one in a collapsed group is drawn, with
an end at the group's node. -/
theorem Drawable.apart_of_collapsed (hd : Drawable G g) (hs : s ∈ G.allSubs)
    (hks : g.keyOf s ∉ collapsed) (htouches : d.Touches s.id) (ht : t ∈ G.allSubs)
    (hend : t.id = d.from_subsystem_id ∨ t.id = d.to_subsystem_id) (hkt : g.keyOf t ∈ collapsed) :
    drawnApart G collapsed g d = true ∧
      ((groupNode collapsed (g.keyOf t)).id = (bucketEdge G collapsed g d).source ∨
        (groupNode collapsed (g.keyOf t)).id = (bucketEdge G collapsed g d).target) := by
  have hdisplay := hd.displayNode_expanded hs hks
  have hdisplay' := hd.displayNode_collapsed ht hkt
  have hnode : (groupNode collapsed (g.keyOf t)).id = displayNode G collapsed g t.id := by
    rw [groupNode, if_pos hkt, hdisplay']
  have hne : displayNode G collapsed g t.id ≠ displayNode G collapsed g s.id := by
    rw [hdisplay, hdisplay']
    exact sys_ne_toString _ _
  have hids : t.id ≠ s.id := fun heq => hne (by rw [heq])
  rw [hnode, drawnApart, bucketEdge, decide_eq_true_eq]
  dsimp only
  rcases hend with hend | hend
  · rcases htouches with htouches | htouches
    · exact absurd (hend.trans htouches) hids
    · rw [← hend, htouches]
      exact ⟨hne, Or.inl rfl⟩
  · rcases htouches with htouches | htouches
    · rw [← hend, htouches]
      exact ⟨hne.symm, Or.inr rfl⟩
    · exact absurd (hend.trans htouches) hids

/-- The node of a collapsed group at the end of a bright edge would be dimmed. -/
theorem Highlights.expanded (hd : Drawable G g)
    (hElk : ∀ graph node, node ∈ elk graph ↔ node ∈ graph)
    (hs : s ∈ renderedComponents G collapsed g) (h : Highlights elk G collapsed g s.id)
    (hdep : d ∈ G.allDeps) (htouches : d.Touches s.id) (ht : t ∈ G.allSubs)
    (hend : t.id = d.from_subsystem_id ∨ t.id = d.to_subsystem_id) : g.keyOf t ∉ collapsed := by
  obtain ⟨hmem, hks⟩ := List.mem_filter.1 hs
  intro hkt
  obtain ⟨hapart, hnode⟩ :=
    hd.apart_of_collapsed hmem (of_decide_eq_true hks) htouches ht hend hkt
  have hbright := h.ends _ (hd.mem_edges.2 ⟨d, hdep, hapart, rfl⟩)
    ⟨d, represents_bucketEdge hdep, htouches⟩ _ ((hd.mem_nodes hElk).2 (Or.inl ⟨t, ht, rfl⟩))
    hnode
  rw [hd.collapsed_dimmed hElk hkt] at hbright
  cases hbright

/-- A bundle of two dependencies would be dimmed. -/
theorem Highlights.single (hd : Drawable G g) (h : Highlights elk G collapsed g id)
    (hdep : d ∈ G.allDeps) (hdep' : d' ∈ G.allDeps) (htouches : d.Touches id)
    (hapart : drawnApart G collapsed g d = true) (hends : d.ends = d'.ends) : d = d' := by
  have hbright := (h.edges _ (hd.mem_edges.2 ⟨d, hdep, hapart, rfl⟩)).2
    ⟨d, represents_bucketEdge hdep, htouches⟩
  obtain ⟨x, -, -, hid⟩ := edgeDimmed_eq_false.1 hbright
  obtain ⟨y, hbucket, -⟩ := bucketOf_of_id hid
  have hone : ∀ z, (bucketEdge G collapsed g d).Represents G collapsed g z → z = y := by
    intro z hz
    have hmem := (hd.mem_bucketOf hdep hapart).2 hz
    rw [hbucket] at hmem
    exact List.mem_singleton.1 hmem
  obtain ⟨hfrom, hto⟩ := Prod.mk.inj hends
  have hsame : (bucketEdge G collapsed g d).Represents G collapsed g d' :=
    ⟨hdep', by rw [bucketEdge, hfrom], by rw [bucketEdge, hto]⟩
  rw [hone d (represents_bucketEdge hdep), hone d' hsame]

theorem Highlights.unfolded (hd : Drawable G g)
    (hElk : ∀ graph node, node ∈ elk graph ↔ node ∈ graph)
    (hs : s ∈ renderedComponents G collapsed g) (h : Highlights elk G collapsed g s.id) :
    Unfolded G collapsed g s.id := by
  have hexpanded : ∀ d ∈ G.allDeps, d.Touches s.id → ∀ t ∈ G.allSubs,
      t.id = d.from_subsystem_id ∨ t.id = d.to_subsystem_id → g.keyOf t ∉ collapsed :=
    fun d hdep htouches t ht hend => h.expanded hd hElk hs hdep htouches ht hend
  refine ⟨hexpanded, ?_⟩
  intro d hdep d' hdep' htouches hne hends
  refine h.single hd hdep hdep' htouches ?_ hends
  -- the two ends are drawn, each on its own
  obtain ⟨⟨a, ha, hfrom⟩, b, hb, hto⟩ := hd.closed d hdep
  have hkb := hexpanded d hdep htouches b hb (Or.inr hto)
  rw [drawnApart, decide_eq_true_eq, ← hfrom, ← hto]
  intro heq
  exact hne (hfrom ▸ hto ▸ hd.eq_of_displayNode ha hb hkb heq)

end Draw

/-! ## The two pages -/

theorem Drawable.visible {G : VisibilityInput} {g : Grouping} (hd : Drawable G g)
    (hidden : Finset String) : Drawable (computeVisibleGraph hidden G) g where
  ids_nodup := by
    rw [allSubs_visible]
    exact hd.ids_nodup.sublist (List.filter_sublist.map _)
  deps_nodup := by
    rw [allDeps_visible]
    exact hd.deps_nodup.sublist (List.filter_sublist.map _)
  closed := by
    intro d hmem
    rw [allDeps_visible] at hmem
    have hboth := of_decide_eq_true (List.mem_filter.1 hmem).2
    rw [survivingIds_eq] at hboth
    rw [allSubs_visible]
    exact ⟨List.mem_map.1 hboth.1, List.mem_map.1 hboth.2⟩
  plain := by
    intro s hs
    rw [allSubs_visible] at hs
    exact hd.plain s (List.mem_of_mem_filter hs)

/-- What the page of an environment shows can be drawn. -/
theorem environment_drawable {db : Db} {env_id : ℕ} {data : EnvironmentTopologyResponse}
    (h : get_environment_topology db env_id tenant_id = .ok data) (groupBy : GroupBy)
    (hiddenTypes : Finset String) :
    Drawable (computeVisibleGraph hiddenTypes (graphBy data groupBy))
      (groupingBy data groupBy) := by
  obtain ⟨ref, hdepicts⟩ := (topology_wellFormed h).depicts groupBy
  exact hdepicts.drawable.visible hiddenTypes

theorem TopologyResponse.WellFormed.drawable {data : TopologyResponse} (h : data.WellFormed)
    (systemNames : Index String String) (system_id : ℕ) :
    Drawable data.getGraph (bySystem systemNames system_id) := by
  have hsubs : data.getGraph.allSubs =
      (data.subsystems ++ data.external_subsystems).map VisibleSubsystem.ofSubSystem := by
    rw [VisibilityInput.allSubs, List.map_append]
    rfl
  have hdeps : data.getGraph.allDeps =
      (data.dependencies ++ data.external_dependencies).map VisibleDependency.of := by
    rw [VisibilityInput.allDeps, List.map_append]
    rfl
  have hdrawn : ∀ id ∈ (data.subsystems ++ data.external_subsystems).map Scanning.SubSystem.id,
      ∃ s ∈ data.getGraph.allSubs, s.id = id := by
    intro id hid
    obtain ⟨s, hs, rfl⟩ := List.mem_map.1 hid
    rw [hsubs]
    exact ⟨_, List.mem_map_of_mem hs, rfl⟩
  refine ⟨?_, ?_, ?_, ?_⟩
  · rw [hsubs, List.map_map]
    exact h.nodes_nodup
  · rw [hdeps, List.map_map]
    exact h.deps_nodup
  · intro _ hd
    rw [hdeps] at hd
    obtain ⟨d, hmem, rfl⟩ := List.mem_map.1 hd
    obtain ⟨hfrom, hto⟩ := h.closed d hmem
    exact ⟨hdrawn _ hfrom, hdrawn _ hto⟩
  · intro s _ hmem
    exact absurd (isDigit_of_mem_toString hmem) (by decide)

/-- What the page of a system shows can be drawn. -/
theorem system_drawable {db : Db} {system_id : ℕ} {data : TopologyResponse}
    (h : get_system_topology db system_id tenant_id = .ok data) (systemNames : Index String String)
    (hiddenTypes : Finset String) :
    Drawable (computeVisibleGraph hiddenTypes data.getGraph) (bySystem systemNames system_id) :=
  ((system_topology_wellFormed h).drawable systemNames system_id).visible hiddenTypes

/-! ## The condition -/

/-- **Focus highlights every incident link** exactly if no dependency of the component leads
into or out of a collapsed group and no two of them have the same ends. -/
theorem focus_highlights_iff {elk : List ElkNode → List ElkNode}
    (hElk : ∀ graph node, node ∈ elk graph ↔ node ∈ graph) {visibleGraph : VisibilityInput}
    {grouping : Grouping} (hd : Drawable visibleGraph grouping) {collapsedGroups : Finset String}
    {s : VisibleSubsystem} (hs : s ∈ renderedComponents visibleGraph collapsedGroups grouping) :
    Highlights elk visibleGraph collapsedGroups grouping s.id ↔
      Unfolded visibleGraph collapsedGroups grouping s.id :=
  ⟨Highlights.unfolded hd hElk hs, Unfolded.highlights hd hElk⟩

/-! ## A service and two components of another system, a worker and one of a third -/

namespace Bundled

def catalogue : Scanning.Db where
  subsystems := ⟨[⟨1, 1, 1, "api", "web_service", none, .MANUAL, none, none⟩,
    ⟨2, 1, 2, "db", "database", none, .MANUAL, none, none⟩,
    ⟨3, 1, 2, "queue", "message_queue", none, .MANUAL, none, none⟩,
    ⟨4, 1, 1, "worker", "web_service", none, .MANUAL, none, none⟩,
    ⟨5, 1, 3, "mail", "web_service", none, .MANUAL, none, none⟩], 6, by decide, by decide⟩
  dependencies := ⟨[⟨1, 1, 1, 2, .DATABASE, .ONE_WAY, none, none, .MANUAL, none⟩,
    ⟨2, 1, 1, 3, .MESSAGE_QUEUE, .ONE_WAY, none, none, .MANUAL, none⟩,
    ⟨3, 1, 4, 5, .DATABASE, .ONE_WAY, none, none, .MANUAL, none⟩], 4, by decide, by decide⟩
  endpoints := Table.empty
  uq_subsystem_system_name := by decide
  uq_component_dep := by decide
  fk_from := by decide
  fk_to := by decide
  fk_dependency := by decide

def db : Db where
  contents :=
    { environments := Table.empty
      systems := Table.empty.insert_all [Hosted.system, Hosted.system, Hosted.system]
      catalogue := catalogue
      environment_systems := Table.empty
      environment_subsystems := Table.empty
      custom_fields := [] }
  hosts := Table.empty
  infrastructure := Table.empty
  uq_env_subsystem := by decide
  fk_subsystem := by decide

/-- What the page of the first system shows. -/
def graph : VisibilityInput :=
  match get_system_topology db 1 1 with
  | .ok data => computeVisibleGraph ∅ data.getGraph
  | .error _ => ⟨[], [], [], []⟩

def grouping : Grouping := bySystem Index.empty 1

theorem drawable : Drawable graph grouping := by
  have hanswer : get_system_topology db 1 1 = .ok _ := rfl
  exact system_drawable hanswer Index.empty ∅

end Bundled

/-- With the third system collapsed, which only the worker leads to, focusing the service shows
both links. -/
theorem service_is_focused : Highlights id Bundled.graph {"3"} Bundled.grouping 1 := by
  have hrendered : (⟨1, "api", 1, "web_service", none, none, none⟩ : VisibleSubsystem) ∈
      renderedComponents Bundled.graph {"3"} Bundled.grouping := by decide +kernel
  refine (focus_highlights_iff (fun _ _ => Iff.rfl) Bundled.drawable hrendered).2 ⟨?_, ?_⟩
  · have hends : ∀ d ∈ Bundled.graph.allDeps,
        (d.from_subsystem_id = 1 ∨ d.to_subsystem_id = 1) → ∀ s ∈ Bundled.graph.allSubs,
          s.id = d.from_subsystem_id ∨ s.id = d.to_subsystem_id →
            Bundled.grouping.keyOf s ∉ ({"3"} : Finset String) := by decide +kernel
    exact hends
  · have hends : (Bundled.graph.allDeps.map VisibleDependency.ends).Nodup := by decide +kernel
    intro d hd d' hd' _ _ heq
    exact List.inj_on_of_nodup_map hends hd hd' heq

/-- With the second system collapsed, the links are one edge, `agg:1->sys-2`, and it is
dimmed. -/
theorem bundle_is_dimmed : (∃ s ∈ renderedComponents Bundled.graph {"2"} Bundled.grouping,
      s.id = 1) ∧
    ¬ Highlights id Bundled.graph {"2"} Bundled.grouping 1 := by
  refine ⟨⟨⟨1, "api", 1, "web_service", none, none, none⟩, by decide +kernel, rfl⟩, ?_⟩
  intro h
  have hmem : (⟨"agg:1->sys-2", "1", "sys-2"⟩ : Edge) ∈
      (layoutTopology id Bundled.graph {"2"} Bundled.grouping).edges := by decide +kernel
  have hdimmed : edgeDimmed (focusSet Bundled.graph (some (toString 1)))
      (⟨"agg:1->sys-2", "1", "sys-2"⟩ : Edge) = true := by decide +kernel
  have hincident : (⟨"agg:1->sys-2", "1", "sys-2"⟩ : Edge).Incident Bundled.graph {"2"}
      Bundled.grouping 1 :=
    ⟨⟨1, 1, 2, .DATABASE, .ONE_WAY, none⟩, ⟨by decide +kernel, by decide +kernel,
      by decide +kernel⟩, Or.inl rfl⟩
  rw [(h.edges _ hmem).2 hincident] at hdimmed
  cases hdimmed

end EnvMgr.Topology

/-
The topology diagram: `components/topology` of the frontend.

The answer of the endpoint is drawn in four steps. `buildHostGraph` regroups it by host,
where that is asked for: a subsystem becomes one instance per host, and a dependency one
per pair of instances of its ends. `computeVisibleGraph` takes the hidden types out.
`computeCollapseModel` groups what is left, folds each collapsed group into one node and
each bundle of parallel edges into one edge. `buildElkGraph` names the nodes.
-/
import EnvMgr.Lib.Infix
import EnvMgr.Topology.Response
import Mathlib.Data.Finset.Basic

namespace EnvMgr.Topology

open Scanning (ComponentDependency DependencyDirection DependencyType)

/-- What a `DependencyType` is on the wire. -/
def DependencyType.text : DependencyType → String
  | .API_CALL => "api_call"
  | .DATABASE => "database"
  | .MESSAGE_QUEUE => "message_queue"
  | .EVENT => "event"
  | .FILE => "file"
  | .OTHER => "other"

/-! ## `topologyVisibility.ts` -/

structure VisibleSubsystem where
  id : ℕ
  name : String
  system_id : ℕ
  component_type : String
  technology : Option String
  is_mocked : Option Bool
  hosts : Option (List EnvSubsystemHostRef)
  deriving DecidableEq

structure VisibleDependency where
  id : ℕ
  from_subsystem_id : ℕ
  to_subsystem_id : ℕ
  dependency_type : DependencyType
  direction : DependencyDirection
  label : Option String
  deriving DecidableEq

structure VisibilityInput where
  subsystems : List VisibleSubsystem
  dependencies : List VisibleDependency
  externalSubsystems : List VisibleSubsystem
  externalDependencies : List VisibleDependency
  deriving DecidableEq

def VisibilityInput.allSubs (input : VisibilityInput) : List VisibleSubsystem :=
  input.subsystems ++ input.externalSubsystems

def VisibilityInput.allDeps (input : VisibilityInput) : List VisibleDependency :=
  input.dependencies ++ input.externalDependencies

section Visible

variable (hiddenTypes : Finset String)

def visible (s : VisibleSubsystem) : Bool := s.component_type ∉ hiddenTypes

def survivingIds (input : VisibilityInput) : List ℕ :=
  ((input.subsystems.filter (visible hiddenTypes)).map (·.id)) ++
    ((input.externalSubsystems.filter (visible hiddenTypes)).map (·.id))

def bothSurvive (input : VisibilityInput) (d : VisibleDependency) : Bool :=
  d.from_subsystem_id ∈ survivingIds hiddenTypes input ∧
    d.to_subsystem_id ∈ survivingIds hiddenTypes input

/-- The graph without the subsystems of a hidden type, and without the dependencies that
have one for an end. -/
def computeVisibleGraph (input : VisibilityInput) : VisibilityInput where
  subsystems := input.subsystems.filter (visible hiddenTypes)
  externalSubsystems := input.externalSubsystems.filter (visible hiddenTypes)
  dependencies := input.dependencies.filter (bothSurvive hiddenTypes input)
  externalDependencies := input.externalDependencies.filter (bothSurvive hiddenTypes input)

end Visible

/-! ## `topologyModel.ts` -/

structure GroupMeta where
  name : String
  isCurrent : Bool
  deriving DecidableEq

/-- Which group a subsystem belongs to, and how that group is labelled. -/
structure Grouping where
  keyOf : VisibleSubsystem → String
  metaOf : String → GroupMeta

structure ModelGroup where
  groupId : String
  name : String
  isCurrent : Bool
  collapsed : Bool
  componentCount : ℕ
  components : List VisibleSubsystem
  deriving DecidableEq

structure ModelEdge where
  id : String
  source : String
  target : String
  label : String
  aggregatedCount : ℕ
  dependencyId : Option ℕ
  direction : DependencyDirection
  deriving DecidableEq

structure TopologyModel where
  groups : List ModelGroup
  edges : List ModelEdge
  deriving DecidableEq

section Collapse

variable (input : VisibilityInput) (collapsedGroups : Finset String) (grouping : Grouping)

/-- `groupOf.get(id)`: the map is filled from all the subsystems, the last of an id staying. -/
def groupOf (id : ℕ) : Option String :=
  ((Index.collect (fun s => some s.id) input.allSubs).get id).map grouping.keyOf

/-- A subsystem's key is read from `groupOf`, which has it. -/
def byGroup : Index String (List VisibleSubsystem) :=
  Index.group (fun s => (groupOf input grouping s.id).getD "") id input.allSubs

def modelGroup (groupId : String) (comps : List VisibleSubsystem) : ModelGroup :=
  { groupId := groupId
    name := (grouping.metaOf groupId).name
    isCurrent := (grouping.metaOf groupId).isCurrent
    collapsed := groupId ∈ collapsedGroups
    componentCount := comps.length
    components := if groupId ∈ collapsedGroups then [] else comps }

def displayNode (componentId : ℕ) : String :=
  match groupOf input grouping componentId with
  | none => toString componentId
  | some key => if key ∈ collapsedGroups then "sys-" ++ key else toString componentId

def bucketKey (d : VisibleDependency) : String :=
  displayNode input collapsedGroups grouping d.from_subsystem_id ++ "->" ++
    displayNode input collapsedGroups grouping d.to_subsystem_id

/-- Both ends are in one collapsed group, or are one component: there is nothing to draw. -/
def drawnApart (d : VisibleDependency) : Bool :=
  displayNode input collapsedGroups grouping d.from_subsystem_id ≠
    displayNode input collapsedGroups grouping d.to_subsystem_id

def buckets : Index String (List VisibleDependency) :=
  Index.group (bucketKey input collapsedGroups grouping) id
    (input.allDeps.filter (drawnApart input collapsedGroups grouping))

/-- An edge of a bucket; its ends are read back from the bucket's key. -/
def modelEdge (key : String) (deps : List VisibleDependency) : ModelEdge :=
  let arrowIdx := Joined.indexOf "->".toList key.toList
  let source := String.ofList (key.toList.take arrowIdx)
  let target := String.ofList (key.toList.drop (arrowIdx + 2))
  match deps with
  | [d] =>
    { id := toString d.id
      source := source
      target := target
      label := d.label.getD (DependencyType.text d.dependency_type)
      aggregatedCount := 1
      dependencyId := some d.id
      direction := d.direction }
  | _ =>
    { id := "agg:" ++ key
      source := source
      target := target
      label := toString deps.length ++ "×"
      aggregatedCount := deps.length
      dependencyId := none
      direction := .ONE_WAY }

def computeCollapseModel : TopologyModel where
  groups := (byGroup input grouping).items.map fun i =>
    modelGroup collapsedGroups grouping i.1 i.2
  edges := (buckets input collapsedGroups grouping).items.map fun i => modelEdge i.1 i.2

end Collapse

/-! ## `topologyElkGraph.ts` -/

structure ElkNode where
  id : String
  children : List String
  deriving DecidableEq

/-- A collapsed group is a node; one that is not contains a node for each component. -/
def elkNode (g : ModelGroup) : ElkNode :=
  if g.collapsed then
    { id := "sys-" ++ g.groupId, children := [] }
  else
    { id := "group-" ++ g.groupId, children := g.components.map fun c => toString c.id }

def buildElkGraph (model : TopologyModel) : List ElkNode := model.groups.map elkNode

/-! ## `topologyHostTransform.ts` -/

structure HostGraph where
  graph : VisibilityInput
  hostKeyById : Index ℕ String
  hostMeta : Index String GroupMeta
  edgeDepResolver : Index ℕ ℕ

/-- The maps and the counter that the loops over the subsystems fill. -/
structure Instances where
  nodeSeq : ℕ
  hostKeyById : Index ℕ String
  hostMeta : Index String GroupMeta
  instancesOf : Index ℕ (List VisibleSubsystem)

def UNASSIGNED : String := "unassigned"

def EXTERNAL : String := "external"

/-- One instance of `src`, under a fresh id. -/
def addInstance (src : VisibleSubsystem) (hostKey : String) (hostMeta : GroupMeta)
    (st : Instances × List VisibleSubsystem) : Instances × List VisibleSubsystem :=
  let node := { src with id := st.1.nodeSeq }
  ({ nodeSeq := st.1.nodeSeq + 1
     hostKeyById := st.1.hostKeyById.set node.id hostKey
     hostMeta := st.1.hostMeta.set hostKey hostMeta
     instancesOf := st.1.instancesOf.set src.id ((st.1.instancesOf.get src.id).getD [] ++ [node]) },
   st.2 ++ [node])

/-- A subsystem of the environment, on each of its hosts. -/
def addSubsystem (st : Instances × List VisibleSubsystem) (s : VisibleSubsystem) :
    Instances × List VisibleSubsystem :=
  let hosts := s.hosts.getD []
  if hosts = [] then
    addInstance s UNASSIGNED ⟨"Unassigned", false⟩ st
  else
    hosts.foldl (fun st h =>
      addInstance s (toString h.infrastructure_component_id) ⟨h.name, true⟩ st) st

def addExternal (st : Instances × List VisibleSubsystem) (s : VisibleSubsystem) :
    Instances × List VisibleSubsystem :=
  addInstance s EXTERNAL ⟨"External", false⟩ st

/-- The map and the counter that the loops over the dependencies fill. -/
structure FannedOut where
  edgeSeq : ℕ
  edgeDepResolver : Index ℕ ℕ
  out : List VisibleDependency

def addEdge (d : VisibleDependency) (src : VisibleSubsystem) (st : FannedOut)
    (tgt : VisibleSubsystem) : FannedOut where
  edgeSeq := st.edgeSeq + 1
  edgeDepResolver := st.edgeDepResolver.set st.edgeSeq d.id
  out := st.out ++
    [{ d with id := st.edgeSeq, from_subsystem_id := src.id, to_subsystem_id := tgt.id }]

/-- `fanOut`: an edge for every pair of instances of the two ends. -/
def fanOut (instancesOf : Index ℕ (List VisibleSubsystem)) (deps : List VisibleDependency)
    (st : FannedOut) : FannedOut :=
  deps.foldl (fun st d =>
    ((instancesOf.get d.from_subsystem_id).getD []).foldl (fun st src =>
      ((instancesOf.get d.to_subsystem_id).getD []).foldl (addEdge d src) st) st) st

def buildHostGraph (input : VisibilityInput) : HostGraph :=
  let inside := input.subsystems.foldl addSubsystem (⟨1, Index.empty, Index.empty, Index.empty⟩, [])
  let all := input.externalSubsystems.foldl addExternal (inside.1, [])
  let dependencies := fanOut all.1.instancesOf input.dependencies ⟨1, Index.empty, []⟩
  let externalDependencies := fanOut all.1.instancesOf input.externalDependencies
    { dependencies with out := [] }
  { graph :=
      { subsystems := inside.2
        externalSubsystems := all.2
        dependencies := dependencies.out
        externalDependencies := externalDependencies.out }
    hostKeyById := all.1.hostKeyById
    hostMeta := all.1.hostMeta
    edgeDepResolver := externalDependencies.edgeDepResolver }

/-! ## `environmentTopologySource.ts` -/

def VisibleSubsystem.of (node : EnvSubsystemNode) : VisibleSubsystem where
  id := node.id
  name := node.name
  system_id := node.system_id
  component_type := node.component_type
  technology := node.technology
  is_mocked := some node.is_mocked
  hosts := some node.hosts

def VisibleDependency.of (d : ComponentDependency) : VisibleDependency where
  id := d.id
  from_subsystem_id := d.from_subsystem_id
  to_subsystem_id := d.to_subsystem_id
  dependency_type := d.dependency_type
  direction := d.direction
  label := d.label

/-- `fromEnvironmentTopologyResponse(data).getGraph()`. -/
def getGraph (data : EnvironmentTopologyResponse) : VisibilityInput where
  subsystems := data.subsystems.map VisibleSubsystem.of
  dependencies := data.dependencies.map VisibleDependency.of
  externalSubsystems := data.outside_subsystems.map VisibleSubsystem.of
  externalDependencies := data.outside_dependencies.map VisibleDependency.of

/-- The keys are the texts of ids, so `Number(key)` reads the id back. -/
def byEnvSystem (systemNames : Index String String) (envSystemIds : List ℕ) : Grouping where
  keyOf s := toString s.system_id
  metaOf key :=
    let inEnv : Bool := match key.toNat? with
      | some n => n ∈ envSystemIds
      | none => false
    let name := (systemNames.get key).getD ("System " ++ key)
    { name := if inEnv then name else name ++ " — not in environment", isCurrent := inEnv }

def byHost (hostKeyById : Index ℕ String) (hostMeta : Index String GroupMeta) : Grouping where
  keyOf s := (hostKeyById.get s.id).getD UNASSIGNED
  metaOf key := (hostMeta.get key).getD { name := key, isCurrent := false }

/-! ## `topologySource.ts` -/

def VisibleSubsystem.ofSubSystem (s : Scanning.SubSystem) : VisibleSubsystem where
  id := s.id
  name := s.name
  system_id := s.system_id
  component_type := s.component_type
  technology := s.technology
  is_mocked := none
  hosts := none

/-- `fromTopologyResponse(data).getGraph()`. -/
def TopologyResponse.getGraph (data : TopologyResponse) : VisibilityInput where
  subsystems := data.subsystems.map VisibleSubsystem.ofSubSystem
  dependencies := data.dependencies.map VisibleDependency.of
  externalSubsystems := data.external_subsystems.map VisibleSubsystem.ofSubSystem
  externalDependencies := data.external_dependencies.map VisibleDependency.of

def bySystem (systemNames : Index String String) (currentSystemId : ℕ) : Grouping where
  keyOf s := toString s.system_id
  metaOf key :=
    { name := (systemNames.get key).getD ("System " ++ key)
      isCurrent := key.toNat? = some currentSystemId }

/-! ## `EnvironmentTopologyDiagram.tsx` -/

inductive GroupBy
  | system
  | host
  deriving DecidableEq

def graphBy (data : EnvironmentTopologyResponse) : GroupBy → VisibilityInput
  | .system => getGraph data
  | .host => (buildHostGraph (getGraph data)).graph

def groupingBy (data : EnvironmentTopologyResponse) : GroupBy → Grouping
  | .system => byEnvSystem data.system_names (data.subsystems.map (·.system_id))
  | .host =>
    byHost (buildHostGraph (getGraph data)).hostKeyById (buildHostGraph (getGraph data)).hostMeta

/-- What the canvas draws, given the types it hides and the groups it folds. -/
def diagram (data : EnvironmentTopologyResponse) (groupBy : GroupBy)
    (hiddenTypes collapsedGroups : Finset String) : TopologyModel :=
  computeCollapseModel (computeVisibleGraph hiddenTypes (graphBy data groupBy)) collapsedGroups
    (groupingBy data groupBy)

end EnvMgr.Topology

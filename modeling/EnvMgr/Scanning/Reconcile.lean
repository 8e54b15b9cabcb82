/-
Writing a declared state into the catalogue, and comparing the two.

`apply` writes and `diff` compares. Both match subsystems by name, both drop an
edge whose ends the declaration does not name or which is a loop, and both keep
the last of several declarations of one subsystem or one edge; they do so in code
of their own, `apply` over row ids and `diff` over names.
-/
import EnvMgr.Scanning.Model
import Mathlib.Data.Prod.Lex
import Mathlib.Data.String.Basic

namespace EnvMgr.Scanning

/-! ## The catalogue -/

/-- Every live subsystem of the system, keyed by name. -/
def catalogue (db : Db) (system_id tenant_id : ℕ) : Index String SubSystem :=
  Index.collect (fun row => some row.name)
    (db.subsystems.select fun s =>
      s.system_id = system_id ∧ s.tenant_id = tenant_id ∧ s.deleted_at = none)

/-! ## Writing -/

structure ApplyResult where
  subsystems_created : ℕ
  subsystems_updated : ℕ
  dependencies_written : ℕ
  deriving DecidableEq

/-- What the loop over the declared subsystems carries along. Of a row in `existing`
only the id is read once it is there. -/
structure Applying where
  db : Db
  existing : Index String SubSystem
  declared_ids : Index String ℕ
  result : ApplyResult

section

variable (system_id tenant_id : ℕ) (source : SubSystemSource)

def new_subsystem (sub : DeclaredSubsystem) : Table.New SubSystem.id where
  row id :=
    { id := id
      tenant_id := tenant_id
      system_id := system_id
      name := sub.name
      component_type := sub.component_type
      technology := sub.technology
      source := source
      source_path := some sub.source_path
      deleted_at := none }
  key_row _ := rfl

def stamp_subsystem (sub : DeclaredSubsystem) : SubSystem.Edit where
  apply row :=
    { row with
      component_type := sub.component_type
      technology := sub.technology
      source := source
      source_path := some sub.source_path }
  key_apply _ := rfl
  keeps _ := ⟨rfl, rfl, rfl, rfl⟩

/-- One turn of `for sub in declared.subsystems`. -/
def apply_subsystem (st : Applying) (sub : DeclaredSubsystem) : Except Refused Applying :=
  match st.existing.get sub.name with
  | none => do
    let (db, row) ← st.db.add_subsystem (new_subsystem system_id tenant_id source sub)
    pure
      { db := db
        existing := st.existing.set sub.name row
        declared_ids := st.declared_ids.set sub.name row.id
        result := { st.result with subsystems_created := st.result.subsystems_created + 1 } }
  | some row =>
    pure
      { db := st.db.update_subsystem row.id (stamp_subsystem source sub)
        existing := st.existing
        declared_ids := st.declared_ids.set sub.name row.id
        result := { st.result with subsystems_updated := st.result.subsystems_updated + 1 } }

/-- The (from, to) pair an edge is written under, if `apply` writes it. -/
def edge_ids (declared_ids : Index String ℕ) (edge : DeclaredEdge) : Option (ℕ × ℕ) :=
  match declared_ids.get edge.from_name, declared_ids.get edge.to_name with
  | some from_id, some to_id => if from_id = to_id then none else some (from_id, to_id)
  | _, _ => none

def resolved_edges (declared_ids : Index String ℕ) (edges : List DeclaredEdge) :
    Index (ℕ × ℕ) DeclaredEdge :=
  Index.collect (edge_ids declared_ids) edges

def new_dependency (edge_source : DependencySource) (item : (ℕ × ℕ) × DeclaredEdge) :
    Table.New ComponentDependency.id where
  row id :=
    { id := id
      tenant_id := tenant_id
      from_subsystem_id := item.1.1
      to_subsystem_id := item.1.2
      dependency_type := .API_CALL
      direction := .ONE_WAY
      protocol := none
      port := item.2.port
      source := edge_source
      label := none }
  key_row _ := rfl

/-- The rows the scan's `DELETE` is for. -/
def scan_owned (all_ids : List ℕ) (edge_source : DependencySource) (d : ComponentDependency) :
    Bool :=
  d.tenant_id = tenant_id ∧ d.from_subsystem_id ∈ all_ids ∧ d.source = edge_source

/-- The edge half of `apply`, once the subsystems are written. -/
def apply_edges (st : Applying) (edge_source : DependencySource) (edges : List DeclaredEdge) :
    Except Refused (Db × ApplyResult) := do
  let all_ids := st.existing.values.map SubSystem.id
  let db := if all_ids = [] then st.db
    else st.db.delete_dependencies (scan_owned tenant_id all_ids edge_source)
  let resolved := resolved_edges st.declared_ids edges
  let db ← resolved.items.foldlM
    (fun db item => db.add_dependency (new_dependency tenant_id edge_source item)) db
  pure (db, { st.result with dependencies_written := resolved.items.length })

def edge_source_missing (edges : ℕ) : String :=
  "a source that declares dependency edges must supply an edge_source; "
    ++ "got edge_source=None with " ++ toString edges ++ " edge(s) to write"

def apply (db : Db) (edge_source : Option DependencySource) (declared : DeclaredState) :
    Except Refused (Db × ApplyResult) := do
  let st ← declared.subsystems.foldlM (apply_subsystem system_id tenant_id source)
    { db := db
      existing := catalogue db system_id tenant_id
      declared_ids := Index.empty
      result := ⟨0, 0, 0⟩ }
  match edge_source with
  | none =>
    if declared.edges ≠ [] then .error (.value_error (edge_source_missing declared.edges.length))
    else pure (st.db, st.result)
  | some edge_source => apply_edges tenant_id st edge_source declared.edges

end

/-! ## Comparing -/

structure ChangedSubsystem where
  name : String
  field : String
  catalogue : Option String
  declared : Option String
  source_path : String
  deriving DecidableEq

structure EdgeRef where
  from_name : String
  to_name : String
  port : Option ℤ
  deriving DecidableEq

structure ChangedEdge where
  from_name : String
  to_name : String
  catalogue_port : Option ℤ
  declared_port : Option ℤ
  source_path : String
  deriving DecidableEq

structure ConflictingEdge where
  from_name : String
  to_name : String
  port : Option ℤ
  source_path : String
  catalogue_source : String
  deriving DecidableEq

structure DriftReport where
  subsystems_missing_in_catalogue : List DeclaredSubsystem
  subsystems_missing_in_code : Option (List String)
  subsystems_changed : List ChangedSubsystem
  edges_missing_in_catalogue : List DeclaredEdge
  edges_missing_in_code : Option (List EdgeRef)
  edges_changed : List ChangedEdge
  edges_conflicting_source : List ConflictingEdge
  absence_computed : Bool
  absence_reason : Option String
  warnings : List String
  deriving DecidableEq

/-- `bool(xs)` of a list that may be `None`. -/
def truthy {α : Type*} : Option (List α) → Bool
  | none => false
  | some xs => !xs.isEmpty

def DriftReport.has_drift (report : DriftReport) : Bool :=
  !report.subsystems_missing_in_catalogue.isEmpty
    || truthy report.subsystems_missing_in_code
    || !report.subsystems_changed.isEmpty
    || !report.edges_missing_in_catalogue.isEmpty
    || truthy report.edges_missing_in_code
    || !report.edges_changed.isEmpty
    || !report.edges_conflicting_source.isEmpty

def declared_by_name (subsystems : List DeclaredSubsystem) : Index String DeclaredSubsystem :=
  Index.collect (fun sub => some sub.name) subsystems

def declared_twice (previous sub : DeclaredSubsystem) : String :=
  py_repr sub.name ++ " is declared in both " ++ previous.source_path ++ " and "
    ++ sub.source_path ++ "; only the last is kept"

/-- The warnings the loop that fills `declared_by_name` appends. -/
def duplicate_warnings : Index String DeclaredSubsystem → List DeclaredSubsystem → List String
  | _, [] => []
  | by_name, sub :: subs =>
    (match by_name.get sub.name with
      | some previous =>
        if previous.source_path ≠ sub.source_path then [declared_twice previous sub] else []
      | none => []) ++ duplicate_warnings (by_name.set sub.name sub) subs

/-- `technology or None`. -/
def or_none (technology : Option String) : Option String :=
  if technology = some "" then none else technology

def changed_fields (name : String) (row : SubSystem) (sub : DeclaredSubsystem) :
    List ChangedSubsystem :=
  (if row.component_type ≠ sub.component_type then
    [{ name := name, field := "component_type", catalogue := some row.component_type,
       declared := some sub.component_type, source_path := sub.source_path }]
   else []) ++
  (if or_none row.technology ≠ or_none sub.technology then
    [{ name := name, field := "technology", catalogue := row.technology,
       declared := sub.technology, source_path := sub.source_path }]
   else [])

/-- `name_by_id.get(row_id)`. -/
def name_by_id (existing : Index String SubSystem) (row_id : ℕ) : Option String :=
  ((Index.collect (fun item => some item.2.id) existing.items).get row_id).map Prod.fst

/-- The names of an edge's ends, when both are in the catalogue. -/
def edge_names (existing : Index String SubSystem) (d : ComponentDependency) :
    Option (String × String) :=
  match name_by_id existing d.from_subsystem_id, name_by_id existing d.to_subsystem_id with
  | some from_name, some to_name => some (from_name, to_name)
  | _, _ => none

/-- Of any source: at most one row can exist for a pair. -/
def catalogue_edges_by_pair (db : Db) (tenant_id : ℕ) (existing : Index String SubSystem) :
    Index (String × String) ComponentDependency :=
  Index.collect (edge_names existing)
    (db.dependencies.select fun d => d.tenant_id = tenant_id)

/-- The key an edge is compared under, if `diff` compares it. -/
def edge_key (by_name : Index String DeclaredSubsystem) (edge : DeclaredEdge) :
    Option (String × String) :=
  if edge.from_name = edge.to_name then none
  else if edge.from_name ∉ by_name.keys ∨ edge.to_name ∉ by_name.keys then none
  else some (edge.from_name, edge.to_name)

def declared_edges (declared : DeclaredState) : Index (String × String) DeclaredEdge :=
  Index.collect (edge_key (declared_by_name declared.subsystems)) declared.edges

/-- What the loop over `declared_edges` finds at one key. -/
inductive EdgeDrift
  | missing (edge : DeclaredEdge)
  | conflicting (edge : ConflictingEdge)
  | changed (edge : ChangedEdge)
  deriving DecidableEq

def edge_drift (edge_source : DependencySource) (row : Option ComponentDependency)
    (key : String × String) (edge : DeclaredEdge) : Option EdgeDrift :=
  match row with
  | none => some (.missing edge)
  | some row =>
    if row.source.value ≠ edge_source.value then
      some (.conflicting
        { from_name := key.1, to_name := key.2, port := edge.port,
          source_path := edge.source_path, catalogue_source := row.source.value })
    else if row.port ≠ edge.port then
      some (.changed
        { from_name := key.1, to_name := key.2, catalogue_port := row.port,
          declared_port := edge.port, source_path := edge.source_path })
    else none

def EdgeDrift.missing? : EdgeDrift → Option DeclaredEdge
  | missing edge => some edge
  | _ => none

def EdgeDrift.conflicting? : EdgeDrift → Option ConflictingEdge
  | conflicting edge => some edge
  | _ => none

def EdgeDrift.changed? : EdgeDrift → Option ChangedEdge
  | changed edge => some edge
  | _ => none

section

variable (db : Db) (system_id tenant_id : ℕ) (source : SubSystemSource)
  (edge_source : Option DependencySource) (declared : DeclaredState) (absence_computed : Bool)
  (absence_reason : Option String)

/-- What `diff` finds at every declared edge it compares, in order. -/
def edge_drifts (existing : Index String SubSystem) : List EdgeDrift :=
  match edge_source with
  | none => []
  | some edge_source =>
    (declared_edges declared).items.filterMap fun item =>
      edge_drift edge_source ((catalogue_edges_by_pair db tenant_id existing).get item.1)
        item.1 item.2

/-- The rows this source owns that the code no longer declares. -/
def edges_missing_in_code (existing : Index String SubSystem) (edge_source : DependencySource) :
    List EdgeRef :=
  let owned := (catalogue_edges_by_pair db tenant_id existing).items.filter fun item =>
    item.2.source.value = edge_source.value
  let missing := owned.filter fun item => item.1 ∉ (declared_edges declared).keys
  order_by (fun ref => toLex (ref.from_name, ref.to_name))
    (missing.map fun item => { from_name := item.1.1, to_name := item.1.2, port := item.2.port })

def diff : DriftReport :=
  let existing := catalogue db system_id tenant_id
  let by_name := declared_by_name declared.subsystems
  let drifts := edge_drifts db tenant_id edge_source declared existing
  { subsystems_missing_in_catalogue :=
      (by_name.items.filter fun item => item.1 ∉ existing.keys).map Prod.snd
    subsystems_missing_in_code :=
      if absence_computed then
        some (order_by id ((existing.items.filter fun item =>
          item.2.source.value = source.value ∧ item.1 ∉ by_name.keys).map Prod.fst))
      else none
    subsystems_changed := by_name.items.flatMap fun item =>
      match existing.get item.1 with
      | none => []
      | some row => changed_fields item.1 row item.2
    edges_missing_in_catalogue := drifts.filterMap EdgeDrift.missing?
    edges_missing_in_code :=
      match edge_source with
      | none => none
      | some edge_source =>
        if absence_computed then
          some (edges_missing_in_code db tenant_id declared existing edge_source)
        else none
    edges_changed := drifts.filterMap EdgeDrift.changed?
    edges_conflicting_source := drifts.filterMap EdgeDrift.conflicting?
    absence_computed := absence_computed
    absence_reason := absence_reason
    warnings := declared.warnings ++ duplicate_warnings Index.empty declared.subsystems }

end

end EnvMgr.Scanning

/-
Scanning a repository: `services/scanning/scanner.py`.

One walk reads the repository and hands every file to the detectors that claim it. A scan
writes what each detector declares, one after the other, into the one catalogue; the drift
report compares each with it. A file that cannot be read costs its detectors an error and
nothing else, and is what makes an absence impossible to tell.
-/
import EnvMgr.Scanning.Reconcile

namespace EnvMgr.Scanning

/-! ## The client -/

inductive GitHubError
  | auth (message : String)
  | not_found (message : String)
  | rate_limited
  | unavailable (message : String)
  | unexpected_response (message : String)
  deriving DecidableEq

/-- `str(exc)`. -/
def GitHubError.text : GitHubError → String
  | auth message => message
  | not_found message => message
  | rate_limited => "GitHub API rate limit exceeded"
  | unavailable message => message
  | unexpected_response message => message

/-- The errors on one file that do not stop the walk. -/
def GitHubError.caught : GitHubError → Bool
  | not_found _ => true
  | unavailable _ => true
  | unexpected_response _ => true
  | auth _ => false
  | rate_limited => false

structure TreeResult where
  paths : List String
  truncated : Bool
  deriving DecidableEq

/-- The client, opened for the system's repository. -/
structure GitHubClient where
  get_default_branch : Except GitHubError String
  get_tree : String → Except GitHubError TreeResult
  /-- By path and ref. -/
  get_blob : String → String → Except GitHubError ByteArray

/-! ## Detectors -/

/-- `parse` raises an exception, or says what the file declares. -/
structure Detector where
  name : String
  matches_path : String → Bool
  parse : ByteArray → String → Except String DeclaredState
  subsystem_source : SubSystemSource
  edge_source : Option DependencySource

/-- `DETECTORS`: two of one name are refused when the module is loaded. -/
structure Registry where
  detectors : List Detector
  names_nodup : (detectors.map Detector.name).Nodup

def DeclaredState.empty : DeclaredState := ⟨[], [], []⟩

instance : Add DeclaredState where
  add a b := ⟨a.subsystems ++ b.subsystems, a.edges ++ b.edges, a.warnings ++ b.warnings⟩

/-! ## The walk -/

structure DetectorWalk where
  detector : Detector
  paths : List String
  declared : DeclaredState
  errors : List String
  paths_unread : ℕ

structure WalkResult where
  ref : String
  files_scanned : ℕ
  truncated : Bool
  stopped_early : Bool
  walks : List DetectorWalk

def partial_listing : String :=
  "GitHub returned only a partial listing of this repository's file tree, so files it never "
    ++ "listed cannot be told apart from deleted ones."

def file_limit : String :=
  "The scan stopped at its file limit, so files it never read cannot be told apart from "
    ++ "deleted ones."

def files_unread (n : ℕ) : String :=
  toString n ++ " matching file(s) were not read, so they cannot be told apart from deleted "
    ++ "ones."

def fetch_failed : String :=
  "Some matching files could not be fetched, so they cannot be told apart from deleted ones."

/-- Whether "in the catalogue but not in the code" can be trusted, and if not, why. -/
def absence_is_computable (walk : DetectorWalk) (truncated stopped_early : Bool) :
    Bool × Option String :=
  if truncated then (false, some partial_listing)
  else if stopped_early then (false, some file_limit)
  else if walk.paths_unread ≠ 0 then (false, some (files_unread walk.paths_unread))
  else if walk.errors ≠ [] then (false, some fetch_failed)
  else (true, none)

/-- The file could not be fetched. -/
def DetectorWalk.failed (walk : DetectorWalk) (path : String) (e : GitHubError) : DetectorWalk :=
  { walk with errors := walk.errors ++ [path ++ ": " ++ e.text] }

/-- The file was fetched, and is parsed. -/
def DetectorWalk.parsed (walk : DetectorWalk) (path : String) (content : ByteArray) :
    DetectorWalk :=
  match walk.detector.parse content path with
  | .ok declared =>
    { walk with paths := walk.paths ++ [path], declared := walk.declared + declared }
  | .error text =>
    { walk with paths := walk.paths ++ [path], errors := walk.errors ++ [path ++ ": " ++ text] }

/-- `for detector in wanted: .. walks[detector.name] ..`: a name is one detector's. -/
def for_wanted (path : String) (f : DetectorWalk → DetectorWalk) (walks : List DetectorWalk) :
    List DetectorWalk :=
  walks.map fun walk => if walk.detector.matches_path path then f walk else walk

/-- One turn of the loop over the claimed paths. -/
def read_path (client : GitHubClient) (ref : String) (walks : List DetectorWalk) (path : String) :
    Except GitHubError (List DetectorWalk) :=
  match client.get_blob path ref with
  | .ok content => .ok (for_wanted path (·.parsed path content) walks)
  | .error e =>
    if e.caught then .ok (for_wanted path (·.failed path e) walks) else .error e

/-- The paths that some detector claims. -/
def claimed (registry : Registry) (paths : List String) : List String :=
  paths.filter fun path => registry.detectors.any (·.matches_path path)

/-- A detector's walk before the first file is read. -/
def Detector.started (detector : Detector) (dropped : List String) : DetectorWalk where
  detector := detector
  paths := []
  declared := DeclaredState.empty
  errors := []
  paths_unread := (dropped.filter detector.matches_path).length

/-- `_walk`. -/
def walk_repository (registry : Registry) (max_scan_files : ℕ) (client : GitHubClient) :
    Except GitHubError WalkResult := do
  let ref ← client.get_default_branch
  let tree ← client.get_tree ref
  let paths := claimed registry tree.paths
  let dropped := paths.drop max_scan_files
  let read := paths.take max_scan_files
  let walks ← read.foldlM (read_path client ref)
    (registry.detectors.map fun detector => detector.started dropped)
  .ok
    { ref := ref
      files_scanned := read.length
      truncated := tree.truncated
      stopped_early := paths.length > max_scan_files
      walks := walks }

/-! ## The scan -/

structure DetectorScan where
  detector : String
  paths : List String
  subsystems_created : ℕ
  subsystems_updated : ℕ
  dependencies_written : ℕ
  warnings : List String
  errors : List String
  paths_unread : ℕ
  deriving DecidableEq

structure ScanReport where
  ref : String
  files_scanned : ℕ
  truncated : Bool
  stopped_early : Bool
  detectors : List DetectorScan
  deriving DecidableEq

/-- `type(exc).__name__`. -/
def Refused.class_name : Refused → String
  | .raised _ => "HTTPException"
  | .value_error _ => "ValueError"
  | .violates _ => "IntegrityError"

section Scan

/- The first line of `str(exc)`, which for an `IntegrityError` is the driver's. -/
variable (first_line : Refused → String)

def format_apply_error (detector_name : String) (exc : Refused) : String :=
  if first_line exc ≠ "" then
    detector_name ++ ": " ++ exc.class_name ++ ": " ++ first_line exc
  else detector_name ++ ": " ++ exc.class_name

def DetectorWalk.scanned (walk : DetectorWalk) (applied : ApplyResult) (errors : List String) :
    DetectorScan where
  detector := walk.detector.name
  paths := walk.paths
  subsystems_created := applied.subsystems_created
  subsystems_updated := applied.subsystems_updated
  dependencies_written := applied.dependencies_written
  warnings := walk.declared.warnings
  errors := errors
  paths_unread := walk.paths_unread

variable (system_id tenant_id : ℕ)

/-- One turn of the loop over the walks; each detector writes in a savepoint of its own. -/
def apply_walk (st : Db × List DetectorScan) (walk : DetectorWalk) : Db × List DetectorScan :=
  if walk.declared.subsystems = [] ∧ walk.declared.edges = [] then
    (st.1, st.2 ++ [walk.scanned ⟨0, 0, 0⟩ walk.errors])
  else
    match apply system_id tenant_id walk.detector.subsystem_source st.1 walk.detector.edge_source
        walk.declared with
    | .ok (db, applied) => (db, st.2 ++ [walk.scanned applied walk.errors])
    | .error exc =>
      (st.1, st.2 ++ [walk.scanned ⟨0, 0, 0⟩
        (walk.errors ++ [format_apply_error first_line walk.detector.name exc])])

variable (registry : Registry) (max_scan_files : ℕ) (client : GitHubClient) (db : Db)

def scan_repository : Except GitHubError (Db × ScanReport) := do
  let walk_result ← walk_repository registry max_scan_files client
  let (db, detectors_out) :=
    walk_result.walks.foldl (apply_walk first_line system_id tenant_id) (db, [])
  .ok (db,
    { ref := walk_result.ref
      files_scanned := walk_result.files_scanned
      truncated := walk_result.truncated
      stopped_early := walk_result.stopped_early
      detectors := detectors_out })

end Scan

/-! ## The drift report -/

structure DetectorDrift where
  detector : String
  paths : List String
  paths_unread : ℕ
  errors : List String
  report : DriftReport
  deriving DecidableEq

structure RepositoryDrift where
  ref : String
  files_scanned : ℕ
  truncated : Bool
  stopped_early : Bool
  has_drift : Bool
  detectors : List DetectorDrift
  deriving DecidableEq

section Drift

variable (system_id tenant_id : ℕ) (registry : Registry) (max_scan_files : ℕ)
  (client : GitHubClient) (db : Db)

def DetectorWalk.drift (truncated stopped_early : Bool) (walk : DetectorWalk) : DetectorDrift :=
  let absence := absence_is_computable walk truncated stopped_early
  { detector := walk.detector.name
    paths := walk.paths
    paths_unread := walk.paths_unread
    errors := walk.errors
    report := diff db system_id tenant_id walk.detector.subsystem_source
      walk.detector.edge_source walk.declared absence.1 absence.2 }

/-- Writes nothing. -/
def drift_repository : Except GitHubError RepositoryDrift := do
  let walk_result ← walk_repository registry max_scan_files client
  let detectors_out := walk_result.walks.map
    (DetectorWalk.drift system_id tenant_id db walk_result.truncated walk_result.stopped_early)
  .ok
    { ref := walk_result.ref
      files_scanned := walk_result.files_scanned
      truncated := walk_result.truncated
      stopped_early := walk_result.stopped_early
      has_drift := detectors_out.any (·.report.has_drift)
      detectors := detectors_out }

end Drift

end EnvMgr.Scanning

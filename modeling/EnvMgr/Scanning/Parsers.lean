/-
Reading an uploaded file: `parse_docker_compose`, `parse_tfstate` and the endpoints over them.

A parser asks of most of what it finds in a file whether it is of the kind it expects, and
passes over what is not. In a few places it does not ask: the configuration of a service is
taken for a mapping, an image for a text and `ports` for something that can be indexed, and
the whole of a state file for a mapping. The endpoints answer a `ValueError` and nothing else,
so those places are where a malformed file ends in an exception that nobody handles. What is
said here is exact: a file is answered if and only if it has the right kind in each of them.
-/
import EnvMgr.Lib.Loaded
import EnvMgr.Scanning.Reconcile
import Mathlib.Data.List.Infix

namespace EnvMgr.Scanning

open Loaded

variable {φ : Type}

/-- `s[:n]`. -/
def cut (n : ℕ) (s : String) : String := String.ofList (s.toList.take n)

/-- `s.split(':')`. -/
def parts (s : String) : List (List Char) := s.toList.splitOn ':'

/-! ## Compose files: `docker_compose_import_service` -/

namespace DockerCompose

def IMAGE_TYPE_MAP : List (String × String) :=
  [("postgres", "database"), ("mysql", "database"), ("mariadb", "database"),
   ("mongo", "database"), ("redis", "cache"), ("memcached", "cache"),
   ("rabbitmq", "message_queue"), ("kafka", "message_queue"), ("nats", "message_queue"),
   ("nginx", "api_gateway"), ("traefik", "api_gateway"), ("caddy", "api_gateway"),
   ("celery", "worker")]

variable (F : Printing φ) (lower : String → String)

/-- Of an image that counts as true; `lower` is `str.lower`. -/
def infer_component_type (image : Option String) : String :=
  match image with
  | none => "web_service"
  | some image =>
    ((IMAGE_TYPE_MAP.find? fun entry => entry.1.toList <:+: (lower image).toList).map
      Prod.snd).getD "web_service"

/-- `v or {}`, of which `get` is then called. -/
def mapping (v : Value φ) : Except PyError (Items φ) :=
  if v.truthy F then get_or_raise v.entries .AttributeError else .ok []

/-- `image if image else None`, of which `split` is then called. -/
def image_text (image : Value φ) : Except PyError (Option String) :=
  if image.truthy F then do
    let text ← get_or_raise image.text .AttributeError
    .ok (some text)
  else .ok none

def declared_service (path : String) (service : String × Value φ) :
    Except PyError DeclaredSubsystem := do
  let service_config ← mapping F service.2
  let image ← image_text F (get service_config "image" .null)
  .ok
    { name := cut 200 service.1
      component_type := infer_component_type lower image
      technology := image.map fun text => cut 100 (String.ofList ((parts text).headD []))
      source_path := cut 500 path }

/-- A list of names, or a mapping from names to conditions. -/
def dep_names (depends_on : Value φ) : List String :=
  match depends_on with
  | .list items => items.filterMap Value.text
  | .dict items => (named items).map Prod.fst
  | .scalar _ => []

/-- `int(str(ports[0]).split(':')[-1])`, where `ValueError` and `IndexError` are caught. -/
def first_port (ports : Value φ) : Except PyError (Option ℤ) :=
  if ports.truthy F then do
    let first ← ports.first F
    .ok (first.bind fun v => (v.to_str F).bind fun text =>
      Digits.int_of_signed ((parts text).getLastD []))
  else .ok none

def edges_of_service (path : String) (service : String × Value φ) :
    Except PyError (List DeclaredEdge) := do
  let service_config ← mapping F service.2
  let port ← first_port F (get service_config "ports" (.list []))
  .ok ((dep_names (get service_config "depends_on" (.dict []))).map fun dep_name =>
    { from_name := cut 200 service.1
      to_name := cut 200 dep_name
      port := port
      source_path := cut 500 path })

/-- What the two loops make of the services; a service whose name is no text is passed over. -/
def read_services (path : String) (services : Items φ) : Except PyError DeclaredState := do
  let subsystems ← (named services).mapM (declared_service F lower path)
  let edges ← (named services).mapM (edges_of_service F path)
  .ok { subsystems := subsystems, edges := edges.flatten, warnings := [] }

end DockerCompose

section

variable (F : Printing φ) (lower : String → String)
  (safe_load : ByteArray → Except String (Value φ))

/-- `services`, if it is a mapping with something in it. -/
def services_of (compose : Items φ) : Option (Items φ) :=
  (get compose "services" (.dict [])).entries.filter fun services => !services.isEmpty

/-- `safe_load` returns a value, or the text of its `YAMLError`. -/
def parse_docker_compose (content : ByteArray) (path : String) :
    Except PyError DeclaredState :=
  match safe_load content with
  | .error e => .error (.ValueError s!"Invalid YAML: {e}")
  | .ok compose => do
    let compose ← get_or_raise compose.entries
      (.ValueError "Invalid docker-compose file: expected a YAML mapping at the top level")
    let services ← get_or_raise (services_of compose)
      (.ValueError "No services found in docker-compose file")
    DockerCompose.read_services F lower path services

end

/-! ## State files: `terraform_import_service` -/

namespace Terraform

def TF_TYPE_MAP : List (String × String) :=
  [("aws_db_instance", "database"), ("aws_rds_cluster", "database"),
   ("aws_rds_cluster_instance", "database"), ("google_sql_database_instance", "database"),
   ("azurerm_sql_database", "database"), ("azurerm_postgresql_flexible_server", "database"),
   ("aws_elasticache_cluster", "cache"), ("aws_elasticache_replication_group", "cache"),
   ("google_redis_instance", "cache"), ("azurerm_redis_cache", "cache"),
   ("aws_mq_broker", "message_queue"), ("aws_sqs_queue", "message_queue"),
   ("aws_sns_topic", "message_queue"), ("google_pubsub_topic", "message_queue"),
   ("azurerm_servicebus_queue", "message_queue"), ("aws_lambda_function", "worker"),
   ("google_cloudfunctions_function", "worker"), ("google_cloudfunctions2_function", "worker"),
   ("azurerm_function_app", "worker"), ("aws_alb", "api_gateway"), ("aws_lb", "api_gateway"),
   ("aws_api_gateway_rest_api", "api_gateway"), ("aws_apigatewayv2_api", "api_gateway"),
   ("google_compute_backend_service", "api_gateway"), ("azurerm_api_management", "api_gateway"),
   ("aws_ecs_service", "web_service"), ("aws_elastic_beanstalk_environment", "web_service"),
   ("google_cloud_run_service", "web_service"), ("google_cloud_run_v2_service", "web_service"),
   ("azurerm_app_service", "web_service"), ("azurerm_linux_web_app", "web_service"),
   ("azurerm_container_app", "web_service"), ("kubernetes_deployment", "web_service"),
   ("kubernetes_stateful_set", "web_service")]

def infer_component_type (resource_type : String) : String :=
  ((TF_TYPE_MAP.find? fun entry => entry.1 = resource_type).map Prod.snd).getD "other"

/-- What a resource declares, if it is one that Terraform manages. -/
def declared_resource (path : String) (resource : Value φ) : Option DeclaredSubsystem := do
  let resource ← resource.entries
  -- `mode='data'` is something Terraform reads
  guard ((get resource "mode" .null).text = some "managed")
  let resource_type ← (get resource "type" (.str "")).text
  let resource_name ← (get resource "name" (.str "")).text
  guard (resource_type ≠ "" ∧ resource_name ≠ "")
  some
    { name := cut 200 s!"{resource_type}.{resource_name}"
      component_type := infer_component_type resource_type
      technology := some (cut 100 resource_type)
      source_path := cut 500 path }

end Terraform

/-- `loads` returns a value, or the text of its `JSONDecodeError`. -/
def parse_tfstate (loads : ByteArray → Except String (Value φ)) (content : ByteArray)
    (path : String) : Except PyError DeclaredState :=
  match loads content with
  | .error e => .error (.ValueError s!"Invalid JSON: {e}")
  | .ok state => do
    let state ← get_or_raise state.entries .AttributeError
    let resources ← get_or_raise (get state "resources" (.list [])).items
      (.ValueError "Invalid tfstate format: 'resources' must be a list")
    .ok
      { subsystems := resources.filterMap (Terraform.declared_resource path)
        edges := []
        warnings := [] }

/-! ## The endpoints: `import_routes` -/

/-- What the reading or the writing of a file raised. -/
inductive Failure
  | parser (e : PyError)
  | database (e : Refused)
  deriving DecidableEq

/-- A reply, or an exception that the endpoint does not handle. -/
inductive Reply
  | ok (db : Db) (result : ApplyResult)
  | http (status_code : ℕ) (detail : String)
  | unhandled (e : Failure)

def MAX_UPLOAD_SIZE : ℕ := 10 * 1024 * 1024

/-- `except ValueError as e`. -/
def Failure.answer : Failure → Reply
  | .parser (.ValueError text) => .http 422 text
  | .database (.value_error text) => .http 422 text
  | e => .unhandled e

section

variable (parse : ByteArray → String → Except PyError DeclaredState) (source : SubSystemSource)
  (edge_source : Option DependencySource) (default_path : String) (system_id tenant_id : ℕ)
  (db : Db)

/-- `import_docker_compose` and `import_terraform`. -/
def import_file (content : ByteArray) : Except Failure (Db × ApplyResult) := do
  let declared ← (parse content default_path).mapError .parser
  (apply system_id tenant_id source db edge_source declared).mapError .database

/-- An endpoint, once it has found the system. -/
def import_endpoint (content : ByteArray) : Reply :=
  if MAX_UPLOAD_SIZE < content.size then .http 413 "File too large"
  else
    match import_file parse source edge_source default_path system_id tenant_id db content with
    | .ok (db, result) => .ok db result
    | .error e => e.answer

end

section

variable (F : Printing φ) (lower : String → String)
  (safe_load loads : ByteArray → Except String (Value φ)) (system_id tenant_id : ℕ) (db : Db)

def import_docker_compose_endpoint (content : ByteArray) : Reply :=
  import_endpoint (parse_docker_compose F lower safe_load) .DOCKER_COMPOSE (some .DOCKER_COMPOSE)
    "docker-compose.yml" system_id tenant_id db content

def import_terraform_endpoint (content : ByteArray) : Reply :=
  import_endpoint (parse_tfstate loads) .TERRAFORM none "terraform.tfstate" system_id tenant_id db
    content

/-! ## The kinds that nothing asks for -/

/-- A configuration is a mapping, its image a text and its ports can be indexed, each unless it
counts as false. -/
structure WellKinded (config : Value φ) : Prop where
  mapping : config.truthy F = true → config.entries ≠ none
  image : (get (config.entries.getD []) "image" .null).truthy F = true →
    (get (config.entries.getD []) "image" .null).text ≠ none
  ports : (get (config.entries.getD []) "ports" (.list [])).truthy F = true →
    (get (config.entries.getD []) "ports" (.list [])).Indexable F

/-- If it is a mapping with services, each of those that are read is of the right kinds. -/
def ComposeKinds (content : ByteArray) : Prop :=
  ∀ compose services, safe_load content = .ok (.dict compose) →
    services_of compose = some services → ∀ service ∈ named services, WellKinded F service.2

/-- It is a mapping, if it is read. -/
def StateKinds (content : ByteArray) : Prop :=
  ∀ state, loads content = .ok state → ∃ items, state = .dict items

/-- It ends in no exception of the parser. -/
def Reply.Handled (reply : Reply) : Prop := ∀ e, reply ≠ .unhandled (.parser e)

end

/-! ## Compose files -/

section Compose

open DockerCompose

variable {F : Printing φ} {lower : String → String}
  {safe_load : ByteArray → Except String (Value φ)} {path : String}

/-- What counts as false has no entries. -/
theorem entries_of_falsy {v : Value φ} (h : v.truthy F = false) : v.entries.getD [] = [] := by
  cases v with
  | dict items =>
    have hempty : items = [] := by simpa [Value.truthy] using h
    rw [hempty]
    rfl
  | list items => rfl
  | scalar s => rfl

theorem mapping_eq_ok {v : Value φ} {items : Items φ} :
    mapping F v = .ok items ↔
      (v.truthy F = true → v.entries ≠ none) ∧ v.entries.getD [] = items := by
  unfold mapping
  by_cases h : v.truthy F = true
  · rw [if_pos h, get_or_raise_eq_ok]
    cases hentries : v.entries with
    | none => simp [h]
    | some items' => simp
  · have hfalsy : v.truthy F = false := Bool.eq_false_iff.2 h
    rw [if_neg h, entries_of_falsy hfalsy, Except.ok.injEq]
    exact ⟨fun hitems => ⟨fun h' => absurd h' h, hitems⟩, fun hboth => hboth.2⟩

theorem image_text_ok_iff {image : Value φ} :
    (∃ text, image_text F image = .ok text) ↔ (image.truthy F = true → image.text ≠ none) := by
  unfold image_text
  by_cases h : image.truthy F = true
  · rw [if_pos h]
    cases htext : image.text with
    | none => simp [h]
    | some text => simp
  · rw [if_neg h]
    exact iff_of_true ⟨_, rfl⟩ fun h' => absurd h' h

theorem first_port_ok_iff {ports : Value φ} :
    (∃ port, first_port F ports = .ok port) ↔ (ports.truthy F = true → ports.Indexable F) := by
  unfold first_port
  by_cases h : ports.truthy F = true
  · rw [if_pos h, ← first_ok_iff]
    constructor
    · rintro ⟨port, hport⟩ _
      obtain ⟨first, hfirst, -⟩ := bind_eq_ok.1 hport
      exact ⟨first, hfirst⟩
    · intro hfirst
      obtain ⟨first, hfirst⟩ := hfirst h
      exact ⟨_, bind_eq_ok.2 ⟨first, hfirst, rfl⟩⟩
  · rw [if_neg h]
    exact iff_of_true ⟨_, rfl⟩ fun h' => absurd h' h

/-- Both loops return on a service exactly if it is of the right kinds. -/
theorem service_ok_iff {service : String × Value φ} :
    ((∃ sub, declared_service F lower path service = .ok sub) ∧
      ∃ edges, edges_of_service F path service = .ok edges) ↔ WellKinded F service.2 := by
  simp only [declared_service, edges_of_service, bind_eq_ok, mapping_eq_ok, Except.ok.injEq]
  constructor
  · rintro ⟨⟨_, _, ⟨hmapping, rfl⟩, image, himage, -⟩, _, _, ⟨-, rfl⟩, port, hport, -⟩
    exact ⟨hmapping, image_text_ok_iff.1 ⟨image, himage⟩, first_port_ok_iff.1 ⟨port, hport⟩⟩
  · intro h
    obtain ⟨image, himage⟩ := image_text_ok_iff.2 h.image
    obtain ⟨port, hport⟩ := first_port_ok_iff.2 h.ports
    exact ⟨⟨_, _, ⟨h.mapping, rfl⟩, image, himage, rfl⟩,
      ⟨_, _, ⟨h.mapping, rfl⟩, port, hport, rfl⟩⟩

theorem blunt_mapping (v : Value φ) : Blunt (mapping F v) := by
  unfold mapping
  split
  · exact blunt_get_or_raise fun text h => by cases h
  · exact blunt_ok

theorem blunt_declared_service (service : String × Value φ) :
    Blunt (declared_service F lower path service) := by
  refine (blunt_mapping service.2).bind fun config _ => Blunt.bind ?_ fun image _ => blunt_ok
  unfold image_text
  split
  · exact (blunt_get_or_raise fun text h => by cases h).bind fun text _ => blunt_ok
  · exact blunt_ok

theorem blunt_edges_of_service (service : String × Value φ) :
    Blunt (edges_of_service F path service) := by
  refine (blunt_mapping service.2).bind fun config _ => Blunt.bind ?_ fun port _ => blunt_ok
  unfold first_port
  split
  · exact (blunt_first _).bind fun first _ => blunt_ok
  · exact blunt_ok

theorem read_services_settles_iff {services : Items φ} :
    Settles (read_services F lower path services) ↔
      ∀ service ∈ named services, WellKinded F service.2 := by
  have hsubs : Settles ((named services).mapM (declared_service F lower path)) ↔ _ :=
    settles_mapM_iff fun service _ => blunt_declared_service service
  have hedges : Settles ((named services).mapM (edges_of_service F path)) ↔ _ :=
    settles_mapM_iff fun service _ => blunt_edges_of_service service
  have hboth : ∀ service ∈ named services, WellKinded F service.2 →
      (∃ sub, declared_service F lower path service = .ok sub) ∧
        ∃ edges, edges_of_service F path service = .ok edges :=
    fun service _ h => service_ok_iff.2 h
  rw [read_services, settles_bind_iff, hsubs]
  constructor
  · rintro ⟨hall, hrest⟩ service hservice
    obtain ⟨subsystems, hsubsystems, -⟩ := exists_mapM hall
    have hsecond := hedges.1 (settles_bind_iff.1 (hrest subsystems hsubsystems)).1
    exact service_ok_iff.1 ⟨hall service hservice, hsecond service hservice⟩
  · intro hall
    refine ⟨fun service h => (hboth service h (hall service h)).1, fun _ _ => ?_⟩
    refine settles_bind_iff.2 ⟨hedges.2 fun service h => ?_, fun _ _ => settles_ok⟩
    exact (hboth service h (hall service h)).2

theorem parse_docker_compose_settles_iff {content : ByteArray} :
    Settles (parse_docker_compose F lower safe_load content path) ↔
      ComposeKinds F safe_load content := by
  unfold parse_docker_compose ComposeKinds
  cases hload : safe_load content with
  | error e => exact iff_of_true settles_value_error fun _ _ h => by cases h
  | ok compose =>
    simp only [settles_bind_iff, settles_get_or_raise, true_and, get_or_raise_eq_ok,
      read_services_settles_iff, Except.ok.injEq]
    constructor
    · rintro h items services rfl
      exact h items rfl services
    · intro h items hitems
      cases compose with
      | dict items' =>
        cases hitems
        exact fun services => h items services rfl
      | list _ => cases hitems
      | scalar _ => cases hitems

end Compose

/-! ## State files -/

theorem parse_tfstate_settles_iff {loads : ByteArray → Except String (Value φ)}
    {content : ByteArray} {path : String} :
    Settles (parse_tfstate loads content path) ↔ StateKinds loads content := by
  unfold parse_tfstate StateKinds
  cases hload : loads content with
  | error e => exact iff_of_true settles_value_error fun _ h => by cases h
  | ok state =>
    have hblunt : Blunt (get_or_raise state.entries .AttributeError) :=
      blunt_get_or_raise fun text h => by cases h
    have hrest : ∀ items : Items φ,
        Settles (get_or_raise (get items "resources" (.list [])).items
          (.ValueError "Invalid tfstate format: 'resources' must be a list") >>= fun resources =>
            Except.ok (DeclaredState.mk
              (resources.filterMap (Terraform.declared_resource path)) [] [])) := fun items =>
      settles_bind_iff.2 ⟨settles_get_or_raise, fun _ _ => settles_ok⟩
    rw [settles_bind_iff, hblunt.settles_iff]
    constructor
    · rintro ⟨⟨items, hitems⟩, -⟩ state' hstate
      cases hstate
      cases state with
      | dict items' => exact ⟨items', rfl⟩
      | list _ => cases hitems
      | scalar _ => cases hitems
    · intro h
      obtain ⟨items, rfl⟩ := h state rfl
      exact ⟨⟨items, rfl⟩, fun items' _ => hrest items'⟩

/-! ## The endpoints -/

/-- What the writing raised is the writing's, whoever answers it. -/
theorem answer_database_handled (e : Refused) : (Failure.database e).answer.Handled := by
  intro e' h
  cases e <;> cases h

theorem answer_parser_handled_iff (e : PyError) :
    (Failure.parser e).answer.Handled ↔ ∃ text, e = .ValueError text := by
  cases e with
  | ValueError text =>
    refine iff_of_true (fun e' h => ?_) ⟨text, rfl⟩
    cases h
  | _ =>
    refine iff_of_false (fun h => h _ rfl) ?_
    rintro ⟨text, h⟩
    cases h

section

variable {parse : ByteArray → String → Except PyError DeclaredState} {source : SubSystemSource}
  {edge_source : Option DependencySource} {default_path : String} {system_id tenant_id : ℕ}
  {db : Db} {content : ByteArray}

theorem import_file_of_error {e : PyError} (h : parse content default_path = .error e) :
    import_file parse source edge_source default_path system_id tenant_id db content
      = .error (.parser e) := by
  unfold import_file
  rw [h]
  rfl

theorem import_file_of_ok {declared : DeclaredState}
    (h : parse content default_path = .ok declared) :
    import_file parse source edge_source default_path system_id tenant_id db content
      = (apply system_id tenant_id source db edge_source declared).mapError .database := by
  unfold import_file
  rw [h]
  rfl

/-- **An endpoint handles what its parser settles**, and a file that is too large. -/
theorem import_endpoint_handled_iff :
    (import_endpoint parse source edge_source default_path system_id tenant_id db
        content).Handled ↔
      MAX_UPLOAD_SIZE < content.size ∨ Settles (parse content default_path) := by
  unfold import_endpoint
  by_cases hsize : MAX_UPLOAD_SIZE < content.size
  · rw [if_pos hsize]
    refine iff_of_true (fun e h => ?_) (Or.inl hsize)
    cases h
  · rw [if_neg hsize, or_iff_right hsize]
    cases hparse : parse content default_path with
    | error e =>
      rw [import_file_of_error hparse]
      refine (answer_parser_handled_iff e).trans ⟨fun h e' he => ?_, fun h => h e rfl⟩
      cases he
      exact h
    | ok declared =>
      rw [import_file_of_ok hparse]
      refine iff_of_true ?_ settles_ok
      cases apply system_id tenant_id source db edge_source declared with
      | error e => exact answer_database_handled e
      | ok written =>
        intro e h
        cases h

end

/-- **What is answered.** A compose file is read or refused with a text if and only if the
services that are read have the kinds the reader takes for granted, and a state file if and only
if it is a mapping; and what is not answered by the parser is not answered by the endpoint. -/
theorem parsers_settle_iff_kinds (F : Printing φ) (lower : String → String)
    (safe_load loads : ByteArray → Except String (Value φ)) (system_id tenant_id : ℕ) (db : Db)
    (content : ByteArray) :
    (∀ path, Settles (parse_docker_compose F lower safe_load content path) ↔
        ComposeKinds F safe_load content) ∧
      (∀ path, Settles (parse_tfstate loads content path) ↔ StateKinds loads content) ∧
      ((import_docker_compose_endpoint F lower safe_load system_id tenant_id db content).Handled ↔
        MAX_UPLOAD_SIZE < content.size ∨ ComposeKinds F safe_load content) ∧
      ((import_terraform_endpoint loads system_id tenant_id db content).Handled ↔
        MAX_UPLOAD_SIZE < content.size ∨ StateKinds loads content) := by
  refine ⟨fun path => parse_docker_compose_settles_iff, fun path => parse_tfstate_settles_iff,
    ?_, ?_⟩
  · rw [import_docker_compose_endpoint, import_endpoint_handled_iff,
      parse_docker_compose_settles_iff]
  · rw [import_terraform_endpoint, import_endpoint_handled_iff, parse_tfstate_settles_iff]

/-- The values of two files: `services: {web: nginx}`, and `[]`. -/
def bare_service : Value Empty :=
  .dict [(.str "services", .dict [(.str "web", .str "nginx")])]

def bare_list : Value Empty := .list []

def no_floats : Printing Empty where
  is_zero := Empty.elim
  float_repr := Empty.elim
  str_repr := id

/-- **A malformed file that nobody answers**: a service that is a text, and a state file that is a
list. -/
theorem malformed_upload_escapes :
    parse_docker_compose no_floats id (fun _ => .ok bare_service) "services:\n  web: nginx".toUTF8
        "docker-compose.yml" = .error .AttributeError ∧
      parse_tfstate (fun _ => .ok bare_list) "[]".toUTF8 "terraform.tfstate"
        = .error .AttributeError ∧
      ¬ Settles (.error .AttributeError : Except PyError DeclaredState) := by
  refine ⟨rfl, rfl, fun h => ?_⟩
  obtain ⟨text, htext⟩ := h _ rfl
  cases htext

end EnvMgr.Scanning

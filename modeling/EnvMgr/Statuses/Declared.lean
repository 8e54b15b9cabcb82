/-
Whether a status is one of its template's.

Nothing ties the status column to the template. A create that starts from the
template's initial state and an edit that touches neither are safe whatever the
templates say. Everything else is safe as long as the status it leaves is among the
states of the template that governs the record from then on: where the status is
written in the code or comes with the request, and where the template, or which
template it is, changes under a status that stays.
-/
import EnvMgr.Statuses.Deployments

namespace EnvMgr.Statuses

open Bookings (Booking BookingRequest BookingType)
open Lifecycle (Definition LifecycleTemplate StateEntry)

/-! ## The property -/

def state_keys (definition : Definition) : List String := definition.states.map StateEntry.key

section Known

variable (templates : Table LifecycleTemplate LifecycleTemplate.id)
  (booking_types : Table BookingType BookingType.id)
  (requests : Table BookingRequest BookingRequest.id)

/-- The status is a state of the template. -/
def Known (template_id : ℕ) (status : String) : Prop :=
  ∃ t ∈ templates, t.id = template_id ∧ status ∈ state_keys t.definition
  deriving Decidable

/-- The status is a state of the template of the booking type. -/
def KnownToType (type_id : ℕ) (status : String) : Prop :=
  ∃ bt ∈ booking_types, bt.id = type_id ∧ Known templates bt.lifecycle_template_id status
  deriving Decidable

/-- The status is a state of the template that governs the bookings of the request. -/
def KnownToRequest (request_id : ℕ) (status : String) : Prop :=
  ∃ r ∈ requests, r.id = request_id ∧
    KnownToType templates booking_types r.booking_type_id status
  deriving Decidable

end Known

/-- Every live record has a governing template, and its status is one of the states. -/
structure Declared (db : Db) : Prop where
  bookings : ∀ b ∈ db.bookings.bookings, b.deleted_at = none →
    KnownToRequest db.templates db.booking_types db.bookings.requests b.booking_request_id b.status
  releases : ∀ r ∈ db.releases, r.deleted_at = none →
    Known db.templates r.lifecycle_template_id r.status
  change_requests : ∀ c ∈ db.change_requests, c.deleted_at = none →
    Known db.templates c.lifecycle_id c.status

/-- A live record with the status runs on the template. -/
inductive Stands (db : Db) (template_id : ℕ) (status : String) : Prop
  | booking (b : Booking) (hb : b ∈ db.bookings.bookings) (hlive : b.deleted_at = none)
      (hstatus : b.status = status) (r : BookingRequest) (hr : r ∈ db.bookings.requests)
      (hid : r.id = b.booking_request_id) (bt : BookingType) (hbt : bt ∈ db.booking_types)
      (htype : bt.id = r.booking_type_id) (htemplate : bt.lifecycle_template_id = template_id)
  | release (r : Release) (hr : r ∈ db.releases) (hlive : r.deleted_at = none)
      (hstatus : r.status = status) (htemplate : r.lifecycle_template_id = template_id)
  | change_request (c : ChangeRequest) (hc : c ∈ db.change_requests) (hlive : c.deleted_at = none)
      (hstatus : c.status = status) (htemplate : c.lifecycle_id = template_id)

/-- Where the event gives the deployment's change request a status, its template has
the state. -/
def ProperEvent (db : Db) (tenant_id : ℕ) (payload : DeploymentWebhookPayload) : Prop :=
  match existing_deployment db tenant_id payload, payload.change_request_id with
  | some deployment, _ => deployment.status ≠ payload.status →
    ∀ target ∈ target_state payload, ∀ c ∈ db.change_requests,
      c.id = deployment.change_request_id → c.deleted_at = none →
        Known db.templates c.lifecycle_id target
  | none, some cr_id => ∀ target ∈ target_state payload, ∀ c ∈ db.change_requests, c.id = cr_id →
    Known db.templates c.lifecycle_id target
  | none, none => ∀ tpl, code_deployment_template db tenant_id = .ok tpl →
    Known db.templates tpl.id ((target_state payload).getD "created")

/-- The status that the request leaves is a state of the template that governs then. -/
def Proper (db : Db) : Request → Prop
  | .bookings ⟨.create_booking _ data _, _⟩ =>
    KnownToType db.templates db.booking_types data.booking_type_id "draft"
  | .bookings ⟨.update_request_standard_fields _ request_id values, _⟩ =>
    ∀ r ∈ db.bookings.requests, r.id = request_id → ∀ b ∈ db.bookings.bookings,
      b.booking_request_id = request_id → b.deleted_at = none →
        KnownToType db.templates db.booking_types
          (values.booking_type_id.set_required r.booking_type_id) b.status
  | .templates (.update_lifecycle_template _ template_id data) =>
    ∀ definition ∈ data.definition, ∀ status, Stands db template_id status →
      status ∈ definition.states.map Lifecycle.LifecycleState.key
  | .update_booking_type _ type_id data =>
    ∀ template_id ∈ data.lifecycle_template_id, ∀ b ∈ db.bookings.bookings, b.deleted_at = none →
      ∀ r ∈ db.bookings.requests, r.id = b.booking_request_id → r.booking_type_id = type_id →
        Known db.templates template_id b.status
  | .transition_booking _ booking_id to_state _ => ∀ b ∈ db.bookings.bookings, b.id = booking_id →
    KnownToRequest db.templates db.booking_types db.bookings.requests b.booking_request_id to_state
  | .transition_group _ request_id _ to_state _ =>
    KnownToRequest db.templates db.booking_types db.bookings.requests request_id to_state
  | .create_release user data => ∀ tpl, Lifecycle._resolve_lifecycle_template db.lifecycle
      data.lifecycle_template_id user.active_tenant_id data.release_kind = .ok tpl →
    Known db.templates tpl.id "draft"
  | .transition_release _ release_id to_state _ => ∀ r ∈ db.releases, r.id = release_id →
    Known db.templates r.lifecycle_template_id to_state
  | .transition_change_request _ cr_id to_state => ∀ c ∈ db.change_requests, c.id = cr_id →
    Known db.templates c.lifecycle_id to_state
  | .ingest_deployment tenant_id _ payload _ => ProperEvent db tenant_id payload
  | _ => True

/-! ## Templates, types and requests that are written -/

section Writes

variable {templates templates' : Table LifecycleTemplate LifecycleTemplate.id}
  {booking_types booking_types' : Table BookingType BookingType.id}
  {requests requests' : Table BookingRequest BookingRequest.id}

/-- The same template, with the same states. -/
def SameStates (t t' : LifecycleTemplate) : Prop :=
  t'.id = t.id ∧ state_keys t'.definition = state_keys t.definition

/-- The same type, over the same template. -/
def SameType (bt bt' : BookingType) : Prop :=
  bt'.id = bt.id ∧ bt'.lifecycle_template_id = bt.lifecycle_template_id

theorem Known.retain (h : Table.Retains SameStates templates templates') {template_id : ℕ}
    {status : String} (hk : Known templates template_id status) :
    Known templates' template_id status := by
  obtain ⟨t, ht, hid, hmem⟩ := hk
  obtain ⟨t', ht', hid', hkeys⟩ := h t ht
  refine ⟨t', ht', hid'.trans hid, ?_⟩
  rwa [hkeys]

theorem KnownToType.retain (h : Table.Retains SameType booking_types booking_types')
    {type_id : ℕ} {status : String} (hk : KnownToType templates booking_types type_id status) :
    KnownToType templates booking_types' type_id status := by
  obtain ⟨bt, hbt, hid, hknown⟩ := hk
  obtain ⟨bt', hbt', hid', htemplate⟩ := h bt hbt
  refine ⟨bt', hbt', hid'.trans hid, ?_⟩
  rwa [htemplate]

theorem KnownToRequest.mono
    (h : ∀ type_id status, KnownToType templates booking_types type_id status →
      KnownToType templates' booking_types' type_id status) {request_id : ℕ} {status : String}
    (hk : KnownToRequest templates booking_types requests request_id status) :
    KnownToRequest templates' booking_types' requests request_id status := by
  obtain ⟨r, hr, hid, hknown⟩ := hk
  exact ⟨r, hr, hid, h _ _ hknown⟩

theorem KnownToType.mono (h : ∀ template_id status, Known templates template_id status →
      Known templates' template_id status) {type_id : ℕ} {status : String}
    (hk : KnownToType templates booking_types type_id status) :
    KnownToType templates' booking_types type_id status := by
  obtain ⟨bt, hbt, hid, hknown⟩ := hk
  exact ⟨bt, hbt, hid, h _ _ hknown⟩

/-- The template of a row that is there. -/
theorem known_iff {t : LifecycleTemplate} (ht : t ∈ templates) {status : String} :
    Known templates t.id status ↔ status ∈ state_keys t.definition :=
  Table.exists_key_iff (P := fun t => status ∈ state_keys t.definition) ht

theorem knownToType_iff {bt : BookingType} (hbt : bt ∈ booking_types) {status : String} :
    KnownToType templates booking_types bt.id status ↔
      Known templates bt.lifecycle_template_id status :=
  Table.exists_key_iff (P := fun bt => Known templates bt.lifecycle_template_id status) hbt

theorem knownToRequest_iff {r : BookingRequest} (hr : r ∈ requests) {status : String} :
    KnownToRequest templates booking_types requests r.id status ↔
      KnownToType templates booking_types r.booking_type_id status :=
  Table.exists_key_iff
    (P := fun r => KnownToType templates booking_types r.booking_type_id status) hr

end Writes

/-! ## The bookings of a request -/

section Bookings

variable {db : Db} {ext : Bookings.External}

theorem declared_bookings (h : Declared db) {bookings : Bookings.Db} :
    Declared { db with bookings := bookings } ↔ ∀ b ∈ bookings.bookings, b.deleted_at = none →
      KnownToRequest db.templates db.booking_types bookings.requests b.booking_request_id
        b.status :=
  ⟨Declared.bookings, fun hall => ⟨hall, h.releases, h.change_requests⟩⟩

/-- A request that comes with its bookings, all in one status. -/
theorem declared_insert_iff (h : Declared db) (new : Table.New BookingRequest.id)
    {news : List (Table.New Booking.id)} {status : String} (hne : news ≠ [])
    (hnews : ∀ n ∈ news, ∀ id, (n.row id).booking_request_id = db.bookings.requests.next ∧
      (n.row id).status = status ∧ (n.row id).deleted_at = none) :
    (∀ b ∈ db.bookings.bookings.insert_all news, b.deleted_at = none →
      KnownToRequest db.templates db.booking_types (db.bookings.requests.insert new)
        b.booking_request_id b.status) ↔
      KnownToType db.templates db.booking_types
        (new.row db.bookings.requests.next).booking_type_id status := by
  have hrequest : KnownToRequest db.templates db.booking_types (db.bookings.requests.insert new)
      db.bookings.requests.next status ↔ KnownToType db.templates db.booking_types
        (new.row db.bookings.requests.next).booking_type_id status := by
    have hmem : new.row db.bookings.requests.next ∈ db.bookings.requests.insert new :=
      Table.mem_insert.2 (Or.inr rfl)
    rw [← knownToRequest_iff hmem, new.key_row]
  have hold : ∀ b ∈ db.bookings.bookings, b.deleted_at = none →
      KnownToRequest db.templates db.booking_types (db.bookings.requests.insert new)
        b.booking_request_id b.status := by
    intro b hb hlive
    obtain ⟨r, hr, hid, hknown⟩ := h.bookings b hb hlive
    exact ⟨r, Table.mem_insert.2 (Or.inl hr), hid, hknown⟩
  rw [Table.forall_insert_all_iff hold, ← hrequest]
  constructor
  · intro hall
    obtain ⟨n, rest, rfl⟩ := List.exists_cons_of_ne_nil hne
    obtain ⟨hreq, hstatus, hlive⟩ := hnews n List.mem_cons_self (db.bookings.bookings.next + 0)
    have hknown := hall 0 n rfl hlive
    rwa [hreq, hstatus] at hknown
  · intro hknown i n hget hlive
    obtain ⟨hreq, hstatus, -⟩ := hnews n (List.mem_of_getElem? hget) (db.bookings.bookings.next + i)
    rwa [hreq, hstatus]

/-- Where a new booking starts from its template's initial state. -/
theorem initial_state_known {type_id tenant_id : ℕ} {status : String}
    (hok : Bookings._load_initial_state db.seen type_id tenant_id = .ok status) :
    KnownToType db.templates db.booking_types type_id status := by
  simp only [Bookings._load_initial_state, bind_eq_ok, get_or_raise_eq_ok] at hok
  obtain ⟨bt, hbt, template, htemplate, state, hstate, hok⟩ := hok
  cases hok
  have hbt_id := List.find?_some hbt
  have htemplate_id := List.find?_some htemplate
  rw [decide_eq_true_eq] at hbt_id htemplate_id
  obtain ⟨t, ht, rfl⟩ := List.mem_map.1 (List.mem_of_find?_eq_some htemplate)
  obtain ⟨s, hs, rfl⟩ := List.mem_map.1 (List.mem_of_find?_eq_some hstate)
  exact ⟨bt, List.mem_of_find?_eq_some hbt, hbt_id.1, t, ht, htemplate_id,
    List.mem_map.2 ⟨s, hs, rfl⟩⟩

/-- Some bookings leave. -/
theorem declared_removes (h : Declared db) {bookings : Bookings.Db}
    (hr : Bookings.Removes db.seen bookings) : Declared { db with bookings := bookings } := by
  rw [declared_bookings h]
  intro b hb hlive
  have hmem := hr.mem hb hlive
  obtain ⟨p, now, rfl⟩ := hr
  exact h.bookings b hmem hlive

/-- An edit of bookings that keeps their statuses and their requests. -/
theorem declared_edit (h : Declared db) (p : Booking → Bool) {f : Table.Edit Booking.id}
    (hf : ∀ b, (f.apply b).deleted_at = b.deleted_at ∧ (f.apply b).status = b.status ∧
      (f.apply b).booking_request_id = b.booking_request_id) :
    ∀ b ∈ db.bookings.bookings.update p f, b.deleted_at = none →
      KnownToRequest db.templates db.booking_types db.bookings.requests b.booking_request_id
        b.status := by
  rw [Table.forall_update_iff h.bookings]
  intro b hb _ hlive
  obtain ⟨hdeleted, hstatus, hreq⟩ := hf b
  rw [hstatus, hreq]
  exact h.bookings b hb (hdeleted.symm.trans hlive)

/-- The request moves to another booking type, and its bookings with it. -/
theorem declared_retype_iff (h : Declared db) {req : BookingRequest}
    (hreq : req ∈ db.bookings.requests) (p : Booking → Bool) {f : Table.Edit Booking.id}
    (hf : ∀ b, (f.apply b).deleted_at = b.deleted_at ∧ (f.apply b).status = b.status ∧
      (f.apply b).booking_request_id = b.booking_request_id) {g : Table.Edit BookingRequest.id} :
    (∀ b ∈ db.bookings.bookings.update p f, b.deleted_at = none →
      KnownToRequest db.templates db.booking_types
        (db.bookings.requests.update (fun r => r.id = req.id) g) b.booking_request_id b.status) ↔
      ∀ b ∈ db.bookings.bookings, b.booking_request_id = req.id → b.deleted_at = none →
        KnownToType db.templates db.booking_types (g.apply req).booking_type_id b.status := by
  have hedited : g.apply req ∈ db.bookings.requests.update (fun r => r.id = req.id) g :=
    Table.mem_update_of_pos hreq (decide_eq_true rfl)
  -- the request of a booking, after the edit
  have hrow : ∀ b : Booking, b.deleted_at = none → b ∈ db.bookings.bookings →
      (KnownToRequest db.templates db.booking_types
        (db.bookings.requests.update (fun r => r.id = req.id) g) b.booking_request_id b.status ↔
      (b.booking_request_id = req.id →
        KnownToType db.templates db.booking_types (g.apply req).booking_type_id b.status)) := by
    intro b hlive hb
    by_cases hid : b.booking_request_id = req.id
    · have hknown := @knownToRequest_iff db.templates db.booking_types _ _ hedited b.status
      rw [g.key_apply req] at hknown
      rw [hid, hknown]
      exact ⟨fun hknown _ => hknown, fun hknown => hknown rfl⟩
    · refine iff_of_true ?_ fun heq => absurd heq hid
      obtain ⟨r, hr, hrid, hknown⟩ := h.bookings b hb hlive
      refine ⟨r, Table.mem_update_of_neg hr (decide_eq_false ?_), hrid, hknown⟩
      rwa [hrid]
  constructor
  · intro hall b hb hid hlive
    refine (hrow b hlive hb).1 ?_ hid
    by_cases hp : p b = true
    · obtain ⟨hdeleted, hstatus, hrequest⟩ := hf b
      have hknown := hall _ (Table.mem_update_of_pos hb hp) (hdeleted.trans hlive)
      rwa [hstatus, hrequest] at hknown
    · exact hall b (Table.mem_update_of_neg hb (Bool.not_eq_true _ ▸ hp)) hlive
  · intro hall b hb hlive
    rcases Table.mem_update_cases hb with ⟨b₀, hb₀, -, rfl⟩ | ⟨hb, -⟩
    · obtain ⟨hdeleted, hstatus, hrequest⟩ := hf b₀
      have hlive₀ := hdeleted.symm.trans hlive
      rw [hstatus, hrequest]
      exact (hrow b₀ hlive₀ hb₀).2 fun hid => hall b₀ hb₀ hid hlive₀
    · exact (hrow b hlive hb).2 fun hid => hall b hb hid hlive

/-- **The writes of bookings.** One row is made in the status that is sent; rows of a request start
where its type does; a request changes its type under its bookings; all others keep status and
request of each row. -/
theorem declared_write_iff (h : Declared db) {e : Bookings.Event} (hwrite : is_write e = true)
    {bookings : Bookings.Db} (hok : Bookings.handle ext db.seen e = .ok bookings) :
    Declared { db with bookings := bookings } ↔ Proper db (.bookings ⟨e, hwrite⟩) := by
  cases e with
  | create_booking user data now =>
    rw [declared_bookings h]
    cases Bookings.accepted_of_ok hok with
    | @create_booking _ _ _ dates protection_level history =>
      refine declared_insert_iff h ⟨data.request_row user protection_level, fun _ => rfl⟩
        (List.cons_ne_nil _ _) fun n hn id => ?_
      rcases List.mem_cons.1 hn with rfl | hn
      · exact ⟨rfl, rfl, rfl⟩
      · obtain ⟨dt, -, rfl⟩ := List.mem_map.1 hn
        exact ⟨rfl, rfl, rfl⟩
  | create_request user data =>
    obtain ⟨⟨made, detected⟩, hcreate, rfl⟩ := map_eq_ok.1 hok
    obtain ⟨placed, initial_state, context_tag, protection_level, hplaced, -, hinitial, rfl, -⟩ :=
      Bookings.create_request_ok hcreate
    refine iff_of_true ((declared_bookings h).2 ?_) trivial
    refine (declared_insert_iff h ⟨data.row user.active_tenant_id user context_tag protection_level,
      fun _ => rfl⟩ ?_ fun n hn id => ?_).2 (initial_state_known hinitial)
    · have hne := (Bookings.placed_ok hplaced).ne_nil
      rwa [Bookings.BookingRequestCreate.children, ne_eq, List.map_eq_nil_iff]
    · obtain ⟨p, -, rfl⟩ := List.mem_map.1 hn
      exact ⟨rfl, rfl, rfl⟩
  | add_environment user request_id data =>
    simp only [Bookings.handle, Bookings.add_environment, bind_eq_ok, raise_if_eq_ok] at hok
    obtain ⟨req, hget, -, -, -, -, -, -, -, -, initial_state, hinitial, hok⟩ := hok
    obtain ⟨hreq, rfl⟩ := Bookings.get_request_ok hget
    cases hok
    have hknown := initial_state_known hinitial
    refine iff_of_true ((declared_bookings h).2 ?_) trivial
    exact (Table.forall_insert_iff h.bookings).2 fun _ => ⟨req, hreq, rfl, hknown⟩
  | update_request_standard_fields user request_id values =>
    rw [declared_bookings h]
    cases Bookings.accepted_of_ok hok with
    | @update_request_standard_fields _ _ req context_tag hreq =>
      have hretype := @declared_retype_iff db h req hreq
        (fun b => b.booking_request_id = req.id ∧ b.deleted_at = none) values.cascade
        (fun _ => ⟨rfl, rfl, rfl⟩) (values.write context_tag)
      refine hretype.trans ⟨fun hall r hr hid => ?_, fun hall => hall req hreq rfl⟩
      rw [Table.eq_of_key_eq hr hreq hid]
      exact hall
  | update_standard_fields user booking_id values =>
    cases Bookings.accepted_of_ok hok with
    | update_standard_fields =>
      refine iff_of_true ((declared_bookings h).2 ?_) trivial
      exact declared_edit h _ fun _ => ⟨rfl, rfl, rfl⟩
  | delete_occurrence user booking_id now =>
    cases Bookings.accepted_of_ok hok with
    | delete_occurrence hr => exact iff_of_true (declared_removes h hr) trivial
  | delete_series user booking_id now =>
    cases Bookings.accepted_of_ok hok with
    | delete_series hr => exact iff_of_true (declared_removes h hr) trivial
  | remove_environment user request_id booking_id now =>
    cases Bookings.accepted_of_ok hok with
    | remove_environment hr => exact iff_of_true (declared_removes h hr) trivial
  | transition booking_id to_state => cases hwrite
  | estate e =>
    cases Bookings.accepted_of_ok hok with
    | estate => exact iff_of_true ((declared_bookings h).2 h.bookings) trivial
  | reference rows =>
    cases Bookings.accepted_of_ok hok with
    | reference => exact iff_of_true ((declared_bookings h).2 h.bookings) trivial

end Bookings

end EnvMgr.Statuses

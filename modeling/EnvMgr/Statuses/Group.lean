/-
The transition of a whole group, with the events it publishes.

Every member is validated before any is written. The members are bookings of one request,
so one template governs them all, and their reasons and their rows come from one list.
-/
import EnvMgr.Lib.Index
import EnvMgr.Lifecycle.Repeated
import EnvMgr.Outbox.Model
import EnvMgr.Statuses.Refused

namespace EnvMgr.Statuses

open Bookings (Booking BookingStatusHistory)
open Lifecycle (Definition LifecycleTemplate RecordValues TransitionEntry validate_transition)
open Outbox (EventData EventLog Transaction publish_event)

variable {tx : Transaction} {t : TransitionEntry}

/-! ## With the event log -/

/-- The tables and the events that go with what is written to them. -/
structure Published where
  db : Db
  event_log : Table EventLog EventLog.id

/-- A text as `json.dumps` writes it. -/
def json_string (s : String) : String :=
  let hex := fun n : ℕ => String.ofList ((List.range 4).reverse.map fun i =>
    Nat.digitChar (n / 16 ^ i % 16))
  let escape := fun c : Char =>
    let n := c.toNat
    if c = '"' ∨ c = '\\' then "\\" ++ c.toString
    else if c = '\n' then "\\n"
    else if c = '\r' then "\\r"
    else if c = '\t' then "\\t"
    else if n = 8 then "\\b"
    else if n = 12 then "\\f"
    else if 32 ≤ n ∧ n ≤ 126 then c.toString
    else if n < 65536 then "\\u" ++ hex n
    else "\\u" ++ hex (55296 + (n - 65536) / 1024) ++ "\\u" ++ hex (56320 + (n - 65536) % 1024)
  "\"" ++ s.toList.foldl (fun acc c => acc ++ escape c) "" ++ "\""

example : json_string "in \"UAT\"\n" = "\"in \\\"UAT\\\"\\n\"" := by decide

/-- What is published of a member that moves. -/
def state_transitioned (to_state : String) (user : CurrentUser) (b : Booking) : EventData where
  event_type := "BookingStateTransitioned"
  aggregate_id := b.id
  aggregate_type := "Booking"
  payload := "\x7b\"from_state\": " ++ json_string b.status ++ ", \"to_state\": "
    ++ json_string to_state ++ ", \"changed_by\": " ++ toString user.id ++ "\x7d"
  tenant_id := b.tenant_id

/-- `transition_group`, in the transaction `tx`. -/
def transition_group_published (s : Published) (request_id group_id : ℕ) (to_state : String)
    (user : CurrentUser) (now : DateTime) (tx : Transaction) : Except Raised Published := do
  let bookings ← _group_bookings s.db request_id group_id user.active_tenant_id
  let db ← transition_group s.db request_id group_id to_state user now
  .ok
    { db := db
      event_log := s.event_log.insert_all
        (bookings.map fun b => publish_event (state_transitioned to_state user b) tx) }

/-! ## What is offered -/

/-- `t["to_state"]`, with the entry. -/
def keyed_by_target (t : TransitionEntry) : Except Raised (String × TransitionEntry) := do
  let to_state ← get_or_raise t.to_state .KeyError
  .ok (to_state, t)

/-- What one member allows. -/
def member_transitions (template : LifecycleTemplate) (user : CurrentUser) (b : Booking) :
    Except Raised (List (String × TransitionEntry)) := do
  let allowed ← Lifecycle.get_allowed_transitions template.definition b.status user.role
  allowed.mapM keyed_by_target

/-- `by_state.setdefault(t["to_state"], t)`, over all members. -/
def by_state (allowed : List (String × TransitionEntry)) : Index String TransitionEntry :=
  allowed.foldl (fun d i => if (d.get i.1).isSome then d else d.set i.1 i.2) Index.empty

/-- `set.intersection(*per_member)`. -/
def common_states (per_member : List (List String)) : List String :=
  ((per_member.headD []).filter fun state => ∀ states ∈ per_member, state ∈ states).dedup

/-- The intersection of what every member allows. -/
def get_group_allowed_transitions (db : Db) (request_id group_id : ℕ) (user : CurrentUser) :
    Except Raised (List TransitionEntry) := do
  let bookings ← _group_bookings db request_id group_id user.active_tenant_id
  let first ← get_or_raise bookings.head? .IndexError
  let template ← _template_for_booking db first
  let allowed ← bookings.mapM (member_transitions template user)
  let common := order_by id (common_states (allowed.map fun ts => ts.map Prod.fst))
  common.mapM fun state => get_or_raise ((by_state allowed.flatten).get state) .KeyError

/-! ## The members -/

/-- A live booking of the request that came with the group. -/
def Member (db : Db) (request_id group_id tenant_id : ℕ) (b : Booking) : Prop :=
  b ∈ db.bookings.bookings ∧ b.booking_request_id = request_id ∧
    b.environment_group_id = some group_id ∧ b.tenant_id = tenant_id ∧ b.deleted_at = none ∧
    ∃ r ∈ db.bookings.requests.rows, r.id = b.booking_request_id ∧ r.tenant_id = tenant_id ∧
      r.deleted_at = none

/-- All members, each once. -/
structure Members (db : Db) (request_id group_id tenant_id : ℕ) (members : List Booking) :
    Prop where
  nodup : members.Nodup
  mem_iff : ∀ b, b ∈ members ↔ Member db request_id group_id tenant_id b

section

variable {db db' : Db} {request_id group_id tenant_id : ℕ} {members : List Booking}

theorem group_bookings_ok :
    _group_bookings db request_id group_id tenant_id = .ok members →
      Members db request_id group_id tenant_id members ∧ members ≠ [] := by
  intro h
  simp only [_group_bookings, bind_eq_ok, raise_if_eq_ok] at h
  obtain ⟨_, hne, h⟩ := h
  obtain rfl := Except.ok.inj h
  refine ⟨⟨?_, fun b => ?_⟩, hne⟩
  · exact nodup_order_by.2 (db.bookings.bookings.rows_nodup.filter _)
  · rw [mem_order_by, Table.mem_select, decide_eq_true_eq]
    rfl

theorem exists_group_bookings {b : Booking} (hb : Member db request_id group_id tenant_id b) :
    ∃ members, _group_bookings db request_id group_id tenant_id = .ok members := by
  have hmem : b ∈ order_by Booking.id (db.bookings.bookings.select fun b =>
      b.booking_request_id = request_id ∧ b.environment_group_id = some group_id ∧
        b.tenant_id = tenant_id ∧ b.deleted_at = none ∧
        ∃ r ∈ db.bookings.requests.rows, r.id = b.booking_request_id ∧ r.tenant_id = tenant_id ∧
          r.deleted_at = none) := by
    rw [mem_order_by, Table.mem_select, decide_eq_true_eq]
    exact hb
  refine ⟨_, bind_eq_ok.2 ⟨(), ?_, rfl⟩⟩
  exact raise_if_eq_ok.2 (List.ne_nil_of_mem hmem)

/-- They are bookings of one request. -/
theorem Member.same_request {b b' : Booking} (hb : Member db request_id group_id tenant_id b)
    (hb' : Member db request_id group_id tenant_id b') : request_of db b = request_of db b' := by
  simp only [request_of, Bookings.booking_request, hb.2.1, hb'.2.1]

theorem Member.same_template {b b' : Booking} (hb : Member db request_id group_id tenant_id b)
    (hb' : Member db request_id group_id tenant_id b') :
    _template_for_booking db b = _template_for_booking db b' := by
  simp only [_template_for_booking, hb.same_request hb']

end

/-! ## When the group moves -/

/-- The move is accepted for the booking. -/
def Accepts (db : Db) (template : LifecycleTemplate) (to_state role : String) (b : Booking) :
    Prop :=
  verdict_on db template to_state role b = .ok (true, none)

section

variable {db db' : Db} {request_id group_id tenant_id : ℕ} {members : List Booking}
  {template : LifecycleTemplate} {to_state : String} {user : CurrentUser} {now : DateTime}
  {b : Booking}

/-- No reason comes with a move that is accepted. -/
theorem reason_of_accepted {definition : Definition} {from_state role : String}
    {values : RecordValues} {reason : Option String}
    (h : validate_transition definition from_state to_state role values = .ok (true, reason)) :
    reason = none := by
  simp only [validate_transition, bind_eq_ok] at h
  obtain ⟨found, -, h⟩ := h
  cases found with
  | none => cases h
  | some t =>
    simp only [bind_eq_ok] at h
    obtain ⟨roles, -, h⟩ := h
    split at h
    · cases h
    · split at h
      · cases h
      · exact (Prod.mk.inj (Except.ok.inj h)).2.symm

theorem check_member_eq_none :
    check_member db template to_state user b = .ok none ↔
      Accepts db template to_state user.role b := by
  unfold Accepts
  constructor
  · intro h
    simp only [check_member, bind_eq_ok] at h
    obtain ⟨request, hrequest, ⟨allowed, reason⟩, hverdict, h⟩ := h
    cases allowed with
    | true =>
      obtain rfl := reason_of_accepted hverdict
      exact bind_eq_ok.2 ⟨request, hrequest, hverdict⟩
    | false => cases h
  · intro h
    obtain ⟨text, hmember⟩ := check_member_ok h
    exact hmember

/-- Every member is checked before the first one moves. -/
theorem transition_group_ok :
    transition_group db request_id group_id to_state user now = .ok db' ↔
      ∃ members first template,
        _group_bookings db request_id group_id user.active_tenant_id = .ok members ∧
        members.head? = some first ∧ _template_for_booking db first = .ok template ∧
        (∀ b ∈ members, Accepts db template to_state user.role b) ∧
        db' = move_bookings db members to_state user now := by
  have hnone : ∀ {members : List Booking} {template : LifecycleTemplate}
      {checked : List (Option (String × Bool))},
      members.mapM (check_member db template to_state user) = .ok checked →
        (checked.filterMap id = [] ↔ ∀ b ∈ members, Accepts db template to_state user.role b) := by
    intro members template checked hchecked
    rw [List.filterMap_eq_nil_iff]
    have hall := mapM_eq_ok.1 hchecked
    clear hchecked
    induction hall with
    | nil => simp
    | @cons b o members checked hb hrest ih =>
      refine List.forall_mem_cons.trans (Iff.trans ?_ List.forall_mem_cons.symm)
      rw [← check_member_eq_none, hb, Except.ok.injEq]
      exact and_congr Iff.rfl ih
  simp only [transition_group, bind_eq_ok, raise_if_eq_ok, get_or_raise_eq_ok, Except.ok.injEq]
  constructor
  · rintro ⟨members, hmembers, first, hfirst, template, htemplate, checked, hchecked, _, -, _, hno,
      rfl⟩
    exact ⟨members, first, template, hmembers, hfirst, htemplate,
      (hnone hchecked).1 (not_not.1 hno), rfl⟩
  · rintro ⟨members, first, template, hmembers, hfirst, htemplate, haccepts, rfl⟩
    obtain ⟨checked, hchecked, -⟩ := exists_mapM (f := check_member db template to_state user)
      fun b hb => ⟨none, check_member_eq_none.2 (haccepts b hb)⟩
    have hempty := (hnone hchecked).2 haccepts
    refine ⟨members, hmembers, first, hfirst, template, htemplate, checked, hchecked, (), ?_, (),
      not_not.2 hempty, rfl⟩
    rw [hempty]
    rintro ⟨_, hmem, -⟩
    cases hmem

/-- **When the group moves**: the template accepts the move of every member. -/
theorem group_moves_iff :
    (∃ db', transition_group db request_id group_id to_state user now = .ok db') ↔
      (∃ b, Member db request_id group_id user.active_tenant_id b) ∧
      ∃ template, ∀ b, Member db request_id group_id user.active_tenant_id b →
        _template_for_booking db b = .ok template ∧
          Accepts db template to_state user.role b := by
  simp only [transition_group_ok]
  constructor
  · rintro ⟨db', members, first, template, hmembers, hfirst, htemplate, haccepts, rfl⟩
    obtain ⟨hall, -⟩ := group_bookings_ok hmembers
    have hmem := (hall.mem_iff first).1 (List.mem_of_mem_head? hfirst)
    refine ⟨⟨first, hmem⟩, template, fun b hb => ⟨?_, haccepts b ((hall.mem_iff b).2 hb)⟩⟩
    rw [hb.same_template hmem, htemplate]
  · rintro ⟨⟨b, hb⟩, template, hall⟩
    obtain ⟨members, hmembers⟩ := exists_group_bookings hb
    obtain ⟨hmem, hne⟩ := group_bookings_ok hmembers
    obtain ⟨first, rest, rfl⟩ := List.exists_cons_of_ne_nil hne
    have hfirst := (hmem.mem_iff first).1 List.mem_cons_self
    exact ⟨_, first :: rest, first, template, hmembers, rfl, (hall first hfirst).1,
      fun b hb => (hall b ((hmem.mem_iff b).1 hb)).2, rfl⟩

/-! ## What is written -/

/-- What a history row says, but for its key. -/
def history_entry (h : BookingStatusHistory) : ℕ × Option String × String × ℕ × DateTime :=
  (h.booking_id, h.from_state, h.to_state, h.changed_by, h.changed_at)

/-- What an event says. -/
def event_data (e : EventLog) : EventData where
  event_type := e.event_type
  aggregate_id := e.aggregate_id
  aggregate_type := e.aggregate_type
  payload := e.payload
  tenant_id := e.tenant_id

/-- Every member is in the target state, with one more history row and one more event for
each, and nothing else has changed. -/
structure MovedTogether (s s' : Published) (members : List Booking) (to_state : String)
    (user : CurrentUser) (now : DateTime) : Prop where
  bookings : s'.db.bookings.bookings.rows = s.db.bookings.bookings.rows.map fun b =>
    if b ∈ members then { b with status := to_state } else b
  history : ∃ added, s'.db.bookings.history.rows = s.db.bookings.history.rows ++ added ∧
    added.map history_entry = members.map fun b => (b.id, some b.status, to_state, user.id, now)
  events : ∃ added, s'.event_log.rows = s.event_log.rows ++ added ∧
    added.map event_data = members.map (state_transitioned to_state user)
  frame : s'.db = { s.db with
    bookings := { s.db.bookings with
      bookings := s'.db.bookings.bookings
      history := s'.db.bookings.history } }

theorem moved_together {s : Published} (hmembers : ∀ b ∈ members, b ∈ s.db.bookings.bookings) :
    MovedTogether s ⟨move_bookings s.db members to_state user now, s.event_log.insert_all
      (members.map fun b => publish_event (state_transitioned to_state user b) tx)⟩
      members to_state user now := by
  have hhistory := Table.insert_all_added (g := history_entry) s.db.bookings.history
    (members.map fun b =>
      ⟨fun id => ⟨id, b.id, some b.status, to_state, user.id, now⟩, fun _ => rfl⟩)
    (h := fun new => history_entry (new.row 0)) (fun new hnew n => by
      obtain ⟨b, -, rfl⟩ := List.mem_map.1 hnew
      rfl)
  have hevents := Table.insert_all_added (g := event_data) s.event_log
    (members.map fun b => publish_event (state_transitioned to_state user b) tx)
    (h := fun new => event_data (new.row 0)) (fun new hnew n => by
      obtain ⟨b, -, rfl⟩ := List.mem_map.1 hnew
      rfl)
  rw [List.map_map] at hhistory hevents
  refine ⟨List.map_congr_left fun b hb => ?_, hhistory, hevents, rfl⟩
  -- the id picks the member
  have hpick : b.id ∈ members.map Booking.id ↔ b ∈ members := by
    constructor
    · intro hid
      obtain ⟨b', hb', heq⟩ := List.mem_map.1 hid
      rwa [← Table.eq_of_key_eq (hmembers b' hb') hb heq]
    · exact List.mem_map_of_mem
  simp only [decide_eq_true_eq, hpick]
  rfl

/-! ## What is offered to the group -/

theorem mem_common_states {per_member : List (List String)} {state : String} :
    state ∈ common_states per_member ↔
      per_member ≠ [] ∧ ∀ states ∈ per_member, state ∈ states := by
  rw [common_states, List.mem_dedup, List.mem_filter, decide_eq_true_eq]
  cases per_member with
  | nil => simp
  | cons states rest =>
    rw [List.headD_cons]
    constructor
    · rintro ⟨-, hall⟩
      exact ⟨List.cons_ne_nil _ _, hall⟩
    · rintro ⟨-, hall⟩
      exact ⟨hall states List.mem_cons_self, hall⟩

/-- An entry that is found under a state was one of those allowed. -/
theorem by_state_mem {allowed : List (String × TransitionEntry)} {state : String}
    (h : (by_state allowed).get state = some t) : (state, t) ∈ allowed := by
  induction allowed using List.reverseRecOn generalizing t with
  | nil => cases h
  | append_singleton allowed i ih =>
    have hstep : by_state (allowed ++ [i]) = if ((by_state allowed).get i.1).isSome
        then by_state allowed else (by_state allowed).set i.1 i.2 := List.foldl_append
    rw [hstep] at h
    split at h
    · exact List.mem_append_left _ (ih h)
    · rw [Index.get_set] at h
      split at h
      · rename_i heq
        rw [← Option.some.inj h, heq]
        exact List.mem_append_right _ (List.mem_singleton_self i)
      · exact List.mem_append_left _ (ih h)

theorem member_transitions_ok {ts : List (String × TransitionEntry)}
    (h : member_transitions template user b = .ok ts) :
    ∃ allowed,
      Lifecycle.get_allowed_transitions template.definition b.status user.role = .ok allowed ∧
      ∀ i ∈ ts, i.2 ∈ allowed ∧ i.2.to_state = some i.1 := by
  simp only [member_transitions, bind_eq_ok] at h
  obtain ⟨allowed, hallowed, hkeyed⟩ := h
  refine ⟨allowed, hallowed, fun i hi => ?_⟩
  obtain ⟨t, ht, hkey⟩ := (mem_mapM hkeyed).2 i hi
  simp only [keyed_by_target, bind_eq_ok, get_or_raise_eq_ok] at hkey
  obtain ⟨state, hstate, hkey⟩ := hkey
  cases hkey
  exact ⟨ht, hstate⟩

/-- **A target that is offered to the group is offered to every member.** -/
theorem offered_to_members {offered : List TransitionEntry}
    (h : get_group_allowed_transitions db request_id group_id user = .ok offered)
    (ht : t ∈ offered) (hto : t.to_state = some to_state) :
    ∃ template, (∃ b, Member db request_id group_id user.active_tenant_id b) ∧
      ∀ b, Member db request_id group_id user.active_tenant_id b →
        _template_for_booking db b = .ok template ∧
        ∃ allowed,
          Lifecycle.get_allowed_transitions template.definition b.status user.role = .ok allowed ∧
          ∃ t ∈ allowed, t.to_state = some to_state := by
  simp only [get_group_allowed_transitions, bind_eq_ok, get_or_raise_eq_ok] at h
  obtain ⟨members, hmembers, first, hfirst, template, htemplate, allowed, hallowed, hcommon⟩ := h
  obtain ⟨hall, -⟩ := group_bookings_ok hmembers
  have hmem := (hall.mem_iff first).1 (List.mem_of_mem_head? hfirst)
  obtain ⟨state, hstate, hget⟩ := (mem_mapM hcommon).2 t ht
  -- the entry is found under its own target
  have hown : t.to_state = some state := by
    obtain ⟨ts, hts, hpair⟩ := List.mem_flatten.1 (by_state_mem (get_or_raise_eq_ok.1 hget))
    obtain ⟨b, -, hb⟩ := (mem_mapM hallowed).2 ts hts
    obtain ⟨_, -, hkeyed⟩ := member_transitions_ok hb
    exact (hkeyed _ hpair).2
  obtain rfl := Option.some.inj (hown.symm.trans hto)
  obtain ⟨-, hevery⟩ := mem_common_states.1 (mem_order_by.1 hstate)
  refine ⟨template, ⟨first, hmem⟩, fun b hb => ⟨by rw [hb.same_template hmem, htemplate], ?_⟩⟩
  obtain ⟨ts, hts, hmember⟩ := (mem_mapM hallowed).1 b ((hall.mem_iff b).2 hb)
  obtain ⟨allowed_b, hallowed_b, hkeyed⟩ := member_transitions_ok hmember
  obtain ⟨i, hi, hi'⟩ := List.mem_map.1 (hevery _ (List.mem_map_of_mem hts))
  exact ⟨allowed_b, hallowed_b, i.2, (hkeyed i hi).1, by rw [(hkeyed i hi).2, hi']⟩

/-- No two transitions lead from one state to the same other one. -/
def Distinct (definition : Definition) : Prop :=
  (definition.transitions.map fun t => (t.from_state, t.to_state)).Nodup

/-- What the target requires is there for every member. -/
def SuppliedFor (db : Db) (template : LifecycleTemplate) (request_id group_id tenant_id : ℕ)
    (to_state : String) : Prop :=
  ∀ b, Member db request_id group_id tenant_id b → ∃ request, request_of db b = .ok request ∧
    Lifecycle.Supplied template.definition to_state (_record_values request)

/-- The button works. -/
theorem offered_group_moves {offered : List TransitionEntry}
    (h : get_group_allowed_transitions db request_id group_id user = .ok offered)
    (htemplate : ∀ b, Member db request_id group_id user.active_tenant_id b →
      _template_for_booking db b = .ok template)
    (hcomplete : Lifecycle.Complete template.definition) (hdistinct : Distinct template.definition)
    (hsupplied : SuppliedFor db template request_id group_id user.active_tenant_id to_state)
    (ht : t ∈ offered) (hto : t.to_state = some to_state) :
    ∃ db', transition_group db request_id group_id to_state user now = .ok db' := by
  obtain ⟨template', ⟨first, hfirst⟩, hoffered⟩ := offered_to_members h ht hto
  obtain rfl := Except.ok.inj ((hoffered first hfirst).1.symm.trans (htemplate first hfirst))
  refine group_moves_iff.2 ⟨⟨first, hfirst⟩, template', fun b hb => ⟨htemplate b hb, ?_⟩⟩
  obtain ⟨-, allowed, hallowed, hmem⟩ := hoffered b hb
  obtain ⟨request, hrequest, hfields⟩ := hsupplied b hb
  have husable := Lifecycle.usable_of_distinct hcomplete hdistinct b.status
  obtain ⟨allowed', hallowed', hagree⟩ :=
    ((Lifecycle.offers_iff _ b.status).2 husable).offered user.role
  obtain rfl := Except.ok.inj (hallowed.symm.trans hallowed')
  exact bind_eq_ok.2 ⟨request, hrequest, (hagree to_state _ hfields).1 hmem⟩

/-! ## All or nothing -/

theorem transition_group_published_ok {s s' : Published} :
    transition_group_published s request_id group_id to_state user now tx = .ok s' ↔
      ∃ members db', _group_bookings s.db request_id group_id user.active_tenant_id = .ok members ∧
        transition_group s.db request_id group_id to_state user now = .ok db' ∧
        s' = ⟨db', s.event_log.insert_all
          (members.map fun b => publish_event (state_transitioned to_state user b) tx)⟩ := by
  simp only [transition_group_published, bind_eq_ok, Except.ok.injEq]
  constructor
  · rintro ⟨members, hmembers, db', hdb', rfl⟩
    exact ⟨members, db', hmembers, hdb', rfl⟩
  · rintro ⟨members, db', hmembers, hdb', rfl⟩
    exact ⟨members, hmembers, db', hdb', rfl⟩

theorem group_published_iff {s : Published} :
    (∃ s', transition_group_published s request_id group_id to_state user now tx = .ok s') ↔
      ∃ db', transition_group s.db request_id group_id to_state user now = .ok db' := by
  simp only [transition_group_published_ok]
  constructor
  · rintro ⟨s', members, db', -, hdb', rfl⟩
    exact ⟨db', hdb'⟩
  · rintro ⟨db', hdb'⟩
    obtain ⟨members, first, template, hmembers, -⟩ := transition_group_ok.1 hdb'
    exact ⟨_, members, db', hmembers, hdb', rfl⟩

theorem published_together {s s' : Published}
    (h : transition_group_published s request_id group_id to_state user now tx = .ok s') :
    ∃ members, Members s.db request_id group_id user.active_tenant_id members ∧
      MovedTogether s s' members to_state user now := by
  obtain ⟨members, db', hmembers, hdb', rfl⟩ := transition_group_published_ok.1 h
  obtain ⟨members', first, template, hmembers', -, -, -, rfl⟩ := transition_group_ok.1 hdb'
  obtain rfl := Except.ok.inj (hmembers.symm.trans hmembers')
  obtain ⟨hall, -⟩ := group_bookings_ok hmembers
  exact ⟨members, hall, moved_together fun b hb => ((hall.mem_iff b).1 hb).1⟩

end

/-- **All or nothing.** A transition that is answered has moved every member of the group, one
that is refused leaves everything as it was; it is answered if and only if the members' template
accepts the move of every one; and a target that is offered to the group is accepted, where no two
transitions join the same two states and what the target requires is there. -/
theorem group_moves_together (s : Published) (request_id group_id : ℕ) (to_state : String)
    (user : CurrentUser) (now : DateTime) (tx : Transaction) :
    let moved := transition_group_published s request_id group_id to_state user now tx
    (∀ s', moved = .ok s' →
      ∃ members, Members s.db request_id group_id user.active_tenant_id members ∧
        MovedTogether s s' members to_state user now) ∧
    (∀ e, moved = .error e → commit_or_rollback s moved = s) ∧
    ((∃ s', moved = .ok s') ↔
      (∃ b, Member s.db request_id group_id user.active_tenant_id b) ∧
      ∃ template, ∀ b, Member s.db request_id group_id user.active_tenant_id b →
        _template_for_booking s.db b = .ok template ∧
          Accepts s.db template to_state user.role b) ∧
    ∀ (offered : List TransitionEntry) (template : LifecycleTemplate),
      get_group_allowed_transitions s.db request_id group_id user = .ok offered →
      (∀ b, Member s.db request_id group_id user.active_tenant_id b →
        _template_for_booking s.db b = .ok template) →
      Lifecycle.Complete template.definition → Distinct template.definition →
      SuppliedFor s.db template request_id group_id user.active_tenant_id to_state →
      (∃ t ∈ offered, t.to_state = some to_state) → ∃ s', moved = .ok s' := by
  refine ⟨fun s' => published_together, ?_, group_published_iff.trans group_moves_iff, ?_⟩
  · -- what a refused request has done is rolled back
    intro e herror
    rw [herror]
    rfl
  · rintro offered template hoffered htemplate hcomplete hdistinct hsupplied ⟨t, ht, hto⟩
    exact group_published_iff.2
      (offered_group_moves hoffered htemplate hcomplete hdistinct hsupplied ht hto)

namespace Grouped

/-- Two environments of the tenant, in one group. -/
def environments : Table Environment Environment.id :=
  Table.empty.insert_all
    [Decommission.new_environment 1 ⟨"uat", .active, none, none, none⟩,
      Decommission.new_environment 1 ⟨"sit", .active, none, none, none⟩]

def reference : Bookings.Reference :=
  { Bookings.Sample.reference with
    groups := [⟨1, 1, "payments", none⟩]
    group_members := [⟨1, 1, 1, none⟩, ⟨1, 1, 2, none⟩] }

def booked : Bookings.Event :=
  .create_request Bookings.Sample.admin
    { Bookings.Sample.request [] 0 50 with environment_group_ids := [1] }

theorem is_write_booked : is_write booked = true := rfl

/-- An administrator makes a lifecycle and a booking type over it, and books the group. -/
def requests : List Request :=
  [.templates (.create_lifecycle_template Bookings.Sample.admin
      ⟨"Reviews", none, true, "booking", none, Refusals.definition⟩),
    .create_booking_type Bookings.Sample.admin ⟨1, .soft⟩,
    .bookings ⟨booked, is_write_booked⟩]

def db : Db :=
  Runs.run (step Bookings.Sample.ext)
    (Db.seeded Table.empty Table.empty environments reference ⟨[], [], [], [], []⟩) requests

def template : LifecycleTemplate :=
  ⟨1, 1, "booking", "Reviews", none, true, none, Refusals.definition.model_dump, none⟩

/-- The one transition there is. -/
def close : TransitionEntry := ⟨some "draft", some "closed", some "Close", some [Role.ADMIN]⟩

theorem offered : get_group_allowed_transitions db 1 1 Bookings.Sample.admin = .ok [close] := by
  decide +kernel

theorem governed : ∀ b ∈ db.bookings.bookings, _template_for_booking db b = .ok template := by
  decide +kernel

end Grouped

/-- What the request wrote: the status of each booking, and how many rows of history and events. -/
def Grouped.written (s : Published) : List (ℕ × String) × ℕ × ℕ :=
  (s.db.bookings.bookings.rows.map fun b => (b.id, b.status), s.db.bookings.history.rows.length,
    s.event_log.rows.length)

/-- Both bookings of the group close, with a row of history and an event for each. -/
theorem group_moves_together_grouped :
    Grouped.written ⟨Grouped.db, Table.empty⟩ = ([(1, "draft"), (2, "draft")], 0, 0) ∧
    ∃ s' members, MovedTogether ⟨Grouped.db, Table.empty⟩ s' members "closed"
        Bookings.Sample.admin 0 ∧
      Grouped.written s' = ([(1, "closed"), (2, "closed")], 2, 2) := by
  have h := group_moves_together ⟨Grouped.db, Table.empty⟩ 1 1 "closed" Bookings.Sample.admin 0
    ⟨1, 0⟩
  obtain ⟨s', hmoved⟩ := h.2.2.2 _ Grouped.template Grouped.offered
    (fun b hb => Grouped.governed b hb.1) (Lifecycle.complete_of_dumped rfl)
    (List.nodup_singleton _) (fun b hb => by
      obtain ⟨request, hrequest, -⟩ := bind_eq_ok.1 (Grouped.governed b hb.1)
      exact ⟨request, hrequest, Lifecycle.supplied_of_nothing_required
        (Lifecycle.model_dump_required_fields Refusals.definition "closed") _⟩)
    ⟨Grouped.close, List.mem_singleton_self _, rfl⟩
  obtain ⟨members, -, htogether⟩ := h.1 s' hmoved
  have hwritten : (transition_group_published ⟨Grouped.db, Table.empty⟩ 1 1 "closed"
      Bookings.Sample.admin 0 ⟨1, 0⟩).map Grouped.written =
        .ok ([(1, "closed"), (2, "closed")], 2, 2) := by
    decide +kernel
  rw [hmoved] at hwritten
  exact ⟨by decide +kernel, s', members, htogether, Except.ok.inj hwritten⟩

end EnvMgr.Statuses

/-
How many environments one request creates.

Entering `fulfilled` creates the environment and keeps its id on the request. Nothing looks
at that id: a lifecycle may lead back into `fulfilled`, and then only the name that is taken
stands in the way, until the environment is renamed or deleted.
-/
import EnvMgr.Compliance.Actions
import EnvMgr.Compliance.Verdict
import EnvMgr.Lib.Once

namespace EnvMgr.Compliance

open Lifecycle (LifecycleDefinition LifecycleTemplate stored)
open Runs (tally Along)

variable {id : ℕ} {request : Request}

/-! ## Creating for a request -/

/-- The request is moved, and after that there is an environment with an id that none had. -/
def creates (ext : External) (request_id : ℕ) (db : Db) (request : Request) : Bool :=
  match request with
  | .transition_environment_request _ id _ _ =>
    id = request_id ∧ ∃ env ∈ (step ext db request).environments,
      ∀ old ∈ db.environments, old.id ≠ env.id
  | _ => false

/-- The request has its environment. -/
def HasCreated (db : Db) (request_id : ℕ) : Prop :=
  ∃ r ∈ db.requests, r.id = request_id ∧ r.created_environment_id ≠ none

/-- What a new environment is made from is there, and its name is free. -/
structure Fulfillable (db : Db) (req : EnvironmentRequest) (tenant_id : ℕ) : Prop where
  team : ∃ id, req.operations_group_id = some id ∧
    ∃ group ∈ db.reference.user_groups,
      group.id = id ∧ group.tenant_id = tenant_id ∧ group.deleted_at = none
  tier : ∃ id, req.tier_id = some id ∧
    ∃ t ∈ db.reference.tiers, t.id = id ∧ t.tenant_id = tenant_id ∧ t.deleted_at = none
  requester : ∃ u ∈ db.reference.users, u.id = req.requested_by ∧ u.tenant_id = tenant_id
  name : ∃ name, req.proposed_name = some name ∧
    ∀ env ∈ db.environments, env.name = name → env.tenant_id = tenant_id → env.deleted_at ≠ none

section Steps

variable {ext : External} {db db' : Db} {tenant_id : ℕ} {now : DateTime}

theorem get_group_ok {groups : List UserGroup} :
    (∃ group, get_group groups id tenant_id = .ok group) ↔
      ∃ group ∈ groups, group.id = id ∧ group.tenant_id = tenant_id ∧ group.deleted_at = none := by
  simp only [get_group, get_or_raise_eq_ok, ← Option.isSome_iff_exists, List.find?_isSome,
    decide_eq_true_eq]

/-- **Fulfilling adds one row**, and asks for no more than `Fulfillable` says. -/
theorem fulfil_ok {req : EnvironmentRequest} :
    _fulfil_new_environment ext db req tenant_id now = .ok db' ↔
      Fulfillable db req tenant_id ∧ ∃ r, req.record = some r ∧
        db' = add_environment ext db tenant_id r now := by
  have hname : ∀ name, assert_name_available db tenant_id name = .ok () ↔
      ∀ env ∈ db.environments, env.name = name → env.tenant_id = tenant_id →
        env.deleted_at ≠ none := by
    intro name
    simp only [assert_name_available, raise_if_eq_ok, not_exists, not_and, live_iff, ne_eq]
  simp only [_fulfil_new_environment, _assert_targets_are_ours, check_tier, bind_eq_ok,
    raise_if_eq_ok, get_or_raise_eq_ok, for_each_eq_ok, Option.mem_toList, Except.ok.injEq, hname,
    not_not]
  constructor
  · rintro ⟨_, hteam, _, ⟨_, -, _, htier, hgroup⟩, _, hrequester, _, hfree, r, hr, rfl⟩
    obtain ⟨id, hid⟩ := Option.ne_none_iff_exists'.1 hteam
    obtain ⟨group, hgroup, -⟩ := hgroup id hid
    obtain ⟨name, tier_id, hproposed, hasked⟩ : ∃ name tier_id,
        req.proposed_name = some name ∧ req.tier_id = some tier_id := by
      unfold EnvironmentRequest.record at hr
      split at hr
      · next name tier_id hname htier => exact ⟨name, tier_id, hname, htier⟩
      · cases hr
    exact ⟨⟨⟨id, hid, get_group_ok.1 ⟨group, hgroup⟩⟩, ⟨tier_id, hasked, htier tier_id hasked⟩,
      hrequester, ⟨name, hproposed, hfree name hproposed⟩⟩, r, hr, rfl⟩
  · rintro ⟨⟨⟨id, hid, hgroup⟩, ⟨tier_id, hasked, htier⟩, hrequester, ⟨name, hproposed, hfree⟩⟩,
      r, hr, rfl⟩
    obtain ⟨group, hgroup⟩ := get_group_ok.2 hgroup
    refine ⟨(), by simp [hid], (), ⟨(), by simp, (), ?_, ?_⟩, (), hrequester, (), ?_, r, hr, rfl⟩
    · intro id' hid'
      cases hasked.symm.trans hid'
      exact htier
    · intro id' hid'
      cases hid.symm.trans hid'
      exact ⟨group, hgroup, trivial⟩
    · intro name' hname'
      cases hproposed.symm.trans hname'
      exact hfree

theorem record_of_fulfillable {req : EnvironmentRequest} (h : Fulfillable db req tenant_id) :
    ∃ r, req.record = some r := by
  obtain ⟨tier_id, htier, -⟩ := h.tier
  obtain ⟨name, hname, -⟩ := h.name
  exact ⟨_, by rw [EnvironmentRequest.record, hname, htier]⟩

/-! ## One transition -/

/-- The transition is let through and makes an environment. -/
structure Fulfils (ext : External) (db : Db) (req : EnvironmentRequest) (to_state : String)
    (user : CurrentUser) (tenant_id : ℕ) : Prop where
  target : to_state = "fulfilled"
  kind : req.kind = .new_environment
  may : assert_may_transition ext db req to_state user tenant_id = .ok ()
  fulfillable : Fulfillable db req tenant_id

section Transition

variable {request_id : ℕ} {req : EnvironmentRequest} {to_state : String} {user : CurrentUser}

theorem get_request_view_ok (h : get_request_view db request_id tenant_id = .ok req) :
    req ∈ db.requests ∧ req.id = request_id := by
  rw [get_request_view, get_or_raise_eq_ok] at h
  obtain ⟨hmem, hp⟩ := Table.select_one_some h
  exact ⟨hmem, (of_decide_eq_true hp).1⟩

theorem transition_fulfils (hreq : get_request_view db request_id tenant_id = .ok req)
    (h : Fulfils ext db req to_state user tenant_id) :
    ∃ r, transition ext db request_id to_state user tenant_id now =
      .ok (set_status (add_environment ext db tenant_id r now) req to_state
        (some db.environments.next)) := by
  obtain ⟨htarget, hkind, hmay, hfulfillable⟩ := h
  obtain ⟨r, hr⟩ := record_of_fulfillable hfulfillable
  have hfulfil := (@fulfil_ok ext db _ tenant_id now req).2 ⟨hfulfillable, r, hr, rfl⟩
  refine ⟨r, ?_⟩
  simp only [transition, bind_eq_ok]
  refine ⟨req, hreq, (), hmay, ?_⟩
  rw [if_neg (by rw [htarget]; decide), if_pos ⟨htarget, hkind⟩, hfulfil]
  rfl

/-- A transition that is let through fulfils the request, or leaves the environments alone. -/
theorem transition_cases (h : transition ext db request_id to_state user tenant_id now = .ok db') :
    ∃ req, get_request_view db request_id tenant_id = .ok req ∧
      ((Fulfils ext db req to_state user tenant_id ∧ ∃ r,
          db' = set_status (add_environment ext db tenant_id r now) req to_state
            (some db.environments.next)) ∨
        (¬ Fulfils ext db req to_state user tenant_id ∧
          db' = set_status db req to_state none)) := by
  simp only [transition, bind_eq_ok] at h
  obtain ⟨req, hreq, _, hmay, h⟩ := h
  refine ⟨req, hreq, ?_⟩
  split at h
  · next hsubmitted =>
    simp only [bind_eq_ok, Except.ok.injEq] at h
    obtain ⟨_, -, _, -, rfl⟩ := h
    refine Or.inr ⟨fun hf => ?_, rfl⟩
    rw [hf.target] at hsubmitted
    exact absurd hsubmitted (by decide)
  · split at h
    · next hfulfilled =>
      simp only [bind_eq_ok, Except.ok.injEq] at h
      obtain ⟨db₁, hfulfil, rfl⟩ := h
      obtain ⟨hfulfillable, r, -, rfl⟩ := fulfil_ok.1 hfulfil
      exact Or.inl ⟨⟨hfulfilled.1, hfulfilled.2, hmay, hfulfillable⟩, r, rfl⟩
    · next hother =>
      cases h
      exact Or.inr ⟨fun hf => hother ⟨hf.target, hf.kind⟩, rfl⟩

/-- **When a transition creates.** -/
theorem creates_iff :
    creates ext id db (.transition_environment_request user request_id to_state now) = true ↔
      request_id = id ∧ ∃ req, get_request_view db request_id user.active_tenant_id = .ok req ∧
        Fulfils ext db req to_state user user.active_tenant_id := by
  simp only [creates, decide_eq_true_eq]
  refine and_congr_right fun _ => ⟨?_, ?_⟩
  · rintro ⟨env, henv, hnew⟩
    have hold : ∀ env ∈ db.environments, ¬ ∀ old ∈ db.environments, old.id ≠ env.id :=
      fun env henv h => h env henv rfl
    simp only [step, handle] at henv
    cases h : transition ext db request_id to_state user user.active_tenant_id now with
    | error e =>
      rw [h] at henv
      exact absurd hnew (hold env henv)
    | ok db' =>
      rw [h] at henv
      obtain ⟨req, hreq, ⟨hfulfils, -⟩ | ⟨-, rfl⟩⟩ := transition_cases h
      · exact ⟨req, hreq, hfulfils⟩
      · exact absurd hnew (hold env henv)
  · rintro ⟨req, hreq, hfulfils⟩
    obtain ⟨r, h⟩ := @transition_fulfils ext db _ now request_id req to_state user hreq hfulfils
    simp only [step, handle, h, commit_ok]
    refine ⟨_, Table.mem_insert.2 (Or.inr rfl), fun old hold heq => ?_⟩
    exact absurd (Table.key_lt_next hold) (by rw [heq]; exact lt_irrefl _)

end Transition

/-! ## The mark on the request -/

/-- A change of a request that leaves its environment alone. -/
theorem hasCreated_update {p : EnvironmentRequest → Bool} {f : Table.Edit EnvironmentRequest.id}
    (hf : ∀ r, (f.apply r).created_environment_id = r.created_environment_id) :
    HasCreated { db with requests := db.requests.update p f } id ↔ HasCreated db id := by
  have happly : ∀ r, (if p r then f.apply r else r).created_environment_id =
      r.created_environment_id ∧ (if p r then f.apply r else r).id = r.id := by
    intro r
    by_cases hp : p r
    · rw [if_pos hp]
      exact ⟨hf r, f.key_apply r⟩
    · rw [if_neg hp]
      exact ⟨rfl, rfl⟩
  constructor
  · rintro ⟨r, hr, hid, hcreated⟩
    obtain ⟨r₀, hr₀, rfl⟩ := Table.mem_update.1 hr
    rw [(happly r₀).1] at hcreated
    rw [(happly r₀).2] at hid
    exact ⟨r₀, hr₀, hid, hcreated⟩
  · rintro ⟨r, hr, hid, hcreated⟩
    refine ⟨_, Table.mem_update.2 ⟨r, hr, rfl⟩, ?_, ?_⟩
    · rw [(happly r).2, hid]
    · rwa [(happly r).1]

theorem hasCreated_congr (h : db'.requests = db.requests) :
    HasCreated db' id ↔ HasCreated db id := by
  rw [HasCreated, HasCreated, h]

theorem hasCreated_fulfilled {req : EnvironmentRequest} (hreq : req ∈ db.requests)
    {to_state : String} {created : ℕ} :
    HasCreated (set_status db req to_state (some created)) id ↔ HasCreated db id ∨ req.id = id := by
  constructor
  · rintro ⟨r, hr, hid, hcreated⟩
    rcases Table.mem_update_cases hr with ⟨r₀, -, hp, rfl⟩ | ⟨hr, -⟩
    · exact Or.inr ((of_decide_eq_true hp).symm.trans hid)
    · exact Or.inl ⟨r, hr, hid, hcreated⟩
  · intro h
    by_cases hid : req.id = id
    · exact ⟨_, Table.mem_update_of_pos hreq (decide_eq_true rfl), hid, Option.some_ne_none _⟩
    · obtain ⟨r, hr, hrid, hcreated⟩ := h.resolve_right hid
      refine ⟨r, Table.mem_update_of_neg hr (decide_eq_false fun heq => ?_), hrid, hcreated⟩
      exact hid (heq.symm.trans hrid)

/-- **What a transition marks.** -/
theorem hasCreated_transition {request_id : ℕ} {to_state : String} {user : CurrentUser}
    (h : transition ext db request_id to_state user user.active_tenant_id now = .ok db') :
    HasCreated db' id ↔ HasCreated db id ∨ creates ext id db
      (.transition_environment_request user request_id to_state now) = true := by
  obtain ⟨req, hreq, hcases⟩ := transition_cases h
  obtain ⟨hmem, hid⟩ := get_request_view_ok hreq
  rw [creates_iff]
  rcases hcases with ⟨hfulfils, r, rfl⟩ | ⟨hnot, rfl⟩
  · have hadded : req ∈ (add_environment ext db user.active_tenant_id r now).requests := hmem
    have hsame : HasCreated (add_environment ext db user.active_tenant_id r now) id ↔
        HasCreated db id := hasCreated_congr rfl
    rw [hasCreated_fulfilled hadded, hsame, hid]
    exact or_congr_right ⟨fun heq => ⟨heq, req, hreq, hfulfils⟩, And.left⟩
  · have hkept : HasCreated (set_status db req to_state none) id ↔ HasCreated db id :=
      hasCreated_update fun _ => rfl
    rw [hkept]
    refine ⟨Or.inl, fun h => h.resolve_right ?_⟩
    rintro ⟨-, req', hreq', hfulfils⟩
    cases hreq.symm.trans hreq'
    exact hnot hfulfils

/-! ## The other requests -/

theorem create_record_requests {r : EnvironmentRecord}
    (h : create_environment_record ext db tenant_id r now = .ok db') :
    db'.requests = db.requests := by
  simp only [create_environment_record, bind_eq_ok, Except.ok.injEq] at h
  obtain ⟨_, -, _, -, _, -, _, -, rfl⟩ := h
  rfl

theorem import_requests {ws : Worksheet} {user_id : ℕ} {result : ImportResult}
    (h : import_environments ext db ws tenant_id user_id now = .ok (db', result)) :
    db'.requests = db.requests :=
  import_keeps (P := fun s => s.requests = db.requests)
    (fun _ _ _ _ hcreated hs => (create_record_requests hcreated).trans hs) h rfl

theorem hasCreated_untouched {request_id : ℕ}
    (hkept : HasCreated db' request_id ↔ HasCreated db request_id)
    (hcreates : creates ext request_id db request = false) :
    HasCreated db' request_id ↔
      HasCreated db request_id ∨ creates ext request_id db request = true := by
  rw [hkept, hcreates]
  exact (or_iff_left Bool.false_ne_true).symm

/-- **One step.** A request has its environment afterwards exactly if it had one before or
this step created it. -/
theorem hasCreated_handle {request_id : ℕ} (h : handle ext db request = .ok db') :
    HasCreated db' request_id ↔
      HasCreated db request_id ∨ creates ext request_id db request = true := by
  cases request with
  | transition_environment_request user id to_state now => exact hasCreated_transition h
  | create_environment user data now =>
    simp only [handle, create_environment, bind_eq_ok] at h
    obtain ⟨_, -, _, -, h⟩ := h
    exact hasCreated_untouched (hasCreated_congr (create_record_requests h)) rfl
  | update_environment user env_id data =>
    simp only [handle, update_environment, bind_eq_ok, Except.ok.injEq] at h
    obtain ⟨_, -, env, -, named, -, _, -, _, -, _, -, rfl⟩ := h
    exact hasCreated_untouched (hasCreated_congr rfl) rfl
  | delete_environment user env_id now =>
    simp only [handle, delete_environment, bind_eq_ok, Except.ok.injEq] at h
    obtain ⟨_, -, env, -, rfl⟩ := h
    exact hasCreated_untouched (hasCreated_congr rfl) rfl
  | import_environments user file now =>
    simp only [handle, bind_eq_ok, Except.ok.injEq] at h
    obtain ⟨_, -, ⟨db₁, result⟩, h, rfl⟩ := h
    exact hasCreated_untouched (hasCreated_congr (import_requests h)) rfl
  | put_environment_naming_policy user data now =>
    simp only [handle, upsert_policy, bind_eq_ok, Except.ok.injEq] at h
    obtain ⟨_, -, _, -, _, -, rfl⟩ := h
    exact hasCreated_untouched (hasCreated_congr rfl) rfl
  | create_environment_request user data =>
    simp only [handle, create_request, bind_eq_ok, Except.ok.injEq] at h
    obtain ⟨_, -, _, -, tpl, -, status, -, rfl⟩ := h
    refine hasCreated_untouched ⟨?_, ?_⟩ rfl
    · rintro ⟨r, hr, hid, hcreated⟩
      rcases Table.mem_insert.1 hr with hr | rfl
      · exact ⟨r, hr, hid, hcreated⟩
      · exact absurd rfl hcreated
    · rintro ⟨r, hr, hid, hcreated⟩
      exact ⟨r, Table.mem_insert.2 (Or.inl hr), hid, hcreated⟩
  | update_environment_request user id data =>
    simp only [handle, update_request, bind_eq_ok, Except.ok.injEq] at h
    obtain ⟨req, -, _, -, _, -, _, -, _, -, _, -, rfl⟩ := h
    exact hasCreated_untouched (hasCreated_update fun _ => rfl) rfl
  | others reference =>
    cases h
    exact hasCreated_untouched (hasCreated_congr rfl) rfl

/-- A refused request creates nothing. -/
theorem creates_handled {request_id : ℕ} (h : creates ext request_id db request = true) :
    ∃ db', handle ext db request = .ok db' := by
  cases request with
  | transition_environment_request user id to_state now =>
    obtain ⟨-, req, hreq, hfulfils⟩ := creates_iff.1 h
    obtain ⟨r, hok⟩ := @transition_fulfils ext db _ now id req to_state user hreq hfulfils
    exact ⟨_, hok⟩
  | _ => cases h

theorem hasCreated_step (request_id : ℕ) (db : Db) (request : Request) :
    HasCreated (step ext db request) request_id ↔
      HasCreated db request_id ∨ creates ext request_id db request = true := by
  cases h : handle ext db request with
  | ok db' =>
    rw [step, h, commit_ok]
    exact hasCreated_handle h
  | error e =>
    rw [step, h, rollback_error]
    refine ⟨Or.inl, fun hor => hor.resolve_right fun hcreates => ?_⟩
    obtain ⟨db', hok⟩ := creates_handled hcreates
    cases h.symm.trans hok

end Steps

/-! ## Whole runs -/

/-- The request is not a transition that fulfils a request which has its environment. -/
def NotAgain (ext : External) (db : Db) : Request → Prop
  | .transition_environment_request user request_id to_state _ =>
    ∀ req, get_request_view db request_id user.active_tenant_id = .ok req →
      req.created_environment_id ≠ none →
        ¬ Fulfils ext db req to_state user user.active_tenant_id
  | _ => True

theorem notAgain_iff {ext : External} (db : Db) (request : Request) :
    NotAgain ext db request ↔
      ∀ request_id, HasCreated db request_id → creates ext request_id db request = false := by
  cases request with
  | transition_environment_request user id to_state now =>
    constructor
    · rintro h request_id ⟨r, hr, hid, hcreated⟩
      by_contra hne
      obtain ⟨rfl, req, hreq, hfulfils⟩ := creates_iff.1 (Bool.eq_true_of_not_eq_false hne)
      obtain ⟨hmem, hreqid⟩ := get_request_view_ok hreq
      obtain rfl : r = req := Table.eq_of_key_eq hr hmem (hid.trans hreqid.symm)
      exact h r hreq hcreated hfulfils
    · intro h req hreq hcreated hfulfils
      obtain ⟨hmem, hreqid⟩ := get_request_view_ok hreq
      have hfalse := h id ⟨req, hmem, hreqid, hcreated⟩
      have htrue : creates ext id db
          (.transition_environment_request user id to_state now) = true :=
        creates_iff.2 ⟨rfl, req, hreq, hfulfils⟩
      exact Bool.false_ne_true (hfalse.symm.trans htrue)
  | _ => exact iff_of_true trivial fun _ _ => rfl

/-- **At most one environment.** A request creates at most one over its whole life, if and
only if no transition fulfils a request that has created one before. -/
theorem created_once_iff (ext : External) (reference : Reference) (requests : List Request) :
    (∀ request_id, tally (step ext) (creates ext request_id) (Db.opened reference) requests ≤ 1) ↔
      Along (step ext) (NotAgain ext) (Db.opened reference) requests := by
  have hnone : ∀ request_id, ¬ HasCreated (Db.opened reference) request_id := by
    rintro request_id ⟨r, hr, -⟩
    exact absurd hr (Table.not_mem_empty r)
  have honce : ∀ request_id,
      tally (step ext) (creates ext request_id) (Db.opened reference) requests ≤ 1 ↔
        Along (step ext) (fun db request =>
          HasCreated db request_id → creates ext request_id db request = false)
          (Db.opened reference) requests :=
    fun request_id => @Runs.tally_le_one_iff _ _ (step ext) (creates ext request_id)
      (fun db => HasCreated db request_id) (hasCreated_step request_id) _ (hnone request_id) _
  simp only [honce]
  rw [← Runs.along_forall]
  exact Runs.along_congr_event fun db request => (notAgain_iff db request).symm

namespace Reopened

def ext : External := ⟨fun _ => .error "", String.toLower⟩

/-- A fulfilled request may be reopened. -/
def definition : LifecycleDefinition where
  states :=
    [⟨"draft", "Draft", true, false, false, false, false, false, false, false⟩,
      ⟨"submitted", "Submitted", false, false, false, false, false, false, false, false⟩,
      ⟨"approved", "Approved", false, false, false, false, false, false, false, false⟩,
      ⟨"rejected", "Rejected", false, true, false, false, false, false, false, false⟩,
      ⟨"fulfilled", "Fulfilled", false, false, false, false, false, false, false, false⟩]
  transitions :=
    [⟨"draft", "submitted", "Submit", [Role.ADMIN]⟩,
      ⟨"submitted", "approved", "Approve", [Role.ADMIN]⟩,
      ⟨"approved", "fulfilled", "Mark Fulfilled", [Role.ADMIN]⟩,
      ⟨"fulfilled", "approved", "Reopen", [Role.ADMIN]⟩]
  field_permissions := Dict.empty
  action_permissions := none
  one_initial := by decide

def template : LifecycleTemplate where
  id := 1
  tenant_id := 1
  entity_type := ENTITY_TYPE
  name := "Requests"
  description := none
  is_default := true
  applies_to_kind := none
  definition := stored definition ENTITY_TYPE
  deleted_at := none

def reference : Reference where
  tiers := [⟨1, 1, "QA", "test", none⟩]
  users := [⟨5, 1⟩]
  user_groups := [⟨7, 1, none⟩]
  group_members := []
  custom_fields := []
  templates := [template]

def admin : CurrentUser := ⟨5, 1, Role.ADMIN, false⟩

def wanted : EnvironmentRequestCreate where
  kind := .new_environment
  justification := "A place to test"
  needed_by := none
  environment_id := none
  proposed_name := some "qa-1"
  tier_id := some 1
  expires_at := some 10

/-- Once it is there the environment is renamed, and the request is reopened. -/
def requests : List Request :=
  [.create_environment_request admin wanted,
    .update_environment_request admin 1
      ⟨.omitted, .omitted, .omitted, .omitted, .omitted, .omitted, .value 7⟩,
    .transition_environment_request admin 1 "submitted" 0,
    .transition_environment_request admin 1 "approved" 0,
    .transition_environment_request admin 1 "fulfilled" 0,
    .update_environment admin 1 ⟨some "qa-2", none, none, .omitted, .omitted, .omitted, none, none⟩,
    .transition_environment_request admin 1 "approved" 1,
    .transition_environment_request admin 1 "fulfilled" 1]

end Reopened

/-- The lifecycle passed the validator, and one request creates two environments. -/
theorem reopened_request_creates_twice :
    (∀ tpl ∈ Reopened.reference.templates, Saved tpl) ∧
      tally (step Reopened.ext) (creates Reopened.ext 1) (Db.opened Reopened.reference)
        Reopened.requests = 2 := by
  refine ⟨?_, by decide +kernel⟩
  intro tpl htpl
  obtain rfl := List.mem_singleton.1 htpl
  exact ⟨Reopened.definition, by decide, rfl⟩

end EnvMgr.Compliance

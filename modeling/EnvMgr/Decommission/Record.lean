/-
What one request does to the decommission records.

`Accepted` lists the requests that go through, each with what its checks let
through and what it writes; nothing after this file looks inside a handler.
Over it stand the relation a later version of a record bears to an earlier one
and the invariant of the whole table.
-/
import EnvMgr.Decommission.Service

namespace EnvMgr.Decommission

variable {s s' : Estate} {d : EnvironmentDecommission}
variable {tenant_id : ℕ} {env : Environment} {e : Event}

/-! ## What a request does -/

/-- The checklist of a record, complete at this moment: every step that is
active and required now has been signed. -/
def RequiredSigned (s : Estate) (d : EnvironmentDecommission) : Prop :=
  ∀ step ∈ s.steps, step.tenant_id = d.tenant_id → step.deleted_at = none →
    step.is_active = true → step.is_required = true → is_signed s d step.key

/-- The requests that are accepted, and what each leaves. -/
inductive Accepted (s : Estate) : Event → Estate → Prop
  | initiate {user : CurrentUser} {environment_id : ℕ} {reason : String}
      {scheduled : Option DateTime} {now teardown : DateTime} {env : Environment}
      (henv : env ∈ s.environments) (hid : env.id = environment_id)
      (htenant : env.tenant_id = user.active_tenant_id)
      (hlive : ∀ d ∈ s.decommissions, d.tenant_id = user.active_tenant_id →
        d.environment_id = environment_id → ¬ live d)
      (hnotice : now + timedelta.days
        (get_policy s.policies user.active_tenant_id).decommission_notice_days ≤ teardown) :
      Accepted s (.initiate user environment_id reason scheduled now)
        { s with
          decommissions := s.decommissions.insert
            ⟨initiated user.active_tenant_id environment_id user reason now teardown,
              fun _ => rfl⟩ }
  | request_extension {user : CurrentUser} {d : EnvironmentDecommission} {reason : String}
      {until_ now : DateTime} (hd : d ∈ s.decommissions) (hlive : live d)
      (hfirst : d.extension_requested_at = none) (hlater : d.scheduled_teardown_at < until_) :
      Accepted s (.request_extension user d.id reason until_ now)
        (write s d.id (set_request user reason until_ now))
  | grant {user : CurrentUser} {d : EnvironmentDecommission} {until_ now : DateTime}
      (hd : d ∈ s.decommissions) (hlive : live d) (hrequested : d.extension_requested_at ≠ none)
      (hundecided : d.extension_decided_at = none) (huntil : d.extension_until = some until_) :
      Accepted s (.decide_extension user d.id true now)
        (write s d.id (set_decision user true (some until_) now))
  | refuse {user : CurrentUser} {d : EnvironmentDecommission} {now : DateTime}
      (hd : d ∈ s.decommissions) (hlive : live d) (hrequested : d.extension_requested_at ≠ none)
      (hundecided : d.extension_decided_at = none) :
      Accepted s (.decide_extension user d.id false now)
        (write s d.id (set_decision user false none now))
  | sign {user : CurrentUser} {id : ℕ} {step_key : String} {reference notes : Option String}
      {now : DateTime} {new : Table.New EnvironmentDecommissionAttestation.id} :
      Accepted s (.sign_attestation user id step_key reference notes now)
        { s with attestations := s.attestations.insert new }
  | tear_down {user : CurrentUser} {d : EnvironmentDecommission} {now : DateTime}
      {environment_id : ℕ} (hd : d ∈ s.decommissions) (hlive : live d)
      (hsigned : RequiredSigned s d) :
      Accepted s (.tear_down user d.id now)
        { write s d.id (set_torn_down user now) with
          environments := s.environments.update (fun e => e.id = environment_id)
            (set_status .decommissioned) }
  | cancel {user : CurrentUser} {d : EnvironmentDecommission} {reason : String} {now : DateTime}
      (hd : d ∈ s.decommissions) (hfirst : d.cancelled_at = none) :
      Accepted s (.cancel user d.id reason now) (write s d.id (set_cancelled user reason now))
  | create_environment {tenant_id : ℕ} {values : EnvironmentValues} :
      Accepted s (.create_environment tenant_id values)
        { s with environments := s.environments.insert (new_environment tenant_id values) }
  | update_environment {environment_id : ℕ} {values : EnvironmentValues} :
      Accepted s (.update_environment environment_id values)
        { s with
          environments := s.environments.update (fun e => e.id = environment_id)
            (set_values values) }
  | configure {steps : List EnvironmentDecommissionStep}
      {policies : List EnvironmentLifecyclePolicy} {members : List UserGroupMember} :
      Accepted s (.configure steps policies members)
        { s with steps := steps, policies := policies, members := members }

theorem get_decommission_by_id_ok {decommission_id : ℕ}
    (h : get_decommission_by_id s decommission_id tenant_id = .ok d) :
    d ∈ s.decommissions ∧ d.id = decommission_id := by
  obtain ⟨hd, hp⟩ := Table.select_one_some (get_or_raise_eq_ok.1 h)
  exact ⟨hd, (of_decide_eq_true hp).1⟩

theorem get_environment_ok {env_id : ℕ} (h : get_environment s env_id tenant_id = .ok env) :
    env ∈ s.environments ∧ env.id = env_id ∧ env.tenant_id = tenant_id := by
  obtain ⟨henv, hp⟩ := Table.select_one_some (get_or_raise_eq_ok.1 h)
  obtain ⟨hid, htenant, -⟩ := of_decide_eq_true hp
  exact ⟨henv, hid, htenant⟩

/-- The row the second look-up finds is the one in hand. -/
theorem live_of_still_live (hd : d ∈ s.decommissions) (h : still_live s d) : live d := by
  obtain ⟨d', hd', hid, -, hlive⟩ := h
  rwa [Table.eq_of_key_eq hd' hd hid] at hlive

theorem required_signed_of_no_missing
    (h : ¬ missing_required_steps s d ≠ []) : RequiredSigned s d := by
  intro step hstep htenant hdeleted hactive hrequired
  have hkey : step.key ∈ ((list_steps s.steps d.tenant_id true).filter fun step =>
      step.is_required).map EnvironmentDecommissionStep.key := by
    refine List.mem_map.2 ⟨step, List.mem_filter.2 ⟨?_, hrequired⟩, rfl⟩
    simpa [list_steps] using ⟨hstep, htenant, hdeleted, hactive⟩
  simpa using filter_empty h hkey

theorem accepted_of_ok (h : handle s e = .ok s') :
    Accepted s e s' := by
  cases e with
  | initiate user environment_id reason scheduled now =>
    simp only [handle, initiate, bind_eq_ok, raise_if_eq_ok] at h
    obtain ⟨env, henv, -, -, -, -, -, hlive, -, hnotice, h⟩ := h
    obtain ⟨hmem, hid, htenant⟩ := get_environment_ok henv
    obtain rfl := Except.ok.inj h
    refine .initiate hmem hid htenant (fun d hd ht he hl => hlive ?_) ?_
    -- no live row was found, so none matches
    · rw [Option.isSome_iff_ne_none]
      intro hnone
      simpa [ht, he, hl] using Table.select_one_none hnone hd
    -- without a date of its own the teardown stands at the notice's end
    · cases scheduled with
      | none => exact le_rfl
      | some teardown => simpa using hnotice
  | request_extension user decommission_id reason until_ now =>
    simp only [handle, request_extension, bind_eq_ok, raise_if_eq_ok, not_not, not_le] at h
    obtain ⟨d, hget, env, -, -, -, -, hlive, -, hfirst, -, hlater, h⟩ := h
    obtain ⟨hd, rfl⟩ := get_decommission_by_id_ok hget
    obtain rfl := Except.ok.inj h
    exact .request_extension hd (live_of_still_live hd hlive) hfirst hlater
  | decide_extension user decommission_id granted now =>
    simp only [handle, decide_extension, _assert_still_live, bind_eq_ok, raise_if_eq_ok,
      not_not, not_or] at h
    obtain ⟨d, hget, env, -, -, -, -, hlive, -, ⟨hrequested, hundecided⟩, h⟩ := h
    obtain ⟨hd, rfl⟩ := get_decommission_by_id_ok hget
    have hlive := live_of_still_live hd hlive
    cases granted with
    | false =>
      obtain rfl := Except.ok.inj h
      exact .refuse hd hlive hrequested hundecided
    | true =>
      cases huntil : d.extension_until with
      | none => simp [huntil] at h
      | some until_ =>
        simp only [huntil, if_true] at h
        obtain rfl := Except.ok.inj h
        exact .grant hd hlive hrequested hundecided huntil
  | sign_attestation user decommission_id step_key reference notes now =>
    simp only [handle, sign_attestation, bind_eq_ok, raise_if_eq_ok] at h
    obtain ⟨d, -, env, -, -, -, -, -, -, -, -, -, h⟩ := h
    obtain rfl := Except.ok.inj h
    exact .sign
  | tear_down user decommission_id now =>
    simp only [handle, tear_down, _assert_still_live, bind_eq_ok, raise_if_eq_ok] at h
    obtain ⟨d, hget, env, -, -, -, -, hlive, -, hmissing, h⟩ := h
    obtain ⟨hd, rfl⟩ := get_decommission_by_id_ok hget
    obtain rfl := Except.ok.inj h
    exact .tear_down hd (live_of_still_live hd (not_not.1 hlive))
      (required_signed_of_no_missing hmissing)
  | cancel user decommission_id reason now =>
    simp only [handle, cancel, bind_eq_ok, raise_if_eq_ok, not_not] at h
    obtain ⟨d, hget, env, -, -, -, -, hfirst, -, -, h⟩ := h
    obtain ⟨hd, rfl⟩ := get_decommission_by_id_ok hget
    obtain rfl := Except.ok.inj h
    exact .cancel hd hfirst
  | create_environment tenant_id values =>
    obtain rfl := Except.ok.inj h
    exact .create_environment
  | update_environment environment_id values =>
    obtain rfl := Except.ok.inj h
    exact .update_environment
  | configure steps policies members =>
    obtain rfl := Except.ok.inj h
    exact .configure

/-- A step is a refusal, which changes nothing, or an accepted request. -/
theorem step_cases (s : Estate) (e : Event) : step s e = s ∨ Accepted s e (step s e) :=
  (commit_or_rollback_cases s (handle s e)).imp id accepted_of_ok

/-! ## How a record ages -/

def request (d : EnvironmentDecommission) :
    Option DateTime × Option ℕ × Option String × Option DateTime :=
  (d.extension_requested_at, d.extension_requested_by, d.extension_reason, d.extension_until)

def decision (d : EnvironmentDecommission) : Option DateTime × Option ℕ × Option Bool :=
  (d.extension_decided_at, d.extension_decided_by, d.extension_granted)

/-- The record but for its cancellation. -/
def uncancelled (d : EnvironmentDecommission) : EnvironmentDecommission :=
  { d with cancelled_at := none, cancelled_by := none, cancel_reason := none }

/-- `d'` is `d` at the same or a later time. -/
structure Evolves (d d' : EnvironmentDecommission) : Prop where
  id : d'.id = d.id
  tenant_id : d'.tenant_id = d.tenant_id
  environment_id : d'.environment_id = d.environment_id
  reason : d'.reason = d.reason
  warned_at : d'.warned_at = d.warned_at
  initiated_by : d'.initiated_by = d.initiated_by
  deleted_at : d'.deleted_at = d.deleted_at
  /-- The teardown is only ever put off. -/
  postponed : d.scheduled_teardown_at ≤ d'.scheduled_teardown_at
  /-- A request for an extension is made once, and decided once. -/
  requested : d.extension_requested_at ≠ none → request d' = request d
  decided : d.extension_decided_at ≠ none → decision d' = decision d
  /-- All that can still happen to a torn-down record is that it is cancelled. -/
  torn_down : d.torn_down_at ≠ none → uncancelled d' = uncancelled d
  /-- Nothing happens to a cancelled one. -/
  cancelled : d.cancelled_at ≠ none → d' = d

theorem Evolves.refl (d : EnvironmentDecommission) : Evolves d d := by
  constructor <;> simp

theorem Evolves.torn_down_at {d' : EnvironmentDecommission} (h : Evolves d d')
    (ht : d.torn_down_at ≠ none) : d'.torn_down_at = d.torn_down_at := by
  have hrest : (uncancelled d').torn_down_at = (uncancelled d).torn_down_at := by
    rw [h.torn_down ht]
  exact hrest

theorem Evolves.trans {a b c : EnvironmentDecommission} (hab : Evolves a b)
    (hbc : Evolves b c) : Evolves a c where
  id := hbc.id.trans hab.id
  tenant_id := hbc.tenant_id.trans hab.tenant_id
  environment_id := hbc.environment_id.trans hab.environment_id
  reason := hbc.reason.trans hab.reason
  warned_at := hbc.warned_at.trans hab.warned_at
  initiated_by := hbc.initiated_by.trans hab.initiated_by
  deleted_at := hbc.deleted_at.trans hab.deleted_at
  postponed := hab.postponed.trans hbc.postponed
  requested := by
    intro ha
    have hreq : request b = request a := hab.requested ha
    have hb : b.extension_requested_at = a.extension_requested_at := congrArg (·.1) hreq
    rw [hbc.requested (hb ▸ ha), hreq]
  decided := by
    intro ha
    have hdec : decision b = decision a := hab.decided ha
    have hb : b.extension_decided_at = a.extension_decided_at := congrArg (·.1) hdec
    rw [hbc.decided (hb ▸ ha), hdec]
  torn_down := by
    intro ha
    rw [hbc.torn_down (hab.torn_down_at ha ▸ ha), hab.torn_down ha]
  cancelled := by
    intro ha
    have hb : b = a := hab.cancelled ha
    subst hb
    exact hbc.cancelled ha

/-! ## The invariant of the table -/

/-- An extension has been asked for and not answered. -/
def undecided (d : EnvironmentDecommission) : Prop :=
  d.extension_requested_at ≠ none ∧ d.extension_decided_at = none

structure Sound (s : Estate) : Prop where
  /-- A record belongs to the tenant of its environment. -/
  owned : ∀ d ∈ s.decommissions, ∃ env ∈ s.environments,
    env.id = d.environment_id ∧ env.tenant_id = d.tenant_id
  one_live : ∀ d ∈ s.decommissions, ∀ d' ∈ s.decommissions, live d → live d' →
    d.environment_id = d'.environment_id → d = d'
  /-- An open request asks for a later date than the one that stands. -/
  asked : ∀ d ∈ s.decommissions, undecided d →
    ∃ until_, d.extension_until = some until_ ∧ d.scheduled_teardown_at < until_

theorem sound_fresh (environments : Table Environment Environment.id)
    (steps : List EnvironmentDecommissionStep) (policies : List EnvironmentLifecyclePolicy)
    (members : List UserGroupMember) :
    Sound (Estate.fresh environments steps policies members) := by
  constructor <;> simp [Estate.fresh]

/-- The same environment, of the same tenant. -/
def SameEnvironment (env env' : Environment) : Prop :=
  env'.id = env.id ∧ env'.tenant_id = env.tenant_id

theorem SameEnvironment.refl (env : Environment) : SameEnvironment env env := ⟨rfl, rfl⟩

/-- Environments never leave, and never change tenant. -/
def Outlasted (t t' : Table Environment Environment.id) : Prop :=
  Table.Retains SameEnvironment t t'

/-- `Sound` speaks of two tables; of the environments it only needs that they
stay. -/
theorem Sound.of_outlasted (h : Sound s) (henvs : Outlasted s.environments s'.environments)
    (hsame : s'.decommissions = s.decommissions) : Sound s' := by
  constructor
  · intro d hd
    obtain ⟨env, henv, hid, htenant⟩ := h.owned d (hsame ▸ hd)
    obtain ⟨env', henv', hid', htenant'⟩ := henvs env henv
    exact ⟨env', henv', hid'.trans hid, htenant'.trans htenant⟩
  · rw [hsame]
    exact h.one_live
  · rw [hsame]
    exact h.asked

/-- A change of one record that keeps its place, revives nothing and leaves no
unanswerable request. -/
theorem Sound.write (h : Sound s) {id : ℕ} {f : Table.Edit EnvironmentDecommission.id}
    (htenant : ∀ r, (f.apply r).tenant_id = r.tenant_id)
    (henv : ∀ r, (f.apply r).environment_id = r.environment_id)
    (hlive : ∀ r, live (f.apply r) → live r)
    (hasked : ∀ r ∈ s.decommissions, r.id = id → undecided (f.apply r) →
      ∃ until_, (f.apply r).extension_until = some until_ ∧
        (f.apply r).scheduled_teardown_at < until_) : Sound (write s id f) := by
  -- every row of the new table is an old one, perhaps changed
  have hback : ∀ r ∈ (Decommission.write s id f).decommissions, ∃ r₀ ∈ s.decommissions,
      r.id = r₀.id ∧ r.tenant_id = r₀.tenant_id ∧ r.environment_id = r₀.environment_id ∧
        (live r → live r₀) := by
    intro r hr
    rcases Table.mem_update_cases hr with ⟨r₀, hr₀, -, rfl⟩ | ⟨hr, -⟩
    · exact ⟨r₀, hr₀, f.key_apply r₀, htenant r₀, henv r₀, hlive r₀⟩
    · exact ⟨r, hr, rfl, rfl, rfl, fun hl => hl⟩
  constructor
  · intro d hd
    obtain ⟨d₀, hd₀, -, ht, he, -⟩ := hback d hd
    rw [ht, he]
    exact h.owned d₀ hd₀
  · -- two live rows were live before, and so one row
    intro d hd d' hd' hl hl' hsame
    obtain ⟨d₀, hd₀, hid, -, he, hback₀⟩ := hback d hd
    obtain ⟨d₀', hd₀', hid', -, he', hback₀'⟩ := hback d' hd'
    rw [he, he'] at hsame
    have heq : d₀ = d₀' := h.one_live d₀ hd₀ d₀' hd₀' (hback₀ hl) (hback₀' hl') hsame
    exact Table.eq_of_key_eq hd hd' (by rw [hid, hid', heq])
  · intro d hd hopen
    rcases Table.mem_update_cases hd with ⟨d₀, hd₀, hid, rfl⟩ | ⟨hd, -⟩
    · exact hasked d₀ hd₀ (of_decide_eq_true hid) hopen
    · exact h.asked d hd hopen

theorem Sound.accepted (h : Sound s) (ha : Accepted s e s') :
    Sound s' := by
  cases ha with
  | @initiate user environment_id reason scheduled now teardown env henv hid htenant hlive =>
    constructor
    · intro d hd
      rcases Table.mem_insert.1 hd with hd | rfl
      · exact h.owned d hd
      · exact ⟨env, henv, hid, htenant⟩
    · -- a live record of the environment would be one of the caller's tenant
      have hnone : ∀ d ∈ s.decommissions, live d → d.environment_id ≠ environment_id := by
        intro d hd hl he
        obtain ⟨env', henv', hid', htenant'⟩ := h.owned d hd
        obtain rfl : env' = env := Table.eq_of_key_eq henv' henv (by rw [hid', hid, he])
        exact hlive d hd (htenant'.symm.trans htenant) he hl
      intro d hd d' hd' hl hl' hsame
      rcases Table.mem_insert.1 hd with hd | rfl <;> rcases Table.mem_insert.1 hd' with hd' | rfl
      · exact h.one_live d hd d' hd' hl hl' hsame
      · exact absurd hsame (hnone d hd hl)
      · exact absurd hsame.symm (hnone d' hd' hl')
      · rfl
    · intro d hd hopen
      rcases Table.mem_insert.1 hd with hd | rfl
      · exact h.asked d hd hopen
      · exact absurd rfl hopen.1
  | @request_extension user d reason until_ now hd hlive hfirst hlater =>
    refine h.write (fun _ => rfl) (fun _ => rfl) (fun _ hl => hl) (fun r hr hid _ => ?_)
    obtain rfl : r = d := Table.eq_of_key_eq hr hd hid
    exact ⟨until_, rfl, hlater⟩
  -- once decided, the request is open no more
  | grant =>
    exact h.write (fun _ => rfl) (fun _ => rfl) (fun _ hl => hl)
      (fun _ _ _ hopen => absurd hopen.2 (Option.some_ne_none _))
  | refuse =>
    exact h.write (fun _ => rfl) (fun _ => rfl) (fun _ hl => hl)
      (fun _ _ _ hopen => absurd hopen.2 (Option.some_ne_none _))
  | sign => exact h.of_outlasted (Table.retains_refl SameEnvironment.refl _) rfl
  | tear_down =>
    refine Sound.of_outlasted (h.write (f := set_torn_down _ _) (fun _ => rfl) (fun _ => rfl)
      (fun _ hl => absurd hl.2.2 (Option.some_ne_none _)) (fun r hr _ hopen => h.asked r hr hopen))
      (Table.retains_update SameEnvironment.refl _ _ fun _ => ⟨rfl, rfl⟩) rfl
  | cancel =>
    exact h.write (fun _ => rfl) (fun _ => rfl)
      (fun _ hl => absurd hl.2.1 (Option.some_ne_none _)) (fun r hr _ hopen => h.asked r hr hopen)
  | create_environment => exact h.of_outlasted (Table.retains_insert SameEnvironment.refl _ _) rfl
  | update_environment =>
    exact h.of_outlasted (Table.retains_update SameEnvironment.refl _ _ fun _ => ⟨rfl, rfl⟩) rfl
  | configure => exact h.of_outlasted (Table.retains_refl SameEnvironment.refl _) rfl

theorem Sound.step (h : Sound s) (e : Event) : Sound (step s e) := by
  rcases step_cases s e with hsame | ha
  · rwa [hsame]
  · exact h.accepted ha

/-! ## What the booking refusal lets through -/

/-- The date is not past the teardown of any live record of the environment. -/
def EndsInTime (s : Estate) (environment_id : ℕ) (end_ : DateTime) : Prop :=
  ∀ d ∈ s.decommissions, live d → d.environment_id = environment_id →
    end_ ≤ d.scheduled_teardown_at
  deriving Decidable

/-- The environment is another tenant's. -/
def Foreign (s : Estate) (tenant_id environment_id : ℕ) : Prop :=
  ∃ env ∈ s.environments, env.id = environment_id ∧ env.tenant_id ≠ tenant_id

/-- The join finds every live record of the environment in this tenant. -/
theorem mem_teardowns (hd : d ∈ s.decommissions) (hlive : live d)
    (henv : d.environment_id = env.id) :
    some d.scheduled_teardown_at ∈ teardowns s d.tenant_id env := by
  have hmem : d ∈ s.decommissions.select fun d' =>
      d'.environment_id = env.id ∧ d'.tenant_id = d.tenant_id ∧ live d' :=
    Table.mem_select.2 ⟨hd, by simp [henv, hlive]⟩
  unfold teardowns
  split
  · rename_i hnil
    rw [hnil] at hmem
    exact absurd hmem (List.not_mem_nil)
  · exact List.mem_map.2 ⟨d, hmem, rfl⟩

/-- **An environment of the caller's tenant is checked against all its records**;
one of another tenant is not looked at. -/
theorem ends_in_time_of_bookable (hs : Sound s) {environment_ids : List ℕ} {start end_ : DateTime}
    (h : assert_bookable s tenant_id environment_ids start (some end_) = .ok ())
    {environment_id : ℕ} (hid : environment_id ∈ environment_ids)
    (hown : ¬ Foreign s tenant_id environment_id) : EndsInTime s environment_id end_ := by
  intro d hd hlive henv
  -- the record's environment is the caller's, and so is the record
  obtain ⟨env, hmem, heid, htenant⟩ := hs.owned d hd
  have heid' : env.id = environment_id := heid.trans henv
  have hsame : env.tenant_id = tenant_id := by
    by_contra hne
    exact hown ⟨env, hmem, heid', hne⟩
  have hselected : env ∈ s.environments.select fun e =>
      e.id ∈ environment_ids ∧ e.tenant_id = tenant_id :=
    Table.mem_select.2 ⟨hmem, by simp [heid', hid, hsame]⟩
  have hrow := for_each_eq_ok.1 (for_each_eq_ok.1 h env hselected) _
    (htenant.symm.trans hsame ▸ mem_teardowns hd hlive heid.symm)
  simp only [assert_row_bookable, bind_eq_ok, raise_if_eq_ok, not_lt] at hrow
  obtain ⟨-, -, hle⟩ := hrow
  exact hle

end EnvMgr.Decommission

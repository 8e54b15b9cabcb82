/-
The decommission protocol, over every run of the service.

The six operations come in any order and are refused whenever their checks say
so, the checklist, the notice period, the memberships and the environments
change in between, and what holds throughout is the content of `Protocol`. It
does not say that a teardown waits for its date: the code has no such check, and
its own tests tear down on the day of the warning. Nor does it say that a
torn-down record is final: a mistaken teardown can be cancelled afterwards.
-/
import EnvMgr.Decommission.Record

namespace EnvMgr.Decommission

variable {s s' : Estate} {d : EnvironmentDecommission} {e : Event}

/-! ## One step -/

/-- The record was opened by this event, with the notice then in force. -/
def Initiated (s : Estate) (e : Event) (d : EnvironmentDecommission) : Prop :=
  (∃ user reason scheduled,
    e = .initiate user d.environment_id reason scheduled d.warned_at) ∧
  d.warned_at + timedelta.days (get_policy s.policies d.tenant_id).decommission_notice_days
    ≤ d.scheduled_teardown_at

/-- A step carries the records of `s` over into `s'`, each at a later age, and
what it adds was opened by `e`. -/
structure Carries (s : Estate) (e : Event) (s' : Estate) : Prop where
  later : ∀ d ∈ s.decommissions, ∃ d' ∈ s'.decommissions, Evolves d d'
  earlier : ∀ d' ∈ s'.decommissions, (∃ d ∈ s.decommissions, Evolves d d') ∨ Initiated s e d'

theorem carries_same (e : Event) (h : s'.decommissions = s.decommissions) :
    Carries s e s' where
  later d hd := ⟨d, h ▸ hd, Evolves.refl d⟩
  earlier d hd := Or.inl ⟨d, h ▸ hd, Evolves.refl d⟩

theorem carries_write (e : Event) (hd : d ∈ s.decommissions)
    {f : Table.Edit EnvironmentDecommission.id} (hf : Evolves d (f.apply d))
    (h : s'.decommissions = (write s d.id f).decommissions) : Carries s e s' where
  later r hr := by
    rw [h]
    by_cases hid : r.id = d.id
    · obtain rfl : r = d := Table.eq_of_key_eq hr hd hid
      exact ⟨f.apply r, Table.mem_update_of_pos hr (by simp), hf⟩
    · exact ⟨r, Table.mem_update_of_neg hr (by simpa using hid), Evolves.refl r⟩
  earlier r hr := by
    rw [h] at hr
    rcases Table.mem_update_cases hr with ⟨r₀, hr₀, hid, rfl⟩ | ⟨hr, -⟩
    · obtain rfl : r₀ = d := Table.eq_of_key_eq hr₀ hd (of_decide_eq_true hid)
      exact Or.inl ⟨r₀, hr₀, hf⟩
    · exact Or.inl ⟨r, hr, Evolves.refl r⟩

/-- Every column but those of the request stays, and no column of the request
was set. -/
theorem evolves_set_request (hlive : live d)
    (hfirst : d.extension_requested_at = none) (user : CurrentUser) (reason : String)
    (until_ now : DateTime) : Evolves d ((set_request user reason until_ now).apply d) := by
  obtain ⟨-, hcancelled, htorn⟩ := hlive
  constructor <;> simp [set_request, hfirst, hcancelled, htorn, decision]

theorem evolves_set_decision (hlive : live d)
    (hundecided : d.extension_decided_at = none) (user : CurrentUser) (granted : Bool)
    {moved : Option DateTime} (hmoved : ∀ t ∈ moved, d.scheduled_teardown_at ≤ t)
    (now : DateTime) : Evolves d ((set_decision user granted moved now).apply d) := by
  obtain ⟨-, hcancelled, htorn⟩ := hlive
  have hlater : d.scheduled_teardown_at ≤ moved.getD d.scheduled_teardown_at := by
    cases moved with
    | none => exact le_rfl
    | some t => exact hmoved t rfl
  constructor <;> simp [set_decision, hundecided, hcancelled, htorn, hlater, request]

theorem evolves_set_torn_down (hlive : live d)
    (user : CurrentUser) (now : DateTime) : Evolves d ((set_torn_down user now).apply d) := by
  obtain ⟨-, hcancelled, htorn⟩ := hlive
  constructor <;> simp [set_torn_down, hcancelled, htorn, request, decision]

theorem evolves_set_cancelled (hfirst : d.cancelled_at = none)
    (user : CurrentUser) (reason : String) (now : DateTime) :
    Evolves d ((set_cancelled user reason now).apply d) := by
  constructor <;> simp [set_cancelled, hfirst, request, decision, uncancelled]

theorem Accepted.carries (hs : Sound s) (ha : Accepted s e s') :
    Carries s e s' := by
  cases ha with
  | initiate henv hid htenant hlive hnotice =>
    constructor
    · intro d hd
      exact ⟨d, Table.mem_insert.2 (Or.inl hd), Evolves.refl d⟩
    · intro d hd
      rcases Table.mem_insert.1 hd with hd | rfl
      · exact Or.inl ⟨d, hd, Evolves.refl d⟩
      · exact Or.inr ⟨⟨_, _, _, rfl⟩, hnotice⟩
  | request_extension hd hlive hfirst hlater =>
    exact carries_write _ hd (evolves_set_request hlive hfirst _ _ _ _) rfl
  | @grant user d until_ now hd hlive hrequested hundecided huntil =>
    -- the date the owner asked for was later than the one that stood
    obtain ⟨t, ht, hlater⟩ := hs.asked d hd ⟨hrequested, hundecided⟩
    obtain rfl : until_ = t := Option.some.inj (huntil.symm.trans ht)
    refine carries_write _ hd (evolves_set_decision hlive hundecided _ _ ?_ _) rfl
    simpa using hlater.le
  | refuse hd hlive hrequested hundecided =>
    exact carries_write _ hd (evolves_set_decision hlive hundecided _ _ (by simp) _) rfl
  | sign => exact carries_same _ rfl
  | tear_down hd hlive =>
    exact carries_write _ hd (evolves_set_torn_down hlive _ _) rfl
  | cancel hd hfirst => exact carries_write _ hd (evolves_set_cancelled hfirst _ _ _) rfl
  | create_environment => exact carries_same _ rfl
  | update_environment => exact carries_same _ rfl
  | configure => exact carries_same _ rfl

theorem carries_step (hs : Sound s) (e : Event) : Carries s e (step s e) := by
  rcases step_cases s e with hsame | ha
  · rw [hsame]
    exact carries_same e rfl
  · exact ha.carries hs

/-- A record is torn down by `tear_down` alone, with its checklist complete. -/
theorem torn_down_signed {d' : EnvironmentDecommission} (hd : d ∈ s.decommissions)
    (hup : d.torn_down_at = none) (hd' : d' ∈ (step s e).decommissions) (hid : d'.id = d.id)
    (hdown : d'.torn_down_at ≠ none) : RequiredSigned s d := by
  -- a write that leaves the teardown columns alone cannot be the one
  have hwrite : ∀ {id : ℕ} {f : Table.Edit EnvironmentDecommission.id},
      (∀ r, (f.apply r).torn_down_at = r.torn_down_at) →
        d' ∉ (write s id f).decommissions := by
    intro id f hf hmem
    rcases Table.mem_update_cases hmem with ⟨r, hr, -, rfl⟩ | ⟨hr, -⟩
    · obtain rfl : r = d := Table.eq_of_key_eq hr hd ((f.key_apply r).symm.trans hid)
      exact hdown ((hf r).trans hup)
    · exact hdown (Table.eq_of_key_eq hr hd hid ▸ hup)
  have hsame : d' ∉ s.decommissions :=
    fun hmem => hdown (Table.eq_of_key_eq hmem hd hid ▸ hup)
  rcases step_cases s e with heq | ha
  · exact absurd (heq ▸ hd') hsame
  · generalize hs' : step s e = s' at ha hd'
    cases ha with
    | initiate =>
      rcases Table.mem_insert.1 hd' with hmem | rfl
      · exact absurd hmem hsame
      · exact absurd rfl hdown
    | request_extension => exact absurd hd' (hwrite fun _ => rfl)
    | grant => exact absurd hd' (hwrite fun _ => rfl)
    | refuse => exact absurd hd' (hwrite fun _ => rfl)
    | @tear_down user r now environment_id hr hlive hsigned =>
      -- the row torn down is the record in question, or another one
      rcases Table.mem_update_cases hd' with ⟨r₀, hr₀, hrid, rfl⟩ | ⟨hmem, -⟩
      · have hrd : r.id = d.id := (of_decide_eq_true hrid).symm.trans hid
        obtain rfl : r = d := Table.eq_of_key_eq hr hd hrd
        exact hsigned
      · exact absurd hmem hsame
    | cancel => exact absurd hd' (hwrite fun _ => rfl)
    | sign => exact absurd hd' hsame
    | create_environment => exact absurd hd' hsame
    | update_environment => exact absurd hd' hsame
    | configure => exact absurd hd' hsame

/-- The event asks for an extension of the record, and is accepted. -/
def Extends (s : Estate) (e : Event) (decommission_id : ℕ) : Prop :=
  ∃ user reason until_ now s',
    e = .request_extension user decommission_id reason until_ now ∧ handle s e = .ok s'

/-- An accepted request finds the record without one and leaves it with one. -/
theorem Extends.records {id : ℕ} (h : Extends s e id) :
    (∃ d ∈ s.decommissions, d.id = id ∧ d.extension_requested_at = none) ∧
      ∃ d ∈ (step s e).decommissions, d.id = id ∧ d.extension_requested_at ≠ none := by
  obtain ⟨user, reason, until_, now, s', rfl, hok⟩ := h
  have hstep : step s (.request_extension user id reason until_ now) = s' := by
    rw [step, hok, commit_ok]
  rw [hstep]
  cases accepted_of_ok hok with
  | request_extension hd hlive hfirst hlater =>
    exact ⟨⟨_, hd, rfl, hfirst⟩,
      ⟨_, Table.mem_update_of_pos hd (by simp), rfl, Option.some_ne_none _⟩⟩

/-! ## Every run -/

/-- What holds of a run from an estate without decommissions. -/
structure Protocol (s₀ : Estate) (es : List Event) : Prop where
  /-- At most one record of an environment is live. -/
  one_live : ∀ d ∈ (Runs.run step s₀ es).decommissions,
    ∀ d' ∈ (Runs.run step s₀ es).decommissions, live d → live d' →
      d.environment_id = d'.environment_id → d = d'
  /-- A record was opened by a request of this run, and its teardown stands no
  earlier than its warning plus the notice period in force at that request. -/
  noticed : ∀ d ∈ (Runs.run step s₀ es).decommissions, ∃ es₁ e es₂, es = es₁ ++ e :: es₂ ∧
    (∃ user reason scheduled,
      e = .initiate user d.environment_id reason scheduled d.warned_at) ∧
    d.warned_at + timedelta.days
      (get_policy (Runs.run step s₀ es₁).policies d.tenant_id).decommission_notice_days
        ≤ d.scheduled_teardown_at
  /-- Every record of an earlier moment is still there, aged as `Evolves` says. -/
  ages : ∀ es₁ es₂, es = es₁ ++ es₂ → ∀ d ∈ (Runs.run step s₀ es₁).decommissions,
    ∃ d' ∈ (Runs.run step s₀ es).decommissions, Evolves d d'
  /-- No record is extended twice. -/
  one_extension : ∀ es₁ e es₂ e' es₃, es = es₁ ++ e :: (es₂ ++ e' :: es₃) → ∀ id,
    Extends (Runs.run step s₀ es₁) e id →
      ¬ Extends (Runs.run step s₀ (es₁ ++ e :: es₂)) e' id
  /-- A record is torn down only while its checklist is complete. -/
  signed : ∀ es₁ e es₂, es = es₁ ++ e :: es₂ → ∀ d ∈ (Runs.run step s₀ es₁).decommissions,
    d.torn_down_at = none → ∀ d' ∈ (Runs.run step s₀ (es₁ ++ [e])).decommissions,
      d'.id = d.id → d'.torn_down_at ≠ none → RequiredSigned (Runs.run step s₀ es₁) d

theorem run_ages (hs : Sound s) (hd : d ∈ s.decommissions) (es : List Event) :
    ∃ d' ∈ (Runs.run step s es).decommissions, Evolves d d' :=
  Runs.run_later (fun (s : Estate) d => d ∈ s.decommissions) Evolves.refl Evolves.trans
    (fun _ e hs => Sound.step hs e) (fun _ e hs => (carries_step hs e).later) hs hd es

/-- **The decommission protocol holds in every run**, from any estate in which
nothing has been decommissioned yet. -/
theorem decommissions_follow_protocol (environments : Table Environment Environment.id)
    (steps : List EnvironmentDecommissionStep) (policies : List EnvironmentLifecyclePolicy)
    (members : List UserGroupMember) (es : List Event) :
    Protocol (Estate.fresh environments steps policies members) es := by
  have hsound : ∀ es, Sound (Runs.run step (Estate.fresh environments steps policies members) es) :=
    Runs.run_inv (fun _ e hs => hs.step e) (sound_fresh environments steps policies members)
  constructor
  · exact (hsound es).one_live
  · intro d hd
    rcases Runs.run_origin (fun (s : Estate) d => d ∈ s.decommissions) Evolves.refl Evolves.trans
      (fun _ e hs => Sound.step hs e) (fun _ e hs => (carries_step hs e).earlier)
      (sound_fresh environments steps policies members) hd with
      ⟨d₀, hd₀, -⟩ | ⟨es₁, e, es₂, d₀, rfl, ⟨hopened, hnotice⟩, hages⟩
    · exact absurd hd₀ (Table.not_mem_empty d₀)
    -- what `e` opened has aged since: the warning stands, the teardown was put off
    · refine ⟨es₁, e, es₂, rfl, ?_, ?_⟩
      · rwa [hages.environment_id, hages.warned_at]
      · rw [hages.warned_at, hages.tenant_id]
        exact hnotice.trans hages.postponed
  · rintro es₁ es₂ rfl d hd
    rw [Runs.run_append]
    exact run_ages (hsound es₁) hd es₂
  · rintro es₁ e es₂ e' es₃ rfl id hfirst hsecond
    obtain ⟨d, hd, hid, hasked⟩ := hfirst.records.2
    obtain ⟨⟨r, hr, hrid, hnone⟩, -⟩ := hsecond.records
    rw [Runs.run_append, Runs.run_cons] at hr
    -- the first request is still on the record when the second finds none
    obtain ⟨d', hd', hages⟩ := run_ages ((hsound es₁).step e) hd es₂
    have hkey : r.id = d'.id := by rw [hrid, hages.id, hid]
    obtain rfl : r = d' := Table.eq_of_key_eq hr hd' hkey
    have hkept : r.extension_requested_at = d.extension_requested_at :=
      congrArg (·.1) (hages.requested hasked)
    exact hasked (hkept.symm.trans hnone)
  · rintro es₁ e es₂ rfl d hd hup d' hd' hid hdown
    rw [Runs.run_append] at hd'
    exact torn_down_signed hd hup hd' hid hdown

/-! ## What the protocol leaves open -/

namespace Sample

def admin : CurrentUser := ⟨1, 1, Role.ADMIN, false⟩

def estate : Estate :=
  Estate.fresh (Table.empty.insert (new_environment 1 ⟨"uat", .active, none, none, none⟩))
    [⟨1, 1, "final_backup", 10, true, true, none⟩] [] []

def warned : List Event :=
  [.initiate admin 1 "end of project" none 0,
    .sign_attestation admin 1 "final_backup" (some "snap-1") none 30]

end Sample

/-- **A teardown does not wait for its date, and a torn-down record is not
final**: the record is torn down days before its date, and a cancellation then
changes it. -/
theorem early_teardown_then_cancel :
    ∃ d ∈ (Runs.run step Sample.estate
        (Sample.warned ++ [.tear_down Sample.admin 1 60])).decommissions,
      d.torn_down_at = some 60 ∧ 60 < d.scheduled_teardown_at ∧
      ∃ d' ∈ (Runs.run step Sample.estate
          (Sample.warned ++ [.tear_down Sample.admin 1 60,
            .cancel Sample.admin 1 "wrong environment" 90])).decommissions,
        d'.id = d.id ∧ d' ≠ d := by
  decide

end EnvMgr.Decommission

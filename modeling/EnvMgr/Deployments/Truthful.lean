/-
What one delivery records, and whether a version row names what was deployed.

The environment and the subsystem are looked up by name, the build by its key, and the
deployment by its event. One lemma for each look-up says which row it finds, and one
inversion lemma says all that a handled delivery writes.

An event may be delivered again while its deployment is under way, and the second delivery
may name another environment, subsystem or build. The deployment keeps the ones it was
recorded with; the version row takes the ones of the delivery.
-/
import EnvMgr.Deployments.Model
import EnvMgr.Statuses.ChangeRequests

namespace EnvMgr.Deployments

open Statuses (Build BuildPayload ChangeRequest Deployment DeploymentWebhookPayload)

variable {id : ℕ} {b : Build} {db' : Db} {now : DateTime} {d : Deployment}

/-! ## Names -/

/-- The name is the environment's. -/
def NamesEnvironment (db : Statuses.Db) (tenant_id : ℕ) (slug : String) (id : ℕ) : Prop :=
  ∃ e ∈ db.bookings.estate.environments, e.id = id ∧ e.tenant_id = tenant_id ∧ e.name = slug ∧
    e.deleted_at = none

/-- The two names are the subsystem's. -/
def NamesSubsystem (db : Statuses.Db) (tenant_id : ℕ) (system_slug subsystem_slug : String)
    (id : ℕ) : Prop :=
  ∃ sub ∈ db.reference.subsystems, sub.id = id ∧ sub.tenant_id = tenant_id ∧
    sub.name = subsystem_slug ∧ sub.deleted_at = none ∧
    ∃ system ∈ db.reference.systems, system.id = sub.system_id ∧ system.tenant_id = tenant_id ∧
      system.name = system_slug ∧ system.deleted_at = none

/-- One row and no other. -/
theorem scalar_eq_ok {α : Type} {rows : List α} {found : Option α} {r : α} {e : Raised}
    (h : Lifecycle.scalar_one_or_none rows = .ok found) (hr : get_or_raise found e = .ok r) :
    rows = [r] := by
  simp only [Lifecycle.scalar_one_or_none, bind_eq_ok, raise_if_eq_ok, Except.ok.injEq] at h
  obtain ⟨_, hlength, rfl⟩ := h
  have hhead : rows.head? = some r := get_or_raise_eq_ok.1 hr
  match rows, hlength, hhead with
  | [x], _, hhead => rw [Option.some.inj hhead]
  | _ :: _ :: _, hlength, _ => exact absurd (by simp) hlength

theorem resolve_environment_iff {db : Statuses.Db} {tenant_id : ℕ} {slug : String}
    (h : Statuses._resolve_environment db tenant_id slug = .ok id) (id' : ℕ) :
    NamesEnvironment db tenant_id slug id' ↔ id' = id := by
  simp only [Statuses._resolve_environment, bind_eq_ok] at h
  obtain ⟨found, hfound, env, henv, h⟩ := h
  obtain rfl := Except.ok.inj h
  have hrows := scalar_eq_ok hfound henv
  have hmem : ∀ e, (e ∈ db.bookings.estate.environments ∧ e.tenant_id = tenant_id ∧
      e.name = slug ∧ e.deleted_at = none) ↔ e = env := by
    intro e
    refine Iff.trans ?_ List.mem_singleton
    rw [← hrows, Table.mem_select, decide_eq_true_eq]
  constructor
  · rintro ⟨e, he, rfl, hrest⟩
    rw [(hmem e).1 ⟨he, hrest⟩]
  · rintro rfl
    obtain ⟨he, hrest⟩ := (hmem env).2 rfl
    exact ⟨env, he, rfl, hrest⟩

theorem resolve_subsystem_iff {db : Statuses.Db} {tenant_id : ℕ}
    {system_slug subsystem_slug : String}
    (h : Statuses._resolve_subsystem db tenant_id system_slug subsystem_slug = .ok id) (id' : ℕ) :
    NamesSubsystem db tenant_id system_slug subsystem_slug id' ↔ id' = id := by
  simp only [Statuses._resolve_subsystem, bind_eq_ok] at h
  obtain ⟨found, hfound, system, hsystem, found', hfound', sub, hsub, h⟩ := h
  obtain rfl := Except.ok.inj h
  have hsystems := scalar_eq_ok hfound hsystem
  have hsubs := scalar_eq_ok hfound' hsub
  -- a query that returned one row has the one row that meets its conditions
  have hsystem_iff : ∀ s, (s ∈ db.reference.systems ∧ s.tenant_id = tenant_id ∧
      s.name = system_slug ∧ s.deleted_at = none) ↔ s = system := by
    intro s
    refine Iff.trans ?_ List.mem_singleton
    rw [← hsystems, List.mem_filter, decide_eq_true_eq]
  have hsub_iff : ∀ s, (s ∈ db.reference.subsystems ∧ s.tenant_id = tenant_id ∧
      s.system_id = system.id ∧ s.name = subsystem_slug ∧ s.deleted_at = none) ↔ s = sub := by
    intro s
    refine Iff.trans ?_ List.mem_singleton
    rw [← hsubs, List.mem_filter, decide_eq_true_eq]
  constructor
  · rintro ⟨s, hs, rfl, htenant, hname, hlive, y, hy, hid, hrest⟩
    obtain rfl := (hsystem_iff y).1 ⟨hy, hrest⟩
    rw [(hsub_iff s).1 ⟨hs, htenant, hid.symm, hname, hlive⟩]
  · rintro rfl
    obtain ⟨hs, htenant, hid, hname, hlive⟩ := (hsub_iff sub).2 rfl
    obtain ⟨hy, hrest⟩ := (hsystem_iff system).2 rfl
    exact ⟨sub, hs, rfl, htenant, hname, hlive, system, hy, hid.symm, hrest⟩

/-! ## Builds -/

/-- The columns of `uq_build_tenant_sub_sha_num`. -/
def SameKey (a b : Build) : Prop :=
  a.tenant_id = b.tenant_id ∧ a.subsystem_id = b.subsystem_id ∧ a.git_sha = b.git_sha ∧
    a.build_number = b.build_number

theorem SameKey.symm {a : Build} (h : SameKey a b) : SameKey b a :=
  ⟨h.1.symm, h.2.1.symm, h.2.2.1.symm, h.2.2.2.symm⟩

theorem SameKey.trans {a c : Build} (h : SameKey a b) (h' : SameKey b c) : SameKey a c :=
  ⟨h.1.trans h'.1, h.2.1.trans h'.2.1, h.2.2.1.trans h'.2.2.1, h.2.2.2.trans h'.2.2.2⟩

/-- The same build, whatever else is said of it. -/
def SameBuild (a b : Build) : Prop := b.id = a.id ∧ SameKey b a

theorem SameBuild.refl (b : Build) : SameBuild b b := ⟨rfl, rfl, rfl, rfl, rfl⟩

/-- What `upsert_build` leaves: the builds of before and the one it returns. -/
structure Upserted (builds : Table Build Build.id) (tenant_id subsystem_id : ℕ)
    (data : BuildPayload) (build : Build) (builds' : Table Build Build.id) : Prop where
  mem : build ∈ builds'
  tenant : build.tenant_id = tenant_id
  subsystem : build.subsystem_id = subsystem_id
  git_sha : build.git_sha = data.git_sha
  build_number : build.build_number = data.build_number
  retains : Table.Retains SameBuild builds builds'
  origin : ∀ b ∈ builds', (∃ b₀ ∈ builds, SameBuild b₀ b) ∨
    (b = build ∧ ∀ b₀ ∈ builds, ¬ SameKey b₀ build)

theorem upsert_build_ok {db : Statuses.Db} {tenant_id subsystem_id : ℕ} {data : BuildPayload}
    {release_id : Option ℕ} {build : Build} {builds : Table Build Build.id}
    (h : Statuses.upsert_build db tenant_id subsystem_id data release_id = .ok (build, builds)) :
    Upserted db.builds tenant_id subsystem_id data build builds := by
  simp only [Statuses.upsert_build, bind_eq_ok] at h
  obtain ⟨_, -, _, -, h⟩ := h
  split at h
  -- no live row has the key; the constraint sees the deleted ones too
  · simp only [bind_eq_ok, raise_if_eq_ok] at h
    obtain ⟨_, hfresh, h⟩ := h
    obtain ⟨rfl, rfl⟩ := Prod.mk.inj (Except.ok.inj h)
    refine ⟨Table.mem_insert.2 (Or.inr rfl), rfl, rfl, rfl, rfl,
      Table.retains_insert SameBuild.refl _ _, fun b hb => ?_⟩
    rcases Table.mem_insert.1 hb with hb | rfl
    · exact Or.inl ⟨b, hb, SameBuild.refl b⟩
    · exact Or.inr ⟨rfl, fun b₀ hb₀ hkey => hfresh ⟨b₀, hb₀, hkey⟩⟩
  · rename_i existing hfind
    obtain ⟨rfl, rfl⟩ := Prod.mk.inj (Except.ok.inj h)
    obtain ⟨hmem, hp⟩ := Table.select_one_some hfind
    obtain ⟨⟨htenant, hsubsystem, hsha, hnumber⟩, -⟩ := of_decide_eq_true hp
    refine ⟨Table.mem_update_of_pos hmem (decide_eq_true rfl), htenant, hsubsystem, hsha, hnumber,
      Table.retains_update SameBuild.refl _ _ fun b => ⟨rfl, rfl, rfl, rfl, rfl⟩, fun b hb => ?_⟩
    rcases Table.mem_update_cases hb with ⟨b₀, hb₀, -, rfl⟩ | ⟨hb, -⟩
    · exact Or.inl ⟨b₀, hb₀, rfl, rfl, rfl, rfl, rfl⟩
    · exact Or.inl ⟨b, hb, SameBuild.refl b⟩

/-! ## Deliveries -/

/-- All that a handled delivery can do. -/
inductive Ingested (db : Db) (tenant_id : ℕ) (payload : DeploymentWebhookPayload)
    (now : DateTime) : Db → Prop
  | replayed {d : Deployment}
      (hexisting : Statuses.existing_deployment db.statuses tenant_id payload = some d)
      (hstatus : d.status = payload.status) : Ingested db tenant_id payload now db
  | recorded {subsystem_id environment_id change_request_id : ℕ} {build : Build}
      {builds : Table Build Build.id} {synced : Table ChangeRequest ChangeRequest.id}
      (hallowed : ∀ d ∈ Statuses.existing_deployment db.statuses tenant_id payload,
        d.status ≠ payload.status ∧ payload.status ∈ Statuses.ALLOWED_TRANSITIONS d.status)
      (hsubsystem : ∀ id, NamesSubsystem db.statuses tenant_id payload.system_slug
        payload.subsystem_slug id ↔ id = subsystem_id)
      (henvironment : ∀ id, NamesEnvironment db.statuses tenant_id payload.environment_slug id ↔
        id = environment_id)
      (hbuild : Upserted db.statuses.builds tenant_id subsystem_id payload.build build builds) :
      Ingested db tenant_id payload now { db with
        statuses := { db.statuses with
          builds := builds
          deployments := Statuses.record_deployment db.statuses payload build
            (Statuses.existing_deployment db.statuses tenant_id payload) tenant_id environment_id
            change_request_id
          change_requests := synced }
        versions := record_version db payload build tenant_id environment_id subsystem_id now }

theorem ingested_of_ok {db : Db} {tenant_id raised_by : ℕ} {payload : DeploymentWebhookPayload}
    (h : ingest db tenant_id payload raised_by now = .ok db') :
    Ingested db tenant_id payload now db' := by
  simp only [ingest, bind_eq_ok] at h
  obtain ⟨_, -, h⟩ := h
  split at h
  · rename_i hsame
    obtain rfl := Except.ok.inj h
    obtain ⟨d, hd, hstatus⟩ := Option.map_eq_some_iff.1 hsame
    exact .replayed hd hstatus
  · rename_i hdiff
    simp only [bind_eq_ok, for_each_eq_ok, raise_if_eq_ok] at h
    obtain ⟨_, hallowed, subsystem_id, hsub, environment_id, henv, _, -, ⟨build, builds⟩, hbuild,
      ⟨change_request_id, change_requests⟩, -, synced, -, h⟩ := h
    obtain rfl := Except.ok.inj h
    refine .recorded (fun d hd => ⟨fun hstatus => hdiff ?_, ?_⟩) (resolve_subsystem_iff hsub)
      (resolve_environment_iff henv) (upsert_build_ok hbuild)
    · rw [Option.mem_def.1 hd, Option.map_some, hstatus]
    · exact not_not.1 (hallowed d (by simpa using hd))

/-! ## The state of every run -/

/-- The deployment is of the event. -/
def IsEvent (tenant_id : ℕ) (payload : DeploymentWebhookPayload) (d : Deployment) : Prop :=
  d.tenant_id = tenant_id ∧ d.event_id = payload.event_id
  deriving Decidable

/-- Builds are told apart by their key and deployments by their event, a deployment has its
build, and no version is ahead of the clock. -/
structure Kept (db : Db) : Prop where
  builds : ∀ a ∈ db.statuses.builds, ∀ b ∈ db.statuses.builds, SameKey a b → a = b
  events : ∀ a ∈ db.statuses.deployments, ∀ b ∈ db.statuses.deployments,
    a.tenant_id = b.tenant_id ∧ a.event_id = b.event_id → a = b
  placed : ∀ d ∈ db.statuses.deployments, ∃ b ∈ db.statuses.builds,
    b.id = d.build_id ∧ b.tenant_id = d.tenant_id
  clock : ∀ v ∈ db.versions, v.installed_at ≤ db.clock

theorem existing_some {db : Statuses.Db} {tenant_id : ℕ} {payload : DeploymentWebhookPayload}
    (h : Statuses.existing_deployment db tenant_id payload = some d) :
    d ∈ db.deployments ∧ IsEvent tenant_id payload d := by
  obtain ⟨hd, hp⟩ := Table.select_one_some h
  exact ⟨hd, of_decide_eq_true hp⟩

theorem existing_none {db : Statuses.Db} {tenant_id : ℕ} {payload : DeploymentWebhookPayload}
    (h : Statuses.existing_deployment db tenant_id payload = none) :
    ∀ d ∈ db.deployments, ¬ IsEvent tenant_id payload d :=
  fun _ hd => of_decide_eq_false (Table.select_one_none h hd)

section

variable {db : Db} {tenant_id : ℕ} {payload : DeploymentWebhookPayload} {own : Deployment}

/-- The event has one deployment. -/
theorem only_of_event (h : Kept db) (hown : own ∈ db.statuses.deployments)
    (hevent : IsEvent tenant_id payload own) :
    ∀ d ∈ db.statuses.deployments, IsEvent tenant_id payload d → d = own :=
  fun d hd hd' => h.events d hd own hown
    ⟨hd'.1.trans hevent.1.symm, hd'.2.trans hevent.2.symm⟩

/-- It is the one that is found. -/
theorem existing_of_event (h : Kept db) (hown : own ∈ db.statuses.deployments)
    (hevent : IsEvent tenant_id payload own) :
    Statuses.existing_deployment db.statuses tenant_id payload = some own := by
  cases hexisting : Statuses.existing_deployment db.statuses tenant_id payload with
  | none => exact absurd hevent (existing_none hexisting own hown)
  | some d =>
    obtain ⟨hd, hevent'⟩ := existing_some hexisting
    rw [only_of_event h hown hevent d hd hevent']

end

/-- The deployment as the delivery leaves it. -/
def recorded (payload : DeploymentWebhookPayload) (build : Build) (existing : Option Deployment)
    (tenant_id environment_id change_request_id id : ℕ) : Deployment :=
  match existing with
  | none => payload.row build tenant_id environment_id change_request_id id
  | some d => { d with
      status := payload.status
      completed_at := payload.completed_at.or d.completed_at }

section

variable {db : Db} {tenant_id environment_id change_request_id : ℕ}
  {payload : DeploymentWebhookPayload} {build : Build}

theorem recorded_event :
    IsEvent tenant_id payload (recorded payload build
      (Statuses.existing_deployment db.statuses tenant_id payload) tenant_id environment_id
      change_request_id db.statuses.deployments.next) := by
  cases hexisting : Statuses.existing_deployment db.statuses tenant_id payload with
  | none => exact ⟨rfl, rfl⟩
  | some d => exact (existing_some hexisting).2

theorem recorded_status (existing : Option Deployment) (id : ℕ) :
    (recorded payload build existing tenant_id environment_id change_request_id id).status =
      payload.status := by
  cases existing <;> rfl

/-- **The deployments after a delivery**: those of other events, and its own. -/
theorem mem_record_deployment (h : Kept db) :
    d ∈ Statuses.record_deployment db.statuses payload build
        (Statuses.existing_deployment db.statuses tenant_id payload) tenant_id environment_id
        change_request_id ↔
      (d ∈ db.statuses.deployments ∧ ¬ IsEvent tenant_id payload d) ∨
        d = recorded payload build (Statuses.existing_deployment db.statuses tenant_id payload)
          tenant_id environment_id change_request_id db.statuses.deployments.next := by
  cases hexisting : Statuses.existing_deployment db.statuses tenant_id payload with
  | none =>
    have hnone := existing_none hexisting
    constructor
    · intro hd
      rcases Table.mem_insert.1 hd with hd | rfl
      · exact Or.inl ⟨hd, hnone d hd⟩
      · exact Or.inr rfl
    · rintro (⟨hd, -⟩ | rfl)
      · exact Table.mem_insert.2 (Or.inl hd)
      · exact Table.mem_insert.2 (Or.inr rfl)
  -- the update is of one id, which is the one row of the event
  | some own =>
    obtain ⟨hown, hevent⟩ := existing_some hexisting
    constructor
    · intro hd
      rcases Table.mem_update_cases hd with ⟨d₀, hd₀, hid, rfl⟩ | ⟨hd, hid⟩
      · rw [Table.eq_of_key_eq hd₀ hown (of_decide_eq_true hid)]
        exact Or.inr rfl
      · refine Or.inl ⟨hd, fun he => of_decide_eq_false hid ?_⟩
        rw [h.events d hd own hown ⟨he.1.trans hevent.1.symm, he.2.trans hevent.2.symm⟩]
    · rintro (⟨hd, hother⟩ | rfl)
      · refine Table.mem_update_of_neg hd (decide_eq_false fun hid => hother ?_)
        rw [Table.eq_of_key_eq hd hown hid]
        exact hevent
      · exact Table.mem_update_of_pos hown (decide_eq_true rfl)

/-- A build after a delivery is told apart by its key. -/
theorem Upserted.unique {subsystem_id : ℕ} {builds' : Table Build Build.id}
    (hup : Upserted db.statuses.builds tenant_id subsystem_id payload.build build builds')
    (h : Kept db) : ∀ a ∈ builds', ∀ b ∈ builds', SameKey a b → a = b := by
  intro a ha b hb hkey
  rcases hup.origin a ha with ⟨a₀, ha₀, hida, hkeya⟩ | ⟨rfl, hfresh⟩
  · rcases hup.origin b hb with ⟨b₀, hb₀, hidb, hkeyb⟩ | ⟨rfl, hfresh⟩
    · have heq := h.builds a₀ ha₀ b₀ hb₀ (hkeya.symm.trans (hkey.trans hkeyb))
      exact Table.eq_of_key_eq ha hb (by rw [hida, hidb, heq])
    · exact absurd (hkeya.symm.trans hkey) (hfresh a₀ ha₀)
  · rcases hup.origin b hb with ⟨b₀, hb₀, hidb, hkeyb⟩ | ⟨rfl, -⟩
    · exact absurd (hkeyb.symm.trans hkey.symm) (hfresh b₀ hb₀)
    · rfl

theorem kept_ingested (h : Kept db) (hnow : now = db.clock)
    (hin : Ingested db tenant_id payload now db') : Kept db' := by
  cases hin with
  | replayed => exact h
  | @recorded subsystem_id environment_id change_request_id build builds synced hallowed hsubsystem
      henvironment hbuild =>
    refine ⟨hbuild.unique h, fun a ha b hb hab => ?_, fun d hd => ?_, fun v hv => ?_⟩
    · rcases (mem_record_deployment h).1 ha with ⟨ha, hother⟩ | rfl
      · rcases (mem_record_deployment h).1 hb with ⟨hb, -⟩ | rfl
        · exact h.events a ha b hb hab
        · exact absurd ⟨hab.1.trans recorded_event.1, hab.2.trans recorded_event.2⟩ hother
      · rcases (mem_record_deployment h).1 hb with ⟨hb, hother⟩ | rfl
        · exact absurd ⟨hab.1.symm.trans recorded_event.1, hab.2.symm.trans recorded_event.2⟩ hother
        · rfl
    -- builds are only added, so every deployment still has its own
    · have hold : ∀ d ∈ db.statuses.deployments, ∃ b ∈ builds, b.id = d.build_id ∧
          b.tenant_id = d.tenant_id := by
        intro d hd
        obtain ⟨b, hb, hid, htenant⟩ := h.placed d hd
        obtain ⟨b', hb', hid', hkey⟩ := hbuild.retains b hb
        exact ⟨b', hb', hid'.trans hid, hkey.1.trans htenant⟩
      rcases (mem_record_deployment h).1 hd with ⟨hd, -⟩ | rfl
      · exact hold d hd
      · cases hexisting : Statuses.existing_deployment db.statuses tenant_id payload with
        | none => exact ⟨build, hbuild.mem, rfl, hbuild.tenant⟩
        | some own => exact hold own (existing_some hexisting).1
    · change v ∈ record_version db payload build tenant_id environment_id subsystem_id now at hv
      unfold record_version at hv
      split at hv
      · rcases Table.mem_insert.1 hv with hv | rfl
        · exact h.clock v hv
        · exact hnow.le
      · exact h.clock v hv

end

theorem kept_wait {db : Db} (h : Kept db) (elapsed : ℕ) : Kept (db.wait elapsed) :=
  ⟨h.builds, h.events, h.placed, fun v hv =>
    (h.clock v hv).trans (le_add_of_nonneg_right (Int.natCast_nonneg elapsed))⟩

theorem kept_step {db : Db} (h : Kept db) (e : Event) : Kept (step db e) := by
  cases e with
  | deliver delivery =>
    have hwait := kept_wait h delivery.elapsed
    exact commit_or_rollback_keeps hwait fun _ hok => kept_ingested hwait rfl (ingested_of_ok hok)
  | elsewhere rows => exact ⟨h.builds, h.events, h.placed, h.clock⟩

theorem kept_fresh (rows : Statuses.Db) (clock : DateTime) : Kept (Db.fresh rows clock) :=
  ⟨fun a ha => absurd ha (Table.not_mem_empty a), fun a ha => absurd ha (Table.not_mem_empty a),
    fun d hd => absurd hd (Table.not_mem_empty d), fun v hv => absurd hv (Table.not_mem_empty v)⟩

/-! ## The law and its condition -/

/-- The row names the environment of the deployment, and the build and the subsystem that
the deployment refers to. -/
structure Names (builds : Table Build Build.id) (v : EnvironmentSubSystemVersion)
    (d : Deployment) : Prop where
  environment : v.environment_id = d.environment_id
  build : v.build_fk_id = some d.build_id
  subsystem : ∃ b ∈ builds, b.id = d.build_id ∧ v.subsystem_id = b.subsystem_id ∧
    v.build_identifier = prefix_of 12 b.git_sha

/-- Every version row that is new in the second state names the deployment of the event,
brought to `success`. -/
def Tells (db db' : Db) (tenant_id : ℕ) (payload : DeploymentWebhookPayload) : Prop :=
  ∀ v ∈ db'.versions, v ∉ db.versions →
    ∃ d ∈ db'.statuses.deployments, IsEvent tenant_id payload d ∧ d.status = "success" ∧
      Names db'.statuses.builds v d

/-- So does every row that the delivery writes. -/
def Truthful (db : Db) : Event → Prop
  | .elsewhere _ => True
  | .deliver delivery =>
    Tells db (step db (.deliver delivery)) delivery.tenant_id delivery.payload

/-- The delivery is handled. -/
def Accepted (db : Db) (delivery : Delivery) : Prop := ∃ db', handle db delivery = .ok db'

/-- The delivery names the environment of the deployment, and its build. -/
structure NamesItsOwn (db : Statuses.Db) (tenant_id : ℕ) (payload : DeploymentWebhookPayload)
    (d : Deployment) : Prop where
  environment : NamesEnvironment db tenant_id payload.environment_slug d.environment_id
  build : ∃ b ∈ db.builds, b.id = d.build_id ∧
    NamesSubsystem db tenant_id payload.system_slug payload.subsystem_slug b.subsystem_id ∧
    b.git_sha = payload.build.git_sha ∧ b.build_number = payload.build.build_number

/-- What brings a recorded deployment to `success` names what it was recorded with. -/
def SameTarget (db : Statuses.Db) (tenant_id : ℕ) (payload : DeploymentWebhookPayload) : Prop :=
  payload.status = "success" → ∀ d ∈ db.deployments, IsEvent tenant_id payload d →
    d.status ≠ "success" → NamesItsOwn db tenant_id payload d

def Consistent (db : Db) : Event → Prop
  | .elsewhere _ => True
  | .deliver delivery => Accepted db delivery →
    SameTarget db.statuses delivery.tenant_id delivery.payload

section

variable {db : Db} {tenant_id subsystem_id environment_id : ℕ}
  {payload : DeploymentWebhookPayload} {build : Build} {builds : Table Build Build.id}

/-- Of the builds of before, the one with the key is the one that was found. -/
theorem Upserted.id_iff
    (hbuild : Upserted db.statuses.builds tenant_id subsystem_id payload.build build builds)
    (h : Kept db) (hb : b ∈ db.statuses.builds) (htenant : b.tenant_id = tenant_id) :
    build.id = b.id ↔ b.subsystem_id = subsystem_id ∧ b.git_sha = payload.build.git_sha ∧
      b.build_number = payload.build.build_number := by
  constructor
  · intro hsame
    obtain ⟨b', hb', hid, hkey⟩ := hbuild.retains b hb
    obtain rfl : b' = build := Table.eq_of_key_eq hb' hbuild.mem (hid.trans hsame.symm)
    refine ⟨?_, ?_, ?_⟩
    · rw [← hkey.2.1, hbuild.subsystem]
    · rw [← hkey.2.2.1, hbuild.git_sha]
    · rw [← hkey.2.2.2, hbuild.build_number]
  · rintro ⟨hsub, hsha, hnumber⟩
    have hkey : SameKey b build :=
      ⟨htenant.trans hbuild.tenant.symm, hsub.trans hbuild.subsystem.symm,
        hsha.trans hbuild.git_sha.symm, hnumber.trans hbuild.build_number.symm⟩
    rcases hbuild.origin build hbuild.mem with ⟨b₀, hb₀, hid₀, hkey₀⟩ | ⟨-, hfresh⟩
    · rw [hid₀, h.builds b₀ hb₀ b hb (hkey₀.symm.trans hkey.symm)]
    · exact absurd hkey (hfresh b hb)

/-- The delivery names the deployment's own exactly if the look-ups find them. -/
theorem namesItsOwn_iff (h : Kept db) (hd : d ∈ db.statuses.deployments)
    (htenant : d.tenant_id = tenant_id)
    (hsubsystem : ∀ id, NamesSubsystem db.statuses tenant_id payload.system_slug
      payload.subsystem_slug id ↔ id = subsystem_id)
    (henvironment : ∀ id, NamesEnvironment db.statuses tenant_id payload.environment_slug id ↔
      id = environment_id)
    (hbuild : Upserted db.statuses.builds tenant_id subsystem_id payload.build build builds) :
    NamesItsOwn db.statuses tenant_id payload d ↔
      environment_id = d.environment_id ∧ build.id = d.build_id := by
  obtain ⟨own, hown, hid, howner⟩ := h.placed d hd
  have hfound := hbuild.id_iff h hown (howner.trans htenant)
  constructor
  · rintro ⟨henv, b, hb, hbid, hsub, hrest⟩
    obtain rfl : b = own := Table.eq_of_key_eq hb hown (hbid.trans hid.symm)
    exact ⟨((henvironment _).1 henv).symm, (hfound.2 ⟨(hsubsystem _).1 hsub, hrest⟩).trans hid⟩
  · rintro ⟨henv, hsame⟩
    obtain ⟨hsub, hrest⟩ := hfound.1 (hsame.trans hid.symm)
    exact ⟨(henvironment _).2 henv.symm, own, hown, hid, (hsubsystem _).2 hsub, hrest⟩

/-- The row of a delivery names the deployment it leaves exactly if the look-ups found the
deployment's own. -/
theorem names_recorded_iff (existing : Option Deployment) {change_request_id version_id : ℕ}
    (hbuild : Upserted db.statuses.builds tenant_id subsystem_id payload.build build builds) :
    Names builds (version_row payload build tenant_id environment_id subsystem_id now version_id)
        (recorded payload build existing tenant_id environment_id change_request_id id) ↔
      ∀ d ∈ existing, environment_id = d.environment_id ∧ build.id = d.build_id := by
  have hfound : ∃ b ∈ builds, b.id = build.id ∧ subsystem_id = b.subsystem_id ∧
      prefix_of 12 payload.build.git_sha = prefix_of 12 b.git_sha :=
    ⟨build, hbuild.mem, rfl, hbuild.subsystem.symm, by rw [hbuild.git_sha]⟩
  cases existing with
  | none => exact iff_of_true ⟨rfl, rfl, hfound⟩ nofun
  | some d =>
    constructor
    · rintro ⟨henv, hid, -⟩ d' hd'
      obtain rfl := Option.some.inj hd'
      exact ⟨henv, Option.some.inj hid⟩
    · intro hsame
      obtain ⟨henv, hid⟩ := hsame d rfl
      obtain ⟨b, hb, hbid, hrest⟩ := hfound
      exact ⟨henv, congrArg some hid, b, hb, hbid.trans hid, hrest⟩

/-- The one new row has one deployment to name. -/
theorem tells_new_iff (h : Kept db) {change_request_id : ℕ} (hsuccess : payload.status = "success")
    (hversions : db'.versions = record_version db payload build tenant_id environment_id
      subsystem_id now)
    (hdeployments : db'.statuses.deployments = Statuses.record_deployment db.statuses payload build
      (Statuses.existing_deployment db.statuses tenant_id payload) tenant_id environment_id
      change_request_id) :
    Tells db db' tenant_id payload ↔ Names db'.statuses.builds
      (version_row payload build tenant_id environment_id subsystem_id now db.versions.next)
      (recorded payload build (Statuses.existing_deployment db.statuses tenant_id payload) tenant_id
        environment_id change_request_id db.statuses.deployments.next) := by
  have hmem : ∀ v, v ∈ db'.versions ↔ v ∈ db.versions ∨
      v = version_row payload build tenant_id environment_id subsystem_id now db.versions.next := by
    intro v
    rw [hversions, record_version, if_pos hsuccess, Table.mem_insert]
  -- the key is new, so this is the only row that the delivery has to answer for
  constructor
  · intro htells
    have hfresh : version_row payload build tenant_id environment_id subsystem_id now
        db.versions.next ∉ db.versions := fun hold => (Table.key_lt_next hold).ne rfl
    obtain ⟨d, hd, hevent, -, hnames⟩ := htells _ ((hmem _).2 (Or.inr rfl)) hfresh
    rw [hdeployments, mem_record_deployment h] at hd
    rcases hd with ⟨-, hother⟩ | rfl
    · exact absurd hevent hother
    · exact hnames
  · intro hnames v hv hnew
    obtain rfl := ((hmem v).1 hv).resolve_left hnew
    refine ⟨_, ?_, recorded_event, (recorded_status _ _).trans hsuccess, hnames⟩
    rw [hdeployments, mem_record_deployment h]
    exact Or.inr rfl

/-- **What a handled delivery tells.** -/
theorem tells_iff (h : Kept db) (hin : Ingested db tenant_id payload now db') :
    Tells db db' tenant_id payload ↔ SameTarget db.statuses tenant_id payload := by
  cases hin with
  | @replayed own hexisting hstatus =>
    refine iff_of_true (fun v hv hnew => absurd hv hnew) fun hsuccess d hd hevent hother => ?_
    obtain rfl := Option.some.inj ((existing_of_event h hd hevent).symm.trans hexisting)
    rw [hstatus] at hother
    exact absurd hsuccess hother
  | @recorded subsystem_id environment_id change_request_id build builds synced hallowed hsubsystem
      henvironment hbuild =>
    -- only a success writes a row
    by_cases hsuccess : payload.status = "success"
    · refine (tells_new_iff h hsuccess rfl rfl).trans ((names_recorded_iff _ hbuild).trans ?_)
      constructor
      · intro hown _ d hd hevent hother
        exact (namesItsOwn_iff h hd hevent.1 hsubsystem henvironment hbuild).2
          (hown d (existing_of_event h hd hevent))
      · intro hsame own hown
        obtain ⟨hmem, hevent⟩ := existing_some hown
        have hother : own.status ≠ "success" :=
          fun heq => (hallowed own hown).1 (heq.trans hsuccess.symm)
        exact (namesItsOwn_iff h hmem hevent.1 hsubsystem henvironment hbuild).1
          (hsame hsuccess own hmem hevent hother)
    · have hsame : record_version db payload build tenant_id environment_id subsystem_id now =
          db.versions := if_neg hsuccess
      refine iff_of_true (fun v hv hnew => absurd ?_ hnew) fun hyes => absurd hyes hsuccess
      rw [← hsame]
      exact hv

end

theorem truthful_iff {db : Db} (h : Kept db) (e : Event) : Truthful db e ↔ Consistent db e := by
  cases e with
  | elsewhere rows => exact Iff.rfl
  | deliver delivery =>
    rw [Truthful, Consistent, step]
    cases hhandle : handle db delivery with
    | error raised =>
      rw [rollback_error]
      refine iff_of_true (fun v hv hnew => absurd hv hnew) ?_
      rintro ⟨db', hok⟩
      cases hhandle.symm.trans hok
    | ok db' =>
      rw [commit_ok]
      refine (tells_iff (kept_wait h delivery.elapsed) (ingested_of_ok hhandle)).trans ?_
      exact ⟨fun hsame _ => hsame, fun hsame => hsame ⟨db', hhandle⟩⟩

/-- **When versions are truthful.** Whatever is delivered, in whatever order and however
often: every version row names the deployment it was written for, if and only if every
delivery that brings a recorded deployment to `success` names what it was recorded with. -/
theorem truthful_along_iff (rows : Statuses.Db) (clock : DateTime) (events : List Event) :
    Runs.Along step Truthful (Db.fresh rows clock) events ↔
      Runs.Along step Consistent (Db.fresh rows clock) events := by
  have hwf : ∀ db e, Kept db → Kept (step db e) := fun _ e h => kept_step h e
  have hlaw : ∀ db e, Kept db → (Truthful db e ↔ Consistent db e) := fun _ e h => truthful_iff h e
  exact Runs.along_congr hwf hlaw (kept_fresh rows clock) events

namespace Sample

/-- A tenant with two environments and one service. -/
def rows : Statuses.Db where
  templates := Statuses.seed_default_lifecycles Table.empty 1
  booking_types := Table.empty
  bookings := Bookings.Db.fresh
    (Table.empty.insert_all
      [Decommission.new_environment 1 ⟨"staging", .active, none, none, none⟩,
        Decommission.new_environment 1 ⟨"production", .active, none, none, none⟩])
    Bookings.Sample.reference
  releases := Table.empty
  change_requests := Table.empty
  builds := Table.empty
  deployments := Table.empty
  reference := ⟨[], [⟨1, 1, "shop", none⟩], [⟨1, 1, 1, "checkout", none⟩], [], []⟩

/-- A delivery for the service, a minute after the one before. -/
def delivery (event_id environment_slug status git_sha : String) (deployed_at : DateTime) :
    Event :=
  .deliver ⟨1, 1, ⟨event_id, "shop", "checkout", environment_slug, status, deployed_at, none, none,
    none, ⟨git_sha, "", Dict.empty⟩, Dict.empty⟩, 60000000⟩

def db : Db := Db.fresh rows 0

/-- The event starts in the one environment and succeeds in the other. -/
def moved : List Event :=
  [delivery "e1" "staging" "pending" "4f2a" 0, delivery "e1" "production" "success" "4f2a" 0]

end Sample

/-- The version is of `production`, the deployment of `staging`. -/
theorem moved_is_not_truthful : ¬ Runs.Along step Truthful Sample.db Sample.moved := by
  rintro ⟨-, h, -⟩
  have hnew : ∃ v ∈ (Runs.run step Sample.db Sample.moved).versions,
      v ∉ (step Sample.db (Sample.delivery "e1" "staging" "pending" "4f2a" 0)).versions ∧
      ∀ d ∈ (Runs.run step Sample.db Sample.moved).statuses.deployments,
        v.environment_id ≠ d.environment_id := by
    decide +kernel
  obtain ⟨v, hv, hfresh, hother⟩ := hnew
  obtain ⟨d, hd, -, -, hnames⟩ := h v hv hfresh
  exact hother d hd hnames.environment

end EnvMgr.Deployments

/-
Whether the version shown is the one deployed last.

A deployment carries the instant it was made at; a version row carries the instant it was
written at, and the newest row is shown. The two orders part when deliveries arrive in
another order than their deployments, and no row is taken back when a deployment is
rolled back.
-/
import EnvMgr.Deployments.Truthful

namespace EnvMgr.Deployments

open Statuses (Build Deployment DeploymentWebhookPayload)

variable {now : DateTime}

/-! ## The latest of a set of deployments -/

/-- Of what was shipped, by instant and build, `(at_, build_id)` is the latest or one of them. -/
def Latest (shipped : DateTime → ℕ → Prop) (at_ : DateTime) (build_id : ℕ) : Prop :=
  shipped at_ build_id ∧ ∀ at' build', shipped at' build' → at' ≤ at_

/-- With one more shipped, its build is a latest one exactly if nothing is later, or the
latest that is has the same build. -/
theorem latest_ship_iff {shipped : DateTime → ℕ → Prop} (at₀ : DateTime) (build₀ : ℕ) :
    (∃ at_, Latest (fun a b => shipped a b ∨ (a = at₀ ∧ b = build₀)) at_ build₀) ↔
      (∀ at' build', shipped at' build' → at' ≤ at₀) ∨ ∃ at', Latest shipped at' build₀ := by
  constructor
  · rintro ⟨at_, hat, hlatest⟩
    rcases hat with hat | ⟨rfl, -⟩
    · exact Or.inr ⟨at_, hat, fun at' build' h => hlatest at' build' (Or.inl h)⟩
    · exact Or.inl fun at' build' h => hlatest at' build' (Or.inl h)
  · have hnew : (∀ at' build', shipped at' build' → at' ≤ at₀) →
        Latest (fun a b => shipped a b ∨ (a = at₀ ∧ b = build₀)) at₀ build₀ := by
      intro hle
      refine ⟨Or.inr ⟨rfl, rfl⟩, ?_⟩
      rintro at' build' (h | ⟨rfl, -⟩)
      · exact hle at' build' h
      · exact le_rfl
    rintro (hle | ⟨at', hat', hlatest⟩)
    · exact ⟨at₀, hnew hle⟩
    -- of the two latest ones the later is the latest of all, and both are of the build
    · rcases le_total at₀ at' with hle | hle
      · refine ⟨at', Or.inl hat', ?_⟩
        rintro at'' build'' (h | ⟨rfl, -⟩)
        · exact hlatest at'' build'' h
        · exact hle
      · exact ⟨at₀, hnew fun at'' build'' h => (hlatest at'' build'' h).trans hle⟩

/-! ## The property -/

section

variable (builds : Table Build Build.id) (deployments : Deployment → Prop)
  (tenant_id environment_id subsystem_id : ℕ)

/-- Among the deployments, a successful one to the pair, by its instant and its build. -/
def Shipped (at_ : DateTime) (build_id : ℕ) : Prop :=
  ∃ d, deployments d ∧ d.status = "success" ∧ d.tenant_id = tenant_id ∧
    d.environment_id = environment_id ∧ d.deployed_at = at_ ∧ d.build_id = build_id ∧
    ∃ b ∈ builds, b.id = build_id ∧ b.subsystem_id = subsystem_id

end

def Ships (db : Db) : ℕ → ℕ → ℕ → DateTime → ℕ → Prop :=
  Shipped db.statuses.builds (· ∈ db.statuses.deployments)

/-- What is reported as current of the pair is of its latest deployment that is still
successful, and nothing is reported if there is none. -/
structure Reports (db : Db) (tenant_id environment_id subsystem_id : ℕ) : Prop where
  latest : ∀ v ∈ current_versions db environment_id tenant_id, v.subsystem_id = subsystem_id →
    ∃ at_ build_id, Latest (Ships db tenant_id environment_id subsystem_id) at_ build_id ∧
      v.build_fk_id = some build_id
  shown : ∀ at_ build_id, Ships db tenant_id environment_id subsystem_id at_ build_id →
    ∃ v ∈ current_versions db environment_id tenant_id, v.subsystem_id = subsystem_id

def Current (db : Db) : Prop :=
  ∀ tenant_id environment_id subsystem_id, Reports db tenant_id environment_id subsystem_id

/-- These are the rows `list_versions` returns. -/
theorem list_versions_current {db : Db} {env_id tenant_id total : ℕ}
    {rows : List EnvironmentSubSystemVersion}
    (h : list_versions db env_id tenant_id true none = .ok (rows, total)) :
    rows = current_versions db env_id tenant_id := by
  simp only [list_versions, bind_eq_ok] at h
  obtain ⟨_, -, h⟩ := h
  exact (Prod.mk.inj (Except.ok.inj h)).1.symm

/-- The row is of the pair. -/
def IsOf (v : EnvironmentSubSystemVersion) (tenant_id environment_id subsystem_id : ℕ) : Prop :=
  v.tenant_id = tenant_id ∧ v.environment_id = environment_id ∧ v.subsystem_id = subsystem_id
  deriving Decidable

/-- No row of the pair was written after it. -/
def Newest (db : Db) (tenant_id environment_id subsystem_id : ℕ)
    (v : EnvironmentSubSystemVersion) : Prop :=
  v ∈ db.versions ∧ IsOf v tenant_id environment_id subsystem_id ∧
    ∀ w ∈ db.versions, IsOf w tenant_id environment_id subsystem_id → w.rank ≤ v.rank

section

variable {db : Db} {tenant_id environment_id subsystem_id : ℕ} {v w : EnvironmentSubSystemVersion}

theorem newest_iff :
    Newest db tenant_id environment_id subsystem_id v ↔
      v ∈ current_versions db environment_id tenant_id ∧ v.subsystem_id = subsystem_id := by
  simp only [mem_current_versions, history, Table.mem_select, decide_eq_true_eq]
  constructor
  · rintro ⟨hv, ⟨htenant, henv, rfl⟩, hnewest⟩
    refine ⟨⟨⟨hv, henv, htenant⟩, ?_⟩, rfl⟩
    rintro w ⟨hw, henv', htenant'⟩ hsub
    exact hnewest w hw ⟨htenant', henv', hsub⟩
  · rintro ⟨⟨⟨hv, henv, htenant⟩, hnewest⟩, rfl⟩
    refine ⟨hv, ⟨htenant, henv, rfl⟩, ?_⟩
    rintro w hw ⟨htenant', henv', hsub⟩
    exact hnewest w ⟨hw, henv', htenant'⟩ hsub

theorem newest_unique (hv : Newest db tenant_id environment_id subsystem_id v)
    (hw : Newest db tenant_id environment_id subsystem_id w) : v = w := by
  have hrank : v.rank = w.rank := le_antisymm (hw.2.2 v hv.1 hv.2.1) (hv.2.2 w hw.1 hw.2.1)
  exact Table.eq_of_key_eq hv.1 hw.1 (congrArg Prod.snd (toLex.injective hrank))

theorem reports_iff :
    Reports db tenant_id environment_id subsystem_id ↔
      (∀ v, Newest db tenant_id environment_id subsystem_id v →
        ∃ at_ build_id, Latest (Ships db tenant_id environment_id subsystem_id) at_ build_id ∧
          v.build_fk_id = some build_id) ∧
      ∀ at_ build_id, Ships db tenant_id environment_id subsystem_id at_ build_id →
        ∃ v, Newest db tenant_id environment_id subsystem_id v := by
  simp only [newest_iff]
  constructor
  · rintro ⟨hlatest, hshown⟩
    exact ⟨fun v hv => hlatest v hv.1 hv.2, hshown⟩
  · rintro ⟨hlatest, hshown⟩
    exact ⟨fun v hv hsub => hlatest v ⟨hv, hsub⟩, hshown⟩

/-- Where the pair has a row, only the build of its newest one matters. -/
theorem reports_of_newest (hv : Newest db tenant_id environment_id subsystem_id v) :
    Reports db tenant_id environment_id subsystem_id ↔
      ∃ at_ build_id, Latest (Ships db tenant_id environment_id subsystem_id) at_ build_id ∧
        v.build_fk_id = some build_id := by
  rw [reports_iff]
  constructor
  · rintro ⟨hlatest, -⟩
    exact hlatest v hv
  · intro hlatest
    refine ⟨fun w hw => ?_, fun _ _ _ => ⟨v, hv⟩⟩
    rw [newest_unique hw hv]
    exact hlatest

end

/-! ## What a delivery changes of it -/

/-- The instant of the deployment: the one it was recorded with, or the delivery's. -/
def instant (db : Statuses.Db) (tenant_id : ℕ) (payload : DeploymentWebhookPayload) : DateTime :=
  ((Statuses.existing_deployment db tenant_id payload).map Deployment.deployed_at).getD
    payload.deployed_at

/-- The deployments of other events. -/
def Others (db : Db) (tenant_id : ℕ) (payload : DeploymentWebhookPayload) (d : Deployment) : Prop :=
  d ∈ db.statuses.deployments ∧ ¬ IsEvent tenant_id payload d

section

variable {db : Db} {tenant_id subsystem_id environment_id change_request_id : ℕ}
  {payload : DeploymentWebhookPayload} {build : Build} {builds : Table Build Build.id}
  {t e s : ℕ} {at_ : DateTime} {build_id : ℕ}

/-- What was shipped before is of the same subsystem after. -/
theorem shipped_upserted_iff (h : Kept db) {among : Deployment → Prop}
    (hamong : ∀ d, among d → d ∈ db.statuses.deployments)
    (hbuild : Upserted db.statuses.builds tenant_id subsystem_id payload.build build builds) :
    Shipped builds among t e s at_ build_id ↔
      Shipped db.statuses.builds among t e s at_ build_id := by
  constructor
  · rintro ⟨d, hd, hstatus, htenant, henv, hat, rfl, b, hb, hid, hsub⟩
    obtain ⟨own, hown, hownid, -⟩ := h.placed d (hamong d hd)
    obtain ⟨own', hown', hid', hkey⟩ := hbuild.retains own hown
    obtain rfl : own' = b :=
      Table.eq_of_key_eq hown' hb (hid'.trans (hownid.trans hid.symm))
    exact ⟨d, hd, hstatus, htenant, henv, hat, rfl, own, hown, hownid, hkey.2.1.symm.trans hsub⟩
  · rintro ⟨d, hd, hstatus, htenant, henv, hat, rfl, b, hb, hid, hsub⟩
    obtain ⟨b', hb', hid', hkey⟩ := hbuild.retains b hb
    exact ⟨d, hd, hstatus, htenant, henv, hat, rfl, b', hb', hid'.trans hid, hkey.2.1.trans hsub⟩

/-- **What is shipped after a delivery**: what others shipped, and what it shipped. -/
theorem ships_recorded_iff (h : Kept db) {db' : Db} (hbuilds : db'.statuses.builds = builds)
    (hdeployments : db'.statuses.deployments = Statuses.record_deployment db.statuses payload build
      (Statuses.existing_deployment db.statuses tenant_id payload) tenant_id environment_id
      change_request_id)
    (hbuild : Upserted db.statuses.builds tenant_id subsystem_id payload.build build builds) :
    Ships db' t e s at_ build_id ↔
      Shipped db.statuses.builds (Others db tenant_id payload) t e s at_ build_id ∨
      Shipped builds (· = recorded payload build
        (Statuses.existing_deployment db.statuses tenant_id payload) tenant_id environment_id
        change_request_id db.statuses.deployments.next) t e s at_ build_id := by
  rw [← shipped_upserted_iff h (fun d hd => hd.1) hbuild, Ships, hbuilds]
  simp only [Shipped, hdeployments, mem_record_deployment h]
  constructor
  · rintro ⟨d, hd | hd, hrest⟩
    · exact Or.inl ⟨d, hd, hrest⟩
    · exact Or.inr ⟨d, hd, hrest⟩
  · rintro (⟨d, hd, hrest⟩ | ⟨d, hd, hrest⟩)
    · exact ⟨d, Or.inl hd, hrest⟩
    · exact ⟨d, Or.inr hd, hrest⟩

/-- Others shipped all there is, if the event shipped nothing. -/
theorem shipped_others_iff (hnone : ∀ d ∈ db.statuses.deployments,
      IsEvent tenant_id payload d → d.status ≠ "success") :
    Shipped db.statuses.builds (Others db tenant_id payload) t e s at_ build_id ↔
      Ships db t e s at_ build_id := by
  constructor
  · rintro ⟨d, hd, hrest⟩
    exact ⟨d, hd.1, hrest⟩
  · rintro ⟨d, hd, hstatus, hrest⟩
    exact ⟨d, ⟨hd, fun hevent => hnone d hd hevent hstatus⟩, hstatus, hrest⟩

/-- What the delivery ships, if it names its own. -/
theorem shipped_recorded_iff (hsuccess : payload.status = "success")
    (hown : ∀ d ∈ Statuses.existing_deployment db.statuses tenant_id payload,
      environment_id = d.environment_id ∧ build.id = d.build_id)
    (hbuild : Upserted db.statuses.builds tenant_id subsystem_id payload.build build builds) :
    Shipped builds (· = recorded payload build
        (Statuses.existing_deployment db.statuses tenant_id payload) tenant_id environment_id
        change_request_id db.statuses.deployments.next) t e s at_ build_id ↔
      (t = tenant_id ∧ e = environment_id ∧ s = subsystem_id) ∧
        at_ = instant db.statuses tenant_id payload ∧ build_id = build.id := by
  -- recorded before or new, the row has the parts of the delivery
  have hparts : ∀ d, d = recorded payload build
        (Statuses.existing_deployment db.statuses tenant_id payload) tenant_id environment_id
        change_request_id db.statuses.deployments.next →
      d.status = "success" ∧ d.tenant_id = tenant_id ∧ d.environment_id = environment_id ∧
        d.deployed_at = instant db.statuses tenant_id payload ∧ d.build_id = build.id := by
    rintro d rfl
    refine ⟨(recorded_status _ _).trans hsuccess, recorded_event.1, ?_⟩
    rw [instant]
    cases hexisting : Statuses.existing_deployment db.statuses tenant_id payload with
    | none => exact ⟨rfl, rfl, rfl⟩
    | some d =>
      obtain ⟨henv, hid⟩ := hown d hexisting
      exact ⟨henv.symm, rfl, hid.symm⟩
  constructor
  · rintro ⟨d, hd, -, rfl, rfl, rfl, rfl, b, hb, hid, rfl⟩
    obtain ⟨-, htenant, henv, hat, hbuildid⟩ := hparts d hd
    rw [Table.eq_of_key_eq hb hbuild.mem (hid.trans hbuildid)]
    exact ⟨⟨htenant, henv, hbuild.subsystem⟩, hat, hbuildid⟩
  · rintro ⟨⟨rfl, rfl, rfl⟩, rfl, rfl⟩
    obtain ⟨hstatus, htenant, henv, hat, hbuildid⟩ := hparts _ rfl
    exact ⟨_, rfl, hstatus, htenant, henv, hat, hbuildid, build, hbuild.mem, rfl, hbuild.subsystem⟩

/-- The row written last is the newest of its pair, and the newest rows of the others stay. -/
theorem newest_recorded_iff (h : Kept db) (hnow : now = db.clock) {db' : Db}
    (hsuccess : payload.status = "success")
    (hversions : db'.versions = record_version db payload build tenant_id environment_id
      subsystem_id now) {v : EnvironmentSubSystemVersion} :
    Newest db' t e s v ↔
      if t = tenant_id ∧ e = environment_id ∧ s = subsystem_id then
        v = version_row payload build tenant_id environment_id subsystem_id now db.versions.next
      else Newest db t e s v := by
  have hmem : ∀ w, w ∈ db'.versions ↔ w ∈ db.versions ∨
      w = version_row payload build tenant_id environment_id subsystem_id now db.versions.next := by
    intro w
    rw [hversions, record_version, if_pos hsuccess, Table.mem_insert]
  -- the clock never goes back; where it stands still the id decides
  have hrank : ∀ w ∈ db.versions, w.rank <
      (version_row payload build tenant_id environment_id subsystem_id now
        db.versions.next).rank := by
    intro w hw
    rw [EnvironmentSubSystemVersion.rank, EnvironmentSubSystemVersion.rank, Prod.Lex.toLex_lt_toLex]
    rcases (h.clock w hw).lt_or_eq with hlt | heq
    · exact Or.inl (hlt.trans_eq hnow.symm)
    · exact Or.inr ⟨heq.trans hnow.symm, Table.key_lt_next hw⟩
  split_ifs with hpair
  · obtain ⟨rfl, rfl, rfl⟩ := hpair
    constructor
    · rintro ⟨hv, -, hnewest⟩
      rcases (hmem v).1 hv with hv | rfl
      · have hle := hnewest _ ((hmem _).2 (Or.inr rfl)) ⟨rfl, rfl, rfl⟩
        exact absurd (hrank v hv) hle.not_gt
      · rfl
    · rintro rfl
      refine ⟨(hmem _).2 (Or.inr rfl), ⟨rfl, rfl, rfl⟩, fun w hw _ => ?_⟩
      rcases (hmem w).1 hw with hw | rfl
      · exact (hrank w hw).le
      · exact le_rfl
  · have hother : ∀ w ∈ db'.versions, IsOf w t e s → w ∈ db.versions := by
      intro w hw hof
      rcases (hmem w).1 hw with hw | rfl
      · exact hw
      · exact absurd ⟨hof.1.symm, hof.2.1.symm, hof.2.2.symm⟩ hpair
    constructor
    · rintro ⟨hv, hof, hnewest⟩
      exact ⟨hother v hv hof, hof, fun w hw => hnewest w ((hmem w).2 (Or.inl hw))⟩
    · rintro ⟨hv, hof, hnewest⟩
      exact ⟨(hmem v).2 (Or.inl hv), hof, fun w hw hw' => hnewest w (hother w hw hw') hw'⟩

theorem reports_congr {db' : Db} (hnewest : ∀ v, Newest db' t e s v ↔ Newest db t e s v)
    (hships : ∀ at_ build_id, Ships db' t e s at_ build_id ↔ Ships db t e s at_ build_id) :
    Reports db' t e s ↔ Reports db t e s := by
  have hsame : Ships db' t e s = Ships db t e s :=
    funext fun at_ => funext fun build_id => propext (hships at_ build_id)
  rw [reports_iff, reports_iff, hsame]
  simp only [hnewest]

/-- One pair is in question. -/
theorem current_iff_of_others {db : Db}
    (hothers : ∀ t' e' s', ¬ (t' = t ∧ e' = e ∧ s' = s) → Reports db t' e' s') :
    Current db ↔ Reports db t e s := by
  constructor
  · intro hall
    exact hall t e s
  · intro hpair t' e' s'
    by_cases hp : t' = t ∧ e' = e ∧ s' = s
    · obtain ⟨rfl, rfl, rfl⟩ := hp
      exact hpair
    · exact hothers t' e' s' hp

end

/-! ## The condition -/

/-- No other successful deployment to the pair that the delivery names is later, unless the
latest of them is of the build that it names. -/
def InOrder (db : Db) (tenant_id : ℕ) (payload : DeploymentWebhookPayload) : Prop :=
  ∀ e, NamesEnvironment db.statuses tenant_id payload.environment_slug e →
    ∀ s, NamesSubsystem db.statuses tenant_id payload.system_slug payload.subsystem_slug s →
    (∀ at' build', Ships db tenant_id e s at' build' →
      at' ≤ instant db.statuses tenant_id payload) ∨
    ∃ at' build', Latest (Ships db tenant_id e s) at' build' ∧
      ∃ b ∈ db.statuses.builds, b.id = build' ∧ b.git_sha = payload.build.git_sha ∧
        b.build_number = payload.build.build_number

/-- Without the deployment, a latest one that is left is of the build of the newest row. -/
def LeavesBuild (db : Db) (tenant_id : ℕ) (payload : DeploymentWebhookPayload)
    (d : Deployment) : Prop :=
  ∀ b ∈ db.statuses.builds, b.id = d.build_id →
    ∃ at' build', Latest (Shipped db.statuses.builds (Others db tenant_id payload) d.tenant_id
        d.environment_id b.subsystem_id) at' build' ∧
      ∀ v, Newest db d.tenant_id d.environment_id b.subsystem_id v → v.build_fk_id = some build'

/-- What the delivery brings to `success` comes in order, and what it rolls back leaves the
build. -/
structure Orderly (db : Db) (tenant_id : ℕ) (payload : DeploymentWebhookPayload) : Prop where
  success : payload.status = "success" →
    (∀ d ∈ db.statuses.deployments, IsEvent tenant_id payload d → d.status ≠ "success") →
    InOrder db tenant_id payload
  rolled_back : payload.status = "rolled_back" →
    ∀ d ∈ db.statuses.deployments, IsEvent tenant_id payload d → d.status = "success" →
    LeavesBuild db tenant_id payload d

def InTime (db : Db) : Event → Prop
  | .elsewhere _ => True
  | .deliver delivery => Accepted db delivery → Orderly db delivery.tenant_id delivery.payload

/-! ## One delivery -/

section

variable {db db' : Db} {tenant_id subsystem_id environment_id change_request_id : ℕ}
  {payload : DeploymentWebhookPayload} {build : Build} {builds : Table Build Build.id}

/-- The build that the delivery names, among those shipped to the pair. -/
theorem named_build_iff (h : Kept db)
    (hbuild : Upserted db.statuses.builds tenant_id subsystem_id payload.build build builds)
    {at' : DateTime} {build' : ℕ} (hships : Ships db tenant_id environment_id subsystem_id at' build') :
    (∃ b ∈ db.statuses.builds, b.id = build' ∧ b.git_sha = payload.build.git_sha ∧
      b.build_number = payload.build.build_number) ↔ build' = build.id := by
  obtain ⟨d, hd, -, htenant, -, -, rfl, b, hb, hid, hsub⟩ := hships
  obtain ⟨own, hown, hownid, howner⟩ := h.placed d hd
  obtain rfl : own = b := Table.eq_of_key_eq hown hb (hownid.trans hid.symm)
  have hfound := hbuild.id_iff h hb (howner.trans htenant)
  constructor
  · rintro ⟨b', hb', hid', hrest⟩
    obtain rfl : b' = own := Table.eq_of_key_eq hb' hb (hid'.trans hid.symm)
    exact hid.symm.trans (hfound.2 ⟨hsub, hrest⟩).symm
  · intro heq
    exact ⟨own, hb, hid, (hfound.1 (heq.symm.trans hid.symm)).2⟩

/-- **A deployment that succeeds.** -/
theorem current_success_iff (h : Kept db) (hc : Current db) (hnow : now = db.clock)
    (hsuccess : payload.status = "success")
    (hother : ∀ d ∈ db.statuses.deployments, IsEvent tenant_id payload d → d.status ≠ "success")
    (hown : ∀ d ∈ Statuses.existing_deployment db.statuses tenant_id payload,
      environment_id = d.environment_id ∧ build.id = d.build_id)
    (hsubsystem : ∀ id, NamesSubsystem db.statuses tenant_id payload.system_slug
      payload.subsystem_slug id ↔ id = subsystem_id)
    (henvironment : ∀ id, NamesEnvironment db.statuses tenant_id payload.environment_slug id ↔
      id = environment_id)
    (hbuild : Upserted db.statuses.builds tenant_id subsystem_id payload.build build builds)
    (hversions : db'.versions = record_version db payload build tenant_id environment_id
      subsystem_id now) (hbuilds : db'.statuses.builds = builds)
    (hdeployments : db'.statuses.deployments = Statuses.record_deployment db.statuses payload build
      (Statuses.existing_deployment db.statuses tenant_id payload) tenant_id environment_id
      change_request_id) :
    Current db' ↔ InOrder db tenant_id payload := by
  have hships : ∀ t e s at_ build_id, Ships db' t e s at_ build_id ↔ Ships db t e s at_ build_id ∨
      ((t = tenant_id ∧ e = environment_id ∧ s = subsystem_id) ∧
        at_ = instant db.statuses tenant_id payload ∧ build_id = build.id) := by
    intro t e s at_ build_id
    rw [ships_recorded_iff h hbuilds hdeployments hbuild, shipped_others_iff hother,
      shipped_recorded_iff hsuccess hown hbuild]
  -- a pair that the delivery does not name is reported as before
  have hrest : ∀ t e s, ¬ (t = tenant_id ∧ e = environment_id ∧ s = subsystem_id) →
      Reports db' t e s := by
    intro t e s hpair
    refine (reports_congr (fun v => ?_) fun at_ build_id => ?_).2 (hc t e s)
    · rw [newest_recorded_iff h hnow hsuccess hversions, if_neg hpair]
    · rw [hships]
      exact or_iff_left fun hnew => hpair hnew.1
  -- the pair it names shows the row just written
  have hpair : Reports db' tenant_id environment_id subsystem_id ↔ ∃ at_,
      Latest (Ships db' tenant_id environment_id subsystem_id) at_ build.id := by
    have hnewest : Newest db' tenant_id environment_id subsystem_id (version_row payload build
        tenant_id environment_id subsystem_id now db.versions.next) := by
      rw [newest_recorded_iff h hnow hsuccess hversions, if_pos ⟨rfl, rfl, rfl⟩]
    rw [reports_of_newest hnewest]
    constructor
    · rintro ⟨at_, build_id, hlatest, hid⟩
      rw [← Option.some.inj hid] at hlatest
      exact ⟨at_, hlatest⟩
    · rintro ⟨at_, hlatest⟩
      exact ⟨at_, build.id, hlatest, rfl⟩
  have hsame : Ships db' tenant_id environment_id subsystem_id = fun at_ build_id =>
      Ships db tenant_id environment_id subsystem_id at_ build_id ∨
        (at_ = instant db.statuses tenant_id payload ∧ build_id = build.id) := by
    funext at_ build_id
    rw [hships]
    simp only [and_self, true_and]
  rw [current_iff_of_others hrest, hpair, hsame, latest_ship_iff]
  simp only [InOrder, henvironment, hsubsystem, forall_eq]
  refine or_congr_right ⟨?_, ?_⟩
  · rintro ⟨at', hlatest⟩
    exact ⟨at', build.id, hlatest, (named_build_iff h hbuild hlatest.1).2 rfl⟩
  · rintro ⟨at', build', hlatest, hbuild'⟩
    rw [(named_build_iff h hbuild hlatest.1).1 hbuild'] at hlatest
    exact ⟨at', hlatest⟩

section

variable {own : Deployment} {b : Build}

/-- To any pair but its own the deployment of the event has shipped nothing. -/
theorem shipped_elsewhere_iff {t e s : ℕ} {at_ : DateTime} {build_id : ℕ}
    (honly : ∀ d ∈ db.statuses.deployments, IsEvent tenant_id payload d → d = own)
    (hb : b ∈ db.statuses.builds) (hid : b.id = own.build_id)
    (hpair : ¬ (t = own.tenant_id ∧ e = own.environment_id ∧ s = b.subsystem_id)) :
    Shipped db.statuses.builds (Others db tenant_id payload) t e s at_ build_id ↔
      Ships db t e s at_ build_id := by
  constructor
  · rintro ⟨d, hd, hrest⟩
    exact ⟨d, hd.1, hrest⟩
  · rintro ⟨d, hd, hstatus, rfl, rfl, hat, rfl, b', hb', hid', rfl⟩
    refine ⟨d, ⟨hd, fun hd' => hpair ?_⟩, hstatus, rfl, rfl, hat, rfl, b', hb', hid', rfl⟩
    obtain rfl := honly d hd hd'
    rw [Table.eq_of_key_eq hb' hb (hid'.trans hid.symm)]
    exact ⟨rfl, rfl, rfl⟩

theorem leavesBuild_iff (hb : b ∈ db.statuses.builds) (hid : b.id = own.build_id) :
    LeavesBuild db tenant_id payload own ↔ ∃ at' build',
      Latest (Shipped db.statuses.builds (Others db tenant_id payload) own.tenant_id
        own.environment_id b.subsystem_id) at' build' ∧
      ∀ v, Newest db own.tenant_id own.environment_id b.subsystem_id v →
        v.build_fk_id = some build' := by
  constructor
  · intro hall
    exact hall b hb hid
  · intro hone b' hb' hid'
    rw [Table.eq_of_key_eq hb' hb (hid'.trans hid.symm)]
    exact hone

/-- What is shown of its own pair, when no row is written and the others' deployments are
what counts. -/
theorem reports_others_iff (hc : Current db) (hown : own ∈ db.statuses.deployments)
    (hstatus : own.status = "success") (hb : b ∈ db.statuses.builds) (hid : b.id = own.build_id)
    (hnewest : ∀ t e s v, Newest db' t e s v ↔ Newest db t e s v)
    (hships : ∀ t e s at_ build_id, Ships db' t e s at_ build_id ↔
      Shipped db.statuses.builds (Others db tenant_id payload) t e s at_ build_id) :
    Reports db' own.tenant_id own.environment_id b.subsystem_id ↔
      LeavesBuild db tenant_id payload own := by
  have hshown : ∃ v, Newest db own.tenant_id own.environment_id b.subsystem_id v :=
    (reports_iff.1 (hc own.tenant_id own.environment_id b.subsystem_id)).2 _ _
      ⟨own, hown, hstatus, rfl, rfl, rfl, rfl, b, hb, hid, rfl⟩
  have hsame : Ships db' own.tenant_id own.environment_id b.subsystem_id =
      Shipped db.statuses.builds (Others db tenant_id payload) own.tenant_id
        own.environment_id b.subsystem_id :=
    funext fun at_ => funext fun build_id => propext (hships _ _ _ at_ build_id)
  obtain ⟨v₀, hv₀⟩ := hshown
  rw [reports_of_newest ((hnewest _ _ _ v₀).2 hv₀), leavesBuild_iff hb hid, hsame]
  refine exists₂_congr fun at' build' => and_congr_right fun _ => ⟨fun hbuild' v hv => ?_, ?_⟩
  · rw [newest_unique hv hv₀]
    exact hbuild'
  · intro hall
    exact hall v₀ hv₀

end

/-- **A deployment that does not.** No row is written, and none is taken back. -/
theorem current_other_iff (h : Kept db) (hc : Current db) (hfailed : payload.status ≠ "success")
    (hallowed : ∀ d ∈ db.statuses.deployments, IsEvent tenant_id payload d →
      d.status = "success" → payload.status = "rolled_back")
    (hbuild : Upserted db.statuses.builds tenant_id subsystem_id payload.build build builds)
    (hversions : db'.versions = record_version db payload build tenant_id environment_id
      subsystem_id now) (hbuilds : db'.statuses.builds = builds)
    (hdeployments : db'.statuses.deployments = Statuses.record_deployment db.statuses payload build
      (Statuses.existing_deployment db.statuses tenant_id payload) tenant_id environment_id
      change_request_id) :
    Current db' ↔ (payload.status = "rolled_back" →
      ∀ d ∈ db.statuses.deployments, IsEvent tenant_id payload d → d.status = "success" →
      LeavesBuild db tenant_id payload d) := by
  have hnewest : ∀ t e s v, Newest db' t e s v ↔ Newest db t e s v := by
    intro t e s v
    rw [Newest, Newest, hversions, record_version, if_neg hfailed]
  have hships : ∀ t e s at_ build_id, Ships db' t e s at_ build_id ↔
      Shipped db.statuses.builds (Others db tenant_id payload) t e s at_ build_id := by
    intro t e s at_ build_id
    rw [ships_recorded_iff h hbuilds hdeployments hbuild]
    refine or_iff_left ?_
    rintro ⟨d, rfl, hstatus, -⟩
    exact hfailed ((recorded_status _ _).symm.trans hstatus)
  by_cases hnone : ∀ d ∈ db.statuses.deployments, IsEvent tenant_id payload d →
      d.status ≠ "success"
  · refine iff_of_true (fun t e s => ?_) fun _ d hd hevent hstatus =>
      absurd hstatus (hnone d hd hevent)
    refine (reports_congr (hnewest t e s) fun at_ build_id => ?_).2 (hc t e s)
    rw [hships, shipped_others_iff hnone]
  · push Not at hnone
    obtain ⟨own, hown, hevent, hstatus⟩ := hnone
    have honly := only_of_event h hown hevent
    obtain ⟨b, hb, hid, -⟩ := h.placed own hown
    have hrest : ∀ t e s, ¬ (t = own.tenant_id ∧ e = own.environment_id ∧ s = b.subsystem_id) →
        Reports db' t e s := by
      intro t e s hpair
      refine (reports_congr (hnewest t e s) fun at_ build_id => ?_).2 (hc t e s)
      rw [hships, shipped_elsewhere_iff honly hb hid hpair]
    rw [current_iff_of_others hrest, reports_others_iff hc hown hstatus hb hid hnewest hships]
    constructor
    · intro hleaves _ d hd hd' _
      rw [honly d hd hd']
      exact hleaves
    · intro hleaves
      exact hleaves (hallowed own hown hevent hstatus) own hown hevent hstatus

theorem current_ingested_iff (h : Kept db) (hc : Current db) (hnow : now = db.clock)
    (hsame : SameTarget db.statuses tenant_id payload)
    (hin : Ingested db tenant_id payload now db') :
    Current db' ↔ Orderly db tenant_id payload := by
  cases hin with
  | @replayed own hexisting hstatus =>
    have honly : ∀ d ∈ db.statuses.deployments, IsEvent tenant_id payload d →
        d.status = payload.status := by
      intro d hd hevent
      rw [← hstatus, Option.some.inj ((existing_of_event h hd hevent).symm.trans hexisting)]
    obtain ⟨hown, hevent⟩ := existing_some hexisting
    refine iff_of_true hc ⟨fun hsuccess hother => ?_, fun hrolled d hd hevent' hd' => ?_⟩
    · exact absurd (hstatus.trans hsuccess) (hother own hown hevent)
    · have heq := (hd'.symm.trans (honly d hd hevent')).trans hrolled
      exact absurd heq (by decide)
  | @recorded subsystem_id environment_id change_request_id build builds synced hallowed hsubsystem
      henvironment hbuild =>
    have hdiff : ∀ d ∈ db.statuses.deployments, IsEvent tenant_id payload d →
        d.status ≠ payload.status := fun d hd hevent => (hallowed d (existing_of_event h hd hevent)).1
    by_cases hsuccess : payload.status = "success"
    · have hother : ∀ d ∈ db.statuses.deployments, IsEvent tenant_id payload d →
          d.status ≠ "success" := fun d hd hevent => hsuccess ▸ hdiff d hd hevent
      have hown : ∀ d ∈ Statuses.existing_deployment db.statuses tenant_id payload,
          environment_id = d.environment_id ∧ build.id = d.build_id := by
        intro d hd
        obtain ⟨hmem, hevent⟩ := existing_some hd
        exact (namesItsOwn_iff h hmem hevent.1 hsubsystem henvironment hbuild).1
          (hsame hsuccess d hmem hevent (hother d hmem hevent))
      rw [current_success_iff h hc hnow hsuccess hother hown hsubsystem henvironment hbuild rfl rfl
        rfl]
      constructor
      · intro horder
        refine ⟨fun _ _ => horder, fun hrolled => ?_⟩
        exact absurd (hsuccess.symm.trans hrolled) (by decide)
      · intro horderly
        exact horderly.success hsuccess hother
    -- from `success` the only way on is a rollback
    · have hrolled : ∀ d ∈ db.statuses.deployments, IsEvent tenant_id payload d →
          d.status = "success" → payload.status = "rolled_back" := by
        intro d hd hevent hstatus
        have hnext := (hallowed d (existing_of_event h hd hevent)).2
        rw [hstatus] at hnext
        simp only [Statuses.ALLOWED_TRANSITIONS, List.mem_cons, List.not_mem_nil, or_false] at hnext
        exact hnext.resolve_left hsuccess
      rw [current_other_iff h hc hsuccess hrolled hbuild rfl rfl rfl]
      constructor
      · intro hleaves
        exact ⟨fun hyes => absurd hyes hsuccess, hleaves⟩
      · intro horderly
        exact horderly.rolled_back

end

/-! ## Every run -/

theorem current_wait {db : Db} (hc : Current db) (elapsed : ℕ) : Current (db.wait elapsed) :=
  fun t e s => ⟨(hc t e s).latest, (hc t e s).shown⟩

theorem orderly_wait_iff {db : Db} {elapsed tenant_id : ℕ} {payload : DeploymentWebhookPayload} :
    Orderly (db.wait elapsed) tenant_id payload ↔ Orderly db tenant_id payload :=
  ⟨fun h => ⟨h.success, h.rolled_back⟩, fun h => ⟨h.success, h.rolled_back⟩⟩

theorem current_step_iff {db : Db} (h : Kept db) (e : Event) (hconsistent : Consistent db e)
    (hc : Current db) : Current (step db e) ↔ InTime db e := by
  cases e with
  | elsewhere rows => exact iff_of_true (fun t e s => ⟨(hc t e s).latest, (hc t e s).shown⟩) trivial
  | deliver delivery =>
    refine commit_or_rollback_iff (current_wait hc delivery.elapsed) fun db' hhandle => ?_
    have haccepted : Accepted db delivery := ⟨db', hhandle⟩
    rw [current_ingested_iff (kept_wait h delivery.elapsed) (current_wait hc delivery.elapsed) rfl
      (hconsistent haccepted) (ingested_of_ok hhandle)]
    exact orderly_wait_iff

theorem current_fresh (rows : Statuses.Db) (clock : DateTime) : Current (Db.fresh rows clock) := by
  intro t e s
  refine reports_iff.2 ⟨fun v hv => absurd hv.1 (Table.not_mem_empty v), ?_⟩
  rintro at_ build_id ⟨d, hd, -⟩
  exact absurd hd (Table.not_mem_empty d)

/-- **When the version shown is the one deployed last.** In the runs whose deliveries name
the deployments they end: at all times the version reported of a pair is of the latest
deployment to it that is still successful, if and only if every delivery that succeeds
comes in the order of the deployments and every rollback leaves the build that is shown. -/
theorem current_iff_along (rows : Statuses.Db) (clock : DateTime) (events : List Event)
    (hconsistent : Runs.Along step Consistent (Db.fresh rows clock) events) :
    Runs.Always step Current (Db.fresh rows clock) events ↔
      Runs.Along step InTime (Db.fresh rows clock) events := by
  have hwf : ∀ db e, Kept db → Kept (step db e) := fun _ e h => kept_step h e
  have hstep : ∀ db e, Kept db → Consistent db e → Current db →
      (Current (step db e) ↔ InTime db e) :=
    fun _ e h hconsistent hc => current_step_iff h e hconsistent hc
  exact Runs.always_iff_along_given hwf hstep (kept_fresh rows clock) (current_fresh rows clock)
    hconsistent

namespace Sample

/-- A later build follows a first one, whose deployment is then rolled back. -/
def in_time : List Event :=
  [delivery "e1" "staging" "success" "4f2a" 0, delivery "e2" "staging" "success" "9c01" 60,
    delivery "e1" "staging" "rolled_back" "4f2a" 0]

def after (n : ℕ) : Db := Runs.run step db (in_time.take n)

end Sample

open Sample in
/-- The later build is shown to the end. -/
theorem later_is_current : Runs.Always step Current db in_time := by
  refine (current_iff_along rows 0 in_time ⟨?_, ?_, ?_, trivial⟩).2 ⟨?_, ?_, ?_, trivial⟩
  · exact fun _ _ d hd => absurd hd (Table.not_mem_empty d)
  -- no deployment is brought to `success` that was recorded before
  · intro _ _ d hd hevent
    have hnone : ∀ d ∈ (after 1).statuses.deployments, d.event_id ≠ "e2" := by decide +kernel
    exact absurd hevent.2 (hnone d hd)
  · exact fun _ hsuccess => absurd hsuccess (by decide)
  · refine fun _ => ⟨fun _ _ e _ s _ => Or.inl ?_, fun hrolled => absurd hrolled (by decide)⟩
    rintro at' build' ⟨d, hd, -⟩
    exact absurd hd (Table.not_mem_empty d)
  · refine fun _ => ⟨fun _ _ e _ s _ => Or.inl ?_, fun hrolled => absurd hrolled (by decide)⟩
    rintro at' build' ⟨d, hd, -, -, -, rfl, -⟩
    have hearlier : ∀ d ∈ (after 1).statuses.deployments, d.deployed_at ≤ 60 := by decide +kernel
    exact hearlier d hd
  · refine fun _ => ⟨fun hsuccess => absurd hsuccess (by decide), ?_⟩
    intro _ d hd _ _ b hb _
    have hplace : ∀ d ∈ (after 2).statuses.deployments,
        (d.tenant_id = 1 ∧ d.environment_id = 1) ∧ d.deployed_at ≤ 60 := by decide +kernel
    have hbuilds : ∀ b ∈ (after 2).statuses.builds, b.subsystem_id = 1 := by decide +kernel
    have hsecond : ∃ d ∈ (after 2).statuses.deployments,
        d.event_id ≠ "e1" ∧ d.status = "success" ∧ d.tenant_id = 1 ∧ d.environment_id = 1 ∧
          d.deployed_at = 60 ∧ d.build_id = 2 ∧
            ∃ b ∈ (after 2).statuses.builds, b.id = 2 ∧ b.subsystem_id = 1 := by decide +kernel
    have hnewest : ∀ v ∈ (after 2).versions, IsOf v 1 1 1 →
        (∀ w ∈ (after 2).versions, IsOf w 1 1 1 → w.rank ≤ v.rank) →
          v.build_fk_id = some 2 := by decide +kernel
    rw [(hplace d hd).1.1, (hplace d hd).1.2, hbuilds b hb]
    obtain ⟨e, he, hother, hstored⟩ := hsecond
    refine ⟨60, 2, ⟨⟨e, ⟨he, fun hevent => hother hevent.2⟩, hstored⟩, ?_⟩,
      fun v hv => hnewest v hv.1 hv.2.1 hv.2.2⟩
    rintro at' build' ⟨d', ⟨hd', -⟩, -, -, -, rfl, -⟩
    exact (hplace d' hd').2

namespace Sample

/-- A deployment succeeds and is rolled back. -/
def undone : List Event :=
  [delivery "e1" "staging" "success" "4f2a" 0, delivery "e1" "staging" "rolled_back" "4f2a" 0]

end Sample

/-- It is still shown. -/
theorem undone_is_not_current : ¬ Current (Runs.run step Sample.db Sample.undone) := by
  intro h
  have hshown : ∃ v ∈ current_versions (Runs.run step Sample.db Sample.undone) 1 1,
      v.subsystem_id = 1 := by
    decide +kernel
  have hnone : ∀ d ∈ (Runs.run step Sample.db Sample.undone).statuses.deployments,
      d.status ≠ "success" := by
    decide +kernel
  obtain ⟨v, hv, hsub⟩ := hshown
  obtain ⟨_, _, ⟨⟨d, hd, hstatus, -⟩, -⟩, -⟩ := (h 1 1 1).latest v hv hsub
  exact hnone d hd hstatus

end EnvMgr.Deployments

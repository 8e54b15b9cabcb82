/-
Whether what stands in an environment follows the catalogue.

Assigning and removing a system keep the rows of an environment in step with the
subsystems that are live at that moment. A subsystem that is created or deleted later is
not carried over to the environments its system is assigned to.
-/
import EnvMgr.Contents.Service

namespace EnvMgr.Contents

open Runs (Along Always)
open Scanning (Applying DeclaredState DeclaredSubsystem DependencySource Refused SameSubsystem
  SubSystem SubSystemSource apply_subsystem catalogue)

variable {data : SubSystemCreate} {now : DateTime} {catalogue : Scanning.Db}
variable {subsystem_id : ℕ} {p : SubSystem → Bool}

variable {db db' : Db}

/-! ## The invariant -/

/-- The subsystem `n` is a live one of the system. -/
def Live (db : Db) (system_id n : ℕ) : Prop :=
  ∃ s ∈ db.catalogue.subsystems, s.id = n ∧ s.system_id = system_id ∧ s.deleted_at = none

def Assigned (db : Db) (env_id system_id : ℕ) : Prop :=
  ∃ a ∈ db.environment_systems, a.environment_id = env_id ∧ a.system_id = system_id

def HasRow (db : Db) (env_id n : ℕ) : Prop :=
  ∃ r ∈ db.environment_subsystems, r.environment_id = env_id ∧ r.subsystem_id = n

/-- In every live environment there are rows for the live subsystems of the systems
assigned to it, and for no other subsystem. -/
def Follows (db : Db) : Prop :=
  ∀ e ∈ db.environments, e.deleted_at = none →
    ∀ n, HasRow db e.id n ↔ ∃ system_id, Assigned db e.id system_id ∧ Live db system_id n

/-- The system is assigned to a live environment. -/
def InUse (db : Db) (system_id : ℕ) : Prop :=
  ∃ e ∈ db.environments, e.deleted_at = none ∧ Assigned db e.id system_id

/-- Tenants and foreign keys are in order. -/
structure Sound (db : Db) : Prop where
  subsystem_system : ∀ s ∈ db.catalogue.subsystems,
    ∃ y ∈ db.systems, y.id = s.system_id ∧ y.tenant_id = s.tenant_id
  assigned_system : ∀ a ∈ db.environment_systems,
    ∃ y ∈ db.systems, y.id = a.system_id ∧ y.tenant_id = a.tenant_id
  uq_env_system : ∀ a ∈ db.environment_systems, ∀ b ∈ db.environment_systems,
    a.environment_id = b.environment_id ∧ a.system_id = b.system_id → a = b
  row_subsystem : ∀ r ∈ db.environment_subsystems,
    ∃ s ∈ db.catalogue.subsystems, s.id = r.subsystem_id
  row_environment : ∀ r ∈ db.environment_subsystems,
    ∃ e ∈ db.environments, e.id = r.environment_id ∧ e.tenant_id = r.tenant_id

/-- The subsystems of a system are of its tenant. -/
theorem Sound.tenant_eq (hs : Sound db) {s : SubSystem} (hmem : s ∈ db.catalogue.subsystems)
    {y : System} (hy : y ∈ db.systems) (hid : y.id = s.system_id) : s.tenant_id = y.tenant_id := by
  obtain ⟨y', hy', hid', htenant⟩ := hs.subsystem_system s hmem
  rw [← htenant, Table.eq_of_key_eq hy' hy (hid'.trans hid.symm)]

theorem follows_opened (environments : Table Environment Environment.id)
    (systems : Table System System.id) (custom_fields : List Bookings.CustomFieldDefinition) :
    Follows (Db.opened environments systems custom_fields) := by
  intro e _ _ n
  constructor
  · rintro ⟨r, hr, -⟩
    exact absurd hr (Table.not_mem_empty r)
  · rintro ⟨system_id, ⟨a, ha, -⟩, -⟩
    exact absurd ha (Table.not_mem_empty a)

theorem sound_opened (environments : Table Environment Environment.id)
    (systems : Table System System.id) (custom_fields : List Bookings.CustomFieldDefinition) :
    Sound (Db.opened environments systems custom_fields) where
  subsystem_system s h := absurd h (Table.not_mem_empty s)
  assigned_system a h := absurd h (Table.not_mem_empty a)
  uq_env_system a h := absurd h (Table.not_mem_empty a)
  row_subsystem r h := absurd h (Table.not_mem_empty r)
  row_environment r h := absurd h (Table.not_mem_empty r)

/-! ## Look-ups -/

theorem raised_eq_ok {α : Type} {r : Except Raised α} {a : α} :
    raised r = .ok a ↔ r = .ok a := mapError_eq_ok

theorem get_environment_ok {env_id tenant_id : ℕ} {e : Environment}
    (h : get_environment db env_id tenant_id = .ok e) :
    e ∈ db.environments ∧ e.id = env_id ∧ e.tenant_id = tenant_id ∧ e.deleted_at = none := by
  rw [get_environment, get_or_raise_eq_ok] at h
  obtain ⟨hmem, hp⟩ := Table.select_one_some h
  exact ⟨hmem, of_decide_eq_true hp⟩

theorem get_system_ok {system_id tenant_id : ℕ} {y : System}
    (h : get_system db system_id tenant_id = .ok y) :
    y ∈ db.systems ∧ y.id = system_id ∧ y.tenant_id = tenant_id ∧ y.deleted_at = none := by
  rw [get_system, get_or_raise_eq_ok] at h
  obtain ⟨hmem, hp⟩ := Table.select_one_some h
  exact ⟨hmem, of_decide_eq_true hp⟩

theorem get_subsystem_ok {system_id tenant_id : ℕ} {s : SubSystem}
    (h : get_subsystem db subsystem_id system_id tenant_id = .ok s) :
    s ∈ db.catalogue.subsystems ∧ s.system_id = system_id ∧ s.deleted_at = none := by
  rw [get_subsystem, get_or_raise_eq_ok] at h
  obtain ⟨hmem, hp⟩ := Table.select_one_some h
  obtain ⟨-, hsystem, -, hlive⟩ := of_decide_eq_true hp
  exact ⟨hmem, hsystem, hlive⟩

/-! ## Changes of the catalogue -/

/-- Each subsystem of `db'` is one of `db`, in the same system, or has a new id. -/
def Descends (db db' : Db) : Prop :=
  ∀ s' ∈ db'.catalogue.subsystems,
    (∃ s ∈ db.catalogue.subsystems, s.id = s'.id ∧ s.system_id = s'.system_id ∧
      s.tenant_id = s'.tenant_id) ∨ db.catalogue.subsystems.next ≤ s'.id

theorem Descends.system_eq (h : Descends db db') {system_id system_id' n : ℕ}
    (hlive : Live db system_id n) (hlive' : Live db' system_id' n) : system_id = system_id' := by
  obtain ⟨s, hs, hid, rfl, -⟩ := hlive
  obtain ⟨s', hs', hid', rfl, -⟩ := hlive'
  rcases h s' hs' with ⟨s₀, hs₀, hid₀, hsystem, -⟩ | hnew
  · rw [← hsystem, Table.eq_of_key_eq hs hs₀ (hid.trans (hid'.symm.trans hid₀.symm))]
  · have hlt := Table.key_lt_next hs
    omega

/-- The three tables of environments are as they were. -/
structure SameContents (db db' : Db) : Prop where
  environments : db'.environments = db.environments
  environment_systems : db'.environment_systems = db.environment_systems
  environment_subsystems : db'.environment_subsystems = db.environment_subsystems

/-- **What follows the catalogue goes on doing so** exactly if no system in use has gained
or lost a live subsystem. -/
theorem follows_catalogue_iff (hsame : SameContents db db') (hdesc : Descends db db')
    (hi : Follows db) :
    Follows db' ↔
      ∀ system_id, InUse db system_id → ∀ n, Live db' system_id n ↔ Live db system_id n := by
  have hassigned : ∀ env_id system_id, Assigned db' env_id system_id ↔
      Assigned db env_id system_id := by
    intro env_id system_id
    rw [Assigned, Assigned, hsame.environment_systems]
  have hrow : ∀ env_id n, HasRow db' env_id n ↔ HasRow db env_id n := by
    intro env_id n
    rw [HasRow, HasRow, hsame.environment_subsystems]
  constructor
  · rintro h system_id ⟨e, he, hlive, hass⟩ n
    have hnew := h e (by rwa [hsame.environments]) hlive n
    rw [hrow, hi e he hlive n] at hnew
    constructor
    · intro hn
      obtain ⟨system_id', -, hn'⟩ := hnew.2 ⟨system_id, (hassigned _ _).2 hass, hn⟩
      rwa [← hdesc.system_eq hn' hn]
    · intro hn
      obtain ⟨system_id', -, hn'⟩ := hnew.1 ⟨system_id, hass, hn⟩
      rwa [hdesc.system_eq hn hn']
  · intro h e he hlive n
    rw [hsame.environments] at he
    rw [hrow, hi e he hlive n]
    refine exists_congr fun system_id => ?_
    rw [hassigned]
    exact and_congr_right fun hass => (h system_id ⟨e, he, hlive, hass⟩ n).symm

/-- A change of the catalogue leaves the keys in order where new subsystems are of the
tenant of their system. -/
theorem sound_catalogue (hs : Sound db) (hsame : SameContents db db')
    (hsystems : ∀ y ∈ db.systems, ∃ y' ∈ db'.systems, y'.id = y.id ∧ y'.tenant_id = y.tenant_id)
    (hkept : ∀ s ∈ db.catalogue.subsystems, ∃ s' ∈ db'.catalogue.subsystems, s'.id = s.id)
    (honly : ∀ s' ∈ db'.catalogue.subsystems,
      (∃ s ∈ db.catalogue.subsystems, s.system_id = s'.system_id ∧ s.tenant_id = s'.tenant_id) ∨
        ∃ y ∈ db.systems, y.id = s'.system_id ∧ y.tenant_id = s'.tenant_id) : Sound db' where
  subsystem_system s' hs' := by
    have hy : ∃ y ∈ db.systems, y.id = s'.system_id ∧ y.tenant_id = s'.tenant_id := by
      rcases honly s' hs' with ⟨s, hmem, hsystem, htenant⟩ | hy
      · rw [← hsystem, ← htenant]
        exact hs.subsystem_system s hmem
      · exact hy
    obtain ⟨y, hy, hid, htenant⟩ := hy
    obtain ⟨y', hy', hid', htenant'⟩ := hsystems y hy
    exact ⟨y', hy', hid'.trans hid, htenant'.trans htenant⟩
  assigned_system a ha := by
    rw [hsame.environment_systems] at ha
    obtain ⟨y, hy, hid, htenant⟩ := hs.assigned_system a ha
    obtain ⟨y', hy', hid', htenant'⟩ := hsystems y hy
    exact ⟨y', hy', hid'.trans hid, htenant'.trans htenant⟩
  uq_env_system := by
    rw [hsame.environment_systems]
    exact hs.uq_env_system
  row_subsystem r hr := by
    rw [hsame.environment_subsystems] at hr
    obtain ⟨s, hmem, hid⟩ := hs.row_subsystem r hr
    obtain ⟨s', hs', hid'⟩ := hkept s hmem
    exact ⟨s', hs', hid'.trans hid⟩
  row_environment := by
    rw [hsame.environments, hsame.environment_subsystems]
    exact hs.row_environment

/-! ## Creating a subsystem -/

theorem create_subsystem_ok {system_id tenant_id : ℕ}
    (h : create_subsystem db system_id data tenant_id = .ok db') :
    (∃ y ∈ db.systems, y.id = system_id ∧ y.tenant_id = tenant_id) ∧ SameContents db db' ∧
      db'.systems = db.systems ∧
      db'.catalogue.subsystems = db.catalogue.subsystems.insert (data.new system_id tenant_id) := by
  simp only [create_subsystem, bind_eq_ok, raised_eq_ok, Except.ok.injEq] at h
  obtain ⟨y, hy, existing, -, _, -, _, -, ⟨catalogue, row⟩, hadd, rfl⟩ := h
  obtain ⟨hmem, hid, htenant, -⟩ := get_system_ok hy
  exact ⟨⟨y, hmem, hid, htenant⟩, ⟨rfl, rfl, rfl⟩, rfl, (Scanning.add_subsystem_ok hadd).2.1⟩

theorem create_subsystem_sound (hs : Sound db) {system_id tenant_id : ℕ}
    (h : create_subsystem db system_id data tenant_id = .ok db') : Sound db' := by
  obtain ⟨hsystem, hsame, hsystems, hsubs⟩ := create_subsystem_ok h
  refine sound_catalogue hs hsame (fun y hy => ⟨y, by rwa [hsystems], rfl, rfl⟩)
    (fun s hmem => ⟨s, by rw [hsubs]; exact Table.mem_insert.2 (Or.inl hmem), rfl⟩) ?_
  intro s' hs'
  rw [hsubs] at hs'
  rcases Table.mem_insert.1 hs' with hs' | rfl
  · exact Or.inl ⟨s', hs', rfl, rfl⟩
  · exact Or.inr hsystem

theorem create_subsystem_follows (hi : Follows db) {system_id tenant_id : ℕ}
    (h : create_subsystem db system_id data tenant_id = .ok db') :
    Follows db' ↔ ¬ InUse db system_id := by
  obtain ⟨-, hsame, -, hsubs⟩ := create_subsystem_ok h
  have hdesc : Descends db db' := by
    intro s' hs'
    rw [hsubs] at hs'
    rcases Table.mem_insert.1 hs' with hs' | rfl
    · exact Or.inl ⟨s', hs', rfl, rfl, rfl⟩
    · exact Or.inr le_rfl
  rw [follows_catalogue_iff hsame hdesc hi]
  constructor
  · intro hall huse
    -- the new subsystem is live and was not there before
    obtain ⟨s, hmem, hid, -⟩ := (hall system_id huse db.catalogue.subsystems.next).1
      ⟨_, by rw [hsubs]; exact Table.mem_insert.2 (Or.inr rfl), rfl, rfl, rfl⟩
    have hlt := Table.key_lt_next hmem
    omega
  · intro hunused system_id' huse n
    unfold Live
    rw [hsubs]
    constructor
    · rintro ⟨s, hmem, hid, hsystem, hlive⟩
      rcases Table.mem_insert.1 hmem with hmem | rfl
      · exact ⟨s, hmem, hid, hsystem, hlive⟩
      · obtain rfl : system_id = system_id' := hsystem
        exact absurd huse hunused
    · rintro ⟨s, hmem, hlive⟩
      exact ⟨s, Table.mem_insert.2 (Or.inl hmem), hlive⟩

/-! ## Deleting subsystems -/

/-- The subsystems that stay live are those the statement does not pick. -/
theorem live_retire (hsubs : db'.catalogue = retire db.catalogue p now) (system_id n : ℕ) :
    Live db' system_id n ↔
      ∃ s ∈ db.catalogue.subsystems, p s = false ∧ s.id = n ∧ s.system_id = system_id ∧
        s.deleted_at = none := by
  unfold Live
  rw [hsubs]
  constructor
  · rintro ⟨s, hmem, hid, hsystem, hlive⟩
    rcases Table.mem_update_cases hmem with ⟨s₀, -, -, rfl⟩ | ⟨hmem, hp⟩
    · cases hlive
    · exact ⟨s, hmem, hp, hid, hsystem, hlive⟩
  · rintro ⟨s, hmem, hp, hrest⟩
    exact ⟨s, Table.mem_update_of_neg hmem hp, hrest⟩

/-- A subsystem of the catalogue is still there, and every one there was. -/
theorem mem_retire :
    (∀ s ∈ catalogue.subsystems, ∃ s' ∈ (retire catalogue p now).subsystems, s'.id = s.id) ∧
      ∀ s' ∈ (retire catalogue p now).subsystems, ∃ s ∈ catalogue.subsystems,
        s.id = s'.id ∧ s.system_id = s'.system_id ∧ s.tenant_id = s'.tenant_id := by
  constructor
  · intro s hs
    refine ⟨_, Table.mem_update.2 ⟨s, hs, rfl⟩, ?_⟩
    split_ifs
    · rfl
    · rfl
  · intro s' hs'
    rcases Table.mem_update_cases hs' with ⟨s, hs, -, rfl⟩ | ⟨hs', -⟩
    · exact ⟨s, hs, rfl, rfl, rfl⟩
    · exact ⟨s', hs', rfl, rfl, rfl⟩

theorem retire_descends (hsubs : db'.catalogue = retire db.catalogue p now) : Descends db db' := by
  intro s' hs'
  rw [hsubs] at hs'
  exact Or.inl (mem_retire.2 s' hs')

theorem retire_sound (hs : Sound db) (hsame : SameContents db db')
    (hsystems : ∀ y ∈ db.systems, ∃ y' ∈ db'.systems, y'.id = y.id ∧ y'.tenant_id = y.tenant_id)
    (hsubs : db'.catalogue = retire db.catalogue p now) : Sound db' := by
  refine sound_catalogue hs hsame hsystems ?_ ?_
  · rw [hsubs]
    exact mem_retire.1
  · rw [hsubs]
    intro s' hs'
    obtain ⟨s, hmem, -, hrest⟩ := mem_retire.2 s' hs'
    exact Or.inl ⟨s, hmem, hrest⟩

/-- Retiring subsystems is seen in the environments if one that was live is of a system in
use. -/
theorem retire_follows (hi : Follows db) (hsame : SameContents db db')
    (hsubs : db'.catalogue = retire db.catalogue p now) :
    Follows db' ↔ ∀ s ∈ db.catalogue.subsystems, p s = true → s.deleted_at = none →
      ¬ InUse db s.system_id := by
  rw [follows_catalogue_iff hsame (retire_descends hsubs) hi]
  constructor
  · intro hall s hmem hp hlive huse
    obtain ⟨s', hmem', hp', hid, -⟩ := (live_retire hsubs s.system_id s.id).1
      ((hall s.system_id huse s.id).2 ⟨s, hmem, rfl, rfl, hlive⟩)
    rw [Table.eq_of_key_eq hmem' hmem hid, hp] at hp'
    cases hp'
  · intro hall system_id huse n
    rw [live_retire hsubs]
    constructor
    · rintro ⟨s, hmem, -, hrest⟩
      exact ⟨s, hmem, hrest⟩
    · rintro ⟨s, hmem, hid, rfl, hlive⟩
      refine ⟨s, hmem, ?_, hid, rfl, hlive⟩
      rw [← Bool.not_eq_true]
      exact fun hp => hall s hmem hp hlive huse

theorem delete_subsystem_ok {system_id tenant_id : ℕ}
    (h : delete_subsystem db subsystem_id system_id tenant_id now = .ok db') :
    ∃ s ∈ db.catalogue.subsystems, s.system_id = system_id ∧ s.deleted_at = none ∧
      SameContents db db' ∧ db'.systems = db.systems ∧
      db'.catalogue = retire db.catalogue (fun s' => s'.id = s.id) now := by
  simp only [delete_subsystem, bind_eq_ok, raised_eq_ok, Except.ok.injEq] at h
  obtain ⟨s, hs, rfl⟩ := h
  obtain ⟨hmem, hsystem, hlive⟩ := get_subsystem_ok hs
  exact ⟨s, hmem, hsystem, hlive, ⟨rfl, rfl, rfl⟩, rfl, rfl⟩

theorem delete_subsystem_follows (hi : Follows db) {system_id tenant_id : ℕ}
    (h : delete_subsystem db subsystem_id system_id tenant_id now = .ok db') :
    Follows db' ↔ ¬ InUse db system_id := by
  obtain ⟨s, hmem, rfl, hlive, hsame, -, hsubs⟩ := delete_subsystem_ok h
  rw [retire_follows hi hsame hsubs]
  simp only [decide_eq_true_eq]
  constructor
  · intro hall
    exact hall s hmem rfl hlive
  · intro hunused s' hmem' hid _
    rwa [Table.eq_of_key_eq hmem' hmem hid]

theorem delete_system_ok {system_id tenant_id : ℕ}
    (h : delete_system db system_id tenant_id now = .ok db') :
    SameContents db db' ∧
      (∀ y ∈ db.systems, ∃ y' ∈ db'.systems, y'.id = y.id ∧ y'.tenant_id = y.tenant_id) ∧
      db'.catalogue =
        retire db.catalogue (fun s => s.system_id = system_id ∧ s.deleted_at = none) now := by
  simp only [delete_system, bind_eq_ok, raised_eq_ok, Except.ok.injEq] at h
  obtain ⟨y, -, rfl⟩ := h
  refine ⟨⟨rfl, rfl, rfl⟩, fun y' hy' => ⟨_, Table.mem_update.2 ⟨y', hy', rfl⟩, ?_⟩, rfl⟩
  split_ifs
  · exact ⟨rfl, rfl⟩
  · exact ⟨rfl, rfl⟩

theorem delete_system_follows (hi : Follows db) {system_id tenant_id : ℕ}
    (h : delete_system db system_id tenant_id now = .ok db') :
    Follows db' ↔ ¬ (InUse db system_id ∧ ∃ n, Live db system_id n) := by
  obtain ⟨hsame, -, hsubs⟩ := delete_system_ok h
  rw [retire_follows hi hsame hsubs]
  simp only [decide_eq_true_eq]
  constructor
  · rintro hall ⟨huse, n, s, hmem, -, rfl, hlive⟩
    exact hall s hmem ⟨rfl, hlive⟩ hlive huse
  · rintro hnone s hmem ⟨rfl, hlive⟩ _ huse
    exact hnone ⟨huse, s.id, s, hmem, rfl, rfl, hlive⟩

/-! ## A scan -/

/-- What a scan does to the table of subsystems: rows keep what identifies them, and new
ones are live ones of the system. -/
structure Grown (system_id tenant_id : ℕ) (catalogue catalogue' : Scanning.Db) : Prop where
  kept : Table.Retains SameSubsystem catalogue.subsystems catalogue'.subsystems
  only : ∀ s' ∈ catalogue'.subsystems, (∃ s ∈ catalogue.subsystems, SameSubsystem s s') ∨
    (catalogue.subsystems.next ≤ s'.id ∧ s'.Listed system_id tenant_id)
  next_le : catalogue.subsystems.next ≤ catalogue'.subsystems.next

section Scan

variable {system_id tenant_id : ℕ} {source : SubSystemSource}
  {edge_source : Option DependencySource} {declared : DeclaredState}

theorem grown_step (st : Applying) (sub : DeclaredSubsystem)
    (st' : Applying) (hg : Grown system_id tenant_id catalogue st.db)
    (h : apply_subsystem system_id tenant_id source st sub = .ok st') :
    Grown system_id tenant_id catalogue st'.db := by
  unfold apply_subsystem at h
  split at h
  · simp only [bind_eq_ok] at h
    obtain ⟨⟨db₁, row⟩, hadd, h⟩ := h
    obtain ⟨rfl, hsubs, -, -⟩ := Scanning.add_subsystem_ok hadd
    cases h
    refine ⟨?_, ?_, ?_⟩
    · rw [hsubs]
      exact hg.kept.trans (Table.retains_insert SameSubsystem.refl _ _) SameSubsystem.trans
    · intro s' hs'
      rw [hsubs] at hs'
      rcases Table.mem_insert.1 hs' with hs' | rfl
      · exact hg.only s' hs'
      · exact Or.inr ⟨hg.next_le, rfl, rfl, rfl⟩
    · rw [hsubs]
      exact hg.next_le.trans (Nat.le_succ _)
  · cases h
    refine ⟨?_, ?_, hg.next_le⟩
    · exact hg.kept.trans (Table.retains_update SameSubsystem.refl _ _
        fun r => SubSystem.Edit.same _ r) SameSubsystem.trans
    · intro s' hs'
      rcases Table.mem_update_cases hs' with ⟨s₁, hs₁, -, rfl⟩ | ⟨hs', -⟩
      · rcases hg.only s₁ hs₁ with ⟨s, hs, hsame⟩ | ⟨hnew, hlisted⟩
        · exact Or.inl ⟨s, hs, hsame.trans _ _ _ (SubSystem.Edit.same _ s₁)⟩
        · exact Or.inr ⟨hnew, hlisted⟩
      · exact hg.only s' hs'

theorem apply_grown {catalogue' : Scanning.Db} {result : Scanning.ApplyResult}
    (h : Scanning.apply system_id tenant_id source catalogue edge_source declared =
      .ok (catalogue', result)) : Grown system_id tenant_id catalogue catalogue' := by
  obtain ⟨st, hloop, -, hsubs, -⟩ := Scanning.apply_written h
  have hstart : Grown system_id tenant_id catalogue catalogue :=
    ⟨Table.retains_refl SameSubsystem.refl _, fun s' hs' => Or.inl ⟨s', hs', SameSubsystem.refl s'⟩,
      le_rfl⟩
  have hst : Grown system_id tenant_id catalogue st.db :=
    foldlM_inv (P := fun st : Applying => Grown system_id tenant_id catalogue st.db)
      grown_step hstart hloop
  exact ⟨by rw [hsubs]; exact hst.kept, by rw [hsubs]; exact hst.only,
    by rw [hsubs]; exact hst.next_le⟩

/-- The scan declares a subsystem that the system does not have. -/
def Declares (db : Db) (system_id tenant_id : ℕ) (declared : DeclaredState) : Prop :=
  ∃ sub ∈ declared.subsystems, ∀ s ∈ db.catalogue.subsystems,
    s.Listed system_id tenant_id → s.name ≠ sub.name

theorem apply_ok (h : apply db system_id tenant_id source edge_source declared = .ok db') :
    (∃ y ∈ db.systems, y.id = system_id ∧ y.tenant_id = tenant_id) ∧ SameContents db db' ∧
      db'.systems = db.systems ∧
      ∃ result, Scanning.apply system_id tenant_id source db.catalogue edge_source declared =
        .ok (db'.catalogue, result) := by
  simp only [apply, bind_eq_ok, raised_eq_ok, Except.ok.injEq] at h
  obtain ⟨y, hy, ⟨catalogue, result⟩, happly, rfl⟩ := h
  obtain ⟨hmem, hid, htenant, -⟩ := get_system_ok hy
  exact ⟨⟨y, hmem, hid, htenant⟩, ⟨rfl, rfl, rfl⟩, rfl, result, happly⟩

theorem apply_sound (hs : Sound db)
    (h : apply db system_id tenant_id source edge_source declared = .ok db') : Sound db' := by
  obtain ⟨hsystem, hsame, hsystems, result, happly⟩ := apply_ok h
  have hg := apply_grown happly
  refine sound_catalogue hs hsame (fun y hy => ⟨y, by rwa [hsystems], rfl, rfl⟩) ?_ ?_
  · intro s hmem
    obtain ⟨s', hs', hid, -⟩ := hg.kept s hmem
    exact ⟨s', hs', hid⟩
  · intro s' hs'
    rcases hg.only s' hs' with ⟨s, hmem, -, hsys, htenant, -⟩ | ⟨-, hlisted⟩
    · exact Or.inl ⟨s, hmem, hsys.symm, htenant.symm⟩
    · rw [hlisted.1, hlisted.2.1]
      exact Or.inr hsystem

theorem apply_follows (hi : Follows db)
    (h : apply db system_id tenant_id source edge_source declared = .ok db') :
    Follows db' ↔ ¬ (InUse db system_id ∧ Declares db system_id tenant_id declared) := by
  obtain ⟨-, hsame, -, result, happly⟩ := apply_ok h
  have hg := apply_grown happly
  have hlisted := (Scanning.apply_scanned happly).listed
  have hdesc : Descends db db' := by
    intro s' hs'
    rcases hg.only s' hs' with ⟨s, hmem, hid, hsys, htenant, -⟩ | ⟨hnew, -⟩
    · exact Or.inl ⟨s, hmem, hid.symm, hsys.symm, htenant.symm⟩
    · exact Or.inr hnew
  rw [follows_catalogue_iff hsame hdesc hi]
  constructor
  · rintro hall ⟨huse, sub, hsub, hnone⟩
    -- the name is listed afterwards, by a row that can only be a new one
    have hkey : sub.name ∈ (catalogue db'.catalogue system_id tenant_id).keys :=
      (hlisted sub.name).2 (Or.inr (Index.mem_keys_collect.2 ⟨sub, hsub, rfl⟩))
    obtain ⟨s', hget⟩ := Index.mem_keys.1 hkey
    obtain ⟨hs', hlisted', hname⟩ := Scanning.get_catalogue.1 hget
    obtain ⟨s, hmem, hid, -⟩ := (hall system_id huse s'.id).1
      ⟨s', hs', rfl, hlisted'.1, hlisted'.2.2⟩
    rcases hg.only s' hs' with ⟨s₀, hmem₀, -, hsys, htenant, hsname, hdel⟩ | ⟨hnew, -⟩
    · exact hnone s₀ hmem₀ ⟨hsys.symm.trans hlisted'.1, htenant.symm.trans hlisted'.2.1,
        hdel.symm.trans hlisted'.2.2⟩ (hsname.symm.trans hname)
    · have hlt := Table.key_lt_next hmem
      omega
  · intro hnone system_id' huse n
    constructor
    · rintro ⟨s', hs', rfl, rfl, hlive⟩
      rcases hg.only s' hs' with ⟨s, hmem, hid, hsys, -, -, hdel⟩ | ⟨hnew, hl⟩
      · exact ⟨s, hmem, hid.symm, hsys.symm, hdel.symm.trans hlive⟩
      · -- a new row of a system in use has a name that was listed already
        exfalso
        have hkey : s'.name ∈ (catalogue db'.catalogue system_id tenant_id).keys :=
          Index.mem_keys.2 ⟨s', Scanning.get_catalogue.2 ⟨hs', hl, rfl⟩⟩
        have hold : ∃ s ∈ db.catalogue.subsystems, s.Listed system_id tenant_id ∧
            s.name = s'.name := by
          rcases (hlisted s'.name).1 hkey with hkey | hkey
          · obtain ⟨s, hget⟩ := Index.mem_keys.1 hkey
            exact ⟨s, Scanning.get_catalogue.1 hget⟩
          · obtain ⟨sub, hsub, hname⟩ := Index.mem_keys_collect.1 hkey
            by_contra hno
            refine hnone ⟨by rwa [← hl.1], sub, hsub, fun s hmem hls hsn => hno ⟨s, hmem, hls, ?_⟩⟩
            exact hsn.trans (Option.some.inj hname)
        obtain ⟨s, hmem, hls, hsname⟩ := hold
        obtain ⟨s₁, hs₁, hid₁, hsys₁, -, hname₁, hdel₁⟩ := hg.kept s hmem
        have heq := db'.catalogue.uq_subsystem_system_name s₁ hs₁ s' hs'
          ⟨hdel₁.trans hls.2.2, hl.2.2, hsys₁.trans (hls.1.trans hl.1.symm), hname₁.trans hsname⟩
        have hlt := Table.key_lt_next hmem
        rw [← heq, hid₁] at hnew
        omega
    · rintro ⟨s, hmem, hid, hsys, hlive⟩
      obtain ⟨s', hs', hid', hsys', -, -, hdel'⟩ := hg.kept s hmem
      exact ⟨s', hs', hid'.trans hid, hsys'.trans hsys, hdel'.trans hlive⟩

end Scan

end EnvMgr.Contents

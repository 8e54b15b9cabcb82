/-
Whether memberships and releases agree.

A project release has one open membership at most, and its parent is the enterprise of the
accepted one. Deleting a release touches no membership: what is open for a deleted
enterprise can be neither accepted, rejected nor removed, and stays in the way of the next
request; what is accepted for a deleted project can no longer be removed.
-/
import EnvMgr.Memberships.Service
import EnvMgr.Statuses.Effects

namespace EnvMgr.Memberships

open Runs

variable {r : Statuses.Release} {request : Request}
variable {tenant_id release_id enterprise_id : ℕ} {parent : ℕ → Option ℕ}

variable {ext : Bookings.External} {db db' : Db} {held : ReleaseMembership → Prop}

/-! ## The property -/

/-- A project has one open membership at the most. -/
def OneOpen (memberships : Table ReleaseMembership ReleaseMembership.id) : Prop :=
  ∀ a ∈ memberships, ∀ b ∈ memberships, a.is_open = true → b.is_open = true →
    a.project_release_id = b.project_release_id → a = b

/-- The parent of a release is the enterprise it was accepted into. -/
def ParentAccepted (db : Db) : Prop :=
  ∀ release_id enterprise_id, db.parent_release_id release_id = some enterprise_id ↔
    ∃ m ∈ db.memberships, m.state = .accepted ∧ m.enterprise_release_id = enterprise_id ∧
      m.project_release_id = release_id

/-- There, and not soft-deleted. -/
def Live (db : Db) (release_id : ℕ) : Prop :=
  ∃ r ∈ db.statuses.releases, r.id = release_id ∧ r.deleted_at = none

/-- The open memberships that are `held` are of live project releases. -/
def ProjectsLive (held : ReleaseMembership → Prop) (db : Db) : Prop :=
  ∀ m ∈ db.memberships, m.is_open = true → held m → Live db m.project_release_id

/-- An open membership is one of a live enterprise release. -/
def EnterprisesLive (db : Db) : Prop :=
  ∀ m ∈ db.memberships, m.is_open = true → ∃ r ∈ db.statuses.releases,
    r.id = m.enterprise_release_id ∧ r.release_kind = "enterprise" ∧ r.deleted_at = none

/-- The role decides and nothing else: the answer is that of the permission check on the
enterprise, and what is written is as `after` says. -/
def ByRole (db : Db) (m : ReleaseMembership) (user : CurrentUser) (action_key : String)
    (result : Except Raised Db) (after : Db → Prop) : Prop :=
  (∀ r ∈ db.statuses.releases, r.id = m.enterprise_release_id →
    result.map (fun _ => ()) = _check_action_permission db r user action_key) ∧
  ∀ db', result = .ok db' → after db'

/-- Nothing is in the way of a new request for the project release. -/
def Freed (db : Db) (project_release_id : ℕ) : Prop :=
  _get_open_membership_for_project db project_release_id = .ok none

/-- Whoever in the tenant may reject or remove the membership can, and the project is free
for another. -/
structure Answerable (db : Db) (m : ReleaseMembership) : Prop where
  reject : m.state = .pending_request → ∀ user notes now, user.active_tenant_id = m.tenant_id →
    ByRole db m user "membership.reject" (reject db user m.id notes now)
      fun db' => Freed db' m.project_release_id
  remove : m.state = .accepted → ∀ user reason now, user.active_tenant_id = m.tenant_id →
    ByRole db m user "membership.remove" (remove db user m.id reason now)
      fun db' => Freed db' m.project_release_id

/-- And whoever may accept it can. -/
def Acceptable (db : Db) (m : ReleaseMembership) : Prop :=
  m.state = .pending_request → ∀ user now, user.active_tenant_id = m.tenant_id →
    ByRole db m user "membership.admit" (accept db user m.id now)
      fun db' => db'.parent_release_id m.project_release_id = some m.enterprise_release_id

/-- The three parts of the property, for one state. -/
structure Consistent (db : Db) : Prop where
  one_open : OneOpen db.memberships
  parent : ParentAccepted db
  enterprises : EnterprisesLive db
  answerable : ∀ m ∈ db.memberships, m.is_open = true → Answerable db m

/-- The request deletes the release, if it is not deleted yet. -/
def Deletes (request : Request) (r : Statuses.Release) : Prop :=
  ∃ user now, request = .statuses (.delete_release user r.id now) ∧
    r.tenant_id = user.active_tenant_id

/-- The request deletes no enterprise release that a membership is open for, and no project
release whose open membership is `held`. -/
def Keeps (held : ReleaseMembership → Prop) (db : Db) (request : Request) : Prop :=
  ∀ m ∈ db.memberships, m.is_open = true → ∀ r ∈ db.statuses.releases, Deletes request r →
    r.id ≠ m.enterprise_release_id ∧ (held m → r.id ≠ m.project_release_id)

/-- No enterprise with an open membership goes, and no project with an accepted one. -/
def KeepsReleases : Db → Request → Prop := Keeps fun m => m.state = .accepted

/-- Nor does a project with a pending one. -/
def KeepsParties : Db → Request → Prop := Keeps fun _ => True

/-- The two releases of a membership are of its tenant, and of their kinds. -/
structure Registered (db : Db) : Prop where
  enterprise : ∀ m ∈ db.memberships, ∃ r ∈ db.statuses.releases,
    r.id = m.enterprise_release_id ∧ r.tenant_id = m.tenant_id ∧ r.release_kind = "enterprise"
  project : ∀ m ∈ db.memberships, ∃ r ∈ db.statuses.releases,
    r.id = m.project_release_id ∧ r.tenant_id = m.tenant_id ∧ r.release_kind = "project"

/-! ## Look-ups -/

theorem _get_release_ok :
    _get_release db release_id tenant_id = .ok r ↔
      r ∈ db.statuses.releases ∧ r.id = release_id ∧ r.tenant_id = tenant_id ∧
        r.deleted_at = none := by
  rw [_get_release, Statuses._get_release, get_or_raise_eq_ok]
  exact Table.select_one_key_iff fun _ hmatch => hmatch.1

theorem _get_membership_ok {membership_id : ℕ} {m : ReleaseMembership} :
    _get_membership db membership_id tenant_id = .ok m ↔
      m ∈ db.memberships ∧ m.id = membership_id ∧ m.tenant_id = tenant_id := by
  rw [_get_membership, get_or_raise_eq_ok]
  exact Table.select_one_key_iff fun _ hmatch => hmatch.1

theorem scalar_one_or_none_none {rows : List ReleaseMembership} :
    scalar_one_or_none rows = .ok none ↔ rows = [] := by
  match rows with
  | [] => simp [scalar_one_or_none]
  | [m] => simp [scalar_one_or_none]
  | _ :: _ :: _ => simp [scalar_one_or_none]

theorem freed_iff {project_release_id : ℕ} :
    Freed db project_release_id ↔
      ∀ m ∈ db.memberships, m.project_release_id = project_release_id → m.is_open = false := by
  rw [Freed, _get_open_membership_for_project, scalar_one_or_none_none, Table.select,
    List.filter_eq_nil_iff]
  refine forall₂_congr fun m _ => ?_
  simp

/-! ## What requests write -/

/-- A later version of a membership, of the same two releases. -/
structure SameParties (a b : ReleaseMembership) : Prop where
  tenant : b.tenant_id = a.tenant_id
  enterprise : b.enterprise_release_id = a.enterprise_release_id
  project : b.project_release_id = a.project_release_id

/-- A later version of a release, which is live as long as the request does not delete it. -/
structure Later (request : Request) (a b : Statuses.Release) : Prop where
  id : b.id = a.id
  tenant : b.tenant_id = a.tenant_id
  kind : b.release_kind = a.release_kind
  deleted : ¬ Deletes request a → b.deleted_at = a.deleted_at

theorem Later.refl (request : Request) (r : Statuses.Release) : Later request r r :=
  ⟨rfl, rfl, rfl, fun _ => rfl⟩

/-- What an accepted request does to memberships, parents and releases. -/
inductive Writes (db : Db) (request : Request) : Db → Prop
  | requested {user : CurrentUser} {enterprise project : Statuses.Release}
      {notes : Option String} {now : DateTime}
      (henterprise : _get_release db enterprise.id user.active_tenant_id = .ok enterprise)
      (hproject : _get_release db project.id user.active_tenant_id = .ok project)
      (hkind : enterprise.release_kind = "enterprise") (hkind' : project.release_kind = "project")
      (hfreed : Freed db project.id) :
      Writes db request { db with
        memberships := db.memberships.insert
          ⟨requested_row user enterprise.id project.id notes now, fun _ => rfl⟩ }
  | accepted {m : ReleaseMembership} {project enterprise : Statuses.Release}
      {f : Table.Edit ReleaseMembership.id} (hm : m ∈ db.memberships)
      (hpending : m.state = .pending_request) (hproject : project.id = m.project_release_id)
      (hlive : Live db project.id) (henterprise : enterprise.id = m.enterprise_release_id)
      (hf : ∀ m, SameParties m (f.apply m))
      (hstate : ∀ m, (f.apply m).state = .accepted) :
      Writes db request ((db.set_membership m f).set_parent project (some enterprise.id))
  | closed {m : ReleaseMembership} {f : Table.Edit ReleaseMembership.id} (hm : m ∈ db.memberships)
      (hpending : m.state = .pending_request) (hf : ∀ m, SameParties m (f.apply m))
      (hstate : ∀ m, (f.apply m).is_open = false) :
      Writes db request (db.set_membership m f)
  | removed {m : ReleaseMembership} {project : Statuses.Release}
      {f : Table.Edit ReleaseMembership.id} (hm : m ∈ db.memberships)
      (haccepted : m.state = .accepted) (hproject : project.id = m.project_release_id)
      (hf : ∀ m, SameParties m (f.apply m)) (hstate : ∀ m, (f.apply m).is_open = false) :
      Writes db request ((db.set_membership m f).set_parent project none)
  | releases {statuses : Statuses.Db}
      (hreleases : Table.Retains (Later request) db.statuses.releases statuses.releases) :
      Writes db request { db with statuses := statuses }

/-- No request about something else takes a release away. -/
theorem retains_statuses {request : Statuses.Request} {statuses : Statuses.Db}
    (hok : Statuses.handle ext db.statuses request = .ok statuses) :
    Table.Retains (Later (.statuses request)) db.statuses.releases statuses.releases := by
  cases Statuses.effect_of_handle hok with
  | templates => exact Table.retains_refl (Later.refl _) _
  | created => exact Table.retains_insert (Later.refl _) _ _
  | moved => exact Table.retains_update (Later.refl _) _ _ fun r => ⟨rfl, rfl, rfl, fun _ => rfl⟩
  | other _ _ hreleases =>
    rw [hreleases]
    exact Table.retains_refl (Later.refl _) _
  | deleted hrelease =>
    obtain ⟨hr, rfl, htenant, -⟩ := _get_release_ok.1 hrelease
    refine Table.retains_update_key (Later.refl _) hr ⟨rfl, rfl, rfl, fun hnot => ?_⟩
    exact absurd ⟨_, _, rfl, htenant⟩ hnot

/-- What a request writes, with the checks it has passed. -/
theorem writes_of_handle (hok : handle ext db request = .ok db') :
    Writes db request db' := by
  cases request with
  | request_membership user enterprise_id project_release_id notes now =>
    simp only [handle, request_membership, bind_eq_ok, raise_if_eq_ok, exists_const, not_not,
      Except.ok.injEq] at hok
    obtain ⟨enterprise, henterprise, project, hproject, hkind, hkind', existing, hexisting, hnone,
      rfl⟩ := hok
    obtain rfl := (_get_release_ok.1 henterprise).2.1
    obtain rfl := (_get_release_ok.1 hproject).2.1
    rw [hnone] at hexisting
    exact Writes.requested henterprise hproject hkind hkind' hexisting
  | accept_membership user membership_id now =>
    simp only [handle, accept, _require_state, bind_eq_ok, raise_if_eq_ok, exists_const, not_not,
      Except.ok.injEq] at hok
    obtain ⟨m, hm, hpending, enterprise, henterprise, project, hproject, _, -, existing, -, -,
      tpl, -, rfl⟩ := hok
    obtain ⟨hmem, hid, -, hlive⟩ := _get_release_ok.1 hproject
    exact Writes.accepted (_get_membership_ok.1 hm).1 hpending hid ⟨_, hmem, rfl, hlive⟩
      (_get_release_ok.1 henterprise).2.1 (fun _ => ⟨rfl, rfl, rfl⟩) fun _ => rfl
  | reject_membership user membership_id notes now =>
    simp only [handle, reject, _require_state, bind_eq_ok, raise_if_eq_ok, exists_const, not_not,
      Except.ok.injEq] at hok
    obtain ⟨m, hm, hpending, enterprise, -, _, -, rfl⟩ := hok
    exact Writes.closed (_get_membership_ok.1 hm).1 hpending (fun _ => ⟨rfl, rfl, rfl⟩) fun _ => rfl
  | withdraw_membership user membership_id now =>
    simp only [handle, withdraw, _require_state, bind_eq_ok, raise_if_eq_ok, exists_const, not_not,
      Except.ok.injEq] at hok
    obtain ⟨m, hm, hpending, -, rfl⟩ := hok
    exact Writes.closed (_get_membership_ok.1 hm).1 hpending (fun _ => ⟨rfl, rfl, rfl⟩) fun _ => rfl
  | remove_membership user membership_id reason now =>
    simp only [handle, remove, _require_state, bind_eq_ok, raise_if_eq_ok, exists_const, not_not,
      Except.ok.injEq] at hok
    obtain ⟨m, hm, haccepted, enterprise, -, project, hproject, _, -, rfl⟩ := hok
    exact Writes.removed (_get_membership_ok.1 hm).1 haccepted (_get_release_ok.1 hproject).2.1
      (fun _ => ⟨rfl, rfl, rfl⟩) fun _ => rfl
  | update_release user release_id data =>
    obtain ⟨statuses, hupdate, rfl⟩ := map_eq_ok.1 hok
    simp only [update_release, bind_eq_ok, Except.ok.injEq] at hupdate
    obtain ⟨release, -, _, -, _, -, _, -, _, -, rfl⟩ := hupdate
    exact Writes.releases (Table.retains_update (Later.refl _) _ _
      fun r => ⟨rfl, rfl, rfl, fun _ => rfl⟩)
  | statuses request =>
    obtain ⟨statuses, hstatuses, rfl⟩ := map_eq_ok.1 hok
    exact Writes.releases (retains_statuses hstatuses)

/-! ## What requests keep -/

theorem Registered.memberships {f : Table.Edit ReleaseMembership.id} {m : ReleaseMembership}
    (h : Registered db) (hf : ∀ m, SameParties m (f.apply m)) :
    Registered ⟨db.statuses, parent, (db.set_membership m f).memberships⟩ := by
  have horigin : ∀ a ∈ (db.set_membership m f).memberships, ∃ b ∈ db.memberships,
      SameParties b a := by
    intro a ha
    rcases Table.mem_update_cases ha with ⟨b, hb, -, rfl⟩ | ⟨ha, -⟩
    · exact ⟨b, hb, hf b⟩
    · exact ⟨a, ha, rfl, rfl, rfl⟩
  constructor
  · intro a ha
    obtain ⟨b, hb, hsame⟩ := horigin a ha
    rw [hsame.enterprise, hsame.tenant]
    exact h.enterprise b hb
  · intro a ha
    obtain ⟨b, hb, hsame⟩ := horigin a ha
    rw [hsame.project, hsame.tenant]
    exact h.project b hb

theorem registered_of_writes (h : Registered db)
    (hwrites : Writes db request db') : Registered db' := by
  cases hwrites with
  | requested henterprise hproject hkind hkind' hfreed =>
    obtain ⟨henterprise, -, htenant, -⟩ := _get_release_ok.1 henterprise
    obtain ⟨hproject, -, htenant', -⟩ := _get_release_ok.1 hproject
    constructor
    · intro m hm
      rcases Table.mem_insert.1 hm with hm | rfl
      · exact h.enterprise m hm
      · exact ⟨_, henterprise, rfl, htenant, hkind⟩
    · intro m hm
      rcases Table.mem_insert.1 hm with hm | rfl
      · exact h.project m hm
      · exact ⟨_, hproject, rfl, htenant', hkind'⟩
  | accepted hm hpending hproject hlive henterprise hf hstate => exact h.memberships hf
  | closed hm hpending hf hstate => exact h.memberships hf
  | removed hm haccepted hproject hf hstate => exact h.memberships hf
  | releases hreleases =>
    constructor
    · intro m hm
      obtain ⟨r, hr, hid, htenant, hkind⟩ := h.enterprise m hm
      obtain ⟨r', hr', hlater⟩ := hreleases r hr
      exact ⟨r', hr', hlater.id.trans hid, hlater.tenant.trans htenant, hlater.kind.trans hkind⟩
    · intro m hm
      obtain ⟨r, hr, hid, htenant, hkind⟩ := h.project m hm
      obtain ⟨r', hr', hlater⟩ := hreleases r hr
      exact ⟨r', hr', hlater.id.trans hid, hlater.tenant.trans htenant, hlater.kind.trans hkind⟩

section

variable {memberships : Table ReleaseMembership ReleaseMembership.id} {m : ReleaseMembership}
  {f : Table.Edit ReleaseMembership.id}

theorem is_open_of_pending (h : m.state = .pending_request) : m.is_open = true := by
  rw [ReleaseMembership.is_open, h]
  rfl

theorem is_open_of_accepted (h : m.state = .accepted) : m.is_open = true := by
  rw [ReleaseMembership.is_open, h]
  rfl

theorem not_accepted_of_closed (h : m.is_open = false) : m.state ≠ .accepted := by
  intro haccepted
  rw [is_open_of_accepted haccepted] at h
  cases h

/-- A membership that was open may change as it likes. -/
theorem OneOpen.update (h : OneOpen memberships) (hm : m ∈ memberships) (hopen : m.is_open = true)
    (hf : ∀ m, SameParties m (f.apply m)) :
    OneOpen (memberships.update (fun m' => m'.id = m.id) f) := by
  have horigin : ∀ a ∈ memberships.update (fun m' => m'.id = m.id) f, a.is_open = true →
      ∃ b ∈ memberships, b.is_open = true ∧ a.id = b.id ∧
        a.project_release_id = b.project_release_id := by
    intro a ha haopen
    rcases Table.mem_update_cases ha with ⟨b, hb, hp, rfl⟩ | ⟨ha, -⟩
    · obtain rfl := (Table.key_match hm b hb).1 hp
      exact ⟨b, hb, hopen, f.key_apply b, (hf b).project⟩
    · exact ⟨a, ha, haopen, rfl, rfl⟩
  intro a ha b hb haopen hbopen hproject
  obtain ⟨a₀, ha₀, hopen₀, hid, hproject₀⟩ := horigin a ha haopen
  obtain ⟨b₀, hb₀, hopen₁, hid', hproject₁⟩ := horigin b hb hbopen
  have heq : a₀ = b₀ := h a₀ ha₀ b₀ hb₀ hopen₀ hopen₁ (by rw [← hproject₀, hproject, hproject₁])
  exact Table.eq_of_key_eq ha hb (by rw [hid, hid', heq])

/-- The accepted memberships after one has changed. -/
theorem accepted_update_iff (hm : m ∈ memberships) (hf : ∀ m, SameParties m (f.apply m)) :
    (∃ a ∈ memberships.update (fun m' => m'.id = m.id) f, a.state = .accepted ∧
        a.enterprise_release_id = enterprise_id ∧ a.project_release_id = release_id) ↔
      ((f.apply m).state = .accepted ∧ m.enterprise_release_id = enterprise_id ∧
        m.project_release_id = release_id) ∨
      ∃ a ∈ memberships, a ≠ m ∧ a.state = .accepted ∧ a.enterprise_release_id = enterprise_id ∧
        a.project_release_id = release_id := by
  constructor
  · rintro ⟨a, ha, hstate, henterprise, hproject⟩
    rcases Table.mem_update_cases ha with ⟨b, hb, hp, rfl⟩ | ⟨ha, hp⟩
    · obtain rfl := (Table.key_match hm b hb).1 hp
      exact Or.inl ⟨hstate, (hf b).enterprise.symm.trans henterprise,
        (hf b).project.symm.trans hproject⟩
    · refine Or.inr ⟨a, ha, ?_, hstate, henterprise, hproject⟩
      rintro rfl
      exact of_decide_eq_false hp rfl
  · rintro (⟨hstate, henterprise, hproject⟩ | ⟨a, ha, hne, hrest⟩)
    · exact ⟨f.apply m, Table.mem_update_of_pos hm (decide_eq_true rfl), hstate,
        (hf m).enterprise.trans henterprise, (hf m).project.trans hproject⟩
    · refine ⟨a, Table.mem_update_of_neg ha (decide_eq_false fun hid => hne ?_), hrest⟩
      exact Table.eq_of_key_eq ha hm hid

/-- No other membership of the project is accepted while one is open. -/
theorem OneOpen.none_accepted (h : OneOpen memberships) (hm : m ∈ memberships)
    (hopen : m.is_open = true) {a : ReleaseMembership} (ha : a ∈ memberships) (hne : a ≠ m)
    (hstate : a.state = .accepted) : a.project_release_id ≠ m.project_release_id := by
  intro hproject
  exact hne (h a ha m hm (is_open_of_accepted hstate) hopen hproject)

theorem OneOpen.none_accepted_besides (h : OneOpen memberships) (hm : m ∈ memberships)
    (hopen : m.is_open = true) :
    ¬ ∃ a ∈ memberships, a ≠ m ∧ a.state = .accepted ∧ a.enterprise_release_id = enterprise_id ∧
      a.project_release_id = m.project_release_id := by
  rintro ⟨a, ha, hne, hstate, -, hproject⟩
  exact h.none_accepted hm hopen ha hne hstate hproject

/-- Among the accepted memberships of a project, one that is none of them can be left out. -/
theorem accepted_besides_iff (hnot : m.state = .accepted → m.project_release_id ≠ release_id) :
    (∃ a ∈ memberships, a ≠ m ∧ a.state = .accepted ∧ a.enterprise_release_id = enterprise_id ∧
        a.project_release_id = release_id) ↔
      ∃ a ∈ memberships, a.state = .accepted ∧ a.enterprise_release_id = enterprise_id ∧
        a.project_release_id = release_id := by
  constructor
  · rintro ⟨a, ha, -, hrest⟩
    exact ⟨a, ha, hrest⟩
  · rintro ⟨a, ha, hstate, henterprise, hproject⟩
    refine ⟨a, ha, ?_, hstate, henterprise, hproject⟩
    rintro rfl
    exact hnot hstate hproject

end

theorem oneOpen_of_writes (h : OneOpen db.memberships)
    (hwrites : Writes db request db') : OneOpen db'.memberships := by
  cases hwrites with
  | requested henterprise hproject hkind hkind' hfreed =>
    have hnone := freed_iff.1 hfreed
    intro a ha b hb haopen hbopen hsame
    rcases Table.mem_insert.1 ha with ha | rfl
    · rcases Table.mem_insert.1 hb with hb | rfl
      · exact h a ha b hb haopen hbopen hsame
      · rw [hnone a ha hsame] at haopen
        cases haopen
    · rcases Table.mem_insert.1 hb with hb | rfl
      · rw [hnone b hb hsame.symm] at hbopen
        cases hbopen
      · rfl
  | accepted hm hpending hproject hlive henterprise hf hstate =>
    exact h.update hm (is_open_of_pending hpending) hf
  | closed hm hpending hf hstate => exact h.update hm (is_open_of_pending hpending) hf
  | removed hm haccepted hproject hf hstate => exact h.update hm (is_open_of_accepted haccepted) hf
  | releases => exact h

theorem parentAccepted_of_writes (hone : OneOpen db.memberships)
    (h : ParentAccepted db) (hwrites : Writes db request db') : ParentAccepted db' := by
  intro release_id enterprise_id
  -- an acceptance sets the pointer with the state, a removal clears it, and no other write does
  cases hwrites with
  | requested henterprise hproject hkind hkind' hfreed =>
    show db.parent_release_id release_id = some enterprise_id ↔ _
    rw [h release_id enterprise_id]
    constructor
    · rintro ⟨m, hm, hrest⟩
      exact ⟨m, Table.mem_insert.2 (Or.inl hm), hrest⟩
    · rintro ⟨m, hm, hstate, hrest⟩
      rcases Table.mem_insert.1 hm with hm | rfl
      · exact ⟨m, hm, hstate, hrest⟩
      · cases hstate
  | @accepted m project enterprise f hm hpending hproject hlive henterprise hf hstate =>
    have hopen := is_open_of_pending hpending
    show Function.update db.parent_release_id project.id (some enterprise.id) release_id =
      some enterprise_id ↔ _
    refine Iff.trans ?_ (accepted_update_iff hm hf).symm
    by_cases hsame : release_id = project.id
    · subst hsame
      rw [Function.update_self, Option.some_inj, henterprise, hproject,
        or_iff_left (hone.none_accepted_besides hm hopen)]
      constructor
      · intro heq
        exact ⟨hstate m, heq, rfl⟩
      · rintro ⟨-, heq, -⟩
        exact heq
    · have hnot : m.state = .accepted → m.project_release_id ≠ release_id :=
        fun haccepted => absurd (hpending.symm.trans haccepted) (by decide)
      rw [Function.update_of_ne hsame, h release_id enterprise_id, accepted_besides_iff hnot,
        or_iff_right]
      rintro ⟨-, -, hproject'⟩
      exact hsame (hproject'.symm.trans hproject.symm)
  | @closed m f hm hpending hf hstate =>
    show db.parent_release_id release_id = some enterprise_id ↔ _
    refine Iff.trans ?_ (accepted_update_iff hm hf).symm
    have hnot : m.state = .accepted → m.project_release_id ≠ release_id :=
      fun haccepted => absurd (hpending.symm.trans haccepted) (by decide)
    rw [h release_id enterprise_id, accepted_besides_iff hnot, or_iff_right]
    rintro ⟨haccepted, -⟩
    exact not_accepted_of_closed (hstate m) haccepted
  | @removed m project f hm haccepted hproject hf hstate =>
    have hopen := is_open_of_accepted haccepted
    show Function.update db.parent_release_id project.id none release_id =
      some enterprise_id ↔ _
    refine Iff.trans ?_ (accepted_update_iff hm hf).symm
    rw [or_iff_right fun h => not_accepted_of_closed (hstate m) h.1]
    by_cases hsame : release_id = project.id
    · subst hsame
      rw [Function.update_self, hproject]
      exact iff_of_false (by simp) (hone.none_accepted_besides hm hopen)
    · rw [Function.update_of_ne hsame, h release_id enterprise_id, accepted_besides_iff]
      intro _ hproject'
      exact hsame (hproject'.symm.trans hproject.symm)
  | releases => exact h release_id enterprise_id

/-- A change of an open membership leaves it with the same enterprise. -/
theorem EnterprisesLive.set_membership {m : ReleaseMembership} {f : Table.Edit ReleaseMembership.id}
    (h : EnterprisesLive db) (hm : m ∈ db.memberships) (hopen : m.is_open = true)
    (hf : ∀ m, SameParties m (f.apply m)) :
    EnterprisesLive ⟨db.statuses, parent, (db.set_membership m f).memberships⟩ := by
  intro a ha haopen
  rcases Table.mem_update_cases ha with ⟨b, hb, hp, rfl⟩ | ⟨ha, -⟩
  · obtain rfl := (Table.key_match hm b hb).1 hp
    rw [(hf b).enterprise]
    exact h b hb hopen
  · exact h a ha haopen

/-- What a membership that closes was for does not matter any more. -/
theorem ProjectsLive.closed {m : ReleaseMembership} {f : Table.Edit ReleaseMembership.id}
    (h : ProjectsLive held db) (hstate : ∀ m, (f.apply m).is_open = false) :
    ProjectsLive held ⟨db.statuses, parent, (db.set_membership m f).memberships⟩ := by
  intro a ha haopen hheld
  rcases Table.mem_update_cases ha with ⟨b, -, -, rfl⟩ | ⟨ha, -⟩
  · rw [hstate b] at haopen
    cases haopen
  · exact h a ha haopen hheld

/-- The enterprises stay live unless one is deleted. -/
theorem enterprisesLive_of_writes (h : EnterprisesLive db)
    (hkeeps : Keeps held db request) (hwrites : Writes db request db') : EnterprisesLive db' := by
  cases hwrites with
  | requested henterprise hproject hkind hkind' hfreed =>
    obtain ⟨henterprise, -, -, hlive⟩ := _get_release_ok.1 henterprise
    intro m hm hopen
    rcases Table.mem_insert.1 hm with hm | rfl
    · exact h m hm hopen
    · exact ⟨_, henterprise, rfl, hkind, hlive⟩
  | accepted hm hpending hproject hlive henterprise hf hstate =>
    exact h.set_membership hm (is_open_of_pending hpending) hf
  | closed hm hpending hf hstate => exact h.set_membership hm (is_open_of_pending hpending) hf
  | removed hm haccepted hproject hf hstate =>
    exact h.set_membership hm (is_open_of_accepted haccepted) hf
  | releases hreleases =>
    intro m hm hopen
    obtain ⟨r, hr, hid, hkind, hlive⟩ := h m hm hopen
    obtain ⟨r', hr', hlater⟩ := hreleases r hr
    have hstays := hlater.deleted fun hdeletes => (hkeeps m hm hopen r hr hdeletes).1 hid
    exact ⟨r', hr', hlater.id.trans hid, hlater.kind.trans hkind, hstays.trans hlive⟩

/-- And so do the projects of what is held. A membership is accepted for a live one. -/
theorem projectsLive_of_writes (h : ProjectsLive held db)
    (hkeeps : Keeps held db request) (hwrites : Writes db request db') : ProjectsLive held db' := by
  cases hwrites with
  | requested henterprise hproject hkind hkind' hfreed =>
    obtain ⟨hproject, -, -, hlive⟩ := _get_release_ok.1 hproject
    intro m hm hopen hheld
    rcases Table.mem_insert.1 hm with hm | rfl
    · exact h m hm hopen hheld
    · exact ⟨_, hproject, rfl, hlive⟩
  | @accepted m project enterprise f hm hpending hproject hlive henterprise hf hstate =>
    intro a ha haopen hheld
    rcases Table.mem_update_cases ha with ⟨b, hb, hp, rfl⟩ | ⟨ha, -⟩
    · obtain rfl := (Table.key_match hm b hb).1 hp
      rw [(hf b).project, ← hproject]
      exact hlive
    · exact h a ha haopen hheld
  | closed hm hpending hf hstate => exact h.closed hstate
  | removed hm haccepted hproject hf hstate => exact h.closed hstate
  | releases hreleases =>
    intro m hm hopen hheld
    obtain ⟨r, hr, hid, hlive⟩ := h m hm hopen hheld
    obtain ⟨r', hr', hlater⟩ := hreleases r hr
    have hstays := hlater.deleted fun hdeletes => (hkeeps m hm hopen r hr hdeletes).2 hheld hid
    exact ⟨r', hr', hlater.id.trans hid, hstays.trans hlive⟩

/-! ## What can still be decided -/

/-- The enterprise of an open membership is found in its tenant. -/
theorem enterprise_found (hregistered : Registered db) (hlive : EnterprisesLive db)
    {m : ReleaseMembership} (hm : m ∈ db.memberships) (hopen : m.is_open = true) :
    ∃ r, _get_release db m.enterprise_release_id m.tenant_id = .ok r := by
  obtain ⟨r, hr, hid, htenant, -⟩ := hregistered.enterprise m hm
  obtain ⟨r', hr', hid', -, hlive⟩ := hlive m hm hopen
  obtain rfl : r' = r := Table.eq_of_key_eq hr' hr (hid'.trans hid.symm)
  exact ⟨r', _get_release_ok.2 ⟨hr', hid', htenant, hlive⟩⟩

/-- So is its project, unless it is deleted. -/
theorem project_found (hregistered : Registered db) {m : ReleaseMembership}
    (hm : m ∈ db.memberships) (hlive : Live db m.project_release_id) :
    ∃ r, _get_release db m.project_release_id m.tenant_id = .ok r := by
  obtain ⟨r, hr, hid, htenant, -⟩ := hregistered.project m hm
  obtain ⟨r', hr', hid', hlive⟩ := hlive
  obtain rfl : r' = r := Table.eq_of_key_eq hr' hr (hid'.trans hid.symm)
  exact ⟨r', _get_release_ok.2 ⟨hr', hid', htenant, hlive⟩⟩

/-- Closing the one open membership frees the project. -/
theorem freed_of_closed (hone : OneOpen db.memberships) {m : ReleaseMembership}
    {f : Table.Edit ReleaseMembership.id} (hm : m ∈ db.memberships) (hopen : m.is_open = true)
    (hstate : (f.apply m).is_open = false) :
    Freed (db.set_membership m f) m.project_release_id := by
  refine freed_iff.2 fun a ha hproject => ?_
  rcases Table.mem_update_cases ha with ⟨b, hb, hp, rfl⟩ | ⟨ha, hp⟩
  · obtain rfl := (Table.key_match hm b hb).1 hp
    exact hstate
  · by_contra haopen
    obtain rfl := hone a ha m hm (by simpa using haopen) hopen hproject
    exact of_decide_eq_false hp rfl

/-- A permission that is refused is not a release that is missing. -/
theorem check_ne_not_found {user : CurrentUser} {action_key : String} :
    _check_action_permission db r user action_key ≠ .error (http 404 "Release not found") := by
  intro h
  simp only [_check_action_permission, bind_eq_error, get_or_raise_eq_error, raise_if_eq_error,
    http, Raised.HTTPException.injEq, Detail.text.injEq] at h
  obtain ⟨-, -, h⟩ | ⟨-, -, -, h, -⟩ := h
  · exact absurd h (by decide)
  · exact absurd h (by decide)

section Decisions

variable {m : ReleaseMembership} {enterprise project : Statuses.Release} {user : CurrentUser}

/-- What goes on to `rest` once the permission is checked is a matter of the role, if `rest`
does not fail. -/
theorem byRole_of_eq {action_key : String} {result rest : Except Raised Db} {after : Db → Prop}
    (henterprise : _get_release db m.enterprise_release_id m.tenant_id = .ok enterprise)
    (hresult : result = (_check_action_permission db enterprise user action_key >>= fun _ => rest))
    (hrest : _check_action_permission db enterprise user action_key = .ok () →
      ∃ db', rest = .ok db' ∧ after db') : ByRole db m user action_key result after := by
  subst hresult
  obtain ⟨hmem, hid, -⟩ := _get_release_ok.1 henterprise
  have hsame : ∀ r ∈ db.statuses.releases, r.id = m.enterprise_release_id → r = enterprise :=
    fun r hr hid' => Table.eq_of_key_eq hr hmem (hid'.trans hid.symm)
  cases hcheck : _check_action_permission db enterprise user action_key with
  | error e =>
    refine ⟨fun r hr hid' => ?_, fun db' hok => by cases hok⟩
    rw [hsame r hr hid', hcheck]
    rfl
  | ok u =>
    obtain ⟨db', hok, hafter⟩ := hrest hcheck
    refine ⟨fun r hr hid' => ?_, fun db'' hok' => ?_⟩
    · rw [hsame r hr hid', hcheck, hok]
      rfl
    · obtain rfl := Except.ok.inj (hok.symm.trans hok')
      exact hafter

section Open

variable (hm : m ∈ db.memberships) (hone : OneOpen db.memberships)
  (henterprise : _get_release db m.enterprise_release_id m.tenant_id = .ok enterprise)
include hm hone henterprise

/-- With both releases live, a pending membership can be accepted. -/
theorem acceptable_of_found
    (hproject : _get_release db m.project_release_id m.tenant_id = .ok project) :
    Acceptable db m := by
  intro hpending user now htenant
  have hfound := _get_membership_ok.2 ⟨hm, rfl, rfl⟩
  have hid := (_get_release_ok.1 henterprise).2.1
  have hid' := (_get_release_ok.1 hproject).2.1
  -- while it is pending, no other membership of the project is accepted
  have hnone : scalar_one_or_none (db.memberships.select fun m' =>
      m'.project_release_id = project.id ∧ m'.state = .accepted) = .ok none := by
    refine scalar_one_or_none_none.2 (List.filter_eq_nil_iff.2 fun a ha hmatch => ?_)
    obtain ⟨hsame, haccepted⟩ := of_decide_eq_true hmatch
    have hne : a ≠ m := by
      rintro rfl
      exact absurd (hpending.symm.trans haccepted) (by decide)
    exact hone.none_accepted hm (is_open_of_pending hpending) ha hne haccepted (hsame.trans hid')
  simp only [accept, _require_state, htenant, hfound, henterprise, hproject, hnone, ok_bind,
    raise_if_neg (not_not.2 hpending), raise_if_neg (not_not.2 (rfl : none = none))]
  refine byRole_of_eq henterprise rfl fun hcheck => ?_
  -- the check has read the template already
  simp only [_check_action_permission, bind_eq_ok, get_or_raise_eq_ok] at hcheck
  obtain ⟨tpl, htpl, -⟩ := hcheck
  refine ⟨_, bind_eq_ok.2 ⟨tpl, get_or_raise_eq_ok.2 htpl, rfl⟩, ?_⟩
  show Function.update db.parent_release_id project.id (some enterprise.id) _ = _
  rw [hid', hid, Function.update_self]

theorem rejectable_of_found (hpending : m.state = .pending_request) (notes : String)
    (now : DateTime) (htenant : user.active_tenant_id = m.tenant_id) :
    ByRole db m user "membership.reject" (reject db user m.id notes now)
      fun db' => Freed db' m.project_release_id := by
  have hfound := _get_membership_ok.2 ⟨hm, rfl, rfl⟩
  simp only [reject, _require_state, htenant, hfound, henterprise, ok_bind,
    raise_if_neg (not_not.2 hpending)]
  refine byRole_of_eq henterprise rfl fun _ => ⟨_, rfl, ?_⟩
  exact freed_of_closed hone hm (is_open_of_pending hpending) rfl

theorem removable_of_found
    (hproject : _get_release db m.project_release_id m.tenant_id = .ok project)
    (haccepted : m.state = .accepted) (reason : String) (now : DateTime)
    (htenant : user.active_tenant_id = m.tenant_id) :
    ByRole db m user "membership.remove" (remove db user m.id reason now)
      fun db' => Freed db' m.project_release_id := by
  have hfound := _get_membership_ok.2 ⟨hm, rfl, rfl⟩
  simp only [remove, _require_state, htenant, hfound, henterprise, hproject, ok_bind,
    raise_if_neg (not_not.2 haccepted)]
  refine byRole_of_eq henterprise rfl fun _ => ⟨_, rfl, ?_⟩
  exact freed_iff.2 (freed_iff.1 (freed_of_closed hone hm (is_open_of_accepted haccepted) rfl))

end Open

/-- A deleted release is not found. -/
theorem not_found (hgone : ¬ Live db release_id) :
    _get_release db release_id tenant_id = .error (http 404 "Release not found") := by
  cases hrelease : _get_release db release_id tenant_id with
  | ok r =>
    obtain ⟨hr, hid, -, hlive⟩ := _get_release_ok.1 hrelease
    exact absurd ⟨r, hr, hid, hlive⟩ hgone
  | error e =>
    rw [_get_release, Statuses._get_release, get_or_raise_eq_error] at hrelease
    rw [← hrelease.2]

section Deleted

variable (hm : m ∈ db.memberships)
  (henterprise : _get_release db m.enterprise_release_id m.tenant_id = .ok enterprise)
include hm henterprise

/-- What is accepted can be removed only for a project that is live. -/
theorem live_of_removable (h : Answerable db m) (haccepted : m.state = .accepted) :
    Live db m.project_release_id := by
  by_contra hgone
  obtain ⟨hmem, hid, -⟩ := _get_release_ok.1 henterprise
  have hfound := _get_membership_ok.2 ⟨hm, rfl, rfl⟩
  have hrole := (h.remove haccepted ⟨0, m.tenant_id, "", false⟩ "" 0 rfl).1 enterprise hmem hid
  simp only [remove, _require_state, hfound, henterprise, not_found hgone, ok_bind,
    raise_if_neg (not_not.2 haccepted)] at hrole
  exact check_ne_not_found hrole.symm

theorem live_of_acceptable (h : Acceptable db m) (hpending : m.state = .pending_request) :
    Live db m.project_release_id := by
  by_contra hgone
  obtain ⟨hmem, hid, -⟩ := _get_release_ok.1 henterprise
  have hfound := _get_membership_ok.2 ⟨hm, rfl, rfl⟩
  have hrole := (h hpending ⟨0, m.tenant_id, "", false⟩ 0 rfl).1 enterprise hmem hid
  simp only [accept, _require_state, hfound, henterprise, not_found hgone, ok_bind,
    raise_if_neg (not_not.2 hpending)] at hrole
  exact check_ne_not_found hrole.symm

end Deleted

end Decisions

/-! ## What is stored -/

/-- What the rows have to be for all of it. -/
structure Stored (held : ReleaseMembership → Prop) (db : Db) : Prop where
  one_open : OneOpen db.memberships
  parent : ParentAccepted db
  enterprises : EnterprisesLive db
  projects : ProjectsLive held db

theorem consistent_iff (hregistered : Registered db) :
    Consistent db ↔ Stored (fun m => m.state = .accepted) db := by
  constructor
  · intro h
    refine ⟨h.one_open, h.parent, h.enterprises, fun m hm hopen haccepted => ?_⟩
    obtain ⟨enterprise, henterprise⟩ := enterprise_found hregistered h.enterprises hm hopen
    exact live_of_removable hm henterprise (h.answerable m hm hopen) haccepted
  · intro h
    refine ⟨h.one_open, h.parent, h.enterprises, fun m hm hopen => ?_⟩
    obtain ⟨enterprise, henterprise⟩ := enterprise_found hregistered h.enterprises hm hopen
    constructor
    · intro hpending user notes now htenant
      exact rejectable_of_found hm h.one_open henterprise hpending notes now htenant
    · intro haccepted user reason now htenant
      obtain ⟨project, hproject⟩ :=
        project_found hregistered hm (h.projects m hm hopen haccepted)
      exact removable_of_found hm h.one_open henterprise hproject haccepted reason now htenant

theorem acceptable_iff (hregistered : Registered db) :
    (Consistent db ∧ ∀ m ∈ db.memberships, Acceptable db m) ↔ Stored (fun _ => True) db := by
  constructor
  · rintro ⟨h, hacceptable⟩
    refine ⟨h.one_open, h.parent, h.enterprises, fun m hm hopen _ => ?_⟩
    obtain ⟨enterprise, henterprise⟩ := enterprise_found hregistered h.enterprises hm hopen
    by_cases hpending : m.state = .pending_request
    · exact live_of_acceptable hm henterprise (hacceptable m hm) hpending
    · have haccepted : m.state = .accepted := by
        simpa [ReleaseMembership.is_open, hpending] using hopen
      exact live_of_removable hm henterprise (h.answerable m hm hopen) haccepted
  · intro h
    refine ⟨(consistent_iff hregistered).2 ⟨h.one_open, h.parent, h.enterprises,
      fun m hm hopen _ => h.projects m hm hopen trivial⟩, fun m hm hpending => ?_⟩
    have hopen := is_open_of_pending hpending
    obtain ⟨enterprise, henterprise⟩ := enterprise_found hregistered h.enterprises hm hopen
    obtain ⟨project, hproject⟩ := project_found hregistered hm (h.projects m hm hopen trivial)
    exact acceptable_of_found hm h.one_open henterprise hproject hpending

/-! ## Runs -/

/-- **One request.** -/
theorem stored_of_writes (h : Stored held db)
    (hkeeps : Keeps held db request) (hwrites : Writes db request db') : Stored held db' where
  one_open := oneOpen_of_writes h.one_open hwrites
  parent := parentAccepted_of_writes h.one_open h.parent hwrites
  enterprises := enterprisesLive_of_writes h.enterprises hkeeps hwrites
  projects := projectsLive_of_writes h.projects hkeeps hwrites

/-- A deletion of a release that is live, and what it leaves. -/
theorem not_live_of_deletes (ext : Bookings.External)
    (hr : r ∈ db.statuses.releases) (hlive : r.deleted_at = none) (h : Deletes request r) :
    (step ext db request).memberships = db.memberships ∧
      ∀ r' ∈ (step ext db request).statuses.releases, r'.id = r.id → r'.deleted_at ≠ none := by
  obtain ⟨user, now, rfl, htenant⟩ := h
  have hfound : Statuses._get_release db.statuses r.id user.active_tenant_id = .ok r :=
    _get_release_ok.2 ⟨hr, rfl, htenant, hlive⟩
  have hstep : step ext db (.statuses (.delete_release user r.id now)) =
      { db with statuses := { db.statuses with
        releases := db.statuses.releases.update (fun a => a.id = r.id)
          ⟨fun a => { a with deleted_at := some now }, fun _ => rfl⟩ } } := by
    simp only [step, handle, Statuses.handle, Statuses.delete_release, hfound]
    rfl
  rw [hstep]
  refine ⟨rfl, fun r' hr' hid => ?_⟩
  rcases Table.mem_update_cases hr' with ⟨a, -, -, rfl⟩ | ⟨-, hp⟩
  · exact Option.some_ne_none now
  · exact absurd hid (of_decide_eq_false hp)

theorem stored_step_iff (request : Request) (h : Stored held db) :
    Stored held (step ext db request) ↔ Keeps held db request := by
  constructor
  · intro hstep m hm hopen r hr hdeletes
    -- a release that some membership needs is live now, and would be deleted
    have hneeded : r.deleted_at = none → Live (step ext db request) r.id → False := by
      rintro hlive ⟨r', hr', hid', hlive'⟩
      exact (not_live_of_deletes ext hr hlive hdeletes).2 r' hr' hid' hlive'
    have hstays : m ∈ (step ext db request).memberships := by
      obtain ⟨user, now, rfl, -⟩ := hdeletes
      simp only [step, handle]
      cases Statuses.handle ext db.statuses (.delete_release user r.id now) with
      | ok statuses => exact hm
      | error e => exact hm
    refine ⟨fun hid => ?_, fun hheld hid => ?_⟩
    · obtain ⟨live, hmem, hid', -, hlive⟩ := h.enterprises m hm hopen
      obtain rfl : live = r := Table.eq_of_key_eq hmem hr (hid'.trans hid.symm)
      obtain ⟨r', hr', hid'', -, hlive'⟩ := hstep.enterprises m hstays hopen
      exact hneeded hlive ⟨r', hr', hid''.trans hid.symm, hlive'⟩
    · obtain ⟨live, hmem, hid', hlive⟩ := h.projects m hm hopen hheld
      obtain rfl : live = r := Table.eq_of_key_eq hmem hr (hid'.trans hid.symm)
      exact hneeded hlive (hid ▸ hstep.projects m hstays hopen hheld)
  · intro hkeeps
    exact commit_or_rollback_keeps h fun _ hok => stored_of_writes h hkeeps (writes_of_handle hok)

theorem registered_step (request : Request) (h : Registered db) :
    Registered (step ext db request) :=
  commit_or_rollback_keeps h fun _ hok => registered_of_writes h (writes_of_handle hok)

theorem registered_opened (statuses : Statuses.Db) : Registered (Db.opened statuses) :=
  ⟨fun m hm => absurd hm (Table.not_mem_empty m), fun m hm => absurd hm (Table.not_mem_empty m)⟩

theorem stored_opened (statuses : Statuses.Db) : Stored held (Db.opened statuses) where
  one_open := fun m hm => absurd hm (Table.not_mem_empty m)
  parent := by
    intro release_id enterprise_id
    constructor
    · intro hparent
      cases hparent
    · rintro ⟨m, hm, -⟩
      exact absurd hm (Table.not_mem_empty m)
  enterprises := fun m hm => absurd hm (Table.not_mem_empty m)
  projects := fun m hm => absurd hm (Table.not_mem_empty m)

/-- **Memberships and releases agree exactly as long as no enterprise release is deleted
that a membership is open for, and no project release that is in an enterprise.** For every
pending request to stay acceptable, and not only to be turned down, no project release is to
be deleted while it waits either. -/
theorem consistent_iff_along (ext : Bookings.External) (statuses : Statuses.Db)
    (requests : List Request) :
    (Always (step ext) Consistent (Db.opened statuses) requests ↔
      Along (step ext) KeepsReleases (Db.opened statuses) requests) ∧
    (Always (step ext) (fun db => Consistent db ∧ ∀ m ∈ db.memberships, Acceptable db m)
        (Db.opened statuses) requests ↔
      Along (step ext) KeepsParties (Db.opened statuses) requests) := by
  have hstart := registered_opened statuses
  constructor
  · refine always_iff_along (fun _ request => registered_step request) ?_ hstart
      ((consistent_iff hstart).2 (stored_opened statuses)) requests
    intro db request hregistered h
    rw [consistent_iff (registered_step request hregistered)]
    exact stored_step_iff request ((consistent_iff hregistered).1 h)
  · refine always_iff_along (fun _ request => registered_step request) ?_ hstart
      ((acceptable_iff hstart).2 (stored_opened statuses)) requests
    intro db request hregistered h
    rw [acceptable_iff (registered_step request hregistered)]
    exact stored_step_iff request ((acceptable_iff hregistered).1 h)

namespace Sample

def manager : CurrentUser := ⟨1, 1, Role.RELEASE_MANAGER, false⟩

def release (release_kind : String) : Table.New Statuses.Release.id where
  row id :=
    { id := id
      tenant_id := 1
      name := "Spring"
      description := none
      release_type := "Major"
      release_kind := release_kind
      owning_project_id := none
      operations_group_id := none
      template_id := none
      lifecycle_template_id := 1
      status := "draft"
      target_date := none
      actual_date := none
      scope_deadline := none
      custom_fields := none
      raised_by := 1
      handover_confirmed_at := none
      deleted_at := none }
  key_row _ := rfl

/-- An enterprise release and a project release. -/
def statuses : Statuses.Db :=
  { Statuses.Db.seeded Table.empty Table.empty Bookings.Sample.environments
      Bookings.Sample.reference ⟨[], [], [], [], []⟩ with
    releases := (Table.empty.insert (release "enterprise")).insert (release "project") }

/-- The project asks to be in the enterprise, and the enterprise is deleted. -/
def deserting : List Request :=
  [.request_membership manager 1 2 none 0, .statuses (.delete_release manager 1 1)]

def deserted : Db := run (step Bookings.Sample.ext) (Db.opened statuses) deserting

end Sample

/-- The request stays open, for a release that is gone. -/
theorem membership_outlives_enterprise :
    ¬ Always (step Bookings.Sample.ext) Consistent (Db.opened Sample.statuses)
      Sample.deserting := by
  intro h
  have hlast : Consistent Sample.deserted :=
    (always_iff _ _ _).1 h Sample.deserting [] (List.append_nil _).symm
  have hopen : ∃ m ∈ Sample.deserted.memberships, m.is_open = true ∧
      ∀ r ∈ Sample.deserted.statuses.releases, r.id = m.enterprise_release_id →
        r.deleted_at ≠ none := by
    decide +kernel
  obtain ⟨m, hm, hopen, hgone⟩ := hopen
  obtain ⟨r, hr, hid, -, hlive⟩ := hlast.enterprises m hm hopen
  exact hgone r hr hid hlive

end EnvMgr.Memberships

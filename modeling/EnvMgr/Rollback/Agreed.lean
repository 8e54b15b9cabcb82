/-
A plan that carries an agreement says what was agreed.

Plans are written, agreed, deleted and written again in any order. An agreement is the text of a
plan together with who agreed to it and when; what a step can do to one row is said once, and
from it that only `agree` makes an agreement, that every change of the text ends it, and that a
row taken over has none.
-/
import EnvMgr.Rollback.Service

namespace EnvMgr.Rollback

open Lifecycle (scalar_one_or_none scalar_one_or_none_ok)
open Runs (run Always)

variable {plan : ReleaseRollbackPlan} {request : Request} {e : Raised}
variable {plan_id system_id : ℕ} {release : Release} {q : ReleaseRollbackPlan → Bool}
  {data : RollbackPlanCreate} {f : Table.Edit ReleaseRollbackPlan.id}
variable {tenant_id release_id : ℕ} {plans : Table ReleaseRollbackPlan ReleaseRollbackPlan.id}

variable {db db' : Db} {p p' : ReleaseRollbackPlan}

/-! ## What a step can do -/

/-- What an accepted request makes of the plans. -/
inductive Written (db : Db) : Request → Table ReleaseRollbackPlan ReleaseRollbackPlan.id → Prop
  | rewritten (release_id tenant_id : ℕ) (data : RollbackPlanCreate) (plan : ReleaseRollbackPlan)
      (mem : plan ∈ db.plans) (pair : is_for release_id data.system_id tenant_id plan)
      (live : plan.deleted_at = none) :
      Written db (.upsert release_id tenant_id data)
        (db.plans.update (fun p => p.id = plan.id) (rewrite data))
  | revived (release_id tenant_id : ℕ) (data : RollbackPlanCreate) (plan : ReleaseRollbackPlan)
      (mem : plan ∈ db.plans) (pair : is_for release_id data.system_id tenant_id plan)
      (dead : plan.deleted_at ≠ none) :
      Written db (.upsert release_id tenant_id data)
        (db.plans.update (fun p => p.id = plan.id) (revive data))
  | created (release_id tenant_id : ℕ) (data : RollbackPlanCreate) (release : Release)
      (found : release ∈ db.releases) (id : release.id = release_id)
      (tenant : release.tenant_id = tenant_id)
      (free : ∀ p ∈ db.plans, ¬ (p.release_id = release_id ∧ p.system_id = data.system_id)) :
      Written db (.upsert release_id tenant_id data)
        (db.plans.insert (new_plan tenant_id release_id data))
  | agreed (release_id plan_id tenant_id user_id : ℕ) (now : DateTime)
      (plan : ReleaseRollbackPlan) (mem : plan ∈ db.plans) (id : plan.id = plan_id)
      (live : plan.deleted_at = none) :
      Written db (.agree release_id plan_id tenant_id user_id now)
        (db.plans.update (fun p => p.id = plan.id) (agree user_id now))
  | deleted (release_id plan_id tenant_id : ℕ) (now : DateTime) (plan : ReleaseRollbackPlan)
      (mem : plan ∈ db.plans) (id : plan.id = plan_id) (live : plan.deleted_at = none) :
      Written db (.delete release_id plan_id tenant_id now)
        (db.plans.update (fun p => p.id = plan.id) (mark_deleted now))
  | elsewhere (request : Request) : Written db request db.plans

theorem find_plan_ok (h : find_plan db release_id plan_id tenant_id = .ok plan) :
    plan ∈ db.plans ∧ plan.id = plan_id ∧ plan.deleted_at = none := by
  simp only [find_plan, bind_eq_ok, get_or_raise_eq_ok, raise_if_eq_ok, Except.ok.injEq] at h
  obtain ⟨plan', hplan, -, -, rfl⟩ := h
  obtain ⟨hmem, hp⟩ := Table.select_one_some hplan
  obtain ⟨hid, -, hlive⟩ := of_decide_eq_true hp
  exact ⟨hmem, hid, hlive⟩

theorem get_release_ok (h : _get_release db release_id tenant_id = .ok release) :
    release ∈ db.releases ∧ release.id = release_id ∧ release.tenant_id = tenant_id := by
  obtain ⟨hmem, hp⟩ := Table.select_one_some (get_or_raise_eq_ok.1 h)
  obtain ⟨hid, htenant, -⟩ := of_decide_eq_true hp
  exact ⟨hmem, hid, htenant⟩

/-- The row that a look-up found. -/
theorem found_of_ok (h : scalar_one_or_none (db.plans.select q) = .ok (some plan)) :
    plan ∈ db.plans ∧ q plan = true := by
  obtain ⟨-, hhead⟩ := scalar_one_or_none_ok.1 h
  exact Table.mem_select.1 (List.mem_of_mem_head? hhead)

theorem upsert_written (h : upsert_plan db release_id tenant_id data = .ok db') :
    Written db (.upsert release_id tenant_id data) db'.plans ∧ db'.releases = db.releases := by
  simp only [upsert_plan, bind_eq_ok] at h
  obtain ⟨release, hrelease, -, -, existing, hexisting, h⟩ := h
  obtain ⟨hmem, hid, htenant⟩ := get_release_ok hrelease
  -- a live row is rewritten, a deleted one comes back, and only then is one made
  cases existing with
  | some plan =>
    obtain rfl := Except.ok.inj h
    obtain ⟨hplan, hq⟩ := found_of_ok hexisting
    obtain ⟨hpair, hlive⟩ := of_decide_eq_true hq
    exact ⟨.rewritten release_id tenant_id data plan hplan hpair hlive, rfl⟩
  | none =>
    simp only [bind_eq_ok] at h
    obtain ⟨revived, hrevived, h⟩ := h
    cases revived with
    | some plan =>
      obtain rfl := Except.ok.inj h
      obtain ⟨hplan, hq⟩ := found_of_ok hrevived
      obtain ⟨hpair, hdead⟩ := of_decide_eq_true hq
      exact ⟨.revived release_id tenant_id data plan hplan hpair hdead, rfl⟩
    | none =>
      simp only [add_plan, bind_eq_ok, raise_if_eq_ok, Except.ok.injEq] at h
      obtain ⟨-, hfree, rfl⟩ := h
      refine ⟨.created release_id tenant_id data release hmem hid htenant fun p hp hpair => ?_, rfl⟩
      exact hfree ⟨p, hp, hpair⟩

/-- No release changes hands. -/
def Kept (db db' : Db) : Prop :=
  ∀ r ∈ db.releases, ∃ r' ∈ db'.releases, r'.id = r.id ∧ r'.tenant_id = r.tenant_id

theorem kept_of_eq (h : db'.releases = db.releases) : Kept db db' :=
  fun r hr => ⟨r, h ▸ hr, rfl, rfl⟩

theorem handle_ok (h : handle db request = .ok db') :
    Written db request db'.plans ∧ Kept db db' := by
  cases request with
  | upsert release_id tenant_id data =>
    obtain ⟨hwritten, hreleases⟩ := upsert_written h
    exact ⟨hwritten, kept_of_eq hreleases⟩
  | agree release_id plan_id tenant_id user_id now =>
    simp only [handle, agree_plan, bind_eq_ok, Except.ok.injEq] at h
    obtain ⟨plan, hplan, rfl⟩ := h
    obtain ⟨hmem, hid, hlive⟩ := find_plan_ok hplan
    exact ⟨.agreed release_id plan_id tenant_id user_id now plan hmem hid hlive, kept_of_eq rfl⟩
  | delete release_id plan_id tenant_id now =>
    simp only [handle, delete_plan, bind_eq_ok, Except.ok.injEq] at h
    obtain ⟨plan, hplan, rfl⟩ := h
    obtain ⟨hmem, hid, hlive⟩ := find_plan_ok hplan
    exact ⟨.deleted release_id plan_id tenant_id now plan hmem hid hlive, kept_of_eq rfl⟩
  | release_created tenant_id =>
    obtain rfl := Except.ok.inj h
    exact ⟨.elsewhere _, fun r hr => ⟨r, Table.mem_insert.2 (Or.inl hr), rfl, rfl⟩⟩
  | release_deleted release_id now =>
    obtain rfl := Except.ok.inj h
    refine ⟨.elsewhere _, fun r hr => ⟨_, Table.mem_update.2 ⟨r, hr, rfl⟩, ?_⟩⟩
    split <;> exact ⟨rfl, rfl⟩
  | attached attachments =>
    obtain rfl := Except.ok.inj h
    exact ⟨.elsewhere _, kept_of_eq rfl⟩

/-- Of an update of one row: another row, or what it made of this one. -/
theorem mem_update_plan (hplan : plan ∈ db.plans)
    (h : p ∈ db.plans.update (fun p => p.id = plan.id) f) :
    p ∈ db.plans ∨ p = f.apply plan := by
  rcases Table.mem_update_cases h with ⟨p₀, hp₀, hid, rfl⟩ | ⟨hp, -⟩
  · exact Or.inr (by rw [Table.eq_of_key_eq hp₀ hplan (of_decide_eq_true hid)])
  · exact Or.inl hp

/-! ## One row for each pair -/

structure Good (db : Db) : Prop where
  unique : ∀ p ∈ db.plans, ∀ q ∈ db.plans,
    p.release_id = q.release_id ∧ p.system_id = q.system_id → p = q
  /-- A plan is of the tenant of its release. -/
  owned : ∀ p ∈ db.plans, ∃ r ∈ db.releases, r.id = p.release_id ∧ r.tenant_id = p.tenant_id

/-- What says whose plan a row is. -/
def place (p : ReleaseRollbackPlan) : ℕ × ℕ × ℕ := (p.tenant_id, p.release_id, p.system_id)

theorem place_rewrite (data : RollbackPlanCreate) : place ((rewrite data).apply p) = place p := by
  unfold rewrite
  dsimp only
  split <;> rfl

/-- An edit that leaves rows in their places keeps the invariant. -/
theorem good_update (h : Good db) (hplace : ∀ p, place (f.apply p) = place p) :
    Good { db with plans := db.plans.update q f } := by
  -- release, system and tenant are read off the place
  have hplace' : ∀ p, place (if q p then f.apply p else p) = place p := by
    intro p
    split
    · exact hplace p
    · rfl
  have hrelease : ∀ p, (if q p then f.apply p else p).release_id = p.release_id :=
    fun p => congrArg (fun t => t.2.1) (hplace' p)
  have hsystem : ∀ p, (if q p then f.apply p else p).system_id = p.system_id :=
    fun p => congrArg (fun t => t.2.2) (hplace' p)
  have htenant : ∀ p, (if q p then f.apply p else p).tenant_id = p.tenant_id :=
    fun p => congrArg (fun t => t.1) (hplace' p)
  constructor
  · exact Table.unique_update (fun a b => by simp only [hrelease, hsystem]; exact id) h.unique
  · intro p hp
    obtain ⟨p₀, hp₀, rfl⟩ := Table.mem_update.1 hp
    rw [hrelease, htenant]
    exact h.owned p₀ hp₀

theorem good_written (h : Good db) (hwritten : Written db request plans) :
    Good { db with plans := plans } := by
  cases hwritten with
  | rewritten release_id tenant_id data => exact good_update h fun p => place_rewrite data
  | revived => exact good_update h fun _ => rfl
  | agreed => exact good_update h fun _ => rfl
  | deleted => exact good_update h fun _ => rfl
  | elsewhere => exact h
  | created release_id tenant_id data release hfound hid htenant hfree =>
    constructor
    · exact Table.unique_insert (fun hab => ⟨hab.1.symm, hab.2.symm⟩) h.unique hfree
    · intro p hp
      rcases Table.mem_insert.1 hp with hp | rfl
      · exact h.owned p hp
      · exact ⟨release, hfound, hid, htenant⟩

theorem good_step (request : Request) (h : Good db) : Good (step db request) := by
  refine commit_or_rollback_keeps h fun db' hdb' => ?_
  obtain ⟨hwritten, hkept⟩ := handle_ok hdb'
  -- the plans first, with the releases as they were
  have hgood := good_written h hwritten
  refine ⟨hgood.unique, fun p hp => ?_⟩
  obtain ⟨r, hr, hid, htenant⟩ := hgood.owned p hp
  obtain ⟨r', hr', hid', htenant'⟩ := hkept r hr
  exact ⟨r', hr', hid'.trans hid, htenant'.trans htenant⟩

theorem good_opened (releases : Table Release Release.id) (attachments : Attachments) :
    Good (Db.opened releases attachments) where
  unique p hp := absurd hp (Table.not_mem_empty p)
  owned p hp := absurd hp (Table.not_mem_empty p)

/-! ## What is refused -/

theorem scalar_one_or_none_select {α : Type} {key : α → ℕ} {t : Table α key} {q : α → Bool}
    (huniq : ∀ r ∈ t, ∀ r' ∈ t, q r = true → q r' = true → r = r') :
    scalar_one_or_none (t.select q) = .ok (t.select q).head? :=
  scalar_one_or_none_ok.2 ⟨Table.length_select_le_one huniq, rfl⟩

theorem require_release_system_error
    (h : _require_release_system db release_id system_id = .error e) :
    ∃ message, e = http 404 message := by
  rw [_require_release_system, scalar_one_or_none_select] at h
  · simp only [bind_eq_error, reduceCtorEq, false_or, raise_if_eq_error] at h
    obtain ⟨-, -, -, rfl⟩ := h
    exact ⟨_, rfl⟩
  · intro a ha b hb hqa hqb
    obtain ⟨hrelease, hsystem⟩ := of_decide_eq_true hqa
    obtain ⟨hrelease', hsystem'⟩ := of_decide_eq_true hqb
    exact db.attachments.unique a ha b hb (hrelease.trans hrelease'.symm)
      (hsystem.trans hsystem'.symm)

theorem not_selected {α : Type} {key : α → ℕ} {t : Table α key} {q : α → Bool} {r : α}
    (hnone : (t.select q).head? = none) (hr : r ∈ t) : q r = false :=
  Bool.eq_false_iff.2 fun hq => by
    have hmem : r ∈ t.select q := Table.mem_select.2 ⟨hr, hq⟩
    rw [List.head?_eq_none_iff.1 hnone] at hmem
    exact absurd hmem List.not_mem_nil

/-- A row with the release and the system of a request is a plan of its tenant. -/
theorem is_for_of_pair (h : Good db) (hrelease : _get_release db release_id tenant_id = .ok release)
    {p : ReleaseRollbackPlan} (hp : p ∈ db.plans) (hpair : p.release_id = release_id)
    (hsystem : p.system_id = system_id) :
    is_for release_id system_id tenant_id p := by
  obtain ⟨hfound, hid, htenant⟩ := get_release_ok hrelease
  obtain ⟨r, hr, hrid, hrtenant⟩ := h.owned p hp
  have heq := Table.eq_of_key_eq hr hfound (hrid.trans (hpair.trans hid.symm))
  exact ⟨hpair, hsystem, by rw [← hrtenant, heq, htenant]⟩

/-- The two look-ups of a plan find one row at most, and whatever row is in the way of a new one
is found by one of them. -/
theorem upsert_error (h : Good db) (herror : upsert_plan db release_id tenant_id data = .error e) :
    ∃ message, e = http 404 message := by
  have hone : ∀ q : ReleaseRollbackPlan → Bool,
      (∀ p, q p = true → is_for release_id data.system_id tenant_id p) →
        ∀ a ∈ db.plans, ∀ b ∈ db.plans, q a = true → q b = true → a = b := by
    intro q hq a ha b hb hqa hqb
    obtain ⟨hrelease, hsystem, -⟩ := hq a hqa
    obtain ⟨hrelease', hsystem', -⟩ := hq b hqb
    exact h.unique a ha b hb ⟨hrelease.trans hrelease'.symm, hsystem.trans hsystem'.symm⟩
  simp only [upsert_plan, bind_eq_error] at herror
  rcases herror with herror | ⟨release, hrelease, herror | ⟨-, -, herror⟩⟩
  · obtain ⟨-, rfl⟩ := get_or_raise_eq_error.1 herror
    exact ⟨_, rfl⟩
  · exact require_release_system_error herror
  rw [scalar_one_or_none_select (hone _ fun p hp => (of_decide_eq_true hp).1)] at herror
  simp only [reduceCtorEq, Except.ok.injEq, exists_eq_left', false_or] at herror
  split at herror
  · rename_i hexisting
    rw [scalar_one_or_none_select (hone _ fun p hp => (of_decide_eq_true hp).1)] at herror
    simp only [bind_eq_error, reduceCtorEq, Except.ok.injEq, exists_eq_left', false_or] at herror
    split at herror
    · cases herror
    · rename_i hrevived
      simp only [add_plan, bind_eq_error, raise_if_eq_error, reduceCtorEq, and_false, exists_false,
        or_false] at herror
      obtain ⟨⟨p, hp, hpair, hsystem⟩, -⟩ := herror
      -- the row in the way is live, for the first look-up to find, or deleted, for the second
      have hfor := is_for_of_pair h hrelease hp hpair hsystem
      by_cases hlive : p.deleted_at = none
      · have hnot := not_selected hexisting hp
        exact absurd ⟨hfor, hlive⟩ (of_decide_eq_false hnot)
      · have hnot := not_selected hrevived hp
        exact absurd ⟨hfor, hlive⟩ (of_decide_eq_false hnot)
  · cases herror

theorem find_plan_error (h : find_plan db release_id plan_id tenant_id = .error e) :
    ∃ message, e = http 404 message := by
  simp only [find_plan, bind_eq_error, get_or_raise_eq_error, raise_if_eq_error, reduceCtorEq,
    and_false, exists_false, or_false] at h
  rcases h with ⟨-, rfl⟩ | ⟨-, -, -, rfl⟩ <;> exact ⟨_, rfl⟩

/-- Nothing but a 404 refuses a request; no constraint ever does. -/
theorem handle_error (h : Good db)
    (herror : handle db request = .error e) : ∃ message, e = http 404 message := by
  cases request with
  | upsert release_id tenant_id data => exact upsert_error h herror
  | agree release_id plan_id tenant_id user_id now =>
    simp only [handle, agree_plan, bind_eq_error, reduceCtorEq, and_false, exists_false,
      or_false] at herror
    exact find_plan_error herror
  | delete release_id plan_id tenant_id now =>
    simp only [handle, delete_plan, bind_eq_error, reduceCtorEq, and_false, exists_false,
      or_false] at herror
    exact find_plan_error herror
  | release_created tenant_id => cases herror
  | release_deleted release_id now => cases herror
  | attached attachments => cases herror

/-! ## Agreements -/

/-- What was agreed, by whom and when. -/
structure Agreement where
  plan_id : ℕ
  steps : String
  reversibility : String
  agreed_by_user_id : Option ℕ
  agreed_at : DateTime

def agreement (p : ReleaseRollbackPlan) : Option Agreement :=
  p.agreed_at.map fun at_ => ⟨p.id, p.steps, p.reversibility, p.agreed_by_user_id, at_⟩

/-- Some live plan carries it. -/
def Stands (db : Db) (a : Agreement) : Prop :=
  ∃ p ∈ db.plans, p.deleted_at = none ∧ agreement p = some a

/-- The request agrees to a live plan that has the text. -/
structure Agrees (db : Db) (request : Request) (a : Agreement) : Prop where
  request : ∃ release_id tenant_id user_id, a.agreed_by_user_id = some user_id ∧
    request = .agree release_id a.plan_id tenant_id user_id a.agreed_at
  text : ∃ p ∈ db.plans, p.id = a.plan_id ∧ p.deleted_at = none ∧ p.steps = a.steps ∧
    p.reversibility = a.reversibility

/-- The steps and the reversibility. -/
def SameText (p p' : ReleaseRollbackPlan) : Prop :=
  p'.steps = p.steps ∧ p'.reversibility = p.reversibility

/-- A rewritten plan keeps its agreement with its text, and loses it with any other. -/
theorem rewrite_cases (data : RollbackPlanCreate) (p : ReleaseRollbackPlan) :
    (SameText p ((rewrite data).apply p) ∧ agreement ((rewrite data).apply p) = agreement p) ∨
      ((rewrite data).apply p).agreed_at = none := by
  by_cases hchanged : p.steps ≠ data.steps ∨ p.reversibility ≠ data.reversibility
  · have happly : (rewrite data).apply p = write data (disagree p) := if_pos hchanged
    rw [happly]
    exact Or.inr rfl
  · have happly : (rewrite data).apply p = write data p := if_neg hchanged
    rw [not_or, not_not, not_not] at hchanged
    rw [happly]
    refine Or.inl ⟨⟨hchanged.1.symm, hchanged.2.symm⟩, ?_⟩
    simp only [agreement, write, hchanged.1, hchanged.2]

theorem agreement_none (h : p.agreed_at = none) (a : Agreement) : agreement p ≠ some a := by
  simp [agreement, h]

/-- **Only `agree` makes an agreement.** -/
theorem stands_of_written {a : Agreement} (hwritten : Written db request plans)
    (h : Stands { db with plans := plans } a) :
    Stands db a ∨ Agrees db request a := by
  obtain ⟨p, hp, hlive, ha⟩ := h
  cases hwritten with
  | rewritten release_id tenant_id data plan hplan hpair hplanlive =>
    rcases mem_update_plan hplan hp with hp | rfl
    · exact Or.inl ⟨p, hp, hlive, ha⟩
    · rcases rewrite_cases data plan with ⟨-, hsame⟩ | hnone
      · exact Or.inl ⟨plan, hplan, hplanlive, hsame ▸ ha⟩
      · exact absurd ha (agreement_none hnone a)
  | revived release_id tenant_id data plan hplan =>
    rcases mem_update_plan hplan hp with hp | rfl
    · exact Or.inl ⟨p, hp, hlive, ha⟩
    · exact absurd ha (agreement_none rfl a)
  | created release_id tenant_id data =>
    rcases Table.mem_insert.1 hp with hp | rfl
    · exact Or.inl ⟨p, hp, hlive, ha⟩
    · exact absurd ha (agreement_none rfl a)
  | agreed release_id plan_id tenant_id user_id now plan hplan hid hplanlive =>
    rcases mem_update_plan hplan hp with hp | rfl
    · exact Or.inl ⟨p, hp, hlive, ha⟩
    · obtain rfl := Option.some.inj ha
      have hrequest : Request.agree release_id plan_id tenant_id user_id now =
          .agree release_id plan.id tenant_id user_id now := by
        rw [hid]
      exact Or.inr
        ⟨⟨release_id, tenant_id, user_id, rfl, hrequest⟩, plan, hplan, rfl, hplanlive, rfl, rfl⟩
  | deleted release_id plan_id tenant_id now plan hplan =>
    rcases mem_update_plan hplan hp with hp | rfl
    · exact Or.inl ⟨p, hp, hlive, ha⟩
    · cases hlive
  | elsewhere => exact Or.inl ⟨p, hp, hlive, ha⟩

/-- **Another text is not agreed to.** -/
theorem disagreed_of_written (hwritten : Written db request plans) (hp : p ∈ db.plans)
    (hp' : p' ∈ plans) (hid : p'.id = p.id) (hchanged : ¬ SameText p p') : p'.agreed_at = none := by
  -- a row that the request left alone has its old text
  have hsame : p' ∈ db.plans → p'.agreed_at = none := by
    intro hmem
    rw [Table.eq_of_key_eq hmem hp hid] at hchanged
    exact absurd ⟨rfl, rfl⟩ hchanged
  cases hwritten with
  | rewritten release_id tenant_id data plan hplan =>
    rcases mem_update_plan hplan hp' with hp' | rfl
    · exact hsame hp'
    · obtain rfl := Table.eq_of_key_eq hplan hp (((rewrite data).key_apply plan).symm.trans hid)
      rcases rewrite_cases data plan with ⟨htext, -⟩ | hnone
      · exact absurd htext hchanged
      · exact hnone
  | revived release_id tenant_id data plan hplan =>
    rcases mem_update_plan hplan hp' with hp' | rfl
    · exact hsame hp'
    · rfl
  | created release_id tenant_id data =>
    rcases Table.mem_insert.1 hp' with hp' | rfl
    · exact hsame hp'
    · rfl
  | agreed release_id plan_id tenant_id user_id now plan hplan =>
    rcases mem_update_plan hplan hp' with hp' | rfl
    · exact hsame hp'
    · obtain rfl := Table.eq_of_key_eq hplan hp hid
      exact absurd ⟨rfl, rfl⟩ hchanged
  | deleted release_id plan_id tenant_id now plan hplan =>
    rcases mem_update_plan hplan hp' with hp' | rfl
    · exact hsame hp'
    · obtain rfl := Table.eq_of_key_eq hplan hp hid
      exact absurd ⟨rfl, rfl⟩ hchanged
  | elsewhere => exact hsame hp'

/-! ## Runs -/

/-- What holds of every run from a database without plans. -/
structure PlansAgreed (opened : Db) : Prop where
  /-- An agreement that a live plan carries was made by an `agree`, of the text that the plan had
  then, and has stood ever since. -/
  agreed : ∀ requests, ∀ p ∈ (run step opened requests).plans, p.deleted_at = none →
    ∀ a, agreement p = some a → ∃ before request after,
      requests = before ++ request :: after ∧ Agrees (run step opened before) request a ∧
        Always step (fun db => Stands db a) (run step opened (before ++ [request])) after
  cleared : ∀ requests request, ∀ p ∈ (run step opened requests).plans,
    ∀ p' ∈ (step (run step opened requests) request).plans,
      p'.id = p.id → ¬ SameText p p' → p'.agreed_at = none
  unique : ∀ requests, ∀ p ∈ (run step opened requests).plans,
    ∀ q ∈ (run step opened requests).plans,
      p.release_id = q.release_id → p.system_id = q.system_id → p = q
  /-- The constraint is never met. -/
  refused : ∀ requests request e, handle (run step opened requests) request = .error e →
    ∃ message, e = http 404 message

theorem stands_step (db : Db) (request : Request) (a : Agreement) (h : Stands (step db request) a) :
    Stands db a ∨ Agrees db request a := by
  unfold step at h
  cases hhandle : handle db request with
  | error e =>
    rw [hhandle] at h
    exact Or.inl h
  | ok db' =>
    rw [hhandle] at h
    exact stands_of_written (handle_ok hhandle).1 h

theorem disagreed_step (hp : p ∈ db.plans) (hp' : p' ∈ (step db request).plans)
    (hid : p'.id = p.id) (hchanged : ¬ SameText p p') : p'.agreed_at = none := by
  unfold step at hp'
  cases hhandle : handle db request with
  | error e =>
    rw [hhandle] at hp'
    exact disagreed_of_written (.elsewhere request) hp hp' hid hchanged
  | ok db' =>
    rw [hhandle] at hp'
    exact disagreed_of_written (handle_ok hhandle).1 hp hp' hid hchanged

/-- **A plan says what was agreed.** -/
theorem plans_agreed (releases : Table Release Release.id) (attachments : Attachments) :
    PlansAgreed (Db.opened releases attachments) := by
  have hgood : ∀ requests, Good (run step (Db.opened releases attachments) requests) :=
    fun requests => Runs.run_inv (fun _ request h => good_step request h)
      (good_opened releases attachments) requests
  refine ⟨fun requests p hp hlive a ha => ?_, fun requests request p hp p' hp' hid hchanged => ?_,
    fun requests p hp q hq hrelease hsystem => ?_, fun requests request e herror => ?_⟩
  · rcases Runs.run_since Stands stands_step ⟨p, hp, hlive, ha⟩ with hall | hmade
    · obtain ⟨p₀, hp₀, -⟩ := hall.head
      exact absurd hp₀ (Table.not_mem_empty p₀)
    · exact hmade
  · exact disagreed_step hp hp' hid hchanged
  · exact (hgood requests).unique p hp q hq ⟨hrelease, hsystem⟩
  · exact handle_error (hgood requests) herror

end EnvMgr.Rollback

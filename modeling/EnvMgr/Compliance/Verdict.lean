/-
What is stored about names is true, and no two live environments share one.

The verdict is written wherever a name is, and anew for the whole tenant where the policy
is. That a name is not taken is asked by each path for itself.
-/
import EnvMgr.Compliance.Environments

namespace EnvMgr.Compliance

open Lifecycle (scalar_one_or_none)
open Runs (run)

variable {ext : External} {db db' : Db} {tenant_id : ℕ} {now : DateTime}
variable {env : Environment} {c : ImportContext} {ws : Worksheet} {user_id request_id : ℕ}
  {user : CurrentUser}
variable {env_id : ℕ} {result : ImportResult}

/-! ## The invariant -/

/-- Two live environments of one tenant with one name. -/
def SameName (a b : Environment) : Prop :=
  a.deleted_at = none ∧ b.deleted_at = none ∧ a.tenant_id = b.tenant_id ∧ a.name = b.name

theorem SameName.symm {a b : Environment} (h : SameName a b) : SameName b a :=
  ⟨h.2.1, h.1, h.2.2.1.symm, h.2.2.2.symm⟩

/-- The stored verdict is the one that the policies give. -/
def Judged (ext : External) (policies : ℕ → Option EnvironmentNamingPolicy) (env : Environment) :
    Prop :=
  env.deleted_at = none →
    env.name_compliant = evaluate_name ext (policies env.tenant_id) env.name

structure Verdicts (ext : External) (db : Db) : Prop where
  judged : ∀ env ∈ db.environments, Judged ext (load_policy db) env
  unique : ∀ a ∈ db.environments, ∀ b ∈ db.environments, SameName a b → a = b

theorem verdicts_opened (reference : Reference) : Verdicts ext (Db.opened reference) where
  judged env h := absurd h (Table.not_mem_empty env)
  unique a h := absurd h (Table.not_mem_empty a)

/-- Other tables have no part in it. -/
theorem Verdicts.congr (hi : Verdicts ext db) (henvs : db'.environments = db.environments)
    (hpolicies : db'.policies = db.policies) : Verdicts ext db' where
  judged := by
    rw [henvs, show load_policy db' = load_policy db from hpolicies]
    exact hi.judged
  unique := by
    rw [henvs]
    exact hi.unique

theorem live_iff (env : Environment) : env.live = true ↔ env.deleted_at = none := by
  rw [Environment.live, decide_eq_true_eq]

theorem get_environment_ok (h : get_environment db env_id tenant_id = .ok env) :
    env ∈ db.environments ∧ env.tenant_id = tenant_id ∧ env.deleted_at = none := by
  rw [get_environment, get_or_raise_eq_ok] at h
  obtain ⟨hmem, hp⟩ := Table.select_one_some h
  simp only [Bool.and_eq_true, decide_eq_true_eq, live_iff] at hp
  exact ⟨hmem, hp.2.1, hp.2.2⟩

/-! ## New environments -/

/-- A new environment is judged as it is added, so its name must only be free. -/
theorem verdicts_add (hi : Verdicts ext db) (r : EnvironmentRecord)
    (hfree : assert_name_available db tenant_id r.name = .ok ()) :
    Verdicts ext (add_environment ext db tenant_id r now) where
  judged := (Table.forall_insert_iff hi.judged).2 fun _ => rfl
  unique := by
    refine Table.unique_insert (fun h => h.symm) hi.unique fun env henv hsame => ?_
    rw [assert_name_available, raise_if_eq_ok] at hfree
    obtain ⟨hlive, -, htenant, hname⟩ := hsame
    exact hfree ⟨env, henv, hname, htenant, (live_iff env).2 hlive⟩

theorem verdicts_create_record (hi : Verdicts ext db) {r : EnvironmentRecord}
    (h : create_environment_record ext db tenant_id r now = .ok db') : Verdicts ext db' := by
  simp only [create_environment_record, bind_eq_ok, Except.ok.injEq] at h
  obtain ⟨_, hfree, _, -, _, -, _, -, rfl⟩ := h
  exact verdicts_add hi r hfree

theorem verdicts_create (hi : Verdicts ext db) {data : EnvironmentCreate}
    (h : create_environment ext db data tenant_id now = .ok db') : Verdicts ext db' := by
  simp only [create_environment, bind_eq_ok] at h
  obtain ⟨_, -, h⟩ := h
  exact verdicts_create_record hi h

theorem verdicts_fulfil (hi : Verdicts ext db) {req : EnvironmentRequest}
    (h : _fulfil_new_environment ext db req tenant_id now = .ok db') : Verdicts ext db' := by
  simp only [_fulfil_new_environment, bind_eq_ok, get_or_raise_eq_ok, for_each_eq_ok,
    Except.ok.injEq] at h
  obtain ⟨_, -, _, -, _, -, _, hfree, r, hr, rfl⟩ := h
  refine verdicts_add hi r (hfree r.name ?_)
  -- the name of the record is the name that was proposed
  unfold EnvironmentRequest.record at hr
  cases hname : req.proposed_name with
  | none => simp [hname] at hr
  | some name =>
    cases htier : req.tier_id with
    | none => simp [hname, htier] at hr
    | some tier_id =>
      simp only [hname, htier, Option.some.injEq] at hr
      simp [← hr]

/-! ## The import -/

section Import

variable {P : Db → Prop}

theorem import_named_keeps {result' : ImportResult} {row_num : ℕ} {name_str env_type : String}
    {matched_tier : Option EnvironmentTier} {tier : EnvironmentTier} {description : Option String}
    (hcreate : ∀ db db' r, r.operations_group_id = none →
      create_environment_record ext db c.tenant_id r now = .ok db' → P db → P db') (hP : P db)
    (h : import_named ext c now db result row_num name_str env_type matched_tier tier description =
      .ok (db', result')) : P db' := by
  simp only [import_named, bind_eq_ok] at h
  obtain ⟨existing, -, h⟩ := h
  split at h
  · cases h
    exact hP
  · split at h
    · next db₁ hcreated =>
      cases h
      exact hcreate db db' _ rfl hcreated hP
    · cases h
      exact hP
    · cases h

theorem import_row_keeps (hcreate : ∀ db db' r, r.operations_group_id = none →
      create_environment_record ext db c.tenant_id r now = .ok db' → P db → P db')
    (s : Db × ImportResult) (numbered : List (Option Cell) × ℕ) (s' : Db × ImportResult)
    (hP : P s.1) (h : import_row ext c now s numbered = .ok s') : P s'.1 := by
  obtain ⟨db, result⟩ := s
  obtain ⟨row, row_num⟩ := numbered
  simp only [import_row] at h
  split at h
  · cases h
    exact hP
  · split at h
    · cases h
      exact hP
    · split at h
      · cases h
        exact hP
      · exact import_named_keeps hcreate hP h

/-- What the creation of an environment without a team keeps, an upload keeps, row by row. -/
theorem import_keeps (hcreate : ∀ db db' r, r.operations_group_id = none →
      create_environment_record ext db tenant_id r now = .ok db' → P db → P db')
    (h : import_environments ext db ws tenant_id user_id now = .ok (db', result)) (hP : P db) :
    P db' := by
  simp only [import_environments, bind_eq_ok] at h
  obtain ⟨name_idx, -, _, -, h⟩ := h
  exact foldlM_inv (P := fun s : Db × ImportResult => P s.1) (import_row_keeps hcreate) hP h

end Import

theorem verdicts_import (hi : Verdicts ext db)
    (h : import_environments ext db ws tenant_id user_id now = .ok (db', result)) :
    Verdicts ext db' :=
  import_keeps (fun _ _ _ _ hcreated hs => verdicts_create_record hs hcreated) h hi

/-! ## Changes of one environment -/

/-- The name is the old one with the old verdict, or a judged one that no other live
environment of the tenant has. -/
theorem rename_ok {name : Option String} {named : String × Option Bool}
    (h : rename ext db env tenant_id name = .ok named) :
    named = (env.name, env.name_compliant) ∨
      (named.2 = evaluate_name ext (load_policy db tenant_id) named.1 ∧
        ∀ other ∈ db.environments, other.name = named.1 → other.tenant_id = tenant_id →
          other.deleted_at = none → other.id = env.id) := by
  cases name with
  | none =>
    cases h
    exact Or.inl rfl
  | some name =>
    simp only [rename] at h
    split at h
    · cases h
      exact Or.inl rfl
    · simp only [bind_eq_ok, raise_if_eq_ok, not_not, Except.ok.injEq] at h
      obtain ⟨existing, hexisting, _, rfl, _, -, rfl⟩ := h
      refine Or.inr ⟨rfl, fun other hother hname htenant hlive => ?_⟩
      by_contra hne
      simp only [scalar_one_or_none, bind_eq_ok, Except.ok.injEq, List.head?_eq_none_iff] at hexisting
      obtain ⟨_, -, hnone⟩ := hexisting
      have hfound : other ∈ db.environments.select fun other =>
          other.name = name && (other.tenant_id = tenant_id && (other.id ≠ env.id && other.live)) := by
        simp [hother, hname, htenant, hne, live_iff, hlive]
      rw [hnone] at hfound
      cases hfound

theorem verdicts_update (hi : Verdicts ext db) {data : EnvironmentUpdate}
    (h : update_environment ext db env_id data tenant_id = .ok db') : Verdicts ext db' := by
  simp only [update_environment, bind_eq_ok, Except.ok.injEq] at h
  obtain ⟨env, henv, named, hnamed, _, -, _, -, _, -, rfl⟩ := h
  obtain ⟨hmem, htenant, hlive⟩ := get_environment_ok henv
  constructor
  · refine (Table.forall_update_key_iff hi.judged hmem).2 fun _ => ?_
    rcases rename_ok hnamed with rfl | ⟨hverdict, -⟩
    · exact hi.judged env hmem hlive
    · rw [← htenant] at hverdict
      exact hverdict
  · refine (Table.unique_update_iff (fun h => h.symm) hi.unique hmem
      (Table.key_match hmem)).2 fun other hother hsame => ?_
    obtain ⟨hother_live, -, hother_tenant, hother_name⟩ := hsame
    rcases rename_ok hnamed with rfl | ⟨-, hfree⟩
    · exact hi.unique other hother env hmem ⟨hother_live, hlive, hother_tenant, hother_name⟩
    · exact Table.eq_of_key_eq hother hmem
        (hfree other hother hother_name (hother_tenant.trans htenant) hother_live)

theorem verdicts_delete (hi : Verdicts ext db)
    (h : delete_environment db env_id tenant_id now = .ok db') : Verdicts ext db' := by
  simp only [delete_environment, bind_eq_ok, Except.ok.injEq] at h
  obtain ⟨env, henv, rfl⟩ := h
  obtain ⟨hmem, -, -⟩ := get_environment_ok henv
  constructor
  · refine (Table.forall_update_key_iff hi.judged hmem).2 fun hlive => ?_
    cases hlive
  · refine (Table.unique_update_iff (fun h => h.symm) hi.unique hmem
      (Table.key_match hmem)).2 fun other _ hsame => ?_
    cases hsame.2.1

/-! ## A new policy -/

theorem verdicts_upsert_policy (hi : Verdicts ext db) {data : EnvironmentNamingPolicyUpdate}
    (h : upsert_policy ext db tenant_id data now = .ok db') : Verdicts ext db' := by
  simp only [upsert_policy, bind_eq_ok, Except.ok.injEq] at h
  obtain ⟨_, -, _, -, rfl⟩ := h
  constructor
  · intro env henv hlive
    rcases Table.mem_update_cases henv with ⟨env, hmem, hp, rfl⟩ | ⟨hmem, hp⟩
    · simp only [Bool.and_eq_true, decide_eq_true_eq] at hp
      have hload : Function.update db.policies tenant_id
          (some (data.row tenant_id (load_policy db tenant_id) now)) env.tenant_id =
            some (data.row tenant_id (load_policy db tenant_id) now) := by
        rw [hp.1, Function.update_self]
      exact congrArg (evaluate_name ext · env.name) hload.symm
    · -- a live environment that is not judged anew is another tenant's
      have hother : env.tenant_id ≠ tenant_id := by
        intro htenant
        simp [htenant, Environment.live, hlive] at hp
      have hload : Function.update db.policies tenant_id
          (some (data.row tenant_id (load_policy db tenant_id) now)) env.tenant_id =
            load_policy db env.tenant_id := Function.update_of_ne hother _ _
      exact (hi.judged env hmem hlive).trans (congrArg (evaluate_name ext · env.name) hload.symm)
  · refine Table.unique_update (fun a b hsame => ?_) hi.unique
    simp only [SameName] at hsame ⊢
    split_ifs at hsame <;> exact hsame

/-! ## Requests -/

theorem verdicts_transition (hi : Verdicts ext db) {to_state : String}
    (h : transition ext db request_id to_state user tenant_id now = .ok db') :
    Verdicts ext db' := by
  simp only [transition, bind_eq_ok] at h
  obtain ⟨req, -, _, -, h⟩ := h
  split at h
  · simp only [bind_eq_ok, Except.ok.injEq] at h
    obtain ⟨_, -, _, -, rfl⟩ := h
    exact hi.congr rfl rfl
  · split at h
    · simp only [bind_eq_ok, Except.ok.injEq] at h
      obtain ⟨db₁, hfulfil, rfl⟩ := h
      exact (verdicts_fulfil hi hfulfil).congr rfl rfl
    · cases h
      exact hi.congr rfl rfl

theorem verdicts_create_request (hi : Verdicts ext db) {data : EnvironmentRequestCreate}
    {requested_by : ℕ} (h : create_request db data requested_by tenant_id = .ok db') :
    Verdicts ext db' := by
  simp only [create_request, bind_eq_ok, Except.ok.injEq] at h
  obtain ⟨_, -, _, -, tpl, -, status, -, rfl⟩ := h
  exact hi.congr rfl rfl

theorem verdicts_update_request (hi : Verdicts ext db) {data : EnvironmentRequestUpdate}
    (h : update_request db request_id data user tenant_id = .ok db') : Verdicts ext db' := by
  simp only [update_request, bind_eq_ok, Except.ok.injEq] at h
  obtain ⟨req, -, _, -, _, -, _, -, _, -, _, -, rfl⟩ := h
  exact hi.congr rfl rfl

theorem verdicts_handle (hi : Verdicts ext db) {request : Request}
    (h : handle ext db request = .ok db') : Verdicts ext db' := by
  cases request with
  | create_environment user data now =>
    simp only [handle, bind_eq_ok] at h
    obtain ⟨_, -, h⟩ := h
    exact verdicts_create hi h
  | update_environment user env_id data =>
    simp only [handle, bind_eq_ok] at h
    obtain ⟨_, -, h⟩ := h
    exact verdicts_update hi h
  | delete_environment user env_id now =>
    simp only [handle, bind_eq_ok] at h
    obtain ⟨_, -, h⟩ := h
    exact verdicts_delete hi h
  | import_environments user file now =>
    simp only [handle, bind_eq_ok, Except.ok.injEq] at h
    obtain ⟨_, -, ⟨db₁, result⟩, h, rfl⟩ := h
    exact verdicts_import hi h
  | put_environment_naming_policy user data now =>
    simp only [handle, bind_eq_ok] at h
    obtain ⟨_, -, h⟩ := h
    exact verdicts_upsert_policy hi h
  | create_environment_request user data => exact verdicts_create_request hi h
  | update_environment_request user request_id data => exact verdicts_update_request hi h
  | transition_environment_request user request_id to_state now => exact verdicts_transition hi h
  | others reference =>
    cases h
    exact hi.congr rfl rfl

theorem verdicts_step (db : Db) (request : Request) (hi : Verdicts ext db) :
    Verdicts ext (step ext db request) :=
  commit_or_rollback_keeps hi fun _ h => verdicts_handle hi h

/-- **The stored verdict never lies, and names stay unique**, whatever is asked of the
services, in any order. -/
theorem verdicts_of_run (ext : External) (reference : Reference) (requests : List Request) :
    Verdicts ext (run (step ext) (Db.opened reference) requests) :=
  Runs.run_inv verdicts_step (verdicts_opened reference) requests

end EnvMgr.Compliance

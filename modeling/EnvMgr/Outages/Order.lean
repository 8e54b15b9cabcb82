/-
What the can-deploy gate does not depend on: the order in which the rows come.

No query of the gate has an ORDER BY. The blockers and the warnings are one for each row, so
their order is all that an order of the rows can change, and `ok` asks only whether there is a
blocker. The claim that is reported is the first that the loop over the bookings meets, and one
by the booking's own id takes the place of one by its release. So the order shows exactly where
no booking is claimed by its id and several are claimed by their release.
-/
import EnvMgr.Lib.Least
import EnvMgr.Lib.Reordered
import EnvMgr.Outages.Agreement

namespace EnvMgr.Outages

open Bookings (Booking BookingRequest)
open Statuses (SubSystem)
open Table (Reordered)

variable {b : Booking} {m : ClaimMatched}

/-! ## The property -/

/-- The same rows, each table read in another order. -/
structure Reread (db db' : Db) : Prop where
  environments : Reordered db.environments db'.environments
  subsystems : db'.statuses.reference.subsystems.Perm db.statuses.reference.subsystems
  bookings : Reordered db.statuses.bookings.bookings db'.statuses.bookings.bookings
  requests : Reordered db.statuses.bookings.requests db'.statuses.bookings.requests
  change_requests : Reordered db.statuses.change_requests db'.statuses.change_requests
  cr_environments : db'.cr_environments.Perm db.cr_environments
  deployments : Reordered db.statuses.deployments db'.statuses.deployments
  builds : Reordered db.statuses.builds db'.statuses.builds

/-- A response without the order of its entries. -/
structure Answer where
  ok : Bool
  environment_slug : String
  subsystem_slug : String
  checked_at : DateTime
  blockers : Multiset CanDeployBlocker
  warnings : Multiset CanDeployWarning

def CanDeployResponse.answer (r : CanDeployResponse) : Answer where
  ok := r.ok
  environment_slug := r.environment_slug
  subsystem_slug := r.subsystem_slug
  checked_at := r.checked_at
  blockers := r.blockers
  warnings := r.warnings

section

variable (db : Db) (tenant_id : ℕ) (environment_slug subsystem_slug : String)
  (release_id booking_id : Option ℕ) (now : DateTime)

/-- The gate's answer, or the error, without the claim. -/
def preflight : Except Raised Answer :=
  (evaluate db tenant_id environment_slug subsystem_slug release_id booking_id now).map
    CanDeployResponse.answer

/-- The claim that is reported, where the gate answers. -/
def claimed : Except Raised (Option ClaimMatched) :=
  (evaluate db tenant_id environment_slug subsystem_slug release_id booking_id now).map
    CanDeployResponse.claim_matched

/-- The gate can be asked about the environment and the subsystem. -/
def AsksAbout (env : Environment) : Prop :=
  (db.environments.select fun e =>
    e.tenant_id = tenant_id ∧ e.name = environment_slug ∧ e.deleted_at = none) = [env] ∧
    ∃ sub, resolve_subsystem db tenant_id subsystem_slug = .ok sub

/-- An exclusive booking of the environment that runs now. -/
def RunsAlone (env : Environment) (b : Booking) : Prop :=
  ∃ br, (b, br) ∈ active_bookings db tenant_id env.id now ∧ br.exclusive_use_requested = true

/-- No exclusive booking is claimed by its id, and several are by their release. -/
def Ambiguous : Prop :=
  ∃ env, AsksAbout db tenant_id environment_slug subsystem_slug env ∧
    (∀ b, RunsAlone db tenant_id now env b → booking_id ≠ some b.id) ∧
    ∃ b b', RunsAlone db tenant_id now env b ∧ RunsAlone db tenant_id now env b' ∧ b ≠ b' ∧
      b.release_id ≠ none ∧ b.release_id = release_id ∧ b'.release_id = release_id

end

/-! ## Rows that are read -/

section

variable {db db' : Db} {tenant_id : ℕ} {now : DateTime}

theorem scalar_one_or_none_perm {α : Type} {rows rows' : List α} (h : rows'.Perm rows) :
    Lifecycle.scalar_one_or_none rows' = Lifecycle.scalar_one_or_none rows := by
  unfold Lifecycle.scalar_one_or_none
  rw [h.length_eq]
  by_cases hmany : 1 < rows.length
  · rw [raise_if, if_pos hmany]
    rfl
  · rcases rows with _ | ⟨r, _ | ⟨r', rest⟩⟩
    · rw [List.perm_nil.1 h]
    · rw [List.perm_singleton.1 h]
    · exact absurd (by simp) hmany

theorem resolve_subsystem_reread (h : Reread db db') (slug : String) :
    resolve_subsystem db' tenant_id slug = resolve_subsystem db tenant_id slug := by
  have hperm := h.subsystems.filter fun s : SubSystem =>
    s.tenant_id = tenant_id ∧ s.name = slug ∧ s.deleted_at = none
  unfold resolve_subsystem
  generalize (db.statuses.reference.subsystems.filter _) = found at hperm ⊢
  generalize (db'.statuses.reference.subsystems.filter _) = found' at hperm ⊢
  rcases found with _ | ⟨sub, _ | ⟨sub', rest⟩⟩
  · rw [List.perm_nil.1 hperm]
  · rw [List.perm_singleton.1 hperm]
  -- there are several in the other order too, and they are not told apart
  · have hlength := hperm.length_eq
    rcases found' with _ | ⟨found, _ | ⟨found', rest'⟩⟩
    · simp at hlength
    · simp at hlength
    · rfl

theorem active_bookings_reread (h : Reread db db') (environment_id : ℕ) :
    (active_bookings db' tenant_id environment_id now).Perm
      (active_bookings db tenant_id environment_id now) := by
  have hrequest : ∀ b : Booking, db'.statuses.bookings.requests.select_one (fun br =>
      br.id = b.booking_request_id ∧ br.deleted_at = none) =
        db.statuses.bookings.requests.select_one fun br =>
          br.id = b.booking_request_id ∧ br.deleted_at = none := by
    intro b
    refine h.requests.select_one fun br hbr br' hbr' hid hid' => Table.eq_of_key_eq hbr hbr' ?_
    exact (of_decide_eq_true hid).1.trans (of_decide_eq_true hid').1.symm
  unfold active_bookings
  simp only [hrequest]
  exact (h.bookings.select fun _ _ => rfl).filterMap _

theorem outage_blockers_reread (h : Reread db db') (environment_id subsystem_id : ℕ) :
    (outage_blockers db' tenant_id environment_id subsystem_id now).Perm
      (outage_blockers db tenant_id environment_id subsystem_id now) := by
  refine List.Perm.map _ (List.Perm.filter _ (h.change_requests.select fun cr _ => ?_))
  simp only [h.cr_environments.mem_iff]

theorem in_flight_warnings_reread (h : Reread db db') (environment_id subsystem_id : ℕ) :
    (in_flight_warnings db' tenant_id environment_id subsystem_id now).Perm
      (in_flight_warnings db tenant_id environment_id subsystem_id now) := by
  refine List.Perm.map _ (h.deployments.select fun d _ => ?_)
  have hbuilds : ∀ b, b ∈ db'.statuses.builds.rows ↔ b ∈ db.statuses.builds.rows :=
    fun b => List.Perm.mem_iff h.builds
  simp only [hbuilds]

end

/-! ## What is looked up first -/

section

variable (db : Db) (tenant_id : ℕ) (environment_slug subsystem_slug : String)
  (release_id booking_id : Option ℕ) (now : DateTime)

/-- The environment and the subsystem of the two names. -/
def lookup : Except Raised (Environment × SubSystem) := do
  let env ← Lifecycle.scalar_one_or_none (db.environments.select fun e =>
    e.tenant_id = tenant_id ∧ e.name = environment_slug ∧ e.deleted_at = none)
  let env ← get_or_raise env (http 404 "environment not found")
  let subsystem ← resolve_subsystem db tenant_id subsystem_slug
  .ok (env, subsystem)

/-- What the rows that are found come to: the blockers and the warnings of the bookings, and
the claims on them, each in a list of its own. -/
def blocked (pair : Booking × BookingRequest) : Option CanDeployBlocker :=
  if pair.2.exclusive_use_requested ∧ claim release_id booking_id pair.1 = none then
    some ⟨.exclusive_booking, "booking", pair.1.id, some pair.2.project_name,
      some pair.1.end_date, none⟩
  else none

def warned (pair : Booking × BookingRequest) : Option CanDeployWarning :=
  if pair.2.exclusive_use_requested then none
  else some ⟨"non_exclusive_booking", "booking", pair.1.id, some pair.2.project_name,
    some pair.1.end_date, none⟩

def unlocked (pair : Booking × BookingRequest) : Option ClaimMatched :=
  if pair.2.exclusive_use_requested then claim release_id booking_id pair.1 else none

def by_booking (m : ClaimMatched) : Bool := m.matched_via = "booking_id"

def all_blockers (env : Environment) (sub : SubSystem) : List CanDeployBlocker :=
  inactive_blockers env ++
    (active_bookings db tenant_id env.id now).filterMap (blocked release_id booking_id) ++
    outage_blockers db tenant_id env.id sub.id now

def all_claims (env : Environment) : List ClaimMatched :=
  (active_bookings db tenant_id env.id now).filterMap (unlocked release_id booking_id)

def respond (env : Environment) (sub : SubSystem) : CanDeployResponse where
  ok := (all_blockers db tenant_id release_id booking_id now env sub).isEmpty
  environment_slug := environment_slug
  subsystem_slug := subsystem_slug
  checked_at := now
  blockers := all_blockers db tenant_id release_id booking_id now env sub
  warnings := (active_bookings db tenant_id env.id now).filterMap warned ++
    in_flight_warnings db tenant_id env.id sub.id now
  claim_matched := (all_claims db tenant_id release_id booking_id now env).foldl
    (Preferred.keep by_booking) none

end

section

variable {db db' : Db} {tenant_id : ℕ} {environment_slug subsystem_slug : String}
  {release_id booking_id : Option ℕ} {now : DateTime} {env : Environment}

/-- One turn of the loop. -/
theorem walk_booking_eq (w : Walk) (pair : Booking × BookingRequest) :
    walk_booking release_id booking_id w pair =
      { blockers := w.blockers ++ (blocked release_id booking_id pair).toList
        warnings := w.warnings ++ (warned pair).toList
        claim_matched := (unlocked release_id booking_id pair).toList.foldl
          (Preferred.keep by_booking) w.claim_matched } := by
  obtain ⟨b, br⟩ := pair
  obtain ⟨blockers, warnings, found⟩ := w
  by_cases hexclusive : br.exclusive_use_requested = true
  · cases hclaim : claim release_id booking_id b with
    | none => simp [walk_booking, blocked, warned, unlocked, hexclusive, hclaim]
    | some m =>
      cases found with
      | none => simp [walk_booking, blocked, warned, unlocked, hexclusive, hclaim, Preferred.keep]
      | some m' =>
        -- a claim that is kept already is given up for one by the booking's id
        by_cases hvia : m.matched_via = "booking_id" <;>
          by_cases hvia' : m'.matched_via = "booking_id" <;>
          simp [walk_booking, blocked, warned, unlocked, hexclusive, hclaim, Preferred.keep,
            by_booking, hvia, hvia']
  · simp [walk_booking, blocked, warned, unlocked, hexclusive]

/-- **What the loop over the bookings ends with.** -/
theorem walk_eq (pairs : List (Booking × BookingRequest)) : ∀ w : Walk,
    pairs.foldl (walk_booking release_id booking_id) w =
      { blockers := w.blockers ++ pairs.filterMap (blocked release_id booking_id)
        warnings := w.warnings ++ pairs.filterMap warned
        claim_matched := (pairs.filterMap (unlocked release_id booking_id)).foldl
          (Preferred.keep by_booking) w.claim_matched } := by
  induction pairs with
  | nil =>
    intro w
    simp
  | cons pair pairs ih =>
    intro w
    have hcons : ∀ {β : Type} (f : Booking × BookingRequest → Option β),
        (pair :: pairs).filterMap f = (f pair).toList ++ pairs.filterMap f := by
      intro β f
      rw [List.filterMap_cons]
      cases f pair <;> rfl
    rw [List.foldl_cons, ih, walk_booking_eq, hcons, hcons, hcons, List.foldl_append,
      List.append_assoc, List.append_assoc]

theorem evaluate_eq :
    evaluate db tenant_id environment_slug subsystem_slug release_id booking_id now =
      (lookup db tenant_id environment_slug subsystem_slug).map fun found =>
        respond db tenant_id environment_slug subsystem_slug release_id booking_id now
          found.1 found.2 := by
  simp only [evaluate, lookup, walk_eq, List.nil_append]
  cases Lifecycle.scalar_one_or_none (db.environments.select fun e =>
    e.tenant_id = tenant_id ∧ e.name = environment_slug ∧ e.deleted_at = none) with
  | error e => rfl
  | ok env =>
    cases env with
    | none => rfl
    | some env => cases resolve_subsystem db tenant_id subsystem_slug <;> rfl

theorem lookup_reread (h : Reread db db') :
    lookup db' tenant_id environment_slug subsystem_slug =
      lookup db tenant_id environment_slug subsystem_slug := by
  unfold lookup
  rw [resolve_subsystem_reread h, scalar_one_or_none_perm (h.environments.select fun _ _ => rfl)]

theorem lookup_eq_ok {sub : SubSystem} :
    lookup db tenant_id environment_slug subsystem_slug = .ok (env, sub) ↔
      (db.environments.select fun e =>
        e.tenant_id = tenant_id ∧ e.name = environment_slug ∧ e.deleted_at = none) = [env] ∧
      resolve_subsystem db tenant_id subsystem_slug = .ok sub := by
  simp only [lookup, bind_eq_ok, Except.ok.injEq, Prod.mk.injEq]
  constructor
  · rintro ⟨found, hfound, env', henv', sub', hsub, rfl, rfl⟩
    exact ⟨Deployments.scalar_eq_ok hfound henv', hsub⟩
  · rintro ⟨hrows, hsub⟩
    rw [hrows]
    exact ⟨some env, rfl, env, rfl, sub, hsub, rfl, rfl⟩

/-! ## The claims -/

theorem claim_eq_some :
    claim release_id booking_id b = some m ↔
      (booking_id = some b.id ∧ ⟨b.id, "booking_id", b.id⟩ = m) ∨
        (booking_id ≠ some b.id ∧ ∃ release, b.release_id = some release ∧
          release_id = some release ∧ ⟨b.id, "release_id", release⟩ = m) := by
  unfold claim
  by_cases hid : booking_id = some b.id
  · simp [hid]
  · cases hrelease : b.release_id with
    | none => simp [hid]
    | some release => by_cases hsame : release_id = some release <;> simp [hid, hsame]

theorem mem_all_claims :
    m ∈ all_claims db tenant_id release_id booking_id now env ↔
      ∃ b, RunsAlone db tenant_id now env b ∧ claim release_id booking_id b = some m := by
  rw [all_claims, List.mem_filterMap]
  constructor
  · rintro ⟨⟨b, br⟩, hactive, hm⟩
    rw [unlocked, ite_eq_iff] at hm
    obtain ⟨hexclusive, hm⟩ := hm.resolve_right fun hnone => Option.some_ne_none _ hnone.2.symm
    exact ⟨b, ⟨br, hactive, hexclusive⟩, hm⟩
  · rintro ⟨b, ⟨br, hactive, hexclusive⟩, hm⟩
    refine ⟨(b, br), hactive, ?_⟩
    rw [unlocked, if_pos hexclusive, hm]

theorem all_claims_reread (h : Reread db db') :
    (all_claims db' tenant_id release_id booking_id now env).Perm
      (all_claims db tenant_id release_id booking_id now env) :=
  (active_bookings_reread h env.id).filterMap _

/-- A claim by the booking's id is the one on that booking. -/
theorem by_booking_iff (hm : claim release_id booking_id b = some m) :
    by_booking m = true ↔ booking_id = some b.id := by
  obtain ⟨hid, rfl⟩ | ⟨hid, release, -, -, rfl⟩ := claim_eq_some.1 hm
  · exact iff_of_true (decide_eq_true rfl) hid
  · exact iff_of_false (by simp [by_booking]) hid

theorem mem_active_bookings {environment_id : ℕ} {br : BookingRequest}
    (h : (b, br) ∈ active_bookings db tenant_id environment_id now) :
    b ∈ db.statuses.bookings.bookings := by
  obtain ⟨b', hb', hpair⟩ := List.mem_filterMap.1 h
  obtain ⟨br', -, hbr⟩ := Option.map_eq_some_iff.1 hpair
  obtain ⟨rfl, -⟩ := Prod.mk.inj hbr
  exact (Table.mem_select.1 hb').1

/-- **Where nothing is ambiguous, one claim goes before all others.** -/
theorem settled_of_not_ambiguous
    (hasks : AsksAbout db tenant_id environment_slug subsystem_slug env)
    (h : ¬ Ambiguous db tenant_id environment_slug subsystem_slug release_id booking_id now) :
    Preferred.Settled by_booking (all_claims db tenant_id release_id booking_id now env) := by
  refine ⟨fun m hm m' hm' hby hby' => ?_, fun hnone m hm m' hm' => ?_⟩
  · obtain ⟨b, -, hclaim⟩ := mem_all_claims.1 hm
    obtain ⟨b', -, hclaim'⟩ := mem_all_claims.1 hm'
    have hid := (by_booking_iff hclaim).1 hby
    have hid' := (by_booking_iff hclaim').1 hby'
    have hb : b.id = b'.id := Option.some.inj (hid.symm.trans hid')
    obtain ⟨-, rfl⟩ := (claim_eq_some.1 hclaim).resolve_right fun hother => hother.1 hid
    obtain ⟨-, rfl⟩ := (claim_eq_some.1 hclaim').resolve_right fun hother => hother.1 hid'
    rw [hb]
  · obtain ⟨b, hruns, hclaim⟩ := mem_all_claims.1 hm
    obtain ⟨b', hruns', hclaim'⟩ := mem_all_claims.1 hm'
    have hother : ∀ c, RunsAlone db tenant_id now env c → booking_id ≠ some c.id := by
      intro c hc hid
      have hm : claim release_id booking_id c = some ⟨c.id, "booking_id", c.id⟩ :=
        claim_eq_some.2 (Or.inl ⟨hid, rfl⟩)
      have hby := (by_booking_iff hm).2 hid
      exact absurd hby (Bool.eq_false_iff.1 (hnone _ (mem_all_claims.2 ⟨c, hc, hm⟩)))
    obtain ⟨-, release, hrelease, hsame, rfl⟩ := (claim_eq_some.1 hclaim).resolve_left
      fun hby => hother b hruns hby.1
    obtain ⟨-, release', hrelease', hsame', rfl⟩ := (claim_eq_some.1 hclaim').resolve_left
      fun hby => hother b' hruns' hby.1
    -- two bookings would be two claims by the release
    have hb : b = b' := by
      by_contra hne
      refine h ⟨env, hasks, hother, b, b', hruns, hruns', hne, ?_, hrelease.trans hsame.symm,
        hrelease'.trans hsame'.symm⟩
      rw [hrelease]
      exact Option.some_ne_none release
    obtain rfl := hb
    rw [Option.some.inj (hrelease.symm.trans hrelease')]

/-- Where no booking is claimed by its id, the first claim there is is the one reported. -/
theorem claimed_eq_head (hasks : AsksAbout db tenant_id environment_slug subsystem_slug env)
    (hother : ∀ b, RunsAlone db tenant_id now env b → booking_id ≠ some b.id) (h : Reread db db')
    (hhead : (all_claims db' tenant_id release_id booking_id now env).head? = some m) :
    claimed db' tenant_id environment_slug subsystem_slug release_id booking_id now =
      .ok (some m) := by
  obtain ⟨hrow, sub, hsub⟩ := hasks
  have hlookup : lookup db' tenant_id environment_slug subsystem_slug = .ok (env, sub) :=
    (lookup_reread h).trans (lookup_eq_ok.2 ⟨hrow, hsub⟩)
  have hnone : (all_claims db' tenant_id release_id booking_id now env).find? by_booking =
      none := by
    rw [List.find?_eq_none]
    intro m hm hby
    obtain ⟨c, hc, hclaim⟩ := mem_all_claims.1 ((all_claims_reread h).mem_iff.1 hm)
    exact hother c hc ((by_booking_iff hclaim).1 hby)
  have hkept : (all_claims db' tenant_id release_id booking_id now env).foldl
      (Preferred.keep by_booking) none = some m := by
    rw [Preferred.foldl_keep_none, hnone, hhead]
    rfl
  rw [claimed, evaluate_eq, hlookup]
  exact congrArg Except.ok hkept

/-- A booking that runs alone can come first of those that run. -/
theorem exists_reread_front {br : BookingRequest}
    (hactive : (b, br) ∈ active_bookings db tenant_id env.id now) :
    ∃ db', Reread db db' ∧
      ∃ pairs, active_bookings db' tenant_id env.id now = (b, br) :: pairs := by
  obtain ⟨bookings, hreordered, rest, hrows⟩ :=
    Table.exists_front (mem_active_bookings hactive)
  let db' : Db := { db with
    statuses := { db.statuses with
      bookings := { db.statuses.bookings with bookings := bookings } }
    linked_tenant := db.linked_tenant }
  have hreread : Reread db db' :=
    ⟨List.Perm.refl _, List.Perm.refl _, hreordered, List.Perm.refl _, List.Perm.refl _,
      List.Perm.refl _, List.Perm.refl _, List.Perm.refl _⟩
  obtain ⟨b', hb', hpair⟩ := List.mem_filterMap.1 hactive
  obtain ⟨br', hbr', hsame⟩ := Option.map_eq_some_iff.1 hpair
  obtain ⟨rfl, rfl⟩ := Prod.mk.inj hsame
  refine ⟨db', hreread, ?_⟩
  simp only [active_bookings, Table.select, db', hrows]
  rw [List.filter_cons, if_pos (Table.mem_select.1 hb').2]
  exact ⟨_, List.filterMap_cons_some hpair⟩

/-- What is claimed in the order in which the booking comes first. -/
theorem exists_claimed (hasks : AsksAbout db tenant_id environment_slug subsystem_slug env)
    (hother : ∀ b, RunsAlone db tenant_id now env b → booking_id ≠ some b.id)
    (hruns : RunsAlone db tenant_id now env b) {release : ℕ} (hb : b.release_id = some release)
    (hrelease : release_id = some release) :
    ∃ db', Reread db db' ∧
      claimed db' tenant_id environment_slug subsystem_slug release_id booking_id now =
        .ok (some ⟨b.id, "release_id", release⟩) := by
  have hclaim : claim release_id booking_id b = some ⟨b.id, "release_id", release⟩ :=
    claim_eq_some.2 (Or.inr ⟨hother b hruns, release, hb, hrelease, rfl⟩)
  obtain ⟨br, hactive, hexclusive⟩ := hruns
  obtain ⟨db', hreread, pairs, hpairs⟩ := exists_reread_front hactive
  refine ⟨db', hreread, claimed_eq_head hasks hother hreread ?_⟩
  have hunlocked : unlocked release_id booking_id (b, br) =
      some ⟨b.id, "release_id", release⟩ := by
    rw [unlocked, if_pos hexclusive, hclaim]
  rw [all_claims, hpairs, List.filterMap_cons_some hunlocked]
  rfl

theorem preflight_reread (h : Reread db db') :
    preflight db' tenant_id environment_slug subsystem_slug release_id booking_id now =
      preflight db tenant_id environment_slug subsystem_slug release_id booking_id now := by
  rw [preflight, preflight, evaluate_eq, evaluate_eq, lookup_reread h]
  cases lookup db tenant_id environment_slug subsystem_slug with
  | error e => rfl
  | ok found =>
    obtain ⟨env, sub⟩ := found
    have hactive : (active_bookings db' tenant_id env.id now).Perm
        (active_bookings db tenant_id env.id now) := active_bookings_reread h env.id
    have hblockers : (all_blockers db' tenant_id release_id booking_id now env sub).Perm
        (all_blockers db tenant_id release_id booking_id now env sub) :=
      ((hactive.filterMap _).append_left _).append (outage_blockers_reread h env.id sub.id)
    have hwarnings : (respond db' tenant_id environment_slug subsystem_slug release_id booking_id
        now env sub).warnings.Perm (respond db tenant_id environment_slug subsystem_slug
          release_id booking_id now env sub).warnings :=
      (hactive.filterMap _).append (in_flight_warnings_reread h env.id sub.id)
    have hok : (all_blockers db' tenant_id release_id booking_id now env sub).isEmpty =
        (all_blockers db tenant_id release_id booking_id now env sub).isEmpty :=
      hblockers.isEmpty_eq
    simp only [Except.map, CanDeployResponse.answer, respond, Except.ok.injEq, Answer.mk.injEq,
      true_and]
    exact ⟨hok, Multiset.coe_eq_coe.2 hblockers, Multiset.coe_eq_coe.2 hwarnings⟩

theorem claimed_reread (hclear : ¬ Ambiguous db tenant_id environment_slug subsystem_slug
      release_id booking_id now) (h : Reread db db') :
    claimed db' tenant_id environment_slug subsystem_slug release_id booking_id now =
      claimed db tenant_id environment_slug subsystem_slug release_id booking_id now := by
  rw [claimed, claimed, evaluate_eq, evaluate_eq, lookup_reread h]
  cases hlookup : lookup db tenant_id environment_slug subsystem_slug with
  | error e => rfl
  | ok found =>
    obtain ⟨env, sub⟩ := found
    obtain ⟨hrow, hsub⟩ := lookup_eq_ok.1 hlookup
    exact congrArg Except.ok (Preferred.foldl_keep_perm (all_claims_reread h)
      (settled_of_not_ambiguous ⟨hrow, sub, hsub⟩ hclear))

/-- Whatever the order, an ambiguous claim is one by the release, of the first booking that the
query returns of those it claims. -/
theorem claimed_of_ambiguous (hambiguous : Ambiguous db tenant_id environment_slug subsystem_slug
      release_id booking_id now) (h : Reread db db') :
    ∃ env b release, AsksAbout db tenant_id environment_slug subsystem_slug env ∧
      RunsAlone db tenant_id now env b ∧ b.release_id = some release ∧
      release_id = some release ∧
      (all_claims db' tenant_id release_id booking_id now env).head? =
        some ⟨b.id, "release_id", release⟩ ∧
      claimed db' tenant_id environment_slug subsystem_slug release_id booking_id now =
        .ok (some ⟨b.id, "release_id", release⟩) := by
  obtain ⟨env, hasks, hother, b, b', hruns, -, -, hsome, hsame, -⟩ := hambiguous
  obtain ⟨release, hrelease⟩ := Option.ne_none_iff_exists'.1 hsome
  -- there is a claim, so there is a first one
  have hmem : (⟨b.id, "release_id", release⟩ : ClaimMatched) ∈
      all_claims db' tenant_id release_id booking_id now env := by
    refine (all_claims_reread h).mem_iff.2 (mem_all_claims.2 ⟨b, hruns, claim_eq_some.2 ?_⟩)
    exact Or.inr ⟨hother b hruns, release, hrelease, hsame.symm.trans hrelease, rfl⟩
  obtain ⟨m, hhead⟩ := Option.ne_none_iff_exists'.1 fun hempty =>
    List.ne_nil_of_mem hmem (List.head?_eq_none_iff.1 hempty)
  obtain ⟨c, hc, hclaim⟩ :=
    mem_all_claims.1 ((all_claims_reread h).mem_iff.1 (List.mem_of_mem_head? hhead))
  obtain ⟨-, found, hfound, hsame', rfl⟩ :=
    (claim_eq_some.1 hclaim).resolve_left fun hby => hother c hc hby.1
  exact ⟨env, c, found, hasks, hc, hfound, hsame', hhead, claimed_eq_head hasks hother h hhead⟩

/-- Each of two bookings is claimed in some order. -/
theorem ambiguous_shows (hambiguous : Ambiguous db tenant_id environment_slug subsystem_slug
      release_id booking_id now) :
    ∃ db', Reread db db' ∧
      claimed db' tenant_id environment_slug subsystem_slug release_id booking_id now ≠
        claimed db tenant_id environment_slug subsystem_slug release_id booking_id now := by
  obtain ⟨env, hasks, hother, b, b', hruns, hruns', hne, hsome, hsame, hsame'⟩ := hambiguous
  obtain ⟨release, hrelease⟩ := Option.ne_none_iff_exists'.1 hsome
  have hid := hsame.symm.trans hrelease
  obtain ⟨db₁, hreread₁, hclaimed₁⟩ := exists_claimed hasks hother hruns hrelease hid
  obtain ⟨db₂, hreread₂, hclaimed₂⟩ := exists_claimed hasks hother hruns' (hsame'.trans hid) hid
  by_cases hfirst :
      claimed db₁ tenant_id environment_slug subsystem_slug release_id booking_id now =
        claimed db tenant_id environment_slug subsystem_slug release_id booking_id now
  · refine ⟨db₂, hreread₂, fun hsecond => hne ?_⟩
    rw [← hfirst, hclaimed₁, hclaimed₂] at hsecond
    have hids : b'.id = b.id :=
      congrArg ClaimMatched.booking_id (Option.some.inj (Except.ok.inj hsecond))
    obtain ⟨br, hactive, -⟩ := hruns
    obtain ⟨br', hactive', -⟩ := hruns'
    exact Table.eq_of_key_eq (mem_active_bookings hactive) (mem_active_bookings hactive') hids.symm
  · exact ⟨db₁, hreread₁, hfirst⟩

end

/-! ## What the order can change -/

/-- In every order of the rows, the same answer and the same claim. -/
def OrderFree : Prop :=
  ∀ (db db' : Db) (tenant_id : ℕ) (environment_slug subsystem_slug : String)
    (release_id booking_id : Option ℕ) (now : DateTime), Reread db db' →
    preflight db' tenant_id environment_slug subsystem_slug release_id booking_id now =
        preflight db tenant_id environment_slug subsystem_slug release_id booking_id now ∧
      claimed db' tenant_id environment_slug subsystem_slug release_id booking_id now =
        claimed db tenant_id environment_slug subsystem_slug release_id booking_id now

/-- **What the order of the rows can change.** On all rows and for all tokens: never the error,
`ok`, the blockers or the warnings; the claim exactly where no booking that runs is claimed by
its id and several are by their release, and then it is the first of those. -/
theorem preflight_in_any_order (db : Db) (tenant_id : ℕ) (environment_slug subsystem_slug : String)
    (release_id booking_id : Option ℕ) (now : DateTime) :
    (∀ db', Reread db db' →
      preflight db' tenant_id environment_slug subsystem_slug release_id booking_id now =
        preflight db tenant_id environment_slug subsystem_slug release_id booking_id now) ∧
    ((∀ db', Reread db db' →
      claimed db' tenant_id environment_slug subsystem_slug release_id booking_id now =
        claimed db tenant_id environment_slug subsystem_slug release_id booking_id now) ↔
      ¬ Ambiguous db tenant_id environment_slug subsystem_slug release_id booking_id now) ∧
    (Ambiguous db tenant_id environment_slug subsystem_slug release_id booking_id now →
      ∀ db', Reread db db' → ∃ env b release,
        AsksAbout db tenant_id environment_slug subsystem_slug env ∧
        RunsAlone db tenant_id now env b ∧ b.release_id = some release ∧
        release_id = some release ∧
        (all_claims db' tenant_id release_id booking_id now env).head? =
          some ⟨b.id, "release_id", release⟩ ∧
        claimed db' tenant_id environment_slug subsystem_slug release_id booking_id now =
          .ok (some ⟨b.id, "release_id", release⟩)) := by
  refine ⟨fun db' h => preflight_reread h, ?_, fun hambiguous db' h =>
    claimed_of_ambiguous hambiguous h⟩
  constructor
  · intro hsame hambiguous
    obtain ⟨db', hreread, hne⟩ := ambiguous_shows hambiguous
    exact hne (hsame db' hreread)
  · intro hclear db' h
    exact claimed_reread hclear h

namespace Sample

def exclusive_request : Table.New BookingRequest.id where
  row id := ⟨id, 1, "Shop relaunch", none, 1, 0, 100, none, .none, true, .soft, none, 1, none, none⟩
  key_row _ := rfl

def release_booking (start_date : DateTime) : Table.New Booking.id where
  row id := ⟨id, 1, 1, 1, none, start_date, 100, "approved", none, none, some 7, none, none⟩
  key_row _ := rfl

/-- Two exclusive bookings of one release run on one environment. -/
def bookings : Table Booking Booking.id :=
  Table.empty.insert_all [release_booking 0, release_booking 1]

theorem bookings_reversed : bookings.rows.reverse.Perm bookings.rows := List.reverse_perm _

def bookings' : Table Booking Booking.id where
  rows := bookings.rows.reverse
  next := bookings.next
  keys_nodup := (bookings_reversed.map Booking.id).nodup_iff.2 bookings.keys_nodup
  keys_lt b hb := bookings.keys_lt b (bookings_reversed.mem_iff.1 hb)

def booked (bookings : Table Booking Booking.id) : Db where
  statuses := { Deployments.Sample.rows with
    bookings := { Deployments.Sample.rows.bookings with
      requests := Table.empty.insert exclusive_request
      bookings := bookings } }
  cr_environments := []
  cr_hosts := []
  environment_subsystems := []
  subsystem_hosts := []
  samples := []
  linked_tenant := fun _ h => absurd h List.not_mem_nil

end Sample

/-- Whichever of them comes first is the claim that is reported. -/
theorem order_of_bookings_shows : ¬ OrderFree := by
  intro h
  have hreread : Reread (Sample.booked Sample.bookings) (Sample.booked Sample.bookings') :=
    ⟨List.Perm.refl _, List.Perm.refl _, Sample.bookings_reversed, List.Perm.refl _,
      List.Perm.refl _, List.Perm.refl _, List.Perm.refl _, List.Perm.refl _⟩
  have hsame := (h _ _ 1 "staging" "checkout" (some 7) none 5 hreread).2
  have hfirst : claimed (Sample.booked Sample.bookings) 1 "staging" "checkout" (some 7) none 5 =
      .ok (some ⟨1, "release_id", 7⟩) := by
    decide +kernel
  have hsecond : claimed (Sample.booked Sample.bookings') 1 "staging" "checkout" (some 7) none 5 =
      .ok (some ⟨2, "release_id", 7⟩) := by
    decide +kernel
  rw [hfirst, hsecond] at hsame
  exact absurd hsame (by decide)

end EnvMgr.Outages

/-
Evidence for gates, and when it is stale: `services/gate_evidence_service.py`.

A piece of evidence may cite a deployment, and is stale once a later successful one of the same
subsystem to the same environment exists. The service looks this up for a whole page of
evidence at once: the cited deployments, their pairs of subsystem and environment, the latest
successful deployment of each pair. Each of these dictionaries is read at one key here, and what
is found there does not depend on the other evidence of the page: a piece is reported stale
exactly when its own deployment has been superseded.
-/
import EnvMgr.Core.Directory
import EnvMgr.Lib.Least
import EnvMgr.Lib.Table
import Mathlib.Data.Prod.Lex
import Mathlib.Order.OrderDual

namespace EnvMgr.Readiness

/-! ## Tables -/

structure Build where
  id : ℕ
  subsystem_id : ℕ
  git_sha : String
  build_number : Option String
  deriving DecidableEq

structure Deployment where
  id : ℕ
  tenant_id : ℕ
  build_id : ℕ
  environment_id : ℕ
  deployed_at : DateTime
  status : String
  deleted_at : Option DateTime
  deriving DecidableEq

structure GateEvidence where
  id : ℕ
  tenant_id : ℕ
  gate_id : ℕ
  kind : String
  label : String
  deployment_id : Option ℕ
  deleted_at : Option DateTime
  deriving DecidableEq

structure EvidenceDb where
  environments : Table Environment Environment.id
  builds : Table Build Build.id
  deployments : Table Deployment Deployment.id
  evidence : Table GateEvidence GateEvidence.id
  /-- `deployment_service._resolve_environment` looks within the tenant. -/
  placed : ∀ d ∈ deployments,
    ∃ e ∈ environments, e.id = d.environment_id ∧ e.tenant_id = d.tenant_id
  /-- `add_evidence` takes a deployment of the tenant only. -/
  cited : ∀ e ∈ evidence, ∀ id, e.deployment_id = some id →
    ∃ d ∈ deployments, d.id = id ∧ d.tenant_id = e.tenant_id

/-! ## Look-ups -/

/-- The evidence of each gate; a gate without any has an empty list. -/
def evidence_for_gates (db : EvidenceDb) (tenant_id : ℕ) (gate_ids : List ℕ) :
    Index ℕ (List GateEvidence) :=
  let rows := order_by (fun e => toLex (e.gate_id, e.id)) (db.evidence.select fun e =>
    e.tenant_id = tenant_id ∧ e.gate_id ∈ gate_ids ∧ e.deleted_at = none)
  Index.tabulate (fun gid => some (rows.filter fun e => e.gate_id = gid)) gate_ids

structure StaleEvidenceDetail where
  environment_name : String
  superseded_build_label : String
  superseded_deployed_at : DateTime
  superseding_build_label : String
  superseding_deployed_at : DateTime
  deriving DecidableEq

/-- `build_number or git_sha[:8]`. -/
def _build_label (build_number : Option String) (git_sha : String) : String :=
  match build_number with
  | some n => if n = "" then String.ofList (git_sha.toList.take 8) else n
  | none => String.ofList (git_sha.toList.take 8)

/-- A deployment joined with its build. -/
structure DeployedRow where
  id : ℕ
  subsystem_id : ℕ
  build_number : Option String
  git_sha : String
  environment_id : ℕ
  deployed_at : DateTime
  deriving DecidableEq

def DeployedRow.pair (r : DeployedRow) : ℕ × ℕ := (r.subsystem_id, r.environment_id)

def DeployedRow.build_label (r : DeployedRow) : String := _build_label r.build_number r.git_sha

/-- `.join(Build, Build.id == Deployment.build_id)`. -/
def join_build (db : EvidenceDb) (d : Deployment) : Option DeployedRow :=
  (db.builds.select_one fun b => b.id = d.build_id).map fun b =>
    ⟨d.id, b.subsystem_id, b.build_number, b.git_sha, d.environment_id, d.deployed_at⟩

/-- The rows that cite a deployment. -/
def linked (rows : List GateEvidence) : List GateEvidence :=
  rows.filter fun e => e.deployment_id ≠ none

/-- The deployments that they cite, deleted ones too. -/
def referenced_rows (db : EvidenceDb) (tenant_id : ℕ) (rows : List GateEvidence) :
    List DeployedRow :=
  (db.deployments.select fun d =>
    some d.id ∈ (linked rows).map GateEvidence.deployment_id ∧
      d.tenant_id = tenant_id).filterMap (join_build db)

def referenced (db : EvidenceDb) (tenant_id : ℕ) (rows : List GateEvidence) :
    Index ℕ DeployedRow :=
  Index.fill DeployedRow.id id (referenced_rows db tenant_id rows)

def pairs (db : EvidenceDb) (tenant_id : ℕ) (rows : List GateEvidence) : List (ℕ × ℕ) :=
  (referenced db tenant_id rows).values.map DeployedRow.pair

/-- The live, successful deployments of the pairs. -/
def candidate_rows (db : EvidenceDb) (tenant_id : ℕ) (rows : List GateEvidence) :
    List DeployedRow :=
  ((db.deployments.select fun d =>
    d.tenant_id = tenant_id ∧ d.deleted_at = none ∧ d.status = "success").filterMap
      (join_build db)).filter fun r => (pairs db tenant_id rows).any fun q =>
        r.subsystem_id = q.1 ∧ r.environment_id = q.2

/-- The later one ranks lower, and of two at the same time the first read is kept. -/
def recency (r : DeployedRow) : DateTimeᵒᵈ := OrderDual.toDual r.deployed_at

def latest (db : EvidenceDb) (tenant_id : ℕ) (rows : List GateEvidence) :
    Index (ℕ × ℕ) DeployedRow :=
  Index.keep_least recency ((candidate_rows db tenant_id rows).map fun r => (r.pair, r))

def env_names (db : EvidenceDb) (tenant_id : ℕ) (rows : List GateEvidence) : Index ℕ String :=
  let env_ids := (referenced db tenant_id rows).values.map DeployedRow.environment_id
  Index.fill Environment.id Environment.name (db.environments.select fun e => e.id ∈ env_ids)

/-- The body of the loop over the linked evidence. -/
def stale_detail (db : EvidenceDb) (tenant_id : ℕ) (rows : List GateEvidence)
    (e : GateEvidence) : Option StaleEvidenceDetail := do
  let ref ← e.deployment_id.bind (referenced db tenant_id rows).get
  let newest ← (latest db tenant_id rows).get ref.pair
  if newest.deployed_at ≤ ref.deployed_at then
    none
  else
    some {
      environment_name := ((env_names db tenant_id rows).get ref.environment_id).getD
        s!"environment {ref.environment_id}"
      superseded_build_label := ref.build_label
      superseded_deployed_at := ref.deployed_at
      superseding_build_label := newest.build_label
      superseding_deployed_at := newest.deployed_at }

/-- Where no evidence cites a deployment there are no pairs, and the answer is empty. -/
def stale_evidence_details (db : EvidenceDb) (tenant_id : ℕ) (rows : List GateEvidence) :
    Index ℕ StaleEvidenceDetail :=
  Index.fill Prod.fst Prod.snd ((linked rows).filterMap fun e =>
    (stale_detail db tenant_id rows e).map fun detail => (e.id, detail))

variable {db : EvidenceDb} {tenant_id : ℕ} {rows : List GateEvidence}

/-! ## What stale means -/

def SameSubsystem (db : EvidenceDb) (d d' : Deployment) : Prop :=
  ∃ b ∈ db.builds, ∃ b' ∈ db.builds,
    b.id = d.build_id ∧ b'.id = d'.build_id ∧ b'.subsystem_id = b.subsystem_id

/-- A live, successful deployment of the subsystem to the environment, strictly later. -/
structure Supersedes (db : EvidenceDb) (d' d : Deployment) : Prop where
  live : d'.deleted_at = none
  success : d'.status = "success"
  subsystem : SameSubsystem db d d'
  environment : d'.environment_id = d.environment_id
  later : d.deployed_at < d'.deployed_at

/-- Captured against a deployment that another one supersedes. -/
def Stale (db : EvidenceDb) (e : GateEvidence) : Prop :=
  ∃ d ∈ db.deployments, e.deployment_id = some d.id ∧ ∃ d' ∈ db.deployments, Supersedes db d' d

/-- What is passed in: rows of the tenant, any of them, in any order. -/
def OfTenant (db : EvidenceDb) (tenant_id : ℕ) (rows : List GateEvidence) : Prop :=
  ∀ e ∈ rows, e ∈ db.evidence ∧ e.tenant_id = tenant_id

/-! ## The look-ups, one key at a time -/

theorem join_build_eq_some {d : Deployment} {r : DeployedRow} :
    join_build db d = some r ↔ ∃ b ∈ db.builds, b.id = d.build_id ∧
      ⟨d.id, b.subsystem_id, b.build_number, b.git_sha, d.environment_id, d.deployed_at⟩ = r := by
  rw [join_build, Option.map_eq_some_iff]
  refine exists_congr fun b => Iff.trans (and_congr_left' ?_) and_assoc
  exact Table.select_one_key_iff fun _ hid => hid

theorem joined_id {d : Deployment} {r : DeployedRow} (h : join_build db d = some r) :
    r.id = d.id := by
  obtain ⟨b, -, -, rfl⟩ := join_build_eq_some.1 h
  rfl

theorem joined_deployed_at {d : Deployment} {r : DeployedRow} (h : join_build db d = some r) :
    r.deployed_at = d.deployed_at := by
  obtain ⟨b, -, -, rfl⟩ := join_build_eq_some.1 h
  rfl

/-- Two rows of one pair are of one subsystem and one environment. -/
theorem joined_pair_eq_iff {d d' : Deployment} {r r' : DeployedRow}
    (h : join_build db d = some r) (h' : join_build db d' = some r') :
    r'.pair = r.pair ↔ SameSubsystem db d d' ∧ d'.environment_id = d.environment_id := by
  obtain ⟨b, hb, hid, rfl⟩ := join_build_eq_some.1 h
  obtain ⟨b', hb', hid', rfl⟩ := join_build_eq_some.1 h'
  simp only [DeployedRow.pair, Prod.mk.injEq]
  refine and_congr_left fun _ => ⟨fun hsub => ⟨b, hb, b', hb', hid, hid', hsub⟩, ?_⟩
  rintro ⟨c, hc, c', hc', hcid, hcid', hsub⟩
  rwa [Table.eq_of_key_eq hb hc (hid.trans hcid.symm),
    Table.eq_of_key_eq hb' hc' (hid'.trans hcid'.symm)]

/-- Deployments to one environment are of one tenant. -/
theorem tenant_eq {d d' : Deployment} (hd : d ∈ db.deployments) (hd' : d' ∈ db.deployments)
    (henv : d'.environment_id = d.environment_id) : d'.tenant_id = d.tenant_id := by
  obtain ⟨e, he, hid, htenant⟩ := db.placed d hd
  obtain ⟨e', he', hid', htenant'⟩ := db.placed d' hd'
  rw [← htenant, ← htenant', Table.eq_of_key_eq he' he (hid'.trans (henv.trans hid.symm))]

theorem mem_referenced {r : DeployedRow} :
    r ∈ referenced_rows db tenant_id rows ↔ ∃ d ∈ db.deployments,
      (some d.id ∈ (linked rows).map GateEvidence.deployment_id ∧ d.tenant_id = tenant_id) ∧
        join_build db d = some r := by
  simp only [referenced_rows, List.mem_filterMap, Table.mem_select, decide_eq_true_eq, and_assoc]

theorem get_referenced {k : ℕ} {r : DeployedRow} :
    (referenced db tenant_id rows).get k = some r ↔
      r ∈ referenced_rows db tenant_id rows ∧ r.id = k := by
  rw [referenced, Index.get_fill_eq_some]
  · constructor
    · rintro ⟨r', hr', hk, rfl⟩
      exact ⟨hr', hk⟩
    · rintro ⟨hr, hk⟩
      exact ⟨r, hr, hk, rfl⟩
  -- no two rows of the answer have one id
  · intro r hr r' hr' hid
    obtain ⟨d, hd, -, hjoin⟩ := mem_referenced.1 hr
    obtain ⟨d', hd', -, hjoin'⟩ := mem_referenced.1 hr'
    rw [joined_id hjoin, joined_id hjoin'] at hid
    rw [Table.eq_of_key_eq hd hd' hid, hjoin'] at hjoin
    exact (Option.some.inj hjoin).symm

theorem mem_candidates {r : DeployedRow} :
    r ∈ candidate_rows db tenant_id rows ↔ (∃ d ∈ db.deployments,
      (d.tenant_id = tenant_id ∧ d.deleted_at = none ∧ d.status = "success") ∧
        join_build db d = some r) ∧ r.pair ∈ pairs db tenant_id rows := by
  have hpair : ((pairs db tenant_id rows).any fun q =>
      r.subsystem_id = q.1 ∧ r.environment_id = q.2) = true ↔
        r.pair ∈ pairs db tenant_id rows := by
    rw [List.any_eq_true]
    constructor
    · rintro ⟨q, hq, heq⟩
      obtain ⟨hsub, henv⟩ := of_decide_eq_true heq
      rwa [DeployedRow.pair, hsub, henv]
    · intro h
      exact ⟨r.pair, h, decide_eq_true ⟨rfl, rfl⟩⟩
  rw [candidate_rows, List.mem_filter, hpair]
  simp only [List.mem_filterMap, Table.mem_select, decide_eq_true_eq, and_assoc]

/-! ## One piece of evidence -/

section

variable {d : Deployment} {ref newest : DeployedRow}

theorem mem_pairs (hmem : ref ∈ referenced_rows db tenant_id rows) :
    ref.pair ∈ pairs db tenant_id rows :=
  List.mem_map_of_mem (Index.mem_values.2 ⟨ref.id, get_referenced.2 ⟨hmem, rfl⟩⟩)

/-- What competes for the pair of a cited deployment: whatever was deployed like it. -/
theorem mem_values_of_pair (hd : d ∈ db.deployments) (htenant : d.tenant_id = tenant_id)
    (hjoin : join_build db d = some ref) (hmem : ref ∈ referenced_rows db tenant_id rows)
    {r : DeployedRow} :
    r ∈ Index.values_of ((candidate_rows db tenant_id rows).map fun r => (r.pair, r))
        ref.pair ↔
      ∃ d' ∈ db.deployments, join_build db d' = some r ∧ d'.deleted_at = none ∧
        d'.status = "success" ∧ SameSubsystem db d d' ∧ d'.environment_id = d.environment_id := by
  rw [Index.mem_values_of]
  constructor
  · intro h
    obtain ⟨r', hr', heq⟩ := List.mem_map.1 h
    obtain ⟨hpair, rfl⟩ := Prod.mk.inj heq
    obtain ⟨⟨d', hd', ⟨-, hlive, hsuccess⟩, hjoin'⟩, -⟩ := mem_candidates.1 hr'
    exact ⟨d', hd', hjoin', hlive, hsuccess, (joined_pair_eq_iff hjoin hjoin').1 hpair⟩
  · rintro ⟨d', hd', hjoin', hlive, hsuccess, hsub, henv⟩
    have hpair := (joined_pair_eq_iff hjoin hjoin').2 ⟨hsub, henv⟩
    refine List.mem_map.2 ⟨r, mem_candidates.2 ⟨⟨d', hd', ⟨?_, hlive, hsuccess⟩, hjoin'⟩, ?_⟩, ?_⟩
    · rw [tenant_eq hd hd' henv, htenant]
    · rw [hpair]
      exact mem_pairs hmem
    · rw [hpair]

/-- The deployment that supersedes it, if one does, is the latest of those that do. -/
structure Newest (db : EvidenceDb) (d : Deployment) (r : DeployedRow) : Prop where
  superseding : ∃ d' ∈ db.deployments, join_build db d' = some r ∧ Supersedes db d' d
  latest : ∀ d' ∈ db.deployments, Supersedes db d' d → d'.deployed_at ≤ r.deployed_at

theorem newest_of_latest (hd : d ∈ db.deployments) (htenant : d.tenant_id = tenant_id)
    (hjoin : join_build db d = some ref) (hmem : ref ∈ referenced_rows db tenant_id rows)
    (hlatest : (latest db tenant_id rows).get ref.pair = some newest)
    (hlater : ref.deployed_at < newest.deployed_at) : Newest db d newest := by
  rw [latest, Index.get_keep_least] at hlatest
  obtain ⟨hnewest, hle⟩ := least_eq_some hlatest
  obtain ⟨d', hd', hjoin', hlive, hsuccess, hsub, henv⟩ :=
    (mem_values_of_pair hd htenant hjoin hmem).1 hnewest
  refine ⟨⟨d', hd', hjoin', hlive, hsuccess, hsub, henv, ?_⟩, fun d'' hd'' hsup => ?_⟩
  · rwa [← joined_deployed_at hjoin, ← joined_deployed_at hjoin']
  · obtain ⟨b, -, b', hb', -, hid', -⟩ := hsup.subsystem
    have hjoin'' := join_build_eq_some.2 ⟨b', hb', hid', rfl⟩
    have hrank := hle _ ((mem_values_of_pair hd htenant hjoin hmem).2
      ⟨d'', hd'', hjoin'', hsup.live, hsup.success, hsup.subsystem, hsup.environment⟩)
    exact OrderDual.toDual_le_toDual.1 hrank

/-- If one supersedes it, the latest of the pair is later. -/
theorem exists_latest {d' : Deployment} (hd : d ∈ db.deployments)
    (htenant : d.tenant_id = tenant_id) (hjoin : join_build db d = some ref)
    (hmem : ref ∈ referenced_rows db tenant_id rows) (hd' : d' ∈ db.deployments)
    (hsup : Supersedes db d' d) :
    ∃ newest, (latest db tenant_id rows).get ref.pair = some newest ∧
      ref.deployed_at < newest.deployed_at := by
  obtain ⟨b, -, b', hb', -, hid', -⟩ := hsup.subsystem
  have hjoin' := join_build_eq_some.2 ⟨b', hb', hid', rfl⟩
  have hvalue := (mem_values_of_pair hd htenant hjoin hmem).2
    ⟨d', hd', hjoin', hsup.live, hsup.success, hsup.subsystem, hsup.environment⟩
  -- it competes for the pair, so the one that wins is no older
  obtain ⟨newest, hnewest⟩ := exists_least recency hvalue
  refine ⟨newest, by rw [latest, Index.get_keep_least, hnewest], ?_⟩
  have hrank := (least_eq_some hnewest).2 _ hvalue
  rw [joined_deployed_at hjoin]
  exact hsup.later.trans_le (OrderDual.toDual_le_toDual.1 hrank)

end

/-! ## The page -/

/-- The deployment that a piece of evidence cites is of its tenant and is looked up. -/
theorem bind_referenced {e : GateEvidence} {ref : DeployedRow} :
    e.deployment_id.bind (referenced db tenant_id rows).get = some ref ↔
      ∃ d ∈ db.deployments, e.deployment_id = some d.id ∧ join_build db d = some ref ∧
        d.tenant_id = tenant_id ∧ ref ∈ referenced_rows db tenant_id rows := by
  rw [Option.bind_eq_some_iff]
  constructor
  · rintro ⟨k, hk, hget⟩
    obtain ⟨hmem, hid⟩ := get_referenced.1 hget
    obtain ⟨d, hd, ⟨-, htenant⟩, hjoin⟩ := mem_referenced.1 hmem
    refine ⟨d, hd, ?_, hjoin, htenant, hmem⟩
    rw [hk, ← hid, joined_id hjoin]
  · rintro ⟨d, hd, hk, hjoin, -, hmem⟩
    exact ⟨d.id, hk, get_referenced.2 ⟨hmem, joined_id hjoin⟩⟩

theorem referenced_of_cited {e : GateEvidence} {d : Deployment} {ref : DeployedRow}
    (hrows : OfTenant db tenant_id rows) (he : e ∈ rows) (hd : d ∈ db.deployments)
    (hcites : e.deployment_id = some d.id) (hjoin : join_build db d = some ref) :
    d.tenant_id = tenant_id ∧ ref ∈ referenced_rows db tenant_id rows := by
  obtain ⟨hmem, htenant⟩ := hrows e he
  -- evidence cites deployments of its own tenant
  obtain ⟨d', hd', hid, htenant'⟩ := db.cited e hmem d.id hcites
  have hdtenant : d.tenant_id = tenant_id := by
    rw [← Table.eq_of_key_eq hd' hd hid, htenant', htenant]
  have hlinked : e ∈ linked rows :=
    List.mem_filter.2 ⟨he, decide_eq_true (hcites ▸ Option.some_ne_none d.id)⟩
  exact ⟨hdtenant, mem_referenced.2
    ⟨d, hd, ⟨hcites ▸ List.mem_map_of_mem hlinked, hdtenant⟩, hjoin⟩⟩

theorem stale_detail_eq_some {e : GateEvidence} {detail : StaleEvidenceDetail} :
    stale_detail db tenant_id rows e = some detail ↔
      ∃ ref, e.deployment_id.bind (referenced db tenant_id rows).get = some ref ∧
        ∃ newest, (latest db tenant_id rows).get ref.pair = some newest ∧
          ref.deployed_at < newest.deployed_at ∧
          detail = ⟨((env_names db tenant_id rows).get ref.environment_id).getD
            s!"environment {ref.environment_id}", ref.build_label, ref.deployed_at,
            newest.build_label, newest.deployed_at⟩ := by
  unfold stale_detail
  constructor
  · intro h
    obtain ⟨ref, href, h⟩ := Option.bind_eq_some_iff.1 h
    obtain ⟨newest, hnewest, h⟩ := Option.bind_eq_some_iff.1 h
    rw [Option.ite_none_left_eq_some, Option.some.injEq] at h
    exact ⟨ref, href, newest, hnewest, not_le.1 h.1, h.2.symm⟩
  · rintro ⟨ref, href, newest, hnewest, hlater, rfl⟩
    refine Option.bind_eq_some_iff.2 ⟨ref, href, Option.bind_eq_some_iff.2 ⟨newest, hnewest, ?_⟩⟩
    exact if_neg (not_le.2 hlater)

/-- Each row of the page is reported under its own id. -/
theorem get_details {k : ℕ} {detail : StaleEvidenceDetail} (hrows : OfTenant db tenant_id rows) :
    (stale_evidence_details db tenant_id rows).get k = some detail ↔
      ∃ e ∈ rows, e.id = k ∧ stale_detail db tenant_id rows e = some detail := by
  have hitem : ∀ i : ℕ × StaleEvidenceDetail,
      (i ∈ (linked rows).filterMap fun e =>
        (stale_detail db tenant_id rows e).map fun detail => (e.id, detail)) ↔
        ∃ e ∈ rows, e.id = i.1 ∧ stale_detail db tenant_id rows e = some i.2 := by
    intro i
    simp only [List.mem_filterMap, Option.map_eq_some_iff]
    constructor
    · rintro ⟨e, he, detail, hdetail, rfl⟩
      exact ⟨e, List.mem_of_mem_filter he, rfl, hdetail⟩
    · rintro ⟨e, he, hid, hdetail⟩
      obtain ⟨ref, href, -⟩ := stale_detail_eq_some.1 hdetail
      obtain ⟨d, -, hcites, -⟩ := bind_referenced.1 href
      exact ⟨e, List.mem_filter.2 ⟨he, decide_eq_true (hcites ▸ Option.some_ne_none d.id)⟩, i.2,
        hdetail, Prod.ext hid rfl⟩
  rw [stale_evidence_details, Index.get_fill_eq_some]
  · constructor
    · rintro ⟨i, hi, rfl, rfl⟩
      exact (hitem i).1 hi
    · intro h
      exact ⟨(k, detail), (hitem (k, detail)).2 h, rfl, rfl⟩
  · intro i hi i' hi' hid
    obtain ⟨e, he, hei, hdetail⟩ := (hitem i).1 hi
    obtain ⟨e', he', hei', hdetail'⟩ := (hitem i').1 hi'
    have heq := Table.eq_of_key_eq (hrows e he).1 (hrows e' he').1
      (hei.trans (hid.trans hei'.symm))
    rw [heq, hdetail'] at hdetail
    exact Prod.ext hid (Option.some.inj hdetail).symm

/-- **The page and the piece agree**, and the report names the two deployments. -/
structure EvidenceStale (db : EvidenceDb) (tenant_id : ℕ) : Prop where
  stale : ∀ rows, OfTenant db tenant_id rows → ∀ e ∈ rows,
    (e.id ∈ (stale_evidence_details db tenant_id rows).keys ↔ Stale db e)
  only : ∀ rows, OfTenant db tenant_id rows →
    ∀ k ∈ (stale_evidence_details db tenant_id rows).keys, ∃ e ∈ rows, e.id = k
  names : ∀ rows, OfTenant db tenant_id rows → ∀ e ∈ rows, ∀ detail,
    (stale_evidence_details db tenant_id rows).get e.id = some detail →
      ∃ d ∈ db.deployments, e.deployment_id = some d.id ∧
        detail.superseded_deployed_at = d.deployed_at ∧
        (∃ d' ∈ db.deployments, Supersedes db d' d ∧
          detail.superseding_deployed_at = d'.deployed_at) ∧
        ∀ d' ∈ db.deployments, Supersedes db d' d →
          d'.deployed_at ≤ detail.superseding_deployed_at

/-- A report is about the deployment that the evidence cites and the newest that superseded it. -/
theorem reported {e : GateEvidence} {detail : StaleEvidenceDetail}
    (hrows : OfTenant db tenant_id rows) (he : e ∈ rows)
    (h : (stale_evidence_details db tenant_id rows).get e.id = some detail) :
    ∃ d ∈ db.deployments, e.deployment_id = some d.id ∧
      detail.superseded_deployed_at = d.deployed_at ∧
      ∃ newest, Newest db d newest ∧ detail.superseding_deployed_at = newest.deployed_at := by
  obtain ⟨e', he', hid, hdetail⟩ := (get_details hrows).1 h
  obtain rfl := Table.eq_of_key_eq (hrows e' he').1 (hrows e he).1 hid
  obtain ⟨ref, href, newest, hnewest, hlater, rfl⟩ := stale_detail_eq_some.1 hdetail
  obtain ⟨d, hd, hcites, hjoin, htenant, hmem⟩ := bind_referenced.1 href
  exact ⟨d, hd, hcites, joined_deployed_at hjoin, newest,
    newest_of_latest hd htenant hjoin hmem hnewest hlater, rfl⟩

theorem reported_of_stale {e : GateEvidence} (hrows : OfTenant db tenant_id rows) (he : e ∈ rows)
    (h : Stale db e) :
    ∃ detail, (stale_evidence_details db tenant_id rows).get e.id = some detail := by
  obtain ⟨d, hd, hcites, d', hd', hsup⟩ := h
  obtain ⟨b, hb, b', hb', hid, -⟩ := hsup.subsystem
  have hjoin := join_build_eq_some.2 ⟨b, hb, hid, rfl⟩
  obtain ⟨htenant, hmem⟩ := referenced_of_cited hrows he hd hcites hjoin
  obtain ⟨newest, hnewest, hlater⟩ := exists_latest hd htenant hjoin hmem hd' hsup
  have href := bind_referenced.2 ⟨d, hd, hcites, hjoin, htenant, hmem⟩
  exact ⟨_, (get_details hrows).2
    ⟨e, he, rfl, stale_detail_eq_some.2 ⟨_, href, newest, hnewest, hlater, rfl⟩⟩⟩

theorem stale_iff {e : GateEvidence} (hrows : OfTenant db tenant_id rows) (he : e ∈ rows) :
    e.id ∈ (stale_evidence_details db tenant_id rows).keys ↔ Stale db e := by
  rw [Index.mem_keys]
  constructor
  · rintro ⟨detail, hdetail⟩
    obtain ⟨d, hd, hcites, -, newest, hnewest, -⟩ := reported hrows he hdetail
    obtain ⟨d', hd', -, hsup⟩ := hnewest.superseding
    exact ⟨d, hd, hcites, d', hd', hsup⟩
  · exact reported_of_stale hrows he

theorem evidence_stale (db : EvidenceDb) (tenant_id : ℕ) : EvidenceStale db tenant_id where
  stale rows hrows e he := stale_iff hrows he
  only rows hrows k hk := by
    obtain ⟨detail, hdetail⟩ := Index.mem_keys.1 hk
    obtain ⟨e, he, hid, -⟩ := (get_details hrows).1 hdetail
    exact ⟨e, he, hid⟩
  names rows hrows e he detail hdetail := by
    obtain ⟨d, hd, hcites, hsuperseded, newest, hnewest, hsuperseding⟩ := reported hrows he hdetail
    obtain ⟨d', hd', hjoin, hsup⟩ := hnewest.superseding
    refine ⟨d, hd, hcites, hsuperseded, ⟨d', hd', hsup, ?_⟩, fun d'' hd'' hsup' => ?_⟩
    · rw [hsuperseding, joined_deployed_at hjoin]
    · rw [hsuperseding]
      exact hnewest.latest d'' hd'' hsup'

/-! ## A build deployed after another -/

/-- Both deployments are cited, and only the first is superseded. -/
def Sample.redeployed : EvidenceDb where
  environments :=
    Table.empty.insert ⟨fun id => ⟨id, 1, "uat", .active, none, none, none⟩, fun _ => rfl⟩
  builds := Table.empty.insert_all
    [⟨fun id => ⟨id, 7, "c0ffee", none⟩, fun _ => rfl⟩,
      ⟨fun id => ⟨id, 7, "decade", some "41"⟩, fun _ => rfl⟩]
  deployments := Table.empty.insert_all
    [⟨fun id => ⟨id, 1, 1, 1, 10, "success", none⟩, fun _ => rfl⟩,
      ⟨fun id => ⟨id, 1, 2, 1, 20, "success", none⟩, fun _ => rfl⟩]
  evidence := Table.empty.insert_all
    [⟨fun id => ⟨id, 1, 1, "deployment", "Smoke test", some 1, none⟩, fun _ => rfl⟩,
      ⟨fun id => ⟨id, 1, 1, "deployment", "Smoke test, again", some 2, none⟩, fun _ => rfl⟩]
  placed := by decide
  cited := by decide

theorem evidence_stale_redeployed :
    ∀ e ∈ Sample.redeployed.evidence, Stale Sample.redeployed e ↔ e.id = 1 := by
  have hrows : OfTenant Sample.redeployed 1 Sample.redeployed.evidence.rows :=
    fun e he => ⟨he, (by decide : ∀ e ∈ Sample.redeployed.evidence, e.tenant_id = 1) e he⟩
  have hkeys : (stale_evidence_details Sample.redeployed 1 Sample.redeployed.evidence.rows).keys =
      [1] := by
    decide +kernel
  intro e he
  rw [← (evidence_stale Sample.redeployed 1).stale _ hrows e he, hkeys, List.mem_singleton]

end EnvMgr.Readiness

/-
The upload of environments, row by row.

What a row is taken for depends on the sheet and on the tiers of the tenant only. A good row
goes through the ordinary create path, and of what that raises only a `ValueError` is kept to
the row.
-/
import EnvMgr.Compliance.Environments
import EnvMgr.Lib.Upload

namespace EnvMgr.Imports

open Bookings (list_definitions validate_custom_fields)
open Compliance (Cell Worksheet ImportContext ImportResult RowMessage External
  EnvironmentTier EnvironmentRecord MAX_NAME_LENGTH _find_col cell_at import_environments import_row
  import_named create_environment_record add_environment assert_name_available
  _validate_client_foreign_keys check_tier truthy)
open Lifecycle (scalar_one_or_none scalar_one_or_none_ok)
open Upload

variable {custom : Bookings.Db} {name entity_type : String} {e : Raised} {r : EnvironmentRecord}
  {tier : EnvironmentTier} {row : List (Option Cell)}

/-! ## Skip or make -/

/-- A row is skipped where its like is found, and made where nothing is. -/
def skip_or_make {σ α : Type} (found : List α) (s : σ) (make : Except Raised σ) :
    Except Raised (σ × Bool) := do
  let existing ← scalar_one_or_none found
  if existing.isSome then .ok (s, false)
  else do
    let t ← make
    .ok (t, true)

theorem skip_or_make_ok {σ α : Type} {found : List α} {s t : σ} {make : Except Raised σ}
    {fresh : Bool} :
    skip_or_make found s make = .ok (t, fresh) ↔
      (found.length = 1 ∧ t = s ∧ fresh = false) ∨
        (found.length = 0 ∧ fresh = true ∧ make = .ok t) := by
  simp only [skip_or_make, bind_eq_ok, scalar_one_or_none_ok]
  cases found with
  | nil =>
    simp only [List.length_nil, List.head?_nil, zero_le, true_and, exists_eq_left',
      Option.isSome_none, Bool.false_eq_true, if_false, bind_eq_ok, Except.ok.injEq, Prod.mk.injEq]
    constructor
    · rintro ⟨t', hmake, rfl, rfl⟩
      exact Or.inr ⟨rfl, hmake⟩
    · rintro (⟨habs, -⟩ | ⟨rfl, hmake⟩)
      · exact absurd habs (by decide)
      · exact ⟨t, hmake, rfl, rfl⟩
  | cons row rest =>
    cases rest with
    | nil =>
      simp only [List.length_singleton, List.head?_cons, le_refl, true_and, exists_eq_left',
        Option.isSome_some, if_true, Except.ok.injEq, Prod.mk.injEq]
      constructor
      · rintro ⟨rfl, rfl⟩
        exact Or.inl ⟨rfl, rfl⟩
      · rintro (⟨rfl, rfl⟩ | ⟨habs, -⟩)
        · exact ⟨rfl, rfl⟩
        · exact absurd habs (by decide)
    | cons row' rest => simp

/-- **Skipping and making is keyed** by what is looked up. -/
theorem keyed_skip_or_make {σ α γ κ : Type} [DecidableEq κ] {inv : σ → Prop}
    {found : σ → κ → List α} {key : γ → κ} {creatable : γ → Prop} {make : σ → γ → Except Raised σ}
    (hmake : ∀ s g, inv s →
      ((∃ t, make s g = .ok t) ↔ (found s (key g)).length = 0 ∧ creatable g))
    (hmade : ∀ s g t, inv s → make s g = .ok t → inv t ∧
      ∀ k, (found t k).length = (found s k).length + if k = key g then 1 else 0) :
    Keyed inv (fun s k => (found s k).length) key creatable
      fun s g => skip_or_make (found s (key g)) s (make s g) where
  ok_iff := by
    intro s g hs
    constructor
    · rintro ⟨⟨t, fresh⟩, h⟩
      rcases skip_or_make_ok.1 h with ⟨hone, -⟩ | ⟨hnone, -, hok⟩
      · exact ⟨hone.le, fun hnone => absurd (hone.symm.trans hnone) one_ne_zero⟩
      · exact ⟨hnone.trans_le zero_le_one, fun _ => ((hmake s g hs).1 ⟨t, hok⟩).2⟩
    · rintro ⟨hle, hcreatable⟩
      rcases Nat.le_one_iff_eq_zero_or_eq_one.1 hle with hnone | hone
      · obtain ⟨t, hok⟩ := (hmake s g hs).2 ⟨hnone, hcreatable hnone⟩
        exact ⟨(t, true), skip_or_make_ok.2 (Or.inr ⟨hnone, rfl, hok⟩)⟩
      · exact ⟨(s, false), skip_or_make_ok.2 (Or.inl ⟨hone, rfl, rfl⟩)⟩
  after := by
    intro s g t fresh hs h
    rcases skip_or_make_ok.1 h with ⟨hone, rfl, -⟩ | ⟨hnone, -, hok⟩
    · exact ⟨hs, hone, fun _ _ => rfl⟩
    · obtain ⟨hinv, hcount⟩ := hmade s g t hs hok
      refine ⟨hinv, ?_, fun k hk => ?_⟩
      · rw [hcount, hnone, if_pos rfl]
      · rw [hcount, if_neg hk, add_zero]

/-! ## Reading rows -/

structure GoodRow where
  name_str : String
  env_type : String
  matched_tier : Option EnvironmentTier
  tier : EnvironmentTier
  description : Option String

/-- The checks of `import_row` that ask nothing of the environments. -/
def parse_row (ext : External) (c : ImportContext) (row : List (Option Cell)) :
    Row GoodRow (String × String) :=
  if row.all Option.isNone then .blank
  else
    match (cell_at row (some c.name_idx)).filter fun cell => cell.truthy && strip cell.str ≠ "" with
    | none => .bad ("Name", "Name is required")
    | some name =>
      let env_type := ((cell_at row c.type_idx).map fun cell => strip cell.str).getD ""
      let matched_tier := c.tier_by_name ext (ext.lower (strip env_type))
      match matched_tier.or (c.other_tier ext) with
      | none =>
        .bad ("Type", s!"Unknown environment type '{env_type}' and this tenant has "
          ++ "no 'Other' tier to fall back to")
      | some tier =>
        .good ⟨strip name.str, env_type, matched_tier, tier,
          (cell_at row c.desc_idx).map fun cell => strip cell.str⟩

/-- The live environments of the tenant with this name. -/
def bearers (db : Compliance.Db) (tenant_id : ℕ) (name : String) : List Compliance.Environment :=
  db.environments.select fun env => env.name = name && (env.tenant_id = tenant_id && env.live)

def GoodRow.record (g : GoodRow) (c : ImportContext) : EnvironmentRecord where
  name := g.name_str
  tier_id := g.tier.id
  description := truthy g.description
  owner_user_id := c.owner_user_id
  operations_group_id := none
  expires_at := none
  env_status := .active
  custom_fields := none

/-- A good row is skipped where its name is taken, and created where it is not. -/
def place_row (ext : External) (c : ImportContext) (now : DateTime) (db : Compliance.Db)
    (g : GoodRow) : Except Raised (Compliance.Db × Bool) :=
  skip_or_make (bearers db c.tenant_id g.name_str) db
    (create_environment_record ext db c.tenant_id (g.record c) now)

/-- What the result says of the rows. -/
def counts (result : ImportResult) : Counts (String × String) where
  fresh := result.created
  known := result.skipped
  errors := result.errors.map fun e => (e.row, (e.field, e.message))

section

variable {ext : External} {c : ImportContext} {now : DateTime} {db : Compliance.Db}

/-! ## The create path raises no `ValueError` -/

theorem validate_raised {tenant_id : ℕ}
    (h : validate_custom_fields custom tenant_id entity_type none none = .error e) :
    e ≠ .ValueError := by
  simp only [validate_custom_fields, bind_eq_error] at h
  rcases h with h | ⟨_, -, h⟩
  · obtain ⟨defn, -, hraised⟩ := for_each_eq_error h
    obtain ⟨-, rfl⟩ := raise_if_eq_error.1 hraised
    exact Raised.noConfusion
  · obtain ⟨defn, -, hraised⟩ := for_each_eq_error h
    cases hraised

theorem validate_ok {tenant_id : ℕ} :
    validate_custom_fields custom tenant_id entity_type none none = .ok () ↔
      ∀ defn ∈ list_definitions custom tenant_id entity_type, defn.required = false := by
  simp [validate_custom_fields, Bookings.assert_field_type, Bookings.is_blank, Dict.empty, Dict.get]

theorem foreign_keys_raised {tenant_id : ℕ} {tier_id owner_user_id : Option ℕ}
    (h : _validate_client_foreign_keys db tenant_id tier_id owner_user_id none none = .error e) :
    e ≠ .ValueError := by
  simp only [_validate_client_foreign_keys, check_tier, bind_eq_error] at h
  rcases h with h | ⟨_, -, h | ⟨_, -, h⟩⟩
  · obtain ⟨id, -, hraised⟩ := for_each_eq_error h
    obtain ⟨-, rfl⟩ := raise_if_eq_error.1 hraised
    exact Raised.noConfusion
  · obtain ⟨id, -, hraised⟩ := for_each_eq_error h
    obtain ⟨-, rfl⟩ := raise_if_eq_error.1 hraised
    exact Raised.noConfusion
  · cases h

theorem create_raised {tenant_id : ℕ} (hfields : r.custom_fields = none)
    (hteam : r.operations_group_id = none)
    (h : create_environment_record ext db tenant_id r now = .error e) : e ≠ .ValueError := by
  simp only [create_environment_record, assert_name_available, bind_eq_error, raise_if_eq_error,
    hfields, hteam] at h
  rcases h with ⟨-, rfl⟩ | ⟨_, -, h | ⟨_, -, h | ⟨_, -, ⟨-, rfl⟩ | ⟨_, -, h⟩⟩⟩⟩
  · exact Raised.noConfusion
  · exact validate_raised h
  · exact foreign_keys_raised h
  · exact Raised.noConfusion
  · cases h

/-! ## The upload is its rows -/

/-- A row is taken for what it is before anything is looked up. -/
theorem import_row_parsed (result : ImportResult) (row : List (Option Cell)) (n : ℕ) :
    import_row ext c now (db, result) (row, n) =
      match parse_row ext c row with
      | .blank => .ok (db, result)
      | .bad fault => .ok (db, result.error n fault.1 fault.2)
      | .good g => import_named ext c now db result n g.name_str g.env_type g.matched_tier g.tier
          g.description := by
  simp only [import_row, parse_row]
  by_cases hblank : row.all Option.isNone = true
  · rw [if_pos hblank, if_pos hblank]
  · rw [if_neg hblank, if_neg hblank]
    cases (cell_at row (some c.name_idx)).filter fun cell =>
        cell.truthy && strip cell.str ≠ "" with
    | none => rfl
    | some name =>
      dsimp only
      cases (c.tier_by_name ext (ext.lower (strip (((cell_at row c.type_idx).map fun cell =>
          strip cell.str).getD "")))).or (c.other_tier ext) with
      | none => rfl
      | some tier => rfl

/-- A good row is reported as created or as skipped, and in no other way. -/
theorem import_named_counts (result : ImportResult) (n : ℕ) (g : GoodRow) :
    (import_named ext c now db result n g.name_str g.env_type g.matched_tier g.tier
        g.description).map (fun s => (s.1, counts s.2)) =
      take_row (place_row ext c now) (db, counts result) (.good g, n) := by
  simp only [import_named, take_row, place_row, skip_or_make, bearers]
  cases scalar_one_or_none (db.environments.select fun env =>
      env.name = g.name_str && (env.tenant_id = c.tenant_id && env.live)) with
  | error e => rfl
  | ok existing =>
    cases existing with
    | some env => rfl
    | none =>
      have hrecord : g.record c =
          ⟨g.name_str, g.tier.id, truthy g.description, c.owner_user_id, none, none, .active,
            none⟩ := rfl
      rw [← hrecord]
      cases hcreate : create_environment_record ext db c.tenant_id (g.record c) now with
      | ok db' =>
        simp [bind, Except.bind, Except.map, counts]
      | error e =>
        have hne := create_raised rfl rfl hcreate
        simp [bind, Except.bind, Except.map]

theorem import_row_counts (s : Compliance.Db × ImportResult) (numbered : List (Option Cell) × ℕ) :
    (import_row ext c now s numbered).map (fun s => (s.1, counts s.2)) =
      take_row (place_row ext c now) (s.1, counts s.2)
        (parse_row ext c numbered.1, numbered.2) := by
  rw [import_row_parsed]
  cases parse_row ext c numbered.1 with
  | blank => rfl
  | bad fault => simp [take_row, counts, ImportResult.error, Except.map]
  | good g => exact import_named_counts s.2 numbered.2 g

end

/-! ## The whole upload -/

/-- The tiers an upload is resolved against. -/
def live_tiers (db : Compliance.Db) (tenant_id : ℕ) : List EnvironmentTier :=
  db.reference.tiers.filter fun t => t.tenant_id = tenant_id ∧ t.deleted_at = none

/-- The importer, if they are a member of the tenant. -/
def owner_of (db : Compliance.Db) (tenant_id imported_by_user_id : ℕ) : Option ℕ :=
  let importer := db.reference.users.find? fun u => u.id = imported_by_user_id
  if importer.map Compliance.User.tenant_id = some tenant_id then some imported_by_user_id else none

def context (ext : External) (db : Compliance.Db) (headers : List (Option Cell))
    (tenant_id imported_by_user_id name_idx : ℕ) : ImportContext where
  tenant_id := tenant_id
  tiers := live_tiers db tenant_id
  owner_user_id := owner_of db tenant_id imported_by_user_id
  name_idx := name_idx
  type_idx := _find_col ext headers "Type"
  desc_idx := _find_col ext headers "Description"

section

variable {ext : External} {db : Compliance.Db} {headers : List (Option Cell)}
  {tenant_id user_id name_idx : ℕ} {now : DateTime}

/-- An upload of these rows under these headers. -/
def upload_environments (ext : External) (db : Compliance.Db) (headers : List (Option Cell))
    (tenant_id imported_by_user_id : ℕ) (now : DateTime) (rows : List (List (Option Cell))) :
    Except Raised (Compliance.Db × Counts (String × String)) :=
  (import_environments ext db ⟨headers, rows⟩ tenant_id imported_by_user_id now).map
    fun s => (s.1, counts s.2)

theorem upload_environments_eq (hname : _find_col ext headers "Name" = some name_idx)
    (htiers : live_tiers db tenant_id ≠ []) (rows : List (List (Option Cell))) :
    upload_environments ext db headers tenant_id user_id now rows =
      (read (parse_row ext (context ext db headers tenant_id user_id name_idx)) 2 rows).foldlM
        (take_row (place_row ext (context ext db headers tenant_id user_id name_idx) now))
        (db, ⟨0, 0, []⟩) := by
  have himport : import_environments ext db ⟨headers, rows⟩ tenant_id user_id now =
      (rows.zipIdx 2).foldlM
        (import_row ext (context ext db headers tenant_id user_id name_idx) now)
        (db, ⟨0, 0, [], []⟩) := by
    simp only [live_tiers] at htiers
    simp only [import_environments, hname, get_or_raise, raise_if, if_neg htiers]
    rfl
  rw [upload_environments, himport]
  exact foldlM_map import_row_counts

/-- A sheet without a name column, and a tenant without tiers, are refused as a whole. -/
theorem upload_environments_context {rows : List (List (Option Cell))}
    {r : Compliance.Db × Counts (String × String)}
    (h : upload_environments ext db headers tenant_id user_id now rows = .ok r) :
    (∃ name_idx, _find_col ext headers "Name" = some name_idx) ∧ live_tiers db tenant_id ≠ [] := by
  cases himport : import_environments ext db ⟨headers, rows⟩ tenant_id user_id now with
  | error e =>
    rw [upload_environments, himport] at h
    cases h
  | ok s =>
    simp only [import_environments, bind_eq_ok, get_or_raise_eq_ok, raise_if_eq_ok] at himport
    obtain ⟨name_idx, hname, _, htiers, -⟩ := himport
    exact ⟨⟨name_idx, hname⟩, htiers⟩

/-! ## Good rows by their names -/

/-- A new environment can be stored under the name: no custom field is required of it, and
the name fits the column. -/
structure Creatable (custom : Bookings.Db) (tenant_id : ℕ) (name : String) : Prop where
  nothing_required : ∀ defn ∈ list_definitions custom tenant_id "environment", defn.required = false
  fits : name.length ≤ MAX_NAME_LENGTH

theorem name_available_iff :
    assert_name_available db tenant_id name = .ok () ↔ (bearers db tenant_id name).length = 0 := by
  rw [assert_name_available, raise_if_eq_ok, List.length_eq_zero_iff, bearers, Table.select,
    List.filter_eq_nil_iff]
  simp only [not_exists, not_and, Bool.and_eq_true, decide_eq_true_eq]
  rfl

/-- The tier and the owner of a row that is to be created. -/
def KnownTargets (c : ImportContext) (db : Compliance.Db) (g : GoodRow) : Prop :=
  _validate_client_foreign_keys db c.tenant_id (some g.tier.id) c.owner_user_id none none = .ok ()

theorem create_ok_iff {c : ImportContext} {g : GoodRow} :
    (∃ db', create_environment_record ext db c.tenant_id (g.record c) now = .ok db') ↔
      (bearers db c.tenant_id g.name_str).length = 0 ∧ KnownTargets c db g ∧
        Creatable db.custom c.tenant_id g.name_str := by
  simp only [create_environment_record, bind_eq_ok, raise_if_eq_ok, Except.ok.injEq, not_lt]
  constructor
  · rintro ⟨_, _, hfree, _, hfields, _, htargets, _, hfits, -⟩
    exact ⟨name_available_iff.1 hfree, htargets, validate_ok.1 hfields, hfits⟩
  · rintro ⟨hfree, htargets, hrequired, hfits⟩
    exact ⟨_, (), name_available_iff.2 hfree, (), validate_ok.2 hrequired, (), htargets, (), hfits,
      rfl⟩

theorem create_ok {c : ImportContext} {g : GoodRow} {db' : Compliance.Db}
    (h : create_environment_record ext db c.tenant_id (g.record c) now = .ok db') :
    db' = add_environment ext db c.tenant_id (g.record c) now := by
  simp only [create_environment_record, bind_eq_ok, Except.ok.injEq] at h
  obtain ⟨_, -, _, -, _, -, _, -, rfl⟩ := h
  rfl

/-- The new environment bears its name, and no other name is touched. -/
theorem bearers_add :
    (bearers (add_environment ext db tenant_id r now) tenant_id name).length =
      (bearers db tenant_id name).length + if name = r.name then 1 else 0 := by
  rw [bearers, add_environment, Table.select_insert, List.length_append]
  by_cases hname : name = r.name
  · simp [bearers, EnvironmentRecord.row, Compliance.Environment.live, hname]
  · simp [bearers, EnvironmentRecord.row, hname, Ne.symm hname]

/-- **Good rows are keyed by their names.** -/
theorem place_row_keyed (c : ImportContext) :
    Keyed (fun s : Compliance.Db => s.reference = db.reference)
      (fun s name => (bearers s c.tenant_id name).length) GoodRow.name_str
      (fun g => KnownTargets c db g ∧ Creatable db.custom c.tenant_id g.name_str)
      (place_row ext c now) := by
  refine keyed_skip_or_make (fun s g hs => ?_) (fun s g t hs h => ?_)
  · have htargets : KnownTargets c s g ↔ KnownTargets c db g := by
      simp only [KnownTargets, _validate_client_foreign_keys, check_tier, hs]
    have hcustom : s.custom = db.custom := by rw [Compliance.Db.custom, Compliance.Db.custom, hs]
    rw [← htargets, ← hcustom]
    exact create_ok_iff
  · obtain rfl := create_ok h
    exact ⟨hs, fun name => bearers_add⟩

/-! ## The condition -/

theorem tier_by_name_mem {c : ImportContext} (h : c.tier_by_name ext name = some tier) :
    tier ∈ c.tiers :=
  List.mem_reverse.1 (List.mem_of_find?_eq_some h)

theorem other_tier_mem {c : ImportContext} (h : c.other_tier ext = some tier) : tier ∈ c.tiers := by
  rcases Option.or_eq_some_iff.1 h with h | ⟨-, h⟩
  · exact List.mem_of_find?_eq_some h
  · exact tier_by_name_mem h

/-- The tier of a good row is one that the upload is resolved against. -/
theorem parse_row_tier {c : ImportContext} {g : GoodRow} (h : parse_row ext c row = .good g) :
    g.tier ∈ c.tiers := by
  simp only [parse_row] at h
  split at h
  · cases h
  · split at h
    · cases h
    · split at h
      · cases h
      · next tier hfound =>
        cases h
        rcases Option.or_eq_some_iff.1 hfound with hmatched | ⟨-, hother⟩
        · exact tier_by_name_mem hmatched
        · exact other_tier_mem hother

/-- The importer owns what they import as a member of the tenant only. -/
theorem owner_of_member {id : ℕ} (h : owner_of db tenant_id user_id = some id) :
    ∃ u ∈ db.reference.users, u.id = id ∧ u.tenant_id = tenant_id := by
  simp only [owner_of] at h
  split_ifs at h with hmember
  cases h
  obtain ⟨u, hu, htenant⟩ := Option.map_eq_some_iff.1 hmember
  exact ⟨u, List.mem_of_find?_eq_some hu, by simpa using List.find?_some hu, htenant⟩

theorem known_targets {g : GoodRow}
    (hrow : parse_row ext (context ext db headers tenant_id user_id name_idx) row = .good g) :
    KnownTargets (context ext db headers tenant_id user_id name_idx) db g := by
  have htier : g.tier ∈ db.reference.tiers ∧
      g.tier.tenant_id = tenant_id ∧ g.tier.deleted_at = none := by
    simpa [context, live_tiers] using parse_row_tier hrow
  simp only [KnownTargets, _validate_client_foreign_keys, check_tier, bind_eq_ok, for_each_eq_ok,
    raise_if_eq_ok, not_not, Option.mem_toList]
  refine ⟨(), ?_, (), ?_, ?_⟩
  · intro id hid
    cases hid
    exact ⟨g.tier, htier.1, rfl, htier.2⟩
  · exact fun id hid => owner_of_member hid
  · intro id hid
    cases hid

/-- The sheet has a name column and the tenant has a tier; and of the good rows each name is
borne by one live environment at most, and where it is borne by none it is creatable. -/
def EnvironmentsImportable (ext : External) (db : Compliance.Db) (ws : Worksheet)
    (tenant_id imported_by_user_id : ℕ) : Prop :=
  ∃ name_idx, _find_col ext ws.headers "Name" = some name_idx ∧ live_tiers db tenant_id ≠ [] ∧
    ∀ row ∈ ws.rows, ∀ g,
      parse_row ext (context ext db ws.headers tenant_id imported_by_user_id name_idx) row =
          .good g →
        (bearers db tenant_id g.name_str).length ≤ 1 ∧
          (bearers db tenant_id g.name_str = [] → Creatable db.custom tenant_id g.name_str)

/-- The upload of the sheet isolates its rows, and each good row is stored: one live
environment of the tenant bears its name. -/
def EnvironmentsIsolated (ext : External) (db : Compliance.Db) (ws : Worksheet)
    (tenant_id imported_by_user_id : ℕ) (now : DateTime) : Prop :=
  ∃ name_idx, _find_col ext ws.headers "Name" = some name_idx ∧
    Isolates (upload_environments ext db ws.headers tenant_id imported_by_user_id now)
      (parse_row ext (context ext db ws.headers tenant_id imported_by_user_id name_idx)) 2 ws.rows
      fun db' g => (bearers db' tenant_id g.name_str).length = 1

/-- **When an upload of environments isolates its rows.** -/
theorem environments_isolated_iff (ext : External) (db : Compliance.Db) (ws : Worksheet)
    (tenant_id user_id : ℕ) (now : DateTime) :
    EnvironmentsIsolated ext db ws tenant_id user_id now ↔
      EnvironmentsImportable ext db ws tenant_id user_id := by
  refine exists_congr fun name_idx => and_congr_right fun hname => ?_
  by_cases htiers : live_tiers db tenant_id ≠ []
  · let c := context ext db ws.headers tenant_id user_id name_idx
    have hkeyed := @place_row_keyed ext db now c
    refine (hkeyed.isolates_iff rfl fun rows => upload_environments_eq hname htiers rows).trans ?_
    -- the targets of every good row are known, and the rest depends on its name alone
    have hgoods : ∀ g ∈ goods (read (parse_row ext c) 2 ws.rows),
        (KnownTargets c db g ∧ Creatable db.custom tenant_id g.name_str) ↔
          Creatable db.custom tenant_id g.name_str := by
      intro g hg
      obtain ⟨row, -, hrow⟩ := mem_goods.1 hg
      exact and_iff_right (known_targets hrow)
    refine (placeable_congr hgoods).trans (placeable_iff_forall.trans ?_)
    constructor
    · intro h
      refine ⟨htiers, fun row hrow g hg => ?_⟩
      obtain ⟨hle, hcreatable⟩ := h g (mem_goods.2 ⟨row, hrow, hg⟩)
      exact ⟨hle, fun hnone => hcreatable (List.length_eq_zero_iff.2 hnone)⟩
    · rintro ⟨-, h⟩ g hg
      obtain ⟨row, hrow, hg⟩ := mem_goods.1 hg
      obtain ⟨hle, hcreatable⟩ := h row hrow g hg
      exact ⟨hle, fun hnone => hcreatable (List.length_eq_zero_iff.1 hnone)⟩
  · refine iff_of_false ?_ fun h => htiers h.1
    rintro ⟨db', counted, hok, -⟩
    exact htiers (upload_environments_context hok).2

end

end EnvMgr.Imports

/-
What a scan writes.

The subsystems are written one declaration at a time, so there is one statement
of what the loop has done so far (`Written`) and one lemma that a turn of the
loop keeps it. The edges are written in one go, after the delete; whether that
raises depends only on which rows the delete left.
-/
import EnvMgr.Scanning.Reconcile

namespace EnvMgr.Scanning

variable {db db₀ : Db} {name : String} {row : SubSystem} {st st' : Applying}
variable {row_id : ℕ} {db' : Db} {subs : List DeclaredSubsystem} {sub : DeclaredSubsystem}

/-! ## Looking a subsystem up -/

/-- A row the catalogue of the system shows. -/
def SubSystem.Listed (system_id tenant_id : ℕ) (row : SubSystem) : Prop :=
  row.system_id = system_id ∧ row.tenant_id = tenant_id ∧ row.deleted_at = none
  deriving Decidable

theorem get_catalogue {system_id tenant_id : ℕ} :
    (catalogue db system_id tenant_id).get name = some row ↔
      row ∈ db.subsystems ∧ row.Listed system_id tenant_id ∧ row.name = name := by
  constructor
  · intro h
    obtain ⟨hmem, hname⟩ := Index.get_collect_some h
    obtain ⟨hrow, hlisted⟩ := Table.mem_select.1 hmem
    exact ⟨hrow, of_decide_eq_true hlisted, Option.some.inj hname⟩
  · rintro ⟨hrow, hlisted, rfl⟩
    refine Index.get_collect_of_unique (Table.mem_select.2 ⟨hrow, decide_eq_true hlisted⟩) rfl ?_
    -- the partial unique index leaves one live row for the name
    intro other hother hname
    obtain ⟨hmem, hscope⟩ := Table.mem_select.1 hother
    have hscope : other.Listed system_id tenant_id := of_decide_eq_true hscope
    exact db.uq_subsystem_system_name other hmem row hrow
      ⟨hscope.2.2, hlisted.2.2, hscope.1.trans hlisted.1.symm, Option.some.inj hname⟩

/-- The id under which the catalogue lists a name. -/
def listed_id (db : Db) (system_id tenant_id : ℕ) (name : String) : Option ℕ :=
  ((catalogue db system_id tenant_id).get name).map SubSystem.id

theorem listed_id_eq_some {system_id tenant_id : ℕ} :
    listed_id db system_id tenant_id name = some row_id ↔
      ∃ row ∈ db.subsystems, row.Listed system_id tenant_id ∧ row.name = name ∧
        row.id = row_id := by
  rw [listed_id, Option.map_eq_some_iff]
  constructor
  · rintro ⟨row, hget, hid⟩
    obtain ⟨hrow, hlisted, hname⟩ := get_catalogue.1 hget
    exact ⟨row, hrow, hlisted, hname, hid⟩
  · rintro ⟨row, hrow, hlisted, hname, hid⟩
    exact ⟨row, get_catalogue.2 ⟨hrow, hlisted, hname⟩, hid⟩

/-- **Names and ids are one key.** -/
theorem listed_id_inj {system_id tenant_id : ℕ} {name' : String}
    (h : listed_id db system_id tenant_id name = some row_id)
    (h' : listed_id db system_id tenant_id name' = some row_id) : name = name' := by
  obtain ⟨row, hrow, -, rfl, hid⟩ := listed_id_eq_some.1 h
  obtain ⟨row', hrow', -, rfl, hid'⟩ := listed_id_eq_some.1 h'
  rw [Table.eq_of_key_eq hrow hrow' (hid.trans hid'.symm)]

theorem mem_catalogue_keys {system_id tenant_id : ℕ} :
    name ∈ (catalogue db system_id tenant_id).keys ↔
      ∃ row_id, listed_id db system_id tenant_id name = some row_id := by
  rw [Index.mem_keys]
  constructor
  · rintro ⟨row, h⟩
    exact ⟨row.id, by rw [listed_id, h, Option.map_some]⟩
  · rintro ⟨row_id, h⟩
    obtain ⟨row, hget, -⟩ := Option.map_eq_some_iff.1 h
    exact ⟨row, hget⟩

/-! ## One statement at a time -/

theorem add_subsystem_ok {new : Table.New SubSystem.id}
    (h : db.add_subsystem new = .ok (db', row)) :
    row = new.row db.subsystems.next ∧ db'.subsystems = db.subsystems.insert new ∧
      db'.dependencies = db.dependencies ∧ db'.endpoints = db.endpoints := by
  unfold Db.add_subsystem at h
  split at h
  · obtain ⟨rfl, rfl⟩ := Prod.mk.inj (Except.ok.inj h)
    exact ⟨rfl, rfl, rfl, rfl⟩
  · cases h

/-- A new row is listed under its name; nothing else in the catalogue changes. -/
theorem catalogue_add_subsystem {system_id tenant_id : ℕ} {new : Table.New SubSystem.id}
    (h : db.add_subsystem new = .ok (db', row)) (hlisted : row.Listed system_id tenant_id)
    (name : String) :
    (catalogue db' system_id tenant_id).get name =
      if name = row.name then some row else (catalogue db system_id tenant_id).get name := by
  obtain ⟨hrow, hsubs, -, -⟩ := add_subsystem_ok h
  have hmem : row ∈ db'.subsystems := by
    rw [hsubs, hrow]
    exact Table.mem_insert.2 (Or.inr rfl)
  by_cases hname : name = row.name
  · rw [if_pos hname]
    exact get_catalogue.2 ⟨hmem, hlisted, hname.symm⟩
  · rw [if_neg hname]
    ext other
    simp only [get_catalogue, hsubs, Table.mem_insert, ← hrow]
    constructor
    · rintro ⟨hother | rfl, hscope, hother_name⟩
      · exact ⟨hother, hscope, hother_name⟩
      · exact absurd hother_name.symm hname
    · rintro ⟨hother, hscope, hother_name⟩
      exact ⟨Or.inl hother, hscope, hother_name⟩

theorem SubSystem.Edit.listed_iff (f : SubSystem.Edit) (system_id tenant_id : ℕ) (row : SubSystem) :
    (f.apply row).Listed system_id tenant_id ↔ row.Listed system_id tenant_id := by
  obtain ⟨hsystem, htenant, -, hdeleted⟩ := f.keeps row
  rw [Listed, Listed, hsystem, htenant, hdeleted]

theorem catalogue_update_subsystem {system_id tenant_id : ℕ} (hrow : row ∈ db.subsystems)
    (hlisted : row.Listed system_id tenant_id) (f : SubSystem.Edit) (name : String) :
    (catalogue (db.update_subsystem row.id f) system_id tenant_id).get name =
      if name = row.name then some (f.apply row)
      else (catalogue db system_id tenant_id).get name := by
  have hmem : f.apply row ∈ (db.update_subsystem row.id f).subsystems :=
    Table.mem_update_of_pos hrow (decide_eq_true rfl)
  by_cases hname : name = row.name
  · rw [if_pos hname]
    exact get_catalogue.2 ⟨hmem, (f.listed_iff system_id tenant_id row).2 hlisted,
      (f.keeps row).2.2.1.trans hname.symm⟩
  · rw [if_neg hname]
    -- the name is not among what an update may write
    ext other
    rw [get_catalogue, get_catalogue]
    constructor
    · rintro ⟨hother, hscope, hother_name⟩
      rcases Table.mem_update_cases hother with ⟨r, hr, hid, rfl⟩ | ⟨hother, -⟩
      · obtain rfl := Table.eq_of_key_eq hr hrow (of_decide_eq_true hid)
        exact absurd (hother_name.symm.trans (f.keeps r).2.2.1) hname
      · exact ⟨hother, hscope, hother_name⟩
    · rintro ⟨hother, hscope, hother_name⟩
      refine ⟨Table.mem_update_of_neg hother (decide_eq_false fun hid => ?_), hscope, hother_name⟩
      rw [Table.eq_of_key_eq hother hrow hid] at hother_name
      exact hname hother_name.symm

/-! ## The loop over the subsystems -/

/-- The attributes of a row are those the declaration gives. -/
def Stamped (source : SubSystemSource) (sub : DeclaredSubsystem) (row : SubSystem) : Prop :=
  row.component_type = sub.component_type ∧ row.technology = sub.technology ∧
    row.source = source ∧ row.source_path = some sub.source_path

theorem stamped_new (system_id tenant_id : ℕ) (source : SubSystemSource)
    (sub : DeclaredSubsystem) (n : ℕ) :
    Stamped source sub ((new_subsystem system_id tenant_id source sub).row n) :=
  ⟨rfl, rfl, rfl, rfl⟩

theorem stamped_stamp (source : SubSystemSource) (sub : DeclaredSubsystem) (row : SubSystem) :
    Stamped source sub ((stamp_subsystem source sub).apply row) :=
  ⟨rfl, rfl, rfl, rfl⟩

/-- What tells a subsystem from another, and whether the catalogue lists it. -/
def SameSubsystem (a b : SubSystem) : Prop :=
  b.id = a.id ∧ b.system_id = a.system_id ∧ b.tenant_id = a.tenant_id ∧ b.name = a.name ∧
    b.deleted_at = a.deleted_at

theorem SameSubsystem.refl (a : SubSystem) : SameSubsystem a a := ⟨rfl, rfl, rfl, rfl, rfl⟩

theorem SameSubsystem.trans (a b c : SubSystem) (h : SameSubsystem a b) (h' : SameSubsystem b c) :
    SameSubsystem a c :=
  ⟨h'.1.trans h.1, h'.2.1.trans h.2.1, h'.2.2.1.trans h.2.2.1, h'.2.2.2.1.trans h.2.2.2.1,
    h'.2.2.2.2.trans h.2.2.2.2⟩

theorem SubSystem.Edit.same (f : SubSystem.Edit) (row : SubSystem) :
    SameSubsystem row (f.apply row) :=
  ⟨f.key_apply row, (f.keeps row).1, (f.keeps row).2.1, (f.keeps row).2.2.1, (f.keeps row).2.2.2⟩

section

variable {system_id tenant_id : ℕ} {source : SubSystemSource}

/-- The loop has gone over `subs`, starting from the catalogue of `db₀`. -/
structure Written (system_id tenant_id : ℕ) (source : SubSystemSource) (db₀ : Db)
    (subs : List DeclaredSubsystem) (st : Applying) : Prop where
  existing : ∀ name,
    (st.existing.get name).map SubSystem.id = listed_id st.db system_id tenant_id name
  declared_ids : ∀ name, st.declared_ids.get name =
    if name ∈ (declared_by_name subs).keys then listed_id st.db system_id tenant_id name else none
  listed : ∀ name, name ∈ (catalogue st.db system_id tenant_id).keys ↔
    name ∈ (catalogue db₀ system_id tenant_id).keys ∨ name ∈ (declared_by_name subs).keys
  stamped : ∀ name sub, (declared_by_name subs).get name = some sub →
    ∃ row, (catalogue st.db system_id tenant_id).get name = some row ∧ Stamped source sub row
  kept : Table.Retains SameSubsystem db₀.subsystems st.db.subsystems
  dependencies : st.db.dependencies = db₀.dependencies
  endpoints : st.db.endpoints = db₀.endpoints
  created : st.result.subsystems_created = ((declared_by_name subs).keys.filter
    fun name => name ∉ (catalogue db₀ system_id tenant_id).keys).length

theorem declared_by_name_append (subs : List DeclaredSubsystem) (sub : DeclaredSubsystem) :
    declared_by_name (subs ++ [sub]) = (declared_by_name subs).set sub.name sub :=
  Index.collect_append_singleton _ _ _

/-- Whatever the turn wrote under the declared name, the four statements about names
follow from where that row stands in the catalogue now. -/
theorem Written.next (h : Written system_id tenant_id source db₀ subs st) (row : SubSystem)
    (hget : ∀ name, (catalogue st'.db system_id tenant_id).get name =
      if name = sub.name then some row else (catalogue st.db system_id tenant_id).get name)
    (hstamped : Stamped source sub row)
    (hexisting : ∀ name, (st'.existing.get name).map SubSystem.id =
      if name = sub.name then some row.id else (st.existing.get name).map SubSystem.id)
    (hids : st'.declared_ids = st.declared_ids.set sub.name row.id)
    (hkept : Table.Retains SameSubsystem st.db.subsystems st'.db.subsystems)
    (hdeps : st'.db.dependencies = st.db.dependencies) (hends : st'.db.endpoints = st.db.endpoints)
    (hcreated : st'.result.subsystems_created = ((declared_by_name (subs ++ [sub])).keys.filter
      fun name => name ∉ (catalogue db₀ system_id tenant_id).keys).length) :
    Written system_id tenant_id source db₀ (subs ++ [sub]) st' := by
  -- all four statements speak of ids by name
  have hlisted_id : ∀ name, listed_id st'.db system_id tenant_id name =
      if name = sub.name then some row.id else listed_id st.db system_id tenant_id name := by
    intro name
    rw [listed_id, hget]
    split
    · rfl
    · rfl
  have hkeys : ∀ name, name ∈ (declared_by_name (subs ++ [sub])).keys ↔
      name ∈ (declared_by_name subs).keys ∨ name = sub.name := by
    intro name
    rw [declared_by_name_append, Index.mem_keys_set]
  constructor
  case existing =>
    intro name
    rw [hexisting, hlisted_id, h.existing]
  case declared_ids =>
    intro name
    rw [hids, Index.get_set, hlisted_id, h.declared_ids]
    by_cases hname : name = sub.name
    · rw [if_pos hname, if_pos hname, if_pos ((hkeys name).2 (Or.inr hname))]
    · rw [if_neg hname, if_neg hname]
      by_cases hdone : name ∈ (declared_by_name subs).keys
      · rw [if_pos hdone, if_pos ((hkeys name).2 (Or.inl hdone))]
      · rw [if_neg hdone, if_neg fun hmem => ((hkeys name).1 hmem).elim hdone hname]
  case listed =>
    intro name
    rw [hkeys, ← or_assoc, ← h.listed, Index.mem_keys, Index.mem_keys, hget]
    by_cases hname : name = sub.name
    · rw [if_pos hname]
      exact ⟨fun _ => Or.inr hname, fun _ => ⟨row, rfl⟩⟩
    · rw [if_neg hname]
      exact (or_iff_left hname).symm
  case stamped =>
    intro name sub' hsub'
    rw [declared_by_name_append, Index.get_set] at hsub'
    rw [hget]
    by_cases hname : name = sub.name
    · rw [if_pos hname] at hsub' ⊢
      rw [← Option.some.inj hsub']
      exact ⟨row, rfl, hstamped⟩
    · rw [if_neg hname] at hsub' ⊢
      exact h.stamped name sub' hsub'
  case kept => exact h.kept.trans hkept SameSubsystem.trans
  case dependencies => exact hdeps.trans h.dependencies
  case endpoints => exact hends.trans h.endpoints
  case created => exact hcreated

theorem Written.start (db : Db) :
    Written system_id tenant_id source db []
      { db := db
        existing := catalogue db system_id tenant_id
        declared_ids := Index.empty
        result := ⟨0, 0, 0⟩ } where
  existing _ := rfl
  declared_ids _ := rfl
  listed name := by simp [declared_by_name, Index.keys, Index.empty]
  stamped name sub h := by simp [declared_by_name] at h
  kept := Table.retains_refl SameSubsystem.refl _
  dependencies := rfl
  endpoints := rfl
  created := rfl

/-- A name the loop has met is listed from then on, so its later declarations are
updates: the filter counts a name the first time only. -/
theorem missing_keys_set (d : Index String DeclaredSubsystem) (sub : DeclaredSubsystem)
    (present : List String) :
    ((d.set sub.name sub).keys.filter fun name => name ∉ present).length =
      (d.keys.filter fun name => name ∉ present).length +
        if sub.name ∈ present ∨ sub.name ∈ d.keys then 0 else 1 := by
  rw [Index.keys_set]
  by_cases hd : sub.name ∈ d.keys
  · rw [if_pos hd, if_pos (Or.inr hd), Nat.add_zero]
  · rw [if_neg hd, List.filter_append, List.length_append]
    by_cases hp : sub.name ∈ present <;> simp [hp, hd]

/-- **One turn of the loop.** -/
theorem Written.step (h : Written system_id tenant_id source db₀ subs st)
    (hstep : apply_subsystem system_id tenant_id source st sub = .ok st') :
    Written system_id tenant_id source db₀ (subs ++ [sub]) st' := by
  have hlisted := h.listed sub.name
  have hexisting := h.existing sub.name
  unfold apply_subsystem at hstep
  cases hget : st.existing.get sub.name with
  | none =>
    simp only [hget, bind_eq_ok, pure_eq_ok] at hstep
    obtain ⟨⟨db, row⟩, hadd, rfl⟩ := hstep
    obtain ⟨hrow, hsubs, hdeps, hends⟩ := add_subsystem_ok hadd
    have hscope : row.Listed system_id tenant_id := by
      rw [hrow]
      exact ⟨rfl, rfl, rfl⟩
    have hname : row.name = sub.name := by
      rw [hrow]
      rfl
    -- not listed now, hence neither listed before nor declared so far
    have hnew : ¬ (sub.name ∈ (catalogue db₀ system_id tenant_id).keys ∨
        sub.name ∈ (declared_by_name subs).keys) := by
      rw [← hlisted, mem_catalogue_keys, ← hexisting, hget]
      rintro ⟨row_id, hnone⟩
      cases hnone
    refine h.next row ?_ ?_ ?_ rfl ?_ hdeps hends ?_
    · intro name
      rw [catalogue_add_subsystem hadd hscope, hname]
    · rw [hrow]
      exact stamped_new _ _ _ _ _
    · intro name
      rw [Index.get_set]
      split <;> rfl
    · rw [hsubs]
      exact Table.retains_insert SameSubsystem.refl _ _
    · rw [declared_by_name_append, missing_keys_set, if_neg hnew, ← h.created]
  | some row =>
    simp only [hget, pure_eq_ok] at hstep
    subst hstep
    rw [hget, Option.map_some] at hexisting
    obtain ⟨row', hrow', hscope, hname, hid⟩ := listed_id_eq_some.1 hexisting.symm
    have hold : sub.name ∈ (catalogue db₀ system_id tenant_id).keys ∨
        sub.name ∈ (declared_by_name subs).keys :=
      hlisted.1 (mem_catalogue_keys.2 ⟨row.id, hexisting.symm⟩)
    refine h.next ((stamp_subsystem source sub).apply row') ?_ (stamped_stamp _ _ _) ?_ ?_
      ?_ rfl rfl ?_
    · intro name
      rw [← hid, catalogue_update_subsystem hrow' hscope, hname]
    · intro name
      split
      · rename_i heq
        rw [heq, hget, Option.map_some, ← hid]
        rfl
      · rfl
    · rw [← hid]
      rfl
    · exact Table.retains_update SameSubsystem.refl _ _ fun r => SubSystem.Edit.same _ r
    · rw [declared_by_name_append, missing_keys_set, if_pos hold, ← h.created]
      rfl

theorem Written.run {done : List DeclaredSubsystem}
    (h : Written system_id tenant_id source db₀ done st)
    (hrun : subs.foldlM (apply_subsystem system_id tenant_id source) st = .ok st') :
    Written system_id tenant_id source db₀ (done ++ subs) st' := by
  induction subs generalizing done st with
  | nil =>
    obtain rfl : st = st' := by simpa using hrun
    rwa [List.append_nil]
  | cons sub subs ih =>
    rw [List.foldlM_cons, bind_eq_ok] at hrun
    obtain ⟨mid, hstep, hrest⟩ := hrun
    simpa using ih (h.step hstep) hrest

end

end EnvMgr.Scanning

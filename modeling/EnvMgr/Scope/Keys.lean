/-
The constraints of `release_change`, and that every request keeps them.

A row that the columns do not take, or whose key another row of the tenant has, ends the
request. So a key is looked up and found once at most, in whatever release its item is and
whether it is deleted or not.
-/
import EnvMgr.Scope.Import

namespace EnvMgr.Scope

open Lifecycle (scalar_one_or_none)

/-! ## The constraints -/

structure Constraints (changes : Changes) : Prop where
  fits : ∀ c ∈ changes, c.fits = true
  keys : ∀ a ∈ changes, ∀ b ∈ changes, SameKey a b → a = b

theorem SameKey.symm {a b : ReleaseChange} (h : SameKey a b) : SameKey b a :=
  ⟨h.1.symm, fun hb => h.2.1 (h.2.2.trans hb), h.2.2.symm⟩

theorem constraints_empty : Constraints Table.empty :=
  ⟨fun c hc => absurd hc (Table.not_mem_empty c), fun a ha => absurd ha (Table.not_mem_empty a)⟩

/-! ## Writing a row -/

section

variable {changes t : Changes} {change : ReleaseChange} {new : Table.New ReleaseChange.id}
  {edit : Table.Edit ReleaseChange.id}

theorem add_change_ok :
    add_change changes new = .ok t ↔
      (new.row changes.next).fits = true ∧
        (∀ c ∈ changes, ¬ SameKey c (new.row changes.next)) ∧ t = changes.insert new := by
  simp only [add_change, bind_eq_ok, raise_if_eq_ok, Bool.not_eq_false, Except.ok.injEq,
    not_exists, not_and]
  constructor
  · rintro ⟨_, hfits, _, hfree, rfl⟩
    exact ⟨hfits, hfree, rfl⟩
  · rintro ⟨hfits, hfree, rfl⟩
    exact ⟨(), hfits, (), hfree, rfl⟩

theorem set_change_ok :
    set_change changes change edit = .ok t ↔
      (edit.apply change).fits = true ∧
        (∀ c ∈ changes, c.id ≠ change.id → ¬ SameKey c (edit.apply change)) ∧
        t = changes.update (fun c => c.id = change.id) edit := by
  simp only [set_change, bind_eq_ok, raise_if_eq_ok, Bool.not_eq_false, Except.ok.injEq,
    not_exists, not_and]
  constructor
  · rintro ⟨_, hfits, _, hfree, rfl⟩
    exact ⟨hfits, hfree, rfl⟩
  · rintro ⟨hfits, hfree, rfl⟩
    exact ⟨(), hfits, (), hfree, rfl⟩

theorem Constraints.add (h : Constraints changes) (hadd : add_change changes new = .ok t) :
    Constraints t := by
  obtain ⟨hfits, hfree, rfl⟩ := add_change_ok.1 hadd
  exact ⟨(Table.forall_insert_iff h.fits).2 hfits,
    Table.unique_insert SameKey.symm h.keys hfree⟩

theorem Constraints.set (h : Constraints changes) (hchange : change ∈ changes)
    (hset : set_change changes change edit = .ok t) : Constraints t := by
  obtain ⟨hfits, hfree, rfl⟩ := set_change_ok.1 hset
  refine ⟨(Table.forall_update_key_iff h.fits hchange).2 hfits, ?_⟩
  refine (Table.unique_update_iff SameKey.symm h.keys hchange
    (Table.key_match hchange)).2 fun a ha hsame => ?_
  by_contra hne
  exact hfree a ha (fun hid => hne (Table.eq_of_key_eq ha hchange hid)) hsame

/-- Where an item is, the constraints do not ask. -/
theorem Constraints.reassign (h : Constraints changes) (p : ReleaseChange → Bool)
    (to_release_id : Option ℕ) : Constraints (changes.update p (reassigned to_release_id)) := by
  refine ⟨(Table.forall_update_iff h.fits).2 fun c hc _ => h.fits c hc, ?_⟩
  -- tenant and key are the same before and after
  refine Table.unique_update (fun a b hsame => ?_) h.keys
  cases hpa : p a <;> cases hpb : p b <;> rw [hpa, hpb] at hsame <;> exact hsame

end

/-! ## The item with a key -/

/-- The item of the tenant that has the key, wherever it is. -/
def held (changes : Changes) (k : ℕ × String) : Option ReleaseChange :=
  changes.select_one fun c => c.tenant_id = k.1 ∧ c.external_key = some k.2

section

variable {changes t : Changes} {k : ℕ × String} {c : ReleaseChange}

theorem Constraints.held_iff (h : Constraints changes) :
    held changes k = some c ↔
      c ∈ changes ∧ c.tenant_id = k.1 ∧ c.external_key = some k.2 := by
  refine Table.select_one_iff fun a ha b hb hak hbk => h.keys a ha b hb ?_
  refine ⟨hak.1.trans hbk.1.symm, ?_, hak.2.trans hbk.2.symm⟩
  rw [hak.2]
  exact Option.some_ne_none _

theorem held_none (h : held changes k = none) (hc : c ∈ changes) :
    ¬ (c.tenant_id = k.1 ∧ c.external_key = some k.2) :=
  of_decide_eq_false (Table.select_one_none h hc)

end

/-! ## The upload -/

section

variable {changes t : Changes} {release_id tenant_id : ℕ} {r : ScopeRow} {fresh : Bool}

theorem find_existing_mem {external_key : Option CellValue} {change : ReleaseChange}
    (h : find_existing changes release_id tenant_id external_key = .ok (some change)) :
    change ∈ changes := by
  match external_key, h with
  | some (.text ek), h =>
    simp only [find_existing, scalar_one_or_none, bind_eq_ok, Except.ok.injEq] at h
    obtain ⟨-, -, hhead⟩ := h
    exact (Table.mem_select.1 (List.mem_of_mem_head? hhead)).1

theorem upsert_ok :
    upsert release_id tenant_id changes r = .ok (t, fresh) ↔
      ∃ existing fields, find_existing changes release_id tenant_id r.external_key = .ok existing ∧
        r.fields = .ok fields ∧
        ((∃ change, existing = some change ∧ set_change changes change fields.edit = .ok t ∧
            fresh = false) ∨
          ∃ external_key, existing = none ∧ bind_nullable r.external_key = .ok external_key ∧
            add_change changes (fields.new release_id tenant_id external_key) = .ok t ∧
            fresh = true) := by
  simp only [upsert, bind_eq_ok]
  refine exists_congr fun existing => ?_
  cases existing with
  | some change =>
    constructor
    · rintro ⟨hfind, fields, hfields, h⟩
      simp only [bind_eq_ok, Except.ok.injEq, Prod.mk.injEq] at h
      obtain ⟨_, hset, rfl, rfl⟩ := h
      exact ⟨fields, hfind, hfields, Or.inl ⟨change, rfl, hset, rfl⟩⟩
    · rintro ⟨fields, hfind, hfields, ⟨_, heq, hset, rfl⟩ | ⟨_, heq, -⟩⟩
      · obtain rfl := Option.some.inj heq
        refine ⟨hfind, fields, hfields, ?_⟩
        simp [hset]
      · cases heq
  | none =>
    constructor
    · rintro ⟨hfind, fields, hfields, h⟩
      simp only [bind_eq_ok, Except.ok.injEq, Prod.mk.injEq] at h
      obtain ⟨external_key, hkey, _, hadd, rfl, rfl⟩ := h
      exact ⟨fields, hfind, hfields, Or.inr ⟨external_key, rfl, hkey, hadd, rfl⟩⟩
    · rintro ⟨fields, hfind, hfields, ⟨_, heq, -⟩ | ⟨external_key, -, hkey, hadd, rfl⟩⟩
      · cases heq
      · refine ⟨hfind, fields, hfields, ?_⟩
        simp [hkey, hadd]

theorem Constraints.upsert (h : Constraints changes)
    (hok : upsert release_id tenant_id changes r = .ok (t, fresh)) : Constraints t := by
  obtain ⟨existing, fields, hfind, -, hwrite⟩ := upsert_ok.1 hok
  rcases hwrite with ⟨change, rfl, hset, -⟩ | ⟨external_key, -, -, hadd, -⟩
  · exact h.set (find_existing_mem hfind) hset
  · exact h.add hadd

variable {ext : External} {c : ImportContext}

theorem constraints_import_row (s : Changes × ScopeImportResult)
    (numbered : List (Option Cell) × ℕ) (s' : Changes × ScopeImportResult)
    (hs : Constraints s.1) (h : import_row ext c s numbered = .ok s') : Constraints s'.1 := by
  simp only [import_row] at h
  -- a row that is blank or reported leaves the items alone
  split at h
  · cases h
    exact hs
  · split at h
    · cases h
      exact hs
    · split at h
      · cases h
        exact hs
      · simp only [import_titled, bind_eq_ok] at h
        obtain ⟨custom_fields, -, visible_keys, -, h⟩ := h
        split at h
        · cases h
          exact hs
        · cases h
        · simp only [bind_eq_ok, Except.ok.injEq] at h
          obtain ⟨⟨t, fresh⟩, hok, rfl⟩ := h
          exact hs.upsert hok

theorem Constraints.import_scope {db db' : Db} {file : UploadedFile} {result : ScopeImportResult}
    (h : Constraints db.changes)
    (hok : import_scope ext db file release_id tenant_id = .ok (db', result)) :
    Constraints db'.changes := by
  simp only [Scope.import_scope, bind_eq_ok, Except.ok.injEq, Prod.mk.injEq] at hok
  obtain ⟨_, -, ws, -, c, -, ⟨changes, _⟩, hloop, rfl, rfl⟩ := hok
  exact foldlM_inv (P := fun s : Changes × ScopeImportResult => Constraints s.1)
    constraints_import_row h hloop

end

/-! ## Every request -/

section

variable {ext : External} {db db' : Db}

theorem get_change_mem {change_id tenant_id : ℕ} {change : ReleaseChange}
    (h : _get_change db change_id tenant_id = .ok change) : change ∈ db.changes :=
  (Table.select_one_some (get_or_raise_eq_ok.1 h)).1

/-- What a request can make of the items. -/
inductive Effect (ext : External) (db db' : Db) : Prop
  | added {new : Table.New ReleaseChange.id} (hadd : add_change db.changes new = .ok db'.changes)
  | edited {change : ReleaseChange} {edit : Table.Edit ReleaseChange.id}
      (hchange : change ∈ db.changes) (hset : set_change db.changes change edit = .ok db'.changes)
  | returned {p : ReleaseChange → Bool} (ht : db'.changes = db.changes.update p (reassigned none))
  | imported {file : UploadedFile} {release_id tenant_id : ℕ} {result : ScopeImportResult}
      (himport : import_scope ext db file release_id tenant_id = .ok (db', result))
  | untouched (ht : db'.changes = db.changes)

/-- All but the import write one row, or none. -/
theorem effect_handle {request : Request} (hok : handle ext db request = .ok db') :
    Effect ext db db' := by
  cases request with
  | create_change user release_id data =>
    simp only [handle, create_change, bind_eq_ok, Except.ok.injEq] at hok
    obtain ⟨_, -, _, -, _, -, changes, hadd, rfl⟩ := hok
    exact .added hadd
  | update_change user change_id data =>
    simp only [handle, update_change, bind_eq_ok, Except.ok.injEq] at hok
    obtain ⟨change, hget, _, -, _, -, _, -, _, -, changes, hset, _, -, rfl⟩ := hok
    exact .edited (get_change_mem hget) hset
  | move_change user change_id to_release_id =>
    simp only [handle, move_change, bind_eq_ok] at hok
    obtain ⟨change, hget, _, -, hok⟩ := hok
    split at hok
    · cases hok
      exact .untouched rfl
    · simp only [bind_eq_ok, Except.ok.injEq] at hok
      obtain ⟨_, -, _, -, changes, hset, rfl⟩ := hok
      exact .edited (get_change_mem hget) hset
  | delete_change user change_id now =>
    simp only [handle, delete_change, bind_eq_ok, Except.ok.injEq] at hok
    obtain ⟨change, hget, _, -, changes, hset, rfl⟩ := hok
    exact .edited (get_change_mem hget) hset
  | delete_release user release_id now =>
    simp only [handle, delete_release, bind_eq_ok, Except.ok.injEq] at hok
    obtain ⟨_, -, rfl⟩ := hok
    exact .returned rfl
  | import_scope user release_id file =>
    simp only [handle, bind_eq_ok, Prod.exists, Except.ok.injEq] at hok
    obtain ⟨_, -, db₁, result, himport, rfl⟩ := hok
    exact .imported himport
  | others reference =>
    simp only [handle, Except.ok.injEq] at hok
    rw [← hok]
    exact .untouched rfl

theorem constraints_handle (h : Constraints db.changes) (request : Request)
    (hok : handle ext db request = .ok db') : Constraints db'.changes := by
  cases effect_handle hok with
  | added hadd => exact h.add hadd
  | edited hchange hset => exact h.set hchange hset
  | returned ht =>
    rw [ht]
    exact h.reassign _ none
  | imported himport => exact h.import_scope himport
  | untouched ht =>
    rw [ht]
    exact h

end

end EnvMgr.Scope

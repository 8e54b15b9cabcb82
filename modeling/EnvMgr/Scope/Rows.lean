/-
Placing the rows of an upload.

A row updates the item of its key if that is a live one of the release, makes one if no item of
the tenant has the key, and otherwise runs into the index. So the rows of an upload are upserts.
-/
import EnvMgr.Scope.Keys

namespace EnvMgr.Scope

variable {v : Option CellValue} {k : ℕ × String}

/-! ## What a row brings -/

/-- The columns and the key of a row. Reading the row may have raised already. -/
def bound (g : Except Raised ScopeRow) : Except Raised (ScopeFields × Option String) := do
  let r ← g
  let fields ← r.fields
  let external_key ← bind_nullable r.external_key
  .ok (fields, external_key)

/-- The fields of a row fit the columns, with this key. -/
def ScopeFields.fits (fields : ScopeFields) (external_key : Option String) : Bool :=
  ((fields.new 0 0 external_key).row 0).fits

def Storable (g : Except Raised ScopeRow) : Prop :=
  ∃ fields external_key, bound g = .ok (fields, external_key) ∧ fields.fits external_key = true

/-- A live item of the release. -/
def Open (release_id : ℕ) (c : ReleaseChange) : Prop :=
  c.release_id = some release_id ∧ c.deleted_at = none
  deriving Decidable

/-- What a row makes of the item it finds. -/
def write (g : Except Raised ScopeRow) (c : ReleaseChange) : ReleaseChange :=
  match bound g with
  | .ok (fields, _) => fields.edit.apply c
  | .error _ => c

/-- The key of a row, if it has one. -/
def row_key (tenant_id : ℕ) (g : Except Raised ScopeRow) : Option (ℕ × String) :=
  match bound g with
  | .ok (_, some ek) => some (tenant_id, ek)
  | _ => none

def place (release_id tenant_id : ℕ) (changes : Changes) (g : Except Raised ScopeRow) :
    Except Raised (Changes × Bool) := do
  let r ← g
  upsert release_id tenant_id changes r

section

variable {changes t : Changes} {release_id tenant_id : ℕ} {g : Except Raised ScopeRow}
  {r : ScopeRow} {fields : ScopeFields} {external_key : Option String} {ek : String} {fresh : Bool}

theorem fits_edit (c : ReleaseChange) :
    (fields.edit.apply c).fits = fields.fits c.external_key := rfl

theorem bind_nullable_some :
    bind_nullable v = .ok (some ek) ↔ v = some (.text ek) := by
  match v with
  | none => simp [bind_nullable]
  | some (.bool b) => simp [bind_nullable, bind_text]
  | some (.text s) => simp [bind_nullable, bind_text]

theorem bind_nullable_none : bind_nullable v = .ok none ↔ v = none := by
  match v with
  | none => simp [bind_nullable]
  | some (.bool b) => simp [bind_nullable, bind_text]
  | some (.text s) => simp [bind_nullable, bind_text]

theorem bound_ok :
    bound g = .ok (fields, external_key) ↔ ∃ r, g = .ok r ∧ r.fields = .ok fields ∧
      bind_nullable r.external_key = .ok external_key := by
  simp only [bound, bind_eq_ok, Except.ok.injEq, Prod.mk.injEq]
  constructor
  · rintro ⟨r, hg, _, hfields, _, hkey, rfl, rfl⟩
    exact ⟨r, hg, hfields, hkey⟩
  · rintro ⟨r, hg, hfields, hkey⟩
    exact ⟨r, hg, _, hfields, _, hkey, rfl, rfl⟩

theorem row_key_some :
    row_key tenant_id g = some k ↔
      ∃ fields ek, bound g = .ok (fields, some ek) ∧ k = (tenant_id, ek) := by
  rw [row_key]
  match bound g with
  | .error e => simp
  | .ok (fields, none) => simp
  | .ok (fields, some ek) => simp [eq_comm]

/-! ## The look-up -/

/-- **A key is found in the release** where the item that has it is open. -/
theorem find_existing_text (h : Constraints changes) :
    find_existing changes release_id tenant_id (some (.text ek)) =
      .ok ((held changes (tenant_id, ek)).filter (Open release_id ·)) := by
  have hselect : changes.select (fun c => c.tenant_id = tenant_id ∧ c.release_id = some release_id ∧
      c.external_key = some ek ∧ c.deleted_at = none) =
        ((held changes (tenant_id, ek)).filter (Open release_id ·)).toList := by
    cases hheld : held changes (tenant_id, ek) with
    | none =>
      refine List.filter_eq_nil_iff.2 fun c hc hmatch => ?_
      obtain ⟨htenant, -, hek, -⟩ := of_decide_eq_true hmatch
      exact held_none hheld hc ⟨htenant, hek⟩
    | some c =>
      obtain ⟨hc, htenant, hek⟩ := h.held_iff.1 hheld
      have honly : ∀ c' ∈ changes, c'.tenant_id = tenant_id → c'.external_key = some ek → c' = c :=
        fun c' hc' htenant' hek' => Option.some.inj
          ((h.held_iff.2 ⟨hc', htenant', hek'⟩).symm.trans hheld)
      -- the tenant has one item with the key, and it is selected if it is open
      by_cases hopen : Open release_id c
      · rw [Option.filter_some, if_pos (decide_eq_true hopen)]
        refine Table.select_eq_singleton hc ?_ fun c' hc' hmatch => ?_
        · exact decide_eq_true ⟨htenant, hopen.1, hek, hopen.2⟩
        · obtain ⟨htenant', -, hek', -⟩ := of_decide_eq_true hmatch
          exact honly c' hc' htenant' hek'
      · rw [Option.filter_some, if_neg (by simpa using hopen)]
        refine List.filter_eq_nil_iff.2 fun c' hc' hmatch => ?_
        obtain ⟨htenant', hrelease, hek', hlive⟩ := of_decide_eq_true hmatch
        obtain rfl := honly c' hc' htenant' hek'
        exact hopen ⟨hrelease, hlive⟩
  rw [find_existing, hselect]
  cases (held changes (tenant_id, ek)).filter (Open release_id ·) with
  | none => rfl
  | some c => rfl

/-! ## One row -/

/-- A row without a key is added. -/
theorem place_no_key (hbound : bound g = .ok (fields, none)) :
    place release_id tenant_id changes g = .ok (t, fresh) ↔ fields.fits none = true ∧
      fresh = true ∧ t = changes.insert (fields.new release_id tenant_id none) := by
  obtain ⟨r, rfl, hfields, hbind⟩ := bound_ok.1 hbound
  have hfree : ∀ c ∈ changes,
      ¬ SameKey c ((fields.new release_id tenant_id none).row changes.next) :=
    fun c _ hsame => hsame.2.1 hsame.2.2
  refine Iff.trans upsert_ok ?_
  rw [bind_nullable_none.1 hbind]
  constructor
  · rintro ⟨existing, fields', hfind, hfields', ⟨change, rfl, -⟩ | ⟨key, -, hbind, hadd, rfl⟩⟩
    · cases hfind
    · obtain rfl := Except.ok.inj (hfields.symm.trans hfields')
      cases hbind
      obtain ⟨hfits, -, rfl⟩ := add_change_ok.1 hadd
      exact ⟨hfits, rfl, rfl⟩
  · rintro ⟨hfits, rfl, rfl⟩
    exact ⟨none, fields, rfl, hfields,
      Or.inr ⟨none, rfl, rfl, add_change_ok.2 ⟨hfits, hfree, rfl⟩, rfl⟩⟩

/-- A row whose key no item has is added. -/
theorem place_made (h : Constraints changes) (hbound : bound g = .ok (fields, some ek))
    (hheld : held changes (tenant_id, ek) = none) :
    place release_id tenant_id changes g = .ok (t, fresh) ↔ fields.fits (some ek) = true ∧
      fresh = true ∧ t = changes.insert (fields.new release_id tenant_id (some ek)) := by
  obtain ⟨r, rfl, hfields, hbind⟩ := bound_ok.1 hbound
  have hfree : ∀ c ∈ changes,
      ¬ SameKey c ((fields.new release_id tenant_id (some ek)).row changes.next) :=
    fun c hc hsame => held_none hheld hc ⟨hsame.1, hsame.2.2⟩
  refine Iff.trans upsert_ok ?_
  rw [bind_nullable_some.1 hbind, find_existing_text h, hheld]
  constructor
  · rintro ⟨existing, fields', hfind, hfields', ⟨change, rfl, -⟩ | ⟨key, -, hbind, hadd, rfl⟩⟩
    · cases hfind
    · obtain rfl := Except.ok.inj (hfields.symm.trans hfields')
      cases hbind
      obtain ⟨hfits, -, rfl⟩ := add_change_ok.1 hadd
      exact ⟨hfits, rfl, rfl⟩
  · rintro ⟨hfits, rfl, rfl⟩
    exact ⟨none, fields, rfl, hfields,
      Or.inr ⟨some ek, rfl, rfl, add_change_ok.2 ⟨hfits, hfree, rfl⟩, rfl⟩⟩

/-- A row whose key an item has is written there, if that is open. -/
theorem place_found (h : Constraints changes) (hbound : bound g = .ok (fields, some ek))
    {c : ReleaseChange} (hheld : held changes (tenant_id, ek) = some c) :
    place release_id tenant_id changes g = .ok (t, fresh) ↔
      Open release_id c ∧ fields.fits (some ek) = true ∧ fresh = false ∧
        t = changes.update (fun a => a.id = c.id) fields.edit := by
  obtain ⟨r, rfl, hfields, hbind⟩ := bound_ok.1 hbound
  obtain ⟨hc, htenant, hek⟩ := h.held_iff.1 hheld
  refine Iff.trans upsert_ok ?_
  rw [bind_nullable_some.1 hbind, find_existing_text h, hheld, Option.filter_some]
  by_cases hopen : Open release_id c
  · rw [if_pos (decide_eq_true hopen)]
    have hset : set_change changes c fields.edit = .ok t ↔ fields.fits (some ek) = true ∧
        t = changes.update (fun a => a.id = c.id) fields.edit := by
      rw [set_change_ok, fits_edit, hek]
      refine and_congr_right fun _ => and_iff_right fun a ha hne hsame => ?_
      exact hne (congrArg ReleaseChange.id (h.keys a ha c hc hsame))
    constructor
    · rintro ⟨existing, fields', hfind, hfields', ⟨_, rfl, hok, rfl⟩ | ⟨key, rfl, -⟩⟩
      · obtain rfl := Except.ok.inj (hfields.symm.trans hfields')
        cases hfind
        obtain ⟨hfits, rfl⟩ := hset.1 hok
        exact ⟨hopen, hfits, rfl, rfl⟩
      · cases hfind
    · rintro ⟨-, hfits, rfl, rfl⟩
      exact ⟨some c, fields, rfl, hfields, Or.inl ⟨c, rfl, hset.2 ⟨hfits, rfl⟩, rfl⟩⟩
  · rw [if_neg (by simpa using hopen)]
    refine iff_of_false ?_ fun hok => hopen hok.1
    rintro ⟨existing, fields', hfind, -, ⟨change, rfl, -⟩ | ⟨key, -, hbind, hadd, -⟩⟩
    · cases hfind
    · cases hbind
      -- the item of the key is in the way
      obtain ⟨-, hfree, -⟩ := add_change_ok.1 hadd
      refine hfree c hc ⟨htenant, ?_, hek⟩
      rw [hek]
      exact Option.some_ne_none _

/-- What is placed has been bound. -/
theorem bound_of_place (hok : place release_id tenant_id changes g = .ok (t, fresh)) :
    ∃ fields external_key, bound g = .ok (fields, external_key) := by
  obtain ⟨r, rfl, hupsert⟩ := bind_eq_ok.1 hok
  obtain ⟨existing, fields, hfind, hfields, hwrite⟩ := upsert_ok.1 hupsert
  rcases hwrite with ⟨change, rfl, -⟩ | ⟨external_key, -, hkey, -⟩
  · match hkey : r.external_key with
    | some (.text ek) =>
      exact ⟨fields, some ek, bound_ok.2 ⟨r, rfl, hfields, bind_nullable_some.2 hkey⟩⟩
    | some (.bool true) =>
      rw [hkey] at hfind
      cases hfind
    | some (.bool false) =>
      rw [hkey] at hfind
      cases hfind
    | none =>
      rw [hkey] at hfind
      cases hfind
  · exact ⟨fields, external_key, bound_ok.2 ⟨r, rfl, hfields, hkey⟩⟩

/-- **What one row does.** It adds an item, or writes the open one that has its key. -/
theorem place_cases (h : Constraints changes)
    (hok : place release_id tenant_id changes g = .ok (t, fresh)) :
    ∃ fields external_key, bound g = .ok (fields, external_key) ∧
      fields.fits external_key = true ∧
      (((∀ ek, external_key = some ek → held changes (tenant_id, ek) = none) ∧ fresh = true ∧
          t = changes.insert (fields.new release_id tenant_id external_key)) ∨
        ∃ ek c, external_key = some ek ∧ held changes (tenant_id, ek) = some c ∧
          Open release_id c ∧ fresh = false ∧
          t = changes.update (fun a => a.id = c.id) fields.edit) := by
  obtain ⟨fields, external_key, hbound⟩ := bound_of_place hok
  refine ⟨fields, external_key, hbound, ?_⟩
  cases external_key with
  | none =>
    obtain ⟨hfits, rfl, rfl⟩ := (place_no_key hbound).1 hok
    exact ⟨hfits, Or.inl ⟨fun ek hek => absurd hek (Option.some_ne_none ek).symm, rfl, rfl⟩⟩
  | some ek =>
    cases hheld : held changes (tenant_id, ek) with
    | none =>
      obtain ⟨hfits, rfl, rfl⟩ := (place_made h hbound hheld).1 hok
      refine ⟨hfits, Or.inl ⟨fun ek' hek => ?_, rfl, rfl⟩⟩
      rw [← Option.some.inj hek, hheld]
    | some c =>
      obtain ⟨hopen, hfits, rfl, rfl⟩ := (place_found h hbound hheld).1 hok
      exact ⟨hfits, Or.inr ⟨ek, c, rfl, hheld, hopen, rfl, rfl⟩⟩

/-- **When a row can be placed.** -/
theorem place_ok_iff (h : Constraints changes) :
    (∃ s, place release_id tenant_id changes g = .ok s) ↔
      Storable g ∧ ∀ k c, row_key tenant_id g = some k → held changes k = some c →
        Open release_id c := by
  constructor
  · rintro ⟨⟨t, fresh⟩, hok⟩
    obtain ⟨fields, external_key, hbound, hfits, hcase⟩ := place_cases h hok
    refine ⟨⟨fields, external_key, hbound, hfits⟩, fun k c hkey hc => ?_⟩
    obtain ⟨fields', ek, hbound', rfl⟩ := row_key_some.1 hkey
    cases hbound.symm.trans hbound'
    rcases hcase with ⟨hnone, -⟩ | ⟨_, c', hek, hheld, hopen, -⟩
    · rw [hnone ek rfl] at hc
      cases hc
    · cases hek
      cases hheld.symm.trans hc
      exact hopen
  · rintro ⟨⟨fields, external_key, hbound, hfits⟩, hopen⟩
    cases external_key with
    | none => exact ⟨_, (place_no_key hbound).2 ⟨hfits, rfl, rfl⟩⟩
    | some ek =>
      cases hheld : held changes (tenant_id, ek) with
      | none => exact ⟨_, (place_made h hbound hheld).2 ⟨hfits, rfl, rfl⟩⟩
      | some c =>
        have hc := hopen _ c (row_key_some.2 ⟨fields, ek, hbound, rfl⟩) hheld
        exact ⟨_, (place_found h hbound hheld).2 ⟨hc, hfits, rfl, rfl⟩⟩

theorem Constraints.place (h : Constraints changes)
    (hok : place release_id tenant_id changes g = .ok (t, fresh)) : Constraints t := by
  obtain ⟨r, -, hupsert⟩ := bind_eq_ok.1 hok
  exact h.upsert hupsert

/-! ## What is held afterwards -/

theorem held_congr (h : Constraints changes) (ht : Constraints t)
    (hmem : ∀ c, c.tenant_id = k.1 → c.external_key = some k.2 → (c ∈ t ↔ c ∈ changes)) :
    held t k = held changes k := by
  refine Option.ext fun c => ?_
  rw [ht.held_iff, h.held_iff]
  exact ⟨fun ⟨hc, htenant, hek⟩ => ⟨(hmem c htenant hek).1 hc, htenant, hek⟩,
    fun ⟨hc, htenant, hek⟩ => ⟨(hmem c htenant hek).2 hc, htenant, hek⟩⟩

/-- A row leaves the other keys alone. -/
theorem held_frame (h : Constraints changes)
    (hok : place release_id tenant_id changes g = .ok (t, fresh))
    (hk : row_key tenant_id g ≠ some k) : held t k = held changes k := by
  obtain ⟨fields, external_key, hbound, -, hcase⟩ := place_cases h hok
  have hother : ∀ ek, external_key = some ek → (tenant_id, ek) ≠ k := by
    rintro ek rfl rfl
    exact hk (row_key_some.2 ⟨fields, ek, hbound, rfl⟩)
  refine held_congr h (h.place hok) fun c htenant hek => ?_
  rcases hcase with ⟨-, -, rfl⟩ | ⟨ek, c', rfl, hheld, -, -, rfl⟩
  -- the new item has the row's key or none, the written one has the row's key
  · rw [Table.mem_insert]
    refine or_iff_left ?_
    rintro rfl
    exact hother k.2 hek (Prod.ext htenant rfl)
  · obtain ⟨hc', htenant', hek'⟩ := h.held_iff.1 hheld
    have hne : ∀ a : ReleaseChange, a.tenant_id = k.1 → a.external_key = some k.2 →
        a ≠ c' := by
      rintro a ha hak rfl
      exact hother ek rfl
        (Prod.ext (htenant'.symm.trans ha) (Option.some.inj (hek'.symm.trans hak)))
    constructor
    · intro hc
      rcases Table.mem_update_cases hc with ⟨a, ha, hmatch, rfl⟩ | ⟨hc, -⟩
      · exact absurd ((Table.key_match hc' a ha).1 hmatch) (hne a htenant hek)
      · exact hc
    · intro hc
      refine Table.mem_update_of_neg hc (Bool.eq_false_iff.2 fun hmatch => ?_)
      exact hne c htenant hek ((Table.key_match hc' c hc).1 hmatch)

/-- **The rows of an upload are upserts.** -/
theorem upserts_place :
    Upload.Upserts Constraints held (row_key tenant_id) Storable (Open release_id) write
      (place release_id tenant_id) where
  ok_iff _ _ h := place_ok_iff h
  kept _ _ _ _ h hok := h.place hok
  frame _ _ _ _ _ h hok hk := held_frame h hok hk
  unkeyed s g t fresh h hok hkey := by
    obtain ⟨fields, external_key, hbound, -, hcase⟩ := place_cases h hok
    rcases hcase with ⟨-, hfresh, -⟩ | ⟨ek, c, rfl, -⟩
    · exact hfresh
    · rw [row_key_some.2 ⟨fields, ek, hbound, rfl⟩] at hkey
      cases hkey
  found s g t fresh k c h hok hkey hheld := by
    obtain ⟨fields, ek, hbound, rfl⟩ := row_key_some.1 hkey
    obtain ⟨-, -, hfresh, rfl⟩ := (place_found h hbound hheld).1 hok
    obtain ⟨hc, htenant, hek⟩ := h.held_iff.1 hheld
    refine ⟨hfresh, (h.place hok).held_iff.2 ⟨?_, ?_⟩⟩
    · rw [write, hbound]
      exact Table.mem_update_of_pos hc (decide_eq_true rfl)
    · rw [write, hbound]
      exact ⟨htenant, hek⟩
  made s g t fresh k h hok hkey hheld := by
    obtain ⟨fields, ek, hbound, rfl⟩ := row_key_some.1 hkey
    obtain ⟨-, -, rfl⟩ := (place_made h hbound hheld).1 hok
    refine ⟨(fields.new release_id tenant_id (some ek)).row s.next,
      (h.place hok).held_iff.2 ⟨Table.mem_insert.2 (Or.inr rfl), rfl, rfl⟩, ⟨rfl, rfl⟩, ?_⟩
    rw [write, hbound]
    rfl
  mine_write g c := by
    rw [write]
    cases bound g with
    | ok b => exact Iff.rfl
    | error e => exact Iff.rfl
  overwrites g g' k c hkey hkey' := by
    obtain ⟨fields, ek, hbound, -⟩ := row_key_some.1 hkey
    obtain ⟨fields', ek', hbound', -⟩ := row_key_some.1 hkey'
    rw [write, write, write, hbound, hbound']
    rfl

end

end EnvMgr.Scope

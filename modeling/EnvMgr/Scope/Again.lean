/-
Importing a sheet of scope items, and importing it again.

An upload answers, and is idempotent on keys, exactly if each row that it writes fits the
columns and no item of the tenant has its key but a live one of the release. An item that was
moved to another release, went to the backlog or was deleted keeps its key, and then stands in
the way of every sheet that names it.
-/
import EnvMgr.Scope.Reading

namespace EnvMgr.Scope

open Upload (store)

/-! ## Importing twice -/

section

variable {ext : External} {db : Db} {ws : Worksheet} {file : UploadedFile}
  {release_id tenant_id : ℕ} {release : Release} {c : ImportContext}

/-- The rows can be placed exactly if the condition on them holds. -/
theorem store_ok_iff (h : Constraints db.changes) {gs : List (Except Raised ScopeRow)} :
    (∃ r, store (place release_id tenant_id) db.changes gs = .ok r) ↔
      ∀ g ∈ gs, Storable g ∧ ∀ k c, row_key tenant_id g = some k → c ∈ db.changes →
        c.tenant_id = k.1 → c.external_key = some k.2 →
          c.release_id = some release_id ∧ c.deleted_at = none := by
  rw [upserts_place.store_ok_iff h]
  refine forall₂_congr fun g _ => and_congr_right fun _ => forall₃_congr fun k c _ => ?_
  rw [h.held_iff]
  exact ⟨fun hopen hc htenant hek => hopen ⟨hc, htenant, hek⟩,
    fun hopen hc => hopen hc.1 hc.2.1 hc.2.2⟩

end

namespace Moved

def ext : External := ⟨String.toLower, .finite⟩

/-- Two releases of one tenant. -/
def reference : Reference := ⟨[⟨1, 1, none⟩, ⟨2, 1, none⟩], [], []⟩

def admin : CurrentUser := ⟨5, 1, Role.ADMIN, false⟩

def sheet : UploadedFile :=
  .worksheet
    { headers := [some (.text "external_key"), some (.text "title"), some (.text "change_kind")]
      rows := [[some (.text "PAY-1"), some (.text "Pay by card"), some (.text "story")]] }

/-- The sheet is imported into the first release, and its item moved to the second one. -/
def requests : List Request := [.import_scope admin 1 sheet, .move_change admin 1 (some 2)]

def db : Db := Runs.run (step ext) (Db.opened reference) requests

end Moved

end EnvMgr.Scope

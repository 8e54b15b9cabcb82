/-
The history of scope items: the rows that `release_scope_service.py` and
`release_service.delete_release` write beside the items, one table for the release an item is
in and one for its status. What is not in `_record_release_move`, `_record_status_change` and
the loop of `delete_release` writes none, the upload among them.

The rows of an item are read in the order they were inserted, and the question is whether they
tell the item. A request that moves an item or edits its status records that, and so does the
deletion of a release; an item is created into its release from nothing. What an upload writes is
recorded nowhere, and the status that an item is created with is not recorded if it is an empty
text.
-/
import EnvMgr.Lib.Replay
import EnvMgr.Scope.Passes
import EnvMgr.Scope.Reading

namespace EnvMgr.Scope.History

open Replay (Ledger moved moved_self moved_of_ne replay replay_moved replay_nil replay_singleton)
open Upload (store)

variable {request : Request} {scope scope' : Scope.Db}

/-! ## Tables -/

structure ReleaseChangeReleaseHistory where
  id : ℕ
  tenant_id : ℕ
  change_id : ℕ
  from_release_id : Option ℕ
  to_release_id : Option ℕ
  deriving DecidableEq

structure ReleaseChangeStatusHistory where
  id : ℕ
  tenant_id : ℕ
  change_id : ℕ
  from_status : Option String
  to_status : Option String
  deriving DecidableEq

abbrev ReleaseHistory := Table ReleaseChangeReleaseHistory ReleaseChangeReleaseHistory.id

abbrev StatusHistory := Table ReleaseChangeStatusHistory ReleaseChangeStatusHistory.id

/-- The items, and what is recorded of them. -/
structure Db where
  scope : Scope.Db
  release_history : ReleaseHistory
  status_history : StatusHistory

def Db.opened (reference : Reference) : Db := ⟨Scope.Db.opened reference, Table.empty, Table.empty⟩

/-! ## Recording -/

def release_move (tenant_id change_id : ℕ) (from_release_id to_release_id : Option ℕ) :
    Table.New ReleaseChangeReleaseHistory.id where
  row id := ⟨id, tenant_id, change_id, from_release_id, to_release_id⟩
  key_row _ := rfl

def status_change (tenant_id change_id : ℕ) (from_status to_status : Option String) :
    Table.New ReleaseChangeStatusHistory.id where
  row id := ⟨id, tenant_id, change_id, from_status, to_status⟩
  key_row _ := rfl

def _record_release_move (history : ReleaseHistory) (tenant_id change_id : ℕ)
    (from_release_id to_release_id : Option ℕ) : ReleaseHistory :=
  history.insert (release_move tenant_id change_id from_release_id to_release_id)

def _record_status_change (history : StatusHistory) (tenant_id change_id : ℕ)
    (from_status to_status : Option String) : StatusHistory :=
  if from_status = to_status then history
  else history.insert (status_change tenant_id change_id from_status to_status)

/-! ## The writes, with what they record -/

def create_change (db : Db) (release_id : ℕ) (data : ReleaseChangeCreate) (tenant_id : ℕ) :
    Except Raised Db := do
  -- the key that the flush gives the item
  let change_id := db.scope.changes.next
  let scope ← Scope.create_change db.scope release_id data tenant_id
  .ok
    { scope := scope
      release_history :=
        _record_release_move db.release_history tenant_id change_id none (some release_id)
      status_history :=
        -- `if data.external_status:`, which an empty text is not
        if data.external_status.any (· ≠ "") then
          _record_status_change db.status_history tenant_id change_id none data.external_status
        else db.status_history }

def update_change (db : Db) (change_id : ℕ) (data : ReleaseChangeUpdate) (tenant_id : ℕ) :
    Except Raised Db := do
  let change ← _get_change db.scope change_id tenant_id
  let scope ← Scope.update_change db.scope change_id data tenant_id
  .ok
    { db with
      scope := scope
      status_history :=
        if data.external_status.mentioned ∧
            data.external_status.set_nullable none ≠ change.external_status then
          _record_status_change db.status_history change.tenant_id change.id
            change.external_status (data.edit.apply change).external_status
        else db.status_history }

def move_change (db : Db) (change_id : ℕ) (to_release_id : Option ℕ) (tenant_id : ℕ) :
    Except Raised Db := do
  let change ← _get_change db.scope change_id tenant_id
  let scope ← Scope.move_change db.scope change_id to_release_id tenant_id
  .ok
    { db with
      scope := scope
      release_history :=
        if change.release_id = to_release_id then db.release_history
        else
          _record_release_move db.release_history change.tenant_id change.id change.release_id
            to_release_id }

def delete_release (db : Db) (release_id tenant_id : ℕ) (now : DateTime) : Except Raised Db := do
  let attached_rows := db.scope.changes.select fun c =>
    c.release_id = some release_id ∧ c.tenant_id = tenant_id ∧ c.deleted_at = none
  let scope ← Scope.delete_release db.scope release_id tenant_id now
  .ok
    { db with
      scope := scope
      release_history := db.release_history.insert_all (attached_rows.map fun scope_item =>
        release_move tenant_id scope_item.id (some release_id) none) }

/-! ## Requests -/

def handle (ext : External) (db : Db) : Request → Except Raised Db
  | .create_change user release_id data => create_change db release_id data user.active_tenant_id
  | .update_change user change_id data => update_change db change_id data user.active_tenant_id
  | .move_change user change_id to_release_id =>
    move_change db change_id to_release_id user.active_tenant_id
  | .delete_release user release_id now => delete_release db release_id user.active_tenant_id now
  -- nothing is recorded of the others
  | request => do
    let scope ← Scope.handle ext db.scope request
    .ok { db with scope := scope }

def step (ext : External) (db : Db) (request : Request) : Db :=
  commit_or_rollback db (handle ext db request)

def Accepted (ext : External) (db : Db) (request : Request) : Prop :=
  ∃ db', handle ext db request = .ok db'

/-! ## A faithful history -/

/-- The release of an item, and the record of its moves. An item begins in the backlog. -/
def release_ledger : Ledger ReleaseChange ReleaseChangeReleaseHistory (Option ℕ) where
  value := ReleaseChange.release_id
  item := ReleaseChangeReleaseHistory.change_id
  move e := (e.from_release_id, e.to_release_id)
  start := none

/-- The status of an item, and the record of its changes. -/
def status_ledger : Ledger ReleaseChange ReleaseChangeStatusHistory (Option String) where
  value := ReleaseChange.external_status
  item := ReleaseChangeStatusHistory.change_id
  move e := (e.from_status, e.to_status)
  start := none

/-- Of every item, deleted ones included: the rows of its history, replayed, end at the release
and at the status that it has. -/
structure Faithful (db : Db) : Prop where
  releases : release_ledger.Told db.scope.changes db.release_history
  statuses : status_ledger.Told db.scope.changes db.status_history

/-- What is true at any time. -/
structure Valid (db : Db) : Prop where
  constraints : Constraints db.scope.changes
  releases : release_ledger.Known db.scope.changes db.release_history
  statuses : status_ledger.Known db.scope.changes db.status_history

/-- Nothing is written that is not recorded. -/
def Harmless (ext : External) (db : Db) : Request → Prop
  | .create_change _ _ data => data.external_status ≠ some ""
  | .import_scope user release_id file =>
    AddsNothing user.active_tenant_id db.scope.changes
      (written_rows ext db.scope.reference file release_id user.active_tenant_id)
  | _ => True

/-! ## What is recorded -/

section

variable {history : ReleaseHistory} {statuses : StatusHistory} {t : Changes}
  {tenant_id change_id id : ℕ} {a b : Option ℕ} {u v : Option String}

theorem log_record_release :
    release_ledger.log (_record_release_move history tenant_id change_id a b) id =
      release_ledger.log history id ++ if change_id = id then [(a, b)] else [] :=
  Ledger.log_insert

theorem log_record_status :
    status_ledger.log (_record_status_change statuses tenant_id change_id u v) id =
      status_ledger.log statuses id ++ if change_id = id then moved u v else [] := by
  rw [_record_status_change]
  by_cases h : u = v
  · rw [if_pos h, h, moved_self, ite_self, List.append_nil]
  · rw [if_neg h, moved_of_ne h]
    exact Ledger.log_insert

/-- What is recorded of the status that an item is created with. -/
theorem log_created_status :
    status_ledger.log (if v.any (· ≠ "") then
        _record_status_change statuses tenant_id change_id none v else statuses) id =
      status_ledger.log statuses id ++
        if change_id = id then if v.any (· ≠ "") then moved none v else [] else [] := by
  by_cases hseen : v.any (· ≠ "") = true
  · rw [if_pos hseen, if_pos hseen]
    exact log_record_status
  · rw [if_neg hseen, if_neg hseen, ite_self, List.append_nil]

theorem created_status_told :
    replay none (if v.any (· ≠ "") then moved none v else []) = some v ↔ v ≠ some "" := by
  match v with
  | none => simp
  | some status =>
    by_cases hempty : status = ""
    · simp [hempty]
    · simp [hempty, replay_moved]

theorem known_record_release (h : release_ledger.Known t history) (hid : change_id < t.next) :
    release_ledger.Known t (_record_release_move history tenant_id change_id a b) :=
  h.insert hid

theorem known_record_status (h : status_ledger.Known t statuses) (hid : change_id < t.next) :
    status_ledger.Known t (_record_status_change statuses tenant_id change_id u v) := by
  rw [_record_status_change]
  by_cases heq : u = v
  · rw [if_pos heq]
    exact h
  · rw [if_neg heq]
    exact h.insert hid

end

/-! ## One request -/

section

variable {ext : External} {db db' : Db} {release_id tenant_id change_id : ℕ}

/-- The history is written beside the items. -/
theorem scope_handle (hok : handle ext db request = .ok db') :
    Scope.handle ext db.scope request = .ok db'.scope := by
  cases request with
  | create_change user release_id data =>
    simp only [handle, create_change, bind_eq_ok, Except.ok.injEq] at hok
    obtain ⟨scope, hscope, rfl⟩ := hok
    exact hscope
  | update_change user change_id data =>
    simp only [handle, update_change, bind_eq_ok, Except.ok.injEq] at hok
    obtain ⟨_, -, scope, hscope, rfl⟩ := hok
    exact hscope
  | move_change user change_id to_release_id =>
    simp only [handle, move_change, bind_eq_ok, Except.ok.injEq] at hok
    obtain ⟨_, -, scope, hscope, rfl⟩ := hok
    exact hscope
  | delete_release user release_id now =>
    simp only [handle, delete_release, bind_eq_ok, Except.ok.injEq] at hok
    obtain ⟨scope, hscope, rfl⟩ := hok
    exact hscope
  | _ =>
    simp only [handle, bind_eq_ok, Except.ok.injEq] at hok
    obtain ⟨scope, hscope, rfl⟩ := hok
    exact hscope

/-- What creating an item makes. -/
theorem create_inserts {data : ReleaseChangeCreate}
    (hok : Scope.create_change scope release_id data tenant_id = .ok scope') :
    ∃ new : Table.New ReleaseChange.id, scope'.changes = scope.changes.insert new ∧
      ∀ n, (new.row n).release_id = some release_id ∧
        (new.row n).external_status = data.external_status := by
  simp only [Scope.create_change, bind_eq_ok, Except.ok.injEq] at hok
  obtain ⟨_, -, _, -, _, -, changes, hadd, rfl⟩ := hok
  obtain ⟨-, -, rfl⟩ := add_change_ok.1 hadd
  exact ⟨_, rfl, fun n => ⟨rfl, rfl⟩⟩

/-- **Creating an item** is recorded, unless its status is an empty text. -/
theorem faithful_create_iff {data : ReleaseChangeCreate} (hv : Valid db) (h : Faithful db)
    (hok : create_change db release_id data tenant_id = .ok db') :
    Faithful db' ↔ data.external_status ≠ some "" := by
  simp only [create_change, bind_eq_ok, Except.ok.injEq] at hok
  obtain ⟨scope, hscope, rfl⟩ := hok
  obtain ⟨new, hchanges, hnew⟩ := create_inserts hscope
  obtain ⟨hrelease, hstatus⟩ := hnew db.scope.changes.next
  -- one move, out of the backlog
  have hreleases : release_ledger.Told scope.changes (_record_release_move db.release_history
      tenant_id db.scope.changes.next none (some release_id)) := by
    rw [hchanges]
    refine (h.releases.insert_iff hv.releases fun id => log_record_release).2 ?_
    exact replay_singleton.trans (congrArg some hrelease.symm)
  -- one change or none, and none is right for an item without a status only
  have hstatuses : status_ledger.Told scope.changes
      (if data.external_status.any (· ≠ "") then
        _record_status_change db.status_history tenant_id db.scope.changes.next none
          data.external_status
      else db.status_history) ↔ data.external_status ≠ some "" := by
    rw [hchanges, h.statuses.insert_iff hv.statuses fun id => log_created_status]
    show replay none _ = some (new.row db.scope.changes.next).external_status ↔ _
    rw [hstatus, created_status_told]
  exact ⟨fun hf => hstatuses.1 hf.statuses, fun hne => ⟨hreleases, hstatuses.2 hne⟩⟩

/-! What the other requests on items write is recorded. -/

theorem status_unsent {sent : Sent String} {status : Option String}
    (h : ¬ (sent.mentioned = true ∧ sent.set_nullable none ≠ status)) :
    sent.set_nullable status = status := by
  cases sent with
  | omitted => rfl
  | null => exact not_not.1 fun hne => h ⟨rfl, hne⟩
  | value a => exact not_not.1 fun hne => h ⟨rfl, hne⟩

theorem faithful_update {data : ReleaseChangeUpdate} (h : Faithful db)
    (hok : update_change db change_id data tenant_id = .ok db') : Faithful db' := by
  simp only [update_change, Scope.update_change, bind_eq_ok, Except.ok.injEq] at hok
  obtain ⟨change, hget, _, ⟨change', hget', _, -, _, -, _, -, _, -, changes, hset, _, -, rfl⟩,
    rfl⟩ := hok
  obtain rfl := Except.ok.inj (hget.symm.trans hget')
  obtain ⟨-, -, rfl⟩ := set_change_ok.1 hset
  refine ⟨h.releases.update_same fun c _ => rfl,
    h.statuses.update_key (get_change_mem hget) fun id => ?_⟩
  by_cases hsent : data.external_status.mentioned = true ∧
      data.external_status.set_nullable none ≠ change.external_status
  · rw [if_pos hsent]
    exact log_record_status
  -- a status that is not sent, or sent as it is, stays
  · rw [if_neg hsent]
    have hsame : status_ledger.value (data.edit.apply change) = status_ledger.value change :=
      status_unsent hsent
    rw [hsame, moved_self, ite_self, List.append_nil]

theorem faithful_move {to_release_id : Option ℕ} (h : Faithful db)
    (hok : move_change db change_id to_release_id tenant_id = .ok db') : Faithful db' := by
  simp only [move_change, Scope.move_change, bind_eq_ok, Except.ok.injEq] at hok
  obtain ⟨change, hget, scope, ⟨change', hget', _, -, hmove⟩, rfl⟩ := hok
  obtain rfl := Except.ok.inj (hget.symm.trans hget')
  by_cases hsame : change.release_id = to_release_id
  · rw [if_pos hsame] at hmove ⊢
    cases hmove
    exact h
  · simp only [if_neg hsame, bind_eq_ok, Except.ok.injEq] at hmove ⊢
    obtain ⟨_, -, _, -, changes, hset, rfl⟩ := hmove
    obtain ⟨-, -, rfl⟩ := set_change_ok.1 hset
    refine ⟨h.releases.update_key (get_change_mem hget) fun id => ?_,
      h.statuses.update_same fun c _ => rfl⟩
    rw [log_record_release]
    exact congrArg _ (if_congr Iff.rfl (moved_of_ne hsame).symm rfl)

theorem faithful_delete_change {now : DateTime} (h : Faithful db)
    (hok : Scope.delete_change db.scope change_id tenant_id now = .ok scope) :
    Faithful { db with scope := scope } := by
  simp only [Scope.delete_change, bind_eq_ok, Except.ok.injEq] at hok
  obtain ⟨change, -, _, -, changes, hset, rfl⟩ := hok
  obtain ⟨-, -, rfl⟩ := set_change_ok.1 hset
  exact ⟨h.releases.update_same fun c _ => rfl, h.statuses.update_same fun c _ => rfl⟩

/-- Of every item that goes to the backlog it is recorded. -/
theorem faithful_delete_release {now : DateTime} (h : Faithful db)
    (hok : delete_release db release_id tenant_id now = .ok db') : Faithful db' := by
  simp only [delete_release, Scope.delete_release, bind_eq_ok, Except.ok.injEq] at hok
  obtain ⟨_, ⟨_, -, rfl⟩, rfl⟩ := hok
  -- the rows that are recorded are selected by what the update asks for
  refine ⟨h.releases.update fun c hc => ?_, h.statuses.update_same fun c _ => rfl⟩
  have hmove : ∀ (c : ReleaseChange) (n : ℕ), release_ledger.move
      ((release_move tenant_id c.id (some release_id) none).row n) = (some release_id, none) :=
    fun _ _ => rfl
  rw [Ledger.log_insert_select (fun _ _ => rfl) hmove hc]
  congr 1
  by_cases hattached : c.release_id = some release_id ∧ c.tenant_id = tenant_id ∧
      c.deleted_at = none
  · rw [if_pos (decide_eq_true hattached), if_pos (decide_eq_true hattached)]
    have hrelease : release_ledger.value c = some release_id := hattached.1
    rw [hrelease]
    exact (moved_of_ne (Option.some_ne_none release_id)).symm
  · rw [if_neg (by simpa using hattached), if_neg (by simpa using hattached)]

/-- An upload that goes through has placed its rows. -/
theorem import_stores {file : UploadedFile} {result : ScopeImportResult}
    (hok : import_scope ext scope file release_id tenant_id = .ok (scope', result)) :
    ∃ news, store (place release_id tenant_id) scope.changes
      (written_rows ext scope.reference file release_id tenant_id) =
        .ok (scope'.changes, news) := by
  have hparts := hok
  simp only [import_scope, bind_eq_ok] at hparts
  obtain ⟨release, hrelease, ws, hactive, c, hcontext, -⟩ := hparts
  cases file with
  | unreadable => cases hactive
  | chartsheet => cases hactive
  | worksheet sheet =>
    obtain rfl := Except.ok.inj hactive
    obtain ⟨news, hstore, -⟩ := (import_scope_ok hrelease hcontext).1 ⟨result, hok, rfl⟩
    exact ⟨news, hstore⟩

/-- **An upload is recorded nowhere**, so it must not add anything. -/
theorem faithful_import_iff {gs : List (Except Raised ScopeRow)} (hv : Valid db) (h : Faithful db)
    (hpassed : Passed release_id tenant_id db.scope.changes scope.changes gs) :
    Faithful { db with scope := scope } ↔ AddsNothing tenant_id db.scope.changes gs := by
  constructor
  · intro hf
    constructor
    · intro g hg
      by_contra hknown
      obtain ⟨c', hc', hid⟩ := hpassed.made.2 ⟨g, hg, not_known_iff.1 hknown⟩
      -- the new item is in the release, and its history is empty
      have htold := hf.releases c' hc'
      rw [hv.releases.log_eq_nil hid, replay_nil] at htold
      rcases hpassed.origin c' hc' with ⟨c, hc, rfl⟩ | ⟨-, hrelease⟩
      · rw [touched_keeps.1] at hid
        exact absurd (Table.key_lt_next hc) (Nat.not_lt.2 hid)
      · exact Option.some_ne_none _ (hrelease.symm.trans (Option.some.inj htold).symm)
    · intro c hc g hlast
      -- its history ends where it ended before
      have hsame := (h.statuses.unlogged_iff hc touched_keeps.1).1
        (hf.statuses _ (hpassed.kept c hc))
      have hwritten : (touched tenant_id gs c).external_status = row_status g := by
        rw [touched_status, hlast, Option.map_some, Option.getD_some]
      exact hwritten.symm.trans hsame
  · rintro ⟨hknown, hunchanged⟩
    have horigin : ∀ c' ∈ scope.changes, ∃ c ∈ db.scope.changes, touched tenant_id gs c = c' := by
      intro c' hc'
      refine (hpassed.origin c' hc').resolve_right fun hnew => ?_
      obtain ⟨g, hg, hunknown⟩ := hpassed.made.1 ⟨c', hc', hnew.1⟩
      exact not_known_iff.2 hunknown (hknown g hg)
    constructor
    · intro c' hc'
      obtain ⟨c, hc, rfl⟩ := horigin c' hc'
      exact (h.releases.unlogged_iff hc touched_keeps.1).2 touched_keeps.2
    · intro c' hc'
      obtain ⟨c, hc, rfl⟩ := horigin c' hc'
      refine (h.statuses.unlogged_iff hc touched_keeps.1).2 (touched_status.trans ?_)
      cases hlast : gs.reverse.find? fun g => names tenant_id g c with
      | none => rfl
      | some g => exact hunchanged c hc g hlast

/-! ## Every request -/

/-- No key is given out twice. -/
theorem next_handle (hc : Constraints scope.changes)
    (hok : Scope.handle ext scope request = .ok scope') :
    scope.changes.next ≤ scope'.changes.next := by
  cases effect_handle hok with
  | added hadd =>
    rw [(add_change_ok.1 hadd).2.2]
    exact Nat.le_succ _
  | edited hchange hset =>
    rw [(set_change_ok.1 hset).2.2]
    exact le_refl _
  | returned ht =>
    rw [ht]
    exact le_refl _
  | imported himport =>
    obtain ⟨news, hstore⟩ := import_stores himport
    exact (passed_of_store hc hstore).next
  | untouched ht => rw [ht]

theorem valid_handle (hv : Valid db) (hok : handle ext db request = .ok db') : Valid db' := by
  have hscope := scope_handle hok
  have hnext := next_handle hv.constraints hscope
  have hconstraints := constraints_handle hv.constraints request hscope
  have hreleases := hv.releases.mono hnext
  have hstatuses := hv.statuses.mono hnext
  -- what is recorded is about an item that has been made
  have hmade : ∀ c ∈ db.scope.changes, c.id < db'.scope.changes.next :=
    fun c hc => lt_of_lt_of_le (Table.key_lt_next hc) hnext
  cases request with
  | create_change user release_id data =>
    simp only [handle, create_change, bind_eq_ok, Except.ok.injEq] at hok
    obtain ⟨scope, hcreate, rfl⟩ := hok
    obtain ⟨new, hchanges, -⟩ := create_inserts hcreate
    have hnew : db.scope.changes.next < scope.changes.next := by
      rw [hchanges]
      exact Nat.lt_succ_self _
    refine ⟨hconstraints, known_record_release hreleases hnew, ?_⟩
    dsimp only
    split
    · exact known_record_status hstatuses hnew
    · exact hstatuses
  | update_change user change_id data =>
    simp only [handle, update_change, bind_eq_ok, Except.ok.injEq] at hok
    obtain ⟨change, hget, scope, -, rfl⟩ := hok
    refine ⟨hconstraints, hreleases, ?_⟩
    dsimp only
    split
    · exact known_record_status hstatuses (hmade change (get_change_mem hget))
    · exact hstatuses
  | move_change user change_id to_release_id =>
    simp only [handle, move_change, bind_eq_ok, Except.ok.injEq] at hok
    obtain ⟨change, hget, scope, -, rfl⟩ := hok
    refine ⟨hconstraints, ?_, hstatuses⟩
    dsimp only
    split
    · exact hreleases
    · exact known_record_release hreleases (hmade change (get_change_mem hget))
  | delete_release user release_id now =>
    simp only [handle, delete_release, bind_eq_ok, Except.ok.injEq] at hok
    obtain ⟨scope, -, rfl⟩ := hok
    refine ⟨hconstraints, hreleases.insert_all (List.forall_mem_map.2 fun c hc _ => ?_), hstatuses⟩
    exact hmade c (Table.mem_select.1 hc).1
  | _ =>
    simp only [handle, bind_eq_ok, Except.ok.injEq] at hok
    obtain ⟨scope, -, rfl⟩ := hok
    exact ⟨hconstraints, hreleases, hstatuses⟩

/-- **What a request does to a faithful history.** -/
theorem faithful_handle_iff (hv : Valid db) (h : Faithful db)
    (hok : handle ext db request = .ok db') : Faithful db' ↔ Harmless ext db request := by
  cases request with
  | create_change user release_id data => exact faithful_create_iff hv h hok
  | update_change user change_id data => exact iff_of_true (faithful_update h hok) trivial
  | move_change user change_id to_release_id => exact iff_of_true (faithful_move h hok) trivial
  | delete_change user change_id now =>
    simp only [handle, bind_eq_ok, Except.ok.injEq] at hok
    obtain ⟨scope, hdelete, rfl⟩ := hok
    exact iff_of_true (faithful_delete_change h hdelete) trivial
  | delete_release user release_id now => exact iff_of_true (faithful_delete_release h hok) trivial
  | import_scope user release_id file =>
    simp only [handle, Scope.handle, bind_eq_ok, Prod.exists, Except.ok.injEq] at hok
    obtain ⟨_, ⟨_, -, scope, result, himport, rfl⟩, rfl⟩ := hok
    obtain ⟨news, hstore⟩ := import_stores himport
    exact faithful_import_iff hv h (passed_of_store hv.constraints hstore)
  | others reference =>
    simp only [handle, Scope.handle, bind_eq_ok, Except.ok.injEq] at hok
    obtain ⟨_, rfl, rfl⟩ := hok
    exact iff_of_true ⟨h.releases, h.statuses⟩ trivial

theorem valid_step (hv : Valid db) (request : Request) : Valid (step ext db request) :=
  commit_or_rollback_keeps hv fun _ hok => valid_handle hv hok

theorem faithful_step_iff (hv : Valid db) (h : Faithful db) (request : Request) :
    Faithful (step ext db request) ↔ (Accepted ext db request → Harmless ext db request) :=
  commit_or_rollback_iff h fun _ hok => faithful_handle_iff hv h hok

end

/-- **When the history tells the items.** From the start, and whatever requests are made: the
history of every item, replayed, ends at its release and at its status at all times, if and only
if no accepted request creates an item with an empty text as its status, and the rows of every
accepted upload make no item and leave each its status. -/
theorem history_faithful_iff (ext : External) (reference : Reference) (requests : List Request) :
    Runs.Always (step ext) Faithful (Db.opened reference) requests ↔
      Runs.Along (step ext)
        (fun db request => Accepted ext db request → Harmless ext db request)
        (Db.opened reference) requests := by
  have hvalid : Valid (Db.opened reference) :=
    ⟨constraints_empty, fun e he => absurd he (Table.not_mem_empty e),
      fun e he => absurd he (Table.not_mem_empty e)⟩
  have hstart : Faithful (Db.opened reference) :=
    ⟨fun c hc => absurd hc (Table.not_mem_empty c), fun c hc => absurd hc (Table.not_mem_empty c)⟩
  have hwf : ∀ db request, Valid db → Valid (step ext db request) :=
    fun db request hv => valid_step hv request
  have hstep : ∀ db request, Valid db → Faithful db → (Faithful (step ext db request) ↔
      (Accepted ext db request → Harmless ext db request)) :=
    fun db request hv h => faithful_step_iff hv h request
  exact Runs.always_iff_along hwf hstep hvalid hstart requests

instance (db : Db) : Decidable (Faithful db) :=
  decidable_of_iff (release_ledger.Told db.scope.changes db.release_history ∧
      status_ledger.Told db.scope.changes db.status_history)
    ⟨fun h => ⟨h.1, h.2⟩, fun h => ⟨h.releases, h.statuses⟩⟩

namespace Unrecorded

def ext : External := ⟨String.toLower, .finite⟩

def reference : Reference := ⟨[⟨1, 1, none⟩], [], []⟩

def admin : CurrentUser := ⟨5, 1, Role.ADMIN, false⟩

/-- One new item. -/
def sheet : UploadedFile :=
  .worksheet
    { headers := [some (.text "external_key"), some (.text "title"), some (.text "change_kind")]
      rows := [[some (.text "PAY-1"), some (.text "Pay by card"), some (.text "story")]] }

/-- An item with an empty text as its status. -/
def data : ReleaseChangeCreate where
  external_key := none
  title := "Pay by card"
  description := none
  change_kind := "story"
  external_status := some ""
  system_id := none
  custom_fields := none
  project_code := none
  project_name := none

end Unrecorded

/-- An upload makes an item without a history, and an item is created with a status that its
history does not have. -/
theorem upload_is_unrecorded :
    (¬ Faithful (Runs.run (step Unrecorded.ext) (Db.opened Unrecorded.reference)
        [.import_scope Unrecorded.admin 1 Unrecorded.sheet]) ∧
      ¬ Faithful (Runs.run (step Unrecorded.ext) (Db.opened Unrecorded.reference)
        [.create_change Unrecorded.admin 1 Unrecorded.data])) ∧
      ¬ ∀ (ext : External) (reference : Reference) (requests : List Request),
        Runs.Always (step ext) Faithful (Db.opened reference) requests := by
  have himport : ¬ Faithful (Runs.run (step Unrecorded.ext) (Db.opened Unrecorded.reference)
      [.import_scope Unrecorded.admin 1 Unrecorded.sheet]) := by decide +kernel
  refine ⟨⟨himport, by decide +kernel⟩, fun hall => himport ?_⟩
  exact (hall Unrecorded.ext Unrecorded.reference
    [.import_scope Unrecorded.admin 1 Unrecorded.sheet]).2

end EnvMgr.Scope.History

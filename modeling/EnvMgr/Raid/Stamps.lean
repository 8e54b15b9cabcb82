/-
The stamps of a RAID item.

Closing an item stamps `closed_at` and resolving an issue stamps `resolved_at`, each
unless it is stamped already. Nothing takes a stamp off again, so that they tell the truth
exactly as long as nothing that bears one is taken back into work.
-/
import EnvMgr.Raid.Transitions

namespace EnvMgr.Raid

open Runs

variable {db' : Db} {call : Call} {item_id release_id : ℕ}
  {history : Table RaidItemHistory RaidItemHistory.id}

/-! ## The property -/

/-- When the item was resolved, by its history, the latest last. -/
def resolution_times (history : Table RaidItemHistory RaidItemHistory.id) (item_id : ℕ) :
    List DateTime :=
  (history.select fun row =>
    row.raid_item_id = item_id ∧ row.field_name = "status" ∧
      row.new_value = .text "resolved").map RaidItemHistory.changed_at

structure Stamped (history : Table RaidItemHistory RaidItemHistory.id) (item : RaidItem) :
    Prop where
  closed : item.closed_at ≠ none ↔ item.status = "closed"
  resolved : item.item_type = .issue → ∀ t ∈ item.resolved_at,
    (item.status = "resolved" ∨ item.status = "closed") ∧
      (resolution_times history item.id).getLast? = some t

def StampsTrue (db : Db) : Prop := ∀ item ∈ db.items, Stamped db.history item

/-- The request takes a closed item or a resolved issue back into work, or promotes a
closed risk. -/
def TakesBack (db : Db) (call : Call) : Prop :=
  match call.request with
  | .update_raid _ item_id data => ∃ item ∈ db.items, item.id = item_id ∧
      (item.status = "closed" ∧ data.status.set_required item.status ≠ "closed" ∨
        item.item_type = .issue ∧ item.status = "resolved" ∧
          data.status.set_required item.status = "in_progress")
  | .promote_raid _ item_id _ => ∃ item ∈ db.items, item.id = item_id ∧
      item.item_type = .risk ∧ item.status = "closed"
  | _ => False

/-! ## What a request leaves -/

theorem stamp_key (data : RaidItemUpdate) (now : DateTime) (item : RaidItem) :
    ((data.assign item).stamp now).id = item.id := rfl

/-- The log after an update. -/
def updated (db : Db) (item : RaidItem) (data : RaidItemUpdate) (user_id : ℕ) (now : DateTime) :
    Db :=
  { db with
    items := db.items.update (fun i => i.id = item.id)
      ⟨fun i => (data.assign i).stamp now, stamp_key data now⟩
    history := db.history.insert_all ((changes data item).map fun change =>
      history_row item change.1 change.2.1 change.2.2 user_id now) }

theorem update_of_handle {db : Db} {data : RaidItemUpdate}
    (hrequest : call.request = .update_raid release_id item_id data)
    (h : handle db call = .ok db') :
    ∃ item ∈ db.items, item.id = item_id ∧
      is_transition_allowed item.item_type item.status (data.status.set_required item.status) =
        true ∧ db' = updated db item data call.current_user.id call.now := by
  simp only [handle, hrequest, update_item, bind_eq_ok, raise_if_eq_ok, exists_const,
    Except.ok.injEq, _get_item_ok] at h
  obtain ⟨_, -, _, -, item, ⟨hitem, hid, -⟩, hmove, _, -, -, rfl⟩ := h
  exact ⟨item, hitem, hid, by simpa using fun hfalse => hmove (Or.inr hfalse), rfl⟩

theorem create_of_handle {db : Db} {data : RaidItemCreate}
    (hrequest : call.request = .create_raid release_id data) (h : handle db call = .ok db') :
    ∃ tenant_id seq user_id, db' = { db with
      items := db.items.insert ⟨data.row tenant_id release_id seq user_id call.now, fun _ => rfl⟩
      history := db.history.insert (history_row
        (data.row tenant_id release_id seq user_id call.now db.items.next) "created" .null
        (.text (_INITIAL_STATUS data.item_type)) user_id call.now) } := by
  simp only [handle, hrequest, create_item, bind_eq_ok, Except.ok.injEq] at h
  obtain ⟨_, -, _, -, _, -, _, -, rfl⟩ := h
  exact ⟨_, _, _, rfl⟩

theorem delete_of_handle {db : Db} (hrequest : call.request = .delete_raid release_id item_id)
    (h : handle db call = .ok db') :
    db' = { db with
      items := db.items.update (fun i => i.id = item_id)
        ⟨fun i => { i with deleted_at := some call.now }, fun _ => rfl⟩ } := by
  simp only [handle, hrequest, delete_item, bind_eq_ok, Except.ok.injEq, _get_item_ok] at h
  obtain ⟨_, -, _, -, item, ⟨-, rfl, -⟩, rfl⟩ := h
  rfl

theorem promote_of_handle {db : Db} {target_type : ItemType}
    (hrequest : call.request = .promote_raid release_id item_id target_type)
    (h : handle db call = .ok db') :
    ∃ source ∈ db.items, source.id = item_id ∧ ∃ seq,
      db' = promoted db source target_type seq call.current_user.id call.now := by
  simp only [handle, hrequest, bind_eq_ok, promote_item_ok, _get_item_ok] at h
  obtain ⟨_, -, release, -, source, ⟨hsource, hid, -⟩, -, -, rfl⟩ := h
  exact ⟨source, hsource, hid, _, rfl⟩

/-! ## What the history says of resolutions -/

/-- Of an update's changes, those that resolve. -/
theorem resolving_changes (data : RaidItemUpdate) (item : RaidItem) :
    (changes data item).filter (fun change =>
        change.1 = "status" ∧ change.2.2 = .text "resolved") =
      if item.status ≠ "resolved" ∧ data.status.set_required item.status = "resolved" then
        [("status", .text item.status, .text "resolved")] else [] := by
  have hcopied : ∀ columns : List Column,
      (data.copied item columns).filter (fun change =>
        change.1 = "status" ∧ change.2.2 = .text "resolved") = [] := by
    intro columns
    refine List.filter_eq_nil_iff.2 fun change hchange hstatus => ?_
    obtain ⟨column, -, rfl⟩ := List.mem_map.1 hchange
    exact column.name_ne_status (of_decide_eq_true hstatus).1
  have hvalues : (data.values item).filter (fun change =>
      change.1 = "status" ∧ change.2.2 = .text "resolved") =
        if data.status.set_required item.status = "resolved" then
          [("status", .text item.status, .text "resolved")] else [] := by
    simp only [RaidItemUpdate.values, List.filter_append, hcopied, List.nil_append,
      List.append_nil]
    by_cases hnew : data.status.set_required item.status = "resolved"
    · simp [hnew]
    · simp [hnew]
  rw [changes, List.filter_comm, hvalues]
  by_cases hnew : data.status.set_required item.status = "resolved"
  · by_cases hold : item.status = "resolved"
    · simp [hold]
    · simp [hnew, hold]
  · simp [hnew]

/-- An update logs a resolution where it makes one. -/
theorem resolution_times_updated (db : Db) (item : RaidItem) (data : RaidItemUpdate)
    (user_id : ℕ) (now : DateTime) (item_id : ℕ) :
    resolution_times (updated db item data user_id now).history item_id =
      resolution_times db.history item_id ++
        if item.id = item_id ∧ item.status ≠ "resolved" ∧
            data.status.set_required item.status = "resolved" then [now] else [] := by
  set rows := fun change : Change =>
    history_row item change.1 change.2.1 change.2.2 user_id now with hrows
  set resolves : RaidItemHistory → Bool := fun row =>
    row.raid_item_id = item_id ∧ row.field_name = "status" ∧ row.new_value = .text "resolved"
    with hresolves
  have hnews : ∀ new ∈ (changes data item).map rows, ∀ n,
      resolves (new.row n) = resolves (new.row 0) ∧ (new.row n).changed_at = now := by
    intro new hnew n
    obtain ⟨change, -, rfl⟩ := List.mem_map.1 hnew
    exact ⟨rfl, rfl⟩
  have hadded : (((changes data item).map rows).filter fun new => resolves (new.row 0)).map
      (fun _ => now) = if item.id = item_id ∧ item.status ≠ "resolved" ∧
        data.status.set_required item.status = "resolved" then [now] else [] := by
    rw [List.filter_map, List.map_map]
    by_cases hid : item.id = item_id
    · have hstatus : ((fun new : Table.New RaidItemHistory.id => resolves (new.row 0)) ∘ rows) =
          fun change => decide (change.1 = "status" ∧ change.2.2 = .text "resolved") := by
        funext change
        simp [hresolves, hrows, history_row, hid]
      rw [hstatus, resolving_changes]
      by_cases hnew : item.status ≠ "resolved" ∧ data.status.set_required item.status = "resolved"
      · rw [if_pos hnew, if_pos ⟨hid, hnew⟩]
        rfl
      · rw [if_neg hnew, if_neg fun h => hnew h.2]
        rfl
    · have hstatus : ((fun new : Table.New RaidItemHistory.id => resolves (new.row 0)) ∘ rows) =
          fun _ => false := by
        funext change
        simp [hresolves, hrows, history_row, hid]
      rw [hstatus, if_neg fun h => hid h.1]
      simp
  rw [← hadded]
  exact Table.insert_all_select_map (fun new hnew n => (hnews new hnew n).1)
    (fun new hnew n => (hnews new hnew n).2)

/-- A row that resolves nothing leaves the times as they are. -/
theorem resolution_times_insert {item : RaidItem} {field_name : String} {old new : Value}
    {user_id : ℕ} {now : DateTime} (h : field_name ≠ "status" ∨ new ≠ .text "resolved")
    (item_id : ℕ) :
    resolution_times (history.insert (history_row item field_name old new user_id now)) item_id =
      resolution_times history item_id := by
  have hskipped : ((history.insert (history_row item field_name old new user_id now)).select
      fun row => row.raid_item_id = item_id ∧ row.field_name = "status" ∧
        row.new_value = .text "resolved") =
      history.select fun row => row.raid_item_id = item_id ∧ row.field_name = "status" ∧
        row.new_value = .text "resolved" := by
    rw [Table.select_insert, if_neg, List.append_nil]
    intro hrow
    obtain ⟨-, hfield, hnew⟩ := of_decide_eq_true hrow
    exact h.elim (fun hne => hne hfield) fun hne => hne hnew
  rw [resolution_times, hskipped, resolution_times]

theorem resolution_times_promoted (db : Db) (source : RaidItem) (target_type : ItemType)
    (seq user_id : ℕ) (now : DateTime) (item_id : ℕ) :
    resolution_times (promoted db source target_type seq user_id now).history item_id =
      resolution_times db.history item_id := by
  have hcreated : "created" ≠ "status" ∨
      Value.text ("promoted from " ++ ref_code source) ≠ .text "resolved" := Or.inl (by decide)
  have hpromoted : "status" ≠ "status" ∨ Value.text "promoted" ≠ .text "resolved" :=
    Or.inr (by decide)
  unfold promoted
  by_cases hrisk : source.item_type = .risk
  · rw [if_pos hrisk]
    exact (resolution_times_insert hpromoted item_id).trans
      (resolution_times_insert hcreated item_id)
  · rw [if_neg hrisk]
    exact resolution_times_insert hcreated item_id

/-! ## One item -/

theorem Stamped.of_times {history' : Table RaidItemHistory RaidItemHistory.id} {item : RaidItem}
    (h : Stamped history item)
    (htimes : resolution_times history' item.id = resolution_times history item.id) :
    Stamped history' item :=
  ⟨h.closed, fun hissue t ht => htimes ▸ h.resolved hissue t ht⟩

/-- A new item bears no stamp. -/
theorem stamped_of_unstamped {item : RaidItem} (hclosed : item.closed_at = none)
    (hresolved : item.resolved_at = none) (hstatus : item.status ≠ "closed") :
    Stamped history item := by
  refine ⟨iff_of_false (not_not.2 hclosed) hstatus, fun _ t ht => ?_⟩
  rw [hresolved] at ht
  cases ht

theorem initial_ne_closed (item_type : ItemType) : _INITIAL_STATUS item_type ≠ "closed" := by
  cases item_type <;> decide

/-- A resolved issue bears its stamp. -/
def ResolvedStamped (item : RaidItem) : Prop :=
  item.item_type = .issue → item.status = "resolved" → item.resolved_at ≠ none

/-- Nothing leads out of a closed issue. -/
theorem issue_stays_closed {from_status to_status : String} (h : from_status = "closed")
    (hallowed : is_transition_allowed .issue from_status to_status = true) :
    to_status = "closed" := by
  have harcs : arcs .issue "closed" = [] := rfl
  rw [h, is_transition_allowed, harcs] at hallowed
  simpa [eq_comm] using hallowed

/-- A resolved issue is closed or taken up again. -/
theorem issue_leaves_resolved {from_status to_status : String} (h : from_status = "resolved")
    (hallowed : is_transition_allowed .issue from_status to_status = true) :
    to_status = "resolved" ∨ to_status = "closed" ∨ to_status = "in_progress" := by
  have harcs : arcs .issue "resolved" = ["closed", "in_progress"] := rfl
  rw [h, is_transition_allowed, harcs] at hallowed
  simpa [@eq_comm _ "resolved"] using hallowed

section

variable {db : Db} {item : RaidItem} {data : RaidItemUpdate} {user_id : ℕ} {now : DateTime}

/-- The closing stamp stays right unless a closed item is given another status. -/
theorem closed_stamp_iff (h : item.closed_at ≠ none ↔ item.status = "closed") :
    (((data.assign item).stamp now).closed_at ≠ none ↔
        ((data.assign item).stamp now).status = "closed") ↔
      ¬ (item.status = "closed" ∧ data.status.set_required item.status ≠ "closed") := by
  have hstatus : ((data.assign item).stamp now).status = data.status.set_required item.status := rfl
  have hclosed : ((data.assign item).stamp now).closed_at =
      if data.status.set_required item.status = "closed" ∧ item.closed_at = none then some now
        else item.closed_at := rfl
  rw [hstatus, hclosed]
  by_cases hnew : data.status.set_required item.status = "closed"
  · by_cases hstamp : item.closed_at = none
    · simp [hnew, hstamp]
    · simp [hnew, hstamp]
  · simp [hnew, ← h]

/-- The stamp of an issue's resolution stays right unless it is taken up again. -/
theorem resolved_stamp_iff (hissue : item.item_type = .issue) (h : Stamped db.history item)
    (hresolved : ResolvedStamped item) (hallowed : is_transition_allowed item.item_type item.status
      (data.status.set_required item.status) = true) :
    (∀ t ∈ ((data.assign item).stamp now).resolved_at,
        (((data.assign item).stamp now).status = "resolved" ∨
          ((data.assign item).stamp now).status = "closed") ∧
        (resolution_times (updated db item data user_id now).history item.id).getLast? = some t) ↔
      ¬ (item.status = "resolved" ∧ data.status.set_required item.status = "in_progress") := by
  have hstatus : ((data.assign item).stamp now).status = data.status.set_required item.status := rfl
  have hstamp : ((data.assign item).stamp now).resolved_at =
      if item.item_type = .issue ∧ data.status.set_required item.status = "resolved" ∧
        item.resolved_at = none then some now else item.resolved_at := rfl
  rw [hissue] at hallowed
  rw [hstatus, hstamp, resolution_times_updated]
  have hwhile := h.resolved hissue
  by_cases hnew : data.status.set_required item.status = "resolved"
  · refine iff_of_true ?_ (by simp [hnew])
    by_cases hold : item.status = "resolved"
    · -- it was resolved before, and stamped then
      intro t ht
      rw [if_neg fun hc => hresolved hissue hold hc.2.2] at ht
      rw [if_neg fun hc => hc.2.1 hold, List.append_nil]
      exact ⟨Or.inl hnew, (hwhile t ht).2⟩
    · have hunstamped : item.resolved_at = none := by
        refine Option.eq_none_iff_forall_not_mem.2 fun t ht => ?_
        have hclosed := (hwhile t ht).1.resolve_left hold
        have hstays := issue_stays_closed hclosed hallowed
        rw [hnew] at hstays
        exact absurd hstays (by decide)
      intro t ht
      rw [if_pos ⟨hissue, hnew, hunstamped⟩] at ht
      rw [if_pos ⟨rfl, hold, hnew⟩, List.getLast?_concat]
      exact ⟨Or.inl hnew, ht⟩
  · rw [if_neg fun hc => hnew hc.2.1, if_neg fun hc => hnew hc.2.2, List.append_nil]
    constructor
    · rintro hafter ⟨hold, hagain⟩
      obtain ⟨t, ht⟩ := Option.ne_none_iff_exists'.1 (hresolved hissue hold)
      have hstill := (hafter t ht).1
      rw [hagain] at hstill
      exact absurd hstill (by decide)
    · intro hkeeps t ht
      obtain ⟨hold, hlast⟩ := hwhile t ht
      refine ⟨Or.inr ?_, hlast⟩
      rcases hold with hold | hold
      · rcases issue_leaves_resolved hold hallowed with hsame | hclose | hagain
        · exact absurd hsame hnew
        · exact hclose
        · exact absurd ⟨hold, hagain⟩ hkeeps
      · exact issue_stays_closed hold hallowed

/-- **An update and the stamps of its item.** -/
theorem stamped_updated_iff (h : Stamped db.history item) (hresolved : ResolvedStamped item)
    (hallowed : is_transition_allowed item.item_type item.status
      (data.status.set_required item.status) = true) :
    Stamped (updated db item data user_id now).history ((data.assign item).stamp now) ↔
      ¬ (item.status = "closed" ∧ data.status.set_required item.status ≠ "closed" ∨
        item.item_type = .issue ∧ item.status = "resolved" ∧
          data.status.set_required item.status = "in_progress") := by
  have hclosed := @closed_stamp_iff item data now h.closed
  have hresolved_at := fun hissue =>
    @resolved_stamp_iff db item data user_id now hissue h hresolved hallowed
  rw [not_or]
  constructor
  · intro hafter
    refine ⟨hclosed.1 hafter.closed, ?_⟩
    rintro ⟨hissue, hback⟩
    exact (hresolved_at hissue).1 (hafter.resolved hissue) hback
  · rintro ⟨hclose, hback⟩
    exact ⟨hclosed.2 hclose, fun hissue =>
      (hresolved_at hissue).2 fun h => hback ⟨hissue, h⟩⟩

end

/-! ## A step and a run -/

/-- Every resolved issue bears its stamp. -/
def ResolutionsStamped (db : Db) : Prop := ∀ item ∈ db.items, ResolvedStamped item

theorem resolvedStamped_of_status {item : RaidItem} (h : item.status ≠ "resolved") :
    ResolvedStamped item := fun _ hstatus => absurd hstatus h

theorem initial_ne_resolved (item_type : ItemType) : _INITIAL_STATUS item_type ≠ "resolved" := by
  cases item_type <;> decide

theorem resolvedStamped_stamp (data : RaidItemUpdate) (item : RaidItem) (now : DateTime) :
    ResolvedStamped ((data.assign item).stamp now) := by
  intro hissue hstatus
  have hresolved : (data.assign item).status = "resolved" := hstatus
  have htype : (data.assign item).item_type = .issue := hissue
  by_cases hstamp : (data.assign item).resolved_at = none
  · simp [RaidItem.stamp, htype, hresolved, hstamp]
  · simp [RaidItem.stamp, hstamp]

theorem resolutionsStamped_step (db : Db) (call : Call) (h : ResolutionsStamped db) :
    ResolutionsStamped (step db call) := by
  refine commit_or_rollback_keeps h fun db' hok => ?_
  cases writes_of_handle hok with
  | created => exact (Table.forall_insert_iff h).2 (resolvedStamped_of_status (initial_ne_resolved _))
  | updated hitem =>
    exact (Table.forall_update_key_iff h hitem).2 (resolvedStamped_stamp _ _ _)
  | @deleted item hitem =>
    exact (Table.forall_update_key_iff h hitem).2 fun hissue => h item hitem hissue
  | @promoted source target_type seq user_id hsource hrisk =>
    have hmade : ∀ item ∈ db.items.insert (promoted_new source target_type seq user_id call.now),
        ResolvedStamped item :=
      (Table.forall_insert_iff h).2 (resolvedStamped_of_status (initial_ne_resolved _))
    intro item hitem
    unfold promoted at hitem
    by_cases htype : source.item_type = .risk
    · rw [if_pos htype] at hitem
      refine (Table.forall_update_iff hmade).2 (fun old _ _ => ?_) item hitem
      have hstatus : (mark_promoted.apply old).status = "promoted" := rfl
      exact resolvedStamped_of_status (by rw [hstatus]; decide)
    · rw [if_neg htype] at hitem
      exact hmade item hitem

/-- The item that is updated is the only one whose stamp the update can spoil. -/
theorem stampsTrue_updated_iff {db : Db} {item : RaidItem} {data : RaidItemUpdate}
    {user_id : ℕ} {now : DateTime} (h : StampsTrue db) (hitem : item ∈ db.items) :
    StampsTrue (updated db item data user_id now) ↔
      Stamped (updated db item data user_id now).history ((data.assign item).stamp now) := by
  constructor
  · exact fun hall => hall _ (Table.mem_update_of_pos hitem (decide_eq_true rfl))
  · intro hafter other hother
    rcases Table.mem_update_cases hother with ⟨old, hold, hid, rfl⟩ | ⟨hother, hid⟩
    · obtain rfl := (Table.key_match hitem old hold).1 hid
      exact hafter
    · refine (h other hother).of_times ?_
      rw [resolution_times_updated, if_neg fun hsame => ?_, List.append_nil]
      exact absurd hsame.1.symm (of_decide_eq_false hid)

/-- A promotion spoils the stamp of the risk it closes, where that was closed before. -/
theorem stampsTrue_promoted_iff {db : Db} {source : RaidItem} {target_type : ItemType}
    {seq user_id : ℕ} {now : DateTime} (h : StampsTrue db) (hsource : source ∈ db.items) :
    StampsTrue (promoted db source target_type seq user_id now) ↔
      ¬ (source.item_type = .risk ∧ source.status = "closed") := by
  have hmade : ∀ item ∈ db.items.insert (promoted_new source target_type seq user_id now),
      Stamped (promoted db source target_type seq user_id now).history item := by
    refine (Table.forall_insert_iff fun item hitem => (h item hitem).of_times ?_).2 ?_
    · exact resolution_times_promoted db source target_type seq user_id now item.id
    · exact stamped_of_unstamped rfl rfl (initial_ne_closed target_type)
  by_cases hrisk : source.item_type = .risk
  · have hmem : source ∈ db.items.insert (promoted_new source target_type seq user_id now) :=
      Table.mem_insert.2 (Or.inl hsource)
    have hitems : (promoted db source target_type seq user_id now).items =
        (db.items.insert (promoted_new source target_type seq user_id now)).update
          (fun i => i.id = source.id) mark_promoted := by
      rw [promoted, if_pos hrisk]
    rw [StampsTrue, hitems, Table.forall_update_key_iff hmade hmem]
    -- the risk is marked "promoted", and its `closed_at` is left as it was
    constructor
    · rintro hmarked ⟨-, hclosed⟩
      exact absurd (hmarked.closed.1 ((h source hsource).closed.2 hclosed))
        (show "promoted" ≠ "closed" by decide)
    · intro hopen
      refine ⟨iff_of_false ?_ (show "promoted" ≠ "closed" by decide), fun hissue => ?_⟩
      · exact fun hstamp => hopen ⟨hrisk, (h source hsource).closed.1 hstamp⟩
      · exact absurd (hrisk.symm.trans hissue) (by decide)
  · have hitems : (promoted db source target_type seq user_id now).items =
        db.items.insert (promoted_new source target_type seq user_id now) := by
      rw [promoted, if_neg hrisk]
    rw [StampsTrue, hitems]
    exact iff_of_true hmade fun hback => hrisk hback.1

/-- **A request and the stamps.** -/
theorem stampsTrue_handle_iff {db : Db} (hresolved : ResolutionsStamped db) (h : StampsTrue db)
    (hok : handle db call = .ok db') :
    StampsTrue db' ↔ ¬ TakesBack db call := by
  cases hrequest : call.request with
  | create_raid release_id data =>
    obtain ⟨tenant_id, seq, user_id, rfl⟩ := create_of_handle hrequest hok
    refine iff_of_true ?_ (by simp [TakesBack, hrequest])
    refine (Table.forall_insert_iff fun item hitem => (h item hitem).of_times ?_).2 ?_
    · exact resolution_times_insert (Or.inl (by decide)) item.id
    · exact stamped_of_unstamped rfl rfl (initial_ne_closed data.item_type)
  | delete_raid release_id item_id =>
    obtain rfl := delete_of_handle hrequest hok
    refine iff_of_true ?_ (by simp [TakesBack, hrequest])
    refine (Table.forall_update_iff h).2 fun item hitem _ => ?_
    exact ⟨(h item hitem).closed, (h item hitem).resolved⟩
  | update_raid release_id item_id data =>
    obtain ⟨item, hitem, rfl, hallowed, rfl⟩ := update_of_handle hrequest hok
    have hback : TakesBack db call ↔
        (item.status = "closed" ∧ data.status.set_required item.status ≠ "closed" ∨
          item.item_type = .issue ∧ item.status = "resolved" ∧
            data.status.set_required item.status = "in_progress") := by
      simp only [TakesBack, hrequest]
      exact Table.exists_key_iff hitem
    rw [hback, stampsTrue_updated_iff h hitem]
    exact stamped_updated_iff (h item hitem) (hresolved item hitem) hallowed
  | promote_raid release_id item_id target_type =>
    obtain ⟨source, hsource, rfl, seq, rfl⟩ := promote_of_handle hrequest hok
    have hback : TakesBack db call ↔ source.item_type = .risk ∧ source.status = "closed" := by
      simp only [TakesBack, hrequest]
      exact Table.exists_key_iff hsource
    rw [hback]
    exact stampsTrue_promoted_iff h hsource

/-- **When the stamps are true.** Over any run of requests, `closed_at` says of every item
whether it is closed, and `resolved_at` of an issue when it was last resolved, if and only
if no accepted request takes a closed item or a resolved issue back into work or promotes a
closed risk. -/
theorem stamps_true_iff (reference : Reference) (calls : List Call) :
    Always step StampsTrue (Db.opened reference) calls ↔
      Along step (fun db call => Accepted db call → ¬ TakesBack db call) (Db.opened reference)
        calls := by
  refine always_iff_along resolutionsStamped_step (fun db call hresolved h => ?_) ?_ ?_ calls
  · exact commit_or_rollback_iff h fun db' hok => stampsTrue_handle_iff hresolved h hok
  · exact fun item hitem => absurd hitem (Table.not_mem_empty item)
  · exact fun item hitem => absurd hitem (Table.not_mem_empty item)

namespace Reopened

def assumption : RaidItemCreate where
  item_type := .assumption
  owner_id := none
  release_dependency_id := none
  columns
    | .title => .text "The vendor delivers in May"
    | _ => .null

def set_status (status : String) : RaidItemUpdate :=
  ⟨fun _ => none, .value status, .omitted, .omitted⟩

/-- An assumption is closed and opened again. -/
def calls : List Call :=
  [⟨Sample.admin, .create_raid 1 assumption, 0⟩,
   ⟨Sample.admin, .update_raid 1 1 (set_status "closed"), 1⟩,
   ⟨Sample.admin, .update_raid 1 1 (set_status "open"), 2⟩]

end Reopened

/-- It is open, and closed since the instant 1. -/
theorem reopened_assumption_keeps_stamp :
    (∃ item ∈ (run step (Db.opened Sample.reference) Reopened.calls).items,
      item.status = "open" ∧ item.closed_at = some 1) ∧
      ¬ Always step StampsTrue (Db.opened Sample.reference) Reopened.calls := by
  have hstamped : ∃ item ∈ (run step (Db.opened Sample.reference) Reopened.calls).items,
      item.status = "open" ∧ item.closed_at = some 1 := by decide +kernel
  refine ⟨hstamped, fun h => ?_⟩
  have hlast := (always_iff _ _ _).1 h Reopened.calls [] (List.append_nil _).symm
  obtain ⟨item, hitem, hopen, hclosed⟩ := hstamped
  have hstatus := (hlast item hitem).closed.1 (by rw [hclosed]; exact Option.some_ne_none 1)
  rw [hopen] at hstatus
  exact absurd hstatus (by decide)

end EnvMgr.Raid

/-
Whether RAID items keep to the transition table.

An update asks the table before it moves an item. A promotion does not: it marks whatever
risk it is asked about as promoted, closed and promoted ones included.
-/
import EnvMgr.Lib.Runs
import EnvMgr.Raid.Service

namespace EnvMgr.Raid

open Runs

variable {item : RaidItem} {db db' : Db} {call : Call}
variable {item_id user_id tenant_id : ℕ} {target_type : ItemType} {now : DateTime}
  {new : Table.New RaidItem.id} {p : RaidItem → Bool} {f : Table.Edit RaidItem.id}

/-! ## The property -/

/-- An arc of the table, or the promotion of a risk that is open or mitigating. -/
def Arc (item_type : ItemType) (from_status to_status : String) : Prop :=
  to_status ∈ arcs item_type from_status ∨
    item_type = .risk ∧ (from_status = "open" ∨ from_status = "mitigating") ∧
      to_status = "promoted"
  deriving Decidable

/-- The row is that of an arc of its item. -/
def Moves (db : Db) (row : RaidItemHistory) : Prop :=
  ∃ item ∈ db.items, item.id = row.raid_item_id ∧ ∃ from_status to_status,
    row.old_value = .text from_status ∧ row.new_value = .text to_status ∧
      Arc item.item_type from_status to_status

def Recorded (db : Db) : Prop := ∀ row ∈ db.history, row.field_name = "status" → Moves db row

def PromotedOnce (items : Table RaidItem RaidItem.id) : Prop :=
  ∀ risk ∈ items, risk.item_type = .risk → ∀ a ∈ items, ∀ b ∈ items,
    a.promoted_from_id = some risk.id → b.promoted_from_id = some risk.id → a = b

/-- A closed risk or issue, or a promoted risk. -/
def Settled (item : RaidItem) : Prop :=
  (item.item_type = .risk ∨ item.item_type = .issue) ∧ item.status = "closed" ∨
    item.item_type = .risk ∧ item.status = "promoted"

/-- `b` is a later version of `a`, of the same status if `a` is settled. -/
structure KeepsSettled (a b : RaidItem) : Prop where
  id : b.id = a.id
  item_type : b.item_type = a.item_type
  status : Settled a → b.status = a.status

/-- Every state of the run records arcs only and has each risk promoted at most once, and
between any two of its states the settled items stay as they are. -/
structure MovesAlongTable (db : Db) (calls : List Call) : Prop where
  recorded : Always step Recorded db calls
  once : Always step (fun db => PromotedOnce db.items) db calls
  settled : ∀ before between after, calls = before ++ between ++ after →
    Table.Retains KeepsSettled (run step db before).items (run step db (before ++ between)).items

/-- The request promotes the risk, if nothing stops it: an administrator asks for an issue to
be made of a live risk of a release of the tenant. -/
structure Promotes (db : Db) (call : Call) (risk : RaidItem) : Prop where
  admin : require_role Role.ADMIN call.current_user = .ok ()
  request : call.request = .promote_raid risk.release_id risk.id .issue
  release : ∃ release, get_release db.reference.releases risk.release_id
    call.current_user.active_tenant_id = .ok release
  tenant : risk.tenant_id = call.current_user.active_tenant_id
  live : risk.deleted_at = none
  item_type : risk.item_type = .risk

/-- No request promotes a risk that is neither open nor mitigating. -/
def PromotesMovable (db : Db) (call : Call) : Prop :=
  ∀ risk ∈ db.items, Promotes db call risk → risk.status = "open" ∨ risk.status = "mitigating"

/-! ## The table -/

theorem promoted_not_mem_arcs (item_type : ItemType) (from_status : String) :
    "promoted" ∉ arcs item_type from_status := by
  intro h
  unfold arcs at h
  cases hfound : (_TRANSITIONS item_type).lookup from_status with
  | none =>
    rw [hfound] at h
    cases h
  | some to_statuses =>
    rw [hfound, Option.getD_some] at h
    have hnone : ∀ entry ∈ _TRANSITIONS item_type, "promoted" ∉ entry.2 := by
      cases item_type <;> decide
    obtain ⟨l₁, l₂, heq, -⟩ := List.lookup_eq_some_iff.1 hfound
    exact hnone (from_status, to_statuses) (by rw [heq]; simp) h

/-- A promotion of a risk is an arc exactly if the risk was open or mitigating. -/
theorem arc_promoted_iff {from_status : String} :
    Arc .risk from_status "promoted" ↔ from_status = "open" ∨ from_status = "mitigating" := by
  constructor
  · rintro (h | ⟨-, h, -⟩)
    · exact absurd h (promoted_not_mem_arcs .risk from_status)
    · exact h
  · intro h
    exact Or.inr ⟨rfl, h, rfl⟩

/-- No arc leads out of a settled status. -/
theorem Settled.arcs (h : Settled item) : arcs item.item_type item.status = [] := by
  rcases h with ⟨htype | htype, hstatus⟩ | ⟨htype, hstatus⟩ <;> rw [htype, hstatus] <;> rfl

theorem Settled.stays (h : Settled item) {to_status : String}
    (hallowed : is_transition_allowed item.item_type item.status to_status = true) :
    to_status = item.status := by
  rw [is_transition_allowed, h.arcs] at hallowed
  simpa [eq_comm] using hallowed

/-! ## What requests write -/

theorem _get_item_ok :
    _get_item db item_id tenant_id = .ok item ↔
      item ∈ db.items ∧ item.id = item_id ∧ item.tenant_id = tenant_id ∧ item.deleted_at = none := by
  rw [_get_item, get_or_raise_eq_ok]
  exact Table.select_one_key_iff fun _ hmatch => hmatch.1

/-- The log after a promotion. -/
def promoted (db : Db) (source : RaidItem) (target_type : ItemType) (seq user_id : ℕ)
    (now : DateTime) : Db :=
  let made := db.items.insert (promoted_new source target_type seq user_id now)
  let history := db.history.insert (history_row
    (promoted_row source target_type seq user_id now db.items.next) "created" .null
    (.text ("promoted from " ++ ref_code source)) user_id now)
  if source.item_type = .risk then
    { db with
      items := made.update (fun i => i.id = source.id) mark_promoted
      history := history.insert (history_row source "status" (.text source.status)
        (.text "promoted") user_id now) }
  else { db with items := made, history := history }

/-- What an accepted request does to the log. -/
inductive Writes (db : Db) (call : Call) : Db → Prop
  | created {data : RaidItemCreate} {release_id seq tenant_id user_id : ℕ} {old new : Value} :
      Writes db call { db with
        items := db.items.insert
          ⟨data.row tenant_id release_id seq user_id call.now, fun _ => rfl⟩
        history := db.history.insert (history_row
          (data.row tenant_id release_id seq user_id call.now db.items.next) "created" old new
          user_id call.now) }
  | updated {item : RaidItem} {data : RaidItemUpdate} {user_id : ℕ} (hitem : item ∈ db.items)
      (hallowed : is_transition_allowed item.item_type item.status
        (data.status.set_required item.status) = true) :
      Writes db call { db with
        items := db.items.update (fun i => i.id = item.id)
          ⟨fun i => (data.assign i).stamp call.now, fun _ => rfl⟩
        history := db.history.insert_all ((changes data item).map fun change =>
          history_row item change.1 change.2.1 change.2.2 user_id call.now) }
  | promoted {source : RaidItem} {target_type : ItemType} {seq user_id : ℕ}
      (hsource : source ∈ db.items) (hrisk : source.item_type = .risk → Promotes db call source) :
      Writes db call (promoted db source target_type seq user_id call.now)
  | deleted {item : RaidItem} (hitem : item ∈ db.items) :
      Writes db call { db with
        items := db.items.update (fun i => i.id = item.id)
          ⟨fun i => { i with deleted_at := some call.now }, fun _ => rfl⟩ }

theorem promote_item_ok {release_id : ℕ} :
    promote_item db release_id item_id target_type tenant_id user_id now = .ok db' ↔
      ∃ source, _get_item db item_id tenant_id = .ok source ∧ source.release_id = release_id ∧
        (source.item_type, target_type) ∈ _PROMOTABLE ∧
        db' = promoted db source target_type
          (next_seq db tenant_id source.release_id target_type) user_id now := by
  simp only [promote_item, bind_eq_ok, raise_if_eq_ok, exists_const, not_not, promoted]
  constructor
  · rintro ⟨source, hsource, hrelease, htarget, h⟩
    refine ⟨source, hsource, hrelease, htarget, ?_⟩
    split_ifs at h ⊢ <;> exact (Except.ok.inj h).symm
  · rintro ⟨source, hsource, hrelease, htarget, rfl⟩
    refine ⟨source, hsource, hrelease, htarget, ?_⟩
    split_ifs <;> rfl

theorem writes_of_handle (h : handle db call = .ok db') :
    Writes db call db' := by
  unfold handle at h
  simp only [bind_eq_ok] at h
  obtain ⟨⟨⟩, hrole, h⟩ := h
  cases hrequest : call.request with
  | create_raid release_id data =>
    simp only [hrequest, create_item, bind_eq_ok, Except.ok.injEq] at h
    obtain ⟨_, -, _, -, _, -, rfl⟩ := h
    exact Writes.created
  | update_raid release_id item_id data =>
    simp only [hrequest, update_item, bind_eq_ok, raise_if_eq_ok, exists_const, Except.ok.injEq,
      _get_item_ok] at h
    obtain ⟨_, -, item, ⟨hitem, -⟩, hmove, _, -, -, rfl⟩ := h
    exact Writes.updated hitem (by simpa using fun hfalse => hmove (Or.inr hfalse))
  | promote_raid release_id item_id target_type =>
    simp only [hrequest, bind_eq_ok, promote_item_ok, _get_item_ok] at h
    obtain ⟨release, hrelease, source, ⟨hsource, rfl, htenant, hlive⟩, rfl, htarget, rfl⟩ := h
    refine Writes.promoted hsource fun hrisk => ?_
    have hissue : target_type = .issue := by
      rw [hrisk] at htarget
      revert htarget
      cases target_type <;> decide
    exact ⟨hrole, by rw [hrequest, hissue], ⟨release, hrelease⟩, htenant, hlive, hrisk⟩
  | delete_raid release_id item_id =>
    simp only [hrequest, delete_item, bind_eq_ok, Except.ok.injEq, _get_item_ok] at h
    obtain ⟨_, -, item, ⟨hitem, -⟩, rfl⟩ := h
    exact Writes.deleted hitem

/-- A promotion that nothing stops is made. -/
theorem handle_of_promotes {risk : RaidItem} (hrisk : risk ∈ db.items) (h : Promotes db call risk) :
    handle db call = .ok (promoted db risk .issue
      (next_seq db call.current_user.active_tenant_id risk.release_id .issue)
      call.current_user.id call.now) := by
  obtain ⟨release, hrelease⟩ := h.release
  unfold handle
  simp only [h.request, bind_eq_ok, promote_item_ok, _get_item_ok]
  refine ⟨(), h.admin, release, hrelease, risk, ⟨hrisk, rfl, h.tenant, h.live⟩, rfl, ?_, rfl⟩
  rw [h.item_type]
  decide

/-! ## What the history records -/

/-- What no request changes of an item. -/
def SameItem (a b : RaidItem) : Prop := b.id = a.id ∧ b.item_type = a.item_type

theorem SameItem.refl (item : RaidItem) : SameItem item item := ⟨rfl, rfl⟩

theorem retains_items (h : Writes db call db') :
    Table.Retains SameItem db.items db'.items := by
  cases h with
  | created => exact Table.retains_insert SameItem.refl _ _
  | updated => exact Table.retains_update SameItem.refl _ _ fun _ => ⟨rfl, rfl⟩
  | deleted => exact Table.retains_update SameItem.refl _ _ fun _ => ⟨rfl, rfl⟩
  | @promoted source target_type seq user_id hsource hrisk =>
    unfold promoted
    split_ifs
    · refine (Table.retains_insert SameItem.refl db.items _).trans
        (Table.retains_update SameItem.refl _ _ fun _ => ⟨rfl, rfl⟩) ?_
      rintro a b c ⟨hid, htype⟩ ⟨hid', htype'⟩
      exact ⟨hid'.trans hid, htype'.trans htype⟩
    · exact Table.retains_insert SameItem.refl _ _

theorem Moves.retain {row : RaidItemHistory} (h : Moves db row)
    (hitems : Table.Retains SameItem db.items db'.items) : Moves db' row := by
  obtain ⟨item, hitem, hid, from_status, to_status, hold, hnew, harc⟩ := h
  obtain ⟨item', hitem', hid', htype'⟩ := hitems item hitem
  exact ⟨item', hitem', hid'.trans hid, from_status, to_status, hold, hnew, by rwa [htype']⟩

theorem Column.name_ne_status (column : Column) : column.name ≠ "status" := by
  cases column <;> decide

/-- Of what an update records under `status` there is one possible change. -/
theorem status_change {data : RaidItemUpdate} {change : Change}
    (h : change ∈ changes data item) (hname : change.1 = "status") :
    change.2 = (.text item.status, .text (data.status.set_required item.status)) ∧
      data.status.set_required item.status ≠ item.status := by
  obtain ⟨hmem, hne⟩ := List.mem_filter.1 h
  have hne : change.2.1 ≠ change.2.2 := of_decide_eq_true hne
  have hcopied : ∀ columns : List Column, change ∉ data.copied item columns := by
    intro columns hcopied
    obtain ⟨column, -, rfl⟩ := List.mem_map.1 hcopied
    exact column.name_ne_status hname
  have hstatus : change =
      ("status", .text item.status, .text (data.status.set_required item.status)) := by
    simp only [RaidItemUpdate.values, List.mem_append, hcopied, List.mem_cons, List.not_mem_nil,
      false_or, or_false] at hmem
    rcases hmem with (rfl | rfl) | rfl
    · rfl
    · exact absurd (show "owner_id" = "status" from hname) (by decide)
    · exact absurd (show "validation_status" = "status" from hname) (by decide)
  rw [hstatus] at hne ⊢
  exact ⟨rfl, fun heq => hne (congrArg Value.text heq.symm)⟩

/-- **Every status change recorded is an arc, as long as every risk promoted is open or
mitigating.** -/
theorem recorded_of_writes (hrecorded : Recorded db)
    (hmovable : PromotesMovable db call) (h : Writes db call db') : Recorded db' := by
  have hitems := retains_items h
  have hold : ∀ row ∈ db.history, row.field_name = "status" → Moves db' row :=
    fun row hrow hname => (hrecorded row hrow hname).retain hitems
  cases h with
  | created =>
    refine (Table.forall_insert_iff hold).2 fun hname => ?_
    exact absurd (show "created" = "status" from hname) (by decide)
  | @updated item data user_id hitem hallowed =>
    refine (Table.forall_insert_all_iff hold).2 fun i new hnew hname => ?_
    obtain ⟨change, hchange, rfl⟩ := List.mem_map.1 (List.mem_of_getElem? hnew)
    obtain ⟨hvalues, hne⟩ := status_change hchange hname
    obtain ⟨item', hitem', hid', htype'⟩ := hitems item hitem
    refine ⟨item', hitem', hid', item.status, data.status.set_required item.status,
      congrArg Prod.fst hvalues, congrArg Prod.snd hvalues, Or.inl ?_⟩
    rw [htype']
    simpa [is_transition_allowed, Ne.symm hne] using hallowed
  | deleted => exact hold
  | @promoted source target_type seq user_id hsource hrisk =>
    have hcreated : ∀ row ∈ db.history.insert (history_row
        (promoted_row source target_type seq user_id call.now db.items.next) "created" .null
        (.text ("promoted from " ++ ref_code source)) user_id call.now),
        row.field_name = "status" →
          Moves (promoted db source target_type seq user_id call.now) row := by
      refine (Table.forall_insert_iff hold).2 fun hname => ?_
      exact absurd (show "created" = "status" from hname) (by decide)
    obtain ⟨source', hsource', hid', htype'⟩ := hitems source hsource
    by_cases htype : source.item_type = .risk
    · have hmoved : Moves (promoted db source target_type seq user_id call.now)
          ((history_row source "status" (.text source.status) (.text "promoted") user_id
            call.now).row (db.history.next + 1)) := by
        refine ⟨source', hsource', hid', source.status, "promoted", rfl, rfl, ?_⟩
        rw [htype', htype]
        exact arc_promoted_iff.2 (hmovable source hsource (hrisk htype))
      intro row hrow hname
      rw [promoted, if_pos htype] at hrow
      rcases Table.mem_insert.1 hrow with hrow | rfl
      · exact hcreated row hrow hname
      · exact hmoved
    · intro row hrow hname
      rw [promoted, if_neg htype] at hrow
      exact hcreated row hrow hname

/-- A risk whose promotion is recorded as an arc was open or mitigating. -/
theorem movable_of_recorded {risk : RaidItem} {seq : ℕ} (hrisk : risk ∈ db.items)
    (htype : risk.item_type = .risk)
    (hitems : Table.Retains SameItem db.items (promoted db risk target_type seq user_id now).items)
    (h : Recorded (promoted db risk target_type seq user_id now)) :
    risk.status = "open" ∨ risk.status = "mitigating" := by
  have hrow : (history_row risk "status" (.text risk.status) (.text "promoted") user_id now).row
      (db.history.next + 1) ∈ (promoted db risk target_type seq user_id now).history := by
    rw [promoted, if_pos htype]
    exact Table.mem_insert.2 (Or.inr rfl)
  obtain ⟨item, hitem, hid, from_status, to_status, hold, hnew, harc⟩ := h _ hrow rfl
  obtain ⟨risk', hrisk', hid', htype'⟩ := hitems risk hrisk
  obtain rfl : item = risk' := Table.eq_of_key_eq hitem hrisk' (hid.trans hid'.symm)
  obtain rfl : risk.status = from_status := Value.text.inj hold
  obtain rfl : "promoted" = to_status := Value.text.inj hnew
  rw [htype', htype] at harc
  exact arc_promoted_iff.1 harc

theorem recorded_step_iff (call : Call) (h : Recorded db) :
    Recorded (step db call) ↔ PromotesMovable db call := by
  constructor
  · intro hstep risk hrisk hpromotes
    have hhandle := handle_of_promotes hrisk hpromotes
    have hitems := retains_items (writes_of_handle hhandle)
    rw [step, hhandle, commit_ok] at hstep
    exact movable_of_recorded hrisk hpromotes.item_type hitems hstep
  · intro hmovable
    exact commit_or_rollback_keeps h fun _ hok =>
      recorded_of_writes h hmovable (writes_of_handle hok)

/-! ## What a risk was promoted to -/

/-- An item is promoted from one that is there, and a risk that something was promoted from
is marked so. -/
structure Lineage (items : Table RaidItem RaidItem.id) : Prop where
  grounded : ∀ item ∈ items, ∀ source ∈ item.promoted_from_id, source < items.next
  marked : ∀ item ∈ items, ∀ risk ∈ items, risk.item_type = .risk →
    item.promoted_from_id = some risk.id → risk.status = "promoted"

section

variable {items : Table RaidItem RaidItem.id}

/-- A new row is promoted from nothing, or from an item that is no risk or is marked. -/
theorem Lineage.insert (h : Lineage items) (hnew : ∀ source ∈ (new.row items.next).promoted_from_id,
      ∃ item ∈ items, item.id = source ∧ (item.item_type = .risk → item.status = "promoted")) :
    Lineage (items.insert new) := by
  have hbelow : ∀ item ∈ items.insert new, ∀ source ∈ item.promoted_from_id,
      source < items.next := by
    intro item hitem source hsource
    rcases Table.mem_insert.1 hitem with hitem | rfl
    · exact h.grounded item hitem source hsource
    · obtain ⟨a, ha, rfl, -⟩ := hnew source hsource
      exact Table.key_lt_next ha
  constructor
  · intro item hitem source hsource
    exact Nat.lt_succ_of_lt (hbelow item hitem source hsource)
  · intro item hitem risk hrisk htype hfrom
    rcases Table.mem_insert.1 hrisk with hrisk | rfl
    · rcases Table.mem_insert.1 hitem with hitem | rfl
      · exact h.marked item hitem risk hrisk htype hfrom
      · obtain ⟨a, ha, hid, hmarked⟩ := hnew risk.id hfrom
        rw [Table.eq_of_key_eq ha hrisk hid] at hmarked
        exact hmarked htype
    · have hlt := hbelow item hitem _ hfrom
      rw [new.key_row] at hlt
      exact absurd hlt (lt_irrefl _)

/-- An edit that keeps what an item was promoted from and leaves promoted risks alone. -/
theorem Lineage.update (h : Lineage items)
    (hf : ∀ item ∈ items, p item = true → SameItem item (f.apply item) ∧
      (f.apply item).promoted_from_id = item.promoted_from_id ∧
      (item.item_type = .risk → item.status = "promoted" →
        (f.apply item).status = "promoted")) :
    Lineage (items.update p f) := by
  have horigin : ∀ item ∈ items.update p f, ∃ old ∈ items, SameItem old item ∧
      item.promoted_from_id = old.promoted_from_id ∧
      (old.item_type = .risk → old.status = "promoted" → item.status = "promoted") := by
    intro item hitem
    rcases Table.mem_update_cases hitem with ⟨old, hold, hp, rfl⟩ | ⟨hitem, -⟩
    · exact ⟨old, hold, hf old hold hp⟩
    · exact ⟨item, hitem, SameItem.refl item, rfl, fun _ h => h⟩
  constructor
  · intro item hitem source hsource
    obtain ⟨old, hold, -, hfrom, -⟩ := horigin item hitem
    exact h.grounded old hold source (hfrom ▸ hsource)
  · intro item hitem risk hrisk htype hpromoted
    obtain ⟨old, hold, -, hfrom, -⟩ := horigin item hitem
    obtain ⟨old', hold', ⟨hid', htype'⟩, -, hstatus⟩ := horigin risk hrisk
    rw [htype'] at htype
    rw [hfrom, hid'] at hpromoted
    exact hstatus htype (h.marked old hold old' hold' htype hpromoted)

theorem PromotedOnce.insert (h : PromotedOnce items) (hlineage : Lineage items)
    (hnew : ∀ source ∈ (new.row items.next).promoted_from_id,
      ∃ item ∈ items, item.id = source ∧ (item.item_type = .risk → item.status ≠ "promoted")) :
    PromotedOnce (items.insert new) := by
  intro risk hrisk htype a ha b hb hfrom hfrom'
  -- what an item was promoted from is there already
  have hold : risk ∈ items := by
    rcases Table.mem_insert.1 hrisk with hrisk | rfl
    · exact hrisk
    · rw [new.key_row] at hfrom
      rcases Table.mem_insert.1 ha with ha | rfl
      · exact absurd (hlineage.grounded a ha _ hfrom) (lt_irrefl _)
      · obtain ⟨item, hitem, hid, -⟩ := hnew _ hfrom
        exact absurd hid (Table.key_lt_next hitem).ne
  -- and nothing was promoted before from what the new row was promoted from
  have hfresh : ∀ item ∈ items, item.promoted_from_id = some risk.id →
      (new.row items.next).promoted_from_id ≠ some risk.id := by
    intro item hitem hitem' hnew'
    obtain ⟨source, hsource, hid, hstatus⟩ := hnew risk.id hnew'
    obtain rfl : source = risk := Table.eq_of_key_eq hsource hold hid
    exact hstatus htype (hlineage.marked item hitem source hold htype hitem')
  rcases Table.mem_insert.1 ha with ha | rfl
  · rcases Table.mem_insert.1 hb with hb | rfl
    · exact h risk hold htype a ha b hb hfrom hfrom'
    · exact absurd hfrom' (hfresh a ha hfrom)
  · rcases Table.mem_insert.1 hb with hb | rfl
    · exact absurd hfrom (hfresh b hb hfrom')
    · rfl

theorem PromotedOnce.update (h : PromotedOnce items) (hf : ∀ item, SameItem item (f.apply item) ∧
      (f.apply item).promoted_from_id = item.promoted_from_id) :
    PromotedOnce (items.update p f) := by
  have horigin : ∀ item ∈ items.update p f, ∃ old ∈ items, SameItem old item ∧
      item.promoted_from_id = old.promoted_from_id := by
    intro item hitem
    rcases Table.mem_update_cases hitem with ⟨old, hold, -, rfl⟩ | ⟨hitem, -⟩
    · exact ⟨old, hold, hf old⟩
    · exact ⟨item, hitem, SameItem.refl item, rfl⟩
  intro risk hrisk htype a ha b hb hfrom hfrom'
  obtain ⟨risk₀, hrisk₀, ⟨hid, htype₀⟩, -⟩ := horigin risk hrisk
  obtain ⟨a₀, ha₀, ⟨hida, -⟩, hfroma⟩ := horigin a ha
  obtain ⟨b₀, hb₀, ⟨hidb, -⟩, hfromb⟩ := horigin b hb
  have heq : a₀ = b₀ := h risk₀ hrisk₀ (htype₀.symm.trans htype) a₀ ha₀ b₀ hb₀
    (by rw [← hfroma, hfrom, hid]) (by rw [← hfromb, hfrom', hid])
  exact Table.eq_of_key_eq ha hb (by rw [hida, hidb, heq])

end

theorem lineage_of_writes (hlineage : Lineage db.items)
    (h : Writes db call db') : Lineage db'.items := by
  cases h with
  | created => exact hlineage.insert nofun
  | @updated item data user_id hitem hallowed =>
    refine hlineage.update fun a ha hp => ⟨⟨rfl, rfl⟩, rfl, fun htype hstatus => ?_⟩
    obtain rfl : a = item := (Table.key_match hitem a ha).1 hp
    have hstays := Settled.stays (Or.inr ⟨htype, hstatus⟩) hallowed
    exact hstays.trans hstatus
  | deleted => exact hlineage.update fun a _ _ => ⟨⟨rfl, rfl⟩, rfl, fun _ hstatus => hstatus⟩
  | @promoted source target_type seq user_id hsource hrisk =>
    by_cases htype : source.item_type = .risk
    · have hother : decide (((promoted_new source target_type seq user_id call.now).row
          db.items.next).id = source.id) = false :=
        decide_eq_false fun hid => absurd hid (Table.key_lt_next hsource).ne'
      rw [promoted, if_pos htype]
      show Lineage (Table.update _ _ _)
      rw [Table.update_insert hother]
      refine Lineage.insert (hlineage.update fun _ _ _ => ⟨⟨rfl, rfl⟩, rfl, fun _ _ => rfl⟩) ?_
      intro id hid
      obtain rfl : source.id = id := Option.some.inj hid
      exact ⟨_, Table.mem_update_of_pos hsource (decide_eq_true rfl), rfl, fun _ => rfl⟩
    · rw [promoted, if_neg htype]
      exact hlineage.insert fun id hid =>
        ⟨source, hsource, Option.some.inj hid, fun hrisk => absurd hrisk htype⟩

/-- A risk that is open or mitigating was not promoted before. -/
theorem promotedOnce_of_writes (honce : PromotedOnce db.items)
    (hlineage : Lineage db.items) (hmovable : PromotesMovable db call) (h : Writes db call db') :
    PromotedOnce db'.items := by
  cases h with
  | created => exact honce.insert hlineage nofun
  | updated => exact honce.update fun _ => ⟨⟨rfl, rfl⟩, rfl⟩
  | deleted => exact honce.update fun _ => ⟨⟨rfl, rfl⟩, rfl⟩
  | @promoted source target_type seq user_id hsource hrisk =>
    have hmade : PromotedOnce
        (db.items.insert (promoted_new source target_type seq user_id call.now)) := by
      refine honce.insert hlineage fun id hid => ⟨source, hsource, Option.some.inj hid, ?_⟩
      intro htype hstatus
      rcases hmovable source hsource (hrisk htype) with hopen | hopen
      · exact absurd (hopen.symm.trans hstatus) (by decide)
      · exact absurd (hopen.symm.trans hstatus) (by decide)
    unfold promoted
    split_ifs
    · exact hmade.update fun _ => ⟨⟨rfl, rfl⟩, rfl⟩
    · exact hmade

/-! ## Settled items -/

theorem KeepsSettled.refl (item : RaidItem) : KeepsSettled item item := ⟨rfl, rfl, fun _ => rfl⟩

theorem KeepsSettled.trans {a b c : RaidItem} (hab : KeepsSettled a b) (hbc : KeepsSettled b c) :
    KeepsSettled a c where
  id := hbc.id.trans hab.id
  item_type := hbc.item_type.trans hab.item_type
  status ha := by
    have hb : Settled b := by
      unfold Settled at ha ⊢
      rwa [hab.item_type, hab.status ha]
    exact (hbc.status hb).trans (hab.status ha)

theorem not_settled_of_movable {risk : RaidItem}
    (h : risk.status = "open" ∨ risk.status = "mitigating") : ¬ Settled risk := by
  rintro (⟨-, hstatus⟩ | ⟨-, hstatus⟩)
  · rw [hstatus] at h
    exact absurd h (by decide)
  · rw [hstatus] at h
    exact absurd h (by decide)

theorem settled_of_writes (hmovable : PromotesMovable db call)
    (h : Writes db call db') : Table.Retains KeepsSettled db.items db'.items := by
  cases h with
  | created => exact Table.retains_insert KeepsSettled.refl _ _
  | @updated item data user_id hitem hallowed =>
    refine Table.retains_update_key KeepsSettled.refl hitem ⟨rfl, rfl, fun hsettled => ?_⟩
    exact hsettled.stays hallowed
  | deleted => exact Table.retains_update KeepsSettled.refl _ _ fun _ => ⟨rfl, rfl, fun _ => rfl⟩
  | @promoted source target_type seq user_id hsource hrisk =>
    have hmade := Table.retains_insert KeepsSettled.refl db.items
      (promoted_new source target_type seq user_id call.now)
    by_cases htype : source.item_type = .risk
    · rw [promoted, if_pos htype]
      have hmark : KeepsSettled source { source with status := "promoted" } := by
        refine ⟨rfl, rfl, fun hsettled => ?_⟩
        exact absurd hsettled (not_settled_of_movable (hmovable source hsource (hrisk htype)))
      refine hmade.trans (Table.retains_update_key KeepsSettled.refl ?_ hmark) ?_
      · exact Table.mem_insert.2 (Or.inl hsource)
      · exact fun _ _ _ => KeepsSettled.trans
    · rw [promoted, if_neg htype]
      exact hmade

/-! ## Runs -/

/-- What one request keeps. -/
structure Kept (db : Db) : Prop where
  lineage : Lineage db.items
  once : PromotedOnce db.items

theorem kept_step (call : Call) (h : Kept db) (hmovable : PromotesMovable db call) :
    Kept (step db call) := by
  refine commit_or_rollback_keeps h fun db' hok => ?_
  have hwrites := writes_of_handle hok
  exact ⟨lineage_of_writes h.lineage hwrites,
    promotedOnce_of_writes h.once h.lineage hmovable hwrites⟩

theorem settled_run {calls : List Call} (h : Along step PromotesMovable db calls) :
    Table.Retains KeepsSettled db.items (run step db calls).items := by
  refine run_rel_along (R := fun db db' : Db => Table.Retains KeepsSettled db.items db'.items)
    (fun db => Table.retains_refl KeepsSettled.refl db.items)
    (fun h₁ h₂ => h₁.trans h₂ fun _ _ _ => KeepsSettled.trans) (fun db call hmovable => ?_) h
  exact commit_or_rollback_keeps (P := fun db' : Db => Table.Retains KeepsSettled db.items db'.items)
    (Table.retains_refl KeepsSettled.refl db.items)
    fun _ hok => settled_of_writes hmovable (writes_of_handle hok)

theorem kept_opened (reference : Reference) : Kept (Db.opened reference) := by
  refine ⟨⟨?_, ?_⟩, ?_⟩
  · exact fun item hitem => absurd hitem (Table.not_mem_empty item)
  · exact fun item hitem => absurd hitem (Table.not_mem_empty item)
  · exact fun risk hrisk => absurd hrisk (Table.not_mem_empty risk)

/-- **Items keep to the table exactly as long as no risk is promoted that is neither open
nor mitigating.** -/
theorem movesAlongTable_iff (reference : Reference) (calls : List Call) :
    MovesAlongTable (Db.opened reference) calls ↔
      Along step PromotesMovable (Db.opened reference) calls := by
  have hrecorded : Always step Recorded (Db.opened reference) calls ↔
      Along step PromotesMovable (Db.opened reference) calls := by
    refine always_iff_along (fun _ _ (_ : True) => trivial)
      (fun db call _ h => recorded_step_iff call h) trivial ?_ calls
    exact fun row hrow => absurd hrow (Table.not_mem_empty row)
  constructor
  · exact fun h => hrecorded.1 h.recorded
  · intro h
    refine ⟨hrecorded.2 h, ?_, ?_⟩
    · refine (always_iff _ _ _).2 fun before after heq => ?_
      rw [heq, along_append] at h
      exact (run_inv_along (fun db call hkept hmovable => kept_step call hkept hmovable)
        (kept_opened reference) h.1).once
    · intro before between after heq
      rw [heq, along_append, along_append] at h
      rw [run_append]
      exact settled_run h.1.2

namespace Sample

def admin : CurrentUser := ⟨1, 1, Role.ADMIN, false⟩

def reference : Reference := ⟨[⟨1, 1, none⟩], [⟨1, 1⟩], []⟩

def risk : RaidItemCreate where
  item_type := .risk
  owner_id := none
  release_dependency_id := none
  columns
    | .title => .text "Vendor slips"
    | _ => .null

def close : RaidItemUpdate := ⟨fun _ => none, .value "closed", .omitted, .omitted⟩

/-- A risk is raised and closed. -/
def closing : List Call := [⟨admin, .create_raid 1 risk, 0⟩, ⟨admin, .update_raid 1 1 close, 1⟩]

/-- And promoted after that. -/
def promoting : List Call := [⟨admin, .promote_raid 1 1 .issue, 2⟩]

end Sample

/-- The promotion reopens, as promoted, what was closed. -/
theorem closed_risk_is_promoted :
    ¬ MovesAlongTable (Db.opened Sample.reference) (Sample.closing ++ Sample.promoting) := by
  intro h
  have hkept := h.settled Sample.closing Sample.promoting [] (List.append_nil _).symm
  have hclosed : ∃ item ∈ (run step (Db.opened Sample.reference) Sample.closing).items,
      item.id = 1 ∧ item.item_type = .risk ∧ item.status = "closed" := by
    decide +kernel
  have hpromoted : ∀ item ∈ (run step (Db.opened Sample.reference)
      (Sample.closing ++ Sample.promoting)).items, item.id = 1 → item.status = "promoted" := by
    decide +kernel
  obtain ⟨item, hitem, hid, htype, hstatus⟩ := hclosed
  obtain ⟨later, hlater, hkeeps⟩ := hkept item hitem
  have hstays := hkeeps.status (Or.inl ⟨Or.inl htype, hstatus⟩)
  rw [hpromoted later hlater (hkeeps.id.trans hid), hstatus] at hstays
  exact absurd hstays (by decide)

end EnvMgr.Raid

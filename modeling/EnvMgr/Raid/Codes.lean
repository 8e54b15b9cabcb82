/-
Reference codes of RAID items.

A code is the letter of the type and the number of the item among those of its release and type,
and `next_seq` counts deleted items too: the number of a deleted item is never given out again.
-/
import EnvMgr.Lib.Numbering
import EnvMgr.Raid.Transitions

namespace EnvMgr.Raid

open Runs (run)

variable {a b : RaidItem} {db : Db}

/-! ## Codes -/

theorem ref_code_inj (htype : a.item_type = b.item_type)
    (h : ref_code a = ref_code b) : a.seq = b.seq := by
  rw [ref_code, ref_code, htype, String.append_right_inj] at h
  rw [← ofDigitChars_zero_pad 3 a.seq, h, ofDigitChars_zero_pad]

/-- The items of one release and type are a series. -/
def ref_codes : Numbering RaidItem (ℕ × ℕ × ItemType) where
  series i := (i.tenant_id, i.release_id, i.item_type)
  number i := i.seq

/-! ## What a request does to the codes -/

/-- The release of an item is of its tenant. -/
def OfRelease (releases : List Release) (item : RaidItem) : Prop :=
  ∃ release ∈ releases, release.id = item.release_id ∧ release.tenant_id = item.tenant_id

/-- What no request changes of an item. -/
def SameCode (a b : RaidItem) : Prop :=
  b.id = a.id ∧ b.tenant_id = a.tenant_id ∧ b.release_id = a.release_id ∧
    b.item_type = a.item_type ∧ b.seq = a.seq

theorem SameCode.refl (item : RaidItem) : SameCode item item := ⟨rfl, rfl, rfl, rfl, rfl⟩

theorem SameCode.trans {c : RaidItem} (hab : SameCode a b) (hbc : SameCode b c) :
    SameCode a c :=
  ⟨hbc.1.trans hab.1, hbc.2.1.trans hab.2.1, hbc.2.2.1.trans hab.2.2.1,
    hbc.2.2.2.1.trans hab.2.2.2.1, hbc.2.2.2.2.trans hab.2.2.2.2⟩

theorem SameCode.keeps (h : SameCode a b) :
    Numbering.Keeps ref_codes (fun _ => true) a b where
  series := by
    obtain ⟨-, htenant, hrelease, htype, -⟩ := h
    simp only [ref_codes, htenant, hrelease, htype]
  number := h.2.2.2.2
  counts _ := rfl

/-- One statement on the items: an item with the next number of its series, or an update that
leaves the codes as they are. -/
inductive Entry (releases : List Release) (items : Table RaidItem RaidItem.id) :
    Table RaidItem RaidItem.id → Prop
  | made {new : Table.New RaidItem.id} (hrelease : OfRelease releases (new.row items.next))
      (hseq : ref_codes.number (new.row items.next) = ref_codes.next items fun i =>
        i.tenant_id = (new.row items.next).tenant_id ∧
          i.release_id = (new.row items.next).release_id ∧
            i.item_type = (new.row items.next).item_type) :
      Entry releases items (items.insert new)
  | changed {p : RaidItem → Bool} {f : Table.Edit RaidItem.id}
      (hf : ∀ i, SameCode i (f.apply i)) : Entry releases items (items.update p f)

abbrev Entries (releases : List Release) :
    Table RaidItem RaidItem.id → Table RaidItem RaidItem.id → Prop :=
  Relation.ReflTransGen (Entry releases)

theorem get_release_ok {releases : List Release} {release_id tenant_id : ℕ} {release : Release}
    (h : get_release releases release_id tenant_id = .ok release) :
    release ∈ releases ∧ release.id = release_id ∧ release.tenant_id = tenant_id := by
  rw [get_release, get_or_raise_eq_ok] at h
  have hmatch := List.find?_some h
  simp only [decide_eq_true_eq] at hmatch
  exact ⟨List.mem_of_find?_eq_some h, hmatch.1, hmatch.2.1⟩

theorem entries_promoted {source : RaidItem} {target_type : ItemType} {user_id : ℕ}
    {now : DateTime} (hrelease : OfRelease db.reference.releases source) :
    Entries db.reference.releases db.items (promoted db source target_type
      (next_seq db source.tenant_id source.release_id target_type) user_id now).items := by
  have hmade : Entry db.reference.releases db.items (db.items.insert (promoted_new source
      target_type (next_seq db source.tenant_id source.release_id target_type) user_id now)) :=
    Entry.made hrelease rfl
  unfold promoted
  split_ifs
  · refine (Relation.ReflTransGen.single hmade).tail (Entry.changed fun i => ?_)
    exact ⟨rfl, rfl, rfl, rfl, rfl⟩
  · exact Relation.ReflTransGen.single hmade

theorem entries_of_handle {db' : Db} {call : Call} (h : handle db call = .ok db') :
    db'.reference = db.reference ∧ Entries db.reference.releases db.items db'.items := by
  unfold handle at h
  simp only [bind_eq_ok] at h
  obtain ⟨⟨⟩, -, h⟩ := h
  cases hrequest : call.request with
  | create_raid release_id data =>
    simp only [hrequest, create_item, bind_eq_ok, Except.ok.injEq] at h
    obtain ⟨release, hrelease, _, -, _, -, rfl⟩ := h
    obtain ⟨hmem, hid, htenant⟩ := get_release_ok hrelease
    exact ⟨rfl, Relation.ReflTransGen.single (Entry.made ⟨release, hmem, hid, htenant⟩ rfl)⟩
  | update_raid release_id item_id data =>
    simp only [hrequest, update_item, bind_eq_ok, Except.ok.injEq] at h
    obtain ⟨_, -, item, -, _, -, _, -, _, -, rfl⟩ := h
    refine ⟨rfl, Relation.ReflTransGen.single (Entry.changed fun i => ?_)⟩
    exact ⟨rfl, rfl, rfl, rfl, rfl⟩
  | promote_raid release_id item_id target_type =>
    simp only [hrequest, bind_eq_ok, promote_item_ok, _get_item_ok] at h
    obtain ⟨release, hrelease, source, ⟨-, rfl, htenant, -⟩, hsource, -, rfl⟩ := h
    obtain ⟨hmem, hid, hof⟩ := get_release_ok hrelease
    rw [← htenant]
    refine ⟨?_, entries_promoted ⟨release, hmem, hid.trans hsource.symm, hof.trans htenant.symm⟩⟩
    unfold promoted
    split_ifs <;> rfl
  | delete_raid release_id item_id =>
    simp only [hrequest, delete_item, bind_eq_ok, Except.ok.injEq] at h
    obtain ⟨_, -, item, -, rfl⟩ := h
    refine ⟨rfl, Relation.ReflTransGen.single (Entry.changed fun i => ?_)⟩
    exact ⟨rfl, rfl, rfl, rfl, rfl⟩

/-! ## Codes are permanent -/

/-- What every statement keeps: the items are of releases of their tenants, and no two of a
series have one number, deleted items included. -/
structure Coded (releases : List Release) (items : Table RaidItem RaidItem.id) : Prop where
  release : ∀ item ∈ items, OfRelease releases item
  distinct : ref_codes.Distinct items fun _ => true

variable {releases : List Release} {items items' : Table RaidItem RaidItem.id}

theorem Coded.entry (h : Coded releases items) (he : Entry releases items items') :
    Coded releases items' ∧ Table.Retains SameCode items items' := by
  cases he with
  | made hrelease hseq =>
    refine ⟨⟨(Table.forall_insert_iff h.release).2 hrelease, h.distinct.insert ?_ hseq⟩,
      Table.retains_insert SameCode.refl _ _⟩
    intro i _ _ hseries
    simpa [ref_codes] using hseries
  | @changed p f hf =>
    refine ⟨⟨?_, h.distinct.update fun i => (hf i).keeps⟩,
      Table.retains_update SameCode.refl _ _ hf⟩
    intro i hi
    rcases Table.mem_update_cases hi with ⟨old, hold, -, rfl⟩ | ⟨hold, -⟩
    · obtain ⟨-, htenant, hrelease, -⟩ := hf old
      rw [OfRelease, htenant, hrelease]
      exact h.release old hold
    · exact h.release i hold

theorem Coded.entries (h : Coded releases items) (he : Entries releases items items') :
    Coded releases items' ∧ Table.Retains SameCode items items' := by
  induction he with
  | refl => exact ⟨h, Table.retains_refl SameCode.refl _⟩
  | tail _ hlast ih =>
    obtain ⟨hcoded, hretains⟩ := ih.1.entry hlast
    exact ⟨hcoded, ih.2.trans hretains fun _ _ _ => SameCode.trans⟩

/-- The codes of `db` are those of `db'` still, and `db'` has codes of its own. -/
structure KeepsCodes (db db' : Db) : Prop where
  coded : Coded db'.reference.releases db'.items
  reference : db'.reference = db.reference
  retains : Table.Retains SameCode db.items db'.items

theorem KeepsCodes.refl (h : Coded db.reference.releases db.items) : KeepsCodes db db :=
  ⟨h, rfl, Table.retains_refl SameCode.refl _⟩

theorem keepsCodes_step (call : Call) (h : Coded db.reference.releases db.items) :
    KeepsCodes db (step db call) := by
  refine commit_or_rollback_keeps (KeepsCodes.refl h) fun db' hok => ?_
  obtain ⟨href, hentries⟩ := entries_of_handle hok
  obtain ⟨hcoded, hretains⟩ := h.entries hentries
  rw [← href] at hcoded
  exact ⟨hcoded, href, hretains⟩

theorem keepsCodes_run (calls : List Call) (h : Coded db.reference.releases db.items) :
    KeepsCodes db (run step db calls) := by
  induction calls generalizing db with
  | nil => exact KeepsCodes.refl h
  | cons call calls ih =>
    have hstep : KeepsCodes db (step db call) := keepsCodes_step call h
    have hrun := ih hstep.coded
    exact ⟨hrun.coded, hrun.reference.trans hstep.reference,
      hstep.retains.trans hrun.retains fun _ _ _ => SameCode.trans⟩

theorem coded_opened (reference : Reference) :
    Coded (Db.opened reference).reference.releases (Db.opened reference).items :=
  ⟨fun i hi => absurd hi (Table.not_mem_empty i), Numbering.distinct_empty⟩

/-- **A code names one item for good.** Whatever is done between two moments, two items of one
release and type that carry the same code are the same item. -/
theorem ref_code_names_one {releases : Table Release Release.id} {users : List User}
    {dependencies : List ReleaseDependency} {calls later : List Call}
    (ha : a ∈ (run step (Db.opened ⟨releases.rows, users, dependencies⟩) calls).items)
    (hb : b ∈ (run step (Db.opened ⟨releases.rows, users, dependencies⟩) (calls ++ later)).items)
    (hrelease : a.release_id = b.release_id) (htype : a.item_type = b.item_type)
    (hcode : ref_code a = ref_code b) : a.id = b.id := by
  have hkept := keepsCodes_run calls (coded_opened ⟨releases.rows, users, dependencies⟩)
  rw [Runs.run_append] at hb
  have hlater := keepsCodes_run later hkept.coded
  obtain ⟨a', ha', hid, htenant, hrelease', htype', hseq⟩ := hlater.retains a ha
  -- the release is of one tenant, so the two items are of one tenant too
  have hof : ∀ item ∈ (run step (run step (Db.opened ⟨releases.rows, users, dependencies⟩) calls)
      later).items, OfRelease releases.rows item := by
    intro item hitem
    have hrel := hlater.coded.release item hitem
    rwa [hlater.reference, hkept.reference] at hrel
  obtain ⟨release, hmem, hid₁, htenant₁⟩ := hof a' ha'
  obtain ⟨release', hmem', hid₂, htenant₂⟩ := hof b hb
  have hsame : release = release' := by
    refine Table.eq_of_key_eq hmem hmem' ?_
    rw [hid₁, hid₂, hrelease', hrelease]
  have hsource : a'.tenant_id = b.tenant_id := by rw [← htenant₁, ← htenant₂, hsame]
  have heq : a' = b := by
    refine hlater.coded.distinct a' ha' b hb ⟨rfl, rfl, ?_, ?_⟩
    · simp only [ref_codes, hsource, hrelease', hrelease, htype', htype]
    · exact hseq.trans (ref_code_inj htype hcode)
  rw [← hid, heq]

end EnvMgr.Raid

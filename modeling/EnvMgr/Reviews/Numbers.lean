/-
Reference numbers, of RAID items and of what a review found.

`_next_seq` and `_next_action_seq` look at live rows only, where `raid_service.next_seq` looks at
all: a deleted finding or action gives its number up. Live rows never share a number. A number
comes to mean another row exactly if a row is made in a series whose highest number only deleted
rows have.
-/
import EnvMgr.Raid.Codes
import EnvMgr.Reviews.Writes

namespace EnvMgr.Reviews

open Runs (run Along Always always_iff_along)

variable {pir : PIR} {user_id tenant_id release_id : ℕ} {db₁ : Db}

/-! ## The series -/

/-- The findings of one review and kind are a series. -/
def finding_numbers : Numbering PirFinding (ℕ × FindingKind) where
  series f := (f.pir_id, f.kind)
  number f := f.seq

/-- The actions of one finding are a series. -/
def action_numbers : Numbering PirAction ℕ where
  series a := a.finding_id
  number a := a.seq

def PirFinding.live (finding : PirFinding) : Bool := finding.deleted_at = none

def PirAction.live (action : PirAction) : Bool := action.deleted_at = none

/-- No two rows of a series have one number, deleted rows included. -/
structure AllDistinct (db : Db) : Prop where
  findings : finding_numbers.Distinct db.findings fun _ => true
  actions : action_numbers.Distinct db.actions fun _ => true

/-- The request makes a row in a series whose highest number was given up. -/
def TakesFreed (db : Db) (call : Call) : Prop :=
  match call.request with
  | .create_finding release_id data =>
    ∃ pir, get_for_release db call.current_user.active_tenant_id release_id = some pir ∧
      finding_numbers.Freed db.findings PirFinding.live (pir.id, data.kind)
  | .create_action _ finding_id _ => action_numbers.Freed db.actions PirAction.live finding_id
  | .cite_on_pir _ release_id (.new_finding _) _ =>
    ∃ pir, get_for_release db call.current_user.active_tenant_id release_id = some pir ∧
      finding_numbers.Freed db.findings PirFinding.live (pir.id, .went_wrong)
  | _ => False

/-- The request is answered. -/
def Accepted (db : Db) (call : Call) : Prop := ∃ db', handle db call = .ok db'

/-! ## What every write keeps -/

/-- The numbers of the rows, and that each row hangs off one that is there. -/
structure Numbered (db : Db) : Prop where
  findings : finding_numbers.Distinct db.findings PirFinding.live
  actions : action_numbers.Distinct db.actions PirAction.live
  findings_gapless : finding_numbers.Gapless db.findings
  actions_gapless : action_numbers.Gapless db.actions
  review : ∀ finding ∈ db.findings, finding.pir_id < db.pirs.next
  finding : ∀ action ∈ db.actions, action.finding_id < db.findings.next

theorem numbered_opened (reference : Reference) : Numbered (Db.opened reference) where
  findings := Numbering.distinct_empty
  actions := Numbering.distinct_empty
  findings_gapless := Numbering.gapless_empty
  actions_gapless := Numbering.gapless_empty
  review f hf := absurd hf (Table.not_mem_empty f)
  finding a ha := absurd ha (Table.not_mem_empty a)

/-- What no request changes of a finding, and that none is brought back. -/
def SameFinding (a b : PirFinding) : Prop :=
  b.id = a.id ∧ b.pir_id = a.pir_id ∧ b.kind = a.kind ∧ b.seq = a.seq ∧
    (b.deleted_at = none → a.deleted_at = none)

def SameAction (a b : PirAction) : Prop :=
  b.id = a.id ∧ b.finding_id = a.finding_id ∧ b.seq = a.seq ∧
    (b.deleted_at = none → a.deleted_at = none)

theorem SameFinding.refl (f : PirFinding) : SameFinding f f := ⟨rfl, rfl, rfl, rfl, id⟩

theorem SameAction.refl (a : PirAction) : SameAction a a := ⟨rfl, rfl, rfl, id⟩

theorem SameFinding.trans {a b c : PirFinding} (hab : SameFinding a b) (hbc : SameFinding b c) :
    SameFinding a c :=
  ⟨hbc.1.trans hab.1, hbc.2.1.trans hab.2.1, hbc.2.2.1.trans hab.2.2.1,
    hbc.2.2.2.1.trans hab.2.2.2.1, fun h => hab.2.2.2.2 (hbc.2.2.2.2 h)⟩

theorem SameAction.trans {a b c : PirAction} (hab : SameAction a b) (hbc : SameAction b c) :
    SameAction a c :=
  ⟨hbc.1.trans hab.1, hbc.2.1.trans hab.2.1, hbc.2.2.1.trans hab.2.2.1,
    fun h => hab.2.2.2 (hbc.2.2.2 h)⟩

theorem SameFinding.keeps {counts : PirFinding → Bool} {a b : PirFinding} (h : SameFinding a b)
    (hcounts : counts b = true → counts a = true) :
    Numbering.Keeps finding_numbers counts a b where
  series := by simp only [finding_numbers, h.2.1, h.2.2.1]
  number := h.2.2.2.1
  counts := hcounts

theorem SameFinding.live {a b : PirFinding} (h : SameFinding a b) (hb : b.live = true) :
    a.live = true := by
  rw [PirFinding.live, decide_eq_true_eq] at hb ⊢
  exact h.2.2.2.2 hb

theorem SameAction.keeps {counts : PirAction → Bool} {a b : PirAction} (h : SameAction a b)
    (hcounts : counts b = true → counts a = true) :
    Numbering.Keeps action_numbers counts a b where
  series := h.2.1
  number := h.2.2.1
  counts := hcounts

theorem SameAction.live {a b : PirAction} (h : SameAction a b) (hb : b.live = true) :
    a.live = true := by
  rw [PirAction.live, decide_eq_true_eq] at hb ⊢
  exact h.2.2.2 hb

variable {db db' : Db} {call : Call}

/-- A write that gives out no number updates the findings and the actions, or leaves them, and
makes reviews at most. -/
structure Updated (db db' : Db) : Prop where
  pirs : db.pirs.next ≤ db'.pirs.next
  findings : db'.findings = db.findings ∨ ∃ p f, (∀ r, SameFinding r (f.apply r)) ∧
    db'.findings = db.findings.update p f
  actions : db'.actions = db.actions ∨ ∃ p f, (∀ r, SameAction r (f.apply r)) ∧
    db'.actions = db.actions.update p f

theorem updated_of_quiet (h : Quiet call db db') : Updated db db' := by
  cases h with
  | review_made => exact ⟨Nat.le_succ _, Or.inl rfl, Or.inl rfl⟩
  | review_changed => exact ⟨le_refl _, Or.inl rfl, Or.inl rfl⟩
  | review_deleted => exact ⟨le_refl _, Or.inl rfl, Or.inl rfl⟩
  | finding_changed =>
    exact ⟨le_refl _, Or.inr ⟨_, _, fun _ => ⟨rfl, rfl, rfl, rfl, id⟩, rfl⟩, Or.inl rfl⟩
  | finding_deleted =>
    exact ⟨le_refl _, Or.inr ⟨_, _, fun _ => ⟨rfl, rfl, rfl, rfl,
      fun hlive => absurd hlive (Option.some_ne_none _)⟩, rfl⟩, Or.inl rfl⟩
  | action_changed =>
    exact ⟨le_refl _, Or.inl rfl, Or.inr ⟨_, _, fun _ => ⟨rfl, rfl, rfl, id⟩, rfl⟩⟩
  | action_deleted =>
    exact ⟨le_refl _, Or.inl rfl, Or.inr ⟨_, _, fun _ => ⟨rfl, rfl, rfl,
      fun hlive => absurd hlive (Option.some_ne_none _)⟩, rfl⟩⟩
  | cited => exact ⟨le_refl _, Or.inl rfl, Or.inl rfl⟩

theorem AllDistinct.updated (h : AllDistinct db) (hupdated : Updated db db') : AllDistinct db' := by
  refine ⟨?_, ?_⟩
  · rcases hupdated.findings with hsame | ⟨p, f, hf, hsame⟩
    · rw [hsame]
      exact h.findings
    · rw [hsame]
      exact h.findings.update fun r => (hf r).keeps fun _ => rfl
  · rcases hupdated.actions with hsame | ⟨p, f, hf, hsame⟩
    · rw [hsame]
      exact h.actions
    · rw [hsame]
      exact h.actions.update fun r => (hf r).keeps fun _ => rfl

theorem Numbered.updated (h : Numbered db) (hupdated : Updated db db') : Numbered db' := by
  have hfindings : finding_numbers.Distinct db'.findings PirFinding.live ∧
      finding_numbers.Gapless db'.findings ∧ db'.findings.next = db.findings.next ∧
        ∀ finding ∈ db'.findings, finding.pir_id < db.pirs.next := by
    rcases hupdated.findings with hsame | ⟨p, f, hf, hsame⟩
    · rw [hsame]
      exact ⟨h.findings, h.findings_gapless, rfl, h.review⟩
    · rw [hsame]
      have hkeeps : ∀ r, Numbering.Keeps finding_numbers PirFinding.live r (f.apply r) :=
        fun r => (hf r).keeps (hf r).live
      refine ⟨h.findings.update hkeeps, h.findings_gapless.update hkeeps, rfl, ?_⟩
      refine (Table.forall_update_iff h.review).2 fun r hr _ => ?_
      rw [(hf r).2.1]
      exact h.review r hr
  have hactions : action_numbers.Distinct db'.actions PirAction.live ∧
      action_numbers.Gapless db'.actions ∧
        ∀ action ∈ db'.actions, action.finding_id < db.findings.next := by
    rcases hupdated.actions with hsame | ⟨p, f, hf, hsame⟩
    · rw [hsame]
      exact ⟨h.actions, h.actions_gapless, h.finding⟩
    · rw [hsame]
      have hkeeps : ∀ r, Numbering.Keeps action_numbers PirAction.live r (f.apply r) :=
        fun r => (hf r).keeps (hf r).live
      refine ⟨h.actions.update hkeeps, h.actions_gapless.update hkeeps, ?_⟩
      refine (Table.forall_update_iff h.finding).2 fun r hr _ => ?_
      rw [(hf r).2.1]
      exact h.finding r hr
  obtain ⟨hdistinct, hgapless, hnext, hreview⟩ := hfindings
  exact ⟨hdistinct, hactions.1, hgapless, hactions.2.1,
    fun finding hfinding => (hreview finding hfinding).trans_le hupdated.pirs,
    fun action haction => hnext ▸ hactions.2.2 action haction⟩

/-! ## Rows that are made -/

/-- `_next_seq` looks at the live rows of the series of the new row. -/
theorem next_seq_selects (pir : PIR) (data : PirFindingCreate) (user_id : ℕ) (r : PirFinding) :
    decide (r.pir_id = pir.id ∧ r.kind = data.kind ∧ r.deleted_at = none) = true ↔
      finding_numbers.series r =
          finding_numbers.series ((new_finding db pir data user_id).row db.findings.next) ∧
        r.live = true := by
  simp [finding_numbers, new_finding, PirFindingCreate.row, PirFinding.live, and_assoc]

theorem next_action_seq_selects (finding : PirFinding) (data : PirActionCreate) (user_id : ℕ)
    (now : DateTime) (r : PirAction) :
    decide (r.finding_id = finding.id ∧ r.deleted_at = none) = true ↔
      action_numbers.series r =
          action_numbers.series ((new_action db finding data user_id now).row db.actions.next) ∧
        r.live = true := by
  simp [action_numbers, new_action, PirActionCreate.row, PirAction.live]

theorem Numbered.finding_made (h : Numbered db) (hpir : pir ∈ db.pirs) (data : PirFindingCreate)
    (user_id : ℕ) :
    Numbered { db with findings := db.findings.insert (new_finding db pir data user_id) } where
  findings := h.findings.insert
    (fun r _ hlive hseries => (next_seq_selects pir data user_id r).2 ⟨hseries, hlive⟩) rfl
  actions := h.actions
  findings_gapless := h.findings_gapless.insert
    (fun r _ hp => ((next_seq_selects pir data user_id r).1 hp).1) rfl
  actions_gapless := h.actions_gapless
  review := (Table.forall_insert_iff h.review).2 (Table.key_lt_next hpir)
  finding action haction := (h.finding action haction).trans (Nat.lt_succ_self _)

theorem Numbered.action_made (h : Numbered db) {finding : PirFinding}
    (hfinding : finding ∈ db.findings) (data : PirActionCreate) (user_id : ℕ) (now : DateTime) :
    Numbered { db with actions := db.actions.insert (new_action db finding data user_id now) } where
  findings := h.findings
  actions := h.actions.insert
    (fun r _ hlive hseries => (next_action_seq_selects finding data user_id now r).2
      ⟨hseries, hlive⟩) rfl
  findings_gapless := h.findings_gapless
  actions_gapless := h.actions_gapless.insert
    (fun r _ hp => ((next_action_seq_selects finding data user_id now r).1 hp).1) rfl
  review := h.review
  finding := (Table.forall_insert_iff h.finding).2 (Table.key_lt_next hfinding)

theorem Numbered.write (hwrite : Write call db db') (h : Numbered db) : Numbered db' := by
  cases hwrite with
  | quiet hquiet => exact h.updated (updated_of_quiet hquiet)
  | finding_made hpir => exact h.finding_made hpir _ _
  | action_made hfinding => exact h.action_made hfinding _ _ _

/-- A finding takes a number a second time exactly if the number was given up. -/
theorem allDistinct_finding_iff (h : Numbered db) (hall : AllDistinct db) (pir : PIR)
    (data : PirFindingCreate) (user_id : ℕ) :
    finding_numbers.Distinct (db.findings.insert (new_finding db pir data user_id))
        (fun _ => true) ↔
      ¬ finding_numbers.Freed db.findings PirFinding.live (pir.id, data.kind) :=
  Numbering.distinct_all_insert_iff h.findings_gapless hall.findings
    (fun r _ => next_seq_selects pir data user_id r) rfl

theorem allDistinct_action_iff (h : Numbered db) (hall : AllDistinct db) (finding : PirFinding)
    (data : PirActionCreate) (user_id : ℕ) (now : DateTime) :
    action_numbers.Distinct (db.actions.insert (new_action db finding data user_id now))
        (fun _ => true) ↔
      ¬ action_numbers.Freed db.actions PirAction.live finding.id :=
  Numbering.distinct_all_insert_iff h.actions_gapless hall.actions
    (fun r _ => next_action_seq_selects finding data user_id now r) rfl

/-! ## Requests -/

/-- The actions of a finding that has only live ones. -/
def OnlyLive (finding_id : ℕ) (db : Db) : Prop :=
  ∀ action ∈ db.actions, action.finding_id = finding_id → action.live = true

theorem not_freed_of_onlyLive {finding_id : ℕ} (h : OnlyLive finding_id db) :
    ¬ action_numbers.Freed db.actions PirAction.live finding_id := by
  rintro ⟨r, hr, hseries, htop⟩
  exact lt_irrefl _ (htop r hr hseries (h r hr hseries))

/-- The actions of a new finding are the first of their series. -/
theorem allDistinct_create_actions {finding : PirFinding} {now : DateTime}
    {actions : List PirActionCreate} (h : Numbered db) (hfinding : finding ∈ db.findings)
    (hnone : ∀ action ∈ db.actions, action.finding_id ≠ finding.id)
    (hall : action_numbers.Distinct db.actions fun _ => true)
    (hok : create_actions db finding.tenant_id finding actions user_id now = .ok db') :
    db'.findings = db.findings ∧ action_numbers.Distinct db'.actions fun _ => true := by
  have hinv := create_actions_inv (P := fun s => (Numbered s ∧ OnlyLive finding.id s) ∧
      s.findings = db.findings ∧ action_numbers.Distinct s.actions fun _ => true) ?_
      ⟨⟨h, fun a ha hid => absurd hid (hnone a ha)⟩, rfl, hall⟩ hok
  · exact hinv.2
  · rintro s data ⟨⟨hnumbered, honly⟩, hsame, hdistinct⟩
    refine ⟨⟨hnumbered.action_made (hsame ▸ hfinding) data user_id now, ?_⟩, hsame, ?_⟩
    · intro action haction hid
      rcases Table.mem_insert.1 haction with hold | rfl
      · exact honly action hold hid
      · rfl
    · exact (Numbering.distinct_all_insert_iff hnumbered.actions_gapless hdistinct
        (fun r _ => next_action_seq_selects finding data user_id now r) rfl).2
          (not_freed_of_onlyLive honly)

/-- The review that is cited has given up the number, and not one that is made for it: that has
no findings yet. -/
theorem freed_for_citation_iff {kind : FindingKind} (h : Numbered db)
    (hpir : pir_for_citation db tenant_id release_id user_id call.now = .ok (db₁, pir)) :
    (∃ found, get_for_release db tenant_id release_id = some found ∧
        finding_numbers.Freed db.findings PirFinding.live (found.id, kind)) ↔
      finding_numbers.Freed db₁.findings PirFinding.live (pir.id, kind) := by
  obtain ⟨-, -, ⟨hsome, rfl⟩ | ⟨hnone, hid, -, pirs, rfl⟩⟩ := pir_for_citation_ok hpir
  · simp [hsome]
  · refine iff_of_false ?_ ?_
    · rintro ⟨found, hfound, -⟩
      rw [hnone] at hfound
      cases hfound
    · rintro ⟨f, hf, hseries, -⟩
      have hpir_id : f.pir_id = pir.id := congrArg Prod.fst hseries
      have hlt := h.review f hf
      rw [hpir_id, hid] at hlt
      exact lt_irrefl _ hlt

/-- A finding that is made to be cited, and its actions. -/
theorem allDistinct_cite_iff {incident_id : ℕ} {data : IncidentPirNewFinding} {note : Option String}
    (h : Numbered db) (hall : AllDistinct db)
    (hok : cite_on_pir db tenant_id incident_id release_id (.new_finding data) note user_id
      call.now = .ok db') :
    AllDistinct db' ↔ ¬ ∃ found, get_for_release db tenant_id release_id = some found ∧
      finding_numbers.Freed db.findings PirFinding.live (found.id, .went_wrong) := by
  obtain ⟨db₁, pir, hpir, new, rfl, db₂, hactions, citations, rfl⟩ := cite_new_ok hok
  obtain ⟨hmem, -, hmade⟩ := pir_for_citation_ok hpir
  have hupdated : Updated db db₁ := by
    rcases hmade with ⟨-, rfl⟩ | ⟨-, -, hquiet, -⟩
    · exact ⟨le_refl _, Or.inl rfl, Or.inl rfl⟩
    · exact updated_of_quiet hquiet
  have hn₁ : Numbered db₁ := h.updated hupdated
  have hall₁ : AllDistinct db₁ := hall.updated hupdated
  obtain ⟨hfindings, hdistinct⟩ := allDistinct_create_actions
    (hn₁.finding_made hmem _ _) (Table.mem_insert.2 (Or.inr rfl))
    (fun action haction hid => absurd (hn₁.finding action haction) (hid ▸ lt_irrefl _))
    hall₁.actions hactions
  rw [freed_for_citation_iff h hpir, ← allDistinct_finding_iff hn₁ hall₁ pir
    ⟨.went_wrong, data.title, data.detail, data.root_cause⟩ user_id]
  -- the actions of the new finding are the first of their series
  constructor
  · intro hnew
    have hnew' := hnew.findings
    rwa [hfindings] at hnew'
  · intro hnew
    refine ⟨?_, hdistinct⟩
    rw [hfindings]
    exact hnew

theorem takesFreed_numbers (h : TakesFreed db call) : call.request.numbers = true := by
  unfold TakesFreed at h
  cases hrequest : call.request with
  | create_finding => rfl
  | create_action => rfl
  | cite_on_pir incident_id release_id cited note =>
    cases cited with
    | finding_id => simp [hrequest] at h
    | new_finding => rfl
  | _ => simp [hrequest] at h

/-- **A request and the numbers.** -/
theorem allDistinct_handle_iff (h : Numbered db) (hall : AllDistinct db)
    (hok : handle db call = .ok db') : AllDistinct db' ↔ ¬ TakesFreed db call := by
  by_cases hnumbers : call.request.numbers = false
  · refine iff_of_true (hall.updated (updated_of_quiet (quiet_of_handle hok hnumbers))) ?_
    intro hfreed
    rw [takesFreed_numbers hfreed] at hnumbers
    cases hnumbers
  rw [Bool.not_eq_false] at hnumbers
  cases hrequest : call.request with
  | create_finding release_id data =>
    obtain ⟨pir, hpir, -, rfl⟩ := create_finding_of_handle hrequest hok
    have hfreed : TakesFreed db call ↔
        finding_numbers.Freed db.findings PirFinding.live (pir.id, data.kind) := by
      simp [TakesFreed, hrequest, hpir]
    rw [hfreed, ← allDistinct_finding_iff h hall pir data call.current_user.id]
    exact ⟨fun hnew => hnew.findings, fun hnew => ⟨hnew, hall.actions⟩⟩
  | create_action release_id finding_id data =>
    obtain ⟨finding, -, rfl, rfl⟩ := create_action_of_handle hrequest hok
    have hfreed : TakesFreed db call ↔
        action_numbers.Freed db.actions PirAction.live finding.id := by
      simp only [TakesFreed, hrequest]
    rw [hfreed, ← allDistinct_action_iff h hall finding data call.current_user.id call.now]
    exact ⟨fun hnew => hnew.actions, fun hnew => ⟨hall.findings, hnew⟩⟩
  | cite_on_pir incident_id release_id cited note =>
    cases cited with
    | finding_id finding_id =>
      rw [hrequest] at hnumbers
      cases hnumbers
    | new_finding data =>
      have hcited := cite_new_of_handle hrequest hok
      simp only [TakesFreed, hrequest]
      exact allDistinct_cite_iff h hall hcited
  | _ =>
    rw [hrequest] at hnumbers
    cases hnumbers

/-! ## Runs -/

theorem numbered_step (db : Db) (call : Call) (h : Numbered db) : Numbered (step db call) :=
  step_keeps (fun _ _ hwrite hs => hs.write hwrite) h

theorem numbered_run (reference : Reference) (calls : List Call) :
    Numbered (run step (Db.opened reference) calls) :=
  Runs.run_inv numbered_step (numbered_opened reference) calls

/-- A row that is there stays there, under its number. -/
structure KeepsNumbers (db db' : Db) : Prop where
  findings : Table.Retains SameFinding db.findings db'.findings
  actions : Table.Retains SameAction db.actions db'.actions

theorem KeepsNumbers.refl (db : Db) : KeepsNumbers db db :=
  ⟨Table.retains_refl SameFinding.refl _, Table.retains_refl SameAction.refl _⟩

theorem KeepsNumbers.trans {db₂ db₃ : Db} (h : KeepsNumbers db₁ db₂) (h' : KeepsNumbers db₂ db₃) :
    KeepsNumbers db₁ db₃ :=
  ⟨h.findings.trans h'.findings fun _ _ _ => SameFinding.trans,
    h.actions.trans h'.actions fun _ _ _ => SameAction.trans⟩

theorem keepsNumbers_write (h : Write call db db') : KeepsNumbers db db' := by
  cases h with
  | quiet hquiet =>
    have hupdated := updated_of_quiet hquiet
    refine ⟨?_, ?_⟩
    · rcases hupdated.findings with hsame | ⟨p, f, hf, hsame⟩
      · rw [hsame]
        exact Table.retains_refl SameFinding.refl _
      · rw [hsame]
        exact Table.retains_update SameFinding.refl _ _ hf
    · rcases hupdated.actions with hsame | ⟨p, f, hf, hsame⟩
      · rw [hsame]
        exact Table.retains_refl SameAction.refl _
      · rw [hsame]
        exact Table.retains_update SameAction.refl _ _ hf
  | finding_made =>
    exact ⟨Table.retains_insert SameFinding.refl _ _, Table.retains_refl SameAction.refl _⟩
  | action_made =>
    exact ⟨Table.retains_refl SameFinding.refl _, Table.retains_insert SameAction.refl _ _⟩

theorem keepsNumbers_run (db : Db) (calls : List Call) : KeepsNumbers db (run step db calls) :=
  run_keeps (P := KeepsNumbers db)
    (fun _ _ _ hwrite hs => hs.trans (keepsNumbers_write hwrite)) (KeepsNumbers.refl db) calls

/-- **When the numbers are permanent.** -/
theorem allDistinct_iff (reference : Reference) (calls : List Call) :
    Always step AllDistinct (Db.opened reference) calls ↔
      Along step (fun db call => Accepted db call → ¬ TakesFreed db call) (Db.opened reference)
        calls := by
  refine always_iff_along numbered_step (fun db call hn hall => ?_) (numbered_opened reference)
    ⟨Numbering.distinct_empty, Numbering.distinct_empty⟩ calls
  exact commit_or_rollback_iff hall fun db' hok => allDistinct_handle_iff hn hall hok

/-! ## Reference numbers -/

/-- **Reference numbers.** A code of a RAID item names one item for good. Live findings of one
review and kind, and live actions of one finding, never share a number, and every row keeps its
number; that no two of them share one, deleted rows included, holds in every state of a run exactly
if no row is made in it where the highest number of the series was given up. -/
theorem reference_numbers (releases : Table Release Release.id) (users : List Raid.User)
    (dependencies : List Raid.ReleaseDependency) (raid_calls raid_later : List Raid.Call)
    (reference : Reference) (calls later : List Call) :
    (∀ a ∈ (run Raid.step (Raid.Db.opened ⟨releases.rows, users, dependencies⟩) raid_calls).items,
      ∀ b ∈ (run Raid.step (Raid.Db.opened ⟨releases.rows, users, dependencies⟩)
          (raid_calls ++ raid_later)).items,
        a.release_id = b.release_id → a.item_type = b.item_type →
          Raid.ref_code a = Raid.ref_code b → a.id = b.id) ∧
    (∀ a ∈ (run step (Db.opened reference) calls).findings,
      ∀ b ∈ (run step (Db.opened reference) calls).findings,
        a.deleted_at = none → b.deleted_at = none → a.pir_id = b.pir_id → a.kind = b.kind →
          a.seq = b.seq → a = b) ∧
    (∀ a ∈ (run step (Db.opened reference) calls).actions,
      ∀ b ∈ (run step (Db.opened reference) calls).actions,
        a.deleted_at = none → b.deleted_at = none → a.finding_id = b.finding_id →
          a.seq = b.seq → a = b) ∧
    KeepsNumbers (run step (Db.opened reference) calls)
      (run step (Db.opened reference) (calls ++ later)) ∧
    (Always step AllDistinct (Db.opened reference) calls ↔
      Along step (fun db call => Accepted db call → ¬ TakesFreed db call) (Db.opened reference)
        calls) := by
  have hnumbered := numbered_run reference calls
  refine ⟨?_, ?_, ?_, ?_, allDistinct_iff reference calls⟩
  · intro a ha b hb hrelease htype hcode
    exact Raid.ref_code_names_one ha hb hrelease htype hcode
  · intro a ha b hb hlive hlive' hpir hkind hseq
    refine hnumbered.findings a ha b hb ⟨decide_eq_true hlive, decide_eq_true hlive', ?_, hseq⟩
    simp only [finding_numbers, hpir, hkind]
  · intro a ha b hb hlive hlive' hfinding hseq
    exact hnumbered.actions a ha b hb
      ⟨decide_eq_true hlive, decide_eq_true hlive', hfinding, hseq⟩
  · rw [Runs.run_append]
    exact keepsNumbers_run _ later

namespace GivenUp

def admin : CurrentUser := ⟨1, 1, Role.ADMIN, false⟩

def reference : Reference :=
  ⟨Table.empty.insert ⟨fun id => ⟨id, 1, none⟩, fun _ => rfl⟩, Table.empty, Table.empty⟩

def finding (title : Title) : PirFindingCreate := ⟨.went_wrong, title, none, none⟩

/-- A finding is raised on the review of a release, withdrawn, and another one is raised. -/
def calls : List Call :=
  [⟨admin, .create_pir 1 PIRCreate.default, 0⟩,
   ⟨admin, .create_finding 1 (finding ⟨"No smoke test", by decide⟩), 1⟩,
   ⟨admin, .delete_finding 1 1, 2⟩,
   ⟨admin, .create_finding 1 (finding ⟨"No rollback plan", by decide⟩), 3⟩]

end GivenUp

/-- Both findings are number 1 of the review. -/
theorem deleted_finding_gives_number_up :
    ∃ a ∈ (run step (Db.opened GivenUp.reference) GivenUp.calls).findings,
      ∃ b ∈ (run step (Db.opened GivenUp.reference) GivenUp.calls).findings,
        a.pir_id = b.pir_id ∧ a.kind = b.kind ∧ a.seq = b.seq ∧ a.id ≠ b.id := by
  decide +kernel

end EnvMgr.Reviews

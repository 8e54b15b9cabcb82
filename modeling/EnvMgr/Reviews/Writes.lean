/-
What a request about a review writes.

Every request but the three that give out numbers makes one write; the citing route makes a
review, a finding and its actions one after another. An invariant of the tables is proved against
one write, and `writes_of_handle` carries it to the request.
-/
import EnvMgr.Lib.Runs
import EnvMgr.Reviews.Service

namespace EnvMgr.Reviews

open Runs (run)

variable {db db' : Db} {pir : PIR} {finding : PirFinding} {call : Call}
variable {user_id tenant_id finding_id release_id incident_id : ℕ} {note : Option String}
  {P : Db → Prop}

/-! ## Look-ups -/

theorem get_for_release_some (h : get_for_release db tenant_id release_id = some pir) :
    pir ∈ db.pirs ∧ pir.release_id = release_id ∧ pir.tenant_id = tenant_id ∧
      pir.deleted_at = none := by
  obtain ⟨hpir, hmatch⟩ := Table.select_one_some h
  exact ⟨hpir, by simpa using hmatch⟩

theorem get_finding_ok :
    get_finding db tenant_id finding_id = .ok finding ↔
      finding ∈ db.findings ∧ finding.id = finding_id ∧ finding.tenant_id = tenant_id ∧
        finding.deleted_at = none := by
  rw [get_finding, get_or_raise_eq_ok]
  exact Table.select_one_key_iff fun _ hmatch => hmatch.1

theorem get_finding_in_pir_ok :
    get_finding_in_pir db tenant_id pir finding_id = .ok finding ↔
      get_finding db tenant_id finding_id = .ok finding ∧ finding.pir_id = pir.id := by
  simp only [get_finding_in_pir, bind_eq_ok, raise_if_eq_ok, not_not, exists_const, Except.ok.injEq]
  constructor
  · rintro ⟨found, hfound, hpir, rfl⟩
    exact ⟨hfound, hpir⟩
  · rintro ⟨hfound, hpir⟩
    exact ⟨finding, hfound, hpir, rfl⟩

theorem finding_of_route_ok
    (h : finding_of_route db tenant_id release_id finding_id = .ok finding) :
    finding ∈ db.findings ∧ finding.id = finding_id ∧ finding.tenant_id = tenant_id := by
  simp only [finding_of_route, bind_eq_ok, get_finding_in_pir_ok, get_finding_ok] at h
  obtain ⟨-, -, ⟨hmem, hid, htenant, -⟩, -⟩ := h
  exact ⟨hmem, hid, htenant⟩

/-! ## Writes -/

/-- The writes that give out no number. -/
inductive Quiet (call : Call) (db : Db) : Db → Prop
  | review_made {data : PIRCreate} {release : Release} {user_id : ℕ}
      (hrelease : release ∈ db.reference.releases) :
      Quiet call db { db with
        pirs := db.pirs.insert
          ⟨data.row release.tenant_id release.id user_id call.now, fun _ => rfl⟩ }
  | review_changed {data : PIRUpdate} {pir : PIR} :
      Quiet call db { db with
        pirs := db.pirs.update (fun p => p.id = pir.id) ⟨data.assign call.now, fun _ => rfl⟩ }
  | review_deleted {pir : PIR} (hrequest : ∃ release_id, call.request = .delete_pir release_id) :
      Quiet call db { db with
        pirs := db.pirs.update (fun p => p.id = pir.id)
          ⟨fun p => { p with deleted_at := some call.now }, fun _ => rfl⟩ }
  | finding_changed {data : PirFindingUpdate} {finding : PirFinding} :
      Quiet call db { db with
        findings := db.findings.update (fun f => f.id = finding.id) ⟨data.assign, fun _ => rfl⟩ }
  | finding_deleted {finding : PirFinding}
      (hrequest : ∃ release_id finding_id, call.request = .delete_finding release_id finding_id) :
      Quiet call db { db with
        findings := db.findings.update (fun f => f.id = finding.id)
          ⟨fun f => { f with deleted_at := some call.now }, fun _ => rfl⟩ }
  | action_changed {data : PirActionUpdate} {action : PirAction} :
      Quiet call db { db with
        actions := db.actions.update (fun a => a.id = action.id)
          ⟨data.assign call.now, fun _ => rfl⟩ }
  | action_deleted {action : PirAction} :
      Quiet call db { db with
        actions := db.actions.update (fun a => a.id = action.id)
          ⟨fun a => { a with deleted_at := some call.now }, fun _ => rfl⟩ }
  | cited {citations : Table PirFindingIncident PirFindingIncident.id} :
      Quiet call db { db with citations := citations }

/-- The new row of a finding, with the number it is given. -/
def new_finding (db : Db) (pir : PIR) (data : PirFindingCreate) (user_id : ℕ) :
    Table.New PirFinding.id :=
  ⟨data.row pir.tenant_id pir (_next_seq db pir.id data.kind) user_id, fun _ => rfl⟩

def new_action (db : Db) (finding : PirFinding) (data : PirActionCreate) (user_id : ℕ)
    (now : DateTime) : Table.New PirAction.id :=
  ⟨data.row finding.tenant_id finding (_next_action_seq db finding.id) user_id now, fun _ => rfl⟩

inductive Write (call : Call) (db : Db) : Db → Prop
  | quiet {db' : Db} (h : Quiet call db db') : Write call db db'
  | finding_made {pir : PIR} {data : PirFindingCreate} {user_id : ℕ} (hpir : pir ∈ db.pirs) :
      Write call db { db with findings := db.findings.insert (new_finding db pir data user_id) }
  | action_made {finding : PirFinding} {data : PirActionCreate} {user_id : ℕ}
      (hfinding : finding ∈ db.findings) :
      Write call db { db with
        actions := db.actions.insert (new_action db finding data user_id call.now) }

abbrev Writes (call : Call) : Db → Db → Prop := Relation.ReflTransGen (Write call)

/-! ## What each operation writes -/

theorem create_for_release_ok {data : PIRCreate}
    (h : create_for_release db tenant_id release_id data user_id call.now = .ok (db', pir)) :
    Quiet call db db' ∧ pir = data.row tenant_id release_id user_id call.now db.pirs.next ∧
      db' = { db with
        pirs := db.pirs.insert ⟨data.row tenant_id release_id user_id call.now, fun _ => rfl⟩ } := by
  simp only [create_for_release, bind_eq_ok, raise_if_eq_ok, exists_const, Except.ok.injEq,
    Prod.mk.injEq, get_release, get_or_raise_eq_ok] at h
  obtain ⟨release, hrelease, -, rfl, rfl⟩ := h
  have hmem : release ∈ db.reference.releases := List.mem_of_find?_eq_some hrelease
  have hmatch := List.find?_some hrelease
  simp only [decide_eq_true_eq] at hmatch
  obtain ⟨rfl, rfl, -⟩ := hmatch
  exact ⟨Quiet.review_made hmem, rfl, rfl⟩

theorem create_action_ok {data : PirActionCreate} {now : DateTime}
    (h : create_action db finding.tenant_id finding data user_id now = .ok db') :
    db' = { db with actions := db.actions.insert (new_action db finding data user_id now) } := by
  simp only [create_action, bind_eq_ok, Except.ok.injEq] at h
  obtain ⟨-, -, rfl⟩ := h
  rfl

theorem add_citation_ok (h : add_citation db tenant_id finding incident_id note = .ok db') :
    ∃ citations, db' = { db with citations := citations } := by
  simp only [add_citation, bind_eq_ok] at h
  obtain ⟨-, -, -, -, h⟩ := h
  cases hone : db.citations.select_one fun c =>
      c.finding_id = finding.id ∧ c.incident_id = incident_id with
  | some existing =>
    rw [hone] at h
    exact ⟨_, (Except.ok.inj h).symm⟩
  | none =>
    rw [hone] at h
    exact ⟨_, (Except.ok.inj h).symm⟩

/-- The loop over the actions of a new finding keeps what each of them keeps. -/
theorem create_actions_inv {now : DateTime} (hstep : ∀ db data, P db →
      P { db with actions := db.actions.insert (new_action db finding data user_id now) })
    {actions : List PirActionCreate} (hP : P db)
    (h : create_actions db finding.tenant_id finding actions user_id now = .ok db') : P db' := by
  refine foldlM_inv (fun s data s' hs hok => ?_) hP h
  rw [create_action_ok hok]
  exact hstep s data hs

/-- The review that a citation goes to is there, or is made. -/
theorem pir_for_citation_ok
    (h : pir_for_citation db tenant_id release_id user_id call.now = .ok (db', pir)) :
    pir ∈ db'.pirs ∧ pir.tenant_id = tenant_id ∧
      (get_for_release db tenant_id release_id = some pir ∧ db' = db ∨
        get_for_release db tenant_id release_id = none ∧ pir.id = db.pirs.next ∧
          Quiet call db db' ∧ ∃ pirs, db' = { db with pirs := pirs }) := by
  unfold pir_for_citation at h
  cases hone : get_for_release db tenant_id release_id with
  | some found =>
    rw [hone] at h
    cases h
    obtain ⟨hmem, -, htenant, -⟩ := get_for_release_some hone
    exact ⟨hmem, htenant, Or.inl ⟨rfl, rfl⟩⟩
  | none =>
    rw [hone] at h
    obtain ⟨hquiet, rfl, rfl⟩ := create_for_release_ok h
    exact ⟨Table.mem_insert.2 (Or.inr rfl), rfl, Or.inr ⟨rfl, rfl, hquiet, _, rfl⟩⟩

/-- The writes of the citing route that makes a finding, in their order. -/
theorem cite_new_ok {data : IncidentPirNewFinding}
    (h : cite_on_pir db tenant_id incident_id release_id (.new_finding data) note user_id call.now =
      .ok db') :
    ∃ db₁ pir, pir_for_citation db tenant_id release_id user_id call.now = .ok (db₁, pir) ∧
      ∃ new, new = new_finding db₁ pir ⟨.went_wrong, data.title, data.detail, data.root_cause⟩
          user_id ∧
        ∃ db₂, create_actions { db₁ with findings := db₁.findings.insert new }
            (new.row db₁.findings.next).tenant_id (new.row db₁.findings.next) data.actions user_id
            call.now = .ok db₂ ∧
          ∃ citations, db' = { db₂ with citations := citations } := by
  simp only [cite_on_pir, bind_eq_ok] at h
  obtain ⟨-, -, ⟨db₁, pir⟩, hpir, db₂, hactions, hcited⟩ := h
  obtain ⟨-, rfl, -⟩ := pir_for_citation_ok hpir
  exact ⟨db₁, pir, hpir, _, rfl, db₂, hactions, add_citation_ok hcited⟩

/-- The requests that give out numbers. -/
def Request.numbers : Request → Bool
  | .create_finding .. => true
  | .create_action .. => true
  | .cite_on_pir _ _ (.new_finding _) _ => true
  | _ => false

/-- A request that makes no numbered row leaves the numbers alone. -/
theorem quiet_of_handle (h : handle db call = .ok db')
    (hnumbers : call.request.numbers = false) : Quiet call db db' := by
  unfold handle at h
  cases hrequest : call.request with
  | create_pir release_id data =>
    simp only [hrequest, map_eq_ok] at h
    obtain ⟨⟨db₁, pir⟩, hmade, rfl⟩ := h
    exact (create_for_release_ok hmade).1
  | update_pir release_id data =>
    simp only [hrequest, update_pir, bind_eq_ok, Except.ok.injEq] at h
    obtain ⟨pir, -, -, -, rfl⟩ := h
    exact Quiet.review_changed
  | delete_pir release_id =>
    simp only [hrequest, delete_pir, bind_eq_ok, Except.ok.injEq] at h
    obtain ⟨pir, -, rfl⟩ := h
    exact Quiet.review_deleted ⟨release_id, hrequest⟩
  | create_finding release_id data =>
    rw [hrequest] at hnumbers
    cases hnumbers
  | update_finding release_id finding_id data =>
    simp only [hrequest, update_finding, bind_eq_ok, Except.ok.injEq] at h
    obtain ⟨-, -, finding, -, -, -, -, -, rfl⟩ := h
    exact Quiet.finding_changed
  | delete_finding release_id finding_id =>
    simp only [hrequest, delete_finding, bind_eq_ok, Except.ok.injEq] at h
    obtain ⟨-, -, finding, -, rfl⟩ := h
    exact Quiet.finding_deleted ⟨release_id, finding_id, hrequest⟩
  | create_action release_id finding_id data =>
    rw [hrequest] at hnumbers
    cases hnumbers
  | update_action release_id finding_id action_id data =>
    simp only [hrequest, update_action, bind_eq_ok, Except.ok.injEq] at h
    obtain ⟨-, -, -, -, action, -, -, -, -, -, -, -, rfl⟩ := h
    exact Quiet.action_changed
  | delete_action release_id finding_id action_id =>
    simp only [hrequest, delete_action, bind_eq_ok, Except.ok.injEq] at h
    obtain ⟨-, -, -, -, action, -, rfl⟩ := h
    exact Quiet.action_deleted
  | cite_incident release_id finding_id incident_id note =>
    simp only [hrequest, bind_eq_ok] at h
    obtain ⟨finding, -, h⟩ := h
    obtain ⟨citations, rfl⟩ := add_citation_ok h
    exact Quiet.cited
  | uncite_incident release_id finding_id incident_id =>
    simp only [hrequest, remove_citation, bind_eq_ok, Except.ok.injEq] at h
    obtain ⟨-, -, citation, -, rfl⟩ := h
    exact Quiet.cited
  | cite_on_pir incident_id release_id cited note =>
    cases cited with
    | finding_id finding_id =>
      simp only [hrequest, cite_on_pir, bind_eq_ok] at h
      obtain ⟨-, -, pir, -, finding, -, -, -, h⟩ := h
      obtain ⟨citations, rfl⟩ := add_citation_ok h
      exact Quiet.cited
    | new_finding data =>
      rw [hrequest] at hnumbers
      cases hnumbers

/-! ## Requests -/

/-- A finding made for a review of its tenant. -/
theorem create_finding_of_handle {data : PirFindingCreate}
    (hrequest : call.request = .create_finding release_id data) (h : handle db call = .ok db') :
    ∃ pir, get_for_release db call.current_user.active_tenant_id release_id = some pir ∧
      pir ∈ db.pirs ∧
      db' = { db with
        findings := db.findings.insert (new_finding db pir data call.current_user.id) } := by
  unfold handle at h
  simp only [hrequest, get_pir_or_404, bind_eq_ok, get_or_raise_eq_ok, Except.ok.injEq] at h
  obtain ⟨pir, hpir, rfl⟩ := h
  obtain ⟨hmem, -, htenant, -⟩ := get_for_release_some hpir
  rw [← htenant] at hpir ⊢
  exact ⟨pir, hpir, hmem, rfl⟩

theorem create_action_of_handle {data : PirActionCreate}
    (hrequest : call.request = .create_action release_id finding_id data)
    (h : handle db call = .ok db') :
    ∃ finding ∈ db.findings, finding.id = finding_id ∧
      db' = { db with
        actions := db.actions.insert
          (new_action db finding data call.current_user.id call.now) } := by
  unfold handle at h
  simp only [hrequest, bind_eq_ok] at h
  obtain ⟨finding, hfinding, h⟩ := h
  obtain ⟨hmem, hid, htenant⟩ := finding_of_route_ok hfinding
  rw [← htenant] at h
  exact ⟨finding, hmem, hid, create_action_ok h⟩

theorem cite_new_of_handle {data : IncidentPirNewFinding}
    (hrequest : call.request = .cite_on_pir incident_id release_id (.new_finding data) note)
    (h : handle db call = .ok db') :
    cite_on_pir db call.current_user.active_tenant_id incident_id release_id (.new_finding data)
      note call.current_user.id call.now = .ok db' := by
  unfold handle at h
  rw [hrequest] at h
  exact h

/-- **A request is its writes, one after another.** -/
theorem writes_of_handle (h : handle db call = .ok db') :
    Writes call db db' := by
  by_cases hnumbers : call.request.numbers = false
  · exact Relation.ReflTransGen.single (Write.quiet (quiet_of_handle h hnumbers))
  rw [Bool.not_eq_false] at hnumbers
  cases hrequest : call.request with
  | create_finding release_id data =>
    obtain ⟨pir, -, hpir, rfl⟩ := create_finding_of_handle hrequest h
    exact Relation.ReflTransGen.single (Write.finding_made hpir)
  | create_action release_id finding_id data =>
    obtain ⟨finding, hfinding, -, rfl⟩ := create_action_of_handle hrequest h
    exact Relation.ReflTransGen.single (Write.action_made hfinding)
  | cite_on_pir incident_id release_id cited note =>
    cases cited with
    | finding_id finding_id =>
      rw [hrequest] at hnumbers
      cases hnumbers
    | new_finding data =>
      obtain ⟨db₁, pir, hpir, new, rfl, db₂, hactions, citations, rfl⟩ :=
        cite_new_ok (cite_new_of_handle hrequest h)
      obtain ⟨hmem, -, hmade⟩ := pir_for_citation_ok hpir
      have hreview : Writes call db db₁ := by
        rcases hmade with ⟨-, rfl⟩ | ⟨-, -, hquiet, -⟩
        · exact Relation.ReflTransGen.refl
        · exact Relation.ReflTransGen.single (Write.quiet hquiet)
      -- the finding stays in its table while its actions are made
      have hboth := create_actions_inv (P := fun s => Writes call db s ∧
          (new_finding db₁ pir ⟨.went_wrong, data.title, data.detail, data.root_cause⟩
            call.current_user.id).row db₁.findings.next ∈ s.findings)
        (fun s action hs => ⟨hs.1.tail (Write.action_made hs.2), hs.2⟩)
        ⟨hreview.tail (Write.finding_made hmem), Table.mem_insert.2 (Or.inr rfl)⟩ hactions
      exact hboth.1.tail (Write.quiet Quiet.cited)
  | _ =>
    rw [hrequest] at hnumbers
    cases hnumbers

/-! ## Invariants -/

/-- What each write keeps, a request keeps. -/
theorem handle_keeps (hwrite : ∀ s s', Write call s s' → P s → P s') (h : handle db call = .ok db')
    (hP : P db) : P db' := by
  have hwrites : Writes call db db' := writes_of_handle h
  clear h
  induction hwrites with
  | refl => exact hP
  | tail _ hlast ih => exact hwrite _ _ hlast ih

theorem step_keeps (hwrite : ∀ s s', Write call s s' → P s → P s') (hP : P db) : P (step db call) :=
  commit_or_rollback_keeps hP fun _ hok => handle_keeps hwrite hok hP

theorem run_keeps (hwrite : ∀ call s s', Write call s s' → P s → P s') (hP : P db)
    (calls : List Call) : P (run step db calls) :=
  Runs.run_inv (fun _ call hs => step_keeps (hwrite call) hs) hP calls

end EnvMgr.Reviews

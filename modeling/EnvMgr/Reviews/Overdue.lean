/-
The worklist of actions, and which of them are overdue.

A row says in Python whether its action is overdue, and the `overdue` filter says it in SQL, once
each way. The filter for `false` is written out as a disjunction, so that an action without a due
date is in it: the comparison of a NULL with the day boundary is not true, and neither is its
negation.
-/
import EnvMgr.Compliance.Policy
import EnvMgr.Deployments.Model
import EnvMgr.Lib.Reordered
import EnvMgr.Lib.Sql
import EnvMgr.Reviews.Writes

namespace EnvMgr.Reviews

open Compliance (expiry_boundary)
open Deployments (Page fetch_page)
open Runs (run Along)
open Sql (Condition Truth is_null is_not_null)

/-! ## The two ways to say it -/

def is_overdue (action : PirAction) (now : DateTime) : Bool :=
  match action.due_date with
  | none => false
  | some due => action.status ∈ LIVE_ACTION_STATUSES ∧ due < expiry_boundary now

/-- What a clause tests on an action. -/
abbrev Test := PirAction → Truth

/-- `PirAction.status.in_(sorted(LIVE_ACTION_STATUSES))`. -/
def status_live : Test := fun a => some (a.status ∈ LIVE_ACTION_STATUSES)

/-- `PirAction.status.not_in(sorted(LIVE_ACTION_STATUSES))`. -/
def status_not_live : Test := fun a => some (a.status ∉ LIVE_ACTION_STATUSES)

/-- What `worklist_query` adds for `overdue`. -/
def overdue_clause (boundary : DateTime) : Bool → Condition Test
  | true =>
    .and_ (.test fun a => is_not_null a.due_date)
      (.and_ (.test fun a => Sql.compare (fun due => due < boundary) a.due_date)
        (.test status_live))
  | false =>
    .or_
      (.or_ (.test fun a => is_null a.due_date)
        (.test fun a => Sql.compare (fun due => boundary ≤ due) a.due_date))
      (.test status_not_live)

/-- The clause keeps the action. -/
def overdue_selects (overdue : Bool) (now : DateTime) (action : PirAction) : Bool :=
  (overdue_clause (expiry_boundary now) overdue).Selects fun test => test action

/-- **Both filters are the Python rule**, one way and the other. -/
theorem overdue_selects_eq (overdue : Bool) (now : DateTime) (action : PirAction) :
    overdue_selects overdue now action = (is_overdue action now == overdue) := by
  rw [Bool.eq_iff_iff, beq_iff_eq]
  cases hdue : action.due_date with
  | none => cases overdue <;> simp [overdue_selects, overdue_clause, is_overdue, hdue, is_null,
      is_not_null, status_not_live]
  | some due =>
    cases overdue with
    | true =>
      simp [overdue_selects, overdue_clause, is_overdue, hdue, is_not_null, Sql.compare,
        status_live, and_comm]
    | false =>
      simp [overdue_selects, overdue_clause, is_overdue, hdue, is_null, Sql.compare,
        status_not_live, imp_iff_not_or, or_comm]

/-! ## The worklist -/

/-- An action with what it hangs off. -/
structure Row where
  action : PirAction
  finding : PirFinding
  pir : PIR
  release : Release

/-- The inner joins. The outer join of the owner adds and drops nothing. -/
def joined (db : Db) : List Row :=
  db.actions.rows.flatMap fun action =>
    (db.findings.select fun f => f.id = action.finding_id).flatMap fun finding =>
      (db.pirs.select fun p => p.id = finding.pir_id).flatMap fun pir =>
        (db.reference.releases.select fun r => r.id = pir.release_id).map fun release =>
          ⟨action, finding, pir, release⟩

structure Filters where
  status : Option ActionStatus
  statuses : Option (List ActionStatus)
  owner_id : Option ℕ
  overdue : Option Bool
  release_id : Option ℕ
  incident_id : Option ℕ
  deriving DecidableEq

def Filters.unfiltered : Filters := ⟨none, none, none, none, none, none⟩

/-- The `where` of every query. -/
def Row.listed (tenant_id : ℕ) (row : Row) : Bool :=
  row.action.tenant_id = tenant_id ∧ row.action.deleted_at = none ∧
    row.finding.deleted_at = none ∧ row.pir.deleted_at = none

/-- Every filter but `overdue`. -/
def Filters.keeps (filters : Filters) (db : Db) (row : Row) : Bool :=
  (∀ status ∈ filters.status, row.action.status = status) ∧
    (∀ statuses ∈ filters.statuses, row.action.status ∈ statuses) ∧
    (∀ owner_id ∈ filters.owner_id, row.action.owner_id = some owner_id) ∧
    (∀ release_id ∈ filters.release_id, row.pir.release_id = release_id) ∧
    ∀ incident_id ∈ filters.incident_id, ∃ c ∈ db.citations.rows,
      c.finding_id = row.finding.id ∧ c.incident_id = incident_id

/-- The rows, by what they are sorted by and the id of the action. -/
def worklist_query {κ : Type} [LinearOrder κ] (db : Db) (tenant_id : ℕ) (now : DateTime)
    (filters : Filters) (sort : Row → κ) : List Row :=
  let rows := (joined db).filter fun row => row.listed tenant_id && filters.keeps db row
  let rows := match filters.overdue with
    | none => rows
    | some overdue => rows.filter fun row => overdue_selects overdue now row.action
  order_by (fun row => toLex (sort row, row.action.id)) rows

structure PirActionRow where
  id : ℕ
  finding_id : ℕ
  finding_title : String
  release_id : ℕ
  pir_status : PirStatus
  title : String
  detail : Option String
  owner_id : Option ℕ
  due_date : Option DateTime
  status : ActionStatus
  closed_at : Option DateTime
  closure_note : Option String
  is_overdue : Bool
  deriving DecidableEq

/-- A row as it is rendered, by the clock of the request. -/
def Row.rendered (now : DateTime) (row : Row) : PirActionRow where
  id := row.action.id
  finding_id := row.finding.id
  finding_title := row.finding.title
  release_id := row.pir.release_id
  pir_status := row.pir.status
  title := row.action.title
  detail := row.action.detail
  owner_id := row.action.owner_id
  due_date := row.action.due_date
  status := row.action.status
  closed_at := row.action.closed_at
  closure_note := row.action.closure_note
  is_overdue := is_overdue row.action now

def list_actions {κ : Type} [LinearOrder κ] (db : Db) (tenant_id : ℕ) (now : DateTime)
    (filters : Filters) (sort : Row → κ) (page : Option Page) : List PirActionRow × ℕ :=
  let (rows, total) := fetch_page (worklist_query db tenant_id now filters sort) page
  (rows.map (Row.rendered now), total)

/-! ## The filters partition the worklist -/

theorem mem_joined {db : Db} {row : Row} :
    row ∈ joined db ↔ row.action ∈ db.actions ∧
      (row.finding ∈ db.findings ∧ row.finding.id = row.action.finding_id) ∧
      (row.pir ∈ db.pirs ∧ row.pir.id = row.finding.pir_id) ∧
      row.release ∈ db.reference.releases ∧ row.release.id = row.pir.release_id := by
  simp only [joined, List.mem_flatMap, List.mem_map, Table.mem_select, decide_eq_true_eq]
  constructor
  · rintro ⟨action, haction, finding, hfinding, pir, hpir, release, hrelease, rfl⟩
    exact ⟨haction, hfinding, hpir, hrelease⟩
  · rintro ⟨haction, hfinding, hpir, hrelease⟩
    exact ⟨row.action, haction, row.finding, hfinding, row.pir, hpir, row.release, hrelease, rfl⟩

/-- An action is joined once. -/
theorem joined_inj {db : Db} {a b : Row} (ha : a ∈ joined db) (hb : b ∈ joined db)
    (hid : a.action.id = b.action.id) : a = b := by
  obtain ⟨haction, hfinding, hpir, hrelease⟩ := mem_joined.1 ha
  obtain ⟨haction', hfinding', hpir', hrelease'⟩ := mem_joined.1 hb
  have hsame : a.action = b.action := Table.eq_of_key_eq haction haction' hid
  have hsame_finding : a.finding = b.finding :=
    Table.eq_of_key_eq hfinding.1 hfinding'.1 (by rw [hfinding.2, hfinding'.2, hsame])
  have hsame_pir : a.pir = b.pir :=
    Table.eq_of_key_eq hpir.1 hpir'.1 (by rw [hpir.2, hpir'.2, hsame_finding])
  have hsame_release : a.release = b.release :=
    Table.eq_of_key_eq hrelease.1 hrelease'.1 (by rw [hrelease.2, hrelease'.2, hsame_pir])
  cases a
  cases b
  rw [Row.mk.injEq]
  exact ⟨hsame, hsame_finding, hsame_pir, hsame_release⟩

variable {κ : Type} [LinearOrder κ]

/-- Asking for one side takes the rows of the other side out, and leaves the rest in their
order. -/
theorem worklist_query_overdue (db : Db) (tenant_id : ℕ) (now : DateTime) (filters : Filters)
    (sort : Row → κ) (overdue : Bool) :
    worklist_query db tenant_id now { filters with overdue := some overdue } sort =
      (worklist_query db tenant_id now { filters with overdue := none } sort).filter
        fun row => is_overdue row.action now == overdue := by
  simp only [worklist_query, overdue_selects_eq]
  refine order_by_filter ?_ _
  intro a ha b hb hab
  have hid : a.action.id = b.action.id := (Prod.ext_iff.1 (congrArg ofLex hab)).2
  exact joined_inj (List.mem_filter.1 ha).1 (List.mem_filter.1 hb).1 hid

theorem list_actions_overdue (db : Db) (tenant_id : ℕ) (now : DateTime) (filters : Filters)
    (sort : Row → κ) (overdue : Bool) :
    (list_actions db tenant_id now { filters with overdue := some overdue } sort none).1 =
      (list_actions db tenant_id now { filters with overdue := none } sort none).1.filter
        fun row => row.is_overdue == overdue := by
  simp only [list_actions, fetch_page, worklist_query_overdue, List.filter_map]
  rfl

/-! ## What is on the worklist -/

/-- Each row hangs off rows that are there, down to a release. -/
structure Rooted (db : Db) : Prop where
  finding : ∀ action ∈ db.actions, ∃ finding ∈ db.findings, finding.id = action.finding_id
  review : ∀ finding ∈ db.findings, ∃ pir ∈ db.pirs, pir.id = finding.pir_id
  release : ∀ pir ∈ db.pirs, ∃ release ∈ db.reference.releases, release.id = pir.release_id

theorem rooted_opened (reference : Reference) : Rooted (Db.opened reference) where
  finding a ha := absurd ha (Table.not_mem_empty a)
  review f hf := absurd hf (Table.not_mem_empty f)
  release p hp := absurd hp (Table.not_mem_empty p)

/-- What `closed_at` says of an action. -/
def ClosedStamped (action : PirAction) : Prop :=
  action.closed_at ≠ none ↔ action.status ∈ CLOSED_ACTION_STATUSES

theorem closedStamped_row (data : PirActionCreate) (tenant_id : ℕ) (finding : PirFinding)
    (seq user_id : ℕ) (now : DateTime) (id : ℕ) :
    ClosedStamped (data.row tenant_id finding seq user_id now id) := by
  unfold ClosedStamped PirActionCreate.row
  by_cases hclosed : data.status ∈ CLOSED_ACTION_STATUSES
  · simp [hclosed]
  · simp [hclosed]

theorem closedStamped_assign (data : PirActionUpdate) (now : DateTime) (action : PirAction) :
    ClosedStamped (data.assign now action) := by
  unfold ClosedStamped PirActionUpdate.assign
  by_cases hclosed : data.status.set_required action.status ∈ CLOSED_ACTION_STATUSES
  · simp [hclosed]
  · simp [hclosed]

def Stamped (db : Db) : Prop := ∀ action ∈ db.actions, ClosedStamped action

variable {db db' : Db} {call : Call}

theorem Stamped.write (hwrite : Write call db db') (h : Stamped db) : Stamped db' := by
  cases hwrite with
  | finding_made => exact h
  | action_made => exact (Table.forall_insert_iff h).2 (closedStamped_row _ _ _ _ _ _ _)
  | quiet hquiet =>
    cases hquiet with
    | action_changed =>
      exact (Table.forall_update_iff h).2 fun action _ _ => closedStamped_assign _ _ action
    | action_deleted => exact (Table.forall_update_iff h).2 fun action haction _ => h action haction
    | _ => exact h

/-- **A closed action is stamped, and no other.** -/
theorem stamped_run (reference : Reference) (calls : List Call) :
    Stamped (run step (Db.opened reference) calls) :=
  run_keeps (fun _ _ _ hwrite hs => hs.write hwrite)
    (fun action haction => absurd haction (Table.not_mem_empty action)) calls

/-- An update keeps a row that others hang off. -/
theorem exists_key_update {α : Type} {key : α → ℕ} {t : Table α key} {p : α → Bool}
    {f : Table.Edit key} {k : ℕ} (h : ∃ r ∈ t, key r = k) : ∃ r ∈ t.update p f, key r = k := by
  obtain ⟨r, hr, hkey⟩ := h
  obtain ⟨r', hr', hsame⟩ := Table.retains_update (R := fun a b => key b = key a)
    (fun _ => rfl) t p f.key_apply r hr
  exact ⟨r', hr', hsame.trans hkey⟩

theorem exists_key_insert {α : Type} {key : α → ℕ} {t : Table α key} {new : Table.New key} {k : ℕ}
    (h : ∃ r ∈ t, key r = k) : ∃ r ∈ t.insert new, key r = k := by
  obtain ⟨r, hr, hkey⟩ := h
  exact ⟨r, Table.mem_insert.2 (Or.inl hr), hkey⟩

theorem Rooted.quiet (h : Rooted db) (hquiet : Quiet call db db') : Rooted db' := by
  cases hquiet with
  | review_made hrelease =>
    exact ⟨h.finding, fun f hf => exists_key_insert (h.review f hf),
      (Table.forall_insert_iff h.release).2 ⟨_, hrelease, rfl⟩⟩
  | review_changed =>
    exact ⟨h.finding, fun f hf => exists_key_update (h.review f hf),
      (Table.forall_update_iff h.release).2 fun p hp _ => h.release p hp⟩
  | review_deleted =>
    exact ⟨h.finding, fun f hf => exists_key_update (h.review f hf),
      (Table.forall_update_iff h.release).2 fun p hp _ => h.release p hp⟩
  | finding_changed =>
    exact ⟨fun a ha => exists_key_update (h.finding a ha),
      (Table.forall_update_iff h.review).2 fun f hf _ => h.review f hf, h.release⟩
  | finding_deleted =>
    exact ⟨fun a ha => exists_key_update (h.finding a ha),
      (Table.forall_update_iff h.review).2 fun f hf _ => h.review f hf, h.release⟩
  | action_changed =>
    exact ⟨(Table.forall_update_iff h.finding).2 fun a ha _ => h.finding a ha, h.review, h.release⟩
  | action_deleted =>
    exact ⟨(Table.forall_update_iff h.finding).2 fun a ha _ => h.finding a ha, h.review, h.release⟩
  | cited => exact ⟨h.finding, h.review, h.release⟩

theorem Rooted.write (hwrite : Write call db db') (h : Rooted db) : Rooted db' := by
  cases hwrite with
  | quiet hquiet => exact h.quiet hquiet
  | finding_made hpir =>
    exact ⟨fun a ha => exists_key_insert (h.finding a ha),
      (Table.forall_insert_iff h.review).2 ⟨_, hpir, rfl⟩, h.release⟩
  | action_made hfinding =>
    exact ⟨(Table.forall_insert_iff h.finding).2 ⟨_, hfinding, rfl⟩, h.review, h.release⟩

theorem rooted_run (reference : Reference) (calls : List Call) :
    Rooted (run step (Db.opened reference) calls) :=
  run_keeps (fun _ _ _ hwrite hs => hs.write hwrite) (rooted_opened reference) calls

/-- The request deletes what actions hang off. -/
def Request.Withdraws : Request → Prop
  | .delete_pir _ => True
  | .delete_finding _ _ => True
  | _ => False

/-- Nothing that an action hangs off is deleted. -/
structure Standing (db : Db) : Prop where
  finding : ∀ finding ∈ db.findings, finding.deleted_at = none
  review : ∀ pir ∈ db.pirs, pir.deleted_at = none

theorem Standing.write (hkeeps : ¬ call.request.Withdraws) (hwrite : Write call db db')
    (h : Standing db) : Standing db' := by
  cases hwrite with
  | finding_made => exact ⟨(Table.forall_insert_iff h.finding).2 rfl, h.review⟩
  | action_made => exact ⟨h.finding, h.review⟩
  | quiet hquiet =>
    cases hquiet with
    | review_made => exact ⟨h.finding, (Table.forall_insert_iff h.review).2 rfl⟩
    | review_changed =>
      exact ⟨h.finding, (Table.forall_update_iff h.review).2 fun p hp _ => h.review p hp⟩
    | review_deleted hrequest =>
      obtain ⟨release_id, hrequest⟩ := hrequest
      rw [hrequest] at hkeeps
      exact absurd trivial hkeeps
    | finding_changed =>
      exact ⟨(Table.forall_update_iff h.finding).2 fun f hf _ => h.finding f hf, h.review⟩
    | finding_deleted hrequest =>
      obtain ⟨release_id, finding_id, hrequest⟩ := hrequest
      rw [hrequest] at hkeeps
      exact absurd trivial hkeeps
    | action_changed => exact ⟨h.finding, h.review⟩
    | action_deleted => exact ⟨h.finding, h.review⟩
    | cited => exact ⟨h.finding, h.review⟩

theorem standing_run (reference : Reference) {calls : List Call}
    (hkeeps : ∀ call ∈ calls, ¬ call.request.Withdraws) :
    Standing (run step (Db.opened reference) calls) := by
  have hopened : Standing (Db.opened reference) :=
    ⟨fun f hf => absurd hf (Table.not_mem_empty f), fun p hp => absurd hp (Table.not_mem_empty p)⟩
  refine List.foldlRecOn calls step hopened ?_
  intro s hs call hcall
  exact step_keeps (fun _ _ hwrite h => h.write (hkeeps call hcall) hwrite) hs

/-- The worklist without filters is made of the live actions whose finding and review are live. -/
theorem listed_iff (h : Rooted db) {action : PirAction} (haction : action ∈ db.actions)
    (tenant_id : ℕ) (now : DateTime) (sort : Row → κ) :
    (∃ row ∈ worklist_query db tenant_id now Filters.unfiltered sort, row.action = action) ↔
      action.tenant_id = tenant_id ∧ action.deleted_at = none ∧
        ∃ finding ∈ db.findings, finding.id = action.finding_id ∧ finding.deleted_at = none ∧
          ∃ pir ∈ db.pirs, pir.id = finding.pir_id ∧ pir.deleted_at = none := by
  have hmem : ∀ row, row ∈ worklist_query db tenant_id now Filters.unfiltered sort ↔
      row ∈ joined db ∧ row.listed tenant_id = true := by
    intro row
    simp [worklist_query, Filters.unfiltered, Filters.keeps]
  simp only [hmem, Row.listed, decide_eq_true_eq, mem_joined]
  constructor
  · rintro ⟨row, ⟨⟨-, hfinding, hpir, -⟩, htenant, hlive, hlive_finding, hlive_pir⟩, rfl⟩
    exact ⟨htenant, hlive, row.finding, hfinding.1, hfinding.2, hlive_finding, row.pir, hpir.1,
      hpir.2, hlive_pir⟩
  · rintro ⟨htenant, hlive, finding, hfinding, hfid, hlive_finding, pir, hpir, hpid, hlive_pir⟩
    obtain ⟨release, hrelease, hrid⟩ := h.release pir hpir
    exact ⟨⟨action, finding, pir, release⟩, ⟨⟨haction, ⟨hfinding, hfid⟩, ⟨hpir, hpid⟩, hrelease,
      hrid⟩, htenant, hlive, hlive_finding, hlive_pir⟩, rfl⟩

/-- **The two filters partition the worklist.** In every state of reviews, at every instant, under
whatever further filters and in whatever order, the list for `overdue=true` is the rows of the
whole list that are overdue by `is_overdue`, and the list for `overdue=false` the others; the
whole list has the live actions of the tenant on live findings of live reviews, which are all its
live actions where no finding and no review was deleted; and an action has a closing date exactly
if its status is a closed one. -/
theorem overdue_filters_partition (reference : Reference) (calls : List Call) (tenant_id : ℕ)
    (now : DateTime) (filters : Filters) (sort : Row → κ) :
    (∀ overdue : Bool,
      (list_actions (run step (Db.opened reference) calls) tenant_id now
          { filters with overdue := some overdue } sort none).1 =
        (list_actions (run step (Db.opened reference) calls) tenant_id now
          { filters with overdue := none } sort none).1.filter
            fun row => row.is_overdue == overdue) ∧
    (∀ action ∈ (run step (Db.opened reference) calls).actions, ∀ overdue : Bool,
      overdue_selects overdue now action = (is_overdue action now == overdue)) ∧
    (∀ action ∈ (run step (Db.opened reference) calls).actions,
      (∃ row ∈ worklist_query (run step (Db.opened reference) calls) tenant_id now
          Filters.unfiltered sort, row.action = action) ↔
        action.tenant_id = tenant_id ∧ action.deleted_at = none ∧
          ∃ finding ∈ (run step (Db.opened reference) calls).findings,
            finding.id = action.finding_id ∧ finding.deleted_at = none ∧
              ∃ pir ∈ (run step (Db.opened reference) calls).pirs,
                pir.id = finding.pir_id ∧ pir.deleted_at = none) ∧
    ((∀ call ∈ calls, ¬ call.request.Withdraws) →
      ∀ action ∈ (run step (Db.opened reference) calls).actions,
        action.tenant_id = tenant_id → action.deleted_at = none →
          ∃ row ∈ worklist_query (run step (Db.opened reference) calls) tenant_id now
            Filters.unfiltered sort, row.action = action) ∧
    ∀ action ∈ (run step (Db.opened reference) calls).actions,
      action.closed_at ≠ none ↔ action.status ∈ CLOSED_ACTION_STATUSES := by
  have hrooted := rooted_run reference calls
  refine ⟨?_, ?_, ?_, ?_, stamped_run reference calls⟩
  · exact list_actions_overdue _ tenant_id now filters sort
  · exact fun action _ overdue => overdue_selects_eq overdue now action
  · exact fun action haction => listed_iff hrooted haction tenant_id now sort
  · intro hkeeps action haction htenant hlive
    have hstanding := standing_run reference hkeeps
    obtain ⟨finding, hfinding, hfid⟩ := hrooted.finding action haction
    obtain ⟨pir, hpir, hpid⟩ := hrooted.review finding hfinding
    exact (listed_iff hrooted haction tenant_id now sort).2 ⟨htenant, hlive, finding, hfinding,
      hfid, hstanding.finding finding hfinding, pir, hpir, hpid, hstanding.review pir hpir⟩

end EnvMgr.Reviews

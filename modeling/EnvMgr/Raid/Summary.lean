/-
The list of a release's RAID items and the summary over it.

The summary counts colours and overdue reviews in Python; the list filters on the same in
SQL. The two factors of a score are `SMALLINT` columns, so the database multiplies them as
such and takes the bounds of a band as such; a score or a bound beyond that range is an
error of the whole query.
-/
import EnvMgr.Deployments.Model
import EnvMgr.Raid.Rag

namespace EnvMgr.Raid

open Deployments (Page fetch_page)
open Sql (Condition)

/-! ## The database -/

/-- What a `SMALLINT` holds. -/
def Smallint (n : ℤ) : Prop := -32768 ≤ n ∧ n ≤ 32767
  deriving Decidable

def Band.Fits (band : Band) : Prop := Smallint band.min ∧ Smallint band.max

instance (band : Band) : Decidable band.Fits := inferInstanceAs (Decidable (_ ∧ _))

/-- `stmt.where(cond)`. The bounds are sent as `SMALLINT`, and the first test of the
condition, whichever it is, multiplies the two factors of every row that it reads. -/
def where_rag (cond : Condition Band) (rows : List RaidItem) :
    Except Raised (List RaidItem) := do
  raise_if (∃ band ∈ cond.tests, ¬ band.Fits) .StatementError
  raise_if (cond.tests ≠ [] ∧ ∃ item ∈ rows, ∃ sev ∈ item.severity, ¬ Smallint sev)
    .StatementError
  .ok (rows.filter fun item => cond.Selects (between item.severity))

/-! ## `list_items` and `summary` -/

structure Filters where
  item_type : Option String
  status : Option String
  owner_id : Option ℕ
  rag : Option String
  overdue : Bool
  deriving DecidableEq

def Filters.unfiltered : Filters := ⟨none, none, none, none, false⟩

/-- Its statuses are not reviewed any more. -/
def reviewed_statuses : List String := ["closed", "promoted", "met"]

def RaidItem.overdue (item : RaidItem) (now : DateTime) : Bool :=
  match item.review_date with
  | none => false
  | some review_date => review_date < now ∧ item.status ∉ reviewed_statuses

/-- Every filter but the colour. An empty text or a zero is no filter. -/
def Filters.keeps (filters : Filters) (now : DateTime) (item : RaidItem) : Bool :=
  (filters.item_type = none ∨ filters.item_type = some "" ∨
      filters.item_type = some item.item_type.value) ∧
    (filters.status = none ∨ filters.status = some "" ∨ filters.status = some item.status) ∧
    (filters.owner_id = none ∨ filters.owner_id = some 0 ∨ filters.owner_id = item.owner_id) ∧
    (filters.overdue = false ∨ item.overdue now = true)

/-- The live items of a release. -/
def live_items (db : Db) (release_id tenant_id : ℕ) : List RaidItem :=
  db.items.select fun i =>
    i.tenant_id = tenant_id ∧ i.release_id = release_id ∧ i.deleted_at = none

/-- `order_by(RaidItem.item_type, RaidItem.seq, RaidItem.id)`. -/
def RaidItem.list_key (item : RaidItem) : String ×ₗ ℕ ×ₗ ℕ :=
  toLex (item.item_type.value, toLex (item.seq, item.id))

def list_items (db : Db) (release_id tenant_id : ℕ) (filters : Filters)
    (config : Option RaidConfig) (now : DateTime) (page : Option Page) :
    Except Raised (List RaidItem × ℕ) := do
  let rows := (live_items db release_id tenant_id).filter (filters.keeps now)
  let rows ← match filters.rag, config with
    | some wanted, some config => where_rag (_rag_sql_condition config.rag_bands wanted) rows
    | _, _ => .ok rows
  .ok (fetch_page (order_by RaidItem.list_key rows) page)

structure Summary where
  counts_by_type : List (String × ℕ)
  counts_by_rag : List (String × ℕ)
  open_issues : ℕ
  overdue_reviews : ℕ
  /-- By probability and impact, the codes of the risks and issues that have both. -/
  heatmap : List (List (List String))
  deriving DecidableEq

/-- What `summary` counts of the items. -/
def summarise (items : List RaidItem) (config : RaidConfig) (now : DateTime) : Summary where
  counts_by_type := [ItemType.risk, .assumption, .issue, .dependency].map fun item_type =>
    (item_type.value, items.countP fun i => i.item_type = item_type)
  counts_by_rag := ["green", "amber", "red"].map fun colour =>
    (colour, items.countP fun i => rag i.severity config.rag_bands = some colour)
  open_issues := items.countP fun i => i.item_type = .issue ∧ i.status ≠ "closed"
  overdue_reviews := items.countP fun i => i.overdue now
  heatmap := (List.range config.probability_scale.length).map fun p =>
    (List.range config.impact_scale.length).map fun i =>
      (items.filter fun item =>
        (item.item_type = .risk ∨ item.item_type = .issue) ∧
          item.probability = some (p + 1 : ℤ) ∧ item.impact = some (i + 1 : ℤ)).map ref_code

def summary (db : Db) (release_id tenant_id : ℕ) (config : RaidConfig) (now : DateTime) :
    Except Raised Summary := do
  let (items, _) ← list_items db release_id tenant_id Filters.unfiltered (some config) now none
  .ok (summarise items config now)

/-! ## When the query is answered -/

theorem where_rag_eq_ok {cond : Condition Band} {rows got : List RaidItem} :
    where_rag cond rows = .ok got ↔
      (∀ band ∈ cond.tests, band.Fits) ∧
        (cond.tests ≠ [] → ∀ item ∈ rows, ∀ sev ∈ item.severity, Smallint sev) ∧
        got = rows.filter fun item => cond.Selects (between item.severity) := by
  simp only [where_rag, bind_eq_ok, raise_if_eq_ok, Except.ok.injEq, not_exists, not_and, not_not]
  constructor
  · rintro ⟨_, hbands, _, hrows, rfl⟩
    exact ⟨hbands, hrows, rfl⟩
  · rintro ⟨hbands, hrows, rfl⟩
    exact ⟨(), hbands, (), hrows, rfl⟩

/-- The bounds of the bands and the scores of the items are in the range of the columns. -/
def InRange (bands : List Band) (items : List RaidItem) : Prop :=
  (∀ band ∈ bands, band.Fits) ∧ ∀ item ∈ items, ∀ sev ∈ item.severity, Smallint sev

/-- In range, the filter is answered with the items of the colour. -/
theorem where_rag_of_inRange {bands : List Band} {rows : List RaidItem} (wanted : String)
    (h : bands = [] ∨ InRange bands rows) :
    where_rag (_rag_sql_condition bands wanted) rows =
      .ok (rows.filter fun item => rag item.severity bands = some wanted) := by
  have hmem : ∀ band ∈ (_rag_sql_condition bands wanted).tests, band ∈ bands := by
    intro band hband
    simpa using tests_matching (Condition.tests_any.1 hband)
  rw [where_rag_eq_ok]
  simp only [rag_sql_condition_selects, and_true]
  rcases h with rfl | ⟨hbands, hrows⟩
  · have hnil : (_rag_sql_condition [] wanted).tests = [] :=
      List.eq_nil_iff_forall_not_mem.2 fun band hband => nomatch hmem band hband
    rw [hnil]
    exact ⟨nofun, fun h => absurd rfl h⟩
  · exact ⟨fun band hband => hbands band (hmem band hband), fun _ => hrows⟩

theorem list_items_unpaged {db : Db} {release_id tenant_id : ℕ} {filters : Filters}
    {config : RaidConfig} {now : DateTime} {wanted : String} (hrag : filters.rag = some wanted)
    {answer : List RaidItem × ℕ} :
    list_items db release_id tenant_id filters (some config) now none = .ok answer ↔
      ∃ rows, where_rag (_rag_sql_condition config.rag_bands wanted)
          ((live_items db release_id tenant_id).filter (filters.keeps now)) = .ok rows ∧
        answer = (order_by RaidItem.list_key rows, rows.length) := by
  have hlength : ∀ rows : List RaidItem,
      fetch_page (order_by RaidItem.list_key rows) none =
        (order_by RaidItem.list_key rows, rows.length) := by
    intro rows
    simp only [fetch_page, order_by, List.length_insertionSort]
  simp only [list_items, hrag, bind_eq_ok, Except.ok.injEq, hlength]
  constructor
  · rintro ⟨rows, hrows, rfl⟩
    exact ⟨rows, hrows, rfl⟩
  · rintro ⟨rows, hrows, rfl⟩
    exact ⟨rows, hrows, rfl⟩

theorem list_items_uncoloured {db : Db} {release_id tenant_id : ℕ} {filters : Filters}
    {config : RaidConfig} {now : DateTime} (hrag : filters.rag = none) :
    list_items db release_id tenant_id filters (some config) now none =
      .ok (order_by RaidItem.list_key
          ((live_items db release_id tenant_id).filter (filters.keeps now)),
        ((live_items db release_id tenant_id).filter (filters.keeps now)).length) := by
  simp only [list_items, hrag, fetch_page, order_by, List.length_insertionSort]
  rfl

/-- What `summary` counts does not depend on the order of the list. -/
theorem summary_eq (db : Db) (release_id tenant_id : ℕ) (config : RaidConfig) (now : DateTime) :
    summary db release_id tenant_id config now =
      .ok (summarise (order_by RaidItem.list_key (live_items db release_id tenant_id)) config
        now) := by
  have hall : (live_items db release_id tenant_id).filter (Filters.unfiltered.keeps now) =
      live_items db release_id tenant_id := by
    refine List.filter_eq_self.2 fun item _ => ?_
    simp [Filters.keeps, Filters.unfiltered]
  rw [summary, list_items_uncoloured rfl, hall]
  rfl

theorem countP_order_by {p : RaidItem → Bool} {rows : List RaidItem} :
    (order_by RaidItem.list_key rows).countP p = (rows.filter p).length := by
  rw [order_by, (List.perm_insertionSort _ rows).countP_eq, List.countP_eq_length_filter]

/-! ## The summary and the list -/

/-- Only one filter. -/
def Filters.colour (wanted : String) : Filters := { Filters.unfiltered with rag := some wanted }

def Filters.late : Filters := { Filters.unfiltered with overdue := true }

/-- The list filters by colour as `rag` colours, and the counts of the summary are the
totals of the list under the same filter. -/
structure Agrees (db : Db) (release_id tenant_id : ℕ) (config : RaidConfig) (now : DateTime) :
    Prop where
  selects : ∀ filters wanted, filters.rag = some wanted → ∃ items total,
    list_items db release_id tenant_id filters (some config) now none = .ok (items, total) ∧
      ∀ item, item ∈ items ↔ item ∈ live_items db release_id tenant_id ∧
        filters.keeps now item = true ∧ rag item.severity config.rag_bands = some wanted
  colours : ∃ read, summary db release_id tenant_id config now = .ok read ∧
    ∀ colour n, (colour, n) ∈ read.counts_by_rag → ∃ items,
      list_items db release_id tenant_id (.colour colour) (some config) now none = .ok (items, n)
  overdue : ∃ read items, summary db release_id tenant_id config now = .ok read ∧
    list_items db release_id tenant_id .late (some config) now none =
      .ok (items, read.overdue_reviews)

theorem overdue_agrees (db : Db) (release_id tenant_id : ℕ) (config : RaidConfig) (now : DateTime) :
    ∃ read items, summary db release_id tenant_id config now = .ok read ∧
      list_items db release_id tenant_id .late (some config) now none =
        .ok (items, read.overdue_reviews) := by
  have hkeeps : Filters.late.keeps now = fun item : RaidItem => item.overdue now := by
    funext item
    simp [Filters.keeps, Filters.late, Filters.unfiltered]
  have hlate := @list_items_uncoloured db release_id tenant_id .late config now rfl
  rw [hkeeps] at hlate
  have hcount : (summarise (order_by RaidItem.list_key (live_items db release_id tenant_id)) config
      now).overdue_reviews =
        ((live_items db release_id tenant_id).filter fun item => item.overdue now).length :=
    countP_order_by
  rw [← hcount] at hlate
  exact ⟨_, _, summary_eq db release_id tenant_id config now, hlate⟩

/-- The colour of a band brings its bounds and every score into the query. -/
theorem fits_of_agrees {db : Db} {release_id tenant_id : ℕ} {config : RaidConfig}
    {now : DateTime} (h : Agrees db release_id tenant_id config now) {band : Band}
    (hband : band ∈ config.rag_bands) :
    band.Fits ∧ ∀ item ∈ live_items db release_id tenant_id, ∀ sev ∈ item.severity,
      Smallint sev := by
  obtain ⟨items, total, hlist, -⟩ := h.selects (.colour band.rag) band.rag rfl
  obtain ⟨rows, hrows, -⟩ := (list_items_unpaged rfl).1 hlist
  obtain ⟨hfits, hscores, -⟩ := where_rag_eq_ok.1 hrows
  have htest : band ∈ (_rag_sql_condition config.rag_bands band.rag).tests :=
    Condition.tests_any.2 (mem_tests_matching hband rfl)
  refine ⟨hfits band htest, fun item hitem => ?_⟩
  refine hscores (List.ne_nil_of_mem htest) item (List.mem_filter.2 ⟨hitem, ?_⟩)
  simp [Filters.keeps, Filters.colour, Filters.unfiltered]

/-- In range, the list with a colour is the rows that `rag` gives that colour. -/
theorem list_items_of_inRange {db : Db} {release_id tenant_id : ℕ} {config : RaidConfig}
    {now : DateTime}
    (h : config.rag_bands = [] ∨ InRange config.rag_bands (live_items db release_id tenant_id))
    {filters : Filters} {wanted : String} (hrag : filters.rag = some wanted) :
    list_items db release_id tenant_id filters (some config) now none =
      .ok (order_by RaidItem.list_key
          (((live_items db release_id tenant_id).filter (filters.keeps now)).filter fun item =>
            rag item.severity config.rag_bands = some wanted),
        (((live_items db release_id tenant_id).filter (filters.keeps now)).filter fun item =>
          rag item.severity config.rag_bands = some wanted).length) := by
  refine (list_items_unpaged hrag).2 ⟨_, where_rag_of_inRange wanted ?_, rfl⟩
  exact h.imp_right fun hrange =>
    ⟨hrange.1, fun item hitem => hrange.2 item (List.mem_filter.1 hitem).1⟩

theorem colours_agree {db : Db} {release_id tenant_id : ℕ} {config : RaidConfig} {now : DateTime}
    (h : config.rag_bands = [] ∨ InRange config.rag_bands (live_items db release_id tenant_id))
    {colour : String} {n : ℕ} (hcount : (colour, n) ∈ (summarise (order_by RaidItem.list_key
      (live_items db release_id tenant_id)) config now).counts_by_rag) :
    ∃ items,
      list_items db release_id tenant_id (.colour colour) (some config) now none =
        .ok (items, n) := by
  have hn : n = ((live_items db release_id tenant_id).filter fun item =>
      rag item.severity config.rag_bands = some colour).length := by
    simp only [summarise, List.mem_map, Prod.mk.injEq] at hcount
    obtain ⟨_, -, rfl, rfl⟩ := hcount
    rw [countP_order_by]
  have hkeeps : (live_items db release_id tenant_id).filter
      ((Filters.colour colour).keeps now) = live_items db release_id tenant_id := by
    refine List.filter_eq_self.2 fun item _ => ?_
    simp [Filters.keeps, Filters.colour, Filters.unfiltered]
  rw [hn]
  have hcolour := @list_items_of_inRange _ _ _ _ now h (.colour colour) colour rfl
  rw [hkeeps] at hcolour
  exact ⟨_, hcolour⟩

/-- **The filter, the function and the counts.** They agree on a release if and only if
there are no bands, or the bounds of the bands and the scores of the release's live items
are in the range of a small integer. -/
theorem summary_agrees_iff (db : Db) (release_id tenant_id : ℕ) (config : RaidConfig)
    (now : DateTime) :
    Agrees db release_id tenant_id config now ↔
      config.rag_bands = [] ∨ InRange config.rag_bands (live_items db release_id tenant_id) := by
  constructor
  · intro h
    refine or_iff_not_imp_left.2 fun hbands => ?_
    obtain ⟨band, hmem⟩ := List.exists_mem_of_ne_nil _ hbands
    exact ⟨fun band hmem => (fits_of_agrees h hmem).1, (fits_of_agrees h hmem).2⟩
  · intro h
    refine ⟨?_, ⟨_, summary_eq db release_id tenant_id config now, ?_⟩,
      overdue_agrees db release_id tenant_id config now⟩
    · intro filters wanted hrag
      refine ⟨_, _, list_items_of_inRange h hrag, fun item => ?_⟩
      rw [mem_order_by, List.mem_filter, List.mem_filter, decide_eq_true_eq, and_assoc]
    · exact fun colour n hcount => colours_agree h hcount

namespace OffScale

def admin : CurrentUser := ⟨1, 1, Role.ADMIN, false⟩

/-- Nothing limits a factor from above. -/
def risk : RaidItemCreate where
  item_type := .risk
  owner_id := none
  release_dependency_id := none
  columns
    | .title => .text "Vendor slips"
    | .probability => .number 200
    | .impact => .number 200
    | _ => .null

def db : Db := step (Db.opened ⟨[⟨1, 1, none⟩], [⟨1, 1⟩], []⟩) ⟨admin, .create_raid 1 risk, 0⟩

def config : RaidConfig := ⟨[], [], [⟨1, 14, "green"⟩, ⟨15, 50000, "red"⟩]⟩

end OffScale

/-- The summary counts a red item that no list of the red items shows: the query fails on
the bound of the band, and already on the score where it asks for another colour. -/
theorem off_scale_score_fails_list :
    (summarise (live_items OffScale.db 1 1) OffScale.config 0).counts_by_rag =
        [("green", 0), ("amber", 0), ("red", 1)] ∧
      list_items OffScale.db 1 1 (.colour "red") (some OffScale.config) 0 none =
        .error .StatementError ∧
      list_items OffScale.db 1 1 (.colour "green") (some OffScale.config) 0 none =
        .error .StatementError ∧
      ¬ Agrees OffScale.db 1 1 OffScale.config 0 := by
  have hfails : list_items OffScale.db 1 1 (.colour "red") (some OffScale.config) 0 none =
      .error .StatementError := rfl
  refine ⟨by decide +kernel, hfails, rfl, fun h => ?_⟩
  obtain ⟨items, total, hlist, -⟩ := h.selects (.colour "red") "red" rfl
  rw [hfails] at hlist
  cases hlist

end EnvMgr.Raid

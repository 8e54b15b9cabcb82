/-
Bounded lists: `core/pagination.py`.

A list endpoint takes a window and a sort, which are checked before its service runs. The service
sorts its query, puts a tiebreaker after that, and returns a page of the rows with the number of
rows there are. A client that wants them all goes from page to page, so what a page has must not
depend on how the database breaks ties.
-/
import EnvMgr.Deployments.Model
import EnvMgr.Lib.Paging
import Mathlib.Order.WithBot

namespace EnvMgr.Core

open Deployments (Page fetch_page)
open Paging (Term Answers Separates lex)

variable {α : Type}

/-! ## Windows -/

def DEFAULT_LIMIT : ℕ := 500

def MAX_LIMIT : ℕ := 1000

/-- `pagination(default_limit, max_limit)`: the parameters of the query, where they pass their
bounds. -/
def pagination (default_limit max_limit : ℕ) (limit offset : Option ℤ) : Option Page :=
  let limit := limit.getD default_limit
  let offset := offset.getD 0
  if 1 ≤ limit ∧ limit ≤ max_limit ∧ 0 ≤ offset then some ⟨limit.toNat, offset.toNat⟩ else none

/-! ## Sorts -/

/-- What may be sorted by: a text, or anything else that has an order (a number, an instant). -/
inductive SortTarget (α : Type)
  | text (column : α → Option String)
  | typed (column : α → Option ℤ)

inductive SortDir
  | asc
  | desc
  deriving DecidableEq

/-- `Sort`. -/
structure ListSort (α : Type) where
  column : SortTarget α
  descending : Bool

/-- `sorting(allowed, default, default_dir)` and the dependency that it returns. -/
def sorting (allowed : Dict (SortTarget α)) (default : String) (default_dir : SortDir)
    (sort_by : Option String) (sort_dir : Option SortDir) : Except Raised (ListSort α) := do
  raise_if (default ∉ allowed.keys) .ValueError
  let field_names := ", ".intercalate (order_by id allowed.keys)
  let column ← get_or_raise (allowed.get (sort_by.getD default))
    (http 422 s!"sort_by must be one of: {field_names}")
  .ok ⟨column, sort_dir.getD default_dir = .desc⟩

/-- `NULLS LAST`. -/
def nulls_last {κ : Type} (value : Option κ) : WithTop κ := value

/-- `_sort_key`, ascending: a text is folded. -/
def _sort_key (sql_lower : String → String) : SortTarget α → Term α
  | .text column => .by_key fun a => nulls_last ((column a).map sql_lower)
  | .typed column => .by_key fun a => nulls_last (column a)

/-- `ORDER BY key ASC NULLS LAST`, or `DESC NULLS FIRST`, after the keys that are there. -/
def apply_sort (sql_lower : String → String) (terms : List (Term α)) :
    Option (ListSort α) → List (Term α)
  | none => terms
  | some sort =>
    let key := _sort_key sql_lower sort.column
    terms ++ [if sort.descending then key.reverse else key]

/-! ## What gets through -/

theorem pagination_iff {default_limit max_limit : ℕ} {limit offset : Option ℤ} {page : Page} :
    pagination default_limit max_limit limit offset = some page ↔
      limit.getD default_limit = page.limit ∧ offset.getD 0 = page.offset ∧
        1 ≤ page.limit ∧ page.limit ≤ max_limit := by
  obtain ⟨l, o⟩ := page
  unfold pagination
  dsimp only
  split
  · rw [Option.some.injEq, Page.mk.injEq]
    omega
  · simp only [reduceCtorEq, false_iff]
    omega

theorem get_mem {δ : Type*} {d : Dict δ} {key : String} {a : δ} (h : d.get key = some a) :
    (key, a) ∈ d.items := by
  obtain ⟨i, hi, rfl⟩ := Option.map_eq_some_iff.1 h
  have hkey : i.1 = key := by simpa using List.find?_some hi
  rw [← hkey]
  exact List.mem_of_find?_eq_some hi

/-- A sort is by a column of the whitelist, the one that was asked for. -/
theorem sorting_allowed {allowed : Dict (SortTarget α)} {default : String} {default_dir : SortDir}
    {sort_by : Option String} {sort_dir : Option SortDir} {sort : ListSort α}
    (h : sorting allowed default default_dir sort_by sort_dir = .ok sort) :
    (sort_by.getD default, sort.column) ∈ allowed.items ∧
      (sort.descending = true ↔ sort_dir.getD default_dir = .desc) := by
  obtain ⟨-, -, h⟩ := bind_eq_ok.1 h
  obtain ⟨column, hcolumn, h⟩ := bind_eq_ok.1 h
  cases h
  exact ⟨get_mem (get_or_raise_eq_ok.1 hcolumn), decide_eq_true_iff⟩

/-! ## Going from page to page -/

/-- Each page is cut out of what the database answers to its own query. -/
def pages (answers : ℕ → List α) (limit n : ℕ) : List (List α × ℕ) :=
  (List.range n).map fun i => fetch_page (answers i) (some ⟨limit, i * limit⟩)

/-- **Whatever the sort.** Where the tiebreakers of a list have one that separates its rows, its
pages make up one list of all the rows, in an order that the sort and the tiebreakers allow, and
every page tells how many there are. -/
theorem walk_pages (sql_lower : String → String) (sort : Option (ListSort α)) {tiebreakers : List (Term α)}
    {t : Term α} (ht : t ∈ tiebreakers) {rows : List α} (hsep : Separates t rows)
    {answers : ℕ → List α}
    (h : ∀ i, Answers (apply_sort sql_lower [] sort ++ tiebreakers) rows (answers i))
    {limit n : ℕ} (hn : rows.length ≤ n * limit) :
    Answers (apply_sort sql_lower [] sort ++ tiebreakers) rows
        ((pages answers limit n).flatMap Prod.fst) ∧
      ∀ page ∈ pages answers limit n, page.2 = rows.length := by
  constructor
  · have hwalk := Paging.walk (List.mem_append_right _ ht) hsep h hn
    have hflat : (pages answers limit n).flatMap Prod.fst =
        (List.range n).flatMap fun i => Paging.window limit (i * limit) (answers i) := by
      unfold pages
      rw [List.flatMap_map]
      rfl
    rw [hflat, hwalk]
    exact h 0
  · intro page hpage
    obtain ⟨i, -, rfl⟩ := List.mem_map.1 hpage
    exact (h i).perm.length_eq

end EnvMgr.Core

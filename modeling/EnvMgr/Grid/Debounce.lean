/-
The server grid and its address: `hooks/useServerGrid.ts`.

The query string is the only state that lasts. Text that is being typed is held in
`drafts`, and a timer for each key writes it to the query 300 ms after the last keystroke.
Whatever writes does so through `patch`, which starts from a ref to the newest query and
records what it writes, so that an effect which sees the query change can tell the grid's
own writes from a navigation. On a navigation it drops every draft and stops the timer of
each key that has one.

A draft also goes when the grid's own write leaves the query with the same text, and then
its timer, if it is pending, is out of the effect's reach. So what is typed stays in its
view exactly if at every navigation each pending timer has a draft.
-/
import EnvMgr.Lib.Index
import EnvMgr.Lib.Runs

namespace EnvMgr.Grid

open Runs (run Along Always)

/-! ## `URLSearchParams` -/

/-- The parameters of a query, a name as often as it is given. -/
structure URLSearchParams where
  entries : List (String × String)
  deriving DecidableEq

namespace URLSearchParams

def get (p : URLSearchParams) (name : String) : Option String :=
  (p.entries.find? fun e => e.1 = name).map Prod.snd

def delete (p : URLSearchParams) (name : String) : URLSearchParams where
  entries := p.entries.filter fun e => e.1 ≠ name

/-- The first entry of the name gets the value and the others go; where there is none, one is
appended. -/
def setEntries (name value : String) : List (String × String) → List (String × String)
  | [] => [(name, value)]
  | e :: es =>
    if e.1 = name then (name, value) :: es.filter fun e => e.1 ≠ name
    else e :: setEntries name value es

def set (p : URLSearchParams) (name value : String) : URLSearchParams where
  entries := setEntries name value p.entries

/-- The entries whose name is not among `names`. -/
def others (p : URLSearchParams) (names : List String) : List (String × String) :=
  p.entries.filter fun e => e.1 ∉ names

end URLSearchParams

/-- `location.search`: its parameters and how it spells them, `none` being the spelling of
`toString()`. -/
structure Search where
  params : URLSearchParams
  spelled : Option String
  deriving DecidableEq

/-! ## `serverGridParams.ts` -/

inductive SortDir
  | asc
  | desc
  deriving DecidableEq

def SortDir.text : SortDir → String
  | .asc => "asc"
  | .desc => "desc"

structure WhitelistEntry where
  sortable : List String
  default : String
  default_dir : SortDir
  deriving DecidableEq

structure DefaultSort where
  field : String
  dir : SortDir
  deriving DecidableEq

/-- The field and the direction that the server will accept. -/
def resolveSort (wl : WhitelistEntry) (sortBy sortDir : Option String)
    (defaultSort : Option DefaultSort) : String × SortDir :=
  let pageDefault := defaultSort.filter fun d => d.field ∈ wl.sortable
  ((sortBy.filter fun f => f ≠ "" ∧ f ∈ wl.sortable).getD
      ((pageDefault.map (·.field)).getD wl.default),
    if sortDir = some "asc" then .asc
    else if sortDir = some "desc" then .desc
    else (pageDefault.map (·.dir)).getD wl.default_dir)

/-! ## The hook's state -/

structure Options where
  whitelist : WhitelistEntry
  filterKeys : List String
  debounceKeys : List String
  defaultSort : Option DefaultSort

/-- A value, and how many times the page had been navigated when it was typed or picked. The
count is for the proofs: nothing reads it. -/
structure Typed where
  text : String
  view : ℕ
  deriving DecidableEq

/-- What `patch` is asked to change. -/
abbrev Changes := List (String × Option Typed)

/-- A write to the query, for the proofs: what it was, what it became, and in which view. -/
structure Write where
  before : URLSearchParams
  after : URLSearchParams
  changes : Changes
  resetPage : Bool
  view : ℕ
  deriving DecidableEq

structure State where
  location : Search
  /-- The query of the last render. -/
  searchParams : Search
  searchParamsRef : URLSearchParams
  patchedSearchRef : Option URLSearchParams
  drafts : Index String String
  debounceTimers : Index String Typed
  view : ℕ
  written : List Write

/-- The page is opened. -/
def State.mount (search : Search) (view : ℕ) (written : List Write) : State where
  location := search
  searchParams := search
  searchParamsRef := search.params
  patchedSearchRef := none
  drafts := Index.empty
  debounceTimers := Index.empty
  view := view
  written := written

/-! ## Writing -/

/-- The body of the loop over `Object.entries(changes)`. -/
def applyChange (p : URLSearchParams) (change : String × Option Typed) : URLSearchParams :=
  match change.2 with
  | none => p.delete change.1
  | some value => p.set change.1 value.text

def State.patch (s : State) (changes : Changes) (resetPage : Bool) : State :=
  let next := changes.foldl applyChange s.searchParamsRef
  let next := if resetPage then next.delete "page" else next
  { s with
    searchParamsRef := next
    patchedSearchRef := some next
    location := ⟨next, none⟩
    written := s.written ++ [⟨s.location.params, next, changes, resetPage, s.view⟩] }

/-- The callback of a key's timer. -/
def State.fire (s : State) (key : String) : State :=
  match s.debounceTimers.get key with
  | none => s
  | some value =>
    { s with debounceTimers := s.debounceTimers.erase key }.patch [(key, some value)] true

/-! ## Rendering -/

section Hook

variable (options : Options)

/-- `filters[key]`. -/
def State.filters (s : State) (key : String) : Option String :=
  if key ∈ options.filterKeys then s.searchParams.params.get key else none

/-- The effect that reconciles `drafts` with the query. -/
def State.reconcile (s : State) : State :=
  let wasSelfPatched : Bool := s.patchedSearchRef = some s.searchParams.params
  let s := { s with patchedSearchRef := none }
  if s.drafts.items = [] then s
  else if wasSelfPatched = false then
    { s with
      debounceTimers := s.debounceTimers.filter fun key _ => key ∉ s.drafts.keys
      drafts := Index.empty }
  else
    { s with drafts := s.drafts.filter fun key value => s.filters options key ≠ some value }

/-- The render after an event: the effect runs where the query has changed. -/
def State.commit (s : State) : State :=
  let changed : Bool := s.searchParams ≠ s.location
  let s := { s with searchParams := s.location, searchParamsRef := s.location.params }
  if changed then s.reconcile options else s

/-! ## Events -/

def ALLOWED_PAGE_SIZES : List ℤ := [10, 25, 50, 100]

def DEFAULT_PAGE_SIZE : ℤ := 25

def MAX_SAFE_INTEGER : ℤ := 9007199254740991

-- `Number(raw)`, where it is an integer
variable (number : String → Option ℤ)

def clampInt (raw : Option String) (fallback min max : ℤ) : ℤ :=
  match raw.bind number with
  | none => fallback
  | some n => if min ≤ n ∧ n ≤ max then n else fallback

def clampPageSize (raw : Option String) : ℤ :=
  let n := clampInt number raw DEFAULT_PAGE_SIZE 1 100
  if n ∈ ALLOWED_PAGE_SIZES then n else DEFAULT_PAGE_SIZE

/-- The effect that takes a page past the end back to the last one. -/
def State.clamp (s : State) (total : ℕ) : State :=
  let page := clampInt number (s.searchParams.params.get "page") 0 0 MAX_SAFE_INTEGER
  let pageSize := clampPageSize number (s.searchParams.params.get "page_size")
  let lastPage := max 0 ((total + pageSize - 1) / pageSize - 1)
  if total = 0 ∨ page ≤ lastPage then s
  else s.patch [("page", some ⟨toString lastPage, s.view⟩)] false

inductive Event
  /-- `setFilter`: a keystroke where the key is debounced, else a change of another filter. -/
  | setFilter (key value : String)
  /-- The timers of these keys come due in one task. -/
  | expire (keys : List String)
  | onPaginationModelChange (page pageSize : ℕ)
  | onSortModelChange (field : Option String) (sort : Option SortDir)
  /-- A response says how many rows there are. -/
  | total (total : ℕ)
  /-- Back, Forward or a pasted link, to another view of the page. -/
  | navigate (search : Search)
  /-- The page is left, and opened again. -/
  | reopen (search : Search)

def State.step (s : State) : Event → State
  | .setFilter key value =>
    if key ∈ options.debounceKeys then
      { s with
        drafts := s.drafts.set key value
        debounceTimers := s.debounceTimers.set key ⟨value, s.view⟩ }
    else (s.patch [(key, some ⟨value, s.view⟩)] true).commit options
  | .expire keys => (keys.foldl State.fire s).commit options
  | .onPaginationModelChange page pageSize =>
    (s.patch [("page", some ⟨toString page, s.view⟩),
      ("page_size", some ⟨toString pageSize, s.view⟩)] false).commit options
  | .onSortModelChange field sort =>
    let resolved := resolveSort options.whitelist field (sort.map SortDir.text) options.defaultSort
    (s.patch [("sort_by", some ⟨resolved.1, s.view⟩),
      ("sort_dir", some ⟨resolved.2.text, s.view⟩)] true).commit options
  | .total total => (s.clamp number total).commit options
  | .navigate search => { s with location := search, view := s.view + 1 }.commit options
  | .reopen search => State.mount search (s.view + 1) s.written

end Hook

/-! ## What is promised -/

/-- All that the write was not asked to change is as it was. -/
def Write.Keeps (w : Write) : Prop :=
  let touched := w.changes.map Prod.fst ++ if w.resetPage then ["page"] else []
  w.after.others touched = w.before.others touched

/-- What is written was typed or picked in the view it is written to. -/
def Write.Current (w : Write) : Prop :=
  ∀ c ∈ w.changes, ∀ value, c.2 = some value → value.view = w.view

/-- Neither what has been written nor what the timers would write now comes from a view that was
left. -/
def NeverStale (options : Options) (number : String → Option ℤ) (s : State) : Prop :=
  ∀ keys, ∀ w ∈ (s.step options number (.expire keys)).written, w.Current

/-- A navigation changes the query, to another than the grid wrote last, and every timer that is
pending has a draft. -/
def Clean (s : State) : Event → Prop
  | .navigate search => ∀ key ∈ s.debounceTimers.keys,
      search ≠ s.location ∧ s.patchedSearchRef ≠ some search.params ∧ key ∈ s.drafts.keys
  | _ => True

/-! ## Parameters that are left alone -/

namespace URLSearchParams

variable {p : URLSearchParams} {name value : String} {names : List String}

theorem others_delete (h : name ∈ names) : (p.delete name).others names = p.others names := by
  rw [others, delete, others, List.filter_filter]
  refine List.filter_congr fun e _ => ?_
  by_cases he : e.1 = name
  · simp [he, h]
  · simp [he]

theorem filter_setEntries (h : name ∈ names) (es : List (String × String)) :
    (setEntries name value es).filter (fun e => e.1 ∉ names) =
      es.filter fun e => e.1 ∉ names := by
  induction es with
  | nil => simp [setEntries, h]
  | cons e es ih =>
    rw [setEntries]
    by_cases he : e.1 = name
    · have hrest : (es.filter fun e => e.1 ≠ name).filter (fun e => e.1 ∉ names) =
          es.filter fun e => e.1 ∉ names := others_delete (p := ⟨es⟩) h
      rw [if_pos he, List.filter_cons, if_neg (by simp [h]), hrest, List.filter_cons,
        if_neg (by simp [he, h])]
    · rw [if_neg he, List.filter_cons, List.filter_cons, ih]

theorem others_set (h : name ∈ names) : (p.set name value).others names = p.others names :=
  filter_setEntries h p.entries

end URLSearchParams

theorem others_applyChange {names : List String} {change : String × Option Typed}
    (h : change.1 ∈ names) (p : URLSearchParams) :
    (applyChange p change).others names = p.others names := by
  rw [applyChange]
  split
  · exact URLSearchParams.others_delete h
  · exact URLSearchParams.others_set h

theorem others_foldl {names : List String} {changes : Changes} (h : changes.map Prod.fst ⊆ names)
    (p : URLSearchParams) : (changes.foldl applyChange p).others names = p.others names := by
  induction changes generalizing p with
  | nil => rfl
  | cons change changes ih =>
    rw [List.map_cons, List.cons_subset] at h
    rw [List.foldl_cons, ih h.2, others_applyChange h.1]

/-! ## What the grid does to its state -/

/-- The ref holds the query that is current. -/
def Synced (s : State) : Prop := s.searchParamsRef = s.location.params

/-- No timer that is pending holds text from a view that was left. -/
def Fresh (s : State) : Prop :=
  ∀ key value, s.debounceTimers.get key = some value → value.view = s.view

/-- What holds between a state and one that the grid makes of it. -/
structure Acts (s s' : State) : Prop where
  view : s'.view = s.view
  timers : ∀ key value, s'.debounceTimers.get key = some value →
    s.debounceTimers.get key = some value
  synced : Synced s → Synced s'
  kept : Synced s → (∀ w ∈ s.written, w.Keeps) → ∀ w ∈ s'.written, w.Keeps
  current : Fresh s → (∀ w ∈ s.written, w.Current) → ∀ w ∈ s'.written, w.Current

theorem Acts.refl (s : State) : Acts s s :=
  ⟨rfl, fun _ _ h => h, fun h => h, fun _ h => h, fun _ h => h⟩

theorem Acts.fresh {s s' : State} (h : Acts s s') (hs : Fresh s) : Fresh s' := by
  intro key value hget
  rw [h.view]
  exact hs key value (h.timers key value hget)

theorem Acts.trans {s s' s'' : State} (h : Acts s s') (h' : Acts s' s'') : Acts s s'' where
  view := h'.view.trans h.view
  timers key value hget := h.timers key value (h'.timers key value hget)
  synced hs := h'.synced (h.synced hs)
  kept hs hkept := h'.kept (h.synced hs) (h.kept hs hkept)
  current hs hcurrent := h'.current (h.fresh hs) (h.current hs hcurrent)

section Patch

variable {s : State} {changes : Changes} {resetPage : Bool}

/-- **What a write leaves alone** is what the query had. -/
theorem patch_kept (hs : Synced s) (h : ∀ w ∈ s.written, w.Keeps) :
    ∀ w ∈ (s.patch changes resetPage).written, w.Keeps := by
  intro w hw
  rcases List.mem_append.1 hw with hw | hw
  · exact h w hw
  obtain rfl := List.mem_singleton.1 hw
  rw [Synced] at hs
  rw [Write.Keeps]
  dsimp only
  rw [← hs]
  cases resetPage with
  | true =>
    rw [if_pos rfl, if_pos rfl, URLSearchParams.others_delete (by simp),
      others_foldl (List.subset_append_left _ _)]
  | false =>
    rw [if_neg Bool.false_ne_true, if_neg Bool.false_ne_true,
      others_foldl (List.subset_append_left _ _)]

theorem patch_current (hchanges : ∀ c ∈ changes, ∀ value, c.2 = some value → value.view = s.view)
    (h : ∀ w ∈ s.written, w.Current) : ∀ w ∈ (s.patch changes resetPage).written, w.Current := by
  intro w hw
  rcases List.mem_append.1 hw with hw | hw
  · exact h w hw
  · obtain rfl := List.mem_singleton.1 hw
    exact hchanges

theorem patch_acts (hchanges : ∀ c ∈ changes, ∀ value, c.2 = some value → value.view = s.view) :
    Acts s (s.patch changes resetPage) where
  view := rfl
  timers _ _ h := h
  synced _ := rfl
  kept := patch_kept
  current _ := patch_current hchanges

end Patch

theorem fire_acts (s : State) (key : String) : Acts s (s.fire key) := by
  rw [State.fire]
  cases hkey : s.debounceTimers.get key with
  | none => exact Acts.refl s
  | some value =>
    refine ⟨rfl, fun _ _ h => (Index.get_erase.1 h).1, fun _ => rfl, ?_, ?_⟩
    · intro hs h
      exact patch_kept (s := { s with debounceTimers := s.debounceTimers.erase key }) hs h
    · intro hfresh h
      refine patch_current (s := { s with debounceTimers := s.debounceTimers.erase key }) ?_ h
      intro c hc v hv
      rw [List.mem_singleton.1 hc] at hv
      obtain rfl := Option.some.inj hv
      exact hfresh key value hkey

theorem fires_acts (keys : List String) (s : State) : Acts s (keys.foldl State.fire s) := by
  induction keys generalizing s with
  | nil => exact Acts.refl s
  | cons key keys ih => exact (fire_acts s key).trans (ih (s.fire key))

section Hook

variable {options : Options} {number : String → Option ℤ}

theorem reconcile_acts (s : State) : Acts s (s.reconcile options) := by
  rw [State.reconcile]
  split_ifs
  · exact ⟨rfl, fun _ _ h => h, fun h => h, fun _ h => h, fun _ h => h⟩
  · exact ⟨rfl, fun _ _ h => (Index.get_filter.1 h).1, fun h => h, fun _ h => h, fun _ h => h⟩
  · exact ⟨rfl, fun _ _ h => h, fun h => h, fun _ h => h, fun _ h => h⟩

theorem commit_acts (s : State) : Acts s (s.commit options) := by
  have hrender : Acts s { s with
      searchParams := s.location
      searchParamsRef := s.location.params } :=
    ⟨rfl, fun _ _ h => h, fun _ => rfl, fun _ h => h, fun _ h => h⟩
  rw [State.commit]
  split_ifs
  · exact hrender.trans (reconcile_acts _)
  · exact hrender

theorem clamp_acts (s : State) (total : ℕ) : Acts s (s.clamp number total) := by
  rw [State.clamp]
  split_ifs
  · exact Acts.refl s
  · refine patch_acts ?_
    intro c hc value hvalue
    rw [List.mem_singleton.1 hc] at hvalue
    rw [← Option.some.inj hvalue]

/-! ## Between two events -/

/-- The query is rendered, the ref holds it, and what is being typed was not typed later. -/
structure AtRest (s : State) : Prop where
  rendered : s.searchParams = s.location
  synced : Synced s
  stamped : ∀ key value, s.debounceTimers.get key = some value → value.view ≤ s.view

theorem reconcile_location (s : State) : (s.reconcile options).location = s.location ∧
    (s.reconcile options).searchParams = s.searchParams := by
  rw [State.reconcile]
  split_ifs <;> exact ⟨rfl, rfl⟩

theorem commit_rendered (s : State) :
    (s.commit options).searchParams = (s.commit options).location := by
  rw [State.commit]
  split_ifs
  · rw [(reconcile_location _).1, (reconcile_location _).2]
  · rfl

theorem commit_synced (s : State) : Synced (s.commit options) := by
  rw [State.commit]
  split_ifs
  · exact (reconcile_acts _).synced rfl
  · rfl

theorem commit_written (s : State) : (s.commit options).written = s.written := by
  rw [State.commit, State.reconcile]
  split_ifs <;> rfl

theorem mount_atRest (search : Search) (view : ℕ) (written : List Write) :
    AtRest (State.mount search view written) :=
  ⟨rfl, rfl, fun _ _ h => by cases h⟩

theorem AtRest.commit {s s' : State} (h : AtRest s) (hacts : Acts s s') :
    AtRest (s'.commit options) := by
  refine ⟨commit_rendered s', commit_synced s', ?_⟩
  have hall := hacts.trans (@commit_acts options s')
  intro key value hget
  rw [hall.view]
  exact h.stamped key value (hall.timers key value hget)

/-- What the grid itself writes in one event, unless it is text that was typed before. -/
theorem patch_now_acts (s : State) (changes : List (String × String)) (resetPage : Bool) :
    Acts s (s.patch (changes.map fun c => (c.1, some ⟨c.2, s.view⟩)) resetPage) := by
  refine patch_acts ?_
  intro c hc value hvalue
  obtain ⟨c', -, rfl⟩ := List.mem_map.1 hc
  rw [← Option.some.inj hvalue]

/-- An event is a keystroke, a navigation, or something the grid does before it renders. -/
theorem step_cases (options : Options) (number : String → Option ℤ) (s : State) (event : Event) :
    (∃ key value, event = .setFilter key value ∧ s.step options number event =
      { s with
        drafts := s.drafts.set key value
        debounceTimers := s.debounceTimers.set key ⟨value, s.view⟩ }) ∨
    (∃ search, event = .navigate search) ∨
    (∃ search, event = .reopen search) ∨
    ((∀ search, event ≠ .navigate search) ∧
      ∃ s', Acts s s' ∧ s.step options number event = s'.commit options) := by
  cases event with
  | setFilter key value =>
    rw [State.step]
    split_ifs
    · exact Or.inl ⟨key, value, rfl, rfl⟩
    · exact Or.inr (Or.inr (Or.inr
        ⟨fun _ => by simp, _, patch_now_acts s [(key, value)] true, rfl⟩))
  | expire keys =>
    exact Or.inr (Or.inr (Or.inr ⟨fun _ => by simp, _, fires_acts keys s, rfl⟩))
  | onPaginationModelChange page pageSize =>
    exact Or.inr (Or.inr (Or.inr ⟨fun _ => by simp, _, patch_now_acts s
      [("page", toString page), ("page_size", toString pageSize)] false, rfl⟩))
  | onSortModelChange field sort =>
    exact Or.inr (Or.inr (Or.inr ⟨fun _ => by simp, _, patch_now_acts s
      [("sort_by", (resolveSort options.whitelist field (sort.map SortDir.text)
          options.defaultSort).1),
        ("sort_dir", (resolveSort options.whitelist field (sort.map SortDir.text)
          options.defaultSort).2.text)] true, rfl⟩))
  | total total =>
    exact Or.inr (Or.inr (Or.inr ⟨fun _ => by simp, _, clamp_acts s total, rfl⟩))
  | navigate search => exact Or.inr (Or.inl ⟨search, rfl⟩)
  | reopen search => exact Or.inr (Or.inr (Or.inl ⟨search, rfl⟩))

/-- **What the effect leaves pending**: all, where the grid itself wrote the query, and else
what has no draft. -/
theorem reconcile_timers {s : State} {key : String} {value : Typed} :
    (s.reconcile options).debounceTimers.get key = some value ↔
      s.debounceTimers.get key = some value ∧
        ¬ (s.patchedSearchRef ≠ some s.searchParams.params ∧ key ∈ s.drafts.keys) := by
  rw [State.reconcile]
  split_ifs with hdrafts hself
  · have hkeys : key ∉ s.drafts.keys := by
      rw [Index.keys, hdrafts]
      exact List.not_mem_nil
    exact (and_iff_left fun h => hkeys h.2).symm
  · rw [decide_eq_false_iff_not] at hself
    rw [Index.get_filter, decide_eq_true_eq]
    exact and_congr_right fun _ => not_congr (and_iff_right hself).symm
  · rw [decide_eq_false_iff_not, not_not] at hself
    exact (and_iff_left fun h => h.1 hself).symm

theorem navigate_timers {s : State} (h : AtRest s) {search : Search} {key : String}
    {value : Typed} :
    (s.step options number (.navigate search)).debounceTimers.get key = some value ↔
      s.debounceTimers.get key = some value ∧
        ¬ (search ≠ s.location ∧ s.patchedSearchRef ≠ some search.params ∧
          key ∈ s.drafts.keys) := by
  rw [State.step, State.commit, h.rendered]
  split_ifs with hchanged
  · rw [decide_eq_true_eq, ne_comm] at hchanged
    rw [reconcile_timers]
    exact and_congr_right fun _ => not_congr (and_iff_right hchanged).symm
  · rw [decide_eq_true_eq, not_not] at hchanged
    exact (and_iff_left fun hleft => hleft.1 hchanged.symm).symm

theorem step_atRest {s : State} (h : AtRest s) (event : Event) :
    AtRest (s.step options number event) := by
  rcases step_cases options number s event with
    ⟨key, value, -, hstep⟩ | ⟨search, rfl⟩ | ⟨search, rfl⟩ | ⟨-, s', hacts, hstep⟩
  · rw [hstep]
    refine ⟨h.rendered, h.synced, ?_⟩
    intro key' value' hget
    dsimp only at hget ⊢
    rw [Index.get_set] at hget
    split_ifs at hget
    · rw [← Option.some.inj hget]
    · exact h.stamped key' value' hget
  · refine ⟨commit_rendered _, commit_synced _, ?_⟩
    intro key value hget
    have hview : (s.step options number (.navigate search)).view = s.view + 1 :=
      (commit_acts _).view
    rw [hview]
    exact Nat.le_succ_of_le (h.stamped key value ((navigate_timers h).1 hget).1)
  · exact mount_atRest search _ _
  · rw [hstep]
    exact h.commit hacts

/-- **Every write leaves the other parameters alone.** -/
theorem step_kept {s : State} (h : AtRest s) (hs : ∀ w ∈ s.written, w.Keeps) (event : Event) :
    ∀ w ∈ (s.step options number event).written, w.Keeps := by
  rcases step_cases options number s event with
    ⟨key, value, -, hstep⟩ | ⟨search, rfl⟩ | ⟨search, rfl⟩ | ⟨-, s', hacts, hstep⟩
  · rw [hstep]
    exact hs
  · rw [State.step, commit_written]
    exact hs
  · exact hs
  · rw [hstep, commit_written]
    exact hacts.kept h.synced hs

theorem step_current {s : State} (hfresh : Fresh s) (hs : ∀ w ∈ s.written, w.Current)
    (event : Event) : ∀ w ∈ (s.step options number event).written, w.Current := by
  rcases step_cases options number s event with
    ⟨key, value, -, hstep⟩ | ⟨search, rfl⟩ | ⟨search, rfl⟩ | ⟨-, s', hacts, hstep⟩
  · rw [hstep]
    exact hs
  · rw [State.step, commit_written]
    exact hs
  · exact hs
  · rw [hstep, commit_written]
    exact hacts.current hfresh hs

/-- **A navigation leaves text of the view behind** exactly if it is not clean. Nothing else
does. -/
theorem step_fresh_iff {s : State} (h : AtRest s) (hfresh : Fresh s) (event : Event) :
    Fresh (s.step options number event) ↔ Clean s event := by
  rcases step_cases options number s event with
    ⟨key, value, rfl, hstep⟩ | ⟨search, rfl⟩ | ⟨search, rfl⟩ | ⟨hother, s', hacts, hstep⟩
  · refine iff_of_true ?_ trivial
    rw [hstep]
    intro key' value' hget
    dsimp only at hget ⊢
    rw [Index.get_set] at hget
    split_ifs at hget
    · rw [← Option.some.inj hget]
    · exact hfresh key' value' hget
  · have hview : (s.step options number (.navigate search)).view = s.view + 1 :=
      (commit_acts _).view
    constructor
    · intro hnext key hkey
      obtain ⟨value, hget⟩ := Index.mem_keys.1 hkey
      by_contra hleft
      have hlate := hnext key value ((navigate_timers h).2 ⟨hget, hleft⟩)
      rw [hview] at hlate
      exact absurd (h.stamped key value hget) (by omega)
    · intro hclean key value hget
      obtain ⟨hpending, hleft⟩ := (navigate_timers h).1 hget
      exact absurd (hclean key (Index.mem_keys.2 ⟨value, hpending⟩)) hleft
  · refine iff_of_true ?_ trivial
    intro key value hget
    cases hget
  · have hclean : Clean s event := by
      cases event with
      | navigate search => exact absurd rfl (hother search)
      | _ => trivial
    refine iff_of_true ?_ hclean
    rw [hstep]
    exact (hacts.trans (commit_acts s')).fresh hfresh

/-- Timers that hold text of the view write it to the view; others give themselves away when
they come due. -/
theorem neverStale_iff {s : State} : NeverStale options number s ↔
    (∀ w ∈ s.written, w.Current) ∧ Fresh s := by
  constructor
  · intro h
    constructor
    · have hnone := h []
      rw [State.step, commit_written] at hnone
      exact hnone
    · intro key value hget
      have hone := h [key]
      rw [State.step, commit_written, List.foldl_cons, List.foldl_nil, State.fire, hget] at hone
      exact hone _ (List.mem_append_right _ (List.mem_singleton_self _)) _
        (List.mem_singleton_self _) value rfl
  · rintro ⟨hcurrent, hfresh⟩ keys
    exact step_current hfresh hcurrent (.expire keys)

/-- **Text stays in the view it was typed in**, in every state of a run and whatever timers come
due next, exactly if every navigation of the run is clean; and every write, in any run, leaves
the other parameters of the query alone. -/
theorem stays_in_view_iff (options : Options) (number : String → Option ℤ) (search : Search)
    (events : List Event) :
    (∀ w ∈ (run (State.step options number) (State.mount search 0 []) events).written,
      w.Keeps) ∧
    (Always (State.step options number) (NeverStale options number) (State.mount search 0 [])
        events ↔
      Along (State.step options number) Clean (State.mount search 0 []) events) := by
  have hopen : AtRest (State.mount search 0 []) := mount_atRest search 0 []
  constructor
  · have hstep : ∀ (s : State) event, (AtRest s ∧ ∀ w ∈ s.written, w.Keeps) →
        AtRest (s.step options number event) ∧
          ∀ w ∈ (s.step options number event).written, w.Keeps :=
      fun s event h => ⟨step_atRest h.1 event, step_kept h.1 h.2 event⟩
    exact (Runs.run_inv hstep ⟨hopen, fun w hw => absurd hw List.not_mem_nil⟩ events).2
  · have hrest : ∀ (s : State) event, AtRest s → AtRest (s.step options number event) :=
      fun s event h => step_atRest h event
    refine Runs.always_iff_along hrest ?_ hopen ?_ events
    · intro s event h hnever
      obtain ⟨hcurrent, hfresh⟩ := neverStale_iff.1 hnever
      rw [neverStale_iff, and_iff_right (step_current hfresh hcurrent event)]
      exact step_fresh_iff h hfresh event
    · refine neverStale_iff.2 ⟨fun w hw => absurd hw List.not_mem_nil, ?_⟩
      intro key value hget
      cases hget

end Hook

/-! ## Text typed back to what the query has -/

namespace Retyped

def options : Options where
  whitelist := ⟨["name"], "name", .asc⟩
  filterKeys := ["search", "status"]
  debounceKeys := ["search"]
  defaultSort := none

/-- A letter too many is typed and taken back, a status is picked, and Back is pressed before
the timer comes due. -/
def events : List Event :=
  [.setFilter "search" "ab", .setFilter "search" "a", .setFilter "status" "open",
    .navigate ⟨⟨[("search", "z")]⟩, none⟩, .expire ["search"]]

def final : State :=
  run (State.step options String.toInt?) (State.mount ⟨⟨[("search", "a")]⟩, none⟩ 0 []) events

end Retyped

/-- The text is written over that of the view gone back to. -/
theorem retyped_text_is_late : Retyped.final.location.params = ⟨[("search", "a")]⟩ ∧
    ∃ w ∈ Retyped.final.written, ¬ w.Current := by
  have hlate : (⟨⟨[("search", "z")]⟩, ⟨[("search", "a")]⟩, [("search", some ⟨"a", 0⟩)], true, 1⟩ :
      Write) ∈ Retyped.final.written := by decide +kernel
  refine ⟨by decide +kernel, _, hlate, ?_⟩
  intro h
  exact absurd (h _ (List.mem_singleton_self _) _ rfl) (by decide)

end EnvMgr.Grid

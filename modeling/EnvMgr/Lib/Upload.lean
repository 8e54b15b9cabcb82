/-
Uploads that are taken row by row.

A row of a sheet is blank, bad or good, whatever the state is. Blank rows are passed over,
bad ones reported, and good ones placed one after another; a good row that cannot be placed
ends the upload. So an upload that returns has placed the good rows as if there had been no
others, and has accounted for every row that was not blank.

In an upload that updates what it finds and makes the rest, a row with a key overwrites what is
held under that key, if it is open to the upload, and makes one where nothing is held. What is
held and not open is in its way. Taken a second time the same rows find all their keys held, and
overwrite what they wrote with what they wrote.
-/
import EnvMgr.Lib.Raising
import Mathlib.Data.Bool.Count

namespace EnvMgr.Upload

universe u

variable {σ μ : Type u} {γ ρ : Type*}

/-! ## Rows -/

/-- What a row is taken for. -/
inductive Row (γ : Type*) (μ : Type u)
  | blank
  | bad (fault : μ)
  | good (g : γ)

def Row.good? : Row γ μ → Option γ
  | .good g => some g
  | _ => none

def Row.fault? : Row γ μ → Option μ
  | .bad fault => some fault
  | _ => none

def Row.is_blank : Row γ μ → Bool
  | .blank => true
  | _ => false

def goods (rows : List (Row γ μ × ℕ)) : List γ := rows.filterMap fun r => r.1.good?

/-- The bad rows, by their numbers. -/
def faults (rows : List (Row γ μ × ℕ)) : List (ℕ × μ) :=
  rows.filterMap fun r => r.1.fault?.map fun fault => (r.2, fault)

section Cons

variable {rows : List (Row γ μ × ℕ)} {n : ℕ} {fault : μ} {g : γ}

theorem goods_blank : goods ((Row.blank, n) :: rows) = goods rows := rfl

theorem goods_bad : goods ((Row.bad fault, n) :: rows) = goods rows := rfl

theorem goods_good : goods ((Row.good g, n) :: rows) = g :: goods rows := rfl

theorem faults_blank : faults ((Row.blank, n) :: rows) = faults rows := rfl

theorem faults_bad : faults ((Row.bad fault, n) :: rows) = (n, fault) :: faults rows := rfl

theorem faults_good : faults ((Row.good g, n) :: rows) = faults rows := rfl

end Cons

/-- How many rows made something new, how many found it there, and what was reported. -/
structure Counts (μ : Type u) where
  fresh : ℕ
  known : ℕ
  errors : List (ℕ × μ)

/-! ## The loop -/

section

variable (place : σ → γ → Except ρ (σ × Bool))

/-- `place` says whether what it placed is new. -/
def take_row (s : σ × Counts μ) (numbered : Row γ μ × ℕ) : Except ρ (σ × Counts μ) :=
  match numbered.1 with
  | .blank => .ok s
  | .bad fault => .ok (s.1, { s.2 with errors := s.2.errors ++ [(numbered.2, fault)] })
  | .good g => do
    let (s', fresh) ← place s.1 g
    .ok (s',
      { s.2 with
        fresh := s.2.fresh + if fresh then 1 else 0
        known := s.2.known + if fresh then 0 else 1 })

/-- The good rows alone. -/
def store : σ → List γ → Except ρ (σ × List Bool)
  | s, [] => .ok (s, [])
  | s, g :: gs => do
    let (s₁, fresh) ← place s g
    let (s₂, rest) ← store s₁ gs
    .ok (s₂, fresh :: rest)

end

variable {place : σ → γ → Except ρ (σ × Bool)}

theorem store_cons_ok {s t : σ} {g : γ} {gs : List γ} {news : List Bool} :
    store place s (g :: gs) = .ok (t, news) ↔ ∃ s₁ fresh rest, place s g = .ok (s₁, fresh) ∧
      store place s₁ gs = .ok (t, rest) ∧ news = fresh :: rest := by
  simp only [store, bind_eq_ok, Prod.exists, Except.ok.injEq, Prod.mk.injEq]
  constructor
  · rintro ⟨s₁, fresh, hplace, s₂, rest, hstore, rfl, rfl⟩
    exact ⟨s₁, fresh, rest, hplace, hstore, rfl⟩
  · rintro ⟨s₁, fresh, rest, hplace, hstore, rfl⟩
    exact ⟨s₁, fresh, hplace, t, rest, hstore, rfl, rfl⟩

/-- **The loop is the good rows and the faults**, taken apart. -/
theorem take_rows_ok {rows : List (Row γ μ × ℕ)} {s t : σ} {c d : Counts μ} :
    rows.foldlM (take_row place) (s, c) = .ok (t, d) ↔
      ∃ news, store place s (goods rows) = .ok (t, news) ∧
        d = ⟨c.fresh + news.count true, c.known + news.count false, c.errors ++ faults rows⟩ := by
  induction rows generalizing s c with
  | nil =>
    simp only [List.foldlM_nil, goods, faults, List.filterMap_nil, store, Except.ok.injEq,
      Prod.mk.injEq, List.append_nil]
    constructor
    · intro h
      cases h
      exact ⟨[], ⟨rfl, rfl⟩, rfl⟩
    · rintro ⟨news, ⟨rfl, rfl⟩, rfl⟩
      rfl
  | cons r rows ih =>
    obtain ⟨row, n⟩ := r
    rw [List.foldlM_cons, bind_eq_ok]
    cases row with
    | blank =>
      rw [goods_blank, faults_blank, ← ih]
      simp [take_row]
    | bad fault =>
      rw [goods_bad, faults_bad, List.append_cons]
      refine Iff.trans ?_ (@ih s { c with errors := c.errors ++ [(n, fault)] })
      simp [take_row]
    | good g =>
      rw [goods_good, faults_good]
      simp only [take_row, bind_eq_ok, Prod.exists, Except.ok.injEq, Prod.mk.injEq, store_cons_ok]
      constructor
      · rintro ⟨_, _, ⟨s₁, fresh, hplace, rfl, rfl⟩, hloop⟩
        obtain ⟨rest, hstore, rfl⟩ := ih.1 hloop
        refine ⟨fresh :: rest, ⟨s₁, fresh, rest, hplace, hstore, rfl⟩, ?_⟩
        cases fresh <;> simp <;> omega
      · rintro ⟨_, ⟨s₁, fresh, rest, hplace, hstore, rfl⟩, rfl⟩
        refine ⟨s₁, _, ⟨s₁, fresh, hplace, rfl, rfl⟩, ih.2 ⟨rest, hstore, ?_⟩⟩
        cases fresh <;> simp <;> omega

theorem store_length {s t : σ} {gs : List γ} {news : List Bool}
    (h : store place s gs = .ok (t, news)) : news.length = gs.length := by
  induction gs generalizing s news with
  | nil =>
    cases h
    rfl
  | cons g gs ih =>
    obtain ⟨s₁, fresh, rest, -, hrest, rfl⟩ := store_cons_ok.1 h
    rw [List.length_cons, List.length_cons, ih hrest]

/-! ## Whole sheets -/

/-- The rows of a sheet, read and numbered from `first`. -/
def read {α : Type*} (parse : α → Row γ μ) (first : ℕ) (rows : List α) : List (Row γ μ × ℕ) :=
  (rows.zipIdx first).map fun r => (parse r.1, r.2)

variable {α : Type*} {parse : α → Row γ μ} {first : ℕ}

theorem read_cons {row : α} {rows : List α} :
    read parse first (row :: rows) = (parse row, first) :: read parse (first + 1) rows := rfl

theorem goods_read {rows : List α} :
    goods (read parse first rows) = rows.filterMap fun row => (parse row).good? := by
  induction rows generalizing first with
  | nil => rfl
  | cons row rows ih =>
    rw [read_cons, List.filterMap_cons, ← @ih (first + 1)]
    cases parse row with
    | blank => rfl
    | bad fault => rfl
    | good g => rfl

theorem mem_goods {rows : List α} {g : γ} :
    g ∈ goods (read parse first rows) ↔ ∃ row ∈ rows, parse row = .good g := by
  rw [goods_read, List.mem_filterMap]
  refine exists_congr fun row => and_congr_right fun _ => ?_
  cases parse row with
  | blank => simp [Row.good?]
  | bad fault => simp [Row.good?]
  | good g' => simp [Row.good?]

/-- Every row that is not blank is good or bad. -/
theorem length_read {rows : List α} :
    (goods (read parse first rows)).length + (faults (read parse first rows)).length =
      (rows.filter fun row => !(parse row).is_blank).length := by
  induction rows generalizing first with
  | nil => rfl
  | cons row rows ih =>
    have hrest := @ih (first + 1)
    rw [read_cons]
    cases h : parse row with
    | blank =>
      rw [goods_blank, faults_blank, List.filter_cons_of_neg (by simp [h, Row.is_blank])]
      exact hrest
    | bad fault =>
      rw [goods_bad, faults_bad, List.filter_cons_of_pos (by simp [h, Row.is_blank]),
        List.length_cons, List.length_cons]
      omega
    | good g =>
      rw [goods_good, faults_good, List.filter_cons_of_pos (by simp [h, Row.is_blank]),
        List.length_cons, List.length_cons]
      omega

/-- The sheet without its bad rows. -/
def without_bad (parse : α → Row γ μ) (rows : List α) : List α :=
  rows.filter fun row => (parse row).fault?.isNone

/-- Without the bad rows there is nothing to report, and the good rows are the same. -/
theorem read_without_bad {rows : List α} :
    goods (read parse first (without_bad parse rows)) = goods (read parse first rows) ∧
      faults (read parse first (without_bad parse rows)) = [] := by
  induction rows generalizing first with
  | nil => exact ⟨rfl, rfl⟩
  | cons row rows ih =>
    have hgoods : ∀ first first' (rows : List α),
        goods (read parse first rows) = goods (read parse first' rows) := fun _ _ _ => by
      rw [goods_read, goods_read]
    cases h : parse row with
    | blank =>
      have hkept : without_bad parse (row :: rows) = row :: without_bad parse rows :=
        List.filter_cons_of_pos (by simp [h, Row.fault?])
      rw [hkept, read_cons, read_cons, h, goods_blank, goods_blank, faults_blank]
      exact ih
    | bad fault =>
      have hkept : without_bad parse (row :: rows) = without_bad parse rows :=
        List.filter_cons_of_neg (by simp [h, Row.fault?])
      rw [hkept, read_cons, h, goods_bad, hgoods (first + 1) first]
      exact ih
    | good g =>
      have hkept : without_bad parse (row :: rows) = row :: without_bad parse rows :=
        List.filter_cons_of_pos (by simp [h, Row.fault?])
      rw [hkept, read_cons, read_cons, h, goods_good, goods_good, faults_good, (@ih (first + 1)).1]
      exact ⟨rfl, ih.2⟩

/-- A loop that can be seen as another one, turn by turn. -/
theorem foldlM_map {β : Type u} {τ τ' : Type*} {f : σ → τ → Except ρ σ} {g : β → τ' → Except ρ β}
    {view : σ → β} {k : τ → τ'} (h : ∀ s x, (f s x).map view = g (view s) (k x)) {s : σ}
    {xs : List τ} : (xs.foldlM f s).map view = (xs.map k).foldlM g (view s) := by
  induction xs generalizing s with
  | nil => rfl
  | cons x xs ih =>
    rw [List.map_cons, List.foldlM_cons, List.foldlM_cons, ← h s x]
    cases f s x with
    | error e => rfl
    | ok t => exact ih

/-! ## Isolation -/

/-- The upload returns, and the bad rows make no difference but to what is reported. -/
def Isolates (upload : List α → Except ρ (σ × Counts μ)) (parse : α → Row γ μ) (first : ℕ)
    (rows : List α) (stored : σ → γ → Prop) : Prop :=
  ∃ t c, upload rows = .ok (t, c) ∧
    c.errors = faults (read parse first rows) ∧
    c.fresh + c.known + c.errors.length =
      (rows.filter fun row => !(parse row).is_blank).length ∧
    upload (without_bad parse rows) = .ok (t, { c with errors := [] }) ∧
    ∀ g ∈ goods (read parse first rows), stored t g

/-- **An upload that returns isolates its rows.** -/
theorem isolates_of_store {stored : σ → γ → Prop} {upload : List α → Except ρ (σ × Counts μ)}
    {s t : σ} {news : List Bool} {rows : List α} (hupload : ∀ rows, upload rows =
      (read parse first rows).foldlM (take_row place) (s, ⟨0, 0, []⟩))
    (hstore : store place s (goods (read parse first rows)) = .ok (t, news))
    (hstored : ∀ g ∈ goods (read parse first rows), stored t g) :
    Isolates upload parse first rows stored := by
  obtain ⟨hgoods, hfaults⟩ := @read_without_bad _ _ _ parse first rows
  refine ⟨t, ⟨0 + news.count true, 0 + news.count false, [] ++ faults (read parse first rows)⟩,
    ?_, List.nil_append _, ?_, ?_, hstored⟩
  · rw [hupload]
    exact take_rows_ok.2 ⟨news, hstore, rfl⟩
  · have hlength := store_length hstore
    have hcount := List.count_true_add_count_false news
    rw [← @length_read _ _ _ parse first]
    simp only [List.nil_append]
    omega
  · rw [hupload]
    refine take_rows_ok.2 ⟨news, ?_, ?_⟩
    · rw [hgoods]
      exact hstore
    · rw [hfaults]
      rfl

theorem store_of_isolates {stored : σ → γ → Prop} {upload : List α → Except ρ (σ × Counts μ)}
    {s : σ} {rows : List α} (hupload : ∀ rows, upload rows =
      (read parse first rows).foldlM (take_row place) (s, ⟨0, 0, []⟩))
    (h : Isolates upload parse first rows stored) :
    ∃ r, store place s (goods (read parse first rows)) = .ok r := by
  obtain ⟨t, c, hok, -⟩ := h
  rw [hupload] at hok
  obtain ⟨news, hstore, -⟩ := take_rows_ok.1 hok
  exact ⟨_, hstore⟩

/-! ## Rows with a key

A good row is stored under its key, unless something is held under that key already. -/

/-- `held s k` counts what is held under `k`. -/
structure Keyed {κ : Type*} (inv : σ → Prop) (held : σ → κ → ℕ) (key : γ → κ)
    (creatable : γ → Prop) (place : σ → γ → Except ρ (σ × Bool)) : Prop where
  ok_iff : ∀ s g, inv s → ((∃ r, place s g = .ok r) ↔
    held s (key g) ≤ 1 ∧ (held s (key g) = 0 → creatable g))
  after : ∀ s g t fresh, inv s → place s g = .ok (t, fresh) →
    inv t ∧ held t (key g) = 1 ∧ ∀ k, k ≠ key g → held t k = held s k

section Keyed

variable {κ : Type*} {inv : σ → Prop} {held : σ → κ → ℕ} {key : γ → κ} {creatable : γ → Prop}

/-- What is not ambiguous, and can be made where it is not held. Of rows with one key it is
the first that is made. -/
def Placeable (held : κ → ℕ) (key : γ → κ) (creatable : γ → Prop) (gs : List γ) : Prop :=
  ∀ gs₁ g gs₂, gs = gs₁ ++ g :: gs₂ → (∀ g' ∈ gs₁, key g' ≠ key g) →
    held (key g) ≤ 1 ∧ (held (key g) = 0 → creatable g)

/-- The first row is placed, and the others where its key is held. -/
theorem placeable_cons {held₀ held₁ : κ → ℕ} {g : γ} {gs : List γ} (hone : held₁ (key g) = 1)
    (hsame : ∀ k, k ≠ key g → held₁ k = held₀ k) :
    Placeable held₀ key creatable (g :: gs) ↔
      (held₀ (key g) ≤ 1 ∧ (held₀ (key g) = 0 → creatable g)) ∧
        Placeable held₁ key creatable gs := by
  constructor
  · intro h
    refine ⟨h [] g gs rfl fun g' hg' => absurd hg' List.not_mem_nil, ?_⟩
    rintro gs₁ g' gs₂ rfl hfirst
    by_cases hkey : key g' = key g
    · rw [hkey, hone]
      exact ⟨le_rfl, fun h => absurd h one_ne_zero⟩
    · rw [hsame _ hkey]
      exact h (g :: gs₁) g' gs₂ rfl (List.forall_mem_cons.2 ⟨fun heq => hkey heq.symm, hfirst⟩)
  · rintro ⟨hg, hrest⟩ gs₁ g' gs₂ heq hfirst
    cases gs₁ with
    | nil =>
      obtain ⟨rfl, -⟩ := List.cons.inj heq
      exact hg
    | cons g₁ gs₁ =>
      obtain ⟨rfl, rfl⟩ := List.cons.inj heq
      obtain ⟨hne, hfirst⟩ := List.forall_mem_cons.1 hfirst
      rw [← hsame _ (Ne.symm hne)]
      exact hrest gs₁ g' gs₂ rfl hfirst

theorem placeable_congr {held : κ → ℕ} {creatable' : γ → Prop} {gs : List γ}
    (h : ∀ g ∈ gs, creatable g ↔ creatable' g) :
    Placeable held key creatable gs ↔ Placeable held key creatable' gs := by
  refine forall₄_congr fun gs₁ g gs₂ heq => ?_
  have hg : g ∈ gs := by
    rw [heq]
    exact List.mem_append_right gs₁ List.mem_cons_self
  rw [h g hg]

/-- Where the key decides, the first row of a key speaks for the others. -/
theorem placeable_iff_forall {held : κ → ℕ} {can : κ → Prop} {gs : List γ} :
    Placeable held key (fun g => can (key g)) gs ↔
      ∀ g ∈ gs, held (key g) ≤ 1 ∧ (held (key g) = 0 → can (key g)) := by
  classical
  constructor
  · intro h g hg
    have hfound : (gs.find? fun g' => decide (key g' = key g)).isSome :=
      List.find?_isSome.2 ⟨g, hg, decide_eq_true rfl⟩
    obtain ⟨g', hg'⟩ := Option.isSome_iff_exists.1 hfound
    obtain ⟨hkey, gs₁, gs₂, heq, hfirst⟩ := List.find?_eq_some_iff_append.1 hg'
    have hkey := of_decide_eq_true hkey
    rw [← hkey]
    refine h gs₁ g' gs₂ heq fun x hx hsame => ?_
    have hnot := hfirst x hx
    rw [decide_eq_true (hsame.trans hkey)] at hnot
    cases hnot
  · rintro h gs₁ g gs₂ rfl -
    exact h g (List.mem_append_right gs₁ List.mem_cons_self)

theorem Keyed.store_ok_iff (h : Keyed inv held key creatable place) {s : σ} (hs : inv s)
    {gs : List γ} :
    (∃ r, store place s gs = .ok r) ↔ Placeable (held s) key creatable gs := by
  induction gs generalizing s with
  | nil =>
    refine iff_of_true ⟨_, rfl⟩ fun gs₁ g gs₂ heq => ?_
    exact absurd heq (by simp)
  | cons g gs ih =>
    constructor
    · rintro ⟨⟨t, news⟩, hstore⟩
      obtain ⟨s₁, fresh, rest, hplace, hrest, -⟩ := store_cons_ok.1 hstore
      obtain ⟨hinv, hone, hsame⟩ := h.after s g s₁ fresh hs hplace
      exact (placeable_cons hone hsame).2 ⟨(h.ok_iff s g hs).1 ⟨_, hplace⟩, (ih hinv).1 ⟨_, hrest⟩⟩
    · intro hall
      have hg := hall [] g gs rfl fun g' hg' => absurd hg' List.not_mem_nil
      obtain ⟨⟨s₁, fresh⟩, hplace⟩ := (h.ok_iff s g hs).2 hg
      obtain ⟨hinv, hone, hsame⟩ := h.after s g s₁ fresh hs hplace
      obtain ⟨⟨t, rest⟩, hrest⟩ := (ih hinv).2 ((placeable_cons hone hsame).1 hall).2
      exact ⟨_, store_cons_ok.2 ⟨s₁, fresh, rest, hplace, hrest, rfl⟩⟩

/-- Afterwards each good row has one thing under its key. -/
theorem Keyed.store_holds (h : Keyed inv held key creatable place) {s t : σ} (hs : inv s)
    {gs : List γ} {news : List Bool} (hstore : store place s gs = .ok (t, news)) :
    (∀ g ∈ gs, held t (key g) = 1) ∧ ∀ k, held s k = 1 → held t k = 1 := by
  induction gs generalizing s news with
  | nil =>
    cases hstore
    exact ⟨fun g hg => absurd hg List.not_mem_nil, fun k hk => hk⟩
  | cons g gs ih =>
    obtain ⟨s₁, fresh, rest, hplace, hrest, -⟩ := store_cons_ok.1 hstore
    obtain ⟨hinv, hone, hsame⟩ := h.after s g s₁ fresh hs hplace
    obtain ⟨hall, hlater⟩ := ih hinv hrest
    refine ⟨List.forall_mem_cons.2 ⟨hlater _ hone, hall⟩, fun k hk => hlater k ?_⟩
    by_cases hkey : k = key g
    · rwa [hkey]
    · rwa [hsame k hkey]

/-- **When an upload of keyed rows isolates them.** -/
theorem Keyed.isolates_iff (h : Keyed inv held key creatable place) {s : σ} (hs : inv s)
    {upload : List α → Except ρ (σ × Counts μ)} {rows : List α} (hupload : ∀ rows, upload rows =
      (read parse first rows).foldlM (take_row place) (s, ⟨0, 0, []⟩)) :
    Isolates upload parse first rows (fun t g => held t (key g) = 1) ↔
      Placeable (held s) key creatable (goods (read parse first rows)) := by
  rw [← h.store_ok_iff hs]
  constructor
  · exact store_of_isolates hupload
  · rintro ⟨⟨t, news⟩, hstore⟩
    exact isolates_of_store hupload hstore (h.store_holds hs hstore).1

end Keyed

/-! ## Rows with keys -/

variable {κ ξ : Type*}

/-- `write g x` is what `g` makes of `x`. What a row makes anew is as if it had been written. -/
structure Upserts (inv : σ → Prop) (held : σ → κ → Option ξ) (key : γ → Option κ)
    (able : γ → Prop) (mine : ξ → Prop) (write : γ → ξ → ξ)
    (place : σ → γ → Except ρ (σ × Bool)) : Prop where
  ok_iff : ∀ s g, inv s → ((∃ r, place s g = .ok r) ↔
    able g ∧ ∀ k x, key g = some k → held s k = some x → mine x)
  kept : ∀ s g t fresh, inv s → place s g = .ok (t, fresh) → inv t
  frame : ∀ s g t fresh k, inv s → place s g = .ok (t, fresh) → key g ≠ some k →
    held t k = held s k
  unkeyed : ∀ s g t fresh, inv s → place s g = .ok (t, fresh) → key g = none → fresh = true
  found : ∀ s g t fresh k x, inv s → place s g = .ok (t, fresh) → key g = some k →
    held s k = some x → fresh = false ∧ held t k = some (write g x)
  made : ∀ s g t fresh k, inv s → place s g = .ok (t, fresh) → key g = some k →
    held s k = none → ∃ x, held t k = some x ∧ mine x ∧ write g x = x
  mine_write : ∀ g x, mine (write g x) ↔ mine x
  overwrites : ∀ g g' k x, key g = some k → key g' = some k →
    write g (write g' x) = write g x

namespace Upserts

/-! ## What the rows make of one thing -/

section

variable [DecidableEq κ]

/-- What the rows with the key `k` make of `x`, one after another. -/
def written (key : γ → Option κ) (write : γ → ξ → ξ) (gs : List γ) (k : κ) (x : ξ) : ξ :=
  gs.foldl (fun x g => if key g = some k then write g x else x) x

variable {key : γ → Option κ} {write : γ → ξ → ξ} {g : γ} {gs : List γ} {k : κ} {x : ξ}

end

/-! ## One pass -/

variable {inv : σ → Prop} {held : σ → κ → Option ξ} {key : γ → Option κ} {able : γ → Prop}
  {mine : ξ → Prop} {write : γ → ξ → ξ} {s t : σ} {gs : List γ} {news : List Bool}

/-- A row leaves the same things open. -/
theorem open_after (h : Upserts inv held key able mine write place) (hs : inv s) {g : γ}
    {fresh : Bool} (hplace : place s g = .ok (t, fresh)) (k : κ) :
    (∀ x, held t k = some x → mine x) ↔ ∀ x, held s k = some x → mine x := by
  by_cases hkey : key g = some k
  · have hopen := ((h.ok_iff s g hs).1 ⟨_, hplace⟩).2 k
    cases hheld : held s k with
    | some x =>
      obtain ⟨-, hafter⟩ := h.found s g t fresh k x hs hplace hkey hheld
      have hx := hopen x hkey hheld
      simp [hafter, hx, h.mine_write]
    | none =>
      obtain ⟨x, hafter, hx, -⟩ := h.made s g t fresh k hs hplace hkey hheld
      simp [hafter, hx]
  · rw [h.frame s g t fresh k hs hplace hkey]

/-- **A pass goes through** exactly if each row can be written, and nothing is in its way. -/
theorem store_ok_iff (h : Upserts inv held key able mine write place) (hs : inv s) :
    (∃ r, store place s gs = .ok r) ↔
      ∀ g ∈ gs, able g ∧ ∀ k x, key g = some k → held s k = some x → mine x := by
  induction gs generalizing s with
  | nil => exact iff_of_true ⟨_, rfl⟩ fun g hg => absurd hg List.not_mem_nil
  | cons g gs ih =>
    -- the rest is judged by what was open before the row
    have hrest : ∀ {s₁ fresh}, place s g = .ok (s₁, fresh) →
        ((∃ r, store place s₁ gs = .ok r) ↔
          ∀ g ∈ gs, able g ∧ ∀ k x, key g = some k → held s k = some x → mine x) := by
      intro s₁ fresh hplace
      rw [ih (h.kept s g s₁ fresh hs hplace)]
      refine forall₂_congr fun g' _ => and_congr_right fun _ => forall_congr' fun k => ?_
      have hopen := h.open_after hs hplace k
      exact ⟨fun hall x hkey => (hopen.1 fun y => hall y hkey) x,
        fun hall x hkey => (hopen.2 fun y => hall y hkey) x⟩
    rw [List.forall_mem_cons]
    constructor
    · rintro ⟨⟨t, news⟩, hstore⟩
      obtain ⟨s₁, fresh, rest, hplace, hok, -⟩ := store_cons_ok.1 hstore
      exact ⟨(h.ok_iff s g hs).1 ⟨_, hplace⟩, (hrest hplace).1 ⟨_, hok⟩⟩
    · rintro ⟨hg, hgs⟩
      obtain ⟨⟨s₁, fresh⟩, hplace⟩ := (h.ok_iff s g hs).2 hg
      obtain ⟨⟨t, rest⟩, hok⟩ := (hrest hplace).2 hgs
      exact ⟨_, store_cons_ok.2 ⟨s₁, fresh, rest, hplace, hok, rfl⟩⟩

end Upserts

end EnvMgr.Upload

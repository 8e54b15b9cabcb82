/-
Straight-line code that may raise.

A service function reads as a list of checks followed by its writes. It is
modelled in `Except ρ` with `raise_if` and `get_or_raise` for the checks, so
that "the call succeeded" unfolds, by the simp lemmas here, to exactly the
conjunction of what each line let through.
-/
import Mathlib.Data.List.Forall2
import Mathlib.Tactic.Common

namespace EnvMgr

universe u

variable {ρ : Type*} {α β : Type u}

/-- `if c: raise e`. -/
def raise_if (c : Prop) [Decidable c] (e : ρ) : Except ρ Unit :=
  if c then .error e else .ok ()

/-- `scalar_one_or_none()` followed by `if row is None: raise e`. -/
def get_or_raise (o : Option α) (e : ρ) : Except ρ α :=
  match o with
  | some a => .ok a
  | none => .error e

/-- `for x in xs: f(x)`, stopping at the first `f` that raises. -/
def for_each {α : Type*} (xs : List α) (f : α → Except ρ Unit) : Except ρ Unit :=
  match xs with
  | [] => .ok ()
  | x :: xs => f x >>= fun _ => for_each xs f

@[simp] theorem bind_eq_ok {x : Except ρ α} {f : α → Except ρ β} {b : β} :
    (x >>= f) = .ok b ↔ ∃ a, x = .ok a ∧ f a = .ok b := by
  cases x <;> simp [bind, Except.bind]

@[simp] theorem bind_eq_error {x : Except ρ α} {f : α → Except ρ β} {e : ρ} :
    (x >>= f) = .error e ↔ x = .error e ∨ ∃ a, x = .ok a ∧ f a = .error e := by
  cases x <;> simp [bind, Except.bind]

/-- A call that did not raise returned something. -/
theorem eq_ok_of_isOk {x : Except ρ α} (h : x.isOk = true) : ∃ a, x = .ok a := by
  cases x with
  | error e => cases h
  | ok a => exact ⟨a, rfl⟩

@[simp] theorem pure_eq_ok {a b : α} : (pure a : Except ρ α) = .ok b ↔ a = b := by
  simp [pure, Except.pure]

theorem ok_bind (a : α) (f : α → Except ρ β) : (Except.ok a >>= f) = f a := rfl

@[simp] theorem raise_if_eq_ok {c : Prop} [Decidable c] {e : ρ} {u : Unit} :
    raise_if c e = .ok u ↔ ¬ c := by
  unfold raise_if
  by_cases h : c <;> simp [h]

@[simp] theorem raise_if_eq_error {c : Prop} [Decidable c] {e e' : ρ} :
    raise_if c e = .error e' ↔ c ∧ e = e' := by
  unfold raise_if
  by_cases h : c <;> simp [h]

theorem raise_if_neg {c : Prop} [Decidable c] (h : ¬ c) (e : ρ) : raise_if c e = .ok () :=
  if_neg h

/-- Two checks that let the same through and raise the same are one check. -/
theorem raise_if_ext {c d : Prop} [Decidable c] [Decidable d] {e : ρ}
    (h : raise_if c e = .ok () ↔ raise_if d e = .ok ()) : raise_if c e = raise_if d e := by
  rw [raise_if_eq_ok, raise_if_eq_ok, not_iff_not] at h
  unfold raise_if
  by_cases hd : d
  · rw [if_pos (h.2 hd), if_pos hd]
  · rw [if_neg (fun hc => hd (h.1 hc)), if_neg hd]

@[simp] theorem get_or_raise_eq_error {o : Option α} {e e' : ρ} :
    get_or_raise o e = .error e' ↔ o = none ∧ e = e' := by
  cases o <;> simp [get_or_raise]

@[simp] theorem get_or_raise_eq_ok {o : Option α} {e : ρ} {a : α} :
    get_or_raise o e = .ok a ↔ o = some a := by
  cases o <;> simp [get_or_raise]

@[simp] theorem for_each_eq_ok {α : Type*} {xs : List α} {f : α → Except ρ Unit}
    {u : Unit} : for_each xs f = .ok u ↔ ∀ x ∈ xs, f x = .ok () := by
  induction xs with
  | nil => simp [for_each]
  | cons x xs ih =>
    simp only [for_each, bind_eq_ok, ih, List.forall_mem_cons]
    constructor
    · rintro ⟨_, hx, hxs⟩
      exact ⟨hx, hxs⟩
    · rintro ⟨hx, hxs⟩
      exact ⟨(), hx, hxs⟩

/-- What a loop raises one of its turns raised. -/
theorem for_each_eq_error {α : Type*} {xs : List α} {f : α → Except ρ Unit} {e : ρ}
    (h : for_each xs f = .error e) : ∃ x ∈ xs, f x = .error e := by
  induction xs with
  | nil => cases h
  | cons x xs ih =>
    simp only [for_each, bind_eq_error] at h
    rcases h with h | ⟨_, -, h⟩
    · exact ⟨x, List.mem_cons_self, h⟩
    · obtain ⟨y, hy, hraised⟩ := ih h
      exact ⟨y, List.mem_cons_of_mem x hy, hraised⟩

/-- `[x for x in xs if f(x)]`, where the condition may raise. -/
def select_each {α : Type} (xs : List α) (f : α → Except ρ Bool) : Except ρ (List α) :=
  match xs with
  | [] => .ok []
  | x :: xs => do
    let keep ← f x
    let kept ← select_each xs f
    .ok (if keep then x :: kept else kept)

/-- Every condition was read, and those that held are in. -/
theorem select_each_eq_ok {α : Type} {xs ys : List α} {f : α → Except ρ Bool}
    (h : select_each xs f = .ok ys) :
    (∀ x ∈ xs, ∃ keep, f x = .ok keep) ∧ ∀ x, x ∈ ys ↔ x ∈ xs ∧ f x = .ok true := by
  induction xs generalizing ys with
  | nil =>
    cases h
    simp
  | cons x xs ih =>
    simp only [select_each, bind_eq_ok] at h
    obtain ⟨keep, hkeep, kept, hkept, h⟩ := h
    cases h
    obtain ⟨hread, hmem⟩ := ih hkept
    refine ⟨List.forall_mem_cons.2 ⟨⟨keep, hkeep⟩, hread⟩, fun y => ?_⟩
    cases keep with
    | true =>
      simp only [if_true, List.mem_cons, hmem]
      constructor
      · rintro (rfl | hy)
        · exact ⟨Or.inl rfl, hkeep⟩
        · exact ⟨Or.inr hy.1, hy.2⟩
      · rintro ⟨rfl | hy, hf⟩
        · exact Or.inl rfl
        · exact Or.inr ⟨hy, hf⟩
    | false =>
      simp only [Bool.false_eq_true, if_false, List.mem_cons, hmem]
      constructor
      · rintro ⟨hy, hf⟩
        exact ⟨Or.inr hy, hf⟩
      · rintro ⟨rfl | hy, hf⟩
        · cases hkeep.symm.trans hf
        · exact ⟨hy, hf⟩

theorem exists_select_each {α : Type} {xs : List α} {f : α → Except ρ Bool}
    (h : ∀ x ∈ xs, ∃ keep, f x = .ok keep) : ∃ ys, select_each xs f = .ok ys := by
  induction xs with
  | nil => exact ⟨[], rfl⟩
  | cons x xs ih =>
    obtain ⟨⟨keep, hkeep⟩, hrest⟩ := List.forall_mem_cons.1 h
    obtain ⟨ys, hys⟩ := ih hrest
    exact ⟨if keep then x :: ys else ys, by simp [select_each, hkeep, hys, bind, Except.bind]⟩

/-- `[f(x) for x in xs]`, where no `f(x)` raises. -/
theorem exists_mapM {α β : Type} {f : α → Except ρ β} {xs : List α}
    (h : ∀ x ∈ xs, ∃ y, f x = .ok y) :
    ∃ ys, xs.mapM f = .ok ys ∧ ∀ y, y ∈ ys ↔ ∃ x ∈ xs, f x = .ok y := by
  induction xs with
  | nil => exact ⟨[], rfl, by simp⟩
  | cons x xs ih =>
    obtain ⟨⟨y, hy⟩, hrest⟩ := List.forall_mem_cons.1 h
    obtain ⟨ys, hys, hmem⟩ := ih hrest
    refine ⟨y :: ys, by rw [List.mapM_cons, hy, hys]; rfl, fun y' => ?_⟩
    simp only [List.mem_cons, exists_eq_or_imp, hmem, hy, Except.ok.injEq]
    rw [eq_comm]

/-- `[f(x) for x in xs]`, where `f` may raise. -/
theorem mapM_eq_ok {α β : Type} {f : α → Except ρ β} {xs : List α} {ys : List β} :
    xs.mapM f = .ok ys ↔ List.Forall₂ (fun x y => f x = .ok y) xs ys := by
  induction xs generalizing ys with
  | nil =>
    rw [List.mapM_nil, pure_eq_ok, List.forall₂_nil_left_iff]
    exact eq_comm
  | cons x xs ih =>
    rw [List.mapM_cons, List.forall₂_cons_left_iff]
    simp only [bind_eq_ok, pure_eq_ok]
    constructor
    · rintro ⟨y, hy, ys', hys, rfl⟩
      exact ⟨y, ys', hy, ih.1 hys, rfl⟩
    · rintro ⟨y, ys', hy, hys, rfl⟩
      exact ⟨y, hy, ys', ih.2 hys, rfl⟩

/-- Where every turn returns, the loop returns what they did. -/
theorem mapM_eq_filterMap {α β : Type} {f : α → Except ρ β} {xs : List α}
    (h : ∀ x ∈ xs, ∃ y, f x = .ok y) :
    xs.mapM f = .ok (xs.filterMap fun x => (f x).toOption) := by
  rw [mapM_eq_ok]
  induction xs with
  | nil => exact List.Forall₂.nil
  | cons x xs ih =>
    obtain ⟨⟨y, hy⟩, hrest⟩ := List.forall_mem_cons.1 h
    have hhead : (f x).toOption = some y := by
      rw [hy]
      rfl
    rw [List.filterMap_cons, hhead]
    exact List.Forall₂.cons hy (ih hrest)

/-- Every element has its result, and every result its element. -/
theorem mem_mapM {α β : Type} {f : α → Except ρ β} {xs : List α} {ys : List β}
    (h : xs.mapM f = .ok ys) :
    (∀ x ∈ xs, ∃ y ∈ ys, f x = .ok y) ∧ ∀ y ∈ ys, ∃ x ∈ xs, f x = .ok y := by
  have hall := mapM_eq_ok.1 h
  clear h
  induction hall with
  | nil => simp
  | @cons x y xs ys hxy _ ih =>
    constructor
    · refine List.forall_mem_cons.2 ⟨⟨y, List.mem_cons_self, hxy⟩, fun x' hx' => ?_⟩
      obtain ⟨y', hy', hok⟩ := ih.1 x' hx'
      exact ⟨y', List.mem_cons_of_mem _ hy', hok⟩
    · refine List.forall_mem_cons.2 ⟨⟨x, List.mem_cons_self, hxy⟩, fun y' hy' => ?_⟩
      obtain ⟨x', hx', hok⟩ := ih.2 y' hy'
      exact ⟨x', List.mem_cons_of_mem _ hx', hok⟩

theorem mapM_eq_error {α β : Type} {f : α → Except ρ β} {xs : List α} {e : ρ}
    (h : xs.mapM f = .error e) : ∃ x ∈ xs, f x = .error e := by
  induction xs with
  | nil => cases h
  | cons x xs ih =>
    simp only [List.mapM_cons, bind_eq_error] at h
    rcases h with h | ⟨y, -, h | ⟨ys, -, h⟩⟩
    · exact ⟨x, List.mem_cons_self, h⟩
    · obtain ⟨x', hx', hraised⟩ := ih h
      exact ⟨x', List.mem_cons_of_mem x hx', hraised⟩
    · cases h

/-- One more turn of a loop that got this far. -/
theorem foldlM_concat {α β : Type*} {f : β → α → Except ρ β} {xs : List α} {s t : β}
    (h : xs.foldlM f s = .ok t) (x : α) : (xs ++ [x]).foldlM f s = f t x := by
  rw [List.foldlM_append, h]
  change List.foldlM f t [x] = f t x
  rw [List.foldlM_cons]
  cases f t x <;> rfl

/-- What every turn of a loop keeps, the loop keeps. -/
theorem foldlM_inv {α β : Type*} {f : β → α → Except ρ β} {P : β → Prop}
    (hstep : ∀ s x t, P s → f s x = .ok t → P t) {xs : List α} {s t : β} (hs : P s)
    (h : xs.foldlM f s = .ok t) : P t := by
  induction xs generalizing s with
  | nil =>
    cases h
    exact hs
  | cons x xs ih =>
    rw [List.foldlM_cons, bind_eq_ok] at h
    obtain ⟨s', hx, hxs⟩ := h
    exact ih (hstep s x s' hs hx) hxs

/-- `bad = [x for x in xs if c(x)]; if bad: raise` lets through only lists
without a bad element. -/
theorem filter_empty {α : Type*} {xs : List α} {c : α → Bool} (h : ¬ xs.filter c ≠ [])
    {x : α} (hx : x ∈ xs) : c x = false := by
  simpa using List.filter_eq_nil_iff.1 (not_not.1 h) x hx

@[simp] theorem map_eq_ok {x : Except ρ α} {f : α → β} {b : β} :
    x.map f = .ok b ↔ ∃ a, x = .ok a ∧ f a = b := by
  cases x <;> simp [Except.map]

theorem map_ok {a : α} {f : α → β} : (Except.ok a : Except ρ α).map f = .ok (f a) := rfl

/-- What is mapped is the last step. -/
theorem map_bind {γ : Type u} {x : Except ρ α} {g : α → Except ρ β} {f : β → γ} :
    (x >>= g).map f = x >>= fun a => (g a).map f := by
  cases x <;> rfl

@[simp] theorem mapError_eq_ok {ρ' : Type*} {x : Except ρ' α} {f : ρ' → ρ} {a : α} :
    x.mapError f = .ok a ↔ x = .ok a := by
  cases x <;> simp [Except.mapError]

/-- The call raises `e`, as far as can be computed where its results cannot be compared. -/
def raises [DecidableEq ρ] (x : Except ρ α) (e : ρ) : Bool :=
  match x with
  | .ok _ => false
  | .error e' => e' = e

theorem eq_error_of_raises [DecidableEq ρ] {x : Except ρ α} {e : ρ} (h : raises x e = true) :
    x = .error e := by
  cases x with
  | ok a => cases h
  | error e' => rw [of_decide_eq_true h]

/-- The transaction around a request: `get_db` commits what the request wrote
when it returns, and rolls everything back when it raises. -/
def commit_or_rollback {σ : Type*} (s : σ) (r : Except ρ σ) : σ :=
  match r with
  | .ok s' => s'
  | .error _ => s

@[simp] theorem commit_ok {σ : Type*} (s s' : σ) :
    commit_or_rollback (ρ := ρ) s (.ok s') = s' := rfl

@[simp] theorem rollback_error {σ : Type*} (s : σ) (e : ρ) :
    commit_or_rollback s (.error e) = s := rfl

/-- A request either leaves everything as it was or leaves what it returned. -/
theorem commit_or_rollback_cases {σ : Type*} (s : σ) (r : Except ρ σ) :
    commit_or_rollback s r = s ∨ r = .ok (commit_or_rollback s r) := by
  cases r with
  | error e => exact Or.inl rfl
  | ok s' => exact Or.inr rfl

/-- What every answered request keeps, every request keeps. -/
theorem commit_or_rollback_keeps {σ : Type*} {P : σ → Prop} {s : σ} {r : Except ρ σ} (hs : P s)
    (h : ∀ t, r = .ok t → P t) : P (commit_or_rollback s r) := by
  cases r with
  | error e => exact hs
  | ok t => exact h t rfl

/-- **The exact side condition of a request** is the one of its answer. -/
theorem commit_or_rollback_iff {σ : Type*} {P : σ → Prop} {p : Prop} {s : σ} {r : Except ρ σ}
    (hs : P s) (h : ∀ t, r = .ok t → (P t ↔ p)) :
    P (commit_or_rollback s r) ↔ ((∃ t, r = .ok t) → p) := by
  cases r with
  | error e =>
    refine iff_of_true hs ?_
    rintro ⟨t, hok⟩
    cases hok
  | ok t =>
    rw [commit_ok, h t rfl]
    exact ⟨fun hp _ => hp, fun hp => hp ⟨t, rfl⟩⟩

end EnvMgr

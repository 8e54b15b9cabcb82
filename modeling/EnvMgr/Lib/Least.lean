/-
Keeping the least.

A loop that compares each value with the best one so far, and one that does so under the key
of each value, keep the first value of least rank. Where the rank tells the values apart the
order of the loop does not matter.

A loop that keeps what it found first, and gives it up for the first value of the preferred
kind, ends with that value if there is one and with the very first otherwise. So the order of
the values shows only where none is preferred and there are several.
-/
import EnvMgr.Lib.Index
import EnvMgr.Lib.OrderBy
import Mathlib.Data.List.Perm.Basic
import Mathlib.Order.Lattice

namespace EnvMgr

variable {κ β γ : Type*} [LinearOrder γ]

/-! ## One best value -/

/-- The better of what is kept and what comes; on a tie the one that is kept. -/
def lesser (rank : β → γ) (kept : Option β) (v : β) : β :=
  match kept with
  | none => v
  | some w => if rank v < rank w then v else w

/-- `for v in vs: best = lesser(best, v)`; also `min(vs, key=rank)`. -/
def least (rank : β → γ) (vs : List β) : Option β :=
  vs.foldl (fun kept v => some (lesser rank kept v)) none

variable {rank : β → γ} {vs vs' : List β} {v w : β}

@[simp] theorem least_nil : least rank ([] : List β) = none := rfl

theorem least_append_singleton :
    least rank (vs ++ [v]) = some (lesser rank (least rank vs) v) := by
  rw [least, List.foldl_append]
  rfl

theorem least_eq_none : least rank vs = none ↔ vs = [] := by
  induction vs using List.reverseRecOn with
  | nil => simp
  | append_singleton vs v => simp [least_append_singleton]

/-- What is kept is in the list, and nothing in the list ranks lower. -/
theorem least_eq_some (h : least rank vs = some v) : v ∈ vs ∧ ∀ w ∈ vs, rank v ≤ rank w := by
  induction vs using List.reverseRecOn generalizing v with
  | nil => cases h
  | append_singleton vs x ih =>
    rw [least_append_singleton, Option.some.injEq] at h
    simp only [List.mem_append, List.mem_singleton]
    cases hkept : least rank vs with
    | none =>
      obtain rfl := least_eq_none.1 hkept
      rw [hkept] at h
      obtain rfl : x = v := h
      exact ⟨Or.inr rfl, by simp⟩
    | some y =>
      obtain ⟨hy, hle⟩ := ih hkept
      rw [hkept, lesser] at h
      split at h
      · rename_i hlt
        obtain rfl := h
        refine ⟨Or.inr rfl, ?_⟩
        rintro w (hw | rfl)
        · exact hlt.le.trans (hle w hw)
        · exact le_rfl
      · rename_i hlt
        obtain rfl := h
        refine ⟨Or.inl hy, ?_⟩
        rintro w (hw | rfl)
        · exact hle w hw
        · exact not_lt.1 hlt

theorem exists_least (rank : β → γ) (h : v ∈ vs) : ∃ w, least rank vs = some w := by
  refine Option.ne_none_iff_exists'.1 fun hnone => ?_
  rw [least_eq_none.1 hnone] at h
  cases h

/-- Where no two values have one rank, the least is the one that ranks lowest. -/
theorem least_eq_some_iff (hinj : ∀ v ∈ vs, ∀ w ∈ vs, rank v = rank w → v = w) :
    least rank vs = some v ↔ v ∈ vs ∧ ∀ w ∈ vs, rank v ≤ rank w := by
  refine ⟨least_eq_some, ?_⟩
  rintro ⟨hv, hle⟩
  obtain ⟨w, hw⟩ := exists_least rank hv
  obtain ⟨hmem, hle'⟩ := least_eq_some hw
  rw [hw, hinj v hv w hmem (le_antisymm (hle w hmem) (hle' v hv))]

/-- **The order of the loop does not matter.** -/
theorem least_congr (hinj : ∀ v ∈ vs, ∀ w ∈ vs, rank v = rank w → v = w)
    (hsame : ∀ v, v ∈ vs' ↔ v ∈ vs) : least rank vs' = least rank vs := by
  have hinj' : ∀ v ∈ vs', ∀ w ∈ vs', rank v = rank w → v = w :=
    fun v hv w hw => hinj v ((hsame v).1 hv) w ((hsame w).1 hw)
  refine Option.ext fun v => ?_
  rw [least_eq_some_iff hinj, least_eq_some_iff hinj']
  simp only [hsame]

/-! ## The best value of each key -/

namespace Index

variable [DecidableEq κ]

/-- `for k, v in items: d[k] = lesser(d.get(k), v)`. -/
def keep_least (rank : β → γ) (items : List (κ × β)) : Index κ β :=
  items.foldl (fun d i => d.set i.1 (lesser rank (d.get i.1) i.2)) empty

/-- The values that come with a key. -/
def values_of (items : List (κ × β)) (k : κ) : List β :=
  (items.filter fun i => i.1 = k).map Prod.snd

theorem mem_values_of {items : List (κ × β)} {k : κ} : v ∈ values_of items k ↔ (k, v) ∈ items := by
  simp only [values_of, List.mem_map, List.mem_filter, decide_eq_true_eq]
  constructor
  · rintro ⟨⟨k', v'⟩, ⟨hi, rfl⟩, rfl⟩
    exact hi
  · intro hi
    exact ⟨(k, v), ⟨hi, rfl⟩, rfl⟩

/-- **Under each key, the least of its values.** -/
theorem get_keep_least (rank : β → γ) (items : List (κ × β)) (k : κ) :
    (keep_least rank items).get k = least rank (values_of items k) := by
  induction items using List.reverseRecOn with
  | nil => rfl
  | append_singleton items i ih =>
    have hstep : keep_least rank (items ++ [i]) = (keep_least rank items).set i.1
        (lesser rank ((keep_least rank items).get i.1) i.2) := by
      simp [keep_least]
    rw [hstep, get_set]
    by_cases hk : k = i.1
    · have hvalues : values_of (items ++ [i]) k = values_of items k ++ [i.2] := by
        simp [values_of, List.filter_append, hk]
      rw [if_pos hk, ← hk, ih, hvalues, least_append_singleton]
    · have hvalues : values_of (items ++ [i]) k = values_of items k := by
        simp [values_of, List.filter_append, Ne.symm hk]
      rw [if_neg hk, ih, hvalues]

end Index

/-! ## The first of each key -/

namespace Index

variable {α : Type*} [DecidableEq κ]

/-- `for x in xs: d.setdefault(key(x), x)`. -/
def keep_first (key : α → κ) (xs : List α) : Index κ α :=
  xs.foldl (fun d x => if (d.get (key x)).isSome then d else d.set (key x) x) empty

theorem get_keep_first (key : α → κ) (xs : List α) (k : κ) :
    (keep_first key xs).get k = xs.find? fun x => key x = k := by
  induction xs using List.reverseRecOn with
  | nil => rfl
  | append_singleton xs x ih =>
    have hstep : keep_first key (xs ++ [x]) =
        if ((keep_first key xs).get (key x)).isSome then keep_first key xs
        else (keep_first key xs).set (key x) x :=
      List.foldl_append
    rw [hstep, List.find?_append, ← ih]
    by_cases hk : key x = k
    · subst hk
      cases hget : (keep_first key xs).get (key x) with
      | none => simp [get_set]
      | some y => simp [hget]
    · have hlast : [x].find? (fun x => key x = k) = none := by simp [hk]
      rw [hlast, Option.or_none]
      split
      · rfl
      · rw [get_set, if_neg (Ne.symm hk)]

/-- **Sorted by rank, the first of a key is the least that has it.** -/
theorem get_keep_first_of_answers {key : α → κ} {rank : α → γ} {xs answer : List α}
    (hinj : ∀ x ∈ xs, ∀ y ∈ xs, rank x = rank y → x = y) (h : OrderBy.Answers rank xs answer)
    (k : κ) : (keep_first key answer).get k = least rank (xs.filter fun x => key x = k) := by
  have hfilter : ∀ x, x ∈ xs.filter (fun x => key x = k) ↔ x ∈ xs ∧ key x = k := by
    intro x
    rw [List.mem_filter, decide_eq_true_eq]
  have hinj' : ∀ x ∈ xs.filter (fun x => key x = k), ∀ y ∈ xs.filter (fun x => key x = k),
      rank x = rank y → x = y :=
    fun x hx y hy => hinj x ((hfilter x).1 hx).1 y ((hfilter y).1 hy).1
  rw [get_keep_first]
  cases hfind : answer.find? fun x => key x = k with
  | none =>
    rw [eq_comm, least_eq_none, List.filter_eq_nil_iff]
    intro x hx
    exact List.find?_eq_none.1 hfind x (h.mem_iff.2 hx)
  | some x =>
    obtain ⟨hk, before, after, rfl, hbefore⟩ := List.find?_eq_some_iff_append.1 hfind
    have hx : x ∈ xs := h.mem_iff.1 (by simp)
    rw [eq_comm, least_eq_some_iff hinj']
    refine ⟨(hfilter x).2 ⟨hx, of_decide_eq_true hk⟩, fun y hy => ?_⟩
    obtain ⟨hy, hky⟩ := (hfilter y).1 hy
    rcases List.mem_append.1 (h.mem_iff.2 hy) with hy | hy
    · have hne := hbefore y hy
      simp [hky] at hne
    · rcases List.mem_cons.1 hy with rfl | hy
      · exact le_rfl
      · exact (List.pairwise_cons.1 (List.pairwise_append.1 h.sorted).2.1).1 y hy

end Index

/-! ## A table by keys -/

namespace Index

variable {α : Type*} [DecidableEq κ]

/-- `{k: f(k) for k in keys if f(k) is not None}`. -/
def tabulate (f : κ → Option β) (keys : List κ) : Index κ β :=
  keys.foldl (fun d k => match f k with
    | none => d
    | some v => d.set k v) empty

theorem get_tabulate (f : κ → Option β) (keys : List κ) (k : κ) :
    (tabulate f keys).get k = if k ∈ keys then f k else none := by
  induction keys using List.reverseRecOn with
  | nil => rfl
  | append_singleton keys x ih =>
    have hstep : tabulate f (keys ++ [x]) = match f x with
        | none => tabulate f keys
        | some v => (tabulate f keys).set x v :=
      List.foldl_append
    rw [hstep]
    simp only [List.mem_append, List.mem_singleton]
    by_cases hx : k = x
    · subst hx
      cases hf : f k with
      | none => simp [ih, hf]
      | some v => simp [get_set]
    · cases hf : f x with
      | none => simp [ih, hx]
      | some v => simp [get_set, hx, ih]

end Index

end EnvMgr

/-! ## A preferred kind -/

namespace EnvMgr.Preferred

variable {α : Type*}

/-- One turn of the loop. -/
def keep (preferred : α → Bool) (found : Option α) (a : α) : Option α :=
  if found.isNone || (preferred a && !found.any preferred) then some a else found

variable {preferred : α → Bool} {values values' : List α}

/-- **What the loop ends with.** -/
theorem foldl_keep : ∀ found : Option α, values.foldl (keep preferred) found =
    ((found.toList ++ values).find? preferred <|> (found.toList ++ values).head?) := by
  induction values with
  | nil =>
    intro found
    cases found with
    | none => rfl
    | some a => by_cases ha : preferred a <;> simp [ha]
  | cons b values ih =>
    intro found
    rw [List.foldl_cons, ih]
    cases found with
    | none => rfl
    | some a =>
      -- the first two values, and which of them is of the kind
      by_cases ha : preferred a
      · simp [keep, ha]
      · by_cases hb : preferred b
        · simp [keep, ha, hb]
        · simp [keep, ha, hb]

theorem foldl_keep_none :
    values.foldl (keep preferred) none = (values.find? preferred <|> values.head?) :=
  foldl_keep none

/-- At most one value is preferred, and where none is there is at most one. -/
def Settled (preferred : α → Bool) (values : List α) : Prop :=
  (∀ a ∈ values, ∀ b ∈ values, preferred a = true → preferred b = true → a = b) ∧
    ((∀ a ∈ values, preferred a = false) → ∀ a ∈ values, ∀ b ∈ values, a = b)

theorem find?_perm {p : α → Bool} (h : values'.Perm values)
    (hone : ∀ a ∈ values, ∀ b ∈ values, p a = true → p b = true → a = b) :
    values'.find? p = values.find? p := by
  cases hfind : values.find? p with
  | none =>
    rw [List.find?_eq_none] at hfind ⊢
    exact fun a ha => hfind a (h.mem_iff.1 ha)
  | some b =>
    have hb := List.mem_of_find?_eq_some hfind
    have hpb := List.find?_some hfind
    cases hfind' : values'.find? p with
    | none => exact absurd hpb (List.find?_eq_none.1 hfind' b (h.mem_iff.2 hb))
    | some a =>
      have ha := h.mem_iff.1 (List.mem_of_find?_eq_some hfind')
      rw [hone a ha b hb (List.find?_some hfind') hpb]

/-- **Where the values are settled, their order does not show.** -/
theorem foldl_keep_perm (h : values'.Perm values) (hsettled : Settled preferred values) :
    values'.foldl (keep preferred) none = values.foldl (keep preferred) none := by
  rw [foldl_keep_none, foldl_keep_none, find?_perm h hsettled.1]
  cases hfind : values.find? preferred with
  | some a => rfl
  | none =>
    have hnone : ∀ a ∈ values, preferred a = false := fun a ha =>
      Bool.eq_false_iff.2 (List.find?_eq_none.1 hfind a ha)
    have hhead : ∀ l : List α, l.head? = l.find? fun _ => true := by
      rintro (_ | ⟨a, l⟩) <;> rfl
    rw [hhead, hhead, find?_perm h fun a ha b hb _ _ => hsettled.2 hnone a ha b hb]

end EnvMgr.Preferred

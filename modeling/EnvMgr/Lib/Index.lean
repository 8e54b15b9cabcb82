/-
Dictionaries keyed by any type, filled by a loop.

`d[k] = v` replaces the value of a key that is there and appends one that is
not, so an index keeps its keys in the order they first came. The loop that
fills one, `for x in xs: d[key(x)] = x` with some `x` passed over, is `collect`;
what it leaves under a key is the last `x` that has it.
-/
import Mathlib.Algebra.BigOperators.Group.List.Lemmas
import Mathlib.Algebra.GroupWithZero.Nat
import Mathlib.Data.List.Dedup
import Mathlib.Data.List.Induction
import Mathlib.Data.List.Nodup

namespace EnvMgr

/-- Where a key is one element's, the elements with that key are that one. -/
theorem filter_key_eq {α β : Type*} [DecidableEq β] {l : List α} {f : α → β}
    (hnodup : (l.map f).Nodup) {x : α} (hx : x ∈ l) : l.filter (fun y => f y = f x) = [x] := by
  refine List.perm_singleton.1 ?_
  refine (List.perm_ext_iff_of_nodup (hnodup.of_map.filter _) (List.nodup_singleton x)).2 ?_
  intro y
  rw [List.mem_filter, decide_eq_true_eq, List.mem_singleton]
  constructor
  · rintro ⟨hy, hkey⟩
    exact List.inj_on_of_nodup_map hnodup hy hx hkey
  · rintro rfl
    exact ⟨hx, rfl⟩

/-- A `dict` from `κ` to `β`, in insertion order. -/
structure Index (κ β : Type*) where
  items : List (κ × β)
  keys_nodup : (items.map Prod.fst).Nodup

namespace Index

variable {α κ β : Type*} [DecidableEq κ]

def empty : Index κ β := ⟨[], List.nodup_nil⟩

def keys (d : Index κ β) : List κ := d.items.map Prod.fst

/-- `list(d.values())`. -/
def values (d : Index κ β) : List β := d.items.map Prod.snd

/-- `d.get(k)`. -/
def get (d : Index κ β) (k : κ) : Option β := (d.items.find? fun i => i.1 = k).map Prod.snd

/-- The entry of `k` gets the value `v`, where it is. -/
def put (k : κ) (v : β) (i : κ × β) : κ × β := if i.1 = k then (k, v) else i

@[simp] theorem put_fst (k : κ) (v : β) (i : κ × β) : (put k v i).1 = i.1 := by
  unfold put
  split
  · rename_i hi
    exact hi.symm
  · rfl

theorem map_fst_put (k : κ) (v : β) (items : List (κ × β)) :
    (items.map (put k v)).map Prod.fst = items.map Prod.fst := by
  rw [List.map_map]
  exact List.map_congr_left fun i _ => put_fst k v i

/-- `d[k] = v`. -/
def set (d : Index κ β) (k : κ) (v : β) : Index κ β where
  items := if k ∈ d.keys then d.items.map (put k v) else d.items ++ [(k, v)]
  keys_nodup := by
    by_cases hk : k ∈ d.keys
    · rw [if_pos hk, map_fst_put]
      exact d.keys_nodup
    · rw [if_neg hk, List.map_append, List.nodup_append]
      refine ⟨d.keys_nodup, List.nodup_singleton _, ?_⟩
      rintro a ha b hb rfl
      rw [List.mem_singleton.1 hb] at ha
      exact hk ha

/-- `for x in xs: d[key(x)] = x`, passing over the `x` without a key. -/
def collect (key : α → Option κ) (xs : List α) : Index κ α :=
  xs.foldl (fun d x => match key x with
    | none => d
    | some k => d.set k x) empty

/-! ## Look-ups -/

omit [DecidableEq κ] in
/-- A key has one value. -/
theorem value_eq {d : Index κ β} {k : κ} {v w : β} (hv : (k, v) ∈ d.items)
    (hw : (k, w) ∈ d.items) : v = w := by
  have heq := List.inj_on_of_nodup_map d.keys_nodup hv hw rfl
  exact congrArg Prod.snd heq

theorem get_eq_some {d : Index κ β} {k : κ} {v : β} : d.get k = some v ↔ (k, v) ∈ d.items := by
  constructor
  · intro h
    obtain ⟨⟨k', v'⟩, hfind, rfl⟩ := Option.map_eq_some_iff.1 h
    have hk : k' = k := by simpa using List.find?_some hfind
    rw [← hk]
    exact List.mem_of_find?_eq_some hfind
  · intro h
    cases hfind : d.items.find? fun i => i.1 = k with
    | none => simpa using List.find?_eq_none.1 hfind (k, v) h
    | some i =>
      obtain ⟨k', v'⟩ := i
      have hk : k' = k := by simpa using List.find?_some hfind
      have hmem := List.mem_of_find?_eq_some hfind
      rw [hk] at hmem
      rw [get, hfind, Option.map_some, value_eq h hmem]

theorem get_eq_none {d : Index κ β} {k : κ} : d.get k = none ↔ k ∉ d.keys := by
  constructor
  · intro h hk
    obtain ⟨⟨k', v⟩, hmem, rfl⟩ := List.mem_map.1 hk
    rw [get_eq_some.2 hmem] at h
    cases h
  · intro h
    cases hget : d.get k with
    | none => rfl
    | some v => exact absurd (List.mem_map_of_mem (get_eq_some.1 hget)) h

theorem mem_keys {d : Index κ β} {k : κ} : k ∈ d.keys ↔ ∃ v, d.get k = some v := by
  rw [← not_not (a := k ∈ d.keys), ← get_eq_none, ← ne_eq, Option.ne_none_iff_exists']

theorem mem_values {d : Index κ β} {v : β} : v ∈ d.values ↔ ∃ k, d.get k = some v := by
  simp only [get_eq_some]
  constructor
  · intro h
    obtain ⟨⟨k, v'⟩, hmem, rfl⟩ := List.mem_map.1 h
    exact ⟨k, hmem⟩
  · rintro ⟨k, hmem⟩
    exact List.mem_map_of_mem hmem

@[simp] theorem get_empty (k : κ) : (empty : Index κ β).get k = none := rfl

theorem get_set (d : Index κ β) (k k' : κ) (v : β) :
    (d.set k v).get k' = if k' = k then some v else d.get k' := by
  by_cases hk : k ∈ d.keys
  · have hitems : (d.set k v).items = d.items.map (put k v) := if_pos hk
    by_cases heq : k' = k
    · obtain ⟨w, hw⟩ := mem_keys.1 hk
      rw [if_pos heq, heq, get_eq_some, hitems]
      exact List.mem_map.2 ⟨(k, w), get_eq_some.1 hw, if_pos rfl⟩
    · rw [if_neg heq]
      ext w
      simp only [get_eq_some, hitems, List.mem_map]
      constructor
      · rintro ⟨i, hi, hiw⟩
        have hik : i.1 = k' := by rw [← put_fst k v i, hiw]
        rw [put, if_neg (by rw [hik]; exact heq)] at hiw
        rwa [← hiw]
      · intro hw
        exact ⟨(k', w), hw, if_neg heq⟩
  · have hitems : (d.set k v).items = d.items ++ [(k, v)] := if_neg hk
    ext w
    simp only [get_eq_some, hitems, List.mem_append, List.mem_singleton]
    by_cases heq : k' = k
    · rw [if_pos heq, heq]
      constructor
      · rintro (h | h)
        · exact absurd (List.mem_map_of_mem h) hk
        · rw [(Prod.mk.inj h).2]
      · intro h
        exact Or.inr (by rw [Option.some.inj h])
    · rw [if_neg heq, get_eq_some]
      constructor
      · rintro (h | h)
        · exact h
        · exact absurd (Prod.mk.inj h).1 heq
      · exact Or.inl

theorem keys_set (d : Index κ β) (k : κ) (v : β) :
    (d.set k v).keys = if k ∈ d.keys then d.keys else d.keys ++ [k] := by
  by_cases hk : k ∈ d.keys
  · have hitems : (d.set k v).items = d.items.map (put k v) := if_pos hk
    rw [if_pos hk, keys, hitems, map_fst_put, keys]
  · have hitems : (d.set k v).items = d.items ++ [(k, v)] := if_neg hk
    rw [if_neg hk, keys, hitems, List.map_append, keys, List.map_singleton]

theorem mem_keys_set {d : Index κ β} {k k' : κ} {v : β} :
    k' ∈ (d.set k v).keys ↔ k' ∈ d.keys ∨ k' = k := by
  rw [keys_set]
  by_cases hk : k ∈ d.keys
  · rw [if_pos hk]
    constructor
    · exact Or.inl
    · rintro (h | rfl)
      · exact h
      · exact hk
  · rw [if_neg hk, List.mem_append, List.mem_singleton]

/-! ## Deleting -/

/-- The entries that are kept, in their order. -/
def filter (d : Index κ β) (keep : κ → β → Bool) : Index κ β where
  items := d.items.filter fun i => keep i.1 i.2
  keys_nodup := d.keys_nodup.sublist (List.filter_sublist.map _)

theorem get_filter {d : Index κ β} {keep : κ → β → Bool} {k : κ} {v : β} :
    (d.filter keep).get k = some v ↔ d.get k = some v ∧ keep k v = true := by
  rw [get_eq_some, get_eq_some]
  exact List.mem_filter

/-- `del d[k]`, or nothing where `k` is not there. -/
def erase (d : Index κ β) (k : κ) : Index κ β := d.filter fun k' _ => k' ≠ k

theorem get_erase {d : Index κ β} {k k' : κ} {v : β} :
    (d.erase k).get k' = some v ↔ d.get k' = some v ∧ k' ≠ k := by
  rw [erase, get_filter, decide_eq_true_eq]

/-! ## Filling -/

@[simp] theorem collect_nil (key : α → Option κ) : collect key [] = empty := rfl

theorem collect_append_singleton (key : α → Option κ) (xs : List α) (x : α) :
    collect key (xs ++ [x]) = match key x with
      | none => collect key xs
      | some k => (collect key xs).set k x :=
  List.foldl_append

/-- **The last one wins.** -/
theorem get_collect (key : α → Option κ) (xs : List α) (k : κ) :
    (collect key xs).get k = xs.reverse.find? fun x => key x = some k := by
  induction xs using List.reverseRecOn with
  | nil => rfl
  | append_singleton xs x ih =>
    rw [collect_append_singleton, List.reverse_append, List.reverse_singleton,
      List.singleton_append, List.find?_cons]
    cases hx : key x with
    | none => simpa using ih
    | some k' =>
      rw [get_set, ih]
      by_cases hk : k = k'
      · simp [hk]
      · simp [hk, Ne.symm hk]

/-- What is found under a key came from the list and has that key. -/
theorem get_collect_some {key : α → Option κ} {xs : List α} {k : κ} {x : α}
    (h : (collect key xs).get k = some x) : x ∈ xs ∧ key x = some k := by
  rw [get_collect] at h
  exact ⟨List.mem_reverse.1 (List.mem_of_find?_eq_some h), by simpa using List.find?_some h⟩

theorem mem_keys_collect {key : α → Option κ} {xs : List α} {k : κ} :
    k ∈ (collect key xs).keys ↔ ∃ x ∈ xs, key x = some k := by
  rw [mem_keys]
  constructor
  · rintro ⟨x, hx⟩
    exact ⟨x, get_collect_some hx⟩
  · rintro ⟨x, hx, hk⟩
    refine Option.isSome_iff_exists.1 ?_
    rw [get_collect, List.find?_isSome]
    exact ⟨x, List.mem_reverse.2 hx, by simpa using hk⟩

/-- Where at most one element has each key, it is the one found. -/
theorem get_collect_of_unique {key : α → Option κ} {xs : List α} {x : α} {k : κ} (hx : x ∈ xs)
    (hk : key x = some k) (huniq : ∀ y ∈ xs, key y = some k → y = x) :
    (collect key xs).get k = some x := by
  obtain ⟨y, hy⟩ := mem_keys.1 (mem_keys_collect.2 ⟨x, hx, hk⟩)
  obtain ⟨hmem, hkey⟩ := get_collect_some hy
  rw [hy, huniq y hmem hkey]

/-- `for x in xs: d[key(x)] = value(x)`. -/
def fill (key : α → κ) (value : α → β) (xs : List α) : Index κ β :=
  xs.foldl (fun d x => d.set (key x) (value x)) empty

theorem get_fill (key : α → κ) (value : α → β) (xs : List α) (k : κ) :
    (fill key value xs).get k = (xs.reverse.find? fun x => key x = k).map value := by
  induction xs using List.reverseRecOn with
  | nil => rfl
  | append_singleton xs x ih =>
    have hstep : fill key value (xs ++ [x]) = (fill key value xs).set (key x) (value x) :=
      List.foldl_append
    rw [hstep, get_set, ih, List.reverse_append, List.reverse_singleton, List.singleton_append,
      List.find?_cons]
    by_cases hk : k = key x
    · simp [hk]
    · simp [hk, Ne.symm hk]

/-- Where no two elements have one key, each is found under its own. -/
theorem get_fill_eq_some {key : α → κ} {value : α → β} {xs : List α}
    (hinj : ∀ x ∈ xs, ∀ y ∈ xs, key x = key y → x = y) {k : κ} {v : β} :
    (fill key value xs).get k = some v ↔ ∃ x ∈ xs, key x = k ∧ value x = v := by
  rw [get_fill, Option.map_eq_some_iff]
  constructor
  · rintro ⟨x, hx, hv⟩
    exact ⟨x, List.mem_reverse.1 (List.mem_of_find?_eq_some hx), by simpa using List.find?_some hx,
      hv⟩
  · rintro ⟨x, hx, hk, hv⟩
    have hsome : (xs.reverse.find? fun x => key x = k).isSome := by
      rw [List.find?_isSome]
      exact ⟨x, List.mem_reverse.2 hx, by simpa using hk⟩
    obtain ⟨y, hy⟩ := Option.isSome_iff_exists.1 hsome
    have hky : key y = k := by simpa using List.find?_some hy
    have hmem := List.mem_reverse.1 (List.mem_of_find?_eq_some hy)
    exact ⟨y, hy, by rw [hinj y hmem x hx (hky.trans hk.symm), hv]⟩

/-- Where the keys are translated one to one, the translated key finds the same. -/
theorem get_collect_bind {κ' : Type*} [DecidableEq κ'] {key : α → Option κ} {f : κ → Option κ'}
    (hinj : ∀ {a b c}, f a = some c → f b = some c → a = b) {xs : List α} {k : κ} {k' : κ'}
    (hk : f k = some k') :
    (collect (fun x => (key x).bind f) xs).get k' = (collect key xs).get k := by
  have hsame : ∀ x, (key x).bind f = some k' ↔ key x = some k := by
    intro x
    rw [Option.bind_eq_some_iff]
    constructor
    · rintro ⟨a, ha, hfa⟩
      rw [ha, hinj hfa hk]
    · intro hx
      exact ⟨k, hx, hk⟩
  simp only [get_collect, hsame]

/-! ## Groups -/

/-- `for x in xs: d.setdefault(key(x), []).append(value(x))`. -/
def group (key : α → κ) (value : α → β) (xs : List α) : Index κ (List β) :=
  xs.foldl (fun d x => d.set (key x) ((d.get (key x)).getD [] ++ [value x])) empty

/-- **What a group holds**: the values of the elements with its key, in order; a key that no
element has is absent. -/
theorem get_group (key : α → κ) (value : α → β) (xs : List α) (k : κ) :
    (group key value xs).get k =
      if ∃ x ∈ xs, key x = k then some ((xs.filter fun x => key x = k).map value) else none := by
  induction xs using List.reverseRecOn with
  | nil => simp [group]
  | append_singleton xs x ih =>
    have hstep : group key value (xs ++ [x]) = (group key value xs).set (key x)
        (((group key value xs).get (key x)).getD [] ++ [value x]) := by
      simp [group]
    rw [hstep, get_set]
    by_cases hk : k = key x
    · subst hk
      rw [if_pos rfl, if_pos ⟨x, by simp, rfl⟩, ih]
      by_cases hsome : ∃ y ∈ xs, key y = key x
      · simp [if_pos hsome]
      · have hnone : xs.filter (fun y => key y = key x) = [] := by
          rw [List.filter_eq_nil_iff]
          intro y hy
          rw [decide_eq_true_eq]
          exact fun heq => hsome ⟨y, hy, heq⟩
        simp [if_neg hsome, hnone]
    · rw [if_neg hk, ih]
      simp [Ne.symm hk]

theorem mem_group {key : α → κ} {value : α → β} {xs : List α} {k : κ} {vs : List β} :
    (k, vs) ∈ (group key value xs).items ↔
      (∃ x ∈ xs, key x = k) ∧ vs = (xs.filter fun x => key x = k).map value := by
  rw [← get_eq_some, get_group]
  by_cases hk : ∃ x ∈ xs, key x = k
  · rw [if_pos hk, Option.some.injEq, eq_comm]
    exact (and_iff_right hk).symm
  · rw [if_neg hk]
    constructor
    · intro h
      cases h
    · intro h
      exact absurd h.1 hk

/-- `d.get(k, [])`. -/
theorem mem_group_getD {key : α → κ} {value : α → β} {xs : List α} {k : κ} {v : β} :
    v ∈ ((group key value xs).get k).getD [] ↔ ∃ x ∈ xs, key x = k ∧ value x = v := by
  rw [get_group]
  by_cases hk : ∃ x ∈ xs, key x = k
  · rw [if_pos hk, Option.getD_some]
    simp only [List.mem_map, List.mem_filter, decide_eq_true_eq, and_assoc]
  · rw [if_neg hk, Option.getD_none]
    constructor
    · intro hv
      cases hv
    · rintro ⟨x, hx, hkey, -⟩
      exact absurd ⟨x, hx, hkey⟩ hk

theorem mem_keys_group {key : α → κ} {value : α → β} {xs : List α} {k : κ} :
    k ∈ (group key value xs).keys ↔ ∃ x ∈ xs, key x = k := by
  rw [keys, List.mem_map]
  constructor
  · rintro ⟨i, hi, rfl⟩
    exact (mem_group.1 hi).1
  · intro hk
    exact ⟨(k, _), mem_group.2 ⟨hk, rfl⟩, rfl⟩

/-- **Grouping loses nothing**: the groups have as many elements as the list. -/
theorem sum_length_group (key : α → κ) (value : α → β) (xs : List α) :
    ((group key value xs).items.map fun i => i.2.length).sum = xs.length := by
  have hcount : (group key value xs).items.map (fun i => i.2.length) =
      (group key value xs).keys.map fun k => (xs.map key).count k := by
    rw [keys, List.map_map]
    refine List.map_congr_left ?_
    intro i hi
    have hvs := (mem_group.1 hi).2
    rw [hvs, List.length_map, Function.comp_apply, List.count, List.countP_map,
      List.countP_eq_length_filter]
    rfl
  have hperm : (group key value xs).keys.Perm (xs.map key).dedup := by
    have hsame : ∀ k, k ∈ (group key value xs).keys ↔ k ∈ (xs.map key).dedup := by
      intro k
      rw [List.mem_dedup, mem_keys_group, List.mem_map]
    exact (List.perm_ext_iff_of_nodup (group key value xs).keys_nodup (List.nodup_dedup _)).2 hsame
  rw [hcount, (hperm.map _).sum_eq, List.sum_map_count_dedup_eq_length, List.length_map]

/-- Grouping by one key and then by another makes the groups of the pair. -/
theorem group_group {κ' : Type*} [DecidableEq κ'] (key : α → κ) (key' : α → κ') (value : α → β)
    (xs : List α) :
    ((group key id xs).items.flatMap fun g =>
      (group key' value g.2).items.map fun h => ((g.1, h.1), h.2)).Perm
      (group (fun x => (key x, key' x)) value xs).items := by
  have hnodup : ((group key id xs).items.flatMap fun g =>
      (group key' value g.2).items.map fun h => ((g.1, h.1), h.2)).Nodup := by
    rw [List.nodup_flatMap]
    constructor
    · intro g _
      refine ((group key' value g.2).keys_nodup.of_map Prod.fst).map fun h h' heq => ?_
      rw [Prod.mk.injEq, Prod.mk.injEq] at heq
      exact Prod.ext heq.1.2 heq.2
    · refine (List.pairwise_map.1 (group key id xs).keys_nodup).imp fun hne => ?_
      intro i hi hi'
      obtain ⟨h, -, rfl⟩ := List.mem_map.1 hi
      obtain ⟨h', -, heq⟩ := List.mem_map.1 hi'
      rw [Prod.mk.injEq, Prod.mk.injEq] at heq
      exact hne heq.1.1.symm
  refine (List.perm_ext_iff_of_nodup hnodup
    ((group (fun x => (key x, key' x)) value xs).keys_nodup.of_map Prod.fst)).2 ?_
  rintro ⟨⟨k, k'⟩, vs⟩
  have hfilter : (xs.filter fun x => key x = k).filter (fun x => key' x = k') =
      xs.filter fun x => (key x, key' x) = (k, k') := by
    rw [List.filter_filter]
    refine List.filter_congr fun x _ => ?_
    rw [← Bool.decide_and]
    refine decide_eq_decide.2 ?_
    rw [Prod.mk.injEq]
    exact and_comm
  rw [mem_group, List.mem_flatMap]
  constructor
  · rintro ⟨⟨k₁, group₁⟩, hg, hi⟩
    obtain ⟨⟨k₂, vs'⟩, hh, heq⟩ := List.mem_map.1 hi
    rw [Prod.mk.injEq, Prod.mk.injEq] at heq
    obtain ⟨⟨rfl, rfl⟩, rfl⟩ := heq
    obtain ⟨-, rfl⟩ := mem_group.1 hg
    obtain ⟨⟨x, hx, hkey'⟩, rfl⟩ := mem_group.1 hh
    rw [List.map_id, List.mem_filter, decide_eq_true_eq] at hx
    rw [List.map_id, hfilter]
    exact ⟨⟨x, hx.1, Prod.ext hx.2 hkey'⟩, rfl⟩
  · rintro ⟨⟨x, hx, hkey⟩, rfl⟩
    rw [Prod.mk.injEq] at hkey
    refine ⟨(k, xs.filter fun x => key x = k), mem_group.2 ⟨⟨x, hx, hkey.1⟩, (List.map_id _).symm⟩,
      List.mem_map.2 ⟨(k', _), mem_group.2 ⟨⟨x, ?_, hkey.2⟩, rfl⟩, ?_⟩⟩
    · exact List.mem_filter.2 ⟨hx, decide_eq_true hkey.1⟩
    · rw [hfilter]

/-- **Each element has a group of its own**, and none but the good ones has one, exactly if all
are good and no two have a key in common. -/
theorem group_apart_iff {key : α → κ} {value : α → β} {xs : List α} {good : α → Bool} :
    (group key value xs).items.Perm ((xs.filter good).map fun x => (key x, [value x])) ↔
      (∀ x ∈ xs, good x = true) ∧ (xs.map key).Nodup := by
  constructor
  · intro hperm
    have hlength : xs.length = (xs.filter good).length := by
      rw [← sum_length_group key value xs, (hperm.map fun i => i.2.length).sum_eq, List.map_map]
      simp [Function.comp_def]
    have hgood : ∀ x ∈ xs, good x = true :=
      List.length_filter_eq_length_iff.1 hlength.symm
    have hkeys := hperm.map Prod.fst
    rw [List.filter_eq_self.2 hgood, List.map_map] at hkeys
    exact ⟨hgood, hkeys.nodup (group key value xs).keys_nodup⟩
  · rintro ⟨hgood, hnodup⟩
    rw [List.filter_eq_self.2 hgood]
    have hown : ∀ x ∈ xs, xs.filter (fun y => key y = key x) = [x] :=
      fun x hx => filter_key_eq hnodup hx
    refine (List.perm_ext_iff_of_nodup ((group key value xs).keys_nodup.of_map Prod.fst) ?_).2 ?_
    · refine List.Nodup.of_map Prod.fst ?_
      rw [List.map_map]
      exact hnodup
    · rintro ⟨k, vs⟩
      rw [mem_group, List.mem_map]
      constructor
      · rintro ⟨⟨x, hx, rfl⟩, rfl⟩
        exact ⟨x, hx, by rw [hown x hx, List.map_singleton]⟩
      · rintro ⟨x, hx, heq⟩
        rw [Prod.mk.injEq] at heq
        obtain ⟨rfl, rfl⟩ := heq
        exact ⟨⟨x, hx, rfl⟩, by rw [hown x hx, List.map_singleton]⟩

/-- A sum over the items to which one key alone contributes. -/
theorem sum_items_single (d : Index κ β) (k : κ) {f : κ × β → ℕ}
    (hf : ∀ i ∈ d.items, i.1 ≠ k → f i = 0) :
    (d.items.map f).sum = ((d.get k).map fun v => f (k, v)).getD 0 := by
  have hzero : ∀ is : List (κ × β), (∀ i ∈ is, i ∈ d.items ∧ i.1 ≠ k) → (is.map f).sum = 0 := by
    intro is his
    refine List.sum_eq_zero fun n hn => ?_
    obtain ⟨i, hi, rfl⟩ := List.mem_map.1 hn
    exact hf i (his i hi).1 (his i hi).2
  cases hk : d.get k with
  | none =>
    have hother : ∀ i ∈ d.items, i ∈ d.items ∧ i.1 ≠ k := by
      refine fun i hi => ⟨hi, fun heq => get_eq_none.1 hk ?_⟩
      rw [← heq]
      exact List.mem_map_of_mem hi
    rw [hzero _ hother, Option.map_none, Option.getD_none]
  | some v =>
    obtain ⟨before, after, hitems⟩ := List.append_of_mem (get_eq_some.1 hk)
    have hnodup := d.keys_nodup
    rw [hitems, List.map_append, List.map_cons, List.nodup_middle, List.nodup_cons,
      ← List.map_append] at hnodup
    have hout : k ∉ (before ++ after).map Prod.fst := hnodup.1
    have hother : ∀ i ∈ before ++ after, i.1 ≠ k := by
      intro i hi heq
      rw [← heq] at hout
      exact hout (List.mem_map_of_mem hi)
    have hbefore : (before.map f).sum = 0 :=
      hzero before fun i hi => ⟨by simp [hitems, hi], hother i (List.mem_append_left _ hi)⟩
    have hafter : (after.map f).sum = 0 :=
      hzero after fun i hi => ⟨by simp [hitems, hi], hother i (List.mem_append_right _ hi)⟩
    rw [hitems, List.map_append, List.map_cons, List.sum_append, List.sum_cons, hbefore, hafter,
      Nat.zero_add, Nat.add_zero, Option.map_some, Option.getD_some]

/-! ## Tallies -/

/-- `for k in ks: d[k] += 1`, of a `defaultdict(int)`. -/
def tally (ks : List κ) : Index κ ℕ :=
  ks.foldl (fun d k => d.set k ((d.get k).getD 0 + 1)) empty

/-- **What a tally holds**: how often a key came; one that did not come is absent. -/
theorem get_tally (ks : List κ) (k : κ) :
    (tally ks).get k = if k ∈ ks then some (ks.count k) else none := by
  induction ks using List.reverseRecOn with
  | nil => rfl
  | append_singleton ks k' ih =>
    have hstep : tally (ks ++ [k']) = (tally ks).set k' (((tally ks).get k').getD 0 + 1) := by
      simp [tally]
    rw [hstep, get_set]
    by_cases hk : k = k'
    · subst hk
      have hcount : ((tally ks).get k).getD 0 = ks.count k := by
        rw [ih]
        by_cases hmem : k ∈ ks
        · rw [if_pos hmem, Option.getD_some]
        · rw [if_neg hmem, List.count_eq_zero_of_not_mem hmem, Option.getD_none]
      rw [if_pos rfl, if_pos (by simp), hcount, List.count_append, List.count_singleton_self]
    · rw [if_neg hk, ih]
      simp [hk, Ne.symm hk]

theorem mem_tally {ks : List κ} {k : κ} {n : ℕ} :
    (k, n) ∈ (tally ks).items ↔ k ∈ ks ∧ n = ks.count k := by
  rw [← get_eq_some, get_tally]
  by_cases hk : k ∈ ks
  · rw [if_pos hk, Option.some.injEq]
    exact ⟨fun h => ⟨hk, h.symm⟩, fun h => h.2.symm⟩
  · rw [if_neg hk]
    exact ⟨fun h => absurd h (by simp), fun h => absurd h.1 hk⟩

end Index

end EnvMgr

/-
A database table with an automatic primary key.

A table is its rows in insertion order together with the next key the sequence
behind the key column hands out. That no two rows share a key, and that every
key in use lies below the next one, are fields of the structure: a table in
which a lookup by key is ambiguous cannot be written down, so no later proof
has to rule one out. The four statements a service issues (`INSERT`, `UPDATE ..
WHERE`, `DELETE .. WHERE`, `SELECT .. WHERE key = ..`) are the operations, each
with the one lemma that says which rows it leaves.
-/
import Mathlib.Data.List.Nodup
import Mathlib.Data.List.Sort

namespace EnvMgr

/-- Rows of type `α` whose primary key is read by `key`. -/
structure Table (α : Type*) (key : α → ℕ) where
  rows : List α
  /-- What the key column's sequence returns next. Keys are never reused. -/
  next : ℕ
  keys_nodup : (rows.map key).Nodup
  keys_lt : ∀ r ∈ rows, key r < next

namespace Table

variable {α : Type*} {key : α → ℕ}

/-- A row to be inserted: what it is, given the key it will get. -/
structure New (key : α → ℕ) where
  row : ℕ → α
  key_row : ∀ n, key (row n) = n

/-- A change of a row that leaves its key alone. -/
structure Edit (key : α → ℕ) where
  apply : α → α
  key_apply : ∀ r, key (apply r) = key r

instance : Membership α (Table α key) := ⟨fun t r => r ∈ t.rows⟩

theorem mem_def {t : Table α key} {r : α} : r ∈ t ↔ r ∈ t.rows := Iff.rfl

instance [DecidableEq α] (r : α) (t : Table α key) : Decidable (r ∈ t) :=
  inferInstanceAs (Decidable (r ∈ t.rows))

instance (t : Table α key) (p : α → Prop) [DecidablePred p] : Decidable (∀ r ∈ t, p r) :=
  inferInstanceAs (Decidable (∀ r ∈ t.rows, p r))

instance (t : Table α key) (p : α → Prop) [DecidablePred p] : Decidable (∃ r ∈ t, p r) :=
  inferInstanceAs (Decidable (∃ r ∈ t.rows, p r))

theorem key_lt_next {t : Table α key} {r : α} (h : r ∈ t) : key r < t.next :=
  t.keys_lt r h

/-- **The primary key identifies the row.** -/
theorem eq_of_key_eq {t : Table α key} {r r' : α} (h : r ∈ t) (h' : r' ∈ t)
    (hk : key r = key r') : r = r' :=
  List.inj_on_of_nodup_map t.keys_nodup h h' hk

/-- `WHERE key = ..` matches the one row it was taken from. -/
theorem key_match {t : Table α key} {r : α} (h : r ∈ t) (a : α) (ha : a ∈ t) :
    decide (key a = key r) = true ↔ a = r := by
  rw [decide_eq_true_eq]
  exact ⟨eq_of_key_eq ha h, fun heq => by rw [heq]⟩

/-- What holds of a row with the key of `r` holds of `r`. -/
theorem exists_key_iff {t : Table α key} {r : α} (h : r ∈ t) {P : α → Prop} :
    (∃ a ∈ t, key a = key r ∧ P a) ↔ P r := by
  constructor
  · rintro ⟨a, ha, hkey, hP⟩
    rwa [eq_of_key_eq ha h hkey] at hP
  · intro hr
    exact ⟨r, h, rfl, hr⟩

theorem forall_key_iff {t : Table α key} {r : α} (h : r ∈ t) {P : α → Prop} :
    (∀ a ∈ t, key a = key r → P a) ↔ P r := by
  constructor
  · intro hall
    exact hall r h rfl
  · intro hr a ha hkey
    rwa [eq_of_key_eq ha h hkey]

theorem rows_nodup (t : Table α key) : t.rows.Nodup := t.keys_nodup.of_map key

/-! ## The statements -/

/-- A table with no rows. -/
def empty : Table α key := ⟨[], 1, by simp, by simp⟩

/-- `INSERT`: the new row is built around the key the sequence returns. -/
def insert (t : Table α key) (new : New key) : Table α key where
  rows := t.rows ++ [new.row t.next]
  next := t.next + 1
  keys_nodup := by
    rw [List.map_append, List.nodup_append]
    refine ⟨t.keys_nodup, by simp, ?_⟩
    intro a ha b hb
    simp only [List.map_cons, List.map_nil, List.mem_singleton, new.key_row] at hb
    obtain ⟨r, hr, rfl⟩ := List.mem_map.1 ha
    have := t.keys_lt r hr
    omega
  keys_lt := by
    intro r hr
    rcases List.mem_append.1 hr with hr | hr
    · exact Nat.lt_succ_of_lt (t.keys_lt r hr)
    · rw [List.mem_singleton.1 hr, new.key_row]
      exact Nat.lt_succ_self _

/-- `add_all` followed by a flush: the rows get consecutive keys, in order. -/
def insert_all (t : Table α key) (news : List (New key)) : Table α key :=
  news.foldl insert t

/-- `UPDATE .. SET f WHERE p`. -/
def update (t : Table α key) (p : α → Bool) (f : Edit key) : Table α key where
  rows := t.rows.map (fun r => if p r then f.apply r else r)
  next := t.next
  keys_nodup := by
    have hkey : (key ∘ fun r => if p r then f.apply r else r) = key := by
      funext r
      by_cases hp : p r <;> simp [hp, f.key_apply]
    rw [List.map_map, hkey]
    exact t.keys_nodup
  keys_lt := by
    intro r hr
    obtain ⟨r₀, hr₀, rfl⟩ := List.mem_map.1 hr
    by_cases hp : p r₀
    · simp only [hp, if_true, f.key_apply]
      exact t.keys_lt r₀ hr₀
    · simp only [hp]
      exact t.keys_lt r₀ hr₀

/-- `DELETE .. WHERE p`. -/
def delete (t : Table α key) (p : α → Bool) : Table α key where
  rows := t.rows.filter (fun r => !p r)
  next := t.next
  keys_nodup := t.keys_nodup.sublist (List.filter_sublist.map key)
  keys_lt := fun r hr => t.keys_lt r (List.mem_of_mem_filter hr)

/-- `SELECT .. WHERE p`, in no order a caller may rely on. -/
def select (t : Table α key) (p : α → Bool) : List α := t.rows.filter p

/-- `SELECT .. WHERE p` where at most one row can match. -/
def select_one (t : Table α key) (p : α → Bool) : Option α := t.rows.find? p

/-! ## What each statement leaves -/

@[simp] theorem not_mem_empty (r : α) : r ∉ (empty : Table α key) := by
  simp [mem_def, empty]

@[simp] theorem mem_insert {t : Table α key} {new : New key} {r : α} :
    r ∈ t.insert new ↔ r ∈ t ∨ r = new.row t.next := by
  simp [mem_def, insert]

@[simp] theorem insert_next {t : Table α key} {new : New key} :
    (t.insert new).next = t.next + 1 := rfl

theorem mem_insert_all {t : Table α key} {news : List (New key)} {r : α} :
    r ∈ t.insert_all news ↔
      r ∈ t ∨ ∃ (i : ℕ) (new : New key), news[i]? = some new ∧ r = new.row (t.next + i) := by
  induction news generalizing t with
  | nil => simp [insert_all]
  | cons new news ih =>
    have hfold : t.insert_all (new :: news) = (t.insert new).insert_all news := rfl
    rw [hfold, ih, mem_insert, insert_next, or_assoc]
    refine or_congr Iff.rfl ⟨?_, ?_⟩
    · rintro (hr | ⟨i, new', hget, hr⟩)
      · exact ⟨0, new, rfl, hr⟩
      · exact ⟨i + 1, new', hget, by rw [hr]; congr 1; omega⟩
    · rintro ⟨i, new', hget, hr⟩
      cases i with
      | zero =>
        obtain rfl : new = new' := Option.some.inj hget
        exact Or.inl hr
      | succ i => exact Or.inr ⟨i, new', hget, by rw [hr]; congr 1; omega⟩

theorem next_le_insert_all (t : Table α key) (news : List (New key)) :
    t.next ≤ (t.insert_all news).next := by
  induction news generalizing t with
  | nil => exact le_rfl
  | cons new news ih =>
    have hfold : t.insert_all (new :: news) = (t.insert new).insert_all news := rfl
    rw [hfold]
    exact (Nat.le_succ t.next).trans (ih (t.insert new))

theorem mem_update {t : Table α key} {p : α → Bool} {f : Edit key} {r : α} :
    r ∈ t.update p f ↔ ∃ r₀ ∈ t, (if p r₀ then f.apply r₀ else r₀) = r := by
  simp [mem_def, update]

/-- A row after an update is a changed row that matched or an untouched one
that did not. -/
theorem mem_update_cases {t : Table α key} {p : α → Bool} {f : Edit key} {r : α}
    (h : r ∈ t.update p f) :
    (∃ r₀ ∈ t, p r₀ = true ∧ r = f.apply r₀) ∨ (r ∈ t ∧ p r = false) := by
  obtain ⟨r₀, hr₀, rfl⟩ := mem_update.1 h
  by_cases hp : p r₀
  · exact Or.inl ⟨r₀, hr₀, hp, by simp [hp]⟩
  · simp only [hp]
    exact Or.inr ⟨hr₀, by simpa using hp⟩

theorem mem_update_of_pos {t : Table α key} {p : α → Bool} {f : Edit key} {r : α}
    (h : r ∈ t) (hp : p r = true) : f.apply r ∈ t.update p f :=
  mem_update.2 ⟨r, h, by simp [hp]⟩

theorem mem_update_of_neg {t : Table α key} {p : α → Bool} {f : Edit key} {r : α}
    (h : r ∈ t) (hp : p r = false) : r ∈ t.update p f :=
  mem_update.2 ⟨r, h, by simp [hp]⟩

/-! A property of every row, after a statement, is one of the rows it wrote. -/

theorem forall_insert_iff {t : Table α key} {new : New key} {P : α → Prop}
    (h : ∀ r ∈ t, P r) : (∀ r ∈ t.insert new, P r) ↔ P (new.row t.next) := by
  constructor
  · intro hall
    exact hall _ (mem_insert.2 (Or.inr rfl))
  · intro hnew r hr
    rcases mem_insert.1 hr with hr | rfl
    · exact h r hr
    · exact hnew

/-- **A unique column stays unique** under an insert, with `C` for "the two rows
have the column in common". -/
theorem unique_insert {t : Table α key} {new : New key} {C : α → α → Prop}
    (hsymm : ∀ {a b}, C a b → C b a) (hold : ∀ a ∈ t, ∀ b ∈ t, C a b → a = b)
    (hnew : ∀ a ∈ t, ¬ C a (new.row t.next)) :
    ∀ a ∈ t.insert new, ∀ b ∈ t.insert new, C a b → a = b := by
  intro a ha b hb hab
  rcases mem_insert.1 ha with ha | rfl
  · rcases mem_insert.1 hb with hb | rfl
    · exact hold a ha b hb hab
    · exact absurd hab (hnew a ha)
  · rcases mem_insert.1 hb with hb | rfl
    · exact absurd (hsymm hab) (hnew b hb)
    · rfl

/-- It stays unique exactly if no old row has it in common with the new one. -/
theorem unique_insert_iff {t : Table α key} {new : New key} {C : α → α → Prop}
    (hsymm : ∀ {a b}, C a b → C b a) (hold : ∀ a ∈ t, ∀ b ∈ t, C a b → a = b) :
    (∀ a ∈ t.insert new, ∀ b ∈ t.insert new, C a b → a = b) ↔
      ∀ a ∈ t, ¬ C a (new.row t.next) := by
  refine ⟨fun h a ha hc => ?_, unique_insert hsymm hold⟩
  have heq := h a (mem_insert.2 (Or.inl ha)) _ (mem_insert.2 (Or.inr rfl)) hc
  have hlt := key_lt_next ha
  rw [heq, new.key_row] at hlt
  exact absurd hlt (lt_irrefl _)

/-- The same for an update of one row: no other row has it in common with what that
row becomes. -/
theorem unique_update_iff {t : Table α key} {p : α → Bool} {f : Edit key} {C : α → α → Prop}
    (hsymm : ∀ {a b}, C a b → C b a) (hold : ∀ a ∈ t, ∀ b ∈ t, C a b → a = b) {r : α}
    (hr : r ∈ t) (hp : ∀ a ∈ t, p a = true ↔ a = r) :
    (∀ a ∈ t.update p f, ∀ b ∈ t.update p f, C a b → a = b) ↔
      ∀ a ∈ t, C a (f.apply r) → a = r := by
  have hpr : p r = true := (hp r hr).2 rfl
  constructor
  · intro h a ha hc
    by_contra hne
    have hpa : p a = false := by
      rw [← Bool.not_eq_true, hp a ha]
      exact hne
    have heq := h a (mem_update_of_neg ha hpa) _ (mem_update_of_pos hr hpr) hc
    refine hne (eq_of_key_eq ha hr ?_)
    rw [heq, f.key_apply]
  · intro h a ha b hb hab
    rcases mem_update_cases ha with ⟨a₀, ha₀, hpa, rfl⟩ | ⟨ha, hpa⟩
    · obtain rfl := (hp a₀ ha₀).1 hpa
      rcases mem_update_cases hb with ⟨b₀, hb₀, hpb, rfl⟩ | ⟨hb, hpb⟩
      · rw [(hp b₀ hb₀).1 hpb]
      · rw [h b hb (hsymm hab), hpr] at hpb
        cases hpb
    · rcases mem_update_cases hb with ⟨b₀, hb₀, hpb, rfl⟩ | ⟨hb, hpb⟩
      · obtain rfl := (hp b₀ hb₀).1 hpb
        rw [h a ha hab, hpr] at hpa
        cases hpa
      · exact hold a ha b hb hab

/-- It stays unique if rows that have it in common afterwards had it before. -/
theorem unique_update {t : Table α key} {p : α → Bool} {f : Edit key} {C : α → α → Prop}
    (hC : ∀ a b, C (if p a then f.apply a else a) (if p b then f.apply b else b) → C a b)
    (hold : ∀ a ∈ t, ∀ b ∈ t, C a b → a = b) :
    ∀ a ∈ t.update p f, ∀ b ∈ t.update p f, C a b → a = b := by
  intro a ha b hb hab
  obtain ⟨a₀, ha₀, rfl⟩ := mem_update.1 ha
  obtain ⟨b₀, hb₀, rfl⟩ := mem_update.1 hb
  rw [hold a₀ ha₀ b₀ hb₀ (hC a₀ b₀ hab)]

theorem forall_insert_all_iff {t : Table α key} {news : List (New key)} {P : α → Prop}
    (h : ∀ r ∈ t, P r) :
    (∀ r ∈ t.insert_all news, P r) ↔
      ∀ (i : ℕ) (new : New key), news[i]? = some new → P (new.row (t.next + i)) := by
  constructor
  · intro hall i new hget
    exact hall _ (mem_insert_all.2 (Or.inr ⟨i, new, hget, rfl⟩))
  · intro hnew r hr
    rcases mem_insert_all.1 hr with hr | ⟨i, new, hget, rfl⟩
    · exact h r hr
    · exact hnew i new hget

theorem forall_update_iff {t : Table α key} {p : α → Bool} {f : Edit key} {P : α → Prop}
    (h : ∀ r ∈ t, P r) :
    (∀ r ∈ t.update p f, P r) ↔ ∀ r ∈ t, p r = true → P (f.apply r) := by
  constructor
  · intro hall r hr hp
    exact hall _ (mem_update_of_pos hr hp)
  · intro hnew r hr
    rcases mem_update_cases hr with ⟨r₀, hr₀, hp, rfl⟩ | ⟨hr, -⟩
    · exact hnew r₀ hr₀ hp
    · exact h r hr

/-- The same for an update of one row. -/
theorem forall_update_key_iff {t : Table α key} {f : Edit key} {P : α → Prop}
    (h : ∀ r ∈ t, P r) {r : α} (hr : r ∈ t) :
    (∀ a ∈ t.update (fun a => key a = key r) f, P a) ↔ P (f.apply r) := by
  simp only [forall_update_iff h, decide_eq_true_eq]
  exact forall_key_iff (P := fun a => P (f.apply a)) hr

/-- **Pairs after a batch of inserts.** Where no two old rows are in the symmetric
relation `C`, no two rows are afterwards exactly when no new row is with an old
one and no two new ones are with each other. -/
theorem no_pair_insert_all_iff {t : Table α key} {news : List (New key)} {C : α → α → Prop}
    (hsymm : ∀ {a b}, C a b → C b a) (hold : ∀ a ∈ t, ∀ b ∈ t, a ≠ b → ¬ C a b) :
    (∀ a ∈ t.insert_all news, ∀ b ∈ t.insert_all news, a ≠ b → ¬ C a b) ↔
      (∀ (i : ℕ) (new : New key), news[i]? = some new →
        ∀ a ∈ t, ¬ C a (new.row (t.next + i))) ∧
      ∀ (i j : ℕ) (new new' : New key), news[i]? = some new → news[j]? = some new' → i < j →
        ¬ C (new.row (t.next + i)) (new'.row (t.next + j)) := by
  constructor
  · intro h
    refine ⟨fun i new hi a ha => ?_, fun i j new new' hi hj hij => ?_⟩
    · refine h a (mem_insert_all.2 (Or.inl ha)) _ (mem_insert_all.2 (Or.inr ⟨i, new, hi, rfl⟩)) ?_
      -- an old key lies below every new one
      rintro rfl
      have hlt := key_lt_next ha
      rw [new.key_row] at hlt
      omega
    · refine h _ (mem_insert_all.2 (Or.inr ⟨i, new, hi, rfl⟩)) _
        (mem_insert_all.2 (Or.inr ⟨j, new', hj, rfl⟩)) (fun heq => ?_)
      have hkey := congrArg key heq
      rw [new.key_row, new'.key_row] at hkey
      omega
  · rintro ⟨hnew, hnews⟩ a ha b hb hne
    rcases mem_insert_all.1 ha with ha | ⟨i, new, hi, rfl⟩ <;>
      rcases mem_insert_all.1 hb with hb | ⟨j, new', hj, rfl⟩
    · exact hold a ha b hb hne
    · exact hnew j new' hj a ha
    · exact fun h => hnew i new hi b hb (hsymm h)
    · rcases Nat.lt_trichotomy i j with hij | rfl | hij
      · exact hnews i j new new' hi hj hij
      · obtain rfl : new = new' := Option.some.inj (hi.symm.trans hj)
        exact absurd rfl hne
      · exact fun h => hnews j i new' new hj hi hij (hsymm h)

@[simp] theorem mem_delete {t : Table α key} {p : α → Bool} {r : α} :
    r ∈ t.delete p ↔ r ∈ t ∧ p r = false := by
  simp [mem_def, delete]

@[simp] theorem mem_select {t : Table α key} {p : α → Bool} {r : α} :
    r ∈ t.select p ↔ r ∈ t ∧ p r = true := by
  simp [mem_def, select]

/-! Two conditions that pick the same rows, or two edits that agree on them. -/

/-- A condition no row meets deletes nothing. -/
theorem delete_eq_self {t : Table α key} {p : α → Bool} (h : ∀ r ∈ t, p r = false) :
    t.delete p = t := by
  have hrows : (t.rows.filter fun r => !p r) = t.rows :=
    List.filter_eq_self.2 fun r hr => by rw [h r hr, Bool.not_false]
  simp only [delete, hrows]

/-- **A batch of inserts adds rows at the end**, one for each, with the keys that follow. -/
theorem insert_all_rows (t : Table α key) (news : List (New key)) :
    (t.insert_all news).rows = t.rows ++ (news.zipIdx t.next).map fun n => n.1.row n.2 := by
  induction news generalizing t with
  | nil => exact (List.append_nil _).symm
  | cons new news ih =>
    have hfold : t.insert_all (new :: news) = (t.insert new).insert_all news := rfl
    have hrows : (t.insert new).rows = t.rows ++ [new.row t.next] := rfl
    rw [hfold, ih, hrows, insert_next, List.zipIdx_cons, List.map_cons, List.append_assoc]
    rfl

/-- What is read of the added rows, but for their keys. -/
theorem insert_all_added {β : Type*} (t : Table α key) (news : List (New key)) {g : α → β}
    {h : New key → β} (hg : ∀ new ∈ news, ∀ n, g (new.row n) = h new) :
    ∃ added, (t.insert_all news).rows = t.rows ++ added ∧ added.map g = news.map h := by
  refine ⟨_, insert_all_rows t news, ?_⟩
  rw [List.map_map]
  have hread : ∀ n ∈ news.zipIdx t.next,
      (g ∘ fun n : New key × ℕ => n.1.row n.2) n = (h ∘ Prod.fst) n := by
    intro n hn
    exact hg n.1 (List.fst_mem_of_mem_zipIdx hn) n.2
  rw [List.map_congr_left hread, ← List.map_map, List.zipIdx_map_fst]

/-! What a batch of inserts adds to a reading of the rows that does not see the keys. -/

theorem insert_all_map {β : Type*} {f : α → β} {t : Table α key} {news : List (New key)}
    (hf : ∀ new ∈ news, ∀ n, f (new.row n) = f (new.row 0)) :
    (t.insert_all news).rows.map f = t.rows.map f ++ news.map fun new => f (new.row 0) := by
  induction news generalizing t with
  | nil => simp [insert_all]
  | cons new news ih =>
    have hfold : t.insert_all (new :: news) = (t.insert new).insert_all news := rfl
    have hrows : (t.insert new).rows = t.rows ++ [new.row t.next] := rfl
    rw [hfold, ih fun n hn => hf n (List.mem_cons_of_mem _ hn), hrows, List.map_append,
      List.map_singleton, hf new (List.mem_cons_self ..), List.append_assoc]
    rfl

theorem insert_all_filter {q : α → Bool} {t : Table α key} {news : List (New key)}
    (hq : ∀ new ∈ news, ∀ n, q (new.row n) = false) :
    (t.insert_all news).rows.filter q = t.rows.filter q := by
  induction news generalizing t with
  | nil => rfl
  | cons new news ih =>
    have hfold : t.insert_all (new :: news) = (t.insert new).insert_all news := rfl
    have hrows : (t.insert new).rows = t.rows ++ [new.row t.next] := rfl
    rw [hfold, ih fun n hn => hq n (List.mem_cons_of_mem _ hn), hrows, List.filter_append,
      List.filter_singleton, hq new (List.mem_cons_self ..)]
    exact List.append_nil _

/-- What a batch of inserts adds to a column of the rows that a filter keeps. -/
theorem insert_all_select_map {β : Type*} {q : α → Bool} {g : α → β} {q' : New key → Bool}
    {g' : New key → β} {t : Table α key} {news : List (New key)}
    (hq : ∀ new ∈ news, ∀ n, q (new.row n) = q' new)
    (hg : ∀ new ∈ news, ∀ n, g (new.row n) = g' new) :
    ((t.insert_all news).select q).map g = (t.select q).map g ++ (news.filter q').map g' := by
  induction news generalizing t with
  | nil => exact (List.append_nil _).symm
  | cons new news ih =>
    have hfold : t.insert_all (new :: news) = (t.insert new).insert_all news := rfl
    have hnew : ((t.insert new).select q).map g =
        (t.select q).map g ++ ([new].filter q').map g' := by
      have hrows : (t.insert new).select q = t.select q ++ [new.row t.next].filter q :=
        List.filter_append _ _
      rw [hrows, List.map_append, List.filter_singleton, List.filter_singleton,
        hq new List.mem_cons_self]
      cases q' new with
      | false => rfl
      | true => simp [hg new List.mem_cons_self]
    rw [hfold, ih (fun n hn => hq n (List.mem_cons_of_mem _ hn))
      (fun n hn => hg n (List.mem_cons_of_mem _ hn)), hnew, List.append_assoc, ← List.map_append,
      ← List.filter_append, List.singleton_append]

/-- Deleting again what was inserted in place of what was deleted. -/
theorem delete_insert_all_delete {p : α → Bool} {t : Table α key} {news : List (New key)}
    (hp : ∀ new ∈ news, ∀ n, p (new.row n) = true) :
    (((t.delete p).insert_all news).delete p).rows = (t.delete p).rows := by
  have hnews : ∀ new ∈ news, ∀ n, (!p (new.row n)) = false := by
    intro new hnew n
    rw [hp new hnew n, Bool.not_true]
  refine (insert_all_filter hnews).trans (List.filter_eq_self.2 fun r hr => ?_)
  rw [(mem_delete.1 (mem_def.2 hr)).2, Bool.not_false]

theorem eq_of_rows {t t' : Table α key} (hrows : t.rows = t'.rows) (hnext : t.next = t'.next) :
    t = t' := by
  cases t
  cases t'
  obtain rfl := hrows
  obtain rfl := hnext
  rfl

/-- An update that leaves the new row alone may as well come first. -/
theorem update_insert {t : Table α key} {new : New key} {p : α → Bool} {f : Edit key}
    (h : p (new.row t.next) = false) :
    (t.insert new).update p f = (t.update p f).insert new := by
  refine eq_of_rows ?_ rfl
  show ((t.rows ++ [new.row t.next]).map fun r => if p r then f.apply r else r) =
    (t.rows.map fun r => if p r then f.apply r else r) ++ [new.row t.next]
  rw [List.map_append, List.map_singleton, if_neg (Bool.eq_false_iff.1 h)]

theorem select_insert (t : Table α key) (new : New key) (p : α → Bool) :
    (t.insert new).select p = t.select p ++ if p (new.row t.next) then [new.row t.next] else [] := by
  simp only [select, insert, List.filter_append, List.filter_cons, List.filter_nil]

theorem select_one_some {t : Table α key} {p : α → Bool} {r : α}
    (h : t.select_one p = some r) : r ∈ t ∧ p r = true :=
  ⟨List.mem_of_find?_eq_some h, List.find?_some h⟩

theorem select_one_none {t : Table α key} {p : α → Bool} (h : t.select_one p = none)
    {r : α} (hr : r ∈ t) : p r = false := by
  simpa using List.find?_eq_none.1 h r hr

/-- A condition that only `r` meets finds `r`. -/
theorem select_one_eq {t : Table α key} {p : α → Bool} {r : α} (hr : r ∈ t)
    (hp : p r = true) (huniq : ∀ r' ∈ t, p r' = true → r' = r) :
    t.select_one p = some r := by
  cases h : t.select_one p with
  | none => exact absurd hp (by simp [select_one_none h hr])
  | some r' =>
    obtain ⟨hmem, hp'⟩ := select_one_some h
    rw [huniq r' hmem hp']

/-- A look-up that two rows do not meet. -/
theorem select_one_iff {t : Table α key} {P : α → Prop} [DecidablePred P] {r : α}
    (huniq : ∀ a ∈ t, ∀ b ∈ t, P a → P b → a = b) :
    t.select_one (fun a => P a) = some r ↔ r ∈ t ∧ P r := by
  constructor
  · intro h
    obtain ⟨hr, hp⟩ := select_one_some h
    exact ⟨hr, of_decide_eq_true hp⟩
  · rintro ⟨hr, hp⟩
    refine select_one_eq hr (decide_eq_true hp) fun a ha hpa => ?_
    exact huniq a ha r hr (of_decide_eq_true hpa) hp

/-- A look-up that asks for the key, whatever else it asks for. -/
theorem select_one_key_iff {t : Table α key} {P : α → Prop} [DecidablePred P] {r : α} {k : ℕ}
    (hkey : ∀ a, P a → key a = k) : t.select_one (fun a => P a) = some r ↔ r ∈ t ∧ P r :=
  select_one_iff fun a ha b hb hpa hpb => eq_of_key_eq ha hb ((hkey a hpa).trans (hkey b hpb).symm)

/-- A condition that two rows do not meet selects one row at most. -/
theorem length_select_le_one {t : Table α key} {p : α → Bool}
    (huniq : ∀ r ∈ t, ∀ r' ∈ t, p r = true → p r' = true → r = r') : (t.select p).length ≤ 1 := by
  have hnodup : (t.select p).Nodup := t.rows_nodup.filter p
  have hsame : ∀ r ∈ t.select p, ∀ r' ∈ t.select p, r = r' := by
    intro r hr r' hr'
    obtain ⟨hr, hp⟩ := mem_select.1 hr
    obtain ⟨hr', hp'⟩ := mem_select.1 hr'
    exact huniq r hr r' hr' hp hp'
  cases hrows : t.select p with
  | nil => exact Nat.zero_le _
  | cons r rest =>
    rw [hrows] at hnodup hsame
    cases rest with
    | nil => exact le_refl _
    | cons r' rest =>
      have heq := hsame r (by simp) r' (by simp)
      exact absurd (heq ▸ List.mem_cons_self) (List.nodup_cons.1 hnodup).1

/-- It selects `r` alone. -/
theorem select_eq_singleton {t : Table α key} {p : α → Bool} {r : α} (hr : r ∈ t)
    (hp : p r = true) (huniq : ∀ r' ∈ t, p r' = true → r' = r) : t.select p = [r] := by
  have hnodup : (t.select p).Nodup := t.rows_nodup.filter p
  have hmem : ∀ r', r' ∈ t.select p ↔ r' ∈ [r] := by
    intro r'
    rw [mem_select, List.mem_singleton]
    constructor
    · rintro ⟨hr', hp'⟩
      exact huniq r' hr' hp'
    · rintro rfl
      exact ⟨hr, hp⟩
  exact List.perm_singleton.1
    ((List.perm_ext_iff_of_nodup hnodup (List.nodup_singleton r)).2 hmem)

/-- The row with the key of `r` in a selection, if `r` is selected. -/
theorem filter_select {t : Table α key} {p : α → Bool} {r : α} (hr : r ∈ t) :
    (t.select p).filter (fun a => key a = key r) = if p r then [r] else [] := by
  rw [select, List.filter_filter]
  by_cases hp : p r = true
  · rw [if_pos hp]
    refine select_eq_singleton hr ?_ fun a ha hboth => ?_
    · rw [decide_eq_true rfl, hp, Bool.and_true]
    · exact (key_match hr a ha).1 (Bool.and_eq_true_iff.1 hboth).1
  · rw [if_neg hp]
    refine List.filter_eq_nil_iff.2 fun a ha hboth => ?_
    obtain ⟨hkey, hpa⟩ := Bool.and_eq_true_iff.1 hboth
    rw [(key_match hr a ha).1 hkey] at hpa
    exact hp hpa

/-- Every row of `t` is in `t'` still, in a version that `R` relates to it. -/
def Retains (R : α → α → Prop) (t t' : Table α key) : Prop := ∀ r ∈ t, ∃ r' ∈ t', R r r'

section Retains

variable {R : α → α → Prop} (hrefl : ∀ r, R r r)

theorem Retains.trans {t₁ t₂ t₃ : Table α key} (h₁₂ : Retains R t₁ t₂) (h₂₃ : Retains R t₂ t₃)
    (htrans : ∀ a b c, R a b → R b c → R a c) : Retains R t₁ t₃ := by
  intro r hr
  obtain ⟨r', hr', h⟩ := h₁₂ r hr
  obtain ⟨r'', hr'', h'⟩ := h₂₃ r' hr'
  exact ⟨r'', hr'', htrans r r' r'' h h'⟩

include hrefl

theorem retains_refl (t : Table α key) : Retains R t t := fun r hr => ⟨r, hr, hrefl r⟩

theorem retains_insert (t : Table α key) (new : New key) : Retains R t (t.insert new) :=
  fun r hr => ⟨r, mem_insert.2 (Or.inl hr), hrefl r⟩

theorem retains_update (t : Table α key) (p : α → Bool) {f : Edit key}
    (hf : ∀ r, R r (f.apply r)) : Retains R t (t.update p f) := by
  intro r hr
  by_cases hp : p r = true
  · exact ⟨f.apply r, mem_update_of_pos hr hp, hf r⟩
  · exact ⟨r, mem_update_of_neg hr (by simpa using hp), hrefl r⟩

/-- An update of one row. -/
theorem retains_update_key {t : Table α key} {r : α} (hr : r ∈ t) {f : Edit key}
    (hf : R r (f.apply r)) : Retains R t (t.update (fun a => key a = key r) f) := by
  intro a ha
  by_cases hkey : key a = key r
  · obtain rfl := eq_of_key_eq ha hr hkey
    exact ⟨f.apply a, mem_update_of_pos ha (decide_eq_true rfl), hf⟩
  · exact ⟨a, mem_update_of_neg ha (decide_eq_false hkey), hrefl a⟩

end Retains

/-! ## Rows that come from somewhere -/

/-- Every row of `t'` is a version, by `R`, of the row of `t` with its key, or has a key that
`t` has not given out. -/
structure Descends (R : α → α → Prop) (t t' : Table α key) : Prop where
  next : t.next ≤ t'.next
  origin : ∀ r' ∈ t', (∃ r ∈ t, key r = key r' ∧ R r r') ∨ t.next ≤ key r'

section Descends

variable {R : α → α → Prop}

theorem Descends.trans {t₁ t₂ t₃ : Table α key} (h₁₂ : Descends R t₁ t₂) (h₂₃ : Descends R t₂ t₃)
    (htrans : ∀ a b c, R a b → R b c → R a c) : Descends R t₁ t₃ := by
  refine ⟨h₁₂.next.trans h₂₃.next, fun c hc => ?_⟩
  rcases h₂₃.origin c hc with ⟨b, hb, hkey, hbc⟩ | hnew
  · rcases h₁₂.origin b hb with ⟨a, ha, hkey', hab⟩ | hnew
    · exact Or.inl ⟨a, ha, hkey'.trans hkey, htrans a b c hab hbc⟩
    · exact Or.inr (hkey ▸ hnew)
  · exact Or.inr (h₁₂.next.trans hnew)

variable (hrefl : ∀ r, R r r)

include hrefl

theorem descends_refl (t : Table α key) : Descends R t t :=
  ⟨le_refl _, fun r hr => Or.inl ⟨r, hr, rfl, hrefl r⟩⟩

theorem descends_insert (t : Table α key) (new : New key) : Descends R t (t.insert new) := by
  refine ⟨Nat.le_succ _, fun r hr => ?_⟩
  rcases mem_insert.1 hr with hr | rfl
  · exact Or.inl ⟨r, hr, rfl, hrefl r⟩
  · exact Or.inr (new.key_row t.next).ge

theorem descends_update (t : Table α key) (p : α → Bool) {f : Edit key}
    (hf : ∀ r ∈ t, p r = true → R r (f.apply r)) : Descends R t (t.update p f) := by
  refine ⟨le_refl _, fun r' hr' => Or.inl ?_⟩
  rcases mem_update_cases hr' with ⟨r, hr, hp, rfl⟩ | ⟨hr', -⟩
  · exact ⟨r, hr, (f.key_apply r).symm, hf r hr hp⟩
  · exact ⟨r', hr', rfl, hrefl r'⟩

end Descends

end Table

/-- `ORDER BY key`, ties left in the order the rows came. -/
def order_by {α β : Type*} [LinearOrder β] (key : α → β) (rows : List α) : List α :=
  rows.insertionSort (fun a b => key a ≤ key b)

@[simp] theorem mem_order_by {α β : Type*} [LinearOrder β] {key : α → β} {rows : List α}
    {r : α} : r ∈ order_by key rows ↔ r ∈ rows := by
  simp [order_by]

theorem nodup_order_by {α β : Type*} [LinearOrder β] {key : α → β} {rows : List α} :
    (order_by key rows).Nodup ↔ rows.Nodup :=
  (List.perm_insertionSort _ rows).nodup_iff

end EnvMgr

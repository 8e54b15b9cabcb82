/-
The same rows in another order.

A statement without ORDER BY may answer its rows in any order, so two tables that differ in the
order of their rows only are one table as far as a caller may know. What is read of both is the
same where the order cannot show: a selection up to its order, one row where only one can match,
a selection that is sorted by something that tells its rows apart.
-/
import EnvMgr.Lib.Index
import EnvMgr.Lib.OrderBy
import EnvMgr.Lib.Table

namespace EnvMgr

theorem OrderBy.answers_order_by {α κ : Type*} [LinearOrder κ] (rank : α → κ) (rows : List α) :
    OrderBy.Answers rank rows (order_by rank rows) :=
  OrderBy.answers_insertionSort rank rows

/-- Where the key tells the rows apart, a further condition only takes rows out of the answer. -/
theorem order_by_filter {α κ : Type*} [LinearOrder κ] {rank : α → κ} {rows : List α}
    (hinj : ∀ a ∈ rows, ∀ b ∈ rows, rank a = rank b → a = b) (p : α → Bool) :
    order_by rank (rows.filter p) = (order_by rank rows).filter p := by
  have hall := (OrderBy.answers_order_by rank rows).filter p
  have hkept := OrderBy.answers_order_by rank (rows.filter p)
  refine hall.unique ?_ hkept (List.Perm.refl _)
  intro a ha b hb
  exact hinj a (List.mem_filter.1 ha).1 b (List.mem_filter.1 hb).1

/-- Rows that were changed in something the key does not see, in any order. -/
theorem order_by_map {α κ : Type*} [LinearOrder κ] {rank : α → κ} {rows rows' : List α}
    (hinj : ∀ a ∈ rows, ∀ b ∈ rows, rank a = rank b → a = b) {g : α → α}
    (hrank : ∀ a, rank (g a) = rank a) (h : rows'.Perm (rows.map g)) :
    order_by rank rows' = (order_by rank rows).map g := by
  have hsorted : OrderBy.Answers rank rows (order_by rank rows) := OrderBy.answers_order_by rank rows
  have hmapped : OrderBy.Answers rank (rows.map g) ((order_by rank rows).map g) := by
    refine ⟨hsorted.perm.map g, List.pairwise_map.2 ?_⟩
    simp only [hrank]
    exact hsorted.sorted
  refine hmapped.unique (fun a ha b hb hab => ?_) (OrderBy.answers_order_by rank rows') h
  obtain ⟨a', ha', rfl⟩ := List.mem_map.1 ha
  obtain ⟨b', hb', rfl⟩ := List.mem_map.1 hb
  rw [hrank, hrank] at hab
  rw [hinj a' ha' b' hb' hab]

namespace Table

variable {α : Type*} {key : α → ℕ} {t t' : Table α key} {p q : α → Bool}

def Reordered (t t' : Table α key) : Prop := t'.rows.Perm t.rows

theorem Reordered.mem_iff (h : Reordered t t') {r : α} : r ∈ t' ↔ r ∈ t := List.Perm.mem_iff h

/-- Two conditions that agree on the rows select the same of them. -/
theorem Reordered.select (h : Reordered t t') (hpq : ∀ r ∈ t, q r = p r) :
    (t'.select q).Perm (t.select p) := by
  have hsame : t'.rows.filter q = t'.rows.filter p :=
    List.filter_congr fun r hr => hpq r (h.mem_iff.1 hr)
  rw [Table.select, hsame]
  exact List.Perm.filter p h

theorem Reordered.select_one (h : Reordered t t')
    (huniq : ∀ a ∈ t, ∀ b ∈ t, p a = true → p b = true → a = b) :
    t'.select_one p = t.select_one p := by
  cases hone : t.select_one p with
  | none =>
    cases hone' : t'.select_one p with
    | none => rfl
    | some r =>
      obtain ⟨hr, hp⟩ := select_one_some hone'
      rw [select_one_none hone (h.mem_iff.1 hr)] at hp
      cases hp
  | some r =>
    obtain ⟨hr, hp⟩ := select_one_some hone
    exact select_one_eq (h.mem_iff.2 hr) hp fun r' hr' hp' =>
      huniq r' (h.mem_iff.1 hr') r hr hp' hp

theorem Reordered.order_by {κ : Type*} [LinearOrder κ] {rank : α → κ} (h : Reordered t t')
    (hpq : ∀ r ∈ t, q r = p r) (hinj : ∀ a ∈ t, ∀ b ∈ t, rank a = rank b → a = b) :
    order_by rank (t'.select q) = order_by rank (t.select p) := by
  have hinj' : ∀ a ∈ t.select p, ∀ b ∈ t.select p, rank a = rank b → a = b :=
    fun a ha b hb => hinj a (mem_select.1 ha).1 b (mem_select.1 hb).1
  exact (OrderBy.answers_order_by rank (t.select p)).unique hinj'
    (OrderBy.answers_order_by rank (t'.select q)) (h.select hpq)

/-- Some order of the rows begins with any of them. -/
theorem exists_front {r : α} (h : r ∈ t) : ∃ t', Reordered t t' ∧ ∃ rest, t'.rows = r :: rest := by
  obtain ⟨before, after, hrows⟩ := List.append_of_mem (mem_def.1 h)
  have hperm : (r :: (before ++ after)).Perm t.rows := by
    rw [hrows]
    exact List.perm_middle.symm
  exact ⟨⟨r :: (before ++ after), t.next, (hperm.map key).nodup_iff.2 t.keys_nodup,
    fun a ha => t.keys_lt a (hperm.mem_iff.1 ha)⟩, hperm, before ++ after, rfl⟩

/-- Some order of the rows ends with any of them. -/
theorem exists_back {r : α} (h : r ∈ t) : ∃ t', Reordered t t' ∧ ∃ rest, t'.rows = rest ++ [r] := by
  obtain ⟨before, after, hrows⟩ := List.append_of_mem (mem_def.1 h)
  have hperm : ((before ++ after) ++ [r]).Perm t.rows := by
    rw [hrows, List.append_assoc]
    exact List.perm_append_comm.append_left before
  exact ⟨⟨(before ++ after) ++ [r], t.next, (hperm.map key).nodup_iff.2 t.keys_nodup,
    fun a ha => t.keys_lt a (hperm.mem_iff.1 ha)⟩, hperm, before ++ after, rfl⟩

end Table

namespace Index

variable {α κ β : Type*} [DecidableEq κ]

/-- A dictionary by something that tells the rows apart. -/
theorem get_fill_perm {by_ : α → κ} {value : α → β} {rows rows' : List α}
    (hinj : ∀ a ∈ rows, ∀ b ∈ rows, by_ a = by_ b → a = b) (h : rows'.Perm rows) (k : κ) :
    (fill by_ value rows').get k = (fill by_ value rows).get k := by
  have hinj' : ∀ a ∈ rows', ∀ b ∈ rows', by_ a = by_ b → a = b :=
    fun a ha b hb => hinj a (h.mem_iff.1 ha) b (h.mem_iff.1 hb)
  refine Option.ext fun v => ?_
  rw [get_fill_eq_some hinj', get_fill_eq_some hinj]
  simp only [h.mem_iff]

end Index

end EnvMgr

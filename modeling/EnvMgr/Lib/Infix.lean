/-
A word found in a text that was put together from parts.

A word without the letter that stands between two parts is found in the whole exactly if
it is found in one of them. So what a message says is what its parts say, as long as the
parts stand in quotes.

Of two texts joined by a separator, `indexOf` finds the separator where it first stands. That is
where the first text ends as long as the last letter of the separator is in neither the first
text nor the rest of the separator, and then the two texts can be read back from the joined one.
-/
import Mathlib.Data.List.Basic
import Mathlib.Data.List.Infix

namespace EnvMgr.Infix

variable {α : Type*} {word a b : List α} {x : α}

theorem prefix_across (hx : x ∉ word) : word <+: a ++ x :: b ↔ word <+: a := by
  induction a generalizing word with
  | nil =>
    cases word with
    | nil => simp
    | cons c word =>
      have hne : c ≠ x := fun h => hx (h ▸ List.mem_cons_self)
      simp [List.cons_prefix_cons, hne]
  | cons y a ih =>
    cases word with
    | nil => simp
    | cons c word =>
      rw [List.cons_append, List.cons_prefix_cons, List.cons_prefix_cons,
        ih fun hmem => hx (List.mem_cons_of_mem _ hmem)]

/-- **Across a letter that the word lacks.** -/
theorem infix_across (hx : x ∉ word) : word <:+: a ++ x :: b ↔ word <:+: a ∨ word <:+: b := by
  induction a with
  | nil =>
    have hpre : word <+: x :: b ↔ word = [] := by
      rw [← List.nil_append (x :: b), prefix_across hx, List.prefix_nil]
    rw [List.nil_append, List.infix_cons_iff, List.infix_nil, hpre]
  | cons y a ih =>
    rw [List.cons_append, List.infix_cons_iff, List.infix_cons_iff, ih, ← List.cons_append,
      prefix_across hx, or_assoc]

/-- A letter in front that the word does not start with. -/
theorem infix_cons_of_head {c : α} (hc : c ≠ x) : c :: word <:+: x :: b ↔ c :: word <:+: b := by
  rw [List.infix_cons_iff, List.cons_prefix_cons]
  exact ⟨fun h => h.resolve_left fun h => hc h.1, Or.inr⟩

theorem map_intercalate {β : Type*} (f : α → β) (sep : List α) (parts : List (List α)) :
    (sep.intercalate parts).map f = (sep.map f).intercalate (parts.map (List.map f)) := by
  induction parts with
  | nil => rfl
  | cons part parts ih =>
    cases parts with
    | nil => simp
    | cons part' parts =>
      rw [List.intercalate_cons_cons, List.map_append, List.map_append, ih]
      exact List.intercalate_cons_cons.symm

/-- **In a list of parts**, with a separator that the word lacks and a letter after it that
the word does not start with. -/
theorem infix_intercalate {c y : α} (hx : x ∉ c :: word) (hy : c ≠ y) (parts : List (List α)) :
    c :: word <:+: [x, y].intercalate parts ↔ ∃ part ∈ parts, c :: word <:+: part := by
  induction parts with
  | nil => simp
  | cons part parts ih =>
    cases parts with
    | nil => simp
    | cons part' parts =>
      rw [List.intercalate_cons_cons, List.append_assoc, List.cons_append, List.cons_append,
        List.nil_append, infix_across hx, infix_cons_of_head hy, ih]
      exact (List.exists_mem_cons_iff _ _ _).symm

end EnvMgr.Infix

/-! ## Joined by a separator -/

namespace EnvMgr.Joined

variable {α : Type*} [BEq α] [LawfulBEq α]

/-- Where `sub` first stands in a list; the length of the list where it nowhere does. -/
def indexOf (sub : List α) : List α → ℕ
  | [] => 0
  | c :: cs => if sub.isPrefixOf (c :: cs) then 0 else indexOf sub cs + 1

variable {s t u : List α} {c : α}

/-- **The separator is found where the first text ends.** -/
theorem indexOf_join (hs : c ∉ s) (hu : c ∉ u) :
    indexOf (u ++ [c]) (s ++ ((u ++ [c]) ++ t)) = s.length := by
  induction s with
  | nil =>
    have hpre : (u ++ [c]).isPrefixOf ((u ++ [c]) ++ t) = true := by
      rw [List.isPrefixOf_iff_prefix]
      exact List.prefix_append _ _
    rw [List.nil_append]
    cases hl : (u ++ [c]) ++ t with
    | nil => simp at hl
    | cons a l =>
      rw [hl] at hpre
      rw [indexOf, if_pos hpre, List.length_nil]
  | cons a s ih =>
    have hno : ¬ (u ++ [c]).isPrefixOf (a :: (s ++ ((u ++ [c]) ++ t))) = true := by
      rw [List.isPrefixOf_iff_prefix, ← List.cons_append]
      rintro ⟨rest, hrest⟩
      -- the letter `c` that ends the separator would stand before its end
      have hget := congrArg (fun l => l[u.length]?) hrest
      have hlt : u.length < (a :: s ++ u).length := by
        rw [List.length_append, List.length_cons]
        omega
      simp only [List.append_assoc] at hget
      rw [← List.append_assoc (a :: s) u, List.getElem?_append_left hlt] at hget
      have hc : (u ++ ([c] ++ rest))[u.length]? = some c := by simp
      rw [hc] at hget
      have hmem := List.mem_of_getElem? hget.symm
      rcases List.mem_append.1 hmem with hmem | hmem
      · exact hs hmem
      · exact hu hmem
    rw [List.cons_append, indexOf, if_neg hno, ih fun hmem => hs (List.mem_cons_of_mem _ hmem),
      List.length_cons]

theorem take_indexOf_join (hs : c ∉ s) (hu : c ∉ u) :
    (s ++ ((u ++ [c]) ++ t)).take (indexOf (u ++ [c]) (s ++ ((u ++ [c]) ++ t))) = s := by
  rw [indexOf_join hs hu, List.take_left]

theorem drop_indexOf_join (hs : c ∉ s) (hu : c ∉ u) :
    (s ++ ((u ++ [c]) ++ t)).drop
      (indexOf (u ++ [c]) (s ++ ((u ++ [c]) ++ t)) + (u ++ [c]).length) = t := by
  rw [indexOf_join hs hu, ← List.append_assoc, ← List.length_append, List.drop_left]

end EnvMgr.Joined

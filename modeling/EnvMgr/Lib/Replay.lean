/-
Replaying a log.

A log says of every move where it led from and where to. Replayed from a start, it is refused
at the first move that does not begin where the one before it ended. A column of a table is told
by a log if the rows about each item, replayed, end at the value that the item has: whoever has
the log then knows the column, as it is and as it was.
-/
import EnvMgr.Lib.Table

namespace EnvMgr.Replay

/-! ## Replaying -/

section

variable {α : Type*} [DecidableEq α] {a b c : α} {log log' : List (α × α)}

/-- Where a move leads, if it begins at `a`. -/
def follow (a : α) (m : α × α) : Option α := if m.1 = a then some m.2 else none

/-- Where the moves lead, one after another. -/
def replay (a : α) (log : List (α × α)) : Option α := log.foldlM follow a

/-- The move from `a` to `b`, unless that is where it began. -/
def moved (a b : α) : List (α × α) := if a = b then [] else [(a, b)]

@[simp] theorem replay_nil : replay a [] = some a := rfl

theorem replay_append :
    replay a (log ++ log') = (replay a log).bind fun b => replay b log' :=
  List.foldlM_append

@[simp] theorem replay_singleton : replay a [(a, b)] = some b := by
  simp [replay, follow]

@[simp] theorem moved_self : moved a a = [] := if_pos rfl

theorem moved_of_ne (h : a ≠ b) : moved a b = [(a, b)] := if_neg h

theorem replay_moved : replay a (moved a b) = some b := by
  by_cases h : a = b
  · rw [h, moved_self, replay_nil]
  · rw [moved_of_ne h, replay_singleton]

/-- A log that is carried on from where it ended. -/
theorem replay_record (h : replay a log = some b) : replay a (log ++ moved b c) = some c := by
  rw [replay_append, h, Option.bind_some, replay_moved]

end

/-! ## A column and its log -/

/-- A column of the rows of type `β`, the log of which has rows of type `ρ`: which item such a
row is about, and its move. -/
structure Ledger (β ρ α : Type*) where
  value : β → α
  item : ρ → ℕ
  move : ρ → α × α
  start : α

namespace Ledger

variable {β ρ α : Type*} {key : β → ℕ} {rkey : ρ → ℕ} (L : Ledger β ρ α)

/-- The moves of an item, in the order they were written. -/
def log (h : Table ρ rkey) (id : ℕ) : List (α × α) := (h.select fun e => L.item e = id).map L.move

/-- The log ends, for each item, at what the item has. -/
def Told [DecidableEq α] (t : Table β key) (h : Table ρ rkey) : Prop :=
  ∀ r ∈ t, replay L.start (L.log h (key r)) = some (L.value r)
  deriving Decidable

/-- The log is about items that have been made. -/
def Known (t : Table β key) (h : Table ρ rkey) : Prop := ∀ e ∈ h, L.item e < t.next

variable {L} {t t' : Table β key} {h h' : Table ρ rkey}

/-! ### Writing to the log -/

theorem log_insert {new : Table.New rkey} {id : ℕ} :
    L.log (h.insert new) id = L.log h id ++
      if L.item (new.row h.next) = id then [L.move (new.row h.next)] else [] := by
  rw [log, Table.select_insert, List.map_append, ← log]
  by_cases hid : L.item (new.row h.next) = id
  · rw [if_pos hid, if_pos (decide_eq_true hid), List.map_singleton]
  · rw [if_neg hid, if_neg (by simpa using hid), List.map_nil]

/-- Nothing is logged of an item that has not been made. -/
theorem Known.log_eq_nil (hknown : L.Known t h) {id : ℕ} (hid : t.next ≤ id) : L.log h id = [] := by
  rw [log, List.map_eq_nil_iff]
  refine List.filter_eq_nil_iff.2 fun e he hitem => ?_
  have hlt := hknown e he
  have heq : L.item e = id := of_decide_eq_true hitem
  omega

theorem log_insert_all {news : List (Table.New rkey)} {id : ℕ}
    (hitem : ∀ new ∈ news, ∀ n, L.item (new.row n) = L.item (new.row 0))
    (hmove : ∀ new ∈ news, ∀ n, L.move (new.row n) = L.move (new.row 0)) :
    L.log (h.insert_all news) id = L.log h id ++
      (news.filter fun new => L.item (new.row 0) = id).map fun new => L.move (new.row 0) := by
  induction news generalizing h with
  | nil => exact (List.append_nil _).symm
  | cons new news ih =>
    obtain ⟨hitem₀, hitems⟩ := List.forall_mem_cons.1 hitem
    obtain ⟨hmove₀, hmoves⟩ := List.forall_mem_cons.1 hmove
    have hfold : h.insert_all (new :: news) = (h.insert new).insert_all news := rfl
    rw [hfold, ih hitems hmoves, log_insert, hitem₀, hmove₀, List.append_assoc, List.filter_cons]
    by_cases hid : L.item (new.row 0) = id
    · rw [if_pos hid, if_pos (decide_eq_true hid)]
      rfl
    · rw [if_neg hid, if_neg (by simpa using hid)]
      rfl

/-- A move that is logged for every row that is selected. -/
theorem log_insert_select {p : β → Bool} {new : β → Table.New rkey} {move : α × α}
    (hitem : ∀ r n, L.item ((new r).row n) = key r) (hmove : ∀ r n, L.move ((new r).row n) = move)
    {r : β} (hr : r ∈ t) :
    L.log (h.insert_all ((t.select p).map new)) (key r) =
      L.log h (key r) ++ if p r then [move] else [] := by
  -- of the rows that are added, the one made for `r` is about it, if `r` is selected
  rw [log_insert_all (List.forall_mem_map.2 fun a _ n => by rw [hitem, hitem])
    (List.forall_mem_map.2 fun a _ n => by rw [hmove, hmove])]
  have hpick : (t.select p).filter ((fun new => decide (L.item (new.row 0) = key r)) ∘ new) =
      if p r then [r] else [] := by
    rw [← Table.filter_select hr]
    exact List.filter_congr fun a _ => by rw [Function.comp_apply, hitem]
  rw [List.filter_map, List.map_map, hpick]
  by_cases hp : p r = true
  · rw [if_pos hp, if_pos hp, List.map_singleton, Function.comp_apply, hmove]
  · rw [if_neg hp, if_neg hp, List.map_nil]

/-! ### What stays known -/

theorem Known.mono (hknown : L.Known t h) (hnext : t.next ≤ t'.next) : L.Known t' h :=
  fun e he => lt_of_lt_of_le (hknown e he) hnext

theorem Known.insert (hknown : L.Known t h) {new : Table.New rkey}
    (hnew : L.item (new.row h.next) < t.next) : L.Known t (h.insert new) :=
  (Table.forall_insert_iff hknown).2 hnew

theorem Known.insert_all (hknown : L.Known t h) {news : List (Table.New rkey)}
    (hnews : ∀ new ∈ news, ∀ n, L.item (new.row n) < t.next) : L.Known t (h.insert_all news) := by
  induction news generalizing h with
  | nil => exact hknown
  | cons new news ih =>
    obtain ⟨hnew, hrest⟩ := List.forall_mem_cons.1 hnews
    exact ih (hknown.insert (hnew h.next)) hrest

/-! ### What stays told -/

variable [DecidableEq α]

/-- **An update that is logged**, row by row. -/
theorem Told.update (htold : L.Told t h) {p : β → Bool} {f : Table.Edit key}
    (hlog : ∀ r ∈ t, L.log h' (key r) =
      L.log h (key r) ++ if p r then moved (L.value r) (L.value (f.apply r)) else []) :
    L.Told (t.update p f) h' := by
  intro r' hr'
  rcases Table.mem_update_cases hr' with ⟨r, hr, hp, rfl⟩ | ⟨hr, hp⟩
  · rw [f.key_apply, hlog r hr, if_pos hp]
    exact replay_record (htold r hr)
  · rw [hlog r' hr, hp, if_neg Bool.false_ne_true, List.append_nil]
    exact htold r' hr

/-- An update of one row. -/
theorem Told.update_key (htold : L.Told t h) {r : β} (hr : r ∈ t) {f : Table.Edit key}
    (hlog : ∀ id, L.log h' id =
      L.log h id ++ if key r = id then moved (L.value r) (L.value (f.apply r)) else []) :
    L.Told (t.update (fun a => key a = key r) f) h' := by
  refine htold.update fun a ha => ?_
  rw [hlog]
  congr 1
  by_cases hkey : key r = key a
  · rw [if_pos hkey, if_pos (decide_eq_true hkey.symm), Table.eq_of_key_eq hr ha hkey]
  · rw [if_neg hkey, if_neg (by simpa [eq_comm] using hkey)]

/-- An update that leaves the column alone. -/
theorem Told.update_same (htold : L.Told t h) {p : β → Bool} {f : Table.Edit key}
    (hsame : ∀ r ∈ t, L.value (f.apply r) = L.value r) : L.Told (t.update p f) h := by
  refine htold.update fun r hr => ?_
  rw [hsame r hr, moved_self, ite_self, List.append_nil]

/-- **A new item** is told by what is logged of it. -/
theorem Told.insert_iff (htold : L.Told t h) (hknown : L.Known t h) {new : Table.New key}
    {moves : List (α × α)}
    (hlog : ∀ id, L.log h' id = L.log h id ++ if t.next = id then moves else []) :
    L.Told (t.insert new) h' ↔ replay L.start moves = some (L.value (new.row t.next)) := by
  refine (Table.forall_insert_iff fun r hr => ?_).trans ?_
  -- the others keep their logs, and the new item has nothing but these moves
  · rw [hlog, if_neg (Table.key_lt_next hr).ne', List.append_nil]
    exact htold r hr
  · rw [new.key_row, hlog, hknown.log_eq_nil (le_refl _), if_pos rfl, List.nil_append]

/-- What is not logged has to be as it was. -/
theorem Told.unlogged_iff (htold : L.Told t h) {r r' : β} (hr : r ∈ t) (hkey : key r' = key r) :
    replay L.start (L.log h (key r')) = some (L.value r') ↔ L.value r' = L.value r := by
  rw [hkey, htold r hr, Option.some.injEq, eq_comm]

end Ledger

end EnvMgr.Replay

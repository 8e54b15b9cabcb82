/-
The comparison of two environments, taken the other way round.

What makes the two answers one is that each dictionary is asked by key only, that what both sides
say of a subsystem or a system besides its state is the same, and that every list is sorted by
something that ends in an id. A shape of hosts is equal to another exactly if the hosts are, up
to their order, so that two sides that were read in another order do not differ in it.
-/
import EnvMgr.Components.Comparison
import EnvMgr.Lib.Counting

namespace EnvMgr.Components

open Contents (System)
open Deployments (EnvironmentSubSystemVersion)
open Scanning (SubSystem)

/-! ## Hosts -/

section

variable {xs ys : List (String × Option String)} {a b : HostCount}

/-- No role and an empty one do not tie. -/
theorem sort_key_inj (h : a.sort_key = b.sort_key) :
    a.component_type = b.component_type ∧ a.role = b.role := by
  obtain ⟨htype, hrest⟩ := Prod.mk.inj (toLex_inj.1 h)
  obtain ⟨hnone, hrole⟩ := Prod.mk.inj (toLex_inj.1 hrest)
  refine ⟨htype, ?_⟩
  cases ha : a.role with
  | none =>
    cases hb : b.role with
    | none => rfl
    | some r => simp [ha, hb] at hnone
  | some r =>
    cases hb : b.role with
    | none => simp [ha, hb] at hnone
    | some r' => simpa [ha, hb] using hrole

theorem mem_counted :
    a ∈ counted xs ↔
      (a.component_type, a.role) ∈ xs ∧ a.count = xs.count (a.component_type, a.role) := by
  simp only [counted, List.mem_map, List.mem_eraseDups]
  constructor
  · rintro ⟨x, hx, rfl⟩
    exact ⟨hx, rfl⟩
  · rintro ⟨hx, hcount⟩
    refine ⟨_, hx, ?_⟩
    rw [← hcount]

theorem counted_inj (ha : a ∈ counted xs) (hb : b ∈ counted xs) (h : a.sort_key = b.sort_key) :
    a = b := by
  obtain ⟨htype, hrole⟩ := sort_key_inj h
  have hcount : a.count = b.count := by
    rw [(mem_counted.1 ha).2, (mem_counted.1 hb).2, htype, hrole]
  cases a
  cases b
  simp_all

theorem nodup_counted : (counted xs).Nodup := by
  refine List.Nodup.map (fun x y hxy => ?_) (Counting.eraseDups_nodup xs)
  exact Prod.ext (congrArg HostCount.component_type hxy) (congrArg HostCount.role hxy)

theorem mem_host_shape : a ∈ host_shape xs ↔ a ∈ counted xs := mem_order_by

/-- What a shape says of one kind of host. -/
theorem count_of_shape (h : host_shape xs = host_shape ys) (x : String × Option String)
    (hx : x ∈ xs) : ys.count x = xs.count x := by
  have hentry : (⟨x.1, x.2, xs.count x⟩ : HostCount) ∈ counted xs := mem_counted.2 ⟨hx, rfl⟩
  have hother : (⟨x.1, x.2, xs.count x⟩ : HostCount) ∈ counted ys := by
    rw [← mem_host_shape, ← h, mem_host_shape]
    exact hentry
  exact (mem_counted.1 hother).2.symm

/-- **Equal shapes are equal hosts**, up to their order. -/
theorem host_shape_eq_iff : host_shape xs = host_shape ys ↔ xs.Perm ys := by
  constructor
  · intro h
    refine List.perm_iff_count.2 fun x => ?_
    by_cases hx : x ∈ xs
    · exact (count_of_shape h x hx).symm
    · by_cases hy : x ∈ ys
      · exact count_of_shape h.symm x hy
      · rw [List.count_eq_zero.2 hx, List.count_eq_zero.2 hy]
  · intro h
    have hcounted : (counted ys).Perm (counted xs) := by
      refine (List.perm_ext_iff_of_nodup nodup_counted nodup_counted).2 fun e => ?_
      rw [mem_counted, mem_counted, h.mem_iff, h.count_eq]
    exact ((OrderBy.answers_order_by HostCount.sort_key (counted xs)).unique
      (fun a ha b hb hab => counted_inj ha hb hab)
      (OrderBy.answers_order_by HostCount.sort_key (counted ys)) hcounted).symm

end

/-! ## The other way round -/

def Presence.exchange : Presence → Presence
  | .both => .both
  | .left_only => .right_only
  | .right_only => .left_only

def ComparedSystem.exchange (s : ComparedSystem) : ComparedSystem :=
  { s with presence := s.presence.exchange }

def ComparedSubsystem.exchange (r : ComparedSubsystem) : ComparedSubsystem :=
  { r with presence := r.presence.exchange, left := r.right, right := r.left }

/-- Left and right exchanged, and everything else as it was. -/
def Comparison.exchange (c : Comparison) : Comparison where
  left := c.right
  right := c.left
  systems := c.systems.map ComparedSystem.exchange
  subsystems := c.subsystems.map ComparedSubsystem.exchange
  summary := c.summary

theorem presence_exchange (in_left in_right : Bool) :
    (_presence in_left in_right).exchange =
      if in_left || in_right then _presence in_right in_left else .left_only := by
  cases in_left <;> cases in_right <;> rfl

theorem differing_comm (left right : Side) : differing right left = differing left right := by
  funext kind
  cases kind with
  | presence => rfl
  | mocked => exact decide_eq_decide.2 ne_comm
  | version => exact decide_eq_decide.2 ne_comm
  | host_shape => exact decide_eq_decide.2 ne_comm

theorem differing_self (side : Side) (kind : Kind) : differing side side kind = false := by
  cases kind with
  | presence => rfl
  | mocked => exact decide_eq_false fun h => h rfl
  | version => exact decide_eq_false fun h => h rfl
  | host_shape => exact decide_eq_false fun h => h rfl

/-- Absent on both sides it would not be compared. -/
theorem presence_swap {in_left in_right : Bool} (h : in_left = true ∨ in_right = true) :
    _presence in_right in_left = (_presence in_left in_right).exchange := by
  rw [presence_exchange, if_pos (by simpa using h)]

theorem presence_both_iff {in_left in_right : Bool} :
    _presence in_left in_right = .both ↔ in_left = true ∧ in_right = true := by
  cases in_left <;> cases in_right <;> decide

/-! ## A row -/

section

variable {left right : Index ℕ Side} {left_systems right_systems : Index ℕ String} {id : ℕ}

/-- The kinds in which two sides differ, where each may be absent. -/
def kinds_of (left right : Option Side) : List Kind :=
  match left, right with
  | some left, some right => _KIND_ORDER.filter (differing left right)
  | _, _ => [.presence]

theorem difference_kinds_of (l r : Option Side) :
    difference_kinds (_presence l.isSome r.isSome) l r = .ok (kinds_of l r) := by
  cases l with
  | none => cases r <;> rfl
  | some l =>
    cases r with
    | none => rfl
    | some r => rfl

theorem kinds_of_comm (l r : Option Side) : kinds_of r l = kinds_of l r := by
  cases l with
  | none => cases r <;> rfl
  | some l =>
    cases r with
    | none => rfl
    | some r => rw [kinds_of, kinds_of, differing_comm]

theorem kinds_of_self (side : Side) : kinds_of (some side) (some side) = [] := by
  simp [kinds_of, differing_self]

theorem compared_system_ok {sid : ℕ} {s : ComparedSystem} :
    compared_system left_systems right_systems sid = .ok s ↔
      ∃ name, (left_systems.get sid).or (right_systems.get sid) = some name ∧
        ⟨sid, name, _presence (left_systems.get sid).isSome (right_systems.get sid).isSome⟩
          = s := by
  simp only [compared_system, bind_eq_ok, get_or_raise_eq_ok, Except.ok.injEq]

theorem compared_subsystem_ok {r : ComparedSubsystem} :
    compared_subsystem left right id = .ok r ↔
      ∃ info, (left.get id).or (right.get id) = some info ∧
        ⟨id, info.name, info.system_id, info.system_name,
          _presence (left.get id).isSome (right.get id).isSome, _payload (left.get id),
          _payload (right.get id), kinds_of (left.get id) (right.get id)⟩ = r := by
  simp only [compared_subsystem, difference_kinds_of, bind_eq_ok, get_or_raise_eq_ok,
    mapError_eq_ok, Except.ok.injEq, exists_eq_left']

end

/-! ## What both sides say -/

/-- Two readings that cannot be told apart by key. -/
structure SameReading (a b : Reading) : Prop where
  env : b.env = a.env
  systems : ∀ k, b.systems.get k = a.systems.get k
  side : ∀ k, b.side.get k = a.side.get k

/-- Two readings that say the same of what is in both. -/
structure Consistent (a b : Reading) : Prop where
  systems : ∀ k x y, a.systems.get k = some x → b.systems.get k = some y → x = y
  side : ∀ k x y, a.side.get k = some x → b.side.get k = some y →
    x.name = y.name ∧ x.system_id = y.system_id ∧ x.system_name = y.system_name

section

variable {a b a' b' : Reading} {id : ℕ}

theorem or_isSome {α : Type} {x y : Option α} {z : α} (h : x.or y = some z) :
    x.isSome = true ∨ y.isSome = true := by
  cases x with
  | none =>
    cases y with
    | none => cases h
    | some y => exact Or.inr rfl
  | some x => exact Or.inl rfl

theorem compared_system_swap (h : Consistent a b) (ha : SameReading a a') (hb : SameReading b b')
    {s : ComparedSystem} (hs : compared_system a.systems b.systems id = .ok s) :
    compared_system b'.systems a'.systems id = .ok s.exchange := by
  rw [compared_system_ok] at hs ⊢
  obtain ⟨name, hname, rfl⟩ := hs
  rw [ha.systems, hb.systems, presence_swap (or_isSome hname)]
  refine ⟨name, ?_, rfl⟩
  cases hx : a.systems.get id with
  | none =>
    rw [hx, Option.none_or] at hname
    rw [hname, Option.some_or]
  | some x =>
    rw [hx, Option.some_or] at hname
    cases hy : b.systems.get id with
    | none => rw [Option.none_or, hname]
    | some y => rw [Option.some_or, ← h.systems id x y hx hy, hname]

theorem compared_subsystem_swap (h : Consistent a b) (ha : SameReading a a') (hb : SameReading b b')
    {r : ComparedSubsystem} (hr : compared_subsystem a.side b.side id = .ok r) :
    compared_subsystem b'.side a'.side id = .ok r.exchange := by
  rw [compared_subsystem_ok] at hr ⊢
  obtain ⟨info, hinfo, rfl⟩ := hr
  rw [ha.side, hb.side, presence_swap (or_isSome hinfo), kinds_of_comm]
  cases hx : a.side.get id with
  | none =>
    rw [hx, Option.none_or] at hinfo
    rw [hinfo, Option.some_or]
    exact ⟨info, rfl, rfl⟩
  | some x =>
    rw [hx, Option.some_or] at hinfo
    obtain rfl := Option.some.inj hinfo
    cases hy : b.side.get id with
    | none => exact ⟨x, rfl, rfl⟩
    | some y =>
      obtain ⟨hname, hid, hsystem⟩ := h.side id x y hx hy
      refine ⟨y, rfl, ?_⟩
      rw [ComparedSubsystem.exchange, hname, hid, hsystem]

theorem mem_union {α : Type} {left right : Index ℕ α} :
    id ∈ union left right ↔ left.get id ≠ none ∨ right.get id ≠ none := by
  rw [union, List.mem_eraseDups, List.mem_append, ne_eq, ne_eq, Index.get_eq_none,
    Index.get_eq_none, not_not, not_not]

/-- In whatever order the two sets are gone through, it is an order of one set. -/
theorem union_swap {α : Type} {left right left' right' : Index ℕ α}
    (hleft : ∀ k, left'.get k = left.get k) (hright : ∀ k, right'.get k = right.get k) :
    (union right' left').Perm (union left right) := by
  refine (List.perm_ext_iff_of_nodup (Counting.eraseDups_nodup _)
    (Counting.eraseDups_nodup _)).2 fun k => (mem_union.trans ?_).trans mem_union.symm
  rw [hleft, hright, or_comm]

end

/-! ## The lists -/

section

variable {β : Type} {f f' : ℕ → Except Raised β} {g : β → β} {ids ids' : List ℕ}

/-- Two loops over the same ids, in any order, the one with what the other returns changed. -/
theorem swapped_rows (hall : ∀ x ∈ ids, ∃ y, f x = .ok y)
    (hswap : ∀ x ∈ ids, ∀ y, f x = .ok y → f' x = .ok (g y)) (hperm : ids'.Perm ids) :
    ∃ rows rows', ids.mapM f = .ok rows ∧ ids'.mapM f' = .ok rows' ∧
      rows'.Perm (rows.map g) := by
  have hall' : ∀ x ∈ ids', ∃ y, f' x = .ok y := by
    intro x hx
    obtain ⟨y, hy⟩ := hall x (hperm.mem_iff.1 hx)
    exact ⟨g y, hswap x (hperm.mem_iff.1 hx) y hy⟩
  refine ⟨_, _, mapM_eq_filterMap hall, mapM_eq_filterMap hall', ?_⟩
  have hsame : ids.filterMap (fun x => (f' x).toOption) =
      (ids.filterMap fun x => (f x).toOption).map g := by
    rw [List.map_filterMap]
    refine List.filterMap_congr fun x hx => ?_
    obtain ⟨y, hy⟩ := hall x hx
    rw [hswap x hx y hy, hy]
    rfl
  rw [← hsame]
  exact hperm.filterMap _

/-- A row that says which id it is of is the only one of its id. -/
theorem rows_inj {id_of : β → ℕ} (hid : ∀ i y, f i = .ok y → id_of y = i) {rows : List β}
    (h : ids.mapM f = .ok rows) : ∀ a ∈ rows, ∀ b ∈ rows, id_of a = id_of b → a = b := by
  intro a ha b hb hab
  obtain ⟨i, -, hi⟩ := (mem_mapM h).2 a ha
  obtain ⟨j, -, hj⟩ := (mem_mapM h).2 b hb
  have hij : i = j := by rw [← hid i a hi, ← hid j b hj, hab]
  rw [hij] at hi
  exact Except.ok.inj (hi.symm.trans hj)

end

section

variable {lower : String → String} {left right : Index ℕ Side}
  {left_systems right_systems : Index ℕ String}

theorem compared_system_total {id : ℕ} (h : id ∈ union left_systems right_systems) :
    ∃ s, compared_system left_systems right_systems id = .ok s := by
  have hname : ∃ name, (left_systems.get id).or (right_systems.get id) = some name := by
    rw [mem_union] at h
    cases hx : left_systems.get id with
    | none => exact Option.ne_none_iff_exists'.1 (h.resolve_left (not_not.2 hx))
    | some x => exact ⟨x, rfl⟩
  obtain ⟨name, hname⟩ := hname
  exact ⟨_, compared_system_ok.2 ⟨name, hname, rfl⟩⟩

theorem compared_subsystem_total {id : ℕ} (h : id ∈ union left right) :
    ∃ r, compared_subsystem left right id = .ok r := by
  have hinfo : ∃ info, (left.get id).or (right.get id) = some info := by
    rw [mem_union] at h
    cases hx : left.get id with
    | none => exact Option.ne_none_iff_exists'.1 (h.resolve_left (not_not.2 hx))
    | some x => exact ⟨x, rfl⟩
  obtain ⟨info, hinfo⟩ := hinfo
  exact ⟨_, compared_subsystem_ok.2 ⟨info, hinfo, rfl⟩⟩

/-- The id ends the key, and an id has one row. -/
theorem system_rows_inj {ids : List ℕ} {rows : List ComparedSystem}
    (h : ids.mapM (compared_system left_systems right_systems) = .ok rows) :
    ∀ a ∈ rows, ∀ b ∈ rows, a.sort_key lower = b.sort_key lower → a = b := by
  intro a ha b hb hab
  refine rows_inj (fun i s hs => ?_) h a ha b hb (Prod.mk.inj (toLex_inj.1 hab)).2
  obtain ⟨_, -, rfl⟩ := compared_system_ok.1 hs
  rfl

theorem subsystem_rows_inj {ids : List ℕ} {rows : List ComparedSubsystem}
    (h : ids.mapM (compared_subsystem left right) = .ok rows) :
    ∀ a ∈ rows, ∀ b ∈ rows, a.sort_key lower = b.sort_key lower → a = b := by
  intro a ha b hb hab
  have hrest := (Prod.mk.inj (toLex_inj.1 hab)).2
  have hid : a.subsystem_id = b.subsystem_id :=
    (Prod.mk.inj (toLex_inj.1 (Prod.mk.inj (toLex_inj.1 hrest)).2)).2
  refine rows_inj (fun i r hr => ?_) h a ha b hb hid
  obtain ⟨_, -, rfl⟩ := compared_subsystem_ok.1 hr
  rfl

theorem summary_exchange (rows : List ComparedSubsystem) :
    summary_of (rows.map ComparedSubsystem.exchange) = summary_of rows := by
  simp only [summary_of, List.length_map, List.countP_map]
  rfl

end

/-! ## The answers -/

section

variable {lower : String → String} {iteration iteration' : Iteration} {a b a' b' : Reading}

/-- **Read again and taken the other way round**, the comparison is the one there was with its
sides exchanged. -/
theorem compare_readings_swap (h : Consistent a b) (ha : SameReading a a') (hb : SameReading b b') :
    compare_readings lower iteration' b' a' =
      (compare_readings lower iteration a b).map Comparison.exchange := by
  obtain ⟨systems, systems', hsystems, hsystems', hperm_systems⟩ := swapped_rows
    (fun id hid => compared_system_total (mem_order_by.1 hid))
    (fun id _ s hs => compared_system_swap h ha hb hs)
    (((OrderBy.answers_order_by id (union b'.systems a'.systems)).perm.trans
      (union_swap ha.systems hb.systems)).trans
      (OrderBy.answers_order_by id (union a.systems b.systems)).perm.symm)
  obtain ⟨rows, rows', hrows, hrows', hperm⟩ := swapped_rows
    (fun id hid => compared_subsystem_total ((iteration.perm _).mem_iff.1 hid))
    (fun id _ r hr => compared_subsystem_swap h ha hb hr)
    (((iteration'.perm (union b'.side a'.side)).trans (union_swap ha.side hb.side)).trans
      (iteration.perm (union a.side b.side)).symm)
  have hsorted_systems : order_by (ComparedSystem.sort_key lower) systems' =
      (order_by (ComparedSystem.sort_key lower) systems).map ComparedSystem.exchange :=
    order_by_map (system_rows_inj hsystems) (fun _ => rfl) hperm_systems
  have hsorted : order_by (ComparedSubsystem.sort_key lower) rows' =
      (order_by (ComparedSubsystem.sort_key lower) rows).map ComparedSubsystem.exchange :=
    order_by_map (subsystem_rows_inj hrows) (fun _ => rfl) hperm
  have hleft : compare_readings lower iteration a b = .ok
      { left := compared_environment a.env
        right := compared_environment b.env
        systems := order_by (ComparedSystem.sort_key lower) systems
        subsystems := order_by (ComparedSubsystem.sort_key lower) rows
        summary := summary_of (order_by (ComparedSubsystem.sort_key lower) rows) } := by
    simp only [compare_readings, bind_eq_ok, Except.ok.injEq]
    exact ⟨systems, hsystems, rows, hrows, rfl⟩
  rw [hleft, map_ok, Comparison.exchange, ← summary_exchange, ← hsorted_systems, ← hsorted]
  simp only [compare_readings, bind_eq_ok, Except.ok.injEq]
  refine ⟨systems', hsystems', rows', hrows', ?_⟩
  rw [ha.env, hb.env]

/-- There is nothing in which a comparison can say that a thing differs from itself. -/
structure Comparison.Same (c : Comparison) : Prop where
  systems : ∀ s ∈ c.systems, s.presence = .both
  subsystems : ∀ r ∈ c.subsystems, r.presence = .both ∧ r.left = r.right ∧ r.differences = []
  differing : c.summary.differing = 0
  by_kind : ∀ k ∈ c.summary.by_kind, k.2 = 0

theorem compared_self {id : ℕ} {r : ComparedSubsystem} (ha : SameReading a a')
    (h : compared_subsystem a.side a'.side id = .ok r) :
    r.presence = .both ∧ r.left = r.right ∧ r.differences = [] := by
  obtain ⟨info, hinfo, rfl⟩ := compared_subsystem_ok.1 h
  rw [ha.side] at hinfo ⊢
  cases hx : a.side.get id with
  | none =>
    rw [hx] at hinfo
    cases hinfo
  | some x => exact ⟨rfl, rfl, kinds_of_self x⟩

/-- **Compared with itself**, even if that was read again, nothing differs. -/
theorem compare_readings_self (ha : SameReading a a') {c : Comparison}
    (h : compare_readings lower iteration a a' = .ok c) : c.Same := by
  simp only [compare_readings, bind_eq_ok, Except.ok.injEq] at h
  obtain ⟨systems, hsystems, rows, hrows, rfl⟩ := h
  have hself : ∀ r ∈ order_by (ComparedSubsystem.sort_key lower) rows,
      r.presence = .both ∧ r.left = r.right ∧ r.differences = [] := by
    intro r hr
    obtain ⟨id, -, hid⟩ := (mem_mapM hrows).2 r (mem_order_by.1 hr)
    exact compared_self ha hid
  refine ⟨fun s hs => ?_, hself, ?_, fun k hk => ?_⟩
  · obtain ⟨id, -, hid⟩ := (mem_mapM hsystems).2 s (mem_order_by.1 hs)
    obtain ⟨name, hname, rfl⟩ := compared_system_ok.1 hid
    rw [ha.systems] at hname ⊢
    have hsome := or_isSome hname
    rw [or_self] at hsome
    exact presence_both_iff.2 ⟨hsome, hsome⟩
  · refine List.countP_eq_zero.2 fun r hr => ?_
    rw [(hself r hr).2.2]
    decide
  · obtain ⟨kind, -, rfl⟩ := List.mem_map.1 hk
    refine List.countP_eq_zero.2 fun r hr => ?_
    rw [(hself r hr).2.2]
    exact fun hmem => absurd (of_decide_eq_true hmem) List.not_mem_nil

end

/-! ## Reading a side -/

section

variable {db db' : Db} {env_id env_id' tenant_id k : ℕ}

theorem systems_get {name : String} :
    (_systems db env_id tenant_id).get k = some name ↔
      (∃ a ∈ db.environment_systems, a.environment_id = env_id ∧ a.tenant_id = tenant_id ∧
        a.system_id = k) ∧
      ∃ y ∈ db.systems, y.id = k ∧ y.tenant_id = tenant_id ∧ y.deleted_at = none ∧
        y.name = name := by
  rw [_systems, Index.get_fill_eq_some]
  · simp only [List.mem_flatMap, List.mem_map, Table.mem_select, decide_eq_true_eq]
    constructor
    · rintro ⟨_, ⟨a, ⟨ha, henv, htenant⟩, y, ⟨hy, hid, hof, hlive⟩, rfl⟩, rfl, rfl⟩
      exact ⟨⟨a, ha, henv, htenant, hid.symm⟩, y, hy, rfl, hof, hlive, rfl⟩
    · rintro ⟨⟨a, ha, henv, htenant, rfl⟩, y, hy, hid, hof, hlive, rfl⟩
      exact ⟨_, ⟨a, ⟨ha, henv, htenant⟩, y, ⟨hy, hid, hof, hlive⟩, rfl⟩, hid, rfl⟩
  -- rows of one id are of one system
  · intro p hp q hq hpq
    simp only [List.mem_flatMap, List.mem_map, Table.mem_select] at hp hq
    obtain ⟨_, -, y, ⟨hy, -⟩, rfl⟩ := hp
    obtain ⟨_, -, z, ⟨hz, -⟩, rfl⟩ := hq
    rw [Table.eq_of_key_eq hy hz hpq]

theorem mem_side_rows {r : EnvironmentSubSystem} {s : SubSystem} {y : System} :
    (r, s, y) ∈ side_rows db env_id tenant_id ↔
      (r ∈ db.environment_subsystems ∧ r.environment_id = env_id ∧ r.tenant_id = tenant_id) ∧
      (s ∈ db.subsystems ∧ s.id = r.subsystem_id ∧ s.tenant_id = tenant_id ∧
        s.deleted_at = none) ∧
      (y ∈ db.systems ∧ y.id = s.system_id ∧ y.tenant_id = tenant_id ∧ y.deleted_at = none) := by
  simp only [side_rows, List.mem_flatMap, List.mem_map, Table.mem_select, decide_eq_true_eq,
    Prod.mk.injEq]
  constructor
  · rintro ⟨r', hr, s', hs, y', hy, rfl, rfl, rfl⟩
    exact ⟨hr, hs, hy⟩
  · rintro ⟨hr, hs, hy⟩
    exact ⟨r, hr, s, hs, y, hy, rfl, rfl, rfl⟩

/-- A subsystem has one row in an environment. -/
theorem side_rows_inj {p q : EnvironmentSubSystem × SubSystem × System}
    (hp : p ∈ side_rows db env_id tenant_id) (hq : q ∈ side_rows db env_id tenant_id)
    (h : p.2.1.id = q.2.1.id) : p = q := by
  obtain ⟨r, s, y⟩ := p
  obtain ⟨r', s', y'⟩ := q
  obtain ⟨⟨hr, henv, -⟩, ⟨hs, hsub, -⟩, hy, hsys, -⟩ := mem_side_rows.1 hp
  obtain ⟨⟨hr', henv', -⟩, ⟨hs', hsub', -⟩, hy', hsys', -⟩ := mem_side_rows.1 hq
  obtain rfl : s = s' := Table.eq_of_key_eq hs hs' h
  obtain rfl : r = r' :=
    db.uq_env_subsystem r hr r' hr' (henv.trans henv'.symm) (hsub.symm.trans hsub')
  obtain rfl : y = y' := Table.eq_of_key_eq hy hy' (hsys.trans hsys'.symm)
  rfl

/-- `versions`, of the version rows. -/
def version_labels (db : Db) (env_id tenant_id : ℕ) : Index ℕ String :=
  Index.fill EnvironmentSubSystemVersion.subsystem_id EnvironmentSubSystemVersion.version_label
    (Deployments.current_versions db.deployments env_id tenant_id)

theorem side_ok {side : Index ℕ Side} :
    _side db env_id tenant_id = .ok side ↔
      (∃ env, get_environment db env_id tenant_id = .ok env) ∧
        Index.fill (fun row => row.2.1.id)
          (side_of db tenant_id (version_labels db env_id tenant_id))
          (side_rows db env_id tenant_id) = side := by
  simp only [_side, Deployments.list_versions, Deployments.fetch_page, get_environment, if_true,
    bind_eq_ok, Except.ok.injEq, version_labels]
  constructor
  · rintro ⟨_, ⟨env, henv, rfl⟩, rfl⟩
    exact ⟨⟨env, henv⟩, rfl⟩
  · rintro ⟨⟨env, henv⟩, rfl⟩
    exact ⟨_, ⟨env, henv, rfl⟩, rfl⟩

theorem side_get {versions : Index ℕ String} {x : Side} :
    (Index.fill (fun row => row.2.1.id) (side_of db tenant_id versions)
      (side_rows db env_id tenant_id)).get k = some x ↔
      ∃ row ∈ side_rows db env_id tenant_id, row.2.1.id = k ∧
        side_of db tenant_id versions row = x :=
  Index.get_fill_eq_some fun _ hp _ hq h => side_rows_inj hp hq h

/-! ## Read again -/

theorem attachments_reread (h : Reread db db') (env_sub_id : ℕ) :
    (attachments db' tenant_id env_sub_id).Perm (attachments db tenant_id env_sub_id) :=
  (h.hosts.select fun _ _ => rfl).flatMap fun _ _ =>
    (h.infrastructure.select fun _ _ => rfl).map _

theorem side_of_reread (h : Reread db db') (versions : Index ℕ String)
    (row : EnvironmentSubSystem × SubSystem × System) :
    side_of db' tenant_id versions row = side_of db tenant_id versions row := by
  have hhosts : (attachments db' tenant_id row.1.id).Perm (attachments db tenant_id row.1.id) :=
    attachments_reread h row.1.id
  rw [side_of, side_of, host_shape_eq_iff.2 hhosts]

theorem mem_side_rows_reread (h : Reread db db') {row : EnvironmentSubSystem × SubSystem × System} :
    row ∈ side_rows db' env_id tenant_id ↔ row ∈ side_rows db env_id tenant_id := by
  obtain ⟨r, s, y⟩ := row
  rw [mem_side_rows, mem_side_rows, h.environment_subsystems.mem_iff, h.subsystems.mem_iff,
    h.systems.mem_iff]

/-- What a comparison reads of an environment. -/
structure Reads (db : Db) (env_id tenant_id : ℕ) (x : Reading) : Prop where
  env : get_environment db env_id tenant_id = .ok x.env
  systems : _systems db env_id tenant_id = x.systems
  side : _side db env_id tenant_id = .ok x.side

theorem exists_reads {env : Environment} (h : get_environment db env_id tenant_id = .ok env) :
    ∃ x, Reads db env_id tenant_id x ∧ x.env = env :=
  ⟨⟨env, _, _⟩, ⟨h, rfl, side_ok.2 ⟨⟨env, h⟩, rfl⟩⟩, rfl⟩

theorem Reads.side_get {x : Reading} (h : Reads db env_id tenant_id x) {z : Side} :
    x.side.get k = some z ↔
      ∃ row ∈ side_rows db env_id tenant_id, row.2.1.id = k ∧
        side_of db tenant_id (version_labels db env_id tenant_id) row = z := by
  rw [← (side_ok.1 h.side).2]
  exact Components.side_get

/-- **Read again, it cannot be told apart.** -/
theorem Reads.reread {x x' : Reading} (h : Reread db db') (hx : Reads db env_id tenant_id x)
    (hx' : Reads db' env_id tenant_id x') : SameReading x x' where
  env := by
    have henv := hx'.env
    rw [get_environment_reread h, hx.env] at henv
    exact (Except.ok.inj henv).symm
  systems k := by
    rw [← hx.systems, ← hx'.systems]
    refine Option.ext fun name => ?_
    simp only [systems_get, h.environment_systems.mem_iff, h.systems.mem_iff]
  side k := by
    refine Option.ext fun z => ?_
    rw [hx.side_get, hx'.side_get]
    simp only [mem_side_rows_reread h, side_of_reread h, version_labels,
      current_versions_reread h]

/-- What is in both environments is one system, one subsystem. -/
theorem Reads.consistent {x y : Reading} (hx : Reads db env_id tenant_id x)
    (hy : Reads db env_id' tenant_id y) : Consistent x y where
  systems k name name' h h' := by
    rw [← hx.systems, systems_get] at h
    rw [← hy.systems, systems_get] at h'
    obtain ⟨-, z, hz, hid, -, -, rfl⟩ := h
    obtain ⟨-, z', hz', hid', -, -, rfl⟩ := h'
    rw [Table.eq_of_key_eq hz hz' (hid.trans hid'.symm)]
  side k u v h h' := by
    obtain ⟨⟨r, s, z⟩, hrow, hid, rfl⟩ := hx.side_get.1 h
    obtain ⟨⟨r', s', z'⟩, hrow', hid', rfl⟩ := hy.side_get.1 h'
    obtain ⟨-, ⟨hs, -⟩, hz, hsys, -⟩ := mem_side_rows.1 hrow
    obtain ⟨-, ⟨hs', -⟩, hz', hsys', -⟩ := mem_side_rows.1 hrow'
    obtain rfl : s = s' := Table.eq_of_key_eq hs hs' (hid.trans hid'.symm)
    obtain rfl : z = z' := Table.eq_of_key_eq hz hz' (hsys.trans hsys'.symm)
    exact ⟨rfl, rfl, rfl⟩

end

/-! ## The service -/

section

variable {lower : String → String} {iteration iteration' : Iteration} {db db' : Db}
  {left_id right_id tenant_id : ℕ}

theorem compare_of_reads {a b : Reading} (ha : Reads db left_id tenant_id a)
    (hb : Reads db right_id tenant_id b) :
    compare_environments lower iteration db left_id right_id tenant_id =
      compare_readings lower iteration a b := by
  rw [compare_environments, ha.env, hb.env, ha.systems, hb.systems, ha.side, hb.side]
  rfl

/-- Whichever of the two is missing, the answer is the same. -/
theorem compare_missing
    (h : ¬ ∃ a b, Reads db left_id tenant_id a ∧ Reads db right_id tenant_id b) :
    compare_environments lower iteration db left_id right_id tenant_id =
      .error (http 404 "Environment not found") := by
  have hmissing : ∀ {env_id : ℕ} {e : Raised}, get_environment db env_id tenant_id = .error e →
      e = http 404 "Environment not found" := by
    intro env_id e he
    exact (get_or_raise_eq_error.1 he).2.symm
  cases hleft : get_environment db left_id tenant_id with
  | error e =>
    rw [compare_environments, hleft, hmissing hleft]
    rfl
  | ok env =>
    cases hright : get_environment db right_id tenant_id with
    | error e =>
      rw [compare_environments, hleft, hright, hmissing hright]
      rfl
    | ok env' =>
      obtain ⟨a, ha, -⟩ := exists_reads hleft
      obtain ⟨b, hb, -⟩ := exists_reads hright
      exact absurd ⟨a, b, ha, hb⟩ h

theorem exists_reads_reread (h : Reread db db') {env_id : ℕ} {x : Reading}
    (hx : Reads db env_id tenant_id x) : ∃ x', Reads db' env_id tenant_id x' := by
  have henv : get_environment db' env_id tenant_id = .ok x.env := by
    rw [get_environment_reread h]
    exact hx.env
  obtain ⟨x', hx', -⟩ := exists_reads henv
  exact ⟨x', hx'⟩

theorem Reread.symm (h : Reread db db') : Reread db' db :=
  ⟨h.environments.symm, h.versions.symm, h.systems.symm, h.subsystems.symm,
    h.environment_systems.symm, h.environment_subsystems.symm, h.component_types.symm,
    h.hosts.symm, h.infrastructure.symm⟩

theorem compare_environments_swap (h : Reread db db') :
    compare_environments lower iteration' db' right_id left_id tenant_id =
      (compare_environments lower iteration db left_id right_id tenant_id).map
        Comparison.exchange := by
  by_cases hread : ∃ a b, Reads db left_id tenant_id a ∧ Reads db right_id tenant_id b
  · obtain ⟨a, b, ha, hb⟩ := hread
    obtain ⟨a', ha'⟩ := exists_reads_reread h ha
    obtain ⟨b', hb'⟩ := exists_reads_reread h hb
    rw [compare_of_reads ha hb, compare_of_reads hb' ha']
    exact compare_readings_swap (ha.consistent hb) (ha.reread h ha') (hb.reread h hb')
  · have hread' : ¬ ∃ b a, Reads db' right_id tenant_id b ∧ Reads db' left_id tenant_id a := by
      rintro ⟨b', a', hb', ha'⟩
      obtain ⟨a, ha⟩ := exists_reads_reread h.symm ha'
      obtain ⟨b, hb⟩ := exists_reads_reread h.symm hb'
      exact hread ⟨a, b, ha, hb⟩
    rw [compare_missing hread, compare_missing hread']
    rfl

theorem compare_environments_self {c : Comparison}
    (h : compare_environments lower iteration db left_id left_id tenant_id = .ok c) : c.Same := by
  by_cases hread : ∃ a b, Reads db left_id tenant_id a ∧ Reads db left_id tenant_id b
  · obtain ⟨a, -, ha, -⟩ := hread
    rw [compare_of_reads ha ha] at h
    exact compare_readings_self ⟨rfl, fun _ => rfl, fun _ => rfl⟩ h
  · rw [compare_missing hread] at h
    cases h

end

/-- **The comparison is symmetric and canonical.** Taken the other way round, with every table
read in another order and every set gone through in another order, it is the one there was with
its sides exchanged; two shapes are equal exactly if the hosts are, up to their order; and an
environment does not differ from itself. -/
theorem comparison_symmetric (lower : String → String) (iteration : Iteration) (db : Db)
    (left_id right_id tenant_id : ℕ) :
    (∀ db' iteration', Reread db db' →
        compare_environments lower iteration' db' right_id left_id tenant_id =
          (compare_environments lower iteration db left_id right_id tenant_id).map
            Comparison.exchange) ∧
      (∀ hosts hosts', host_shape hosts = host_shape hosts' ↔ hosts.Perm hosts') ∧
      ∀ c, compare_environments lower iteration db left_id left_id tenant_id = .ok c → c.Same :=
  ⟨fun _ _ h => compare_environments_swap h, fun _ _ => host_shape_eq_iff,
    fun _ h => compare_environments_self h⟩

end EnvMgr.Components

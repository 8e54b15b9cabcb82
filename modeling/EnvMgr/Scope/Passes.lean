/-
What an upload makes of the items there are.

An item that a row has the key of is overwritten in place, and the last such row is the one that
counts. A row that has the key of no item makes one, in the release of the upload. So the items
after an upload are those before it, as the rows have touched them, and the new ones.
-/
import EnvMgr.Scope.Rows

namespace EnvMgr.Scope

open Upload (store store_cons_ok)

/-! ## Rows and items -/

/-- The row has the key of the item. -/
def names (tenant_id : ℕ) (g : Except Raised ScopeRow) (c : ReleaseChange) : Bool :=
  (row_key tenant_id g).any fun k => c.tenant_id = k.1 ∧ c.external_key = some k.2

/-- The status that a row brings. -/
def row_status (g : Except Raised ScopeRow) : Option String :=
  match bound g with
  | .ok (fields, _) => fields.external_status
  | .error _ => none

/-- The rows make no item, and the last one with the key of an item gives the status that it has
already. -/
structure AddsNothing (tenant_id : ℕ) (changes : Changes) (gs : List (Except Raised ScopeRow)) :
    Prop where
  known : ∀ g ∈ gs, ∃ c ∈ changes, names tenant_id g c = true
  unchanged : ∀ c ∈ changes, ∀ g, gs.reverse.find? (fun g => names tenant_id g c) = some g →
    row_status g = c.external_status

/-- What one row makes of an item, and what the rows make of it. -/
def touch (tenant_id : ℕ) (g : Except Raised ScopeRow) (c : ReleaseChange) : ReleaseChange :=
  if names tenant_id g c then write g c else c

def touched (tenant_id : ℕ) (gs : List (Except Raised ScopeRow)) (c : ReleaseChange) :
    ReleaseChange :=
  gs.foldl (fun c g => touch tenant_id g c) c

section

variable {changes t : Changes} {release_id tenant_id : ℕ} {g g' : Except Raised ScopeRow}
  {gs : List (Except Raised ScopeRow)} {c : ReleaseChange} {fresh : Bool} {news : List Bool}

theorem names_iff :
    names tenant_id g c = true ↔
      ∃ k, row_key tenant_id g = some k ∧ c.tenant_id = k.1 ∧ c.external_key = some k.2 := by
  rw [names, Option.any_eq_true]
  exact exists_congr fun k => and_congr_right fun _ => decide_eq_true_iff

theorem Constraints.names_iff_held (h : Constraints changes) (hc : c ∈ changes) :
    names tenant_id g c = true ↔
      ∃ k, row_key tenant_id g = some k ∧ held changes k = some c := by
  rw [names_iff]
  refine exists_congr fun k => and_congr_right fun _ => ?_
  rw [h.held_iff]
  exact (and_iff_right hc).symm

theorem not_known_iff :
    (¬ ∃ c ∈ changes, names tenant_id g c = true) ↔ ∀ c ∈ changes, names tenant_id g c = false := by
  simp only [not_exists, not_and, Bool.not_eq_true]

/-! ### One row, of one item -/

/-- A row writes neither the key of an item nor where it is. -/
theorem touch_keeps :
    (touch tenant_id g c).id = c.id ∧ (touch tenant_id g c).release_id = c.release_id ∧
      names tenant_id g' (touch tenant_id g c) = names tenant_id g' c := by
  rw [touch, write]
  by_cases hnames : names tenant_id g c = true
  · rw [if_pos hnames]
    cases bound g with
    | ok b => exact ⟨rfl, rfl, rfl⟩
    | error e => exact ⟨rfl, rfl, rfl⟩
  · rw [if_neg hnames]
    exact ⟨rfl, rfl, rfl⟩

theorem touch_status :
    (touch tenant_id g c).external_status =
      if names tenant_id g c then row_status g else c.external_status := by
  rw [touch]
  by_cases hnames : names tenant_id g c = true
  · rw [if_pos hnames, if_pos hnames]
    obtain ⟨k, hkey, -⟩ := names_iff.1 hnames
    obtain ⟨fields, ek, hbound, -⟩ := row_key_some.1 hkey
    rw [write, row_status, hbound]
    rfl
  · rw [if_neg hnames, if_neg hnames]

/-! ### The rows, of one item -/

theorem touched_cons :
    touched tenant_id (g :: gs) c = touched tenant_id gs (touch tenant_id g c) := rfl

theorem touched_keeps :
    (touched tenant_id gs c).id = c.id ∧ (touched tenant_id gs c).release_id = c.release_id := by
  induction gs generalizing c with
  | nil => exact ⟨rfl, rfl⟩
  | cons g gs ih =>
    obtain ⟨hid, hrelease, -⟩ := @touch_keeps tenant_id g g c
    rw [touched_cons, ih.1, ih.2]
    exact ⟨hid, hrelease⟩

/-- A row does not delete an item, nor bring one back. -/
theorem touched_deleted_at : (touched tenant_id gs c).deleted_at = c.deleted_at := by
  induction gs generalizing c with
  | nil => rfl
  | cons g gs ih =>
    rw [touched_cons, ih, touch, write]
    by_cases hnames : names tenant_id g c = true
    · rw [if_pos hnames]
      cases bound g with
      | ok b => rfl
      | error e => rfl
    · rw [if_neg hnames]

/-- **The last row with its key** gives an item its status. -/
theorem touched_status :
    (touched tenant_id gs c).external_status =
      ((gs.reverse.find? fun g => names tenant_id g c).map row_status).getD c.external_status := by
  induction gs generalizing c with
  | nil => rfl
  | cons g gs ih =>
    -- a row that is written leaves the key, so the later rows name the same items
    have hnames : (fun g' => names tenant_id g' (touch tenant_id g c)) =
        fun g' => names tenant_id g' c := funext fun g' => touch_keeps.2.2
    rw [touched_cons, ih, hnames, touch_status, List.reverse_cons, List.find?_append]
    cases gs.reverse.find? fun g' => names tenant_id g' c with
    | some g' => rfl
    | none =>
      rw [Option.none_or, List.find?_singleton]
      by_cases hg : names tenant_id g c = true
      · rw [if_pos hg, if_pos hg]
        rfl
      · rw [if_neg hg, if_neg hg]

/-! ### One row, of all items -/

/-- A row that has the key of an item makes nothing. -/
theorem place_known (h : Constraints changes)
    (hok : place release_id tenant_id changes g = .ok (t, fresh))
    (hknown : ∃ c ∈ changes, names tenant_id g c = true) :
    t.next = changes.next ∧ ∀ c', c' ∈ t ↔ ∃ c ∈ changes, touch tenant_id g c = c' := by
  obtain ⟨c, hc, hnames⟩ := hknown
  obtain ⟨k, hkey, hheld⟩ := (h.names_iff_held hc).1 hnames
  obtain ⟨fields, ek, hbound, rfl⟩ := row_key_some.1 hkey
  obtain ⟨-, -, -, rfl⟩ := (place_found h hbound hheld).1 hok
  -- it has the key of `c` and of no other item
  have htouch : ∀ a ∈ changes, touch tenant_id g a =
      if decide (a.id = c.id) then fields.edit.apply a else a := by
    intro a ha
    have hwrite : write g a = fields.edit.apply a := by rw [write, hbound]
    rw [touch, hwrite]
    refine if_congr ?_ rfl rfl
    rw [h.names_iff_held ha, Table.key_match hc a ha]
    constructor
    · rintro ⟨k, hkey', hheld'⟩
      obtain rfl := Option.some.inj (hkey.symm.trans hkey')
      exact Option.some.inj (hheld'.symm.trans hheld)
    · rintro rfl
      exact ⟨_, hkey, hheld⟩
  refine ⟨rfl, fun c' => ?_⟩
  rw [Table.mem_update]
  exact exists_congr fun a => and_congr_right fun ha => by rw [htouch a ha]

/-- Any other row makes an item in the release. -/
theorem place_unknown (h : Constraints changes)
    (hok : place release_id tenant_id changes g = .ok (t, fresh))
    (hunknown : ∀ c ∈ changes, names tenant_id g c = false) :
    ∃ new : Table.New ReleaseChange.id, t = changes.insert new ∧
      (new.row changes.next).release_id = some release_id := by
  obtain ⟨fields, external_key, hbound, -, hcase⟩ := place_cases h hok
  rcases hcase with ⟨-, -, rfl⟩ | ⟨ek, c, rfl, hheld, -⟩
  · exact ⟨_, rfl, rfl⟩
  · have hc := (h.held_iff.1 hheld).1
    have hnames := (h.names_iff_held hc).2 ⟨_, row_key_some.2 ⟨fields, ek, hbound, rfl⟩, hheld⟩
    exact absurd ⟨c, hc, hnames⟩ (not_known_iff.2 hunknown)

/-! ### The rows, of all items -/

/-- What a pass makes of the items: those there were, as the rows have written them, and new
ones in the release, if some row has the key of none. -/
structure Passed (release_id tenant_id : ℕ) (changes t : Changes)
    (gs : List (Except Raised ScopeRow)) : Prop where
  next : changes.next ≤ t.next
  kept : ∀ c ∈ changes, touched tenant_id gs c ∈ t
  origin : ∀ c' ∈ t, (∃ c ∈ changes, touched tenant_id gs c = c') ∨
    changes.next ≤ c'.id ∧ c'.release_id = some release_id
  made : (∃ c' ∈ t, changes.next ≤ c'.id) ↔ ∃ g ∈ gs, ∀ c ∈ changes, names tenant_id g c = false

theorem passed_nil : Passed release_id tenant_id changes changes [] where
  next := le_refl _
  kept _ hc := hc
  origin c hc := Or.inl ⟨c, hc, rfl⟩
  made := by
    refine iff_of_false ?_ ?_
    · rintro ⟨c, hc, hnext⟩
      exact absurd (Table.key_lt_next hc) (Nat.not_lt.2 hnext)
    · rintro ⟨g, hg, -⟩
      exact absurd hg List.not_mem_nil

theorem passed_known {u : Changes} (hnext : t.next = changes.next)
    (hmem : ∀ c', c' ∈ t ↔ ∃ c ∈ changes, touch tenant_id g c = c')
    (hknown : ∃ c ∈ changes, names tenant_id g c = true)
    (hrest : Passed release_id tenant_id t u gs) :
    Passed release_id tenant_id changes u (g :: gs) where
  next := hnext ▸ hrest.next
  kept c hc := hrest.kept _ ((hmem _).2 ⟨c, hc, rfl⟩)
  origin c' hc' := by
    rcases hrest.origin c' hc' with ⟨a, ha, rfl⟩ | ⟨hid, hrelease⟩
    -- what the later rows have touched, the first one had touched before
    · obtain ⟨c, hc, rfl⟩ := (hmem a).1 ha
      exact Or.inl ⟨c, hc, rfl⟩
    · exact Or.inr ⟨hnext ▸ hid, hrelease⟩
  made := by
    have hsame : ∀ g', (∀ c ∈ t, names tenant_id g' c = false) ↔
        ∀ c ∈ changes, names tenant_id g' c = false := by
      intro g'
      constructor
      · intro hall c hc
        rw [← @touch_keeps tenant_id g g' c |>.2.2]
        exact hall _ ((hmem _).2 ⟨c, hc, rfl⟩)
      · intro hall c' hc'
        obtain ⟨c, hc, rfl⟩ := (hmem c').1 hc'
        rw [touch_keeps.2.2]
        exact hall c hc
    rw [← hnext, hrest.made]
    simp only [hsame, List.mem_cons, exists_eq_or_imp]
    exact (or_iff_right fun hunknown => not_known_iff.2 hunknown hknown).symm

theorem passed_unknown {u : Changes} {new : Table.New ReleaseChange.id}
    (hrelease : (new.row changes.next).release_id = some release_id)
    (hunknown : ∀ c ∈ changes, names tenant_id g c = false)
    (hrest : Passed release_id tenant_id (changes.insert new) u gs) :
    Passed release_id tenant_id changes u (g :: gs) := by
  have htouch : ∀ c ∈ changes, touch tenant_id g c = c := by
    intro c hc
    rw [touch, hunknown c hc, if_neg Bool.false_ne_true]
  constructor
  · exact (Nat.le_succ _).trans hrest.next
  · intro c hc
    rw [touched_cons, htouch c hc]
    exact hrest.kept c (Table.mem_insert.2 (Or.inl hc))
  · intro c' hc'
    rcases hrest.origin c' hc' with ⟨a, ha, rfl⟩ | ⟨hid, hnew⟩
    · rcases Table.mem_insert.1 ha with ha | rfl
      · exact Or.inl ⟨a, ha, by rw [touched_cons, htouch a ha]⟩
      -- the later rows may write the new item, but it stays where it is
      · refine Or.inr ⟨?_, ?_⟩
        · rw [touched_keeps.1, new.key_row]
        · rw [touched_keeps.2, hrelease]
    · exact Or.inr ⟨(Nat.le_succ _).trans hid, hnew⟩
  · refine iff_of_true ⟨_, hrest.kept _ (Table.mem_insert.2 (Or.inr rfl)), ?_⟩
      ⟨g, List.mem_cons_self, hunknown⟩
    rw [touched_keeps.1, new.key_row]

/-- **What a pass makes of the items.** -/
theorem passed_of_store (h : Constraints changes)
    (hstore : store (place release_id tenant_id) changes gs = .ok (t, news)) :
    Passed release_id tenant_id changes t gs := by
  induction gs generalizing changes news with
  | nil =>
    cases hstore
    exact passed_nil
  | cons g gs ih =>
    obtain ⟨s, fresh, rest, hplace, hrest, -⟩ := store_cons_ok.1 hstore
    have hpassed := ih (h.place hplace) hrest
    by_cases hknown : ∃ c ∈ changes, names tenant_id g c = true
    · obtain ⟨hnext, hmem⟩ := place_known h hplace hknown
      exact passed_known hnext hmem hknown hpassed
    · have hunknown := not_known_iff.1 hknown
      obtain ⟨new, rfl, hrelease⟩ := place_unknown h hplace hunknown
      exact passed_unknown hrelease hunknown hpassed

end

end EnvMgr.Scope

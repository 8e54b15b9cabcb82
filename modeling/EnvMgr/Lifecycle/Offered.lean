/-
What is offered and what is accepted.

Both functions read the same list of transitions, one by its first entry between two
states and the other by every entry, and both take the keys of an entry with `[]`. So
they agree, and raise nothing, on the definitions whose entries have their keys and whose
repeated entries name no new role.
-/
import Mathlib.Data.Fintype.EquivFin
import EnvMgr.Lifecycle.Service

namespace EnvMgr.Lifecycle

variable {t : TransitionEntry} {from_state : String}

/-! ## The list -/

/-- `t["from_state"] == current_state and user_role in t["allowed_roles"]`. -/
def is_allowed (current_state user_role : String) (t : TransitionEntry) : Except Raised Bool := do
  let frm ← get_or_raise t.from_state .KeyError
  if frm = current_state then
    let allowed_roles ← get_or_raise t.allowed_roles .KeyError
    .ok (decide (user_role ∈ allowed_roles))
  else .ok false

/-- All transitions from the current state that this role can make. -/
def get_allowed_transitions (definition : Definition) (current_state user_role : String) :
    Except Raised (List TransitionEntry) :=
  select_each definition.transitions (is_allowed current_state user_role)

theorem is_allowed_eq_true {current_state user_role : String} :
    is_allowed current_state user_role t = .ok true ↔
      t.from_state = some current_state ∧ ∃ roles, t.allowed_roles = some roles ∧
        user_role ∈ roles := by
  simp only [is_allowed, bind_eq_ok, get_or_raise_eq_ok]
  constructor
  · rintro ⟨frm, hfrom, h⟩
    split at h
    · rename_i heq
      simp only [bind_eq_ok, get_or_raise_eq_ok, Except.ok.injEq, decide_eq_true_eq] at h
      obtain ⟨roles, hroles, hrole⟩ := h
      exact ⟨heq ▸ hfrom, roles, hroles, hrole⟩
    · cases h
  · rintro ⟨hfrom, roles, hroles, hrole⟩
    exact ⟨_, hfrom, by simp [get_or_raise, bind, Except.bind, hroles, hrole]⟩

/-- An entry is read unless it lacks the key. -/
theorem is_allowed_ok_iff {current_state user_role : String} :
    (∃ keep, is_allowed current_state user_role t = .ok keep) ↔
      t.from_state ≠ none ∧ (t.from_state = some current_state → t.allowed_roles ≠ none) := by
  unfold is_allowed
  cases hfrom : t.from_state with
  | none => simp [get_or_raise, bind, Except.bind]
  | some frm =>
    by_cases heq : frm = current_state
    · cases hroles : t.allowed_roles <;> simp [get_or_raise, bind, Except.bind, heq]
    · simp [get_or_raise, bind, Except.bind, heq]

/-! ## The verdict -/

/-- The entry leads from the one state to the other. -/
def TransitionEntry.Arc (t : TransitionEntry) (from_state to_state : String) : Prop :=
  t.from_state = some from_state ∧ t.to_state = some to_state
  deriving Decidable

/-- What the search reads of an entry is there. -/
def Readable (from_state : String) (t : TransitionEntry) : Prop :=
  t.from_state ≠ none ∧ (t.from_state = some from_state → t.to_state ≠ none)

theorem find_transition_ok {to_state : String} {transitions : List TransitionEntry}
    (h : ∀ t ∈ transitions, Readable from_state t) :
    find_transition from_state to_state transitions =
      .ok (transitions.find? fun t => t.Arc from_state to_state) := by
  induction transitions with
  | nil => rfl
  | cons t transitions ih =>
    obtain ⟨⟨hfrom, hto⟩, hrest⟩ := List.forall_mem_cons.1 h
    obtain ⟨frm, hfrm⟩ := Option.ne_none_iff_exists'.1 hfrom
    have ih := ih hrest
    by_cases heq : frm = from_state
    · obtain ⟨dest, hdest⟩ := Option.ne_none_iff_exists'.1 (hto (heq ▸ hfrm))
      by_cases hdest' : dest = to_state
      · simp [find_transition, get_or_raise, bind, Except.bind, TransitionEntry.Arc, hfrm, hdest,
          heq, hdest']
      · simp [find_transition, get_or_raise, bind, Except.bind, TransitionEntry.Arc, hfrm, hdest,
          heq, hdest', ih]
    · simp [find_transition, get_or_raise, bind, Except.bind, TransitionEntry.Arc, hfrm, heq, ih]

/-- The search for a state no entry leads to reads every entry. -/
theorem readable_of_find_transition {to_state : String}
    {transitions : List TransitionEntry} {found : Option TransitionEntry}
    (h : find_transition from_state to_state transitions = .ok found)
    (hnone : ∀ t ∈ transitions, t.to_state ≠ some to_state) :
    ∀ t ∈ transitions, Readable from_state t := by
  induction transitions with
  | nil => exact fun t ht => absurd ht List.not_mem_nil
  | cons t transitions ih =>
    obtain ⟨ht, hrest⟩ := List.forall_mem_cons.1 hnone
    simp only [find_transition, bind_eq_ok, get_or_raise_eq_ok] at h
    obtain ⟨frm, hfrm, h⟩ := h
    split at h
    · simp only [bind_eq_ok, get_or_raise_eq_ok] at h
      obtain ⟨dest, hdest, h⟩ := h
      -- it does not stop at this entry, so it reads the next
      have hne : dest ≠ to_state := fun heq => ht (heq ▸ hdest)
      rw [if_neg hne] at h
      refine List.forall_mem_cons.2 ⟨⟨?_, fun _ => ?_⟩, ih h hrest⟩
      · rw [hfrm]
        exact Option.some_ne_none _
      · rw [hdest]
        exact Option.some_ne_none _
    · rename_i hne
      refine List.forall_mem_cons.2 ⟨⟨?_, fun heq => ?_⟩, ih h hrest⟩
      · rw [hfrm]
        exact Option.some_ne_none _
      · exact absurd (Option.some.inj (hfrm.symm.trans heq)) hne

section

variable {definition : Definition} {status to_state user_role : String} {values : RecordValues}

/-- The required fields of the state are all there. -/
def Supplied (definition : Definition) (to_state : String) (values : RecordValues) : Prop :=
  ∀ key ∈ definition.required_fields to_state, (values.get key).is_empty = false

/-- Values with just what is required. -/
def supply (definition : Definition) (to_state : String) : RecordValues where
  fields :=
    { items := (definition.required_fields to_state).dedup.map fun key => (key, .other)
      keys_nodup := by
        rw [List.map_map]
        exact (List.map_id _).symm ▸ List.nodup_dedup _ }
  custom_fields := Dict.empty

theorem supplied_supply : Supplied definition to_state (supply definition to_state) := by
  intro key hkey
  have hfind : (definition.required_fields to_state).dedup.find? (fun k => k = key) = some key := by
    cases hfind : (definition.required_fields to_state).dedup.find? (fun k => k = key) with
    | none =>
      have hne := List.find?_eq_none.1 hfind key (List.mem_dedup.2 hkey)
      exact absurd (decide_eq_true rfl) hne
    | some k =>
      have hk : k = key := by simpa using List.find?_some hfind
      rw [hk]
  have hget : (supply definition to_state).fields.get key = some .other := by
    simp only [supply, Dict.get, List.find?_map, Function.comp_def, hfind,
      Option.map_some]
  rw [RecordValues.get, hget]
  rfl

/-- A verdict is given, and both say the same of every target. -/
structure Offers (definition : Definition) (status : String) : Prop where
  verdict : ∀ to_state user_role values, ∃ verdict,
    validate_transition definition status to_state user_role values = .ok verdict
  offered : ∀ user_role, ∃ offered,
    get_allowed_transitions definition status user_role = .ok offered ∧
      ∀ to_state values, Supplied definition to_state values →
        ((∃ t ∈ offered, t.to_state = some to_state) ↔
          validate_transition definition status to_state user_role values = .ok (true, none))

/-- The entries have the keys that are read of them, and where several lead from the status
to the same state, the first names every role the others name. -/
structure Usable (definition : Definition) (status : String) : Prop where
  readable : ∀ t ∈ definition.transitions, Readable status t
  roles : ∀ t ∈ definition.transitions, t.from_state = some status → t.allowed_roles ≠ none
  repeated : ∀ before t after, definition.transitions = before ++ t :: after →
    ∀ to_state, t.Arc status to_state → (∀ u ∈ before, ¬ u.Arc status to_state) →
    ∀ u ∈ after, u.Arc status to_state →
    ∀ role ∈ u.allowed_roles.getD [], role ∈ t.allowed_roles.getD []

theorem first_arc (h : definition.transitions.find? (fun t => t.Arc status to_state) = some t) :
    t ∈ definition.transitions ∧ t.Arc status to_state :=
  ⟨List.mem_of_find?_eq_some h, by simpa using List.find?_some h⟩

/-- The first entry between the two states decides. -/
theorem accepted_iff (hreadable : ∀ t ∈ definition.transitions, Readable status t)
    (hsupplied : Supplied definition to_state values) :
    validate_transition definition status to_state user_role values = .ok (true, none) ↔
      ∃ t, definition.transitions.find? (fun t => t.Arc status to_state) = some t ∧
        user_role ∈ t.allowed_roles.getD [] := by
  have hmissing : (definition.required_fields to_state).filter
      (fun key => (values.get key).is_empty) = [] := by
    rw [List.filter_eq_nil_iff]
    intro key hkey
    rw [hsupplied key hkey]
    exact Bool.false_ne_true
  simp only [validate_transition, find_transition_ok hreadable]
  cases definition.transitions.find? fun t => t.Arc status to_state with
  | none => simp
  | some t =>
    cases hroles : t.allowed_roles with
    | none => simp [get_or_raise, bind, Except.bind, hroles]
    | some roles =>
      by_cases hrole : user_role ∈ roles <;>
        simp [get_or_raise, bind, Except.bind, hroles, hrole, hmissing]

/-- A verdict is always given exactly if what is read of the entries is there. -/
theorem verdict_of_readable (hreadable : ∀ t ∈ definition.transitions, Readable status t)
    (hroles : ∀ t ∈ definition.transitions, t.from_state = some status → t.allowed_roles ≠ none)
    (to_state user_role : String) (values : RecordValues) : ∃ verdict,
      validate_transition definition status to_state user_role values = .ok verdict := by
  simp only [validate_transition, find_transition_ok hreadable]
  cases hfind : definition.transitions.find? fun t => t.Arc status to_state with
  | none => exact ⟨_, rfl⟩
  | some t =>
    obtain ⟨ht, harc⟩ := first_arc hfind
    obtain ⟨roles, hsome⟩ := Option.ne_none_iff_exists'.1 (hroles t ht harc.1)
    by_cases hrole : user_role ∈ roles
    · by_cases hmissing : (definition.required_fields to_state).filter
          (fun key => (values.get key).is_empty) = [] <;>
        exact ⟨_, by simp [get_or_raise, bind, Except.bind, hsome, hrole, hmissing]; rfl⟩
    · exact ⟨_, by simp [get_or_raise, bind, Except.bind, hsome, hrole]; rfl⟩

theorem readable_of_verdict (h : ∀ to_state user_role values, ∃ verdict,
      validate_transition definition status to_state user_role values = .ok verdict) :
    ∀ t ∈ definition.transitions, Readable status t := by
  -- a state that no entry leads to: the search passes over every one
  obtain ⟨to_state, hfresh⟩ :=
    Infinite.exists_notMem_finset (definition.transitions.filterMap TransitionEntry.to_state).toFinset
  obtain ⟨verdict, hverdict⟩ := h to_state "" ⟨Dict.empty, Dict.empty⟩
  simp only [validate_transition, bind_eq_ok] at hverdict
  obtain ⟨found, hfound, -⟩ := hverdict
  refine readable_of_find_transition hfound fun t ht heq => hfresh ?_
  rw [List.mem_toFinset]
  exact List.mem_filterMap.2 ⟨t, ht, heq⟩

/-- Which targets are offered, when the list comes back. -/
theorem mem_offered {offered : List TransitionEntry}
    (h : get_allowed_transitions definition status user_role = .ok offered) :
    (∃ t ∈ offered, t.to_state = some to_state) ↔
      ∃ t ∈ definition.transitions, t.Arc status to_state ∧ user_role ∈ t.allowed_roles.getD [] := by
  obtain ⟨-, hmem⟩ := select_each_eq_ok h
  constructor
  · rintro ⟨t, ht, hto⟩
    obtain ⟨ht, hallowed⟩ := (hmem t).1 ht
    obtain ⟨hfrom, roles, hroles, hrole⟩ := is_allowed_eq_true.1 hallowed
    exact ⟨t, ht, ⟨hfrom, hto⟩, by rwa [hroles]⟩
  · rintro ⟨t, ht, ⟨hfrom, hto⟩, hrole⟩
    cases hroles : t.allowed_roles with
    | none =>
      rw [hroles] at hrole
      cases hrole
    | some roles =>
      rw [hroles] at hrole
      exact ⟨t, (hmem t).2 ⟨ht, is_allowed_eq_true.2 ⟨hfrom, roles, hroles, hrole⟩⟩, hto⟩

/-- **When what is offered is what is accepted.** -/
theorem offers_iff (definition : Definition) (status : String) :
    Offers definition status ↔ Usable definition status := by
  constructor
  · intro h
    have hreadable := readable_of_verdict h.verdict
    refine ⟨hreadable, fun t ht hfrom => ?_, ?_⟩
    · obtain ⟨offered, hoffered, -⟩ := h.offered ""
      exact (is_allowed_ok_iff.1 ((select_each_eq_ok hoffered).1 t ht)).2 hfrom
    · intro before t after hsplit to_state harc hfirst u hu huarc role hrole
      -- a role of a repeated entry is offered, so it is granted, and the first entry decides that
      obtain ⟨offered, hoffered, hagree⟩ := h.offered role
      have hmem : u ∈ definition.transitions := by
        rw [hsplit]
        exact List.mem_append_right _ (List.mem_cons_of_mem _ hu)
      have haccepted := (hagree to_state _ supplied_supply).1
        ((mem_offered hoffered).2 ⟨u, hmem, huarc, hrole⟩)
      obtain ⟨t', hfind, hrole'⟩ := (accepted_iff hreadable supplied_supply).1 haccepted
      have hfind' : definition.transitions.find? (fun t => t.Arc status to_state) = some t := by
        rw [List.find?_eq_some_iff_append]
        exact ⟨decide_eq_true harc, before, after, hsplit, fun u hu => by simpa using hfirst u hu⟩
      obtain rfl := Option.some.inj (hfind'.symm.trans hfind)
      exact hrole'
  · intro h
    refine ⟨verdict_of_readable h.readable h.roles, fun user_role => ?_⟩
    have hread : ∀ t ∈ definition.transitions, ∃ keep, is_allowed status user_role t = .ok keep :=
      fun t ht => is_allowed_ok_iff.2 ⟨(h.readable t ht).1, h.roles t ht⟩
    obtain ⟨offered, hoffered⟩ := exists_select_each hread
    refine ⟨offered, hoffered, fun to_state values hsupplied => ?_⟩
    rw [mem_offered hoffered, accepted_iff h.readable hsupplied]
    constructor
    · rintro ⟨u, hu, huarc, hrole⟩
      have hsome : (definition.transitions.find? fun t => t.Arc status to_state).isSome :=
        List.find?_isSome.2 ⟨u, hu, decide_eq_true huarc⟩
      obtain ⟨t, hfind⟩ := Option.isSome_iff_exists.1 hsome
      refine ⟨t, hfind, ?_⟩
      obtain ⟨harc, before, after, hsplit, hfirst⟩ := List.find?_eq_some_iff_append.1 hfind
      have hbefore : ∀ u ∈ before, ¬ u.Arc status to_state := fun u hu => by simpa using hfirst u hu
      rw [hsplit, List.mem_append, List.mem_cons] at hu
      -- the entry that offers the state is the first one, or repeats it
      rcases hu with hu | rfl | hu
      · exact absurd huarc (hbefore u hu)
      · exact hrole
      · exact h.repeated before t after hsplit to_state (of_decide_eq_true harc) hbefore u hu huarc
          user_role hrole
    · rintro ⟨t, hfind, hrole⟩
      obtain ⟨ht, harc⟩ := first_arc hfind
      exact ⟨t, ht, harc, hrole⟩

/-- Entries with all their keys, no two between the same states, are usable everywhere. -/
theorem usable_of_distinct (hkeys : ∀ t ∈ definition.transitions,
      t.from_state ≠ none ∧ t.to_state ≠ none ∧ t.allowed_roles ≠ none)
    (hdistinct : (definition.transitions.map fun t => (t.from_state, t.to_state)).Nodup)
    (status : String) : Usable definition status := by
  refine ⟨fun t ht => ⟨(hkeys t ht).1, fun _ => (hkeys t ht).2.1⟩,
    fun t ht _ => (hkeys t ht).2.2, ?_⟩
  intro before t after hsplit to_state harc hfirst u hu huarc
  rw [hsplit, List.map_append, List.map_cons] at hdistinct
  have hnew := (List.nodup_cons.1 (List.nodup_append.1 hdistinct).2.1).1
  have hsame : (u.from_state, u.to_state) = (t.from_state, t.to_state) := by
    rw [huarc.1, huarc.2, harc.1, harc.2]
  exact absurd (hsame ▸ List.mem_map_of_mem hu) hnew

end

end EnvMgr.Lifecycle

/-
Several transitions between the same two states.

The editor may send them, and nothing in the schema or in the rules of an entity speaks
against it. The list of what a role may do then reads them all, and the verdict on a move
only the first.
-/
import EnvMgr.Lifecycle.Offered
import EnvMgr.Lifecycle.Saving

namespace EnvMgr.Lifecycle

/-! ## What the two functions say of one target -/

/-- The list comes back, a verdict is given, and the target is in the list exactly if the
move is accepted. -/
def Agree (definition : Definition) (current_state to_state user_role : String)
    (values : RecordValues) : Prop :=
  ∃ offered verdict, get_allowed_transitions definition current_state user_role = .ok offered ∧
    validate_transition definition current_state to_state user_role values = .ok verdict ∧
      ((∃ t ∈ offered, t.to_state = some to_state) ↔ verdict = (true, none))

/-- If a transition between the two states names the role, the first one does. -/
def FirstNames (definition : Definition) (current_state to_state user_role : String) : Prop :=
  ∀ t ∈ definition.transitions, t.Arc current_state to_state →
    user_role ∈ t.allowed_roles.getD [] →
      ∃ first, definition.transitions.find? (fun t => t.Arc current_state to_state) = some first ∧
        user_role ∈ first.allowed_roles.getD []

/-- Every transition has the keys that are read of it. -/
def Complete (definition : Definition) : Prop :=
  ∀ t ∈ definition.transitions, t.from_state ≠ none ∧ t.to_state ≠ none ∧ t.allowed_roles ≠ none

section

variable {definition : Definition} {current_state to_state user_role : String}
  {values : RecordValues}

theorem Complete.readable (h : Complete definition) (current_state : String) :
    ∀ t ∈ definition.transitions, Readable current_state t :=
  fun t ht => ⟨(h t ht).1, fun _ => (h t ht).2.1⟩

theorem Complete.offered (h : Complete definition) (current_state user_role : String) :
    ∃ offered, get_allowed_transitions definition current_state user_role = .ok offered :=
  exists_select_each fun t ht => is_allowed_ok_iff.2 ⟨(h t ht).1, fun _ => (h t ht).2.2⟩

/-- The two agree on a target exactly if its first transition decides. -/
theorem offered_iff_accepted {offered : List TransitionEntry} (h : Complete definition)
    (hsupplied : Supplied definition to_state values)
    (hoffered : get_allowed_transitions definition current_state user_role = .ok offered) :
    ((∃ t ∈ offered, t.to_state = some to_state) ↔
        validate_transition definition current_state to_state user_role values =
          .ok (true, none)) ↔
      FirstNames definition current_state to_state user_role := by
  rw [mem_offered hoffered, accepted_iff (h.readable current_state) hsupplied]
  constructor
  · rintro hagree t ht harc hrole
    exact hagree.1 ⟨t, ht, harc, hrole⟩
  · intro hfirst
    constructor
    · rintro ⟨t, ht, harc, hrole⟩
      exact hfirst t ht harc hrole
    · rintro ⟨t, hfind, hrole⟩
      obtain ⟨ht, harc⟩ := first_arc hfind
      exact ⟨t, ht, harc, hrole⟩

theorem Complete.agrees_iff (h : Complete definition)
    (hsupplied : Supplied definition to_state values) :
    Agree definition current_state to_state user_role values ↔
      FirstNames definition current_state to_state user_role := by
  obtain ⟨offered, hoffered⟩ := h.offered current_state user_role
  obtain ⟨verdict, hverdict⟩ := verdict_of_readable (h.readable current_state)
    (fun t ht _ => (h t ht).2.2) to_state user_role values
  rw [← offered_iff_accepted h hsupplied hoffered, hverdict, Except.ok.injEq]
  constructor
  · rintro ⟨offered', verdict', hoffered', hverdict', hagree⟩
    obtain rfl := Except.ok.inj (hoffered.symm.trans hoffered')
    obtain rfl := Except.ok.inj (hverdict.symm.trans hverdict')
    exact hagree
  · exact fun hagree => ⟨offered, verdict, hoffered, hverdict, hagree⟩

end

/-! ## What comes through the schema -/

/-- The schema lists the keys, so they are there. -/
theorem complete_of_dumped {definition : Definition} {d : LifecycleDefinition}
    (h : definition.transitions = d.transitions.map LifecycleTransition.model_dump) :
    Complete definition := by
  intro t ht
  rw [h] at ht
  obtain ⟨t', -, rfl⟩ := List.mem_map.1 ht
  exact ⟨Option.some_ne_none _, Option.some_ne_none _, Option.some_ne_none _⟩

/-- It does not list `required_fields`, so nothing is required. -/
theorem model_dump_required_fields (d : LifecycleDefinition) (state : String) :
    d.model_dump.required_fields state = [] := by
  simp only [LifecycleDefinition.model_dump, Definition.required_fields, Dict.get_map]
  cases d.field_permissions.get state <;> rfl

theorem supplied_of_nothing_required {definition : Definition} {to_state : String}
    (h : definition.required_fields to_state = []) (values : RecordValues) :
    Supplied definition to_state values := by
  intro key hkey
  rw [h] at hkey
  cases hkey

/-- **What is offered and what is accepted, of every definition of the schema.** None of
them requires a field, so this is so for any values. -/
theorem offered_accepted_iff (d : LifecycleDefinition)
    (current_state to_state user_role : String) (values : RecordValues) :
    Agree d.model_dump current_state to_state user_role values ↔
      FirstNames d.model_dump current_state to_state user_role :=
  (complete_of_dumped rfl).agrees_iff
    (supplied_of_nothing_required (model_dump_required_fields d to_state) values)

namespace Repeated

/-- Two ways from draft to open, each for another role. -/
def definition : LifecycleDefinition where
  states :=
    [⟨"draft", "Draft", true, false, false, false, false, false, false, false⟩,
      ⟨"open", "Open", false, false, false, false, false, false, false, false⟩]
  transitions :=
    [⟨"draft", "open", "Open", [Role.ADMIN]⟩, ⟨"draft", "open", "Ask", [Role.VIEWER]⟩]
  field_permissions := Dict.empty
  action_permissions := none
  one_initial := by decide

/-- What the second one allows. -/
def ask : TransitionEntry := ⟨some "draft", some "open", some "Ask", some [Role.VIEWER]⟩

end Repeated

/-- The second way is offered to its role, and the move is refused. -/
theorem second_way_is_refused :
    ¬ ∀ (d : LifecycleDefinition) (current_state to_state user_role : String)
        (values : RecordValues), Supplied d.model_dump to_state values →
      Agree d.model_dump current_state to_state user_role values := by
  intro h
  obtain ⟨offered, verdict, hoffered, hverdict, hagree⟩ :=
    h Repeated.definition "draft" "open" Role.VIEWER ⟨Dict.empty, Dict.empty⟩
      (supplied_of_nothing_required (model_dump_required_fields _ _) _)
  have hlist : get_allowed_transitions Repeated.definition.model_dump "draft" Role.VIEWER =
      .ok [Repeated.ask] := rfl
  have hrefused : validate_transition Repeated.definition.model_dump "draft" "open" Role.VIEWER
      ⟨Dict.empty, Dict.empty⟩ =
      .ok (false, some "Role 'Viewer' is not allowed to transition draft → open") := rfl
  cases hlist.symm.trans hoffered
  cases hrefused.symm.trans hverdict
  cases hagree.1 ⟨Repeated.ask, List.mem_singleton_self _, rfl⟩

end EnvMgr.Lifecycle

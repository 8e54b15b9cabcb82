/-
How a refused transition of a booking is answered.

Whether a move was refused for the role is read off the reason, and the reason prints the
keys of the states and the names of the fields. The fixed parts of the reasons tell the
kinds apart; a key or a name may say "role" as well.
-/
import EnvMgr.Lib.Infix
import EnvMgr.Lifecycle.Offered
import EnvMgr.Statuses.Deployments

namespace EnvMgr.Statuses

open Bookings (Booking)
open Lifecycle (Definition LifecycleTemplate RecordValues TransitionEntry find_transition
  validate_transition)

variable {reason : Option String} {bookings : List Booking}

/-! ## What a text says -/

/-- The text reads like a refusal for the role. -/
def Sounds (s : String) : Prop := role_blocked (some s) = true
  deriving Decidable

theorem sounds_iff {s : String} :
    Sounds s ↔ "not allowed".toList <:+: s.toList.map id ∨
      "role".toList <:+: s.toList.map Char.toLower := by
  simp only [Sounds, role_blocked, contains, Option.any_some, Bool.or_eq_true, decide_eq_true_eq,
    String.toList_ofList, List.map_id]

section

variable {word rest : List Char} {f : Char → Char} {c : Char}

/-- A word without a quote, in the reason for a move that is not defined. -/
theorem infix_undefined (hquote : '\'' ∉ word) (hf : f '\'' = '\'')
    (hfixed : ∀ fixed ∈ ["No transition from ", " to ", " is defined"],
      ¬ word <:+: fixed.toList.map f) (a b : String) :
    word <:+: (s!"No transition from '{a}' to '{b}' is defined").toList.map f ↔
      word <:+: a.toList.map f ∨ word <:+: b.toList.map f := by
  have htext : (s!"No transition from '{a}' to '{b}' is defined").toList =
      "No transition from ".toList ++ '\'' :: (a.toList ++ '\'' :: (" to ".toList ++
        '\'' :: (b.toList ++ '\'' :: " is defined".toList))) := by
    simp [String.toList_append, toString]
  simp only [List.forall_mem_cons] at hfixed
  obtain ⟨hfirst, hmiddle, hlast, -⟩ := hfixed
  simp only [htext, List.map_append, List.map_cons, hf, Infix.infix_across hquote, hfirst, hmiddle,
    hlast, false_or, or_false]

/-- And in the reason for fields that are empty. -/
theorem infix_missing (hword : word = c :: rest) (hblank : c ≠ ' ') (hquote : '\'' ∉ word)
    (hcolon : ':' ∉ word) (hcomma : ',' ∉ word)
    (hf : f '\'' = '\'' ∧ f ':' = ':' ∧ f ',' = ',' ∧ f ' ' = ' ')
    (hfixed : ¬ word <:+: "Required fields empty for ".toList.map f)
    (b : String) (missing : List String) :
    word <:+: (s!"Required fields empty for '{b}': " ++ ", ".intercalate missing).toList.map f ↔
      word <:+: b.toList.map f ∨ ∃ key ∈ missing, word <:+: key.toList.map f := by
  subst hword
  obtain ⟨hf, hf', hf'', hf'''⟩ := hf
  have htext : (s!"Required fields empty for '{b}': " ++ ", ".intercalate missing).toList =
      "Required fields empty for ".toList ++ '\'' :: (b.toList ++ '\'' :: ([] ++
        ':' :: ' ' :: [',', ' '].intercalate (missing.map String.toList))) := by
    simp [String.toList_append, toString]
  have hkeys : ([',', ' '].intercalate (missing.map String.toList)).map f =
      [',', ' '].intercalate (missing.map fun key => key.toList.map f) := by
    rw [Infix.map_intercalate, List.map_cons, List.map_cons, List.map_nil, hf'', hf''',
      List.map_map]
    rfl
  simp only [htext, List.map_append, List.map_cons, hf, hf', hf''', Infix.infix_across hquote,
    Infix.infix_across hcolon, Infix.infix_cons_of_head hblank, hfixed, hkeys,
    Infix.infix_intercalate hcomma hblank, List.mem_map, exists_exists_and_eq_and,
    List.map_nil, List.infix_nil, reduceCtorEq, false_or]

end

theorem sounds_undefined (a b : String) :
    Sounds s!"No transition from '{a}' to '{b}' is defined" ↔ Sounds a ∨ Sounds b := by
  rw [sounds_iff, sounds_iff, sounds_iff, infix_undefined (by decide) rfl (by decide),
    infix_undefined (by decide) (by decide) (by decide)]
  tauto

theorem sounds_missing (b : String) (missing : List String) :
    Sounds (s!"Required fields empty for '{b}': " ++ ", ".intercalate missing) ↔
      Sounds b ∨ ∃ key ∈ missing, Sounds key := by
  rw [sounds_iff, sounds_iff,
    infix_missing (show "not allowed".toList = 'n' :: "ot allowed".toList by decide) (by decide)
      (by decide) (by decide) (by decide) (by decide) (by decide),
    infix_missing (show "role".toList = 'r' :: "ole".toList by decide) (by decide)
      (by decide) (by decide) (by decide) (by decide) (by decide)]
  simp only [sounds_iff, and_or_left, exists_or]
  exact or_or_or_comm

theorem sounds_role (role a b : String) :
    Sounds s!"Role '{role}' is not allowed to transition {a} → {b}" := by
  have hfixed : "not allowed".toList <:+: "' is not allowed to transition ".toList := by decide
  rw [sounds_iff]
  left
  simp only [List.map_id, String.toList_append]
  exact (((hfixed.trans (List.suffix_append _ _).isInfix).trans
    (List.prefix_append _ _).isInfix).trans (List.prefix_append _ _).isInfix).trans
    (List.prefix_append _ _).isInfix

/-! ## What a refusal is about -/

/-- The move is defined, and the first transition that defines it does not name the role. -/
def NotForRole (definition : Definition) (from_state to_state role : String) : Prop :=
  ∃ t, definition.transitions.find? (fun t => t.Arc from_state to_state) = some t ∧
    role ∉ t.allowed_roles.getD []

/-- The required fields of the target that are empty. -/
def empty_fields (definition : Definition) (to_state : String) (values : RecordValues) :
    List String :=
  (definition.required_fields to_state).filter fun key => (values.get key).is_empty

/-- The reason prints a key or a name that reads like a refusal for the role: a state where
the move is not defined, the target or an empty field where fields are required. -/
def Misread (definition : Definition) (from_state to_state : String) (values : RecordValues) :
    Prop :=
  (definition.transitions.find? (fun t => t.Arc from_state to_state) = none ∧
      (Sounds from_state ∨ Sounds to_state)) ∨
    (definition.transitions.find? (fun t => t.Arc from_state to_state) ≠ none ∧
      empty_fields definition to_state values ≠ [] ∧
      (Sounds to_state ∨ ∃ key ∈ empty_fields definition to_state values, Sounds key))

section

variable {definition : Definition} {from_state to_state role : String} {values : RecordValues}

/-- The search finds the first transition between the two states. -/
theorem find_transition_eq {transitions : List TransitionEntry} {found : Option TransitionEntry}
    (h : find_transition from_state to_state transitions = .ok found) :
    transitions.find? (fun t => t.Arc from_state to_state) = found := by
  induction transitions with
  | nil =>
    cases h
    rfl
  | cons t transitions ih =>
    simp only [find_transition, bind_eq_ok, get_or_raise_eq_ok] at h
    obtain ⟨frm, hfrm, h⟩ := h
    by_cases hfrom : frm = from_state
    · simp only [if_pos hfrom, bind_eq_ok, get_or_raise_eq_ok] at h
      obtain ⟨dest, hdest, h⟩ := h
      by_cases hto : dest = to_state
      · rw [if_pos hto] at h
        cases h
        have harc : t.Arc from_state to_state := ⟨hfrom ▸ hfrm, hto ▸ hdest⟩
        exact List.find?_cons_of_pos (decide_eq_true harc)
      · rw [if_neg hto] at h
        have harc : ¬ t.Arc from_state to_state :=
          fun harc => hto (Option.some.inj (hdest.symm.trans harc.2))
        rw [List.find?_cons_of_neg (by simpa using harc), ih h]
    · rw [if_neg hfrom] at h
      have harc : ¬ t.Arc from_state to_state :=
        fun harc => hfrom (Option.some.inj (hfrm.symm.trans harc.1))
      rw [List.find?_cons_of_neg (by simpa using harc), ih h]

/-- **What the reason of a refusal says.** -/
theorem role_blocked_iff
    (h : validate_transition definition from_state to_state role values = .ok (false, reason)) :
    role_blocked reason = true ↔
      NotForRole definition from_state to_state role ∨
        Misread definition from_state to_state values := by
  simp only [validate_transition, bind_eq_ok] at h
  obtain ⟨found, hfound, h⟩ := h
  have hfind := find_transition_eq hfound
  unfold NotForRole Misread
  rw [hfind]
  cases found with
  | none =>
    cases h
    refine (sounds_undefined from_state to_state).trans ?_
    simp
  | some t =>
    simp only [bind_eq_ok, get_or_raise_eq_ok] at h
    obtain ⟨roles, hroles, h⟩ := h
    change (if role ∉ roles then _ else if empty_fields definition to_state values ≠ [] then _
      else _) = _ at h
    by_cases hrole : role ∈ roles
    · rw [if_neg (not_not.2 hrole)] at h
      by_cases hmissing : empty_fields definition to_state values = []
      · rw [if_neg (not_not.2 hmissing)] at h
        cases h
      · rw [if_pos hmissing] at h
        cases h
        refine (sounds_missing to_state (empty_fields definition to_state values)).trans ?_
        simp [hroles, hrole, hmissing]
    · rw [if_pos hrole] at h
      cases h
      refine iff_of_true (sounds_role role from_state to_state) (Or.inl ⟨t, rfl, ?_⟩)
      simpa [hroles] using hrole

end

/-! ## The answers -/

/-- The answer is a 403 exactly if the move is refused for the role, and otherwise a 400. -/
def AnsweredRight (answer : Except Raised Db) (for_role : Prop) : Prop :=
  ((∃ detail, answer = .error (.HTTPException 403 detail)) ↔ for_role) ∧
    (¬ for_role → ∃ detail, answer = .error (.HTTPException 400 detail))

/-- The verdict on the move of a booking, under the template. -/
def verdict_on (db : Db) (template : LifecycleTemplate) (to_state role : String)
    (booking : Booking) : Except Raised (Bool × Option String) := do
  let request ← request_of db booking
  validate_transition template.definition booking.status to_state role (_record_values request)

def MisreadOn (db : Db) (template : LifecycleTemplate) (to_state : String) (booking : Booking) :
    Prop :=
  ∃ request, request_of db booking = .ok request ∧
    Misread template.definition booking.status to_state (_record_values request)

section

variable {db : Db} {template : LifecycleTemplate} {booking : Booking} {to_state : String}
  {user : CurrentUser} {now : DateTime}

theorem answeredRight_iff {answer : Except Raised Db} {for_role misread blocked : Prop}
    (hblocked : blocked ↔ for_role ∨ misread)
    (hyes : blocked → ∃ text, answer = .error (http 403 text))
    (hno : ¬ blocked → ∃ text, answer = .error (http 400 text)) :
    AnsweredRight answer for_role ↔ for_role ∨ ¬ misread := by
  unfold AnsweredRight
  by_cases h : blocked
  · obtain ⟨text, rfl⟩ := hyes h
    have hor := hblocked.1 h
    have hforbidden : ∃ detail, (Except.error (http 403 text) : Except Raised Db) =
        .error (.HTTPException 403 detail) := ⟨_, rfl⟩
    have hbad : ¬ ∃ detail, (Except.error (http 403 text) : Except Raised Db) =
        .error (.HTTPException 400 detail) := by simp [http]
    constructor
    · rintro ⟨hiff, -⟩
      exact Or.inl (hiff.1 hforbidden)
    · intro hright
      have hrole : for_role := hright.elim id fun hmis => hor.resolve_right hmis
      exact ⟨iff_of_true hforbidden hrole, fun hnot => absurd hrole hnot⟩
  · obtain ⟨text, rfl⟩ := hno h
    have hneither := mt hblocked.2 h
    have hforbidden : ¬ ∃ detail, (Except.error (http 400 text) : Except Raised Db) =
        .error (.HTTPException 403 detail) := by simp [http]
    have hbad : ∃ detail, (Except.error (http 400 text) : Except Raised Db) =
        .error (.HTTPException 400 detail) := ⟨_, rfl⟩
    obtain ⟨hrole, hmis⟩ := not_or.1 hneither
    exact iff_of_true ⟨iff_of_false hforbidden hrole, fun _ => hbad⟩ (Or.inr hmis)

/-- The reason of a refusal, on the booking it is about. -/
theorem role_blocked_on_iff
    (h : verdict_on db template to_state user.role booking = .ok (false, reason)) :
    role_blocked reason = true ↔
      NotForRole template.definition booking.status to_state user.role ∨
        MisreadOn db template to_state booking := by
  simp only [verdict_on, bind_eq_ok] at h
  obtain ⟨request, hrequest, hverdict⟩ := h
  rw [role_blocked_iff hverdict]
  refine or_congr Iff.rfl ⟨fun hmis => ⟨request, hrequest, hmis⟩, ?_⟩
  rintro ⟨request', hrequest', hmis⟩
  obtain rfl := Except.ok.inj (hrequest.symm.trans hrequest')
  exact hmis

/-- Nothing of the kind is true of a booking that may move. -/
theorem neither_of_allowed
    (h : verdict_on db template to_state user.role booking = .ok (true, reason)) :
    ¬ (NotForRole template.definition booking.status to_state user.role ∨
      MisreadOn db template to_state booking) := by
  simp only [verdict_on, bind_eq_ok] at h
  obtain ⟨request, hrequest, h⟩ := h
  simp only [validate_transition, bind_eq_ok] at h
  obtain ⟨found, hfound, h⟩ := h
  have hfind := find_transition_eq hfound
  cases found with
  | none => cases h
  | some t =>
    simp only [bind_eq_ok, get_or_raise_eq_ok] at h
    obtain ⟨roles, hroles, h⟩ := h
    change (if user.role ∉ roles then _ else
      if empty_fields template.definition to_state (_record_values request) ≠ [] then _
      else _) = _ at h
    by_cases hrole : user.role ∈ roles
    · rw [if_neg (not_not.2 hrole)] at h
      by_cases hempty : empty_fields template.definition to_state (_record_values request) = []
      · rintro (⟨t', ht', hnot⟩ | ⟨request', hrequest', hmis⟩)
        · obtain rfl := Option.some.inj (hfind.symm.trans ht')
          rw [hroles] at hnot
          exact hnot hrole
        · obtain rfl := Except.ok.inj (hrequest.symm.trans hrequest')
          rcases hmis with ⟨hnone, -⟩ | ⟨-, hfields, -⟩
          · cases hfind.symm.trans hnone
          · exact hfields hempty
      · rw [if_pos hempty] at h
        cases h
    · rw [if_pos hrole] at h
      cases h

/-- **How the refusal of one booking is answered.** -/
theorem answered_state_iff {booking_id : ℕ}
    (hbooking : Bookings.get_booking db.bookings booking_id user.active_tenant_id = .ok booking)
    (htemplate : _template_for_booking db booking = .ok template)
    (hrefused : verdict_on db template to_state user.role booking = .ok (false, reason)) :
    AnsweredRight (transition_state db booking_id to_state user now)
        (NotForRole template.definition booking.status to_state user.role) ↔
      NotForRole template.definition booking.status to_state user.role ∨
        ¬ MisreadOn db template to_state booking := by
  have hparts := hrefused
  simp only [verdict_on, bind_eq_ok] at hparts
  obtain ⟨request, hrequest, hverdict⟩ := hparts
  refine answeredRight_iff (role_blocked_on_iff hrefused) (fun hblocked => ?_) fun hblocked => ?_
  · refine ⟨"Your role cannot make this transition", ?_⟩
    simp [transition_state, hbooking, htemplate, hrequest, hverdict, bind, Except.bind, raise_if,
      hblocked]
  · refine ⟨reason.getD s!"Invalid transition: {booking.status} -> {to_state}", ?_⟩
    simp [transition_state, hbooking, htemplate, hrequest, hverdict, bind, Except.bind, raise_if,
      hblocked]

/-- A member is checked by the same verdict. -/
theorem check_member_ok {allowed : Bool}
    (h : verdict_on db template to_state user.role booking = .ok (allowed, reason)) :
    ∃ text, check_member db template to_state user booking =
      .ok (if allowed then none else some (text, role_blocked reason)) := by
  simp only [verdict_on, bind_eq_ok] at h
  obtain ⟨request, hrequest, hverdict⟩ := h
  exact ⟨_, by simp only [check_member, hrequest, hverdict, bind, Except.bind]; rfl⟩

/-- A failure is a member that is refused. -/
theorem exists_failure_iff {checked : List (Option (String × Bool))}
    (hverdicts : ∀ b ∈ bookings, ∃ verdict,
      verdict_on db template to_state user.role b = .ok verdict)
    (hmem : ∀ o, o ∈ checked ↔ ∃ b ∈ bookings, check_member db template to_state user b = .ok o)
    (blocked : Bool) :
    (∃ failure ∈ checked.filterMap id, failure.2 = blocked) ↔
      ∃ b ∈ bookings, ∃ reason, verdict_on db template to_state user.role b = .ok (false, reason) ∧
        role_blocked reason = blocked := by
  constructor
  · rintro ⟨failure, hfailure, rfl⟩
    obtain ⟨o, ho, rfl⟩ := List.mem_filterMap.1 hfailure
    obtain ⟨b, hb, hmember⟩ := (hmem _).1 ho
    obtain ⟨⟨allowed, reason⟩, hverdict⟩ := hverdicts b hb
    obtain ⟨text, hmember'⟩ := check_member_ok hverdict
    rw [hmember, Except.ok.injEq] at hmember'
    cases allowed with
    | true => cases hmember'
    | false => exact ⟨b, hb, reason, hverdict, by cases hmember'; rfl⟩
  · rintro ⟨b, hb, reason, hverdict, rfl⟩
    obtain ⟨text, hmember⟩ := check_member_ok hverdict
    exact ⟨(text, role_blocked reason),
      List.mem_filterMap.2 ⟨_, (hmem _).2 ⟨b, hb, hmember⟩, rfl⟩, rfl⟩

/-- A member is refused with a reason that reads like one of a role: it is for the role, or is
misread. -/
theorem exists_blocked_iff (hverdicts : ∀ b ∈ bookings, ∃ verdict,
      verdict_on db template to_state user.role b = .ok verdict) :
    (∃ b ∈ bookings, ∃ reason,
      verdict_on db template to_state user.role b = .ok (false, reason) ∧
        role_blocked reason = true) ↔
      (∃ b ∈ bookings, NotForRole template.definition b.status to_state user.role) ∨
        ∃ b ∈ bookings, MisreadOn db template to_state b := by
  have hone : ∀ b ∈ bookings, (∃ reason,
      verdict_on db template to_state user.role b = .ok (false, reason) ∧
        role_blocked reason = true) ↔
      NotForRole template.definition b.status to_state user.role ∨
        MisreadOn db template to_state b := by
    intro b hb
    constructor
    · rintro ⟨reason, hverdict, hblocked⟩
      exact (role_blocked_on_iff hverdict).1 hblocked
    · intro heither
      obtain ⟨⟨allowed, reason⟩, hverdict⟩ := hverdicts b hb
      cases allowed with
      | true => exact absurd heither (neither_of_allowed hverdict)
      | false => exact ⟨reason, hverdict, (role_blocked_on_iff hverdict).2 heither⟩
  constructor
  · rintro ⟨b, hb, hblocked⟩
    exact ((hone b hb).1 hblocked).imp (fun h => ⟨b, hb, h⟩) fun h => ⟨b, hb, h⟩
  · rintro (⟨b, hb, h⟩ | ⟨b, hb, h⟩)
    · exact ⟨b, hb, (hone b hb).2 (Or.inl h)⟩
    · exact ⟨b, hb, (hone b hb).2 (Or.inr h)⟩

/-- **How the refusal of a group is answered.** -/
theorem answered_group_iff {request_id group_id : ℕ} {first : Booking}
    (hbookings : _group_bookings db request_id group_id user.active_tenant_id = .ok bookings)
    (hfirst : bookings.head? = some first)
    (htemplate : _template_for_booking db first = .ok template)
    (hverdicts : ∀ b ∈ bookings, ∃ verdict,
      verdict_on db template to_state user.role b = .ok verdict)
    (hrefused : ∃ b ∈ bookings, ∃ reason,
      verdict_on db template to_state user.role b = .ok (false, reason)) :
    AnsweredRight (transition_group db request_id group_id to_state user now)
        (∃ b ∈ bookings, NotForRole template.definition b.status to_state user.role) ↔
      (∃ b ∈ bookings, NotForRole template.definition b.status to_state user.role) ∨
        ¬ ∃ b ∈ bookings, MisreadOn db template to_state b := by
  obtain ⟨checked, hchecked, hmem⟩ := exists_mapM (f := check_member db template to_state user)
    fun b hb =>
      let ⟨(_, _), hverdict⟩ := hverdicts b hb
      let ⟨_, hmember⟩ := check_member_ok hverdict
      ⟨_, hmember⟩
  have hfailure := exists_failure_iff hverdicts hmem
  have hblocked := (hfailure true).trans (exists_blocked_iff hverdicts)
  have hfailures : checked.filterMap id ≠ [] := by
    obtain ⟨b, hb, reason, hverdict⟩ := hrefused
    obtain ⟨failure, hfailure, -⟩ := (hfailure (role_blocked reason)).2
      ⟨b, hb, reason, hverdict, rfl⟩
    exact List.ne_nil_of_mem hfailure
  refine answeredRight_iff hblocked (fun hblocked => ?_) fun hblocked => ?_
  · simp only [transition_group, hbookings, hfirst, htemplate, hchecked, bind, Except.bind,
      get_or_raise, raise_if]
    rw [if_pos hblocked]
    exact ⟨_, rfl⟩
  · simp only [transition_group, hbookings, hfirst, htemplate, hchecked, bind, Except.bind,
      get_or_raise, raise_if]
    rw [if_neg hblocked, if_pos hfailures]
    exact ⟨_, rfl⟩

end

/-- **When the answer tells why.** A refusal, of one booking or of a group, is answered with
a 403 for the role and with a 400 otherwise, if and only if it is for the role or prints no
key and no name that reads like that. -/
theorem refusals_told_apart_iff (db : Db) (user : CurrentUser) (to_state : String)
    (now : DateTime) :
    (∀ (booking_id : ℕ) (booking : Booking) (template : LifecycleTemplate)
        (reason : Option String),
      Bookings.get_booking db.bookings booking_id user.active_tenant_id = .ok booking →
      _template_for_booking db booking = .ok template →
      verdict_on db template to_state user.role booking = .ok (false, reason) →
        (AnsweredRight (transition_state db booking_id to_state user now)
            (NotForRole template.definition booking.status to_state user.role) ↔
          NotForRole template.definition booking.status to_state user.role ∨
            ¬ MisreadOn db template to_state booking)) ∧
    ∀ (request_id group_id : ℕ) (bookings : List Booking) (first : Booking)
        (template : LifecycleTemplate),
      _group_bookings db request_id group_id user.active_tenant_id = .ok bookings →
      bookings.head? = some first → _template_for_booking db first = .ok template →
      (∀ b ∈ bookings, ∃ verdict, verdict_on db template to_state user.role b = .ok verdict) →
      (∃ b ∈ bookings, ∃ reason,
        verdict_on db template to_state user.role b = .ok (false, reason)) →
        (AnsweredRight (transition_group db request_id group_id to_state user now)
            (∃ b ∈ bookings, NotForRole template.definition b.status to_state user.role) ↔
          (∃ b ∈ bookings, NotForRole template.definition b.status to_state user.role) ∨
            ¬ ∃ b ∈ bookings, MisreadOn db template to_state b) :=
  ⟨fun _ _ _ _ hbooking htemplate hrefused => answered_state_iff hbooking htemplate hrefused,
    fun _ _ _ _ _ hbookings hfirst htemplate hverdicts hrefused =>
      answered_group_iff hbookings hfirst htemplate hverdicts hrefused⟩

namespace Refusals

def fields : List (String × List String) :=
  [("project_name", [Role.ADMIN]), ("start_date", [Role.ADMIN]), ("end_date", [Role.ADMIN]),
    ("booking_type", [Role.ADMIN])]

theorem fields_nodup : (fields.map Prod.fst).Nodup := by simp [fields]

/-- From draft to closed, and a state that no transition leads to. -/
def definition : Lifecycle.LifecycleDefinition where
  states :=
    [⟨"draft", "Draft", true, false, false, false, false, false, false, false⟩,
      ⟨"role_review", "Review of roles", false, false, false, false, false, false, false, false⟩,
      ⟨"closed", "Closed", false, true, false, false, false, false, false, false⟩]
  transitions := [⟨"draft", "closed", "Close", [Role.ADMIN]⟩]
  field_permissions :=
    { items :=
        [("draft",
          { standard_fields := ⟨fields, fields_nodup⟩
            custom_fields := none })]
      keys_nodup := by simp }
  action_permissions := none
  one_initial := rfl

def booked : Bookings.Event :=
  .create_booking Bookings.Sample.admin (Bookings.Sample.booking 1 1 0 50 false none) 0

theorem is_write_booked : is_write booked = true := rfl

/-- An administrator makes the lifecycle and a booking type over it, and books an
environment. -/
def requests : List Request :=
  [.templates (.create_lifecycle_template Bookings.Sample.admin
      ⟨"Reviews", none, true, "booking", none, definition⟩),
    .create_booking_type Bookings.Sample.admin ⟨1, .soft⟩,
    .bookings ⟨booked, is_write_booked⟩]

def db : Db :=
  Runs.run (step Bookings.Sample.ext)
    (Db.seeded Table.empty Table.empty Bookings.Sample.environments Bookings.Sample.reference
      ⟨[], [], [], [], []⟩)
    requests

/-- What is read of the booking: its status, the verdict on a move, and whether a transition
makes that move. -/
def read (to_state : String) : Except Raised (String × (Bool × Option String) × Bool) := do
  let booking ← Bookings.get_booking db.bookings 1 1
  let template ← _template_for_booking db booking
  let verdict ← verdict_on db template to_state Role.ADMIN booking
  let found := template.definition.transitions.find? fun t => t.Arc booking.status to_state
  .ok (booking.status, verdict, found.isSome)

theorem read_review : read "role_review" =
    .ok ("draft",
      (false, some "No transition from 'draft' to 'role_review' is defined"), false) := by
  decide +kernel

theorem read_draft : read "draft" =
    .ok ("draft", (false, some "No transition from 'draft' to 'draft' is defined"), false) := by
  decide +kernel

/-- A move that is refused because nothing defines it. -/
theorem of_read {to_state : String} (h : read to_state = .ok ("draft", (false, reason), false)) :
    ∃ booking template, Bookings.get_booking db.bookings 1 1 = .ok booking ∧
      _template_for_booking db booking = .ok template ∧
      verdict_on db template to_state Role.ADMIN booking = .ok (false, reason) ∧
      booking.status = "draft" ∧
      template.definition.transitions.find? (fun t => t.Arc booking.status to_state) = none := by
  simp only [read, bind_eq_ok, Except.ok.injEq, Prod.mk.injEq, Option.isSome_eq_false_iff,
    Option.isNone_iff_eq_none] at h
  obtain ⟨booking, hbooking, template, htemplate, verdict, hverdict, hstatus, rfl, hfind⟩ := h
  exact ⟨booking, template, hbooking, htemplate, hverdict, hstatus, hfind⟩

end Refusals

/-- Nobody may review, for no transition is defined, and an administrator is told that the
role cannot. -/
theorem review_is_told_apart_wrongly :
    ¬ ∀ (db : Db) (user : CurrentUser) (to_state : String) (now : DateTime) (booking_id : ℕ)
        (booking : Booking) (template : LifecycleTemplate) (reason : Option String),
      Bookings.get_booking db.bookings booking_id user.active_tenant_id = .ok booking →
      _template_for_booking db booking = .ok template →
      verdict_on db template to_state user.role booking = .ok (false, reason) →
        AnsweredRight (transition_state db booking_id to_state user now)
          (NotForRole template.definition booking.status to_state user.role) := by
  intro h
  obtain ⟨booking, template, hbooking, htemplate, hverdict, -, hfind⟩ :=
    Refusals.of_read Refusals.read_review
  have hnot : ¬ NotForRole template.definition booking.status "role_review" Role.ADMIN := by
    rintro ⟨t, ht, -⟩
    cases hfind.symm.trans ht
  obtain ⟨request, hrequest, -⟩ := bind_eq_ok.1 hverdict
  have hmisread : MisreadOn Refusals.db template "role_review" booking :=
    ⟨request, hrequest, Or.inl ⟨hfind, Or.inr (by decide)⟩⟩
  have hright := h Refusals.db Bookings.Sample.admin "role_review" 0 1 booking template _ hbooking
    htemplate hverdict
  exact ((answered_state_iff hbooking htemplate hverdict).1 hright).elim hnot (· hmisread)

/-- To stay in draft is not defined either, and that is what the answer says. -/
theorem refusals_told_apart_draft :
    ∃ booking template, AnsweredRight
      (transition_state Refusals.db 1 "draft" Bookings.Sample.admin 0)
      (NotForRole (LifecycleTemplate.definition template) (Booking.status booking) "draft"
        Role.ADMIN) := by
  obtain ⟨booking, template, hbooking, htemplate, hverdict, hstatus, hfind⟩ :=
    Refusals.of_read Refusals.read_draft
  refine ⟨booking, template, ((refusals_told_apart_iff Refusals.db Bookings.Sample.admin "draft"
    0).1 1 booking template _ hbooking htemplate hverdict).2 (Or.inr ?_)⟩
  rintro ⟨request, -, ⟨-, hsounds⟩ | ⟨hdefined, -⟩⟩
  · rw [hstatus] at hsounds
    exact absurd hsounds (by decide)
  · exact hdefined hfind

end EnvMgr.Statuses

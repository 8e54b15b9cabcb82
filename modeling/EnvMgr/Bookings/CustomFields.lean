/-
`custom_field_service.py`: the check of a booking's custom fields against the
tenant's definitions.
-/
import EnvMgr.Bookings.Model

namespace EnvMgr.Bookings

/-! ## `float(s)` -/

/-- What is left after the digits and the single underscores between them. -/
def digits_tail : List Char → List Char
  | [] => []
  | '_' :: c :: cs => if c.isDigit then digits_tail cs else '_' :: c :: cs
  | c :: cs => if c.isDigit then digits_tail cs else c :: cs

/-- `digitpart: digit (["_"] digit)*`, and what follows it. -/
def digitpart : List Char → Option (List Char)
  | [] => none
  | c :: cs => if c.isDigit then some (digits_tail cs) else none

def unsigned : List Char → List Char
  | '+' :: cs => cs
  | '-' :: cs => cs
  | cs => cs

/-- `[exponent]`, to the end of the text. -/
def is_exponent_or_end : List Char → Bool
  | [] => true
  | 'e' :: cs => digitpart (unsigned cs) = some []
  | _ => false

/-- `number [exponent]`, with `number: [digitpart] "." digitpart | digitpart ["."]`. -/
def is_floatnumber (cs : List Char) : Bool :=
  match digitpart cs, cs with
  | some ('.' :: rest), _ => is_exponent_or_end ((digitpart rest).getD rest)
  | some rest, _ => is_exponent_or_end rest
  | none, '.' :: rest => (digitpart rest).elim false is_exponent_or_end
  | none, _ => false

/-- `float(s)` does not raise. -/
def float_parses (s : String) : Bool :=
  let cs := unsigned ((strip s).toList.map Char.toLower)
  String.ofList cs ∈ ["inf", "infinity", "nan"] || is_floatnumber cs

example : float_parses " -1_0.5e+3 " = true := by decide

/-! ## The check -/

def list_definitions (db : Db) (tenant_id : ℕ) (entity_type : String) :
    List CustomFieldDefinition :=
  order_by (fun d => toLex (d.display_order, d.id))
    (db.reference.custom_fields.filter fun d =>
      d.tenant_id = tenant_id ∧ d.entity_type = entity_type ∧ d.deleted_at = none)

/-- The field was left out, or holds nothing. -/
def is_blank : Option Json → Bool
  | none => true
  | some .null => true
  | some (.text s) => strip s = ""
  | some _ => false

/-- `float(val)` raises neither a `TypeError` nor a `ValueError`. -/
def is_number : Json → Bool
  | .bool _ => true
  | .number => true
  | .text s => float_parses s
  | _ => false

def is_boolean : Json → Bool
  | .bool _ => true
  | _ => false

def assert_field_type (defn : CustomFieldDefinition) : Option Json → Except Raised Unit
  | none => .ok ()
  | some .null => .ok ()
  | some val => do
    raise_if (defn.field_type = "number" ∧ is_number val = false)
      (http 422 s!"Custom field '{defn.label}' ({defn.field_key}) must be a number")
    raise_if (defn.field_type = "boolean" ∧ is_boolean val = false)
      (http 422 s!"Custom field '{defn.label}' ({defn.field_key}) must be a boolean")

/-- Required fields are only enforced among the visible ones, where the state
says which those are. -/
def validate_custom_fields (db : Db) (tenant_id : ℕ) (entity_type : String)
    (values : Option (Dict Json)) (visible_field_keys : Option (List String)) :
    Except Raised Unit := do
  let definitions := list_definitions db tenant_id entity_type
  let values := values.getD Dict.empty
  for_each definitions fun defn =>
    raise_if
      (defn.required = true ∧ (∀ keys ∈ visible_field_keys, defn.field_key ∈ keys) ∧
        is_blank (values.get defn.field_key) = true)
      (http 422 s!"Required custom field '{defn.label}' ({defn.field_key}) is missing")
  for_each definitions fun defn => assert_field_type defn (values.get defn.field_key)

end EnvMgr.Bookings

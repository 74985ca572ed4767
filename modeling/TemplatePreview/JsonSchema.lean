import Mathlib.Data.Rat.Defs

/-! JSON values and the part of JSON Schema that says which fields an object has and
of which types they are. A schema is the test it makes of a value. -/
namespace TemplatePreview

/-- A parsed JSON value. The keys of an object are distinct. -/
inductive Json where
  | null
  | bool (value : Bool)
  | number (value : ℚ)
  | string (text : String)
  | array (items : List Json)
  | object (entries : List (String × Json))
  deriving Repr

namespace Json

/-- The value of a field, if it is an object that has the field. -/
def get? (key : String) : Json → Option Json
  | .object entries => entries.lookup key
  | _ => none

/-- What counts as true in a condition. -/
def truthy : Json → Bool
  | .null => false
  | .bool value => value
  | .number value => value ≠ 0
  | .string text => text ≠ ""
  | .array items => !items.isEmpty
  | .object entries => !entries.isEmpty

end Json

namespace JsonSchema

abbrev Schema : Type := Json → Bool

inductive JsonType where
  | object
  | null
  | string
  | integer
  deriving DecidableEq, Repr

/-- A number without a fractional part is an integer. -/
def JsonType.admits : JsonType → Schema
  | .object, .object _ => true
  | .null, .null => true
  | .string, .string _ => true
  | .integer, .number value => value.isInt
  | _, _ => false

/-- `type`. -/
def ofType (types : List JsonType) : Schema := fun value => types.any fun type => type.admits value

/-- `properties`: nothing is asked of fields that are missing. -/
def properties (fields : List (String × Schema)) : Schema := fun value =>
  fields.all fun field =>
    match value.get? field.1 with
    | none => true
    | some item => field.2 item

/-- `required`, of objects. -/
def required (keys : List String) : Schema
  | .object entries => keys.all fun key => (entries.lookup key).isSome
  | _ => true

/-- `additionalProperties` that is false, with the properties there are. -/
def onlyProperties (keys : List String) : Schema
  | .object entries => entries.all fun entry => entry.1 ∈ keys
  | _ => true

/-- `oneOf`: exactly one of the schemas accepts. -/
def oneOf (schemas : List Schema) : Schema := fun value => (schemas.countP fun schema => schema value) == 1

/-- The keywords of one schema. -/
def allOf (schemas : List Schema) : Schema := fun value => schemas.all fun schema => schema value

variable {value item : Json} {key : String}

theorem object_of_type (accepted : ofType [.object] value = true) : ∃ entries, value = .object entries := by
  cases value with
  | object entries => exact ⟨entries, rfl⟩
  | _ => cases accepted

theorem accepts_of_allOf {schemas : List Schema} {schema : Schema} (accepted : allOf schemas value = true)
    (member : schema ∈ schemas) : schema value = true :=
  List.all_eq_true.mp accepted schema member

theorem property_accepted {fields : List (String × Schema)} {schema : Schema}
    (accepted : properties fields value = true) (member : (key, schema) ∈ fields)
    (found : value.get? key = some item) : schema item = true := by
  have field := List.all_eq_true.mp accepted (key, schema) member
  simpa [found] using field

theorem required_present {keys : List String} {entries : List (String × Json)}
    (accepted : required keys (.object entries) = true) (member : key ∈ keys) :
    ∃ item, (Json.object entries).get? key = some item :=
  Option.isSome_iff_exists.mp (List.all_eq_true.mp accepted key member)

/-- An object with these fields, where null is also allowed. -/
theorem object_or_null {schema : Schema} (accepted : oneOf [schema, ofType [.null]] value = true) :
    schema value = true ∨ value = .null := by
  cases passes : schema value with
  | true => exact .inl rfl
  | false =>
    refine .inr ?_
    cases value with
    | null => rfl
    | _ => simp [oneOf, passes, ofType, JsonType.admits] at accepted

end JsonSchema

end TemplatePreview

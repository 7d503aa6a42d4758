import Delego.Shared.Json

set_option autoImplicit false

namespace Shared

/-- What a schema says of a string; the format of a name is the validator's. -/
inductive TextRule where
  | any
  | format (name : String)
  | digits
  | enum (values : List String)

-- Objects have no properties besides those that their schema names.
inductive Schema where
  | string (rule : TextRule)
  | array (items : Schema)
  | object (properties : List (String × Schema)) (required : List String)

def TextRule.accepts (format : String → String → Bool) (text : String) : TextRule → Bool
  | .any => true
  | .format name => format name text
  | .digits => text ≠ "" && text.toList.all Char.isDigit
  | .enum values => text ∈ values

mutual

def Schema.accepts (format : String → String → Bool) : Schema → Json → Bool
  | .string rule, .string text => rule.accepts format text
  | .array items, .array values => values.all fun value => items.accepts format value
  | .object properties required, .object fields =>
    (required.all fun name => (fields.lookup name).isSome) &&
      (fields.all fun (name, _) => (properties.map Prod.fst).contains name) &&
      acceptsMembers format properties fields
  | _, _ => false

def acceptsMembers (format : String → String → Bool) :
    List (String × Schema) → List (String × Json) → Bool
  | [], _ => true
  | (name, schema) :: properties, fields =>
    (match fields.lookup name with
      | some value => schema.accepts format value
      | none => true) &&
      acceptsMembers format properties fields

end

end Shared

import Delego.Shared.Number

set_option autoImplicit false

namespace Shared

inductive Json where
  | null
  | bool (value : Bool)
  | number (value : Number)
  | string (value : String)
  | array (items : List Json)
  | object (fields : List (String × Json))

namespace Json

/-- Reading a property: `null` has none, and other values have what they were given. -/
def property (value : Json) (name : String) : Except String (Option Json) :=
  match value with
  | .null => .error ("Cannot read properties of null (reading '" ++ name ++ "')")
  | .object fields => .ok (fields.lookup name)
  | _ => .ok none

def truthy : Json → Bool
  | .null => false
  | .bool value => value
  | .number .nan => false
  | .number (.finite value) => value ≠ 0
  | .number (.infinite _) => true
  | .string value => value ≠ ""
  | .array _ | .object _ => true

end Json

end Shared

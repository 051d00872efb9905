/-!
JSON texts as trees. Members keep their order and repeat where the text repeats them; what no
domain value is read from is kept only as far as it decides whether a text is accepted.
-/
namespace Signage

/-- A JSON value. -/
inductive Json where
  | null
  | boolean (b : Bool)
  /-- A number written as a whole number, and not as minus zero. -/
  | integer (n : Int)
  /-- A number written in any other way. -/
  | decimal
  | string (s : String)
  /-- A string whose escapes spell no text, such as half of a surrogate pair. -/
  | brokenString
  | array (items : List Json)
  /-- The members in order; a name that spells no text is `none`. -/
  | object (members : List (Option String × Json))
  deriving Inhabited

namespace Json

def record (fields : List (String × Json)) : Json :=
  .object (fields.map fun (name, value) => (some name, value))

def strings (items : List String) : Json := .array (items.map .string)

end Json
end Signage

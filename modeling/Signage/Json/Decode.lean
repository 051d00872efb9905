import Signage.Json.Basic
import Signage.Number.Width

/-!
Reading domain values off JSON trees. A record may be written as an object, whose members may
stand in any order and beside unknown ones, or as an array of its fields in declaration order.
-/
namespace Signage.Json

def toBool? : Json → Option Bool
  | boolean b => some b
  | _ => none

def toString? : Json → Option String
  | string s => some s
  | _ => none

def toInt? : Json → Option Int
  | integer n => some n
  | _ => none

/-- The whole number as a word of the wanted width. -/
def toWord? {α : Type} (fits : Int → Option α) (json : Json) : Option α := json.toInt?.bind fits

/-- The items, each read by the same rule. -/
def toList? {α : Type} (decode : Json → Option α) : Json → Option (List α)
  | array items => items.mapM decode
  | _ => none

/-- A value that is known by its name alone: the name, or an object that maps it to null. -/
def toNamed? {α : Type} (ofName? : String → Option α) : Json → Option α
  | string s => ofName? s
  | object [(some s, null)] => ofName? s
  | _ => none

/-- No member is named twice among the declared names. -/
def namesOnce (names : List String) (members : List (Option String × Json)) : Bool :=
  names.all fun name => (members.filter fun m => m.1 == some name).length ≤ 1

/-- The written fields of a record, in declaration order; one that is left out is `none`. -/
def fields? (names : List String) : Json → Option (List (Option Json))
  | object members =>
    if members.all (fun m => m.1.isSome) && namesOnce names members then
      some (names.map fun name => members.lookup (some name))
    else none
  | array items =>
    if items.length ≤ names.length then
      some (items.map some ++ List.replicate (names.length - items.length) none)
    else none
  | _ => none

/-- A field that has to be written. -/
def required {α : Type} (decode : Json → Option α) (field : Option Json) : Option α :=
  field.bind decode

/-- A field with a value for when it is left out. -/
def defaulted {α : Type} (value : α) (decode : Json → Option α) : Option Json → Option α
  | some json => decode json
  | none => some value

/-- A field that may be left out or null. -/
def nullable {α : Type} (decode : Json → Option α) : Option Json → Option (Option α)
  | none => some none
  | some null => some none
  | some json => (decode json).map some

end Signage.Json

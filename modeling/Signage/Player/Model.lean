import Signage.Json.Decode

/-! Families of player devices. -/
namespace Signage

/-- The family a device belongs to. -/
inductive Model where
  | unknown
  | garlic
  | xmp1x0
  | xmp2x00
  | xmp3x0
  | ids
  | qbic
  | screenlite
  | compatible
  deriving DecidableEq, Repr

namespace Model

def all : List Model :=
  [unknown, garlic, xmp1x0, xmp2x00, xmp3x0, ids, qbic, screenlite, compatible]

/-- The name a family is stored and exchanged by. -/
def name : Model → String
  | unknown => "unknown"
  | garlic => "garlic"
  | xmp1x0 => "iadea_xmp1x0"
  | xmp2x00 => "iadea_xmp2x00"
  | xmp3x0 => "iadea_xmp3x0"
  | ids => "ids"
  | qbic => "qbic"
  | screenlite => "screenlite"
  | compatible => "compatible"

def ofName? (text : String) : Option Model := all.find? fun model => model.name == text

/-- What is said of a name that no family has. -/
def unknownName (text : String) : String := s!"Unknown player model: {text}"

/-- Whether devices of the family honour scheduled standby periods. -/
def supportsStandby : Model → Bool
  | garlic | xmp2x00 | xmp3x0 => true
  | _ => false

/-- Every family is found by its name. -/
theorem ofName?_name (model : Model) : ofName? model.name = some model := by
  cases model <;> decide

def toJson (model : Model) : Json := .string model.name

def ofJson? : Json → Option Model := Json.toNamed? ofName?

/-- What is written for a model is read back. -/
theorem ofJson?_toJson (model : Model) : ofJson? model.toJson = some model := ofName?_name model

end Model
end Signage

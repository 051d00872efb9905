import Signage.Identity.ModelToken
import Signage.Text.PercentCoding
import Signage.Text.DecimalDigit
import Signage.Text.Scan

/-!
What devices tell about themselves as their user agent. There are three forms:
`GAPI/1.0 (UUID:u; NAME:n) platform/firmware (MODEL:m)`, the same with `ADAPI/` and any version,
and the latter without a name.
-/
namespace Signage.Identity

/-- What a device tells about itself. -/
structure Device where
  uuid : String
  name : String
  platform : String
  firmware : String
  modelToken : String
  model : Model
  deriving DecidableEq

namespace Device

def unidentified : Device := ⟨"", "", "", "", "", .unknown⟩

/-- Whether the device belongs to a supported family and can be told from others. -/
def isKnown (device : Device) : Bool := device.model != .unknown && device.uuid != ""

end Device

/-- The fields of a user agent, as written. -/
structure Fields where
  uuid : List Char
  /-- There is none in the form that knows no names. -/
  name : Option (List Char)
  platform : List Char
  firmware : List Char
  model : List Char

/-- The longest beginning of which all characters belong to a class, and the text after it; it
may not be empty. -/
def readSome? (belongs : Char → Bool) (s : List Char) : Option (List Char × List Char) :=
  let found := s.takeWhile belongs
  if found.isEmpty then none else some (found, s.dropWhile belongs)

def readUuid? (s : List Char) : Option (List Char × List Char) := do
  readSome? (fun c => c != ';' && c != ')') (← Text.dropLiteral? "(UUID:".toList s)

/-- The name and the text after it; a name may be empty. -/
def readName? (s : List Char) : Option (List Char × List Char) := do
  let rest ← Text.dropLiteral? "; NAME:".toList s
  return (rest.takeWhile (· != ')'), rest.dropWhile (· != ')'))

/-- The platform, firmware and model at the end of all forms. -/
def readDevice? (s : List Char) : Option (List Char × List Char × List Char) := do
  let rest ← Text.dropLiteral? ") ".toList s
  let (platform, rest) ← readSome? (fun c => c != '/' && !Text.isBlank c) rest
  let rest ← Text.dropLiteral? ['/'] rest
  let (firmware, rest) ← readSome? (fun c => !Text.isBlank c) rest
  let rest ← Text.dropLiteral? " (MODEL:".toList rest
  let (model, rest) ← readSome? (· != ')') rest
  let _ ← Text.dropLiteral? [')'] rest
  return (platform, firmware, model)

/-- The fields of a form that begins as given. -/
def readNamed? (afterVersion : List Char → Option (List Char)) (s : List Char) :
    Option Fields := do
  let (uuid, rest) ← readUuid? (← afterVersion s)
  let (name, rest) ← readName? rest
  let (platform, firmware, model) ← readDevice? rest
  return ⟨uuid, some name, platform, firmware, model⟩

/-- The text after the version of the first form. -/
def afterGapi? (s : List Char) : Option (List Char) := Text.dropLiteral? "GAPI/1.0 ".toList s

/-- The text after the version of the other forms, which consists of digits and points. -/
def afterAdapi? (s : List Char) : Option (List Char) := do
  let rest ← Text.dropLiteral? "ADAPI/".toList s
  let (_, rest) ← readSome? (fun c => Text.isDecimalDigit c || c == '.') rest
  Text.dropLiteral? [' '] rest

/-- The fields of the form without a name. -/
def readNameless? (s : List Char) : Option Fields := do
  let (uuid, rest) ← readUuid? (← afterAdapi? s)
  let (platform, firmware, model) ← readDevice? rest
  return ⟨uuid, none, platform, firmware, model⟩

/-- The fields of a user agent in any of the forms. -/
def readFields? (s : List Char) : Option Fields :=
  (readNamed? afterGapi? s).or ((readNamed? afterAdapi? s).or (readNameless? s))

def fieldText (s : List Char) : String := .ofList (Text.trim s)

/-- The name of a device; one that has none is named by its uuid. -/
def nameOf (fields : Fields) : String :=
  match fields.name with
  | some name =>
    if fieldText name = "" then fieldText fields.uuid else Text.percentDecode (fieldText name)
  | none => fieldText fields.uuid

/-- What is known of a device from the fields of its user agent. -/
def ofFields (fields : Fields) : Device where
  uuid := fieldText fields.uuid
  name := nameOf fields
  platform := fieldText fields.platform
  firmware := fieldText fields.firmware
  modelToken := fieldText fields.model
  model := modelOfToken (Text.trim fields.model)

/-- What is known of a device from its user agent. -/
def ofUserAgent (userAgent : String) : Device :=
  match readFields? (Text.trim userAgent.toList) with
  | some fields => ofFields fields
  | none => .unidentified

end Signage.Identity

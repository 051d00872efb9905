import Signage.Json.Decode

/-! The weekly schedule of a screen, as it is entered. -/
namespace Signage

/-- A span in which the screen is on, between two clock times. -/
structure ScreenPeriod where
  begins : String
  ends : String
  deriving DecidableEq

namespace ScreenPeriod

/-- The fields of a period, in the order of the array form. -/
def fieldNames : List String := ["start", "end"]

def toJson (period : ScreenPeriod) : Json :=
  .record (fieldNames.zip [.string period.begins, .string period.ends])

def ofJson? (json : Json) : Option ScreenPeriod := do
  let [begins, ends] ← json.fields? fieldNames | none
  return {
    begins := ← Json.required Json.toString? begins
    ends := ← Json.required Json.toString? ends }

end ScreenPeriod

/-- The spans of one weekday; the week runs from Monday, day 1, to Sunday, day 7. -/
structure ScreenDay where
  day : UInt8
  periods : List ScreenPeriod
  deriving DecidableEq

namespace ScreenDay

/-- The fields of a day, in the order of the array form. -/
def fieldNames : List String := ["day", "periods"]

def toJson (entry : ScreenDay) : Json :=
  .record (fieldNames.zip
    [.integer entry.day.toNat, .array (entry.periods.map ScreenPeriod.toJson)])

def ofJson? (json : Json) : Option ScreenDay := do
  let [day, periods] ← json.fields? fieldNames | none
  return {
    day := ← Json.required (Json.toWord? Number.uint8?) day
    periods := ← Json.defaulted [] (Json.toList? ScreenPeriod.ofJson?) periods }

end ScreenDay
end Signage

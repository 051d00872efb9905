import Signage.Json.Decode
import Signage.Text.Numeral

/-! The lifecycle status of a player, stored as a code. -/
namespace Signage

/-- What is to be served to a player. -/
inductive Status where
  /-- Seen, and claimed by nobody yet. -/
  | unregistered
  /-- Claimed, and not released for playout. -/
  | unreleased
  | released
  /-- Served an index that makes the device upload its logs. -/
  | debugFtp
  | testSmilOk
  | testSmilError
  | testNoContent
  | testNoPrefetch
  /-- Every request fails. -/
  | testException
  /-- A code without a meaning. -/
  | unknown (code : Int64)
  deriving DecidableEq, Repr

namespace Status

/-- The statuses that have a code of their own. -/
def named : List Status :=
  [unregistered, unreleased, released, debugFtp, testSmilOk, testSmilError, testNoContent,
    testNoPrefetch, testException]

def code : Status → Int64
  | unregistered => 0
  | unreleased => 1
  | released => 2
  | debugFtp => 3
  | testSmilOk => 10
  | testSmilError => 11
  | testNoContent => 12
  | testNoPrefetch => 13
  | testException => 14
  | unknown code => code

def ofCode (code : Int64) : Status := (named.find? fun s => s.code == code).getD (unknown code)

/-- The name of a status, with the code where there is no name. -/
def label : Status → String
  | unregistered => "unregistered"
  | unreleased => "unreleased"
  | released => "released"
  | debugFtp => "debug_ftp"
  | testSmilOk => "test_smil_ok"
  | testSmilError => "test_smil_error"
  | testNoContent => "test_no_content"
  | testNoPrefetch => "test_no_prefetch"
  | testException => "test_exception"
  | unknown code => "unknown(" ++ .ofList (Text.integerNumeral code.toInt) ++ ")"

def ofName? (text : String) : Option Status := named.find? fun s => s.label == text

/-- A status that has a name is found by it. -/
theorem ofName?_label (s : Status) (h : s ∈ named) : ofName? s.label = some s := by
  simp only [named, List.mem_cons, List.not_mem_nil, or_false] at h
  rcases h with rfl | rfl | rfl | rfl | rfl | rfl | rfl | rfl | rfl <;> decide

def toJson : Status → Json
  | unknown code => .record [("unknown", .integer code.toInt)]
  | s => .string s.label

def ofJson? : Json → Option Status
  | .object [(some "unknown", value)] => (value.toWord? Number.int64?).map unknown
  | json => json.toNamed? ofName?

/-- What is written for a status is read back, also if its code is unknown. -/
theorem ofJson?_toJson (s : Status) : ofJson? s.toJson = some s := by
  cases s with
  | unknown code => simp [toJson, ofJson?, Json.record, Json.toWord?, Json.toInt?, Number.int64?_toInt]
  | _ => decide

end Status
end Signage

import Signage.Player.Model
import Signage.Text.Numeral

/-! Templates, one for each family of devices, and the choice between them. -/
namespace Signage.Template

/-- The templates of index documents. -/
inductive Family where
  | garlic
  | xmp
  | xmpLegacy
  | ids
  | qbic
  | generic
  deriving DecidableEq, Repr

namespace Family

def all : List Family := [garlic, xmp, xmpLegacy, ids, qbic, generic]

def name : Family → String
  | garlic => "garlic"
  | xmp => "xmp"
  | xmpLegacy => "xmp_legacy"
  | ids => "ids"
  | qbic => "qbic"
  | generic => "generic"

def ofName? (text : String) : Option Family := all.find? fun family => family.name == text

/-- Whether the template has places for exclusive and prefetch markup. -/
def supportsPrefetch : Family → Bool
  | xmpLegacy | generic => false
  | _ => true

/-- Every template is found by its name. -/
theorem ofName?_name (family : Family) : ofName? family.name = some family := by
  cases family <;> decide

end Family

/-- The maximal runs of digits in a text, in order; `run` is the run before the text. -/
def digitRunsFrom (run : List Char) : List Char → List (List Char)
  | [] => if run.isEmpty then [] else [run]
  | c :: rest =>
    if c.isDigit then digitRunsFrom (run ++ [c]) rest
    else if run.isEmpty then digitRunsFrom [] rest
    else run :: digitRunsFrom [] rest

/-- The maximal runs of ASCII digits in a text, in order. -/
def digitRuns (s : List Char) : List (List Char) := digitRunsFrom [] s

/-- The greatest number that counts as a build. -/
def greatestBuild : Nat := UInt32.size - 1

/-- The build of a firmware: its last number, unless that is out of bounds. -/
def build? (firmware : List Char) : Option Nat :=
  (digitRuns firmware).getLast?.bind fun run => (Text.readNumeral greatestBuild run).toOption

/-- The first build of Garlic players that understands the full template. -/
def firstFullBuild : Nat := 740

/-- The template for a device. -/
def select (model : Model) (firmware : List Char) : Family :=
  match model with
  | .garlic =>
    match build? firmware with
    | some build => if firstFullBuild ≤ build then .garlic else .generic
    | none => .generic
  | .xmp2x00 | .xmp3x0 => .xmp
  | .xmp1x0 => .xmpLegacy
  | .ids => .ids
  | .qbic => .qbic
  | .unknown | .screenlite | .compatible => .generic

end Signage.Template

import Signage.Json.Decode

/-! How a playlist is composed. -/
namespace Signage

/-- The kind of a playlist; only multizone ones are composed from several zones. -/
inductive Mode where
  | master
  | internal
  | external
  | multizone
  | channel
  deriving DecidableEq, Repr

namespace Mode

def all : List Mode := [master, internal, external, multizone, channel]

/-- The name a mode is stored and exchanged by. -/
def name : Mode → String
  | master => "master"
  | internal => "internal"
  | external => "external"
  | multizone => "multizone"
  | channel => "channel"

def ofName? (text : String) : Option Mode := all.find? fun mode => mode.name == text

/-- The mode with the given name in any letter case. Lower-casing ASCII letters is enough: no
other letter has its lower case among the letters of these names. -/
def ofNameAnyCase? (text : String) : Option Mode := ofName? (text.map Char.toLower)

/-- What is said of a name that no mode has. -/
def unknownName (text : String) : String := s!"Unknown playlist mode: {text}"

/-- Every mode is found by its name. -/
theorem ofName?_name (mode : Mode) : ofName? mode.name = some mode := by
  cases mode <;> decide

def toJson (mode : Mode) : Json := .string mode.name

def ofJson? : Json → Option Mode := Json.toNamed? ofName?

/-- What is written for a mode is read back. -/
theorem ofJson?_toJson (mode : Mode) : ofJson? mode.toJson = some mode := ofName?_name mode

end Mode
end Signage

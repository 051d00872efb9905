/-! The three-letter names of weekdays and months, as headers of messages carry them. -/
namespace Signage.Calendar

/-- The weekdays from Sunday on. -/
def weekdayNames : List (List Char) :=
  [['S', 'u', 'n'], ['M', 'o', 'n'], ['T', 'u', 'e'], ['W', 'e', 'd'], ['T', 'h', 'u'],
    ['F', 'r', 'i'], ['S', 'a', 't']]

/-- The months from January on. -/
def monthNames : List (List Char) :=
  [['J', 'a', 'n'], ['F', 'e', 'b'], ['M', 'a', 'r'], ['A', 'p', 'r'], ['M', 'a', 'y'],
    ['J', 'u', 'n'], ['J', 'u', 'l'], ['A', 'u', 'g'], ['S', 'e', 'p'], ['O', 'c', 't'],
    ['N', 'o', 'v'], ['D', 'e', 'c']]

def nameAt (names : List (List Char)) (index : Nat) : List Char := names[index]?.getD []

/-- Whether two texts agree up to the case of ASCII letters. -/
def sameName (a b : List Char) : Bool := a.map Char.toLower == b.map Char.toLower

/-- The place of the name that the text begins with, in any letter case, and the text after. -/
def readName? (names : List (List Char)) (s : List Char) : Option (Nat × List Char) :=
  (names.findIdx? fun name => sameName name (s.take 3)).map fun index => (index, s.drop 3)

end Signage.Calendar

import Signage.Text.Scan

/-!
The target of a request. It is a path, or an address that names a scheme and a host before the path;
a query or a fragment may follow. Which scheme and which host does not matter.
-/
namespace Signage.Service

/-- The text up to a query or a fragment. -/
def withoutQuery (s : List Char) : List Char := s.takeWhile fun c => c != '?' && c != '#'

/-- Whether a character may stand in a scheme. -/
def isSchemeCharacter (c : Char) : Bool := c.isAlphanum || c == '+' || c == '-' || c == '.'

/-- The text after the scheme, if the text begins with one. -/
def afterScheme? (s : List Char) : Option (List Char) :=
  Text.dropLiteral? [':', '/', '/'] (s.dropWhile isSchemeCharacter)

/-- The path in what follows the scheme of an address: a host has to be named, and no path is the
path of the root. -/
def pathOfAddress? (s : List Char) : Option (List Char) :=
  let (host, rest) := s.span fun c => c != '/' && c != '?' && c != '#'
  if host.isEmpty then none
  else
    match withoutQuery rest with
    | [] => some ['/']
    | path => some path

def targetPath? (target : List Char) : Option (List Char) :=
  match target with
  | '/' :: _ => some (withoutQuery target)
  | _ => (afterScheme? target).bind pathOfAddress?

end Signage.Service

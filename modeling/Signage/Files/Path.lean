import Signage.Text.Split

/-! Paths: how they are written, joined and taken apart. -/
namespace Signage.Files

/-- A name of a file or directory. -/
abbrev Name := List Char

/-- The name that stands for the directory above. -/
def parentName : Name := ['.', '.']

/-- The path of something that lies below a path; an absolute path is taken as it is. -/
def join (base below : List Char) : List Char :=
  match below with
  | '/' :: _ => below
  | _ =>
    match base.getLast? with
    | none => below
    | some '/' => base ++ below
    | some _ => base ++ '/' :: below

/-- Whether a part of a written path is a step on the way. -/
def isStep (part : Name) : Bool := part != [] && part != ['.']

/-- A path, by the parts between its slashes. -/
structure Path where
  parts : List Name
  deriving DecidableEq

namespace Path

def ofText (s : List Char) : Path := ⟨Text.splitAt '/' s⟩

def text (path : Path) : List Char := ['/'].intercalate path.parts

/-- A path is written as it was read. -/
theorem text_ofText (s : List Char) : (ofText s).text = s := Text.intercalate_splitAt '/' s

def size (path : Path) : Nat := (String.ofList path.text).utf8ByteSize

/-- Whether nothing is written. -/
def isEmpty (path : Path) : Bool := path.parts.all List.isEmpty && path.parts.length ≤ 1

/-- Whether the way starts at the root, and not at the working directory. -/
def isAbsolute (path : Path) : Bool :=
  match path.parts with
  | [] :: _ :: _ => true
  | _ => false

/-- The names on the way; nothing stands for the place itself. -/
def names (path : Path) : List Name := path.parts.filter isStep

/-- Whether only a directory can be meant, for the path ends in a slash or a dot. -/
def wantsDirectory (path : Path) : Bool :=
  !path.isEmpty && path.parts.getLast?.any fun part => !isStep part || part == parentName

def upToLastStep (parts : List Name) : List Name :=
  (parts.reverse.dropWhile fun part => !isStep part).reverse

/-- The directory in which the path leads to its last name. -/
def parent? (path : Path) : Option Path :=
  if path.names = [] then none
  else
    match upToLastStep (upToLastStep path.parts).dropLast with
    | [] => some (.ofText (if path.isAbsolute then ['/'] else []))
    | parts => some ⟨parts⟩

def child (path : Path) (name : Name) : Path :=
  match path.parts.getLast? with
  | some [] => ⟨path.parts.dropLast ++ [name]⟩
  | _ => ⟨path.parts ++ [name]⟩

/-- The path as it is seen from the root, by way of a place at which relative paths start. -/
def startingAt (place : List Name) (path : Path) : Path :=
  if path.isAbsolute then path else ⟨[] :: place ++ path.parts⟩

/-- The first so many directories above a path, the path itself being the first of them. -/
def ascent : Nat → Path → List Path
  | 0, _ => []
  | count + 1, path =>
    path ::
      match path.parent? with
      | some above => ascent count above
      | none => []

/-- The path and all paths above it that have names of their own. -/
def ancestors (path : Path) : List Path := ascent path.names.length path

end Path
end Signage.Files

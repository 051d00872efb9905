import Signage.Error
import Signage.Section.Row
import Signage.Template.Tag

/-!
Rendering of templates. The segments of a template are found in its source alone, so that texts
put in are never looked at again, and whether a template renders does not depend on the data.
-/
namespace Signage.Template

open Section (Row Table)

/-- A part of the body of a block. -/
inductive BodyPart where
  | text (s : List Char)
  | key (name : String)

/-- A part of a template. -/
inductive Segment where
  | text (s : List Char)
  | block (name : String) (body : List BodyPart)
  | lookup (table key : String)

/-- The parts of the body of a block. -/
def bodyParts (body : List Char) : List BodyPart :=
  (Text.pieces keyRule body).map fun
    | .character c => .text [c]
    | .token name _ => .key (.ofList name)

/-- What is said of a block whose two names differ. -/
def mismatched (name closing : List Char) : Error :=
  .render (.ofList ("Block ".toList ++ opening ++ '#' :: name ++ Template.closing ++
    " closed by ".toList ++ opening ++ '/' :: closing ++ Template.closing))

/-- The segment a piece of a template stands for. -/
def segmentOf : Text.Piece Tag → Except Error Segment
  | .character c => .ok (.text [c])
  | .token (.block name closing body) _ =>
    if name = closing then .ok (.block (.ofList name) (bodyParts body))
    else .error (mismatched name closing)
  | .token (.lookup table key) _ => .ok (.lookup (.ofList table) (.ofList key))

/-- The segments of a template; the first block whose names differ makes all of it fail. -/
def segments (source : List Char) : Except Error (List Segment) :=
  (Text.pieces tagRule source).mapM segmentOf

/-- The rows of a section, none if there is no such section. -/
def rowsOf (table : Table) (name : String) : List Row := (table.lookup name).getD []

/-- The text of a key, nothing if there is no such key. -/
def textOf (row : Row) (key : String) : List Char := (row.lookup key).getD []

def BodyPart.fill (row : Row) : BodyPart → List Char
  | text s => s
  | key name => textOf row name

/-- A segment, filled from the data. -/
def Segment.fill (table : Table) : Segment → List Char
  | text s => s
  | block name body => (rowsOf table name).flatMap fun row => body.flatMap (BodyPart.fill row)
  | lookup name key => textOf ((rowsOf table name).head?.getD []) key

/-- The document that a template makes of the data. -/
def renderSource (source : List Char) (table : Table) : Except Error (List Char) :=
  (segments source).map fun parts => parts.flatMap (Segment.fill table)

end Signage.Template

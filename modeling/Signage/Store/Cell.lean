import Signage.Text.Encoding

/-! Values as they lie in a column of the store. -/
namespace Signage.Store

/-- The classes of stored values. -/
inductive StorageClass where
  | null
  | integer
  | real
  | text
  | blob
  deriving DecidableEq, Repr

def StorageClass.name : StorageClass → String
  | null => "Null"
  | integer => "Integer"
  | real => "Real"
  | text => "Text"
  | blob => "Blob"

/-- A stored value. No column is read as a real number or as bytes, so these keep their class
alone. -/
inductive Cell where
  | null
  | integer (n : Int64)
  | real
  | text (s : String)
  /-- A text whose bytes spell none. -/
  | garbled (bytes : Text.Garbled)
  | blob
  deriving DecidableEq

def Cell.storageClass : Cell → StorageClass
  | null => .null
  | integer _ => .integer
  | real => .real
  | text _ => .text
  | garbled _ => .text
  | blob => .blob

def Cell.integer? : Cell → Option Int64
  | integer n => some n
  | _ => none

end Signage.Store

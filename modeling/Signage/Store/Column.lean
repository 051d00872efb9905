import Signage.Error
import Signage.Number.Width
import Signage.Store.Tables

/-! Reading columns as what they are to hold. -/
namespace Signage.Store

/-- A column of an answer: its place, its name, and what it holds. -/
structure Column where
  index : Nat
  label : String
  cell : Cell

namespace Column

/-- The fault of holding a value of the wrong class. -/
def wrongClass (column : Column) : StorageFault :=
  .columnType column.cell.storageClass column.index column.label

def text (column : Column) : Except StorageFault String :=
  match column.cell with
  | .text s => .ok s
  | .garbled bytes => .error (.undecodable bytes.flaw column.index)
  | _ => .error column.wrongClass

def integer (column : Column) : Except StorageFault Int64 :=
  match column.cell with
  | .integer n => .ok n
  | _ => .error column.wrongClass

/-- The integer in the column, which has to fit 32 bits. -/
def word (column : Column) : Except StorageFault UInt32 := do
  let n ← column.integer
  match Number.uint32? n.toInt with
  | some w => .ok w
  | none => .error (.outOfRange n column.index)

/-- What a column that may be empty holds. -/
def optional {α : Type} (read : Column → Except StorageFault α) (column : Column) :
    Except StorageFault (Option α) :=
  match column.cell with
  | .null => .ok none
  | _ => (read column).map some

end Column

/-- The failure of the hub that a fault of the store amounts to. -/
def failed {α : Type} : Except StorageFault α → Except Error α
  | .ok a => .ok a
  | .error fault => .error (.database fault)

end Signage.Store

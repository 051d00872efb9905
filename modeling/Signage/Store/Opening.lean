import Signage.Store.Locator
import Signage.Store.Snapshot

/-! Opening the store that a text names. -/
namespace Signage.Store

open Files (FileSystem Location Name Path)

/-- The greatest number of bytes in the path of a store, seen from the root. -/
def longestStorePath : Nat := 504

/-- The greatest number of bytes in a path on the way to that of a store. -/
def longestStoreWay : Nat := 511

def pathOfPlace (place : Location) : Path := ⟨[] :: place⟩

/-- The place that names lead to from a place. A name is given up by the name of the directory above
whether or not anything has that name, but no file leads further. -/
def settle? (fs : FileSystem) : Location → List Name → Option Location
  | place, [] => some place
  | place, name :: names =>
    if name = Files.parentName then settle? fs place.dropLast names
    else
      let next := place ++ [name]
      if longestStoreWay < (pathOfPlace next).size then none
      else
        match fs.find (pathOfPlace next) with
        | .ok _ | .error .notFound => settle? fs next names
        | .error _ => none

/-- The path from the root of a store that lies at a path. -/
def storePath? (fs : FileSystem) (path : Path) : Option Path := do
  let place ← settle? fs (if path.isAbsolute then [] else fs.workingDirectory) path.names
  if place = [] ∨ longestStorePath < (pathOfPlace place).size then none
  else some (pathOfPlace place)

/-- A store that is kept in no file holds nothing at first, and has to be written to. -/
def openTransient? (isWritable : Bool) : Option Tables := if isWritable then some .empty else none

/-- The greatest number of bytes in the name of a file that becomes a store; notes about changes are
kept in another file beside it, with a longer name. -/
def longestStoreName : Nat := FileSystem.longestName - 8

/-- Whether a file can become a store. -/
def canBegin (path : Path) : Bool :=
  path.names.getLast?.any fun name => (String.ofList name).utf8ByteSize ≤ longestStoreName

/-- The tables at a path. An empty file, and one that is made, has to be written to. -/
def openFile? (fs : FileSystem) (mode : OpenMode) (isFixed : Bool) (path : Path) :
    Option Tables := do
  let path ← storePath? fs path
  match fs.read path with
  | .ok file =>
    if file.bytes.isEmpty then
      if mode != .readOnly && !isFixed && canBegin path then some .empty else none
    else Tables.ofBytes? file.bytes
  | .error .notFound =>
    if mode = .create && !isFixed && canBegin path then
      (fs.write path ⟨.empty, .ofSeconds 0⟩).toOption.map fun _ => .empty
    else none
  | .error _ => none

/-- Whether the file after which a new store is modelled is there, if one is named. -/
def hasModel (fs : FileSystem) (address : Address) : Bool :=
  match address.value? "modeof" with
  | none => true
  | some path =>
    match String.fromUTF8? ⟨path.toArray⟩ with
    | some path => (fs.find (.ofText path.toList)).isOk
    | none => false

/-- Whether the path names no file. -/
def isTransient (path : Bytes) : Bool := path == [] || path == bytesOfText ":memory:"

/-- The tables of a store with an address. A path that is no text leads to no file yet. -/
def openAddress? (fs : FileSystem) (address : Address) : Option Tables := do
  let opening ← address.opening?
  if opening.mode = .memory || isTransient address.path then
    openTransient? (opening.mode != .readOnly)
  else if opening.keeper = .memory then
    openTransient? (opening.mode != .readOnly && !address.isFixed)
  else if !hasModel fs address then none
  else
    match String.fromUTF8? ⟨address.path.toArray⟩ with
    | some path => openFile? fs opening.mode address.isFixed (.ofText path.toList)
    | none => if opening.mode = .create && !address.isFixed then some .empty else none

/-- The tables of the store that a text names; where there is no file yet, nothing is stored. -/
def openTables? (fs : FileSystem) (text : String) : Option Tables :=
  if text.toList.contains '\x00' then none
  else (locate? text.toList).bind (openAddress? fs)

end Signage.Store

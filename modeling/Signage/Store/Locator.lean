import Signage.Text.PercentCoding
import Signage.Text.Scan
import Signage.Text.Split

/-!
How the place of a store is written: as the path of a file, or as an address after `file:`, which
may say how the file is opened. Parts of an address are compared by their bytes, since an escape can
stand for any byte.
-/
namespace Signage.Store

/-- A part of an address after its escapes are replaced. -/
abbrev Bytes := List UInt8

def bytesOfText (s : String) : Bytes := s.toUTF8.toList

/-- How a store is opened. -/
inductive OpenMode where
  | readOnly
  | readWrite
  /-- To read and write; a missing file is made. -/
  | create
  | memory
  deriving DecidableEq, Repr

namespace OpenMode

def all : List OpenMode := [readOnly, readWrite, create, memory]

def name : OpenMode → String
  | readOnly => "ro"
  | readWrite => "rw"
  | create => "rwc"
  | memory => "memory"

/-- How much a mode asks for. -/
def demand : OpenMode → Nat
  | memory => 0
  | readOnly => 1
  | readWrite => 2
  | create => 6

/-- How much may be asked for after a mode; after `memory` that is everything. -/
def allowance : OpenMode → Nat
  | memory => 128
  | mode => mode.demand

def ofName? (name : Bytes) : Option OpenMode := all.find? fun mode => bytesOfText mode.name == name

end OpenMode

/-- An address of a store: the path of a file, and settings by name. -/
structure Address where
  path : Bytes
  settings : List (Bytes × Bytes)

/-- How an address begins. -/
def addressMark : List Char := ['f', 'i', 'l', 'e', ':']

/-- The bytes that a part of an address stands for. An escaped zero byte ends the part. -/
def decodePart (s : List Char) : Bytes :=
  (Text.decodeBytes (bytesOfText (.ofList s))).takeWhile (· != 0)

/-- The address without the name of a host, which can only be that of this one. -/
def withoutHost? (s : List Char) : Option (List Char) :=
  match s with
  | '/' :: '/' :: rest =>
    let (host, path) := rest.span (· != '/')
    if host = [] ∨ String.ofList host = "localhost" then some path else none
  | path => some path

/-- A setting of an address; without a value its value is empty. -/
def readSetting (s : List Char) : Bytes × Bytes :=
  let (name, value) := Text.cutAt '=' s
  (decodePart name, decodePart (value.getD []))

/-- The address in what follows the mark. Settings without a name do not count. -/
def readAddress? (s : List Char) : Option Address :=
  (withoutHost? s).map fun s =>
    let (path, query) := Text.cutAt '?' (Text.cutAt '#' s).1
    { path := decodePart path
      settings := ((query.toList.flatMap (Text.splitAt '&')).map readSetting).filter
        fun setting => !setting.1.isEmpty }

/-- What keeps the files of a store. -/
inductive Keeper where
  | disk
  | memory
  deriving DecidableEq, Repr

/-- The names of what keeps files. -/
def keepers : List (String × Keeper) :=
  [("unix", .disk), ("unix-none", .disk), ("unix-dotfile", .disk), ("unix-excl", .disk),
    ("memdb", .memory)]

def keeper? (name : Bytes) : Option Keeper :=
  (keepers.find? fun entry => bytesOfText entry.1 == name).map (·.2)

/-- How a store is opened by its address. -/
structure Opening where
  mode : OpenMode
  keeper : Keeper

/-- The names of ways to share what is read. -/
def cacheNames : List String := ["shared", "private"]

/-- The mode after one more setting. A setting may not ask for more than the one before allows. -/
def applyMode? (mode : OpenMode) (setting : Bytes × Bytes) : Option OpenMode :=
  if setting.1 = bytesOfText "mode" then
    (OpenMode.ofName? setting.2).filter fun next => next.demand ≤ mode.allowance
  else if setting.1 = bytesOfText "cache" then
    if cacheNames.any fun name => bytesOfText name == setting.2 then some mode else none
  else some mode

/-- How the address says that the store is opened; the last keeper that is named counts. -/
def Address.opening? (address : Address) : Option Opening := do
  let mode ← address.settings.foldlM applyMode? .create
  let named := (address.settings.filter fun setting => setting.1 == bytesOfText "vfs").getLast?
  let keeper ← named.elim (some .disk) fun setting => keeper? setting.2
  return ⟨mode, keeper⟩

/-- The value of a setting. -/
def Address.value? (address : Address) (name : String) : Option Bytes :=
  address.settings.lookup (bytesOfText name)

/-- The byte as a lower-case letter, if it is an upper-case one. -/
def lowerByte (b : UInt8) : UInt8 := if 0x41 ≤ b ∧ b ≤ 0x5A then b + 0x20 else b

def isDigitByte (b : UInt8) : Bool := 0x30 ≤ b && b ≤ 0x39

/-- The number at the front of a value; one that is out of bounds is zero. -/
def leadingNumber (value : Bytes) : Nat :=
  let n := (value.takeWhile isDigitByte).foldl (fun n b => n * 10 + (b - 0x30).toNat) 0
  if n ≤ Int32.maxValue.toNatClampNeg then n else 0

/-- Whether a value switches something on. Of a number only the last eight bits count. -/
def isOn (value : Bytes) : Bool :=
  if value.head?.any isDigitByte then leadingNumber value % 256 != 0
  else ["on", "yes", "true"].any fun word => bytesOfText word == value.map lowerByte

/-- Whether the address says that the file never changes. -/
def Address.isFixed (address : Address) : Bool := (address.value? "immutable").any isOn

/-- The address that a text writes; a text without the mark is the path itself. -/
def locate? (text : List Char) : Option Address :=
  match Text.dropLiteral? addressMark text with
  | some rest => readAddress? rest
  | none => some ⟨bytesOfText (.ofList text), []⟩

end Signage.Store

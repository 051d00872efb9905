import Signage.Calendar.HttpDate
import Signage.Files.Path

/-! Trees of files and directories. -/
namespace Signage.Files

/-- A place in the tree: the names on the way to it from the root. -/
abbrev Location := List Name

/-- A regular file. -/
structure File where
  bytes : ByteArray
  modified : Calendar.Moment
  deriving BEq

/-- What is found at a place. -/
inductive Node where
  | directory
  | file (file : File)
  deriving BEq

/-- Why an operation on files fails. -/
inductive Fault where
  | notFound
  | alreadyExists
  | notDirectory
  | isDirectory
  | nameTooLong
  | badName
  /-- The bytes of a file spell no text. -/
  | notText
  /-- The device fails. -/
  | device
  deriving DecidableEq, Repr

def Fault.message : Fault → String
  | notFound => "No such file or directory (os error 2)"
  | alreadyExists => "File exists (os error 17)"
  | notDirectory => "Not a directory (os error 20)"
  | isDirectory => "Is a directory (os error 21)"
  | nameTooLong => "File name too long (os error 36)"
  | badName => "file name contained an unexpected NUL byte"
  | notText => "stream did not contain valid UTF-8"
  | device => "Input/output error (os error 5)"

/-- What is told of a directory that is opened. -/
structure Attributes where
  /-- When something in it came, went or was exchanged last. -/
  modified : Calendar.Moment
  length : Nat

/-- What is told of a file or directory that has been opened. -/
structure Opened where
  /-- What can be read from it; from a directory nothing can be. -/
  bytes : ByteArray
  length : Nat
  modified : Calendar.Moment
  deriving BEq

def File.opened (file : File) : Opened := ⟨file.bytes, file.bytes.size, file.modified⟩

def Attributes.opened (attributes : Attributes) : Opened :=
  ⟨.empty, attributes.length, attributes.modified⟩

/-- A tree of files, and the directory at which relative paths start. -/
structure FileSystem where
  /-- Everything but the root. -/
  nodes : List (Location × Node)
  workingDirectory : Location
  /-- What is told of the directories, wherever there is one. -/
  attributes : Location → Attributes
  /-- The length that the device gives a directory when something in it has changed, by its length
  before and the names that are in it then. -/
  resize : Nat → List Name → Nat

namespace FileSystem

/-- The length of a directory that takes one block of the device. -/
def blockLength : Nat := 4096

/-- A tree on a device that gives one block to every directory. -/
def holding (nodes : List (Location × Node)) : FileSystem where
  nodes := nodes
  workingDirectory := []
  attributes := fun _ => ⟨.ofSeconds 0, blockLength⟩
  resize := fun _ _ => blockLength

def empty : FileSystem := holding []

/-- What lies at a place. -/
def node? (fs : FileSystem) (place : Location) : Option Node :=
  if place = [] then some .directory else fs.nodes.lookup place

/-- The tree with the place taken by the node. -/
def put (fs : FileSystem) (place : Location) (node : Node) : FileSystem :=
  { fs with nodes := (place, node) :: fs.nodes.filter fun entry => entry.1 != place }

def erase (fs : FileSystem) (place : Location) : FileSystem :=
  { fs with nodes := fs.nodes.filter fun entry => entry.1 != place }

/-- The names of what lies in a directory. -/
def entries (fs : FileSystem) (place : Location) : List Name :=
  fs.nodes.filterMap fun entry => if entry.1.dropLast = place then entry.1.getLast? else none

/-- The tree with other attributes of a directory. -/
def describe (fs : FileSystem) (place : Location) (attributes : Attributes) : FileSystem :=
  { fs with attributes := fun other => if other = place then attributes else fs.attributes other }

/-- The tree in which something in a directory has just changed. -/
def stamp (fs : FileSystem) (place : Location) (now : Calendar.Moment) : FileSystem :=
  fs.describe place ⟨now, fs.resize (fs.attributes place).length (fs.entries place)⟩

/-- The tree with the place taken by a node that has come there just now. -/
def add (fs : FileSystem) (place : Location) (node : Node) (now : Calendar.Moment) : FileSystem :=
  (fs.put place node).stamp place.dropLast now

/-- The tree with a directory that has been made just now. -/
def addDirectory (fs : FileSystem) (place : Location) (now : Calendar.Moment) : FileSystem :=
  (fs.add place .directory now).describe place ⟨now, fs.resize 0 []⟩

/-- The tree with a file that is written at the moment it carries. Another file at the place gets the
new bytes; where there is none, something comes to the directory. -/
def written (fs : FileSystem) (place : Location) (file : File) : FileSystem :=
  match fs.node? place with
  | some _ => fs.put place (.file file)
  | none => fs.add place (.file file) file.modified

/-- The tree in which what lay at the place has been taken away just now. -/
def drop (fs : FileSystem) (place : Location) (now : Calendar.Moment) : FileSystem :=
  (fs.erase place).stamp place.dropLast now

private theorem lookup_cons_eq (nodes : List (Location × Node)) (key other : Location)
    (node : Node) :
    ((key, node) :: nodes).lookup other = if other = key then some node else nodes.lookup other := by
  by_cases h : other = key
  · simp [h]
  · have : (other == key) = false := by simpa using h
    simp [List.lookup_cons, h, this]

private theorem lookup_filter_ne (nodes : List (Location × Node)) (place other : Location) :
    (nodes.filter fun entry => entry.1 != place).lookup other =
      if other = place then none else nodes.lookup other := by
  induction nodes with
  | nil => simp
  | cons entry nodes ih =>
    obtain ⟨key, node⟩ := entry
    rw [List.filter_cons]
    by_cases hk : key = place
    · subst hk
      simp only [bne_self_eq_false, Bool.false_eq_true, if_false, ih, lookup_cons_eq]
      by_cases ho : other = key <;> simp [ho]
    · simp only [bne_iff_ne, ne_eq, hk, not_false_eq_true, if_true, lookup_cons_eq, ih]
      by_cases ho : other = key
      · simp [ho, hk]
      · simp [ho]

/-- After a node is put somewhere, it is found there, and all else is found as before. -/
theorem node?_put (fs : FileSystem) {place : Location} (other : Location) (node : Node)
    (h : place ≠ []) :
    (fs.put place node).node? other = if other = place then some node else fs.node? other := by
  unfold node? put
  rw [lookup_cons_eq, lookup_filter_ne]
  by_cases ho : other = place
  · simp [ho, h]
  · simp [ho]

/-- After a place is emptied nothing is found there, and all else is found as before. -/
theorem node?_erase (fs : FileSystem) {place : Location} (other : Location) (h : place ≠ []) :
    (fs.erase place).node? other = if other = place then none else fs.node? other := by
  unfold node? erase
  rw [lookup_filter_ne]
  by_cases ho : other = place
  · simp [ho, h]
  · simp [ho]

/-- A file has to be a directory to lead further. -/
def requireDirectory (fs : FileSystem) (place : Location) : Except Fault Unit :=
  match fs.node? place with
  | some .directory => .ok ()
  | some (.file _) => .error .notDirectory
  | none => .error .notFound

/-- The greatest number of bytes in a name. -/
def longestName : Nat := 255

/-- The greatest number of bytes in a path. -/
def longestPath : Nat := 4095

/-- The place that the names lead to from a place. Whatever is passed on the way has to be a
directory; the place itself may be empty. -/
def walk (fs : FileSystem) : Location → List Name → Except Fault Location
  | place, [] => .ok place
  | place, name :: names => do
    fs.requireDirectory place
    if longestName < (String.ofList name).utf8ByteSize then throw .nameTooLong
    fs.walk (if name = parentName then place.dropLast else place ++ [name]) names

/-- The place that a path leads to. -/
def locate (fs : FileSystem) (path : Path) : Except Fault Location :=
  if path.names.any fun name => name.contains '\x00' then .error .badName
  else if longestPath < path.size then .error .nameTooLong
  else if path.isEmpty then .error .notFound
  else fs.walk (if path.isAbsolute then [] else fs.workingDirectory) path.names

/-- What a path leads to. -/
def find (fs : FileSystem) (path : Path) : Except Fault Node := do
  let place ← fs.locate path
  match fs.node? place with
  | none => .error .notFound
  | some .directory => .ok .directory
  | some (.file file) => if path.wantsDirectory then .error .notDirectory else .ok (.file file)

def isFile (fs : FileSystem) (path : Path) : Bool :=
  match fs.find path with
  | .ok (.file _) => true
  | _ => false

def isDirectory (fs : FileSystem) (path : Path) : Bool :=
  match fs.find path with
  | .ok .directory => true
  | _ => false

/-- The file that the path leads to. -/
def read (fs : FileSystem) (path : Path) : Except Fault File := do
  match ← fs.find path with
  | .directory => .error .isDirectory
  | .file file => .ok file

/-- What is told when the path is opened, be it a file or a directory. -/
def view (fs : FileSystem) (path : Path) : Except Fault Opened := do
  match ← fs.find path with
  | .directory => return (fs.attributes (← fs.locate path)).opened
  | .file file => return file.opened

/-- The text of the file that the path leads to. -/
def readText (fs : FileSystem) (path : Path) : Except Fault String := do
  match String.fromUTF8? (← fs.read path).bytes with
  | some text => .ok text
  | none => .error .notText

def makeDirectory (fs : FileSystem) (path : Path) (now : Calendar.Moment) :
    Except Fault FileSystem := do
  let place ← fs.locate path
  match fs.node? place with
  | some _ => .error .alreadyExists
  | none => .ok (fs.addDirectory place now)

def write (fs : FileSystem) (path : Path) (file : File) : Except Fault FileSystem := do
  let place ← fs.locate path
  if path.wantsDirectory then .error .isDirectory
  else
    match fs.node? place with
    | some .directory => .error .isDirectory
    | _ => .ok (fs.written place file)

/-- The tree with a file come to a path, in place of any other file there. -/
def enter (fs : FileSystem) (path : Path) (file : File) (now : Calendar.Moment) :
    Except Fault FileSystem := do
  let place ← fs.locate path
  if path.wantsDirectory then .error .isDirectory
  else
    match fs.node? place with
    | some .directory => .error .isDirectory
    | _ => .ok (fs.add place (.file file) now)

def remove (fs : FileSystem) (path : Path) (now : Calendar.Moment) : Except Fault FileSystem := do
  let _ ← fs.read path
  let place ← fs.locate path
  .ok (fs.drop place now)

def setModified (fs : FileSystem) (path : Path) (modified : Calendar.Moment) :
    Except Fault FileSystem := do
  let file ← fs.read path
  let place ← fs.locate path
  .ok (fs.put place (.file { file with modified }))

/-- The tree with a file moved to a path, in place of any other file there. -/
def rename (fs : FileSystem) (source target : Path) (now : Calendar.Moment) :
    Except Fault FileSystem := do
  let file ← fs.read source
  let place ← fs.locate source
  (fs.drop place now).enter target file now

/-- The tree with the first of the directories, each of which lies in the next, and whether all of
it worked. -/
def makeAll (now : Calendar.Moment) : List Path → FileSystem → FileSystem × Except Fault Unit
  | [], fs => (fs, .ok ())
  | path :: above, fs =>
    match fs.makeDirectory path now with
    | .ok fs => (fs, .ok ())
    | .error .notFound =>
      match makeAll now above fs with
      | (fs, .error fault) => (fs, .error fault)
      | (fs, .ok ()) =>
        match fs.makeDirectory path now with
        | .ok fs => (fs, .ok ())
        | .error fault => if fs.isDirectory path then (fs, .ok ()) else (fs, .error fault)
    | .error fault => if fs.isDirectory path then (fs, .ok ()) else (fs, .error fault)

/-- The tree with a directory and all directories on the way to it, and whether all of it
worked. -/
def makeDirectories (fs : FileSystem) (path : Path) (now : Calendar.Moment) :
    FileSystem × Except Fault Unit :=
  makeAll now path.ancestors fs

/-- Everything below a place, by the names that lead there from it. -/
def below (fs : FileSystem) (place : Location) : List (Location × Node) :=
  fs.nodes.filterMap fun (other, node) =>
    if place.isPrefixOf other ∧ place ≠ other then some (other.drop place.length, node) else none

/-- Whether nothing lies below a place. -/
def isBare (fs : FileSystem) (place : Location) : Bool := (fs.below place).isEmpty

end FileSystem
end Signage.Files

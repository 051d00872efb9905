import Signage.Files.Work

/-!
Publication of compiled indexes. New content is written to a temporary file beside the published
one and moved into its place, so that readers find either the old content or the new. A failure
at any step leaves all files as they were.
-/
namespace Signage.Index

open Files (FileSystem Path Name File Fault Work)

/-- What a publication did. -/
inductive Outcome where
  /-- The content was written. -/
  | written
  /-- The content was there already. -/
  | unchanged
  /-- There was nothing to publish, and what was there stays. -/
  | stale
  deriving DecidableEq, Repr

def Outcome.name : Outcome → String
  | written => "Written"
  | unchanged => "Unchanged"
  | stale => "Stale"

/-- The steps of a publication that the device can fail at. -/
inductive Step where
  | read
  | makeDirectories
  | makeTemporary
  | write
  | sync
  | replace
  deriving DecidableEq, Repr

/-- The steps at which the device fails. -/
abbrev Outages := Step → Bool

def Outages.none : Outages := fun _ => false

/-- Fail if the device does at the step. -/
def passStep (outages : Outages) (step : Step) : Work Unit :=
  if outages step then throw Fault.device.toError else pure ()

def bytesOf (content : List Char) : ByteArray := (String.ofList content).toUTF8

/-- How the names of temporary files begin. -/
def temporaryMark : Name := ['.', 't', 'm', 'p']

/-- The name of the temporary file with the given number. -/
def temporaryName (number : Nat) : Name := temporaryMark ++ Text.paddedNumeral 6 number

/-- A path in the directory that leads to nothing. The numbers of temporary files are drawn at
random, so that one is never called like the file that it is to replace; here the first such number
is taken. -/
def freshPath (fs : FileSystem) (directory target : Path) : Option Path :=
  let names := (List.range (fs.nodes.length + 2)).map temporaryName
  ((names.filter fun name => target.names.getLast? != some name).map directory.child).find?
    fun path => !(fs.find path).isOk

/-- Make an empty file in the directory, which is to replace the target. -/
def makeTemporary (directory target : Path) (now : Calendar.Moment) : Work Path := do
  let fs ← Work.tree
  match freshPath fs (directory.startingAt fs.workingDirectory) target with
  | some path =>
    Work.change fun fs => fs.write path ⟨.empty, now⟩
    return path
  | none => throw Fault.alreadyExists.toError

/-- Do some work with a temporary file, which is removed if the work fails. -/
def keepingClean (temporary : Path) (now : Calendar.Moment) (work : Work Unit) : Work Unit :=
  tryCatch work fun error => do
    Work.change fun fs => fs.remove temporary now
    throw error

/-- Put a file in place of what lies at a path, all at once. -/
def replaceFile (outages : Outages) (now : Calendar.Moment) (directory path : Path)
    (bytes : ByteArray) : Work Unit := do
  passStep outages .makeTemporary
  let temporary ← makeTemporary directory path now
  keepingClean temporary now do
    passStep outages .write
    Work.change fun fs => fs.write temporary ⟨bytes, now⟩
    passStep outages .sync
    passStep outages .replace
    Work.change fun fs => fs.rename temporary path now

/-- Make a directory and all directories on the way to it. -/
def makeDirectories (outages : Outages) (now : Calendar.Moment) (directory : Path) : Work Unit := do
  passStep outages .makeDirectories
  let (fs, answer) := (← Work.tree).makeDirectories directory now
  Work.become fs
  Work.ofExcept answer

/-- The bytes at a path, if there is a file. -/
def published? (outages : Outages) (path : Path) : Work (Option ByteArray) := do
  passStep outages .read
  match (← Work.tree).read path with
  | .ok file => return some file.bytes
  | .error .notFound => return none
  | .error fault => throw fault.toError

/-- Keep what lies at a path, for there is nothing to publish. -/
def keepStale (text : List Char) : Work Outcome := do
  if (← Work.tree).isFile (.ofText text) then return .stale
  else throw (.noIndex (.ofList text))

/-- Publish content at a path. -/
def publish (outages : Outages) (now : Calendar.Moment) (text content : List Char) :
    Work Outcome := do
  if content.isEmpty then keepStale text
  else
    let path := Path.ofText text
    if (← published? outages path).any fun bytes => bytes.data = (bytesOf content).data then
      return .unchanged
    match path.parent? with
    | none => throw (.invalidInput s!"index path has no parent: {String.ofList text}")
    | some directory =>
      makeDirectories outages now directory
      replaceFile outages now directory path (bytesOf content)
      return .written

end Signage.Index

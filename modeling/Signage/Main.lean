import Mathlib.Tactic.DeprecateTo
import Signage.Cli.Run

/-!
The program. It looks at the files that a command depends on, lets the command run on them, and
writes the files that the command leaves behind.
-/
namespace Signage.Program

open Files (FileSystem Location Node)

/-- The place that a path leads to by its text. -/
def placeOf (tree : FileSystem) (path : String) : Location :=
  let path := Files.Path.ofText path.toList
  if path.isAbsolute then path.names else tree.workingDirectory ++ path.names

def pathAt (place : Location) : String :=
  "/" ++ String.intercalate "/" (place.map String.ofList)

/-- What lies at a place, if anything does. -/
def lookAt (place : Location) : IO (Option Node) := do
  try
    let path ← IO.FS.realPath (pathAt place)
    if ← path.isDir then return some .directory
    let bytes ← IO.FS.readBinFile path
    let modified := (← path.metadata).modified
    return some (.file ⟨bytes, modified.sec, modified.nsec.toNat⟩)
  catch _ => return none

/-- The tree with what lies on the way to a place and at it. -/
def look (tree : FileSystem) (place : Location) : IO FileSystem :=
  (List.range place.length).foldlM (fun tree count => do
    let found := place.take (count + 1)
    match ← lookAt found with
    | some node => return tree.put found node
    | none => return tree) tree

/-- The paths of what a command can depend on once its settings are known. -/
def pathsOf (config : Config) : List String :=
  let templates := config.index.templates.toList.flatMap fun directory =>
    directory :: Template.Family.all.map fun family =>
      .ofList (Files.join directory.toList (family.name ++ ".smil").toList)
  [config.databasePath, config.index.directory] ++ templates

/-- The path of the index that a command can change. -/
def indexPaths (config : Config) (tree : FileSystem) (uuid : String) : List String :=
  match (Store.openTables? tree config.databasePath).map (Store.getPlayer · uuid) with
  | some (.ok (some player)) =>
    match Index.indexPath config.index.directory.toList player with
    | .ok path => [.ofList path]
    | .error _ => []
  | _ => []

/-- The files that name the settings of an invocation. -/
def configPaths (home : String) (invocation : Cli.Invocation) : List String :=
  match invocation.command, invocation.config with
  | .validate path, named => (path.or named).toList
  | _, some named => [named]
  | _, none => Config.defaultPaths home

/-- The tree with all that lies at some paths. -/
def lookAll (tree : FileSystem) (paths : List String) : IO FileSystem :=
  paths.foldlM (fun tree path => look tree (placeOf tree path)) tree

/-- The templates directory that a configuration file names without more being checked. -/
def draftConfig (tree : FileSystem) (paths : List String) : Config :=
  let texts := paths.filterMap fun path => (tree.readText (Config.pathOf path)).toOption
  match texts with
  | text :: _ => ((Toml.ofText? text).bind Config.ofEntries?).getD .standard
  | [] => .standard

/-- The files that an invocation depends on. -/
def survey (tree : FileSystem) (home : String) (invocation : Cli.Invocation) : IO FileSystem := do
  let named := configPaths home invocation
  let tree ← lookAll tree named
  let config := draftConfig tree named
  let tree ← lookAll tree (pathsOf config)
  match invocation.command with
  | .compile uuid => lookAll tree (indexPaths config tree uuid)
  | _ => return tree

/-- The moment it is now, and the date in the time zone that the system is set to. -/
def currentClock : IO Calendar.Clock := do
  let now ← Std.Time.DateTime.now
  let nanoseconds := now.toTimestamp.toNanosecondsSinceUnixEpoch.val
  let today := now.toPlainDate
  return ⟨⟨nanoseconds / 1000000000, (nanoseconds % 1000000000).toNat⟩,
    ⟨today.year.toInt, today.month.val.toNat, today.day.val.toNat⟩⟩

/-- Write a file all at once. -/
def writeFile (place : Location) (bytes : ByteArray) : IO Unit := do
  IO.FS.createDirAll (pathAt place.dropLast)
  let temporary := pathAt place ++ ".new"
  IO.FS.writeBinFile temporary bytes
  IO.FS.rename temporary (pathAt place)

/-- Write the files in which one tree differs from another. -/
def carryOut (before after : FileSystem) : IO Unit :=
  after.nodes.forM fun (place, node) => do
    match node with
    | .file file => if before.node? place != some node then writeFile place file.bytes
    | .directory => pure ()

/-- What a command line asks for, on the files it depends on. -/
def surroundings (words : List String) : IO Config.Surroundings := do
  let home := (← IO.getEnv "HOME").getD "~"
  let here := Files.Path.ofText (toString (← IO.currentDir)).toList
  let tree ← look { FileSystem.empty with workingDirectory := here.names } here.names
  match Cli.readArguments words with
  | .run invocation => return ⟨← survey tree home invocation, home⟩
  | _ => return ⟨tree, home⟩

/-- What is said at the end of a command, if anything. -/
def lastWords : Cli.Ending → Option String
  | .done => none
  | .failed message => some ("Error: " ++ message)
  | .misused => some ("Usage: " ++ Cli.Topic.program.usage)
  | .serves host port =>
    some ("Error: no listener for " ++ host ++ ":" ++ Cli.numberText port.toNat)

end Signage.Program

/-- Do what the command line asks for. -/
def main (words : List String) : IO UInt32 := do
  let around ← Signage.Program.surroundings words
  let now ← Signage.Program.currentClock
  let outcome := Signage.Cli.run ⟨around, fun _ => .unreachable "no answer", now⟩ words
  Signage.Program.carryOut around.tree outcome.tree
  IO.print outcome.output
  match Signage.Program.lastWords outcome.ending with
  | some text => IO.eprintln text
  | none => pure ()
  return .ofNat outcome.ending.code

import Signage.Cli.Arguments
import Signage.Cli.Help
import Signage.Config.Load
import Signage.Json.Writer
import Signage.Service.Address
import Signage.Service.Context
import Signage.Store.Opening

/-! What the commands do, write and leave behind. -/
namespace Signage.Cli

open Config (Surroundings)

/-- How a command ends. -/
inductive Ending where
  | done
  /-- It fails, with what is said of it. -/
  | failed (message : String)
  /-- The command line is not as it should be. -/
  | misused
  /-- It goes on to serve the hub. -/
  | serves (host : String) (port : UInt16)
  deriving DecidableEq

def Ending.code : Ending → Nat
  | failed _ => 1
  | misused => 2
  | _ => 0

/-- The end of a command, what it writes, and the files it leaves behind. -/
structure Outcome where
  ending : Ending
  output : String
  tree : Files.FileSystem

/-- Everything that commands depend on. -/
structure World where
  around : Surroundings
  network : Service.Network
  now : Calendar.Clock

/-- The outcome of a command that changes no file. -/
def World.outcome (world : World) (ending : Ending) (output : String) : Outcome :=
  ⟨ending, output, world.around.tree⟩

def linesText (lines : List String) : String := .join (lines.map (· ++ "\n"))

def versionText : String := "playout 0.1.0\n"

def deviceText (device : Identity.Device) : String :=
  Json.recordLines [("uuid", .string device.uuid), ("name", .string device.name),
    ("platform", .string device.platform), ("firmware", .string device.firmware),
    ("model_token", .string device.modelToken), ("model", device.model.toJson)] ++ "\n"

def deviceLines (device : Identity.Device) : List String :=
  if device.isKnown then
    ["UUID: " ++ device.uuid, "Name: " ++ device.name, "Platform: " ++ device.platform,
      "Firmware: " ++ device.firmware,
      "Model: " ++ device.model.name ++ " (" ++ device.modelToken ++ ")",
      "Template: " ++ (Template.select device.model device.firmware.toList).name]
  else ["Unrecognized player (model token: " ++ Text.quoted device.modelToken ++ ")"]

def numberText (n : Nat) : String := .ofList (Text.numeral n)

def serverLine (config : Config) : String :=
  "  Server: " ++ config.server.host ++ ":" ++ numberText config.server.port.toNat

def directoryLine (config : Config) : String :=
  "  Index directory: " ++ Text.quotedPath config.index.directory

/-- What is said of a configuration that breaks no rule. -/
def configLines (config : Config) : List String :=
  ["✓ Configuration is valid", serverLine config, directoryLine config,
    "  Fixtures directory: " ++ Text.quotedPath config.index.fixtures] ++
    (config.index.templates.toList.map fun directory =>
      "  Template overrides: " ++ Text.quotedPath directory) ++
    ["  Public URL: " ++ config.index.publicUrl, "  Report server: " ++ config.reportServer,
      "  Database: " ++ Text.quotedPath config.databasePath,
      "  Content limits: depth " ++ numberText config.content.maxDepth.toNat ++
        ", expansions " ++ numberText config.content.maxExpansions.toNat]

/-- Check a configuration file, or tell the standard settings. -/
def validate (world : World) : Option String → Outcome
  | none =>
    world.outcome .done
      (linesText ["No config file specified, using defaults", "Default config:",
        serverLine .standard, directoryLine .standard])
  | some path =>
    let opening := "Validating config: " ++ Text.quotedPath path
    match Config.load world.around.tree path with
    | .ok config => world.outcome .done (linesText (opening :: configLines config))
    | .error fault => world.outcome (.failed fault.message) (linesText [opening])

/-- A hub that is set up, and what it keeps. -/
structure OpenHub where
  dispatcher : Poll.Dispatcher
  state : Service.State

/-- Set up a hub: open its store and load its templates. -/
def openHub (tree : Files.FileSystem) (config : Config) : Except String OpenHub :=
  match Store.openTables? tree config.databasePath with
  | none => .error ("Failed to open database " ++ config.databasePath)
  | some tables =>
    match Service.dispatcher tree config with
    | .error fault => .error fault.message
    | .ok dispatcher => .ok ⟨dispatcher, ⟨tables, tree⟩⟩

/-- The settings with the host and port of a command line. -/
def servedAt (config : Config) (host : String) (port : UInt16) : Config :=
  { config with server := ⟨host, port⟩ }

def start (world : World) (path : Option String) (host : String) (port : UInt16) : Outcome :=
  match Config.loadOrStandard world.around path with
  | .error fault => world.outcome (.failed fault.message) ""
  | .ok config =>
    let config := servedAt config host port
    match openHub world.around.tree config with
    | .error message => world.outcome (.failed message) ""
    | .ok _ =>
      if Service.isHost config.server.host then
        world.outcome (.serves config.server.host config.server.port) ""
      else world.outcome (.failed "Invalid server address") ""

def compileStored (world : World) (hub : OpenHub) (uuid : String) : Outcome :=
  match Store.getPlayer hub.state.tables uuid with
  | .error error => world.outcome (.failed error.message) ""
  | .ok none => world.outcome (.failed s!"Unknown player: {uuid}") ""
  | .ok (some player) =>
    if player.playlistId.isAssigned then
      match Service.compile hub.dispatcher world.network world.now player hub.state with
      | (.ok path, state) => ⟨.done, linesText [.ofList path], state.tree⟩
      | (.error error, state) => ⟨.failed error.message, "", state.tree⟩
    else world.outcome (.failed s!"Player {uuid} has no playlist assigned") ""

/-- Compile the index of a player. -/
def compile (world : World) (path : Option String) (uuid : String) : Outcome :=
  match Config.loadOrStandard world.around path with
  | .error fault => world.outcome (.failed fault.message) ""
  | .ok config =>
    match openHub world.around.tree config with
    | .error message => world.outcome (.failed message) ""
    | .ok hub => compileStored world hub uuid

/-- Tell what a device tells about itself. -/
def identify (world : World) (userAgent : String) (asJson : Bool) : Outcome :=
  let device := Identity.ofUserAgent userAgent
  world.outcome .done (if asJson then deviceText device else linesText (deviceLines device))

def runCommand (world : World) (invocation : Invocation) : Outcome :=
  match invocation.command with
  | .start host port => start world invocation.config host port
  | .compile uuid => compile world invocation.config uuid
  | .identify userAgent asJson => identify world userAgent asJson
  | .validate path => validate world (path.or invocation.config)
  | .version => world.outcome .done versionText

/-- Do what a command line asks for. -/
def run (world : World) (words : List String) : Outcome :=
  match readArguments words with
  | .run invocation => runCommand world invocation
  | .help topic => world.outcome .done (helpText topic)
  | .version => world.outcome .done versionText
  | .misused => world.outcome .misused ""

end Signage.Cli

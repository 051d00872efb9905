import Signage.Config.Basic
import Signage.Files.FileSystem
import Signage.Text.Quoted
import Signage.Toml.Document

/-! Finding, reading and checking the configuration. -/
namespace Signage.Config

open Files (FileSystem Path)

/-- What a program finds around it. -/
structure Surroundings where
  tree : FileSystem
  /-- The directory of the user. -/
  home : String

/-- Why there is no configuration. -/
inductive Fault where
  | unreadable (path : String)
  | malformed (path : String)
  | zeroPort
  | zeroCompileTimeout
  | zeroExternalTimeout
  | zeroLimit
  | noTemplates (directory : String)
  deriving DecidableEq

def Fault.message : Fault → String
  | unreadable path => s!"Failed to read config file: {Text.quotedPath path}"
  | malformed path => s!"Failed to parse config file: {Text.quotedPath path}"
  | zeroPort => "Server port cannot be 0"
  | zeroCompileTimeout => "Index compile timeout cannot be 0"
  | zeroExternalTimeout => "External content timeout cannot be 0"
  | zeroLimit => "Content resolution limits cannot be 0"
  | noTemplates directory =>
    s!"Templates directory does not exist: {Text.quotedPath directory}"

def pathOf (s : String) : Path := .ofText s.toList

/-- Whether the directory of templates, if there is to be one, is missing. -/
def lacksTemplates (tree : FileSystem) (config : Config) : Option String :=
  config.index.templates.filter fun directory => !tree.isDirectory (pathOf directory)

def firstFault? (tree : FileSystem) (config : Config) : Option Fault :=
  if config.server.port = 0 then some .zeroPort
  else if config.index.timeout = 0 then some .zeroCompileTimeout
  else if config.content.timeout = 0 then some .zeroExternalTimeout
  else if config.content.maxDepth = 0 ∨ config.content.maxExpansions = 0 then some .zeroLimit
  else (lacksTemplates tree config).map .noTemplates

/-- The settings in a file, if they break no rule. -/
def load (tree : FileSystem) (path : String) : Except Fault Config :=
  match tree.readText (pathOf path) with
  | .error _ => .error (.unreadable path)
  | .ok text =>
    match (Toml.ofText? text).bind ofEntries? with
    | none => .error (.malformed path)
    | some config =>
      match firstFault? tree config with
      | some fault => .error fault
      | none => .ok config

/-- The files that are looked for, in this order, when no file is named. -/
def defaultPaths (home : String) : List String :=
  ["./config.toml", "./playout.toml", home ++ "/.config/playout/config.toml",
    "/etc/playout/config.toml"]

def exists? (tree : FileSystem) (path : String) : Bool := (tree.find (pathOf path)).isOk

/-- The settings in the named file or else in the first default file that exists; where there is
none, the standard settings hold. -/
def loadOrStandard (around : Surroundings) : Option String → Except Fault Config
  | some path => load around.tree path
  | none =>
    match (defaultPaths around.home).find? (exists? around.tree) with
    | some path => load around.tree path
    | none => .ok standard

end Signage.Config

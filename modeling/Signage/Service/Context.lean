import Signage.Config.Basic
import Signage.Content.Page
import Signage.Poll.Dispatch
import Signage.Store.Hub
import Signage.Template.Overrides

/-! A hub as it is set up from its configuration, and what it keeps. -/
namespace Signage.Service

/-- What a running hub keeps. -/
structure State where
  tables : Store.Tables
  tree : Files.FileSystem

/-- Why a hub does not start. -/
inductive StartupFault where
  /-- The templates in a directory cannot be read. -/
  | templates (directory : String)
  deriving DecidableEq

def StartupFault.message : StartupFault → String
  | templates directory => s!"Failed to load templates from {Text.quotedPath directory}"

def limits (config : Config) : Content.Limits :=
  ⟨config.content.maxDepth.toNat, config.content.maxExpansions.toNat⟩

/-- The addresses that devices are told. -/
def targets (config : Config) : Section.Targets := ⟨config.index.publicUrl, config.reportServer⟩

def templates (tree : Files.FileSystem) (config : Config) :
    Except StartupFault Template.Sources :=
  match config.index.templates with
  | none => .ok Template.builtin
  | some directory =>
    match Template.loadOverrides tree directory.toList with
    | .ok sources => .ok sources
    | .error _ => .error (.templates directory)

def compiler (config : Config) (templates : Template.Sources) : Index.Compiler where
  directory := config.index.directory.toList
  limits := limits config
  templates := templates
  targets := targets config

def dispatcher (tree : Files.FileSystem) (config : Config) :
    Except StartupFault Poll.Dispatcher :=
  (templates tree config).map fun templates =>
    { compiler := compiler config templates, fixtures := config.index.fixtures.toList
      outages := .none }

/-- What asking for pages hosted elsewhere comes to. -/
abbrev Network := List Char → Content.Exchange

/-- Where a hub takes content from. -/
def sources (network : Network) (tables : Store.Tables) : Content.Sources :=
  Store.sources tables fun url => Content.pageMarkup url (network url)

/-- The answer to a poll, and what the hub keeps after it. -/
def poll (dispatcher : Poll.Dispatcher) (network : Network) (now : Calendar.Clock)
    (request : Poll.Request) (state : State) : Poll.Response × State :=
  let (response, tables, tree) :=
    dispatcher.dispatch Store.repository (sources network state.tables) now request state.tables
      state.tree
  (response, ⟨tables, tree⟩)

/-- Compile the index of a player, and tell its path. -/
def compile (dispatcher : Poll.Dispatcher) (network : Network) (now : Calendar.Clock)
    (player : Player) (state : State) : Except Error (List Char) × State :=
  let (answer, tree) := Files.Work.on state.tree
    (dispatcher.compiler.compile dispatcher.outages (sources network state.tables) now player)
  (answer, { state with tree })

end Signage.Service

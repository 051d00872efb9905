import Signage.Json.Basic
import Signage.Number.Width
import Signage.Toml.Value

/-! The settings of a hub, and how they are read off configuration documents. -/
namespace Signage

/-- Where the hub is served. -/
structure ServerSettings where
  host : String
  port : UInt16
  deriving DecidableEq

/-- How indexes are made and published. -/
structure IndexSettings where
  directory : String
  fixtures : String
  /-- The directory of templates that replace the built-in ones. -/
  templates : Option String
  publicUrl : String
  /-- The seconds in which a poll has to be answered. -/
  timeout : UInt64
  deriving DecidableEq

/-- How content is resolved. -/
structure ContentSettings where
  /-- The seconds in which a page hosted elsewhere has to be fetched. -/
  timeout : UInt64
  maxDepth : UInt64
  maxExpansions : UInt64
  deriving DecidableEq

/-- The settings of a hub. -/
structure Config where
  server : ServerSettings
  index : IndexSettings
  content : ContentSettings
  reportServer : String
  databasePath : String
  deriving DecidableEq

namespace Config

/-- The server settings that hold when nothing is configured. -/
def standardServer : ServerSettings := ⟨"0.0.0.0", 8080⟩

/-- The index settings that hold when nothing is configured. -/
def standardIndex : IndexSettings :=
  ⟨"./var/index", "./resources/smil", none, "http://localhost:8080/smil-index", 30⟩

/-- The content settings that hold when nothing is configured. -/
def standardContent : ContentSettings := ⟨5, 16, 256⟩

/-- The report server that is told when nothing is configured. -/
def standardReportServer : String := "http://localhost:8080/reports"

/-- The database that is used when nothing is configured. -/
def standardDatabasePath : String := "./playout.db"

def standard : Config :=
  ⟨standardServer, standardIndex, standardContent, standardReportServer, standardDatabasePath⟩

/-- A field of a section that may be left out. -/
def field {α : Type} (value : α) (read : Toml.Value → Option α) : Option Toml.Value → Option α
  | none => some value
  | some found => read found

/-- The fields of a section in declaration order. A section may also be written as an array of
its fields; a date in its place is a section without any known field. -/
def fields? (names : List String) : Toml.Value → Option (List (Option Toml.Value))
  | .table _ entries => some (names.map fun name => entries.lookup name)
  | .array items => some (names.zipIdx.map fun (_, index) => items[index]?)
  | .tables earlier last =>
    let items := earlier ++ [.table .header last]
    some (names.zipIdx.map fun (_, index) => items[index]?)
  | .moment => some (names.map fun _ => none)
  | _ => none

def readString? : Toml.Value → Option String
  | .string s => some s
  | _ => none

/-- A whole number of the wanted width. -/
def readWord? {α : Type} (fits : Int → Option α) : Toml.Value → Option α
  | .integer n => fits n
  | _ => none

def readServer? (part : Toml.Value) : Option ServerSettings := do
  let [host, port] ← fields? ["host", "port"] part | none
  return {
    host := ← field standardServer.host readString? host
    port := ← field standardServer.port (readWord? Number.uint16?) port }

def indexNames : List String :=
  ["index_dir", "fixtures_dir", "templates_dir", "public_url", "compile_timeout_secs"]

def readIndex? (part : Toml.Value) : Option IndexSettings := do
  let [directory, fixtures, templates, publicUrl, timeout] ← fields? indexNames part | none
  return {
    directory := ← field standardIndex.directory readString? directory
    fixtures := ← field standardIndex.fixtures readString? fixtures
    templates := ← field none (fun value => (readString? value).map some) templates
    publicUrl := ← field standardIndex.publicUrl readString? publicUrl
    timeout := ← field standardIndex.timeout (readWord? Number.uint64?) timeout }

def contentNames : List String := ["external_timeout_secs", "max_depth", "max_expansions"]

def readContent? (part : Toml.Value) : Option ContentSettings := do
  let [timeout, maxDepth, maxExpansions] ← fields? contentNames part | none
  return {
    timeout := ← field standardContent.timeout (readWord? Number.uint64?) timeout
    maxDepth := ← field standardContent.maxDepth (readWord? Number.uint64?) maxDepth
    maxExpansions := ← field standardContent.maxExpansions (readWord? Number.uint64?)
      maxExpansions }

/-- A text that is the only field of a section. -/
def readOnly? (name value : String) (part : Toml.Value) : Option String := do
  let [found] ← fields? [name] part | none
  field value readString? found

def ofEntries? (entries : Toml.Entries) : Option Config := do
  return {
    server := ← field standardServer readServer? (entries.lookup "server")
    index := ← field standardIndex readIndex? (entries.lookup "index")
    content := ← field standardContent readContent? (entries.lookup "content")
    reportServer := ← field standardReportServer (readOnly? "server_url" standardReportServer)
      (entries.lookup "reports")
    databasePath := ← field standardDatabasePath (readOnly? "path" standardDatabasePath)
      (entries.lookup "database") }

def ServerSettings.toJson (server : ServerSettings) : Json :=
  .record [("host", .string server.host), ("port", .integer server.port.toNat)]

def IndexSettings.toJson (index : IndexSettings) : Json :=
  .record (indexNames.zip
    [.string index.directory, .string index.fixtures, index.templates.elim .null .string,
      .string index.publicUrl, .integer index.timeout.toNat])

def ContentSettings.toJson (content : ContentSettings) : Json :=
  .record (contentNames.zip
    [.integer content.timeout.toNat, .integer content.maxDepth.toNat,
      .integer content.maxExpansions.toNat])

def toJson (config : Config) : Json :=
  .record [("server", ServerSettings.toJson config.server),
    ("index", IndexSettings.toJson config.index),
    ("content", ContentSettings.toJson config.content),
    ("reports", .record [("server_url", .string config.reportServer)]),
    ("database", .record [("path", .string config.databasePath)])]

end Config
end Signage

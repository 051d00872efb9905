import Signage.Cli.Run
import Signage.Proofs.Cli.CommandLines

/-!
Where a hub is served. A command line takes the place of what is configured even where it gives
nothing, and what it gives is checked by no rule of the configuration.
-/
namespace Signage

namespace Config
variable {around : Surroundings} {tree : Files.FileSystem} {path : Option String} {config : Config}

/-- The rules of a configuration. -/
structure Obeyed (tree : Files.FileSystem) (config : Config) : Prop where
  port : config.server.port ≠ 0
  timeout : config.index.timeout ≠ 0
  pageTimeout : config.content.timeout ≠ 0
  maxDepth : config.content.maxDepth ≠ 0
  maxExpansions : config.content.maxExpansions ≠ 0
  templates : ∀ directory, config.index.templates = some directory →
    tree.isDirectory (pathOf directory) = true

private theorem firstFault?_eq_none_iff : firstFault? tree config = none ↔ Obeyed tree config := by
  have hdirectory : lacksTemplates tree config = none ↔ ∀ directory,
      config.index.templates = some directory → tree.isDirectory (pathOf directory) = true := by
    simp [lacksTemplates, Option.filter_eq_none_iff]
  unfold firstFault?
  constructor
  · intro h
    split at h
    · cases h
    split at h
    · cases h
    split at h
    · cases h
    split at h
    · cases h
    next hport htimeout hpage hlimits =>
      obtain ⟨hdepth, hexpansions⟩ := not_or.mp hlimits
      exact ⟨hport, htimeout, hpage, hdepth, hexpansions, hdirectory.mp (by simpa using h)⟩
  · intro h
    rw [if_neg h.port, if_neg h.timeout, if_neg h.pageTimeout,
      if_neg (not_or.mpr ⟨h.maxDepth, h.maxExpansions⟩), hdirectory.mpr h.templates]
    rfl

private theorem obeyed_standard (tree : Files.FileSystem) : Obeyed tree .standard :=
  ⟨by decide, by decide, by decide, by decide, by decide, fun _ h => nomatch h⟩

private theorem obeyed_of_load {path : String} (h : load tree path = .ok config) :
    Obeyed tree config := by
  unfold load at h
  split at h
  · cases h
  · split at h
    · cases h
    · split at h
      · cases h
      · next hfault =>
        cases h
        exact firstFault?_eq_none_iff.mp hfault

/-- A configuration that is accepted breaks no rule, wherever it is found. -/
theorem obeyed_of_loadOrStandard (h : loadOrStandard around path = .ok config) :
    Obeyed around.tree config := by
  unfold loadOrStandard at h
  split at h
  · exact obeyed_of_load h
  · split at h
    · exact obeyed_of_load h
    · cases h
      exact obeyed_standard _

end Config

namespace Cli
open Config (Obeyed loadOrStandard)
variable {world : World} {words : List String} {ahead given : Given} {config : Config}
  {tree : Files.FileSystem} {host : String} {port : UInt16}

/-- The server that is asked for: what a command line gives, and what is configured besides. -/
def askedServer (config : Config) (given : Given) : ServerSettings :=
  ⟨(given.lookup "host").getD config.server.host,
    ((given.lookup "port").bind port?).getD config.server.port⟩

/-- A value is given, or the one that is configured is the one that stands in for it. -/
theorem getD_eq_getD_iff {α : Type} {value : Option α} {standard configured : α} :
    value.getD standard = value.getD configured ↔ value.isSome = true ∨ configured = standard := by
  cases value <;> simp [eq_comm]

/-- A value of the option writes a port. -/
theorem isSome_port_of_belongs {value : String} (h : Belongs Topic.start.rule ("port", value)) :
    (port? value).isSome = true := by
  obtain ⟨option, hmem, hlong, hkind⟩ := h
  simp only [Topic.rule, commonOptions, configOption, verboseOption, helpOption, List.mem_cons,
    List.not_mem_nil, or_false] at hmem
  rcases hmem with rfl | rfl | rfl | rfl | rfl
  · simp at hlong
  · simpa [OptionRule.Takes] using hkind
  all_goals simp at hlong

private theorem isSome_lookup_port {after : List String}
    (h : Options Topic.start.rule after given) :
    ((given.lookup "port").bind port?).isSome = (given.lookup "port").isSome := by
  cases hvalue : given.lookup "port" with
  | none => rfl
  | some value =>
    obtain ⟨before, after, rfl, -⟩ := List.lookup_eq_some_iff.mp hvalue
    exact isSome_port_of_belongs (h.belongs _ (by simp))

/-- How a hub that is set up goes on. -/
def endingAt (hub : Except String OpenHub) (server : ServerSettings) : Ending :=
  match hub with
  | .error message => .failed message
  | .ok _ =>
    if Service.isHost server.host then .serves server.host server.port
    else .failed "Invalid server address"

/-- The hub is the one that is configured, and only its server is another. -/
theorem start_eq {path : Option String} (h : loadOrStandard world.around path = .ok config) :
    start world path host port =
      world.outcome (endingAt (openHub world.around.tree config) ⟨host, port⟩) "" := by
  have hhub : openHub world.around.tree (servedAt config host port) =
      openHub world.around.tree config := rfl
  unfold start endingAt
  simp only [h, hhub]
  cases openHub world.around.tree config with
  | error message => rfl
  | ok hub =>
    exact (apply_ite (world.outcome · "") _ _ _).symm

/-- Of the rules only the one about the port is at stake. -/
theorem obeyed_servedAt_iff (h : Obeyed tree config) :
    Obeyed tree (servedAt config host port) ↔ port ≠ 0 :=
  ⟨fun h => h.port, fun hport => { h with port := hport }⟩

/-- The server is the one asked for as long as what is not given is configured as it stands. -/
theorem server_eq_askedServer_iff {after : List String} (h : Options Topic.start.rule after given) :
    ServerSettings.mk (hostOf given) (portOf given) = askedServer config given ↔
      ((given.lookup "host").isSome = true ∨ config.server.host = standardHost) ∧
        ((given.lookup "port").isSome = true ∨ config.server.port = standardPort) := by
  rw [askedServer, ServerSettings.mk.injEq, ← isSome_lookup_port h]
  exact and_congr getD_eq_getD_iff getD_eq_getD_iff

/-- A hub is served where its command line says, and where that gives nothing at the standard host or
port, whatever is configured; a configuration that breaks no rule still breaks none just if the port is
not 0. -/
theorem served_at_given_or_standard (hline : StartLine words ahead given)
    (hconfig : loadOrStandard world.around (fileOf ahead given) = .ok config) :
    let served := servedAt config (hostOf given) (portOf given)
    readArguments words = .run ⟨.start served.server.host served.server.port, fileOf ahead given⟩ ∧
    run world words = world.outcome (endingAt (openHub world.around.tree config) served.server) "" ∧
    (served.server = askedServer config given ↔
      ((given.lookup "host").isSome = true ∨ config.server.host = standardHost) ∧
        ((given.lookup "port").isSome = true ∨ config.server.port = standardPort)) ∧
    Obeyed world.around.tree config ∧
    (Obeyed world.around.tree served ↔ served.server.port ≠ 0) := by
  have hread := readArguments_eq_start_iff.mpr ⟨ahead, given, hline, rfl, rfl, rfl⟩
  have hobeyed := Config.obeyed_of_loadOrStandard hconfig
  refine ⟨hread, ?_, ?_, hobeyed, obeyed_servedAt_iff hobeyed⟩
  · unfold run
    rw [hread]
    exact start_eq hconfig
  · cases hline with
    | line _ _ hafter _ _ => exact server_eq_askedServer_iff hafter

/-- A hub that is configured for one host and port of its own. -/
def loopbackText : String := "[server]\nhost = \"127.0.0.1\"\nport = 9000\n"

/-- A world in which the hub's configuration is all there is. -/
def loopback : World where
  around := ⟨.holding [(["config.toml".toList], .file ⟨loopbackText.toUTF8, .ofSeconds 0⟩)], "/root"⟩
  network := fun _ => .unreachable "no answer"
  now := .ofSeconds 0

def loopbackConfig : Config := { Config.standard with server := ⟨"127.0.0.1", 9000⟩ }

private theorem loadOrStandard_loopback :
    loadOrStandard loopback.around none = .ok loopbackConfig := by
  have h : (loadOrStandard loopback.around none).toOption = some loopbackConfig := by decide +kernel
  cases hload : loadOrStandard loopback.around none with
  | error fault => simp [hload, Except.toOption] at h
  | ok config => simpa [hload, Except.toOption] using h

private theorem startLine_bare : StartLine ["start"] [] [] :=
  @StartLine.line [] [] [] [] [] .done List.nodup_nil .done List.nodup_nil (.inl rfl)

/-- Nothing is given, and the standard host and port are served instead of those that are configured. -/
theorem served_at_given_or_standard_loopback :
    StartLine ["start"] [] [] ∧ loadOrStandard loopback.around (fileOf [] []) = .ok loopbackConfig ∧
      run loopback ["start"] = loopback.outcome
        (endingAt (openHub loopback.around.tree loopbackConfig) ⟨standardHost, standardPort⟩) "" ∧
      ServerSettings.mk standardHost standardPort ≠ askedServer loopbackConfig [] := by
  have h := served_at_given_or_standard startLine_bare loadOrStandard_loopback
  exact ⟨startLine_bare, loadOrStandard_loopback, h.2.1, by decide⟩

/-- The standard host and port are served where others are configured, and port 0, which no configuration
may have, is served where it is given. -/
theorem served_against_configuration :
    loadOrStandard loopback.around none = .ok loopbackConfig ∧
      (run loopback ["start"]).ending = .serves "0.0.0.0" 8080 ∧
      (run loopback ["start", "--host", "127.0.0.1", "--port", "0"]).ending = .serves "127.0.0.1" 0 ∧
      ¬ Obeyed loopback.around.tree (servedAt loopbackConfig "127.0.0.1" 0) ∧
      (run loopback ["start", "--host", "x", "--port", "0"]).ending = .failed "Invalid server address" :=
  ⟨loadOrStandard_loopback, by decide +kernel, by decide +kernel, fun h => h.port rfl, by decide +kernel⟩

end Cli
end Signage

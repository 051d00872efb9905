import Signage.Cli.Arguments

/-! The help texts of the program and its commands. -/
namespace Signage.Cli

def Topic.summary : Topic → String
  | program => "SMIL index compiler and server for digital signage players"
  | start => "Start the index server"
  | compile => "Compile and publish the index of one player"
  | identify => "Parse a player user agent and display the identity"
  | validate => "Validate configuration file"
  | version => "Display version information"
  | help => "Print this message or the help of the given subcommand(s)"

/-- How the command line of a topic is written. -/
def Topic.usage : Topic → String
  | program => "playout [OPTIONS] <COMMAND>"
  | start => "playout start [OPTIONS]"
  | compile => "playout compile [OPTIONS] <UUID>"
  | identify => "playout identify [OPTIONS] <USER_AGENT>"
  | validate => "playout validate [OPTIONS] [CONFIG]"
  | version => "playout version [OPTIONS]"
  | help => "playout help [COMMAND]..."

/-- A text filled up with blanks to a width. -/
def padded (width : Nat) (text : String) : String :=
  text ++ .ofList (List.replicate (width - text.length) ' ')

/-- A list with a title, each line a term and what it means. -/
def listText (title : String) (entries : List (String × String)) : String :=
  let width := (entries.map fun entry => entry.1.length).foldl max 0
  if entries.isEmpty then ""
  else
    "\n" ++ title ++ ":\n" ++
      .join (entries.map fun (term, meaning) => "  " ++ padded width term ++ "  " ++ meaning ++ "\n")

/-- The line of the option that names the configuration file. -/
def configLine : String × String := ("-c, --config <CONFIG>", "Path to config file")

/-- The line of the option that asks for more to be logged. -/
def verboseLine : String × String := ("-v, --verbose", "Enable verbose logging")

def helpLine : String × String := ("-h, --help", "Print help")

def Topic.optionLines : Topic → List (String × String)
  | program => [configLine, verboseLine, helpLine, ("-V, --version", "Print version")]
  | start =>
    [configLine, ("    --host <HOST>", "Host to bind to [default: 0.0.0.0]"),
      ("-p, --port <PORT>", "Port to listen on [default: 8080]"), verboseLine, helpLine]
  | compile => [configLine, verboseLine, helpLine]
  | identify => [configLine, ("    --json", "Output as JSON"), verboseLine, helpLine]
  | validate => [verboseLine, helpLine]
  | version => [configLine, verboseLine, helpLine]
  | help => []

def Topic.operandLines : Topic → List (String × String)
  | compile => [("<UUID>", "Player uuid")]
  | identify => [("<USER_AGENT>", "User-Agent header value")]
  | validate => [("[CONFIG]", "Config file to validate (uses default if not specified)")]
  | help => [("[COMMAND]...", "Print help for the subcommand(s)")]
  | _ => []

def Topic.commandLines : Topic → List (String × String)
  | program => topics.map fun (name, topic) => (name, topic.summary)
  | _ => []

def helpText (topic : Topic) : String :=
  topic.summary ++ "\n\nUsage: " ++ topic.usage ++ "\n" ++
    listText "Commands" topic.commandLines ++ listText "Arguments" topic.operandLines ++
    listText "Options" topic.optionLines

end Signage.Cli

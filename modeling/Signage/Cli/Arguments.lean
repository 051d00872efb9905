import Signage.Cli.Options
import Signage.Text.Numeral

/-! The commands of the program. -/
namespace Signage.Cli

/-- What is to be done. -/
inductive Command where
  | start (host : String) (port : UInt16)
  | compile (uuid : String)
  | identify (userAgent : String) (asJson : Bool)
  | validate (path : Option String)
  | version
  deriving DecidableEq

/-- A command and the configuration file that is named for it. -/
structure Invocation where
  command : Command
  config : Option String
  deriving DecidableEq

/-- What a help text is about. -/
inductive Topic where
  | program
  | start
  | compile
  | identify
  | validate
  | version
  | help
  deriving DecidableEq, Repr

/-- What a command line asks for. -/
inductive Request where
  | run (invocation : Invocation)
  | help (topic : Topic)
  | version
  | misused

def anyText : String → Bool := fun _ => true

/-- A path may not be empty. -/
def isPath (text : String) : Bool := text != ""

/-- The port that a text writes, which may have a sign. -/
def port? (text : String) : Option UInt16 :=
  match text.toList with
  | '-' :: digits =>
    match Text.readNumeral 0 digits with
    | .ok _ => some 0
    | .error _ => none
  | digits => (Text.readSignedNumeral? 65535 digits).map UInt16.ofNat

def configOption : OptionRule := ⟨"config", some 'c', .valued isPath⟩

/-- The option that asks for more to be logged. -/
def verboseOption : OptionRule := ⟨"verbose", some 'v', .switch⟩

def helpOption : OptionRule := ⟨"help", some 'h', .help⟩

def commonOptions : List OptionRule := [configOption, verboseOption, helpOption]

/-- What may stand before the name of a command. -/
def programRule : CommandRule := ⟨commonOptions ++ [⟨"version", some 'V', .version⟩], []⟩

/-- The command line of a topic. The configuration file of `validate` is its operand. -/
def Topic.rule : Topic → CommandRule
  | start =>
    ⟨⟨"host", none, .valued anyText⟩ ::
      ⟨"port", some 'p', .valued fun text => (port? text).isSome⟩ :: commonOptions, []⟩
  | compile => ⟨commonOptions, [anyText]⟩
  | identify => ⟨⟨"json", none, .switch⟩ :: commonOptions, [anyText]⟩
  | validate => ⟨[verboseOption, helpOption], [isPath]⟩
  | _ => ⟨commonOptions, []⟩

def topics : List (String × Topic) :=
  [("start", .start), ("compile", .compile), ("identify", .identify), ("validate", .validate),
    ("version", .version), ("help", .help)]

def standardHost : String := "0.0.0.0"

def standardPort : UInt16 := 8080

/-- The command of a topic with what was found after its name. -/
def commandOf? (topic : Topic) (findings : Findings) : Option Command :=
  match topic, findings.operands with
  | .start, [] =>
    some (.start ((findings.value? "host").getD standardHost)
      (((findings.value? "port").bind port?).getD standardPort))
  | .compile, [uuid] => some (.compile uuid)
  | .identify, [userAgent] => some (.identify userAgent (findings.has "json"))
  | .validate, [] => some (.validate none)
  | .validate, [path] => some (.validate (some path))
  | .version, [] => some .version
  | _, _ => none

/-- What is asked for when reading ends early. -/
def requestOfHalt (topic : Topic) : Halt → Request
  | .misused => .misused
  | .help => .help topic
  | .version => .version

/-- The request of a topic. What is given after its name goes before what is given ahead of it. -/
def readTopic (ahead : Findings) (topic : Topic) (words : List String) : Request :=
  match readWords topic.rule false none .none words with
  | .error halt => requestOfHalt topic halt
  | .ok (findings, _) =>
    match commandOf? topic findings with
    | some command => .run ⟨command, (findings.value? "config").or (ahead.value? "config")⟩
    | none => .misused

def readHelp : List String → Request
  | [] => .help .program
  | [name] =>
    match topics.lookup name with
    | some topic => .help topic
    | none => .misused
  | _ => .misused

/-- What a command line asks for. -/
def readArguments (words : List String) : Request :=
  match readWords programRule true none .none words with
  | .error halt => requestOfHalt .program halt
  | .ok (_, []) => .misused
  | .ok (ahead, name :: words) =>
    match topics.lookup name with
    | none => .misused
    | some .help => readHelp words
    | some topic => readTopic ahead topic words

end Signage.Cli

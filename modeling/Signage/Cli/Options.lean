/-!
Reading command lines. Options are written `--name value`, `--name=value`, `-n value`, `-nvalue`
or `-n=value`; switches of one letter can be put together; after `--` everything is an operand.
-/
namespace Signage.Cli

/-- What an option is followed by. -/
inductive OptionKind where
  /-- Nothing; it may be given once. -/
  | switch
  /-- A value of which the rule holds; it may be given once. -/
  | valued (accepts : String → Bool)
  /-- Nothing; the help text is asked for. -/
  | help
  /-- Nothing; the version is asked for. -/
  | version

/-- An option. -/
structure OptionRule where
  long : String
  short : Option Char
  kind : OptionKind

/-- The options and operands of a command. -/
structure CommandRule where
  options : List OptionRule
  /-- Rules for the operands, in order. -/
  operands : List (String → Bool)

/-- What was found on a command line, the latest first. -/
structure Findings where
  values : List (String × String)
  operands : List String

namespace Findings

def none : Findings := ⟨[], []⟩

def value? (findings : Findings) (long : String) : Option String := findings.values.lookup long

/-- Whether an option is given. -/
def has (findings : Findings) (long : String) : Bool := (findings.value? long).isSome

end Findings

/-- Why reading ends early. -/
inductive Halt where
  /-- The command line is not as it should be. -/
  | misused
  | help
  | version
  deriving DecidableEq, Repr

/-- Note an option; none may be given twice. -/
def note (findings : Findings) (option : OptionRule) (value : String) : Except Halt Findings :=
  if findings.has option.long then .error .misused
  else .ok { findings with values := (option.long, value) :: findings.values }

/-- Note the value of an option, of which its rule has to hold. -/
def noteValue (findings : Findings) (option : OptionRule) (value : String) :
    Except Halt Findings :=
  match option.kind with
  | .valued accepts => if accepts value then note findings option value else .error .misused
  | _ => .error .misused

/-- Note an option that no value is written to; it is pending if it needs one. -/
def noteBare (findings : Findings) (option : OptionRule) :
    Except Halt (Findings × Option OptionRule) :=
  match option.kind with
  | .switch => (note findings option "").map fun findings => (findings, none)
  | .valued _ => .ok (findings, some option)
  | .help => .error .help
  | .version => .error .version

/-- Read `name` or `name=value`. -/
def readLong (rule : CommandRule) (findings : Findings) (text : List Char) :
    Except Halt (Findings × Option OptionRule) :=
  let name := String.ofList (text.takeWhile (· != '='))
  match rule.options.find? fun option => option.long == name with
  | none => .error .misused
  | some option =>
    match text.dropWhile (· != '=') with
    | [] => noteBare findings option
    | _ :: value => (noteValue findings option (.ofList value)).map fun findings => (findings, none)

/-- Read letters, of which the first with a value takes the rest. -/
def readShort (rule : CommandRule) : Findings → List Char →
    Except Halt (Findings × Option OptionRule)
  | findings, [] => .ok (findings, none)
  | findings, letter :: rest =>
    match rule.options.find? fun option => option.short == some letter with
    | none => .error .misused
    | some option =>
      match option.kind, rest with
      | .valued _, '=' :: value =>
        (noteValue findings option (.ofList value)).map fun findings => (findings, none)
      | .valued _, [] => .ok (findings, some option)
      | .valued _, value =>
        (noteValue findings option (.ofList value)).map fun findings => (findings, none)
      | _, _ =>
        match noteBare findings option with
        | .ok (findings, _) => readShort rule findings rest
        | .error halt => .error halt

/-- Note an operand, if there is one more and its rule holds. -/
def noteOperand (rule : CommandRule) (findings : Findings) (text : String) :
    Except Halt Findings :=
  match rule.operands[findings.operands.length]? with
  | some accepts =>
    if accepts text then .ok { findings with operands := findings.operands ++ [text] }
    else .error .misused
  | none => .error .misused

/-- How a word of a command line is meant. -/
inductive Word where
  | long (text : List Char)
  | short (letters : List Char)
  /-- From here on everything is an operand. -/
  | delimiter
  | operand

/-- How a word is meant; a lone hyphen is an operand. -/
def wordOf (text : String) : Word :=
  match text.toList with
  | ['-', '-'] => .delimiter
  | '-' :: '-' :: rest => .long rest
  | '-' :: c :: rest => .short (c :: rest)
  | _ => .operand

/-- Whether a word can be the value of the option before it. -/
def canBeValue (text : String) : Bool :=
  match wordOf text with
  | .operand => true
  | _ => false

/-- Everything that is left is an operand. -/
def readOperands (rule : CommandRule) : Findings → List String → Except Halt Findings
  | findings, [] => .ok findings
  | findings, word :: words => do
    readOperands rule (← noteOperand rule findings word) words

/-- Read words up to the end or to the first operand for which `stops` holds; the operand and the
words after it are left. `pending` is an option that waits for its value. -/
def readWords (rule : CommandRule) (stops : Bool) : (pending : Option OptionRule) → Findings →
    List String → Except Halt (Findings × List String)
  | none, findings, [] => .ok (findings, [])
  | some _, _, [] => .error .misused
  | some option, findings, word :: words => do
    if canBeValue word then
      readWords rule stops none (← noteValue findings option word) words
    else .error .misused
  | none, findings, word :: words => do
    match wordOf word with
    | .long text =>
      let (findings, pending) ← readLong rule findings text
      readWords rule stops pending findings words
    | .short letters =>
      let (findings, pending) ← readShort rule findings letters
      readWords rule stops pending findings words
    | .delimiter => return (← readOperands rule findings words, [])
    | .operand =>
      if stops then return (findings, word :: words)
      else readWords rule stops none (← noteOperand rule findings word) words

end Signage.Cli

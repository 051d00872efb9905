import Signage.Toml.Number

/-! Reading configuration documents. -/
namespace Signage.Toml

mutual

/-- The value at the front of a text; `levels` more may be nested in it. -/
def readValue? : (fuel levels : Nat) → Reader Value
  | 0, _, _ => none
  | fuel + 1, levels, s =>
    match s with
    | '"' :: _ => (readQuoted? .double s).map fun (text, rest) => (.string text, rest)
    | '\'' :: _ => (readQuoted? .single s).map fun (text, rest) => (.string text, rest)
    | '[' :: rest =>
      if levels ≤ 1 then none
      else
        match skipGap rest with
        | ']' :: rest => some (.array [], rest)
        | rest => (readItems? fuel (levels - 1) rest).map fun (items, rest) => (.array items, rest)
    | '\x7b' :: rest =>
      if levels ≤ 1 then none
      else
        match skipBlanks rest with
        | '\x7d' :: rest => some (.table .inline [], rest)
        | rest =>
          (readPairs? fuel (levels - 1) [] rest).map fun (entries, rest) =>
            (.table .inline entries, rest)
    | 't' :: rest => (Text.dropLiteral? ['r', 'u', 'e'] rest).map fun rest => (.boolean true, rest)
    | 'f' :: rest =>
      (Text.dropLiteral? ['a', 'l', 's', 'e'] rest).map fun rest => (.boolean false, rest)
    | s => readNumeric? s

/-- The items of an array up to its closing bracket; a comma may follow the last. -/
def readItems? : (fuel levels : Nat) → Reader (List Value)
  | 0, _, _ => none
  | fuel + 1, levels, s => do
    let (item, rest) ← readValue? fuel levels s
    match skipGap rest with
    | ',' :: rest =>
      match skipGap rest with
      | ']' :: rest => return ([item], rest)
      | rest =>
        let (items, rest) ← readItems? fuel levels rest
        return (item :: items, rest)
    | ']' :: rest => return ([item], rest)
    | _ => none

/-- The entries of a table up to its closing brace, after those already read. -/
def readPairs? : (fuel levels : Nat) → Entries → Reader Entries
  | 0, _, _, _ => none
  | fuel + 1, levels, entries, s => do
    let ((path, key), rest) ← readKey? s
    let (value, rest) ← readValue? fuel levels (skipBlanks (← skip? '=' rest))
    let entries ← addValue path key value .header entries
    match skipBlanks rest with
    | ',' :: rest => readPairs? fuel levels entries rest
    | '\x7d' :: rest => return (entries, rest)
    | _ => none

end

/-- A key and its value, up to the end of the line. -/
def readKeyValue? : Reader Statement := fun s => do
  let ((path, key), rest) ← readKey? s
  let (value, rest) ← readValue? (2 * s.length + 2) levelLimit (skipBlanks (← skip? '=' rest))
  return (.keyValue path key value, ← endLine? rest)

/-- A header, up to the end of the line. -/
def readHeader? : Reader Statement := fun s => do
  match s with
  | '[' :: '[' :: rest =>
    let ((path, key), rest) ← readKey? rest
    let rest ← skip? ']' (← skip? ']' rest)
    return (.itemHeader path key, ← endLine? rest)
  | '[' :: rest =>
    let ((path, key), rest) ← readKey? rest
    return (.header path key, ← endLine? (← skip? ']' rest))
  | _ => none

def readStatement? : Reader Statement := fun s =>
  match s with
  | '[' :: _ => readHeader? s
  | _ => readKeyValue? s

def readStatements? : Nat → List Char → Option (List Statement)
  | 0, _ => none
  | fuel + 1, s =>
    match skipGap s with
    | [] => some []
    | s => do
      let (statement, rest) ← readStatement? s
      let statements ← readStatements? fuel rest
      return statement :: statements

/-- The mark that may stand before the first line. -/
def byteOrderMark : Char := '\uFEFF'

/-- The document that a text writes. -/
def ofText? (text : String) : Option Entries :=
  let s := match text.toList with
    | c :: rest => if c == byteOrderMark then rest else c :: rest
    | [] => []
  (readStatements? (s.length + 1) s).bind ofStatements?

end Signage.Toml

/-!
Values of configuration documents, and how tables grow. A table can be written at once between
braces, under a header, or little by little through dotted keys; what was written in one way can
not be added to in all others.
-/
namespace Signage.Toml

/-- How a table came about. -/
inductive TableKind where
  /-- Written at once; nothing is added to it. -/
  | inline
  /-- Under a header of its own. -/
  | header
  /-- On the way to the header of another table. -/
  | implied
  /-- On the way to a dotted key. -/
  | dotted
  deriving DecidableEq, Repr

/-- A value. No setting is read from a real number, so these are checked and not kept; of dates
and times it is kept that they are such. -/
inductive Value where
  | string (s : String)
  | integer (n : Int)
  | real
  | boolean (b : Bool)
  | moment
  | array (items : List Value)
  | table (kind : TableKind) (entries : List (String × Value))
  /-- Tables under headers of the same name; the last is the one that is added to. -/
  | tables (earlier : List Value) (last : List (String × Value))
  deriving Inhabited

abbrev Entries := List (String × Value)

/-- The entries with another value for a key they have. -/
def Entries.replace (entries : Entries) (key : String) (value : Value) : Entries :=
  entries.map fun entry => if entry.1 = key then (key, value) else entry

/-- A change to the table at the end of a path. -/
abbrev TableChange := TableKind → Entries → Option Entries

/-- Change the table that a path leads to; tables missing on the way are made. A dotted key may
not lead through a table that has a header. -/
def modifyAt (isDotted : Bool) : List String → TableChange → TableChange
  | [], change, kind, entries => change kind entries
  | key :: path, change, _, entries =>
    match entries.lookup key with
    | none => do
      let kind : TableKind := if isDotted then .dotted else .implied
      let child ← modifyAt isDotted path change kind []
      return entries ++ [(key, .table kind child)]
    | some (.table kind child) =>
      if kind = .inline ∨ (isDotted ∧ kind = .header) then none
      else do
        let child ← modifyAt isDotted path change kind child
        return entries.replace key (.table kind child)
    | some (.tables earlier last) => do
      let last ← modifyAt isDotted path change .header last
      return entries.replace key (.tables earlier last)
    | some _ => none

/-- Add a key with a value. The last part of a dotted key belongs to a table made by dotted keys,
and a plain key to any other. -/
def addKey (isDotted : Bool) (key : String) (value : Value) : TableChange := fun kind entries =>
  if (kind = .dotted) = (isDotted = true) then
    if (entries.lookup key).isSome then none else some (entries ++ [(key, value)])
  else none

/-- Add a value under a dotted key. -/
def addValue (path : List String) (key : String) (value : Value) : TableChange :=
  modifyAt true path (addKey (!path.isEmpty) key value)

/-- Begin a table under a header; it may not have been begun before. -/
def beginTable (key : String) : TableChange := fun _ entries =>
  match entries.lookup key with
  | none => some (entries ++ [(key, .table .header [])])
  | some (.table .implied child) => some (entries.replace key (.table .header child))
  | some _ => none

/-- Begin one more table of a list of tables. -/
def beginItem (key : String) : TableChange := fun _ entries =>
  match entries.lookup key with
  | none => some (entries ++ [(key, .tables [] [])])
  | some (.tables earlier last) =>
    some (entries.replace key (.tables (earlier ++ [.table .header last]) []))
  | some _ => none

/-- A statement of a document. -/
inductive Statement where
  | keyValue (path : List String) (key : String) (value : Value)
  | header (path : List String) (key : String)
  | itemHeader (path : List String) (key : String)

/-- A document that is read in part. -/
structure Progress where
  root : Entries
  /-- The path of the table that keys are added to. -/
  current : List String

/-- The document with one more statement, if that goes with those before. -/
def Progress.add (progress : Progress) : Statement → Option Progress
  | .keyValue path key value =>
    (modifyAt false progress.current (addValue path key value) .header progress.root).map
      fun root => { progress with root }
  | .header path key =>
    (modifyAt false path (beginTable key) .header progress.root).map
      fun root => ⟨root, path ++ [key]⟩
  | .itemHeader path key =>
    (modifyAt false path (beginItem key) .header progress.root).map
      fun root => ⟨root, path ++ [key]⟩

/-- The document that statements make up. -/
def ofStatements? (statements : List Statement) : Option Entries :=
  (statements.foldlM Progress.add ⟨[], []⟩).map Progress.root

end Signage.Toml

import Signage.Content.Fragment
import Signage.Text.Blank

/-!
Resolution of stored markup: every reference is replaced by what it refers to, and that in turn is
resolved. A playlist may not contain itself, and depth and number of references are limited.
Resolution never fails outwards: a failure is reported and leaves the whole fragment empty.
-/
namespace Signage.Content

/-- Where content comes from: stored columns and pages hosted elsewhere. -/
structure Sources where
  column : Fragment → PlaylistId → Except Error Markup
  page : List Char → Except Error Markup

/-- How far one resolution may go. -/
structure Limits where
  /-- How many levels playlists may be nested below the root. -/
  maxDepth : Nat
  /-- How many references may be followed. -/
  maxExpansions : Nat
  deriving DecidableEq

def Limits.standard : Limits := ⟨16, 256⟩

/-- One access to a source. -/
inductive Read where
  | column (fragment : Fragment) (id : PlaylistId)
  | page (url : List Char)
  deriving DecidableEq

/-- What one resolution keeps track of. -/
structure Pass where
  /-- The playlists that are being resolved, the innermost first. -/
  ancestors : List PlaylistId
  /-- How many references have been followed. -/
  expansions : Nat
  /-- The accesses made, in order. -/
  reads : List Read

def Pass.start : Pass := ⟨[], 0, []⟩

/-- A computation that keeps track of a resolution, also when it fails. -/
abbrev Walk := ExceptT Error (StateM Pass)

/-- The failure of a playlist that lies deeper than allowed. -/
def nestedTooDeep (id : PlaylistId) (limits : Limits) : Error :=
  .limitExceeded s!"playlist {id.text} nested deeper than {limits.maxDepth}"

/-- The failure of following more references than allowed. -/
def tooManyExpansions (limits : Limits) : Error :=
  .limitExceeded s!"more than {limits.maxExpansions} placeholders expanded"

/-- Access a source and note the access, even if it fails. -/
def access (read : Read) (answer : Except Error Markup) : Walk Markup := do
  modify fun pass => { pass with reads := pass.reads ++ [read] }
  ExceptT.mk (pure answer)

/-- Begin with a playlist, which may not be one that is being resolved. -/
def enter (id : PlaylistId) : Walk Unit := do
  if id ∈ (← get).ancestors then throw (.cycle id)
  modify fun pass => { pass with ancestors := id :: pass.ancestors }

def leave (id : PlaylistId) : Walk Unit :=
  modify fun pass => { pass with ancestors := pass.ancestors.erase id }

def countExpansion (limits : Limits) : Walk Unit := do
  modify fun pass => { pass with expansions := pass.expansions + 1 }
  if limits.maxExpansions < (← get).expansions then throw (tooManyExpansions limits)

/-- The markup of a playlist and the kind it is resolved as. Below the root, a playlist without
exclusive markup gives its items. -/
def load (sources : Sources) (nested : Bool) (fragment : Fragment) (id : PlaylistId) :
    Walk (Markup × Fragment) := do
  let markup ← access (.column fragment id) (sources.column fragment id)
  if fragment = .exclusive && nested && Text.isBlankText markup then
    let items ← access (.column .items id) (sources.column .items id)
    return (items, .items)
  else return (markup, fragment)

/-- Put the parts together, with each reference followed in turn. -/
def expand (limits : Limits) (sources : Sources) (descend : PlaylistId → Walk Markup) :
    List Part → Walk Markup
  | [] => return []
  | .text markup :: parts => do
    let rest ← expand limits sources descend parts
    return markup ++ rest
  | .playlist id :: parts => do
    countExpansion limits
    let inner ← descend id
    let rest ← expand limits sources descend parts
    return inner ++ rest
  | .page url :: parts => do
    countExpansion limits
    let inner ← access (.page url) (sources.page url)
    let rest ← expand limits sources descend parts
    return inner ++ rest

/-- Replace the references in markup that is read as a kind. -/
def expandMarkup (limits : Limits) (sources : Sources) (descend : PlaylistId → Walk Markup)
    (fragment : Fragment) (markup : Markup) : Walk Markup := do
  let parts ← ExceptT.mk (pure (fragment.parts markup))
  expand limits sources descend parts

/-- Be done with a playlist after the walk, also if that has failed. -/
def leaving (id : PlaylistId) (walk : Walk Markup) : Walk Markup := do
  let resolved ← ExceptT.lift walk.run
  leave id
  ExceptT.mk (pure resolved)

/-- Resolve a playlist that has the given number of levels left, itself included. -/
def resolveLocal (limits : Limits) (sources : Sources) :
    (levels : Nat) → (nested : Bool) → Fragment → PlaylistId → Walk Markup
  | 0, _, _, id => throw (nestedTooDeep id limits)
  | levels + 1, nested, fragment, id => do
    enter id
    let (markup, fragment) ← load sources nested fragment id
    leaving id
      (expandMarkup limits sources (resolveLocal limits sources levels true fragment) fragment markup)

/-- A failed resolution. -/
structure Failure where
  root : PlaylistId
  fragment : Fragment
  error : Error

def Failure.report (failure : Failure) : String :=
  s!"Failed to resolve {failure.fragment.name} content, using empty fragment"

/-- The outcome of a resolution: the markup, empty on failure, and what happened on the way. -/
structure Resolution where
  markup : Markup
  reads : List Read
  failure : Option Failure

def resolve (limits : Limits) (sources : Sources) (fragment : Fragment) (id : PlaylistId) :
    Resolution :=
  match (resolveLocal limits sources (limits.maxDepth + 1) false fragment id).run.run .start with
  | (.ok markup, pass) => ⟨markup, pass.reads, none⟩
  | (.error error, pass) => ⟨[], pass.reads, some ⟨id, fragment, error⟩⟩

end Signage.Content

import Signage.Content.Placeholder
import Signage.Error

/-! The kinds of fragments of a playlist, and how each reads the placeholders in its markup. -/
namespace Signage.Content

/-- A kind of fragment; stored playlists have a column of markup for each. -/
inductive Fragment where
  | items
  | prefetch
  | exclusive
  deriving DecidableEq, Repr

namespace Fragment

def name : Fragment → String
  | items => "items"
  | prefetch => "prefetch"
  | exclusive => "exclusive"

/-- The tag of the placeholders that are followed in markup of this kind. -/
def tag : Fragment → Tag
  | items | exclusive => .items
  | prefetch => .prefetch

/-- Whether pages hosted elsewhere are spliced into markup of this kind. -/
def allowsPages : Fragment → Bool
  | prefetch => false
  | _ => true

/-- Whether a placeholder is followed in markup of this kind. -/
def follows (fragment : Fragment) (p : Placeholder) : Bool :=
  p.tag == fragment.tag && (p.url.isNone || fragment.allowsPages)

end Fragment

/-- A part of markup: text that stays, or a reference to content that takes its place. -/
inductive Part where
  | text (markup : Markup)
  | playlist (id : PlaylistId)
  | page (url : List Char)

def greatestId : Nat := Int64.maxValue.toNatClampNeg

/-- The identifier of a placeholder, which has to be proper. -/
def Placeholder.number (p : Placeholder) : Except Error PlaylistId :=
  match Text.readNumeral greatestId p.digits with
  | .ok value => .ok ⟨.ofNat value⟩
  | .error fault =>
    .error (.invalidInput s!"placeholder id {String.ofList p.digits}: {fault.message}")

/-- The reference that a placeholder makes; also the address form needs a proper identifier. -/
def Placeholder.reference (p : Placeholder) : Except Error Part :=
  p.number.map fun id => p.url.elim (.playlist id) .page

/-- A piece of markup as the kind of fragment reads it. -/
def Fragment.part (fragment : Fragment) : Text.Piece Placeholder → Except Error Part
  | .character c => .ok (.text [c])
  | .token p spelling => if fragment.follows p then p.reference else .ok (.text spelling)

/-- The parts of markup in order; the first identifier out of range makes all of it fail. -/
def Fragment.parts (fragment : Fragment) (markup : Markup) : Except Error (List Part) :=
  (Text.pieces placeholderRule markup).mapM fragment.part

end Signage.Content

/-!
Bytes that spell no text in UTF-8, and where the first of them stand. A first byte tells how many
bytes follow it and between which bounds; the bounds leave out what would be spelled in too many
bytes, surrogates, and what lies beyond the last character.
-/
namespace Signage.Text

/-- The least and the greatest byte that may stand somewhere. -/
structure ByteRange where
  least : UInt8
  greatest : UInt8

namespace ByteRange

def contains (range : ByteRange) (b : UInt8) : Bool := range.least ≤ b && b ≤ range.greatest

/-- Any byte that goes on with a character. -/
def trailing : ByteRange := ⟨0x80, 0xBF⟩

end ByteRange

/-- The ranges of the bytes that make a character of a first byte. -/
def followers? (first : UInt8) : Option (List ByteRange) :=
  if first < 0x80 then some []
  else if first < 0xC2 then none
  else if first < 0xE0 then some [.trailing]
  else if first = 0xE0 then some [⟨0xA0, 0xBF⟩, .trailing]
  else if first = 0xED then some [⟨0x80, 0x9F⟩, .trailing]
  else if first < 0xF0 then some [.trailing, .trailing]
  else if first = 0xF0 then some [⟨0x90, 0xBF⟩, .trailing, .trailing]
  else if first < 0xF4 then some [.trailing, .trailing, .trailing]
  else if first = 0xF4 then some [⟨0x80, 0x8F⟩, .trailing, .trailing]
  else none

/-- What is wrong with bytes that spell no text. -/
structure Flaw where
  /-- The number of bytes before it, all of which spell text. -/
  index : Nat
  /-- The number of bytes that belong to no character, unless the bytes just end too early. -/
  length : Option Nat
  deriving DecidableEq, Repr

def Flaw.message (flaw : Flaw) : String :=
  match flaw.length with
  | some length => s!"invalid utf-8 sequence of {length} bytes from index {flaw.index}"
  | none => s!"incomplete utf-8 byte sequence from index {flaw.index}"

/-- The first flaw from an index on, within a character that has begun and of which bytes in the
ranges are still to come. -/
def flawWithin? (start index : Nat) : List ByteRange → List UInt8 → Option Flaw
  | [], [] => none
  | _ :: _, [] => some ⟨start, none⟩
  | [], b :: rest =>
    match followers? b with
    | some ranges => flawWithin? index (index + 1) ranges rest
    | none => some ⟨index, some 1⟩
  | range :: ranges, b :: rest =>
    if range.contains b then flawWithin? start (index + 1) ranges rest
    else some ⟨start, some (index - start)⟩

/-- The first flaw of bytes that are to spell a text. -/
def flaw? (bytes : List UInt8) : Option Flaw := flawWithin? 0 0 [] bytes

/-- Bytes that spell no text. -/
structure Garbled where
  bytes : List UInt8
  isSome_flaw? : (flaw? bytes).isSome
  deriving DecidableEq

def Garbled.flaw (garbled : Garbled) : Flaw := (flaw? garbled.bytes).get garbled.isSome_flaw?

end Signage.Text

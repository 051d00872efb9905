/-!
Percent coding of texts: any byte can be written as a percent sign and two hexadecimal digits. A
percent sign that no two digits follow stands for itself.
-/
namespace Signage.Text

/-- The value of a hexadecimal digit given by its byte. -/
def hexByte? (b : UInt8) : Option UInt8 :=
  if 0x30 ≤ b ∧ b ≤ 0x39 then some (b - 0x30)
  else if 0x61 ≤ b ∧ b ≤ 0x66 then some (b - 0x61 + 10)
  else if 0x41 ≤ b ∧ b ≤ 0x46 then some (b - 0x41 + 10)
  else none

def percentByte : UInt8 := 0x25

/-- The byte that two hexadecimal digits after a percent sign stand for. -/
def escapedByte? (mark high low : UInt8) : Option UInt8 := do
  if mark ≠ percentByte then none
  else some ((← hexByte? high) * 16 + (← hexByte? low))

/-- The bytes with every escape replaced. -/
def decodeBytes : List UInt8 → List UInt8
  | mark :: high :: low :: rest =>
    match escapedByte? mark high low with
    | some b => b :: decodeBytes rest
    | none => mark :: decodeBytes (high :: low :: rest)
  | short => short

/-- The text with every escape replaced, or the text itself if what comes out is no text. -/
def percentDecode (s : String) : String :=
  (String.fromUTF8? ⟨(decodeBytes s.toUTF8.toList).toArray⟩).getD s

end Signage.Text

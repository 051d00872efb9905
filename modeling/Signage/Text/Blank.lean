/-! White space by the Unicode property of that name, and the trimming built on it. -/
namespace Signage.Text

/-- The characters with the White_Space property. -/
def isBlank (c : Char) : Bool :=
  c == ' ' || (0x09 ≤ c.val && c.val ≤ 0x0D) || c.val == 0x85 || c.val == 0xA0 ||
    c.val == 0x1680 || (0x2000 ≤ c.val && c.val ≤ 0x200A) || c.val == 0x2028 ||
    c.val == 0x2029 || c.val == 0x202F || c.val == 0x205F || c.val == 0x3000

def trimLeft (s : List Char) : List Char := s.dropWhile isBlank

def trimRight (s : List Char) : List Char := (s.reverse.dropWhile isBlank).reverse

/-- The text without the blanks around it. -/
def trim (s : List Char) : List Char := trimRight (trimLeft s)

/-- Whether nothing is left after trimming. -/
def isBlankText (s : List Char) : Bool := s.all isBlank

@[simp] theorem trim_nil : trim [] = [] := rfl

end Signage.Text

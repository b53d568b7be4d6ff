/-!
White space as Unicode has it (the property White_Space), and texts cut back to what lies between
it.
-/

namespace Admission.Text

/-- Whether a character is white space. -/
def isBlank (c : Char) : Bool :=
  let n := c.toNat
  (9 ≤ n && n ≤ 13) || n == 32 || n == 0x85 || n == 0xA0 || n == 0x1680 ||
    (0x2000 ≤ n && n ≤ 0x200A) || n == 0x2028 || n == 0x2029 || n == 0x202F || n == 0x205F ||
    n == 0x3000

/-- The text from its first character that is not white space on. -/
def skipBlanks (cs : List Char) : List Char := cs.dropWhile isBlank

/-- Whether a text is empty or nothing but white space. -/
def allBlank (s : String) : Bool := s.toList.all isBlank

/-- The ASCII letters of a text in lower case, all else as it is. -/
def asciiLower (s : String) : List Char := s.toList.map Char.toLower

/-- Whether two texts are equal when the case of ASCII letters does not count. -/
def eqIgnoreAsciiCase (a b : String) : Bool := asciiLower a == asciiLower b

end Admission.Text

import DeltaLint.Unicode.Spans

/-
  DeltaLint.Unicode.Blank — white space, and texts without it at either end.
-/

namespace DeltaLint.Unicode

/-- The code points with White_Space. -/
def Blank.spans : Spans :=
  [⟨0x9, 0xD, 1⟩, ⟨0x20, 0x20, 1⟩, ⟨0x85, 0x85, 1⟩, ⟨0xA0, 0xA0, 1⟩, ⟨0x1680, 0x1680, 1⟩, ⟨0x2000, 0x200A, 1⟩,
    ⟨0x2028, 0x2029, 1⟩, ⟨0x202F, 0x202F, 1⟩, ⟨0x205F, 0x205F, 1⟩, ⟨0x3000, 0x3000, 1⟩]

def isBlank (c : Char) : Bool := Blank.spans.contains c.toNat

/-- The text from its first character that is not white space. -/
def trimLeft (text : List Char) : List Char := text.dropWhile isBlank

/-- The text up to its last character that is not white space. -/
def trimRight (text : List Char) : List Char := (text.reverse.dropWhile isBlank).reverse

def trim (text : List Char) : List Char := trimRight (trimLeft text)

end DeltaLint.Unicode

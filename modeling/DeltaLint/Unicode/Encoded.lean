import DeltaLint.Text.Utf8
import DeltaLint.Unicode.Ranges

/-
  DeltaLint.Unicode.Encoded — ranges of characters as sequences of ranges of bytes.

  A range is cut until the encodings of each piece are all the sequences of bytes whose first, second
  and further bytes lie between those of the piece's two ends: where the number of bytes changes, and
  then where a later byte would have to begin or end in the middle.
-/

namespace DeltaLint.Unicode

/-- The bytes from the first to the last. -/
structure ByteRange where
  first : UInt8
  last : UInt8
  deriving DecidableEq, Repr

namespace CodeRange

/-- Where the range is cut so that, if it lies in more than one block, it begins and ends with whole ones. -/
def innerCut? (first last block : Nat) : Option Nat :=
  if first / block = last / block then none
  else if first % block ≠ 0 then some ((first / block + 1) * block)
  else if last % block ≠ block - 1 then some (last / block * block)
  else none

/-- Where the second of two pieces begins, if the range has to be cut. -/
def cut? (first last : Nat) : Option Nat :=
  [0x80, 0x800, 0x10000].find? (fun k => first < k && k ≤ last) <|>
    if last < 0x80 then none else [0x40, 0x1000, 0x40000].findSome? (innerCut? first last)

/-- The pieces that the range is cut into, in order. `n` bounds how often a piece is cut again. -/
def pieces : Nat → Nat → Nat → List CodeRange
  | 0, first, last => [⟨first, last⟩]
  | n + 1, first, last =>
    match cut? first last with
    | some k => pieces n first (k - 1) ++ pieces n k last
    | none => [⟨first, last⟩]

/-- The sequences of bytes that encode the characters of the range. -/
def encodings (r : CodeRange) : List (List ByteRange) :=
  (pieces 16 r.first r.last).map fun p =>
    List.zipWith ByteRange.mk (Text.Utf8.encodeChar (Char.ofNat p.first)) (Text.Utf8.encodeChar (Char.ofNat p.last))

end CodeRange

end DeltaLint.Unicode

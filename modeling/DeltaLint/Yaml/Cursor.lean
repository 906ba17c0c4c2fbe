import DeltaLint.Yaml.Fault

/-
  DeltaLint.Yaml.Cursor — a place in the text of a document.

  A line ends with a line feed, a carriage return, both in this order, a next-line character, or one
  of the two Unicode separators. The separators stand for themselves in a scalar, all others for a
  line feed.
-/

namespace DeltaLint.Yaml

def isBreak (c : Char) : Bool := c == '\n' || c == '\r' || c == '\u0085' || c == '\u2028' || c == '\u2029'

/-- Space or tab. -/
def isGap (c : Char) : Bool := c == ' ' || c == '\t'

def isGapOrBreak (c : Char) : Bool := isGap c || isBreak c

/-- What names are made of. -/
def isNameChar (c : Char) : Bool := c.isAlphanum || c == '-' || c == '_'

structure Cursor where
  rest : List Char
  line : Nat
  column : Nat
  index : Nat
  deriving DecidableEq, Repr

namespace Cursor

def start (text : List Char) : Cursor := ⟨text, 0, 0, 0⟩

/-- Whether the text ends here or the `n`-th character from here satisfies `p`. -/
def endsOr (k : Cursor) (n : Nat) (p : Char → Bool) : Bool := (k.rest[n]?).all p

/-- Whether the `n`-th character from here is there and satisfies `p`. -/
def sees (k : Cursor) (n : Nat) (p : Char → Bool) : Bool := (k.rest[n]?).any p

/-- A gap, the end of the line or the end of the text, `n` characters from here. -/
def gapAt (k : Cursor) (n : Nat) : Bool := k.endsOr n isGapOrBreak

/-- The end of the line or of the text. -/
def atLineEnd (k : Cursor) : Bool := k.endsOr 0 isBreak

/-- Goes on by `n` characters of this line. -/
def advance (k : Cursor) (n : Nat) : Cursor :=
  { k with rest := k.rest.drop n, column := k.column + n, index := k.index + n }

/-- The characters from here on that satisfy `p`, and the place after them. -/
def takeWhile (k : Cursor) (p : Char → Bool) : List Char × Cursor :=
  let cs := k.rest.takeWhile p
  (cs, k.advance cs.length)

def skipWhile (k : Cursor) (p : Char → Bool) : Cursor := (k.takeWhile p).2

/-- Passes one line break, and says what it stands for in a scalar. -/
def lineBreak (k : Cursor) : List Char × Cursor :=
  match k.rest with
  | '\r' :: '\n' :: rest => (['\n'], ⟨rest, k.line + 1, 0, k.index + 2⟩)
  | c :: rest =>
    if c = '\u2028' ∨ c = '\u2029' then ([c], ⟨rest, k.line + 1, 0, k.index + 1⟩)
    else if isBreak c then (['\n'], ⟨rest, k.line + 1, 0, k.index + 1⟩)
    else ([], k)
  | [] => ([], k)

def skipLineBreak (k : Cursor) : Cursor := k.lineBreak.2

/-- Passes a comment, up to the end of its line. -/
def skipComment (k : Cursor) : Cursor := if k.sees 0 (· == '#') then k.skipWhile (!isBreak ·) else k

/-- Three dots or three hyphens at the start of a line, with a gap after them. -/
def atMark (k : Cursor) (c : Char) : Bool :=
  k.column == 0 && [c, c, c].isPrefixOf k.rest && k.gapAt 3

def atDocumentMark (k : Cursor) : Bool := k.atMark '-' || k.atMark '.'

end Cursor

end DeltaLint.Yaml

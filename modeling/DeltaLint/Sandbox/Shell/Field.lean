import DeltaLint.Sandbox.Shell.Glob

/-
  DeltaLint.Sandbox.Shell.Field — fields, which are what words come to.

  What comes of an unquoted parameter is cut into fields at the characters of `IFS`; of these the blank
  ones count in runs, and every other one ends a field. What was quoted is never cut, and makes a field
  even where it is empty.
-/

namespace DeltaLint.Sandbox.Shell

inductive Segment where
  /-- Text that stays as it is. -/
  | fixed (text : List Char) (quoted : Bool)
  /-- Text that is cut into fields. -/
  | open (text : List Char)
  /-- The end of a field. -/
  | cut
  deriving DecidableEq, Repr

namespace Segment

def glyphs : Segment → List Glyph
  | .fixed text quoted => text.map (⟨·, quoted⟩)
  | .open text => text.map (⟨·, false⟩)
  | .cut => [⟨' ', true⟩]

/-- The text of the segments where nothing is cut. -/
def join (ss : List Segment) : List Char := (ss.flatMap glyphs).map Glyph.char

end Segment

/-- A blank that parts fields. Such blanks count in runs. -/
def isFieldBlank (ifs : List Char) (c : Char) : Bool := ifs.contains c && (c == ' ' || c == '\t' || c == '\n')

/-- The fields so far, last first, and the one under way, last character first. -/
structure Fields where
  done : List (List Glyph)
  current : Option (List Glyph)
  deriving DecidableEq, Repr

namespace Fields

def add (f : Fields) (gs : List Glyph) : Fields := { f with current := some (gs.reverse ++ f.current.getD []) }

def finish (f : Fields) : Fields :=
  match f.current with
  | some gs => ⟨gs.reverse :: f.done, none⟩
  | none => f

/-- Cuts a text. `parted` says that a blank has just ended a field, to which one separator that is no blank may still
belong. -/
def addOpen (ifs : List Char) (f : Fields) (parted : Bool) : List Char → Fields
  | [] => f
  | c :: rest =>
    if !ifs.contains c then (f.add [⟨c, false⟩]).addOpen ifs false rest
    else if isFieldBlank ifs c then f.finish.addOpen ifs (parted || f.current.isSome) rest
    else if parted then f.addOpen ifs false rest
    else { f with current := some (f.current.getD []) }.finish.addOpen ifs false rest

def addSegment (ifs : List Char) (f : Fields) (s : Segment) : Fields :=
  match s with
  | .fixed text quoted => if text.isEmpty && !quoted then f else f.add s.glyphs
  | .open text => f.addOpen ifs false text
  | .cut => f.finish

def ofSegments (ifs : List Char) (ss : List Segment) : List (List Glyph) :=
  (ss.foldl (addSegment ifs) ⟨[], none⟩).finish.done.reverse

end Fields

/-! ## Lines that are read -/

/-- Drops what parts two fields: blanks, among them at most one character that is none. -/
def dropSeparator (ifs : List Char) (gs : List Glyph) : List Glyph :=
  let isBlank (g : Glyph) : Bool := !g.quoted && isFieldBlank ifs g.char
  match gs.dropWhile isBlank with
  | g :: rest => if !g.quoted && ifs.contains g.char then rest.dropWhile isBlank else g :: rest
  | [] => []

/-- Cuts a line into `count` fields; the last one takes the rest of the line. What ends that field is dropped where
nothing comes after it. -/
def readFields (ifs : List Char) : Nat → List Glyph → List (List Char)
  | 0, _ => []
  | n + 1, line =>
    let line := line.dropWhile fun g => !g.quoted && isFieldBlank ifs g.char
    let field := line.takeWhile fun g => g.quoted || !ifs.contains g.char
    let rest := dropSeparator ifs (line.drop field.length)
    if n = 0 && !rest.isEmpty then
      [(line.reverse.dropWhile fun g => !g.quoted && isFieldBlank ifs g.char).reverse.map Glyph.char]
    else field.map Glyph.char :: readFields ifs n rest

/-- Reads a line as it is: the line, the rest, and whether the line was ended. -/
def rawLine (text : List Char) : List Glyph × List Char × Bool :=
  let line := text.takeWhile (· != '\n')
  let glyphs := (line.filter (· != '\x00')).map (⟨·, false⟩)
  match text.drop line.length with
  | _ :: rest => (glyphs, rest, true)
  | [] => (glyphs, [], false)

/-- Reads a line in which a backslash keeps the meaning of the next character, a line feed too. -/
def escapedLine : List Char → List Glyph × List Char × Bool
  | [] => ([], [], false)
  | '\n' :: rest => ([], rest, true)
  | '\\' :: '\n' :: rest => escapedLine rest
  | '\\' :: c :: rest => let (line, r) := escapedLine rest; (⟨c, true⟩ :: line, r)
  | '\x00' :: rest => escapedLine rest
  | c :: rest => let (line, r) := escapedLine rest; (⟨c, false⟩ :: line, r)

end DeltaLint.Sandbox.Shell

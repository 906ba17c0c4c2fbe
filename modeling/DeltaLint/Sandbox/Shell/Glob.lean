/-
  DeltaLint.Sandbox.Shell.Glob — patterns with wildcards.

  A star stands for any text, a question mark for any character, brackets for one of a set. What was
  quoted stands for itself.
-/

namespace DeltaLint.Sandbox.Shell

/-- A character of a word, and whether it was quoted. -/
structure Glyph where
  char : Char
  quoted : Bool
  deriving DecidableEq, Repr

inductive Wildcard where
  | one (c : Char)
  | any
  | many
  | among (negated : Bool) (ranges : List (Char × Char))
  deriving DecidableEq, Repr

abbrev Glob := List Wildcard

namespace Glob

/-- Whether the character closes a set. -/
def closes (g : Glyph) : Bool := g == ⟨']', false⟩

/-- The sets that have names. -/
def named : List (String × List (Char × Char)) :=
  [("alnum", [('0', '9'), ('A', 'Z'), ('a', 'z')]), ("alpha", [('A', 'Z'), ('a', 'z')]), ("blank", [('\t', '\t'), (' ', ' ')]),
    ("cntrl", [('\x00', '\x1f'), ('\x7f', '\x7f')]), ("digit", [('0', '9')]), ("graph", [('!', '~')]), ("lower", [('a', 'z')]),
    ("print", [(' ', '~')]), ("punct", [('!', '/'), (':', '@'), ('[', '\x60'), ('\x7b', '~')]),
    ("space", [('\t', '\r'), (' ', ' ')]), ("upper", [('A', 'Z')]), ("xdigit", [('0', '9'), ('A', 'F'), ('a', 'f')])]

/-- The ranges of the set whose name stands here in brackets and colons, and what comes after it. -/
def named? (gs : List Glyph) : Option (List (Char × Char) × List Glyph) :=
  match gs with
  | ⟨'[', false⟩ :: ⟨':', false⟩ :: rest =>
    let name := rest.takeWhile fun g => g.char != ':' && !g.quoted
    match rest.drop name.length with
    | ⟨':', false⟩ :: ⟨']', false⟩ :: rest => (named.lookup (String.ofList (name.map Glyph.char))).map (·, rest)
    | _ => none
  | _ => none

/-- The ranges of a set up to its closing bracket, which does not close it as its first member. `n` bounds how many
there are. -/
def ranges : (n : Nat) → (isFirst : Bool) → List Glyph → Option (List (Char × Char) × List Glyph)
  | 0, _, _ => none
  | _, _, [] => none
  | n + 1, isFirst, a :: rest =>
    if closes a && !isFirst then some ([], rest)
    else match named? (a :: rest), rest with
      | some (set, rest), _ => (ranges n false rest).map fun (rs, rest) => (set ++ rs, rest)
      | none, ⟨'-', false⟩ :: b :: rest =>
        if closes b then some ([(a.char, a.char), ('-', '-')], rest)
        else (ranges n false rest).map fun (rs, rest) => ((a.char, b.char) :: rs, rest)
      | none, rest => (ranges n false rest).map fun (rs, rest) => ((a.char, a.char) :: rs, rest)

/-- A set of characters after its opening bracket. -/
def set? (gs : List Glyph) : Option (Wildcard × List Glyph) :=
  match gs with
  | ⟨'!', false⟩ :: rest | ⟨'^', false⟩ :: rest => (ranges (rest.length + 1) true rest).map fun (rs, rest) => (.among true rs, rest)
  | gs => (ranges (gs.length + 1) true gs).map fun (rs, rest) => (.among false rs, rest)

def read : Nat → List Glyph → Glob
  | 0, _ => []
  | _, [] => []
  | n + 1, g :: rest =>
    match g with
    | ⟨'*', false⟩ => .many :: read n rest
    | ⟨'?', false⟩ => .any :: read n rest
    | ⟨'[', false⟩ =>
      match set? rest with
      | some (w, rest) => w :: read n rest
      | none => .one '[' :: read n rest
    | g => .one g.char :: read n rest

def ofGlyphs (gs : List Glyph) : Glob := read gs.length gs

def suffixes : List Char → List (List Char)
  | [] => [[]]
  | c :: rest => (c :: rest) :: suffixes rest

/-- Whether the whole text is one that the pattern stands for. -/
def accepts : Glob → List Char → Bool
  | [], text => text.isEmpty
  | .many :: ws, text => (suffixes text).any (accepts ws)
  | .one d :: ws, c :: rest => c == d && accepts ws rest
  | .any :: ws, _ :: rest => accepts ws rest
  | .among negated ranges :: ws, c :: rest => (ranges.any fun (a, b) => a ≤ c && c ≤ b) != negated && accepts ws rest
  | _, [] => false

/-- Whether the pattern has anything that stands for more than itself. -/
def isProper (g : Glob) : Bool := g.any fun | .one _ => false | _ => true

/-- The text without what the pattern accepts at one of its ends: the longest or the shortest such part. -/
def without (g : Glob) (atEnd longest : Bool) (text : List Char) : List Char :=
  let cuts := List.range (text.length + 1)
  let accepted (k : Nat) : Bool := g.accepts (if atEnd then text.drop k else text.take k)
  match (if atEnd = longest then cuts else cuts.reverse).find? accepted with
  | some k => if atEnd then text.take k else text.drop k
  | none => text

end Glob

end DeltaLint.Sandbox.Shell

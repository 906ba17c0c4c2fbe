import DeltaLint.Pattern.Fault
import DeltaLint.Unicode.Blank

/-
  DeltaLint.Pattern.Flags — the modes a pattern is read in.

  Flags are written as letters, those after a hyphen being switched off. In the verbose mode white
  space and comments (from `#` to the end of the line) stand between the tokens without meaning.
-/

namespace DeltaLint.Pattern

open Unicode

structure Flags where
  ignoreCase : Bool := false
  multiLine : Bool := false
  dotAll : Bool := false
  unicode : Bool := true
  returnLines : Bool := false
  verbose : Bool := false
  /-- Repetitions prefer few matches, unless a question mark says otherwise. -/
  fewFirst : Bool := false
  deriving DecidableEq, Repr

namespace Flags

/-- The flags with the one of this letter switched. -/
def switch (f : Flags) (on : Bool) : Char → Option Flags
  | 'i' => some { f with ignoreCase := on }
  | 'm' => some { f with multiLine := on }
  | 's' => some { f with dotAll := on }
  | 'u' => some { f with unicode := on }
  | 'U' => some { f with fewFirst := on }
  | 'R' => some { f with returnLines := on }
  | 'x' => some { f with verbose := on }
  | _ => none

/-- Reads letters up to a colon or a closing parenthesis, which it leaves. No letter and no hyphen comes twice, and
a hyphen has a letter after it. -/
def read (f : Flags) (on : Bool) (seen : List Char) : Reader Flags
  | [] => .error .unexpectedEnd
  | c :: rest =>
    if c = ':' ∨ c = ')' then if seen.head? = some '-' then .error .badFlags else .ok (f, c :: rest)
    else if seen.contains c then .error .badFlags
    else if c = '-' then read f false (c :: seen) rest
    else match f.switch on c with
      | some g => read g on (c :: seen) rest
      | none => .error .badFlags

end Flags

/-- Drops white space and comments. -/
def skipBlank (inComment : Bool) : List Char → List Char
  | [] => []
  | c :: rest =>
    if inComment then skipBlank (c != '\n') rest
    else if isBlank c then skipBlank false rest
    else if c = '#' then skipBlank true rest
    else c :: rest

/-- Drops what has no meaning between tokens. -/
def Flags.skip (f : Flags) (text : List Char) : List Char := if f.verbose then skipBlank false text else text

end DeltaLint.Pattern

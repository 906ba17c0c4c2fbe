import DeltaLint.Failure
import DeltaLint.Pattern.Read
import DeltaLint.Pattern.Search
import DeltaLint.Text.Pieces

/-
  DeltaLint.LineFilter — which lines of an output are about given lines of a file.

  A filter is the text of a pattern with a placeholder in it, for which the numbers of the lines stand
  as the branches of a choice. A line of the output is kept when the pattern has a match that begins
  with its first character. Without numbers to ask for everything is kept as it is.
-/

namespace DeltaLint.LineFilter

/-- The numbers in decimal, in the given order, as the branches of a choice. -/
def branches (lines : List Nat) : List Char := Text.glue '|' (lines.map Text.decimal)

/-- The parts of a filter between the placeholders. -/
def parts (template : String) : List (List Char) := Text.cut placeholder.toList template.toList

/-- How often the placeholder occurs. -/
def placeholders (template : String) : Nat := (parts template).length - 1

/-- The text of the pattern for the given lines. -/
def expand (template : String) (lines : List Nat) : List Char := List.intercalate (branches lines) (parts template)

/-- The pattern for the given lines. -/
def pattern (template : String) (lines : List Nat) : Except Failure Pattern :=
  (Pattern.read (expand template lines)).mapError (.pattern template)

/-- The lines at whose start the pattern matches. -/
def keep (p : Pattern) (output : String) : String :=
  String.ofList (Text.glue '\n' ((Text.pieces '\n' output.toList).filter p.startsIn))

/-- The part of the output that is about the lines; all of it where none are given. -/
def select (output template : String) (lines : Option (List Nat)) : Except Failure String :=
  match lines with
  | none | some [] => .ok output
  | some lines => (pattern template lines).map (keep · output)

end DeltaLint.LineFilter

import DeltaLint.Keyed

/-
  DeltaLint.Linter — linters, and which of them are for which files.

  A registry lists linters by extension. It answers alike whatever the order in which different
  extensions were filled: only the order within one extension counts.
-/

namespace DeltaLint

structure Linter where
  name : String
  program : String
  /-- What the program is given before the name of the file. -/
  arguments : List String
  /-- Which lines of the output belong to which lines of the file. -/
  filter : String
  /-- How to get the program, for one who has not got it. -/
  installation : Option String
  deriving DecidableEq, Repr

/-- Linters by extension, the extensions in increasing order and none without a linter. -/
structure Registry where
  entries : Keyed String (List Linter)
  deriving DecidableEq, Repr

namespace Registry

def empty : Registry := ⟨[]⟩

/-- Puts the linter after those of the same extension. -/
def add (r : Registry) (extension : String) (l : Linter) : Registry :=
  ⟨r.entries.alter compare extension fun known => known.getD [] ++ [l]⟩

def ofList (pairs : List (String × Linter)) : Registry := pairs.foldl (fun r (e, l) => r.add e l) empty

def get? (r : Registry) (extension : String) : Option (List Linter) := r.entries.find? compare extension

def extensions (r : Registry) : List String := r.entries.map (·.1)

/-- The first linter that runs the program, by extension and then by age. -/
def firstRunning? (r : Registry) (program : String) : Option Linter :=
  (r.entries.flatMap (·.2)).find? (·.program == program)

def isEmpty (r : Registry) : Bool := r.entries.isEmpty

end Registry

end DeltaLint

import DeltaLint.Lint

/-
  DeltaLint.Report.Style — reports as text, with colours or without.

  A styled text stands between the sequence that switches the style on and the one that switches all
  styles off. Where the text itself switches them off, the style is switched on again.
-/

namespace DeltaLint.Report

inductive Style where
  | bold
  | red
  | green
  | yellow
  deriving DecidableEq, Repr

def Style.code : Style → Nat
  | bold => 1
  | red => 31
  | green => 32
  | yellow => 33

/-- The escape sequence for a code. -/
def sequence (code : Nat) : List Char := '\x1b' :: '[' :: Text.decimal code ++ ['m']

def reset : List Char := sequence 0

def Style.apply (s : Style) (colour : Bool) (text : String) : String :=
  if colour then
    let on := sequence s.code
    String.ofList (on ++ List.intercalate (reset ++ on) (Text.cut reset text.toList) ++ reset)
  else text

/-- The line before a file is linted. -/
def header (colour : Bool) (path : String) : String := "Linting file: " ++ Style.bold.apply colour path

/-- What is said once a file was linted. -/
def status (colour : Bool) : Outcome → String
  | .ok => Style.green.apply colour "OK"
  | .skipped extension => Style.yellow.apply colour (Outcome.skipped extension).text
  | .issues comments => Style.red.apply colour "ERROR" ++ "\n" ++ comments

end DeltaLint.Report

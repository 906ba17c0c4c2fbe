import DeltaLint.Keyed
import DeltaLint.Lint

/-
  DeltaLint.Report.Json — all reports as one JSON object, by path.

  Keys stand in increasing order of their code points, and of two reports for one path the later counts.
  In a string, the quote, the backslash and control characters are escaped and nothing else.
-/

namespace DeltaLint.Report

/-- The outcome for a file, by the path as it is shown. -/
structure Entry where
  path : String
  outcome : Outcome
  deriving DecidableEq, Repr

inductive Json where
  | string (s : String)
  | array (items : List Json)
  | object (fields : List (String × Json))
  deriving Repr

namespace Json

/-! ## Text -/

def escapedChar (c : Char) : List Char :=
  match c with
  | '"' => ['\\', '"']
  | '\\' => ['\\', '\\']
  | '\x08' => ['\\', 'b']
  | '\t' => ['\\', 't']
  | '\n' => ['\\', 'n']
  | '\x0c' => ['\\', 'f']
  | '\r' => ['\\', 'r']
  | _ =>
    if c.toNat < 0x20 then
      ['\\', 'u', '0', '0'] ++ (if c.toNat < 0x10 then ['0'] else []) ++ Text.hex c.toNat
    else [c]

def quotedText (s : String) : List Char := '"' :: s.toList.flatMap escapedChar ++ ['"']

/-- Where lines begin, in a layout over several lines: how far in. -/
abbrev Layout := Option Nat

/-- The start of a line, where there are lines. -/
def newline : Layout → List Char
  | none => []
  | some depth => '\n' :: List.replicate (2 * depth) ' '

def deeper (l : Layout) : Layout := l.map (· + 1)

def colon : Layout → List Char
  | none => [':']
  | some _ => [':', ' ']

/-- Items between brackets, each on a line of its own where there are lines. -/
def bracketed (l : Layout) (opening closing : Char) (items : List (List Char)) : List Char :=
  if items.isEmpty then [opening, closing]
  else
    opening :: List.intercalate [','] (items.map (newline (deeper l) ++ ·)) ++ newline l ++ [closing]

def write (l : Layout) : Json → List Char
  | string s => quotedText s
  | array items => bracketed l '[' ']' (writeItems (deeper l) items)
  | object fields => bracketed l '\x7b' '\x7d' (writeFields (deeper l) fields)
where
  writeItems (l : Layout) : List Json → List (List Char)
    | [] => []
    | j :: rest => write l j :: writeItems l rest
  writeFields (l : Layout) : List (String × Json) → List (List Char)
    | [] => []
    | (k, j) :: rest => (quotedText k ++ colon l ++ write l j) :: writeFields l rest

end Json

/-! ## Reports -/

/-- The comments line by line. -/
def commentLines (comments : String) : List String := (Text.pieces '\n' comments.toList).map String.ofList

def Json.ofOutcome : Outcome → Json
  | .ok => .object [("status", .string "ok")]
  | .skipped extension => .object [("extension", .string extension), ("status", .string "skipped")]
  | .issues comments =>
    .object [("comments", .array ((commentLines comments).map .string)), ("status", .string "issues")]

/-- The outcomes by path. -/
def byPath (reports : List Entry) : Keyed String Outcome :=
  Keyed.ofList compare (reports.map fun r => (r.path, r.outcome))

def Json.ofReports (reports : List Entry) : Json :=
  .object ((byPath reports).map fun (path, outcome) => (path, .ofOutcome outcome))

/-- All reports as one text, over several lines or on one. -/
def json (pretty : Bool) (reports : List Entry) : String :=
  String.ofList ((Json.ofReports reports).write (if pretty then some 0 else none))

end DeltaLint.Report

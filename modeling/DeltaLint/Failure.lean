import DeltaLint.Pattern.Fault
import DeltaLint.Yaml.Value
import DeltaLint.Yaml.Fault

/-
  DeltaLint.Failure — why a run stops, and what it says then.

  A failure is told to the user with contexts around it, the outermost first. Its own text often ends
  with the text of what caused it, and the full account then gives the cause once more.
-/

namespace DeltaLint

/-- What the system answers when a file or program cannot be used. -/
inductive HostFault where
  | notFound
  | permissionDenied
  | notADirectory
  | isADirectory
  | tooManyLinks
  | notText
  | nulInName
  | other (text : String)
  deriving DecidableEq, Repr

def HostFault.message : HostFault → String
  | .notFound => "No such file or directory (os error 2)"
  | .permissionDenied => "Permission denied (os error 13)"
  | .notADirectory => "Not a directory (os error 20)"
  | .isADirectory => "Is a directory (os error 21)"
  | .tooManyLinks => "Too many levels of symbolic links (os error 40)"
  | .notText => "stream did not contain valid UTF-8"
  | .nulInName => "nul byte found in provided data"
  | .other text => text

/-- Why an entry of a configuration does not describe a linter. -/
inductive EntryFault where
  | missingField (name : String)
  | duplicateField (name : String)
  | wrongType (found : Yaml.Value) (expected : String)
  deriving Repr

/-- A value by its kind and, where it is short, by itself. -/
def describe (v : Yaml.Value) : String :=
  match v.untagged with
  | .null => "unit value"
  | .bool b => s!"boolean `{b}`"
  | .number (.int n) => s!"integer `{n}`"
  | .number (.float bits) =>
    let text :=
      if Text.Shortest.isNaN bits then "NaN"
      else if !Text.Shortest.isFinite bits then if Text.Shortest.isNegative bits then "-inf" else "inf"
      else String.ofList (Text.Shortest.text Text.Shortest.positional bits)
    s!"floating point `{text}`"
  | .string s => s!"string {String.ofList (Yaml.shownString s)}"
  | .sequence _ => "sequence"
  | .mapping _ => "map"
  | .tagged .. => "enum"

def EntryFault.message : EntryFault → String
  | .missingField name => s!"missing field `{name}`"
  | .duplicateField name => s!"duplicate field `{name}`"
  | .wrongType found expected => s!"invalid type: {describe found}, expected {expected}"

/-- Why a linter that an entry describes cannot be used. -/
inductive ConfigProblem where
  | nameNotText (key : Yaml.Value)
  | emptyCommand (name : String)
  | noExtensions (name : String)
  | badExtension (name extension : String)
  | placeholderCount (name : String) (found : Nat)
  | other (text : String)
  deriving Repr

/-- What the numbers of the lines take the place of in a filter. -/
def placeholder : String := "%(lines)s"

def ConfigProblem.message : ConfigProblem → String
  | .nameNotText key => s!"linter name must be a string: {String.ofList (key.shown false)}"
  | .emptyCommand name => s!"{name}: command is empty"
  | .noExtensions name => s!"{name}: no extensions listed"
  | .badExtension name extension => s!"{name}: extension '{extension}' must start with '.'"
  | .placeholderCount name found => s!"{name}: filter must contain {placeholder} exactly once, found {found}"
  | .other text => text

inductive ParseFault where
  | document (f : Yaml.Fault)
  | entry (f : EntryFault)
  deriving Repr

inductive Failure where
  /-- A linter could not be started. One that ran is none, however it ended. -/
  | execution (program : String) (cause : HostFault)
  | pattern (template : String) (fault : Pattern.Fault)
  | config (problem : ConfigProblem)
  | configRead (path : String) (cause : HostFault)
  | configParse (fault : ParseFault)
  | git (command message : String)
  | notARepository
  deriving Repr

/-- How the accounts of patterns and documents that go wrong are worded. -/
abbrev Wording := String → String

namespace ParseFault

/-- The text of the fault. What belongs to a place in a document is worded by `w`. -/
def text (w : Wording) : ParseFault → String
  | document f => if f.hasPlace then w f.message else f.message
  | entry f => f.message

end ParseFault

namespace Failure

/-- The text of the cause, where the failure has one of its own. -/
def cause? (w : Wording) : Failure → Option String
  | execution _ cause => some cause.message
  | pattern _ fault => some (w fault.message)
  | configRead _ cause => some cause.message
  | configParse fault => some (fault.text w)
  | _ => none

def text (w : Wording) : Failure → String
  | execution program cause => s!"failed to execute '{program}': {cause.message}"
  | pattern template fault => s!"invalid line filter '{template}': {w fault.message}"
  | config problem => s!"invalid configuration: {problem.message}"
  | configRead path cause => s!"failed to read config file '{path}': {cause.message}"
  | configParse fault => s!"failed to parse config: {fault.text w}"
  | git command message => s!"git {command} failed: {message}"
  | notARepository => "Not a git repository"

def exitCode : Failure → Nat
  | config _ | configRead .. | configParse _ | pattern .. => 3
  | execution .. => 4
  | git .. | notARepository => 128

end Failure

/-- What stops a run. -/
inductive Cause where
  | failure (f : Failure)
  /-- Arguments that name no file. -/
  | fileNotFound (names : List String)
  /-- The last commit was asked for where there is none. -/
  | noCommits
  | host (fault : HostFault)
  | other (text : String)
  deriving Repr

namespace Cause

def text (w : Wording) : Cause → String
  | failure f => f.text w
  | fileNotFound names => "file not found: " ++ ", ".intercalate names
  | noCommits => "--last-commit requires a repository with at least one commit"
  | host fault => fault.message
  | other text => text

def exitCode : Cause → Nat
  | failure f => f.exitCode
  | fileNotFound _ | noCommits => 2
  | host _ | other _ => 5

end Cause

/-- A run that was stopped, with what it was about, the outermost context first. -/
structure Abort where
  contexts : List String
  cause : Cause
  deriving Repr

namespace Abort

def ofCause (c : Cause) : Abort := ⟨[], c⟩

def ofFailure (f : Failure) : Abort := ⟨[], .failure f⟩

def addContext (a : Abort) (context : String) : Abort := { a with contexts := context :: a.contexts }

/-- Every text of the account, from the outermost context to the innermost cause. -/
def chain (w : Wording) (a : Abort) : List String :=
  a.contexts ++ a.cause.text w :: match a.cause with
    | .failure f => (f.cause? w).toList
    | _ => []

/-- The outermost text. -/
def headline (w : Wording) (a : Abort) : String := (a.chain w).headD ""

/-- The full account on one line. -/
def account (w : Wording) (a : Abort) : String := ": ".intercalate (a.chain w)

/-- The exit status. Contexts have no part in it. -/
def exitCode (a : Abort) : Nat := a.cause.exitCode

end Abort

end DeltaLint

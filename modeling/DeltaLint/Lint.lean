import DeltaLint.Host
import DeltaLint.LineFilter
import DeltaLint.Linter
import DeltaLint.Path

/-
  DeltaLint.Lint — the linters for a file, run one after the other.

  A linter is given its arguments and the name of the file. What it writes is cut down to what is about
  the given lines; its exit status says nothing. The first linter that cannot be started, or whose
  filter is no pattern, ends the matter, and what the others wrote is lost.
-/

namespace DeltaLint

inductive Outcome where
  | ok
  /-- There is no linter for the extension. -/
  | skipped (extension : String)
  | issues (comments : String)
  deriving DecidableEq, Repr

namespace Outcome

def text : Outcome → String
  | ok => "OK"
  | skipped extension => s!"SKIPPED: no linters configured for extension '{extension}'"
  | issues comments => comments

def hasIssues : Outcome → Bool
  | issues _ => true
  | _ => false

/-- What the outputs add up to: those that are not empty, one after the other. -/
def ofOutputs (outputs : List String) : Outcome :=
  match outputs.filter (· != "") with
  | [] => ok
  | comments => issues ("\n".intercalate comments)

end Outcome

variable {σ : Type}

/-- Runs one linter on a file. -/
def Linter.run (host : Host σ) (l : Linter) (file : String) (lines : Option (List Nat)) : Job σ Failure String := do
  let arguments := l.arguments ++ [file]
  match ← Job.act (.launched l.program arguments) (host.launch l.program arguments) with
  | .error cause => throw (.execution l.program cause)
  | .ok captured => liftExcept (LineFilter.select captured.text l.filter lines)
where
  liftExcept (r : Except Failure String) : Job σ Failure String := ExceptT.mk (pure r)

/-- Runs all linters for the file, about the given lines or, without any, about all of it. -/
def lint (host : Host σ) (registry : Registry) (file : String) (lines : Option (List Nat)) :
    Job σ Failure Outcome := do
  let extension := Path.extension file
  match registry.get? extension with
  | none => return .skipped extension
  | some linters => return .ofOutputs (← linters.mapM (·.run host file lines))

/-- The outcome for a file when its linters, if it has any, have nothing to say. -/
def Registry.silentOutcome (r : Registry) (file : String) : Outcome :=
  let extension := Path.extension file
  match r.get? extension with
  | some _ => .ok
  | none => .skipped extension

end DeltaLint

import DeltaLint.Git.Changes
import DeltaLint.Host
import DeltaLint.Keyed
import DeltaLint.Path

/-
  DeltaLint.Git.Repository — what git is asked about a repository.

  Git is run in a directory, and what it writes is read as UTF-8. When it fails, what it wrote to its
  errors is the message.
-/

namespace DeltaLint.Git

open Text Unicode

variable {σ : Type}

/-- Bytes as text, with U+FFFD where they are none. -/
def decoded (bytes : List UInt8) : String := String.ofList (Utf8.decode bytes)

/-- Runs git and gives back its output. -/
def output (host : Host σ) (directory : String) (arguments : List String) : Job σ Failure String := do
  let command := " ".intercalate arguments
  match ← Job.act (.git directory arguments) (host.git directory arguments) with
  | .error fault => throw (.git command fault.message)
  | .ok reply =>
    if reply.succeeded then return decoded reply.output
    throw (.git command (String.ofList (trim (Utf8.decode reply.errors))))

/-- The text without white space at its ends, unless that leaves nothing. -/
def trimmed? (text : String) : Option String :=
  let t := trim text.toList
  if t.isEmpty then none else some (String.ofList t)

/-- The top directory of the repository around `directory`, if there is one. -/
def root? (host : Host σ) (directory : String) : Job σ Failure (Option String) := do
  try
    return trimmed? (← output host directory ["rev-parse", "--show-toplevel"])
  catch failure =>
    match failure with
    | .git _ message => if hasPart "not a git repository".toList message.toList then return none else throw failure
    | _ => throw failure

/-- The hash of the last commit, if there is one. -/
def lastCommit? (host : Host σ) (root : String) : Job σ Failure (Option String) := do
  try
    return trimmed? (← output host root ["rev-parse", "HEAD"])
  catch _ => return none

/-- The changed files by absolute path: those of the commit, or else those not committed yet. -/
abbrev Changed := Keyed String Change

def changed (host : Host σ) (root : String) (trackedOnly : Bool) (commit : Option String) : Job σ Failure Changed := do
  let files ← match commit with
    | some commit => do
      let text ← output host root ["diff-tree", "-r", "--root", "--no-commit-id", "--name-status", commit]
      pure (commitEntries text)
    | none => do
      let text ← output host root ["status", "--porcelain", "--untracked-files=all", "--ignore-submodules=all"]
      pure (statusEntries text trackedOnly)
  return Keyed.ofList Path.order (files.map fun (name, s) => (Path.join root name, s))

/-- The lines of a file that were changed. None are given for a file that counts as a whole: one that is new or has
not changed. -/
def changedLines (host : Host σ) (root file : String) (status : Option Change) (commit : Option String) :
    Job σ Failure (Option (List Nat)) := do
  if status != some .modified then return none
  return some (blamedLines (← output host root ["blame", "--porcelain", "--", file]) commit)

end DeltaLint.Git

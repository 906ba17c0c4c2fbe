import DeltaLint.CommandLine
import DeltaLint.Config.Builtin
import DeltaLint.Config.Document
import DeltaLint.Git.Repository
import DeltaLint.Report.Json
import DeltaLint.Report.Style

/-
  DeltaLint.Run — a run from the command line to the exit status.

  In order: the repository, the configuration, the last commit where it is asked for, the changed files,
  the files to lint, and then these one by one. As text the report comes file by file, as JSON at the
  end and all at once. The first thing that fails stops the run.
-/

namespace DeltaLint

variable {σ : Type}

/-! ## Configuration -/

def configFileName : String := ".gitlint.yaml"

namespace Config

inductive Source where
  | builtin
  | file (path : String)
  deriving DecidableEq, Repr

/-- The registry that a file describes. -/
def ofFile (host : Host σ) (path : String) : Job σ Failure Registry := do
  match ← Job.ask (host.readText · path) with
  | .error cause => throw (.configRead path cause)
  | .ok text => ExceptT.mk (pure (ofText text))

/-- The registry to use: that of the file asked for, else that of the repository, else the built-in one. -/
def find (host : Host σ) (root : String) (explicit : Option String) : Job σ Failure (Registry × Source) := do
  let path ← match explicit with
    | some path => pure (some path)
    | none => do
      let path := Path.join root configFileName
      pure (if ← Job.ask (host.isFile · path) then some path else none)
  match path with
  | some path => return (← ofFile host path, .file path)
  | none => return (builtin, .builtin)

end Config

/-! ## Files -/

/-- The files to lint, with the status of those that changed. -/
abbrev Targets := Keyed String (Option Change)

/-- The targets: the files named, or all that changed where none is named. All names are checked first. -/
def targets (host : Host σ) (directory : String) (names : List String) (changed : Git.Changed) :
    Job σ Abort Targets := do
  if names.isEmpty then return changed.map fun (path, s) => (path, some s)
  let missing ← names.filterM fun name => return !(← Job.ask (host.isFile · (Path.join directory name)))
  if !missing.isEmpty then throw (.ofCause (.fileNotFound missing))
  let found ← names.mapM fun name => do
    match ← Job.ask (host.canonical · (Path.join directory name)) with
    | .ok path => return (path, changed.find? Path.order path)
    | .error fault => throw ((Abort.ofCause (.host fault)).addContext s!"cannot resolve {name}")
  return Keyed.ofList Path.order found

/-- The failure with the hint how to get the program that could not be started, if the registry has one. -/
def withHint (registry : Registry) (failure : Failure) : Abort :=
  let hint := match failure with
    | .execution program _ => (registry.firstRunning? program).bind (·.installation)
    | _ => none
  match hint with
  | some hint => (Abort.ofFailure failure).addContext hint
  | none => .ofFailure failure

/-! ## The run -/

/-- What stays the same while the targets are linted. -/
structure Plan where
  options : Options
  colour : Bool
  directory : String
  root : String
  registry : Registry
  commit : Option String
  deriving DecidableEq, Repr

/-- Lints one target and, where the report is text, prints what there is to say about it. -/
def Plan.lintTarget (host : Host σ) (p : Plan) (file : String) (status : Option Change) :
    Job σ Abort Report.Entry := do
  let shown := Path.shown file p.directory
  if !p.options.json then Job.print (Report.header p.colour shown)
  let lines ←
    if p.options.force then pure none
    else Job.adaptFailure .ofFailure (Git.changedLines host p.root file status p.commit)
  let outcome ← match lines with
    | some [] => pure (p.registry.silentOutcome file)
    | lines => Job.adaptFailure (withHint p.registry) (lint host p.registry file lines)
  if !p.options.json then Job.print (Report.status p.colour outcome)
  return ⟨shown, outcome⟩

/-- Everything up to the targets. -/
def prepare (host : Host σ) (options : Options) (colour : Bool) : Job σ Abort (Plan × Targets) := do
  let directory ← match ← Job.ask host.workingDirectory with
    | .ok directory => pure directory
    | .error fault => throw ((Abort.ofCause (.host fault)).addContext "cannot determine the current directory")
  let some root ← Job.adaptFailure .ofFailure (Git.root? host directory) | throw (.ofFailure .notARepository)
  let root := match ← Job.ask (host.canonical · root) with
    | .ok root => root
    | .error _ => root
  let (registry, _) ← Job.adaptFailure .ofFailure (Config.find host root options.config)
  let commit ←
    if options.lastCommit then
      match ← Job.adaptFailure .ofFailure (Git.lastCommit? host root) with
      | some commit => pure (some commit)
      | none => throw (.ofCause .noCommits)
    else pure none
  let changed ← Job.adaptFailure .ofFailure (Git.changed host root options.tracked commit)
  let ts ← targets host directory options.files changed
  return (⟨options, colour && !options.noColour, directory, root, registry, commit⟩, ts)

/-- Runs as the options ask for. The result is the exit status: 1 where a file has issues, and else 0. -/
def run (host : Host σ) (options : Options) (colour : Bool) : Job σ Abort Nat := do
  let (p, ts) ← prepare host options colour
  let reports ← ts.mapM fun (file, status) => p.lintTarget host file status
  if options.json then Job.print (Report.json options.pretty reports)
  return if reports.any (·.outcome.hasIssues) then 1 else 0

end DeltaLint

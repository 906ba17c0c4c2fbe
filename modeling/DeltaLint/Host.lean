import DeltaLint.Failure

/-
  DeltaLint.Host — what a run asks of the system it runs on.

  The system is a state with answers to questions about it; starting git or a linter may change it. A
  job works on a session: the state of the system and the events so far, which are what an observer
  sees. Events stay where a job fails.

  The names of files are text here, so every name that is asked for or answered is UTF-8. The names of a
  system may be other bytes too; `Path.shownBytes` says how those are shown.
-/

namespace DeltaLint

/-- What git answered, as the bytes it wrote. -/
structure Reply where
  output : List UInt8
  errors : List UInt8
  succeeded : Bool
  deriving DecidableEq, Repr

/-- What a program wrote before it ended. -/
structure Captured where
  text : String
  /-- None when a signal ended it. -/
  exitCode : Option Int
  deriving DecidableEq, Repr

structure Host (σ : Type) where
  workingDirectory : σ → Except HostFault String
  isFile : σ → String → Bool
  /-- The absolute path of what is there, without links and dots. -/
  canonical : σ → String → Except HostFault String
  readText : σ → String → Except HostFault String
  git : (directory : String) → (arguments : List String) → σ → Except HostFault Reply × σ
  launch : (program : String) → (arguments : List String) → σ → Except HostFault Captured × σ

inductive Event where
  /-- A line was printed. -/
  | printed (text : String)
  | git (directory : String) (arguments : List String)
  | launched (program : String) (arguments : List String)
  deriving DecidableEq, Repr

structure Session (σ : Type) where
  world : σ
  /-- What happened so far, the last first. -/
  events : List Event

/-- A job on a session that gives an `α` or stops with an `ε`. -/
abbrev Job (σ ε α : Type) := ExceptT ε (StateM (Session σ)) α

namespace Job

variable {σ ε ε' α : Type}

/-- Asks about the system. -/
def ask (question : σ → α) : Job σ ε α := do return question (← get).world

/-- Does something that may change the system, and records it. -/
def act (event : Event) (action : σ → α × σ) : Job σ ε α :=
  modifyGet fun s => let (a, w) := action s.world; (a, ⟨w, event :: s.events⟩)

def print (text : String) : Job σ ε Unit := modify fun s => { s with events := .printed text :: s.events }

/-- The job with its failures put another way. -/
def adaptFailure (f : ε → ε') (job : Job σ ε α) : Job σ ε' α := ExceptT.adapt f job

/-- The job's end and the session it leaves. -/
def runOn (job : Job σ ε α) (world : σ) : Except ε α × Session σ := (ExceptT.run job).run ⟨world, []⟩

end Job

namespace Session

variable {σ : Type}

/-- The lines printed, in order. -/
def printedLines (s : Session σ) : List String :=
  s.events.reverse.filterMap fun | .printed text => some text | _ => none

/-- The programs started, in order. -/
def launches (s : Session σ) : List (String × List String) :=
  s.events.reverse.filterMap fun | .launched program arguments => some (program, arguments) | _ => none

end Session

end DeltaLint

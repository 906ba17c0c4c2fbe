import DeltaLint.Sandbox.Shell.Builtin.Settings
import DeltaLint.Sandbox.Shell.Builtin.Signals
import DeltaLint.Sandbox.Shell.Printing
import DeltaLint.Sandbox.Shell.Test

/-
  DeltaLint.Sandbox.Shell.Builtin — the commands of the shell itself that run no other commands.
-/

namespace DeltaLint.Sandbox.Shell.Builtin

open Run

/-- Sets the status from an answer. -/
def succeedIf (b : Bool) : Run Unit := setStatus (if b then 0 else 1)

/-- The argument as a number that is not negative, or the given one where there is no argument. -/
def count? (arguments : List (List Char)) (missing : Nat) : Option Nat :=
  match arguments with
  | [] => some missing
  | a :: _ => (Text.digits? 10 a).filter (· < 0x80000000)

def illegalNumber (arguments : List (List Char)) : List Char := "Illegal number: ".toList ++ arguments.headD []

def print (arguments : List (List Char)) : Run Unit :=
  given "" "" arguments fun g => do
    match g.operands with
    | [] => refuse "usage: printf format [arg ...]".toList
    | format :: arguments =>
      let p := formatted .double format (arguments.length + 1) arguments
      p.faults.forM fun f => complain f.message
      write 1 p.text
      setStatus (if p.faults.any PrintFault.isFatal then 2 else if p.faults.isEmpty then 0 else 1)

def test (arguments : List (List Char)) : Run Unit := do
  let s ← get
  match Test.answer ⟨s.machine.tree, s.process.directory, decoded⟩ arguments with
  | .ok b => succeedIf b
  | .error text => refuse text

def bracket (arguments : List (List Char)) : Run Unit :=
  if arguments.getLast? == some [']'] then test arguments.dropLast else refuse "missing ]".toList

def shift (arguments : List (List Char)) : Run Unit := do
  match count? arguments 1 with
  | none => refuse (illegalNumber arguments)
  | some n =>
    if (← process).arguments.length < n then refuse "can't shift that many".toList
    else modifyProcess fun p => { p.setArguments (p.arguments.drop n) with status := 0 }

/-- Leaves loops, or goes on with one of them. Without a loop around nothing happens. -/
def leaveLoops (jump : Nat → Jump) (arguments : List (List Char)) : Run Unit := do
  match count? arguments 1 with
  | none | some 0 => refuse (illegalNumber arguments)
  | some n =>
    setStatus 0
    let loops := (← process).loops
    if loops != 0 then throw (jump (min n loops))

def leave (jump : Jump) (arguments : List (List Char)) : Run Unit := do
  match count? arguments (← process).status with
  | none => refuse (illegalNumber arguments)
  | some n =>
    setStatus n
    throw jump

end Builtin

/-- A command of the shell itself that runs no other commands. -/
def builtin? (name : String) : Option (List (List Char) → Run Unit) :=
  match name with
  | ":" | "true" => some fun _ => Run.setStatus 0
  | "false" => some fun _ => Run.setStatus 1
  | "echo" => some fun arguments => do
    Run.write 1 (echoed arguments)
    Run.setStatus 0
  | "printf" => some Builtin.print
  | "test" => some Builtin.test
  | "[" => some Builtin.bracket
  | "read" => some Builtin.read
  | "export" => some (Builtin.markAll name Variable.exported fun v => { v with exported := true })
  | "readonly" => some (Builtin.markAll name Variable.readOnly fun v => { v with readOnly := true })
  | "local" => some fun arguments => do
    if (← Run.process).inFunction then Builtin.declare arguments Builtin.declareLocal
    else Run.refuse "not in a function".toList
  | "unset" => some Builtin.unsetAll
  | "getopts" => some Builtin.getLetter
  | "alias" => some Builtin.abbreviate
  | "unalias" => some Builtin.forget
  | "set" => some Builtin.set
  | "shift" => some Builtin.shift
  | "break" => some (Builtin.leaveLoops .leave)
  | "continue" => some (Builtin.leaveLoops .again)
  | "return" => some (Builtin.leave .back)
  | "exit" => some (Builtin.leave .exit)
  | "cd" => some Builtin.changeDirectory
  | "pwd" => some Builtin.workingDirectory
  | "kill" => some Builtin.kill
  | "trap" => some Builtin.trap
  | "umask" => some Builtin.umask
  | "times" => some fun _ => do
    Run.write 1 "0m0.000000s 0m0.000000s\n0m0.000000s 0m0.000000s\n".toList
    Run.setStatus 0
  | "jobs" => some fun _ => Run.setStatus 0
  | "fg" | "bg" => some fun _ => Run.refuse "No current job".toList
  | _ => none

end DeltaLint.Sandbox.Shell

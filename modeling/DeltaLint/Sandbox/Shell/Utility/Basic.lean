import DeltaLint.Sandbox.Shell.State

/-
  DeltaLint.Sandbox.Shell.Utility.Basic — what programs without a file of their own text have in common.

  Their complaints begin with the name that they were called by.
-/

namespace DeltaLint.Sandbox.Shell.Utility

open Run
open Text (ofBytes)

/-- Complains and goes on with the status of a failure. -/
def warn (name text : List Char) (status : Nat) : Run Unit := do
  write 2 (name ++ ": ".toList ++ text ++ ['\n'])
  setStatus status

/-- The text in quotes, in double ones if it has a single one in it and nothing that would mean more in those. -/
def quoted (text : List Char) : List Char :=
  if text.contains '\'' && !text.any ("\"$\\\x60!".toList.contains ·) then '"' :: text ++ ['"']
  else '\'' :: text.flatMap (fun c => if c = '\'' then "'\\''".toList else [c]) ++ ['\'']

def seeHelp (name : List Char) : List Char := "\nTry '".toList ++ name ++ " --help' for more information.".toList

/-- Takes all that is left to read. -/
def takeInput : Run (List Char) := do
  let s ← get
  let channel := (s.process.channel? 0).getD .nothing
  modifyMachine (·.setUnread channel [])
  return s.machine.unreadOf channel

/-- The bytes of a file, or of the input where that is meant. -/
def contents (file : List Char) : Run (Except HostFault (List Char)) := do
  if file = ['-'] || file = "/dev/stdin".toList then return .ok (← takeInput)
  else
    let s ← get
    return (s.machine.tree.read s.process.directory (decoded file)).map ofBytes

/-- Goes through files, or the input where there are none, and complains about those that cannot be read. -/
def eachFile (name : List Char) (files : List (List Char)) (act : List Char → List Char → Run Unit) : Run Unit := do
  setStatus 0
  (if files.isEmpty then [['-']] else files).forM fun file => do
    match ← contents file with
    | .ok text => act file text
    | .error fault => warn name (file ++ ": ".toList ++ encoded (reason fault)) 1

/-- The letters of the options among the arguments, and the other arguments. -/
def lettersAndOthers (arguments : List (List Char)) : List Char × List (List Char) :=
  let isOption (a : List Char) : Bool := a.head? == some '-' && 1 < a.length
  (((arguments.filter isOption).map (·.drop 1)).flatten, arguments.filter (!isOption ·))

end DeltaLint.Sandbox.Shell.Utility

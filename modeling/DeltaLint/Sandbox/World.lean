import DeltaLint.Host
import DeltaLint.Sandbox.Shell.Eval

/-
  DeltaLint.Sandbox.World — a system in memory on which a run can be rehearsed.

  It has a tree of files, a working directory and a search path. Programs are scripts of the shell or the
  few that are built in; what they do to the tree stays. Git, where it is there, is one of them: each
  call takes the next of a list of answers and is written down with the directory it was made in.
-/

namespace DeltaLint.Sandbox

structure World where
  tree : Tree
  directory : String
  searchPath : List String
  /-- The answers that git has left. -/
  answers : List Shell.Answer
  /-- The directories and arguments of the calls that git answered, the last first. -/
  calls : List (String × List String)

namespace World

def hasNul (text : String) : Bool := text.toList.contains '\x00'

def executable (w : World) (program : String) : Except HostFault (String × Node) :=
  w.tree.executable w.directory w.searchPath program

/-- How many steps a program may take. -/
def fuel : Nat := 10000000

/-- The sinks for output and for errors, and the numbers of the first process and of what comes after it. -/
def outputSink : Nat := 0

def errorSink : Nat := 1

def firstProcess : Nat := 4242

/-- A process about to run something in a directory of the world. -/
def process (w : World) (directory : String) (errors : Nat) : Shell.Process where
  number := firstProcess
  shell := firstProcess
  directory := directory
  bindings := [("PATH", ":".intercalate w.searchPath), ("PWD", w.directory), ("HOME", "/root")].map fun (name, value) =>
    (name.toList, ⟨some (Shell.encoded value), true, false⟩)
  functions := []
  descriptors := [(0, .nothing), (1, .sink outputSink), (2, .sink errors)]
  name := []
  arguments := []
  line := 0
  builtin := none
  status := 0
  captured := 0
  options := []
  traps := []
  pending := []
  loops := 0
  guarded := false
  inFunction := false
  locals := []
  lastChild := none
  mask := 0o022
  nextOption := (1, none)
  aliases := []
  lost := false

def machine (w : World) : Shell.Machine :=
  ⟨w.tree, w.answers, w.calls, [(outputSink, []), (errorSink, [])], [], firstProcess + 1⟩

/-- Why a file that may be run cannot be: what is to run it is not there, or the file does not say. -/
def startFault? (w : World) (n : Node) : Option HostFault :=
  match n with
  | .file bytes _ =>
    match Shell.interpreter? bytes with
    | some (path, _) =>
      match w.tree.program w.directory path with
      | .ok _ => none
      | .error fault => some fault
    | none => some (.other "Exec format error (os error 8)")
  | _ => none

/-- Runs a program in a directory, with the sink that its errors go to: how it ended, and the machine it leaves. -/
def start (directory : String) (errors : Nat) (program : String) (arguments : List String) (w : World) :
    Except HostFault (Shell.Ending × Shell.Machine) := do
  if hasNul program || hasNul directory || arguments.any hasNul then throw .nulInName
  let place ← w.tree.resolve w.directory directory
  if w.tree.node? place != some .directory then throw .notADirectory
  let (path, node) ← w.executable program
  if let some fault := w.startFault? node then throw fault
  let p := w.process (Tree.text place) errors
  let job := Shell.launch fuel (Shell.encoded program) (path, node) (arguments.map Shell.encoded)
  let (ending, s) := (Shell.runAs p job).run.run ⟨w.machine, p, [], []⟩
  return (ending.toOption.getD (.signal 9), s.machine)

/-- The world after a run. -/
def after (w : World) (m : Shell.Machine) : World := { w with tree := m.tree, answers := m.answers, calls := m.calls }

def written (m : Shell.Machine) (sink : Nat) : List Char := (m.takeSink (.sink sink)).1

def git (directory : String) (arguments : List String) (w : World) : Except HostFault Reply × World :=
  match w.start directory errorSink "git" arguments with
  | .error fault => (.error fault, w)
  | .ok (ending, m) =>
    let reply : Reply := ⟨Text.toBytes (written m outputSink), Text.toBytes (written m errorSink), ending == .status 0⟩
    (.ok reply, w.after m)

/-- Runs a program, whose output and errors are read together. -/
def launch (program : String) (arguments : List String) (w : World) : Except HostFault Captured × World :=
  match w.start w.directory outputSink program arguments with
  | .error fault => (.error fault, w)
  | .ok (ending, m) =>
    let exitCode : Option Int := match ending with
      | .status n => some n
      | .signal _ => none
    (.ok ⟨Shell.decoded (written m outputSink), exitCode⟩, w.after m)

/-- The world as a system to run on. -/
def host : Host World where
  workingDirectory w := (w.tree.resolve "/" w.directory).map fun _ => w.directory
  isFile w path := w.tree.isFile w.directory path
  canonical w path := (w.tree.resolve w.directory path).map Tree.text
  readText w path := do
    match Text.Utf8.decode? (← w.tree.read w.directory path) with
    | some text => return String.ofList text
    | none => throw .notText
  git := git
  launch := launch

/-- Programs that every system has. -/
def systemTree : Tree :=
  let programs : List (String × Program) :=
    [("sh", .shell), ("dash", .shell), ("bash", .shell), ("true", .succeed), ("false", .fail), ("echo", .echo),
      ("printf", .printf), ("cat", .cat), ("head", .head), ("seq", .seq), ("sleep", .sleep), ("test", .test),
      ("grep", .grep), ("tail", .tail), ("wc", .wc), ("sort", .sort), ("tr", .tr), ("basename", .basename),
      ("dirname", .dirname), ("touch", .touch), ("mkdir", .mkdir), ("rm", .rm), ("ln", .ln), ("ls", .ls),
      ("pwd", .pwd), ("env", .env)]
  let t : Tree := programs.foldl (fun t (name, p) => t.put ["usr", "bin", name] (.program p)) ⟨[]⟩
  let t := t.put ["bin"] (.link "usr/bin")
  let t := t.put ["dev", "null"] .null
  let t := t.put ["etc", "passwd"] (.file (Text.Utf8.encode "root:x:0:0:root:/root:/bin/sh\n".toList) false)
  (t.put ["tmp"] .directory).put ["root"] .directory

/-- A world with nothing in it but these programs. -/
def plain : World := ⟨systemTree, "/", ["/usr/bin", "/bin"], [], []⟩

/-- The world with git in the first directory of its search path, and the answers that it gives. -/
def withGit (w : World) (answers : List Shell.Answer) : World :=
  { w with tree := w.tree.save "/" (w.searchPath.headD "" ++ "/git") (.program .git), answers := answers }

end World

/-! ## A system that answers from a list -/

/-- Programs whose outcomes are given in advance; with none left a program writes nothing and succeeds. -/
abbrev Script := List (Except HostFault Captured)

/-- A system without files or git on which each program started takes the next outcome. -/
def Script.host : Host Script where
  workingDirectory _ := .error .notFound
  isFile _ _ := false
  canonical _ _ := .error .notFound
  readText _ _ := .error .notFound
  git _ _ s := (.error .notFound, s)
  launch _ _ s := (s.headD (.ok ⟨"", some 0⟩), s.drop 1)

end DeltaLint.Sandbox

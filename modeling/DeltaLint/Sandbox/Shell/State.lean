import DeltaLint.Sandbox.Shell.Field
import DeltaLint.Sandbox.Shell.Letters
import DeltaLint.Sandbox.Shell.Script
import DeltaLint.Sandbox.Tree
import DeltaLint.Text.Pieces

/-
  DeltaLint.Sandbox.Shell.State — a machine, and the processes that run on it.

  All processes share the machine: its files, what was written and what is left to be read. A process
  knows where its descriptors lead; a child begins as a copy of its parent, and what it leaves behind is
  the machine and how it ended. What is written to a pipe is read when its writer has ended.
-/

namespace DeltaLint.Sandbox.Shell

open Text (ofBytes toBytes)

/-! ## Bytes and texts -/

/-- The bytes of a text, as the shell has them. -/
def encoded (text : String) : List Char := ofBytes (Text.Utf8.encode text.toList)

def decoded (text : List Char) : String := String.ofList (Text.Utf8.decode (toBytes text))

/-! ## The machine -/

/-- Where a descriptor leads. -/
inductive Channel where
  | sink (k : Nat)
  | source (k : Nat)
  | file (place : Place)
  | nothing
  deriving DecidableEq, Repr

/-- What git does on one call. -/
structure Answer where
  output : List UInt8
  errors : List UInt8
  status : Nat
  deriving DecidableEq, Repr

structure Machine where
  tree : Tree
  /-- The answers that git has left. -/
  answers : List Answer
  /-- The directories and arguments of the calls that git answered, the last first. -/
  calls : List (String × List String)
  /-- What was written to each sink, last first. -/
  written : List (Nat × List Char)
  /-- What is left of each source. -/
  unread : List (Nat × List Char)
  /-- The first number that nothing has yet. -/
  next : Nat

namespace Machine

/-- What git does when it has no answer left. -/
def noAnswer : Answer := ⟨[], Text.Utf8.encode "no reply\n".toList, 97⟩

def write (m : Machine) (c : Channel) (text : List Char) : Machine :=
  match c with
  | .sink k => { m with written := m.written.map fun (j, t) => if j = k then (j, text.reverse ++ t) else (j, t) }
  | .file place =>
    match m.tree.node? place with
    | some (.file bytes x) => { m with tree := m.tree.put place (.file (bytes ++ toBytes text) x) }
    | _ => m
  | _ => m

def unreadOf (m : Machine) : Channel → List Char
  | .source k => (m.unread.lookup k).getD []
  | _ => []

def setUnread (m : Machine) (c : Channel) (text : List Char) : Machine :=
  match c with
  | .source k => { m with unread := m.unread.map fun (j, t) => if j = k then (j, text) else (j, t) }
  | _ => m

def newSink (m : Machine) : Channel × Machine :=
  (.sink m.next, { m with written := (m.next, []) :: m.written, next := m.next + 1 })

def newSource (m : Machine) (text : List Char) : Channel × Machine :=
  (.source m.next, { m with unread := (m.next, text) :: m.unread, next := m.next + 1 })

/-- Takes away a sink, and gives what was written to it. -/
def takeSink (m : Machine) (c : Channel) : List Char × Machine :=
  match c with
  | .sink k => (((m.written.lookup k).getD []).reverse, { m with written := m.written.filter (·.1 != k) })
  | _ => ([], m)

end Machine

/-! ## Processes -/

/-- A variable, which may be marked before it has a value. -/
structure Variable where
  value : Option (List Char)
  exported : Bool
  readOnly : Bool
  deriving DecidableEq, Repr

structure Process where
  number : Nat
  /-- The number of the shell that it belongs to. -/
  shell : Nat
  directory : String
  bindings : List (List Char × Variable)
  functions : List (List Char × Command)
  descriptors : List (Nat × Channel)
  name : List Char
  arguments : List (List Char)
  /-- The line of the script that is run. -/
  line : Nat
  /-- The command of the shell itself that is run. -/
  builtin : Option (List Char)
  status : Nat
  /-- The status of the last script whose output was taken. -/
  captured : Nat
  options : List Char
  /-- What is to be done at the end, or on a signal. -/
  traps : List (String × List Char)
  /-- The signals that came and are waited for by a trap. -/
  pending : List String
  /-- How many loops are around the command that is run. -/
  loops : Nat
  /-- Whether a command around looks at the status. -/
  guarded : Bool
  inFunction : Bool
  /-- What the variables were that the function has made its own. -/
  locals : List (List Char × Option Variable)
  lastChild : Option Nat
  /-- What new files may not be used for, in bits. -/
  mask : Nat
  /-- The number of the argument that `getopts` reads next, and how much of the one before it was read. -/
  nextOption : Nat × Option Nat
  aliases : List (List Char × List Char)
  /-- Whether something could not be written. -/
  lost : Bool

namespace Process

def lookup? (p : Process) (name : List Char) : Option (List Char) := (p.bindings.lookup name).bind Variable.value

def value (p : Process) (name : List Char) : List Char := (p.lookup? name).getD []

def ifs (p : Process) : List Char := (p.lookup? "IFS".toList).getD [' ', '\t', '\n']

/-- The value of a parameter; its elements joined, where it is a list. -/
def parameter? (p : Process) (name : List Char) : Option (List Char) :=
  match name with
  | ['?'] => some (Text.decimal p.status)
  | ['#'] => some (Text.decimal p.arguments.length)
  | ['$'] => some (Text.decimal p.shell)
  | ['!'] => p.lastChild.map Text.decimal
  | ['-'] => some ((shellOptionNames.map Prod.snd).reverse.filter fun c => p.options.contains c && ' ' < c)
  | ['*'] => if p.arguments.isEmpty then none else some (List.intercalate (p.ifs.take 1) p.arguments)
  | ['@'] => if p.arguments.isEmpty then none else some (List.intercalate [' '] p.arguments)
  | _ =>
    match Text.digits? 10 name with
    | some 0 => some p.name
    | some (n + 1) => p.arguments[n]?
    | none => p.lookup? name

def hasOption (p : Process) (o : Char) : Bool := p.options.contains o

def setOption (p : Process) (on : Bool) (o : Char) : Process :=
  { p with options := (if on then [o] else []) ++ p.options.filter (· != o) }

/-- Gives a variable a value. `OPTIND` begins the reading of arguments anew. -/
def set (p : Process) (name value : List Char) : Process :=
  let exported := (p.bindings.lookup name).any Variable.exported || p.hasOption 'a'
  { p with
    bindings := (name, ⟨some value, exported, false⟩) :: p.bindings.filter (·.1 != name)
    nextOption := if name = "OPTIND".toList then (max 1 ((Text.digits? 10 value).getD 1), none) else p.nextOption }

def setArguments (p : Process) (arguments : List (List Char)) : Process :=
  { p with arguments := arguments, nextOption := (1, none) }

def isReadOnly (p : Process) (name : List Char) : Bool := (p.bindings.lookup name).any Variable.readOnly

/-- Sets a variable to what it was. -/
def restore (p : Process) (name : List Char) (old : Option Variable) : Process :=
  { p with bindings := (old.map (name, ·)).toList ++ p.bindings.filter (·.1 != name) }

def unset (p : Process) (name : List Char) : Process := { p with bindings := p.bindings.filter (·.1 != name) }

/-- The variables that a program gets, where `added` names some more. -/
def environment (p : Process) (added : List (List Char)) : List (List Char × Variable) :=
  (p.bindings.filter fun (name, v) => v.value.isSome && (v.exported || added.contains name)).map fun (name, v) => (name, { v with exported := true, readOnly := false })

def channel? (p : Process) (descriptor : Nat) : Option Channel := p.descriptors.lookup descriptor

def connect (p : Process) (descriptor : Nat) (c : Channel) : Process :=
  { p with descriptors := (descriptor, c) :: p.descriptors.filter (·.1 != descriptor) }

end Process

/-- How a process ended. -/
inductive Ending where
  | status (n : Nat)
  | signal (n : Nat)
  deriving DecidableEq, Repr

structure State where
  machine : Machine
  process : Process
  /-- The children that are not waited for, the first one first. -/
  later : List (Process × Command)
  /-- How those that were run have ended, as far as it was not said yet. -/
  ended : List (Nat × Ending)

/-- Why a process does not go on with its next command. -/
inductive Jump where
  | exit
  | killed (number signal : Nat)
  /-- Out of that many loops. -/
  | leave (n : Nat)
  /-- To the next round of a loop so many loops out. -/
  | again (n : Nat)
  /-- Out of a function. -/
  | back
  deriving DecidableEq, Repr

/-- What a process does. -/
abbrev Run := ExceptT Jump (StateM State)

namespace Run

def process : Run Process := do return (← get).process

def modifyProcess (f : Process → Process) : Run Unit := modify fun s => { s with process := f s.process }

def modifyMachine (f : Machine → Machine) : Run Unit := modify fun s => { s with machine := f s.machine }

def setStatus (n : Nat) : Run Unit := modifyProcess fun p => { p with status := n }

/-- Writes to a descriptor. What is written to one that leads nowhere is lost. -/
def write (descriptor : Nat) (text : List Char) : Run Unit :=
  modify fun s => match s.process.channel? descriptor with
    | some c => { s with machine := s.machine.write c text }
    | none => if text.isEmpty then s else { s with process := { s.process with lost := true } }

/-- Writes a complaint, after the name of the script, the line and the command that complains. -/
def complain (text : List Char) : Run Unit := do
  let p ← process
  let place := p.name ++ ": ".toList ++ Text.decimal p.line ++ ": ".toList
  let command := p.builtin.elim [] (· ++ ": ".toList)
  write 2 (place ++ command ++ text ++ ['\n'])

/-- Complains and ends the shell. -/
def fail {α : Type} (text : List Char) (status : Nat) : Run α := do
  complain text
  setStatus status
  throw .exit

/-- Runs a job with the process set another way, and sets it back however the job ends. -/
def within {α : Type} (change : Process → Process) (back : (before after : Process) → Process) (job : Run α) : Run α := do
  let before ← process
  modifyProcess change
  try job finally modifyProcess (back before)

/-- Runs a job whose status something looks at. -/
def guarded {α : Type} (job : Run α) : Run α :=
  within (fun p => { p with guarded := true }) (fun before after => { after with guarded := before.guarded }) job

/-- Ends the shell after a failure that nothing looks at, where it was told to. -/
def checkFailure : Run Unit := do
  let p ← process
  if p.hasOption 'e' && !p.guarded && p.status != 0 then throw .exit

/-- Complains as a command of the shell does. Some of them end the shell then. -/
def refuse (text : List Char) : Run Unit := do
  complain text
  setStatus 2
  if (← process).builtin.any fun name => specialNames.contains (String.ofList name) then throw .exit

/-- Reads the letters of a command, and goes on with what it was given. -/
def given (plain : String) (taking : String) (arguments : List (List Char)) (job : Given → Run Unit) : Run Unit :=
  match Given.read plain.toList taking.toList arguments with
  | .ok g => job g
  | .error fault => refuse fault.message

/-- Gives a variable a value. -/
def assign (name value : List Char) : Run Unit := do
  if (← process).isReadOnly name then fail (name ++ ": is read only".toList) 2
  modifyProcess (·.set name value)

end Run

/-! ## Children -/

/-- A copy of the process, with a number of its own. -/
def fork : Run Process := do
  let s ← get
  set { s with machine := { s.machine with next := s.machine.next + 1 } }
  return { s.process with number := s.machine.next, traps := [], pending := [], loops := 0 }

/-- Runs a job as another process. -/
def runAs (p : Process) (job : Run Unit) : Run Ending := do
  let s ← get
  let (r, t) := job.run.run ⟨s.machine, p, [], []⟩
  set { s with machine := t.machine }
  match r with
  | .error (.killed number signal) => if number = p.number then return .signal signal else throw (.killed number signal)
  | _ => return .status (t.process.status % 256)

/-! ## Signals -/

structure Signal where
  number : Nat
  name : String
  /-- Whether it ends a process that does nothing about it. -/
  isDeadly : Bool
  /-- What is said of a child that it has ended. -/
  said : Option String
  deriving DecidableEq, Repr

namespace Signal

/-- A signal for uses of one's own, counted from the first one. -/
def ofIndex (i : Nat) : Signal :=
  let name :=
    if i = 0 then "RTMIN" else if i < 16 then s!"RTMIN+{i}" else if i < 30 then s!"RTMAX-{30 - i}" else "RTMAX"
  ⟨34 + i, name, true, some s!"Real-time signal {i}"⟩

/-- All signals, in the order of their numbers. -/
def all : List Signal :=
  [⟨1, "HUP", true, some "Hangup"⟩, ⟨2, "INT", true, none⟩, ⟨3, "QUIT", true, some "Quit"⟩,
    ⟨4, "ILL", true, some "Illegal instruction"⟩, ⟨5, "TRAP", true, some "Trace/breakpoint trap"⟩,
    ⟨6, "ABRT", true, some "Aborted"⟩, ⟨7, "BUS", true, some "Bus error"⟩,
    ⟨8, "FPE", true, some "Floating point exception"⟩, ⟨9, "KILL", true, some "Killed"⟩,
    ⟨10, "USR1", true, some "User defined signal 1"⟩, ⟨11, "SEGV", true, some "Segmentation fault"⟩,
    ⟨12, "USR2", true, some "User defined signal 2"⟩, ⟨13, "PIPE", true, none⟩, ⟨14, "ALRM", true, some "Alarm clock"⟩,
    ⟨15, "TERM", true, some "Terminated"⟩, ⟨16, "16", true, some "Stack fault"⟩, ⟨17, "CHLD", false, none⟩,
    ⟨18, "CONT", false, none⟩, ⟨19, "STOP", false, none⟩, ⟨20, "TSTP", false, none⟩, ⟨21, "TTIN", false, none⟩,
    ⟨22, "TTOU", false, none⟩, ⟨23, "URG", false, none⟩, ⟨24, "XCPU", true, some "CPU time limit exceeded"⟩,
    ⟨25, "XFSZ", true, some "File size limit exceeded"⟩, ⟨26, "VTALRM", true, some "Virtual timer expired"⟩,
    ⟨27, "PROF", true, some "Profiling timer expired"⟩, ⟨28, "WINCH", false, none⟩, ⟨29, "IO", true, some "I/O possible"⟩,
    ⟨30, "PWR", true, some "Power failure"⟩, ⟨31, "SYS", true, some "Bad system call"⟩, ⟨32, "32", true, none⟩,
    ⟨33, "33", true, none⟩] ++ (List.range 31).map ofIndex

/-- The signal of a number. -/
def ofNumber? (n : Nat) : Option Signal := all.find? (·.number = n)

/-- The signal of a name, in letters of any size, or of a number. -/
def find? (text : List Char) : Option Signal :=
  all.find? fun s => s.name.toList == text.map Char.toUpper || Text.decimal s.number == text

end Signal

/-- Takes over how a child ended as the status. -/
def Run.settle : Ending → Run Unit
  | .status n => setStatus n
  | .signal n => do
    match (Signal.ofNumber? n).bind Signal.said with
    | some text => write 2 (text.toList ++ ['\n'])
    | none => pure ()
    setStatus (128 + n)

/-! ## Files -/

/-- A fault in the words that programs have for it. -/
def reason (f : HostFault) : String := (f.message.splitOn " (os error").headD ""

/-- Connects a descriptor with a file that is read, or says why it cannot. -/
def openInput (descriptor : Nat) (path : List Char) : Run (Option String) := do
  let s ← get
  match String.ofList path with
  | "/dev/stdin" =>
    Run.modifyProcess fun p => p.connect descriptor ((p.channel? 0).getD .nothing)
    return none
  | _ =>
    match s.machine.tree.read s.process.directory (decoded path) with
    | .ok bytes =>
      let (c, m) := s.machine.newSource (ofBytes bytes)
      set { s with machine := m, process := s.process.connect descriptor c }
      return none
    | .error .isADirectory =>
      Run.modifyProcess (·.connect descriptor .nothing)
      return none
    | .error .notFound | .error .notADirectory => return some "No such file"
    | .error fault => return some (reason fault)

/-- Connects a descriptor with a file that is written, or says why it cannot. -/
def openOutput (descriptor : Nat) (writing : Writing) (path : List Char) : Run (Option String) := do
  let s ← get
  let connected (c : Channel) (m : Machine) : Run (Option String) := do
    set { s with machine := m, process := s.process.connect descriptor c }
    return none
  match String.ofList path with
  | "/dev/stdout" => connected ((s.process.channel? 1).getD .nothing) s.machine
  | "/dev/stderr" => connected ((s.process.channel? 2).getD .nothing) s.machine
  | _ =>
    match s.machine.tree.creatable s.process.directory (decoded path) with
    | .ok place =>
      match s.machine.tree.node? place with
      | none => connected (.file place) { s.machine with tree := s.machine.tree.put place (.file [] false) }
      | some (.file _ x) =>
        if writing = .further then connected (.file place) s.machine
        else if writing = .anew && s.process.hasOption 'C' then return some "File exists"
        else connected (.file place) { s.machine with tree := s.machine.tree.put place (.file [] x) }
      | some .directory => return some "Is a directory"
      | some _ => connected .nothing s.machine
    | .error .notFound | .error .notADirectory => return some "Directory nonexistent"
    | .error fault => return some (reason fault)

/-- The directories that commands are looked for in. -/
def Process.searchPath (p : Process) : List String :=
  match p.lookup? "PATH".toList with
  | some path => (Text.pieces ':' path).map decoded
  | none => ["/bin", "/usr/bin"]

end DeltaLint.Sandbox.Shell

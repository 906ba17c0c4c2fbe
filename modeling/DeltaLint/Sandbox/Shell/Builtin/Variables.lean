import DeltaLint.Sandbox.Shell.State

/-
  DeltaLint.Sandbox.Shell.Builtin.Variables — the commands of the shell that read, set and list variables.
-/

namespace DeltaLint.Sandbox.Shell.Builtin

open Run

/-- The text in quotes, so that the shell reads it as one word. -/
def inQuotes (text : List Char) : List Char :=
  let pieces := text.splitBy fun a b => (a == '\'') == (b == '\'')
  let start : List Char := if text.head?.any (· != '\'') then [] else "''".toList
  start ++ pieces.flatMap fun piece =>
    if piece.head? = some '\'' then '"' :: piece ++ ['"'] else '\'' :: piece ++ ['\'']

/-- Texts in the order of their names. -/
def sortedByName {α : Type} (xs : List (List Char × α)) : List (List Char × α) :=
  xs.mergeSort fun a b => compare (a.1.map Char.toNat) (b.1.map Char.toNat) != .gt

/-! ## Reading lines -/

/-- Reads a line into variables. -/
def read (arguments : List (List Char)) : Run Unit :=
  given "r" "p" arguments fun g => do
    match g.operands.find? (!isName ·) with
    | some name => refuse (name ++ ": bad variable name".toList)
    | none =>
      if g.operands.isEmpty then refuse "arg count".toList
      else
        let s ← get
        let channel := (s.process.channel? 0).getD .nothing
        let text := s.machine.unreadOf channel
        let (line, rest, ended) := if g.letters.contains 'r' then rawLine text else escapedLine text
        modifyMachine (·.setUnread channel rest)
        setStatus (if ended then 0 else 1)
        (g.operands.zip (readFields s.process.ifs g.operands.length line ++ g.operands.map fun _ => [])).forM
          fun (name, value) => assign name value

/-! ## Marks -/

/-- Goes through arguments that name variables, some of them with values. -/
def declare (operands : List (List Char)) (each : List Char → Option (List Char) → Run Unit) : Run Unit := do
  setStatus 0
  operands.forM fun a =>
    let name := a.takeWhile (· != '=')
    if isName name then each name (if name.length = a.length then none else some (a.drop (name.length + 1)))
    else refuse (name ++ ": bad variable name".toList)

/-- Marks a variable, which gets a value where one is given. -/
def mark (change : Variable → Variable) (name : List Char) (value : Option (List Char)) : Run Unit := do
  match value with
  | some v => assign name v
  | none => pure ()
  modifyProcess fun p => p.restore name (some (change ((p.bindings.lookup name).getD ⟨none, false, false⟩)))

/-- Marks variables, or lists those that are marked. -/
def markAll (command : String) (isMarked : Variable → Bool) (change : Variable → Variable) (arguments : List (List Char)) :
    Run Unit :=
  given "p" "" arguments fun g => do
    if g.letters.contains 'p' || g.operands.isEmpty then
      let p ← process
      setStatus 0
      (sortedByName (p.bindings.filter fun (_, v) => isMarked v)).forM fun (name, v) =>
        write 1 (command.toList ++ ' ' :: name ++ v.value.elim [] ('=' :: inQuotes ·) ++ ['\n'])
    else declare g.operands (mark change)

def declareLocal (name : List Char) (value : Option (List Char)) : Run Unit := do
  modifyProcess fun p => { p with locals := (name, p.bindings.lookup name) :: p.locals }
  match value with
  | some v => assign name v
  | none => pure ()

def unsetAll (arguments : List (List Char)) : Run Unit :=
  given "vf" "" arguments fun g => do
    setStatus 0
    g.operands.forM fun name => do
      if g.letters.getLast? = some 'f' then
        modifyProcess fun p => { p with functions := p.functions.filter (·.1 != name) }
      else if (← process).isReadOnly name then refuse (name ++ ": is read only".toList)
      else modifyProcess (·.unset name)

/-! ## Letters of a script -/

/-- What comes of one step through the letters that a script was given. -/
structure OptionStep where
  /-- What the step finds: a letter, or else a mark of what is wrong. None where nothing is left. -/
  found : Option Char
  /-- What `OPTARG` becomes, if it is changed. -/
  value : Option (Option (List Char))
  complaint : List Char
  /-- Where the next step goes on. -/
  next : Nat × Option Nat
  deriving DecidableEq, Repr

/-- Reads the next letter. `known` lists the letters, those with an argument before a colon; one at the start keeps
complaints back. -/
def nextLetter (known : List Char) (arguments : List (List Char)) (position : Nat × Option Nat) : OptionStep :=
  let silent := known.head? = some ':'
  let (index, place) := if arguments.length + 1 < position.1 then (1, none) else position
  let underway : List Char := match place with
    | some k => ((arguments[index - 2]?).getD []).drop k
    | none => []
  let found (c : Char) (rest : List Char) (index : Nat) : OptionStep :=
    let word := arguments[index - 2]?.getD []
    let place : Option Nat := if index < 2 then none else some (word.length - rest.length)
    match (if c = ':' then [] else known.dropWhile (· != c)) with
    | [] =>
      if silent then ⟨some '?', some (some [c]), [], (index, place)⟩
      else ⟨some '?', some none, "Illegal option -".toList ++ [c, '\n'], (index, place)⟩
    | _ :: ':' :: _ =>
      if !rest.isEmpty then ⟨some c, some (some rest), [], (index, none)⟩
      else match arguments[index - 1]? with
        | some value => ⟨some c, some (some value), [], (index + 1, none)⟩
        | none =>
          if silent then ⟨some ':', some (some [c]), [], (index, place)⟩
          else ⟨some '?', some none, "No arg for -".toList ++ [c] ++ " option\n".toList, (index, place)⟩
    | _ => ⟨some c, some (some []), [], (index, place)⟩
  match underway, arguments[index - 1]? with
  | c :: rest, _ => found c rest index
  | [], some ['-', '-'] => ⟨none, none, [], (index + 1, none)⟩
  | [], some ('-' :: c :: rest) => found c rest (index + 1)
  | [], _ => ⟨none, none, [], (index, none)⟩

def getLetter (arguments : List (List Char)) : Run Unit := do
  match arguments with
  | known :: name :: others =>
    let p ← process
    let step := nextLetter known (if others.isEmpty then p.arguments else others) p.nextOption
    write 2 step.complaint
    match step.value with
    | some (some value) => assign "OPTARG".toList value
    | some none => modifyProcess (·.unset "OPTARG".toList)
    | none => pure ()
    assign "OPTIND".toList (Text.decimal step.next.1)
    modifyProcess fun p => { p with nextOption := step.next }
    assign name [step.found.getD '?']
    setStatus (if step.found.isSome then 0 else 1)
  | _ => refuse "Usage: getopts optstring var [arg...]".toList

/-! ## Names for other texts -/

/-- Gives names to texts, or says what they name. -/
def abbreviate (arguments : List (List Char)) : Run Unit := do
  setStatus 0
  let shown (name value : List Char) : Run Unit := write 1 (name ++ '=' :: inQuotes value ++ ['\n'])
  if arguments.isEmpty then (sortedByName (← process).aliases).forM fun (name, value) => shown name value
  else arguments.forM fun a => do
    let name := a.takeWhile (· != '=')
    if name.isEmpty || name.length = a.length then
      match (← process).aliases.lookup a with
      | some value => shown a value
      | none =>
        write 2 ("alias: ".toList ++ a ++ " not found\n".toList)
        setStatus 1
    else modifyProcess fun p =>
      { p with aliases := (name, a.drop (name.length + 1)) :: p.aliases.filter (·.1 != name) }

def forget (arguments : List (List Char)) : Run Unit :=
  given "a" "" arguments fun g => do
    setStatus 0
    if g.letters.contains 'a' then modifyProcess fun p => { p with aliases := [] }
    else g.operands.forM fun name => do
      if ((← process).aliases.lookup name).isNone then
        write 2 ("unalias: ".toList ++ name ++ " not found\n".toList)
        setStatus 1
      modifyProcess fun p => { p with aliases := p.aliases.filter (·.1 != name) }

end DeltaLint.Sandbox.Shell.Builtin

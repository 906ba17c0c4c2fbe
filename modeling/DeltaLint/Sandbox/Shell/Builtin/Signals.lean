import DeltaLint.Sandbox.Shell.Builtin.Variables

/-
  DeltaLint.Sandbox.Shell.Builtin.Signals — sending signals, and what is to be done when they come.
-/

namespace DeltaLint.Sandbox.Shell.Builtin

open Run

/-- Sends a signal to a process. Of a child that has not run yet nothing is left. -/
def send (number signal : Nat) : Run Unit := do
  let s ← get
  let p := s.process
  let child := s.later.any (·.1.number == number)
  if number != p.number && number != p.shell && !child then
    complain "No such process\n".toList
    setStatus 1
  else
    setStatus 0
    match Signal.ofNumber? signal with
    | none => pure ()
    | some sig =>
      if child then
        if sig.isDeadly then
          modify fun s => { s with
            later := s.later.filter (·.1.number != number)
            ended := (number, .signal signal) :: s.ended }
      else match p.traps.lookup sig.name with
        | some action =>
          if signal = 9 then throw (.killed number signal)
          else if !action.isEmpty then modifyProcess fun p => { p with pending := p.pending ++ [sig.name] }
        | none => if sig.isDeadly then throw (.killed number signal)

/-- Lists the names of all signals, or of the one that a status stands for. -/
def listSignals (arguments : List (List Char)) : Run Unit := do
  match arguments with
  | [] =>
    write 1 (("0" :: Signal.all.map Signal.name).flatMap fun name => name.toList ++ ['\n'])
    setStatus 0
  | a :: _ =>
    match Text.digits? 10 a with
    | none => refuse ("Illegal number: ".toList ++ a)
    | some n =>
      match Signal.ofNumber? (if 128 < n then n - 128 else n) with
      | some sig =>
        write 1 (sig.name.toList ++ ['\n'])
        setStatus 0
      | none => refuse ("invalid signal number or exit status: ".toList ++ a)

def kill (arguments : List (List Char)) : Run Unit := do
  let usage := "Usage: kill [-s sigspec | -signum | -sigspec] [pid | job]... or\nkill -l [exitstatus]".toList
  let number? (signal : List Char) : Option Nat := if signal = ['0'] then some 0 else (Signal.find? signal).map Signal.number
  let sendAll (n : Nat) (numbers : List (List Char)) : Run Unit := do
    if numbers.isEmpty then refuse usage
    else numbers.forM fun number =>
      match number, Text.digits? 10 number with
      | '%' :: _, _ => refuse ("No such job: ".toList ++ number)
      | _, some k => send k n
      | _, none => refuse ("Illegal number: ".toList ++ number)
  match arguments with
  | [] => refuse usage
  | ['-', 'l'] :: rest => listSignals rest
  | [['-', 's']] => refuse "No arg for -s option".toList
  | ['-', 's'] :: signal :: numbers =>
    match number? signal with
    | some n => sendAll n numbers
    | none => refuse ("invalid signal number or name: ".toList ++ signal)
  | ['-', '-'] :: numbers => sendAll 15 numbers
  | ('-' :: signal) :: numbers =>
    match number? signal with
    | some n => sendAll n numbers
    | none => refuse ("Illegal option -".toList ++ signal.take 1)
  | numbers => sendAll 15 numbers

/-- Sets what is to be done on each of some signals, up to one that there is not. -/
def setTraps (action : Option (List Char)) : List (List Char) → Run Unit
  | [] => setStatus 0
  | name :: others => do
    let key? := if name = ['0'] || name.map Char.toUpper = "EXIT".toList then some "EXIT" else (Signal.find? name).map Signal.name
    match key? with
    | some key =>
      modifyProcess fun p => { p with traps := (action.map (key, ·)).toList ++ p.traps.filter (·.1 != key) }
      setTraps action others
    | none =>
      write 2 ("trap: ".toList ++ name ++ ": bad trap\n".toList)
      setStatus 1

/-- Says what is to be done at the end or on signals, or lists it. -/
def trap (arguments : List (List Char)) : Run Unit :=
  given "" "" arguments fun g => do
    match g.operands with
    | [] =>
      let p ← process
      setStatus 0
      ("EXIT" :: Signal.all.map Signal.name).forM fun name =>
        match p.traps.lookup name with
        | some action => write 1 ("trap -- ".toList ++ inQuotes action ++ ' ' :: name.toList ++ ['\n'])
        | none => pure ()
    | [name] => setTraps none [name]
    | ['-'] :: names => setTraps none names
    | action :: names => setTraps (some action) names

end DeltaLint.Sandbox.Shell.Builtin

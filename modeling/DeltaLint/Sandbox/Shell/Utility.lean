import DeltaLint.Sandbox.Shell.Builtin
import DeltaLint.Sandbox.Shell.Utility.Files
import DeltaLint.Sandbox.Shell.Utility.Text

/-
  DeltaLint.Sandbox.Shell.Utility — programs that are there without a file of their own text.
-/

namespace DeltaLint.Sandbox.Shell

namespace Utility

open Run
open Text (ofBytes)

/-! ## Rows of numbers -/

/-- A number with some digits after the point, as the number without the point. -/
structure Scaled where
  digits : Int
  places : Nat
  deriving DecidableEq, Repr

namespace Scaled

def ofText? (text : List Char) : Option Scaled := do
  let (negative, text) := match text with
    | '-' :: rest => (true, rest)
    | '+' :: rest => (false, rest)
    | text => (false, text)
  let (n, places, []) ← digitsWithPoint? 10 text | none
  return ⟨if negative then -(n : Int) else n, places⟩

/-- The number with so many digits after the point, which it has at least as many of now. -/
def withPlaces (x : Scaled) (places : Nat) : Int := x.digits * Int.ofNat (Nat.pow 10 (places - x.places))

/-- The text of a number, with zeros in front up to a width. -/
def text (width places : Nat) (digits : Int) : List Char :=
  let sign : List Char := if digits < 0 then ['-'] else []
  let body := pointed false places (Text.decimal digits.natAbs)
  sign ++ List.replicate (width - sign.length - body.length) '0' ++ body

end Scaled

/-- The numbers from the first to the last one. -/
def steps (first step last : Int) : List Int :=
  if step = 0 then []
  else
    let count := (last - first).fdiv step + 1
    (List.range count.toNat).map fun i => first + step * Int.ofNat i

/-- The separator and width that `seq` is asked for, and the numbers. -/
def seqOptions (separator : List Char) (isWide : Bool) : List (List Char) → List Char × Bool × List (List Char)
  | ['-', 'w'] :: rest => seqOptions separator true rest
  | ['-', 's'] :: separator :: rest => seqOptions separator isWide rest
  | ('-' :: 's' :: c :: cs) :: rest => seqOptions (c :: cs) isWide rest
  | rest => (separator, isWide, rest)

def seq (name : List Char) (arguments : List (List Char)) : Run Unit := do
  let (separator, isWide, numbers) := seqOptions ['\n'] false arguments
  match numbers.find? fun a => (Scaled.ofText? a).isNone, numbers.filterMap Scaled.ofText? with
  | _, _ :: _ :: _ :: _ :: _ => warn name ("extra operand ".toList ++ quoted (numbers.getD 3 []) ++ seeHelp name) 1
  | some a, _ => warn name ("invalid floating point argument: ".toList ++ quoted a ++ seeHelp name) 1
  | none, [] => warn name ("missing operand".toList ++ seeHelp name) 1
  | none, x :: xs =>
    let one : Scaled := ⟨1, 0⟩
    let (first, step, last) := match xs with
      | [] => (one, one, x)
      | [y] => (x, one, y)
      | y :: z :: _ => (x, y, z)
    let places := max first.places step.places
    let all := max places last.places
    let range := (steps (first.withPlaces all) (step.withPlaces all) (last.withPlaces all)).map fun n =>
      n / Int.ofNat (Nat.pow 10 (all - places))
    let lengthOf (x : Scaled) : Nat := (Scaled.text 0 places (x.withPlaces all / Int.ofNat (Nat.pow 10 (all - places)))).length
    let width := if isWide then max (lengthOf first) (lengthOf last) else 0
    let text := List.intercalate separator (range.map (Scaled.text width places))
    write 1 (if range.isEmpty then [] else text ++ ['\n'])
    setStatus 0

/-! ## Others -/

/-- Waits. Since only the order of what happens is seen, no time passes. -/
def sleep (name : List Char) (arguments : List (List Char)) : Run Unit :=
  let isTime (a : List Char) : Bool := a.head?.any Char.isDigit && a.all fun c => c.isDigit || c == '.' || "smhd".toList.contains c
  match arguments.find? (!isTime ·) with
  | some a => warn name ("invalid time interval ".toList ++ quoted a ++ seeHelp name) 1
  | none => if arguments.isEmpty then warn name ("missing operand".toList ++ seeHelp name) 1 else setStatus 0

def print (name : List Char) (arguments : List (List Char)) : Run Unit := do
  match arguments with
  | [] => warn name ("missing operand".toList ++ seeHelp name) 1
  | format :: arguments =>
    let p := formatted .extended format (arguments.length + 1) arguments
    p.faults.forM fun f => warn name f.messageOfFile 1
    write 1 p.text
    setStatus (if p.faults.isEmpty then 0 else 1)

def test (name : List Char) (arguments : List (List Char)) : Run Unit := do
  let s ← get
  match Test.answer ⟨s.machine.tree, s.process.directory, decoded⟩ arguments with
  | .ok b => setStatus (if b then 0 else 1)
  | .error text => warn name text 2
/-- Takes git's next answer, and writes the call down. -/
def git (arguments : List (List Char)) : Run Unit := do
  let s ← get
  let answer := s.machine.answers.headD Machine.noAnswer
  let call := (s.process.directory, arguments.map decoded)
  modifyMachine fun m => { m with answers := m.answers.drop 1, calls := call :: m.calls }
  write 1 (ofBytes answer.output)
  write 2 (ofBytes answer.errors)
  setStatus (answer.status % 256)

end Utility

/-- What a program does under a name, unless it runs other programs. -/
def utility? (p : Program) (name : List Char) (arguments : List (List Char)) : Option (Run Unit) :=
  match p with
  | .shell | .env => none
  | .succeed => some (Run.setStatus 0)
  | .fail => some (Run.setStatus 1)
  | .echo => some do
    Run.write 1 (echoedPlain arguments)
    Run.setStatus 0
  | .printf => some (Utility.print name arguments)
  | .cat => some (Utility.cat name arguments)
  | .head => some (Utility.head name arguments)
  | .seq => some (Utility.seq name arguments)
  | .sleep => some (Utility.sleep name arguments)
  | .test => some (Utility.test name arguments)
  | .grep => some (Utility.grep name arguments)
  | .tail => some (Utility.tail name arguments)
  | .wc => some (Utility.wc name arguments)
  | .sort => some (Utility.sort name arguments)
  | .tr => some (Utility.tr name arguments)
  | .basename => some (Utility.basename name arguments)
  | .dirname => some (Utility.dirname name arguments)
  | .touch => some (Utility.touch name arguments)
  | .mkdir => some (Utility.mkdir name arguments)
  | .rm => some (Utility.rm name arguments)
  | .ln => some (Utility.ln name arguments)
  | .ls => some (Utility.ls name arguments)
  | .pwd => some Utility.pwd
  | .git => some (Utility.git arguments)

end DeltaLint.Sandbox.Shell
import DeltaLint.Sandbox.Shell.Arithmetic
import DeltaLint.Sandbox.Shell.Real

/-
  DeltaLint.Sandbox.Shell.Printing — what `echo` and `printf` write.

  Escapes are those of C. The format of `printf` is used again as long as it takes arguments; where there
  are none left a directive has an empty text or zero. Complaints do not keep the rest from being written,
  except where a directive makes no sense.
-/

namespace DeltaLint.Sandbox.Shell

/-! ## Escapes -/

def byte (n : Nat) : Char := Char.ofNat (n % 256)

/-- What the character after a backslash stands for. -/
def plainEscape? : Char → Option Char
  | 'a' => some '\x07'
  | 'b' => some '\x08'
  | 'e' => some '\x1b'
  | 'f' => some '\x0c'
  | 'n' => some '\n'
  | 'r' => some '\r'
  | 't' => some '\t'
  | 'v' => some '\x0b'
  | '\\' => some '\\'
  | _ => none

/-- Takes up to three octal digits, which stand for one byte. -/
def octal (text : List Char) : Char × List Char :=
  let ds := (text.take 3).takeWhile (Text.isDigit 8)
  (byte ((Text.digits? 8 ds).getD 0), text.drop ds.length)

/-- The text with its escapes replaced, and whether one of them ended it (`\c`). -/
def unescaped : Nat → List Char → List Char × Bool
  | 0, _ => ([], false)
  | _, [] => ([], false)
  | n + 1, '\\' :: c :: rest =>
    let next (d : Char) (rest : List Char) := let (cs, ended) := unescaped n rest; (d :: cs, ended)
    if c = 'c' then ([], true)
    else if Text.isDigit 8 c then
      let (d, rest) := octal (if c = '0' then rest else c :: rest)
      next d rest
    else match plainEscape? c with
      | some d => next d rest
      | none => let (cs, ended) := unescaped n rest; ('\\' :: c :: cs, ended)
  | n + 1, c :: rest => let (cs, ended) := unescaped n rest; (c :: cs, ended)

/-! ## Echo -/

/-- What `echo` writes. -/
def echoed (arguments : List (List Char)) : List Char :=
  let (arguments, ending) := match arguments with
    | ['-', 'n'] :: rest => (rest, [])
    | arguments => (arguments, ['\n'])
  let text := List.intercalate [' '] arguments
  let (text, ended) := unescaped (text.length + 1) text
  if ended then text else text ++ ending

/-- What the `echo` that is a file of its own writes: escapes count only after an option that asks for them. -/
def echoedPlain (arguments : List (List Char)) : List Char :=
  let isOption (a : List Char) : Bool := a.head? == some '-' && 1 < a.length && (a.drop 1).all "neE".toList.contains
  let options := (arguments.takeWhile isOption).flatten
  let text := List.intercalate [' '] (arguments.dropWhile isOption)
  let ending := if options.contains 'n' then [] else ['\n']
  if (options.filter (· != 'n')).getLast? == some 'e' then
    let (text, ended) := unescaped (text.length + 1) text
    if ended then text else text ++ ending
  else text ++ ending

/-! ## Arguments -/

inductive PrintFault where
  | noNumber (argument : List Char)
  | notAllNumber (argument : List Char)
  | outOfRange (argument : List Char)
  | badDirective (directive : List Char)
  | noLetter
  deriving DecidableEq, Repr

def PrintFault.isOutOfRange : PrintFault → Bool
  | .outOfRange _ => true
  | _ => false

/-- The value of an argument: the number of a character after a quote, or else what is read from it. -/
def argumentValue {α : Type} (ofNat : Nat → α) (read : List Char → Option (α × List Char)) (argument : List Char) :
    α × List PrintFault :=
  match argument with
  | '\'' :: rest | '"' :: rest => (ofNat ((rest.head?.map Char.toNat).getD 0), [])
  | _ =>
    match read argument with
    | some (x, rest) => (x, if rest.isEmpty then [] else [.notAllNumber argument])
    | none => (ofNat 0, if argument.isEmpty then [] else [.noNumber argument])

/-- The number that an argument stands for. One that is out of the given bounds is brought to the nearer one. -/
def argumentNumber (least greatest : Int) (argument : List Char) : Int × List PrintFault :=
  let (n, faults) := argumentValue Int.ofNat Arith.signed? argument
  if n < least then (least, faults ++ if faults.isEmpty then [.outOfRange argument] else [])
  else if greatest < n then (greatest, faults ++ if faults.isEmpty then [.outOfRange argument] else [])
  else (n, faults)

def argumentReal (p : Precision) (argument : List Char) : Real × List PrintFault :=
  let (x, faults) := argumentValue (fun n => ⟨false, .finite n 1⟩) (Real.read p) argument
  (x, if faults.isEmpty && x.isOutOfRange p argument then [.outOfRange argument] else faults)

/-! ## Directives -/

structure Directive where
  flags : List Char
  width : Nat
  precision : Option Nat
  /-- What is written; none where the format ends too early. -/
  letter : Option Char
  deriving DecidableEq, Repr

namespace Directive

/-- What is left of a format and its arguments, and what was wrong with those taken. -/
structure Remaining where
  format : List Char
  arguments : List (List Char)
  faults : List PrintFault
  deriving DecidableEq, Repr

/-- Reads the digits of a number, or a star in the place of which the next argument is the number. -/
def count (r : Remaining) : Int × Remaining :=
  match r.format with
  | '*' :: format =>
    let (k, faults) := argumentNumber (-0x8000000000000000) 0x7fffffffffffffff (r.arguments.headD [])
    ((Int32.ofInt k).toInt, ⟨format, r.arguments.drop 1, r.faults ++ faults⟩)
  | format =>
    let ds := format.takeWhile Char.isDigit
    ((Text.digits? 10 ds).getD 0, { r with format := format.drop ds.length })

/-- Reads a directive after its percent sign. A width below zero asks for text at the left, and a precision below
zero for none. -/
def read (text : List Char) (arguments : List (List Char)) : Directive × Remaining :=
  let flags := text.takeWhile ("-+ #0".toList.contains ·)
  let (width, r) := count ⟨text.drop flags.length, arguments, []⟩
  let flags := if width < 0 then '-' :: flags else flags
  let (precision, r) : Option Int × Remaining := match r.format with
    | '.' :: format => let (p, r) := count { r with format := format }; (some p, r)
    | _ => (none, r)
  let precision := (precision.filter (0 ≤ ·)).map Int.toNat
  (⟨flags, width.natAbs, precision, r.format.head?⟩, { r with format := r.format.drop 1 })

/-- The text brought to the width of the directive. -/
def pad (d : Directive) (text : List Char) : List Char :=
  let blanks := List.replicate (d.width - text.length) ' '
  if d.flags.contains '-' then text ++ blanks else blanks ++ text

/-- The digits of a number, brought to the precision or width, after its sign or mark. -/
def number (d : Directive) (sign digits : List Char) : List Char :=
  let digits := match d.precision with
    | some 0 => if digits = ['0'] then [] else digits
    | some p => List.replicate (p - digits.length) '0' ++ digits
    | none =>
      if d.flags.contains '0' && !d.flags.contains '-' then
        List.replicate (d.width - sign.length - digits.length) '0' ++ digits
      else digits
  d.pad (sign ++ digits)

def signed (d : Directive) (n : Int) : List Char :=
  let sign := if n < 0 then ['-'] else if d.flags.contains '+' then ['+'] else if d.flags.contains ' ' then [' '] else []
  d.number sign (Text.decimal n.natAbs)

/-- Writes a number that may have a fraction. -/
def real (d : Directive) (p : Precision) (x : Real) : List Char :=
  let sign := if x.negative then ['-'] else if d.flags.contains '+' then ['+'] else if d.flags.contains ' ' then [' '] else []
  let text := x.magnitude.text p (d.letter.getD 'f') (d.flags.contains '#') d.precision
  let isFinite := match x.magnitude with | .finite .. => true | _ => false
  let mark := if isFinite && (d.letter = some 'a' || d.letter = some 'A') then text.take 2 else []
  let zeros := if isFinite && d.flags.contains '0' && !d.flags.contains '-' then d.width - sign.length - text.length else 0
  d.pad (sign ++ mark ++ List.replicate zeros '0' ++ text.drop mark.length)

/-- Writes a number that is never negative. -/
def unsigned (d : Directive) (n : Nat) : List Char :=
  let marked := d.flags.contains '#' && n != 0
  match d.letter with
  | some 'x' => d.number (if marked then "0x".toList else []) (Text.hex n)
  | some 'X' => d.number (if marked then "0X".toList else []) ((Text.hex n).map Char.toUpper)
  | some 'o' => d.number [] ((if marked then ['0'] else []) ++ Nat.toDigits 8 n)
  | _ => d.number [] (Text.decimal n)

end Directive

/-- What was printed, and what was wrong with it. -/
structure Printed where
  text : List Char
  faults : List PrintFault
  /-- Whether nothing more is to be printed. -/
  ended : Bool
  deriving DecidableEq, Repr

/-- Prints one pass through a format: what was printed, and the arguments that are left. -/
def printPass (p : Precision) : Nat → List Char → List (List Char) → Printed × List (List Char)
  | 0, _, arguments => (⟨[], [], false⟩, arguments)
  | _, [], arguments => (⟨[], [], false⟩, arguments)
  | n + 1, '\\' :: c :: rest, arguments =>
    let (head, rest) : List Char × List Char :=
      if Text.isDigit 8 c then let (d, rest) := octal (c :: rest); ([d], rest)
      else match plainEscape? c with
        | some d => ([d], rest)
        | none => (['\\', c], rest)
    let (q, arguments) := printPass p n rest arguments
    ({ q with text := head ++ q.text }, arguments)
  | n + 1, '%' :: '%' :: rest, arguments =>
    let (q, arguments) := printPass p n rest arguments
    ({ q with text := '%' :: q.text }, arguments)
  | n + 1, '%' :: rest, arguments =>
    let (d, r) := Directive.read rest arguments
    let argument := r.arguments.headD []
    let go (text : List Char) (faults : List PrintFault) : Printed × List (List Char) :=
      let (q, arguments) := printPass p n r.format (r.arguments.drop 1)
      ({ q with text := text ++ q.text, faults := r.faults ++ faults ++ q.faults }, arguments)
    match d.letter with
    | none => (⟨[], [.noLetter], true⟩, arguments)
    | some 's' => go (d.pad (d.precision.elim argument argument.take)) []
    | some 'c' => go (d.pad [argument.headD '\x00']) []
    | some 'b' =>
      let (text, ended) := unescaped (argument.length + 1) argument
      if ended then (⟨text, [], true⟩, []) else go (d.pad (d.precision.elim text text.take)) []
    | some 'd' | some 'i' =>
      let (k, faults) := argumentNumber (-0x8000000000000000) 0x7fffffffffffffff argument
      go (d.signed k) faults
    | some 'u' | some 'x' | some 'X' | some 'o' =>
      let (k, faults) := argumentNumber (-0xffffffffffffffff) 0xffffffffffffffff argument
      let k := if faults.any PrintFault.isOutOfRange then 0xffffffffffffffff else k
      go (d.unsigned (k % 0x10000000000000000).toNat) faults
    | some 'a' | some 'A' | some 'e' | some 'E' | some 'f' | some 'F' | some 'g' | some 'G' =>
      let (x, faults) := argumentReal p argument
      go (d.real p x) faults
    | some _ => (⟨[], [.badDirective ('%' :: rest.take (rest.length - r.format.length))], true⟩, arguments)
  | n + 1, c :: rest, arguments =>
    let (q, arguments) := printPass p n rest arguments
    ({ q with text := c :: q.text }, arguments)

/-- What `printf` prints, with numbers of the given precision. -/
def formatted (p : Precision) (format : List Char) : Nat → List (List Char) → Printed
  | 0, _ => ⟨[], [], true⟩
  | n + 1, arguments =>
    let (first, rest) := printPass p (format.length + 1) format arguments
    if first.ended || rest.isEmpty || rest.length = arguments.length then first
    else
      let others := formatted p format n rest
      ⟨first.text ++ others.text, first.faults ++ others.faults, others.ended⟩

namespace PrintFault

/-- The complaint of the shell. -/
def message : PrintFault → List Char
  | .noNumber a => a ++ ": expected numeric value".toList
  | .notAllNumber a => a ++ ": not completely converted".toList
  | .outOfRange a => a ++ ": Numerical result out of range".toList
  | .badDirective d => d ++ ": invalid directive".toList
  | .noLetter => "missing format character".toList

/-- The complaint of the `printf` that is a file of its own. -/
def messageOfFile : PrintFault → List Char
  | .noNumber a => '\'' :: a ++ "': expected a numeric value".toList
  | .notAllNumber a => '\'' :: a ++ "': value not completely converted".toList
  | .outOfRange a => '\'' :: a ++ "': Numerical result out of range".toList
  | .badDirective d => d ++ ": invalid conversion specification".toList
  | .noLetter => "%: invalid conversion specification".toList

/-- Whether it keeps the rest from being printed. -/
def isFatal : PrintFault → Bool
  | .badDirective _ | .noLetter => true
  | _ => false

end PrintFault

end DeltaLint.Sandbox.Shell

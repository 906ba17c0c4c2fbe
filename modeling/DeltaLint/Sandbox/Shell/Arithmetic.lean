import DeltaLint.Sandbox.Shell.Token

/-
  DeltaLint.Sandbox.Shell.Arithmetic — what an expression comes to.

  Numbers have 64 bits and wrap; quotients go toward zero. A name stands for the number that its
  variable holds, zero where it is empty. Of the operands of `&&`, `||` and `?` only those that count
  are looked at. Assignments are given back, the last first.
-/

namespace DeltaLint.Sandbox.Shell

inductive Arith where
  | number (n : Int64)
  | name (x : List Char)
  | unary (operator : String) (a : Arith)
  | binary (operator : String) (a b : Arith)
  | choice (c a b : Arith)
  /-- Sets a variable, to its old value and the new one joined by an operator where there is one. -/
  | assign (x : List Char) (operator : Option String) (a : Arith)
  deriving DecidableEq, Repr

inductive ArithFault where
  | expected (what : String)
  | divisionByZero
  | illegalNumber (text : List Char)
  deriving DecidableEq, Repr

namespace Arith

/-! ## Numbers -/

/-- The number, or the end of the range that it is beyond. -/
def clamped (n : Int) : Int64 := Int64.ofInt (max (-0x8000000000000000) (min 0x7fffffffffffffff n))

/-- Takes a number in decimal, or in octal or hexadecimal after a zero. -/
def digits (text : List Char) : Nat × List Char :=
  let taken (base : Nat) (text : List Char) : Nat × List Char :=
    let ds := text.takeWhile (Text.isDigit base)
    ((Text.digits? base ds).getD 0, text.drop ds.length)
  match text with
  | '0' :: x :: c :: rest => if (x == 'x' || x == 'X') && Text.isDigit 16 c then taken 16 (c :: rest) else taken 8 text
  | '0' :: _ => taken 8 text
  | _ => taken 10 text

/-- Takes a number with a sign or without, after blanks. None where there is no digit. -/
def signed? (text : List Char) : Option (Int × List Char) :=
  let text := text.dropWhile (" \t\n\x0b\x0c\r".toList.contains ·)
  let (negative, rest) := match text with
    | '-' :: rest => (true, rest)
    | '+' :: rest => (false, rest)
    | rest => (false, rest)
  if rest.head?.any Char.isDigit then
    let (n, rest) := digits rest
    some (if negative then -(n : Int) else n, rest)
  else none

/-- The number that a whole text stands for. -/
def whole? (text : List Char) : Option Int64 :=
  match signed? text with
  | some (n, rest) => if rest.all (" \t\n\x0b\x0c\r".toList.contains ·) then some (clamped n) else none
  | none => none

/-! ## Reading -/

inductive Token where
  | number (n : Int64)
  | name (x : List Char)
  | operator (text : String)
  | junk
  deriving DecidableEq, Repr

def operators : List String :=
  ["<<=", ">>=", "<=", ">=", "==", "!=", "&&", "||", "<<", ">>", "+=", "-=", "*=", "/=", "%=", "&=", "|=", "^=",
    "+", "-", "*", "/", "%", "<", ">", "(", ")", "!", "~", "&", "|", "^", "?", ":", "="]

def tokens : Nat → List Char → List Token
  | 0, _ => []
  | _, [] => []
  | n + 1, c :: rest =>
    let text := c :: rest
    if c.isWhitespace then tokens n rest
    else if c.isDigit then let (k, rest) := digits text; .number (clamped k) :: tokens n rest
    else if isNameStart c then
      let name := text.takeWhile isNameChar
      .name name :: tokens n (text.drop name.length)
    else match operators.find? fun o => o.toList.isPrefixOf text with
      | some o => .operator o :: tokens n (text.drop o.length)
      | none => [.junk]

/-- How tightly a binary operator binds. -/
def tightness? : String → Option Nat
  | "||" => some 1
  | "&&" => some 2
  | "|" => some 3
  | "^" => some 4
  | "&" => some 5
  | "==" | "!=" => some 6
  | "<" | ">" | "<=" | ">=" => some 7
  | "<<" | ">>" => some 8
  | "+" | "-" => some 9
  | "*" | "/" | "%" => some 10
  | _ => none

/-- What an assignment joins the old value and the new one by, if the operator assigns. -/
def assignment? : String → Option (Option String)
  | "=" => some none
  | "+=" => some (some "+")
  | "-=" => some (some "-")
  | "*=" => some (some "*")
  | "/=" => some (some "/")
  | "%=" => some (some "%")
  | "&=" => some (some "&")
  | "|=" => some (some "|")
  | "^=" => some (some "^")
  | "<<=" => some (some "<<")
  | ">>=" => some (some ">>")
  | _ => none

/-- A reader of expressions. -/
abbrev Operand := Except ArithFault (Arith × List Token)

mutual

def expression : Nat → List Token → Operand
  | 0, _ => throw (.expected "primary")
  | n + 1, ts =>
    match ts with
    | .name x :: .operator o :: rest =>
      match assignment? o with
      | some joined => do
        let (a, rest) ← expression n rest
        return (.assign x joined a, rest)
      | none => conditional n ts
    | ts => conditional n ts

def conditional : Nat → List Token → Operand
  | 0, _ => throw (.expected "primary")
  | n + 1, ts => do
    let (a, ts) ← operand n ts
    let (c, ts) ← climb n 1 a ts
    match ts with
    | .operator "?" :: ts =>
      let (yes, ts) ← expression n ts
      match ts with
      | .operator ":" :: ts =>
        let (no, ts) ← conditional n ts
        return (.choice c yes no, ts)
      | _ => throw (.expected "':'")
    | ts => return (c, ts)

def operand : Nat → List Token → Operand
  | 0, _ => throw (.expected "primary")
  | n + 1, ts =>
    match ts with
    | .number k :: ts => return (.number k, ts)
    | .name x :: ts => return (.name x, ts)
    | .operator "(" :: ts => do
      let (a, ts) ← expression n ts
      match ts with
      | .operator ")" :: ts => return (a, ts)
      | _ => throw (.expected "')'")
    | .operator o :: ts =>
      if ["-", "+", "!", "~"].contains o then do
        let (a, ts) ← operand n ts
        return (.unary o a, ts)
      else throw (.expected "primary")
    | _ => throw (.expected "primary")

/-- Goes on with the operators that bind at least as tightly as `level`. -/
def climb : Nat → Nat → Arith → List Token → Operand
  | 0, _, _, _ => throw (.expected "primary")
  | n + 1, level, left, ts =>
    match ts with
    | .operator o :: rest =>
      match tightness? o with
      | some tightness =>
        if tightness < level then return (left, ts)
        else do
          let (a, rest) ← operand n rest
          let (right, rest) ← climb n (tightness + 1) a rest
          climb n level (.binary o left right) rest
      | none => return (left, ts)
    | ts => return (left, ts)

end

/-- Reads a whole expression. An empty one is zero. -/
def ofText (text : List Char) : Except ArithFault Arith := do
  let ts := tokens (text.length + 1) text
  if ts.isEmpty then return .number 0
  let (a, rest) ← expression (4 * ts.length + 4) ts
  if rest.isEmpty then return a else throw (.expected "EOF")

/-! ## Computing -/

def ofBool (b : Bool) : Int64 := if b then 1 else 0

def compute (operator : String) (a b : Int64) : Except ArithFault Int64 :=
  match operator with
  | "|" => return a ||| b
  | "^" => return a ^^^ b
  | "&" => return a &&& b
  | "==" => return ofBool (a == b)
  | "!=" => return ofBool (a != b)
  | "<" => return ofBool (a < b)
  | ">" => return ofBool (b < a)
  | "<=" => return ofBool (a ≤ b)
  | ">=" => return ofBool (b ≤ a)
  | "<<" => return a <<< b
  | ">>" => return a >>> b
  | "+" => return a + b
  | "-" => return a - b
  | "*" => return a * b
  | "/" => if b = 0 then throw .divisionByZero else return a / b
  | _ => if b = 0 then throw .divisionByZero else return a % b

/-- The variables that were set, the last first. -/
abbrev Assigned := List (List Char × Int64)

/-- The number that a variable holds. -/
def held (value : List Char → List Char) (x : List Char) (vs : Assigned) : Except ArithFault Int64 :=
  match vs.lookup x with
  | some n => return n
  | none =>
    if (value x).isEmpty then return 0
    else match whole? (value x) with
      | some n => return n
      | none => throw (.illegalNumber (value x))

/-- The value of an expression, where variables hold the texts that `value` gives. -/
def eval (value : List Char → List Char) : Arith → Assigned → Except ArithFault (Int64 × Assigned)
  | .number n, vs => return (n, vs)
  | .name x, vs => return (← held value x vs, vs)
  | .unary o a, vs => do
    let (n, vs) ← a.eval value vs
    return (match o with | "-" => -n | "!" => ofBool (n == 0) | "~" => ~~~n | _ => n, vs)
  | .binary "&&" a b, vs => do
    let (m, vs) ← a.eval value vs
    if m == 0 then return (0, vs)
    let (n, vs) ← b.eval value vs
    return (ofBool (n != 0), vs)
  | .binary "||" a b, vs => do
    let (m, vs) ← a.eval value vs
    if m != 0 then return (1, vs)
    let (n, vs) ← b.eval value vs
    return (ofBool (n != 0), vs)
  | .binary o a b, vs => do
    let (m, vs) ← a.eval value vs
    let (n, vs) ← b.eval value vs
    return (← compute o m n, vs)
  | .choice c a b, vs => do
    let (n, vs) ← c.eval value vs
    if n != 0 then a.eval value vs else b.eval value vs
  | .assign x none a, vs => do
    let (n, vs) ← a.eval value vs
    return (n, (x, n) :: vs)
  | .assign x (some o) a, vs => do
    let m ← held value x vs
    let (n, vs) ← a.eval value vs
    let k ← compute o m n
    return (k, (x, k) :: vs)

/-- The decimal text of a number. -/
def text (n : Int64) : List Char :=
  if n < 0 then '-' :: Text.decimal n.toInt.natAbs else Text.decimal n.toInt.natAbs

end Arith

/-- The complaint about an expression. -/
def ArithFault.message (expression : List Char) : ArithFault → List Char
  | .expected what => s!"arithmetic expression: expecting {what}: \"".toList ++ expression ++ ['"']
  | .divisionByZero => "arithmetic expression: division by zero: \"".toList ++ expression ++ ['"']
  | .illegalNumber text => "Illegal number: ".toList ++ text

end DeltaLint.Sandbox.Shell

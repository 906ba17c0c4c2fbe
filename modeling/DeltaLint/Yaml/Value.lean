import DeltaLint.Text.Digits
import DeltaLint.Text.Shortest
import DeltaLint.Unicode.Newer

/-
  DeltaLint.Yaml.Value — what a document says.

  A plain scalar without a tag is a null, a truth value, a number or a text, by its spelling. A tag of
  the document's own stays with the value it is on; a value is asked for through its tags.
-/

namespace DeltaLint.Yaml

inductive Number where
  | int (n : Int)
  /-- A floating-point number by its bits. -/
  | float (bits : UInt64)
  deriving DecidableEq, Repr

inductive Value where
  | null
  | bool (b : Bool)
  | number (n : Number)
  | string (s : List Char)
  | sequence (items : List Value)
  | mapping (entries : List (Value × Value))
  | tagged (tag : List Char) (v : Value)
  deriving Repr

namespace Value

/-- The value without the tags around it. -/
def untagged : Value → Value
  | tagged _ v => untagged v
  | v => v

def string? (v : Value) : Option (List Char) :=
  match v.untagged with
  | string s => some s
  | _ => none

end Value

/-! ## Plain scalars -/

def isNull (s : String) : Bool := s == "null" || s == "Null" || s == "NULL" || s == "~"

def bool? (s : String) : Option Bool :=
  if s == "true" || s == "True" || s == "TRUE" then some true
  else if s == "false" || s == "False" || s == "FALSE" then some false
  else none

def startsWithSign (s : List Char) : Bool := s.head? == some '+' || s.head? == some '-'

/-- The text after `start`, if it begins so. -/
def after? (start : String) (s : List Char) : Option (List Char) :=
  if start.toList.isPrefixOf s then some (s.drop start.length) else none

/-- A text of two or more digits, the first of them 0: no number. -/
def hasLeadingZero (s : List Char) : Bool :=
  let s := if startsWithSign s then s.drop 1 else s
  1 < s.length && s.head? == some '0' && s.all Char.isDigit

/-- An integer of at least 0, of any size: hexadecimal, octal or binary after a mark, or decimal. -/
def natural? (s : List Char) : Option Nat :=
  let body := (after? "+" s).getD s
  let marked (mark : String) (base : Nat) := (after? mark body).bind (Text.digits? base)
  if startsWithSign body then none
  else marked "0x" 16 <|> marked "0o" 8 <|> marked "0b" 2 <|> if hasLeadingZero s then none else Text.digits? 10 body

/-- The integer that a text with a minus sign spells, of any size. -/
def negative? (s : List Char) : Option Nat :=
  let marked (mark : String) (base : Nat) := (after? mark s).bind (Text.digits? base)
  marked "-0x" 16 <|> marked "-0o" 8 <|> marked "-0b" 2 <|>
    if hasLeadingZero s then none else (after? "-" s).bind (Text.digits? 10)

/-- How an integer is read: it fits 64 bits, it fits only 128, or it is too large for an integer at all. -/
inductive IntegerSize where
  | fits (n : Int)
  | tooLarge
  deriving DecidableEq, Repr

def integer? (s : List Char) : Option IntegerSize :=
  match natural? s, negative? s with
  | some n, _ => if n < Nat.pow 2 64 then some (.fits n) else if n < Nat.pow 2 128 then some .tooLarge else none
  | none, some n => if n ≤ Nat.pow 2 63 then some (.fits (-n)) else if n ≤ Nat.pow 2 127 then some .tooLarge else none
  | none, none => none

def infinityBits : UInt64 := 0x7FF0000000000000

def nanBits : UInt64 := 0x7FF8000000000000

/-- The bits of `digits · 10^exponent`, rounded to the nearest; none beyond the largest finite number. -/
def decimalBits? (digits : Nat) (exponent : Int) : Option UInt64 :=
  if digits = 0 then some 0
  else
    let magnitude := (Text.decimal digits).length + exponent
    if 400 < magnitude then none
    else if magnitude < -400 then some 0
    else
      let bits := (Float.ofScientific digits (exponent < 0) exponent.natAbs).toBits
      if Text.Shortest.isFinite bits then some bits else none

def withSign (negative : Bool) (bits : UInt64) : UInt64 := if negative then bits ||| 0x8000000000000000 else bits

/-- A decimal fraction, with a sign and an exponent or without: its digits before and after the point, of which one
side may have none, and the exponent. -/
def fraction? (s : List Char) : Option UInt64 := do
  let negative := s.head? == some '-'
  let body := if startsWithSign s then s.drop 1 else s
  let whole := body.takeWhile Char.isDigit
  let rest := body.dropWhile Char.isDigit
  let (part, rest) := match rest with
    | '.' :: rest => (rest.takeWhile Char.isDigit, rest.dropWhile Char.isDigit)
    | _ => ([], rest)
  let digits ← Text.digits? 10 (whole ++ part)
  let exponent ← match rest with
    | [] => some 0
    | c :: rest =>
      if c = 'e' ∨ c = 'E' then do
        let n ← Text.digits? 10 (if startsWithSign rest then rest.drop 1 else rest)
        some (if rest.head? == some '-' then -(n : Int) else n)
      else none
  (decimalBits? digits (exponent - part.length)).map (withSign negative)

/-- The bits of the floating-point number that a text spells. -/
def float? (s : List Char) : Option UInt64 :=
  let body := (after? "+" s).getD s
  let t := String.ofList body
  if s.head? == some '+' && startsWithSign body then none
  else if t == ".inf" || t == ".Inf" || t == ".INF" then some infinityBits
  else if t == "-.inf" || t == "-.Inf" || t == "-.INF" then some (withSign true infinityBits)
  else
    let t := String.ofList s
    if t == ".nan" || t == ".NaN" || t == ".NAN" then some nanBits else fraction? body

/-- The value of a plain scalar, unless it is an integer that neither fits 64 bits nor is beyond 128. -/
def Value.ofPlain? (text : List Char) : Option Value :=
  let s := String.ofList text
  if text.isEmpty || isNull s then some .null
  else match bool? s with
    | some b => some (.bool b)
    | none =>
      match integer? text with
      | some (.fits n) => some (.number (.int n))
      | some .tooLarge => none
      | none =>
        match if hasLeadingZero text then none else float? text with
        | some bits => some (.number (.float bits))
        | none => some (.string text)

/-! ## The text of a value -/

open Unicode in
/-- Characters that are shown as they are: the space, and what has a shape of its own. -/
def isPrintable (c : Char) : Bool := c == ' ' || Newer.visible.contains c

/-- A character between double quotes. -/
def shownChar (c : Char) : List Char :=
  match c with
  | '\x00' => ['\\', '0']
  | '\t' => ['\\', 't']
  | '\r' => ['\\', 'r']
  | '\n' => ['\\', 'n']
  | '"' => ['\\', '"']
  | '\\' => ['\\', '\\']
  | _ => if isPrintable c then [c] else ['\\', 'u', '\x7b'] ++ Text.hex c.toNat ++ ['\x7d']

/-- A text between double quotes. -/
def shownString (s : List Char) : List Char := '"' :: s.flatMap shownChar ++ ['"']

/-- A number, floating-point numbers in few digits and with a point or an exponent. -/
def Number.text : Number → List Char
  | .int n => if n < 0 then '-' :: Text.decimal n.natAbs else Text.decimal n.natAbs
  | .float bits =>
    if Text.Shortest.isNaN bits then ".nan".toList
    else if !Text.Shortest.isFinite bits then
      if Text.Shortest.isNegative bits then "-.inf".toList else ".inf".toList
    else Text.Shortest.text Text.Shortest.compact bits

namespace Value

/-- The value with the names of its kinds. As the key of a mapping, a truth value, a number or a text stands bare. -/
def shown (asKey : Bool) : Value → List Char
  | null => "Null".toList
  | bool b => if asKey then (if b then "true" else "false").toList else s!"Bool({b})".toList
  | number n => if asKey then n.text else "Number(".toList ++ n.text ++ [')']
  | string s => if asKey then shownString s else "String(".toList ++ shownString s ++ [')']
  | sequence items => "Sequence [".toList ++ listed (shownItems items) ++ [']']
  | mapping entries => "Mapping \x7b".toList ++ listed (shownEntries entries) ++ ['\x7d']
  | tagged t v => "TaggedValue \x7b tag: !".toList ++ t ++ ", value: ".toList ++ shown false v ++ [' ', '\x7d']
where
  listed (parts : List (List Char)) : List Char := List.intercalate [',', ' '] parts
  shownItems : List Value → List (List Char)
    | [] => []
    | v :: r => shown false v :: shownItems r
  shownEntries : List (Value × Value) → List (List Char)
    | [] => []
    | (k, v) :: r => (shown true k ++ ": ".toList ++ shown false v) :: shownEntries r

end Value

end DeltaLint.Yaml

import DeltaLint.Text.Digits

/-
  DeltaLint.Sandbox.Shell.Real — numbers with fractions, as `printf` reads and writes them.

  A number is read as the nearest one that has so many binary digits, and is then written exactly, rounded to the
  decimal digits that are asked for. Of two that are as near, the even one is taken.
-/

namespace DeltaLint.Sandbox.Shell

/-- A magnitude, which is a quotient of two naturals, or what is no number. -/
inductive Magnitude where
  | finite (numerator denominator : Nat)
  | infinite
  | undefined
  deriving DecidableEq, Repr

structure Real where
  negative : Bool
  magnitude : Magnitude
  deriving DecidableEq, Repr

/-- How many binary digits a number has, and the least and greatest exponents of two. -/
structure Precision where
  digits : Nat
  least : Int
  greatest : Int
  deriving DecidableEq, Repr

namespace Precision

def double : Precision := ⟨53, -1074, 1024⟩

def extended : Precision := ⟨64, -16445, 16384⟩

end Precision

/-- The natural nearest to a quotient. -/
def nearest (numerator denominator : Nat) : Nat :=
  let q := numerator / denominator
  let r := 2 * (numerator % denominator)
  if denominator < r || r = denominator && q % 2 = 1 then q + 1 else q

/-- A quotient times a power of a base, as a quotient. -/
def scaled (base : Nat) (k : Int) (numerator denominator : Nat) : Nat × Nat :=
  (numerator * base.pow k.toNat, denominator * base.pow (-k).toNat)

namespace Magnitude

/-- The nearest magnitude of a precision. -/
def ofQuotient (p : Precision) (numerator denominator : Nat) : Magnitude :=
  if numerator = 0 then .finite 0 1
  else
    let size : Int := Int.ofNat numerator.log2 - Int.ofNat denominator.log2
    let fits (k : Int) : Bool := let (a, b) := scaled 2 (-k) numerator denominator; a < b * Nat.pow 2 p.digits
    let exponent := max (if fits (size - p.digits) then size - p.digits else size - p.digits + 1) p.least
    let (a, b) := scaled 2 (-exponent) numerator denominator
    let (a, b) := scaled 2 exponent (nearest a b) 1
    if b * Nat.pow 2 p.greatest.toNat ≤ a then .infinite else .finite a b

end Magnitude

/-! ## Reading -/

/-- The number that digits with a point among them stand for, how many there are after the point, and what comes after
them. There has to be one digit at least. -/
def digitsWithPoint? (base : Nat) (text : List Char) : Option (Nat × Nat × List Char) :=
  let whole := text.takeWhile (Text.isDigit base)
  let rest := text.drop whole.length
  let (fraction, rest) := match rest with
    | '.' :: after =>
      let fraction := after.takeWhile (Text.isDigit base)
      if whole.isEmpty && fraction.isEmpty then ([], rest) else (fraction, after.drop fraction.length)
    | rest => ([], rest)
  (Text.digits? base (whole ++ fraction)).map fun n => (n, fraction.length, rest)

/-- The exponent after one of the given letters, and what comes after it; zero where there is none. -/
def exponent (letters : List Char) (text : List Char) : Int × List Char :=
  match text with
  | c :: rest =>
    if !letters.contains c then (0, text)
    else
      let (negative, rest) := match rest with
        | '-' :: rest => (true, rest)
        | '+' :: rest => (false, rest)
        | rest => (false, rest)
      let ds := rest.takeWhile Char.isDigit
      match Text.digits? 10 ds with
      | some n => (if negative then -(n : Int) else n, rest.drop ds.length)
      | none => (0, text)
  | [] => (0, [])

/-- Exponents beyond these lead out of all precisions. -/
def bounded (k : Int) : Int := max (-40000) (min 40000 k)

/-- Drops a text in small letters from the start of another one, in letters of any size. -/
def dropWord? (word : String) (text : List Char) : Option (List Char) :=
  if (text.take word.length).map Char.toLower = word.toList then some (text.drop word.length) else none

/-- The magnitude at the start of a text, and what comes after it. -/
def Magnitude.read (p : Precision) (text : List Char) : Option (Magnitude × List Char) :=
  let decimal : Option (Magnitude × List Char) := do
    let (n, places, rest) ← digitsWithPoint? 10 text
    let (k, rest) := exponent ['e', 'E'] rest
    let (a, b) := scaled 10 (bounded k - places) n 1
    return (.ofQuotient p a b, rest)
  let hexadecimal : Option (Magnitude × List Char) := do
    let (n, places, rest) ← (dropWord? "0x" text).bind (digitsWithPoint? 16)
    let (k, rest) := exponent ['p', 'P'] rest
    let (a, b) := scaled 2 (bounded k - 4 * places) n 1
    return (.ofQuotient p a b, rest)
  let special : Option (Magnitude × List Char) :=
    (((dropWord? "infinity" text).or (dropWord? "inf" text)).map (.infinite, ·)).or ((dropWord? "nan" text).map (.undefined, ·))
  hexadecimal.or (decimal.or special)

/-- The number at the start of a text, and what comes after it. -/
def Real.read (p : Precision) (text : List Char) : Option (Real × List Char) :=
  let text := text.dropWhile Char.isWhitespace
  let (negative, text) := match text with
    | '-' :: rest => (true, rest)
    | '+' :: rest => (false, rest)
    | text => (false, text)
  (Magnitude.read p text).map fun (m, rest) => (⟨negative, m⟩, rest)

/-- Whether what was read from a text is not near what stands there: the number is beyond the range of exponents, or has
lost digits because it is too small. -/
def Real.isOutOfRange (x : Real) (p : Precision) (text : List Char) : Bool :=
  match x.magnitude with
  | .infinite => !text.any fun c => c == 'i' || c == 'I'
  | .finite a b =>
    if a = 0 then text.takeWhile (fun c => c != 'e' && c != 'E') |>.any fun c => '1' ≤ c && c ≤ '9'
    else a * Nat.pow 2 (-p.least).toNat < b * Nat.pow 2 (p.digits - 1)
  | .undefined => false

/-! ## Writing -/

/-- The exponent of ten of the first digit. -/
def decimalExponent (numerator denominator : Nat) : Int :=
  let guess := (Int.ofNat numerator.log2 - Int.ofNat denominator.log2) * 30103 / 100000
  let reaches (x : Int) : Bool := let (a, b) := scaled 10 (-x) numerator denominator; b ≤ a
  if numerator = 0 then 0 else ([guess + 2, guess + 1, guess, guess - 1].find? reaches).getD (guess - 2)

/-- Puts the point before the last digits, if there are any after it or it is always shown. -/
def pointed (always : Bool) (places : Nat) (digits : List Char) : List Char :=
  let digits := List.replicate (places + 1 - digits.length) '0' ++ digits
  let whole := digits.take (digits.length - places)
  whole ++ (if places = 0 && !always then [] else ['.']) ++ digits.drop whole.length

/-- With so many places after the point. -/
def fixedText (always : Bool) (places : Nat) (a b : Nat) : List Char :=
  let (a, b) := scaled 10 places a b
  pointed always places (Text.decimal (nearest a b))

/-- The digits and the exponent, with one digit before the point. -/
def scientific (places : Nat) (a b : Nat) : Nat × Int :=
  let x := decimalExponent a b
  let (c, d) := scaled 10 (places - x) a b
  let n := nearest c d
  if Nat.pow 10 (places + 1) ≤ n then (n / 10, x + 1) else (n, x)

def exponentText (letter : Char) (least : Nat) (x : Int) : List Char :=
  let ds := Text.decimal x.natAbs
  letter :: (if x < 0 then '-' else '+') :: List.replicate (least - ds.length) '0' ++ ds

def scientificText (always : Bool) (places : Nat) (a b : Nat) : List Char :=
  let (n, x) := scientific places a b
  pointed always places (Text.decimal n) ++ exponentText 'e' 2 x

/-- Without the zeros at the end of what comes after the point. -/
def withoutZeros (text : List Char) : List Char :=
  if !text.contains '.' then text
  else
    let kept := text.reverse.dropWhile (· == '0')
    (if kept.head? = some '.' then kept.drop 1 else kept).reverse

/-- The shorter form of the two, with so many digits that count. -/
def generalText (always : Bool) (digits : Nat) (a b : Nat) : List Char :=
  let places := digits - 1
  let (n, x) := scientific places a b
  let trimmed (text : List Char) : List Char := if always then text else withoutZeros text
  if x < -4 || (digits : Int) ≤ x then trimmed (pointed always places (Text.decimal n)) ++ exponentText 'e' 2 x
  else trimmed (fixedText always ((places : Int) - x).toNat a b)

/-- With digits in base sixteen, of which the first one holds what is left over of all binary digits. -/
def hexadecimalText (p : Precision) (always : Bool) (places : Option Nat) (a b : Nat) : List Char :=
  let all := (p.digits - 1) / 4
  let lead := (p.digits - 1) % 4
  let reaches (x : Int) : Bool := let (c, d) := scaled 2 (-x) a b; d ≤ c
  let size : Int := Int.ofNat a.log2 - Int.ofNat b.log2
  let x := if a = 0 then 0 else (if reaches size then size else size - 1) - lead
  let shown := places.getD all
  let (c, d) := scaled 2 (4 * Int.ofNat shown - x) a b
  let digits := pointed always shown (Text.hex (nearest c d))
  "0x".toList ++ (if places.isNone then withoutZeros digits else digits) ++ exponentText 'p' 1 x

/-- The text of a magnitude in the form that a letter stands for. `always` shows the point and all zeros. -/
def Magnitude.text (m : Magnitude) (p : Precision) (letter : Char) (always : Bool) (places : Option Nat) : List Char :=
  let small : List Char := match m, letter.toLower with
    | .infinite, _ => "inf".toList
    | .undefined, _ => "nan".toList
    | .finite a b, 'f' => fixedText always (places.getD 6) a b
    | .finite a b, 'e' => scientificText always (places.getD 6) a b
    | .finite a b, 'a' => hexadecimalText p always places a b
    | .finite a b, _ => generalText always (max 1 (places.getD 6)) a b
  if letter.isUpper then small.map Char.toUpper else small

end DeltaLint.Sandbox.Shell

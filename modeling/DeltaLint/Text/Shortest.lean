import DeltaLint.Text.Digits

/-
  DeltaLint.Text.Shortest — the fewest decimal digits that a floating-point number reads back from.

  A finite number is `m · 2^q`. The reals that round to it form an interval around it, whose ends
  belong to it when `m` is even. Of the decimal grids with 1, 2, … 17 digits the first one with a
  point in the interval gives the digits; of two such points the nearer counts. Only the two
  neighbours of the number on a grid can be in the interval, if any point is.
-/

namespace DeltaLint.Text.Shortest

/-- A number `digits · 10^exponent`, the last digit not 0. -/
structure Decimal where
  digits : Nat
  exponent : Int
  deriving DecidableEq, Repr

/-- A positive finite number: the number itself and the ends of its interval over one denominator. -/
structure Interval where
  low : Nat
  value : Nat
  high : Nat
  denominator : Nat
  closed : Bool
  deriving DecidableEq, Repr

/-- The exponent field of the bits, and the fraction. -/
def fields (bits : UInt64) : Nat × Nat := ((bits >>> 52).toNat % 2048, bits.toNat % Nat.pow 2 52)

def isNegative (bits : UInt64) : Bool := 1 ≤ (bits >>> 63).toNat

def isFinite (bits : UInt64) : Bool := (fields bits).1 != 2047

def isNaN (bits : UInt64) : Bool := (fields bits).1 == 2047 && (fields bits).2 != 0

def isZero (bits : UInt64) : Bool := bits.toNat % Nat.pow 2 63 == 0

def Interval.ofBits (bits : UInt64) : Interval :=
  let (e, f) := fields bits
  let m := if e = 0 then f else f + Nat.pow 2 52
  let q := max e 1
  let below := if f = 0 ∧ 1 < e then 1 else 2
  -- the number is 4m · 2^(q - 1077)
  let (up, down) := if 1077 ≤ q then (Nat.pow 2 (q - 1077), 1) else (1, Nat.pow 2 (1077 - q))
  ⟨(4 * m - below) * up, 4 * m * up, (4 * m + 2) * up, down, m % 2 == 0⟩

/-- The number of decimal digits of a fraction before the point, less one; below 1, minus the place of its first
digit after the point. -/
def magnitude (num den : Nat) : Int :=
  if den ≤ num then (Nat.toDigits 10 (num / den)).length - 1
  else
    let rec go : Nat → Nat → Int → Int
      | 0, _, k => k
      | n + 1, num, k => if den ≤ num then k else go n (num * 10) (k - 1)
    go 400 num 0

/-- `d` points of the grid `10^unit`, over the denominator of `i` and that of the grid: the point and the factor that
the interval takes. -/
def onGrid (i : Interval) (unit : Int) (d : Nat) : Nat × Nat :=
  if 0 ≤ unit then (d * Nat.pow 10 unit.toNat * i.denominator, 1) else (d * i.denominator, Nat.pow 10 (-unit).toNat)

def contains (i : Interval) (unit : Int) (d : Nat) : Bool :=
  let (x, k) := onGrid i unit d
  if i.closed then i.low * k ≤ x && x ≤ i.high * k else i.low * k < x && x < i.high * k

/-- The point of the grid in the interval that is nearest to the number. -/
def nearest? (i : Interval) (unit : Int) : Option Nat :=
  let d :=
    if 0 ≤ unit then i.value / (Nat.pow 10 unit.toNat * i.denominator)
    else i.value * Nat.pow 10 (-unit).toNat / i.denominator
  match contains i unit d, contains i unit (d + 1) with
  | true, true =>
    let (x, k) := onGrid i unit d
    let (y, _) := onGrid i unit (d + 1)
    let below := i.value * k - x
    let above := y - i.value * k
    some (if below < above then d else if above < below then d + 1 else if d % 2 = 0 then d else d + 1)
  | true, false => some d
  | false, true => some (d + 1)
  | false, false => none

/-- Takes zeros off the end. -/
def normal (fuel : Nat) (d : Decimal) : Decimal :=
  match fuel with
  | 0 => d
  | n + 1 => if d.digits % 10 = 0 ∧ d.digits ≠ 0 then normal n ⟨d.digits / 10, d.exponent + 1⟩ else d

/-- The shortest decimal of a finite number other than zero, its sign left out. -/
def decimal (bits : UInt64) : Decimal :=
  let i := Interval.ofBits bits
  let k := magnitude i.value i.denominator
  let found := (List.range 17).findSome? fun (n : Nat) => (nearest? i (k - n)).map fun d => Decimal.mk d (k - n)
  normal 400 (found.getD ⟨0, 0⟩)

/-- The digits of a decimal and how many of them stand before the point. -/
def layout (d : Decimal) : List Char × Int :=
  let ds := Text.decimal d.digits
  (ds, ds.length + d.exponent)

def zeros (n : Int) : List Char := List.replicate n.toNat '0'

/-- Without an exponent, and with at least one digit on both sides of the point. -/
def positional (d : Decimal) : List Char :=
  let (ds, point) := layout d
  if point ≤ 0 then ['0', '.'] ++ zeros (-point) ++ ds
  else if point < ds.length then ds.take point.toNat ++ '.' :: ds.drop point.toNat
  else ds ++ zeros (point - ds.length) ++ ['.', '0']

/-- With an exponent, after one digit and the others. -/
def scientific (d : Decimal) : List Char :=
  let (ds, point) := layout d
  let e := point - 1
  let exponent := (if e < 0 then ['-'] else []) ++ Text.decimal e.natAbs
  match ds with
  | [c] => c :: 'e' :: exponent
  | c :: cs => c :: '.' :: cs ++ 'e' :: exponent
  | [] => []

/-- Positional from 0.00001 up to sixteen digits before the point, and scientific beyond. -/
def compact (d : Decimal) : List Char :=
  let (_, point) := layout d
  if -5 < point ∧ point ≤ 16 then positional d else scientific d

/-- A finite number, zero and sign included. -/
def text (write : Decimal → List Char) (bits : UInt64) : List Char :=
  (if isNegative bits then ['-'] else []) ++ if isZero bits then ['0', '.', '0'] else write (decimal bits)

end DeltaLint.Text.Shortest

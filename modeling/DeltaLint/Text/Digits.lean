/-
  DeltaLint.Text.Digits — numbers written in digits: decimal, octal, hexadecimal, ASCII digits only.
-/

namespace DeltaLint.Text

/-- What `c` counts for as a digit of the base. -/
def digit? (base : Nat) (c : Char) : Option Nat :=
  let n :=
    if '0' ≤ c ∧ c ≤ '9' then c.toNat - '0'.toNat
    else if 'a' ≤ c ∧ c ≤ 'z' then c.toNat - 'a'.toNat + 10
    else if 'A' ≤ c ∧ c ≤ 'Z' then c.toNat - 'A'.toNat + 10
    else base
  if n < base then some n else none

def isDigit (base : Nat) (c : Char) : Bool := (digit? base c).isSome

/-- The value of one or more digits, and of nothing else. -/
def digits? (base : Nat) (text : List Char) : Option Nat :=
  if text = [] then none
  else text.foldlM (fun n c => (digit? base c).map (n * base + ·)) 0

/-- The value of decimal digits, when it is at most `bound`. -/
def decimal? (bound : Nat) (text : List Char) : Option Nat := (digits? 10 text).filter (· ≤ bound)

/-- The decimal digits of `n`, without leading zeros. -/
def decimal (n : Nat) : List Char := Nat.toDigits 10 n

/-- The hexadecimal digits of `n` in lower case, without leading zeros. -/
def hex (n : Nat) : List Char := Nat.toDigits 16 n

/-- The largest number of 32 bits. -/
def word32 : Nat := 0xFFFFFFFF

end DeltaLint.Text

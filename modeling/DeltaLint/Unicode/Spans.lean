import DeltaLint.Text.Digits
import DeltaLint.Text.Pieces

/-
  DeltaLint.Unicode.Spans — sets of code points, written as spans.

  A span runs from its first code point to its last in even steps. A set lists its spans in
  increasing order, none reaching into the next. Tables write a span as `first-last/step` in
  hexadecimal, the step left out when it is 1 and the last code point when it is the first.
-/

namespace DeltaLint.Unicode

structure Span where
  first : Nat
  last : Nat
  step : Nat
  deriving DecidableEq, Repr

abbrev Spans := List Span

namespace Span

def contains (s : Span) (n : Nat) : Bool := s.first ≤ n && n ≤ s.last && (n - s.first) % s.step == 0

/-- Reads one word of a table. -/
def read? (word : List Char) : Option Span := do
  let bounds := word.takeWhile (· != '/')
  let first ← Text.digits? 16 (bounds.takeWhile (· != '-'))
  let last := (Text.digits? 16 ((bounds.dropWhile (· != '-')).drop 1)).getD first
  some ⟨first, last, (Text.digits? 16 ((word.dropWhile (· != '/')).drop 1)).getD 1⟩

end Span

namespace Spans

/-- The spans stand in increasing order, so the search ends at the first that begins after `n`. -/
def contains : Spans → Nat → Bool
  | [], _ => false
  | s :: r, n => if n < s.first then false else if n ≤ s.last then (n - s.first) % s.step == 0 else contains r n

def read (rows : List String) : Spans := (Text.words rows).filterMap Span.read?

end Spans

end DeltaLint.Unicode

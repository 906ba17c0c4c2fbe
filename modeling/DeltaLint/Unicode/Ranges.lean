import DeltaLint.Unicode.CharSet

/-
  DeltaLint.Unicode.Ranges — the members of a set, as ranges.

  The ranges of a set stand in increasing order and as far apart as they can: between two of them is
  at least one code point that is in neither. So sets with the same members have the same ranges.
  Surrogates, which are no characters, are in none.
-/

namespace DeltaLint.Unicode

/-- The code points from the first to the last. -/
structure CodeRange where
  first : Nat
  last : Nat
  deriving DecidableEq, Repr

abbrev Ranges := List CodeRange

namespace Ranges

def greatest : Nat := 0x10FFFF

def point (n : Nat) : CodeRange := ⟨n, n⟩

/-- Puts ranges together that touch, where they come in the order of their first code points. -/
def joined (r : CodeRange) : List CodeRange → Ranges
  | [] => [r]
  | s :: rest => if s.first ≤ r.last + 1 then joined ⟨r.first, max r.last s.last⟩ rest else r :: joined s rest

/-- Ranges in any order put in order, those that touch put together. -/
def ordered (rs : List CodeRange) : Ranges :=
  match rs.mergeSort fun r s => r.first ≤ s.first with
  | [] => []
  | r :: rest => joined r rest

def union (rs ss : Ranges) : Ranges := ordered (rs ++ ss)

/-- What is left out from `start` on. -/
def gaps (start : Nat) : Ranges → Ranges
  | [] => if start ≤ greatest then [⟨start, greatest⟩] else []
  | r :: rest => if start < r.first then ⟨start, r.first - 1⟩ :: gaps (r.last + 1) rest else gaps (r.last + 1) rest

def complement (rs : Ranges) : Ranges := gaps 0 rs

def intersection (rs ss : Ranges) : Ranges := complement (union (complement rs) (complement ss))

/-- The parts of the ranges from `first` to `last`. -/
def within (rs : Ranges) (first last : Nat) : Ranges :=
  rs.filterMap fun r => if max r.first first ≤ min r.last last then some ⟨max r.first first, min r.last last⟩ else none

def points (r : CodeRange) : List Nat := (List.range (r.last + 1 - r.first)).map (r.first + ·)

def ofSpan (s : Span) : List CodeRange :=
  if s.step ≤ 1 then [⟨s.first, s.last⟩]
  else (List.range ((s.last - s.first) / s.step + 1)).map fun i => point (s.first + i * s.step)

def ofSpans (s : Spans) : Ranges := ordered (s.flatMap ofSpan)

end Ranges

namespace Shift

open Ranges

/-- Where the shift moves members of the ranges to. -/
def images (s : Shift) (rs : Ranges) : List CodeRange :=
  (within rs s.span.first s.span.last).flatMap fun r =>
    if s.span.step ≤ 1 then [⟨s.target + (r.first - s.span.first), s.target + (r.last - s.span.first)⟩]
    else ((points r).filterMap s.image?).map point

/-- What the shift moves to members of the ranges. -/
def sources (s : Shift) (rs : Ranges) : List CodeRange :=
  (within rs s.target (s.target + (s.span.last - s.span.first))).flatMap fun r =>
    if s.span.step ≤ 1 then [⟨s.span.first + (r.first - s.target), s.span.first + (r.last - s.target)⟩]
    else ((points r).filterMap s.source?).map point

end Shift

namespace CaseFold

/-- The code points that some shift moves. -/
def moved : Ranges := Ranges.ordered (shifts.flatMap fun s => Ranges.ofSpan s.span)

/-- All that differ from a member in case alone. -/
def closure (rs : Ranges) : Ranges :=
  let keys := Ranges.union (Ranges.intersection rs moved.complement) (Ranges.ordered (shifts.flatMap (·.images rs)))
  Ranges.union keys (Ranges.ordered (shifts.flatMap (·.sources keys)))

end CaseFold

namespace CharSet

/-- The code points of a set, surrogates among them. -/
def codePoints : CharSet → Ranges
  | spans s => Ranges.ofSpans s
  | category k => Ranges.ofSpans k.spans
  | not s => s.codePoints.complement
  | or s t => s.codePoints.union t.codePoints
  | and s t => s.codePoints.intersection t.codePoints
  | folded s => CaseFold.closure s.codePoints

def ranges (s : CharSet) : Ranges := s.codePoints.intersection [⟨0, 0xD7FF⟩, ⟨0xE000, Ranges.greatest⟩]

end CharSet

end DeltaLint.Unicode

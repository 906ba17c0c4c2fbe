import DeltaLint.Unicode.Blank
import DeltaLint.Unicode.CaseFold
import DeltaLint.Unicode.Category

/-
  DeltaLint.Unicode.CharSet — sets of characters as expressions.

  A set is kept the way it was put together, so two sets are cheap to compare and membership is read
  off the expression. `folded s` holds every character that differs from a member of `s` in case alone.
-/

namespace DeltaLint.Unicode

inductive CharSet where
  | spans (s : Spans)
  | category (k : Category)
  | not (s : CharSet)
  | or (s t : CharSet)
  | and (s t : CharSet)
  | folded (s : CharSet)
  deriving DecidableEq, Repr

namespace CharSet

def contains : CharSet → Char → Bool
  | spans s, c => s.contains c.toNat
  | category k, c => k.contains c
  | not s, c => !s.contains c
  | or s t, c => s.contains c || t.contains c
  | and s t, c => s.contains c && t.contains c
  | folded s, c => (CaseFold.orbit c).any s.contains

/-- The set without members. -/
def empty : CharSet := spans []

def all : CharSet := not empty

def span (first last : Nat) : CharSet := spans [⟨first, last, 1⟩]

def one (c : Char) : CharSet := span c.toNat c.toNat

def union : List CharSet → CharSet
  | [] => empty
  | [s] => s
  | s :: r => or s (union r)

def ofCategories (ks : List Category) : CharSet := union (ks.map category)

/-- The members of `s` that are not in `t`. -/
def minus (s t : CharSet) : CharSet := and s (not t)

/-- The members of exactly one of the two. -/
def symmetricDifference (s t : CharSet) : CharSet := or (minus s t) (minus t s)

end CharSet

end DeltaLint.Unicode

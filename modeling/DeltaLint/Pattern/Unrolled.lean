import DeltaLint.Pattern.Basic

/-
  DeltaLint.Pattern.Unrolled — patterns without counts.

  A counted repetition is written out as that many copies, those beyond the least of them optional.
  The copies are put together in halves, so that a large count makes a tree of small depth whose parts
  are shared. A pattern that matches the empty stretch at most is not repeated at all.
-/

namespace DeltaLint

open Unicode

inductive Unrolled where
  | empty
  | char (s : CharSet)
  | look (l : Look)
  | seq (p q : Unrolled)
  | alt (p q : Unrolled)
  /-- Any number of matches in a row. -/
  | star (p : Unrolled)
  deriving Repr

namespace Unrolled

def pattern : Unrolled → Pattern
  | empty => .empty
  | char s => .char s
  | look l => .look l
  | seq p q => .seq p.pattern q.pattern
  | alt p q => .alt p.pattern q.pattern
  | star p => .repeated p.pattern 0 none

/-- What matches nothing. -/
def nothing : Unrolled := char .empty

/-- `n` copies in a row. -/
def power (p : Unrolled) (n : Nat) : Unrolled :=
  if n = 0 then empty
  else if n = 1 then p
  else
    let half := power p (n / 2)
    if n % 2 = 0 then seq half half else seq p (seq half half)
termination_by n

/-- `least` to `most` copies in a row. -/
def copies (p : Unrolled) (least : Nat) (most : Option Nat) : Unrolled :=
  match most with
  | none => seq (power p least) (star p)
  | some most => seq (power p least) (power (alt p empty) (most - least))

end Unrolled

namespace Pattern

/-- All that the pattern can match is the empty stretch. -/
def onlyEmpty : Pattern → Bool
  | empty => true
  | char _ => false
  | look _ => true
  | seq p q => p.onlyEmpty && q.onlyEmpty
  | alt p q => p.onlyEmpty && q.onlyEmpty
  | repeated p _ most => p.onlyEmpty || most == some 0

/-- The pattern with its counts written out. -/
def unrolled : Pattern → Unrolled
  | empty => .empty
  | char s => .char s
  | look l => .look l
  | seq p q => .seq p.unrolled q.unrolled
  | alt p q => .alt p.unrolled q.unrolled
  | repeated p least most =>
    if most.any (· < least) then .nothing
    else if p.onlyEmpty then if least = 0 then .empty else p.unrolled
    else p.unrolled.copies least most

end Pattern

end DeltaLint

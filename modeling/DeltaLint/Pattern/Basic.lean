import DeltaLint.Unicode.CharSet

/-
  DeltaLint.Pattern.Basic — patterns and the texts that they match.

  A pattern matches a stretch of a text in its surroundings: `Matches p before u rest` says that `p`
  matches `u` where `before` is the character that stands before it, if any, and `rest` is what
  follows. A look matches the empty stretch and asks about its two neighbours only, so nothing more
  of the text is needed. `repeated p least most` stands for `least` to `most` matches of `p` in a row,
  without an upper bound when `most` is `none`.
-/

namespace DeltaLint

open Unicode

/-- Which side of a word, as `word` has it, a place is on. -/
inductive Edge where
  | boundary
  | interior
  | wordStart
  | wordEnd
  | beforeWord
  | afterWord
  deriving DecidableEq, Repr

/-- A question about the two characters next to a place. -/
inductive Look where
  | textStart
  | textEnd
  | lineStart
  | lineEnd
  /-- As `lineStart`, where a carriage return ends a line too and a line feed after it belongs to it. -/
  | returnLineStart
  | returnLineEnd
  | edge (e : Edge) (word : CharSet)
  deriving DecidableEq, Repr

def Edge.holds (e : Edge) (inWordBefore inWordAfter : Bool) : Bool :=
  match e with
  | .boundary => inWordBefore != inWordAfter
  | .interior => inWordBefore == inWordAfter
  | .wordStart => !inWordBefore && inWordAfter
  | .wordEnd => inWordBefore && !inWordAfter
  | .beforeWord => !inWordBefore
  | .afterWord => !inWordAfter

def Look.holds (l : Look) (before after : Option Char) : Bool :=
  match l with
  | .textStart => before.isNone
  | .textEnd => after.isNone
  | .lineStart => before.isNone || before == some '\n'
  | .lineEnd => after.isNone || after == some '\n'
  | .returnLineStart => before.isNone || before == some '\n' || (before == some '\r' && after != some '\n')
  | .returnLineEnd => after.isNone || after == some '\r' || (after == some '\n' && before != some '\r')
  | .edge e word => e.holds (before.any word.contains) (after.any word.contains)

inductive Pattern where
  | empty
  | char (s : CharSet)
  | look (l : Look)
  | seq (p q : Pattern)
  | alt (p q : Pattern)
  | repeated (p : Pattern) (least : Nat) (most : Option Nat)
  deriving DecidableEq, Repr

namespace Pattern

/-- The last character of `u`, or what stood before it. -/
def lastOf (before : Option Char) (u : List Char) : Option Char := u.foldl (fun _ c => some c) before

inductive Matches : Pattern → Option Char → List Char → List Char → Prop where
  | empty {before : Option Char} {rest : List Char} : Matches empty before [] rest
  | char {s : CharSet} {before : Option Char} {c : Char} {rest : List Char} (h : s.contains c = true) :
      Matches (char s) before [c] rest
  | look {l : Look} {before : Option Char} {rest : List Char} (h : l.holds before rest.head? = true) :
      Matches (look l) before [] rest
  | seq {p q : Pattern} {before : Option Char} {u v rest : List Char} (hp : Matches p before u (v ++ rest))
      (hq : Matches q (lastOf before u) v rest) : Matches (seq p q) before (u ++ v) rest
  | left {p q : Pattern} {before : Option Char} {u rest : List Char} (h : Matches p before u rest) :
      Matches (alt p q) before u rest
  | right {p q : Pattern} {before : Option Char} {u rest : List Char} (h : Matches q before u rest) :
      Matches (alt p q) before u rest
  | done {p : Pattern} {most : Option Nat} {before : Option Char} {rest : List Char} :
      Matches (repeated p 0 most) before [] rest
  | again {p : Pattern} {least : Nat} {most : Option Nat} {before : Option Char} {u v rest : List Char}
      (h : most ≠ some 0) (hp : Matches p before u (v ++ rest))
      (hr : Matches (repeated p (least - 1) (most.map (· - 1))) (lastOf before u) v rest) :
      Matches (repeated p least most) before (u ++ v) rest

/-- The pattern has a match that begins with the first character of the text. -/
def StartsIn (p : Pattern) (text : List Char) : Prop := ∃ u rest, text = u ++ rest ∧ Matches p none u rest

/-- One pattern after the other. -/
def concat : List Pattern → Pattern
  | [] => empty
  | [p] => p
  | p :: r => seq p (concat r)

/-- Any of the patterns; without any, what matches nothing. -/
def choice : List Pattern → Pattern
  | [] => char .empty
  | [p] => p
  | p :: r => alt p (choice r)

end Pattern

end DeltaLint

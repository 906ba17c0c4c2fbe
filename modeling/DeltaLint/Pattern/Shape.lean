import DeltaLint.Pattern.Basic
import DeltaLint.Unicode.Encoded

/-
  DeltaLint.Pattern.Shape — patterns in the form in which they are measured.

  Of two ways to write a pattern the shape keeps the simpler one: characters in a row are one text of
  bytes, a choice between characters is a set, and what every branch of a choice begins with stands
  before the choice. Groups and the preference of a repetition for few matches have no bearing on what is
  matched, but count here. Shapes are made with `ofSet`, `concat`, `choice` and `repetition`, which keep
  sequences and choices leaning to the right, and neither of them directly in one of its own kind.
-/

namespace DeltaLint

open Unicode

inductive Shape where
  | empty
  | literal (bytes : List UInt8)
  | set (ranges : Ranges)
  | look (l : Look)
  | repeated (s : Shape) (least : Nat) (most : Option Nat) (fewFirst : Bool)
  | group (number : Nat) (s : Shape)
  | seq (s t : Shape)
  | alt (s t : Shape)
  deriving DecidableEq, Repr

namespace Shape

/-! ## Measures -/

/-- How many bytes the shortest match takes; none where the shape holds a set without members. -/
def leastBytes : Shape → Option Nat
  | empty => some 0
  | literal bytes => some bytes.length
  | set rs => if rs.isEmpty then none else some 1
  | look _ => some 0
  | repeated s least _ _ => s.leastBytes.map (· * least)
  | group _ s => s.leastBytes
  | seq s t => s.leastBytes.bind fun m => t.leastBytes.map (m + ·)
  | alt s t => s.leastBytes.bind fun m => t.leastBytes.map (min m ·)

/-- How many bytes a match takes at most; none where there is no bound, or no match of some part. -/
def mostBytes : Shape → Option Nat
  | empty => some 0
  | literal bytes => some bytes.length
  | set rs => if rs.isEmpty then none else some 4
  | look _ => some 0
  | repeated s _ most _ => s.mostBytes.bind fun m => most.map (m * ·)
  | group _ s => s.mostBytes
  | seq s t => s.mostBytes.bind fun m => t.mostBytes.map (m + ·)
  | alt s t => s.mostBytes.bind fun m => t.mostBytes.map (max m ·)

/-- Every match begins with the given look. -/
def beginsWith (l : Look) : Shape → Bool
  | look k => k == l
  | repeated s least _ _ => 0 < least && s.beginsWith l
  | group _ s => s.beginsWith l
  | seq s t => s.beginsWith l || (s.mostBytes == some 0 && t.beginsWith l)
  | alt s t => s.beginsWith l && t.beginsWith l
  | _ => false

/-- Every match ends with the given look. -/
def endsWith (l : Look) : Shape → Bool
  | look k => k == l
  | repeated s least _ _ => 0 < least && s.endsWith l
  | group _ s => s.endsWith l
  | seq s t => t.endsWith l || (t.mostBytes == some 0 && s.endsWith l)
  | alt s t => s.endsWith l && t.endsWith l
  | _ => false

/-! ## Parts -/

/-- The parts of a sequence. -/
def parts : Shape → List Shape
  | empty => []
  | seq s t => s :: t.parts
  | s => [s]

def ofParts : List Shape → Shape
  | [] => empty
  | [s] => s
  | s :: rest => seq s (ofParts rest)

/-- The branches of a choice. -/
def branches : Shape → List Shape
  | alt s t => s :: t.branches
  | s => [s]

def ofBranches : List Shape → Shape
  | [] => set []
  | [s] => s
  | s :: rest => alt s (ofBranches rest)

/-- Texts that come one after the other put together. -/
def joinLiterals : List Shape → List Shape
  | [] => []
  | literal bytes :: rest =>
    match joinLiterals rest with
    | literal more :: rest => literal (bytes ++ more) :: rest
    | rest => literal bytes :: rest
  | s :: rest => s :: joinLiterals rest

/-! ## Making shapes -/

/-- A set with the given members; with one alone, a text. -/
def ofRanges (rs : Ranges) : Shape :=
  match rs with
  | [r] => if r.first = r.last then literal (Text.Utf8.encodeChar (Char.ofNat r.first)) else set rs
  | _ => set rs

def ofSet (s : CharSet) : Shape := ofRanges s.ranges

/-- One shape after the other. -/
def concat (ss : List Shape) : Shape := ofParts (joinLiterals (ss.flatMap parts))

/-- A repetition. What takes no bytes is matched once at most. -/
def repetition (s : Shape) (least : Nat) (most : Option Nat) (fewFirst : Bool) : Shape :=
  let takesNone := s.mostBytes == some 0
  let least := if takesNone then min least 1 else least
  let most := if takesNone then some (min (most.getD 1) 1) else most
  if least = 0 ∧ most = some 0 then empty
  else if least = 1 ∧ most = some 1 then s
  else repeated s least most fewFirst

/-- The one character of a text. -/
def character? : Shape → Option Nat
  | literal bytes =>
    match Text.Utf8.decode? bytes with
    | some [c] => some c.toNat
    | _ => none
  | _ => none

def ranges? : Shape → Option Ranges
  | set rs => some rs
  | _ => none

/-- The parts of a sequence that has more than one. -/
def sequence? : Shape → Option (List Shape)
  | seq s t => some (s :: t.parts)
  | _ => none

/-- What two lists begin with alike. -/
def commonStart : List Shape → List Shape → List Shape
  | s :: ss, t :: ts => if s = t then s :: commonStart ss ts else []
  | _, _ => []

/-- A choice of branches that are no choices themselves, without looking into them. -/
def choiceOf (ss : List Shape) : Shape :=
  match ss with
  | [s] => s
  | _ =>
    match ss.mapM character?, ss.mapM ranges? with
    | some cs, _ => ofRanges (Ranges.ordered (cs.map Ranges.point))
    | none, some rs => ofRanges (Ranges.ordered rs.flatten)
    | none, none => ofBranches ss

/-- The parts that all branches begin with, if each is a sequence. -/
def commonParts (ss : List Shape) : List Shape :=
  match ss.mapM sequence? with
  | some (ps :: rest) => rest.foldl commonStart ps
  | _ => []

/-- Any of the shapes. -/
def choice (ss : List Shape) : Shape :=
  let bs := ss.flatMap branches
  let start := commonParts bs
  if start.isEmpty then choiceOf bs
  else concat (start ++ [choiceOf ((bs.map fun b => concat (b.parts.drop start.length)).flatMap branches)])

end Shape

end DeltaLint

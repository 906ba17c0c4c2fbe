import DeltaLint.Pattern.Footprint
import DeltaLint.Pattern.Token

/-
  DeltaLint.Pattern.Read — patterns from their text.

  The reader keeps the groups that are still open. Modes set inside a group hold up to its end, in all
  of its later branches. A pattern may be nested 250 deep, counting every group, repetition, sequence,
  choice and class, and may not take too much memory (`Shape.fits`).
-/

namespace DeltaLint.Pattern

open Unicode

def depthLimit : Nat := 250

/-! ## Reading -/

/-- A part of a sequence. What only sets modes cannot be repeated. -/
structure Part where
  pattern : Pattern
  shape : Shape
  depth : Nat
  repeatable : Bool
  deriving DecidableEq, Repr

/-- The shape of a pattern that is read as one token. -/
def itemShape : Pattern → Shape
  | char s => .ofSet s
  | look l => .look l
  | _ => .empty

/-- A group that is open: its number if it keeps what it matches, the modes, the parts of its last branch and its
other branches, last first. -/
structure Group where
  number : Option Nat
  flags : Flags
  parts : List Part
  branches : List Part
  deriving DecidableEq, Repr

namespace Group

def start (number : Option Nat) (f : Flags) : Group := ⟨number, f, [], []⟩

def add (g : Group) (p : Part) : Group := { g with parts := p :: g.parts }

/-- Parts put together, nested one level deeper when there is more than one. -/
def together (join : List Pattern → Pattern) (joinShapes : List Shape → Shape) (ps : List Part) : Part :=
  match ps with
  | [p] => { p with repeatable := true }
  | _ =>
    let depth := if ps.isEmpty then 0 else 1 + (ps.map (·.depth)).foldl max 0
    ⟨join (ps.map (·.pattern)), joinShapes (ps.map (·.shape)), depth, true⟩

/-- The last branch. -/
def branch (g : Group) : Part := together concat .concat g.parts.reverse

def newBranch (g : Group) : Group := { g with parts := [], branches := g.branch :: g.branches }

/-- All branches. -/
def whole (g : Group) : Part := together choice .choice (g.branch :: g.branches).reverse

end Group

/-- The innermost open group, those around it, how many groups keep what they match, and the names of groups so far. -/
structure Builder where
  inner : Group
  outer : List Group
  groups : Nat
  names : List (List Char)
  deriving DecidableEq, Repr

namespace Builder

def start : Builder := ⟨.start none {}, [], 0, []⟩

def repetition (b : Builder) (least : Nat) (most : Option Nat) (fewFirst : Bool) : Except Fault Builder :=
  match b.inner.parts with
  | p :: ps =>
    if !p.repeatable then .error .nothingToRepeat
    else
      let q : Part := ⟨p.pattern.repeated least most, p.shape.repetition least most fewFirst, p.depth + 1, true⟩
      .ok { b with inner := { b.inner with parts := q :: ps } }
  | [] => .error .nothingToRepeat

/-- Opens a group. No name comes twice. -/
def openGroup (b : Builder) (keeps : Bool) (name : Option (List Char)) (f : Flags) : Except Fault Builder :=
  if name.any b.names.contains then .error .badGroupName
  else
    let number := if keeps then some b.groups else none
    .ok ⟨.start number f, b.inner :: b.outer, if keeps then b.groups + 1 else b.groups, name.toList ++ b.names⟩

def closeGroup (b : Builder) : Except Fault Builder :=
  match b.outer with
  | g :: gs =>
    let w := b.inner.whole
    let shape := b.inner.number.elim w.shape fun n => .group n w.shape
    .ok { b with inner := g.add ⟨w.pattern, shape, w.depth + 1, true⟩, outer := gs }
  | [] => .error .unopenedGroup

def push (b : Builder) : Token → Except Fault Builder
  | .openGroup keeps name f => b.openGroup keeps name f
  | .closeGroup => b.closeGroup
  | .bar => .ok { b with inner := b.inner.newBranch }
  | .setFlags f => .ok { b with inner := { b.inner.add ⟨.empty, .empty, 0, false⟩ with flags := f } }
  | .repetition least most fewFirst => b.repetition least most fewFirst
  | .item p depth => .ok { b with inner := b.inner.add ⟨p, itemShape p, depth, true⟩ }

/-- All that was read, once every group is closed and unless it is nested too deeply. -/
def finish (b : Builder) : Except Fault Part :=
  if !b.outer.isEmpty then .error .unclosedGroup
  else if depthLimit < b.inner.whole.depth then .error .tooDeep
  else .ok b.inner.whole

end Builder

/-- Reads token after token; `n` bounds their number. -/
def readFrom : Nat → Builder → List Char → Except Fault Part
  | 0, b, _ => b.finish
  | n + 1, b, text =>
    match b.inner.flags.skip text with
    | [] => b.finish
    | text => do
      let (t, rest) ← token b.inner.flags text
      readFrom n (← b.push t) rest

/-- What the text describes, however large it is. Every token takes a character, so there are at most as many. -/
def parse (text : List Char) : Except Fault Part := readFrom text.length .start text

/-- The pattern that the text describes, unless it takes too much memory. -/
def read (text : List Char) : Except Fault Pattern := do
  let whole ← parse text
  if whole.shape.fits then return whole.pattern
  throw .tooLarge

end DeltaLint.Pattern

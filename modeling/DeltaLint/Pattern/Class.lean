import DeltaLint.Pattern.Escape

/-
  DeltaLint.Pattern.Class — character classes in brackets.

  A class is a union of members (characters, ranges, escapes, named sets and classes in turn), or such
  unions joined by `&&`, `--` and `~~`, which bind alike and to the left. A closing bracket that comes
  first and hyphens that come first stand for themselves, and so does a hyphen before the closing
  bracket. The reader keeps the classes that are still open, the innermost first.
-/

namespace DeltaLint.Pattern

open Unicode

inductive SetOperator where
  | both
  | minus
  | either
  deriving DecidableEq, Repr

def SetOperator.apply : SetOperator → CharSet → CharSet → CharSet
  | .both => .and
  | .minus => .minus
  | .either => .symmetricDifference

/-- A set and how deeply its text is nested. -/
structure Nested where
  set : CharSet
  depth : Nat
  deriving DecidableEq, Repr

/-- A class that is open: the operator read last with all that stands before it, and the members since, last first. -/
structure OpenClass where
  negated : Bool
  pending : Option (SetOperator × Nested)
  members : List Nested
  deriving DecidableEq, Repr

namespace OpenClass

def add (k : OpenClass) (m : Nested) : OpenClass := { k with members := m :: k.members }

/-- The union of the members since the last operator. -/
def current (k : OpenClass) : Nested :=
  match k.members with
  | [] => ⟨.empty, 0⟩
  | [m] => m
  | ms => ⟨.union (ms.reverse.map (·.set)), 1 + (ms.map (·.depth)).foldl max 0⟩

/-- All that was read, the operator applied. -/
def joined (f : Flags) (k : OpenClass) : Nested :=
  match k.pending with
  | none => k.current
  | some (o, left) =>
    let right := k.current
    ⟨o.apply (f.fold left.set) (f.fold right.set), 1 + max left.depth right.depth⟩

def operator (f : Flags) (o : SetOperator) (k : OpenClass) : OpenClass :=
  { k with pending := some (o, k.joined f), members := [] }

/-- The set of the class once it is closed. -/
def close (f : Flags) (k : OpenClass) : Except Fault Nested := do
  let all := k.joined f
  let s ← f.complement k.negated (f.fold all.set)
  return ⟨s, all.depth + 1⟩

end OpenClass

/-- Takes the mark of a complement. -/
def negation (text : List Char) : Bool × List Char :=
  match text with
  | '^' :: rest => (true, rest)
  | _ => (false, text)

/-- Reads `name:]`, if that is what the text begins with. -/
def className? (f : Flags) (negated : Bool) (text : List Char) : Option (Except Fault CharSet × List Char) :=
  match text.dropWhile (· != ':') with
  | ':' :: ']' :: rest =>
    (Ascii.named.lookup (String.ofList (text.takeWhile (· != ':')))).map fun s => (f.complement negated (f.fold s), rest)
  | _ => none

/-- Reads `:name:]` after an opening bracket, if that is what follows. -/
def namedClass? (f : Flags) (text : List Char) : Option (Except Fault CharSet × List Char) :=
  match text with
  | ':' :: rest => className? f (negation rest).1 (negation rest).2
  | _ => none

/-- Takes the hyphens that come first in a class. -/
def leadingHyphens (f : Flags) (k : OpenClass) : Nat → List Char → OpenClass × List Char
  | n + 1, '-' :: rest => leadingHyphens f (k.add ⟨.one '-', 0⟩) n (f.skip rest)
  | _, text => (k, text)

/-- Takes a closing bracket that comes first in a class. -/
def leadingBracket (f : Flags) (k : OpenClass) : Reader OpenClass := fun text =>
  match text with
  | [] => .error .unclosedClass
  | ']' :: rest =>
    if !k.members.isEmpty then .ok (k, text)
    else if (f.skip rest).isEmpty then .error .unclosedClass
    else .ok (k.add ⟨.one ']', 0⟩, f.skip rest)
  | _ => .ok (k, text)

/-- Reads what follows an opening bracket up to the first member that needs no special care. -/
def openClass (f : Flags) : Reader OpenClass := fun text =>
  let (negated, rest) := negation (f.skip text)
  let text := if negated then f.skip rest else rest
  let (k, text) := leadingHyphens f ⟨negated, none, []⟩ text.length text
  leadingBracket f k text

/-- Reads one character or escape of a class. -/
def classAtom (f : Flags) : Reader Atom
  | [] => .error .unclosedClass
  | '\\' :: rest => escape f rest
  | c :: rest => .ok (.literal c, rest)

/-- The member for an atom. Without Unicode, a character of a class is an ASCII one. -/
def Atom.member (f : Flags) : Atom → Except Fault CharSet
  | .literal c => if f.unicode || c.toNat < 0x80 then .ok (.one c) else .error .notUnicode
  | .set s => .ok s
  | .look _ => .error .badClassMember

/-- The character that decides what a hyphen before the text is: the first that is not white space, and of a comment
the first after its `#`. -/
def afterHyphen (f : Flags) (text : List Char) : Option Char :=
  if f.verbose then
    match trimLeft text with
    | '#' :: comment => (trimLeft comment).head?
    | text => text.head?
  else text.head?

/-- A hyphen before the text stands for itself. -/
def isLoneHyphen (f : Flags) (text : List Char) : Bool := afterHyphen f text == some ']' || afterHyphen f text == some '-'

/-- The member that is one atom. -/
def Atom.single (f : Flags) (a : Atom) : Except Fault Nested := (a.member f).map fun s => ⟨s, 0⟩

/-- The range from one character to another. -/
def Atom.rangeTo (f : Flags) (first last : Atom) : Except Fault Nested :=
  match first, last with
  | .literal a, .literal b => do
    discard (first.member f)
    discard (last.member f)
    if b < a then throw .badRange
    return ⟨.span a.toNat b.toNat, 0⟩
  | _, _ => .error .badRange

/-- Reads what may follow the first atom of a member, which is the first of a range where a hyphen follows. -/
def classRange (f : Flags) (first : Atom) : Reader Nested := fun text =>
  match text with
  | [] => .error .unclosedClass
  | '-' :: rest =>
    if isLoneHyphen f rest then (first.single f).map (·, text)
    else do
      let (last, rest) ← classAtom f (f.skip rest)
      let m ← first.rangeTo f last
      return (m, rest)
  | _ => (first.single f).map (·, text)

/-- Reads a member that may be a range. -/
def classMember (f : Flags) : Reader Nested := fun text => do
  let (first, rest) ← classAtom f text
  classRange f first (f.skip rest)

/-- Where the reading of a class has come to: some classes are open, the innermost apart, or the outermost is closed. -/
inductive ClassState where
  | more (k : OpenClass) (outer : List OpenClass)
  | closed (m : Nested)
  deriving DecidableEq, Repr

/-- Closes the innermost class. -/
def closeClass (f : Flags) (k : OpenClass) (outer : List OpenClass) : Except Fault ClassState :=
  (k.close f).map fun m =>
    match outer with
    | [] => .closed m
    | k' :: outer => .more (k'.add m) outer

/-- Reads what follows a bracket inside a class: the name of a set, or a class in the class. -/
def innerClass (f : Flags) (k : OpenClass) (outer : List OpenClass) : Reader ClassState := fun text =>
  match namedClass? f text with
  | some (s, rest) => s.map fun s => (.more (k.add ⟨s, 0⟩) outer, rest)
  | none => (openClass f text).map fun (inner, rest) => (.more inner (k :: outer), rest)

/-- Reads one member, operator or bracket. -/
def classStep (f : Flags) (k : OpenClass) (outer : List OpenClass) : Reader ClassState := fun text =>
  match text with
  | [] => .error .unclosedClass
  | '[' :: rest => innerClass f k outer rest
  | ']' :: rest => (closeClass f k outer).map (·, rest)
  | '&' :: '&' :: rest => .ok (.more (k.operator f .both) outer, rest)
  | '-' :: '-' :: rest => .ok (.more (k.operator f .minus) outer, rest)
  | '~' :: '~' :: rest => .ok (.more (k.operator f .either) outer, rest)
  | _ => (classMember f text).map fun (m, rest) => (.more (k.add m) outer, rest)

/-- Reads on until the outermost open class is closed. -/
def classBody (f : Flags) : Nat → OpenClass → List OpenClass → Reader Nested
  | 0, _, _, _ => .error .unclosedClass
  | n + 1, k, outer, text => do
    let (state, rest) ← classStep f k outer (f.skip text)
    match state with
    | .more k outer => classBody f n k outer rest
    | .closed m => return (m, rest)

/-- Reads what follows an opening bracket up to the closing one. -/
def bracketClass (f : Flags) : Reader Nested := fun text => do
  let (k, rest) ← openClass f text
  classBody f (rest.length + 1) k [] rest

end DeltaLint.Pattern

import DeltaLint.Pattern.Shape
import Std.Data.HashMap

/-
  DeltaLint.Pattern.Footprint — how much memory a pattern takes.

  A pattern is run as two automata over the bytes of a text, one forwards and one backwards, and is
  refused when either takes more than ten MiB. A state takes 32 bytes, each transition of a state with
  several 8 more and each edge of a fork 4 more. Counted repetitions are written out copy by copy.

  A set that leaves ASCII becomes a piece of an automaton with a state for each way to go on, where a
  cache finds most of those that are there already. A cache has a fixed number of slots, so what it finds
  depends on the numbers of the states.
-/

namespace DeltaLint

open Unicode

namespace Footprint

def limit : Nat := 10 * 1024 * 1024

/-- The states so far and the bytes that they take. -/
structure Tally where
  states : Nat
  bytes : Nat
  deriving DecidableEq, Repr

namespace Tally

/-- One more state, which takes some bytes beyond those of every state. -/
def add (t : Tally) (extra : Nat) : Tally := ⟨t.states + 1, t.bytes + 32 + extra⟩

def addEdges (t : Tally) (n : Nat) : Tally := { t with bytes := t.bytes + 4 * n }

end Tally

/-! ## Caches -/

/-- Entries by slot, each with its key. A later entry takes the place of an earlier one in its slot. -/
abbrev Cache (κ : Type) := Std.HashMap Nat (κ × Nat)

/-- The slot that a list of numbers has among `slots`. -/
def slot (slots : Nat) (numbers : List Nat) : Nat :=
  let hash : UInt64 := numbers.foldl (fun h n => (h ^^^ n.toUInt64) * 1099511628211) 14695981039346656037
  hash.toNat % slots

/-- The tally with the states of one set, and the cache of those states. -/
structure Cached (κ : Type) where
  tally : Tally
  cache : Cache κ

/-- The state with the given key: the one in its slot, or else a new one. -/
def Cached.state {κ : Type} [BEq κ] (c : Cached κ) (slot : Nat) (key : κ) (extra : Nat) : Nat × Cached κ :=
  match c.cache[slot]? with
  | some (found, state) => if found == key then (state, c) else fresh
  | none => fresh
where
  fresh : Nat × Cached κ := (c.tally.states, ⟨c.tally.add extra, c.cache.insert slot (key, c.tally.states)⟩)

/-! ## Sets read forwards -/

structure Edge where
  bytes : ByteRange
  target : Nat
  deriving DecidableEq, Repr

/-- A state under way: the edges that are settled, and the bytes of the one that is not. -/
structure OpenState where
  edges : List Edge
  last : Option ByteRange

namespace OpenState

/-- The state with its last edge led to a target. -/
def settle (s : OpenState) (target : Nat) : OpenState :=
  match s.last with
  | some bytes => ⟨s.edges ++ [⟨bytes, target⟩], none⟩
  | none => s

end OpenState

/-- The state with these edges. -/
def stateOf (edges : List Edge) (c : Cached (List Edge)) : Nat × Cached (List Edge) :=
  c.state (slot 10000 (edges.flatMap fun e => [e.bytes.first.toNat, e.bytes.last.toNat, e.target])) edges (8 * edges.length)

/-- Makes states of those under way, the last one first, and gives the number of the first. -/
def close (target : Nat) : List OpenState → Cached (List Edge) → Nat × Cached (List Edge)
  | [], c => (target, c)
  | s :: deeper, c =>
    let (next, c) := close target deeper c
    stateOf (s.settle next).edges c

/-- The states that the sequence has in common with those under way, the last of them settled. -/
def closeBeyond (target : Nat) : List ByteRange → List OpenState → Cached (List Edge) → List OpenState × Cached (List Edge)
  | b :: bs, s :: deeper, c =>
    if s.last = some b then
      let (deeper, c) := closeBeyond target bs deeper c
      (s :: deeper, c)
    else
      let (next, c) := close target deeper c
      ([⟨(s.settle next).edges, some b⟩] ++ bs.map fun b => ⟨[], some b⟩, c)
  | _, ss, c => (ss, c)

/-- The states of a set that is read forwards. -/
def forwardSet (rs : Ranges) (t : Tally) : Tally :=
  let target := t.states
  let (ss, c) := (rs.flatMap CodeRange.encodings).foldl (fun (ss, c) bs => closeBeyond target bs ss c)
    (([⟨[], none⟩] : List OpenState), (⟨t.add 0, ∅⟩ : Cached (List Edge)))
  (close target ss c).2.tally

/-! ## Sets read backwards -/

/-- The state that reads some bytes and goes on to a target. -/
def stateTo (bytes : ByteRange) (target : Nat) (c : Cached Edge) : Nat × Cached Edge :=
  c.state (slot 1000 [target, bytes.first.toNat, bytes.last.toNat]) ⟨bytes, target⟩ 0

/-- The states of a set that is read backwards: those of each sequence, the first byte last, and a fork to all of them. -/
def backwardSet (rs : Ranges) (t : Tally) : Tally :=
  let target := t.states + 1
  let c := (rs.flatMap CodeRange.encodings).foldl (fun (c : Cached Edge) bs =>
      let c := (bs.foldl (fun (target, c) b => stateTo b target c) (target, c)).2
      { c with tally := c.tally.addEdges 1 })
    ⟨(t.add 0).add 0, ∅⟩
  c.tally

/-! ## Choices between texts -/

/-- The texts of a choice up to the next one that ends here, and those after it. -/
def untilEnd : List (List UInt8) → List (List UInt8) × Option (List (List UInt8))
  | [] => ([], none)
  | [] :: rest => ([], some rest)
  | text :: rest => let (chunk, after) := untilEnd rest; (text :: chunk, after)

/-- The texts in chunks, parted by those that end here. -/
def chunks : Nat → List (List UInt8) → List (List (List UInt8))
  | 0, texts => [texts]
  | n + 1, texts =>
    match untilEnd texts with
    | (chunk, some rest) => chunk :: chunks n rest
    | (chunk, none) => [chunk]

/-- The texts by their first bytes, without them. -/
def byFirst (texts : List (List UInt8)) : List (List (List UInt8)) :=
  let firsts := (texts.filterMap List.head?).eraseDups
  firsts.map fun b => texts.filterMap fun
    | c :: rest => if c = b then some rest else none
    | [] => none

/-- The states of a tree of texts. Of texts that end before any goes on one counts. -/
def tree : Nat → List (List UInt8) → Tally → Tally
  | 0, _, t => t
  | n + 1, texts, t =>
    let ends := texts.takeWhile List.isEmpty
    let cs := chunks texts.length (ends.take 1 ++ texts.drop ends.length)
    let groups := cs.map byFirst
    let t := groups.flatten.foldl (fun t rest => if rest.all List.isEmpty then t else tree n rest t) t
    let used := groups.filter (!List.isEmpty ·)
    let t := used.foldl (fun t g => t.add (if g.length = 1 then 0 else 8 * g.length)) t
    t.add (4 * (used.length + (cs.length - 1)))

/-! ## Automata -/

/-- Adds to a tally while it stays within the limit. -/
abbrev Build := StateT Tally Option

/-- How a piece of an automaton ends. A fork needs one more edge to what comes after it. -/
inductive Ending where
  | state
  | fork
  deriving DecidableEq, Repr

def grow (f : Tally → Tally) : Build Unit := fun t =>
  let t := f t
  if t.bytes ≤ limit then some ((), t) else none

def state : Build Unit := grow (·.add 0)

def edges (n : Nat) : Build Unit := grow (·.addEdges n)

/-- Leads what ends so to what comes after it. -/
def follow : Ending → Build Unit
  | .state => pure ()
  | .fork => edges 1

/-- `n` pieces more after one that ends so. -/
def more (piece : Build Ending) : Nat → Ending → Build Ending
  | 0, e => pure e
  | n + 1, e => do
    let next ← piece
    follow e
    more piece n next

/-- `n` pieces in a row. -/
def row (piece : Build Ending) : Nat → Build Ending
  | 0 => do
    state
    return .state
  | n + 1 => do more piece n (← piece)

/-- `n` pieces after one that ends so, each of which may be left out together with those after it. -/
def optional (piece : Build Ending) : Nat → Ending → Build Ending
  | 0, e => pure e
  | n + 1, e => do
    state
    let next ← piece
    follow e
    edges 2
    optional piece n next

/-- Any number of pieces, where one may take nothing. -/
def anyNumber (piece : Build Ending) : Build Ending := do
  let e ← piece
  state
  follow e
  state
  state
  edges 4
  return .state

/-- Any number of pieces that take something. -/
def anyNumberOfSome (piece : Build Ending) : Build Ending := do
  state
  let e ← piece
  edges 1
  follow e
  return .fork

/-- At least `n` pieces and one more. -/
def atLeast (piece : Build Ending) (n : Nat) : Build Ending := do
  if n = 0 then
    let e ← piece
    state
    follow e
    edges 1
  else
    let e ← row piece n
    let last ← piece
    state
    follow e
    follow last
    edges 1
  return .fork

/-- From `least` to `most` pieces, where `most` is more. -/
def between (piece : Build Ending) (least most : Nat) : Build Ending := do
  let e ← row piece least
  state
  follow (← optional piece (most - least) e)
  return .state

def oneOrNone (piece : Build Ending) : Build Ending := do
  state
  let e ← piece
  state
  edges 2
  follow e
  return .state

def counted (piece : Build Ending) (takesSome : Bool) (least : Nat) (most : Option Nat) : Build Ending :=
  match least, most with
  | 0, some 1 => oneOrNone piece
  | 0, none => if takesSome then anyNumberOfSome piece else anyNumber piece
  | n + 1, none => atLeast piece n
  | least, some most => if least = most then row piece least else between piece least most

/-- The states of a set. -/
def set (backward : Bool) (rs : Ranges) : Build Ending := do
  if rs.all (·.last < 0x80) then
    state
    grow (·.add (if rs.length = 1 then 0 else 8 * rs.length))
  else grow (if backward then backwardSet rs else forwardSet rs)
  return .state

/-- The states of a choice between texts. -/
def texts (backward : Bool) (ts : List (List UInt8)) : Build Ending := do
  let ts := if backward then ts.map List.reverse else ts
  grow fun t => tree ((ts.map List.length).foldl max 0 + 1) ts (t.add 0)
  return .state

def text? : Shape → Option (List UInt8)
  | .literal bytes => some bytes
  | _ => none

/-- The texts of a choice between texts alone. -/
def texts? : Shape → Option (List (List UInt8))
  | .alt s t => (s :: t.branches).mapM text?
  | _ => none

def inRow (first second : Build Ending) : Build Ending := do
  let e ← first
  let last ← second
  follow e
  return last

/-- A choice. The fork to the branches comes after the second one. -/
def fork : List (Build Ending) → Build Ending
  | [] => do
    state
    return .state
  | [piece] => piece
  | first :: second :: others => do
    let e ← first
    let last ← second
    state
    state
    edges 2
    follow e
    follow last
    others.forM fun piece => do
      let e ← piece
      edges 1
      follow e
    return .state

/-- The shape as a whole, from its branches. -/
def whole (backward : Bool) (s : Shape) (branches : List (Build Ending)) : Build Ending :=
  match texts? s with
  | some ts => texts backward ts
  | none => fork branches

/-- The states of each branch of a shape. -/
def branches (backward : Bool) : Shape → List (Build Ending)
  | .empty => [do state; return .state]
  | .literal bytes => [row (do state; return .state) bytes.length]
  | .set rs => [set backward rs]
  | .look _ => [do state; return .state]
  | .repeated s least most _ =>
    [counted (whole backward s (branches backward s)) (s.leastBytes.any (0 < ·)) least most]
  | .group _ s =>
    let inner := whole backward s (branches backward s)
    if backward then [inner]
    else [do
      state
      let e ← inner
      state
      follow e
      return .state]
  | .seq s t =>
    let first := whole backward s (branches backward s)
    let second := whole backward t (branches backward t)
    [if backward then inRow second first else inRow first second]
  | .alt s t => branches backward s ++ branches backward t

/-- The whole automaton. Unless every match is at the end that it begins from, it first passes over any bytes. -/
def automaton (backward : Bool) (s : Shape) : Build Unit := do
  let inner := whole backward s (branches backward s)
  let anchored := if backward then s.endsWith .textEnd else s.beginsWith .textStart
  let start ← if anchored then row inner 0 else anyNumberOfSome (set backward [⟨0, 0x7F⟩])
  if backward then
    let e ← inner
    state
    follow e
  else
    state
    let e ← inner
    state
    follow e
    state
  follow start

/-- Three thousand branches or more that are texts are not run as automata. -/
def isWordList (s : Shape) : Bool := (texts? s).any (3000 ≤ ·.length)

end Footprint

/-- Both automata of the shape stay within the limit. -/
def Shape.fits (s : Shape) : Bool :=
  Footprint.isWordList s ||
    [false, true].all fun backward => ((Footprint.automaton backward s).run ⟨0, 0⟩).isSome

end DeltaLint

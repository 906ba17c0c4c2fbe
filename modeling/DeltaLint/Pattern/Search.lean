import DeltaLint.Pattern.Unrolled

/-
  DeltaLint.Pattern.Search — whether a pattern matches at the start of a text.

  The text is read once, and all matches that may be under way are followed at the same time. They are
  kept as marks on the pattern, one wherever it has just read a character. With the next character
  the marks move on through what matches the empty stretch here, and to the sets that hold it.
  A part without marks is kept as it is, so that a step costs what there is to move.
-/

namespace DeltaLint

open Unicode

/-- A pattern with marks. -/
inductive Marked where
  /-- A part without marks. -/
  | idle (p : Unrolled)
  /-- A set whose member was just read. -/
  | read (s : CharSet)
  | seq (l r : Marked)
  | alt (l r : Marked)
  | star (m : Marked)
  deriving Repr

namespace Unrolled

/-- The pattern matches the empty stretch between these two neighbours. -/
def nullable : Unrolled → Option Char → Option Char → Bool
  | empty, _, _ => true
  | char _, _, _ => false
  | look l, before, after => l.holds before after
  | seq p q, before, after => p.nullable before after && q.nullable before after
  | alt p q, before, after => p.nullable before after || q.nullable before after
  | star _, _, _ => true

end Unrolled

namespace Marked

/-- The pattern without its marks. -/
def plain : Marked → Unrolled
  | idle p => p
  | read s => .char s
  | seq l r => .seq l.plain r.plain
  | alt l r => .alt l.plain r.plain
  | star m => .star m.plain

def isIdle : Marked → Bool
  | idle _ => true
  | _ => false

/-- One part after the other. -/
def join : Marked → Marked → Marked
  | idle p, idle q => idle (.seq p q)
  | l, r => seq l r

/-- Two parts of which one matches. -/
def either : Marked → Marked → Marked
  | idle p, idle q => idle (.alt p q)
  | l, r => alt l r

def loop : Marked → Marked
  | idle p => idle (.star p)
  | m => star m

/-- A match under way may end here; with `enter`, one that begins here counts too. -/
def ends : Marked → (enter : Bool) → Option Char → Option Char → Bool
  | idle p, enter, before, after => enter && p.nullable before after
  | read _, _, _, _ => true
  | seq l r, enter, before, after => r.ends (l.ends enter before after) before after
  | alt l r, enter, before, after => l.ends enter before after || r.ends enter before after
  | star m, enter, before, after => enter || m.ends false before after

end Marked

/-- The pattern after the first character of a match, and whether it matches the empty stretch before it. -/
def Unrolled.begin (before : Option Char) (c : Char) : Unrolled → Marked × Bool
  | empty => (.idle empty, true)
  | char s => (if s.contains c then .read s else .idle (char s), false)
  | look l => (.idle (look l), l.holds before (some c))
  | seq p q =>
    match p.begin before c with
    | (l, true) => let (r, ended) := q.begin before c; (l.join r, ended)
    | (l, false) => (l.join (.idle q), false)
  | alt p q =>
    let (l, endedLeft) := p.begin before c
    let (r, endedRight) := q.begin before c
    (l.either r, endedLeft || endedRight)
  | star p => ((p.begin before c).1.loop, true)

namespace Marked

/-- Moves the marks past `c`, and says whether a match may end before it. With `enter` a match may begin there. -/
def step (before : Option Char) (c : Char) : Marked → (enter : Bool) → Marked × Bool
  | idle p, enter => if enter then p.begin before c else (idle p, false)
  | read s, enter => (if enter && s.contains c then read s else idle (.char s), true)
  | seq l r, enter =>
    let (l, ended) := l.step before c enter
    let (r, ended) := r.step before c ended
    (l.join r, ended)
  | alt l r, enter =>
    let (l, endedLeft) := l.step before c enter
    let (r, endedRight) := r.step before c enter
    (l.either r, endedLeft || endedRight)
  | star m, enter =>
    let again := enter || m.ends false before (some c)
    ((m.step before c again).1.loop, again)

/-- A match under way, or with `enter` one that begins here, ends in the text. -/
def endsIn : Marked → (enter : Bool) → Option Char → List Char → Bool
  | m, enter, before, [] => m.ends enter before none
  | m, enter, before, c :: rest =>
    let (next, ended) := m.step before c enter
    ended || (!next.isIdle && next.endsIn false (some c) rest)

end Marked

/-- The pattern has a match that begins with the first character of the text. -/
def Pattern.startsIn (p : Pattern) (text : List Char) : Bool := (Marked.idle p.unrolled).endsIn true none text

end DeltaLint

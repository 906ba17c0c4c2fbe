import DeltaLint.Yaml.Token

/-
  DeltaLint.Yaml.Stream — the tokens of a text, in order.

  A key of a mapping has no mark of its own in front: it is found out as one when the colon after it
  comes, on the same line and within 1024 characters. So for each level of flow nesting the scanner
  remembers where a key may have begun, and puts the tokens that open it there afterwards. Blocks
  have no brackets either: a token that stands further in than the block around it opens one, and
  one that stands further out ends those that it leaves.

  Where the text goes wrong the tokens before the earliest such place are still handed out.
-/

namespace DeltaLint.Yaml

/-- A place where a key may have begun: how many tokens there were, and where in the text. -/
structure KeyStart where
  position : Nat
  line : Nat
  column : Nat
  index : Nat
  /-- Nothing else than a key can stand there. -/
  required : Bool
  deriving DecidableEq, Repr

structure Scanner where
  cursor : Cursor
  /-- The tokens so far, last first. -/
  tokens : List Token
  /-- The column of the innermost block. -/
  indent : Option Nat
  /-- The columns of the blocks around it. -/
  outer : List (Option Nat)
  keyAllowed : Bool
  /-- Where a key may have begun, for each level of flow nesting, innermost first. -/
  keys : List (Option KeyStart)
  deriving DecidableEq, Repr

namespace Scanner

def start (text : List Char) : Scanner := ⟨.start text, [], none, [], true, [none]⟩

def inFlow (s : Scanner) : Bool := 1 < s.keys.length

def emit (t : Token) (s : Scanner) : Scanner := { s with tokens := t :: s.tokens }

/-- Puts a token where there were `position` of them. -/
def insertAt (position : Nat) (t : Token) (s : Scanner) : Scanner :=
  let later := s.tokens.length - position
  { s with tokens := s.tokens.take later ++ t :: s.tokens.drop later }

/-- Moves on and emits. -/
def take (n : Nat) (t : Token) (s : Scanner) : Scanner := { s with cursor := s.cursor.advance n }.emit t

def allowKey (allowed : Bool) (s : Scanner) : Scanner := { s with keyAllowed := allowed }

/-! ## Keys -/

/-- Forgets the places where a key can no longer have begun. -/
def dropStale (s : Scanner) : Except Fault Scanner := do
  let stale (k : KeyStart) : Bool := k.line < s.cursor.line || k.index + 1024 < s.cursor.index
  if s.keys.any (·.any fun k => stale k && k.required) then throw .missingColon
  return { s with keys := s.keys.map (·.filter (!stale ·)) }

/-- No key began at this level, after all. -/
def dropKey (s : Scanner) : Except Fault Scanner :=
  match s.keys with
  | some k :: r => if k.required then .error .missingColon else .ok { s with keys := none :: r }
  | _ => .ok s

/-- A key may begin here. -/
def saveKey (s : Scanner) : Except Fault Scanner := do
  if !s.keyAllowed then return s
  let k := s.cursor
  let required := !s.inFlow && s.indent = some k.column
  let t ← s.dropKey
  return { t with keys := some ⟨s.tokens.length, k.line, k.column, k.index, required⟩ :: t.keys.drop 1 }

/-! ## Blocks -/

/-- A token in this column opens a block when it stands further in than the block around it. -/
def openBlock (column : Nat) (position : Nat) (t : Token) (s : Scanner) : Scanner :=
  if s.inFlow then s
  else if s.indent.all (· < column) then
    { s.insertAt position t with indent := some column, outer := s.indent :: s.outer }
  else s

/-- Ends the blocks that stand further in than the column; without one, all of them. -/
def closeBlocks (column : Option Nat) (s : Scanner) : Scanner :=
  if s.inFlow then s
  else
    let rec go : Option Nat → List (Option Nat) → Nat → Option Nat × List (Option Nat) × Nat
      | indent, [], n => (indent, [], n)
      | indent, i :: r, n => if indent.any fun j => column.all (· < j) then go i r (n + 1) else (indent, i :: r, n)
    let (indent, outer, n) := go s.indent s.outer 0
    { s with indent, outer, tokens := List.replicate n .blockEnd ++ s.tokens }

/-! ## Gaps between tokens -/

/-- Passes blanks, comments and line breaks, and a byte order mark at the start of a line, which takes up a column. A
tab counts as a blank only where no key may begin. -/
def skipGap : Nat → Scanner → Scanner
  | 0, s => s
  | n + 1, s =>
    let k := if s.cursor.column == 0 && s.cursor.sees 0 (· == '\uFEFF') then s.cursor.advance 1 else s.cursor
    let tabs := s.inFlow || !s.keyAllowed
    let k := (k.skipWhile fun c => c == ' ' || (tabs && c == '\t')).skipComment
    if k.sees 0 isBreak then skipGap n { s with cursor := k.skipLineBreak, keyAllowed := s.keyAllowed || !s.inFlow }
    else { s with cursor := k }

/-! ## Tokens -/

/-- Reads a token with `r` and emits it. -/
def reading (r : Reader Token) (s : Scanner) : Except Fault Scanner := do
  let (t, k) ← r s.cursor
  return { s with cursor := k }.emit t

def documentMark (t : Token) (s : Scanner) : Except Fault Scanner := do
  let s ← (s.closeBlocks none).dropKey
  return (s.allowKey false).take 3 t

def openFlow (t : Token) (s : Scanner) : Except Fault Scanner := do
  let s ← s.saveKey
  return ({ s with keys := none :: s.keys }.allowKey true).take 1 t

def closeFlow (t : Token) (s : Scanner) : Except Fault Scanner := do
  let s ← s.dropKey
  let s := if s.inFlow then { s with keys := s.keys.drop 1 } else s
  return (s.allowKey false).take 1 t

def comma (s : Scanner) : Except Fault Scanner := do
  let s ← s.dropKey
  return (s.allowKey true).take 1 .comma

def entry (s : Scanner) : Except Fault Scanner := do
  if !s.inFlow && !s.keyAllowed then throw .blockEntryNotAllowed
  let s ← (s.openBlock s.cursor.column s.tokens.length .blockSequence).dropKey
  return (s.allowKey true).take 1 .entry

def key (s : Scanner) : Except Fault Scanner := do
  if !s.inFlow && !s.keyAllowed then throw .keyNotAllowed
  let s ← (s.openBlock s.cursor.column s.tokens.length .blockMapping).dropKey
  return (s.allowKey !s.inFlow).take 1 .key

def value (s : Scanner) : Except Fault Scanner :=
  match s.keys with
  | some k :: r =>
    let s := { s with keys := none :: r }.insertAt k.position .key
    .ok (((s.openBlock k.column k.position .blockMapping).allowKey false).take 1 .value)
  | _ =>
    if !s.inFlow && !s.keyAllowed then .error .valueNotAllowed
    else .ok (((s.openBlock s.cursor.column s.tokens.length .blockMapping).allowKey !s.inFlow).take 1 .value)

def anchor (t : List Char → Token) (s : Scanner) : Except Fault Scanner := do
  let s ← s.saveKey
  (s.allowKey false).reading fun k => (anchorName k).map fun (name, k) => (t name, k)

def tag (s : Scanner) : Except Fault Scanner := do
  let s ← s.saveKey
  (s.allowKey false).reading (tagToken s.inFlow)

def block (literal : Bool) (s : Scanner) : Except Fault Scanner := do
  let s ← s.dropKey
  (s.allowKey true).reading (blockScalar literal s.indent)

def string (single : Bool) (s : Scanner) : Except Fault Scanner := do
  let s ← s.saveKey
  (s.allowKey false).reading (quoted single)

def word (s : Scanner) : Except Fault Scanner := do
  let s ← s.saveKey
  let ((t, broken), k) ← plain s.inFlow (s.indent.elim 0 (· + 1)) s.cursor
  return ({ s with cursor := k }.allowKey broken).emit t

/-- A plain scalar may begin here. -/
def atWord (s : Scanner) (c : Char) : Bool :=
  (!isGapOrBreak c && !("-?:,[]\x7b\x7d#&*!|>'\"%@`".toList.contains c)) || (c == '-' && !s.cursor.sees 1 isGap) ||
    (!s.inFlow && (c == '?' || c == ':') && !s.cursor.gapAt 1)

/-- Reads the token that begins here, with `c`. -/
def token (s : Scanner) (c : Char) : Except Fault Scanner :=
  let k := s.cursor
  if k.column == 0 && c == '%' then do
    let s ← (s.closeBlocks none).dropKey
    (s.allowKey false).reading directive
  else if k.atMark '-' then s.documentMark .documentStart
  else if k.atMark '.' then s.documentMark .documentEnd
  else if c == '[' then s.openFlow .flowSequence
  else if c == '\x7b' then s.openFlow .flowMapping
  else if c == ']' then s.closeFlow .flowSequenceEnd
  else if c == '\x7d' then s.closeFlow .flowMappingEnd
  else if c == ',' then s.comma
  else if c == '-' && k.gapAt 1 then s.entry
  else if c == '?' && (s.inFlow || k.gapAt 1) then s.key
  else if c == ':' && (s.inFlow || k.gapAt 1) then s.value
  else if c == '*' then s.anchor .reference
  else if c == '&' then s.anchor .anchor
  else if c == '!' then s.tag
  else if c == '|' && !s.inFlow then s.block true
  else if c == '>' && !s.inFlow then s.block false
  else if c == '\'' then s.string true
  else if c == '"' then s.string false
  else if s.atWord c then s.word
  else .error .indicator

/-- The text ends here. -/
def finish (s : Scanner) : Except Fault Scanner := do
  let s ← (s.closeBlocks none).dropKey
  return s.emit .streamEnd

/-- The scanner with the gap before the next token passed. -/
def nextPlace (s : Scanner) : Except Fault Scanner := do
  let s ← (s.skipGap (s.cursor.rest.length + 1)).dropStale
  return s.closeBlocks (some s.cursor.column)

/-- The tokens that stay as they are whatever comes: those before the earliest place where a key may have begun. -/
def settled (s : Scanner) : List Token :=
  let first := (s.keys.filterMap (·.map (·.position))).foldl min s.tokens.length
  s.tokens.reverse.take first

/-- Reads token after token. The result is what was read, and what ended it when that was a fault. -/
def run : Nat → Scanner → List Token × Option Fault
  | 0, s => (s.settled, some .indicator)
  | n + 1, s =>
    match s.nextPlace with
    | .error e => (s.settled, some e)
    | .ok s =>
      match s.cursor.rest with
      | [] =>
        match s.finish with
        | .ok s => (s.tokens.reverse, none)
        | .error e => (s.settled, some e)
      | c :: _ =>
        match s.token c with
        | .ok s => run n s
        | .error e => (s.settled, some e)

end Scanner

/-- Characters that no document holds: control characters but tab, line feed, carriage return and next line. -/
def isForbidden (c : Char) : Bool :=
  let n := c.toNat
  !(n == 0x9 || n == 0xA || n == 0xD || (0x20 ≤ n && n ≤ 0x7E) || n == 0x85 || (0xA0 ≤ n && n ≤ 0xD7FF) ||
    (0xE000 ≤ n && n ≤ 0xFFFD) || 0x10000 ≤ n)

/-- The tokens of a text, up to a fault if there is one. -/
def Token.stream (text : List Char) : List Token × Option Fault :=
  if text.any isForbidden then ([], some .controlCharacter) else (Scanner.start text).run (text.length + 1)

end DeltaLint.Yaml

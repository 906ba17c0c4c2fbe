import DeltaLint.Yaml.Cursor
import DeltaLint.Text.Digits
import DeltaLint.Text.Utf8

/-
  DeltaLint.Yaml.Token — the tokens of a document, and the text of those that hold some.

  Line breaks inside a plain or quoted scalar fold: a single one becomes a space, and of several all
  but the first are kept. Block scalars keep their lines or fold them, and their header says what
  becomes of the breaks at their end.
-/

namespace DeltaLint.Yaml

inductive Style where
  | plain
  | quoted
  | block
  deriving DecidableEq, Repr

inductive Token where
  | streamEnd
  | version (major minor : Nat)
  | tagHandle (handle stem : List Char)
  | documentStart
  | documentEnd
  | blockSequence
  | blockMapping
  | blockEnd
  | flowSequence
  | flowSequenceEnd
  | flowMapping
  | flowMappingEnd
  | entry
  | comma
  | key
  | value
  | reference (name : List Char)
  | anchor (name : List Char)
  | tag (handle suffix : List Char)
  | scalar (text : List Char) (style : Style)
  deriving DecidableEq, Repr

/-- Reads something from a place and says where it ends. -/
abbrev Reader (α : Type) := Cursor → Except Fault (α × Cursor)

/-! ## Names, tags and directives -/

/-- Reads the name of an anchor or alias, after its indicator. -/
def anchorName : Reader (List Char) := fun k =>
  let (name, k') := (k.advance 1).takeWhile isNameChar
  let ends := k'.gapAt 0 || k'.sees 0 ("?:,]\x7d%@`".toList.contains ·)
  if name.isEmpty || !ends then .error .name else .ok (name, k')

/-- Reads `!`, `!name!`, or `!` with the beginning of a name; a directive takes only the first two. -/
def tagHandle (inDirective : Bool) : Reader (List Char) := fun k =>
  if !k.sees 0 (· == '!') then .error .tag
  else
    let (name, k') := (k.advance 1).takeWhile isNameChar
    if k'.sees 0 (· == '!') then .ok ('!' :: name ++ ['!'], k'.advance 1)
    else if inDirective && !name.isEmpty then .error .tag
    else .ok ('!' :: name, k')

def isUriChar (verbatim : Bool) (c : Char) : Bool :=
  isNameChar c || ";/?:@&=+$.%!~*'()".toList.contains c || (verbatim && ",[]".toList.contains c)

/-- The bytes of a part of a tag, in which `%` comes before two hexadecimal digits. -/
def uriBytes : List Char → Option (List UInt8)
  | [] => some []
  | '%' :: a :: b :: rest => do
    let n ← Text.digits? 16 [a, b]
    let bytes ← uriBytes rest
    some (n.toUInt8 :: bytes)
  | '%' :: _ => none
  | c :: rest => (uriBytes rest).map (Text.Utf8.encodeChar c ++ ·)

def uri (verbatim : Bool) : Reader (List Char) := fun k =>
  let (text, k') := k.takeWhile (isUriChar verbatim)
  match (uriBytes text).bind Text.Utf8.decode? with
  | some text => .ok (text, k')
  | none => .error .tag

/-- Reads a tag as handle and suffix. The handle is empty where the suffix is the whole tag. -/
def tagToken (inFlow : Bool) : Reader Token := fun k => do
  let (t, k') ←
    if k.sees 1 (· == '<') then do
      let (suffix, k') ← uri true (k.advance 2)
      if suffix.isEmpty || !k'.sees 0 (· == '>') then throw .tag
      pure (Token.tag [] suffix, k'.advance 1)
    else do
      let (handle, k') ← tagHandle false k
      let (suffix, k') ← uri false k'
      if 1 < handle.length && handle.getLast? = some '!' then
        if suffix.isEmpty then throw .tag
        pure (Token.tag handle suffix, k')
      else
        let suffix := handle.drop 1 ++ suffix
        pure (if suffix.isEmpty then .tag [] ['!'] else .tag ['!'] suffix, k')
  if k'.gapAt 0 || (inFlow && k'.sees 0 (· == ',')) then return (t, k')
  throw .tag

/-- Reads up to nine digits. -/
def versionNumber : Reader Nat := fun k =>
  let (ds, k') := k.takeWhile Char.isDigit
  match Text.digits? 10 ds with
  | some n => if 9 < ds.length then .error .directive else .ok (n, k')
  | none => .error .directive

/-- Reads a directive up to and with the end of its line. -/
def directive : Reader Token := fun k => do
  let (name, k) := (k.advance 1).takeWhile isNameChar
  if name.isEmpty || !k.gapAt 0 then throw .directive
  let (t, k) ← match String.ofList name with
    | "YAML" => do
      let (major, k) ← versionNumber (k.skipWhile isGap)
      if !k.sees 0 (· == '.') then throw .directive
      let (minor, k) ← versionNumber (k.advance 1)
      pure (Token.version major minor, k)
    | "TAG" => do
      let (handle, k) ← tagHandle true (k.skipWhile isGap)
      if !k.sees 0 isGap then throw .directive
      let (stem, k) ← uri true (k.skipWhile isGap)
      if stem.isEmpty || !k.gapAt 0 then throw .directive
      pure (Token.tagHandle handle stem, k)
    | _ => throw .directive
  let k := (k.skipWhile isGap).skipComment
  if !k.atLineEnd then throw .directive
  return (t, k.skipLineBreak)

/-! ## Gaps inside scalars -/

/-- White space between two words of a scalar: blanks on one line, or line breaks. -/
structure Gap where
  blanks : List Char
  broken : Bool
  first : List Char
  others : List Char
  deriving DecidableEq, Repr

namespace Gap

def none : Gap := ⟨[], false, [], []⟩

/-- The text that the gap stands for. -/
def text (g : Gap) : List Char :=
  if !g.broken then g.blanks
  else if g.first = ['\n'] then if g.others.isEmpty then [' '] else g.others
  else g.first ++ g.others

/-- Reads blanks and line breaks. A plain scalar takes no tab for indentation below `indent`. -/
def read (indent : Option Nat) : Nat → Gap → Reader Gap
  | 0, g, k => .ok (g, k)
  | n + 1, g, k =>
    match k.rest with
    | [] => .ok (g, k)
    | c :: _ =>
      if isGap c then
        if g.broken then
          if c == '\t' && indent.any (k.column < ·) then .error .indentation
          else read indent n g (k.advance 1)
        else read indent n { g with blanks := g.blanks ++ [c] } (k.advance 1)
      else if isBreak c then
        let (b, k) := k.lineBreak
        if g.broken then read indent n { g with others := g.others ++ b } k
        else read indent n { g with blanks := [], broken := true, first := b } k
      else .ok (g, k)

end Gap

/-! ## Quoted scalars -/

/-- What the character after a backslash stands for, where it is one character. -/
def simpleEscape? : Char → Option Char
  | '0' => some '\x00'
  | 'a' => some '\x07'
  | 'b' => some '\x08'
  | 't' => some '\t'
  | '\t' => some '\t'
  | 'n' => some '\n'
  | 'v' => some '\x0b'
  | 'f' => some '\x0c'
  | 'r' => some '\r'
  | 'e' => some '\x1b'
  | ' ' => some ' '
  | '"' => some '"'
  | '/' => some '/'
  | '\\' => some '\\'
  | 'N' => some '\u0085'
  | '_' => some '\u00a0'
  | 'L' => some '\u2028'
  | 'P' => some '\u2029'
  | _ => none

/-- How many hexadecimal digits follow the character after a backslash. -/
def escapeDigits? : Char → Option Nat
  | 'x' => some 2
  | 'u' => some 4
  | 'U' => some 8
  | _ => none

/-- Reads an escape, from its backslash on. -/
def escapedChar : Reader Char := fun k =>
  match k.rest with
  | _ :: c :: rest =>
    match simpleEscape? c, escapeDigits? c with
    | some d, _ => .ok (d, k.advance 2)
    | none, some n =>
      let ds := rest.take n
      match Text.digits? 16 ds with
      | some v =>
        if ds.length = n ∧ v.isValidChar then .ok (Char.ofNat v, k.advance (2 + n)) else .error .escape
      | none => .error .escape
    | none, none => .error .escape
  | _ => .error .escape

/-- Reads characters up to a gap or the closing quote. Says whether a line break was escaped. The text comes out
last character first. -/
def quotedWord (single : Bool) : Nat → List Char → Reader (List Char × Bool)
  | 0, text, k => .ok ((text, false), k)
  | n + 1, text, k =>
    match k.rest with
    | [] => .ok ((text, false), k)
    | c :: rest =>
      if isGapOrBreak c then .ok ((text, false), k)
      else if single then
        if c == '\'' then
          if rest.head? = some '\'' then quotedWord single n ('\'' :: text) (k.advance 2)
          else .ok ((text, false), k)
        else quotedWord single n (c :: text) (k.advance 1)
      else if c == '"' then .ok ((text, false), k)
      else if c == '\\' then
        if rest.head?.any isBreak then .ok ((text, true), (k.advance 1).skipLineBreak)
        else do
          let (d, k) ← escapedChar k
          quotedWord single n (d :: text) k
      else quotedWord single n (c :: text) (k.advance 1)

/-- Reads word after word up to the closing quote. -/
def quotedText (single : Bool) : Nat → List Char → Reader (List Char)
  | 0, _, _ => .error .stringNotClosed
  | n + 1, text, k => do
    if k.atDocumentMark then throw .documentInString
    if k.rest.isEmpty then throw .stringNotClosed
    let ((text, escaped), k) ← quotedWord single (k.rest.length + 1) text k
    if !escaped && k.sees 0 (· == if single then '\'' else '"') then return (text.reverse, k.advance 1)
    let (gap, k) ← Gap.read none (k.rest.length + 1) { Gap.none with broken := escaped } k
    quotedText single n (gap.text.reverse ++ text) k

/-- Reads a quoted scalar, from its opening quote on. -/
def quoted (single : Bool) : Reader Token := fun k => do
  let (text, k) ← quotedText single (k.rest.length + 1) [] (k.advance 1)
  return (.scalar text .quoted, k)

/-! ## Plain scalars -/

def isFlowIndicator (c : Char) : Bool := ",[]\x7b\x7d".toList.contains c

/-- A plain scalar ends before the character here. -/
def endsPlain (inFlow : Bool) (k : Cursor) : Bool :=
  (k.sees 0 (· == ':') && k.gapAt 1) || (inFlow && k.sees 0 isFlowIndicator)

/-- Reads characters up to a gap or the end of the scalar. The text comes out last character first. -/
def plainWord (inFlow : Bool) : Nat → List Char → Reader (List Char)
  | 0, text, k => .ok (text, k)
  | n + 1, text, k =>
    match k.rest with
    | [] => .ok (text, k)
    | c :: _ =>
      if isGapOrBreak c then .ok (text, k)
      else if inFlow && c == ':' && k.sees 1 (",?[]\x7b\x7d".toList.contains ·) then .error .unexpectedColon
      else if endsPlain inFlow k then .ok (text, k)
      else plainWord inFlow n (c :: text) (k.advance 1)

/-- Reads word after word. Says whether a line break came after the last word. -/
def plainText (inFlow : Bool) (indent : Nat) : Nat → List Char → Gap → Reader (List Char × Bool)
  | 0, text, gap, k => .ok ((text.reverse, gap.broken), k)
  | n + 1, text, gap, k => do
    if k.atDocumentMark || k.sees 0 (· == '#') then return ((text.reverse, gap.broken), k)
    let (word, k) ← plainWord inFlow (k.rest.length + 1) [] k
    let text := if word.isEmpty then text else word ++ gap.text.reverse ++ text
    let gap := if word.isEmpty then gap else .none
    if !k.sees 0 isGapOrBreak then return ((text.reverse, gap.broken), k)
    let (gap, k) ← Gap.read (some indent) (k.rest.length + 1) gap k
    if !inFlow && k.column < indent then return ((text.reverse, gap.broken), k)
    plainText inFlow indent n text gap k

/-- Reads a plain scalar; its further lines stand at least `indent` columns in. -/
def plain (inFlow : Bool) (indent : Nat) : Reader (Token × Bool) := fun k => do
  let ((text, broken), k) ← plainText inFlow indent (k.rest.length + 1) [] .none k
  return ((.scalar text .plain, broken), k)

/-! ## Block scalars -/

inductive Chomp where
  | strip
  | clip
  | keep
  deriving DecidableEq, Repr

def Chomp.read? : Char → Option Chomp
  | '+' => some .keep
  | '-' => some .strip
  | _ => none

/-- Reads the header of a block scalar: chomping and indentation in either order, each at most once. -/
def blockHeader : Reader (Chomp × Nat) := fun k => do
  let digit? (k : Cursor) : Except Fault (Option Nat) :=
    match k.rest with
    | c :: _ => if c = '0' then .error .indentation else .ok (if c.isDigit then Text.digit? 10 c else none)
    | [] => .ok none
  let chomp? (k : Cursor) : Option Chomp := k.rest.head?.bind Chomp.read?
  let (header, k) ← match chomp? k with
    | some chomp => do
      let k := k.advance 1
      match ← digit? k with
      | some d => pure ((chomp, d), k.advance 1)
      | none => pure ((chomp, 0), k)
    | none => do
      match ← digit? k with
      | some d =>
        let k := k.advance 1
        match chomp? k with
        | some chomp => pure ((chomp, d), k.advance 1)
        | none => pure ((.clip, d), k)
      | none => pure ((.clip, 0), k)
  let k := (k.skipWhile isGap).skipComment
  if !k.atLineEnd then throw .indentation
  return (header, k.skipLineBreak)

/-- Reads empty lines, and the indentation of the line after them: up to `indent` columns, or all there is when
`indent` is 0. The result is the breaks read and the greatest indentation seen. -/
def blockBreaks (indent : Nat) : Nat → Nat → List Char → Reader (List Char × Nat)
  | 0, most, breaks, k => .ok ((breaks, most), k)
  | n + 1, most, breaks, k =>
    let spaces := k.rest.takeWhile (· == ' ')
    let k := k.advance (if indent = 0 then spaces.length else min spaces.length (indent - k.column))
    let most := max most k.column
    if (indent = 0 || k.column < indent) && k.sees 0 (· == '\t') then .error .indentation
    else if k.sees 0 isBreak then
      let (b, k) := k.lineBreak
      blockBreaks indent n most (breaks ++ b) k
    else .ok ((breaks, most), k)

/-- The lines of a block scalar so far: the text, last character first, the break that ended the last line and the
breaks after it, and whether that line began with a blank. -/
structure BlockText where
  text : List Char
  last : List Char
  breaks : List Char
  blank : Bool
  deriving DecidableEq, Repr

def blockLines (literal : Bool) (indent : Nat) : Nat → BlockText → Reader BlockText
  | 0, b, k => .ok (b, k)
  | n + 1, b, k => do
    if k.column != indent || k.rest.isEmpty then return (b, k)
    let blank := k.sees 0 isGap
    let joint :=
      if !literal && b.last = ['\n'] && !b.blank && !blank then
        if b.breaks.isEmpty then [' '] else b.breaks
      else b.last ++ b.breaks
    let (line, k) := k.takeWhile (!isBreak ·)
    let (last, k) := k.lineBreak
    let ((breaks, _), k) ← blockBreaks indent (k.rest.length + 1) 0 [] k
    blockLines literal indent n ⟨line.reverse ++ joint.reverse ++ b.text, last, breaks, blank⟩ k

/-- Reads a block scalar, from its indicator on. `outer` is the indentation around it, if any. -/
def blockScalar (literal : Bool) (outer : Option Nat) : Reader Token := fun k => do
  let ((chomp, increment), k) ← blockHeader (k.advance 1)
  let given := if increment = 0 then 0 else outer.getD 0 + increment
  let ((breaks, most), k) ← blockBreaks given (k.rest.length + 1) 0 [] k
  let indent := if given = 0 then max (max most (outer.elim 0 (· + 1))) 1 else given
  let (b, k) ← blockLines literal indent (k.rest.length + 1) ⟨[], [], breaks, false⟩ k
  let tail := match chomp with
    | .strip => []
    | .clip => b.last
    | .keep => b.last ++ b.breaks
  return (.scalar (b.text.reverse ++ tail) .block, k)

end DeltaLint.Yaml

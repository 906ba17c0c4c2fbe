import DeltaLint.Pattern.Basic
import DeltaLint.Pattern.Flags
import DeltaLint.Unicode.Query

/-
  DeltaLint.Pattern.Escape — what a backslash makes of the characters after it.

  An escape stands for one character, for a set of characters, or for a look. Any ASCII character that
  is no letter, no digit and not `<` or `>` may be escaped and stands for itself.
-/

namespace DeltaLint.Pattern

open Unicode

inductive Atom where
  | literal (c : Char)
  | set (s : CharSet)
  | look (l : Look)
  deriving DecidableEq, Repr

/-! ## Sets with names of their own -/

namespace Ascii

def all : CharSet := .span 0 0x7F
def digit : CharSet := .span 0x30 0x39
def upper : CharSet := .span 0x41 0x5A
def lower : CharSet := .span 0x61 0x7A
def alpha : CharSet := .union [upper, lower]
def alnum : CharSet := .union [digit, alpha]
def word : CharSet := .union [alnum, .one '_']
def space : CharSet := .union [.span 0x9 0xD, .one ' ']
def blank : CharSet := .union [.one '\t', .one ' ']
def control : CharSet := .union [.span 0 0x1F, .one '\x7f']
def graph : CharSet := .span 0x21 0x7E
def print : CharSet := .span 0x20 0x7E
def punct : CharSet := .union [.span 0x21 0x2F, .span 0x3A 0x40, .span 0x5B 0x60, .span 0x7B 0x7E]
def hexDigit : CharSet := .union [digit, .span 0x41 0x46, .span 0x61 0x66]

/-- The sets that a class asks for as `[:name:]`. -/
def named : List (String × CharSet) :=
  [("alnum", alnum), ("alpha", alpha), ("ascii", all), ("blank", blank), ("cntrl", control), ("digit", digit),
    ("graph", graph), ("lower", lower), ("print", print), ("punct", punct), ("space", space), ("upper", upper),
    ("word", word), ("xdigit", hexDigit)]

end Ascii

namespace Flags

/-- The characters that words are made of. -/
def word (f : Flags) : CharSet := if f.unicode then Property.word else Ascii.word

/-- The set closed under case where case is ignored; without Unicode, ASCII letters alone have one. -/
def fold (f : Flags) (s : CharSet) : CharSet :=
  if f.ignoreCase then if f.unicode then .folded s else .or s (.and (.folded (.and s Ascii.all)) Ascii.all) else s

/-- The set or its complement. Without Unicode no set may leave ASCII, and every complement does. -/
def complement (f : Flags) (negated : Bool) (s : CharSet) : Except Fault CharSet :=
  if negated then if f.unicode then .ok (.not s) else .error .notUnicode else .ok s

end Flags

/-- The class of the escape `\d`, `\s`, `\w`, and in upper case its complement. -/
def classEscape? (f : Flags) (c : Char) : Option (Except Fault CharSet) :=
  match c with
  | 'd' | 'D' => some (f.complement (c == 'D') (if f.unicode then Property.digit else Ascii.digit))
  | 's' | 'S' => some (f.complement (c == 'S') (if f.unicode then Property.blank else Ascii.space))
  | 'w' | 'W' => some (f.complement (c == 'W') f.word)
  | _ => none

/-! ## Characters by number -/

def scalar? (n : Nat) : Option Char := if h : n.isValidChar then some (Char.ofNatAux n h) else none

/-- Reads exactly `count` hexadecimal digits. -/
def hexDigits (f : Flags) : Nat → Reader (List Char)
  | 0, text => .ok ([], text)
  | _ + 1, [] => .error .unexpectedEnd
  | n + 1, c :: rest => do
    if !Text.isDigit 16 c then throw .badHex
    let (ds, rest) ← hexDigits f n (f.skip rest)
    return (c :: ds, rest)

/-- Reads hexadecimal digits up to a closing brace. -/
def hexBraced (f : Flags) : Nat → Reader (List Char)
  | 0, _ => .error .unexpectedEnd
  | _, [] => .error .unexpectedEnd
  | n + 1, c :: rest => do
    if c = '\x7d' then return ([], f.skip rest)
    if !Text.isDigit 16 c then throw .badHex
    let (ds, rest) ← hexBraced f n (f.skip rest)
    return (c :: ds, rest)

/-- Reads the digits of a number: `count` of them, or any in braces. -/
def hexText (f : Flags) (count : Nat) : Reader (List Char) := fun text =>
  match text with
  | '\x7b' :: rest => hexBraced f (text.length + 1) (f.skip rest)
  | _ => hexDigits f count text

/-- The character with a number. Without Unicode, a short one is of ASCII. -/
def hexValue (f : Flags) (short : Bool) (ds : List Char) : Except Fault Char := do
  let some n := Text.digits? 16 ds | throw .badHex
  let some c := scalar? n | throw .badHex
  if !f.unicode && short && 0x7F < n then throw .notUnicode
  return c

/-- Reads the number after `\x`, `\u` or `\U`, of `count` digits or in braces. One of two digits is short. -/
def hexEscape (f : Flags) (count : Nat) : Reader Char := fun text => do
  let text := f.skip text
  let (ds, rest) ← hexText f count text
  let c ← hexValue f (count == 2 && text.head? != some '\x7b') ds
  return (c, rest)

/-! ## Properties -/

/-- Takes everything up to a closing brace. -/
def braced (f : Flags) : Nat → Reader (List Char)
  | 0, _ => .error .unexpectedEnd
  | _, [] => .error .unexpectedEnd
  | n + 1, c :: rest => do
    if c = '\x7d' then return ([], rest)
    let (cs, rest) ← braced f n (f.skip rest)
    return (c :: cs, rest)

/-- The text before the first `mark` and the text after it. -/
def splitAt? (mark : List Char) : List Char → Option (List Char × List Char)
  | [] => none
  | c :: rest =>
    if mark.isPrefixOf (c :: rest) then some ([], (c :: rest).drop mark.length)
    else (splitAt? mark rest).map fun (before, after) => (c :: before, after)

/-- The set that the text between the braces asks for, and whether it asks for the complement. -/
def propertyOf (name : List Char) : Bool × Option CharSet :=
  match splitAt? ['!', '='] name with
  | some (p, v) => (true, Query.valued? p v)
  | none =>
    match (splitAt? [':'] name).orElse fun _ => splitAt? ['='] name with
    | some (p, v) => (false, Query.valued? p v)
    | none => (false, Query.named? name)

/-- Reads the name of a property: one letter, or what stands in braces. -/
def propertyName (f : Flags) : Reader (List Char) := fun text =>
  match text with
  | [] => .error .unexpectedEnd
  | '\x7b' :: rest => braced f (text.length + 1) (f.skip rest)
  | '\\' :: _ => .error .unknownProperty
  | c :: rest => .ok ([c], f.skip rest)

/-- The set of the characters with a property, or without it. -/
def propertySet (f : Flags) (negated : Bool) (name : List Char) : Except Fault CharSet := do
  if !f.unicode then throw .notUnicode
  let (differs, found) := propertyOf name
  let some s := found | throw .unknownProperty
  f.complement (negated != differs) (f.fold s)

/-- Reads the property after `\p` or `\P`. -/
def propertyEscape (f : Flags) (negated : Bool) : Reader CharSet := fun text => do
  let (name, rest) ← propertyName f (f.skip text)
  let s ← propertySet f negated name
  return (s, rest)

/-! ## Looks -/

/-- The edges that `\b` names in braces. -/
def namedEdge? (name : List Char) : Option Edge :=
  match String.ofList name with
  | "start" => some .wordStart
  | "end" => some .wordEnd
  | "start-half" => some .beforeWord
  | "end-half" => some .afterWord
  | _ => none

def isEdgeNameChar (c : Char) : Bool := c.isAlpha || c == '-'

/-- Takes the letters and hyphens of a name. -/
def edgeName (f : Flags) : Nat → List Char → List Char × List Char
  | n + 1, c :: rest =>
    if isEdgeNameChar c then
      let (cs, rest) := edgeName f n (f.skip rest)
      (c :: cs, rest)
    else ([], c :: rest)
  | _, text => ([], text)

/-- Reads the brace after the name of an edge. -/
def closeEdge (f : Flags) (name : List Char) : Reader Look := fun text =>
  match text with
  | '\x7d' :: rest =>
    match namedEdge? name with
    | some e => .ok (.edge e f.word, rest)
    | none => .error .unknownBoundary
  | _ => .error .unknownBoundary

/-- Reads what follows `\b`. A brace begins a name when a letter or a hyphen comes next, and else a count. -/
def boundaryEscape (f : Flags) : Reader Look := fun text =>
  match text with
  | '\x7b' :: rest =>
    match f.skip rest with
    | [] => .error .unexpectedEnd
    | c :: rest =>
      if isEdgeNameChar c then
        let (name, rest) := edgeName f (rest.length + 1) (c :: rest)
        closeEdge f name rest
      else .ok (.edge .boundary f.word, text)
  | _ => .ok (.edge .boundary f.word, text)

/-! ## All escapes -/

def isEscapable (c : Char) : Bool := c.toNat < 0x80 && !c.isAlphanum && c != '<' && c != '>'

/-- What the escapes of one character stand for. -/
def plainEscape (f : Flags) (c : Char) : Except Fault Atom :=
  match c with
  | 'a' => .ok (.literal '\x07')
  | 'f' => .ok (.literal '\x0c')
  | 't' => .ok (.literal '\t')
  | 'n' => .ok (.literal '\n')
  | 'r' => .ok (.literal '\r')
  | 'v' => .ok (.literal '\x0b')
  | 'A' => .ok (.look .textStart)
  | 'z' => .ok (.look .textEnd)
  | 'B' => .ok (.look (.edge .interior f.word))
  | '<' => .ok (.look (.edge .wordStart f.word))
  | '>' => .ok (.look (.edge .wordEnd f.word))
  | _ =>
    if isEscapable c then .ok (.literal c)
    else match classEscape? f c with
      | some s => s.map .set
      | none => .error .badEscape

/-- Reads what follows a backslash. -/
def escape (f : Flags) : Reader Atom
  | [] => .error .unexpectedEnd
  | c :: rest =>
    if c.isDigit then .error .backReference
    else match c with
      | 'x' => (hexEscape f 2 rest).map fun (c, rest) => (.literal c, rest)
      | 'u' => (hexEscape f 4 rest).map fun (c, rest) => (.literal c, rest)
      | 'U' => (hexEscape f 8 rest).map fun (c, rest) => (.literal c, rest)
      | 'p' => (propertyEscape f false rest).map fun (s, rest) => (.set s, rest)
      | 'P' => (propertyEscape f true rest).map fun (s, rest) => (.set s, rest)
      | 'b' => (boundaryEscape f rest).map fun (l, rest) => (.look l, rest)
      | _ => (plainEscape f c).map (·, rest)

end DeltaLint.Pattern

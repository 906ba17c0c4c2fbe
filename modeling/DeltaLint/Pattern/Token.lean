import DeltaLint.Pattern.Class
import DeltaLint.Unicode.Newer

/-
  DeltaLint.Pattern.Token — the pieces that the text of a pattern is made of.

  A token is read in the modes that hold where it stands. Every token takes at least one character.
-/

namespace DeltaLint.Pattern

open Unicode

inductive Token where
  /-- Opens a group, which may keep what it matches, and may have a name and modes of its own. -/
  | openGroup (keeps : Bool) (name : Option (List Char)) (flags : Flags)
  | closeGroup
  | bar
  /-- Changes the modes up to the end of the group. -/
  | setFlags (flags : Flags)
  | repetition (least : Nat) (most : Option Nat) (fewFirst : Bool)
  /-- A pattern that needs nothing of its surroundings, and how deeply its text is nested. -/
  | item (p : Pattern) (depth : Nat)
  deriving DecidableEq, Repr

/-! ## Groups -/

def isNameStart (c : Char) : Bool := c == '_' || Newer.alphabetic.contains c

def isNameChar (c : Char) : Bool :=
  c == '_' || c == '.' || c == '[' || c == ']' || Newer.alphanumeric.contains c

/-- Reads the name of a group, which `>` ends. -/
def groupName : Reader (List Char) := fun text =>
  let name := text.takeWhile (· != '>')
  match name, text.dropWhile (· != '>') with
  | c :: cs, _ :: rest => if isNameStart c && cs.all isNameChar then .ok (name, rest) else .error .badGroupName
  | _, _ => .error .badGroupName

/-- Reads what ends modes: a colon those of a group of their own, a closing parenthesis those that are set up to the
end of the group around, which may not be left out. -/
def closeFlags (leftOut : Bool) (g : Flags) : Reader Token := fun text =>
  match text with
  | ':' :: rest => .ok (.openGroup false none g, rest)
  | _ :: rest => if leftOut then .error .nothingToRepeat else .ok (.setFlags g, rest)
  | [] => .error .unexpectedEnd

/-- Reads modes with what ends them. -/
def groupFlags (f : Flags) : Reader Token := fun text => do
  let (g, rest) ← f.read true [] text
  closeFlags (text.head? == some ')') g rest

/-- Reads what follows a question mark after an opening parenthesis. -/
def groupKind (f : Flags) : Reader Token := fun text =>
  match text with
  | '=' :: _ => .error .lookAround
  | '!' :: _ => .error .lookAround
  | '<' :: '=' :: _ => .error .lookAround
  | '<' :: '!' :: _ => .error .lookAround
  | 'P' :: '<' :: rest => (groupName rest).map fun (name, rest) => (.openGroup true (some name) f, rest)
  | '<' :: rest => (groupName rest).map fun (name, rest) => (.openGroup true (some name) f, rest)
  | _ => groupFlags f text

/-- Reads what follows an opening parenthesis. -/
def group (f : Flags) : Reader Token := fun text =>
  match f.skip text with
  | '?' :: rest => groupKind f rest
  | rest => .ok (.openGroup true none f, rest)

/-! ## Repetition -/

/-- Takes decimal digits, and what has no meaning after each. -/
def countDigits (f : Flags) : Nat → List Char → List Char × List Char
  | n + 1, c :: rest =>
    if c.isDigit then
      let (ds, rest) := countDigits f n (f.skip rest)
      (c :: ds, rest)
    else ([], c :: rest)
  | _, text => ([], text)

/-- Reads a number of 32 bits with white space around it; there may be none. -/
def count (f : Flags) : Reader (Option Nat) := fun text => do
  let text := trimLeft text
  let (ds, rest) := countDigits f text.length text
  let rest := trimLeft rest
  if ds.isEmpty then return (none, rest)
  let some n := Text.decimal? Text.word32 ds | throw .badCount
  return (some n, rest)

/-- Reads a number that may not be left out. -/
def someCount (f : Flags) : Reader Nat := fun text => do
  let (n, rest) ← count f text
  let some n := n | throw .emptyCount
  return (n, rest)

/-- Reads what follows the comma: a number, or none where there is no upper bound. -/
def mostCount (f : Flags) : Reader (Option Nat) := fun text =>
  match text with
  | [] => .error .unclosedCount
  | '\x7d' :: _ => .ok (none, text)
  | _ => (someCount f text).map fun (n, rest) => (some n, rest)

/-- Reads the upper bound, which is the lower one where there is no comma. -/
def upperCount (f : Flags) (least : Nat) : Reader (Option Nat) := fun text =>
  match text with
  | ',' :: rest => mostCount f (f.skip rest)
  | _ => .ok (some least, text)

/-- A repetition, after which a question mark may change which matches it prefers. -/
def repetition (f : Flags) (least : Nat) (most : Option Nat) : List Char → Token × List Char
  | '?' :: rest => (.repetition least most !f.fewFirst, rest)
  | rest => (.repetition least most f.fewFirst, rest)

/-- Reads the closing brace. -/
def closeCount (f : Flags) (least : Nat) (most : Option Nat) : Reader Token := fun text =>
  match text with
  | '\x7d' :: rest => if most.any (· < least) then .error .badCount else .ok (repetition f least most (f.skip rest))
  | _ => .error .unclosedCount

/-- Reads what follows an opening brace. -/
def counted (f : Flags) : Reader Token := fun text => do
  let text := f.skip text
  if text.isEmpty then throw .unclosedCount
  let (least, rest) ← someCount f text
  let (most, rest) ← upperCount f least rest
  closeCount f least most rest

/-! ## Tokens -/

/-- What a dot stands for: every character but those that end a line, or every one. -/
def Flags.dot (f : Flags) : Except Fault CharSet :=
  if !f.unicode then .error .notUnicode
  else if f.dotAll then .ok .all
  else if f.returnLines then .ok (.not (.union [.one '\n', .one '\r']))
  else .ok (.not (.one '\n'))

def Flags.caret (f : Flags) : Look :=
  if !f.multiLine then .textStart else if f.returnLines then .returnLineStart else .lineStart

def Flags.dollar (f : Flags) : Look :=
  if !f.multiLine then .textEnd else if f.returnLines then .returnLineEnd else .lineEnd

def Atom.pattern (f : Flags) : Atom → Pattern
  | .literal c => .char (f.fold (.one c))
  | .set s => .char s
  | .look l => .look l

/-- Reads one token from a text that begins with no white space or comment to skip. -/
def token (f : Flags) : Reader Token
  | [] => .error .unexpectedEnd
  | '(' :: rest => group f rest
  | ')' :: rest => .ok (.closeGroup, rest)
  | '|' :: rest => .ok (.bar, rest)
  | '[' :: rest => (bracketClass f rest).map fun (k, rest) => (.item (.char k.set) k.depth, rest)
  | '?' :: rest => .ok (repetition f 0 (some 1) rest)
  | '*' :: rest => .ok (repetition f 0 none rest)
  | '+' :: rest => .ok (repetition f 1 none rest)
  | '\x7b' :: rest => counted f rest
  | '\\' :: rest => (escape f rest).map fun (a, rest) => (.item (a.pattern f) 0, rest)
  | '.' :: rest => f.dot.map fun s => (.item (.char s) 0, rest)
  | '^' :: rest => .ok (.item (.look f.caret) 0, rest)
  | '$' :: rest => .ok (.item (.look f.dollar) 0, rest)
  | c :: rest => .ok (.item ((Atom.literal c).pattern f) 0, rest)

end DeltaLint.Pattern

import DeltaLint.Pattern.Search
import DeltaLint.Sandbox.Shell.Glob
import DeltaLint.Text.Digits
import DeltaLint.Text.Pieces

/-
  DeltaLint.Sandbox.Shell.Grep — lines in which an expression is found.

  In a basic expression a backslash makes operators of parentheses, braces, `|`, `+` and `?`; in an
  extended one it takes the meaning from them. A star that has nothing to repeat stands for itself.
-/

namespace DeltaLint.Sandbox.Shell.Grep

open Unicode

/-- How expressions are written. -/
inductive Kind where
  | basic
  | extended
  | fixed
  deriving DecidableEq, Repr

structure Options where
  kind : Kind := .basic
  count : Bool := false
  names : Bool := false
  quiet : Bool := false
  silent : Bool := false
  numbers : Bool := false
  inverted : Bool := false
  ignoreCase : Bool := false
  wholeLine : Bool := false
  wholeWord : Bool := false
  withName : Option Bool := none
  /-- Whether what was found is written, and not the lines that it was found in. -/
  matchesOnly : Bool := false
  /-- How many lines are found at most. -/
  limit : Option Nat := none
  expressions : List (List Char) := []
  deriving DecidableEq, Repr

/-! ## Tokens -/

inductive Token where
  | item (p : Pattern)
  | openGroup
  | closeGroup
  | bar
  | repetition (least : Nat) (most : Option Nat)
  | star
  deriving DecidableEq, Repr

def word : CharSet := .union [.span 0x30 0x39, .span 0x41 0x5A, .one '_', .span 0x61 0x7A]

def ascii : CharSet := .span 0 0x7F

def space : CharSet := .union [.span 0x9 0xD, .one ' ']

def setOf (ranges : List (Char × Char)) : CharSet := .union (ranges.map fun (a, b) => .span a.toNat b.toNat)

/-- The bounds of a repetition up to its closing brace. -/
def bounds? (kind : Kind) (text : List Char) : Option (Token × List Char) := do
  let least := text.takeWhile Char.isDigit
  let rest := text.drop least.length
  let (most, rest) : Option (Option Nat) × List Char := match rest with
    | ',' :: rest =>
      let most := rest.takeWhile Char.isDigit
      (some (Text.digits? 10 most), rest.drop most.length)
    | rest => (none, rest)
  let rest ← match kind, rest with
    | .basic, '\\' :: '\x7d' :: rest => some rest
    | .extended, '\x7d' :: rest => some rest
    | _, _ => none
  let least := (Text.digits? 10 least).getD 0
  some (.repetition least (most.getD (some least)), rest)

/-- What a backslash makes of the character after it, where both kinds of expressions agree. -/
def escaped (c : Char) : Token :=
  match c with
  | 'w' => .item (.char word)
  | 'W' => .item (.char (.not word))
  | 's' => .item (.char space)
  | 'S' => .item (.char (.not space))
  | '<' => .item (.look (.edge .wordStart word))
  | '>' => .item (.look (.edge .wordEnd word))
  | 'b' => .item (.look (.edge .boundary word))
  | 'B' => .item (.look (.edge .interior word))
  | c => .item (.char (.one c))

/-- The operator that a character is, after a backslash in a basic expression and bare in an extended one. -/
def operator? (kind : Kind) (c : Char) (rest : List Char) : Option (Token × List Char) :=
  match c with
  | '(' => some (.openGroup, rest)
  | ')' => some (.closeGroup, rest)
  | '|' => some (.bar, rest)
  | '+' => some (.repetition 1 none, rest)
  | '?' => some (.repetition 0 (some 1), rest)
  | '\x7b' => bounds? kind rest
  | _ => none

/-- Whether a branch ends before the rest of an expression. -/
def endsBranch (kind : Kind) (rest : List Char) : Bool :=
  match kind, rest with
  | _, [] => true
  | .basic, '\\' :: c :: _ => c == ')' || c == '|'
  | .basic, _ => false
  | _, _ => true

/-- The next token; `atStart` where a branch begins. -/
def token (kind : Kind) (atStart : Bool) (text : List Char) : Option (Token × List Char) :=
  match text with
  | [] => none
  | '\\' :: c :: rest =>
    match if kind = .basic then operator? kind c rest else none with
    | some t => some t
    | none => some (escaped c, rest)
  | '[' :: rest =>
    match Glob.set? (rest.map (⟨·, false⟩)) with
    | some (.among negated ranges, rest) =>
      let s := setOf ranges
      some (.item (.char (if negated then .not s else s)), rest.map Glyph.char)
    | _ => some (.item (.char (.one '[')), rest)
  | '.' :: rest => some (.item (.char .all), rest)
  | '*' :: rest => some (.star, rest)
  | '^' :: rest => some (.item (if atStart || kind = .extended then .look .textStart else .char (.one '^')), rest)
  | '$' :: rest => some (.item (if endsBranch kind rest then .look .textEnd else .char (.one '$')), rest)
  | c :: rest =>
    match if kind = .extended then operator? kind c rest else none with
    | some t => some t
    | none => some (.item (.char (.one c)), rest)

/-! ## Expressions -/

/-- A group that is open: the parts of its last branch and its other branches, last first. -/
structure Group where
  parts : List Pattern
  branches : List Pattern
  deriving DecidableEq, Repr

def Group.whole (g : Group) : Pattern := .choice (Pattern.concat g.parts.reverse :: g.branches).reverse

/-- A part that something may follow and repeat: all but a look. -/
def isRepeatable : Pattern → Bool
  | .look _ => false
  | _ => true

/-- Reads tokens; `n` bounds their number. A closing parenthesis without an opening one stands for itself. -/
def read (kind : Kind) : Nat → Group → List Group → List Char → Option Pattern
  | 0, g, outer, _ => if outer.isEmpty then some g.whole else none
  | n + 1, g, outer, text =>
    let part (p : Pattern) (rest : List Char) := read kind n { g with parts := p :: g.parts } outer rest
    match token kind g.parts.isEmpty text with
    | none => if outer.isEmpty then some g.whole else none
    | some (.item p, rest) => part p rest
    | some (.openGroup, rest) => read kind n ⟨[], []⟩ (g :: outer) rest
    | some (.closeGroup, rest) =>
      match outer with
      | o :: outer => read kind n { o with parts := g.whole :: o.parts } outer rest
      | [] => if kind = .extended then part (.char (.one ')')) rest else none
    | some (.bar, rest) => read kind n ⟨[], Pattern.concat g.parts.reverse :: g.branches⟩ outer rest
    | some (.repetition least most, rest) =>
      match g.parts with
      | p :: ps => read kind n { g with parts := p.repeated least most :: ps } outer rest
      | [] => read kind n g outer rest
    | some (.star, rest) =>
      match g.parts with
      | p :: ps => if isRepeatable p then read kind n { g with parts := p.repeated 0 none :: ps } outer rest else part (.char (.one '*')) rest
      | [] => part (.char (.one '*')) rest

/-- The pattern with every set closed under case; ASCII letters alone have one. -/
def foldCase : Pattern → Pattern
  | .char s => .char (.or s (.and (.folded (.and s ascii)) ascii))
  | .seq p q => .seq (foldCase p) (foldCase q)
  | .alt p q => .alt (foldCase p) (foldCase q)
  | .repeated p least most => .repeated (foldCase p) least most
  | p => p

/-- The pattern of one expression, if it is one. -/
def expression? (kind : Kind) (text : List Char) : Option Pattern :=
  if kind = .fixed then some (.concat (text.map fun c => .char (.one c)))
  else read kind (text.length + 1) ⟨[], []⟩ [] text

/-- What is looked for in a line. Every line of an expression is one of its own. -/
def pattern? (o : Options) : Option Pattern := do
  let ps ← (o.expressions.flatMap (Text.pieces '\n')).mapM (expression? o.kind)
  let p := Pattern.choice ps
  let p := if o.ignoreCase then foldCase p else p
  let p := if o.wholeWord then .concat [.look (.edge .beforeWord word), p, .look (.edge .afterWord word)] else p
  return if o.wholeLine then .concat [.look .textStart, p, .look .textEnd] else p

/-! ## Places in a line -/

def isFoundIn (p : Pattern) (line : List Char) : Bool := Pattern.startsIn (.seq (.repeated (.char .all) 0 none) p) line

/-- Where the longest match that begins after so many characters ends. -/
def matchEnd? (p : Pattern) (line : List Char) (start : Nat) : Option Nat :=
  let exactly (k : Nat) : Pattern := .repeated (.char .all) k (some k)
  let before := exactly start
  if !Pattern.startsIn (.seq before p) line then none
  else
    let tail? := (List.range (line.length - start + 1)).find? fun k =>
      Pattern.startsIn (.concat [before, p, exactly k, .look .textEnd]) line
    tail?.map (line.length - ·)

/-- The matches in a line after so many characters that are not empty, from left to right. `n` bounds the places
that are tried. -/
def matchesIn (p : Pattern) (line : List Char) : (n start : Nat) → List (List Char)
  | 0, _ => []
  | n + 1, start =>
    match matchEnd? p line start with
    | some stop =>
      if start < stop then (line.drop start).take (stop - start) :: matchesIn p line n stop
      else matchesIn p line n (start + 1)
    | none => matchesIn p line n (start + 1)

/-! ## Lines -/

/-- The lines of a text; a line feed at its end begins no other line. -/
def linesOf (text : List Char) : List (List Char) :=
  let ls := Text.pieces '\n' text
  if ls.getLast? = some [] then ls.dropLast else ls

/-- The lines that are asked for, with their numbers. -/
def found (o : Options) (p : Pattern) (text : List Char) : List (Nat × List Char) :=
  let ls := (linesOf text).zipIdx.map fun (l, i) => (i + 1, l)
  let found := ls.filter fun (_, l) => isFoundIn p l != o.inverted
  o.limit.elim found found.take

/-- What is written about a file, after its name where `named`. -/
def report (o : Options) (p : Pattern) (named : Bool) (file text : List Char) : List Char × Bool :=
  let ls := found o p text
  let start := if named then file ++ [':'] else []
  let out :=
    if o.quiet then []
    else if o.names then if ls.isEmpty then [] else file ++ ['\n']
    else if o.count then start ++ Text.decimal ls.length ++ ['\n']
    else ls.flatMap fun (i, l) =>
      let shown := if !o.matchesOnly then [l] else if o.inverted then [] else matchesIn p l (l.length + 1) 0
      shown.flatMap fun l => start ++ (if o.numbers then Text.decimal i ++ [':'] else []) ++ l ++ ['\n']
  (out, !ls.isEmpty)

/-! ## Arguments -/

def Options.letter? (o : Options) : Char → Option Options
  | 'E' => some { o with kind := .extended }
  | 'F' => some { o with kind := .fixed }
  | 'G' => some { o with kind := .basic }
  | 'c' => some { o with count := true }
  | 'l' => some { o with names := true }
  | 'q' => some { o with quiet := true }
  | 's' => some { o with silent := true }
  | 'n' => some { o with numbers := true }
  | 'v' => some { o with inverted := true }
  | 'i' | 'y' => some { o with ignoreCase := true }
  | 'x' => some { o with wholeLine := true }
  | 'w' => some { o with wholeWord := true }
  | 'H' => some { o with withName := some true }
  | 'h' => some { o with withName := some false }
  | 'o' => some { o with matchesOnly := true }
  | 'a' => some o
  | _ => none

/-- Reads a word of letters. What comes after `e` or `m` may be the next argument. -/
def Options.letters (o : Options) : List Char → List (List Char) → Except Char (Options × List (List Char))
  | [], rest => .ok (o, rest)
  | ['e'], e :: rest => .ok ({ o with expressions := o.expressions ++ [e] }, rest)
  | 'e' :: c :: cs, rest => .ok ({ o with expressions := o.expressions ++ [c :: cs] }, rest)
  | ['m'], k :: rest => .ok ({ o with limit := Text.digits? 10 k }, rest)
  | 'm' :: c :: cs, rest => .ok ({ o with limit := Text.digits? 10 (c :: cs) }, rest)
  | c :: cs, rest =>
    match o.letter? c with
    | some o => letters o cs rest
    | none => .error c

/-- Sorts the arguments into options and others; `n` bounds how many there are. -/
def arguments : Nat → Options → List (List Char) → Except Char (Options × List (List Char))
  | n + 1, o, a :: rest =>
    match a with
    | ['-', '-'] => .ok (o, rest)
    | '-' :: c :: cs => do
      let (o, rest) ← o.letters (c :: cs) rest
      arguments n o rest
    | a => do
      let (o, others) ← arguments n o rest
      return (o, a :: others)
  | _, o, rest => .ok (o, rest)

/-- The options, with the first of the other arguments as the expression where none was given. -/
def settled? (as : List (List Char)) : Except (Option Char) (Options × List (List Char)) := do
  let (o, files) ← (arguments (as.length + 1) {} as).mapError some
  if !o.expressions.isEmpty then return (o, files)
  match files with
  | e :: files => return ({ o with expressions := [e] }, files)
  | [] => throw none

end DeltaLint.Sandbox.Shell.Grep

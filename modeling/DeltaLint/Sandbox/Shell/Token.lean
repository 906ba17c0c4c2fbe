import DeltaLint.Sandbox.Shell.Command
import DeltaLint.Text.Digits

/-
  DeltaLint.Sandbox.Shell.Token — the tokens of a script.

  A token knows the line that it ends in. The text of a here-document stands after the line that asks
  for it; among the tokens it follows its operator. A text that cannot be read on is the last token.
-/

namespace DeltaLint.Sandbox.Shell

inductive Token where
  | word (w : Word)
  /-- A number right before a redirection. -/
  | descriptor (n : Nat)
  | operator (text : String)
  | document (text : Word)
  | newline
  | finish
  | fault (text : String)

structure Lexeme where
  token : Token
  line : Nat

def isNameStart (c : Char) : Bool := c.isAlpha || c == '_'

def isNameChar (c : Char) : Bool := c.isAlphanum || c == '_'

def isName (text : List Char) : Bool := text.head?.any isNameStart && text.all isNameChar

def isSpecial (c : Char) : Bool := "#*@?$!-".toList.contains c || c.isDigit

def isBlank (c : Char) : Bool := c == ' ' || c == '\t'

/-- The characters that end a word. -/
def endsWord (c : Char) : Bool := isBlank c || "\n;&|<>()".toList.contains c

/-- A reader of text: what it reads and the rest, or why it cannot. -/
abbrev Reader (α : Type) := List Char → Except String (α × List Char)

/-! ## Parts of words -/

/-- What a list of parts stands in. -/
inductive Around where
  | nothing
  | doubleQuotes
  | braces (quoted : Bool)
  | document
  | arithmetic
  deriving DecidableEq, Repr

namespace Around

/-- Whether the text is quoted by what is around it. -/
def quotes : Around → Bool
  | .nothing => false
  | .braces quoted => quoted
  | _ => true

/-- The characters that a backslash makes literal where the text is quoted. -/
def escapable : Around → List Char
  | .document => "$\x60\\".toList
  | .braces _ => "$\x60\"\\\x7d".toList
  | _ => "$\x60\"\\".toList

/-- Whether the character ends the list. -/
def isEnd : Around → Char → Bool
  | .nothing, c => endsWord c
  | .doubleQuotes, c => c == '"'
  | .braces _, c => c == '\x7d'
  | _, _ => false

/-- What is wrong when the text ends here. -/
def fault? : Around → Option String
  | .doubleQuotes => some "Unterminated quoted string"
  | .braces _ => some "Missing '\x7d'"
  | _ => none

end Around

/-- A document that is asked for: the line that ends it, whether its text is taken as it is, and whether tabs at the
start of its lines are dropped. -/
structure Awaited where
  mark : List Char
  verbatim : Bool
  tabless : Bool

namespace Awaited

def ofWord (w : Word) (tabless : Bool) : Awaited :=
  ⟨w.flatMap fun | .literal text _ => text | _ => [], w.any fun | .literal _ quoted => quoted | _ => false, tabless⟩

/-- Takes the lines of a document. -/
def lines (a : Awaited) : Nat → List Char → List Char × List Char
  | 0, text => ([], text)
  | _, [] => ([], [])
  | n + 1, text =>
    let text := if a.tabless then text.dropWhile (· == '\t') else text
    let line := text.takeWhile (· != '\n')
    let rest := text.drop (line.length + 1)
    if line = a.mark then ([], rest)
    else
      let (body, rest) := a.lines n rest
      (text.take (line.length + 1) ++ body, rest)

/-- What comes after the documents that are awaited. -/
def after (as : List Awaited) (text : List Char) : List Char :=
  as.foldl (fun text a => (a.lines (text.length + 1) text).2) text

/-- The document that a text asks for after its two angles, and what comes after its mark. -/
def ofText (text : List Char) : Awaited × List Char :=
  let (tabless, text) := if text.head? = some '-' then (true, text.drop 1) else (false, text)
  let text := text.dropWhile isBlank
  let mark := text.takeWhile (!endsWord ·)
  (⟨mark.filter (!"\"'\\".toList.contains ·), false, tabless⟩, text.drop mark.length)

end Awaited

/-- What is open in a script: quotes, parentheses around commands or sums, and choices. -/
inductive Opening where
  | parenthesis
  | sum
  | choice
  | single
  | double
  deriving DecidableEq, Repr

/-- Where a reader of a script stands: where a command may begin, between words, or inside a word, after which a
command may begin. -/
inductive Stand where
  | start
  | between
  | inside (leads : Bool)
  deriving DecidableEq, Repr

/-- The words after which a command may begin. -/
def leadingWords : List String := ["!", "do", "elif", "else", "if", "then", "until", "while", "\x7b"]

/-- Takes the text up to the parenthesis that closes the last opening. Of the parentheses in it, those in quotes, in
remarks, in documents and after the patterns of a choice close nothing. -/
def enclosed : Nat → List Opening → Stand → List Awaited → List Char → Option (List Char × List Char)
  | 0, _, _, _, _ => none
  | _, [], _, _, text => some ([], text)
  | _, _, _, _, [] => none
  | n + 1, o :: outer, stand, awaited, c :: rest =>
    let text := c :: rest
    let go (k : Nat) (openings : List Opening) (stand : Stand) (awaited : List Awaited) :=
      (enclosed n openings stand awaited (text.drop k)).map fun (body, rest) => (text.take k ++ body, rest)
    let on (openings : List Opening) (stand : Stand) := go 1 openings stand awaited
    if o = .single then on (if c = '\'' then outer else o :: outer) stand
    else if c = '\\' then go 2 (o :: outer) (if o = .double then stand else .inside false) awaited
    else if c = '$' && rest.take 2 = ['(', '('] then go 3 (.sum :: .sum :: o :: outer) (.inside false) awaited
    else if c = '$' && rest.head? = some '(' then go 2 (.parenthesis :: o :: outer) .start awaited
    else if o = .double then on (if c = '"' then outer else o :: outer) stand
    else if c = '\'' then on (.single :: o :: outer) (.inside false)
    else if c = '"' then on (.double :: o :: outer) (.inside false)
    else if c = '(' then on ((if o = .sum then .sum else .parenthesis) :: o :: outer) .start
    else if c = ')' && o = .choice then on (o :: outer) .start
    else if c = ')' then if outer.isEmpty then some ([], rest) else on outer .between
    else if o = .sum then on (o :: outer) stand
    else if c = '\n' then go (text.length - (Awaited.after awaited rest).length) (o :: outer) .start []
    else if c = ';' || c = '&' || c = '|' then on (o :: outer) .start
    else if c = '<' && rest.head? = some '<' then
      let (a, after) := Awaited.ofText (rest.drop 1)
      go (text.length - after.length) (o :: outer) .between (awaited ++ [a])
    else if c = '<' || c = '>' then on (o :: outer) .between
    else if isBlank c then on (o :: outer) (if stand = .start || stand = .inside true then .start else .between)
    else if c = '#' && (stand = .start || stand = .between) then
      go (text.takeWhile (· != '\n')).length (o :: outer) stand awaited
    else
      let word := String.ofList (text.takeWhile (!endsWord ·))
      match stand with
      | .start =>
        if word == "case" then go 4 (.choice :: o :: outer) (.inside false) awaited
        else if word == "esac" && o = .choice then go 4 outer (.inside false) awaited
        else on (o :: outer) (.inside (leadingWords.contains word))
      | .between => on (o :: outer) (.inside (word == "in" && o = .choice))
      | .inside _ => on (o :: outer) stand

/-- Takes a script between backquotes. -/
def backquoted : List Char → Option (List Char × List Char)
  | [] => none
  | '\x60' :: rest => some ([], rest)
  | '\\' :: c :: rest =>
    let kept := if "$\x60\\".toList.contains c then [c] else ['\\', c]
    (backquoted rest).map fun (body, rest) => (kept ++ body, rest)
  | c :: rest => (backquoted rest).map fun (body, rest) => (c :: body, rest)

/-- The name of a parameter at the start of a text between braces. -/
def parameterName (text : List Char) : List Char :=
  match text with
  | c :: _ => if isNameStart c then text.takeWhile isNameChar else if c.isDigit then text.takeWhile Char.isDigit else text.take 1
  | [] => []

/-- What a colon, if there is one, and the next character say is done with a parameter. -/
def use? (orEmpty : Bool) : Char → Option (Word → Use)
  | '-' => some (.fallback orEmpty)
  | '=' => some (.assigned orEmpty)
  | '?' => some (.required orEmpty)
  | '+' => some (.alternative orEmpty)
  | _ => none

mutual

/-- Reads what follows a dollar sign. The script ends in the line `last`. -/
def dollar (last : Nat) (quoted : Bool) : Nat → Reader Part
  | 0, _ => throw "Missing '\x7d'"
  | n + 1, text =>
    match text with
    | '(' :: '(' :: rest =>
      match enclosed (rest.length + 1) [.sum, .sum] (.inside false) [] rest with
      | some (body, rest) => do
        let (parts, _) ← parts last .arithmetic n [] body.dropLast
        return (.arithmetic parts quoted, rest)
      | none => throw "Missing '))'"
    | '(' :: rest =>
      match enclosed (rest.length + 1) [.parenthesis] .start [] rest with
      | some (body, after) => return (.output body (last - rest.count '\n') quoted, after)
      | none => throw "end of file unexpected (expecting \")\")"
    | '\x7b' :: '\x7d' :: rest => return (.parameter [] .bad quoted, rest)
    | '\x7b' :: '#' :: '\x7d' :: rest => return (.parameter ['#'] .value quoted, rest)
    | '\x7b' :: '#' :: rest =>
      let name := parameterName rest
      match rest.drop name.length with
      | '\x7d' :: rest => return (.length name, rest)
      | [] => throw "Missing '\x7d'"
      | rest => do
        let (_, rest) ← parts last (.braces quoted) n [] rest
        return (.parameter name .bad quoted, rest)
    | '\x7b' :: rest =>
      let name := parameterName rest
      let worded (use : Word → Use) (rest : List Char) : Except String (Part × List Char) := do
        let (word, rest) ← parts last (.braces quoted) n [] rest
        return (.parameter name (use word) quoted, rest)
      let without (use : Word → Use) (rest : List Char) : Except String (Part × List Char) := do
        let (word, rest) ← parts last (.braces false) n [] rest
        return (.parameter name (use word) quoted, rest)
      if name.isEmpty then worded (fun _ => .bad) rest else
      match rest.drop name.length with
      | '\x7d' :: rest => return (.parameter name .value quoted, rest)
      | '%' :: '%' :: rest => without (.without true true) rest
      | '%' :: rest => without (.without true false) rest
      | '#' :: '#' :: rest => without (.without false true) rest
      | '#' :: rest => without (.without false false) rest
      | ':' :: c :: rest =>
        match use? true c with
        | some use => worded use rest
        | none => worded (fun _ => .bad) rest
      | c :: rest =>
        match use? false c with
        | some use => worded use rest
        | none => worded (fun _ => .bad) rest
      | [] => throw "Missing '\x7d'"
    | c :: rest =>
      if isNameStart c then
        let name := text.takeWhile isNameChar
        return (.parameter name .value quoted, text.drop name.length)
      else if isSpecial c then return (.parameter [c] .value quoted, rest)
      else return (.literal ['$'] quoted, text)
    | [] => return (.literal ['$'] quoted, [])

/-- Reads parts up to the end of what they stand in. `plain` is the text so far that goes into one part, last first. -/
def parts (last : Nat) (around : Around) : Nat → List Char → Reader Word
  | 0, _, _ => throw "Missing '\x7d'"
  | n + 1, plain, text =>
    let before (ps : Word) : Word := if plain.isEmpty then ps else .literal plain.reverse around.quotes :: ps
    let part (p : Part) (rest : List Char) : Except String (Word × List Char) := do
      let (ps, rest) ← parts last around n [] rest
      return (before (p :: ps), rest)
    match text with
    | [] => match around.fault? with
      | some fault => throw fault
      | none => return (before [], [])
    | '\\' :: '\n' :: rest => parts last around n plain rest
    | '\\' :: c :: rest =>
      if !around.quotes then part (.literal [c] true) rest
      else if around.escapable.contains c then parts last around n (c :: plain) rest
      else parts last around n (c :: '\\' :: plain) rest
    | '$' :: rest => do
      let (p, rest) ← dollar last around.quotes n rest
      part p rest
    | '\x60' :: rest =>
      match backquoted rest with
      | some (body, after) => part (.output body (last - rest.count '\n') around.quotes) after
      | none => throw "EOF in backquote substitution"
    | c :: rest =>
      if around.isEnd c then return (before [], if around = .nothing then text else rest)
      else if c = '\'' && !around.quotes then
        let body := rest.takeWhile (· != '\'')
        if body.length = rest.length then throw "Unterminated quoted string"
        else part (.literal body true) (rest.drop (body.length + 1))
      else if c = '"' && (!around.quotes || around = .braces true) then do
        let (ps, rest) ← parts last .doubleQuotes n [] rest
        let (others, rest) ← parts last around n [] rest
        return (before ((if ps.isEmpty then [.literal [] true] else ps) ++ others), rest)
      else parts last around n (c :: plain) rest

end

/-! ## Here-documents -/

/-- Reads the documents that are awaited, in order. -/
def documents (last : Nat) : List Awaited → List Char → List Word × List Char
  | [], text => ([], text)
  | a :: others, text =>
    let (body, rest) := a.lines (text.length + 1) text
    let word : Word := if a.verbatim then [.literal body true] else
      match parts (last - rest.count '\n') .document (2 * body.length + 2) [] body with
      | .ok (ps, _) => ps
      | .error _ => [.literal body true]
    let (words, rest) := documents last others rest
    (word :: words, rest)

/-! ## Tokens -/

def operators : List String :=
  ["<<-", "<<", "&&", "||", ";;", ">>", "<&", ">&", ">|", "<>", ";", "&", "|", "<", ">", "(", ")"]

/-- The tokens of a text, and the documents among those after it that were awaited before it. -/
def lexemes (last : Nat) : Nat → List Awaited → List Char → List Lexeme × List Word
  | 0, _, _ => ([⟨.finish, last⟩], [])
  | n + 1, awaited, text =>
    let place (rest : List Char) : Nat := last - rest.count '\n'
    match text with
    | [] => ([⟨.finish, last⟩], (documents last awaited []).1)
    | '\\' :: '\n' :: rest => lexemes last n awaited rest
    | '\n' :: rest =>
      let (words, rest) := documents last awaited rest
      (⟨.newline, place rest⟩ :: (lexemes last n [] rest).1, words)
    | '#' :: rest => lexemes last n awaited (rest.dropWhile (· != '\n'))
    | c :: rest =>
      if isBlank c then lexemes last n awaited rest
      else
        let digits := text.takeWhile Char.isDigit
        let next := (text.drop digits.length).head?
        if !digits.isEmpty && (next = some '<' || next = some '>') then
          let (ts, words) := lexemes last n awaited (text.drop digits.length)
          (⟨.descriptor ((Text.digits? 10 digits).getD 0), place rest⟩ :: ts, words)
        else match operators.find? fun o => o.toList.isPrefixOf text with
          | some o =>
            let after := text.drop o.length
            let token : Lexeme := ⟨.operator o, place after⟩
            let mark := parts last .nothing (2 * after.length + 2) [] (after.dropWhile isBlank)
            match o.startsWith "<<", mark with
            | true, .ok (w :: ws, rest) =>
              let (ts, words) := lexemes last n (awaited ++ [.ofWord (w :: ws) (o == "<<-")]) rest
              (token :: ⟨.document (words[awaited.length]?.getD []), place rest⟩ :: ts, words)
            | _, _ =>
              let (ts, words) := lexemes last n awaited after
              (token :: ts, words)
          | none =>
            match parts last .nothing (2 * text.length + 2) [] text with
            | .ok (w, rest) =>
              let (ts, words) := lexemes last n awaited rest
              (⟨.word w, place rest⟩ :: ts, words)
            | .error fault => ([⟨.fault fault, last⟩], [])

/-- The tokens of a script that begins in the given line. -/
def Lexeme.ofText (line : Nat) (text : List Char) : List Lexeme :=
  (lexemes (line + text.count '\n') (text.length + 1) [] text).1

end DeltaLint.Sandbox.Shell

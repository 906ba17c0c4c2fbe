import DeltaLint.Sandbox.Shell.Token

/-
  DeltaLint.Sandbox.Shell.Script — scripts as the commands that they are read into.

  A script is read and run line by line: what stands before a broken line is still run. A word has a
  meaning of its own only where a command may begin, and then only when no part of it is quoted.
-/

namespace DeltaLint.Sandbox.Shell

structure SyntaxFault where
  line : Nat
  text : String
  deriving DecidableEq, Repr

/-- A reader of tokens: what it reads and the rest, or what is wrong. -/
abbrev Grammar (α : Type) := List Lexeme → Except SyntaxFault (α × List Lexeme)

/-- The commands that no function may be called like, and that end the shell where they go wrong. -/
def specialNames : List String :=
  [":", ".", "break", "continue", "eval", "exec", "exit", "export", "local", "readonly", "return", "set", "shift",
    "times", "trap", "unset"]

namespace Grammar

/-! ## Looking at tokens -/

def keywords : List String :=
  ["!", "case", "do", "done", "elif", "else", "esac", "fi", "for", "if", "in", "then", "until", "while", "\x7b", "\x7d"]

/-- The token as a word that may have a meaning of its own. -/
def keyword? : List Lexeme → Option String
  | ⟨.word [.literal s false], _⟩ :: _ => if keywords.contains (String.ofList s) then some (String.ofList s) else none
  | _ => none

def operator? : List Lexeme → Option String
  | ⟨.operator o, _⟩ :: _ => some o
  | _ => none

def isRedirection (o : String) : Bool := o.startsWith "<" || o.startsWith ">"

/-- How the next token is called in a complaint. -/
def tokenName (commandPlace : Bool) (ts : List Lexeme) : String :=
  match ts, keyword? ts with
  | _, some k => if commandPlace then s!"\"{k}\"" else "word"
  | ⟨.operator o, _⟩ :: _, _ => if isRedirection o then "redirection" else s!"\"{o}\""
  | ⟨.word _, _⟩ :: _, _ => "word"
  | ⟨.newline, _⟩ :: _, _ => "newline"
  | ⟨.descriptor _, _⟩ :: _, _ => "redirection"
  | ⟨.document _, _⟩ :: _, _ => "redirection"
  | _, _ => "end of file"

/-- The complaint that something else is there than what was expected. -/
def unexpected {α : Type} (commandPlace : Bool) (expected : Option String) (ts : List Lexeme) : Except SyntaxFault α :=
  let line := (ts.head?.map Lexeme.line).getD 0
  match ts with
  | ⟨.fault text, _⟩ :: _ => throw ⟨line, text⟩
  | _ =>
    let ending := match expected with
      | some e => s!" (expecting \"{e}\")"
      | none => ""
    throw ⟨line, s!"{tokenName commandPlace ts} unexpected{ending}"⟩

def skipNewlines : List Lexeme → List Lexeme
  | ⟨.newline, _⟩ :: ts => skipNewlines ts
  | ts => ts

/-- Passes a keyword that has to be there. -/
def passKeyword (k : String) (ts : List Lexeme) : Except SyntaxFault (List Lexeme) :=
  if keyword? ts == some k then return ts.drop 1 else unexpected true (some k) ts

/-- Passes an operator that has to be there. -/
def passOperator (commandPlace : Bool) (o : String) (ts : List Lexeme) : Except SyntaxFault (List Lexeme) :=
  if operator? ts == some o then return ts.drop 1 else unexpected commandPlace (some o) ts

/-- Whether a list of commands ends before the token. -/
def endsList (ts : List Lexeme) : Bool :=
  match ts, keyword? ts with
  | _, some k => ["do", "done", "elif", "else", "esac", "fi", "then", "\x7d"].contains k
  | ⟨.operator o, _⟩ :: _, _ => o == ")" || o == ";;"
  | ⟨.finish, _⟩ :: _, _ => true
  | _, _ => false

/-- A word that sets a variable: a name, an equals sign and the value. -/
def assignment? : Word → Option (List Char × Word)
  | .literal s false :: parts =>
    let name := s.takeWhile (· != '=')
    match s.drop name.length with
    | '=' :: value => if isName name then some (name, if value.isEmpty then parts else .literal value false :: parts) else none
    | _ => none
  | _ => none

def words : List Lexeme → List Word × List Lexeme
  | ⟨.word w, _⟩ :: ts => let (ws, ts) := words ts; (w :: ws, ts)
  | ts => ([], ts)

/-- Reads one redirection, if there is one. -/
def redirection? (ts : List Lexeme) : Except SyntaxFault (Option (Redirection × List Lexeme)) :=
  let (number, after) : Option Nat × List Lexeme := match ts with
    | ⟨.descriptor n, _⟩ :: ts => (some n, ts)
    | ts => (none, ts)
  match after with
  | ⟨.operator o, _⟩ :: rest =>
    if !isRedirection o then return none
    else match rest with
      | ⟨.document text, _⟩ :: rest => return some (.document (number.getD 0) text, rest)
      | ⟨.word w, _⟩ :: rest =>
        let r : Redirection := match o with
          | "<" => .input (number.getD 0) w
          | "<>" => .made (number.getD 0) w
          | "<&" => .copy (number.getD 0) w
          | ">&" => .copy (number.getD 1) w
          | ">>" => .output (number.getD 1) .further w
          | ">|" => .output (number.getD 1) .anyway w
          | _ => .output (number.getD 1) .anew w
        return some (r, rest)
      | _ => unexpected false none rest
  | _ => return none

/-- Reads the redirections after a compound command. -/
def redirections : Nat → Grammar (List Redirection)
  | 0, ts => return ([], ts)
  | n + 1, ts => do
    match ← redirection? ts with
    | some (r, ts) =>
      let (rs, ts) ← redirections n ts
      return (r :: rs, ts)
    | none => return ([], ts)

/-- Reads the assignments, words and redirections of a simple command. -/
def simple (line : Nat) : Nat → Grammar Command
  | 0, ts => unexpected true none ts
  | n + 1, ts => do
    match ← redirection? ts with
    | some (r, ts) =>
      match ← simple line n ts with
      | (.simple line assignments words rs, ts) => return (.simple line assignments words (r :: rs), ts)
      | other => return other
    | none =>
      match ts with
      | ⟨.word w, _⟩ :: ts =>
        match assignment? w, ← simple line n ts with
        | some a, (.simple line assignments words rs, ts) => return (.simple line (a :: assignments) words rs, ts)
        | none, (.simple line assignments words rs, ts) =>
          let others := assignments.map fun (name, v) => .literal (name ++ ['=']) false :: v
          return (.simple line [] (w :: others ++ words) rs, ts)
        | _, other => return other
      | ⟨.fault _, _⟩ :: _ => unexpected true none ts
      | _ => return (.simple line [] [] [], ts)

/-- The words of one case, which bars part. -/
def alternatives : Nat → Grammar (List Word)
  | 0, ts => unexpected false (some ")") ts
  | n + 1, ts =>
    match ts with
    | ⟨.word w, _⟩ :: ts =>
      if operator? ts == some "|" then do
        let (ws, ts) ← alternatives n (ts.drop 1)
        return (w :: ws, ts)
      else return ([w], ts)
    | _ => unexpected false (some ")") ts

/-! ## Commands -/

mutual

/-- Reads a list of commands within another command. -/
def list : Nat → Bool → Grammar Command
  | 0, _, ts => unexpected true none ts
  | n + 1, mayBeEmpty, ts =>
    let ts := skipNewlines ts
    if tokenName true ts == "end of file" || mayBeEmpty && endsList ts then return (.nothing, ts)
    else do
      let (c, ts) ← chain n ts
      match ts with
      | ⟨.operator "&", _⟩ :: ts =>
        let (d, ts) ← list n true ts
        return (.sequence (.background c) d, ts)
      | ⟨.operator ";", _⟩ :: ts | ⟨.newline, _⟩ :: ts =>
        let (d, ts) ← list n true ts
        return (.sequence c d, ts)
      | ts => return (c, ts)

/-- Reads commands joined by `&&` and `||`. -/
def chain : Nat → Grammar Command
  | 0, ts => unexpected true none ts
  | n + 1, ts => do
    let (c, ts) ← pipeline n ts
    chainRest n c ts

def chainRest : Nat → Command → Grammar Command
  | 0, _, ts => unexpected true none ts
  | n + 1, c, ts =>
    match ts with
    | ⟨.operator "&&", _⟩ :: ts => do
      let (d, ts) ← pipeline n (skipNewlines ts)
      chainRest n (.both c d) ts
    | ⟨.operator "||", _⟩ :: ts => do
      let (d, ts) ← pipeline n (skipNewlines ts)
      chainRest n (.either c d) ts
    | ts => return (c, ts)

def pipeline : Nat → Grammar Command
  | 0, ts => unexpected true none ts
  | n + 1, ts =>
    if keyword? ts == some "!" then do
      let (c, ts) ← pipes n (ts.drop 1)
      return (.negated c, ts)
    else pipes n ts

/-- Reads commands joined by bars. -/
def pipes : Nat → Grammar Command
  | 0, ts => unexpected true none ts
  | n + 1, ts => do
    let (c, ts) ← command n ts
    if operator? ts == some "|" then
      let (d, ts) ← pipes n (skipNewlines (ts.drop 1))
      return (.pipe c d, ts)
    else return (c, ts)

/-- Reads one command. -/
def command : Nat → Grammar Command
  | 0, ts => unexpected true none ts
  | n + 1, ts =>
    let line := (ts.head?.map Lexeme.line).getD 0
    let redirected (c : Command) (ts : List Lexeme) : Except SyntaxFault (Command × List Lexeme) := do
      let (rs, ts) ← redirections n ts
      return (if rs.isEmpty then c else .redirected line c rs, ts)
    match ts, keyword? ts with
    | _ :: ts, some "\x7b" => do
      let (c, ts) ← list n false ts
      redirected c (← passKeyword "\x7d" ts)
    | _ :: ts, some "if" => do
      let (c, ts) ← branches n ts
      redirected c ts
    | _ :: ts, some "while" => do
      let (c, ts) ← loop n false ts
      redirected c ts
    | _ :: ts, some "until" => do
      let (c, ts) ← loop n true ts
      redirected c ts
    | _ :: ts, some "for" => do
      let (c, ts) ← each n ts
      redirected c ts
    | _ :: ts, some "case" =>
      match ts with
      | ⟨.word subject, _⟩ :: ts => do
        let ts ← passKeyword "in" (skipNewlines ts)
        let (cs, ts) ← cases n ts
        redirected (.choice subject cs) ts
      | ts => unexpected false none ts
    | ts, some _ => unexpected true none ts
    | ⟨.operator "(", _⟩ :: ts, none => do
      let (c, ts) ← list n false ts
      redirected (.subshell c) (← passOperator true ")" ts)
    | ⟨.word w, _⟩ :: ⟨.operator "(", line'⟩ :: ts, none => do
      if (assignment? w).isSome then unexpected true none (⟨.operator "(", line'⟩ :: ts)
      let ts ← passOperator false ")" ts
      let name := match w with
        | [.literal s false] => s
        | _ => []
      if isName name && !specialNames.contains (String.ofList name) then
        let (body, ts) ← command n (skipNewlines ts)
        return (.define name body, ts)
      else throw ⟨line, "Bad function name"⟩
    | ts, none => do
      match ts with
      | ⟨.word _, _⟩ :: _ | ⟨.descriptor _, _⟩ :: _ => simple line (ts.length + 1) ts
      | ⟨.operator o, _⟩ :: _ => if isRedirection o then simple line (ts.length + 1) ts else unexpected true none ts
      | _ => unexpected true none ts

/-- Reads a condition, a branch and what else there is, up to the end. -/
def branches : Nat → Grammar Command
  | 0, ts => unexpected true none ts
  | n + 1, ts => do
    let (condition, ts) ← list n false ts
    let (yes, ts) ← list n false (← passKeyword "then" ts)
    match keyword? ts with
    | some "elif" =>
      let (no, ts) ← branches n (ts.drop 1)
      return (.branch condition yes (some no), ts)
    | some "else" =>
      let (no, ts) ← list n false (ts.drop 1)
      return (.branch condition yes (some no), ← passKeyword "fi" ts)
    | _ => return (.branch condition yes none, ← passKeyword "fi" ts)

def loop : Nat → Bool → Grammar Command
  | 0, _, ts => unexpected true none ts
  | n + 1, inverted, ts => do
    let (condition, ts) ← list n false ts
    let (body, ts) ← list n false (← passKeyword "do" ts)
    return (.loop inverted condition body, ← passKeyword "done" ts)

def each : Nat → Grammar Command
  | 0, ts => unexpected true none ts
  | n + 1, ts => do
    let line := (ts.head?.map Lexeme.line).getD 0
    let ⟨.word [.literal name false], _⟩ :: ts := ts | throw ⟨line, "Bad for loop variable"⟩
    if !isName name then throw ⟨line, "Bad for loop variable"⟩
    let ts := skipNewlines ts
    let (values, ts) ← if keyword? ts == some "in" then
        let (ws, ts) := words (ts.drop 1)
        match ts with
        | ⟨.operator ";", _⟩ :: ts | ⟨.newline, _⟩ :: ts => pure (ws, ts)
        | ts => unexpected false none ts
      else pure ([[.parameter ['@'] .value true]], if operator? ts == some ";" then ts.drop 1 else ts)
    let (body, ts) ← list n false (← passKeyword "do" (skipNewlines ts))
    return (.each name values body, ← passKeyword "done" ts)

/-- Reads cases up to the end of a choice. -/
def cases : Nat → Grammar (List (List Word × Command))
  | 0, ts => unexpected true none ts
  | n + 1, ts =>
    let ts := skipNewlines ts
    if keyword? ts == some "esac" then return ([], ts.drop 1)
    else do
      let (ws, ts) ← alternatives (ts.length + 1) (if operator? ts == some "(" then ts.drop 1 else ts)
      let (body, ts) ← list n true (← passOperator false ")" ts)
      let ts := skipNewlines ts
      if keyword? ts == some "esac" then return ([(ws, body)], ts.drop 1)
      else
        let (others, ts) ← cases n (← passOperator true ";;" ts)
        return ((ws, body) :: others, ts)

end

/-- Reads the commands of one line. -/
def line : Nat → Grammar Command
  | 0, ts => unexpected true none ts
  | n + 1, ts =>
    match ts with
    | ⟨.newline, _⟩ :: ts => return (.nothing, ts)
    | ⟨.finish, _⟩ :: _ => return (.nothing, ts)
    | ts => do
      let (c, ts) ← chain n ts
      match ts with
      | ⟨.operator "&", _⟩ :: ts =>
        let (d, ts) ← line n ts
        return (.sequence (.background c) d, ts)
      | ⟨.operator ";", _⟩ :: ts =>
        let (d, ts) ← line n ts
        return (.sequence c d, ts)
      | ⟨.newline, _⟩ :: ts => return (c, ts)
      | ⟨.finish, _⟩ :: _ => return (c, ts)
      | ts => unexpected true none ts

end Grammar

/-! ## Scripts -/

/-- The lines of a script up to one that is broken, and what is wrong there. -/
structure Script where
  lines : List Command
  fault : Option SyntaxFault

def scriptLines : Nat → List Lexeme → Script
  | 0, _ => ⟨[], none⟩
  | n + 1, ts =>
    if Grammar.tokenName true ts == "end of file" then
      match ts with
      | ⟨.fault text, line⟩ :: _ => ⟨[], some ⟨line, text⟩⟩
      | _ => ⟨[], none⟩
    else match Grammar.line (8 * ts.length + 8) ts with
      | .ok (c, rest) => let s := scriptLines n rest; { s with lines := c :: s.lines }
      | .error fault => ⟨[], some fault⟩

/-- Reads a script that begins in the given line. -/
def Script.ofText (line : Nat) (text : List Char) : Script :=
  let ts := Lexeme.ofText line text
  scriptLines (ts.length + 1) ts

end DeltaLint.Sandbox.Shell

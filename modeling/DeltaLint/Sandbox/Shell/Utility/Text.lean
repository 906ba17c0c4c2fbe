import DeltaLint.Sandbox.Shell.Grep
import DeltaLint.Sandbox.Shell.Printing
import DeltaLint.Sandbox.Shell.Test
import DeltaLint.Sandbox.Shell.Utility.Basic

/-
  DeltaLint.Sandbox.Shell.Utility.Text — programs that take texts apart: lines, words, sets of characters.
-/

namespace DeltaLint.Sandbox.Shell.Utility

open Run

def cat (name : List Char) (files : List (List Char)) : Run Unit :=
  eachFile name files fun _ text => write 1 text

/-- The first lines of a text. -/
def firstLines : Nat → List Char → List Char
  | 0, _ => []
  | n + 1, text =>
    let line := text.takeWhile (· != '\n')
    match text.drop line.length with
    | _ :: rest => line ++ '\n' :: firstLines n rest
    | [] => line

def head (name : List Char) (arguments : List (List Char)) : Run Unit := do
  let (take, files) : (List Char → List Char) × List (List Char) := match arguments with
    | ['-', 'n'] :: n :: files => (firstLines ((Text.digits? 10 n).getD 0), files)
    | ['-', 'c'] :: n :: files => (List.take ((Text.digits? 10 n).getD 0), files)
    | ('-' :: 'n' :: n) :: files => (firstLines ((Text.digits? 10 n).getD 0), files)
    | ('-' :: 'c' :: n) :: files => (List.take ((Text.digits? 10 n).getD 0), files)
    | ('-' :: c :: n) :: files => (firstLines ((Text.digits? 10 (c :: n)).getD 0), files)
    | files => (firstLines 10, files)
  setStatus 0
  (if files.isEmpty then [['-']] else files).forM fun file => do
    match ← contents file with
    | .ok text =>
      if 1 < files.length then write 1 ("==> ".toList ++ file ++ " <==\n".toList)
      write 1 (take text)
    | .error fault =>
      warn name ("cannot open ".toList ++ quoted file ++ " for reading: ".toList ++ encoded (reason fault)) 1
def grep (name : List Char) (arguments : List (List Char)) : Run Unit := do
  let usage := "Usage: ".toList ++ name ++ " [OPTION]... PATTERNS [FILE]...\nTry '".toList ++ name ++
    " --help' for more information.\n".toList
  match Grep.settled? arguments with
  | .error c =>
    match c with
    | some c => write 2 (name ++ ": invalid option -- '".toList ++ [c, '\'', '\n'])
    | none => pure ()
    write 2 usage
    setStatus 2
  | .ok (o, files) =>
    match Grep.pattern? o with
    | none => warn name "Invalid regular expression".toList 2
    | some p =>
      let named := o.withName.getD (1 < files.length)
      let results ← (if files.isEmpty then [['-']] else files).mapM fun file => do
        match ← contents file with
        | .ok text =>
          let (out, any) := Grep.report o p named (if file = ['-'] then "(standard input)".toList else file) text
          write 1 out
          return some any
        | .error fault =>
          if !o.silent then warn name (file ++ ": ".toList ++ encoded (reason fault)) 2
          return none
      let any := results.contains (some true)
      setStatus (if any && (o.quiet || !results.contains none) then 0 else if results.contains none then 2 else 1)

/-- The last lines of a text. -/
def lastLines (n : Nat) (text : List Char) : List Char :=
  let ls := Grep.linesOf text
  let kept := ls.drop (ls.length - n)
  let ended := text.getLast? = some '\n'
  List.intercalate ['\n'] kept ++ (if ended && !kept.isEmpty then ['\n'] else [])

def tail (name : List Char) (arguments : List (List Char)) : Run Unit := do
  let number (n : List Char) := (Text.digits? 10 n).getD 0
  let fromLine (n : List Char) (text : List Char) : List Char :=
    ((Text.pieces '\n' text).drop (number n - 1)).intersperse ['\n'] |>.flatten
  let (take, files) : (List Char → List Char) × List (List Char) := match arguments with
    | ['-', 'n'] :: ('+' :: n) :: files => (fromLine n, files)
    | ['-', 'n'] :: n :: files => (lastLines (number n), files)
    | ['-', 'c'] :: n :: files => (fun text => text.drop (text.length - number n), files)
    | ('-' :: 'n' :: '+' :: n) :: files => (fromLine n, files)
    | ('-' :: 'n' :: n) :: files => (lastLines (number n), files)
    | ('-' :: c :: n) :: files => (lastLines (number (c :: n)), files)
    | files => (lastLines 10, files)
  eachFile name files fun _ text => write 1 (take text)
/-- Counts lines, words and bytes. -/
def wc (name : List Char) (arguments : List (List Char)) : Run Unit := do
  let (letters, files) := lettersAndOthers arguments
  let shown (lines words bytes : Nat) : List Nat :=
    if letters.isEmpty then [lines, words, bytes]
    else (if letters.contains 'l' then [lines] else []) ++ (if letters.contains 'w' then [words] else []) ++
      (if letters.contains 'c' || letters.contains 'm' then [bytes] else [])
  let padded (width n : Nat) : List Char := List.replicate (width - (Text.decimal n).length) ' ' ++ Text.decimal n
  eachFile name files fun file text => do
    let words := (text.splitBy fun a b => a.isWhitespace == b.isWhitespace).filter fun w => w.any (!·.isWhitespace)
    let ns := shown (text.filter (· == '\n')).length words.length text.length
    let width := if ns.length = 1 then 0 else if files.isEmpty then 7 else (Text.decimal text.length).length
    let label := if files.isEmpty then [] else ' ' :: file
    write 1 (List.intercalate [' '] (ns.map (padded width)) ++ label ++ ['\n'])

/-- The order of bytes. -/
def bytesBefore (a b : List Char) : Bool := compare (a.map Char.toNat) (b.map Char.toNat) != .gt

def sort (name : List Char) (arguments : List (List Char)) : Run Unit := do
  let (letters, files) := lettersAndOthers arguments
  setStatus 0
  let texts ← (if files.isEmpty then [['-']] else files).mapM fun file => do
    match ← contents file with
    | .ok text => return Grep.linesOf text
    | .error fault =>
      warn name ("cannot read: ".toList ++ file ++ ": ".toList ++ encoded (reason fault)) 2
      return []
  let number (l : List Char) : Int := (integer? (l.takeWhile fun c => c == ' ' || c == '-' || c.isDigit)).getD 0
  let before (a b : List Char) : Bool :=
    if letters.contains 'n' && number a != number b then number a < number b else bytesBefore a b
  let sorted := texts.flatten.mergeSort before
  let sorted := if letters.contains 'r' then sorted.reverse else sorted
  let sorted := if letters.contains 'u' then sorted.eraseDups else sorted
  if (← process).status = 0 then write 1 (sorted.flatMap (· ++ ['\n']))

/-- The characters that a set of `tr` lists, in order. `n` bounds how many steps it takes to read it. -/
def listed : Nat → List Char → List Char
  | n + 1, '[' :: ':' :: rest =>
    let called := rest.takeWhile (· != ':')
    match (Glob.named.lookup (String.ofList called)), rest.drop called.length with
    | some ranges, ':' :: ']' :: rest => (ranges.flatMap fun (a, b) => charactersFrom a b) ++ listed n rest
    | _, _ => '[' :: listed n (':' :: rest)
  | n + 1, '\\' :: c :: rest => (plainEscape? c).getD c :: listed n rest
  | n + 1, a :: '-' :: b :: rest => charactersFrom a b ++ listed n rest
  | n + 1, c :: rest => c :: listed n rest
  | _, _ => []
where
  charactersFrom (a b : Char) : List Char := (List.range (b.toNat + 1 - a.toNat)).map fun i => Char.ofNat (a.toNat + i)

/-- Of equal characters in a row that are among the given ones, one is kept. -/
def squeeze (among text : List Char) : List Char :=
  (text.splitBy fun a b => a == b && among.contains a).flatMap (·.take 1)

def tr (name : List Char) (arguments : List (List Char)) : Run Unit := do
  let (letters, sets) : List Char × List (List Char) := match arguments with
    | ('-' :: c :: cs) :: sets => (c :: cs, sets)
    | sets => ([], sets)
  let set (i : Nat) : List Char := let text := sets[i]?.getD []; listed (text.length + 1) text
  let complement (cs : List Char) : List Char :=
    if letters.contains 'c' then ((List.range 256).map Char.ofNat).filter (!cs.contains ·) else cs
  let first := complement (set 0)
  let text ← takeInput
  let moved : List Char := if letters.contains 'd' then text.filter (!first.contains ·) else
    match set 1 with
    | [] => text
    | c :: cs =>
      let last := (c :: cs).getLastD c
      text.map fun d => if first.contains d then (c :: cs)[first.idxOf d]?.getD last else d
  let squeezed := if sets.length = 1 then first else set 1
  let out := if letters.contains 's' then squeeze squeezed moved else moved
  if sets.isEmpty then warn name ("missing operand".toList ++ seeHelp name) 1
  else
    write 1 out
    setStatus 0

end DeltaLint.Sandbox.Shell.Utility

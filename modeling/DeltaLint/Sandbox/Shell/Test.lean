import DeltaLint.Sandbox.Tree
import DeltaLint.Text.Digits

/-
  DeltaLint.Sandbox.Shell.Test — the conditions of `test`.

  A condition is a primary, or conditions joined by `!`, `-a`, `-o` and parentheses. Where there are
  three arguments with a binary operator in the middle, that is the condition whatever the others look
  like. A word that could be an operator counts as text where it has nothing to operate on.
-/

namespace DeltaLint.Sandbox.Shell

/-- An integer with a sign or without, blanks around it. -/
def integer? (text : List Char) : Option Int :=
  let text := ((text.dropWhile Char.isWhitespace).reverse.dropWhile Char.isWhitespace).reverse
  match text with
  | '-' :: ds => (Text.digits? 10 ds).map fun n => -(n : Int)
  | '+' :: ds => (Text.digits? 10 ds).map Int.ofNat
  | ds => (Text.digits? 10 ds).map Int.ofNat

namespace Test

/-- What a condition asks about files. -/
structure Files where
  tree : Tree
  directory : String
  path : List Char → String

namespace Files

def node? (f : Files) (path : List Char) : Option Node := (f.tree.find f.directory (f.path path)).toOption

end Files

/-- The answer to a unary operator. -/
def unary? (f : Files) (operator : String) : Option (List Char → Bool) :=
  match operator with
  | "-z" => some fun a => a.isEmpty
  | "-n" => some fun a => !a.isEmpty
  | "-e" | "-r" | "-w" | "-O" | "-G" => some fun a => (f.node? a).isSome
  | "-c" => some fun a => f.node? a == some .null
  | "-f" => some fun a => match f.node? a with | some (.file ..) | some (.program _) => true | _ => false
  | "-d" => some fun a => f.node? a == some .directory
  | "-x" => some fun a => match f.node? a with | some (.file _ x) => x | some .null => false | n => n.isSome
  | "-s" => some fun a => match f.node? a with | some (.file bytes _) => !bytes.isEmpty | some .null => false | n => n.isSome
  | "-h" | "-L" => some fun a => f.tree.isLink f.directory (f.path a)
  | "-k" => some fun a => (f.tree.resolve f.directory (f.path a)).toOption == some ["tmp"]
  | "-b" | "-g" | "-p" | "-S" | "-t" | "-u" => some fun _ => false
  | _ => none

/-- The answer to a binary operator, or the text that should be a number. Of two files none is newer. -/
def binary? (f : Files) (operator : String) : Option (List Char → List Char → Except (List Char) Bool) :=
  let numbers (r : Int → Int → Bool) (a b : List Char) : Except (List Char) Bool :=
    match integer? a, integer? b with
    | some x, some y => return r x y
    | some _, none => throw b
    | none, _ => throw a
  let order (a b : List Char) : Ordering := compare (a.map Char.toNat) (b.map Char.toNat)
  match operator with
  | "=" => some fun a b => return a == b
  | "!=" => some fun a b => return a != b
  | "<" => some fun a b => return order a b == .lt
  | ">" => some fun a b => return order a b == .gt
  | "-eq" => some (numbers fun x y => x == y)
  | "-ne" => some (numbers fun x y => x != y)
  | "-lt" => some (numbers fun x y => x < y)
  | "-le" => some (numbers fun x y => x ≤ y)
  | "-gt" => some (numbers fun x y => y < x)
  | "-ge" => some (numbers fun x y => y ≤ x)
  | "-nt" | "-ot" => some fun _ _ => return false
  | "-ef" => some fun a b =>
    return match f.tree.resolve f.directory (f.path a), f.tree.resolve f.directory (f.path b) with
      | .ok x, .ok y => x == y
      | _, _ => false
  | _ => none

def isBinary (f : Files) (a : List Char) : Bool := (binary? f (String.ofList a)).isSome

/-- A reader of conditions: the answer and the arguments that are left, or the complaint. -/
abbrev Answer := Except (List Char) (Bool × List (List Char))

/-- Whether a unary operator is only text before the given arguments. -/
def isText (f : Files) : List (List Char) → Bool
  | [] => true
  | [_] => false
  | b :: c :: _ => isBinary f b && c != [')']

/-- Two operands and what is between them. -/
def compared (f : Files) (a operator : List Char) (rest : List (List Char)) : Answer :=
  match rest with
  | [] => throw (operator ++ ": argument expected".toList)
  | b :: rest =>
    match binary? f (String.ofList operator) with
    | some r =>
      match r a b with
      | .ok x => return (x, rest)
      | .error text => throw ("Illegal number: ".toList ++ text)
    | none => return (false, rest)

/-- A comparison, or else a text that is there or not. -/
def comparedOrText (f : Files) (a : List Char) (rest : List (List Char)) : Answer :=
  match rest with
  | o :: others => if isBinary f o then compared f a o others else return (!a.isEmpty, rest)
  | [] => return (!a.isEmpty, [])

mutual

def either (f : Files) : Nat → List (List Char) → Answer
  | 0, as => return (false, as)
  | n + 1, as => do
    let (x, as) ← both f n as
    match as with
    | ['-', 'o'] :: as =>
      let (y, as) ← either f n as
      return (x || y, as)
    | as => return (x, as)

def both (f : Files) : Nat → List (List Char) → Answer
  | 0, as => return (false, as)
  | n + 1, as => do
    let (x, as) ← negation f n as
    match as with
    | ['-', 'a'] :: as =>
      let (y, as) ← both f n as
      return (x && y, as)
    | as => return (x, as)

def negation (f : Files) : Nat → List (List Char) → Answer
  | 0, as => return (false, as)
  | n + 1, as =>
    match as with
    | ['!'] :: as => do
      let (x, as) ← negation f n as
      return (!x, as)
    | as => primary f n as

def primary (f : Files) : Nat → List (List Char) → Answer
  | 0, as => return (false, as)
  | n + 1, as =>
    match as with
    | [] => return (false, [])
    | ['('] :: b :: rest =>
      if b = [')'] then return (false, rest)
      else do
        let (x, as) ← either f n (b :: rest)
        match as with
        | [')'] :: as => return (x, as)
        | _ => throw "closing paren expected".toList
    | a :: rest =>
      match unary? f (String.ofList a), rest with
      | some answer, b :: others => if isText f rest then comparedOrText f a rest else return (answer b, others)
      | _, _ => comparedOrText f a rest

end

/-- The answer to all arguments, or the complaint. -/
def answer (f : Files) (arguments : List (List Char)) : Except (List Char) Bool :=
  let general (as : List (List Char)) : Except (List Char) Bool := do
    let (x, rest) ← either f (4 * as.length + 4) as
    if rest.isEmpty then return x
    else throw ((as[as.length - rest.length - 1]?.getD []) ++ ": unexpected operator".toList)
  match arguments with
  | [] => return false
  | [a, o, b] =>
    if isBinary f o then (compared f a o [b]).map Prod.fst
    else if a = ['('] && b = [')'] then general [o]
    else if a = ['!'] then (answer f [o, b]).map (!·)
    else general arguments
  | [a, b, c, d] =>
    if a = ['('] && d = [')'] then general [b, c]
    else if a = ['!'] then (answer f [b, c, d]).map (!·)
    else general arguments
  | as => general as

end Test

end DeltaLint.Sandbox.Shell

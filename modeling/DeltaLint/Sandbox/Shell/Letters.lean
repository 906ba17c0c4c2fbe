/-
  DeltaLint.Sandbox.Shell.Letters — the options that commands are given as letters after a hyphen.

  Letters end before the first argument that is none, or after one of two hyphens. A letter may ask for an
  argument of its own, which is what comes after it, or else the next argument.
-/

namespace DeltaLint.Sandbox.Shell

/-- What a command was given: its letters, the arguments that they asked for, and what comes after them. -/
structure Given where
  letters : List Char
  values : List (List Char)
  operands : List (List Char)
  deriving DecidableEq, Repr

/-- Why the letters of a command are refused. -/
inductive LetterFault where
  | unknown (c : Char)
  | noArgument (c : Char)
  deriving DecidableEq, Repr

def LetterFault.message : LetterFault → List Char
  | .unknown c => "Illegal option -".toList ++ [c]
  | .noArgument c => "No arg for -".toList ++ [c] ++ " option".toList

namespace Given

/-- Reads the letters of one argument, and says whether the last one takes the next argument. -/
def cluster (plain taking : List Char) : List Char → Except LetterFault (List Char × List (List Char) × Option Char)
  | [] => return ([], [], none)
  | c :: rest =>
    if plain.contains c then do
      let (letters, values, open?) ← cluster plain taking rest
      return (c :: letters, values, open?)
    else if !taking.contains c then throw (.unknown c)
    else if rest.isEmpty then return ([c], [], some c)
    else return ([c], [rest], none)

/-- Reads the arguments of a command that knows some letters, with an argument or without. -/
def read (plain taking : List Char) : List (List Char) → Except LetterFault Given
  | ['-', '-'] :: rest => return ⟨[], [], rest⟩
  | ('-' :: c :: cs) :: rest => do
    match ← cluster plain taking (c :: cs), rest with
    | (letters, values, none), rest =>
      let g ← read plain taking rest
      return ⟨letters ++ g.letters, values ++ g.values, g.operands⟩
    | (letters, _, some _), value :: rest =>
      let g ← read plain taking rest
      return ⟨letters ++ g.letters, value :: g.values, g.operands⟩
    | (_, _, some c), [] => throw (.noArgument c)
  | rest => return ⟨[], [], rest⟩

end Given

/-! ## Options of the shell -/

/-- The options of the shell: their names and letters. Two have no letter. -/
def shellOptionNames : List (String × Char) :=
  [("errexit", 'e'), ("noglob", 'f'), ("ignoreeof", 'I'), ("interactive", 'i'), ("monitor", 'm'), ("noexec", 'n'),
    ("stdin", 's'), ("xtrace", 'x'), ("verbose", 'v'), ("vi", 'V'), ("emacs", 'E'), ("noclobber", 'C'), ("allexport", 'a'),
    ("notify", 'b'), ("nounset", 'u'), ("privileged", 'p'), ("nolog", '\x01'), ("debug", '\x02')]

/-- What an argument of `set` asks for. -/
inductive Setting where
  | letter (on : Bool) (c : Char)
  | named (on : Bool) (name : List Char)
  /-- The list of all options is written. -/
  | listing (on : Bool)
  /-- Nothing is written any more about what is run. -/
  | quiet
  /-- There are no arguments any more. -/
  | noArguments
  deriving DecidableEq, Repr

namespace Setting

/-- Reads the letters of one argument. Each `o` takes a name from what comes after it. -/
def cluster (on : Bool) : List Char → List (List Char) → List Setting × List (List Char)
  | [], rest => ([], rest)
  | 'o' :: cs, name :: rest => let (ss, rest) := cluster on cs rest; (.named on name :: ss, rest)
  | 'o' :: cs, [] => let (ss, rest) := cluster on cs []; (.listing on :: ss, rest)
  | c :: cs, rest => let (ss, rest) := cluster on cs rest; (.letter on c :: ss, rest)

theorem cluster_le (on : Bool) (cs : List Char) (rest : List (List Char)) :
    (cluster on cs rest).2.length ≤ rest.length := by
  fun_induction cluster on cs rest with
  | case1 rest => exact Nat.le_refl _
  | case2 cs name rest ss rest' h ih =>
    rw [h] at ih
    exact Nat.le_succ_of_le ih
  | case3 cs ss rest' h ih =>
    rw [h] at ih
    exact ih
  | case4 c cs rest _ _ ss rest' h ih =>
    rw [h] at ih
    exact ih

/-- The settings among arguments, and the arguments after them. A shell that is started reads its own arguments in the
same way, but for a hyphen alone, and two of them, which only end the settings. -/
def read (starting : Bool) : List (List Char) → List Setting × List (List Char)
  | ['-'] :: rest => (if starting then [] else [.quiet], rest)
  | ['-', '-'] :: rest => (if starting || !rest.isEmpty then [] else [.noArguments], rest)
  | (sign :: cs) :: rest =>
    if sign = '-' || sign = '+' then
      let first := cluster (sign == '-') cs rest
      let (ss, rest) := read starting first.2
      (first.1 ++ ss, rest)
    else ([], (sign :: cs) :: rest)
  | rest => ([], rest)
termination_by arguments => arguments.length
decreasing_by exact Nat.lt_succ_of_le (cluster_le (sign == '-') cs rest)

end Setting

end DeltaLint.Sandbox.Shell

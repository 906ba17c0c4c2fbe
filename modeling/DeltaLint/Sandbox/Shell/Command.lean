/-
  DeltaLint.Sandbox.Shell.Command — commands of the shell and the words that they are made of.

  The shell works on bytes. Here a byte is the character with its number, so that scripts can be read
  as text. A word is a list of parts; what comes of a part stays in one field where the part was quoted.
  What stands in a substitution is kept as text, since it is read when it is run.
-/

namespace DeltaLint.Sandbox.Shell

mutual

inductive Part where
  | literal (text : List Char) (quoted : Bool)
  | parameter (name : List Char) (use : Use) (quoted : Bool)
  | length (name : List Char)
  | arithmetic (expression : List Part) (quoted : Bool)
  /-- What a script writes, and the line that it begins in. -/
  | output (script : List Char) (line : Nat) (quoted : Bool)

/-- What is done with the value of a parameter. With `orEmpty` an empty value counts as none. -/
inductive Use where
  | value
  | fallback (orEmpty : Bool) (word : List Part)
  | assigned (orEmpty : Bool) (word : List Part)
  | required (orEmpty : Bool) (word : List Part)
  | alternative (orEmpty : Bool) (word : List Part)
  /-- The value without what matches at one of its ends. -/
  | without (atEnd longest : Bool) (glob : List Part)
  /-- Something that cannot be done. -/
  | bad

end

abbrev Word := List Part

/-- What is done with a file that is written: it begins anew, if that is allowed or anyway, or goes on. -/
inductive Writing where
  | anew
  | anyway
  | further
  deriving DecidableEq, Repr

inductive Redirection where
  | input (descriptor : Nat) (file : Word)
  | output (descriptor : Nat) (writing : Writing) (file : Word)
  /-- A file that is read, and made first where it is not there. -/
  | made (descriptor : Nat) (file : Word)
  | copy (descriptor : Nat) (source : Word)
  /-- A text that stands in the script itself. -/
  | document (descriptor : Nat) (text : Word)

inductive Command where
  /-- Does nothing and keeps the status. -/
  | nothing
  /-- Sets variables and runs what the words name. -/
  | simple (line : Nat) (assignments : List (List Char × Word)) (words : List Word) (redirections : List Redirection)
  | pipe (first second : Command)
  | negated (c : Command)
  | both (first second : Command)
  | either (first second : Command)
  | sequence (first second : Command)
  | background (c : Command)
  | subshell (c : Command)
  | redirected (line : Nat) (c : Command) (redirections : List Redirection)
  | branch (condition yes : Command) (no : Option Command)
  /-- Runs `body` as long as `condition` succeeds, or fails when it is `inverted`. -/
  | loop (inverted : Bool) (condition body : Command)
  | each (name : List Char) (words : List Word) (body : Command)
  | choice (subject : Word) (cases : List (List Word × Command))
  | define (name : List Char) (body : Command)

instance : Inhabited Command := ⟨.nothing⟩

end DeltaLint.Sandbox.Shell

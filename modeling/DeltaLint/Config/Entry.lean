import DeltaLint.LineFilter
import DeltaLint.Linter

/-
  DeltaLint.Config.Entry — the entry of a configuration that describes one linter.

  The fields are read in the order of the document; the first that does not fit is the one reported,
  and after them the first of the required fields that is missing. Fields of other names are passed
  over. A list may be left empty by writing nothing, and the hint too.
-/

namespace DeltaLint.Config

open Yaml (Value)

structure Entry where
  extensions : List String
  command : String
  arguments : List String
  filter : String
  installation : Option String
  deriving DecidableEq, Repr

/-- The fields read so far. -/
structure Draft where
  extensions : Option (List String)
  command : Option String
  arguments : Option (List String)
  filter : Option String
  installation : Option (Option String)
  deriving DecidableEq, Repr

def text (v : Value) : Except EntryFault String :=
  match v.string? with
  | some s => .ok (String.ofList s)
  | none => .error (.wrongType v "a string")

def texts (v : Value) : Except EntryFault (List String) :=
  match v.untagged with
  | .sequence items => items.mapM text
  | .null => .ok []
  | _ => .error (.wrongType v "a sequence")

def optionalText (v : Value) : Except EntryFault (Option String) :=
  match v with
  | .null => .ok none
  | v => (text v).map some

/-- Sets a field that must not have been set before. -/
def once {α : Type} (name : String) (known : Option α) (read : Except EntryFault α) : Except EntryFault (Option α) :=
  if known.isSome then .error (.duplicateField name) else read.map some

namespace Draft

def empty : Draft := ⟨none, none, none, none, none⟩

def setField (d : Draft) (name : String) (v : Value) : Except EntryFault Draft :=
  match name with
  | "extensions" => (once name d.extensions (texts v)).map ({ d with extensions := · })
  | "command" => (once name d.command (text v)).map ({ d with command := · })
  | "arguments" => (once name d.arguments (texts v)).map ({ d with arguments := · })
  | "filter" => (once name d.filter (text v)).map ({ d with filter := · })
  | "installation" => (once name d.installation (optionalText v)).map ({ d with installation := · })
  | _ => .ok d

/-- Reads one key with its value. -/
def read (d : Draft) (pair : Value × Value) : Except EntryFault Draft :=
  match pair.1.string? with
  | some name => d.setField (String.ofList name) pair.2
  | none => .error (.wrongType pair.1 "field identifier")

def finish (d : Draft) : Except EntryFault Entry := do
  let some extensions := d.extensions | throw (.missingField "extensions")
  let some command := d.command | throw (.missingField "command")
  let some filter := d.filter | throw (.missingField "filter")
  return ⟨extensions, command, d.arguments.getD [], filter, d.installation.getD none⟩

end Draft

/-- The entry that a value describes. -/
def Entry.ofValue (v : Value) : Except EntryFault Entry :=
  match v.untagged with
  | .mapping pairs => do (← pairs.foldlM Draft.read .empty).finish
  | .null => Draft.empty.finish
  | _ => .error (.wrongType v "struct LinterEntry")

namespace Entry

/-- What keeps the entry from being used, the first of the checks that fails. The filter is tried on two lines. -/
def check (name : String) (e : Entry) : Except Failure Unit := do
  if (Unicode.trim e.command.toList).isEmpty then throw (.config (.emptyCommand name))
  if e.extensions.isEmpty then throw (.config (.noExtensions name))
  if let some extension := e.extensions.find? (·.toList.head? != some '.') then
    throw (.config (.badExtension name extension))
  let found := LineFilter.placeholders e.filter
  if found != 1 then throw (.config (.placeholderCount name found))
  discard (LineFilter.pattern e.filter [1, 2])

def linter (name : String) (e : Entry) : Linter := ⟨name, e.command, e.arguments, e.filter, e.installation⟩

end Entry

end DeltaLint.Config

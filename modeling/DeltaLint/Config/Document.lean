import DeltaLint.Config.Entry
import DeltaLint.Yaml.Document

/-
  DeltaLint.Config.Document — a registry from the text of a configuration.

  The text is a mapping from the names of linters to their entries. The entries are taken in order, and
  the first one with a fault is reported. A text of white space alone is an empty configuration.
-/

namespace DeltaLint.Config

open Yaml (Value)

/-- The entry under a key, checked, with the name that the key gives it. -/
def namedEntry (key value : Value) : Except Failure (String × Entry) := do
  let some name := key.string? | throw (.config (.nameNotText key))
  let name := String.ofList name
  let e ← (Entry.ofValue value).mapError (.configParse ∘ .entry)
  e.check name
  return (name, e)

/-- The registry with the linter under each extension of its entry. -/
def addEntry (r : Registry) (name : String) (e : Entry) : Registry :=
  e.extensions.foldl (fun r extension => r.add extension (e.linter name)) r

/-- The registry that a mapping describes. -/
def ofEntries (entries : List (Value × Value)) : Except Failure Registry :=
  entries.foldlM (fun r (key, value) => do
    let (name, e) ← namedEntry key value
    return addEntry r name e) Registry.empty

/-- The registry that a text describes. -/
def ofText (text : String) : Except Failure Registry :=
  if (Unicode.trim text.toList).isEmpty then .ok .empty
  else do
    let entries ← (Yaml.Document.entries text.toList).mapError (.configParse ∘ .document)
    ofEntries entries

end DeltaLint.Config

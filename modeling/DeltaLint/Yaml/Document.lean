import DeltaLint.Yaml.Node
import DeltaLint.Yaml.Value

/-
  DeltaLint.Yaml.Document — the mapping that a text holds.

  A text holds one document, whose root is a mapping or is left out. An alias stands for a copy of the
  node with its anchor; copying is bounded, so that few aliases cannot stand for an endless value.
  Within a mapping no key comes twice. Collections nest at most 128 deep.
-/

namespace DeltaLint.Yaml

/-! ## Nodes by anchor -/

namespace Node

mutual

/-- How many marks a node is written with: one for a scalar or alias, two for the ends of a collection. -/
def weight : Node → Nat
  | scalar .. => 1
  | reference _ => 1
  | sequence _ items => 2 + weights items
  | mapping _ entries => 2 + weightsOfPairs entries

def weights : List Node → Nat
  | [] => 0
  | n :: r => weight n + weights r

def weightsOfPairs : List (Node × Node) → Nat
  | [] => 0
  | (k, v) :: r => weight k + weight v + weightsOfPairs r

end

def marks : Node → Marks
  | scalar m .. => m
  | sequence m _ => m
  | mapping m _ => m
  | reference _ => .none

/-- The node itself, if it has an anchor. -/
def ownAnchor (n : Node) : List (Nat × Node) := (n.marks.anchor.map (·, n)).toList

mutual

/-- The nodes with an anchor, in the order of the text. -/
def anchored : Node → List (Nat × Node)
  | scalar m text plain => ownAnchor (scalar m text plain)
  | reference _ => []
  | sequence m items => ownAnchor (sequence m items) ++ anchoredItems items
  | mapping m entries => ownAnchor (mapping m entries) ++ anchoredPairs entries

def anchoredItems : List Node → List (Nat × Node)
  | [] => []
  | n :: r => anchored n ++ anchoredItems r

def anchoredPairs : List (Node × Node) → List (Nat × Node)
  | [] => []
  | (k, v) :: r => anchored k ++ (anchored v ++ anchoredPairs r)

end

end Node

/-! ## Keys -/

/-- Two keys are one when they have the same identity: the order of entries does not count, and neither does the sign
of a zero. -/
def Value.identity : Value → String
  | .null => "null"
  | .bool b => s!"bool {b}"
  | .number (.int n) => s!"int {n}"
  | .number (.float bits) =>
    if Text.Shortest.isZero bits then "float 0" else if Text.Shortest.isNaN bits then "float nan" else s!"float {bits}"
  | .string s => "string " ++ String.ofList (shownString s)
  | .sequence items => "[" ++ String.join (identities items) ++ "]"
  | .mapping entries => "\x7b" ++ String.join ((pairIdentities entries).mergeSort (· ≤ ·)) ++ "\x7d"
  | .tagged t v => "!" ++ String.ofList t ++ " " ++ identity v
where
  identities : List Value → List String
    | [] => []
    | v :: r => (identity v ++ ",") :: identities r
  pairIdentities : List (Value × Value) → List String
    | [] => []
    | (k, v) :: r => (identity k ++ ":" ++ identity v ++ ",") :: pairIdentities r

/-! ## Values -/

/-- The nodes by anchor, the last of a number first, and how many aliases may be followed. -/
structure Anchors where
  nodes : List (Nat × Node)
  limit : Nat

/-- Counts the aliases followed. -/
abbrev Follow := StateT Nat (Except Fault)

/-- The node that is meant: the one itself, or the one that its alias stands for. -/
def Anchors.follow (a : Anchors) (n : Node) : Follow Node :=
  match n with
  | .reference id => do
    modify (· + 1)
    if a.limit < (← get) then throw .tooManyAliases
    match a.nodes.lookup id with
    | some n => return n
    | none => throw .unknownAnchor
  | n => return n

def coreTag (name : String) : List Char := "tag:yaml.org,2002:".toList ++ name.toList

/-- The name of a tag of the document's own, from what follows its first exclamation mark. A lone mark is its own name. -/
def ownName (name : List Char) : List Char := if name.isEmpty then ['!'] else name

/-- The value of a scalar. A tag of the document's own leaves the scalar to be read by its spelling. -/
def scalarValue (tag : Option (List Char)) (text : List Char) (plain : Bool) : Except Fault Value := do
  let bySpelling : Except Fault Value :=
    if plain then
      match Value.ofPlain? text with
      | some v => .ok v
      | none => .error .numberTooLarge
    else .ok (.string text)
  match tag with
  | none => bySpelling
  | some ('!' :: name) => return .tagged (ownName name) (← bySpelling)
  | some tag =>
    if tag = coreTag "bool" then
      match bool? (String.ofList text) with
      | some b => return .bool b
      | none => throw .invalidScalar
    else if tag = coreTag "int" then
      match integer? text with
      | some (.fits n) => return .number (.int n)
      | _ => throw .invalidScalar
    else if tag = coreTag "float" then
      match float? text with
      | some bits => return .number (.float bits)
      | none => throw .invalidScalar
    else if tag = coreTag "null" then
      if isNull (String.ofList text) then return .null else throw .invalidScalar
    else return .string text

/-- Puts a tag of the document's own around the value of a collection. -/
def withTag (tag : Option (List Char)) (v : Value) : Value :=
  match tag with
  | some ('!' :: name) => .tagged (ownName name) v
  | _ => v

/-- The entries of a mapping, read in order. No key comes twice. -/
def entryValues (value : Node → Follow Value) (entries : List (Node × Node)) : Follow (List (Value × Value)) := do
  let read ← entries.foldlM (fun (seen : List (String × Value × Value)) (k, v) => do
    let key ← value k
    let id := key.identity
    if seen.any (·.1 == id) then throw .duplicateKey
    return (id, key, ← value v) :: seen) []
  return read.reverse.map (·.2)

/-- The value of a node in which collections may nest `depth` deep. -/
def Anchors.value (a : Anchors) : Nat → Node → Follow Value
  | depth, n => do
    match ← a.follow n with
    | .scalar m text plain => scalarValue m.tag text plain
    | .sequence m items =>
      match depth with
      | 0 => throw .tooDeep
      | d + 1 => return withTag m.tag (.sequence (← items.mapM (a.value d)))
    | .mapping m entries =>
      match depth with
      | 0 => throw .tooDeep
      | d + 1 => return withTag m.tag (.mapping (← entryValues (a.value d) entries))
    | .reference _ => throw .unknownAnchor

def depthLimit : Nat := 128

/-- The entries of the mapping at the root. -/
def rootEntries (root : Node) : Except Fault (List (Value × Value)) :=
  let a : Anchors := ⟨root.anchored.reverse, 100 * root.weight⟩
  match root with
  | .mapping _ entries => (entryValues (a.value (depthLimit - 1)) entries).run' 0
  | .scalar _ text plain => if text.isEmpty && plain then .ok [] else .error .notAMapping
  | _ => .error .notAMapping

/-- The entries of the mapping that the text holds, in order. -/
def Document.entries (text : List Char) : Except Fault (List (Value × Value)) := do
  let (tokens, fault) := Token.stream text
  let (root, rest) ← Parse.document.run ⟨tokens, fault, [], []⟩
  match root with
  | none => return []
  | some root =>
    let entries ← rootEntries root
    if (rest.tokens.dropWhile (· == .documentEnd)).head? = some .streamEnd then return entries
    throw .manyDocuments

end DeltaLint.Yaml

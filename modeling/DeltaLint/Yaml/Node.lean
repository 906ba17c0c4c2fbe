import DeltaLint.Yaml.Stream

/-
  DeltaLint.Yaml.Node — a document as a tree.

  A node may have an anchor, by which an alias further on stands for it, and a tag. Anchors are
  numbered by the names seen so far; where a name comes again its number is taken anew.
-/

namespace DeltaLint.Yaml

/-- What may stand before a node. -/
structure Marks where
  anchor : Option Nat
  tag : Option (List Char)
  deriving DecidableEq, Repr

def Marks.none : Marks := ⟨.none, .none⟩

inductive Node where
  | scalar (marks : Marks) (text : List Char) (plain : Bool)
  | sequence (marks : Marks) (items : List Node)
  | mapping (marks : Marks) (entries : List (Node × Node))
  | reference (anchor : Nat)
  deriving Repr

/-- The empty text, where a node is left out. -/
def Node.missing : Node := .scalar .none [] true

/-- What is left to read, the handles that tags may begin with, and the anchors by name. -/
structure Pending where
  tokens : List Token
  /-- What ended the tokens, if a fault did. -/
  fault : Option Fault
  handles : List (List Char × List Char)
  anchors : List (List Char × Nat)
  deriving DecidableEq, Repr

abbrev Parse := StateT Pending (Except Fault)

namespace Parse

/-- The next token. -/
def peek : Parse Token := do
  let s ← get
  match s.tokens with
  | t :: _ => return t
  | [] => throw (s.fault.getD .stringNotClosed)

def skip : Parse Unit := modify fun s => { s with tokens := s.tokens.drop 1 }

/-! ## Anchors and tags -/

/-- Gives a name the number of names seen so far. -/
def nameAnchor (name : List Char) : Parse Nat := do
  let s ← get
  let id := s.anchors.length
  set { s with anchors := (name, id) :: s.anchors.filter (·.1 != name) }
  return id

/-- A tag written out: what its handle stands for, and the suffix. -/
def resolveTag (handle suffix : List Char) : Parse (List Char) := do
  if handle.isEmpty then return suffix
  match (← get).handles.lookup handle with
  | some stem => return stem ++ suffix
  | none => throw .tag

/-- Reads an anchor and a tag, in either order, either of which may be missing. -/
def marks : Parse (Option (List Char) × Option (List Char)) := do
  match ← peek with
  | .anchor name =>
    skip
    match ← peek with
    | .tag handle suffix =>
      skip
      return (some name, some (← resolveTag handle suffix))
    | _ => return (some name, none)
  | .tag handle suffix =>
    skip
    match ← peek with
    | .anchor name =>
      skip
      return (some name, some (← resolveTag handle suffix))
    | _ => return (none, some (← resolveTag handle suffix))
  | _ => return (none, none)

def number (anchor : Option (List Char)) : Parse (Option Nat) :=
  match anchor with
  | some name => return some (← nameAnchor name)
  | none => return none

/-! ## Nodes -/

/-- Tokens that end a node of a block mapping before it has begun. -/
def endsPair : Token → Bool
  | .key | .value | .blockEnd => true
  | _ => false

mutual

/-- Reads a node. Blocks are open to it where `inBlock` holds, and a sequence without indentation of its own where
`flat` does. -/
def node : Nat → Bool → Bool → Parse Node
  | 0, _, _ => throw .tooDeep
  | n + 1, inBlock, flat => do
    if let .reference name ← peek then
      skip
      match (← get).anchors.lookup name with
      | some id => return .reference id
      | none => throw .unknownAnchor
    let (name, tag) ← marks
    match ← peek with
    | .entry =>
      if flat then
        let anchor ← number name
        return .sequence ⟨anchor, tag⟩ (← flatItems n)
      else leftOut name tag
    | .scalar text style =>
      skip
      return .scalar ⟨← number name, tag⟩ text (style == .plain)
    | .flowSequence =>
      skip
      let anchor ← number name
      return .sequence ⟨anchor, tag⟩ (← flowItems n true)
    | .flowMapping =>
      skip
      let anchor ← number name
      return .mapping ⟨anchor, tag⟩ (← flowEntries n true)
    | .blockSequence =>
      if inBlock then
        skip
        let anchor ← number name
        return .sequence ⟨anchor, tag⟩ (← blockItems n)
      else leftOut name tag
    | .blockMapping =>
      if inBlock then
        skip
        let anchor ← number name
        return .mapping ⟨anchor, tag⟩ (← blockEntries n)
      else leftOut name tag
    | _ => leftOut name tag

/-- An empty node, which only an anchor or a tag can stand for. -/
def leftOut (name tag : Option (List Char)) : Parse Node := do
  if name.isNone && tag.isNone then throw .nodeExpected
  return .scalar ⟨← number name, tag⟩ [] true

/-- Reads the items of a block sequence and its end. -/
def blockItems : Nat → Parse (List Node)
  | 0 => throw .tooDeep
  | n + 1 => do
    match ← peek with
    | .entry =>
      skip
      let item ← match ← peek with
        | .entry | .blockEnd => pure .missing
        | _ => node n true false
      return item :: (← blockItems n)
    | .blockEnd =>
      skip
      return []
    | _ => throw .blockNotClosed

/-- Reads the items of a sequence that stands no further in than the mapping around it. -/
def flatItems : Nat → Parse (List Node)
  | 0 => throw .tooDeep
  | n + 1 => do
    match ← peek with
    | .entry =>
      skip
      let next ← peek
      let item ← if next == .entry || endsPair next then pure .missing else node n true false
      return item :: (← flatItems n)
    | _ => return []

/-- Reads the entries of a block mapping and its end. -/
def blockEntries : Nat → Parse (List (Node × Node))
  | 0 => throw .tooDeep
  | n + 1 => do
    match ← peek with
    | .key =>
      skip
      let k ← if endsPair (← peek) then pure .missing else node n true true
      let v ← blockValue n
      return (k, v) :: (← blockEntries n)
    | .blockEnd =>
      skip
      return []
    | _ => throw .blockNotClosed

/-- Reads the value of a block mapping, which may be left out. -/
def blockValue : Nat → Parse Node
  | 0 => throw .tooDeep
  | n + 1 => do
    match ← peek with
    | .value =>
      skip
      if endsPair (← peek) then return .missing else node n true true
    | _ => return .missing

/-- Reads the items of a flow sequence and its end. A key among them opens a mapping of one entry. -/
def flowItems : Nat → Bool → Parse (List Node)
  | 0, _ => throw .tooDeep
  | n + 1, first => do
    if (← peek) == .flowSequenceEnd then
      skip
      return []
    if !first then
      if (← peek) != .comma then throw .flowNotClosed
      skip
    match ← peek with
    | .flowSequenceEnd =>
      skip
      return []
    | .key =>
      skip
      let item ← flowPair n
      return .mapping .none [item] :: (← flowItems n false)
    | _ =>
      let item ← node n false false
      return item :: (← flowItems n false)

/-- Reads the one entry of a mapping in a flow sequence, after the mark of its key. A key that is left out takes the
token after it along. -/
def flowPair : Nat → Parse (Node × Node)
  | 0 => throw .tooDeep
  | n + 1 => do
    let k ← match ← peek with
      | .value | .comma | .flowSequenceEnd =>
        skip
        pure .missing
      | _ => node n false false
    match ← peek with
    | .value =>
      skip
      match ← peek with
      | .comma | .flowSequenceEnd => return (k, .missing)
      | _ => return (k, ← node n false false)
    | _ => return (k, .missing)

/-- Reads the entries of a flow mapping and its end. -/
def flowEntries : Nat → Bool → Parse (List (Node × Node))
  | 0, _ => throw .tooDeep
  | n + 1, first => do
    if (← peek) == .flowMappingEnd then
      skip
      return []
    if !first then
      if (← peek) != .comma then throw .flowNotClosed
      skip
    match ← peek with
    | .flowMappingEnd =>
      skip
      return []
    | .key =>
      skip
      let k ← match ← peek with
        | .value | .comma | .flowMappingEnd => pure .missing
        | _ => node n false false
      let v ← flowValue n
      return (k, v) :: (← flowEntries n false)
    | _ =>
      let k ← node n false false
      return (k, .missing) :: (← flowEntries n false)

/-- Reads the value of a flow mapping, which may be left out. -/
def flowValue : Nat → Parse Node
  | 0 => throw .tooDeep
  | n + 1 => do
    match ← peek with
    | .value =>
      skip
      match ← peek with
      | .comma | .flowMappingEnd => return .missing
      | _ => node n false false
    | _ => return .missing

end

/-! ## Documents -/

def defaultHandles : List (List Char × List Char) :=
  [("!".toList, "!".toList), ("!!".toList, "tag:yaml.org,2002:".toList)]

/-- Reads directives. The version comes at most once and is 1.1 or 1.2; no handle comes twice. -/
def directives : Nat → Bool → List (List Char × List Char) → Parse Unit
  | 0, _, _ => throw .directive
  | n + 1, versionSeen, handles => do
    match ← peek with
    | .version major minor =>
      if versionSeen then throw .duplicateDirective
      if major != 1 || (minor != 1 && minor != 2) then throw .version
      skip
      directives n true handles
    | .tagHandle handle stem =>
      if (handles.lookup handle).isSome then throw .duplicateDirective
      skip
      directives n versionSeen ((handle, stem) :: handles)
    | _ => modify fun s => { s with handles := handles ++ defaultHandles }

def isDirective : Token → Bool
  | .version .. | .tagHandle .. => true
  | _ => false

/-- Reads a document and its end. There is none where the stream ends at once. -/
def document : Parse (Option Node) := do
  let fuel := 3 * (← get).tokens.length + 3
  let first ← peek
  if first == .streamEnd then return none
  directives fuel false []
  let root ←
    if isDirective first || first == .documentStart then do
      if (← peek) != .documentStart then throw .documentStartExpected
      skip
      let next ← peek
      if isDirective next || next == .documentStart || next == .documentEnd || next == .streamEnd then pure .missing
      else node fuel true false
    else node fuel true false
  if (← peek) == .documentEnd then skip
  return some root

end Parse

end DeltaLint.Yaml

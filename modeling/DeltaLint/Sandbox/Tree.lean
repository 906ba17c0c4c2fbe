import DeltaLint.Failure
import DeltaLint.Path

/-
  DeltaLint.Sandbox.Tree — a tree of files in memory.

  A node is known by the names on the way from the root to it. What is on the way to a node is a
  directory. Symbolic links are followed, forty of them at most, and every component but the last one
  has to be a directory, the last one too when a slash comes after it.
-/

namespace DeltaLint.Sandbox

/-- Programs that are there without a file of their own text. -/
inductive Program where
  | shell
  | succeed
  | fail
  | echo
  | printf
  | cat
  | head
  | seq
  | sleep
  | test
  | grep
  | tail
  | wc
  | sort
  | tr
  | basename
  | dirname
  | touch
  | mkdir
  | rm
  | ln
  | ls
  | pwd
  /-- Runs another program with other variables. -/
  | env
  /-- Git, which answers from a list. -/
  | git
  deriving DecidableEq, Repr

inductive Node where
  | directory
  | file (bytes : List UInt8) (executable : Bool)
  | link (target : String)
  | program (p : Program)
  /-- A device: nothing can be read from it, and what is written to it is lost. -/
  | null
  deriving DecidableEq, Repr

/-- The names from the root to a node. -/
abbrev Place := List String

/-- The nodes that are there, a later one before the one that it replaced. The root is always there. -/
structure Tree where
  nodes : List (Place × Node)
  deriving DecidableEq, Repr

namespace Tree

def node? (t : Tree) (p : Place) : Option Node := if p.isEmpty then some .directory else t.nodes.lookup p

/-- Puts a node at a place, and directories on the way to it where nothing is there. -/
def put (t : Tree) (p : Place) (n : Node) : Tree :=
  let parents := ((List.range p.length).map p.take).filter fun q => (t.node? q).isNone
  ⟨(p, n) :: parents.map (·, .directory) ++ t.nodes⟩

def text (p : Place) : String := "/" ++ "/".intercalate p

/-- The segments of a path, the empty ones among them. -/
def segments (path : String) : List String := (Path.segments path.toList).map String.ofList

/-- Names of more than 255 bytes are names of nothing. -/
def nameTooLong : HostFault := .other "File name too long (os error 36)"

/-- Walks on from a place. `links` bounds the links that may still be followed. -/
def walk (t : Tree) : (fuel links : Nat) → Place → List String → Except HostFault Place
  | 0, _, _, _ => .error .tooManyLinks
  | _, _, here, [] => .ok here
  | n + 1, links, here, s :: rest =>
    match t.node? here with
    | none => .error .notFound
    | some .directory =>
      if s == "" || s == "." then walk t n links here rest
      else if s == ".." then walk t n links here.dropLast rest
      else if 255 < s.utf8ByteSize then .error nameTooLong
      else match t.node? (here ++ [s]) with
        | none => .error .notFound
        | some (.link target) =>
          match links with
          | 0 => .error .tooManyLinks
          | links + 1 =>
            if target.isEmpty then .error .notFound
            else if Path.isAbsolute target.toList then walk t n links [] (segments target ++ rest)
            else walk t n links here (segments target ++ rest)
        | some _ => walk t n links (here ++ [s]) rest
    | some _ => .error .notADirectory

/-- The place of what a path names, for one who is at `directory`. -/
def resolve (t : Tree) (directory path : String) : Except HostFault Place :=
  if path.isEmpty then .error .notFound
  else if path.toList.contains '\x00' then .error (.other "file name contained an unexpected NUL byte")
  else if 4095 < path.utf8ByteSize then .error nameTooLong
  else t.walk 100000 40 [] (segments (Path.join directory path))

/-- The node that a path names. -/
def find (t : Tree) (directory path : String) : Except HostFault Node := do
  match t.node? (← t.resolve directory path) with
  | some n => return n
  | none => throw .notFound

def isFile (t : Tree) (directory path : String) : Bool :=
  match t.find directory path with
  | .ok (.file ..) | .ok (.program _) => true
  | _ => false

/-- The bytes of a file. -/
def read (t : Tree) (directory path : String) : Except HostFault (List UInt8) := do
  match ← t.find directory path with
  | .file bytes _ => return bytes
  | .directory => throw .isADirectory
  | _ => return []

/-- The place of the node itself that a path names, whether or not it is a link, and whether or not it is there. The
directory that it is in has to be there. -/
def entry (t : Tree) (directory path : String) : Except HostFault Place :=
  let ss := segments (Path.join directory path)
  match ss.getLast? with
  | none | some "" | some "." | some ".." => t.resolve directory path
  | some name => do
    let parent ← t.walk 100000 40 [] ss.dropLast
    return parent ++ [name]

def isLink (t : Tree) (directory path : String) : Bool :=
  match t.entry directory path with
  | .ok place => match t.node? place with | some (.link _) => true | _ => false
  | .error _ => false

/-- The place of a file that may have to be made first, at the end of `links` links at most. -/
def creatableFrom (t : Tree) : (links : Nat) → (directory path : String) → Except HostFault Place
  | 0, _, _ => .error .tooManyLinks
  | n + 1, directory, path =>
    match t.resolve directory path with
    | .error .notFound =>
      match (segments (Path.join directory path)).getLast? with
      | none | some "" | some "." | some ".." => .error .notFound
      | _ => do
        let place ← t.entry directory path
        match t.node? place with
        | some (.link target) => creatableFrom t n (text place.dropLast) target
        | _ => return place
    | r => r

/-- The place of a file that may have to be made first. The directory that it is in has to be there. -/
def creatable (t : Tree) (directory path : String) : Except HostFault Place := t.creatableFrom 40 directory path

/-- Makes the directory that a path names, and those on the way to it, where they are not there yet. -/
def makeDirectories (t : Tree) (directory path : String) : Tree :=
  let ss := segments (Path.join directory path)
  ((List.range ss.length).map fun n => "/".intercalate (ss.take (n + 1))).foldl (fun t path =>
    match t.creatable "/" path with
    | .ok place => if (t.node? place).isNone then t.put place .directory else t
    | .error _ => t) t

/-- Writes a file under a path, through links, and makes the directories on the way to it. -/
def save (t : Tree) (directory path : String) (n : Node) : Tree :=
  let t := t.makeDirectories directory (String.ofList (Text.glue '/' ((Path.segments path.toList).dropLast)))
  match t.creatable directory path with
  | .ok place => t.put place n
  | .error _ => t

/-- Puts a link under a path, and makes the directories on the way to it. -/
def saveLink (t : Tree) (directory path target : String) : Tree :=
  let t := t.makeDirectories directory (String.ofList (Text.glue '/' ((Path.segments path.toList).dropLast)))
  match t.entry directory path with
  | .ok place => t.put place (.link target)
  | .error _ => t

/-- The tree without a place and all below it. -/
def remove (t : Tree) (p : Place) : Tree := ⟨t.nodes.filter fun (q, _) => !p.isPrefixOf q⟩

/-- The names of what is in a directory, in order. -/
def children (t : Tree) (p : Place) : List String :=
  let names := t.nodes.filterMap fun (q, _) => if q.dropLast = p then q.getLast? else none
  (names.eraseDups).mergeSort fun a b => a ≤ b

/-- What is run under a path. -/
def program (t : Tree) (directory path : String) : Except HostFault (String × Node) := do
  match ← t.find directory path with
  | .file bytes true => return (path, .file bytes true)
  | .program p => return (path, .program p)
  | _ => throw .permissionDenied

/-- Looks for a program in some directories. One that may not be run does not end the search, but counts if there is
none other. -/
def search (t : Tree) (directory name : String) (refused : Bool) : List String → Except HostFault (String × Node)
  | [] => .error (if refused then .permissionDenied else .notFound)
  | d :: ds =>
    match t.program directory (if d.isEmpty then name else d ++ "/" ++ name) with
    | .error .notFound | .error .notADirectory => search t directory name refused ds
    | .error .permissionDenied => search t directory name true ds
    | r => r

/-- What is run under a name: the path as it stands where it has a slash, or else what the search path leads to. -/
def executable (t : Tree) (directory : String) (searchPath : List String) (name : String) : Except HostFault (String × Node) :=
  if name.isEmpty then .error .notFound
  else if name.toList.contains '/' then t.program directory name
  else t.search directory name false searchPath

end Tree

end DeltaLint.Sandbox

import DeltaLint.Text.Bytes
import DeltaLint.Text.Pieces

/-
  DeltaLint.Path — the names of files, read component by component.

  Slashes part the components of a path. Empty ones do not count, and neither do single dots except one
  that begins a relative path; two dots stay as they are. Two paths with the same components are the
  same path. They are ordered by their components: the root before a dot, a dot before two dots, two
  dots before names, and names by their code points.

  To the system a path is bytes, which need not be UTF-8. They have their components where each is taken
  for a character of its own, but a reader is shown text: what is not UTF-8 of a path is lost there.

  Proved:
  - `order_eq_iff`: paths are of equal order when they have the same components.
-/

namespace DeltaLint

inductive Component where
  | root
  | here
  | parent
  | name (s : List Char)
  deriving DecidableEq, Repr

namespace Component

/-- The place of the kind of a component in the order, and its name. -/
def rank : Component → Nat × List Char
  | root => (0, [])
  | here => (1, [])
  | parent => (2, [])
  | name s => (3, s)

def order (a b : Component) : Ordering :=
  (compare a.rank.1 b.rank.1).then (compare (a.rank.2.map (·.toNat)) (b.rank.2.map (·.toNat)))

theorem order_eq_iff {a b : Component} : a.order b = .eq ↔ a = b := by
  unfold order
  rw [Ordering.then_eq_eq, Std.LawfulEqOrd.compare_eq_iff_eq, Std.LawfulEqOrd.compare_eq_iff_eq]
  constructor
  · rintro ⟨hrank, hname⟩
    have hinj : ∀ s t : List Char, s.map (·.toNat) = t.map (·.toNat) → s = t := fun s t h =>
      (List.map_inj_right fun _ _ => Char.toNat_inj.mp).mp h
    cases a <;> cases b <;> simp_all only [rank, reduceCtorEq, Nat.reduceEqDiff]
    rw [hinj _ _ hname]
  · rintro rfl
    exact ⟨rfl, rfl⟩

end Component

namespace Path

/-- A stretch between slashes that is no component where it stands after the first. -/
def isIdle (segment : List Char) : Bool := segment == [] || segment == ['.']

def isAbsolute (path : List Char) : Bool := path.head? == some '/'

def segments (path : List Char) : List (List Char) := Text.pieces '/' path

def component (segment : List Char) : Component := if segment = ['.', '.'] then .parent else .name segment

/-- What a path begins with where that is no name: the root, or the directory it is relative to. -/
def start (path : List Char) : List Component :=
  if isAbsolute path then [.root] else if (segments path).head? = some ['.'] then [.here] else []

/-- The components after the start. -/
def body (path : List Char) : List Component := ((segments path).filter (!isIdle ·)).map component

def components (path : List Char) : List Component := start path ++ body path

/-- The order of paths, component by component. -/
def orderOf : List Component → List Component → Ordering
  | [], [] => .eq
  | [], _ :: _ => .lt
  | _ :: _, [] => .gt
  | a :: as, b :: bs => (a.order b).then (orderOf as bs)

def order (a b : String) : Ordering := orderOf (components a.toList) (components b.toList)

theorem orderOf_eq_iff {as bs : List Component} : orderOf as bs = .eq ↔ as = bs := by
  induction as generalizing bs with
  | nil => cases bs <;> simp [orderOf]
  | cons a as ih =>
    cases bs with
    | nil => simp [orderOf]
    | cons b bs => simp [orderOf, Ordering.then_eq_eq, Component.order_eq_iff, ih]

theorem order_eq_iff {a b : String} : order a b = .eq ↔ components a.toList = components b.toList := orderOf_eq_iff

/-- The path that `name` stands for in the directory `base`. -/
def join (base name : String) : String :=
  if isAbsolute name.toList then name
  else if base.isEmpty || base.toList.getLast? = some '/' then base ++ name
  else base ++ "/" ++ name

/-- The last component, when it is a name. -/
def fileName? (path : List Char) : Option (List Char) :=
  match (components path).getLast? with
  | some (.name s) => some s
  | _ => none

/-- The last dot of the name of a file and all after it. A name that is not more than that has no extension. -/
def extension (path : String) : String :=
  match fileName? path.toList with
  | none => ""
  | some s =>
    let tail := (s.reverse.takeWhile (· != '.')).reverse
    if tail.length + 1 < s.length then String.ofList ('.' :: tail) else ""

/-- Drops the first `n` components, and what is idle before the next. -/
def dropComponents : Nat → List (List Char) → List (List Char)
  | 0, ss => ss.dropWhile isIdle
  | n + 1, ss => dropComponents n ((ss.dropWhile isIdle).drop 1)

/-- Drops what is idle at the end. -/
def trimEnd (ss : List (List Char)) : List (List Char) := (ss.reverse.dropWhile isIdle).reverse

/-- The text of a path without what is idle at its end. -/
def trimmed (path : List Char) : List Char :=
  match start path with
  | [.root] => '/' :: Text.glue '/' (trimEnd ((segments path).drop 1))
  | [.here] => Text.glue '/' (['.'] :: trimEnd ((segments path).drop 1))
  | _ => Text.glue '/' (trimEnd (segments path))

/-- What is left of `path` after the components of `base`, when it begins with them. -/
def relative? (path base : String) : Option String :=
  let p := path.toList
  let b := base.toList
  if (components b).isPrefixOf (components p) then
    if (components b).isEmpty then some (String.ofList (trimmed p))
    else
      let named := (components b).length - (start p).length
      let ss := if (start p).isEmpty then segments p else (segments p).drop 1
      some (String.ofList (Text.glue '/' (trimEnd (dropComponents named ss))))
  else none

/-! ## What is shown -/

/-- The path that bytes are, with a character for each of them. -/
def ofBytes (path : List UInt8) : String := String.ofList (Text.ofBytes path)

/-- The bytes of a path that is text. -/
def encoded (path : String) : List UInt8 := Text.Utf8.encode path.toList

/-- What is left of a path after `base`, when it begins with its components, and else the path. -/
def leftBytes (path base : List UInt8) : List UInt8 :=
  match relative? (ofBytes path) (ofBytes base) with
  | some left => Text.toBytes left.toList
  | none => path

/-- Bytes as they are shown: as text, with U+FFFD where they are none, and with slashes for backslashes. -/
def normalizeBytes (path : List UInt8) : String :=
  String.ofList ((Text.Utf8.decode path).map fun c => if c = '\\' then '/' else c)

/-- The bytes of a path as they are shown to one who works in `base`. -/
def shownBytes (path base : List UInt8) : String := normalizeBytes (leftBytes path base)

def normalize (path : String) : String := normalizeBytes (encoded path)

/-- The path as it is shown to one who works in `base`. -/
def shown (path base : String) : String := shownBytes (encoded path) (encoded base)

end Path

end DeltaLint

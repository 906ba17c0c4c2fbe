import DeltaLint.Git.Quote
import DeltaLint.Text.Pieces
import DeltaLint.Unicode.Category
import DeltaLint.Unicode.Blank

/-
  DeltaLint.Git.Changes — which files changed, and which of their lines, by the account of git.

  A status line is a code of two characters, a space and a name; a line of a commit's changes is a
  letter, a white space and a name. All other lines are passed over. The header of a line in a blame
  gives a hash of 40 to 64 hexadecimal digits, the old and the new number of the line.

  A line is first recognised by its code, and then the code is read as a change. There are two tables for
  this, and the first has a few codes that the second has not.

  Proved:
  - `isStatusCode_iff`: the codes that lines are recognised by are those that stand for a change, and some
    that are passed over in the end.
  - `statusLine?_code`: so a line is read by its change alone.
-/

namespace DeltaLint

inductive Change where
  | modified
  | added
  | untracked
  deriving DecidableEq, Repr

namespace Git

/-- The codes that a status line is recognised by. Before a lone M any white space will do. -/
def isStatusCode (x y : Char) : Bool :=
  (x == 'M' && y == ' ') || (Unicode.isBlank x && y == 'M') || (x == 'M' && y == 'M') || (x == 'A' && y == ' ') ||
    (x == 'A' && y == 'M') || (x == '?' && y == '?')

/-- The status that a code stands for. Deleted, renamed and conflicted files have none. -/
def changeOfCode? : Char → Char → Option Change
  | 'M', ' ' => some .modified
  | ' ', 'M' => some .modified
  | 'M', 'M' => some .modified
  | 'A', ' ' => some .added
  | 'A', 'M' => some .added
  | '?', '?' => some .untracked
  | _, _ => none

def named (raw : List Char) (s : Change) : String × Change := (String.ofList (unquote raw), s)

def statusLine? : List Char → Option (String × Change)
  | x :: y :: ' ' :: c :: rest => if isStatusCode x y then (changeOfCode? x y).map (named (c :: rest)) else none
  | _ => none

/-- The files of a status account, in order. Untracked ones are left out where only tracked ones count. -/
def statusEntries (text : String) (trackedOnly : Bool) : List (String × Change) :=
  ((Text.lines text.toList).filterMap statusLine?).filter fun (_, s) => !(trackedOnly && s == .untracked)

def treeLine? : List Char → Option (String × Change)
  | letter :: gap :: c :: rest =>
    if (letter == 'A' || letter == 'M') && Unicode.isBlank gap then
      some (named (c :: rest) (if letter = 'A' then .added else .modified))
    else none
  | _ => none

/-- The files that a commit added or modified, in order. -/
def commitEntries (text : String) : List (String × Change) := (Text.lines text.toList).filterMap treeLine?

/-- A status line is recognised by the codes that stand for a change, and by an M after a white space other than a
space, which stands for none. -/
theorem isStatusCode_iff {x y : Char} : isStatusCode x y = true ↔
    (changeOfCode? x y).isSome = true ∨ y = 'M' ∧ Unicode.isBlank x = true ∧ x ≠ ' ' := by
  have hspace : Unicode.isBlank ' ' = true := by decide
  constructor
  · intro h
    simp only [isStatusCode, Bool.or_eq_true, Bool.and_eq_true, beq_iff_eq] at h
    rcases h with ((((⟨rfl, rfl⟩ | ⟨hblank, rfl⟩) | ⟨rfl, rfl⟩) | ⟨rfl, rfl⟩) | ⟨rfl, rfl⟩) | ⟨rfl, rfl⟩
    · exact Or.inl rfl
    · by_cases hx : x = ' '
      · rw [hx]
        exact Or.inl rfl
      · exact Or.inr ⟨rfl, hblank, hx⟩
    · exact Or.inl rfl
    · exact Or.inl rfl
    · exact Or.inl rfl
    · exact Or.inl rfl
  · rintro (hchange | ⟨rfl, hblank, -⟩)
    · unfold changeOfCode? at hchange
      split at hchange
      case h_7 => cases hchange
      all_goals simp [isStatusCode, hspace]
    · simp [isStatusCode, hblank]

/-- What a line with a code and a name is read as. -/
theorem statusLine?_code (x y c : Char) (rest : List Char) :
    statusLine? (x :: y :: ' ' :: c :: rest) = (changeOfCode? x y).map (named (c :: rest)) := by
  cases hchange : changeOfCode? x y with
  | none => simp [statusLine?, hchange]
  | some change =>
    have hcode : isStatusCode x y = true := isStatusCode_iff.mpr (Or.inl (by rw [hchange]; rfl))
    rw [statusLine?, if_pos hcode, hchange]

/-! ## Blame -/

structure BlameHeader where
  hash : List Char
  line : List Char
  deriving DecidableEq, Repr

def isHashDigit (c : Char) : Bool := ('0' ≤ c && c ≤ '9') || ('a' ≤ c && c ≤ 'f')

/-- Digits of any script, at least one, and the text after them. -/
def number? (text : List Char) : Option (List Char × List Char) :=
  let ds := text.takeWhile Unicode.Category.decimalNumber.contains
  if ds.isEmpty then none else some (ds, text.dropWhile Unicode.Category.decimalNumber.contains)

def blameHeader? (text : List Char) : Option BlameHeader := do
  let hash := text.takeWhile isHashDigit
  if hash.length < 40 || 64 < hash.length then none
  let ' ' :: rest := text.dropWhile isHashDigit | none
  let (_, ' ' :: rest) ← number? rest | none
  let (line, _) ← number? rest
  some ⟨hash, line⟩

/-- The line belongs to the commit; without one, to no commit yet. -/
def BlameHeader.isOf (h : BlameHeader) : Option String → Bool
  | some commit => String.ofList h.hash == commit
  | none => h.hash.all (· == '0')

/-- Puts a number into an increasing list, once. -/
def insertLine (n : Nat) : List Nat → List Nat
  | [] => [n]
  | m :: rest => if n < m then n :: m :: rest else if n = m then m :: rest else m :: insertLine n rest

/-- The numbers of the lines that belong to the commit, or to none yet, in increasing order. Numbers beyond 32 bits
are left out. -/
def blamedLines (text : String) (commit : Option String) : List Nat :=
  let headers := ((Text.lines text.toList).filterMap blameHeader?).filter (·.isOf commit)
  (headers.filterMap fun h => Text.decimal? Text.word32 h.line).foldr insertLine []

end Git

end DeltaLint

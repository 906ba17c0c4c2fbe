/-
  DeltaLint.Pattern.Fault — what can be wrong with the text of a pattern.

  Reading one thing after another gives something when each gives something (`bind_eq_ok`), and fails with
  the first that fails (`bind_eq_error`).
-/

namespace DeltaLint

section
variable {ε α β : Type}

theorem bind_eq_ok {x : Except ε α} {k : α → Except ε β} {b : β} : (x >>= k) = .ok b ↔ ∃ a, x = .ok a ∧ k a = .ok b := by
  cases x with
  | error e => simp [bind, Except.bind]
  | ok a => simp [bind, Except.bind]

theorem bind_eq_error {x : Except ε α} {k : α → Except ε β} {e : ε} :
    (x >>= k) = .error e ↔ x = .error e ∨ ∃ a, x = .ok a ∧ k a = .error e := by
  cases x with
  | error e' => simp [bind, Except.bind]
  | ok a => simp [bind, Except.bind]

theorem map_eq_ok {x : Except ε α} {g : α → β} {b : β} : x.map g = .ok b ↔ ∃ a, x = .ok a ∧ g a = b := by
  cases x with
  | error e => simp [Except.map]
  | ok a => simp [Except.map]

end

namespace Pattern

inductive Fault where
  | backReference
  | badClassMember
  | badCount
  | badEscape
  | badFlags
  | badGroupName
  | badHex
  | badRange
  | emptyCount
  | lookAround
  | nothingToRepeat
  | notUnicode
  | tooDeep
  | tooLarge
  | unclosedClass
  | unclosedCount
  | unclosedGroup
  | unexpectedEnd
  | unknownBoundary
  | unknownProperty
  | unopenedGroup
  deriving DecidableEq, Repr

def Fault.message : Fault → String
  | .backReference => "backreferences are not supported"
  | .badClassMember => "this escape stands for no member of a character class"
  | .badCount => "invalid repetition count range"
  | .badEscape => "unrecognized escape sequence"
  | .badFlags => "invalid flags"
  | .badGroupName => "invalid capture group name"
  | .badHex => "hexadecimal literal is not a Unicode scalar value"
  | .badRange => "invalid character class range"
  | .emptyCount => "repetition quantifier expects a valid decimal"
  | .lookAround => "look-around is not supported"
  | .nothingToRepeat => "repetition operator missing expression"
  | .notUnicode => "pattern can match invalid UTF-8 or needs Unicode mode"
  | .tooDeep => "pattern is nested too deeply"
  | .tooLarge => "pattern is too large"
  | .unclosedClass => "unclosed character class"
  | .unclosedCount => "unclosed counted repetition"
  | .unclosedGroup => "unclosed group"
  | .unexpectedEnd => "unexpected end of pattern"
  | .unknownBoundary => "unrecognized word boundary"
  | .unknownProperty => "Unicode property not found"
  | .unopenedGroup => "unopened group"

/-- A reader takes what it reads from the front of the text and hands back the rest. -/
abbrev Reader (α : Type) := List Char → Except Fault (α × List Char)

end Pattern

end DeltaLint

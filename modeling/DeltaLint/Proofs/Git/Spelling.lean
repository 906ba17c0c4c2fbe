import DeltaLint.Proofs.Git.Quoting

/-
  DeltaLint.Proofs.Git.Spelling — all spellings of a name between quotes.

  A byte other than a backslash can stand for itself, and every byte can be written as a backslash with
  three octal digits; a line feed, a tab, a quote and a backslash have a short form besides (`Spells`).
  Which one is taken is open, byte by byte. What is read of one spelling does not depend on the next, not
  even where a digit follows an octal number or a quote stands before the last quote.

  Proved:
  - `Spells.unescape_append`: a spelling of a byte is read as this byte, whatever follows.
  - `unquote_eq_self`: a text is read as it is unless it stands between quotes.
  - `unquote_spelled`: a name is read alike in all its spellings.
-/

namespace DeltaLint.Git

open Text

/-- A byte as a backslash with three octal digits. -/
def octalForm (b : UInt8) : List Char :=
  ['\\', octalDigit (b.toNat / 64), octalDigit (b.toNat / 8 % 8), octalDigit (b.toNat % 8)]

/-- The bytes that can stand for a byte between quotes. -/
inductive Spells : UInt8 → List UInt8 → Prop
  | plain {b : UInt8} (h : b ≠ 0x5C) : Spells b [b]
  | lineFeed : Spells 0x0A (Utf8.encode ['\\', 'n'])
  | tab : Spells 0x09 (Utf8.encode ['\\', 't'])
  | quote : Spells 0x22 (Utf8.encode ['\\', '"'])
  | backslash : Spells 0x5C (Utf8.encode ['\\', '\\'])
  | octal (b : UInt8) : Spells b (Utf8.encode (octalForm b))

/-- A spelling of a byte is read as this byte, whatever follows. -/
theorem Spells.unescape_append {b : UInt8} {spelling : List UInt8} (h : Spells b spelling) (rest : List UInt8) :
    unescape (spelling ++ rest) = b :: unescape rest := by
  cases h with
  | plain h => exact unescape_cons h rest
  | lineFeed => rfl
  | tab => rfl
  | quote => rfl
  | backslash => rfl
  | octal b => exact unescape_octal b rest

theorem unescape_spelled {bytes : List UInt8} {spellings : List (List UInt8)} (h : List.Forall₂ Spells bytes spellings) :
    unescape spellings.flatten = bytes := by
  induction h with
  | nil => rfl
  | cons hone _ ih => rw [List.flatten_cons, hone.unescape_append, ih]

/-- Every string of bytes can be spelled in octal digits, and so without any byte that is not of ASCII. -/
theorem exists_spelled (bytes : List UInt8) :
    ∃ spellings inner, List.Forall₂ Spells bytes spellings ∧ Utf8.encode inner = spellings.flatten := by
  induction bytes with
  | nil => exact ⟨[], [], .nil, rfl⟩
  | cons b bytes ih =>
    obtain ⟨spellings, inner, hspells, hinner⟩ := ih
    refine ⟨Utf8.encode (octalForm b) :: spellings, octalForm b ++ inner, .cons (.octal b) hspells, ?_⟩
    rw [Utf8.encode_append, hinner, List.flatten_cons]

/-- A text is read as it is unless it stands between quotes. -/
theorem unquote_eq_self {raw : List Char} (h : ∀ inner, raw ≠ '"' :: inner ++ ['"']) : unquote raw = raw := by
  unfold unquote
  split
  · rename_i rest
    refine if_neg fun hlast => ?_
    obtain ⟨inner, rfl⟩ := List.getLast?_eq_some_iff.mp hlast
    exact h inner rfl
  · rfl

/-- Every name has spellings, and between quotes each of them is read as this name. A text without quotes at both ends
is read as it is. -/
theorem unquote_spelled (bytes : List UInt8) :
    (∃ spellings inner, List.Forall₂ Spells bytes spellings ∧ Utf8.encode inner = spellings.flatten) ∧
    (∀ spellings inner, List.Forall₂ Spells bytes spellings → Utf8.encode inner = spellings.flatten →
      unquote ('"' :: inner ++ ['"']) = Utf8.decode bytes) ∧
    ∀ raw, (∀ inner, raw ≠ '"' :: inner ++ ['"']) → unquote raw = raw := by
  refine ⟨exists_spelled bytes, fun spellings inner hspells hinner => ?_, fun raw hraw => unquote_eq_self hraw⟩
  rw [unquote_quoted, hinner, unescape_spelled hspells]

/-- An umlaut in octal digits before a digit, and a quote at the end. A quote alone does not stand between quotes. -/
theorem unquote_spelled_umlaut :
    unquote "\"a\\303\\2447\\n\\\"\"".toList = "a\u00E47\n\"".toList ∧ unquote ['"'] = ['"'] := by
  have hspelled := unquote_spelled [0x61, 0xC3, 0xA4, 0x37, 0x0A, 0x22]
  have hspells : List.Forall₂ Spells [0x61, 0xC3, 0xA4, 0x37, 0x0A, 0x22] [[0x61], Utf8.encode (octalForm 0xC3),
      Utf8.encode (octalForm 0xA4), [0x37], Utf8.encode ['\\', 'n'], Utf8.encode ['\\', '"']] :=
    .cons (.plain (by decide)) (.cons (.octal _) (.cons (.octal _) (.cons (.plain (by decide)) (.cons .lineFeed
      (.cons .quote .nil)))))
  have hread := hspelled.2.1 _ "a\\303\\2447\\n\\\"".toList hspells (by decide)
  have hname : Utf8.decode [0x61, 0xC3, 0xA4, 0x37, 0x0A, 0x22] = "a\u00E47\n\"".toList := by decide
  refine ⟨hread.trans hname, hspelled.2.2 ['"'] fun inner hinner => ?_⟩
  have hlength := congrArg List.length hinner
  simp at hlength

end DeltaLint.Git

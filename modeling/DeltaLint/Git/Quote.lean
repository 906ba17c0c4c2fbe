import DeltaLint.Text.Utf8

/-
  DeltaLint.Git.Quote — names of files that git puts between double quotes.

  Between the quotes a backslash and one to three octal digits stand for a byte (its value taken modulo
  256), `\n` and `\t` for a line feed and a tab, and a backslash before anything else for that alone.
  The bytes are then read as UTF-8.
-/

namespace DeltaLint.Git

/-- The value of an octal digit. -/
def octal? (b : UInt8) : Option Nat := if 0x30 ≤ b ∧ b ≤ 0x37 then some (b.toNat - 0x30) else none

/-- The bytes that a quoted text stands for. -/
def unescape : List UInt8 → List UInt8
  | [] => []
  | [b] => [b]
  | 0x5C :: c :: rest =>
    if c = 0x6E then 0x0A :: unescape rest
    else if c = 0x74 then 0x09 :: unescape rest
    else match octal? c with
      | none => c :: unescape rest
      | some x =>
        match rest with
        | [] => [x.toUInt8]
        | d :: rest =>
          match octal? d with
          | none => x.toUInt8 :: unescape (d :: rest)
          | some y =>
            match rest with
            | [] => [(x * 8 + y).toUInt8]
            | e :: rest =>
              match octal? e with
              | none => (x * 8 + y).toUInt8 :: unescape (e :: rest)
              | some z => ((x * 8 + y) * 8 + z).toUInt8 :: unescape rest
  | b :: c :: rest => b :: unescape (c :: rest)

/-- The name that a text stands for: the text itself unless it both begins and ends with a quote of its own. -/
def unquote (raw : List Char) : List Char :=
  match raw with
  | '"' :: rest =>
    if rest.getLast? = some '"' then Text.Utf8.decode (unescape (Text.Utf8.encode rest.dropLast)) else raw
  | _ => raw

end DeltaLint.Git

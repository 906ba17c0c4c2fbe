import DeltaLint.Git.Changes
import Mathlib.Data.List.Basic

/-
  DeltaLint.Proofs.Git.Quoting — names as git writes them, and as they are read again.

  Git writes a name as it is where none of its bytes is odd, and else between quotes with a backslash
  before each odd byte: a letter follows for those that have one (`letterOf?`), three octal digits for
  the others. An account of the status puts names with spaces between quotes as well.

  Of the letters only two are known to the reader: the other five control characters that have one are
  read as that letter (`misread`).

  Proved:
  - `unescape_escapeByte`: what stands for a byte is read as that byte or, where it is misread, as its letter.
  - `unquote_printedName`: a name is read as it was, but for the characters that are misread.
  - `entries_printed_iff`: all accepted entries are read as they were exactly when no character of their
    names is misread.
-/

namespace DeltaLint.Git

open Text

/-! ## How git writes -/

def letters : List (UInt8 × Char) :=
  [(0x07, 'a'), (0x08, 'b'), (0x09, 't'), (0x0A, 'n'), (0x0B, 'v'), (0x0C, 'f'), (0x0D, 'r'), (0x22, '"'), (0x5C, '\\')]

/-- The letter that stands for a byte after a backslash. -/
def letterOf? (b : UInt8) : Option Char := letters.lookup b

/-- The byte cannot stand for itself. -/
def isOdd (b : UInt8) : Bool := (letterOf? b).isSome || b < 0x20 || 0x7F ≤ b

def octalDigit (n : Nat) : Char := Char.ofNat (0x30 + n)

/-- What stands for a byte between quotes. -/
def escapeByte (b : UInt8) : List Char :=
  match letterOf? b with
  | some letter => ['\\', letter]
  | none =>
    if isOdd b then ['\\', octalDigit (b.toNat / 64), octalDigit (b.toNat / 8 % 8), octalDigit (b.toNat % 8)]
    else [Char.ofNat b.toNat]

/-- The name as git writes it. Where `spaced`, one with a space stands between quotes too. -/
def printedName (spaced : Bool) (name : List Char) : List Char :=
  if (Utf8.encode name).any isOdd then '"' :: (Utf8.encode name).flatMap escapeByte ++ ['"']
  else if spaced && name.contains ' ' then '"' :: name ++ ['"']
  else name

/-- The line of a file with a code, in an account of the status. -/
def printedStatus (e : (Char × Char) × String) : List Char := e.1.1 :: e.1.2 :: ' ' :: printedName true e.2.toList

/-- The line of a file with a letter, in an account of what a commit changed. -/
def printedChange (e : Char × String) : List Char := e.1 :: '\t' :: printedName false e.2.toList

/-- The lines, each with a line feed at its end. -/
def account (lines : List (List Char)) : String := String.ofList (lines.flatMap (· ++ ['\n']))

/-! ## What is read -/

/-- What the character is read as: itself, or the letter that stands for it. -/
def misread (c : Char) : Char :=
  if c = '\x07' then 'a' else if c = '\x08' then 'b' else if c = '\x0B' then 'v' else if c = '\x0C' then 'f'
  else if c = '\r' then 'r' else c

def misreadByte (b : UInt8) : UInt8 :=
  if b = 0x07 then 0x61 else if b = 0x08 then 0x62 else if b = 0x0B then 0x76 else if b = 0x0C then 0x66
  else if b = 0x0D then 0x72 else b

theorem unescape_cons {b : UInt8} (h : b ≠ 0x5C) (rest : List UInt8) : unescape (b :: rest) = b :: unescape rest := by
  cases rest with
  | nil => simp [unescape]
  | cons c rest => rw [unescape]; exact fun hb => absurd hb h

theorem unescape_of_not_mem {bytes : List UInt8} (h : 0x5C ∉ bytes) : unescape bytes = bytes := by
  induction bytes with
  | nil => rfl
  | cons b bytes ih =>
    obtain ⟨hb, hbytes⟩ := List.ne_and_not_mem_of_not_mem_cons h
    rw [unescape_cons (Ne.symm hb), ih hbytes]

/-- A byte with a letter is read as it was, or as its letter. -/
theorem unescape_letter {b : UInt8} {letter : Char} (h : letterOf? b = some letter) (rest : List UInt8) :
    unescape (Utf8.encode ['\\', letter] ++ rest) = misreadByte b :: unescape rest := by
  obtain ⟨before, after, hletters, -⟩ := List.lookup_eq_some_iff.mp h
  have hmem : (b, letter) ∈ letters := by rw [hletters]; simp
  simp only [letters, List.mem_cons, Prod.mk.injEq, List.not_mem_nil, or_false] at hmem
  rcases hmem with ⟨rfl, rfl⟩ | ⟨rfl, rfl⟩ | ⟨rfl, rfl⟩ | ⟨rfl, rfl⟩ | ⟨rfl, rfl⟩ | ⟨rfl, rfl⟩ | ⟨rfl, rfl⟩ | ⟨rfl, rfl⟩ |
    ⟨rfl, rfl⟩ <;> rfl

theorem octal?_octalDigit {n : Nat} (h : n < 8) :
    ∃ d : UInt8, Utf8.encodeChar (octalDigit n) = [d] ∧ octal? d = some n ∧ d ≠ 0x6E ∧ d ≠ 0x74 := by
  have hall : ∀ n < 8, Utf8.encodeChar (octalDigit n) = [(0x30 + n).toUInt8] ∧ octal? (0x30 + n).toUInt8 = some n ∧
      (0x30 + n).toUInt8 ≠ 0x6E ∧ (0x30 + n).toUInt8 ≠ 0x74 := by decide
  exact ⟨_, hall n h⟩

theorem unescape_octal (b : UInt8) (rest : List UInt8) :
    unescape (Utf8.encode ['\\', octalDigit (b.toNat / 64), octalDigit (b.toNat / 8 % 8), octalDigit (b.toNat % 8)] ++ rest) =
      b :: unescape rest := by
  have hb : b.toNat < 256 := b.toNat_lt
  obtain ⟨x, hx, hx', hn, ht⟩ := octal?_octalDigit (n := b.toNat / 64) (by omega)
  obtain ⟨y, hy, hy', -, -⟩ := octal?_octalDigit (n := b.toNat / 8 % 8) (by omega)
  obtain ⟨z, hz, hz', -, -⟩ := octal?_octalDigit (n := b.toNat % 8) (by omega)
  have hbackslash : Utf8.encodeChar '\\' = [0x5C] := rfl
  have hvalue : (b.toNat / 64 * 8 + b.toNat / 8 % 8) * 8 + b.toNat % 8 = b.toNat := by omega
  simp only [Utf8.encode, List.flatMap_cons, List.flatMap_nil, hbackslash, hx, hy, hz, List.append_nil,
    List.cons_append, List.nil_append]
  simp only [unescape, if_neg hn, if_neg ht, hx', hy', hz', hvalue]
  simp

theorem unescape_escapeByte (b : UInt8) (rest : List UInt8) :
    unescape (Utf8.encode (escapeByte b) ++ rest) = misreadByte b :: unescape rest := by
  unfold escapeByte
  cases hletter : letterOf? b with
  | some letter => exact unescape_letter hletter rest
  | none =>
    have hne : ∀ c, (letterOf? c).isSome → b ≠ c := by
      rintro c hc rfl
      rw [hletter] at hc
      cases hc
    have hread : misreadByte b = b := by
      unfold misreadByte
      rw [if_neg (hne 0x07 rfl), if_neg (hne 0x08 rfl), if_neg (hne 0x0B rfl), if_neg (hne 0x0C rfl), if_neg (hne 0x0D rfl)]
    simp only
    split
    · rw [unescape_octal, hread]
    · rename_i hodd
      have hlt : b.toNat < 0x7F := by
        simp only [isOdd, Bool.or_eq_true, decide_eq_true_eq, not_or, UInt8.le_iff_toNat_le] at hodd
        exact Nat.lt_of_not_le hodd.2
      have hchar : (Char.ofNat b.toNat).toNat = b.toNat := Utf8.toNat_ofNat (by omega)
      have hbyte : Utf8.encode [Char.ofNat b.toNat] = [b] := by
        rw [Utf8.encode_cons, Utf8.encodeChar_of_lt (by omega), hchar]
        simp [Utf8.encode]
      rw [hbyte, hread]
      exact unescape_cons (hne 0x5C rfl) rest

theorem unescape_flatMap (bytes : List UInt8) :
    unescape (Utf8.encode (bytes.flatMap escapeByte)) = bytes.map misreadByte := by
  induction bytes with
  | nil => rfl
  | cons b bytes ih =>
    rw [List.flatMap_cons, Utf8.encode_append, unescape_escapeByte, ih, List.map_cons]

theorem encodeChar_misread (c : Char) : Utf8.encodeChar (misread c) = (Utf8.encodeChar c).map misreadByte := by
  by_cases hc : misread c = c
  · have hbytes : ∀ b ∈ Utf8.encodeChar c, misreadByte b = b := by
      intro b hb
      by_cases hascii : c.toNat < 0x80
      · rw [Utf8.encodeChar_of_lt hascii, List.mem_singleton] at hb
        have hne : ∀ n < 0x80, misread (Char.ofNat n) = Char.ofNat n → misreadByte n.toUInt8 = n.toUInt8 := by decide
        rw [hb]
        exact hne _ hascii (by rw [Char.ofNat_toNat, hc])
      · have hle := Utf8.le_of_mem_encodeChar (Nat.not_lt.mp hascii) hb
        have hne : ∀ d : UInt8, d.toNat < 0x80 → b ≠ d := by
          rintro d hd rfl
          omega
        unfold misreadByte
        rw [if_neg (hne 0x07 (by decide)), if_neg (hne 0x08 (by decide)), if_neg (hne 0x0B (by decide)),
          if_neg (hne 0x0C (by decide)), if_neg (hne 0x0D (by decide))]
    rw [hc, List.map_congr_left hbytes, List.map_id']
  · have hspecial : c = '\x07' ∨ c = '\x08' ∨ c = '\x0B' ∨ c = '\x0C' ∨ c = '\r' := by
      by_cases h : c = '\x07' ∨ c = '\x08' ∨ c = '\x0B' ∨ c = '\x0C' ∨ c = '\r'
      · exact h
      · simp only [not_or] at h
        exact absurd (by simp [misread, h]) hc
    rcases hspecial with rfl | rfl | rfl | rfl | rfl <;> rfl

theorem encode_map_misread (name : List Char) : Utf8.encode (name.map misread) = (Utf8.encode name).map misreadByte := by
  induction name with
  | nil => rfl
  | cons c name ih => rw [List.map_cons, Utf8.encode_cons, Utf8.encode_cons, List.map_append, ih, encodeChar_misread]

/-! ## Names -/

/-- A name without odd bytes has neither control characters nor quotes nor backslashes. -/
theorem of_not_odd {name : List Char} (h : ¬ (Utf8.encode name).any isOdd = true) {c : Char} (hc : c ∈ name) :
    0x20 ≤ c.toNat ∧ c ≠ '"' ∧ 0x5C ∉ Utf8.encodeChar c := by
  have hbytes : ∀ b ∈ Utf8.encodeChar c, isOdd b = false := by
    intro b hb
    simp only [List.any_eq_true, not_exists, not_and, Bool.not_eq_true] at h
    exact h b (List.mem_flatMap.mpr ⟨c, hc, hb⟩)
  have hlt : c.toNat < 0x80 → isOdd c.toNat.toUInt8 = false := by
    intro hascii
    exact hbytes _ (by rw [Utf8.encodeChar_of_lt hascii]; exact List.mem_singleton_self _)
  have hall : ∀ n < 0x80, isOdd n.toUInt8 = false → 0x20 ≤ n ∧ Char.ofNat n ≠ '"' := by decide
  refine ⟨?_, ?_, fun hmem => ?_⟩
  · by_cases hascii : c.toNat < 0x80
    · exact (hall _ hascii (hlt hascii)).1
    · omega
  · rintro rfl
    exact absurd (hlt (by decide)) (by decide)
  · exact absurd (hbytes _ hmem) (by decide)

theorem misread_of_le {c : Char} (h : 0x20 ≤ c.toNat) : misread c = c := by
  have hne : ∀ d : Char, d.toNat < 0x20 → c ≠ d := by
    rintro d hd rfl
    omega
  unfold misread
  rw [if_neg (hne '\x07' (by decide)), if_neg (hne '\x08' (by decide)), if_neg (hne '\x0B' (by decide)),
    if_neg (hne '\x0C' (by decide)), if_neg (hne '\r' (by decide))]

theorem unquote_quoted (inner : List Char) :
    unquote ('"' :: inner ++ ['"']) = Utf8.decode (unescape (Utf8.encode inner)) := by
  simp [unquote]

/-- A name is read as it was, but for the characters that are misread. -/
theorem unquote_printedName (spaced : Bool) (name : List Char) : unquote (printedName spaced name) = name.map misread := by
  unfold printedName
  by_cases hodd : (Utf8.encode name).any isOdd = true
  · rw [if_pos hodd, unquote_quoted, unescape_flatMap, ← encode_map_misread, Utf8.decode_encode]
  · have hread : name.map misread = name := by
      rw [List.map_congr_left fun c hc => misread_of_le (of_not_odd hodd hc).1, List.map_id']
    rw [if_neg hodd, hread]
    split
    · have hplain : 0x5C ∉ Utf8.encode name := by
        intro hmem
        obtain ⟨c, hc, hb⟩ := List.mem_flatMap.mp hmem
        exact (of_not_odd hodd hc).2.2 hb
      rw [unquote_quoted, unescape_of_not_mem hplain, Utf8.decode_encode]
    · unfold unquote
      split
      · exact absurd rfl (of_not_odd hodd List.mem_cons_self).2.1
      · rfl

theorem printable_of_mem_escapeByte {b : UInt8} {c : Char} (h : c ∈ escapeByte b) : 0x20 ≤ c.toNat := by
  have hall : ∀ n < 256, (escapeByte n.toUInt8).all (0x20 ≤ ·.toNat) = true := by decide +kernel
  have hb := hall b.toNat b.toNat_lt
  rw [Nat.toUInt8_eq, UInt8.ofNat_toNat, List.all_eq_true] at hb
  simpa using hb c h

/-- Git writes names without control characters. -/
theorem printable_of_mem_printedName {spaced : Bool} {name : List Char} {c : Char} (h : c ∈ printedName spaced name) :
    0x20 ≤ c.toNat := by
  have hquote : 0x20 ≤ '"'.toNat := by decide
  unfold printedName at h
  by_cases hodd : (Utf8.encode name).any isOdd = true
  · rw [if_pos hodd] at h
    simp only [List.cons_append, List.mem_cons, List.mem_append, List.mem_flatMap, List.not_mem_nil, or_false] at h
    rcases h with rfl | ⟨b, _, hb⟩ | rfl
    · exact hquote
    · exact printable_of_mem_escapeByte hb
    · exact hquote
  · rw [if_neg hodd] at h
    split at h
    · simp only [List.cons_append, List.mem_cons, List.mem_append, List.not_mem_nil, or_false] at h
      rcases h with rfl | hc | rfl
      · exact hquote
      · exact (of_not_odd hodd hc).1
      · exact hquote
    · exact (of_not_odd hodd h).1

theorem printedName_ne_nil {spaced : Bool} {name : List Char} (h : name ≠ []) : printedName spaced name ≠ [] := by
  unfold printedName
  split
  · simp
  · split
    · simp
    · exact h

/-- What is printed of a file is one line. -/
theorem oneLine_printedName (before : List Char) {spaced : Bool} {name : String} (hname : name ≠ "")
    (hbefore : '\n' ∉ before) :
    '\n' ∉ before ++ printedName spaced name.toList ∧
      (before ++ printedName spaced name.toList).getLast? ≠ some '\r' := by
  have hne : printedName spaced name.toList ≠ [] := printedName_ne_nil (by simpa using hname)
  constructor
  · rw [List.mem_append, not_or]
    exact ⟨hbefore, fun h => absurd (printable_of_mem_printedName h) (by decide)⟩
  · rw [List.getLast?_append_of_ne_nil _ hne]
    intro h
    exact absurd (printable_of_mem_printedName (List.mem_of_getLast? h)) (by decide)

/-! ## Accounts -/

/-- The change that the code of a status line stands for. -/
def changeOfPair? (code : Char × Char) : Option Change := changeOfCode? code.1 code.2

/-- The change that a letter stands for. -/
def changeOfLetter? (letter : Char) : Option Change :=
  if letter = 'A' then some .added else if letter = 'M' then some .modified else none

/-- The entries whose code stands for a change. -/
def accepted {κ : Type} (change? : κ → Option Change) (entries : List (κ × String)) : List (String × Change) :=
  entries.filterMap fun e => (change? e.1).map (e.2, ·)

/-- The entry as it is read. -/
def misreadEntry (e : String × Change) : String × Change := (String.ofList (e.1.toList.map misread), e.2)

/-- The lines of an account that are each read as the entry of a file are read as the entries of all files. -/
theorem filterMap_account {κ : Type} {change? : κ → Option Change} {line : κ × String → List Char}
    {read? : List Char → Option (String × Change)} {entries : List (κ × String)}
    (hline : ∀ e ∈ entries, '\n' ∉ line e ∧ (line e).getLast? ≠ some '\r')
    (hread : ∀ e ∈ entries, read? (line e) = (change? e.1).map fun change => misreadEntry (e.2, change)) :
    (lines (account (entries.map line)).toList).filterMap read? = (accepted change? entries).map misreadEntry := by
  have hmap : ∀ l ∈ entries.map line, '\n' ∉ l ∧ l.getLast? ≠ some '\r' := by
    intro l hl
    obtain ⟨e, he, rfl⟩ := List.mem_map.mp hl
    exact hline e he
  rw [account, String.toList_ofList, lines_flatMap hmap, List.filterMap_map, accepted, List.map_filterMap]
  refine List.filterMap_congr fun e he => ?_
  rw [Function.comp_apply, hread e he, Option.map_map]
  rfl

theorem named_printedName (spaced : Bool) (name : String) (change : Change) :
    named (printedName spaced name.toList) change = misreadEntry (name, change) := by
  rw [named, unquote_printedName, misreadEntry]

theorem statusLine?_printedStatus {e : (Char × Char) × String} (h : e.2 ≠ "") :
    statusLine? (printedStatus e) = (changeOfPair? e.1).map fun change => misreadEntry (e.2, change) := by
  have hne : printedName true e.2.toList ≠ [] := printedName_ne_nil (by simpa using h)
  obtain ⟨c, rest, hname⟩ := List.exists_cons_of_ne_nil hne
  rw [printedStatus, hname, statusLine?_code, changeOfPair?]
  refine congrArg (Option.map · _) (funext fun change => ?_)
  rw [← hname, named_printedName]

theorem treeLine?_printedChange {e : Char × String} (h : e.2 ≠ "") :
    treeLine? (printedChange e) = (changeOfLetter? e.1).map fun change => misreadEntry (e.2, change) := by
  have hne : printedName false e.2.toList ≠ [] := printedName_ne_nil (by simpa using h)
  obtain ⟨c, rest, hname⟩ := List.exists_cons_of_ne_nil hne
  have hblank : Unicode.isBlank '\t' = true := by decide
  rw [printedChange, hname, treeLine?, hblank, changeOfLetter?, ← hname]
  simp only [named_printedName, Bool.and_true, Bool.or_eq_true, beq_iff_eq]
  by_cases hA : e.1 = 'A'
  · simp [hA]
  · by_cases hM : e.1 = 'M'
    · simp [hM]
    · simp [hA, hM]

/-- The entries of a status that count: those accepted, without the untracked ones where only tracked ones count. -/
def acceptedStatuses (trackedOnly : Bool) (entries : List ((Char × Char) × String)) : List (String × Change) :=
  (accepted changeOfPair? entries).filter fun e => !(trackedOnly && e.2 == .untracked)

theorem statusEntries_account {entries : List ((Char × Char) × String)} (trackedOnly : Bool)
    (h : ∀ e ∈ entries, e.1.1 ≠ '\n' ∧ e.1.2 ≠ '\n' ∧ e.2 ≠ "") :
    statusEntries (account (entries.map printedStatus)) trackedOnly =
      (acceptedStatuses trackedOnly entries).map misreadEntry := by
  have hline : ∀ e ∈ entries, '\n' ∉ printedStatus e ∧ (printedStatus e).getLast? ≠ some '\r' := by
    intro e he
    obtain ⟨hx, hy, hname⟩ := h e he
    refine oneLine_printedName [e.1.1, e.1.2, ' '] hname ?_
    simp [Ne.symm hx, Ne.symm hy]
  rw [statusEntries, filterMap_account hline fun e he => statusLine?_printedStatus (h e he).2.2, List.filter_map]
  rfl

theorem commitEntries_account {entries : List (Char × String)} (h : ∀ e ∈ entries, e.1 ≠ '\n' ∧ e.2 ≠ "") :
    commitEntries (account (entries.map printedChange)) = (accepted changeOfLetter? entries).map misreadEntry := by
  have hline : ∀ e ∈ entries, '\n' ∉ printedChange e ∧ (printedChange e).getLast? ≠ some '\r' := by
    intro e he
    refine oneLine_printedName [e.1, '\t'] (h e he).2 ?_
    simp [Ne.symm (h e he).1]
  rw [commitEntries, filterMap_account hline fun e he => treeLine?_printedChange (h e he).2]

/-- The characters that git writes with a letter that the reader does not know. -/
def misreadChars : List Char := ['\x07', '\x08', '\x0B', '\x0C', '\r']

theorem misread_eq_iff {c : Char} : misread c = c ↔ c ∉ misreadChars := by
  constructor
  · intro h hc
    have hall : (misreadChars.all fun d => misread d != d) = true := by decide
    simpa [h] using List.all_eq_true.mp hall c hc
  · intro h
    simp only [misreadChars, List.mem_cons, List.not_mem_nil, or_false, not_or] at h
    simp [misread, h]

theorem map_eq_self_iff {α : Type} {f : α → α} {l : List α} : l.map f = l ↔ ∀ a ∈ l, f a = a := by
  have h := List.map_inj_left (f := f) (g := id) (l := l)
  rwa [List.map_id] at h

theorem map_misreadEntry_eq_iff {entries : List (String × Change)} :
    entries.map misreadEntry = entries ↔ ∀ e ∈ entries, ∀ c ∈ e.1.toList, c ∉ misreadChars := by
  have hentry : ∀ e : String × Change, misreadEntry e = e ↔ ∀ c ∈ e.1.toList, c ∉ misreadChars := by
    rintro ⟨name, change⟩
    rw [misreadEntry, Prod.mk.injEq, ← String.toList_inj, String.toList_ofList, map_eq_self_iff]
    simp only [misread_eq_iff, and_true]
  rw [map_eq_self_iff]
  simp only [hentry]

/-- The accepted entries of accounts are read as they were exactly when no name has a character that is misread. -/
theorem entries_printed_iff {statuses : List ((Char × Char) × String)} {changes : List (Char × String)} (trackedOnly : Bool)
    (hs : ∀ e ∈ statuses, e.1.1 ≠ '\n' ∧ e.1.2 ≠ '\n' ∧ e.2 ≠ "") (hc : ∀ e ∈ changes, e.1 ≠ '\n' ∧ e.2 ≠ "") :
    (statusEntries (account (statuses.map printedStatus)) trackedOnly = acceptedStatuses trackedOnly statuses ↔
      ∀ e ∈ acceptedStatuses trackedOnly statuses, ∀ c ∈ e.1.toList, c ∉ misreadChars) ∧
    (commitEntries (account (changes.map printedChange)) = accepted changeOfLetter? changes ↔
      ∀ e ∈ accepted changeOfLetter? changes, ∀ c ∈ e.1.toList, c ∉ misreadChars) := by
  rw [statusEntries_account trackedOnly hs, commitEntries_account hc]
  exact ⟨map_misreadEntry_eq_iff, map_misreadEntry_eq_iff⟩

/-- Names with a space, quotes, a line feed, a tab and umlauts are read as they were. -/
theorem entries_printed_umlauts :
    statusEntries (account ([(('?', '?'), "a \"\u00FC\"\n.py"), ((' ', 'D'), "gone\r.py"), (('M', ' '), "b.py")].map printedStatus))
      false = [("a \"\u00FC\"\n.py", .untracked), ("b.py", .modified)] ∧
    commitEntries (account ([('A', "\u00E4\t1.py"), ('M', "c d.py")].map printedChange)) =
      [("\u00E4\t1.py", .added), ("c d.py", .modified)] := by
  have hs : ∀ e ∈ [(('?', '?'), "a \"\u00FC\"\n.py"), ((' ', 'D'), "gone\r.py"), (('M', ' '), "b.py")],
      e.1.1 ≠ '\n' ∧ e.1.2 ≠ '\n' ∧ e.2 ≠ "" := by decide
  have hc : ∀ e ∈ [('A', "\u00E4\t1.py"), ('M', "c d.py")], e.1 ≠ '\n' ∧ e.2 ≠ "" := by decide
  have h := entries_printed_iff false hs hc
  have hnames : ∀ es : List (String × Change), (es.all fun e => e.1.toList.all fun c => !misreadChars.contains c) = true →
      ∀ e ∈ es, ∀ c ∈ e.1.toList, c ∉ misreadChars := by
    intro es hes
    simpa using hes
  exact ⟨h.1.mpr (hnames _ (by decide +kernel)), h.2.mpr (hnames _ (by decide +kernel))⟩

/-- A carriage return is written with a letter that is not known, and read as that letter. -/
theorem entries_printed_return :
    account ([(('?', '?'), "a\rb.py")].map printedStatus) = "?? \"a\\rb.py\"\n" ∧
      statusEntries "?? \"a\\rb.py\"\n" false = [("arb.py", .untracked)] := by
  decide +kernel

end DeltaLint.Git

import DeltaLint.Proofs.Git.Blame
import DeltaLint.Proofs.Git.Quoting
import DeltaLint.Proofs.Text
import Mathlib.Data.List.Sort

/-
  DeltaLint.Proofs.Git.Porcelain — blames as git writes them, and what is read of them.

  An entry is about one line of a file: a header with the hash of a commit and the numbers that the line
  had there and has now, notes that begin with a keyword, and the line itself after a tab (`BlameEntry`).
  What follows a keyword or the tab is arbitrary, but does not make a header: a header begins with forty
  hexadecimal digits, and every keyword has another character.

  Proved:
  - `BlameEntry.isHeader_header` / `BlameEntry.not_isHeader_of_mem_notes`: of the lines of an entry the first
    is a header, with its hash and number, and no other is one.
  - `blames_porcelain_iff`: what a blame says is said by its entries, in whatever order.
  - `blamedLines_porcelain`: the lines that are read are the numbers of the commit's entries that have 32 bits.
-/

namespace DeltaLint.Git

open Text

/-! ## Entries -/

/-- The digits of a hash. -/
def hexDigits : List Char := "0123456789abcdef".toList

/-- What the notes of an entry begin with. -/
def keywords : List (List Char) :=
  ["author", "committer", "summary", "previous", "filename", "boundary"].map String.toList

/-- An entry of a blame. -/
structure BlameEntry where
  hash : List Char
  /-- The number of the line in the commit. -/
  original : Nat
  /-- The number of the line now. -/
  final : Nat
  /-- How many lines come from the commit together, where the entry is the first of them. -/
  size : Option Nat
  /-- Keywords, each with the text after it. -/
  notes : List (List Char × List Char)
  content : List Char
  hash_digits : ∀ c ∈ hash, c ∈ hexDigits
  hash_length : 40 ≤ hash.length ∧ hash.length ≤ 64
  notes_keywords : ∀ note ∈ notes, note.1 ∈ keywords ∧ '\n' ∉ note.2
  content_row : '\n' ∉ content

namespace BlameEntry

/-- The text after the numbers of the line. -/
def sizeText (e : BlameEntry) : List Char :=
  match e.size with
  | some n => ' ' :: decimal n
  | none => []

def header (e : BlameEntry) : List Char :=
  e.hash ++ ' ' :: (decimal e.original ++ ' ' :: (decimal e.final ++ e.sizeText))

/-- The lines after the header: the notes, and the line of the file. -/
def body (e : BlameEntry) : List (List Char) := e.notes.map (fun note => note.1 ++ note.2) ++ ['\t' :: e.content]

/-- The commit and the number that the line has now. -/
def origin (e : BlameEntry) : List Char × Nat := (e.hash, e.final)

end BlameEntry

/-- The blame with these entries. -/
def porcelain (entries : List BlameEntry) : String := account (entries.flatMap fun e => e.header :: e.body)

/-! ## Headers -/

theorem isHashDigit_of_mem {c : Char} (h : c ∈ hexDigits) : isHashDigit c = true := by
  have hall : hexDigits.all isHashDigit = true := by decide
  exact List.all_eq_true.mp hall c h

theorem mem_hexDigits_of_isDigit {c : Char} (h : c.isDigit = true) : c ∈ hexDigits := of_isDigit h (by decide)

theorem isDecimal_of_isDigit {c : Char} (h : c.isDigit = true) : isDecimal c = true := of_isDigit h (by decide)

/-- Digits of a number, as a header has them. -/
theorem decimal_isDecimal (n : Nat) : decimal n ≠ [] ∧ (decimal n).all isDecimal = true :=
  ⟨Nat.toDigits_ne_nil, List.all_eq_true.mpr fun _ hc => isDecimal_of_isDigit (isDigit_of_mem_decimal hc)⟩

/-- A line has the parts of one header at most. -/
theorem IsHeader.det {line hash hash' number number' : List Char} (h : IsHeader line hash number)
    (h' : IsHeader line hash' number') : hash = hash' ∧ number = number' := by
  have heq := (blameHeader?_eq_some_iff.mpr h).symm.trans (blameHeader?_eq_some_iff.mpr h')
  exact BlameHeader.mk.inj (Option.some.inj heq)

theorem dropReturn_isPrefixOf (line : List Char) : dropReturn line <+: line := by
  unfold dropReturn
  split
  · exact List.dropLast_prefix line
  · exact List.prefix_refl line

/-- A line is no header when it begins with up to forty characters that are not all digits of a hash. -/
theorem not_isHeader_of_start {start line hash number : List Char} (hstart : start <+: line) (hlength : start.length ≤ 40)
    (hall : start.all isHashDigit = false) : ¬ IsHeader (dropReturn line) hash number := by
  rintro ⟨old, rest, hline, ⟨hmin, -, hhash⟩, -⟩
  have hbegins : hash <+: line :=
    List.IsPrefix.trans ⟨' ' :: (old ++ ' ' :: (number ++ rest)), hline.symm⟩ (dropReturn_isPrefixOf line)
  have hwithin : start <+: hash := List.prefix_of_prefix_length_le hstart hbegins (by omega)
  have hdigits : start.all isHashDigit = true :=
    List.all_eq_true.mpr fun c hc => List.all_eq_true.mp hhash c (hwithin.subset hc)
  rw [hdigits] at hall
  cases hall

namespace BlameEntry

variable (e : BlameEntry)

theorem isHeader_header : IsHeader e.header e.hash (decimal e.final) := by
  have hhash : e.hash.all isHashDigit = true := List.all_eq_true.mpr fun c hc => isHashDigit_of_mem (e.hash_digits c hc)
  have hsize : e.sizeText.head?.any isDecimal = false := by
    unfold sizeText
    cases e.size with
    | none => rfl
    | some n => exact (by decide : isDecimal ' ' = false)
  exact ⟨decimal e.original, e.sizeText, rfl, ⟨e.hash_length.1, e.hash_length.2, hhash⟩, decimal_isDecimal _,
    decimal_isDecimal _, hsize⟩

theorem mem_header {c : Char} (h : c ∈ e.header) : c ∈ ' ' :: hexDigits := by
  have hdecimal : ∀ {n : Nat}, c ∈ decimal n → c ∈ ' ' :: hexDigits := fun hc =>
    List.mem_cons_of_mem _ (mem_hexDigits_of_isDigit (isDigit_of_mem_decimal hc))
  have hsize : c ∈ e.sizeText → c ∈ ' ' :: hexDigits := by
    unfold sizeText
    cases e.size with
    | none => exact fun hc => absurd hc List.not_mem_nil
    | some n =>
      intro hc
      rcases List.mem_cons.mp hc with rfl | hc
      · exact List.mem_cons_self
      · exact hdecimal hc
  simp only [header, List.mem_append, List.mem_cons (b := ' ')] at h
  rcases h with hc | rfl | hc | rfl | hc | hc
  · exact List.mem_cons_of_mem _ (e.hash_digits c hc)
  · exact List.mem_cons_self
  · exact hdecimal hc
  · exact List.mem_cons_self
  · exact hdecimal hc
  · exact hsize hc

theorem dropReturn_header : dropReturn e.header = e.header := by
  refine if_neg fun hlast => ?_
  exact absurd (e.mem_header (List.mem_of_getLast? hlast)) (by decide)

theorem no_newline {line : List Char} (h : line ∈ e.header :: e.body) : '\n' ∉ line := by
  have hkeywords : keywords.all (fun k => !k.contains '\n') = true := by decide
  simp only [body, List.mem_cons, List.mem_append, List.mem_map, List.not_mem_nil, or_false] at h
  rcases h with rfl | ⟨note, hnote, rfl⟩ | rfl
  · exact fun hc => absurd (e.mem_header hc) (by decide)
  · obtain ⟨hkeyword, htext⟩ := e.notes_keywords note hnote
    have hk : '\n' ∉ note.1 := by simpa using List.all_eq_true.mp hkeywords note.1 hkeyword
    rw [List.mem_append, not_or]
    exact ⟨hk, htext⟩
  · simp [e.content_row]

/-- Neither a note nor the line of the file is taken for a header. -/
theorem not_isHeader_of_mem_body {line hash number : List Char} (h : line ∈ e.body) :
    ¬ IsHeader (dropReturn line) hash number := by
  have hkeywords : keywords.all (fun k => decide (k.length ≤ 40) && !k.all isHashDigit) = true := by decide
  rcases List.mem_append.mp h with h | h
  · obtain ⟨note, hnote, rfl⟩ := List.mem_map.mp h
    have hk := List.all_eq_true.mp hkeywords note.1 (e.notes_keywords note hnote).1
    rw [Bool.and_eq_true, decide_eq_true_iff, Bool.not_eq_true'] at hk
    exact not_isHeader_of_start (List.prefix_append _ _) hk.1 hk.2
  · obtain rfl := List.mem_singleton.mp h
    have htab : ['\t'] <+: '\t' :: e.content := List.prefix_append ['\t'] e.content
    exact not_isHeader_of_start htab (by decide) (by decide)

end BlameEntry

/-! ## Blames -/

theorem lines_porcelain (entries : List BlameEntry) :
    lines (porcelain entries).toList = (entries.flatMap fun e => e.header :: e.body).map dropReturn := by
  rw [porcelain, account, String.toList_ofList]
  refine lines_rows fun line hline => ?_
  obtain ⟨e, -, hline⟩ := List.mem_flatMap.mp hline
  exact e.no_newline hline

/-- What a blame says is said by its entries. -/
theorem blames_porcelain_iff {entries : List BlameEntry} {commit : Option String} {n : Nat} :
    Blames (porcelain entries) commit n ↔ n ≤ word32 ∧ ∃ e ∈ entries, HashOf commit e.hash ∧ e.final = n := by
  unfold Blames
  simp only [lines_porcelain, List.mem_map, List.mem_flatMap]
  constructor
  · rintro ⟨_, ⟨line, ⟨e, he, hline⟩, rfl⟩, hash, number, hheader, hof, hnumber⟩
    rcases List.mem_cons.mp hline with rfl | hbody
    · rw [e.dropReturn_header] at hheader
      obtain ⟨rfl, rfl⟩ := hheader.det e.isHeader_header
      obtain ⟨hfinal, hbound⟩ := decimal?_decimal_eq_some_iff.mp hnumber
      exact ⟨hbound, e, he, hof, hfinal⟩
    · exact absurd hheader (e.not_isHeader_of_mem_body hbody)
  · rintro ⟨hbound, e, he, hof, hfinal⟩
    refine ⟨e.header, ⟨e.header, ⟨e, he, List.mem_cons_self⟩, e.dropReturn_header⟩, e.hash, decimal e.final,
      e.isHeader_header, hof, ?_⟩
    exact decimal?_decimal_eq_some_iff.mpr ⟨hfinal, hbound⟩

/-- The lines that are read increase, and are the numbers of 32 bits of the lines that the entries give to the commit.
Neither the order of the entries nor anything else in them has a part in it. -/
theorem blamedLines_porcelain (entries : List BlameEntry) (commit : Option String) :
    (blamedLines (porcelain entries) commit).Pairwise (· < ·) ∧
    (∀ n, n ∈ blamedLines (porcelain entries) commit ↔
      n < UInt32.size ∧ ∃ e ∈ entries, HashOf commit e.hash ∧ e.final = n) ∧
    ∀ others : List BlameEntry, (others.map BlameEntry.origin).Perm (entries.map BlameEntry.origin) →
      blamedLines (porcelain others) commit = blamedLines (porcelain entries) commit := by
  have hmem : ∀ (es : List BlameEntry) (n : Nat), n ∈ blamedLines (porcelain es) commit ↔
      n < UInt32.size ∧ ∃ o ∈ es.map BlameEntry.origin, HashOf commit o.1 ∧ o.2 = n := by
    intro es n
    have hbound : n ≤ word32 ↔ n < UInt32.size := Nat.lt_succ_iff.symm
    rw [mem_blamedLines, blames_porcelain_iff, hbound]
    simp [BlameEntry.origin]
  refine ⟨blamedLines_increasing _ _, fun n => ?_, fun others hothers => ?_⟩
  · rw [hmem]
    simp [BlameEntry.origin]
  · refine (blamedLines_increasing _ _).eq_of_mem_iff (blamedLines_increasing _ _) fun n => ?_
    simp only [hmem, hothers.mem_iff]

/-- A line that is not committed, with a text like a header. -/
def freshEntry : BlameEntry where
  hash := List.replicate 40 '0'
  original := 2
  final := 7
  size := some 1
  notes := [("author".toList, " Not Committed Yet".toList), ("boundary".toList, [])]
  content := List.replicate 40 '0' ++ " 9 9".toList
  hash_digits := fun c hc => by
    rw [List.eq_of_mem_replicate hc]
    decide
  hash_length := by simp
  notes_keywords := by decide
  content_row := by decide

def committedEntry : BlameEntry where
  __ := freshEntry
  hash := List.replicate 64 'a'
  final := 3
  hash_digits := fun c hc => by
    rw [List.eq_of_mem_replicate hc]
    decide
  hash_length := by simp

theorem blamedLines_porcelain_fresh :
    ([committedEntry, freshEntry].map BlameEntry.origin).Perm ([freshEntry, committedEntry].map BlameEntry.origin) ∧
    blamedLines (porcelain [committedEntry, freshEntry]) none = blamedLines (porcelain [freshEntry, committedEntry]) none ∧
    ∀ n, n ∈ blamedLines (porcelain [freshEntry, committedEntry]) none ↔ n = 7 := by
  have hperm : ([committedEntry, freshEntry].map BlameEntry.origin).Perm ([freshEntry, committedEntry].map BlameEntry.origin) :=
    List.Perm.swap _ _ _
  obtain ⟨-, hmem, horder⟩ := blamedLines_porcelain [freshEntry, committedEntry] none
  refine ⟨hperm, horder _ hperm, fun n => ?_⟩
  rw [hmem]
  constructor
  · rintro ⟨-, e, he, hof, rfl⟩
    rcases List.mem_pair.mp he with rfl | rfl
    · rfl
    · exact absurd (hof 'a' (by decide)) (by decide)
  · rintro rfl
    exact ⟨by decide, freshEntry, List.mem_cons_self, fun c hc => List.eq_of_mem_replicate hc, rfl⟩

end DeltaLint.Git

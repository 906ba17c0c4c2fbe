import DeltaLint.Git.Changes
import Mathlib.Data.List.TakeWhile

/-
  DeltaLint.Proofs.Git.Blame — which lines a blame gives to a commit.

  A header is said by its parts (`IsHeader`), and what a blame says by its headers (`Blames`), without
  the order in which they are read.

  Proved:
  - `blameHeader?_eq_some_iff`: the headers read are the headers there are.
  - `mem_blamedLines` / `blamedLines_increasing`: the lines read are those that the blame gives to the
    commit, in increasing order and once each.
-/

namespace DeltaLint.Git

/-- The first `p`s of a text and the rest are the only way to part it into `p`s and what begins with none. -/
theorem takeWhile_dropWhile_iff {p : Char → Bool} {text ds rest : List Char} :
    (text.takeWhile p = ds ∧ text.dropWhile p = rest) ↔
      text = ds ++ rest ∧ ds.all p = true ∧ rest.head?.any p = false := by
  constructor
  · rintro ⟨rfl, rfl⟩
    refine ⟨List.takeWhile_append_dropWhile.symm, ?_, ?_⟩
    · exact List.all_eq_true.mpr fun c hc => List.mem_takeWhile_imp hc
    · cases h : text.dropWhile p with
      | nil => rfl
      | cons c rest =>
        have := List.head?_dropWhile_not p text
        rw [h] at this
        simpa using this
  · rintro ⟨rfl, hds, hrest⟩
    have hall : ∀ c ∈ ds, p c = true := List.all_eq_true.mp hds
    rw [List.takeWhile_append_of_pos hall, List.dropWhile_append_of_pos hall]
    cases rest with
    | nil => simp
    | cons c rest => simp_all

def isDecimal (c : Char) : Bool := Unicode.Category.decimalNumber.contains c

/-- The line begins as a header: a hash, the old number of a line and its new one. -/
def IsHeader (line hash number : List Char) : Prop :=
  ∃ old rest, line = hash ++ ' ' :: (old ++ ' ' :: (number ++ rest)) ∧
    (40 ≤ hash.length ∧ hash.length ≤ 64 ∧ hash.all isHashDigit = true) ∧
    (old ≠ [] ∧ old.all isDecimal = true) ∧ (number ≠ [] ∧ number.all isDecimal = true) ∧ rest.head?.any isDecimal = false

/-- The hash is that of the commit; without a commit, all zeros. -/
def HashOf (commit : Option String) (hash : List Char) : Prop :=
  match commit with
  | some commit => String.ofList hash = commit
  | none => ∀ c ∈ hash, c = '0'

/-- Some header of the blame gives the line with this number, one of 32 bits, to the commit. -/
def Blames (text : String) (commit : Option String) (n : Nat) : Prop :=
  ∃ line ∈ Text.lines text.toList, ∃ hash number,
    IsHeader line hash number ∧ HashOf commit hash ∧ Text.decimal? Text.word32 number = some n

/-! ## Headers -/

theorem number?_eq_some_iff {text ds rest : List Char} :
    number? text = some (ds, rest) ↔
      text = ds ++ rest ∧ (ds ≠ [] ∧ ds.all isDecimal = true) ∧ rest.head?.any isDecimal = false := by
  have hspan := @takeWhile_dropWhile_iff isDecimal text ds rest
  show (if (text.takeWhile isDecimal).isEmpty = true then none
    else some (text.takeWhile isDecimal, text.dropWhile isDecimal)) = some (ds, rest) ↔ _
  constructor
  · intro h
    split at h
    · cases h
    · rename_i hne
      obtain ⟨h1, h2⟩ := Prod.mk.inj (Option.some.inj h)
      obtain ⟨h3, h4, h5⟩ := hspan.mp ⟨h1, h2⟩
      refine ⟨h3, ⟨?_, h4⟩, h5⟩
      rintro rfl
      exact hne (by rw [h1]; rfl)
  · rintro ⟨h3, ⟨hne, h4⟩, h5⟩
    obtain ⟨h1, h2⟩ := hspan.mpr ⟨h3, h4, h5⟩
    rw [h1, h2, if_neg]
    simpa using hne

theorem blameHeader?_eq_some_iff {line hash number : List Char} :
    blameHeader? line = some ⟨hash, number⟩ ↔ IsHeader line hash number := by
  constructor
  · intro h
    simp only [blameHeader?] at h
    split at h
    · split at h <;> cases h
    · rename_i hlen
      split at h
      · rename_i afterHash hdrop
        obtain ⟨⟨old, afterOld⟩, hold, h⟩ := Option.bind_eq_some_iff.mp h
        split at h
        · rename_i beforeNumber hrest
          cases hrest
          obtain ⟨⟨number', rest⟩, hnumber, h⟩ := Option.bind_eq_some_iff.mp h
          obtain ⟨hh, hn⟩ := BlameHeader.mk.inj (Option.some.inj h)
          simp only at hn
          subst hn
          obtain ⟨hline, hall, _⟩ := takeWhile_dropWhile_iff.mp ⟨hh, hdrop⟩
          obtain ⟨rfl, hold', _⟩ := number?_eq_some_iff.mp hold
          obtain ⟨rfl, hnumber', hend⟩ := number?_eq_some_iff.mp hnumber
          rw [hh] at hlen
          simp only [Bool.or_eq_true, decide_eq_true_eq, not_or, Nat.not_lt] at hlen
          exact ⟨old, rest, hline, ⟨hlen.1, hlen.2, hall⟩, hold', hnumber', hend⟩
        · cases h
      · cases h
  · rintro ⟨old, rest, rfl, ⟨hmin, hmax, hall⟩, hold, hnumber, hend⟩
    obtain ⟨h1, h2⟩ := takeWhile_dropWhile_iff.mpr
      ⟨rfl, hall, (by rfl : (' ' :: (old ++ ' ' :: (number ++ rest))).head?.any isHashDigit = false)⟩
    have h3 := number?_eq_some_iff.mpr ⟨rfl, hold, (by rfl : (' ' :: (number ++ rest)).head?.any isDecimal = false)⟩
    have h4 := number?_eq_some_iff.mpr ⟨rfl, hnumber, hend⟩
    have hlen : ¬ (decide (hash.length < 40) || decide (64 < hash.length)) = true := by
      simp only [Bool.or_eq_true, decide_eq_true_eq]
      omega
    simp only [blameHeader?, h1, h2, if_neg hlen, h3, h4, bind, Option.bind]

theorem isOf_iff {h : BlameHeader} {commit : Option String} : h.isOf commit = true ↔ HashOf commit h.hash := by
  cases commit with
  | none => simp [BlameHeader.isOf, HashOf]
  | some commit => simp [BlameHeader.isOf, HashOf]

/-! ## Lines in order -/

theorem mem_insertLine {n m : Nat} {ns : List Nat} : m ∈ insertLine n ns ↔ m = n ∨ m ∈ ns := by
  induction ns with
  | nil => simp [insertLine]
  | cons k ns ih =>
    unfold insertLine
    split
    · simp
    · split
      · rename_i h
        subst h
        simp
      · simp only [List.mem_cons, ih]
        exact or_left_comm

theorem insertLine_increasing {n : Nat} {ns : List Nat} (h : ns.Pairwise (· < ·)) : (insertLine n ns).Pairwise (· < ·) := by
  induction ns with
  | nil => simp [insertLine]
  | cons k ns ih =>
    obtain ⟨hk, hns⟩ := List.pairwise_cons.mp h
    unfold insertLine
    split
    · rename_i hlt
      refine List.pairwise_cons.mpr ⟨fun m hm => ?_, h⟩
      rcases List.mem_cons.mp hm with rfl | hm
      · exact hlt
      · have := hk m hm
        omega
    · split
      · exact h
      · rename_i hlt hne
        refine List.pairwise_cons.mpr ⟨fun m hm => ?_, ih hns⟩
        rcases mem_insertLine.mp hm with rfl | hm
        · omega
        · exact hk m hm

theorem mem_foldr_insertLine {n : Nat} {ns : List Nat} : n ∈ ns.foldr insertLine [] ↔ n ∈ ns := by
  induction ns with
  | nil => rfl
  | cons m ns ih => simp only [List.foldr_cons, mem_insertLine, ih, List.mem_cons]

theorem blamedLines_increasing (text : String) (commit : Option String) : (blamedLines text commit).Pairwise (· < ·) := by
  simp only [blamedLines]
  generalize List.filterMap (fun h : BlameHeader => Text.decimal? Text.word32 h.line) _ = ns
  induction ns with
  | nil => exact List.Pairwise.nil
  | cons n ns ih => exact insertLine_increasing ih

theorem mem_blamedLines {text : String} {commit : Option String} {n : Nat} :
    n ∈ blamedLines text commit ↔ Blames text commit n := by
  unfold blamedLines Blames
  simp only [mem_foldr_insertLine, List.mem_filterMap, List.mem_filter, isOf_iff]
  constructor
  · rintro ⟨⟨hash, number⟩, ⟨⟨line, hline, hheader⟩, hof⟩, hn⟩
    exact ⟨line, hline, hash, number, blameHeader?_eq_some_iff.mp hheader, hof, hn⟩
  · rintro ⟨line, hline, hash, number, hheader, hof, hn⟩
    exact ⟨⟨hash, number⟩, ⟨⟨line, hline, blameHeader?_eq_some_iff.mpr hheader⟩, hof⟩, hn⟩

end DeltaLint.Git

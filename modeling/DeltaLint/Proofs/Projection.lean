import DeltaLint.Proofs.Selection
import DeltaLint.Proofs.Text

/-
  DeltaLint.Proofs.Projection — a filter takes lines away from an output and does nothing else.

  A search goes through a line from left to right and stops at the first place where a match begins
  (`search?`). A line is kept where that is its start, so matches further on neither keep it nor cost it
  its place. The lines kept are glued to a text again. Where there are any, that text has no other lines;
  where there are none it is empty, and an empty line is all that can be kept of it.

  Proved:
  - `search?_eq_some_iff` / `search?_eq_none_iff`: a search finds the first place where a match begins.
  - `search?_eq_zero_iff`: that is the start of the line exactly if some match begins there.
  - `kept_append`: the lines kept of two outputs, one after the other.
  - `keep_keep`: filtering once more changes nothing.
  - `keep_projects`: filtering is by where the search stops, and is such a projection.
-/

namespace DeltaLint

namespace Pattern

/-! ## The first match -/

/-- A match begins after `n` characters of the text, before which `before` stands. -/
def BeginsAt (p : Pattern) (before : Option Char) (text : List Char) (n : Nat) : Prop :=
  n ≤ text.length ∧ ∃ u rest, text.drop n = u ++ rest ∧ Matches p (lastOf before (text.take n)) u rest

/-- The first place where a match begins, by trying one after the other. -/
def searchFrom (p : Pattern) (before : Option Char) : List Char → Option Nat
  | [] => if (Marked.idle p.unrolled).endsIn true before [] then some 0 else none
  | c :: rest =>
    if (Marked.idle p.unrolled).endsIn true before (c :: rest) then some 0 else (searchFrom p (some c) rest).map (· + 1)

/-- After how many characters of the text the first match begins. -/
def search? (p : Pattern) (text : List Char) : Option Nat := p.searchFrom none text

variable {p : Pattern} {before : Option Char} {text : List Char} {n : Nat}

theorem beginsAt_zero_iff : p.BeginsAt before text 0 ↔ (Marked.idle p.unrolled).endsIn true before text = true := by
  simp [BeginsAt, Marked.endsIn_iff, Marked.Goes, Marked.plain, matches_unrolled, lastOf]

theorem beginsAt_none_zero_iff : p.BeginsAt none text 0 ↔ p.StartsIn text := by
  simp [BeginsAt, StartsIn, lastOf]

theorem beginsAt_succ_iff {c : Char} : p.BeginsAt before (c :: text) (n + 1) ↔ p.BeginsAt (some c) text n := by
  simp [BeginsAt, lastOf]

theorem not_beginsAt_nil : ¬p.BeginsAt before [] (n + 1) := fun h => Nat.not_succ_le_zero n h.1

theorem searchFrom_of_begins (h : p.BeginsAt before text 0) : p.searchFrom before text = some 0 := by
  cases text with
  | nil => exact if_pos (beginsAt_zero_iff.mp h)
  | cons c text => exact if_pos (beginsAt_zero_iff.mp h)

theorem searchFrom_cons {c : Char} (h : ¬p.BeginsAt before (c :: text) 0) :
    p.searchFrom before (c :: text) = (p.searchFrom (some c) text).map (· + 1) :=
  if_neg fun hends => h (beginsAt_zero_iff.mpr hends)

/-- Where no match begins at once, the first one begins after the first character. -/
theorem none_before_succ_iff {c : Char} (h : ¬p.BeginsAt before (c :: text) 0) :
    (∀ k < n + 1, ¬p.BeginsAt before (c :: text) k) ↔ ∀ k < n, ¬p.BeginsAt (some c) text k := by
  constructor
  · intro hnone k hk hbegins
    exact hnone (k + 1) (Nat.succ_lt_succ hk) (beginsAt_succ_iff.mpr hbegins)
  · intro hnone k hk
    cases k with
    | zero => exact h
    | succ k => exact fun hbegins => hnone k (Nat.lt_of_succ_lt_succ hk) (beginsAt_succ_iff.mp hbegins)

theorem searchFrom_eq_some_iff :
    p.searchFrom before text = some n ↔ p.BeginsAt before text n ∧ ∀ k < n, ¬p.BeginsAt before text k := by
  induction text generalizing before n with
  | nil =>
    by_cases hzero : p.BeginsAt before [] 0
    · rw [searchFrom_of_begins hzero]
      cases n with
      | zero => simp [hzero]
      | succ n => simp [not_beginsAt_nil]
    · rw [searchFrom, if_neg fun hends => hzero (beginsAt_zero_iff.mpr hends)]
      cases n with
      | zero => simp [hzero]
      | succ n => simp [not_beginsAt_nil]
  | cons c text ih =>
    by_cases hzero : p.BeginsAt before (c :: text) 0
    · rw [searchFrom_of_begins hzero]
      cases n with
      | zero => simp [hzero]
      | succ n =>
        refine iff_of_false (by simp) fun h => ?_
        exact h.2 0 (Nat.succ_pos n) hzero
    · rw [searchFrom_cons hzero]
      cases n with
      | zero => simp [hzero]
      | succ n =>
        have hstep : (p.searchFrom (some c) text).map (· + 1) = some (n + 1) ↔ p.searchFrom (some c) text = some n := by
          simp
        rw [hstep, ih, beginsAt_succ_iff, none_before_succ_iff hzero]

/-- A search finds the first place where a match begins. -/
theorem search?_eq_some_iff : p.search? text = some n ↔ p.BeginsAt none text n ∧ ∀ k < n, ¬p.BeginsAt none text k :=
  searchFrom_eq_some_iff

/-- A search finds nothing exactly where no match begins. -/
theorem search?_eq_none_iff : p.search? text = none ↔ ∀ n, ¬p.BeginsAt none text n := by
  constructor
  · intro h n
    induction n using Nat.strongRecOn with
    | ind n ih =>
      intro hbegins
      rw [search?_eq_some_iff.mpr ⟨hbegins, ih⟩] at h
      cases h
  · intro h
    cases hsearch : p.search? text with
    | none => rfl
    | some n => exact absurd (search?_eq_some_iff.mp hsearch).1 (h n)

/-- The first match begins at the start exactly if some match does. -/
theorem search?_eq_zero_iff : p.search? text = some 0 ↔ p.StartsIn text := by
  rw [search?_eq_some_iff, beginsAt_none_zero_iff]
  simp

end Pattern

namespace LineFilter

variable {p : Pattern}

/-! ## The lines that are kept -/

theorem kept_eq_search (p : Pattern) (output : String) :
    kept p output = (Text.pieces '\n' output.toList).filter fun line => p.search? line = some 0 := by
  refine List.filter_congr fun line _ => ?_
  rw [Bool.eq_iff_iff, decide_eq_true_iff, decide_eq_true_iff, Pattern.search?_eq_zero_iff]

theorem mem_kept_iff {output : String} {line : List Char} :
    line ∈ kept p output ↔ line ∈ Text.pieces '\n' output.toList ∧ p.StartsIn line := by
  rw [kept, List.mem_filter, decide_eq_true_iff]

theorem kept_append (p : Pattern) (a b : String) : kept p (a ++ "\n" ++ b) = kept p a ++ kept p b := by
  have htext : (a ++ "\n" ++ b).toList = a.toList ++ '\n' :: b.toList := by simp
  rw [kept, htext, Text.pieces_append, List.filter_append]
  rfl

/-- Where lines are kept, they are the lines of the text that is left. -/
theorem pieces_keep {output : String} (h : kept p output ≠ []) :
    Text.pieces '\n' (keep p output).toList = kept p output := by
  rw [keep_eq, String.toList_ofList]
  exact Text.pieces_glue h fun line hline => Text.not_mem_of_mem_pieces (mem_kept_iff.mp hline).1

/-- Filtering once more changes nothing. -/
theorem keep_keep (p : Pattern) (output : String) : keep p (keep p output) = keep p output := by
  by_cases hnone : kept p output = []
  · -- The text that is left is empty, and what is kept of its one empty line makes an empty text too.
    have hempty : keep p output = "" := by
      rw [keep_eq, hnone]
      rfl
    rw [hempty, keep]
    exact congrArg String.ofList (Text.glue_filter_pieces_nil _)
  · have hkept : kept p (keep p output) = kept p output := by
      rw [kept, pieces_keep hnone]
      refine List.filter_eq_self.mpr fun line hline => ?_
      exact decide_eq_true (mem_kept_iff.mp hline).2
    rw [keep_eq p (keep p output), hkept, keep_eq p output]

/-- A filter keeps the lines where the search stops at the start, which are those with a match from their first character
on, whatever matches begin later. The lines kept stand in the output in the same order, and the text glued from them has no
others. Filtering once more changes nothing, and of two outputs, one after the other, the lines are kept of each. -/
theorem keep_projects (p : Pattern) (output : String) :
    keep p output = String.ofList (Text.glue '\n' (kept p output)) ∧
    (kept p output = (Text.pieces '\n' output.toList).filter fun line => p.search? line = some 0) ∧
    (∀ line n, p.search? line = some n ↔ p.BeginsAt none line n ∧ ∀ k < n, ¬p.BeginsAt none line k) ∧
    (∀ line, line ∈ kept p output ↔ line ∈ Text.pieces '\n' output.toList ∧ p.StartsIn line) ∧
    (kept p output).Sublist (Text.pieces '\n' output.toList) ∧
    Text.pieces '\n' (keep p output).toList = (if kept p output = [] then [[]] else kept p output) ∧
    keep p (keep p output) = keep p output ∧
    ∀ other, kept p (output ++ "\n" ++ other) = kept p output ++ kept p other := by
  refine ⟨keep_eq p output, kept_eq_search p output, fun line n => Pattern.search?_eq_some_iff, fun line => mem_kept_iff,
    List.filter_sublist, ?_, keep_keep p output, fun other => kept_append p output other⟩
  split
  · rename_i hnone
    rw [keep_eq, hnone]
    rfl
  · rename_i hsome
    exact pieces_keep hsome

end LineFilter

end DeltaLint

import DeltaLint.Proofs.Text
import DeltaLint.Report.Style

/-
  DeltaLint.Proofs.Report.Style — styled texts without their styles.

  A text is rid of its escape sequences in one pass (`unstyled`): where it begins with a sequence this is
  skipped, and else the next character is kept. The text may hold sequences of its own, whole or cut off, so
  one that is put next to it could complete what the text begins. It does not as long as what follows begins
  with none of the characters that go on with a sequence (`Apart`): an escape and a newline are none of these.

  Proved:
  - `unstyled_append`: texts that are apart are rid of their sequences one by one.
  - `unstyled_apply`: a styled text differs from the text in escape sequences alone.
  - `unstyled_header` / `unstyled_status`: so does what is said about a file.
  - `unstyled_lines`: lines are rid of their sequences one by one.
-/

namespace DeltaLint.Report

/-- The length of the escape sequence that the text begins with: an escape, a bracket, one digit or more, and an `m`.
None where it begins with no such sequence. -/
def sequenceLength : List Char → Nat
  | '\x1b' :: '[' :: rest =>
    let digits := rest.takeWhile Char.isDigit
    if digits ≠ [] ∧ (rest.dropWhile Char.isDigit).head? = some 'm' then digits.length + 3 else 0
  | _ => 0

/-- The pass, with a number of characters still to skip. -/
def unstyledFrom : Nat → List Char → List Char
  | _, [] => []
  | skip + 1, _ :: rest => unstyledFrom skip rest
  | 0, c :: rest =>
    match sequenceLength (c :: rest) with
    | 0 => c :: unstyledFrom 0 rest
    | length + 1 => unstyledFrom length rest

/-- The text without its escape sequences, which are removed in one pass from left to right. -/
def unstyled (text : List Char) : List Char := unstyledFrom 0 text

/-! ## Sequences -/

theorem sequenceLength_of_ne {c : Char} (h : c ≠ '\x1b') (rest : List Char) : sequenceLength (c :: rest) = 0 := by
  unfold sequenceLength
  split
  · rename_i heq
    exact absurd (List.cons.inj heq).1 h
  · rfl

theorem sequenceLength_of_ne_bracket {d : Char} (h : d ≠ '[') (c : Char) (rest : List Char) :
    sequenceLength (c :: d :: rest) = 0 := by
  unfold sequenceLength
  split
  · rename_i heq
    exact absurd (List.cons.inj (List.cons.inj heq).2).1 h
  · rfl

theorem sequenceLength_le (text : List Char) : sequenceLength text ≤ text.length := by
  unfold sequenceLength
  split
  · rename_i rest
    dsimp only
    split
    · rename_i hsequence
      have hsplit := congrArg List.length (List.takeWhile_append_dropWhile (p := Char.isDigit) (l := rest))
      have hend : (rest.dropWhile Char.isDigit).length ≠ 0 := by
        intro hnil
        rw [List.length_eq_zero_iff.mp hnil] at hsequence
        cases hsequence.2
      rw [List.length_append] at hsplit
      simp only [List.length_cons]
      omega
    · exact Nat.zero_le _
  · exact Nat.zero_le _

/-- The text does not go on with a sequence that is cut off before it. -/
def Apart (v : List Char) : Prop := ∀ c, v.head? = some c → c ≠ '[' ∧ c ≠ 'm' ∧ c.isDigit = false

theorem digits_append {v : List Char} (hv : Apart v) (u : List Char) :
    (u ++ v).takeWhile Char.isDigit = u.takeWhile Char.isDigit ∧
      (u ++ v).dropWhile Char.isDigit = u.dropWhile Char.isDigit ++ v := by
  induction u with
  | nil =>
    cases v with
    | nil => exact ⟨rfl, rfl⟩
    | cons c v =>
      have hc : ¬c.isDigit = true := by simp [(hv c rfl).2.2]
      exact ⟨List.takeWhile_cons_of_neg hc, List.dropWhile_cons_of_neg hc⟩
  | cons c u ih =>
    simp only [List.cons_append, List.takeWhile_cons, List.dropWhile_cons]
    split
    · exact ⟨congrArg _ ih.1, ih.2⟩
    · exact ⟨rfl, rfl⟩

theorem sequenceLength_append {u v : List Char} (hv : Apart v) (hu : u ≠ []) : sequenceLength (u ++ v) = sequenceLength u := by
  match u with
  | [] => exact absurd rfl hu
  | [c] =>
    cases v with
    | nil => rfl
    | cons d v =>
      rw [List.singleton_append, sequenceLength_of_ne_bracket (hv d rfl).1]
      unfold sequenceLength
      split
      · rename_i heq
        cases heq
      · rfl
  | c :: d :: rest =>
    by_cases hc : c = '\x1b'
    · by_cases hd : d = '['
      · subst hc hd
        obtain ⟨htake, hdrop⟩ := digits_append hv rest
        have hend : (rest.dropWhile Char.isDigit ++ v).head? = some 'm' ↔ (rest.dropWhile Char.isDigit).head? = some 'm' := by
          cases rest.dropWhile Char.isDigit with
          | nil => exact iff_of_false (fun h => (hv 'm' h).2.1 rfl) (by simp)
          | cons e tail => rfl
        simp only [List.cons_append, sequenceLength, htake, hdrop, hend]
      · rw [List.cons_append, List.cons_append, sequenceLength_of_ne_bracket hd, sequenceLength_of_ne_bracket hd]
    · rw [List.cons_append, sequenceLength_of_ne hc, sequenceLength_of_ne hc]

/-! ## Texts one after the other -/

theorem unstyledFrom_append {v : List Char} (hv : Apart v) {u : List Char} {skip : Nat} (h : skip ≤ u.length) :
    unstyledFrom skip (u ++ v) = unstyledFrom skip u ++ unstyled v := by
  induction u generalizing skip with
  | nil =>
    obtain rfl : skip = 0 := Nat.le_zero.mp h
    rfl
  | cons c u ih =>
    cases skip with
    | succ skip => exact ih (Nat.le_of_succ_le_succ h)
    | zero =>
      have hlength := sequenceLength_append hv (List.cons_ne_nil c u)
      have hle := sequenceLength_le (c :: u)
      rw [List.cons_append] at hlength ⊢
      unfold unstyledFrom
      rw [hlength]
      split
      · rw [ih (Nat.zero_le _)]
        rfl
      · rename_i length heq
        rw [heq] at hle
        exact ih (Nat.le_of_succ_le_succ hle)

theorem unstyled_append {v : List Char} (hv : Apart v) (u : List Char) : unstyled (u ++ v) = unstyled u ++ unstyled v :=
  unstyledFrom_append hv (Nat.zero_le _)

theorem unstyled_append_of_not_mem {u : List Char} (hu : '\x1b' ∉ u) (v : List Char) : unstyled (u ++ v) = u ++ unstyled v := by
  induction u with
  | nil => rfl
  | cons c u ih =>
    rw [List.mem_cons, not_or] at hu
    rw [List.cons_append, unstyled, unstyledFrom, sequenceLength_of_ne (Ne.symm hu.1)]
    exact congrArg (c :: ·) (ih hu.2)

theorem unstyledFrom_length_append (u v : List Char) : unstyledFrom u.length (u ++ v) = unstyled v := by
  induction u with
  | nil => rfl
  | cons c u ih => exact ih

theorem unstyled_sequence (code : Nat) (v : List Char) : unstyled (sequence code ++ v) = unstyled v := by
  have hdigits : ∀ c ∈ Text.decimal code, c.isDigit = true := fun c hc => Text.isDigit_of_mem_decimal hc
  have htake : (Text.decimal code ++ 'm' :: v).takeWhile Char.isDigit = Text.decimal code := by
    rw [List.takeWhile_append_of_pos hdigits, List.takeWhile_cons_of_neg (by decide), List.append_nil]
  have hdrop : (Text.decimal code ++ 'm' :: v).dropWhile Char.isDigit = 'm' :: v := by
    rw [List.dropWhile_append_of_pos hdigits, List.dropWhile_cons_of_neg (by decide)]
  have hlength : sequenceLength ('\x1b' :: '[' :: (Text.decimal code ++ 'm' :: v)) = (Text.decimal code).length + 3 := by
    have hsome : Text.decimal code ≠ [] := Nat.toDigits_ne_nil
    simp [sequenceLength, htake, hdrop, hsome]
  have hsequence : sequence code ++ v = '\x1b' :: '[' :: (Text.decimal code ++ 'm' :: v) := by simp [sequence]
  rw [hsequence, unstyled, unstyledFrom, hlength]
  show unstyledFrom ((Text.decimal code).length + 1) (Text.decimal code ++ 'm' :: v) = _
  have hskip := unstyledFrom_length_append (Text.decimal code ++ ['m']) v
  rwa [List.length_append, List.append_assoc] at hskip

theorem apart_of_escape {v : List Char} (h : v.head? = some '\x1b') : Apart v := by
  intro c hc
  obtain rfl : '\x1b' = c := Option.some.inj (h.symm.trans hc)
  decide

/-- A separator that is gone without its style, wherever it stands. -/
def Vanishes (sep : List Char) : Prop := sep.head? = some '\x1b' ∧ ∀ v, unstyled (sep ++ v) = unstyled v

theorem vanishes_sequence (code : Nat) : Vanishes (sequence code) := ⟨rfl, unstyled_sequence code⟩

theorem Vanishes.append {a b : List Char} (ha : Vanishes a) (hb : Vanishes b) : Vanishes (a ++ b) := by
  refine ⟨by rw [List.head?_append, ha.1]; rfl, fun v => ?_⟩
  rw [List.append_assoc, ha.2, hb.2]

theorem Vanishes.unstyled_append {sep : List Char} (h : Vanishes sep) (u v : List Char) :
    unstyled (u ++ sep ++ v) = unstyled u ++ unstyled v := by
  have hhead : (sep ++ v).head? = some '\x1b' := by rw [List.head?_append, h.1]; rfl
  rw [List.append_assoc, Report.unstyled_append (apart_of_escape hhead), h.2]

-- The pass does not go back: a sequence that comes together where another one is gone stays.
example : unstyled ("\x1b[" ++ "\x1b[0m" ++ "1mx").toList = "\x1b[1mx".toList := by decide

theorem Vanishes.unstyled_intercalate {sep : List Char} (h : Vanishes sep) (parts : List (List Char)) :
    unstyled (List.intercalate sep parts) = parts.flatMap unstyled := by
  induction parts with
  | nil => rfl
  | cons p parts ih =>
    cases parts with
    | nil => simp
    | cons q parts =>
      rw [List.intercalate_cons_cons, h.unstyled_append, ih]
      rfl

/-- A styled text differs from the text in escape sequences alone. -/
theorem unstyled_apply (s : Style) (colour : Bool) (text : String) :
    unstyled (s.apply colour text).toList = unstyled text.toList := by
  unfold Style.apply
  split
  · have hon := vanishes_sequence s.code
    have hoff : Vanishes reset := vanishes_sequence 0
    have hreset : reset = '\x1b' :: "[0m".toList := by decide
    have htext : List.intercalate reset (Text.cut reset text.toList) = text.toList := by
      rw [hreset, Text.intercalate_cut]
    rw [String.toList_ofList, List.append_assoc, hon.2]
    calc
      unstyled (List.intercalate (reset ++ sequence s.code) (Text.cut reset text.toList) ++ reset)
        = unstyled (List.intercalate (reset ++ sequence s.code) (Text.cut reset text.toList)) ++ [] := by
          rw [show ([] : List Char) = unstyled [] from rfl, ← hoff.unstyled_append, List.append_nil]
      _ = (Text.cut reset text.toList).flatMap unstyled := by
          rw [List.append_nil, (hoff.append hon).unstyled_intercalate]
      _ = unstyled text.toList := by rw [← hoff.unstyled_intercalate, htext]
  · rfl

theorem unstyled_header (colour : Bool) (path : String) :
    unstyled (header colour path).toList = unstyled (header false path).toList := by
  have hplain : '\x1b' ∉ "Linting file: ".toList := by decide
  unfold header
  rw [String.toList_append, String.toList_append, unstyled_append_of_not_mem hplain, unstyled_append_of_not_mem hplain,
    unstyled_apply, unstyled_apply]

theorem apart_newline (v : List Char) : Apart ('\n' :: v) := by
  intro c hc
  obtain rfl : '\n' = c := Option.some.inj hc
  decide

theorem unstyled_status (colour : Bool) (outcome : Outcome) :
    unstyled (status colour outcome).toList = unstyled (status false outcome).toList := by
  cases outcome with
  | ok =>
    unfold status
    rw [unstyled_apply, unstyled_apply]
  | skipped extension =>
    unfold status
    rw [unstyled_apply, unstyled_apply]
  | issues comments =>
    have hnewline : Apart ("\n" ++ comments).toList := by
      rw [String.toList_append]
      exact apart_newline _
    have hsplit : ∀ styled : String, unstyled (styled ++ "\n" ++ comments).toList =
        unstyled styled.toList ++ unstyled ("\n" ++ comments).toList := by
      intro styled
      rw [String.append_assoc, String.toList_append (s := styled), unstyled_append hnewline]
    unfold status
    rw [hsplit, hsplit, unstyled_apply, unstyled_apply]

/-- Lines are rid of their sequences one by one. -/
theorem unstyled_lines (ls : List (List Char)) :
    unstyled (ls.flatMap (· ++ ['\n'])) = ls.flatMap fun l => unstyled l ++ ['\n'] := by
  induction ls with
  | nil => rfl
  | cons l ls ih =>
    have hescape : '\x1b' ∉ ['\n'] := by decide
    have hnewline : Apart (['\n'] ++ ls.flatMap (· ++ ['\n'])) := apart_newline _
    rw [List.flatMap_cons, List.flatMap_cons, List.append_assoc, unstyled_append hnewline,
      unstyled_append_of_not_mem hescape, ih, List.append_assoc]

end DeltaLint.Report

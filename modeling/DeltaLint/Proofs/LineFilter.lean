import DeltaLint.LineFilter
import DeltaLint.Proofs.Pattern.Nesting
import DeltaLint.Proofs.Text

/-
  DeltaLint.Proofs.LineFilter — for which lines a filter is a pattern.

  The numbers of the lines stand inside the text of the pattern, so whether it is one can depend on them:
  a class such as `[%(lines)s-3]` ends in a range that begins with the last digit of the last number. It
  depends on little, though. A filter that is a pattern for the numbers below ten and for one of them
  together with one from 90 to 99 is a pattern for all lines (`compiles_of_trials`).
-/

namespace DeltaLint.LineFilter

open Pattern

/-- For these lines the filter is a pattern, however large. -/
def Compiles (template : String) (lines : List Nat) : Prop := ∃ p, parse (expand template lines) = .ok p

/-- The lines that show whether a filter is a pattern for all of them. -/
def trials : List (List Nat) :=
  (List.range 10).map (fun d => [d]) ++ (List.range 10).flatMap fun d => (List.range 10).map fun e => [d, 90 + e]

theorem mem_trials_one {d : Nat} (hd : d < 10) : [d] ∈ trials :=
  List.mem_append_left _ (List.mem_map.mpr ⟨d, List.mem_range.mpr hd, rfl⟩)

theorem mem_trials_two {d e : Nat} (hd : d < 10) (he : e < 10) : [d, 90 + e] ∈ trials :=
  List.mem_append_right _ (List.mem_flatMap.mpr ⟨d, List.mem_range.mpr hd, List.mem_map.mpr ⟨e, List.mem_range.mpr he, rfl⟩⟩)

theorem trials_ok : (trials.all fun lines => !lines.isEmpty && lines.all (· ≤ Text.word32)) = true := by decide

theorem ne_nil_of_mem_trials {lines : List Nat} (h : lines ∈ trials) : lines ≠ [] := by
  have := List.all_eq_true.mp trials_ok lines h
  rintro rfl
  cases this

theorem le_word32_of_mem_trials {lines : List Nat} (h : lines ∈ trials) : ∀ n ∈ lines, n ≤ Text.word32 := by
  have := List.all_eq_true.mp trials_ok lines h
  rw [Bool.and_eq_true] at this
  intro n hn
  simpa using List.all_eq_true.mp this.2 n hn

/-! ## The numbers in the pattern -/

/-- Numbers with bars between them begin and end with a digit. -/
theorem branches_ends {lines : List Nat} (h : lines ≠ []) :
    (∀ c ∈ branches lines, isMark c = true) ∧ (∃ d u, branches lines = d :: u ∧ d.isDigit = true) ∧
      ∃ u e, branches lines = u ++ [e] ∧ e.isDigit = true := by
  have hends : ∀ n, (∀ c ∈ Text.decimal n, isMark c = true) ∧ (∃ d u, Text.decimal n = d :: u ∧ d.isDigit = true) ∧
      ∃ u e, Text.decimal n = u ++ [e] ∧ e.isDigit = true := by
    intro n
    have hdigit : ∀ c ∈ Text.decimal n, c.isDigit = true := fun c hc => Text.isDigit_of_mem_decimal hc
    have hne : Text.decimal n ≠ [] := Nat.toDigits_ne_nil
    refine ⟨fun c hc => by simp [isMark, hdigit c hc], ?_, ?_⟩
    · obtain ⟨d, u, hu⟩ := List.exists_cons_of_ne_nil hne
      exact ⟨d, u, hu, hdigit d (by simp [hu])⟩
    · refine ⟨_, _, (List.dropLast_append_getLast hne).symm, hdigit _ (List.getLast_mem hne)⟩
  induction lines with
  | nil => exact absurd rfl h
  | cons n lines ih =>
    cases lines with
    | nil =>
      have : branches [n] = Text.decimal n := by simp [branches, Text.glue]
      rw [this]
      exact hends n
    | cons n' lines =>
      have hsplit : branches (n :: n' :: lines) = Text.decimal n ++ '|' :: branches (n' :: lines) := by
        simp [branches, Text.glue]
      obtain ⟨hmarks, -, u, e, hu, he⟩ := ih (List.cons_ne_nil _ _)
      obtain ⟨hmarks', ⟨d, u', hu', hd⟩, -⟩ := hends n
      rw [hsplit]
      refine ⟨?_, ⟨d, u' ++ '|' :: branches (n' :: lines), by rw [hu']; rfl, hd⟩,
        ⟨Text.decimal n ++ '|' :: u, e, by rw [hu]; simp, he⟩⟩
      intro c hc
      rcases List.mem_append.mp hc with hc | hc
      · exact hmarks' c hc
      · rcases List.mem_cons.mp hc with rfl | hc
        · rfl
        · exact hmarks c hc

/-- A digit is a number below ten, and the end of one from 90 to 99. -/
theorem decimal_of_isDigit {d : Char} (hd : d.isDigit = true) :
    ∃ n < 10, Text.decimal n = [d] ∧ Text.decimal (90 + n) = ['9', d] :=
  Text.of_isDigit hd (by decide)

/-- The pattern for the lines is what its text describes. -/
theorem parse_of_pattern {template : String} {lines : List Nat} {p : Pattern}
    (h : pattern template lines = .ok p) : ∃ w, parse (expand template lines) = .ok w ∧ w.pattern = p := by
  unfold pattern Pattern.read at h
  cases hparse : parse (expand template lines) with
  | error e =>
    rw [hparse] at h
    cases h
  | ok w =>
    rw [hparse] at h
    change (if w.shape.fits = true then Except.ok w.pattern else .error Fault.tooLarge).mapError _ = _ at h
    split at h
    · cases h
      exact ⟨w, rfl, rfl⟩
    · cases h

/-- A text that describes a pattern can be refused for its size alone. -/
theorem read_of_parse {text : List Char} {w : Part} (h : parse text = .ok w) :
    Pattern.read text = if w.shape.fits then .ok w.pattern else .error .tooLarge := by
  unfold Pattern.read
  rw [h]
  rfl

theorem expand_of_parts {template : String} {a after : List Char} (h : parts template = [a, after]) (lines : List Nat) :
    expand template lines = a ++ (branches lines ++ after) := by
  simp [expand, h, List.intercalate]

theorem parts_of_placeholders {template : String} (h : placeholders template = 1) :
    ∃ a after, parts template = [a, after] := by
  unfold placeholders at h
  match hparts : parts template with
  | [] => simp [hparts] at h
  | [p] => simp [hparts] at h
  | [a, after] => exact ⟨a, after, rfl⟩
  | p :: q :: r :: ps => simp [hparts] at h

/-! ## All lines -/

/-- A filter that is a pattern for the trials is a pattern for all lines. -/
theorem compiles_of_trials {template : String} (h : placeholders template = 1)
    (htrials : ∀ lines ∈ trials, Compiles template lines) {lines : List Nat} (hlines : lines ≠ []) :
    Compiles template lines := by
  obtain ⟨a, after, hparts⟩ := parts_of_placeholders h
  obtain ⟨hmarks, ⟨d, u, hu, hd⟩, ⟨v, e, hv, he⟩⟩ := branches_ends hlines
  obtain ⟨i, hi, hdecimal, -⟩ := decimal_of_isDigit hd
  cases v with
  | nil =>
    -- One digit is a trial itself.
    have hone : branches lines = branches [i] := by
      have : d = e := by
        rw [hu] at hv
        exact (List.cons.inj hv).1
      simp [branches, Text.glue] at hv ⊢
      rw [hv, hdecimal, this]
    have := htrials [i] (mem_trials_one hi)
    unfold Compiles at this ⊢
    rwa [expand_of_parts hparts, hone, ← expand_of_parts hparts]
  | cons d' m =>
    obtain ⟨j, hj, -, hninety⟩ := decimal_of_isDigit he
    have hd' : d' = d := by
      rw [hu] at hv
      exact (List.cons.inj hv).1.symm
    subst hd'
    let h : Hole := ⟨d', ['9'], e, after, hd, he, List.forall_mem_singleton.mpr (by decide)⟩
    have hsample : branches [i, 90 + j] ++ after = h.sample := by
      simp [branches, Text.glue, hdecimal, hninety, h, Hole.sample, Hole.fill]
    have hfill : branches lines ++ after = h.fill m := by
      simp [hv, h, Hole.fill]
    have hm : ∀ c ∈ m, isMark c = true := by
      intro c hc
      refine hmarks c ?_
      rw [hv]
      exact List.mem_append_left _ (List.mem_cons_of_mem _ hc)
    obtain ⟨p, hp⟩ := htrials [i, 90 + j] (mem_trials_two hi hj)
    rw [expand_of_parts hparts, hsample, parse_iff] at hp
    obtain ⟨q, hq⟩ := reads_fill (h := h) rfl hp hm
    refine ⟨q, ?_⟩
    rw [expand_of_parts hparts, hfill, parse_iff]
    exact hq

end DeltaLint.LineFilter

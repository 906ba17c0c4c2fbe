import DeltaLint.Proofs.Config
import DeltaLint.Proofs.LineFilter

/-
  DeltaLint.Proofs.Expansion — the text that a filter becomes for given lines.

  The placeholders are found from left to right and the numbers of the lines are put in their place. What is put in has
  no character of a placeholder, so it cannot be a part of one: where the texts around a placeholder would make up
  another once it is gone, the numbers keep them apart (`not_infix_expand`). A filter that counts one placeholder has
  it at one place (`placeholders_eq_one_iff`), and then the numbers can be read back from what it becomes.

  Proved:
  - `not_infix_expand`: no placeholder is left, as long as there is a line.
  - `expand_of_split`: what stands around a sole placeholder stays as it is.
  - `expand_injective`: other lines make another text.
  - `expansion_exact`: all of this.
-/

namespace DeltaLint.LineFilter

/-! ## Numbers between bars -/

theorem branches_eq_nil_iff {lines : List Nat} : branches lines = [] ↔ lines = [] := by
  constructor
  · intro h
    by_contra hlines
    obtain ⟨-, ⟨d, u, hu, -⟩, -⟩ := branches_ends hlines
    cases h.symm.trans hu
  · rintro rfl
    rfl

theorem pieces_branches {lines : List Nat} (h : lines ≠ []) : Text.pieces '|' (branches lines) = lines.map Text.decimal := by
  refine Text.pieces_glue (by simpa using h) fun p hp => ?_
  obtain ⟨n, -, rfl⟩ := List.mem_map.mp hp
  exact fun hbar => absurd (Text.isDigit_of_mem_decimal hbar) (by decide)

/-- The numbers can be read back. -/
theorem branches_injective : Function.Injective branches := by
  intro lines lines' h
  by_cases hlines : lines = []
  · rw [hlines, eq_comm, ← branches_eq_nil_iff, ← h, hlines]
    rfl
  · have hlines' : lines' ≠ [] := by
      rwa [ne_eq, ← branches_eq_nil_iff, ← h, branches_eq_nil_iff]
    have hnumbers : lines.map Text.decimal = lines'.map Text.decimal := by
      rw [← pieces_branches hlines, h, pieces_branches hlines']
    exact List.map_injective_iff.mpr Text.decimal_injective hnumbers

theorem branches_eq (lines : List Nat) : branches lines = ("|".intercalate (lines.map toString)).toList := by
  have hdecimal : String.toList ∘ toString = Text.decimal := funext fun _ => Nat.toList_repr
  rw [branches, String.toList_intercalate, List.map_map, hdecimal]
  rfl

/-! ## Placeholders -/

theorem placeholder_eq : placeholder.toList = '%' :: "(lines)s".toList := by decide

theorem intercalate_parts (template : String) : List.intercalate placeholder.toList (parts template) = template.toList := by
  rw [parts, placeholder_eq, Text.intercalate_cut]

theorem not_infix_of_mem_parts {template : String} {p : List Char} (h : p ∈ parts template) : ¬placeholder.toList <:+: p := by
  rw [parts, placeholder_eq] at h
  rw [placeholder_eq]
  exact Text.not_infix_of_mem_cut h

theorem toList_of_parts {template : String} {a b : List Char} (h : parts template = [a, b]) :
    template.toList = a ++ placeholder.toList ++ b := by
  rw [← intercalate_parts, h, List.intercalate_cons_cons, List.intercalate_singleton]

/-- A filter that counts one placeholder can be split at one in one way. -/
theorem eq_of_split {template : String} (h : placeholders template = 1) {a b a' b' : List Char}
    (htext : template.toList = a ++ placeholder.toList ++ b) (htext' : template.toList = a' ++ placeholder.toList ++ b') :
    a = a' ∧ b = b' := by
  rw [Config.Entry.placeholders_eq] at h
  exact Text.eq_of_occurrences_eq_one h htext htext'

/-- One placeholder is counted exactly if there is one place where it stands. -/
theorem placeholders_eq_one_iff {template : String} :
    placeholders template = 1 ↔ ∃! before, ∃ after, template.toList = before ++ placeholder.toList ++ after := by
  constructor
  · intro h
    obtain ⟨a, b, hparts⟩ := parts_of_placeholders h
    exact ⟨a, ⟨b, toList_of_parts hparts⟩, fun a' ⟨b', htext⟩ => (eq_of_split h htext (toList_of_parts hparts)).1⟩
  · intro h
    obtain ⟨a, ⟨b, htext⟩, hunique⟩ := h
    have hparts := intercalate_parts template
    unfold placeholders
    match hlist : parts template with
    | [] => exact absurd hlist (Text.cutFrom_ne_nil _ 0 _)
    | [p] =>
      rw [hlist, List.intercalate_singleton] at hparts
      refine absurd ⟨a, b, ?_⟩ (not_infix_of_mem_parts (hlist ▸ List.mem_singleton_self p))
      rw [← htext, hparts]
    | [p, q] => rfl
    | p :: q :: r :: rest =>
      -- Then there is one after `p`, and another after `q`.
      rw [hlist, List.intercalate_cons_cons] at hparts
      have hfirst : p = a := hunique p ⟨_, hparts.symm⟩
      rw [List.intercalate_cons_cons, ← List.append_assoc, ← List.append_assoc] at hparts
      have hsecond : p ++ placeholder.toList ++ q = a := hunique _ ⟨_, hparts.symm⟩
      have hlength := congrArg List.length (hfirst.trans hsecond.symm)
      have hnine : placeholder.toList.length = 9 := by decide
      simp only [List.length_append, hnine] at hlength
      omega

/-! ## The expansion -/

theorem disjoint_branches (lines : List Nat) : placeholder.toList.Disjoint (branches lines) := by
  intro c hc hbranches
  have hlines : lines ≠ [] := by
    rintro rfl
    cases hbranches
  have hnone : (placeholder.toList.all fun c => !Pattern.isMark c) = true := by decide
  have hmark := List.all_eq_true.mp hnone c hc
  rw [(branches_ends hlines).1 c hbranches] at hmark
  cases hmark

/-- No placeholder is left. -/
theorem not_infix_expand (template : String) {lines : List Nat} (h : lines ≠ []) :
    ¬placeholder.toList <:+: expand template lines := by
  have hbranches : branches lines ≠ [] := fun hnil => h (branches_eq_nil_iff.mp hnil)
  exact Text.not_infix_intercalate (by decide) hbranches (disjoint_branches lines) fun p hp => not_infix_of_mem_parts hp

theorem expand_of_split {template : String} (h : placeholders template = 1) {before after : List Char}
    (htext : template.toList = before ++ placeholder.toList ++ after) (lines : List Nat) :
    expand template lines = before ++ branches lines ++ after := by
  obtain ⟨a, b, hparts⟩ := parts_of_placeholders h
  obtain ⟨rfl, rfl⟩ := eq_of_split h htext (toList_of_parts hparts)
  rw [expand_of_parts hparts, List.append_assoc]

theorem expand_injective {template : String} (h : placeholders template = 1) : Function.Injective (expand template) := by
  obtain ⟨a, b, hparts⟩ := parts_of_placeholders h
  intro lines lines' hsame
  rw [expand_of_parts hparts, expand_of_parts hparts] at hsame
  exact branches_injective (List.append_cancel_right (List.append_cancel_left hsame))

/-- What a filter becomes for one line or more has no placeholder in it. A filter counts one placeholder exactly if there
is one place where it stands; it becomes what is before it, the numbers in decimal with bars between them, in the given
order, and what is after it, and something else for other numbers. -/
theorem expansion_exact (template : String) :
    (∀ lines ≠ [], ¬placeholder.toList <:+: expand template lines) ∧
    (placeholders template = 1 ↔ ∃! before, ∃ after, template.toList = before ++ placeholder.toList ++ after) ∧
    (placeholders template = 1 → ∀ before after, template.toList = before ++ placeholder.toList ++ after → ∀ lines,
      expand template lines = before ++ ("|".intercalate (lines.map toString)).toList ++ after) ∧
    (placeholders template = 1 → ∀ lines lines', lines ≠ lines' → expand template lines ≠ expand template lines') := by
  refine ⟨fun lines hlines => not_infix_expand template hlines, placeholders_eq_one_iff,
    fun h before after htext lines => ?_, fun h lines lines' hne hsame => ?_⟩
  · rw [← branches_eq, expand_of_split h htext]
  · exact hne (expand_injective h hsame)

/-- Without its placeholder this filter would be one. -/
theorem expansion_exact_nested :
    placeholders "%(li%(lines)snes)s" = 1 ∧ ¬placeholder.toList <:+: expand "%(li%(lines)snes)s" [4, 15] ∧
    expand "%(li%(lines)snes)s" [4, 15] = "%(li4|15nes)s".toList ∧
    expand "%(li%(lines)snes)s" [15, 4] ≠ expand "%(li%(lines)snes)s" [4, 15] := by
  have hone : placeholders "%(li%(lines)snes)s" = 1 := by decide +kernel
  obtain ⟨hclean, -, hsplit, hapart⟩ := expansion_exact "%(li%(lines)snes)s"
  refine ⟨hone, hclean _ (List.cons_ne_nil _ _), ?_, hapart hone _ _ (by decide)⟩
  rw [hsplit hone "%(li".toList "nes)s".toList (by decide)]
  decide +kernel

end DeltaLint.LineFilter

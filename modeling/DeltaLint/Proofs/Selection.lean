import DeltaLint.Lint
import DeltaLint.Pattern.Language
import DeltaLint.Report.Json

/-
  DeltaLint.Proofs.Selection — the lines of an output that are about given lines of a file.

  What is selected is said line by line: a line is kept exactly when a match begins with its first
  character (`kept`). A text stands for the lines that it is glued from, so selecting is said by lists of
  lines (`Selects`), and so is what several linters' outputs add up to (`comments_ofOutputs`).
-/

namespace DeltaLint

instance Pattern.decidableStartsIn (p : Pattern) (text : List Char) : Decidable (p.StartsIn text) :=
  decidable_of_iff _ Pattern.startsIn_iff

namespace LineFilter

/-- The lines of the output with a match of the pattern from their first character on. -/
def kept (p : Pattern) (output : String) : List (List Char) :=
  (Text.pieces '\n' output.toList).filter fun line => decide (p.StartsIn line)

theorem keep_eq (p : Pattern) (output : String) : keep p output = String.ofList (Text.glue '\n' (kept p output)) := by
  have hf : (fun line => decide (p.StartsIn line)) = p.startsIn := by
    funext line
    rw [Bool.eq_iff_iff, decide_eq_true_iff, Pattern.startsIn_iff]
  rw [keep, kept, hf]

/-- What an output has about the lines: without any, all of it, and else what the pattern for them keeps. -/
def Selects (template : String) (lines : Option (List Nat)) (output : String) (found : List (List Char)) : Prop :=
  match lines with
  | none | some [] => found = Text.pieces '\n' output.toList
  | some lines => ∃ p, pattern template lines = .ok p ∧ found = kept p output

theorem select_eq_ok_iff {output template text : String} {lines : Option (List Nat)} :
    select output template lines = .ok text ↔
      ∃ found, Selects template lines output found ∧ text = String.ofList (Text.glue '\n' found) := by
  have hwhole : String.ofList (Text.glue '\n' (Text.pieces '\n' output.toList)) = output := by
    rw [Text.glue_pieces, String.ofList_toList]
  rcases lines with _ | _ | ⟨n, ns⟩
  · simp [select, Selects, hwhole, eq_comm]
  · simp [select, Selects, hwhole, eq_comm]
  · simp only [select, Selects, Except.map]
    cases hp : pattern template (n :: ns) with
    | error e => simp
    | ok p => simp [keep_eq, eq_comm]

theorem Selects.no_newline {template output : String} {lines : Option (List Nat)} {found : List (List Char)}
    (h : Selects template lines output found) : ∀ line ∈ found, '\n' ∉ line := by
  intro line hline
  rcases lines with _ | _ | ⟨n, ns⟩
  · exact Text.not_mem_of_mem_pieces (h ▸ hline)
  · exact Text.not_mem_of_mem_pieces (h ▸ hline)
  · obtain ⟨p, _, rfl⟩ := h
    exact Text.not_mem_of_mem_pieces (List.mem_filter.mp hline).1

end LineFilter

/-! ## What outputs add up to -/

/-- The comments of an outcome, line by line. -/
def Outcome.comments : Outcome → List (List Char)
  | issues comments => Text.pieces '\n' comments.toList
  | _ => []

/-- The comments are the lines found by the linters, those of a linter left out where they make an empty text. -/
theorem comments_ofOutputs {found : List (List (List Char))} (h : ∀ ls ∈ found, ∀ line ∈ ls, '\n' ∉ line) :
    (Outcome.ofOutputs (found.map fun ls => String.ofList (Text.glue '\n' ls))).comments =
      (found.filter fun ls => Text.glue '\n' ls != []).flatten := by
  have htexts : (found.map fun ls => String.ofList (Text.glue '\n' ls)).filter (· != "") =
      (found.filter fun ls => Text.glue '\n' ls != []).map fun ls => String.ofList (Text.glue '\n' ls) := by
    rw [List.filter_map]
    congr 1
    refine List.filter_congr fun ls _ => ?_
    rw [Function.comp_apply, Bool.eq_iff_iff]
    simp
  unfold Outcome.ofOutputs
  rw [htexts]
  generalize hfull : found.filter (fun ls => Text.glue '\n' ls != []) = full
  have hmem : ∀ ls ∈ full, ls ∈ found ∧ Text.glue '\n' ls ≠ [] := by
    intro ls hls
    rw [← hfull, List.mem_filter] at hls
    exact ⟨hls.1, by simpa using hls.2⟩
  cases full with
  | nil => rfl
  | cons ls full =>
    have hne : ∀ ls' ∈ ls :: full, ls' ≠ [] := by
      rintro ls' h' rfl
      exact (hmem [] h').2 rfl
    have htext : ("\n".intercalate ((ls :: full).map fun ls => String.ofList (Text.glue '\n' ls))).toList =
        Text.glue '\n' (ls :: full).flatten := by
      have hcomp : String.toList ∘ (fun ls => String.ofList (Text.glue '\n' ls)) = Text.glue '\n' := by
        funext ls
        exact String.toList_ofList
      rw [String.toList_intercalate, List.map_map, hcomp, ← Text.glue_map_glue '\n' hne]
      rfl
    show Text.pieces '\n' ("\n".intercalate _).toList = _
    rw [htext]
    refine Text.pieces_glue ?_ fun line hline => ?_
    · simp [hne ls List.mem_cons_self]
    · obtain ⟨ls', h', hline⟩ := List.mem_flatten.mp hline
      exact h ls' (hmem ls' h').1 line hline

end DeltaLint

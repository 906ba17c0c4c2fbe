import DeltaLint.Proofs.Linting
import DeltaLint.Proofs.Text

/-
  DeltaLint.Proofs.Comments — the comments on a file, line by line.

  The comments are made of the outputs of the linters (`Wrote`), each with its share (`Linter.share`). The
  share of an output is what is selected of its lines (`Linter.selected`), but for empty lines: where the
  filter selects an empty line, as it does when it selects all, an output that a line feed ends adds one
  that it does not have (`Linter.Trails`), and a sole empty line is lost.

  Proved:
  - `share_eq`: the share of an output is what is left of its pieces.
  - `Remarked.wrote`: what is found is what is selected of what the linters wrote.
  - `comments_of_issues`: the lines of the comments, and when they are the lines selected.
-/

namespace DeltaLint

open Job

variable {σ : Type} {host : Host σ} {file : String} {lines : Option (List Nat)}

/-! ## The share of an output -/

namespace Linter

/-- Whether a line is selected. Without line numbers all lines are. -/
def selects (l : Linter) (lines : Option (List Nat)) : List Char → Bool :=
  match lines with
  | none | some [] => fun _ => true
  | some ns =>
    match LineFilter.pattern l.filter ns with
    | .ok p => p.startsIn
    | .error _ => fun _ => false

/-- The lines of the output that are selected. -/
def selected (l : Linter) (lines : Option (List Nat)) (output : String) : List (List Char) :=
  (Text.rows output.toList).filter (l.selects lines)

/-- An empty line follows the selected ones: an empty line is selected, and nothing follows the last line feed. -/
def Trails (l : Linter) (lines : Option (List Nat)) (output : String) : Prop :=
  output.toList.getLast? = some '\n' ∧ l.selects lines [] = true ∧ l.selected lines output ≠ []

instance (l : Linter) (lines : Option (List Nat)) (output : String) : Decidable (l.Trails lines output) :=
  inferInstanceAs (Decidable (_ ∧ _ ∧ _))

/-- What the comments have from the output. -/
def share (l : Linter) (lines : Option (List Nat)) (output : String) : List (List Char) :=
  if l.Trails lines output then l.selected lines output ++ [[]]
  else if l.selected lines output = [[]] then []
  else l.selected lines output

/-- The pieces of the output that are selected are its lines that are, and what follows the last line feed. -/
theorem filter_pieces (l : Linter) (lines : Option (List Nat)) (output : String) :
    (Text.pieces '\n' output.toList).filter (l.selects lines) = l.selected lines output ++
      if (output.toList = [] ∨ output.toList.getLast? = some '\n') ∧ l.selects lines [] = true then [[]] else [] := by
  rw [Text.pieces_eq_rows, List.filter_append, selected]
  simp only [Text.getLast?_pieces_eq_nil_iff]
  congr 1
  by_cases hended : output.toList = [] ∨ output.toList.getLast? = some '\n'
  · rw [if_pos hended, List.filter_cons]
    by_cases hempty : l.selects lines [] = true
    · rw [if_pos hempty, if_pos ⟨hended, hempty⟩]
      rfl
    · rw [if_neg hempty, if_neg fun h => hempty h.2]
      rfl
  · rw [if_neg hended, if_neg fun h => hended h.1]
    rfl

theorem selected_of_empty {l : Linter} {output : String} (h : output.toList = []) : l.selected lines output = [] := by
  rw [selected, h]
  rfl

/-- The share of an output is what is left of its pieces, unless that makes an empty text. -/
theorem share_eq (l : Linter) (lines : Option (List Nat)) (output : String) :
    l.share lines output = if Text.glue '\n' ((Text.pieces '\n' output.toList).filter (l.selects lines)) = [] then []
      else (Text.pieces '\n' output.toList).filter (l.selects lines) := by
  rw [filter_pieces, share]
  simp only [Text.glue_eq_nil_iff]
  by_cases hmore : (output.toList = [] ∨ output.toList.getLast? = some '\n') ∧ l.selects lines [] = true
  · rw [if_pos hmore]
    by_cases hnone : l.selected lines output = []
    · simp [Trails, hnone]
    · have hended := hmore.1.resolve_left fun hempty => hnone (selected_of_empty hempty)
      rw [if_pos ⟨hended, hmore.2, hnone⟩, if_neg (by simp [hnone])]
  · have hends : ¬l.Trails lines output := fun h => hmore ⟨Or.inr h.1, h.2.1⟩
    rw [if_neg hmore, if_neg hends, List.append_nil]
    by_cases hnone : l.selected lines output = []
    · simp [hnone]
    · simp [hnone]

theorem share_eq_selected_iff {l : Linter} {output : String} :
    l.share lines output = l.selected lines output ↔ ¬l.Trails lines output ∧ l.selected lines output ≠ [[]] := by
  unfold share
  split
  · rename_i htrails
    simp [htrails]
  · rename_i hends
    split
    · rename_i hsole
      simp [hsole]
    · rename_i hsole
      simp [hends, hsole]

/-- Share and selection have the same lines that are not empty. -/
theorem share_filter_eq (l : Linter) (lines : Option (List Nat)) (output : String) :
    (l.share lines output).filter (· != []) = (l.selected lines output).filter (· != []) := by
  unfold share
  split
  · simp
  · split
    · rename_i hsole
      simp [hsole]
    · rfl

theorem nil_not_mem_selected {l : Linter} {output : String} (h : [] ∉ Text.rows output.toList) :
    [] ∉ l.selected lines output := fun hmem => h (List.mem_of_mem_filter hmem)

/-- Of an output without empty lines the share has an empty line exactly if one follows it. -/
theorem nil_mem_share_iff {l : Linter} {output : String} (h : [] ∉ Text.rows output.toList) :
    [] ∈ l.share lines output ↔ l.Trails lines output := by
  have hselected : [] ∉ l.selected lines output := nil_not_mem_selected h
  unfold share
  split
  · rename_i htrails
    simp [htrails]
  · rename_i hends
    split
    · simp [hends]
    · simp [hends, hselected]

theorem share_eq_selected_of_selects {l : Linter} {output : String} (h : l.selects lines [] = false) :
    l.share lines output = l.selected lines output := by
  refine share_eq_selected_iff.mpr ⟨fun htrails => ?_, fun hsole => ?_⟩
  · rw [htrails.2.1] at h
    cases h
  · have hmem : [] ∈ l.selected lines output := by simp [hsole]
    rw [(List.mem_filter.mp hmem).2] at h
    cases h

/-- Where all lines are selected, an empty line follows every output that a line feed ends. -/
theorem trails_whole_iff {l : Linter} {output : String} (h : lines = none ∨ lines = some []) :
    l.Trails lines output ↔ output.toList.getLast? = some '\n' := by
  have hall : l.selects lines = fun _ => true := by
    rcases h with rfl | rfl
    · rfl
    · rfl
  constructor
  · exact fun htrails => htrails.1
  · intro hended
    refine ⟨hended, by rw [hall], fun hnone => ?_⟩
    have hpieces := Text.pieces_eq_rows output.toList
    rw [selected, hall, List.filter_true] at hnone
    rw [hnone, List.nil_append] at hpieces
    have htext := Text.glue_pieces '\n' output.toList
    rw [hpieces] at htext
    split at htext
    · rw [← htext] at hended
      cases hended
    · rw [← htext] at hended
      cases hended

end Linter

/-! ## What the linters wrote -/

/-- The linters are started on the file, one after the other, and these are their outputs. -/
inductive Wrote (host : Host σ) (file : String) : List Linter → Session σ → List String → Session σ → Prop
  | done (s : Session σ) : Wrote host file [] s [] s
  | next {l : Linter} {ls : List Linter} {s s' : Session σ} {captured : Captured} {w : σ} {outputs : List String}
      (hlaunch : host.launch l.program (l.arguments ++ [file]) s.world = (.ok captured, w))
      (hrest : Wrote host file ls ⟨w, l.start file :: s.events⟩ outputs s') :
      Wrote host file (l :: ls) s (captured.text :: outputs) s'

theorem LineFilter.Selects.eq_filter {l : Linter} {output : String} {found : List (List Char)}
    (h : Selects l.filter lines output found) : found = (Text.pieces '\n' output.toList).filter (l.selects lines) := by
  rcases lines with _ | _ | ⟨n, ns⟩
  · exact h.trans (List.filter_true _).symm
  · exact h.trans (List.filter_true _).symm
  · obtain ⟨p, hp, rfl⟩ := h
    have hselects : l.selects (some (n :: ns)) = p.startsIn := by
      simp only [Linter.selects, hp]
    rw [hselects, kept]
    refine List.filter_congr fun line _ => ?_
    rw [Bool.eq_iff_iff, decide_eq_true_iff, Pattern.startsIn_iff]

/-- What is found is what is selected of the pieces of what the linters wrote. -/
theorem Remarked.wrote {linters : List Linter} {s s' : Session σ} {found : List (List (List Char))}
    (h : Remarked host file lines linters s found s') :
    ∃ outputs, Wrote host file linters s outputs s' ∧ found =
      (linters.zip outputs).map fun (l, output) => (Text.pieces '\n' output.toList).filter (l.selects lines) := by
  induction h with
  | done s => exact ⟨[], .done s, rfl⟩
  | next hlaunch hselect _ ih =>
    obtain ⟨outputs, hwrote, rfl⟩ := ih
    exact ⟨_, .next hlaunch hwrote, by rw [hselect.eq_filter]; rfl⟩

/-! ## The comments -/

/-- The shares of the outputs, one after the other. -/
def shares (lines : Option (List Nat)) (linters : List Linter) (outputs : List String) : List (List Char) :=
  (linters.zip outputs).flatMap fun (l, output) => l.share lines output

/-- The lines selected of the outputs, one after the other. -/
def selections (lines : Option (List Nat)) (linters : List Linter) (outputs : List String) : List (List Char) :=
  (linters.zip outputs).flatMap fun (l, output) => l.selected lines output

/-- The comments are the shares of the outputs. -/
theorem comments_eq_shares {linters : List Linter} {s s' : Session σ} {found : List (List (List Char))}
    (h : Remarked host file lines linters s found s') :
    ∃ outputs, Wrote host file linters s outputs s' ∧
      (Outcome.ofOutputs (texts found)).comments = shares lines linters outputs := by
  obtain ⟨outputs, hwrote, hfound⟩ := h.wrote
  refine ⟨outputs, hwrote, ?_⟩
  have hleft : ∀ found : List (List (List Char)), (found.filter fun ls => Text.glue '\n' ls != []).flatten =
      found.flatMap fun ls => if Text.glue '\n' ls = [] then [] else ls := by
    intro found
    induction found with
    | nil => rfl
    | cons ls found ih =>
      rw [List.filter_cons, List.flatMap_cons, ← ih]
      by_cases hempty : Text.glue '\n' ls = []
      · simp [hempty]
      · simp [hempty]
  rw [texts, comments_ofOutputs h.no_newline, hleft, hfound, List.flatMap_map, shares]
  simp only [Linter.share_eq]

theorem shares_eq_selections {linters : List Linter} {outputs : List String}
    (h : ∀ q ∈ linters.zip outputs, q.1.share lines q.2 = q.1.selected lines q.2) :
    shares lines linters outputs = selections lines linters outputs := List.flatMap_congr h

/-- Shares and selections have the same lines that are not empty. -/
theorem shares_filter_eq (lines : Option (List Nat)) (linters : List Linter) (outputs : List String) :
    (shares lines linters outputs).filter (· != []) = (selections lines linters outputs).filter (· != []) := by
  rw [shares, selections, List.filter_flatMap, List.filter_flatMap]
  exact List.flatMap_congr fun q _ => q.1.share_filter_eq lines q.2

/-- From outputs without empty lines the shares have an empty line exactly where one follows an output. -/
theorem nil_mem_shares_iff {linters : List Linter} {outputs : List String}
    (h : ∀ output ∈ outputs, [] ∉ Text.rows output.toList) :
    [] ∈ shares lines linters outputs ↔ ∃ q ∈ linters.zip outputs, q.1.Trails lines q.2 := by
  rw [shares, List.mem_flatMap]
  refine exists_congr fun q => and_congr_right fun hq => ?_
  exact Linter.nil_mem_share_iff (h q.2 (List.of_mem_zip hq).2)

theorem nil_not_mem_selections {linters : List Linter} {outputs : List String}
    (h : ∀ output ∈ outputs, [] ∉ Text.rows output.toList) : [] ∉ selections lines linters outputs := by
  intro hmem
  obtain ⟨q, hq, hmem⟩ := List.mem_flatMap.mp hmem
  exact Linter.nil_not_mem_selected (h q.2 (List.of_mem_zip hq).2) hmem

/-- From outputs without empty lines the shares are the selections exactly if no empty line follows any output. -/
theorem shares_eq_selections_iff {linters : List Linter} {outputs : List String}
    (h : ∀ output ∈ outputs, [] ∉ Text.rows output.toList) :
    shares lines linters outputs = selections lines linters outputs ↔
      ∀ q ∈ linters.zip outputs, ¬q.1.Trails lines q.2 := by
  constructor
  · intro heq q hq htrails
    have hmem := (nil_mem_shares_iff h).mpr ⟨q, hq, htrails⟩
    rw [heq] at hmem
    exact nil_not_mem_selections h hmem
  · intro hends
    refine shares_eq_selections fun q hq => Linter.share_eq_selected_iff.mpr ⟨hends q hq, fun hsole => ?_⟩
    exact Linter.nil_not_mem_selected (h q.2 (List.of_mem_zip hq).2) (by rw [hsole]; exact List.mem_cons_self)

/-- When a file has issues the lines of its comments are the shares of the outputs of its linters, and but for empty lines
the selected lines of these. They are all the selected lines and nothing else where no filter selects an empty line. Where
no output has an empty line, they are so exactly if no empty line follows an output, and else there is an empty comment;
without line numbers one follows each output that a line feed ends. -/
theorem comments_of_issues {registry : Registry} {comments : String} {s s' : Session σ}
    (h : Ends (lint host registry file lines) s (.ok (.issues comments)) s') :
    ∃ linters outputs, registry.get? (Path.extension file) = some linters ∧ Wrote host file linters s outputs s' ∧
      Text.pieces '\n' comments.toList = shares lines linters outputs ∧
      (shares lines linters outputs).filter (· != []) = (selections lines linters outputs).filter (· != []) ∧
      ((∀ l ∈ linters, l.selects lines [] = false) →
        shares lines linters outputs = selections lines linters outputs) ∧
      ((∀ output ∈ outputs, [] ∉ Text.rows output.toList) →
        (shares lines linters outputs = selections lines linters outputs ↔
          ∀ q ∈ linters.zip outputs, ¬q.1.Trails lines q.2) ∧
        ([] ∈ shares lines linters outputs ↔ ∃ q ∈ linters.zip outputs, q.1.Trails lines q.2)) ∧
      (lines = none ∨ lines = some [] →
        ∀ l output, Linter.Trails l lines output ↔ output.toList.getLast? = some '\n') := by
  cases hget : registry.get? (Path.extension file) with
  | none => cases ((lint_ends_of_none hget).mp h).1
  | some linters =>
    obtain ⟨found, hfound, houtcome⟩ := (lint_ends_ok hget).mp h
    obtain ⟨outputs, hwrote, hcomments⟩ := comments_eq_shares hfound
    rw [texts, ← houtcome] at hcomments
    refine ⟨linters, outputs, rfl, hwrote, hcomments, shares_filter_eq lines linters outputs, fun hselects => ?_,
      fun hrows => ⟨shares_eq_selections_iff hrows, nil_mem_shares_iff hrows⟩,
      fun hwhole l output => Linter.trails_whole_iff hwhole⟩
    exact shares_eq_selections fun q hq => Linter.share_eq_selected_of_selects (hselects q.1 (List.of_mem_zip hq).1)

/-- A system where every program writes the same. -/
def sayingHost (text : String) : Host Unit where
  workingDirectory _ := .ok "/r"
  isFile _ _ := false
  canonical _ path := .ok path
  readText _ _ := .error .notFound
  git _ _ w := (.error .notFound, w)
  launch _ _ w := (.ok ⟨text, some 1⟩, w)

def plainLinter : Linter := ⟨"l", "l", [], "^(%(lines)s):", none⟩

def plainRegistry : Registry := .ofList [(".t", plainLinter)]

theorem saying_ends (text : String) (h : text ≠ "") :
    Ends (lint (sayingHost text) plainRegistry "x.t" none) ⟨(), []⟩ (.ok (.issues text))
      ⟨(), [plainLinter.start "x.t"]⟩ := by
  have hget : plainRegistry.get? (Path.extension "x.t") = some [plainLinter] := by decide +kernel
  refine (lint_ends_ok hget).mpr ⟨[Text.pieces '\n' text.toList], .next rfl rfl (.done _), ?_⟩
  simp [Text.glue_pieces, Outcome.ofOutputs, h]

theorem comments_of_issues_unended : ∃ linters outputs,
    Ends (lint (sayingHost "bad\nworse") plainRegistry "x.t" none) ⟨(), []⟩ (.ok (.issues "bad\nworse"))
      ⟨(), [plainLinter.start "x.t"]⟩ ∧
    Wrote (sayingHost "bad\nworse") "x.t" linters ⟨(), []⟩ outputs ⟨(), [plainLinter.start "x.t"]⟩ ∧
    Text.pieces '\n' "bad\nworse".toList = shares none linters outputs := by
  have hends := saying_ends "bad\nworse" (by decide)
  obtain ⟨linters, outputs, -, hwrote, hshares, -⟩ := comments_of_issues hends
  exact ⟨linters, outputs, hends, hwrote, hshares⟩

/-- An output of one line that a line feed ends makes two comments, of which the second is empty. -/
theorem comments_have_empty_line :
    Ends (lint (sayingHost "bad\n") plainRegistry "x.t" none) ⟨(), []⟩ (.ok (.issues "bad\n"))
      ⟨(), [plainLinter.start "x.t"]⟩ ∧
    Wrote (sayingHost "bad\n") "x.t" [plainLinter] ⟨(), []⟩ ["bad\n"] ⟨(), [plainLinter.start "x.t"]⟩ ∧
    selections none [plainLinter] ["bad\n"] = ["bad".toList] ∧
    Text.pieces '\n' "bad\n".toList = ["bad".toList, []] := by
  have hlaunch : (sayingHost "bad\n").launch plainLinter.program (plainLinter.arguments ++ ["x.t"]) () =
      (.ok ⟨"bad\n", some 1⟩, ()) := rfl
  have hwrote := Wrote.next (s := ⟨(), []⟩) hlaunch (.done _)
  exact ⟨saying_ends "bad\n" (by decide), hwrote, by decide +kernel, by decide⟩

end DeltaLint

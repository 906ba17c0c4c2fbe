import DeltaLint.Proofs.Comments
import Mathlib

/-
  DeltaLint.Proofs.Narrowing — asking the linters about some lines only.

  The lines play no part in what is started, as long as the filters are patterns for them. From what the
  linters write they take some lines away: the share of each output is a sublist of its share without them,
  and so the comments are a sublist of all comments (`Outcome.Within`), also where nothing is left of an
  output and it is passed over.

  Proved:
  - `share_sublist`: with lines the share of an output is a sublist of its share without.
  - `lint_narrows`: from one session, linting with lines ends as linting without does, with fewer comments.
  - `filtering_only_removes`: the same from sessions on which the programs answer alike.
-/

namespace DeltaLint

open Job

variable {σ τ : Type} {host : Host σ} {file : String} {linters : List Linter} {ns : List Nat} {s s' : Session σ}

/-! ## Fewer comments -/

/-- The outcome is the other but for comments that it may not have. -/
structure Outcome.Within (o o' : Outcome) : Prop where
  skipped : ∀ extension, o = .skipped extension ↔ o' = .skipped extension
  issues : o.hasIssues = true → o'.hasIssues = true
  comments : o.comments.Sublist o'.comments

/-- Both fail alike, or neither does and the first has some of the comments of the second. -/
inductive Narrows : Except Failure Outcome → Except Failure Outcome → Prop
  | failed (f : Failure) : Narrows (.error f) (.error f)
  | linted {o o' : Outcome} (h : o.Within o') : Narrows (.ok o) (.ok o')

/-- An outcome has issues exactly if it has a line of comments, be it an empty one. -/
theorem Outcome.hasIssues_iff {o : Outcome} : o.hasIssues = true ↔ o.comments ≠ [] := by
  cases o with
  | ok => simp [hasIssues, comments]
  | skipped extension => simp [hasIssues, comments]
  | issues text => simp [hasIssues, comments, Text.pieces_ne_nil]

theorem Outcome.not_skipped_ofOutputs (outputs : List String) (extension : String) :
    Outcome.ofOutputs outputs ≠ .skipped extension := by
  unfold Outcome.ofOutputs
  split
  · exact Outcome.noConfusion
  · exact Outcome.noConfusion

theorem Outcome.within_of_sublist {outputs outputs' : List String}
    (h : (Outcome.ofOutputs outputs).comments.Sublist (Outcome.ofOutputs outputs').comments) :
    (Outcome.ofOutputs outputs).Within (.ofOutputs outputs') where
  skipped extension := iff_of_false (not_skipped_ofOutputs outputs extension) (not_skipped_ofOutputs outputs' extension)
  issues hissues := hasIssues_iff.mpr fun hnone => hasIssues_iff.mp hissues (List.sublist_nil.mp (hnone ▸ h))
  comments := h

/-- What is selected of an output are some of its lines, and where nothing is left without a selection nothing is
left with one. -/
theorem Linter.share_sublist (l : Linter) (lines : Option (List Nat)) (output : String) :
    (l.share lines output).Sublist (l.share none output) := by
  have hwhole : (Text.pieces '\n' output.toList).filter (l.selects none) = Text.pieces '\n' output.toList :=
    List.filter_true _
  have hsublist : ((Text.pieces '\n' output.toList).filter (l.selects lines)).Sublist (Text.pieces '\n' output.toList) :=
    List.filter_sublist
  rw [share_eq, share_eq, hwhole, Text.glue_pieces]
  by_cases hempty : output.toList = []
  · have hnone : Text.glue '\n' ((Text.pieces '\n' output.toList).filter (l.selects lines)) = [] := by
      rw [hempty]
      exact Text.glue_filter_pieces_nil _
    rw [if_pos hnone]
    exact List.nil_sublist _
  · rw [if_neg hempty]
    split
    · exact List.nil_sublist _
    · exact hsublist

/-! ## The same programs -/

theorem Wrote.det {outputs outputs' : List String} {s'' : Session σ} (h : Wrote host file linters s outputs s')
    (h' : Wrote host file linters s outputs' s'') : outputs = outputs' := by
  induction h generalizing outputs' with
  | done s =>
    cases h'
    rfl
  | next hlaunch _ ih =>
    cases h' with
    | next hlaunch' hrest' =>
      obtain ⟨hcaptured, rfl⟩ := Prod.mk.inj (hlaunch.symm.trans hlaunch')
      cases hcaptured
      rw [ih hrest']

/-- Without lines all of what the linters write is found. -/
theorem Wrote.remarked {outputs : List String} (h : Wrote host file linters s outputs s') :
    Remarked host file none linters s (outputs.map fun output => Text.pieces '\n' output.toList) s' := by
  induction h with
  | done s => exact .done s
  | next hlaunch _ ih => exact .next hlaunch rfl ih

/-- Where the linters give their lines, they give all of them without lines to ask for, and start the same. -/
theorem Remarked.widens {lines : Option (List Nat)} {found : List (List (List Char))}
    (h : Remarked host file lines linters s found s') : ∃ found', Remarked host file none linters s found' s' ∧
      (Outcome.ofOutputs (texts found)).Within (.ofOutputs (texts found')) := by
  obtain ⟨outputs, hwrote, hshares⟩ := comments_eq_shares h
  have hwhole := hwrote.remarked
  obtain ⟨outputs', hwrote', hshares'⟩ := comments_eq_shares hwhole
  obtain rfl := hwrote.det hwrote'
  refine ⟨_, hwhole, Outcome.within_of_sublist ?_⟩
  rw [hshares, hshares']
  exact List.Sublist.flatMap_right _ fun q _ => q.1.share_sublist lines q.2

/-- Linting with lines for which the filters are patterns ends as linting without does, in the same session. -/
theorem lint_narrows {registry : Registry} {r : Except Failure Outcome}
    (hcompile : ns ≠ [] → ∀ linters, registry.get? (Path.extension file) = some linters →
      ∀ l ∈ linters, ∃ q, LineFilter.pattern l.filter ns = .ok q)
    (h : Ends (lint host registry file (some ns)) s r s') :
    ∃ r', Ends (lint host registry file none) s r' s' ∧ Narrows r r' := by
  cases hl : registry.get? (Path.extension file) with
  | none =>
    obtain ⟨rfl, rfl⟩ := (lint_ends_of_none hl).mp h
    exact ⟨_, (lint_ends_of_none hl).mpr ⟨rfl, rfl⟩, .linted ⟨fun _ => Iff.rfl, id, List.Sublist.refl _⟩⟩
  | some linters =>
    cases (lint_ends_iff hl).mp h with
    | done hfound =>
      obtain ⟨found', hfound', hwithin⟩ := hfound.widens
      exact ⟨_, (lint_ends_iff hl).mpr (.done hfound'), .linted hwithin⟩
    | @stopped before later l _ s₁ _ f hlinters hfound hstuck =>
      obtain ⟨found', hfound', -⟩ := hfound.widens
      have hstuck' : Stuck host file none l s₁ f s' := by
        cases hstuck with
        | unstarted hlaunch => exact .unstarted hlaunch
        | unfiltered _ hlines hsome hfault =>
          cases hlines
          obtain ⟨q, hq⟩ := hcompile hsome linters hl l (by simp [hlinters])
          rw [LineFilter.pattern, hfault] at hq
          cases hq
      exact ⟨_, (lint_ends_iff hl).mpr (.stopped hlinters hfound' hstuck'), .failed f⟩

/-- Asking the linters about some lines only removes comments. Where the programs answer alike, which they do on all
sessions when an answer depends on the program and its arguments alone, and the filters are patterns for the lines, linting
with the lines and without starts the same programs. Both fail alike, or else both skip the file or neither does; without
the lines there are issues where there are with them, and the comments with the lines are, in order, among those
without. -/
theorem filtering_only_removes {other : Host τ} {alike : σ → τ → Prop} {registry : Registry} {t : Session τ}
    (halike : host.AlikeButExits other alike) (hworld : alike s.world t.world) (hevents : s.events = t.events)
    (hcompile : ns ≠ [] → ∀ linters, registry.get? (Path.extension file) = some linters →
      ∀ l ∈ linters, ∃ q, LineFilter.pattern l.filter ns = .ok q) :
    ∃ r r' s' t', Ends (lint host registry file (some ns)) s r s' ∧ Ends (lint other registry file none) t r' t' ∧
      s'.events = t'.events ∧ Narrows r r' := by
  obtain ⟨r, s', hends⟩ := exists_ends (lint host registry file (some ns)) s
  obtain ⟨r', hends', hnarrows⟩ := lint_narrows hcompile hends
  obtain ⟨t', hends'', -, hsame⟩ := lint_follows halike registry s t ⟨hworld, hevents⟩ r' s' hends'
  exact ⟨r, r', s', t', hends, hends'', hsame, hnarrows⟩

/-- Of two comments the one about the second line is left. -/
theorem filtering_only_removes_saying : ∃ s' t',
    Ends (lint (sayingHost "1: a\n2: b") plainRegistry "x.t" (some [2])) ⟨(), []⟩ (.ok (.issues "2: b")) s' ∧
    Ends (lint (sayingHost "1: a\n2: b") plainRegistry "x.t" none) ⟨(), []⟩ (.ok (.issues "1: a\n2: b")) t' ∧
    s'.events = t'.events ∧ Narrows (.ok (.issues "2: b")) (.ok (.issues "1: a\n2: b")) := by
  have hget : plainRegistry.get? (Path.extension "x.t") = some [plainLinter] := by decide +kernel
  have hcompile : ∃ q, LineFilter.pattern plainLinter.filter [2] = .ok q := ⟨_, by cbv⟩
  have hselect : LineFilter.select "1: a\n2: b" plainLinter.filter (some [2]) = .ok "2: b" := by cbv
  obtain ⟨found, hfound, htext⟩ := LineFilter.select_eq_ok_iff.mp hselect
  have hends : Ends (lint (sayingHost "1: a\n2: b") plainRegistry "x.t" (some [2])) ⟨(), []⟩ (.ok (.issues "2: b"))
      ⟨(), [plainLinter.start "x.t"]⟩ := by
    refine (lint_ends_ok hget).mpr ⟨[found], .next rfl hfound (.done _), ?_⟩
    rw [List.map_singleton, ← htext]
    decide
  have hends' := saying_ends "1: a\n2: b" (by decide)
  have hlinters : ([2] : List Nat) ≠ [] → ∀ linters, plainRegistry.get? (Path.extension "x.t") = some linters →
      ∀ l ∈ linters, ∃ q, LineFilter.pattern l.filter [2] = .ok q := by
    intro _ linters hl l hmem
    cases hget.symm.trans hl
    rw [List.mem_singleton.mp hmem]
    exact hcompile
  have halike : (sayingHost "1: a\n2: b").AlikeButExits (sayingHost "1: a\n2: b") fun _ _ => True :=
    fun _ _ _ _ _ => ⟨rfl, trivial⟩
  obtain ⟨r, r', s', t', h, h', hevents, hnarrows⟩ : ∃ r r' s' t',
      Ends (lint (sayingHost "1: a\n2: b") plainRegistry "x.t" (some [2])) ⟨(), []⟩ r s' ∧
      Ends (lint (sayingHost "1: a\n2: b") plainRegistry "x.t" none) ⟨(), []⟩ r' t' ∧ s'.events = t'.events ∧ Narrows r r' :=
    filtering_only_removes halike trivial rfl hlinters
  obtain ⟨rfl, rfl⟩ := h.det hends
  obtain ⟨rfl, rfl⟩ := h'.det hends'
  exact ⟨_, _, hends, hends', hevents, hnarrows⟩

end DeltaLint

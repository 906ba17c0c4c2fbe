import DeltaLint.Proofs.Comments
import Mathlib

/-
  DeltaLint.Proofs.Silence — files whose linters have nothing to say.

  A file without changed lines is not linted. It is given the outcome (`Registry.silentOutcome`) that linting
  it has when its linters write nothing, for nothing is selected of an empty output: its only piece is
  empty, and so is the text of what is kept of it, also where a filter matches the empty line.

  Proved:
  - `selects_of_empty`: nothing is selected of an empty output.
  - `eq_silentOutcome_iff`: a file that is linted to the end has the silent outcome exactly if it has no issues.
  - `silent_lint_ends`: linters that write nothing make the silent outcome.
-/

namespace DeltaLint

open Job

variable {σ : Type} {host : Host σ} {file : String} {lines : Option (List Nat)} {quiet : σ → Prop}

/-! ## Empty outputs -/

/-- The filter is a pattern for the lines, where there are lines to ask for. -/
def Linter.Filters (l : Linter) (lines : Option (List Nat)) : Prop :=
  ∀ ns, lines = some ns → ns ≠ [] → ∃ p, LineFilter.pattern l.filter ns = .ok p

/-- Nothing is selected of an empty output, whatever the filter matches. -/
theorem LineFilter.selects_of_empty {l : Linter} (h : l.Filters lines) :
    ∃ found, Selects l.filter lines "" found ∧ Text.glue '\n' found = [] := by
  rcases lines with _ | _ | ⟨n, ns⟩
  · exact ⟨_, rfl, rfl⟩
  · exact ⟨_, rfl, rfl⟩
  · obtain ⟨p, hp⟩ := h (n :: ns) rfl (List.cons_ne_nil n ns)
    exact ⟨kept p "", ⟨p, hp, rfl⟩, Text.glue_filter_pieces_nil _⟩

/-- Started on the file in a world that is quiet, the linters write nothing and leave a world that is quiet. -/
def Mute (host : Host σ) (file : String) (quiet : σ → Prop) (linters : List Linter) : Prop :=
  ∀ l ∈ linters, ∀ w, quiet w → ∃ captured w',
    host.launch l.program (l.arguments ++ [file]) w = (.ok captured, w') ∧ captured.text = "" ∧ quiet w'

/-- All linters that write nothing are started, and nothing is found. -/
theorem Mute.remarked {linters : List Linter} (h : Mute host file quiet linters)
    (hfilters : ∀ l ∈ linters, l.Filters lines) {s : Session σ} (hs : quiet s.world) :
    ∃ found s', Remarked host file lines linters s found s' ∧ ∀ ns ∈ found, Text.glue '\n' ns = [] := by
  induction linters generalizing s with
  | nil => exact ⟨[], s, .done s, by simp⟩
  | cons l ls ih =>
    obtain ⟨hl, hls⟩ := List.forall_mem_cons.mp hfilters
    obtain ⟨captured, w, hlaunch, hempty, hw⟩ := h l List.mem_cons_self s.world hs
    obtain ⟨ns, hns, hnothing⟩ := LineFilter.selects_of_empty hl
    obtain ⟨found, s', hfound, hrest⟩ :=
      ih (fun l' hl' => h l' (List.mem_cons_of_mem l hl')) hls (s := ⟨w, l.start file :: s.events⟩) hw
    rw [← hempty] at hns
    exact ⟨ns :: found, s', .next hlaunch hns hfound, List.forall_mem_cons.mpr ⟨hnothing, hrest⟩⟩

/-! ## The silent outcome -/

theorem silentOutcome_of_none {registry : Registry} (h : registry.get? (Path.extension file) = none) :
    registry.silentOutcome file = .skipped (Path.extension file) := by
  simp only [Registry.silentOutcome, h]

theorem silentOutcome_of_some {registry : Registry} {linters : List Linter}
    (h : registry.get? (Path.extension file) = some linters) : registry.silentOutcome file = .ok := by
  simp only [Registry.silentOutcome, h]

theorem silentOutcome_hasIssues (registry : Registry) (file : String) : (registry.silentOutcome file).hasIssues = false := by
  cases h : registry.get? (Path.extension file) with
  | none => rw [silentOutcome_of_none h]; rfl
  | some linters => rw [silentOutcome_of_some h]; rfl

/-- A file that was linted to the end has the silent outcome exactly if it has no issues. -/
theorem eq_silentOutcome_iff {registry : Registry} {outcome : Outcome} {s s' : Session σ}
    (h : Ends (lint host registry file lines) s (.ok outcome) s') :
    outcome = registry.silentOutcome file ↔ outcome.hasIssues = false := by
  constructor
  · rintro rfl
    exact silentOutcome_hasIssues registry file
  · intro hissues
    cases hl : registry.get? (Path.extension file) with
    | none =>
      obtain ⟨houtcome, -⟩ := (lint_ends_of_none hl).mp h
      rw [silentOutcome_of_none hl, Except.ok.inj houtcome]
    | some linters =>
      obtain ⟨found, hfound, rfl⟩ := (lint_ends_ok hl).mp h
      obtain ⟨-, hok | hsome, -⟩ := reports_ofOutputs hfound.no_newline
      · rw [silentOutcome_of_some hl, hok]
      · rw [hissues] at hsome
        cases hsome

/-- A file is skipped when it is linted exactly if it is skipped without, and then for the same extension. -/
theorem lint_skips_iff {registry : Registry} {extension : String} (s : Session σ) :
    (∃ s', Ends (lint host registry file lines) s (.ok (.skipped extension)) s') ↔
      registry.silentOutcome file = .skipped extension := by
  constructor
  · intro h
    obtain ⟨s', hends⟩ := h
    exact ((eq_silentOutcome_iff hends).mpr rfl).symm
  · intro hskipped
    cases hl : registry.get? (Path.extension file) with
    | none =>
      rw [silentOutcome_of_none hl] at hskipped
      exact ⟨s, (lint_ends_of_none hl).mpr ⟨by rw [hskipped], rfl⟩⟩
    | some linters =>
      rw [silentOutcome_of_some hl] at hskipped
      cases hskipped

/-- The outcome that a file is given without being linted is that of linting it, about any lines for which the filters are
patterns or about none, when its linters write nothing; these are all started. On any system, and whatever its linters
write, a file that is linted to the end has this outcome or issues, and is skipped exactly if this outcome says so, for the
same extension. It never says that there are issues. -/
theorem silent_lint_ends {registry : Registry} {s : Session σ} (hs : quiet s.world)
    (hmute : ∀ linters, registry.get? (Path.extension file) = some linters →
      Mute host file quiet linters ∧ ∀ l ∈ linters, l.Filters lines) :
    (∃ s', Ends (lint host registry file lines) s (.ok (registry.silentOutcome file)) s' ∧
      s'.events = (((registry.get? (Path.extension file)).getD []).map (·.start file)).reverse ++ s.events) ∧
    (∀ {τ : Type} (other : Host τ) (lines' : Option (List Nat)) (t : Session τ),
      (∀ outcome t', Ends (lint other registry file lines') t (.ok outcome) t' →
        (outcome = registry.silentOutcome file ↔ outcome.hasIssues = false)) ∧
      ∀ extension, (∃ t', Ends (lint other registry file lines') t (.ok (.skipped extension)) t') ↔
        registry.silentOutcome file = .skipped extension) ∧
    (registry.silentOutcome file).hasIssues = false := by
  refine ⟨?_, fun other lines' t => ⟨fun outcome t' => eq_silentOutcome_iff, fun extension => lint_skips_iff t⟩,
    silentOutcome_hasIssues registry file⟩
  cases hl : registry.get? (Path.extension file) with
  | none =>
    rw [silentOutcome_of_none hl]
    exact ⟨s, (lint_ends_of_none hl).mpr ⟨rfl, rfl⟩, rfl⟩
  | some linters =>
    obtain ⟨hwrites, hfilters⟩ := hmute linters hl
    obtain ⟨found, s', hfound, hnothing⟩ := hwrites.remarked hfilters hs
    obtain ⟨-, -, hok⟩ := reports_ofOutputs hfound.no_newline
    rw [silentOutcome_of_some hl]
    exact ⟨s', (lint_ends_ok hl).mpr ⟨found, hfound, (hok.mpr hnothing).symm⟩, hfound.events⟩

/-- A linter whose filter matches the empty line, too. -/
def looseLinter : Linter := ⟨"l", "l", [], "(%(lines)s)?", none⟩

theorem silent_lint_ends_loose : ∃ s',
    Ends (lint (sayingHost "") (.ofList [(".t", looseLinter)]) "x.t" (some [2])) ⟨(), []⟩ (.ok .ok) s' ∧
    s'.events = [looseLinter.start "x.t"] ∧ (Registry.ofList [(".t", looseLinter)]).silentOutcome "x.t" = .ok := by
  have hget : (Registry.ofList [(".t", looseLinter)]).get? (Path.extension "x.t") = some [looseLinter] := by decide +kernel
  have hpattern : ∃ p, LineFilter.pattern looseLinter.filter [2] = .ok p := ⟨_, by cbv⟩
  have hmute : ∀ linters, (Registry.ofList [(".t", looseLinter)]).get? (Path.extension "x.t") = some linters →
      Mute (sayingHost "") "x.t" (fun _ => True) linters ∧ ∀ l ∈ linters, l.Filters (some [2]) := by
    intro linters hl
    cases hget.symm.trans hl
    refine ⟨fun l _ w _ => ⟨_, _, rfl, rfl, trivial⟩, fun l hl ns hns _ => ?_⟩
    rw [List.mem_singleton.mp hl, ← Option.some.inj hns]
    exact hpattern
  have hloose : (Registry.ofList [(".t", looseLinter)]).silentOutcome "x.t" = .ok := silentOutcome_of_some hget
  obtain ⟨⟨s', hends, hevents⟩, -⟩ := silent_lint_ends (s := ⟨(), []⟩) trivial hmute
  rw [hloose] at hends
  rw [hget] at hevents
  exact ⟨s', hends, hevents, hloose⟩

end DeltaLint

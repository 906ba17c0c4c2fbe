import DeltaLint.Proofs.Keyed
import DeltaLint.Proofs.Path.Bytes
import DeltaLint.Proofs.Stopping

/-
  DeltaLint.Proofs.Report.Json — whether the printed object tells of all files.

  The object has an entry for each path that is shown, and of several files that are shown alike only the
  last is told of: `a\b.py` is shown as `a/b.py` is. The exit status counts all of them. So the object
  tells of all files, and agrees with the exit status, exactly when no two files are shown alike
  (`complete_iff_nodup`); of paths that are text and without backslashes none are.

  Proved:
  - `mem_byPath_iff`: an entry is the last report under its path.
  - `json_run_complete_iff`: what a run prints as JSON, and when it tells of all files.
-/

namespace DeltaLint

open Job

variable {σ : Type} {host : Host σ}

namespace Report

/-- No later report has the same path. -/
def Last (reports : List Entry) (r : Entry) : Prop :=
  ∃ before after, reports = before ++ r :: after ∧ ∀ r' ∈ after, r'.path ≠ r.path

/-- Some report has issues. -/
def HasIssues (reports : List Entry) : Prop := ∃ r ∈ reports, r.outcome.hasIssues = true

/-- The object has one entry for each report, and the exit status says whether one of these has issues. -/
structure Complete (reports : List Entry) (status : Nat) : Prop where
  entries : (byPath reports).Perm (reports.map fun r => (r.path, r.outcome))
  status : status = 1 ↔ ∃ e ∈ byPath reports, e.2.hasIssues = true

theorem increasing_byPath (reports : List Entry) : Keyed.Increasing compare (byPath reports) := Keyed.increasing_ofList _

/-- An entry is the last report under its path. -/
theorem mem_byPath_iff {reports : List Entry} {path : String} {outcome : Outcome} :
    (path, outcome) ∈ byPath reports ↔ Last reports ⟨path, outcome⟩ := by
  rw [byPath, Keyed.mem_ofList_iff]
  constructor
  · intro h
    obtain ⟨before, after, hreports, hafter⟩ := h
    obtain ⟨before', rest, rfl, rfl, hrest⟩ := List.map_eq_append_iff.mp hreports
    obtain ⟨r, after', rfl, hr, rfl⟩ := List.map_eq_cons_iff.mp hrest
    cases hr
    refine ⟨before', after', rfl, fun r' hr' hpath => ?_⟩
    exact hafter _ (List.mem_map_of_mem hr') (Std.LawfulEqOrd.compare_eq_iff_eq.mpr hpath)
  · intro h
    obtain ⟨before, after, rfl, hafter⟩ := h
    refine ⟨_, _, List.map_append, fun e he hpath => ?_⟩
    obtain ⟨r', hr', rfl⟩ := List.mem_map.mp he
    exact hafter r' hr' (Std.LawfulEqOrd.compare_eq_iff_eq.mp hpath)

theorem perm_byPath_iff {reports : List Entry} :
    (byPath reports).Perm (reports.map fun r => (r.path, r.outcome)) ↔ (reports.map (·.path)).Nodup := by
  rw [byPath, Keyed.perm_ofList_iff, List.pairwise_map, List.nodup_iff_pairwise_ne, List.pairwise_map]
  simp only [ne_eq, Std.LawfulEqOrd.compare_eq_iff_eq]

/-- The object tells of all reports exactly when no two of them have the same path. -/
theorem complete_iff_nodup {reports : List Entry} {status : Nat} (hstatus : status = 1 ↔ HasIssues reports) :
    Complete reports status ↔ (reports.map (·.path)).Nodup := by
  constructor
  · intro h
    exact perm_byPath_iff.mp h.entries
  · intro h
    have hperm := perm_byPath_iff.mpr h
    refine ⟨hperm, hstatus.trans ?_⟩
    constructor
    · intro hissues
      obtain ⟨r, hr, hissue⟩ := hissues
      exact ⟨_, hperm.mem_iff.mpr (List.mem_map_of_mem hr), hissue⟩
    · intro hissues
      obtain ⟨e, he, hissue⟩ := hissues
      obtain ⟨r, hr, rfl⟩ := List.mem_map.mp (hperm.mem_iff.mp he)
      exact ⟨r, hr, hissue⟩

end Report

/-- The paths that the targets are shown as. -/
def Plan.shownPaths (p : Plan) (ts : Targets) : List String := ts.map fun t => Path.shown t.1 p.directory

theorem Visits.paths {p : Plan} {ts : Targets} {reports : List Report.Entry} {s s' : Session σ}
    (h : Visits host p ts s reports s') : reports.map (·.path) = p.shownPaths ts := by
  induction h with
  | done s => rfl
  | next _ _ ih => exact congrArg _ ih

/-- Absolute targets without backslashes are shown apart. -/
theorem Plan.nodup_shownPaths {p : Plan} {ts : Targets} (hincreasing : Keyed.Increasing Path.order ts)
    (hplain : ∀ t ∈ ts, Path.isAbsolute t.1.toList = true ∧ '\\' ∉ t.1.toList) : (p.shownPaths ts).Nodup := by
  rw [Plan.shownPaths, List.nodup_iff_pairwise_ne, List.pairwise_map]
  refine (Path.shown_apart hincreasing p.directory).imp_of_mem fun {t t'} ht ht' hapart => ?_
  exact hapart ⟨(hplain t ht).1, (hplain t ht).2⟩ ⟨(hplain t' ht').1, (hplain t' ht').2⟩

/-- A run for JSON that ends has visited its targets and then prints the reports all at once. -/
theorem json_run_ends {options : Options} {colour : Bool} {w : σ} {status : Nat} {s' : Session σ}
    (hjson : options.json = true) (h : (run host options colour).runOn w = (.ok status, s')) :
    ∃ p ts s₀ reports s₁, (prepare host options colour).runOn w = (.ok (p, ts), s₀) ∧ Visits host p ts s₀ reports s₁ ∧
      s'.printedLines = [Report.json options.pretty reports] ∧ (status = 1 ↔ Report.HasIssues reports) := by
  obtain ⟨⟨p, ts⟩, s₀, hprepare, hrest⟩ := ends_bind_ok.mp h
  obtain ⟨reports, s₁, hreports, hend⟩ := ends_bind_ok.mp hrest
  have hvisits := visits_of_ends_ok hreports
  have hconclusion : Ends (conclusion options reports) s₁ (.ok status) s' := hend
  obtain ⟨hoptions, -⟩ := prepare_ends_ok_iff.mp hprepare
  refine ⟨p, ts, s₀, reports, s₁, hprepare, hvisits, ?_, ?_⟩
  · rw [conclusion_printedLines hconclusion, hvisits.printedLines, silent_prepare _ _ _ _ _ hprepare, hoptions, hjson]
    rfl
  · obtain ⟨s₂, hends⟩ := conclusion_ends options reports s₁
    cases (hconclusion.det hends).1
    rw [Report.HasIssues, ← List.any_eq_true]
    cases reports.any (·.outcome.hasIssues) <;> decide

/-- A run for JSON prints one object, with the paths of its entries increasing and the last report under each of them. The
exit status is 1 when some report has issues. So the object tells of all files and agrees with the exit status exactly when
no two of the files, which are all different, are shown alike; and without backslashes in their absolute paths, which are
text, none are. -/
theorem json_run_complete_iff {options : Options} {colour : Bool} {w : σ} {status : Nat} {s' : Session σ}
    (hjson : options.json = true) (h : (run host options colour).runOn w = (.ok status, s')) :
    ∃ p ts s₀ reports s₁, (prepare host options colour).runOn w = (.ok (p, ts), s₀) ∧
      Keyed.Increasing Path.order ts ∧ Visits host p ts s₀ reports s₁ ∧ reports.map (·.path) = p.shownPaths ts ∧
      s'.printedLines = [Report.json options.pretty reports] ∧ Keyed.Increasing compare (Report.byPath reports) ∧
      (∀ path outcome, (path, outcome) ∈ Report.byPath reports ↔ Report.Last reports ⟨path, outcome⟩) ∧
      (status = 1 ↔ Report.HasIssues reports) ∧ (Report.Complete reports status ↔ (p.shownPaths ts).Nodup) ∧
      ((∀ t ∈ ts, Path.isAbsolute t.1.toList = true ∧ '\\' ∉ t.1.toList) → Report.Complete reports status) := by
  obtain ⟨p, ts, s₀, reports, s₁, hprepare, hvisits, hprinted, hstatus⟩ := json_run_ends hjson h
  obtain ⟨-, -, htargets⟩ := prepare_ends_ok_iff.mp hprepare
  have hcomplete : Report.Complete reports status ↔ (p.shownPaths ts).Nodup := by
    rw [Report.complete_iff_nodup hstatus, hvisits.paths]
  refine ⟨p, ts, s₀, reports, s₁, hprepare, htargets.increasing, hvisits, hvisits.paths, hprinted,
    Report.increasing_byPath reports, fun _ _ => Report.mem_byPath_iff, hstatus, hcomplete, fun hplain => ?_⟩
  exact hcomplete.mpr (Plan.nodup_shownPaths htargets.increasing hplain)

theorem tiny_json_run_complete : ∃ s' p ts s₀ reports s₁, (run tinyHost { json := true } false).runOn () = (.ok 1, s') ∧
    s'.printedLines = ["\x7b\"new.py\":\x7b\"comments\":[\"bad\",\"bad\"],\"status\":\"issues\"\x7d,\"old.py\":\x7b\"status\":\"ok\"\x7d\x7d"] ∧
    Visits tinyHost p ts s₀ reports s₁ ∧ Report.Complete reports 1 := by
  have hok : ((run tinyHost { json := true } false).runOn ()).1.toOption = some 1 := by decide +kernel
  have hprinted : ((run tinyHost { json := true } false).runOn ()).2.printedLines =
      ["\x7b\"new.py\":\x7b\"comments\":[\"bad\",\"bad\"],\"status\":\"issues\"\x7d,\"old.py\":\x7b\"status\":\"ok\"\x7d\x7d"] := by
    decide +kernel
  have hshown : ((prepare tinyHost { json := true } false).runOn ()).1.toOption.map (fun q => q.1.shownPaths q.2) =
      some ["new.py", "old.py"] := by decide +kernel
  generalize hend : (run tinyHost { json := true } false).runOn () = q at hok hprinted
  rcases q with ⟨e | status, s'⟩
  · cases hok
  · cases hok
    obtain ⟨p, ts, s₀, reports, s₁, hprepare, -, hvisits, -, -, -, -, -, hcomplete, -⟩ := json_run_complete_iff rfl hend
    rw [hprepare] at hshown
    have hpaths : p.shownPaths ts = ["new.py", "old.py"] := Option.some.inj hshown
    refine ⟨s', p, ts, s₀, reports, s₁, rfl, hprinted, hvisits, hcomplete.mpr ?_⟩
    rw [hpaths]
    decide

/-- A repository with two files that git does not know, which are shown alike. The linters find fault with the first. -/
def twinHost : Host Unit where
  workingDirectory _ := .ok "/r"
  isFile _ _ := false
  canonical _ path := .ok path
  readText _ _ := .error .notFound
  git _ arguments w :=
    (.ok ⟨Text.Utf8.encode (if arguments.head? = some "status" then "?? a/b.py\n?? \"a\\\\b.py\"\n" else "/r\n").toList, [], true⟩, w)
  launch _ arguments w := (.ok ⟨if arguments.getLast? = some "/r/a/b.py" then "bad" else "", some 1⟩, w)

/-- Two files are linted and the exit status says that one has issues, but the object has one entry and no issues. -/
theorem twin_run_hides_issues : ∃ s' p ts s₀ reports s₁,
    (run twinHost { json := true } false).runOn () = (.ok 1, s') ∧
    (prepare twinHost { json := true } false).runOn () = (.ok (p, ts), s₀) ∧
    ts.map (·.1) = ["/r/a/b.py", "/r/a\\b.py"] ∧ Visits twinHost p ts s₀ reports s₁ ∧
    s'.printedLines = ["\x7b\"a/b.py\":\x7b\"status\":\"ok\"\x7d\x7d"] ∧ ¬Report.Complete reports 1 := by
  have hok : ((run twinHost { json := true } false).runOn ()).1.toOption = some 1 := by decide +kernel
  have hprinted : ((run twinHost { json := true } false).runOn ()).2.printedLines =
      ["\x7b\"a/b.py\":\x7b\"status\":\"ok\"\x7d\x7d"] := by decide +kernel
  have htargets : ((prepare twinHost { json := true } false).runOn ()).1.toOption.map
      (fun q => (q.2.map (·.1), q.1.shownPaths q.2)) =
        some (["/r/a/b.py", "/r/a\\b.py"], ["a/b.py", "a/b.py"]) := by decide +kernel
  generalize hend : (run twinHost { json := true } false).runOn () = q at hok hprinted
  rcases q with ⟨e | status, s'⟩
  · cases hok
  · cases hok
    obtain ⟨p, ts, s₀, reports, s₁, hprepare, hvisits, -, hstatus⟩ := json_run_ends rfl hend
    rw [hprepare] at htargets
    obtain ⟨hpaths, hshown⟩ := Prod.mk.inj (Option.some.inj htargets)
    refine ⟨s', p, ts, s₀, reports, s₁, rfl, hprepare, hpaths, hvisits, hprinted, ?_⟩
    rw [Report.complete_iff_nodup hstatus, hvisits.paths, hshown]
    decide

end DeltaLint

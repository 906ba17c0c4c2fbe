import DeltaLint.Proofs.Preparation
import DeltaLint.Proofs.Visit

/-
  DeltaLint.Proofs.Run — what a run that is not stopped does.

  Before the targets nothing is printed, and git says which files changed (`Prepared`, `Listed`). The
  targets are then visited one after the other (`Visits`).

  Proved:
  - `prepare_ends_ok`: what a run does before the targets.
  - `visits_of_ends_ok` / `Visits.printedLines`: the targets are visited in order, each between its two lines.
  - `run_reports_changed_lines`: a run that ends prints the reports of its visits and nothing else.
-/

namespace DeltaLint

open Job

variable {σ : Type} {host : Host σ}

/-! ## Before the targets -/

/-- What is linted, and what it says of each file whether and how it changed. -/
structure Listed (host : Host σ) (directory : String) (names : List String) (changed : Git.Changed) (w : σ) (ts : Targets) :
    Prop where
  /-- Without names, all that changed. -/
  changes : names = [] → ts = changed.map fun (path, change) => (path, some change)
  /-- Else what is named, with the change that git knows of, if any. -/
  named : names ≠ [] → ∀ t ∈ ts, t.2 = changed.find? Path.order t.1 ∧
    ∃ name ∈ names, host.canonical w (Path.join directory name) = .ok t.1
  /-- Each of the names counts. -/
  all : ∀ name ∈ names, ∃ file, host.canonical w (Path.join directory name) = .ok file ∧
    ∃ t ∈ ts, Path.components t.1.toList = Path.components file.toList

theorem targets_ends_ok {options : Options} {directory : String} {changed : Git.Changed} {ts : Targets} {s s' : Session σ}
    (h : Ends (Preparation.targets host options directory changed) s (.ok ts) s') :
    Listed host directory options.files changed s.world ts := by
  by_cases hnames : options.files = []
  · rw [Preparation.targets_eq_changed hnames] at h
    cases (ends_pure.mp h).1
    exact ⟨fun _ => rfl, fun hne => absurd hnames hne, by simp [hnames]⟩
  · rw [Preparation.targets_eq_known hnames] at h
    obtain ⟨found, s₁, hfound, h⟩ := ends_bind_ok.mp h
    cases (ends_pure.mp h).1
    obtain ⟨-, hfrom, hinto⟩ := ends_mapM_ok_of_keeps (Preparation.keeps_path directory) hfound
    refine ⟨fun hnil => absurd hnil hnames, fun _ t ht => ?_, fun name hname => ?_⟩
    · obtain ⟨path, hpath, rfl⟩ := List.mem_map.mp (Keyed.mem_of_mem_ofList ht)
      obtain ⟨name, hname, hends⟩ := hfrom path hpath
      exact ⟨rfl, name, hname, Preparation.path_ends_ok.mp hends⟩
    · obtain ⟨path, hpath, hends⟩ := hinto name hname
      have hlisted : (path, changed.find? Path.order path) ∈ found.map fun path => (path, changed.find? Path.order path) :=
        List.mem_map_of_mem hpath
      obtain ⟨t, ht, hsame⟩ :=
        Keyed.exists_mem_ofList (fun path => Path.components path.toList) (fun _ _ => Path.order_eq_iff) hlisted
      exact ⟨path, Preparation.path_ends_ok.mp hends, t, ht, hsame⟩

/-- What a run has to do before the targets. -/
structure Prepared (host : Host σ) (options : Options) (colour : Bool) (p : Plan) (ts : Targets) (s' : Session σ) : Prop where
  sameOptions : p.options = options
  sameColour : p.colour = (colour && !options.noColour)
  /-- A commit is looked at only where the last one is asked for, and then that one. -/
  commit : if options.lastCommit then
      p.commit.isSome ∧ ∃ s₁ s₂, Ends (Git.lastCommit? host p.root) s₁ (.ok p.commit) s₂
    else p.commit = none
  listed : ∃ changed s₁, Ends (Git.changed host p.root options.tracked p.commit) s₁ (.ok changed) s' ∧
    Listed host p.directory options.files changed s'.world ts

theorem prepare_ends_ok {options : Options} {colour : Bool} {p : Plan} {ts : Targets} {w : σ} {s' : Session σ}
    (h : Ends (prepare host options colour) ⟨w, []⟩ (.ok (p, ts)) s') : Prepared host options colour p ts s' := by
  obtain ⟨rfl, hcolour, changed, s₁, ⟨s₂, ⟨s₃, ⟨s₄, -, hcommit⟩, hchanged⟩, hnames⟩, hts⟩ := prepare_ends_ok_iff.mp h
  -- Once it is known what changed, the files are only looked at.
  obtain rfl : s₁ = s₂ := (Preparation.keeps_names _ : Keeps id _) _ _ _ hnames
  obtain rfl : s' = s₁ := (Preparation.keeps_targets _ _ : Keeps id _) _ _ _ hts
  refine ⟨rfl, hcolour, ?_, changed, s₃, ends_adapt_ok.mp hchanged, targets_ends_ok hts⟩
  have hlast := Preparation.commit_ends_ok hcommit
  split
  · rename_i hasked
    rw [if_pos hasked] at hlast
    exact ⟨hlast.1, s₄, s₃, hlast.2⟩
  · rename_i hasked
    rw [if_neg hasked] at hlast
    exact hlast.1

/-! ## The targets -/

/-- The targets are visited one after the other, each between the two lines that are said about it. -/
inductive Visits (host : Host σ) (p : Plan) : Targets → Session σ → List Report.Entry → Session σ → Prop
  | done (s : Session σ) : Visits host p [] s [] s
  | next {file : String} {change : Option Change} {ts : Targets} {s s₁ s' : Session σ} {outcome : Outcome}
      {reports : List Report.Entry}
      (hvisit : Visit host p file change (p.say (Report.header p.colour (Path.shown file p.directory)) s) outcome s₁)
      (hrest : Visits host p ts (p.say (Report.status p.colour outcome) s₁) reports s') :
      Visits host p ((file, change) :: ts) s (⟨Path.shown file p.directory, outcome⟩ :: reports) s'

theorem visits_of_ends_ok {p : Plan} {ts : Targets} {reports : List Report.Entry} {s s' : Session σ}
    (h : Ends (ts.mapM fun (file, change) => p.lintTarget host file change) s (.ok reports) s') :
    Visits host p ts s reports s' := by
  induction ts generalizing s reports with
  | nil =>
    rw [List.mapM_nil] at h
    obtain ⟨hreports, rfl⟩ := ends_pure.mp h
    cases hreports
    exact .done _
  | cons t ts ih =>
    obtain ⟨report, s₁, rest, hone, hrest, rfl⟩ := ends_mapM_cons_ok.mp h
    obtain ⟨outcome, s₂, rfl, hvisit, rfl⟩ := lintTarget_ends_ok hone
    exact .next hvisit (ih hrest)

/-- What is printed about the targets: as text two lines for each, and as JSON one text for all. -/
def Plan.reportLines (p : Plan) (reports : List Report.Entry) : List String :=
  if p.options.json then [Report.json p.options.pretty reports]
  else reports.flatMap fun r => [Report.header p.colour r.path, Report.status p.colour r.outcome]

theorem Visits.printedLines {p : Plan} {ts : Targets} {reports : List Report.Entry} {s s' : Session σ}
    (h : Visits host p ts s reports s') :
    s'.printedLines = s.printedLines ++ if p.options.json then [] else p.reportLines reports := by
  unfold Plan.reportLines
  induction h with
  | done s => simp
  | next hvisit _ ih =>
    rw [ih, Plan.printedLines_say, hvisit.printedLines, Plan.printedLines_say]
    split
    · simp
    · simp

/-- A run that is not stopped visits its targets one after the other and prints the reports of these visits and
nothing else. -/
theorem run_reports_changed_lines {options : Options} {colour : Bool} {w : σ} {status : Nat} {s' : Session σ}
    (h : (run host options colour).runOn w = (.ok status, s')) :
    ∃ p ts s₀ reports s₁, (prepare host options colour).runOn w = (.ok (p, ts), s₀) ∧
      Prepared host options colour p ts s₀ ∧ Visits host p ts s₀ reports s₁ ∧
      s'.world = s₁.world ∧ s'.launches = s₁.launches ∧ s'.printedLines = p.reportLines reports ∧
      status = if reports.any (·.outcome.hasIssues) then 1 else 0 := by
  obtain ⟨⟨p, ts⟩, s₀, hprepare, hrest⟩ := ends_bind_ok.mp h
  obtain ⟨reports, s₁, hreports, hend⟩ := ends_bind_ok.mp hrest
  have hprepared := prepare_ends_ok hprepare
  have hvisits := visits_of_ends_ok hreports
  have hprinted : s₁.printedLines = if p.options.json then [] else p.reportLines reports := by
    rw [hvisits.printedLines, silent_prepare options colour _ _ _ hprepare]
    rfl
  have hjson : options.json = p.options.json := by rw [hprepared.sameOptions]
  refine ⟨p, ts, s₀, reports, s₁, hprepare, hprepared, hvisits, ?_⟩
  simp only at hend
  split at hend
  · rename_i hasJson
    obtain ⟨_, s₂, hprint, hpure⟩ := ends_bind_ok.mp hend
    obtain ⟨-, rfl⟩ := ends_print.mp hprint
    obtain ⟨hstatus, rfl⟩ := ends_pure.mp hpure
    refine ⟨rfl, by simp [Session.launches], ?_, Except.ok.inj hstatus⟩
    rw [hjson] at hasJson
    rw [if_pos hasJson] at hprinted
    have hlines : ({ s₁ with events := .printed (Report.json options.pretty reports) :: s₁.events } : Session σ).printedLines =
        s₁.printedLines ++ [Report.json options.pretty reports] := by simp [Session.printedLines]
    rw [hlines, hprinted, Plan.reportLines, if_pos hasJson, hprepared.sameOptions]
    rfl
  · rename_i noJson
    obtain ⟨hstatus, rfl⟩ := ends_pure.mp hend
    rw [hjson] at noJson
    rw [if_neg noJson] at hprinted
    exact ⟨rfl, rfl, hprinted, Except.ok.inj hstatus⟩

/-- As text, a run ends where its last target does. -/
theorem run_ends_text {options : Options} {colour : Bool} {p : Plan} {ts : Targets} {reports : List Report.Entry}
    {s s₀ s' : Session σ} (htext : options.json = false) (hprepare : Ends (prepare host options colour) s (.ok (p, ts)) s₀)
    (hreports : Ends (ts.mapM fun (file, change) => p.lintTarget host file change) s₀ (.ok reports) s') :
    Ends (run host options colour) s (.ok (if reports.any (·.outcome.hasIssues) then 1 else 0)) s' := by
  refine hprepare.bind (hreports.bind ?_)
  simp only [htext, Bool.false_eq_true, if_false]
  exact ends_pure.mpr ⟨rfl, rfl⟩

/-- A repository with one change that only removes lines and one file that git does not know, under a linter that finds
fault with all. -/
def tinyHost : Host Unit where
  workingDirectory _ := .ok "/r"
  isFile _ _ := false
  canonical _ path := .ok path
  readText _ _ := .error .notFound
  git _ arguments w :=
    (.ok ⟨Text.Utf8.encode (match arguments with
      | "rev-parse" :: _ => "/r\n"
      | "status" :: _ => " M old.py\n?? new.py\n"
      | _ => "").toList, [], true⟩, w)
  launch _ _ w := (.ok ⟨"bad", some 1⟩, w)

/-- The same repository with a line of the file changed, under linters that find fault with two of its lines. -/
def editedHost : Host Unit :=
  { tinyHost with
    git := fun _ arguments w =>
      (.ok ⟨Text.Utf8.encode (match arguments with
        | "rev-parse" :: _ => "/r\n"
        | "status" :: _ => " M old.py\n"
        | _ => "a94a8fe5ccb19ba61c4c0873d391e987982fbbd3 1 1 1\n\tone\n" ++
            "0000000000000000000000000000000000000000 2 2 1\n\ttwo\n").toList, [], true⟩, w)
    launch := fun _ _ w => (.ok ⟨"f:1: off\nf:2: on", some 1⟩, w) }

def editedPlan : Plan := ⟨{}, false, "/r", "/r", Config.builtin, none⟩

/-- Of the two lines, each of the linters is left with the one about the changed line. -/
theorem edited_lint_ends (s : Session Unit) : ∃ s', s'.printedLines = s.printedLines ∧
    Ends (lint editedHost Config.builtin "/r/old.py" (some [2])) s (.ok (.ofOutputs ["f:2: on", "f:2: on"])) s' := by
  have hlinters : Config.builtin.get? (Path.extension "/r/old.py") = some [Config.pylint, Config.pycodestyle] := by decide
  have hselect : LineFilter.select "f:1: off\nf:2: on" Config.colonFilter (some [2]) = .ok "f:2: on" := by cbv
  obtain ⟨ns, hns, hglue⟩ := LineFilter.select_eq_ok_iff.mp hselect
  have hremarked : Remarked editedHost "/r/old.py" (some [2]) [Config.pylint, Config.pycodestyle] s [ns, ns] _ :=
    .next rfl hns (.next rfl hns (.done _))
  exact ⟨_, hremarked.printedLines, (lint_ends_ok hlinters).mpr ⟨[ns, ns], hremarked, by simp [← hglue]⟩⟩

theorem edited_target_ends (s : Session Unit) : ∃ report s',
    report.outcome.hasIssues = true ∧
    s'.printedLines = s.printedLines ++ ["Linting file: old.py", "ERROR\nf:2: on\nf:2: on"] ∧
    Ends (editedPlan.lintTarget editedHost "/r/old.py" (some .modified)) s (.ok report) s' := by
  have hshown : Path.shown "/r/old.py" "/r" = "old.py" := by decide +kernel
  have hblamed : ∀ s, ∃ text s', Git.Blamed editedHost "/r" "/r/old.py" s text s' ∧
      Git.blamedLines text none = [2] ∧ s'.printedLines = s.printedLines := fun s =>
    ⟨_, _, .intro rfl rfl, by decide +kernel, by simp [Session.printedLines]⟩
  obtain ⟨text, s₁, hblame, hlines, hblamePrinted⟩ := hblamed (editedPlan.say (editedPlan.header "/r/old.py") s)
  obtain ⟨s₂, hlintPrinted, hlint⟩ := edited_lint_ends s₁
  refine ⟨_, _, ?_, ?_, lintTarget_ends_iff.mpr (ends_bind_ok.mpr ⟨some [2], s₁,
    planLines_ends_ok.mpr (Or.inr ⟨rfl, rfl, text, hblame, by rw [← hlines]; rfl⟩),
    conclude_ends_ok.mpr ⟨_, s₂, Or.inr ⟨by simp, hlint⟩, rfl, rfl⟩⟩)⟩
  · decide
  · simp only [Plan.printedLines_say, hlintPrinted, hblamePrinted]
    rw [Plan.header, show editedPlan.directory = "/r" from rfl, hshown]
    exact List.append_assoc _ _ _

/-- All lines about the new file and nothing for the one that only lost lines; and in the other repository what is about
the changed line. -/
theorem tiny_run_reports :
    (∃ s', (run tinyHost {} false).runOn () = (.ok 1, s') ∧
      s'.printedLines = ["Linting file: new.py", "ERROR\nbad\nbad", "Linting file: old.py", "OK"] ∧
      ∃ p ts s₀ reports s₁, Prepared tinyHost {} false p ts s₀ ∧ Visits tinyHost p ts s₀ reports s₁ ∧
        s'.printedLines = p.reportLines reports) ∧
    ∃ s', (run editedHost {} false).runOn () = (.ok 1, s') ∧
      s'.printedLines = ["Linting file: old.py", "ERROR\nf:2: on\nf:2: on"] ∧
      ∃ p ts s₀ reports s₁, Prepared editedHost {} false p ts s₀ ∧ Visits editedHost p ts s₀ reports s₁ ∧
        s'.printedLines = p.reportLines reports := by
  refine ⟨?_, ?_⟩
  · have hok : ((run tinyHost {} false).runOn ()).1.toOption = some 1 := by decide +kernel
    have hprinted : ((run tinyHost {} false).runOn ()).2.printedLines =
        ["Linting file: new.py", "ERROR\nbad\nbad", "Linting file: old.py", "OK"] := by decide +kernel
    have hend := ends_of_toOption hok
    obtain ⟨p, ts, s₀, reports, s₁, -, hprepared, hvisits, -, -, hlines, -⟩ := run_reports_changed_lines hend
    exact ⟨_, hend, hprinted, p, ts, s₀, reports, s₁, hprepared, hvisits, hlines⟩
  · have hprepare : Ends (prepare editedHost {} false) ⟨(), []⟩ (.ok (editedPlan, [("/r/old.py", some .modified)])) _ :=
      ends_of_toOption (by decide +kernel)
    obtain ⟨report, s', hissues, hprinted, htarget⟩ := edited_target_ends _
    have hend : Ends (run editedHost {} false) ⟨(), []⟩ (.ok 1) s' := by
      simpa [hissues] using run_ends_text rfl hprepare
        (ends_mapM_cons_ok.mpr ⟨report, s', [], htarget, ends_pure.mpr ⟨rfl, rfl⟩, rfl⟩)
    rw [silent_prepare _ _ _ _ _ hprepare] at hprinted
    obtain ⟨p, ts, s₀, reports, s₁, -, hprepared, hvisits, -, -, hlines, -⟩ := run_reports_changed_lines hend
    exact ⟨s', hend, hprinted, p, ts, s₀, reports, s₁, hprepared, hvisits, hlines⟩

end DeltaLint

import DeltaLint.Proofs.Git.Blame
import DeltaLint.Proofs.Job
import DeltaLint.Proofs.Selection
import DeltaLint.Run

/-
  DeltaLint.Proofs.Visit — what happens to one target of a run.

  Git is asked which lines of the file changed (`Asked`), unless the file counts as a whole; then the
  linters for its extension are started in order, and from the output of each the lines about those
  lines are taken (`Remarked`). `Visit` puts the two together case by case, and says what the outcome
  makes of them (`Reports`).

  Proved:
  - `lint_ends_ok`: linting a file with linters gives the outcome of what was found.
  - `changedLines_ends_ok`: the lines that changed are those that git's blame gives to the commit.
  - `planLines_ends_ok` / `conclude_ends_ok`: the halves of a target end well as git and the linters do.
  - `lintTarget_ends_ok`: a target that is linted to the end was visited.
-/

namespace DeltaLint

open Job

variable {σ : Type} {host : Host σ}

/-! ## The linters -/

/-- The linters are started on the file, one after the other, and each time the lines about `lines` are found in what
they write. -/
inductive Remarked (host : Host σ) (file : String) (lines : Option (List Nat)) :
    List Linter → Session σ → List (List (List Char)) → Session σ → Prop
  | done (s : Session σ) : Remarked host file lines [] s [] s
  | next {l : Linter} {ls : List Linter} {s s' : Session σ} {captured : Captured} {w : σ} {ns : List (List Char)}
      {found : List (List (List Char))}
      (hlaunch : host.launch l.program (l.arguments ++ [file]) s.world = (.ok captured, w))
      (hselect : LineFilter.Selects l.filter lines captured.text ns)
      (hrest : Remarked host file lines ls ⟨w, .launched l.program (l.arguments ++ [file]) :: s.events⟩ found s') :
      Remarked host file lines (l :: ls) s (ns :: found) s'

/-- The outcome has the lines found as its comments, those of a linter left out where they make an empty text, and is
good where this leaves none. -/
def Reports (outcome : Outcome) (found : List (List (List Char))) : Prop :=
  outcome.comments = (found.filter fun ns => Text.glue '\n' ns != []).flatten ∧
    (outcome = .ok ∨ outcome.hasIssues = true) ∧ (outcome = .ok ↔ ∀ ns ∈ found, Text.glue '\n' ns = [])

theorem linterRun_ends_ok {l : Linter} {file text : String} {lines : Option (List Nat)} {s s' : Session σ} :
    Ends (l.run host file lines) s (.ok text) s' ↔
      ∃ captured ns, host.launch l.program (l.arguments ++ [file]) s.world = (.ok captured, s'.world) ∧
        s'.events = .launched l.program (l.arguments ++ [file]) :: s.events ∧
        LineFilter.Selects l.filter lines captured.text ns ∧ text = String.ofList (Text.glue '\n' ns) := by
  simp only [Linter.run, ends_bind_ok, ends_act, Except.ok.injEq]
  constructor
  · rintro ⟨_, _, ⟨rfl, rfl⟩, h⟩
    split at h
    · cases (ends_throw.mp h).1
    · rename_i captured hcaptured
      obtain ⟨htext, rfl⟩ := ends_mk_pure.mp h
      obtain ⟨ns, hns, rfl⟩ := LineFilter.select_eq_ok_iff.mp htext.symm
      exact ⟨captured, ns, Prod.ext hcaptured rfl, rfl, hns, rfl⟩
  · rintro ⟨captured, ns, hlaunch, hevents, hns, rfl⟩
    refine ⟨_, _, ⟨rfl, rfl⟩, ?_⟩
    rw [hlaunch]
    refine ends_mk_pure.mpr ⟨(LineFilter.select_eq_ok_iff.mpr ⟨ns, hns, rfl⟩).symm, ?_⟩
    rw [← hevents]

theorem linters_ends_ok {linters : List Linter} {file : String} {texts : List String} {lines : Option (List Nat)}
    {s s' : Session σ} :
    Ends (linters.mapM (·.run host file lines)) s (.ok texts) s' ↔
      ∃ found, Remarked host file lines linters s found s' ∧
        texts = found.map fun ns => String.ofList (Text.glue '\n' ns) := by
  induction linters generalizing s texts with
  | nil =>
    rw [List.mapM_nil, ends_pure, Except.ok.injEq]
    constructor
    · rintro ⟨rfl, rfl⟩
      exact ⟨[], .done _, rfl⟩
    · rintro ⟨found, h, rfl⟩
      cases h
      exact ⟨rfl, rfl⟩
  | cons l ls ih =>
    simp only [ends_mapM_cons_ok, linterRun_ends_ok, ih]
    constructor
    · rintro ⟨_, ⟨w, events⟩, _, ⟨captured, ns, hlaunch, hevents, hns, rfl⟩, ⟨found, hfound, rfl⟩, rfl⟩
      simp only at hevents
      subst hevents
      exact ⟨ns :: found, .next hlaunch hns hfound, rfl⟩
    · rintro ⟨_, h, rfl⟩
      cases h with
      | next hlaunch hns hfound => exact ⟨_, _, _, ⟨_, _, hlaunch, rfl, hns, rfl⟩, ⟨_, hfound, rfl⟩, rfl⟩

theorem Remarked.no_newline {file : String} {lines : Option (List Nat)} {linters : List Linter} {s s' : Session σ}
    {found : List (List (List Char))} (h : Remarked host file lines linters s found s') :
    ∀ ns ∈ found, ∀ line ∈ ns, '\n' ∉ line := by
  induction h with
  | done s => simp
  | next _ hns _ ih =>
    intro ns' h'
    rcases List.mem_cons.mp h' with rfl | h'
    · exact hns.no_newline
    · exact ih ns' h'

theorem reports_ofOutputs {found : List (List (List Char))} (h : ∀ ns ∈ found, ∀ line ∈ ns, '\n' ∉ line) :
    Reports (.ofOutputs (found.map fun ns => String.ofList (Text.glue '\n' ns))) found := by
  refine ⟨comments_ofOutputs h, ?_, ?_⟩
  · unfold Outcome.ofOutputs
    split
    · exact Or.inl rfl
    · exact Or.inr rfl
  · have hnil : (found.map fun ns => String.ofList (Text.glue '\n' ns)).filter (· != "") = [] ↔
        ∀ ns ∈ found, Text.glue '\n' ns = [] := by
      simp [List.filter_eq_nil_iff]
    rw [← hnil, Outcome.ofOutputs]
    split
    · exact iff_of_true rfl ‹_›
    · exact iff_of_false (by simp) ‹_›

/-- Linting a file whose extension has linters ends well when all of them could be started and had filters for the
lines. -/
theorem lint_ends_ok {registry : Registry} {file : String} {lines : Option (List Nat)} {linters : List Linter}
    {outcome : Outcome} {s s' : Session σ} (hl : registry.get? (Path.extension file) = some linters) :
    Ends (lint host registry file lines) s (.ok outcome) s' ↔
      ∃ found, Remarked host file lines linters s found s' ∧
        outcome = .ofOutputs (found.map fun ns => String.ofList (Text.glue '\n' ns)) := by
  simp only [lint, hl, ends_bind_ok, linters_ends_ok, ends_pure, Except.ok.injEq]
  constructor
  · rintro ⟨_, _, ⟨found, hfound, rfl⟩, rfl, rfl⟩
    exact ⟨found, hfound, rfl⟩
  · rintro ⟨found, hfound, rfl⟩
    exact ⟨_, s', ⟨found, hfound, rfl⟩, rfl, rfl⟩

theorem lint_ends_of_none {registry : Registry} {file : String} {lines : Option (List Nat)} {r : Except Failure Outcome}
    {s s' : Session σ} (hl : registry.get? (Path.extension file) = none) :
    Ends (lint host registry file lines) s r s' ↔ r = .ok (.skipped (Path.extension file)) ∧ s' = s := by
  simp only [lint, hl, ends_pure]

/-! ## Git -/

namespace Git

/-- Git is asked for the blame of the file and writes `text`. -/
inductive Blamed (host : Host σ) (root file : String) : Session σ → String → Session σ → Prop
  | intro {s : Session σ} {reply : Reply} {w : σ}
      (hgit : host.git root ["blame", "--porcelain", "--", file] s.world = (.ok reply, w))
      (hsucceeded : reply.succeeded = true) :
      Blamed host root file s (decoded reply.output) ⟨w, .git root ["blame", "--porcelain", "--", file] :: s.events⟩

theorem output_ends_ok {directory text : String} {arguments : List String} {s s' : Session σ} :
    Ends (output host directory arguments) s (.ok text) s' ↔
      ∃ reply, host.git directory arguments s.world = (.ok reply, s'.world) ∧ reply.succeeded = true ∧
        text = decoded reply.output ∧ s'.events = .git directory arguments :: s.events := by
  simp only [output, ends_bind_ok, ends_act, Except.ok.injEq]
  constructor
  · rintro ⟨_, _, ⟨rfl, rfl⟩, h⟩
    split at h
    · cases (ends_throw.mp h).1
    · rename_i reply hreply
      split at h
      · obtain ⟨htext, rfl⟩ := ends_pure.mp h
        exact ⟨reply, Prod.ext hreply rfl, ‹_›, Except.ok.inj htext, rfl⟩
      · cases (ends_throw.mp h).1
  · rintro ⟨reply, hgit, hsucceeded, rfl, hevents⟩
    refine ⟨_, _, ⟨rfl, rfl⟩, ?_⟩
    rw [hgit]
    simp only [hsucceeded, if_true]
    refine ends_pure.mpr ⟨rfl, ?_⟩
    rw [← hevents]

theorem blame_ends_ok {root file text : String} {s s' : Session σ} :
    Ends (output host root ["blame", "--porcelain", "--", file]) s (.ok text) s' ↔ Blamed host root file s text s' := by
  rw [output_ends_ok]
  constructor
  · rintro ⟨reply, hgit, hsucceeded, rfl, hevents⟩
    rcases s' with ⟨w, events⟩
    simp only at hevents
    subst hevents
    exact .intro hgit hsucceeded
  · rintro ⟨hgit, hsucceeded⟩
    exact ⟨_, hgit, hsucceeded, rfl, rfl⟩

/-- The lines of a file that counts as a whole are not asked for; those of another are the lines that its blame gives to
the commit. -/
theorem changedLines_ends_ok {root file : String} {change : Option Change} {commit : Option String}
    {lines : Option (List Nat)} {s s' : Session σ} :
    Ends (changedLines host root file change commit) s (.ok lines) s' ↔
      (change ≠ some .modified ∧ lines = none ∧ s' = s) ∨
        (change = some .modified ∧ ∃ text, Blamed host root file s text s' ∧ lines = some (blamedLines text commit)) := by
  unfold changedLines
  split
  · rename_i h
    simp only [bne_iff_ne, ne_eq] at h
    rw [ends_pure, Except.ok.injEq]
    constructor
    · exact fun h' => Or.inl ⟨h, h'⟩
    · rintro (h' | h')
      · exact h'.2
      · exact absurd h'.1 h
  · rename_i h
    simp only [bne_iff_ne, ne_eq, Decidable.not_not] at h
    simp only [ends_bind_ok, blame_ends_ok, ends_pure, Except.ok.injEq]
    constructor
    · rintro ⟨text, _, hblame, rfl, rfl⟩
      exact Or.inr ⟨h, text, hblame, rfl⟩
    · rintro (h' | ⟨_, text, hblame, rfl⟩)
      · exact absurd h h'.1
      · exact ⟨text, s', hblame, rfl, rfl⟩

end Git

/-! ## Targets -/

/-- What comes of a target, from the lines that changed to the outcome. -/
inductive Visit (host : Host σ) (p : Plan) (file : String) : Option Change → Session σ → Outcome → Session σ → Prop
  /-- The blame gives no line to the commit: lines were only removed. No linter is started. -/
  | removals {linters : List Linter} {s s' : Session σ} {text : String} (hforce : p.options.force = false)
      (hl : p.registry.get? (Path.extension file) = some linters) (hblame : Git.Blamed host p.root file s text s')
      (hnone : ∀ n, ¬ Git.Blames text p.commit n) :
      Visit host p file (some .modified) s .ok s'
  /-- The linters are asked about the lines that the blame gives to the commit. -/
  | changes {linters : List Linter} {s s₁ s' : Session σ} {text : String} {lines : List Nat}
      {found : List (List (List Char))} {outcome : Outcome} (hforce : p.options.force = false)
      (hl : p.registry.get? (Path.extension file) = some linters) (hblame : Git.Blamed host p.root file s text s₁)
      (hlines : ∀ n, n ∈ lines ↔ Git.Blames text p.commit n) (hincreasing : lines.Pairwise (· < ·)) (hsome : lines ≠ [])
      (hfound : Remarked host file (some lines) linters s₁ found s') (hreports : Reports outcome found) :
      Visit host p file (some .modified) s outcome s'
  /-- The file counts as a whole, and git is not asked. -/
  | whole {linters : List Linter} {change : Option Change} {s s' : Session σ} {found : List (List (List Char))}
      {outcome : Outcome} (hwhole : p.options.force = true ∨ change ≠ some .modified)
      (hl : p.registry.get? (Path.extension file) = some linters)
      (hfound : Remarked host file none linters s found s') (hreports : Reports outcome found) :
      Visit host p file change s outcome s'
  /-- The extension has no linters. -/
  | unlinted {change : Option Change} {s s' : Session σ} (hl : p.registry.get? (Path.extension file) = none)
      (hasked : s' = s ∧ (p.options.force = true ∨ change ≠ some .modified) ∨
        p.options.force = false ∧ change = some .modified ∧ ∃ text, Git.Blamed host p.root file s text s') :
      Visit host p file change s (.skipped (Path.extension file)) s'

/-- Prints a line where the report is text. -/
def Plan.say (p : Plan) (text : String) (s : Session σ) : Session σ :=
  if p.options.json then s else { s with events := .printed text :: s.events }

theorem ends_say {p : Plan} {text : String} {α : Type} {k : Unit → Job σ Abort α} {r : Except Abort α}
    {s s' : Session σ} :
    Ends (if (!p.options.json) = true then Job.print text >>= k else k ()) s r s' ↔ Ends (k ()) (p.say text s) r s' := by
  unfold Plan.say
  cases p.options.json
  · simp only [Bool.not_false, if_true, Bool.false_eq_true, if_false]
    rw [ends_bind]
    constructor
    · rintro (⟨_, _, h, h'⟩ | ⟨e, h, _⟩)
      · rw [(ends_print.mp h).2] at h'
        exact h'
      · cases (ends_print.mp h).1
    · intro h
      exact Or.inl ⟨(), _, ends_print.mpr ⟨rfl, rfl⟩, h⟩
  · rfl

/-- The lines to lint a target for, and what follows from them. -/
theorem visit_of_lines {p : Plan} {file : String} {change : Option Change} {lines : Option (List Nat)} {outcome : Outcome}
    {s s₁ s' : Session σ}
    (hlines : lines = none ∧ s₁ = s ∧ (p.options.force = true ∨ change ≠ some .modified) ∨
      p.options.force = false ∧ change = some .modified ∧
        ∃ text, Git.Blamed host p.root file s text s₁ ∧ lines = some (Git.blamedLines text p.commit))
    (houtcome : lines = some [] ∧ outcome = p.registry.silentOutcome file ∧ s' = s₁ ∨
      lines ≠ some [] ∧ Ends (lint host p.registry file lines) s₁ (.ok outcome) s') :
    Visit host p file change s outcome s' := by
  cases hl : p.registry.get? (Path.extension file) with
  | none =>
    have hskipped : outcome = .skipped (Path.extension file) ∧ s' = s₁ := by
      rcases houtcome with ⟨_, rfl, rfl⟩ | ⟨_, h⟩
      · simp [Registry.silentOutcome, hl]
      · obtain ⟨houtcome, hs⟩ := (lint_ends_of_none hl).mp h
        exact ⟨Except.ok.inj houtcome, hs⟩
    obtain ⟨rfl, rfl⟩ := hskipped
    rcases hlines with ⟨_, rfl, hwhole⟩ | ⟨hforce, hchange, text, hblame, _⟩
    · exact .unlinted hl (Or.inl ⟨rfl, hwhole⟩)
    · exact .unlinted hl (Or.inr ⟨hforce, hchange, text, hblame⟩)
  | some linters =>
    rcases hlines with ⟨rfl, rfl, hwhole⟩ | ⟨hforce, rfl, text, hblame, rfl⟩
    · rcases houtcome with ⟨h, _⟩ | ⟨_, h⟩
      · cases h
      · obtain ⟨found, hfound, rfl⟩ := (lint_ends_ok hl).mp h
        exact .whole hwhole hl hfound (reports_ofOutputs hfound.no_newline)
    · rcases houtcome with ⟨h, rfl, rfl⟩ | ⟨hsome, h⟩
      · have hnil : Git.blamedLines text p.commit = [] := Option.some.inj h
        have hok : p.registry.silentOutcome file = .ok := by simp [Registry.silentOutcome, hl]
        rw [hok]
        refine .removals hforce hl hblame fun n hn => ?_
        rw [← Git.mem_blamedLines, hnil] at hn
        cases hn
      · obtain ⟨found, hfound, rfl⟩ := (lint_ends_ok hl).mp h
        exact .changes hforce hl hblame (fun n => Git.mem_blamedLines) (Git.blamedLines_increasing text p.commit)
          (fun h => hsome (congrArg some h)) hfound (reports_ofOutputs hfound.no_newline)

/-- The lines of the target that changed, or none where it counts as a whole. -/
def Plan.changedLines (host : Host σ) (p : Plan) (file : String) (change : Option Change) :
    Job σ Abort (Option (List Nat)) :=
  if p.options.force then pure none
  else Job.adaptFailure .ofFailure (Git.changedLines host p.root file change p.commit)

/-- The line before a target. -/
def Plan.header (p : Plan) (file : String) : String := Report.header p.colour (Path.shown file p.directory)

/-- The second half of linting a target: from the lines that changed to the report. -/
def Plan.conclude (host : Host σ) (p : Plan) (file shown : String) (lines : Option (List Nat)) : Job σ Abort Report.Entry := do
  let outcome ← match lines with
    | some [] => pure (p.registry.silentOutcome file)
    | lines => Job.adaptFailure (withHint p.registry) (lint host p.registry file lines)
  if !p.options.json then Job.print (Report.status p.colour outcome)
  return ⟨shown, outcome⟩

theorem lintTarget_ends_iff {p : Plan} {file : String} {change : Option Change} {r : Except Abort Report.Entry}
    {s s' : Session σ} : Ends (p.lintTarget host file change) s r s' ↔
      Ends (p.changedLines host file change >>= p.conclude host file (Path.shown file p.directory))
        (p.say (p.header file) s) r s' := by
  simp only [Plan.lintTarget, ends_say, Plan.changedLines, Plan.header]
  split
  · rfl
  · rfl

theorem planLines_ends_ok {p : Plan} {file : String} {change : Option Change} {lines : Option (List Nat)}
    {s s' : Session σ} : Ends (p.changedLines host file change) s (.ok lines) s' ↔
      lines = none ∧ s' = s ∧ (p.options.force = true ∨ change ≠ some .modified) ∨
      p.options.force = false ∧ change = some .modified ∧
        ∃ text, Git.Blamed host p.root file s text s' ∧ lines = some (Git.blamedLines text p.commit) := by
  unfold Plan.changedLines
  cases hforce : p.options.force with
  | true => simp [ends_pure]
  | false =>
    simp only [Bool.false_eq_true, if_false, false_or, true_and, ends_adapt_ok, Git.changedLines_ends_ok]
    constructor
    · rintro (⟨hchange, hlines, hs⟩ | hblamed)
      · exact Or.inl ⟨hlines, hs, hchange⟩
      · exact Or.inr hblamed
    · rintro (⟨hlines, hs, hchange⟩ | hblamed)
      · exact Or.inl ⟨hchange, hlines, hs⟩
      · exact Or.inr hblamed

theorem conclude_ends_ok {p : Plan} {file shown : String} {lines : Option (List Nat)} {report : Report.Entry}
    {s s' : Session σ} : Ends (p.conclude host file shown lines) s (.ok report) s' ↔
      ∃ outcome s₁, (lines = some [] ∧ outcome = p.registry.silentOutcome file ∧ s₁ = s ∨
          lines ≠ some [] ∧ Ends (lint host p.registry file lines) s (.ok outcome) s₁) ∧
        report = ⟨shown, outcome⟩ ∧ s' = p.say (Report.status p.colour outcome) s₁ := by
  simp only [Plan.conclude]
  split
  · simp only [ends_bind_ok, ends_pure, ends_say, Except.ok.injEq, true_and, ne_eq, not_true_eq_false, false_and, or_false]
  · rename_i hlines
    simp only [ends_bind_ok, ends_adapt_ok, ends_say, ends_pure, Except.ok.injEq]
    constructor
    · rintro ⟨outcome, s₁, hlint, hreport, hs⟩
      exact ⟨outcome, s₁, Or.inr ⟨hlines, hlint⟩, hreport, hs⟩
    · rintro ⟨outcome, s₁, ⟨hnil, -⟩ | ⟨-, hlint⟩, hreport, hs⟩
      · exact absurd hnil hlines
      · exact ⟨outcome, s₁, hlint, hreport, hs⟩

/-- A target that was linted to the end was visited, between the two lines that are said about it. -/
theorem lintTarget_ends_ok {p : Plan} {file : String} {change : Option Change} {report : Report.Entry}
    {s s' : Session σ} (h : Ends (p.lintTarget host file change) s (.ok report) s') :
    ∃ outcome s₁, report = ⟨Path.shown file p.directory, outcome⟩ ∧
      Visit host p file change (p.say (Report.header p.colour report.path) s) outcome s₁ ∧
      s' = p.say (Report.status p.colour outcome) s₁ := by
  obtain ⟨lines, s₁, hlines, hrest⟩ := ends_bind_ok.mp (lintTarget_ends_iff.mp h)
  obtain ⟨outcome, s₂, houtcome, rfl, rfl⟩ := conclude_ends_ok.mp hrest
  exact ⟨outcome, s₂, rfl, visit_of_lines (planLines_ends_ok.mp hlines) houtcome, rfl⟩

/-! ## What a visit prints -/

theorem Remarked.printedLines {file : String} {lines : Option (List Nat)} {linters : List Linter} {s s' : Session σ}
    {found : List (List (List Char))} (h : Remarked host file lines linters s found s') :
    s'.printedLines = s.printedLines := by
  induction h with
  | done s => rfl
  | next _ _ _ ih =>
    rw [ih]
    simp [Session.printedLines]

theorem Git.Blamed.printedLines {root file text : String} {s s' : Session σ} (h : Git.Blamed host root file s text s') :
    s'.printedLines = s.printedLines := by
  cases h
  simp [Session.printedLines]

theorem Visit.printedLines {p : Plan} {file : String} {change : Option Change} {outcome : Outcome} {s s' : Session σ}
    (h : Visit host p file change s outcome s') : s'.printedLines = s.printedLines := by
  cases h with
  | removals _ _ hblame _ => exact hblame.printedLines
  | changes _ _ hblame _ _ _ hfound _ => rw [hfound.printedLines, hblame.printedLines]
  | whole _ _ hfound _ => exact hfound.printedLines
  | unlinted _ hasked =>
    rcases hasked with ⟨rfl, _⟩ | ⟨_, _, _, hblame⟩
    · rfl
    · exact hblame.printedLines

theorem Plan.printedLines_say {p : Plan} {text : String} {s : Session σ} :
    (p.say text s).printedLines = s.printedLines ++ if p.options.json then [] else [text] := by
  unfold Plan.say
  split
  · simp
  · simp [Session.printedLines]

end DeltaLint

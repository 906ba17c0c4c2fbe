import DeltaLint.Proofs.Alike

/-
  DeltaLint.Proofs.Aborted — what a run that is stopped leaves behind.

  A run that fails at a target has said as text what a run over the targets before it says, and then the
  header of that target. The failing step is the last thing it started. The other run may be one on
  another system, as long as git and the programs there answer alike (`Host.Alike`); linting a target
  then does alike (`lintTarget_follows`).

  Proved:
  - `Halts.printedLines` / `Halts.events`: the failing step prints nothing and is the last that is started.
  - `run_over_ends`: a run over targets that are linted alike ends well and prints their reports.
  - `aborted_run_leaves_prefix`: what was printed and started when a run is stopped.
-/

namespace DeltaLint

open Job

variable {σ τ : Type} {host : Host σ} {other : Host τ} {alike : σ → τ → Prop} {p : Plan} {file : String}
  {change : Option Change}

/-! ## The failing step -/

theorem changedLines_silent (file : String) (change : Option Change) : Silent (p.changedLines host file change) := by
  unfold Plan.changedLines
  split
  · exact keeps_pure _
  · refine Keeps.adapt ?_
    unfold Git.changedLines
    split
    · exact keeps_pure _
    · exact ((Git.adds_output _ _).silent (by simp)).bind fun text => keeps_pure _

theorem Turn.printedLines {lines : Option (List Nat)} {l : Linter} {s s' : Session σ}
    (h : Turn host p file change s lines l s') : s'.printedLines = s.printedLines := by
  obtain ⟨s₁, before, later, found, hlines, -, -, hfound⟩ := h
  rw [hfound.printedLines, changedLines_silent _ _ _ _ _ hlines]

theorem printedLines_start (l : Linter) (file : String) (w : σ) (s : Session σ) :
    (⟨w, l.start file :: s.events⟩ : Session σ).printedLines = s.printedLines := by
  simp [Session.printedLines, Linter.start]

/-- The failing step prints nothing. -/
theorem Halts.printedLines {step : Step} {a : Abort} {s s' : Session σ} (h : Halts host p file change s step a s') :
    s'.printedLines = s.printedLines := by
  cases h with
  | blame hfails => exact changedLines_silent _ _ _ _ _ hfails
  | launch hturn _ => rw [printedLines_start, hturn.printedLines]
  | filter hturn _ _ => rw [printedLines_start, hturn.printedLines]

/-- What the step at the target that fails starts last: git for the blame, or the linter whose turn it is. -/
inductive LastStart (host : Host σ) (p : Plan) (file : String) (change : Option Change) (s : Session σ) :
    Step → List Event → Prop
  | blame : LastStart host p file change s .blame (.git p.root ["blame", "--porcelain", "--", file] :: s.events)
  | linter {step : Step} {lines : Option (List Nat)} {l : Linter} {s₁ : Session σ}
      (hstep : step = .launch ∨ step = .filter) (hturn : Turn host p file change s lines l s₁) :
      LastStart host p file change s step (l.start file :: s₁.events)

/-- Nothing is started after the failing step. -/
theorem Halts.events {step : Step} {a : Abort} {s s' : Session σ} (h : Halts host p file change s step a s') :
    LastStart host p file change s step s'.events := by
  cases h with
  | blame hfails =>
    unfold Plan.changedLines at hfails
    split at hfails
    · cases (ends_pure.mp hfails).1
    · obtain ⟨f, hf, -⟩ := ends_adapt_error.mp hfails
      rw [(Git.changedLines_ends_error hf).2.2]
      exact .blame
  | launch hturn _ => exact .linter (Or.inl rfl) hturn
  | filter hturn _ _ => exact .linter (Or.inr rfl) hturn

/-! ## Targets linted alike -/

/-- From worlds that are alike git and the programs answer the same, and leave worlds that are alike. -/
def Host.Alike (host : Host σ) (other : Host τ) (alike : σ → τ → Prop) : Prop :=
  ∀ v w, alike v w →
    (∀ directory arguments, (host.git directory arguments v).1 = (other.git directory arguments w).1 ∧
      alike (host.git directory arguments v).2 (other.git directory arguments w).2) ∧
    ∀ program arguments, (host.launch program arguments v).1 = (other.launch program arguments w).1 ∧
      alike (host.launch program arguments v).2 (other.launch program arguments w).2

theorem Host.Alike.acts (h : host.Alike other alike) : host.ActsAlike other (SameEvents alike) where
  git directory arguments s t hst := by
    obtain ⟨hanswer, hworld⟩ := (h s.world t.world hst.1).1 directory arguments
    exact ⟨hanswer, hworld, congrArg (.git directory arguments :: ·) hst.2⟩
  launch program arguments s t hst := by
    obtain ⟨hanswer, hworld⟩ := (h s.world t.world hst.1).2 program arguments
    exact ⟨hanswer, hworld, congrArg (.launched program arguments :: ·) hst.2⟩

theorem Job.SameEvents.say (p : Plan) (text : String) {s : Session σ} {t : Session τ} (h : SameEvents alike s t) :
    SameEvents alike (p.say text s) (p.say text t) := by
  unfold Plan.say
  split
  · exact h
  · exact ⟨h.1, congrArg (.printed text :: ·) h.2⟩

/-- A target is linted alike where git and the programs answer alike. -/
theorem lintTarget_follows (h : host.Alike other alike) (file : String) (change : Option Change) :
    Follows (SameEvents alike) (p.lintTarget host file change) (p.lintTarget other file change) := by
  have hsaid : p.SaysAlike p.options.noColour p.colour (SameEvents alike) :=
    ⟨fun _ _ _ hst => hst.say p _, fun _ _ _ hst => hst.say p _⟩
  exact lintTarget_follows_restyled h.acts hsaid file change

/-! ## A run over targets linted alike -/

/-- The plan with other names of files to lint. -/
def Plan.withFiles (p : Plan) (names : List String) : Plan := { p with options := { p.options with files := names } }

/-- A run over just the targets that another run has linted without failing, on a system that answers alike, ends well and
prints the reports of these. -/
theorem run_over_ends {colour : Bool} {names : List String} {before : Targets} {reports : List Report.Entry} {v : τ}
    {s₀ s₁ : Session σ} {t₀ : Session τ} (halike : host.Alike other alike)
    (hpassed : Ends (before.mapM fun (file, change) => p.lintTarget host file change) s₀ (.ok reports) s₁)
    (hevents : s₀.events.reverse = Step.paths.calls p)
    (hprepare : (prepare other { p.options with files := names } colour).runOn v = (.ok (p.withFiles names, before), t₀))
    (hworld : alike s₀.world t₀.world) :
    ∃ status t', (run other { p.options with files := names } colour).runOn v = (.ok status, t') ∧
      t'.printedLines = p.reportLines reports := by
  have hsame : s₀.events = t₀.events := by
    obtain ⟨-, -, htargets⟩ := prepare_ends_ok_iff.mp hprepare
    exact List.reverse_injective (hevents.trans htargets.events.symm)
  -- The names play no part once the targets are known.
  have hfollows : Follows (SameEvents alike) (before.mapM fun (file, change) => p.lintTarget host file change)
      (before.mapM fun (file, change) => (p.withFiles names).lintTarget other file change) :=
    follows_mapM (fun (file, change) => lintTarget_follows halike file change) before
  obtain ⟨t₁, hpassed', -⟩ := hfollows s₀ t₀ ⟨hworld, hsame⟩ _ s₁ hpassed
  obtain ⟨t', hconclusion⟩ := conclusion_ends { p.options with files := names } reports t₁
  refine ⟨_, t', Ends.bind hprepare (hpassed'.bind hconclusion), ?_⟩
  rw [conclusion_printedLines hconclusion, (visits_of_ends_ok hpassed').printedLines, silent_prepare _ _ _ _ _ hprepare]
  show _ ++ (if p.options.json then [] else p.reportLines reports) ++ (if p.options.json then _ else []) = _
  unfold Plan.reportLines
  cases p.options.json
  · simp [Session.printedLines]
  · rfl

/-! ## Runs that are stopped -/

/-- A run that is stopped before the targets has printed nothing, and started what the steps ask for up to the one that
failed. One that is stopped at a target has printed nothing but, as text, what a run over just the targets before it
prints, followed by the header of the target; what it started last was for the failing step. -/
theorem aborted_run_leaves_prefix {options : Options} {colour : Bool} {w : σ} {a : Abort} {s' : Session σ}
    (h : (run host options colour).runOn w = (.error a, s')) :
    (∃ p step, p.options = options ∧ FailsBefore host p w step a s' ∧ s'.printedLines = [] ∧
      s'.events.reverse = step.calls p) ∨
    ∃ p before file change later s₀ reports s₁ step,
      (prepare host options colour).runOn w = (.ok (p, before ++ (file, change) :: later), s₀) ∧
      Visits host p before s₀ reports s₁ ∧ Halts host p file change (p.say (p.header file) s₁) step a s' ∧
      LastStart host p file change (p.say (p.header file) s₁) step s'.events ∧
      s'.printedLines = (if options.json then [] else p.reportLines reports ++ [p.header file]) ∧
      ∀ {τ : Type} (other : Host τ) (alike : σ → τ → Prop), host.Alike other alike → ∀ names v t₀,
        (prepare other { options with files := names } colour).runOn v = (.ok (p.withFiles names, before), t₀) →
        alike s₀.world t₀.world →
        ∃ status t', (run other { options with files := names } colour).runOn v = (.ok status, t') ∧
          (options.json = false → s'.printedLines = t'.printedLines ++ [p.header file]) := by
  obtain ⟨step, hfails⟩ := run_ends_error_iff.mp h
  cases hfails with
  | @before p _ _ _ hoptions hfails =>
    have hprepare : Ends (prepare host options colour) ⟨w, []⟩ (.error a) s' :=
      prepare_ends_error_iff.mpr ⟨p, step, hoptions, hfails⟩
    exact Or.inl ⟨p, step, hoptions, hfails, silent_prepare _ _ _ _ _ hprepare, hfails.events⟩
  | @target p before later file change reports _ _ s₀ s₁ _ hoptions hcolour htargets hpassed hhalts =>
    have hprepare : (prepare host options colour).runOn w = (.ok (p, before ++ (file, change) :: later), s₀) :=
      prepare_ends_ok_iff.mpr ⟨hoptions, hcolour, htargets⟩
    subst hoptions
    have hvisits := visits_of_ends_ok hpassed
    have hprinted : s'.printedLines = if p.options.json then [] else p.reportLines reports ++ [p.header file] := by
      rw [hhalts.printedLines, Plan.printedLines_say, hvisits.printedLines, silent_prepare _ _ _ _ _ hprepare]
      cases p.options.json
      · simp [Session.printedLines]
      · rfl
    refine Or.inr ⟨p, before, file, change, later, s₀, reports, s₁, step, hprepare, hvisits, hhalts, hhalts.events,
      hprinted, ?_⟩
    intro τ other alike halike names v t₀ hprepare' hworld
    obtain ⟨status, t', hrun, hlines⟩ := run_over_ends halike hpassed htargets.events hprepare' hworld
    refine ⟨status, t', hrun, fun htext => ?_⟩
    rw [hlines, hprinted, htext]
    rfl

/-- A repository with two files that git does not know, of which the linters can be started on the first only. -/
def brokenHost : Host Unit where
  workingDirectory _ := .ok "/r"
  isFile _ path := path == "/r/a.py"
  canonical _ path := .ok path
  readText _ _ := .error .notFound
  git _ arguments w :=
    (.ok ⟨Text.Utf8.encode (if arguments.head? = some "status" then "?? a.py\n?? b.py\n" else "/r\n").toList, [], true⟩, w)
  launch _ arguments w := (if arguments.getLast? = some "/r/a.py" then .ok ⟨"", some 0⟩ else .error .notFound, w)

theorem broken_run_leaves_prefix : ∃ a s' t', (run brokenHost {} false).runOn () = (.error a, s') ∧
    s'.printedLines = ["Linting file: a.py", "OK", "Linting file: b.py"] ∧
    (run brokenHost { files := ["a.py"] } false).runOn () = (.ok 0, t') ∧ t'.printedLines = ["Linting file: a.py", "OK"] ∧
    ∃ p before file change later s₀ reports s₁ step,
      (prepare brokenHost {} false).runOn () = (.ok (p, before ++ (file, change) :: later), s₀) ∧
      Visits brokenHost p before s₀ reports s₁ ∧ Halts brokenHost p file change (p.say (p.header file) s₁) step a s' ∧
      s'.printedLines = p.reportLines reports ++ [p.header file] := by
  have hfails : ((run brokenHost {} false).runOn ()).1.toOption = none := by decide +kernel
  have hprinted : ((run brokenHost {} false).runOn ()).2.printedLines =
      ["Linting file: a.py", "OK", "Linting file: b.py"] := by decide +kernel
  have hok : ((run brokenHost { files := ["a.py"] } false).runOn ()).1.toOption = some 0 := by decide +kernel
  have hprinted' : ((run brokenHost { files := ["a.py"] } false).runOn ()).2.printedLines =
      ["Linting file: a.py", "OK"] := by decide +kernel
  generalize hend : (run brokenHost {} false).runOn () = q at hfails hprinted
  generalize (run brokenHost { files := ["a.py"] } false).runOn () = q' at hok hprinted'
  rcases q with ⟨a | status, s'⟩
  · rcases q' with ⟨a' | status', t'⟩
    · cases hok
    · cases hok
      rcases aborted_run_leaves_prefix hend with ⟨_, _, _, _, hnone, _⟩ | hstopped
      · cases hprinted.symm.trans hnone
      · obtain ⟨p, before, file, change, later, s₀, reports, s₁, step, hprepare, hvisits, hhalts, -, hlines, -⟩ := hstopped
        exact ⟨a, s', t', rfl, hprinted, rfl, hprinted', p, before, file, change, later, s₀, reports, s₁, step, hprepare,
          hvisits, hhalts, hlines⟩
  · cases hfails

end DeltaLint

import DeltaLint.Proofs.Run

/-
  DeltaLint.Proofs.Stopping — where a run stops, and what its exit status says.

  At a target git is asked for its blame, and then its linters are started one after the other; each of
  these steps can fail (`Halts`). A run fails with the first step that fails, before the targets or at
  one of them (`FailsAt`), and else it completes.

  Proved:
  - `lintTarget_ends_error_iff`: linting a target fails with the first of its steps that fails.
  - `run_ends_ok_iff` / `run_ends_error_iff`: a run completes, or fails with its first step that fails.
  - `run_exit_status`: the exit status tells issues, no issues and the steps that fail apart.
-/

namespace DeltaLint

open Job

variable {σ : Type} {host : Host σ} {p : Plan} {file : String} {change : Option Change}

/-! ## The steps at a target -/

/-- It is the turn of linter `l` of the target: these are the lines that changed, and the linters before it have run. -/
def Turn (host : Host σ) (p : Plan) (file : String) (change : Option Change) (s : Session σ) (lines : Option (List Nat))
    (l : Linter) (s' : Session σ) : Prop :=
  ∃ s₁ before later found, Ends (p.changedLines host file change) s (.ok lines) s₁ ∧ lines ≠ some [] ∧
    p.registry.get? (Path.extension file) = some (before ++ l :: later) ∧ Remarked host file lines before s₁ found s'

/-- The first step at the target that fails. -/
inductive Halts (host : Host σ) (p : Plan) (file : String) (change : Option Change) (s : Session σ) :
    Step → Abort → Session σ → Prop
  | blame {a : Abort} {s' : Session σ} (hfails : Ends (p.changedLines host file change) s (.error a) s') :
      Halts host p file change s .blame a s'
  | launch {lines : Option (List Nat)} {l : Linter} {s₁ : Session σ} {cause : HostFault} {w : σ}
      (hturn : Turn host p file change s lines l s₁)
      (hlaunch : host.launch l.program (l.arguments ++ [file]) s₁.world = (.error cause, w)) :
      Halts host p file change s .launch (withHint p.registry (.execution l.program cause)) ⟨w, l.start file :: s₁.events⟩
  | filter {ns : List Nat} {l : Linter} {s₁ : Session σ} {captured : Captured} {w : σ} {fault : Pattern.Fault}
      (hturn : Turn host p file change s (some ns) l s₁)
      (hlaunch : host.launch l.program (l.arguments ++ [file]) s₁.world = (.ok captured, w))
      (hfilter : Pattern.read (LineFilter.expand l.filter ns) = .error fault) :
      Halts host p file change s .filter (withHint p.registry (.pattern l.filter fault)) ⟨w, l.start file :: s₁.events⟩

theorem conclude_ends_error {shown : String} {lines : Option (List Nat)} {a : Abort} {s s' : Session σ} :
    Ends (p.conclude host file shown lines) s (.error a) s' ↔
      lines ≠ some [] ∧ ∃ f, Ends (lint host p.registry file lines) s (.error f) s' ∧ a = withHint p.registry f := by
  have hsay : ∀ {outcome : Outcome} {s₁ : Session σ}, ¬Ends (if (!p.options.json) = true then
        Job.print (Report.status p.colour outcome) >>= fun _ => pure (⟨shown, outcome⟩ : Report.Entry)
      else pure ⟨shown, outcome⟩) s₁ (.error a) s' := by
    intro outcome s₁ h
    rw [ends_say (k := fun _ => pure (⟨shown, outcome⟩ : Report.Entry)), ends_pure] at h
    cases h.1
  simp only [Plan.conclude]
  split
  · constructor
    · intro h
      rcases ends_bind_error.mp h with h | ⟨outcome, s₁, -, h⟩
      · cases (ends_pure.mp h).1
      · exact absurd h hsay
    · intro h
      exact absurd rfl h.1
  · rename_i hlines
    rw [ends_bind_error, ends_adapt_error]
    constructor
    · intro h
      rcases h with h | ⟨outcome, s₁, -, h⟩
      · exact ⟨hlines, h⟩
      · exact absurd h hsay
    · intro h
      exact Or.inl h.2

/-- Linting a target fails with the first of its steps that fails. -/
theorem lintTarget_ends_error_iff {a : Abort} {s s' : Session σ} :
    Ends (p.lintTarget host file change) s (.error a) s' ↔
      ∃ step, Halts host p file change (p.say (p.header file) s) step a s' := by
  rw [lintTarget_ends_iff, ends_bind_error]
  constructor
  · intro h
    rcases h with h | ⟨lines, s₁, hlines, h⟩
    · exact ⟨.blame, .blame h⟩
    · obtain ⟨hsome, f, hlint, rfl⟩ := conclude_ends_error.mp h
      cases hl : p.registry.get? (Path.extension file) with
      | none => cases ((lint_ends_of_none hl).mp hlint).1
      | some linters =>
        obtain ⟨before, l, later, found, s₂, rfl, hfound, hstuck⟩ := (lint_ends_error hl).mp hlint
        have hturn : Turn host p file change (p.say (p.header file) s) lines l s₂ :=
          ⟨s₁, before, later, found, hlines, hsome, hl, hfound⟩
        cases hstuck with
        | unstarted hlaunch => exact ⟨.launch, .launch hturn hlaunch⟩
        | unfiltered hlaunch heq _ hfilter =>
          subst heq
          exact ⟨.filter, .filter hturn hlaunch hfilter⟩
  · intro h
    obtain ⟨step, h⟩ := h
    have hstuck : ∀ {lines l s₁ f}, Turn host p file change (p.say (p.header file) s) lines l s₁ →
        Stuck host file lines l s₁ f s' → ∃ lines s₁, Ends (p.changedLines host file change) (p.say (p.header file) s) (.ok lines) s₁ ∧
          Ends (p.conclude host file (Path.shown file p.directory) lines) s₁ (.error (withHint p.registry f)) s' := by
      intro lines l s₁ f hturn hstuck
      obtain ⟨s₀, before, later, found, hlines, hsome, hl, hfound⟩ := hturn
      have hlint := (lint_ends_error hl).mpr ⟨before, l, later, found, s₁, rfl, hfound, hstuck⟩
      exact ⟨lines, s₀, hlines, conclude_ends_error.mpr ⟨hsome, f, hlint, rfl⟩⟩
    cases h with
    | blame hfails => exact Or.inl hfails
    | launch hturn hlaunch => exact Or.inr (hstuck hturn (.unstarted hlaunch))
    | filter hturn hlaunch hfilter =>
      have hsome : ∀ {ns : List Nat} {l : Linter} {s₁ : Session σ},
          Turn host p file change (p.say (p.header file) s) (some ns) l s₁ → ns ≠ [] := by
        intro ns l s₁ hturn
        obtain ⟨_, _, _, _, _, hne, -⟩ := hturn
        exact fun hnil => hne (congrArg some hnil)
      exact Or.inr (hstuck hturn (.unfiltered hlaunch rfl (hsome hturn) hfilter))

/-! ## A run -/

/-- The first step of a run that fails. -/
inductive FailsAt (host : Host σ) (options : Options) (colour : Bool) (w : σ) : Step → Abort → Session σ → Prop
  | before {p : Plan} {step : Step} {a : Abort} {s' : Session σ} (hoptions : p.options = options)
      (hfails : FailsBefore host p w step a s') :
      FailsAt host options colour w step a s'
  | target {p : Plan} {before later : Targets} {file : String} {change : Option Change} {reports : List Report.Entry}
      {step : Step} {a : Abort} {s₀ s₁ s' : Session σ} (hoptions : p.options = options)
      (hcolour : p.colour = (colour && !options.noColour))
      (htargets : Targeted host p w (before ++ (file, change) :: later) s₀)
      (hpassed : Ends (before.mapM fun (file, change) => p.lintTarget host file change) s₀ (.ok reports) s₁)
      (hhalts : Halts host p file change (p.say (p.header file) s₁) step a s') :
      FailsAt host options colour w step a s'

/-- All steps of the run end well, with these reports. -/
def Completes (host : Host σ) (options : Options) (colour : Bool) (w : σ) (reports : List Report.Entry) : Prop :=
  ∃ p ts s₀ s₁, p.options = options ∧ p.colour = (colour && !options.noColour) ∧ Targeted host p w ts s₀ ∧
    Ends (ts.mapM fun (file, change) => p.lintTarget host file change) s₀ (.ok reports) s₁

/-- What is left to do after the targets. -/
def conclusion (options : Options) (reports : List Report.Entry) : Job σ Abort Nat := do
  if options.json then Job.print (Report.json options.pretty reports)
  return if reports.any (·.outcome.hasIssues) then 1 else 0

theorem conclusion_ends (options : Options) (reports : List Report.Entry) (s : Session σ) :
    ∃ s', Ends (conclusion options reports) s (.ok (if reports.any (·.outcome.hasIssues) then 1 else 0)) s' := by
  simp only [conclusion]
  cases options.json
  · exact ⟨s, ends_pure.mpr ⟨rfl, rfl⟩⟩
  · exact ⟨_, (ends_print.mpr ⟨rfl, rfl⟩).bind (ends_pure.mpr ⟨rfl, rfl⟩)⟩

theorem conclusion_events {options : Options} {reports : List Report.Entry} {status : Nat} {s s' : Session σ}
    (h : Ends (conclusion options reports) s (.ok status) s') :
    s'.events.reverse = s.events.reverse ++
      if options.json then [.printed (Report.json options.pretty reports)] else [] := by
  simp only [conclusion] at h
  cases hjson : options.json with
  | false =>
    rw [hjson] at h
    obtain ⟨-, rfl⟩ := ends_pure.mp h
    simp
  | true =>
    rw [hjson] at h
    obtain ⟨_, s₁, hprint, hpure⟩ := ends_bind_ok.mp h
    obtain ⟨-, rfl⟩ := ends_print.mp hprint
    obtain ⟨-, rfl⟩ := ends_pure.mp hpure
    simp

theorem conclusion_printedLines {options : Options} {reports : List Report.Entry} {status : Nat} {s s' : Session σ}
    (h : Ends (conclusion options reports) s (.ok status) s') :
    s'.printedLines = s.printedLines ++ if options.json then [Report.json options.pretty reports] else [] := by
  rw [Session.printedLines, conclusion_events h, List.filterMap_append]
  cases options.json
  · rfl
  · rfl

theorem run_ends_ok_iff {options : Options} {colour : Bool} {w : σ} {status : Nat} :
    (∃ s', Ends (run host options colour) ⟨w, []⟩ (.ok status) s') ↔
      ∃ reports, Completes host options colour w reports ∧
        status = if reports.any (·.outcome.hasIssues) then 1 else 0 := by
  constructor
  · intro h
    obtain ⟨s', h⟩ := h
    obtain ⟨⟨p, ts⟩, s₀, hprepare, h⟩ := ends_bind_ok.mp h
    obtain ⟨reports, s₁, hreports, h⟩ := ends_bind_ok.mp h
    obtain ⟨hoptions, hcolour, htargets⟩ := prepare_ends_ok_iff.mp hprepare
    obtain ⟨s₂, hconclusion⟩ := conclusion_ends options reports s₁
    obtain ⟨hstatus, -⟩ := Ends.det (show Ends (conclusion options reports) s₁ _ _ from h) hconclusion
    exact ⟨reports, ⟨p, ts, s₀, s₁, hoptions, hcolour, htargets, hreports⟩, Except.ok.inj hstatus⟩
  · intro h
    obtain ⟨reports, ⟨p, ts, s₀, s₁, hoptions, hcolour, htargets, hreports⟩, rfl⟩ := h
    obtain ⟨s', hconclusion⟩ := conclusion_ends options reports s₁
    exact ⟨s', (prepare_ends_ok_iff.mpr ⟨hoptions, hcolour, htargets⟩).bind (hreports.bind hconclusion)⟩

theorem run_ends_error_iff {options : Options} {colour : Bool} {w : σ} {a : Abort} {s' : Session σ} :
    Ends (run host options colour) ⟨w, []⟩ (.error a) s' ↔ ∃ step, FailsAt host options colour w step a s' := by
  constructor
  · intro h
    rcases ends_bind_error.mp h with h | ⟨⟨p, ts⟩, s₀, hprepare, h⟩
    · obtain ⟨p, step, hoptions, hfails⟩ := prepare_ends_error_iff.mp h
      exact ⟨step, .before hoptions hfails⟩
    · obtain ⟨hoptions, hcolour, htargets⟩ := prepare_ends_ok_iff.mp hprepare
      rcases ends_bind_error.mp h with h | ⟨reports, s₁, -, h⟩
      · obtain ⟨before, ⟨file, change⟩, later, reports, s₁, rfl, hpassed, hfails⟩ := ends_mapM_error.mp h
        obtain ⟨step, hhalts⟩ := lintTarget_ends_error_iff.mp hfails
        exact ⟨step, .target hoptions hcolour htargets hpassed hhalts⟩
      · obtain ⟨s₂, hconclusion⟩ := conclusion_ends options reports s₁
        cases (Ends.det (show Ends (conclusion options reports) s₁ _ _ from h) hconclusion).1
  · intro h
    obtain ⟨step, h⟩ := h
    cases h with
    | before hoptions hfails => exact (prepare_ends_error_iff.mpr ⟨_, step, hoptions, hfails⟩).bind_error
    | @target p before later file change _ _ _ _ _ _ hoptions hcolour htargets hpassed hhalts =>
      have hlint : Ends (p.lintTarget host file change) _ (.error a) s' := lintTarget_ends_error_iff.mpr ⟨step, hhalts⟩
      have hfails : Ends ((before ++ (file, change) :: later).mapM fun (file, change) => p.lintTarget host file change)
          _ (.error a) s' := ends_mapM_error.mpr ⟨_, _, _, _, _, rfl, hpassed, hlint⟩
      exact (prepare_ends_ok_iff.mpr ⟨hoptions, hcolour, htargets⟩).bind hfails.bind_error

/-! ## The exit status -/

theorem exitCode_foldl_addContext (a : Abort) (contexts : List String) :
    (contexts.foldl Abort.addContext a).exitCode = a.exitCode := by
  induction contexts generalizing a with
  | nil => rfl
  | cons context contexts ih => exact ih (a.addContext context)

theorem withHint_exitCode (registry : Registry) (f : Failure) : (withHint registry f).exitCode = f.exitCode := by
  unfold withHint
  dsimp only
  split
  · rfl
  · rfl

theorem Halts.exitCode {s s' : Session σ} {step : Step} {a : Abort} (h : Halts host p file change s step a s') :
    a.exitCode = step.exitCode := by
  cases h with
  | blame hfails =>
    unfold Plan.changedLines at hfails
    split at hfails
    · cases (ends_pure.mp hfails).1
    · obtain ⟨f, hf, rfl⟩ := ends_adapt_error.mp hfails
      exact (Git.changedLines_ends_error hf).2.1.exitCode
  | launch _ _ => exact withHint_exitCode _ _
  | filter _ _ _ => exact withHint_exitCode _ _

theorem FailsAt.exitCode {options : Options} {colour : Bool} {w : σ} {step : Step} {a : Abort} {s' : Session σ}
    (h : FailsAt host options colour w step a s') : a.exitCode = step.exitCode := by
  cases h with
  | before _ hfails => exact hfails.exitCode
  | target _ _ _ _ hhalts => exact hhalts.exitCode

theorem Step.exitCode_ne (step : Step) : step.exitCode ≠ 0 ∧ step.exitCode ≠ 1 := by
  cases step <;> decide

/-- With a readable working directory finding it does not fail. -/
theorem FailsAt.step_ne_directory {options : Options} {colour : Bool} {w : σ} {step : Step} {a : Abort} {s' : Session σ}
    (h : FailsAt host options colour w step a s') {directory : String} (hw : host.workingDirectory w = .ok directory) :
    step ≠ .directory := by
  have hfound : Ends (Preparation.directory host) ⟨w, []⟩ (.ok directory) ⟨w, []⟩ :=
    Preparation.directory_ends_ok.mpr ⟨hw, rfl⟩
  rintro rfl
  cases h with
  | before _ hfails =>
    cases hfails with
    | directory hfails => cases (hfound.det hfails).1
  | target _ _ _ _ hhalts => cases hhalts

section
variable {options : Options} {colour : Bool} {w : σ}

theorem run_eq_ok_iff {status : Nat} : ((run host options colour).runOn w).1 = .ok status ↔
    ∃ reports, Completes host options colour w reports ∧ status = if reports.any (·.outcome.hasIssues) then 1 else 0 := by
  rw [← run_ends_ok_iff]
  constructor
  · intro h
    exact ⟨_, Prod.ext h rfl⟩
  · intro h
    obtain ⟨s', h⟩ := h
    exact congrArg Prod.fst h

theorem run_eq_error_iff {a : Abort} :
    ((run host options colour).runOn w).1 = .error a ↔ ∃ step s', FailsAt host options colour w step a s' := by
  constructor
  · intro h
    obtain ⟨step, hfails⟩ := run_ends_error_iff.mp (Prod.ext h rfl)
    exact ⟨step, _, hfails⟩
  · intro h
    obtain ⟨step, s', hfails⟩ := h
    exact congrArg Prod.fst (run_ends_error_iff.mpr ⟨step, hfails⟩)

/-- A run completes unless a step fails, and not both. -/
theorem completes_iff_not_fails : (∃ reports, Completes host options colour w reports) ↔
    ¬∃ step a s', FailsAt host options colour w step a s' := by
  constructor
  · intro h hfails
    obtain ⟨reports, hcompletes⟩ := h
    obtain ⟨step, a, s', hfails⟩ := hfails
    have hgood := run_eq_ok_iff.mpr ⟨reports, hcompletes, rfl⟩
    rw [run_eq_error_iff.mpr ⟨step, s', hfails⟩] at hgood
    cases hgood
  · intro hnone
    cases hend : ((run host options colour).runOn w).1 with
    | error a =>
      obtain ⟨step, s', hfails⟩ := run_eq_error_iff.mp hend
      exact absurd ⟨step, a, s', hfails⟩ hnone
    | ok status =>
      obtain ⟨reports, hcompletes, -⟩ := run_eq_ok_iff.mp hend
      exact ⟨reports, hcompletes⟩

end

/-- A run ends with 1 exactly when all steps end well and a file has issues, and with 0 exactly when all end well and no
file has any. Else it fails with the first step that fails, whose exit status is neither, whatever contexts are added. -/
theorem run_exit_status (host : Host σ) (options : Options) (colour : Bool) (w : σ) :
    (((run host options colour).runOn w).1 = .ok 1 ↔
      ∃ reports, Completes host options colour w reports ∧ ∃ r ∈ reports, r.outcome.hasIssues = true) ∧
    (((run host options colour).runOn w).1 = .ok 0 ↔
      ∃ reports, Completes host options colour w reports ∧ ∀ r ∈ reports, r.outcome.hasIssues = false) ∧
    (∀ status, ((run host options colour).runOn w).1 = .ok status → status = 0 ∨ status = 1) ∧
    ((∃ reports, Completes host options colour w reports) ↔ ¬∃ step a s', FailsAt host options colour w step a s') ∧
    (∀ a, ((run host options colour).runOn w).1 = .error a ↔ ∃ step s', FailsAt host options colour w step a s') ∧
    (∀ step a s', FailsAt host options colour w step a s' → a.exitCode = step.exitCode ∧ a.exitCode ≠ 0 ∧ a.exitCode ≠ 1 ∧
      ∀ directory, host.workingDirectory w = .ok directory → step ≠ .directory) ∧
    (∀ (a : Abort) (contexts : List String), (contexts.foldl Abort.addContext a).exitCode = a.exitCode) ∧
    ∀ registry f, (withHint registry f).exitCode = (Abort.ofFailure f).exitCode := by
  refine ⟨?_, ?_, ?_, completes_iff_not_fails, fun a => run_eq_error_iff, ?_, exitCode_foldl_addContext,
    fun registry f => withHint_exitCode registry f⟩
  · rw [run_eq_ok_iff]
    refine exists_congr fun reports => and_congr_right fun _ => ?_
    rw [← List.any_eq_true]
    cases reports.any (·.outcome.hasIssues) <;> decide
  · rw [run_eq_ok_iff]
    refine exists_congr fun reports => and_congr_right fun _ => ?_
    have hnone : (∀ r ∈ reports, r.outcome.hasIssues = false) ↔ reports.any (·.outcome.hasIssues) = false := by
      simp
    rw [hnone]
    cases reports.any (·.outcome.hasIssues) <;> decide
  · intro status h
    obtain ⟨reports, -, rfl⟩ := run_eq_ok_iff.mp h
    split
    · exact Or.inr rfl
    · exact Or.inl rfl
  · intro step a s' hfails
    rw [hfails.exitCode]
    exact ⟨rfl, step.exitCode_ne.1, step.exitCode_ne.2, fun directory hw => hfails.step_ne_directory hw⟩

end DeltaLint

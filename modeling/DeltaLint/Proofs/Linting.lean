import DeltaLint.Proofs.Simulation
import DeltaLint.Proofs.Visit

/-
  DeltaLint.Proofs.Linting — the linters of a file, whatever their programs answer.

  The linters for the extension are started in order. The first that cannot be started, or whose filter is
  no pattern for the lines (`Stuck`), ends the matter; those before it have given their lines
  (`Remarked`). What comes of it all is `Linted`. An exit code has no part in it (`AlikeButExits`).

  Proved:
  - `lint_ends_iff`: linting ends as `Linted` says, and in no other way.
  - `lint_follows`: what only differs in exit codes is linted alike.
  - `lint_starts_linters_in_order`: which programs are started, and what the outcome makes of their outputs.
-/

namespace DeltaLint

open Job

variable {σ τ : Type} {host : Host σ} {file : String} {lines : Option (List Nat)}

/-! ## One linter -/

/-- The start of the linter on the file. -/
def Linter.start (l : Linter) (file : String) : Event := .launched l.program (l.arguments ++ [file])

/-- What is taken from what the linter's program answers. -/
def Linter.verdict (l : Linter) (lines : Option (List Nat)) : Except HostFault Captured → Except Failure String
  | .error cause => .error (.execution l.program cause)
  | .ok captured => LineFilter.select captured.text l.filter lines

theorem linterRun_ends_iff {l : Linter} {r : Except Failure String} {s s' : Session σ} :
    Ends (l.run host file lines) s r s' ↔
      r = l.verdict lines (host.launch l.program (l.arguments ++ [file]) s.world).1 ∧
        s' = ⟨(host.launch l.program (l.arguments ++ [file]) s.world).2, l.start file :: s.events⟩ := by
  have hrun : ∀ {answer : Except HostFault Captured} {w : σ},
      host.launch l.program (l.arguments ++ [file]) s.world = (answer, w) →
        Ends (l.run host file lines) s (l.verdict lines answer) ⟨w, l.start file :: s.events⟩ := by
    intro answer w hlaunch
    refine ends_bind.mpr (Or.inl ⟨answer, ⟨w, l.start file :: s.events⟩, ends_act.mpr ?_, ?_⟩)
    · rw [hlaunch]
      exact ⟨rfl, rfl⟩
    · cases answer with
      | error cause => exact ends_throw.mpr ⟨rfl, rfl⟩
      | ok captured => exact ends_mk_pure.mpr ⟨rfl, rfl⟩
  exact (hrun rfl).eq_iff

/-- The linter cannot be started on the file, or its filter is no pattern for the lines. -/
inductive Stuck (host : Host σ) (file : String) (lines : Option (List Nat)) (l : Linter) (s : Session σ) :
    Failure → Session σ → Prop
  | unstarted {cause : HostFault} {w : σ}
      (hlaunch : host.launch l.program (l.arguments ++ [file]) s.world = (.error cause, w)) :
      Stuck host file lines l s (.execution l.program cause) ⟨w, l.start file :: s.events⟩
  | unfiltered {captured : Captured} {w : σ} {ns : List Nat} {fault : Pattern.Fault}
      (hlaunch : host.launch l.program (l.arguments ++ [file]) s.world = (.ok captured, w)) (hlines : lines = some ns)
      (hsome : ns ≠ []) (hfilter : Pattern.read (LineFilter.expand l.filter ns) = .error fault) :
      Stuck host file lines l s (.pattern l.filter fault) ⟨w, l.start file :: s.events⟩

theorem LineFilter.select_eq_error_iff {output template : String} {lines : Option (List Nat)} {f : Failure} :
    select output template lines = .error f ↔
      ∃ ns fault, lines = some ns ∧ ns ≠ [] ∧ Pattern.read (expand template ns) = .error fault ∧
        f = .pattern template fault := by
  have hwhole : ∀ {ns : List Nat}, ns ≠ [] → (select output template (some ns) = .error f ↔
      ∃ fault, Pattern.read (expand template ns) = .error fault ∧ f = .pattern template fault) := by
    intro ns hne
    obtain ⟨n, ns, rfl⟩ := List.exists_cons_of_ne_nil hne
    show (pattern template (n :: ns)).map _ = _ ↔ _
    unfold pattern
    cases Pattern.read (expand template (n :: ns)) with
    | ok p => simp [Except.mapError, Except.map]
    | error fault => simp [Except.mapError, Except.map, eq_comm]
  constructor
  · intro h
    rcases lines with _ | _ | ⟨n, ns⟩
    · cases h
    · cases h
    · obtain ⟨fault, hfault, rfl⟩ := (hwhole (List.cons_ne_nil n ns)).mp h
      exact ⟨n :: ns, fault, rfl, List.cons_ne_nil n ns, hfault, rfl⟩
  · intro h
    obtain ⟨ns, fault, rfl, hne, hfault, rfl⟩ := h
    exact (hwhole hne).mpr ⟨fault, hfault, rfl⟩

theorem linterRun_ends_error {l : Linter} {f : Failure} {s s' : Session σ} :
    Ends (l.run host file lines) s (.error f) s' ↔ Stuck host file lines l s f s' := by
  rw [linterRun_ends_iff]
  constructor
  · intro h
    obtain ⟨hverdict, rfl⟩ := h
    cases hlaunch : host.launch l.program (l.arguments ++ [file]) s.world with
    | mk answer w =>
      rw [hlaunch] at hverdict
      cases answer with
      | error cause =>
        cases hverdict
        exact .unstarted hlaunch
      | ok captured =>
        obtain ⟨ns, fault, hlines, hne, hfault, rfl⟩ := LineFilter.select_eq_error_iff.mp hverdict.symm
        exact .unfiltered hlaunch hlines hne hfault
  · intro h
    cases h with
    | unstarted hlaunch =>
      rw [hlaunch]
      exact ⟨rfl, rfl⟩
    | unfiltered hlaunch hlines hne hfault =>
      rw [hlaunch]
      exact ⟨(LineFilter.select_eq_error_iff.mpr ⟨_, _, hlines, hne, hfault, rfl⟩).symm, rfl⟩

/-! ## All of them -/

/-- The texts that the lines found make, one for each linter. -/
def texts (found : List (List (List Char))) : List String := found.map fun ns => String.ofList (Text.glue '\n' ns)

/-- What comes of linting a file with these linters. -/
inductive Linted (host : Host σ) (file : String) (lines : Option (List Nat)) (linters : List Linter) (s : Session σ) :
    Except Failure Outcome → Session σ → Prop
  | done {found : List (List (List Char))} {s' : Session σ} (hfound : Remarked host file lines linters s found s') :
      Linted host file lines linters s (.ok (.ofOutputs (texts found))) s'
  | stopped {before later : List Linter} {l : Linter} {found : List (List (List Char))} {s₁ s' : Session σ} {f : Failure}
      (hlinters : linters = before ++ l :: later) (hfound : Remarked host file lines before s found s₁)
      (hstuck : Stuck host file lines l s₁ f s') :
      Linted host file lines linters s (.error f) s'

theorem lint_ends_error {registry : Registry} {linters : List Linter} {f : Failure} {s s' : Session σ}
    (hl : registry.get? (Path.extension file) = some linters) :
    Ends (lint host registry file lines) s (.error f) s' ↔
      ∃ before l later found s₁, linters = before ++ l :: later ∧ Remarked host file lines before s found s₁ ∧
        Stuck host file lines l s₁ f s' := by
  have hrow : Ends (lint host registry file lines) s (.error f) s' ↔
      Ends (linters.mapM (·.run host file lines)) s (.error f) s' := by
    simp only [lint, hl]
    rw [ends_bind_error]
    constructor
    · intro h
      rcases h with h | ⟨_, _, -, h⟩
      · exact h
      · cases (ends_pure.mp h).1
    · exact Or.inl
  rw [hrow, ends_mapM_error]
  constructor
  · intro h
    obtain ⟨before, l, later, outputs, s₁, hlinters, hbefore, hstuck⟩ := h
    obtain ⟨found, hfound, -⟩ := linters_ends_ok.mp hbefore
    exact ⟨before, l, later, found, s₁, hlinters, hfound, linterRun_ends_error.mp hstuck⟩
  · intro h
    obtain ⟨before, l, later, found, s₁, hlinters, hfound, hstuck⟩ := h
    exact ⟨before, l, later, _, s₁, hlinters, linters_ends_ok.mpr ⟨found, hfound, rfl⟩, linterRun_ends_error.mpr hstuck⟩

/-- Linting a file whose extension has linters ends as `Linted` says. -/
theorem lint_ends_iff {registry : Registry} {linters : List Linter} {r : Except Failure Outcome} {s s' : Session σ}
    (hl : registry.get? (Path.extension file) = some linters) :
    Ends (lint host registry file lines) s r s' ↔ Linted host file lines linters s r s' := by
  constructor
  · intro h
    cases r with
    | error f =>
      obtain ⟨before, l, later, found, s₁, hlinters, hfound, hstuck⟩ := (lint_ends_error hl).mp h
      exact .stopped hlinters hfound hstuck
    | ok outcome =>
      obtain ⟨found, hfound, rfl⟩ := (lint_ends_ok hl).mp h
      exact .done hfound
  · intro h
    cases h with
    | done hfound => exact (lint_ends_ok hl).mpr ⟨_, hfound, rfl⟩
    | stopped hlinters hfound hstuck => exact (lint_ends_error hl).mpr ⟨_, _, _, _, _, hlinters, hfound, hstuck⟩

/-! ## What is started -/

theorem Remarked.events {linters : List Linter} {s s' : Session σ} {found : List (List (List Char))}
    (h : Remarked host file lines linters s found s') : s'.events = (linters.map (·.start file)).reverse ++ s.events := by
  induction h with
  | done s => rfl
  | next _ _ _ ih =>
    rw [ih]
    simp [Linter.start]

theorem Stuck.events {l : Linter} {f : Failure} {s s' : Session σ} (h : Stuck host file lines l s f s') :
    s'.events = l.start file :: s.events := by
  cases h with
  | unstarted _ => rfl
  | unfiltered _ _ _ _ => rfl

/-- The linters that are started are those for the extension of the file, or the first of them. -/
theorem lint_started {registry : Registry} {r : Except Failure Outcome} {s s' : Session σ}
    (h : Ends (lint host registry file lines) s r s') :
    ∃ started, started <+: (registry.get? (Path.extension file)).getD [] ∧
      s'.events = (started.map (·.start file)).reverse ++ s.events := by
  cases hl : registry.get? (Path.extension file) with
  | none =>
    obtain ⟨-, rfl⟩ := (lint_ends_of_none hl).mp h
    exact ⟨[], List.prefix_rfl, rfl⟩
  | some linters =>
    cases (lint_ends_iff hl).mp h with
    | done hfound => exact ⟨linters, List.prefix_rfl, hfound.events⟩
    | @stopped before later l _ _ _ _ hlinters hfound hstuck =>
      refine ⟨before ++ [l], ⟨later, by rw [hlinters]; simp⟩, ?_⟩
      rw [hstuck.events, hfound.events]
      simp

/-! ## What the outputs add up to -/

theorem intercalate_ne_empty {comments : List String} (hsome : comments ≠ []) (hne : ∀ text ∈ comments, text ≠ "") :
    "\n".intercalate comments ≠ "" := by
  obtain ⟨text, rest, rfl⟩ := List.exists_cons_of_ne_nil hsome
  have htext : text.toList ≠ [] := fun h => hne text List.mem_cons_self (String.toList_eq_nil_iff.mp h)
  intro hempty
  have hnil : ("\n".intercalate (text :: rest)).toList = [] := by
    rw [hempty]
    rfl
  rw [String.toList_intercalate] at hnil
  have hfirst : ∀ more : List (List Char), List.intercalate "\n".toList (text.toList :: more) ≠ [] := by
    intro more
    cases more with
    | nil => simpa [List.intercalate] using htext
    | cons => simp [List.intercalate]
  exact hfirst _ hnil

theorem ofOutputs_cases (outputs : List String) :
    (Outcome.ofOutputs outputs = .ok ∧ ∀ text ∈ outputs, text = "") ∨
      ∃ comments, Outcome.ofOutputs outputs = .issues comments ∧ (∃ text ∈ outputs, text ≠ "") ∧
        comments = "\n".intercalate (outputs.filter (· != "")) ∧ comments ≠ "" := by
  unfold Outcome.ofOutputs
  split
  · rename_i hnil
    refine Or.inl ⟨rfl, fun text htext => ?_⟩
    simpa using List.filter_eq_nil_iff.mp hnil text htext
  · rename_i hcomments
    have hne : ∀ text ∈ outputs.filter (· != ""), text ≠ "" := fun text htext => by
      simpa using (List.mem_filter.mp htext).2
    obtain ⟨text, htext⟩ := List.exists_mem_of_ne_nil _ hcomments
    exact Or.inr ⟨_, rfl, ⟨text, (List.mem_filter.mp htext).1, hne text htext⟩, rfl, intercalate_ne_empty hcomments hne⟩

/-! ## Exit codes -/

/-- From worlds that are alike the other host answers alike, but for the exit codes, and leaves worlds that are alike. -/
def Host.AlikeButExits (host : Host σ) (other : Host τ) (alike : σ → τ → Prop) : Prop :=
  ∀ program arguments v w, alike v w →
    (host.launch program arguments v).1.map (·.text) = (other.launch program arguments w).1.map (·.text) ∧
      alike (host.launch program arguments v).2 (other.launch program arguments w).2

theorem Linter.verdict_of_text {l : Linter} {a b : Except HostFault Captured}
    (h : a.map (·.text) = b.map (·.text)) : l.verdict lines a = l.verdict lines b := by
  cases a with
  | error cause =>
    cases b with
    | error cause' =>
      cases h
      rfl
    | ok captured => cases h
  | ok captured =>
    cases b with
    | error cause => cases h
    | ok captured' =>
      have htext : captured.text = captured'.text := Except.ok.inj h
      show LineFilter.select _ _ _ = LineFilter.select _ _ _
      rw [htext]

/-- From sessions that are alike the other host answers alike, but for the exit codes, and leaves sessions that are
alike. -/
def Host.LaunchesAlike (host : Host σ) (other : Host τ) (alike : Session σ → Session τ → Prop) : Prop :=
  ∀ program arguments s t, alike s t →
    (host.launch program arguments s.world).1.map (·.text) = (other.launch program arguments t.world).1.map (·.text) ∧
      alike ⟨(host.launch program arguments s.world).2, .launched program arguments :: s.events⟩
        ⟨(other.launch program arguments t.world).2, .launched program arguments :: t.events⟩

theorem linterRun_follows {other : Host τ} {alike : Session σ → Session τ → Prop} (h : host.LaunchesAlike other alike)
    (l : Linter) : Follows alike (l.run host file lines) (l.run other file lines) := by
  intro s t hst r s' hrun
  obtain ⟨rfl, rfl⟩ := linterRun_ends_iff.mp hrun
  obtain ⟨htext, hst'⟩ := h l.program (l.arguments ++ [file]) s t hst
  exact ⟨_, linterRun_ends_iff.mpr ⟨Linter.verdict_of_text htext, rfl⟩, hst'⟩

theorem Host.LaunchesAlike.lint {other : Host τ} {alike : Session σ → Session τ → Prop} (h : host.LaunchesAlike other alike)
    (registry : Registry) : Follows alike (lint host registry file lines) (lint other registry file lines) := by
  unfold DeltaLint.lint
  dsimp only
  cases registry.get? (Path.extension file) with
  | none => exact follows_pure _
  | some linters => exact (follows_mapM (linterRun_follows h) linters).bind fun outputs => follows_pure _

theorem lint_follows {other : Host τ} {alike : σ → τ → Prop} (h : host.AlikeButExits other alike) (registry : Registry) :
    Follows (SameEvents alike) (lint host registry file lines) (lint other registry file lines) := by
  refine Host.LaunchesAlike.lint (fun program arguments s t hst => ?_) registry
  obtain ⟨htext, hworld⟩ := h program arguments s.world t.world hst.1
  exact ⟨htext, hworld, congrArg (.launched program arguments :: ·) hst.2⟩

/-! ## Linting -/

/-- A file without linters is skipped and nothing is started. Else the linters for its extension are started in order,
each with its arguments and then the file: all of them, or up to the first that fails, with whose failure linting ends.
The file is good when no linter has anything to say about the lines, and else the outcome is what they say, in order.
With other exit codes the same is started and the same comes of it. -/
theorem lint_starts_linters_in_order (host : Host σ) (registry : Registry) (file : String) (lines : Option (List Nat))
    (s : Session σ) :
    ∃ r s', Ends (lint host registry file lines) s r s' ∧
      (registry.get? (Path.extension file) = none → r = .ok (.skipped (Path.extension file)) ∧ s' = s) ∧
      (∀ linters, registry.get? (Path.extension file) = some linters → ∃ started, started <+: linters ∧
        s'.events = (started.map (·.start file)).reverse ++ s.events ∧
        ((∃ found, started = linters ∧ Remarked host file lines linters s found s' ∧
            (r = .ok .ok ∧ (∀ text ∈ texts found, text = "") ∨
              ∃ comments, r = .ok (.issues comments) ∧ (∃ text ∈ texts found, text ≠ "") ∧
                comments = "\n".intercalate ((texts found).filter (· != "")) ∧ comments ≠ "")) ∨
          ∃ before l found s₁ f, started = before ++ [l] ∧ Remarked host file lines before s found s₁ ∧
            Stuck host file lines l s₁ f s' ∧ r = .error f)) ∧
      ∀ {τ : Type} (other : Host τ) (alike : σ → τ → Prop), host.AlikeButExits other alike →
        ∀ t : Session τ, alike s.world t.world → s.events = t.events →
          ∃ t', Ends (lint other registry file lines) t r t' ∧ s'.events = t'.events := by
  obtain ⟨r, s', hends⟩ := exists_ends (lint host registry file lines) s
  refine ⟨r, s', hends, fun hnone => (lint_ends_of_none hnone).mp hends, fun linters hl => ?_, ?_⟩
  · cases (lint_ends_iff hl).mp hends with
    | done hfound =>
      refine ⟨linters, List.prefix_rfl, hfound.events, Or.inl ⟨_, rfl, hfound, ?_⟩⟩
      rcases ofOutputs_cases (texts _) with ⟨hok, hempty⟩ | ⟨comments, hissues, hrest⟩
      · exact Or.inl ⟨congrArg _ hok, hempty⟩
      · exact Or.inr ⟨comments, congrArg _ hissues, hrest⟩
    | @stopped before later l found s₁ _ f hlinters hfound hstuck =>
      refine ⟨before ++ [l], ⟨later, by rw [hlinters]; simp⟩, ?_, Or.inr ⟨before, l, found, s₁, f, rfl, hfound, hstuck, rfl⟩⟩
      rw [hstuck.events, hfound.events]
      simp
  · intro τ other alike halike t hworld hevents
    obtain ⟨t', hends', hst⟩ := lint_follows halike registry s t ⟨hworld, hevents⟩ r s' hends
    exact ⟨t', hends', hst.2⟩

end DeltaLint

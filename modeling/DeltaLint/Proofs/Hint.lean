import DeltaLint.Proofs.Accepted
import DeltaLint.Proofs.Stopping

/-
  DeltaLint.Proofs.Hint — what is said when a linter cannot be started.

  The failure tells the program and not the linter. The hint is that of the first linter that runs the
  program (`Registry.FirstRunning`), whichever linter it was that could not be started; where the linters
  that run it have different hints, it can be another's (`hint_of_another`).

  Proved:
  - `Targeted.ordered`: the registry of a run has its extensions in order, from a file or built-in.
  - `exists_firstRunning`: where a linter is listed, some linter is the first to run its program.
  - `run_ends_unstarted_iff`: the runs that fail because a linter cannot be started.
  - `unstarted_linter_hint`: what such a run says.
-/

namespace DeltaLint

open Job

variable {σ : Type} {host : Host σ} {p : Plan} {w : σ} {s s' : Session σ}

/-! ## The registry of a run -/

theorem Config.ordered_of_ofText {text : String} {registry : Registry} (h : ofText text = .ok registry) :
    registry.Ordered := by
  obtain ⟨es, -, -, rfl⟩ := ofText_eq_ok_iff.mp h
  exact ordered_registered es

theorem Config.ordered_of_held {v : σ} {root : String} {explicit : Option String} {registry : Registry}
    (h : held host v root explicit = .ok registry) : registry.Ordered := by
  rcases held_cases host v root explicit with hbuiltin | ⟨text, htext⟩ | ⟨path, cause, hread⟩
  · rw [hbuiltin] at h
    cases h
    exact Registry.ordered_ofList _
  · rw [htext] at h
    exact ordered_of_ofText h
  · rw [hread] at h
    cases h

/-- The registry of a run has its extensions in order. -/
theorem Targeted.ordered {ts : Targets} (h : Targeted host p w ts s) : p.registry.Ordered := by
  obtain ⟨_, _, ⟨_, ⟨_, ⟨_, ⟨_, -, hregistry⟩, -⟩, -⟩, -⟩, -⟩ := h
  exact Config.ordered_of_held (Preparation.registry_ends_ok hregistry)

/-- Where a linter is listed, some linter is the first to run its program. -/
theorem Registry.exists_firstRunning {r : Registry} {l : Linter} (h : r.Lists l) :
    ∃ first, r.firstRunning? l.program = some first := by
  obtain ⟨e, he, hl⟩ := h
  refine Option.isSome_iff_exists.mp (List.find?_isSome.mpr ⟨l, List.mem_flatMap.mpr ⟨e, he, hl⟩, ?_⟩)
  exact beq_self_eq_true _

/-! ## Linters that cannot be started -/

/-- All targets before `file` were linted, and on `file` the turn comes to linter `l`, which cannot be started. -/
inductive Unstarted (host : Host σ) (options : Options) (colour : Bool) (w : σ) (p : Plan) (file : String) (l : Linter) :
    HostFault → Session σ → Prop
  | intro {before later : Targets} {change : Option Change} {reports : List Report.Entry} {lines : Option (List Nat)}
      {cause : HostFault} {w' : σ} {s₀ s₁ s₂ : Session σ} (hoptions : p.options = options)
      (hcolour : p.colour = (colour && !options.noColour))
      (htargets : Targeted host p w (before ++ (file, change) :: later) s₀)
      (hpassed : Ends (before.mapM fun (file, change) => p.lintTarget host file change) s₀ (.ok reports) s₁)
      (hturn : Turn host p file change (p.say (p.header file) s₁) lines l s₂)
      (hlaunch : host.launch l.program (l.arguments ++ [file]) s₂.world = (.error cause, w')) :
      Unstarted host options colour w p file l cause ⟨w', l.start file :: s₂.events⟩

section
variable {options : Options} {colour : Bool} {file : String} {l : Linter} {cause : HostFault}

theorem Unstarted.ordered (h : Unstarted host options colour w p file l cause s') : p.registry.Ordered := by
  cases h with
  | intro _ _ htargets _ _ _ => exact htargets.ordered

theorem Unstarted.lists (h : Unstarted host options colour w p file l cause s') : p.registry.Lists l := by
  cases h with
  | intro _ _ _ _ hturn _ =>
    obtain ⟨_, before, later, _, -, -, hlinters, -⟩ := hturn
    exact Registry.lists_of_get? hlinters (by simp)

theorem Unstarted.run_ends (h : Unstarted host options colour w p file l cause s') :
    Ends (run host options colour) ⟨w, []⟩ (.error (withHint p.registry (.execution l.program cause))) s' := by
  cases h with
  | intro hoptions hcolour htargets hpassed hturn hlaunch =>
    exact run_ends_error_iff.mpr ⟨.launch, .target hoptions hcolour htargets hpassed (.launch hturn hlaunch)⟩

/-- The runs with an exit status of 4 are those where a linter cannot be started. -/
theorem run_ends_unstarted_iff {a : Abort} :
    Ends (run host options colour) ⟨w, []⟩ (.error a) s' ∧ a.exitCode = 4 ↔
      ∃ p file l cause, Unstarted host options colour w p file l cause s' ∧
        a = withHint p.registry (.execution l.program cause) := by
  constructor
  · rintro ⟨hends, hcode⟩
    obtain ⟨step, hfails⟩ := run_ends_error_iff.mp hends
    rw [hfails.exitCode] at hcode
    cases hfails with
    | before _ hfails => cases hfails <;> cases hcode
    | target hoptions hcolour htargets hpassed hhalts =>
      cases hhalts with
      | blame _ => cases hcode
      | filter _ _ _ => cases hcode
      | launch hturn hlaunch =>
        exact ⟨_, _, _, _, .intro hoptions hcolour htargets hpassed hturn hlaunch, rfl⟩
  · rintro ⟨p, file, l, cause, hunstarted, rfl⟩
    exact ⟨hunstarted.run_ends, withHint_exitCode _ _⟩

theorem withHint_execution {r : Registry} {program : String} {first : Linter}
    (h : r.firstRunning? program = some first) : withHint r (.execution program cause) =
      ⟨first.installation.toList, .failure (.execution program cause)⟩ := by
  simp only [withHint, h, Option.bind_some]
  cases first.installation with
  | none => rfl
  | some hint => rfl

/-- When a linter cannot be started the run fails with its program and, as the only context, the hint of the first linter
of the registry that runs the program, if that one has a hint. It is the linter's own hint where all linters that run
the program have the same. -/
theorem unstarted_linter_hint (h : Unstarted host options colour w p file l cause s') :
    ∃ a first, (run host options colour).runOn w = (.error a, s') ∧ a.cause = .failure (.execution l.program cause) ∧
      p.registry.FirstRunning l.program first ∧ a.contexts = first.installation.toList ∧
      (∀ wording, a.headline wording =
        first.installation.getD ((Failure.execution l.program cause).text wording)) ∧
      ((∀ other, p.registry.Lists other → other.program = l.program → other.installation = l.installation) →
        a.contexts = l.installation.toList) := by
  obtain ⟨first, hfirst⟩ := Registry.exists_firstRunning h.lists
  have hrunning := (Registry.firstRunning?_eq_some_iff h.ordered).mp hfirst
  refine ⟨_, first, h.run_ends, ?_⟩
  rw [withHint_execution hfirst]
  refine ⟨rfl, hrunning, rfl, fun wording => ?_, fun hsame => ?_⟩
  · cases first.installation with
    | none => rfl
    | some hint => rfl
  · obtain ⟨extension, before, after, hget, hprogram, -⟩ := hrunning
    rw [hsame first (Registry.lists_of_get? hget (by simp)) hprogram]

end

/-! ## A hint of another linter -/

/-- Two linters that run one program. Only the first has a hint. -/
def pairText : String :=
  "a:\n  extensions: [.a]\n  command: lint\n  installation: Get a.\n  filter: (%(lines)s)\n" ++
  "b:\n  extensions: [.b]\n  command: lint\n  filter: (%(lines)s)\n"

def pairFirst : Linter := ⟨"a", "lint", [], "(%(lines)s)", some "Get a."⟩

def pairSecond : Linter := ⟨"b", "lint", [], "(%(lines)s)", none⟩

/-- A repository with a file for the second linter, on a system without the program. -/
def bareHost : Host Unit where
  workingDirectory _ := .ok "/r"
  isFile _ path := path == "/r/.gitlint.yaml"
  canonical _ path := .ok path
  readText _ _ := .ok pairText
  git _ arguments w :=
    (.ok ⟨Text.Utf8.encode (if arguments.head? = some "status" then "?? x.b\n" else "/r\n").toList, [], true⟩, w)
  launch _ _ w := (.error .notFound, w)

def pairRegistry : Registry := ⟨[(".a", [pairFirst]), (".b", [pairSecond])]⟩

theorem ofText_pair : Config.ofText pairText = .ok pairRegistry := by
  have hdescribed : Config.described pairText = some [("a", ⟨[".a"], "lint", [], "(%(lines)s)", some "Get a."⟩),
      ("b", ⟨[".b"], "lint", [], "(%(lines)s)", none⟩)] := by decide +kernel
  have husable : ∀ (extension : String) (installation : Option String), Config.Entry.Dotted extension →
      (⟨[extension], "lint", [], "(%(lines)s)", installation⟩ : Config.Entry).Usable := by
    intro extension installation hdotted
    refine ⟨⟨'l', ?_, by decide⟩, by simp, by simpa using hdotted, ?_, _, by cbv⟩
    · exact (by decide : 'l' ∈ "lint".toList)
    · exact (by decide +kernel : Text.occurrences placeholder.toList "(%(lines)s)".toList = 1)
  refine Config.ofText_eq_ok_iff.mpr ⟨_, hdescribed, fun e he => ?_, by decide +kernel⟩
  rcases List.mem_cons.mp he with rfl | he
  · exact (husable ".a" _ (by decide : ".a".toList.head? = some '.')).check_eq "a"
  · rw [List.mem_singleton.mp he]
    exact (husable ".b" _ (by decide : ".b".toList.head? = some '.')).check_eq "b"

theorem bare_find (s : Session Unit) :
    Ends (Config.find bareHost "/r" none) s (.ok (pairRegistry, .file "/r/.gitlint.yaml")) s := by
  have hread : Ends (Config.ofFile bareHost "/r/.gitlint.yaml") s (.ok pairRegistry) s :=
    (ends_ask.mpr ⟨rfl, rfl⟩).bind (ends_mk_pure.mpr ⟨ofText_pair.symm, rfl⟩)
  have hpath : (if bareHost.isFile () (Path.join "/r" configFileName) then some (Path.join "/r" configFileName)
      else none) = some "/r/.gitlint.yaml" := by decide +kernel
  refine (ends_ask.mpr ⟨rfl, rfl⟩).bind ((ends_pure.mpr ⟨rfl, rfl⟩).bind ?_)
  rw [hpath]
  exact hread.bind (ends_pure.mpr ⟨rfl, rfl⟩)

/-- What a run on the system is about. -/
def barePlan : Plan := ⟨{}, false, "/r", "/r", pairRegistry, none⟩

theorem bare_targeted : ∃ s, Targeted bareHost barePlan () [("/r/x.b", some .untracked)] s := by
  have hdirectory : Ends (Preparation.directory bareHost) ⟨(), []⟩ (.ok "/r") ⟨(), []⟩ := rfl
  obtain ⟨s, hroot⟩ : ∃ s, Ends (Preparation.root bareHost "/r") ⟨(), []⟩ (.ok "/r") s :=
    ⟨_, ends_of_toOption (by decide +kernel)⟩
  obtain rfl : s = ⟨(), [.git "/r" ["rev-parse", "--show-toplevel"]]⟩ :=
    congrArg (Session.mk ()) (Preparation.adds_root _ _ _ _ hroot)
  have hregistry : ∀ s, Ends (Preparation.registry bareHost {} "/r") s (.ok pairRegistry) s := fun s =>
    (ends_adapt_ok.mpr (bare_find s)).bind (ends_pure.mpr ⟨rfl, rfl⟩)
  have hchanged : Ends (Preparation.changed bareHost {} "/r" none) ⟨(), [.git "/r" ["rev-parse", "--show-toplevel"]]⟩
      (.ok [("/r/x.b", .untracked)]) _ := ends_of_toOption (by decide +kernel)
  exact ⟨_, _, _, ⟨_, ⟨_, ⟨_, ⟨_, ⟨_, hdirectory, hroot⟩, hregistry _⟩, ends_pure.mpr ⟨rfl, rfl⟩⟩, hchanged⟩, rfl⟩, rfl⟩

theorem bare_unstarted : ∃ s', Unstarted bareHost {} false () barePlan "/r/x.b" pairSecond .notFound s' := by
  obtain ⟨s, htargets⟩ := bare_targeted
  have hturn : Turn bareHost barePlan "/r/x.b" (some .untracked) (barePlan.say (barePlan.header "/r/x.b") s) none pairSecond
      (barePlan.say (barePlan.header "/r/x.b") s) :=
    ⟨_, [], [], [], ends_pure.mpr ⟨rfl, rfl⟩, by simp, by decide +kernel, .done _⟩
  have hfirst : Targeted bareHost barePlan () ([] ++ ("/r/x.b", some .untracked) :: []) s := htargets
  exact ⟨_, .intro rfl rfl hfirst (ends_pure.mpr ⟨rfl, rfl⟩) hturn rfl⟩

theorem unstarted_linter_hint_bare : ∃ a s', (run bareHost {} false).runOn () = (.error a, s') ∧ a.exitCode = 4 ∧
    Unstarted bareHost {} false () barePlan "/r/x.b" pairSecond .notFound s' := by
  obtain ⟨s', hunstarted⟩ := bare_unstarted
  obtain ⟨a, first, hrun, hcause, -⟩ := unstarted_linter_hint hunstarted
  exact ⟨a, s', hrun, by rw [Abort.exitCode, hcause]; rfl, hunstarted⟩

/-- The linter that cannot be started has no hint, and the run tells that of the other. -/
theorem hint_of_another : pairSecond.installation = none ∧ ∃ a s',
    Unstarted bareHost {} false () barePlan "/r/x.b" pairSecond .notFound s' ∧
    (run bareHost {} false).runOn () = (.error a, s') ∧ a.contexts = ["Get a."] := by
  obtain ⟨s', hunstarted⟩ := bare_unstarted
  exact ⟨rfl, _, s', hunstarted, hunstarted.run_ends, by decide +kernel⟩

end DeltaLint

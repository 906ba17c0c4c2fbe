import DeltaLint.Proofs.Coverage
import DeltaLint.Proofs.Sandbox.Tree
import DeltaLint.Sandbox.World

/-
  DeltaLint.Proofs.Named — runs over files that are named.

  Names are looked up in the working directory once it is known what changed. All of them have to be those
  of files (`missing`); then each is resolved to a path without links and dots, and these paths are
  the targets, each once (`known`). So only the set of the paths counts (`Host.Names`), and not how they are
  spelled, in which order they are named or how often.

  Proved:
  - `run_eq_about`: runs over other names agree when they agree once the commit is known.
  - `resolve_ends`: the names are resolved to the paths that they stand for.
  - `known_eq_of_mem_iff`: the targets are decided by the set of the paths.
  - `named_files_are_a_set`: names that stand for the same paths make the same run, and one that is missing stops it.
-/

namespace DeltaLint

open Job

variable {σ : Type} {host : Host σ} {p : Plan} {w : σ} {s s' : Session σ} {options : Options} {colour : Bool}

/-! ## Runs that differ in their names -/

/-- Lints the targets and says what came of it. -/
def Plan.lintAll (host : Host σ) (p : Plan) (ts : Targets) : Job σ Abort Nat := do
  let reports ← ts.mapM fun (file, change) => p.lintTarget host file change
  conclusion p.options reports

/-- What is left of a run once the commit is known. -/
def Plan.remainder (host : Host σ) (p : Plan) : Job σ Abort Nat := do
  let changed ← Preparation.changed host p.options p.root p.commit
  Preparation.names host p.options p.directory
  let ts ← Preparation.targets host p.options p.directory changed
  p.lintAll host ts

theorem run_eq (host : Host σ) (options : Options) (colour : Bool) : run host options colour = (do
    let directory ← Preparation.directory host
    let root ← Preparation.root host directory
    let registry ← Preparation.registry host options root
    let commit ← Preparation.commit host options root
    Plan.remainder host ⟨options, colour && !options.noColour, directory, root, registry, commit⟩) := by
  unfold run
  rw [prepare_eq]
  simp only [bind_assoc, pure_bind]
  rfl

/-- The options with other names, and with what counts of the changes set otherwise. -/
def Options.about (o : Options) (tracked : Bool) (names : List String) : Options :=
  { o with tracked := tracked, files := names }

def Plan.about (p : Plan) (tracked : Bool) (names : List String) : Plan :=
  { p with options := p.options.about tracked names }

/-- Up to the commit neither the names nor what is tracked plays a part. -/
theorem run_eq_about (tracked : Bool) (names : List String)
    (h : ∀ p s, p.options = options → Dated host p w s →
      Agree s (p.remainder host) ((p.about tracked names).remainder host)) :
    (run host options colour).runOn w = (run host (options.about tracked names) colour).runOn w := by
  refine Agree.runOn_eq ?_
  rw [run_eq, run_eq]
  refine agree_bind fun directory s₁ hdirectory => ?_
  refine agree_bind fun root s₂ hroot => ?_
  refine agree_bind fun registry s₃ hregistry => ?_
  refine agree_bind fun commit s₄ hcommit => ?_
  exact h ⟨options, _, directory, root, registry, commit⟩ s₄ rfl ⟨s₃, ⟨s₂, ⟨s₁, hdirectory, hroot⟩, hregistry⟩, hcommit⟩

/-! ## Names -/

/-- In this world the names are those of files, and stand for these paths. -/
structure Host.Names (host : Host σ) (directory : String) (v : σ) (names : List String) (paths : Set String) : Prop where
  files : ∀ name ∈ names, host.isFile v (Path.join directory name) = true
  resolved : ∀ name ∈ names, ∃ path ∈ paths, host.canonical v (Path.join directory name) = .ok path
  covered : ∀ path ∈ paths, ∃ name ∈ names, host.canonical v (Path.join directory name) = .ok path

namespace Preparation

theorem names_ends_ok {directory : String} {paths : Set String}
    (h : host.Names directory s.world options.files paths) : Ends (names host options directory) s (.ok ()) s := by
  have hnone : host.missing directory s.world options.files = [] :=
    List.filter_eq_nil_iff.mpr fun name hname => by simp [h.files name hname]
  have hends := names_ends host options directory s
  rwa [if_pos hnone] at hends

theorem resolve_ends {directory : String} {names : List String} {paths : Set String}
    (h : host.Names directory s.world names paths) :
    ∃ found, Ends (resolve host directory names) s (.ok found) s ∧ ∀ path, path ∈ found ↔ path ∈ paths := by
  obtain ⟨found, hfound⟩ : ∃ found, Ends (resolve host directory names) s (.ok found) s := by
    have hall := h.resolved
    clear h
    induction names with
    | nil => exact ⟨[], ends_pure.mpr ⟨rfl, rfl⟩⟩
    | cons name names ih =>
      obtain ⟨found, -, hone⟩ := hall name List.mem_cons_self
      obtain ⟨rest, hrest⟩ := ih fun name' h' => hall name' (List.mem_cons_of_mem name h')
      exact ⟨found :: rest, ends_mapM_cons_ok.mpr ⟨found, s, rest, path_ends_ok.mpr hone, hrest, rfl⟩⟩
  obtain ⟨-, hfrom, hinto⟩ := ends_mapM_ok_of_keeps (keeps_path directory) hfound
  refine ⟨found, hfound, fun path => ⟨fun hpath => ?_, fun hpath => ?_⟩⟩
  · obtain ⟨name, hname, hends⟩ := hfrom path hpath
    obtain ⟨path', hmem, hpath'⟩ := h.resolved name hname
    rw [Except.ok.inj ((path_ends_ok.mp hends).symm.trans hpath')]
    exact hmem
  · obtain ⟨name, hname, hresolved⟩ := h.covered path hpath
    obtain ⟨path', hmem, hends⟩ := hinto name hname
    rw [Except.ok.inj (hresolved.symm.trans (path_ends_ok.mp hends))]
    exact hmem

end Preparation

/-! ## Canonical paths -/

/-- Paths are resolved to canonical ones. -/
def Host.CanonicalPaths (host : Host σ) : Prop :=
  ∀ v name path, host.canonical v name = .ok path → Path.Canonical path.toList

/-- So does the system in memory. -/
theorem Sandbox.World.canonicalPaths : World.host.CanonicalPaths := fun _ _ _ h => Tree.canonical_of_resolve h

theorem Host.Names.canonical {directory : String} {v : σ} {names : List String} {paths : Set String}
    (h : host.Names directory v names paths) (hcanonical : host.CanonicalPaths) :
    ∀ path ∈ paths, Path.Canonical path.toList := by
  intro path hpath
  obtain ⟨name, -, hresolved⟩ := h.covered path hpath
  exact hcanonical v _ path hresolved

/-! ## The targets of names -/

namespace Preparation

variable {changed : Git.Changed} {found : List String}

/-- Of canonical paths each is a target, with the change that is known of it. -/
theorem mem_known_iff (hcanonical : ∀ path ∈ found, Path.Canonical path.toList) {t : String × Option Change} :
    t ∈ known changed found ↔ t.1 ∈ found ∧ t.2 = changed.find? Path.order t.1 := by
  have hsame : ∀ e ∈ found.map fun path => (path, changed.find? Path.order path),
      ∀ e' ∈ found.map fun path => (path, changed.find? Path.order path), Path.order e.1 e'.1 = .eq → e = e' := by
    intro e he e' he' heq
    obtain ⟨path, hpath, rfl⟩ := List.mem_map.mp he
    obtain ⟨path', hpath', rfl⟩ := List.mem_map.mp he'
    have htext := (hcanonical path hpath).eq (hcanonical path' hpath') (Path.order_eq_iff.mp heq)
    rw [String.toList_inj.mp htext]
  rw [known, Keyed.mem_ofList_iff_mem hsame, List.mem_map]
  constructor
  · intro h
    obtain ⟨path, hpath, rfl⟩ := h
    exact ⟨hpath, rfl⟩
  · intro h
    exact ⟨t.1, h.1, by rw [← h.2]⟩

/-- The targets are decided by the set of the paths. -/
theorem known_eq_of_mem_iff {found' : List String} (hcanonical : ∀ path ∈ found, Path.Canonical path.toList)
    (h : ∀ path, path ∈ found ↔ path ∈ found') : known changed found = known changed found' := by
  refine Keyed.Increasing.ext (Keyed.increasing_ofList _) (Keyed.increasing_ofList _) fun t => ?_
  show t ∈ known changed found ↔ t ∈ known changed found'
  rw [mem_known_iff hcanonical, mem_known_iff fun path hpath => hcanonical path ((h path).mpr hpath), h]

/-- The targets of names are the paths that these stand for, each once. -/
theorem targets_ends (options : Options) (changed : Git.Changed) {directory : String} {paths : Set String} (hsome : options.files ≠ [])
    (h : host.Names directory s.world options.files paths) (hcanonical : host.CanonicalPaths) :
    ∃ found, (∀ path, path ∈ found ↔ path ∈ paths) ∧ (∀ path ∈ found, Path.Canonical path.toList) ∧
      Ends (targets host options directory changed) s (.ok (known changed found)) s := by
  obtain ⟨found, hfound, hmem⟩ := resolve_ends h
  refine ⟨found, hmem, fun path hpath => h.canonical hcanonical path ((hmem path).mp hpath), ?_⟩
  rw [targets_eq_known hsome]
  exact hfound.bind (ends_pure.mpr ⟨rfl, rfl⟩)

end Preparation

/-! ## The run -/

/-- What a run does from `s` on, with these paths named: it handles each of them once, with the change that is known of
it, and nothing else. -/
structure Plan.LintsEach (host : Host σ) (p : Plan) (w : σ) (changed : Git.Changed) (paths : Set String) (s : Session σ)
    (ts : Targets) (job : Job σ Abort Nat) : Prop where
  once : (ts.map (·.1)).Nodup
  all : ∀ path, path ∈ ts.map (·.1) ↔ path ∈ paths
  change : ∀ t ∈ ts, t.2 = changed.find? Path.order t.1
  /-- However it ends, the run is that over the targets. -/
  ends : ∀ r s', Ends job ⟨w, []⟩ r s' ↔ Ends (p.lintAll host ts) s r s'
  /-- To the end, it is the log of each of them. -/
  log : ∀ status s', Ends job ⟨w, []⟩ (.ok status) s' → ∃ vs : List Handled, vs.map Handled.target = ts ∧
    (∀ v ∈ vs, v.started = [] ∨ p.registry.get? (Path.extension v.file) = some v.started) ∧
    s'.events.reverse = s.events.reverse ++ vs.flatMap p.log ++
      (if p.options.json then [.printed (Report.json p.options.pretty (vs.map p.report))] else [])

/-- Before the targets only git is called. -/
theorem Compared.quiet {changed : Git.Changed} (h : Compared host p w changed s) : s.printedLines = [] ∧ s.launches = [] := by
  have hgit : ∀ e ∈ s.events.reverse, e.isGit = true := by
    rw [h.events]
    exact List.filter_eq_self.mp (Step.filter_isGit_calls p)
  constructor
  · refine List.filterMap_eq_nil_iff.mpr fun e he => ?_
    cases e with
    | printed text => cases hgit _ he
    | git => rfl
    | launched => rfl
  · refine List.filterMap_eq_nil_iff.mpr fun e he => ?_
    cases e with
    | launched => cases hgit _ he
    | git => rfl
    | printed => rfl

theorem Compared.targeted {changed : Git.Changed} {paths : Set String} (h : Compared host p w changed s)
    (hsome : p.options.files ≠ []) (hcanonical : host.CanonicalPaths)
    (hnames : host.Names p.directory s.world p.options.files paths) :
    ∃ ts, Targeted host p w ts s ∧ (ts.map (·.1)).Nodup ∧ (∀ path, path ∈ ts.map (·.1) ↔ path ∈ paths) ∧
      ∀ t ∈ ts, t.2 = changed.find? Path.order t.1 := by
  obtain ⟨found, hfound, hproper, hts⟩ := Preparation.targets_ends p.options changed hsome hnames hcanonical
  have hmem : ∀ t, t ∈ Preparation.known changed found ↔ t.1 ∈ found ∧ t.2 = changed.find? Path.order t.1 :=
    fun t => Preparation.mem_known_iff hproper
  refine ⟨_, ⟨changed, s, ⟨s, h, Preparation.names_ends_ok hnames⟩, hts⟩, ?_, fun path => ?_, fun t ht => ((hmem t).mp ht).2⟩
  · refine List.pairwise_map.mpr ((Keyed.increasing_ofList _).imp fun {t t'} hlt heq => ?_)
    rw [Path.order_eq_iff.mpr (congrArg (fun path => Path.components path.toList) heq)] at hlt
    cases hlt
  · rw [← hfound, List.mem_map]
    constructor
    · intro hpath
      obtain ⟨t, ht, rfl⟩ := hpath
      exact ((hmem t).mp ht).1
    · intro hpath
      exact ⟨(path, changed.find? Path.order path), (hmem _).mpr ⟨hpath, rfl⟩, rfl⟩

theorem lintsEach_of_targeted {changed : Git.Changed} {paths : Set String} {ts : Targets}
    (hcolour : p.colour = (colour && !p.options.noColour)) (h : Targeted host p w ts s) (honce : (ts.map (·.1)).Nodup)
    (hall : ∀ path, path ∈ ts.map (·.1) ↔ path ∈ paths) (hchange : ∀ t ∈ ts, t.2 = changed.find? Path.order t.1) :
    p.LintsEach host w changed paths s ts (run host p.options colour) := by
  have hprepare : Ends (prepare host p.options colour) ⟨w, []⟩ (.ok (p, ts)) s := prepare_ends_ok_iff.mpr ⟨rfl, hcolour, h⟩
  have hends : ∀ r s', Ends (run host p.options colour) ⟨w, []⟩ r s' ↔ Ends (p.lintAll host ts) s r s' :=
    fun _ _ => hprepare.bind_iff
  refine ⟨honce, hall, hchange, hends, fun status s' hrun => ?_⟩
  obtain ⟨reports, s₁, hreports, hend⟩ := ends_bind_ok.mp ((hends _ _).mp hrun)
  obtain ⟨vs, hvs, rfl, hstarted, hlog⟩ := (visits_of_ends_ok hreports).handled
  exact ⟨vs, hvs, hstarted, by rw [conclusion_events hend, hlog]⟩

/-- The files named count as a set, however they are spelled and in whatever order and number they come: names that stand
for the same paths make the same run, and each of the paths is handled once. Where a name is not that of a file the run
stops as soon as it is known what changed. It has then printed nothing and started no linter, git has not been asked for a
blame, and it tells all such names, in order. -/
theorem named_files_are_a_set (hcanonical : host.CanonicalPaths) (hsome : options.files ≠ []) :
    (∀ names, names ≠ [] → (∀ p changed s, p.options = options → Compared host p w changed s → ∃ paths,
        host.Names p.directory s.world options.files paths ∧ host.Names p.directory s.world names paths) →
      (run host options colour).runOn w = (run host { options with files := names } colour).runOn w) ∧
    (∀ p changed s paths, p.options = options → p.colour = (colour && !options.noColour) →
      Compared host p w changed s → host.Names p.directory s.world options.files paths →
      ∃ ts, p.LintsEach host w changed paths s ts (run host options colour)) ∧
    ∀ p changed s, p.options = options → Compared host p w changed s →
      (∃ name ∈ options.files, host.isFile s.world (Path.join p.directory name) = false) → ∃ a,
        (run host options colour).runOn w = (.error a, s) ∧ a.exitCode = 2 ∧
        a.cause = .fileNotFound (host.missing p.directory s.world options.files) ∧
        (∀ wording, a.account wording =
          "file not found: " ++ ", ".intercalate (host.missing p.directory s.world options.files)) ∧
        s.printedLines = [] ∧ s.launches = [] ∧ s.events.reverse = Step.names.calls p := by
  refine ⟨fun names hnames hsame => ?_, fun p changed s paths hoptions hcolour hcompared hfound => ?_,
    fun p changed s hoptions hcompared hnone => ?_⟩
  · refine run_eq_about options.tracked names fun p s₁ hoptions hdated => ?_
    subst hoptions
    refine agree_bind fun changed s hchanged => ?_
    obtain ⟨paths, hnamed, hnamed'⟩ := hsame p changed s rfl ⟨s₁, hdated, hchanged⟩
    obtain ⟨found, hfound, hproper, hts⟩ := Preparation.targets_ends p.options changed hsome hnamed hcanonical
    obtain ⟨found', hfound', -, hts'⟩ :=
      Preparation.targets_ends (p.options.about p.options.tracked names) changed hnames hnamed' hcanonical
    have hknown : Preparation.known changed found = Preparation.known changed found' :=
      Preparation.known_eq_of_mem_iff hproper fun path => (hfound path).trans (hfound' path).symm
    have hchecked : Agree s (Preparation.names host p.options p.directory)
        (Preparation.names host (p.options.about p.options.tracked names) p.directory) :=
      agree_of_ends (Preparation.names_ends_ok hnamed) (Preparation.names_ends_ok hnamed')
    refine hchecked.bind fun _ s₂ hends => ?_
    obtain ⟨-, rfl⟩ := (Preparation.names_ends_ok hnamed).det hends
    exact (agree_of_ends hts (hknown ▸ hts')).bind fun ts s₃ _ => Agree.refl s₃ (p.lintAll host ts)
  · subst hoptions
    obtain ⟨ts, htargeted, honce, hall, hchange⟩ := hcompared.targeted hsome hcanonical hfound
    exact ⟨ts, lintsEach_of_targeted hcolour htargeted honce hall hchange⟩
  · subst hoptions
    obtain ⟨name, hname, hfile⟩ := hnone
    have hmissing : name ∈ host.missing p.directory s.world p.options.files :=
      List.mem_filter.mpr ⟨hname, by rw [hfile]; rfl⟩
    have hfails := Preparation.names_ends host p.options p.directory s
    rw [if_neg (List.ne_nil_of_mem hmissing)] at hfails
    have hends : Ends (run host p.options colour) ⟨w, []⟩ _ s :=
      run_ends_error_iff.mpr ⟨.names, .before rfl (.names hcompared hfails)⟩
    exact ⟨_, hends, rfl, rfl, fun wording => rfl, hcompared.quiet.1, hcompared.quiet.2, hcompared.events⟩

/-- A repository with two files, a link to the first and a directory. -/
def linkedTree : Sandbox.Tree :=
  ⟨[(["r"], .directory), (["r", "d"], .directory), (["r", "a.py"], .file [] false), (["r", "b.py"], .file [] false),
    (["r", "l.py"], .link "a.py")]⟩

/-- The first file is not known to git, from the second lines were removed, and linters find fault with all. -/
def linkedHost : Host Unit where
  workingDirectory _ := .ok "/r"
  isFile _ path := linkedTree.isFile "/r" path
  canonical _ path := (linkedTree.resolve "/r" path).map Sandbox.Tree.text
  readText _ _ := .error .notFound
  git _ arguments w :=
    (.ok ⟨Text.Utf8.encode (if arguments.head? = some "status" then " M b.py\n?? a.py\n" else "/r\n").toList, [], true⟩, w)
  launch _ _ w := (.ok ⟨"bad", some 1⟩, w)

/-- What a run on the system is about. -/
def linkedPlan (names : List String) : Plan := ⟨{ files := names }, false, "/r", "/r", Config.builtin, none⟩

def linkedChanges : Git.Changed := [("/r/a.py", .untracked), ("/r/b.py", .modified)]

theorem linked_canonicalPaths : linkedHost.CanonicalPaths := fun _ _ _ h => Sandbox.Tree.canonical_of_resolve h

/-- Names that lead to the file stand for it. -/
theorem linked_names {names : List String} (hsome : names ≠ [])
    (h : ∀ name ∈ names, linkedTree.isFile "/r" (Path.join "/r" name) = true ∧
      ((linkedTree.resolve "/r" (Path.join "/r" name)).map Sandbox.Tree.text).toOption = some "/r/a.py") :
    linkedHost.Names "/r" () names {"/r/a.py"} := by
  have hresolved : ∀ name ∈ names, linkedHost.canonical () (Path.join "/r" name) = .ok "/r/a.py" := by
    intro name hname
    show (linkedTree.resolve "/r" (Path.join "/r" name)).map Sandbox.Tree.text = .ok "/r/a.py"
    have hreal := (h name hname).2
    cases hpath : (linkedTree.resolve "/r" (Path.join "/r" name)).map Sandbox.Tree.text with
    | error fault =>
      rw [hpath] at hreal
      cases hreal
    | ok path =>
      rw [hpath] at hreal
      rw [Option.some.inj hreal]
  refine ⟨fun name hname => (h name hname).1, fun name hname => ⟨_, rfl, hresolved name hname⟩, fun path hpath => ?_⟩
  obtain ⟨name, hname⟩ := List.exists_mem_of_ne_nil names hsome
  exact ⟨name, hname, by rw [hresolved name hname, hpath]⟩

theorem linked_compared (names : List String) :
    ∃ s, Compared linkedHost (linkedPlan names) () linkedChanges s := by
  have hdirectory : Ends (Preparation.directory linkedHost) ⟨(), []⟩ (.ok "/r") ⟨(), []⟩ := rfl
  obtain ⟨s, hroot⟩ : ∃ s, Ends (Preparation.root linkedHost "/r") ⟨(), []⟩ (.ok "/r") s :=
    ⟨_, ends_of_toOption (by decide +kernel)⟩
  have hfound : Ends (Config.find linkedHost "/r" none) s (.ok (Config.builtin, .builtin)) s := by
    have hpath : (if linkedHost.isFile () (Path.join "/r" configFileName) then some (Path.join "/r" configFileName)
        else none) = none := by decide +kernel
    refine (ends_ask.mpr ⟨rfl, rfl⟩).bind ((ends_pure.mpr ⟨rfl, rfl⟩).bind ?_)
    rw [hpath]
    exact ends_pure.mpr ⟨rfl, rfl⟩
  have hregistry : Ends (Preparation.registry linkedHost (linkedPlan names).options "/r") s (.ok Config.builtin) s :=
    (ends_adapt_ok.mpr hfound).bind (ends_pure.mpr ⟨rfl, rfl⟩)
  obtain rfl : s = ⟨(), [.git "/r" ["rev-parse", "--show-toplevel"]]⟩ :=
    congrArg (Session.mk ()) (Preparation.adds_root _ _ _ _ hroot)
  have hchanged : Ends (Preparation.changed linkedHost {} "/r" none) ⟨(), [.git "/r" ["rev-parse", "--show-toplevel"]]⟩
      (.ok linkedChanges) _ := ends_of_toOption (by decide +kernel)
  exact ⟨_, _, ⟨_, ⟨_, ⟨_, hdirectory, hroot⟩, hregistry⟩, ends_pure.mpr ⟨rfl, rfl⟩⟩, hchanged⟩

theorem named_files_linked :
    (run linkedHost { files := ["a.py"] } false).runOn () =
      (run linkedHost { files := ["./l.py", "d/../a.py", "/r//l.py"] } false).runOn () ∧
    (∃ s ts, (linkedPlan ["a.py"]).LintsEach linkedHost () linkedChanges {"/r/a.py"} s ts
      (run linkedHost { files := ["a.py"] } false)) ∧
    ∃ a s, (run linkedHost { files := ["x", "l.py", "d", "x"] } false).runOn () = (.error a, s) ∧
      a.account id = "file not found: x, d, x" := by
  have hdirectory : ∀ {p : Plan} {changed : Git.Changed} {s : Session Unit}, Compared linkedHost p () changed s → p.directory = "/r" := by
    intro p changed s h
    obtain ⟨_, ⟨_, ⟨_, ⟨_, hdirectory, -⟩, -⟩, -⟩, -⟩ := h
    exact (Except.ok.inj (Preparation.directory_ends_ok.mp hdirectory).1).symm
  have hone : linkedHost.Names "/r" () ["a.py"] {"/r/a.py"} := linked_names (by decide) (by decide +kernel)
  have hmore : linkedHost.Names "/r" () ["./l.py", "d/../a.py", "/r//l.py"] {"/r/a.py"} :=
    linked_names (by decide) (by decide +kernel)
  refine ⟨?_, ?_, ?_⟩
  · refine (named_files_are_a_set linked_canonicalPaths (List.cons_ne_nil _ _)).1 _ (List.cons_ne_nil _ _)
      fun p changed s _ h => ?_
    rw [hdirectory h]
    exact ⟨_, hone, hmore⟩
  · obtain ⟨s, hcompared⟩ := linked_compared ["a.py"]
    exact ⟨s, (named_files_are_a_set linked_canonicalPaths (List.cons_ne_nil _ _)).2.1 _ _ s _ rfl rfl hcompared hone⟩
  · obtain ⟨s, hcompared⟩ := linked_compared ["x", "l.py", "d", "x"]
    have hx : linkedHost.isFile s.world (Path.join "/r" "x") = false := by
      show linkedTree.isFile "/r" (Path.join "/r" "x") = false
      decide +kernel
    have hmissing : linkedHost.missing "/r" s.world ["x", "l.py", "d", "x"] = ["x", "d", "x"] := by
      show (["x", "l.py", "d", "x"].filter fun name => !linkedTree.isFile "/r" (Path.join "/r" name)) = _
      decide +kernel
    obtain ⟨a, hrun, -, -, haccount, -⟩ := (named_files_are_a_set linked_canonicalPaths (List.cons_ne_nil _ _)).2.2 _ _ s rfl
      hcompared ⟨"x", List.mem_cons_self, hx⟩
    refine ⟨a, s, hrun, (haccount id).trans ?_⟩
    show "file not found: " ++ ", ".intercalate (linkedHost.missing "/r" s.world ["x", "l.py", "d", "x"]) = _
    rw [hmissing]
    decide

end DeltaLint

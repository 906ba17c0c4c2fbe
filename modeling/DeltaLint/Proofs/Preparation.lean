import DeltaLint.Proofs.Accepted
import DeltaLint.Proofs.Git.Calls
import DeltaLint.Proofs.Path

/-
  DeltaLint.Proofs.Preparation — what a run does before the targets, step by step.

  A run finds the directory it works in, the repository, the configuration, the commit where one is asked
  for, what changed, and the targets among it; the names given are all looked at before one is resolved.
  Preparing a run is these steps one after the other (`prepare_eq`). Each fails in a way of its own, and
  starts at most one call of git.

  Proved:
  - `prepare_ends_ok_iff` / `prepare_ends_error_iff`: preparing ends as its steps do.
  - `Preparation.registry_ends`: the registry is the one that is asked for (`Config.held`).
  - `Preparation.names_ends`: checking the names finds those that are missing.
  - `silent_prepare`: preparing prints nothing.
  - `FailsBefore.exitCode`: the step that fails decides the exit status.
  - `FailsBefore.events`: up to the step that fails git is called as the steps ask, and nothing else happens.
  - `Targeted.increasing`: the targets stand in the order of their paths, each once.
-/

namespace DeltaLint

open Job

variable {σ : Type}

/-! ## The steps -/

namespace Preparation

variable (host : Host σ) (options : Options)

def directory : Job σ Abort String := do
  match ← Job.ask host.workingDirectory with
  | .ok directory => return directory
  | .error fault => throw ((Abort.ofCause (.host fault)).addContext "cannot determine the current directory")

/-- The top directory of the repository, without links where it can be resolved. -/
def root (directory : String) : Job σ Abort String := do
  match ← Job.adaptFailure .ofFailure (Git.root? host directory) with
  | some root =>
    match ← Job.ask (host.canonical · root) with
    | .ok root => return root
    | .error _ => return root
  | none => throw (.ofFailure .notARepository)

def registry (root : String) : Job σ Abort Registry := do
  return (← Job.adaptFailure .ofFailure (Config.find host root options.config)).1

/-- The last commit, where it is asked for. -/
def commit (root : String) : Job σ Abort (Option String) := do
  if options.lastCommit then
    match ← Job.adaptFailure .ofFailure (Git.lastCommit? host root) with
    | some commit => return some commit
    | none => throw (.ofCause .noCommits)
  else return none

def changed (root : String) (commit : Option String) : Job σ Abort Git.Changed :=
  Job.adaptFailure .ofFailure (Git.changed host root options.tracked commit)

/-- All names given are those of files. -/
def names (directory : String) : Job σ Abort Unit := do
  let missing ← options.files.filterM fun name => return !(← Job.ask (host.isFile · (Path.join directory name)))
  if !missing.isEmpty then throw (.ofCause (.fileNotFound missing))

/-- The files that the names stand for, or all that changed where none is given. -/
def targets (directory : String) (changed : Git.Changed) : Job σ Abort Targets := do
  if options.files.isEmpty then return changed.map fun (path, s) => (path, some s)
  let found ← options.files.mapM fun name => do
    match ← Job.ask (host.canonical · (Path.join directory name)) with
    | .ok path => return (path, changed.find? Path.order path)
    | .error fault => throw ((Abort.ofCause (.host fault)).addContext s!"cannot resolve {name}")
  return Keyed.ofList Path.order found

theorem targets_eq (directory : String) (changed : Git.Changed) : DeltaLint.targets host directory options.files changed = (do
    names host options directory
    targets host options directory changed) := by
  unfold DeltaLint.targets names targets
  cases options.files with
  | nil => rfl
  | cons name rest =>
    simp only [List.isEmpty_cons, Bool.false_eq_true, if_false, bind_assoc]
    congr 1
    funext missing
    split
    · rfl
    · rfl

/-- The path that a name stands for. -/
def path (directory name : String) : Job σ Abort String := do
  match ← Job.ask (host.canonical · (Path.join directory name)) with
  | .ok path => return path
  | .error fault => throw ((Abort.ofCause (.host fault)).addContext s!"cannot resolve {name}")

/-- The paths that the names stand for, one for each name. -/
def resolve (directory : String) (names : List String) : Job σ Abort (List String) :=
  names.mapM (path host directory)

/-- Each of the paths once, with the change that is known of it. -/
def known (changed : Git.Changed) (paths : List String) : Targets :=
  Keyed.ofList Path.order (paths.map fun path => (path, changed.find? Path.order path))

variable {host options}

/-- Without names, all that changed is a target. -/
theorem targets_eq_changed (hnone : options.files = []) (directory : String) (changed : Git.Changed) :
    targets host options directory changed = pure (changed.map fun (path, change) => (path, some change)) := by
  unfold targets
  rw [hnone]
  rfl

/-- Where files are named, the targets are the paths that the names stand for. -/
theorem targets_eq_known (hsome : options.files ≠ []) (directory : String) (changed : Git.Changed) :
    targets host options directory changed = (do return known changed (← resolve host directory options.files)) := by
  unfold targets
  rw [if_neg (by simpa using hsome)]
  calc
    _ = ((options.files.mapM fun name => do return (fun path => (path, changed.find? Path.order path)) (← path host directory name)) >>=
        fun found => pure (Keyed.ofList Path.order found)) := by
      congr 2
      funext name
      simp only [path, bind_assoc]
      congr 1
      funext answer
      cases answer with
      | ok path => rfl
      | error fault => rfl
    _ = _ := by
      rw [mapM_return, bind_assoc]
      simp only [pure_bind]
      rfl

end Preparation

/-- Preparing a run is one step after the other. -/
theorem prepare_eq (host : Host σ) (options : Options) (colour : Bool) : prepare host options colour = (do
    let directory ← Preparation.directory host
    let root ← Preparation.root host directory
    let registry ← Preparation.registry host options root
    let commit ← Preparation.commit host options root
    let changed ← Preparation.changed host options root commit
    Preparation.names host options directory
    let ts ← Preparation.targets host options directory changed
    return (⟨options, colour && !options.noColour, directory, root, registry, commit⟩, ts)) := by
  unfold prepare Preparation.directory Preparation.root Preparation.registry Preparation.commit Preparation.changed
  simp only [bind_assoc, Preparation.targets_eq]
  congr 1
  funext found
  cases found with
  | error fault => rfl
  | ok directory =>
    simp only [pure_bind]
    congr 1
    funext top
    -- The commit is looked at alike, whether the root could be resolved or not.
    cases top with
    | none => rfl
    | some top =>
      simp only [bind_assoc]
      congr 1
      funext resolved
      rcases resolved with fault | root
      all_goals
        simp only [pure_bind]
        congr 1
        funext configured
        cases options.lastCommit
        · rfl
        · simp only [if_true, bind_assoc]
          congr 1
          funext last
          cases last with
          | none => rfl
          | some commit => rfl

/-! ## Reading the configuration -/

namespace Config

/-- The registry that a configuration file holds, and the built-in one where there is no file. -/
def fromFile (host : Host σ) (path : Option String) : Job σ Failure (Registry × Source) :=
  match path with
  | some path => do return (← ofFile host path, Source.file path)
  | none => return (builtin, Source.builtin)

/-- The registry of a file. -/
def heldAt (host : Host σ) (v : σ) (path : String) : Except Failure Registry :=
  match host.readText v path with
  | .ok text => ofText text
  | .error cause => .error (.configRead path cause)

/-- The registry that the options and the root ask for. -/
def held (host : Host σ) (v : σ) (root : String) (explicit : Option String) : Except Failure Registry :=
  match explicit with
  | some path => heldAt host v path
  | none =>
    if host.isFile v (Path.join root configFileName) then heldAt host v (Path.join root configFileName) else .ok builtin

theorem ofFile_ends (host : Host σ) (path : String) (s : Session σ) :
    Ends (ofFile host path) s (heldAt host s.world path) s := by
  refine Ends.bind (ends_ask.mpr ⟨rfl, rfl⟩) ?_
  unfold heldAt
  cases host.readText s.world path with
  | ok text => exact ends_mk_pure.mpr ⟨rfl, rfl⟩
  | error cause => exact ends_throw.mpr ⟨rfl, rfl⟩

theorem fromFile_ends (host : Host σ) (path : Option String) (s : Session σ) :
    ∃ r, Ends (fromFile host path) s r s ∧
      r.map Prod.fst = match path with
        | some path => heldAt host s.world path
        | none => .ok builtin := by
  cases path with
  | none => exact ⟨_, ends_pure.mpr ⟨rfl, rfl⟩, rfl⟩
  | some path =>
    have hread := ofFile_ends host path s
    cases hheld : heldAt host s.world path with
    | ok registry =>
      rw [hheld] at hread
      exact ⟨.ok (registry, .file path), hread.bind (ends_pure.mpr ⟨rfl, rfl⟩), hheld.symm⟩
    | error f =>
      rw [hheld] at hread
      exact ⟨.error f, hread.bind_error, hheld.symm⟩

theorem find_ends (host : Host σ) (root : String) (explicit : Option String) (s : Session σ) :
    ∃ r, Ends (find host root explicit) s r s ∧ r.map Prod.fst = held host s.world root explicit := by
  have hfrom : ∀ path : Option String, Ends (pure path : Job σ Failure (Option String)) s (.ok path) s := fun path =>
    ends_pure.mpr ⟨rfl, rfl⟩
  cases explicit with
  | some path =>
    obtain ⟨r, hends, hr⟩ := fromFile_ends host (some path) s
    exact ⟨r, (hfrom (some path)).bind hends, hr⟩
  | none =>
    have hask : Ends (Job.ask (host.isFile · (Path.join root configFileName)) : Job σ Failure Bool) s
        (.ok (host.isFile s.world (Path.join root configFileName))) s := ends_ask.mpr ⟨rfl, rfl⟩
    obtain ⟨r, hends, hr⟩ := fromFile_ends host
      (if host.isFile s.world (Path.join root configFileName) then some (Path.join root configFileName) else none) s
    refine ⟨r, hask.bind ((hfrom _).bind hends), hr.trans ?_⟩
    unfold held
    cases host.isFile s.world (Path.join root configFileName)
    · rfl
    · rfl

variable {host : Host σ} {v : σ} {root : String} {explicit : Option String}

/-- A registry that is asked for is built-in, or is read off a text. -/
theorem held_cases (host : Host σ) (v : σ) (root : String) (explicit : Option String) :
    held host v root explicit = .ok builtin ∨ (∃ text, held host v root explicit = ofText text) ∨
      ∃ path cause, held host v root explicit = .error (.configRead path cause) := by
  have hat : ∀ path, (∃ text, heldAt host v path = ofText text) ∨
      ∃ path' cause, heldAt host v path = .error (.configRead path' cause) := by
    intro path
    unfold heldAt
    cases host.readText v path with
    | ok text => exact Or.inl ⟨text, rfl⟩
    | error cause => exact Or.inr ⟨path, cause, rfl⟩
  unfold held
  split
  · exact Or.inr (hat _)
  · split
    · exact Or.inr (hat _)
    · exact Or.inl rfl

theorem Entry.Fails.exitCode {name : String} {e : Entry} {f : Failure} (h : e.Fails name f) : f.exitCode = 3 := by
  cases h with
  | command _ => rfl
  | extensions _ _ => rfl
  | undotted _ _ _ _ => rfl
  | places _ _ _ _ => rfl
  | filter _ _ _ _ _ => rfl

theorem Offends.exitCode {pair : Yaml.Value × Yaml.Value} {f : Failure} (h : Offends pair f) : f.exitCode = 3 := by
  cases h with
  | name _ => rfl
  | fields _ _ => rfl
  | check _ hfails => exact hfails.exitCode

theorem exitCode_of_ofText {text : String} {f : Failure} (h : ofText text = .error f) : f.exitCode = 3 := by
  rw [ofText_eq] at h
  rcases bind_eq_error.mp h with hmapping | ⟨entries, -, h⟩
  · unfold mapping at hmapping
    split at hmapping
    · cases hmapping
    · cases hparse : Yaml.Document.entries text.toList with
      | ok entries =>
        rw [hparse] at hmapping
        cases hmapping
      | error fault =>
        rw [hparse] at hmapping
        cases hmapping
        rfl
  · obtain ⟨before, pair, after, -, -, hoffends⟩ := ofEntries_eq_error_iff.mp h
    exact hoffends.exitCode

theorem exitCode_of_held {f : Failure} (h : held host v root explicit = .error f) : f.exitCode = 3 := by
  rcases held_cases host v root explicit with hbuiltin | ⟨text, htext⟩ | ⟨path, cause, hread⟩
  · rw [hbuiltin] at h
    cases h
  · rw [htext] at h
    exact exitCode_of_ofText h
  · rw [hread] at h
    cases h
    rfl

end Config

/-! ## What each step starts, and how it fails -/

/-- The names that are not those of files, in order. -/
def Host.missing (host : Host σ) (directory : String) (v : σ) (names : List String) : List String :=
  names.filter fun name => !host.isFile v (Path.join directory name)

namespace Preparation

variable {host : Host σ} {options : Options} {s s' : Session σ} {ι : Type} {view : Session σ → ι}

theorem directory_ends (host : Host σ) (s : Session σ) : Ends (directory host) s ((host.workingDirectory s.world).mapError
    fun fault => (Abort.ofCause (.host fault)).addContext "cannot determine the current directory") s := by
  refine Ends.bind (ends_ask.mpr ⟨rfl, rfl⟩) ?_
  cases host.workingDirectory s.world with
  | ok directory => exact ends_pure.mpr ⟨rfl, rfl⟩
  | error fault => exact ends_throw.mpr ⟨rfl, rfl⟩

theorem directory_ends_ok {found : String} :
    Ends (directory host) s (.ok found) s' ↔ host.workingDirectory s.world = .ok found ∧ s' = s := by
  rw [(directory_ends host s).eq_iff, eq_comm, mapError_eq_ok]

theorem adds_directory : Adds [] (directory host) := Keeps.adds (keeps_of_ends fun s => ⟨_, directory_ends host s⟩)

theorem raises_directory : Raises (fun a : Abort => a.exitCode = 5) (directory host) :=
  raises_of_ends fun s => ⟨_, directory_ends host s, fun _ _ => rfl⟩

theorem adds_root (directory : String) :
    Adds [.git directory ["rev-parse", "--show-toplevel"]] (root host directory) := by
  refine (Git.adds_root? directory).adapt.bind fun top => ?_
  split
  · refine (keeps_ask _).bind fun resolved => ?_
    split
    · exact keeps_pure _
    · exact keeps_pure _
  · exact keeps_throw _

theorem raises_root (directory : String) : Raises (fun a : Abort => a.exitCode = 128) (root host directory) := by
  refine ((Git.raises_root? directory).adapt fun _ hcall => hcall.exitCode).bind fun top => ?_
  split
  · refine (raises_ask _).bind fun resolved => ?_
    split
    · exact raises_pure _
    · exact raises_pure _
  · exact raises_throw rfl

/-- The registry is the one that is asked for. -/
theorem registry_ends (host : Host σ) (options : Options) (root : String) (s : Session σ) :
    Ends (registry host options root) s ((Config.held host s.world root options.config).mapError .ofFailure) s := by
  obtain ⟨r, hends, hr⟩ := Config.find_ends host root options.config s
  rw [← hr]
  cases r with
  | ok found => exact (ends_adapt_ok.mpr hends).bind (ends_pure.mpr ⟨rfl, rfl⟩)
  | error f => exact (ends_adapt_error.mpr ⟨f, hends, rfl⟩).bind_error

theorem adds_registry (root : String) : Adds [] (registry host options root) :=
  Keeps.adds (keeps_of_ends fun s => ⟨_, registry_ends host options root s⟩)

theorem registry_ends_ok {root : String} {found : Registry} (h : Ends (registry host options root) s (.ok found) s') :
    Config.held host s.world root options.config = .ok found :=
  mapError_eq_ok.mp ((registry_ends host options root s).det h).1

theorem raises_registry (root : String) : Raises (fun a : Abort => a.exitCode = 3) (registry host options root) :=
  raises_of_ends fun s => ⟨_, registry_ends host options root s, fun _ hheld => Config.exitCode_of_held hheld⟩

theorem adds_commit (root : String) :
    Adds (if options.lastCommit then [.git root ["rev-parse", "HEAD"]] else []) (commit host options root) := by
  unfold commit
  cases options.lastCommit
  · exact Keeps.adds (keeps_pure _)
  · refine (Git.adds_lastCommit? root).adapt.bind fun last => ?_
    split
    · exact keeps_pure _
    · exact keeps_throw _

/-- A commit is looked at only where the last one is asked for, and then that one. -/
theorem commit_ends_ok {root : String} {found : Option String} (h : Ends (commit host options root) s (.ok found) s') :
    if options.lastCommit then found.isSome ∧ Ends (Git.lastCommit? host root) s (.ok found) s' else found = none ∧ s' = s := by
  unfold commit at h
  by_cases hasked : options.lastCommit = true
  · rw [if_pos hasked] at h ⊢
    obtain ⟨last, s₁, hlast, h⟩ := ends_bind_ok.mp h
    cases last with
    | none => cases (ends_throw.mp h).1
    | some commit =>
      obtain ⟨hfound, rfl⟩ := ends_pure.mp h
      cases hfound
      exact ⟨rfl, ends_adapt_ok.mp hlast⟩
  · rw [if_neg hasked] at h ⊢
    obtain ⟨hfound, hs⟩ := ends_pure.mp h
    exact ⟨Except.ok.inj hfound, hs⟩

theorem raises_commit (root : String) : Raises (fun a : Abort => a.exitCode = 2) (commit host options root) := by
  unfold commit
  cases options.lastCommit
  · exact raises_pure _
  · refine ((Git.raises_lastCommit? root).adapt fun _ hfalse => hfalse.elim).bind fun last => ?_
    split
    · exact raises_pure _
    · exact raises_throw rfl

theorem adds_changed (root : String) (commit : Option String) :
    Adds [.git root (Git.listing commit)] (changed host options root commit) :=
  (Git.adds_changed root _ commit).adapt

theorem raises_changed (root : String) (commit : Option String) :
    Raises (fun a : Abort => a.exitCode = 128) (changed host options root commit) :=
  (Git.raises_changed root _ commit).adapt fun _ hcall => hcall.exitCode

/-- Checking the names finds those that are missing. -/
theorem names_ends (host : Host σ) (options : Options) (directory : String) (s : Session σ) :
    Ends (names host options directory) s
      (if host.missing directory s.world options.files = [] then .ok ()
        else .error (.ofCause (.fileNotFound (host.missing directory s.world options.files)))) s := by
  have hlast : ∀ missing : List String, Ends (if !missing.isEmpty then throw (.ofCause (.fileNotFound missing))
      else pure () : Job σ Abort Unit) s
      (if missing = [] then .ok () else .error (.ofCause (.fileNotFound missing))) s := by
    intro missing
    cases missing with
    | nil => exact ends_pure.mpr ⟨rfl, rfl⟩
    | cons name rest => exact ends_throw.mpr ⟨rfl, rfl⟩
  exact (ends_filterM_ask (fun v name => host.isFile v (Path.join directory name)) options.files s).bind (hlast _)

theorem keeps_names (directory : String) : Keeps view (names host options directory) :=
  keeps_of_ends fun s => ⟨_, names_ends host options directory s⟩

theorem adds_names (directory : String) : Adds [] (names host options directory) := (keeps_names directory).adds

theorem raises_names (directory : String) : Raises (fun a : Abort => a.exitCode = 2) (names host options directory) := by
  intro s a s' h
  have hend := ((names_ends host options directory s).det h).1
  split at hend
  · cases hend
  · cases hend
    rfl

theorem path_ends (host : Host σ) (directory name : String) (s : Session σ) : Ends (path host directory name) s
    ((host.canonical s.world (Path.join directory name)).mapError
      fun fault => (Abort.ofCause (.host fault)).addContext s!"cannot resolve {name}") s := by
  refine Ends.bind (ends_ask.mpr ⟨rfl, rfl⟩) ?_
  cases host.canonical s.world (Path.join directory name) with
  | ok path => exact ends_pure.mpr ⟨rfl, rfl⟩
  | error fault => exact ends_throw.mpr ⟨rfl, rfl⟩

theorem path_ends_ok {directory name found : String} :
    Ends (path host directory name) s (.ok found) s ↔ host.canonical s.world (Path.join directory name) = .ok found := by
  rw [(path_ends host directory name s).eq_iff, eq_comm, mapError_eq_ok]
  exact and_iff_left rfl

theorem keeps_path (directory name : String) : Keeps view (path host directory name) :=
  keeps_of_ends fun s => ⟨_, path_ends host directory name s⟩

theorem raises_path (directory name : String) : Raises (fun a : Abort => a.exitCode = 5) (path host directory name) :=
  raises_of_ends fun s => ⟨_, path_ends host directory name s, fun _ _ => rfl⟩

theorem keeps_targets (directory : String) (changed : Git.Changed) : Keeps view (targets host options directory changed) := by
  by_cases hnames : options.files = []
  · rw [targets_eq_changed hnames]
    exact keeps_pure _
  · rw [targets_eq_known hnames]
    exact (keeps_mapM (keeps_path directory) _).bind fun found => keeps_pure _

theorem adds_targets (directory : String) (changed : Git.Changed) : Adds [] (targets host options directory changed) :=
  (keeps_targets directory changed).adds

theorem raises_targets (directory : String) (changed : Git.Changed) :
    Raises (fun a : Abort => a.exitCode = 5) (targets host options directory changed) := by
  by_cases hnames : options.files = []
  · rw [targets_eq_changed hnames]
    exact raises_pure _
  · rw [targets_eq_known hnames]
    exact (raises_mapM (raises_path directory) _).bind fun found => raises_pure _

end Preparation

/-- Nothing is printed before the targets. -/
theorem silent_prepare {host : Host σ} (options : Options) (colour : Bool) : Silent (prepare host options colour) := by
  rw [prepare_eq]
  refine (Preparation.adds_directory.silent (by simp)).bind fun directory => ?_
  refine ((Preparation.adds_root directory).silent (by simp)).bind fun root => ?_
  refine ((Preparation.adds_registry root).silent (by simp)).bind fun registry => ?_
  refine ((Preparation.adds_commit root).silent (by split <;> simp)).bind fun commit => ?_
  refine ((Preparation.adds_changed root commit).silent (by simp)).bind fun changed => ?_
  refine (Preparation.keeps_names directory).bind fun _ => ?_
  exact (Preparation.keeps_targets directory changed).bind fun ts => keeps_pure _

/-! ## How far a run got -/

/-- A step that can fail, and with it the run. -/
inductive Step where
  | directory
  | repository
  | configuration
  | lastCommit
  | changes
  | names
  | paths
  /-- Asking git for the blame of a target. -/
  | blame
  /-- Starting a linter on a target. -/
  | launch
  /-- Reading the filter of a linter for the lines of a target. -/
  | filter
  deriving DecidableEq, Repr

namespace Step

def exitCode : Step → Nat
  | directory | paths => 5
  | repository | changes | blame => 128
  | configuration | filter => 3
  | lastCommit | names => 2
  | launch => 4

/-- What git is asked up to this step, one of those before the targets. -/
def calls (p : Plan) : Step → List Event
  | directory => []
  | repository | configuration => top
  | lastCommit => top ++ head
  | _ => top ++ (if p.options.lastCommit then head else []) ++ [.git p.root (Git.listing p.commit)]
where
  top : List Event := [.git p.directory ["rev-parse", "--show-toplevel"]]
  head : List Event := [.git p.root ["rev-parse", "HEAD"]]

end Step

variable {host : Host σ} {p : Plan} {w : σ} {s s' : Session σ} {a : Abort}

/-- The repository was found. -/
def Located (host : Host σ) (p : Plan) (w : σ) (s : Session σ) : Prop :=
  ∃ s₀, Ends (Preparation.directory host) ⟨w, []⟩ (.ok p.directory) s₀ ∧
    Ends (Preparation.root host p.directory) s₀ (.ok p.root) s

/-- The configuration was read. -/
def Configured (host : Host σ) (p : Plan) (w : σ) (s : Session σ) : Prop :=
  ∃ s₀, Located host p w s₀ ∧ Ends (Preparation.registry host p.options p.root) s₀ (.ok p.registry) s

/-- The commit is known, where one is asked for. -/
def Dated (host : Host σ) (p : Plan) (w : σ) (s : Session σ) : Prop :=
  ∃ s₀, Configured host p w s₀ ∧ Ends (Preparation.commit host p.options p.root) s₀ (.ok p.commit) s

/-- What changed is known. -/
def Compared (host : Host σ) (p : Plan) (w : σ) (changed : Git.Changed) (s : Session σ) : Prop :=
  ∃ s₀, Dated host p w s₀ ∧ Ends (Preparation.changed host p.options p.root p.commit) s₀ (.ok changed) s

/-- The names given are those of files. -/
def Checked (host : Host σ) (p : Plan) (w : σ) (changed : Git.Changed) (s : Session σ) : Prop :=
  ∃ s₀, Compared host p w changed s₀ ∧ Ends (Preparation.names host p.options p.directory) s₀ (.ok ()) s

/-- The targets are known. -/
def Targeted (host : Host σ) (p : Plan) (w : σ) (ts : Targets) (s : Session σ) : Prop :=
  ∃ changed s₀, Checked host p w changed s₀ ∧
    Ends (Preparation.targets host p.options p.directory changed) s₀ (.ok ts) s

/-- The first step that fails, before the targets, after good ends of the steps before it. Of the plan only what was
settled before counts. -/
inductive FailsBefore (host : Host σ) (p : Plan) (w : σ) : Step → Abort → Session σ → Prop
  | directory {a : Abort} {s' : Session σ} (hfails : Ends (Preparation.directory host) ⟨w, []⟩ (.error a) s') :
      FailsBefore host p w .directory a s'
  | repository {a : Abort} {s s' : Session σ} (hpassed : Ends (Preparation.directory host) ⟨w, []⟩ (.ok p.directory) s)
      (hfails : Ends (Preparation.root host p.directory) s (.error a) s') :
      FailsBefore host p w .repository a s'
  | configuration {a : Abort} {s s' : Session σ} (hpassed : Located host p w s)
      (hfails : Ends (Preparation.registry host p.options p.root) s (.error a) s') :
      FailsBefore host p w .configuration a s'
  | lastCommit {a : Abort} {s s' : Session σ} (hpassed : Configured host p w s)
      (hfails : Ends (Preparation.commit host p.options p.root) s (.error a) s') :
      FailsBefore host p w .lastCommit a s'
  | changes {a : Abort} {s s' : Session σ} (hpassed : Dated host p w s)
      (hfails : Ends (Preparation.changed host p.options p.root p.commit) s (.error a) s') :
      FailsBefore host p w .changes a s'
  | names {a : Abort} {s s' : Session σ} {changed : Git.Changed} (hpassed : Compared host p w changed s)
      (hfails : Ends (Preparation.names host p.options p.directory) s (.error a) s') :
      FailsBefore host p w .names a s'
  | paths {a : Abort} {s s' : Session σ} {changed : Git.Changed} (hpassed : Checked host p w changed s)
      (hfails : Ends (Preparation.targets host p.options p.directory changed) s (.error a) s') :
      FailsBefore host p w .paths a s'

/-- A run is prepared when all steps end well. -/
theorem prepare_ends_ok_iff {options : Options} {colour : Bool} {ts : Targets} :
    Ends (prepare host options colour) ⟨w, []⟩ (.ok (p, ts)) s' ↔
      p.options = options ∧ p.colour = (colour && !options.noColour) ∧ Targeted host p w ts s' := by
  rw [prepare_eq]
  constructor
  · intro h
    obtain ⟨directory, s₁, hdirectory, h⟩ := ends_bind_ok.mp h
    obtain ⟨root, s₂, hroot, h⟩ := ends_bind_ok.mp h
    obtain ⟨registry, s₃, hregistry, h⟩ := ends_bind_ok.mp h
    obtain ⟨commit, s₄, hcommit, h⟩ := ends_bind_ok.mp h
    obtain ⟨changed, s₅, hchanged, h⟩ := ends_bind_ok.mp h
    obtain ⟨_, s₆, hnames, h⟩ := ends_bind_ok.mp h
    obtain ⟨ts', s₇, hts, h⟩ := ends_bind_ok.mp h
    obtain ⟨hp, rfl⟩ := ends_pure.mp h
    cases hp
    exact ⟨rfl, rfl, changed, s₆,
      ⟨s₅, ⟨s₄, ⟨s₃, ⟨s₂, ⟨s₁, hdirectory, hroot⟩, hregistry⟩, hcommit⟩, hchanged⟩, hnames⟩, hts⟩
  · intro h
    obtain ⟨rfl, hcolour, changed, s₆, ⟨s₅, ⟨s₄, ⟨s₃, ⟨s₂, ⟨s₁, hdirectory, hroot⟩, hregistry⟩, hcommit⟩, hchanged⟩, hnames⟩,
      hts⟩ := h
    refine hdirectory.bind (hroot.bind (hregistry.bind (hcommit.bind (hchanged.bind (hnames.bind (hts.bind
      (ends_pure.mpr ⟨?_, rfl⟩)))))))
    rw [← hcolour]

/-- A run cannot be prepared when one of the steps fails, the first of them. -/
theorem prepare_ends_error_iff {options : Options} {colour : Bool} :
    Ends (prepare host options colour) ⟨w, []⟩ (.error a) s' ↔
      ∃ p step, p.options = options ∧ FailsBefore host p w step a s' := by
  rw [prepare_eq]
  constructor
  · intro h
    rcases ends_bind_error.mp h with h | ⟨directory, s₁, hdirectory, h⟩
    · exact ⟨⟨options, false, "", "", .empty, none⟩, .directory, rfl, .directory h⟩
    rcases ends_bind_error.mp h with h | ⟨root, s₂, hroot, h⟩
    · exact ⟨⟨options, false, directory, "", .empty, none⟩, .repository, rfl, .repository hdirectory h⟩
    have hlocated : Located host ⟨options, false, directory, root, .empty, none⟩ w s₂ := ⟨s₁, hdirectory, hroot⟩
    rcases ends_bind_error.mp h with h | ⟨registry, s₃, hregistry, h⟩
    · exact ⟨_, .configuration, rfl, .configuration hlocated h⟩
    have hconfigured : Configured host ⟨options, false, directory, root, registry, none⟩ w s₃ :=
      ⟨s₂, hlocated, hregistry⟩
    rcases ends_bind_error.mp h with h | ⟨commit, s₄, hcommit, h⟩
    · exact ⟨_, .lastCommit, rfl, .lastCommit hconfigured h⟩
    have hdated : Dated host ⟨options, false, directory, root, registry, commit⟩ w s₄ := ⟨s₃, hconfigured, hcommit⟩
    rcases ends_bind_error.mp h with h | ⟨changed, s₅, hchanged, h⟩
    · exact ⟨_, .changes, rfl, .changes hdated h⟩
    have hcompared : Compared host ⟨options, false, directory, root, registry, commit⟩ w changed s₅ :=
      ⟨s₄, hdated, hchanged⟩
    rcases ends_bind_error.mp h with h | ⟨_, s₆, hnames, h⟩
    · exact ⟨_, .names, rfl, .names hcompared h⟩
    rcases ends_bind_error.mp h with h | ⟨ts, s₇, hts, h⟩
    · exact ⟨_, .paths, rfl, .paths ⟨s₅, hcompared, hnames⟩ h⟩
    · cases (ends_pure.mp h).1
  · intro h
    obtain ⟨p, step, rfl, h⟩ := h
    cases h with
    | directory hfails => exact hfails.bind_error
    | repository hdirectory hfails => exact hdirectory.bind hfails.bind_error
    | configuration hpassed hfails =>
      obtain ⟨s₁, hdirectory, hroot⟩ := hpassed
      exact hdirectory.bind (hroot.bind hfails.bind_error)
    | lastCommit hpassed hfails =>
      obtain ⟨s₂, ⟨s₁, hdirectory, hroot⟩, hregistry⟩ := hpassed
      exact hdirectory.bind (hroot.bind (hregistry.bind hfails.bind_error))
    | changes hpassed hfails =>
      obtain ⟨s₃, ⟨s₂, ⟨s₁, hdirectory, hroot⟩, hregistry⟩, hcommit⟩ := hpassed
      exact hdirectory.bind (hroot.bind (hregistry.bind (hcommit.bind hfails.bind_error)))
    | names hpassed hfails =>
      obtain ⟨s₄, ⟨s₃, ⟨s₂, ⟨s₁, hdirectory, hroot⟩, hregistry⟩, hcommit⟩, hchanged⟩ := hpassed
      exact hdirectory.bind (hroot.bind (hregistry.bind (hcommit.bind (hchanged.bind hfails.bind_error))))
    | paths hpassed hfails =>
      obtain ⟨s₅, ⟨s₄, ⟨s₃, ⟨s₂, ⟨s₁, hdirectory, hroot⟩, hregistry⟩, hcommit⟩, hchanged⟩, hnames⟩ := hpassed
      exact hdirectory.bind (hroot.bind (hregistry.bind (hcommit.bind (hchanged.bind (hnames.bind hfails.bind_error)))))

/-! ## What the steps up to a point did -/

theorem FailsBefore.exitCode {step : Step} (h : FailsBefore host p w step a s') : a.exitCode = step.exitCode := by
  cases h with
  | directory hfails => exact Preparation.raises_directory _ _ _ hfails
  | repository _ hfails => exact Preparation.raises_root _ _ _ _ hfails
  | configuration _ hfails => exact Preparation.raises_registry _ _ _ _ hfails
  | lastCommit _ hfails => exact Preparation.raises_commit _ _ _ _ hfails
  | changes _ hfails => exact Preparation.raises_changed _ _ _ _ _ hfails
  | names _ hfails => exact Preparation.raises_names _ _ _ _ hfails
  | paths _ hfails => exact Preparation.raises_targets _ _ _ _ _ hfails

theorem Located.events (h : Located host p w s) : s.events.reverse = Step.repository.calls p := by
  obtain ⟨s₀, hdirectory, hroot⟩ := h
  rw [Preparation.adds_root _ _ _ _ hroot, Preparation.adds_directory _ _ _ hdirectory]
  rfl

theorem Configured.events (h : Configured host p w s) : s.events.reverse = Step.configuration.calls p := by
  obtain ⟨s₀, hlocated, hregistry⟩ := h
  rw [Preparation.adds_registry _ _ _ _ hregistry]
  exact hlocated.events

theorem Dated.events (h : Dated host p w s) : s.events.reverse =
    Step.calls.top p ++ if p.options.lastCommit then Step.calls.head p else [] := by
  obtain ⟨s₀, hconfigured, hcommit⟩ := h
  rw [Preparation.adds_commit _ _ _ _ hcommit, List.reverse_append, hconfigured.events]
  cases p.options.lastCommit
  · rfl
  · rfl

theorem Compared.events {changed : Git.Changed} (h : Compared host p w changed s) :
    s.events.reverse = Step.changes.calls p := by
  obtain ⟨s₀, hdated, hchanged⟩ := h
  rw [Preparation.adds_changed _ _ _ _ _ hchanged, List.reverse_append, hdated.events]
  rfl

theorem Checked.events {changed : Git.Changed} (h : Checked host p w changed s) :
    s.events.reverse = Step.names.calls p := by
  obtain ⟨s₀, hcompared, hnames⟩ := h
  rw [Preparation.adds_names _ _ _ _ hnames]
  exact hcompared.events

theorem Targeted.events {ts : Targets} (h : Targeted host p w ts s) : s.events.reverse = Step.paths.calls p := by
  obtain ⟨changed, s₀, hchecked, hts⟩ := h
  rw [Preparation.adds_targets _ _ _ _ _ hts]
  exact hchecked.events

/-- Up to the step that fails git is called as the steps ask, and nothing else happens. -/
theorem FailsBefore.events {step : Step} (h : FailsBefore host p w step a s') : s'.events.reverse = step.calls p := by
  cases h with
  | directory hfails =>
    rw [Preparation.adds_directory _ _ _ hfails]
    rfl
  | repository hpassed hfails =>
    rw [Preparation.adds_root _ _ _ _ hfails, Preparation.adds_directory _ _ _ hpassed]
    rfl
  | configuration hpassed hfails =>
    rw [Preparation.adds_registry _ _ _ _ hfails]
    exact hpassed.events
  | lastCommit hpassed hfails =>
    have hevents := Preparation.adds_commit _ _ _ _ hfails
    cases hlast : p.options.lastCommit
    · -- Where no commit is asked for, the step cannot fail.
      rw [Preparation.commit, hlast] at hfails
      cases (ends_pure.mp hfails).1
    · rw [hevents, hlast, List.reverse_append, hpassed.events]
      rfl
  | changes hpassed hfails =>
    rw [Preparation.adds_changed _ _ _ _ _ hfails, List.reverse_append, hpassed.events]
    rfl
  | names hpassed hfails =>
    rw [Preparation.adds_names _ _ _ _ hfails]
    exact hpassed.events
  | paths hpassed hfails =>
    rw [Preparation.adds_targets _ _ _ _ _ hfails]
    exact hpassed.events

/-! ## The order of the targets -/

theorem Git.changed_increasing {root : String} {trackedOnly : Bool} {commit : Option String} {changed : Git.Changed}
    (h : Ends (Git.changed host root trackedOnly commit) s (.ok changed) s') : Keyed.Increasing Path.order changed := by
  obtain ⟨text, -, rfl⟩ := Git.changed_ends_ok.mp h
  exact Keyed.increasing_ofList _

theorem Compared.increasing {changed : Git.Changed} (h : Compared host p w changed s) :
    Keyed.Increasing Path.order changed := by
  obtain ⟨s₀, -, hchanged⟩ := h
  exact Git.changed_increasing (ends_adapt_ok.mp hchanged)

/-- The targets stand in the order of their paths, each once. -/
theorem Targeted.increasing {ts : Targets} (h : Targeted host p w ts s) : Keyed.Increasing Path.order ts := by
  obtain ⟨changed, s₀, ⟨s₁, hcompared, -⟩, hts⟩ := h
  by_cases hnames : p.options.files = []
  · rw [Preparation.targets_eq_changed hnames] at hts
    cases (ends_pure.mp hts).1
    exact List.pairwise_map.mpr hcompared.increasing
  · rw [Preparation.targets_eq_known hnames] at hts
    obtain ⟨found, s₂, -, hdone⟩ := ends_bind_ok.mp hts
    cases (ends_pure.mp hdone).1
    exact Keyed.increasing_ofList _

end DeltaLint

import DeltaLint.Proofs.Git.Status
import DeltaLint.Proofs.Stopping

/-
  DeltaLint.Proofs.Coverage — a run over all changes, from git's account of them to the last linter.

  Without names a run handles what git's account tells of (`Git.Accounts`, `Plan.files`): each path once, with
  the change told last for it, in the order of the components of the paths (`Plan.Covers`). What it does for a file is a
  stretch of the log of the run (`Plan.log`). All files are absolute, so the last argument of a linter, which
  is the file, cannot be taken for an option.

  Proved:
  - `Git.accounts_iff`: what is read of an account is what it tells of by its grammar.
  - `Located.isRoot`: the root is the directory that git prints, without links where it can be resolved.
  - `Visits.handled`: the log of the targets, file by file.
  - `Targeted.covers`: the targets of a run without names cover the account.
  - `run_covers_changes`: a run that completes covers the account, with this log.
-/

namespace DeltaLint

open Job

variable {σ : Type} {host : Host σ} {p : Plan} {w : σ} {s s' : Session σ}

/-! ## The root -/

/-- The root is what git prints in the working directory, without links where it can be resolved. -/
def Host.IsRoot (host : Host σ) (w : σ) (root : String) : Prop :=
  ∃ directory reply w' top, host.workingDirectory w = .ok directory ∧
    host.git directory ["rev-parse", "--show-toplevel"] w = (.ok reply, w') ∧
    Git.trimmed? (Git.decoded reply.output) = some top ∧
    (host.canonical w' top = .ok root ∨ root = top ∧ ∃ fault, host.canonical w' top = .error fault)

/-- Git prints the root as an absolute path, and an absolute path is resolved to one. -/
structure Host.PrintsRoot (host : Host σ) (w : σ) : Prop where
  printed : ∀ directory reply w' top, host.workingDirectory w = .ok directory →
    host.git directory ["rev-parse", "--show-toplevel"] w = (.ok reply, w') →
    Git.trimmed? (Git.decoded reply.output) = some top → Path.isAbsolute top.toList = true
  resolved : ∀ w' top real, Path.isAbsolute top.toList = true → host.canonical w' top = .ok real →
    Path.isAbsolute real.toList = true

theorem Host.IsRoot.isAbsolute {root : String} (h : host.IsRoot w root) (hprints : host.PrintsRoot w) :
    Path.isAbsolute root.toList = true := by
  obtain ⟨directory, reply, w', top, hdirectory, hgit, htop, hroot⟩ := h
  have habsolute := hprints.printed directory reply w' top hdirectory hgit htop
  rcases hroot with hreal | ⟨rfl, -⟩
  · exact hprints.resolved w' top root habsolute hreal
  · exact habsolute

/-- The root that was found is the one that git prints. -/
theorem Located.isRoot (h : Located host p w s) : host.IsRoot w p.root := by
  obtain ⟨s₀, hfound, hroot⟩ := h
  obtain ⟨hdirectory, rfl⟩ := Preparation.directory_ends_ok.mp hfound
  obtain ⟨top, s₁, htop, hroot⟩ := ends_bind_ok.mp hroot
  cases top with
  | none => cases (ends_throw.mp hroot).1
  | some top =>
    obtain ⟨text, htext, htrimmed⟩ := Git.root?_ends_ok (ends_adapt_ok.mp htop)
    obtain ⟨reply, hgit, -, rfl, -⟩ := Git.output_ends_ok.mp htext
    obtain ⟨answer, s₂, hask, hroot⟩ := ends_bind_ok.mp hroot
    obtain ⟨hanswer, rfl⟩ := ends_ask.mp hask
    refine ⟨p.directory, reply, s₂.world, top, hdirectory, hgit, htrimmed, ?_⟩
    rw [← Except.ok.inj hanswer]
    cases answer with
    | error fault => exact Or.inr ⟨Except.ok.inj (ends_pure.mp hroot).1, fault, rfl⟩
    | ok real => exact Or.inl (congrArg _ (Except.ok.inj (ends_pure.mp hroot).1).symm)

/-! ## What is done for a file -/

/-- A file that was handled, with the linters that were started on it. -/
structure Handled where
  file : String
  change : Option Change
  outcome : Outcome
  started : List Linter

def Handled.target (v : Handled) : String × Option Change := (v.file, v.change)

/-- The call of git for the blame of a file. -/
def Plan.blame (p : Plan) (file : String) : Event := .git p.root ["blame", "--porcelain", "--", file]

/-- What git is asked about a file: its blame, where it counts line by line. -/
def Plan.asks (p : Plan) (file : String) (change : Option Change) : List Event :=
  if p.options.force = false ∧ change = some .modified then [p.blame file] else []

/-- A line that is said where the report is text. -/
def Plan.said (p : Plan) (text : String) : List Event := if p.options.json then [] else [.printed text]

/-- What happens for a file, in order. -/
def Plan.log (p : Plan) (v : Handled) : List Event :=
  p.said (p.header v.file) ++ p.asks v.file v.change ++ v.started.map (·.start v.file) ++
    p.said (Report.status p.colour v.outcome)

def Plan.report (p : Plan) (v : Handled) : Report.Entry := ⟨Path.shown v.file p.directory, v.outcome⟩

theorem Plan.events_say (p : Plan) (text : String) (s : Session σ) :
    (p.say text s).events.reverse = s.events.reverse ++ p.said text := by
  unfold Plan.say Plan.said
  split
  · exact (List.append_nil _).symm
  · exact List.reverse_cons

theorem Git.Blamed.events {root file text : String} (h : Git.Blamed host root file s text s') :
    s'.events = .git root ["blame", "--porcelain", "--", file] :: s.events := by
  cases h
  rfl

theorem Plan.asks_of_force (p : Plan) (file : String) (hforce : p.options.force = false) :
    p.asks file (some .modified) = [p.blame file] := if_pos ⟨hforce, rfl⟩

theorem Plan.asks_of_whole (p : Plan) (file : String) {change : Option Change}
    (h : p.options.force = true ∨ change ≠ some .modified) : p.asks file change = [] := by
  refine if_neg fun hasks => ?_
  rcases h with hforce | hchange
  · rw [hforce] at hasks
    cases hasks.1
  · exact hchange hasks.2

/-- A visit asks for the blame where it is needed, and then starts the linters of the extension or none. -/
theorem Visit.events {file : String} {change : Option Change} {outcome : Outcome}
    (h : Visit host p file change s outcome s') :
    ∃ started, (started = [] ∨ p.registry.get? (Path.extension file) = some started) ∧
      s'.events.reverse = s.events.reverse ++ (p.asks file change ++ started.map (·.start file)) := by
  cases h with
  | removals hforce _ hblame _ =>
    refine ⟨[], Or.inl rfl, ?_⟩
    rw [hblame.events, p.asks_of_force file hforce]
    exact List.reverse_cons
  | changes hforce hl hblame _ _ _ hfound _ =>
    refine ⟨_, Or.inr hl, ?_⟩
    rw [hfound.events, hblame.events, p.asks_of_force file hforce]
    simp [Plan.blame]
  | whole hwhole hl hfound _ =>
    refine ⟨_, Or.inr hl, ?_⟩
    rw [hfound.events, p.asks_of_whole file hwhole]
    simp
  | unlinted _ hasked =>
    refine ⟨[], Or.inl rfl, ?_⟩
    rcases hasked with ⟨rfl, hwhole⟩ | ⟨hforce, rfl, text, hblame⟩
    · rw [p.asks_of_whole file hwhole]
      simp
    · rw [hblame.events, p.asks_of_force file hforce]
      exact List.reverse_cons

/-- The log of the targets, file by file. -/
theorem Visits.handled {ts : Targets} {reports : List Report.Entry} (h : Visits host p ts s reports s') :
    ∃ vs : List Handled, vs.map (·.target) = ts ∧ vs.map p.report = reports ∧
      (∀ v ∈ vs, v.started = [] ∨ p.registry.get? (Path.extension v.file) = some v.started) ∧
      s'.events.reverse = s.events.reverse ++ vs.flatMap p.log := by
  induction h with
  | done s => exact ⟨[], rfl, rfl, by simp, by simp⟩
  | @next file change ts s s₁ s' outcome reports hvisit _ ih =>
    obtain ⟨started, hstarted, hevents⟩ := hvisit.events
    obtain ⟨vs, rfl, rfl, hall, hrest⟩ := ih
    refine ⟨⟨file, change, outcome, started⟩ :: vs, rfl, rfl, List.forall_mem_cons.mpr ⟨hstarted, hall⟩, ?_⟩
    rw [hrest, Plan.events_say, hevents, Plan.events_say, List.flatMap_cons, Plan.log]
    simp [Plan.header]

/-! ## What the log says -/

def Event.isGit : Event → Bool
  | .git _ _ => true
  | _ => false

theorem Plan.mem_said {text : String} {e : Event} (h : e ∈ p.said text) : e = .printed text := by
  unfold Plan.said at h
  split at h
  · cases h
  · exact List.mem_singleton.mp h

theorem Plan.mem_asks {file : String} {change : Option Change} {e : Event} (h : e ∈ p.asks file change) :
    e = p.blame file := by
  unfold Plan.asks at h
  split at h
  · exact List.mem_singleton.mp h
  · cases h

/-- Of the log of a file only the question for its blame is a call of git. -/
theorem Plan.filter_isGit_log (p : Plan) (v : Handled) : (p.log v).filter Event.isGit = p.asks v.file v.change := by
  have hsaid : ∀ text, (p.said text).filter Event.isGit = [] := fun text =>
    List.filter_eq_nil_iff.mpr fun e he => by simp [Plan.mem_said he, Event.isGit]
  have hasks : (p.asks v.file v.change).filter Event.isGit = p.asks v.file v.change :=
    List.filter_eq_self.mpr fun e he => by rw [Plan.mem_asks he]; rfl
  have hstarted : (v.started.map (·.start v.file)).filter Event.isGit = [] := by
    simp [Linter.start, Event.isGit]
  rw [Plan.log]
  simp only [List.filter_append, hsaid, hasks, hstarted, List.nil_append, List.append_nil]

theorem Step.filter_isGit_calls (p : Plan) : (Step.paths.calls p).filter Event.isGit = Step.paths.calls p := by
  refine List.filter_eq_self.mpr fun e he => ?_
  simp only [Step.calls, Step.calls.top, Step.calls.head, List.mem_append, List.mem_singleton] at he
  rcases he with (rfl | he) | rfl
  · rfl
  · split at he
    · rw [List.mem_singleton.mp he]
      rfl
    · cases he
  · rfl

/-- Git is asked for the blame of the modified files, in order, unless all lines count. -/
theorem Plan.flatMap_asks (p : Plan) (vs : List Handled) : (vs.flatMap fun v => p.asks v.file v.change) =
    if p.options.force then [] else (vs.filter (·.change = some .modified)).map (p.blame ·.file) := by
  cases hforce : p.options.force with
  | true => simp [Plan.asks, hforce]
  | false =>
    induction vs with
    | nil => rfl
    | cons v vs ih =>
      rw [List.flatMap_cons, ih, Plan.asks]
      by_cases hchange : v.change = some .modified
      · simp [hforce, hchange]
      · simp [hchange]

/-- What is started for a file is one of its linters, with the file after its arguments. -/
theorem Plan.launched_of_mem_log {v : Handled} {program : String} {arguments : List String}
    (h : .launched program arguments ∈ p.log v) :
    ∃ l ∈ v.started, l.program = program ∧ arguments = l.arguments ++ [v.file] := by
  have hsaid : ∀ text, .launched program arguments ∉ p.said text := fun text hmem => by cases Plan.mem_said hmem
  have hasks : .launched program arguments ∉ p.asks v.file v.change := fun hmem => by cases Plan.mem_asks hmem
  simp only [Plan.log, List.mem_append, hsaid, hasks, false_or, or_false, List.mem_map] at h
  obtain ⟨l, hl, heq⟩ := h
  cases heq
  exact ⟨l, hl, rfl, rfl⟩

/-! ## Which files -/

/-- What an account tells of, by the grammar of its lines: the changes of a commit, or else those not committed yet,
without the files that git does not track where only tracked ones count. -/
def Git.Accounts (tracked : Bool) (commit : Option String) (account : String) (es : List (String × Change)) : Prop :=
  ∃ ls, Text.IsLines account.toList ls ∧
    match commit with
    | some _ => Told IsTreeEntry ls es
    | none => ∃ all, Tells ls all ∧ es = all.filter fun e => !(tracked && e.2 == .untracked)

/-- What is read of an account is what it tells of. -/
theorem Git.accounts_iff {tracked : Bool} {commit : Option String} {account : String} {es : List (String × Change)} :
    Accounts tracked commit account es ↔ es = entries tracked commit account := by
  cases commit with
  | some commit => exact commitEntries_iff.symm
  | none =>
    simp only [Accounts, Text.isLines_iff, tells_iff, exists_eq_left, entries]
    rw [statusEntries_eq_filter, statusEntries_all]

/-- The files that the entries of an account name in the repository, in its order. -/
def Plan.files (p : Plan) (es : List (String × Change)) : List (String × Change) :=
  es.map fun (name, change) => (Path.join p.root name, change)

/-- What is handled covers the entries of git's account. -/
structure Plan.Covers (p : Plan) (es : List (String × Change)) (ts : Targets) : Prop where
  /-- The paths increase, so none comes twice. -/
  increasing : Keyed.Increasing Path.order ts
  /-- A file has the change of its last entry in the account. -/
  last : ∀ file change, (file, change) ∈ ts ↔ ∃ c before after, change = some c ∧
    p.files es = before ++ (file, c) :: after ∧
    ∀ later ∈ after, Path.components later.1.toList ≠ Path.components file.toList
  all : ∀ e ∈ p.files es, ∃ t ∈ ts, Path.components t.1.toList = Path.components e.1.toList
  absolute : ∀ t ∈ ts, Path.isAbsolute t.1.toList = true

theorem Plan.isAbsolute_files {es : List (String × Change)} (hroot : Path.isAbsolute p.root.toList = true)
    {e : String × Change} (he : e ∈ p.files es) : Path.isAbsolute e.1.toList = true := by
  obtain ⟨⟨name, change⟩, -, rfl⟩ := List.mem_map.mp he
  exact Path.isAbsolute_join hroot name

/-- The entries of an account, each path once, cover it. -/
theorem Plan.covers_ofList (es : List (String × Change)) (hroot : Path.isAbsolute p.root.toList = true) :
    p.Covers es ((Keyed.ofList Path.order (p.files es)).map fun (file, change) => (file, some change)) := by
  refine ⟨List.pairwise_map.mpr (Keyed.increasing_ofList _), fun file change => ?_, fun e he => ?_, fun t ht => ?_⟩
  · simp only [List.mem_map, Keyed.mem_ofList_iff, ne_eq, Path.order_eq_iff]
    constructor
    · rintro ⟨⟨file', c⟩, ⟨before, after, hfiles, hafter⟩, heq⟩
      cases heq
      exact ⟨c, before, after, rfl, hfiles, hafter⟩
    · rintro ⟨c, before, after, rfl, hfiles, hafter⟩
      exact ⟨(file, c), ⟨before, after, hfiles, hafter⟩, rfl⟩
  · obtain ⟨e', he', hsame⟩ :=
      Keyed.exists_mem_ofList (fun path => Path.components path.toList) (fun _ _ => Path.order_eq_iff) he
    exact ⟨_, List.mem_map_of_mem he', hsame⟩
  · obtain ⟨e, he, rfl⟩ := List.mem_map.mp ht
    exact p.isAbsolute_files hroot (Keyed.mem_of_mem_ofList he)

/-- A commit is looked at exactly where the last one is asked for. -/
theorem Dated.commit_isSome (h : Dated host p w s) : p.commit.isSome = p.options.lastCommit := by
  obtain ⟨s₀, -, hcommit⟩ := h
  have hlast := Preparation.commit_ends_ok hcommit
  split at hlast
  · rename_i hasked
    rw [hlast.1, hasked]
  · rename_i hasked
    rw [hlast.1]
    simpa using hasked

theorem Dated.isRoot (h : Dated host p w s) : host.IsRoot w p.root := by
  obtain ⟨_, ⟨_, hlocated, -⟩, -⟩ := h
  exact hlocated.isRoot

/-- The targets of a run without names cover what git answered. -/
theorem Targeted.covers {ts : Targets} (h : Targeted host p w ts s) (hnames : p.options.files = [])
    (hprints : host.PrintsRoot w) :
    ∃ account es s₀ s₁, Dated host p w s₀ ∧ Ends (Git.output host p.root (Git.listing p.commit)) s₀ (.ok account) s₁ ∧
      Git.Accounts p.options.tracked p.commit account es ∧ p.Covers es ts := by
  obtain ⟨changed, s₁, ⟨s₂, ⟨s₃, hdated, hchanged⟩, -⟩, hts⟩ := h
  obtain ⟨account, haccount, rfl⟩ := Git.changed_ends_ok.mp (ends_adapt_ok.mp hchanged)
  rw [Preparation.targets_eq_changed hnames] at hts
  cases (ends_pure.mp hts).1
  exact ⟨account, _, s₃, s₂, hdated, haccount, Git.accounts_iff.mpr rfl,
    p.covers_ofList _ (hdated.isRoot.isAbsolute hprints)⟩

/-! ## The run -/

/-- A run without names that completes, in a repository whose root git prints as an absolute path, covers what git's
account of the changes tells of, line by line: each file once, with its last change, in the order of the components. The
log of the run is that of preparing it and then that of the files in this order. So git is asked for the blame of the
modified files in this order, or of none where all lines count; and what a linter is given last is the file, a path that
begins with a slash. -/
theorem run_covers_changes {options : Options} {colour : Bool} {status : Nat} (hnames : options.files = [])
    (hprints : host.PrintsRoot w) (h : (run host options colour).runOn w = (.ok status, s')) :
    ∃ (p : Plan) (account : String) (es : List (String × Change)) (s₀ s₁ : Session σ) (vs : List Handled),
      p.options = options ∧ host.IsRoot w p.root ∧ p.commit.isSome = options.lastCommit ∧
      Dated host p w s₀ ∧ Ends (Git.output host p.root (Git.listing p.commit)) s₀ (.ok account) s₁ ∧
      Git.Accounts options.tracked p.commit account es ∧
      (∀ name, Path.isAbsolute name.toList = false →
        Path.components (Path.join p.root name).toList = Path.components p.root.toList ++ Path.body name.toList) ∧
      p.Covers es (vs.map Handled.target) ∧ s'.printedLines = p.reportLines (vs.map p.report) ∧
      s'.events.reverse = Step.paths.calls p ++ vs.flatMap p.log ++
        (if options.json then [.printed (Report.json options.pretty (vs.map p.report))] else []) ∧
      (∀ v ∈ vs, v.started = [] ∨ p.registry.get? (Path.extension v.file) = some v.started) ∧
      s'.events.reverse.filter Event.isGit = Step.paths.calls p ++
        (if options.force then [] else (vs.filter (·.change = some .modified)).map (p.blame ·.file)) ∧
      ∀ program arguments, .launched program arguments ∈ s'.events → ∃ v ∈ vs, ∃ l ∈ v.started,
        l.program = program ∧ arguments = l.arguments ++ [v.file] ∧ v.file.toList.head? = some '/' := by
  obtain ⟨⟨p, ts⟩, s₀, hprepare, hrest⟩ := ends_bind_ok.mp h
  obtain ⟨reports, s₁, hreports, hend⟩ := ends_bind_ok.mp hrest
  have hconclusion : Ends (conclusion options reports) s₁ (.ok status) s' := hend
  obtain ⟨hoptions, -, htargets⟩ := prepare_ends_ok_iff.mp hprepare
  have hvisits := visits_of_ends_ok hreports
  obtain ⟨vs, hvs, hrs, hstarted, hlog⟩ := hvisits.handled
  subst hoptions hvs hrs
  have hevents : s'.events.reverse = Step.paths.calls p ++ vs.flatMap p.log ++
      (if p.options.json then [.printed (Report.json p.options.pretty (vs.map p.report))] else []) := by
    rw [conclusion_events hconclusion, hlog, htargets.events]
  obtain ⟨account, es, s₂, s₃, hdated, haccount, htold, hcovers⟩ := htargets.covers hnames hprints
  refine ⟨p, account, es, s₂, s₃, vs, rfl, hdated.isRoot, hdated.commit_isSome, hdated, haccount, htold,
    fun name hname => Path.components_join (hdated.isRoot.isAbsolute hprints) hname, hcovers, ?_, hevents, hstarted, ?_, ?_⟩
  · rw [conclusion_printedLines hconclusion, hvisits.printedLines, silent_prepare _ _ _ _ _ hprepare]
    unfold Plan.reportLines
    cases p.options.json
    · simp [Session.printedLines]
    · rfl
  · have hprinted : (if p.options.json then [.printed (Report.json p.options.pretty (vs.map p.report))]
        else [] : List Event).filter Event.isGit = [] := by
      split
      · rfl
      · rfl
    rw [hevents, List.filter_append, List.filter_append, hprinted, Step.filter_isGit_calls, List.filter_flatMap,
      List.append_nil]
    simp only [Plan.filter_isGit_log, Plan.flatMap_asks]
  · intro program arguments hmem
    rw [← List.mem_reverse, hevents] at hmem
    rcases List.mem_append.mp hmem with hmem | hmem
    · rcases List.mem_append.mp hmem with hmem | hmem
      · cases List.filter_eq_self.mp (Step.filter_isGit_calls p) _ hmem
      · obtain ⟨v, hv, hmem⟩ := List.mem_flatMap.mp hmem
        obtain ⟨l, hl, hprogram, harguments⟩ := Plan.launched_of_mem_log hmem
        have habsolute := hcovers.absolute v.target (List.mem_map_of_mem hv)
        exact ⟨v, hv, l, hl, hprogram, harguments, beq_iff_eq.mp habsolute⟩
    · split at hmem
      · cases List.mem_singleton.mp hmem
      · cases hmem

/-- What git says of the changes: by its status, or by the changes of the commit. -/
def mixedAccount : Option String → String
  | none => "?? a.py\n M a/x.py\n M c.py\n D d.py\nA  c.py\n"
  | some _ => "A\ta.py\nM\ta/x.py\nD\td.py\nM\t\"\\303\\244.py\"\nA\tc.py\nM\tc.py\n"

/-- A repository with changed files, of which git lists one twice. A slash comes before a dot in the order of components,
and after it among characters. -/
def mixedHost : Host Unit where
  workingDirectory _ := .ok "/r"
  isFile _ _ := false
  canonical _ path := .ok path
  readText _ _ := .error .notFound
  git _ arguments w :=
    (.ok ⟨Text.Utf8.encode (match arguments with
      | ["rev-parse", "HEAD"] => "c0ffee\n"
      | "rev-parse" :: _ => "/r\n"
      | "status" :: _ => mixedAccount none
      | "diff-tree" :: _ => mixedAccount (some "c0ffee")
      | _ => "").toList, [], true⟩, w)
  launch _ _ w := (.ok ⟨"bad", some 1⟩, w)

theorem mixed_printsRoot : mixedHost.PrintsRoot () := by
  have htop : Git.trimmed? (Git.decoded (Text.Utf8.encode "/r\n".toList)) = some "/r" := by decide +kernel
  refine ⟨fun directory reply w' top _ hgit htrimmed => ?_, fun w' top real habsolute hreal => ?_⟩
  · cases hgit
    cases htop.symm.trans htrimmed
    decide
  · cases hreal
    exact habsolute

theorem mixed_account {root account : String} {commit : Option String} {s s' : Session Unit}
    (h : Ends (Git.output mixedHost root (Git.listing commit)) s (.ok account) s') : account = mixedAccount commit := by
  obtain ⟨reply, hgit, -, rfl, -⟩ := Git.output_ends_ok.mp h
  cases commit with
  | none =>
    cases hgit
    rw [Git.decoded, Text.Utf8.decode_encode, String.ofList_toList]
    rfl
  | some commit =>
    cases hgit
    rw [Git.decoded, Text.Utf8.decode_encode, String.ofList_toList]
    rfl

theorem mixed_entries {root account : String} {commit : Option String} {es : List (String × Change)} {s s' : Session Unit}
    (h : Ends (Git.output mixedHost root (Git.listing commit)) s (.ok account) s')
    (hes : Git.Accounts false commit account es) : es = Git.entries false commit (mixedAccount commit) := by
  rw [Git.accounts_iff.mp hes, mixed_account h]

/-- A run over what is not committed, and one over the last commit. -/
theorem run_covers_mixed :
    (∃ (p : Plan) (s' : Session Unit) (vs : List Handled), (run mixedHost {} false).runOn () = (.ok 1, s') ∧
      p.Covers [("a.py", .untracked), ("a/x.py", .modified), ("c.py", .modified), ("c.py", .added)] (vs.map Handled.target) ∧
      s'.printedLines = p.reportLines (vs.map p.report) ∧
      s'.printedLines = ["Linting file: a/x.py", "OK", "Linting file: a.py", "ERROR\nbad\nbad", "Linting file: c.py",
        "ERROR\nbad\nbad"] ∧
      s'.events.reverse.filter Event.isGit = [.git "/r" ["rev-parse", "--show-toplevel"],
        .git "/r" ["status", "--porcelain", "--untracked-files=all", "--ignore-submodules=all"],
        .git "/r" ["blame", "--porcelain", "--", "/r/a/x.py"]]) ∧
    ∃ (p : Plan) (s' : Session Unit) (vs : List Handled),
      (run mixedHost { lastCommit := true } false).runOn () = (.ok 1, s') ∧
      p.Covers [("a.py", .added), ("a/x.py", .modified), ("\u00E4.py", .modified), ("c.py", .added), ("c.py", .modified)]
        (vs.map Handled.target) ∧
      s'.printedLines = p.reportLines (vs.map p.report) ∧
      s'.printedLines = ["Linting file: a/x.py", "OK", "Linting file: a.py", "ERROR\nbad\nbad", "Linting file: c.py", "OK",
        "Linting file: \u00E4.py", "OK"] ∧
      s'.events.reverse.filter Event.isGit = [.git "/r" ["rev-parse", "--show-toplevel"], .git "/r" ["rev-parse", "HEAD"],
        .git "/r" ["diff-tree", "-r", "--root", "--no-commit-id", "--name-status", "c0ffee"],
        .git "/r" ["blame", "--porcelain", "--", "/r/a/x.py"], .git "/r" ["blame", "--porcelain", "--", "/r/c.py"],
        .git "/r" ["blame", "--porcelain", "--", "/r/\u00E4.py"]] := by
  constructor
  · have hok : ((run mixedHost {} false).runOn ()).1.toOption = some 1 := by decide +kernel
    have hprinted : ((run mixedHost {} false).runOn ()).2.printedLines = ["Linting file: a/x.py", "OK",
        "Linting file: a.py", "ERROR\nbad\nbad", "Linting file: c.py", "ERROR\nbad\nbad"] := by decide +kernel
    have hgit : ((run mixedHost {} false).runOn ()).2.events.reverse.filter Event.isGit =
        [.git "/r" ["rev-parse", "--show-toplevel"],
          .git "/r" ["status", "--porcelain", "--untracked-files=all", "--ignore-submodules=all"],
          .git "/r" ["blame", "--porcelain", "--", "/r/a/x.py"]] := by decide +kernel
    have htold : Git.entries false none (mixedAccount none) =
        [("a.py", .untracked), ("a/x.py", .modified), ("c.py", .modified), ("c.py", .added)] := by decide +kernel
    generalize hend : (run mixedHost {} false).runOn () = q at hok hprinted hgit
    rcases q with ⟨e | status, s'⟩
    · cases hok
    · cases hok
      obtain ⟨p, account, es, s₀, s₁, vs, -, -, hcommit, -, haccount, hes, -, hcovers, hlines, -⟩ :=
        run_covers_changes rfl mixed_printsRoot hend
      obtain hnone : p.commit = none := by simpa using hcommit
      rw [hnone] at haccount hes
      rw [mixed_entries haccount hes, htold] at hcovers
      exact ⟨p, s', vs, rfl, hcovers, hlines, hprinted, hgit⟩
  · have hok : ((run mixedHost { lastCommit := true } false).runOn ()).1.toOption = some 1 := by decide +kernel
    have hprinted : ((run mixedHost { lastCommit := true } false).runOn ()).2.printedLines = ["Linting file: a/x.py",
        "OK", "Linting file: a.py", "ERROR\nbad\nbad", "Linting file: c.py", "OK", "Linting file: \u00E4.py", "OK"] := by
      decide +kernel
    have hgit : ((run mixedHost { lastCommit := true } false).runOn ()).2.events.reverse.filter Event.isGit =
        [.git "/r" ["rev-parse", "--show-toplevel"], .git "/r" ["rev-parse", "HEAD"],
          .git "/r" ["diff-tree", "-r", "--root", "--no-commit-id", "--name-status", "c0ffee"],
          .git "/r" ["blame", "--porcelain", "--", "/r/a/x.py"], .git "/r" ["blame", "--porcelain", "--", "/r/c.py"],
          .git "/r" ["blame", "--porcelain", "--", "/r/\u00E4.py"]] := by decide +kernel
    have htold : Git.commitEntries (mixedAccount (some "c0ffee")) =
        [("a.py", .added), ("a/x.py", .modified), ("\u00E4.py", .modified), ("c.py", .added), ("c.py", .modified)] := by
      decide +kernel
    generalize hend : (run mixedHost { lastCommit := true } false).runOn () = q at hok hprinted hgit
    rcases q with ⟨e | status, s'⟩
    · cases hok
    · cases hok
      obtain ⟨p, account, es, s₀, s₁, vs, -, -, hcommit, -, haccount, hes, -, hcovers, hlines, -⟩ :=
        run_covers_changes rfl mixed_printsRoot hend
      obtain ⟨commit, hsome⟩ := Option.isSome_iff_exists.mp hcommit
      rw [hsome] at haccount hes
      have hread : es = Git.commitEntries (mixedAccount (some "c0ffee")) := mixed_entries haccount hes
      rw [hread, htold] at hcovers
      exact ⟨p, s', vs, rfl, hcovers, hlines, hprinted, hgit⟩

end DeltaLint

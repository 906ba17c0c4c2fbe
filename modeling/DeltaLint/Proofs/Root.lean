import DeltaLint.Proofs.Named

/-
  DeltaLint.Proofs.Root — the root that a run takes from git's answer, and where the run goes from there.

  Git prints the path of the top directory with a line feed after it. The answer is taken without the white
  space at its ends, and so is a path that ends in white space: then another directory is taken for the root
  (`Git.rootOf`). The configuration is looked up there, and git is called nowhere else (`Host.RunsAt`).

  Proved:
  - `Git.root?_ends`: the root is the printed path without white space at its end.
  - `Plan.keeps_elsewhere`: what is left of a run calls git in its root only.
  - `run_at_printed_root`: which root a run takes, and that it stays there.
-/

namespace DeltaLint

open Job

variable {σ : Type} {host : Host σ} {p : Plan} {options : Options} {colour : Bool}

/-! ## The root -/

/-- Asked in the directory that the run works in, git prints the path with a line feed after it. -/
structure Host.PrintsTop (host : Host σ) (w : σ) (directory top : String) (w' : σ) : Prop where
  working : host.workingDirectory w = .ok directory
  printed : ∃ errors, host.git directory ["rev-parse", "--show-toplevel"] w =
    (.ok ⟨Text.Utf8.encode (top.toList ++ ['\n']), errors, true⟩, w')

/-- The path without white space at its end. -/
def Git.rootOf (top : String) : String := String.ofList (Unicode.trimRight top.toList)

/-- The question for the top directory. -/
def Git.topCall (directory : String) : Event := .git directory ["rev-parse", "--show-toplevel"]

theorem Git.rootOf_eq_self_iff {top : String} :
    rootOf top = top ↔ ∀ c, top.toList.getLast? = some c → Unicode.isBlank c = false := by
  rw [← Unicode.trimRight_eq_self_iff, rootOf, ← String.toList_inj, String.toList_ofList]

theorem Git.trimmed?_printed {top : String} (habsolute : Path.isAbsolute top.toList = true) :
    trimmed? (decoded (Text.Utf8.encode (top.toList ++ ['\n']))) = some (rootOf top) := by
  obtain ⟨rest, htop⟩ : ∃ rest, top.toList = '/' :: rest := List.head?_eq_some_iff.mp (beq_iff_eq.mp habsolute)
  have hslash : Unicode.isBlank '/' = false := by decide
  have htrim : Unicode.trim (top.toList ++ ['\n']) = Unicode.trimRight top.toList := by
    rw [htop]
    exact Unicode.trim_concat hslash (by decide) rest
  have hne : Unicode.trim (top.toList ++ ['\n']) ≠ [] := by
    rw [Ne, Unicode.trim_eq_nil_iff, htop]
    intro hblank
    rw [hblank '/' (by simp)] at hslash
    cases hslash
  rw [trimmed?, decoded, Text.Utf8.decode_encode, String.toList_ofList]
  simp only [List.isEmpty_iff, hne, if_false]
  rw [htrim, rootOf]

/-- The root is the printed path without white space at its end. -/
theorem Git.root?_ends {w w' : σ} {directory top : String} (htop : host.PrintsTop w directory top w')
    (habsolute : Path.isAbsolute top.toList = true) (events : List Event) :
    Ends (root? host directory) ⟨w, events⟩ (.ok (some (rootOf top))) ⟨w', topCall directory :: events⟩ := by
  obtain ⟨errors, hgit⟩ := htop.printed
  have hasked : Ends (output host directory ["rev-parse", "--show-toplevel"]) ⟨w, events⟩
      (.ok (decoded (Text.Utf8.encode (top.toList ++ ['\n'])))) ⟨w', topCall directory :: events⟩ :=
    output_ends_ok.mpr ⟨_, hgit, rfl, rfl, rfl⟩
  refine Ends.bind (ends_catch.mpr (Or.inl ⟨_, hasked.bind (ends_pure.mpr ⟨rfl, rfl⟩), rfl⟩)) ?_
  rw [trimmed?_printed habsolute]
  exact ends_pure.mpr ⟨rfl, rfl⟩

/-- The path without links, or as it is where it cannot be resolved. -/
def Host.resolved (host : Host σ) (v : σ) (path : String) : String :=
  match host.canonical v path with
  | .ok real => real
  | .error _ => path

theorem Preparation.root_ends {w w' : σ} {directory top : String} (htop : host.PrintsTop w directory top w')
    (habsolute : Path.isAbsolute top.toList = true) :
    Ends (root host directory) ⟨w, []⟩ (.ok (host.resolved w' (Git.rootOf top))) ⟨w', [Git.topCall directory]⟩ := by
  refine Ends.bind (ends_adapt_ok.mpr (Git.root?_ends htop habsolute [])) ?_
  refine Ends.bind (ends_ask.mpr ⟨rfl, rfl⟩) ?_
  unfold Host.resolved
  cases host.canonical w' (Git.rootOf top) with
  | ok real => exact ends_pure.mpr ⟨rfl, rfl⟩
  | error fault => exact ends_pure.mpr ⟨rfl, rfl⟩

/-! ## Calls of git -/

/-- The calls of git in other directories. -/
def Session.elsewhere (root : String) (s : Session σ) : List (String × List String) :=
  s.events.reverse.filterMap fun
    | .git directory arguments => if directory = root then none else some (directory, arguments)
    | _ => none

theorem Session.mem_elsewhere_iff {root d : String} {arguments : List String} {s : Session σ} :
    (d, arguments) ∈ s.elsewhere root ↔ .git d arguments ∈ s.events ∧ d ≠ root := by
  simp only [elsewhere, List.mem_filterMap, List.mem_reverse]
  constructor
  · rintro ⟨event, hevent, heq⟩
    cases event with
    | printed => cases heq
    | git d' arguments' =>
      dsimp only at heq
      split at heq
      · cases heq
      · rename_i hd
        cases heq
        exact ⟨hevent, hd⟩
    | launched => cases heq
  · intro h
    exact ⟨.git d arguments, h.1, if_neg h.2⟩

theorem Job.Adds.elsewhere {ε α : Type} {root : String} {events : List Event} {job : Job σ ε α} (h : Adds events job)
    (hroot : ∀ directory arguments, .git directory arguments ∈ events → directory = root) :
    Keeps (Session.elsewhere root) job := by
  refine h.keeps fun event hevent => ?_
  cases event with
  | printed => rfl
  | git directory arguments => exact if_pos (hroot directory arguments hevent)
  | launched => rfl

theorem keeps_elsewhere_print {ε : Type} (root text : String) :
    Keeps (Session.elsewhere root) (Job.print text : Job σ ε Unit) :=
  (adds_print text).elsewhere (by simp)

theorem keeps_elsewhere_lint (root : String) (registry : Registry) (file : String) (lines : Option (List Nat)) :
    Keeps (Session.elsewhere root) (lint host registry file lines) := by
  simp only [lint]
  split
  · exact keeps_pure _
  · refine (keeps_mapM (fun l => ?_) _).bind fun outputs => keeps_pure _
    refine ((adds_act _ _).elsewhere (by simp)).bind fun captured => ?_
    split
    · exact keeps_throw _
    · exact keeps_mk_pure _

namespace Plan

theorem keeps_elsewhere_changedLines (file : String) (change : Option Change) :
    Keeps (Session.elsewhere p.root) (p.changedLines host file change) := by
  unfold changedLines
  split
  · exact keeps_pure _
  · refine Keeps.adapt ?_
    unfold Git.changedLines
    split
    · exact keeps_pure _
    · exact ((Git.adds_output _ _).elsewhere (by simp)).bind fun text => keeps_pure _

theorem keeps_elsewhere_conclude (root file shown : String) (lines : Option (List Nat)) :
    Keeps (Session.elsewhere root) (p.conclude host file shown lines) := by
  have hsay : ∀ outcome : Outcome, Keeps (Session.elsewhere root)
      (if (!p.options.json) = true then
        Job.print (Report.status p.colour outcome) >>= fun _ => pure (⟨shown, outcome⟩ : Report.Entry)
      else pure ⟨shown, outcome⟩ : Job σ Abort Report.Entry) := by
    intro outcome
    split
    · exact (keeps_elsewhere_print _ _).bind fun _ => keeps_pure _
    · exact keeps_pure _
  simp only [conclude]
  split
  · exact (keeps_pure _).bind hsay
  · exact (keeps_elsewhere_lint root _ _ _).adapt.bind hsay

theorem elsewhere_say (root text : String) (s : Session σ) : (p.say text s).elsewhere root = s.elsewhere root := by
  unfold say
  split
  · rfl
  · simp [Session.elsewhere]

theorem keeps_elsewhere_lintTarget (file : String) (change : Option Change) :
    Keeps (Session.elsewhere p.root) (p.lintTarget host file change) := by
  intro s r s' h
  have hkept := ((keeps_elsewhere_changedLines file change).bind fun lines =>
    keeps_elsewhere_conclude p.root file _ lines) _ _ _ (lintTarget_ends_iff.mp h)
  rw [hkept, elsewhere_say]

theorem keeps_elsewhere_lintAll (ts : Targets) : Keeps (Session.elsewhere p.root) (p.lintAll host ts) := by
  unfold lintAll
  refine (keeps_mapM (fun t => ?_) ts).bind fun reports => ?_
  · exact keeps_elsewhere_lintTarget t.1 t.2
  · simp only [conclusion]
    split
    · exact (keeps_elsewhere_print _ _).bind fun _ => keeps_pure _
    · exact keeps_pure _

/-- What is left of a run calls git in its root only. -/
theorem keeps_elsewhere (p : Plan) : Keeps (Session.elsewhere p.root) (p.remainder host) := by
  refine ((Preparation.adds_changed _ _).elsewhere (by simp)).bind fun changed => ?_
  refine ((Preparation.adds_names _).elsewhere (by simp)).bind fun _ => ?_
  exact ((Preparation.adds_targets _ _).elsewhere (by simp)).bind fun ts => keeps_elsewhere_lintAll ts

end Plan

/-! ## The run -/

/-- What is left of a run once the configuration is known. -/
def Preparation.rest (host : Host σ) (options : Options) (colour : Bool) (directory root : String) (registry : Registry) :
    Job σ Abort Nat := do
  let commit ← Preparation.commit host options root
  Plan.remainder host ⟨options, colour && !options.noColour, directory, root, registry, commit⟩

theorem Preparation.keeps_elsewhere_rest (directory root : String) (registry : Registry) :
    Keeps (Session.elsewhere root) (rest host options colour directory root registry) := by
  refine ((adds_commit root).elsewhere ?_).bind fun commit =>
    Plan.keeps_elsewhere ⟨options, colour && !options.noColour, directory, root, registry, commit⟩
  intro d arguments hmem
  split at hmem
  · cases List.mem_singleton.mp hmem
    rfl
  · cases hmem

/-- In its root the run has the configuration that the root holds, and fails where that cannot be read. -/
def Host.ConfiguresAt (host : Host σ) (options : Options) (colour : Bool) (directory root : String) (s : Session σ)
    (r : Except Abort Nat) (s' : Session σ) : Prop :=
  match Config.held host s.world root options.config with
  | .error f => r = .error (.ofFailure f) ∧ s' = s
  | .ok registry => Ends (Preparation.rest host options colour directory root registry) s r s'

/-- Started in a directory, the run goes on in a root: it is configured there, and calls git nowhere else. -/
structure Host.RunsAt (host : Host σ) (options : Options) (colour : Bool) (directory root : String) (v : σ)
    (r : Except Abort Nat) (s' : Session σ) : Prop where
  configured : host.ConfiguresAt options colour directory root ⟨v, [Git.topCall directory]⟩ r s'
  calls : ∀ d arguments, .git d arguments ∈ s'.events → d = root ∨ .git d arguments = Git.topCall directory

theorem configuresAt_iff {directory root : String} {s s' : Session σ} {r : Except Abort Nat} :
    Ends (Preparation.registry host options root >>= Preparation.rest host options colour directory root) s r s' ↔
      host.ConfiguresAt options colour directory root s r s' := by
  have hregistry := Preparation.registry_ends host options root s
  unfold Host.ConfiguresAt
  cases hheld : Config.held host s.world root options.config with
  | error f =>
    rw [hheld] at hregistry
    exact hregistry.bind_error.eq_iff
  | ok registry =>
    rw [hheld] at hregistry
    exact hregistry.bind_iff

theorem Host.ConfiguresAt.keeps {directory root : String} {s s' : Session σ} {r : Except Abort Nat}
    (h : host.ConfiguresAt options colour directory root s r s') : s'.elsewhere root = s.elsewhere root := by
  unfold Host.ConfiguresAt at h
  split at h
  · rw [h.2]
  · exact Preparation.keeps_elsewhere_rest _ _ _ _ _ _ h

theorem run_ends_at {w w' : σ} {directory top : String} {r : Except Abort Nat} {s' : Session σ}
    (htop : host.PrintsTop w directory top w') (habsolute : Path.isAbsolute top.toList = true)
    (h : Ends (run host options colour) ⟨w, []⟩ r s') :
    host.RunsAt options colour directory (host.resolved w' (Git.rootOf top)) w' r s' := by
  have hroot := Preparation.root_ends htop habsolute
  generalize host.resolved w' (Git.rootOf top) = root at hroot
  rw [run_eq, (Preparation.directory_ends_ok.mpr ⟨htop.working, rfl⟩).bind_iff, hroot.bind_iff] at h
  have hconfigured := configuresAt_iff.mp h
  refine ⟨hconfigured, fun d arguments hmem => ?_⟩
  by_cases hd : d = root
  · exact Or.inl hd
  · have helsewhere : (d, arguments) ∈ s'.elsewhere root := Session.mem_elsewhere_iff.mpr ⟨hmem, hd⟩
    rw [hconfigured.keeps] at helsewhere
    exact Or.inr (List.mem_singleton.mp (Session.mem_elsewhere_iff.mp helsewhere).1)

/-- The root is the printed path as it is where this does not end in white space, and only there. The run goes on in the
directory that is resolved from it. -/
theorem run_at_printed_root {w w' : σ} {directory top : String} (htop : host.PrintsTop w directory top w')
    (habsolute : Path.isAbsolute top.toList = true) :
    (∀ events, Ends (Git.root? host directory) ⟨w, events⟩ (.ok (some (Git.rootOf top)))
      ⟨w', Git.topCall directory :: events⟩) ∧
    (Git.rootOf top = top ↔ ∀ c, top.toList.getLast? = some c → Unicode.isBlank c = false) ∧
    ∀ options colour r s', (run host options colour).runOn w = (r, s') →
      host.RunsAt options colour directory (host.resolved w' (Git.rootOf top)) w' r s' :=
  ⟨Git.root?_ends htop habsolute, Git.rootOf_eq_self_iff, fun _ _ _ _ => run_ends_at htop habsolute⟩

/-- A system whose repository has this top directory, where the run is started and nothing changed. -/
def topHost (top : String) : Host Unit where
  workingDirectory _ := .ok top
  isFile _ _ := false
  canonical _ path := .ok path
  readText _ _ := .error .notFound
  git _ arguments w :=
    (.ok ⟨if arguments = ["rev-parse", "--show-toplevel"] then Text.Utf8.encode (top.toList ++ ['\n']) else [], [], true⟩, w)
  launch _ _ w := (.error .notFound, w)

theorem printsTop_topHost (top : String) : (topHost top).PrintsTop () top top () := ⟨rfl, [], rfl⟩

/-- White space inside a path is no end of it. -/
theorem run_at_printed_root_inner : Path.isAbsolute "/a b".toList = true ∧
    Ends (Git.root? (topHost "/a b") "/a b") ⟨(), []⟩ (.ok (some "/a b")) ⟨(), [Git.topCall "/a b"]⟩ ∧
    ∀ r s', (run (topHost "/a b") {} false).runOn () = (r, s') → (topHost "/a b").RunsAt {} false "/a b" "/a b" () r s' := by
  have habsolute : Path.isAbsolute "/a b".toList = true := by decide
  obtain ⟨hroot, hself, hrun⟩ := run_at_printed_root (printsTop_topHost "/a b") habsolute
  have hsame : Git.rootOf "/a b" = "/a b" := hself.mpr fun c hc => by
    cases hc
    decide
  rw [hsame] at hroot hrun
  exact ⟨habsolute, hroot [], hrun {} false⟩

/-- The directory that git names is not taken where its name ends in a space, and git is asked for the changes in another. -/
theorem root_of_blank_end : Path.isAbsolute "/r ".toList = true ∧ (topHost "/r ").PrintsTop () "/r " "/r " () ∧
    Ends (Git.root? (topHost "/r ") "/r ") ⟨(), []⟩ (.ok (some "/r")) ⟨(), [Git.topCall "/r "]⟩ ∧
    ((run (topHost "/r ") {} false).runOn ()).2.events = [.git "/r" (Git.listing none), Git.topCall "/r "] := by
  have habsolute : Path.isAbsolute "/r ".toList = true := by decide
  have hroot := Git.root?_ends (printsTop_topHost "/r ") habsolute []
  rw [show Git.rootOf "/r " = "/r" by decide] at hroot
  exact ⟨habsolute, printsTop_topHost "/r ", hroot, by decide +kernel⟩

end DeltaLint

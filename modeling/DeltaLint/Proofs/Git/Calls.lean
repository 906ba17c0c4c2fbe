import DeltaLint.Git.Repository
import DeltaLint.Proofs.Job

/-
  DeltaLint.Proofs.Git.Calls — what git is asked, and how asking it fails.

  Each question is one call of git, which is recorded whatever comes of it (`adds_output` and the like).
  What fails is a call, with an exit status of 128; asking for the last commit never fails.

  Proved:
  - `root?_ends_ok`: the top directory is what git writes.
  - `changed_ends_ok`: what changed is what git's account says.
-/

namespace DeltaLint.Git

open Job

variable {σ : Type} {host : Host σ}

/-- A failure of git itself. -/
def IsCall (f : Failure) : Prop := ∃ command message, f = .git command message

theorem IsCall.exitCode {f : Failure} (h : IsCall f) : f.exitCode = 128 := by
  obtain ⟨command, message, rfl⟩ := h
  rfl

/-! ## One call -/

theorem adds_output (directory : String) (arguments : List String) :
    Adds [.git directory arguments] (output host directory arguments) := by
  refine (adds_act _ _).bind fun reply => ?_
  split
  · exact keeps_throw _
  · split
    · exact keeps_pure _
    · exact keeps_throw _

theorem raises_output (directory : String) (arguments : List String) :
    Raises IsCall (output host directory arguments) := by
  refine (raises_act _ _).bind fun reply => ?_
  split
  · exact raises_throw ⟨_, _, rfl⟩
  · split
    · exact raises_pure _
    · exact raises_throw ⟨_, _, rfl⟩

/-! ## The questions -/

theorem adds_root? (directory : String) :
    Adds [.git directory ["rev-parse", "--show-toplevel"]] (root? host directory) := by
  refine Adds.bind (Adds.catch ((adds_output _ _).bind fun text => keeps_pure _) fun failure => ?_) fun e => ?_
  · split
    · split
      · exact keeps_pure _
      · exact (keeps_throw _).bind fun r => keeps_pure _
    · exact (keeps_throw _).bind fun r => keeps_pure _
  · cases e <;> exact keeps_pure _

theorem raises_root? (directory : String) : Raises IsCall (root? host directory) := by
  refine Raises.bind (Raises.catch ((raises_output _ _).bind fun text => raises_pure _) fun failure hcall => ?_) fun e => ?_
  · obtain ⟨command, message, rfl⟩ := hcall
    dsimp only
    split
    · exact raises_pure _
    · exact (raises_throw ⟨command, message, rfl⟩).bind fun r => raises_pure _
  · cases e <;> exact raises_pure _

/-- The top directory is what git writes, without white space at its ends. -/
theorem root?_ends_ok {directory top : String} {s s' : Session σ} (h : Ends (root? host directory) s (.ok (some top)) s') :
    ∃ text, Ends (output host directory ["rev-parse", "--show-toplevel"]) s (.ok text) s' ∧ trimmed? text = some top := by
  obtain ⟨e, s₁, hcatch, hreturn⟩ := ends_bind_ok.mp h
  rcases ends_catch.mp hcatch with ⟨a, hread, ha⟩ | ⟨failure, s₂, -, hhandled⟩
  · obtain ⟨text, s₂, htext, hearly⟩ := ends_bind_ok.mp hread
    obtain ⟨hvalue, rfl⟩ := ends_pure.mp hearly
    cases Except.ok.inj ha
    cases Except.ok.inj hvalue
    obtain ⟨htop, rfl⟩ := ends_pure.mp hreturn
    exact ⟨text, htext, (Except.ok.inj htop).symm⟩
  · -- What is made of a failure is no directory.
    have hstops : ¬Ends (throw failure >>= fun r => ExceptT.run (pure r) :
        Job σ Failure (Except (Option String) (Option String))) s₂ (.ok e) s₁ := by
      intro hthrow
      obtain ⟨_, _, hthrow, -⟩ := ends_bind_ok.mp hthrow
      cases (ends_throw.mp hthrow).1
    cases failure with
    | git command message =>
      dsimp only at hhandled
      split at hhandled
      · obtain ⟨hvalue, rfl⟩ := ends_pure.mp hhandled
        cases Except.ok.inj hvalue
        cases (ends_pure.mp hreturn).1
      · exact absurd hhandled hstops
    | _ => exact absurd hhandled hstops

theorem adds_lastCommit? (root : String) : Adds [.git root ["rev-parse", "HEAD"]] (lastCommit? host root) := by
  refine Adds.bind (Adds.catch ((adds_output _ _).bind fun text => keeps_pure _) fun _ => keeps_pure _) fun e => ?_
  cases e <;> exact keeps_pure _

theorem raises_lastCommit? (root : String) : Raises (fun _ => False) (lastCommit? host root) := by
  refine Raises.bind (Raises.catch ((raises_output _ _).bind fun text => raises_pure _) fun _ _ => raises_pure _) fun e => ?_
  cases e <;> exact raises_pure _

/-- What git is asked about the changed files. -/
def listing : Option String → List String
  | some commit => ["diff-tree", "-r", "--root", "--no-commit-id", "--name-status", commit]
  | none => ["status", "--porcelain", "--untracked-files=all", "--ignore-submodules=all"]

/-- The files of an account of changes, in order: those of a commit or those not committed yet. -/
def entries (trackedOnly : Bool) (commit : Option String) (text : String) : List (String × Change) :=
  match commit with
  | some _ => commitEntries text
  | none => statusEntries text trackedOnly

theorem changed_eq (root : String) (trackedOnly : Bool) (commit : Option String) :
    changed host root trackedOnly commit = (do
      let text ← output host root (listing commit)
      return Keyed.ofList Path.order ((entries trackedOnly commit text).map fun (name, c) => (Path.join root name, c))) := by
  cases commit with
  | none => simp only [changed, pure_bind]; rfl
  | some commit => simp only [changed, pure_bind]; rfl

/-- What changed is what git's account says. -/
theorem changed_ends_ok {root : String} {trackedOnly : Bool} {commit : Option String} {files : Changed}
    {s s' : Session σ} : Ends (changed host root trackedOnly commit) s (.ok files) s' ↔
      ∃ text, Ends (output host root (listing commit)) s (.ok text) s' ∧
        files = Keyed.ofList Path.order ((entries trackedOnly commit text).map fun (name, c) => (Path.join root name, c)) := by
  rw [changed_eq, ends_bind_ok]
  constructor
  · rintro ⟨text, s₁, htext, hpure⟩
    obtain ⟨hfiles, rfl⟩ := ends_pure.mp hpure
    exact ⟨text, htext, Except.ok.inj hfiles⟩
  · rintro ⟨text, htext, rfl⟩
    exact ⟨text, s', htext, ends_pure.mpr ⟨rfl, rfl⟩⟩

theorem adds_changed (root : String) (trackedOnly : Bool) (commit : Option String) :
    Adds [.git root (listing commit)] (changed host root trackedOnly commit) := by
  cases commit with
  | none => exact (adds_output _ _).bind fun text => (keeps_pure _).bind fun files => keeps_pure _
  | some commit => exact (adds_output _ _).bind fun text => (keeps_pure _).bind fun files => keeps_pure _

theorem raises_changed (root : String) (trackedOnly : Bool) (commit : Option String) :
    Raises IsCall (changed host root trackedOnly commit) := by
  cases commit with
  | none => exact (raises_output _ _).bind fun text => (raises_pure _).bind fun files => raises_pure _
  | some commit => exact (raises_output _ _).bind fun text => (raises_pure _).bind fun files => raises_pure _

/-- Asking for the lines that changed fails only where git is asked for the blame. -/
theorem changedLines_ends_error {root file : String} {change : Option Change} {commit : Option String} {f : Failure}
    {s s' : Session σ} (h : Ends (changedLines host root file change commit) s (.error f) s') :
    change = some .modified ∧ IsCall f ∧ s'.events = .git root ["blame", "--porcelain", "--", file] :: s.events := by
  unfold changedLines at h
  split at h
  · cases (ends_pure.mp h).1
  · rename_i hchange
    refine ⟨by simpa using hchange, ?_⟩
    rcases ends_bind_error.mp h with h | ⟨text, s₁, -, h⟩
    · exact ⟨raises_output _ _ _ _ _ h, adds_output _ _ _ _ _ h⟩
    · cases (ends_pure.mp h).1

end DeltaLint.Git

import DeltaLint.Proofs.Git.Status
import DeltaLint.Proofs.Named

/-
  DeltaLint.Proofs.Tracked — what the files that git does not track do to a run over named files.

  Where only tracked files count, an untracked one is left out of the account of the changes, so a named file
  that is not tracked has no change instead of one. Both make it count as a whole: of its change a target
  only asks whether it was modified (`counted`). This holds as long as no path stands twice in the account, where leaving
  out its last entry would bring out another.

  Proved:
  - `lintTarget_counted`: of a change only counts whether the file was modified.
  - `find?_changes`: what was modified does not depend on what is left out.
  - `tracked_has_no_effect`: a run over named files is the same whether or not only tracked files count.
-/

namespace DeltaLint

open Job

variable {σ : Type} {host : Host σ} {p : Plan} {w : σ} {options : Options} {colour : Bool}

/-! ## What counts of a change -/

/-- What a target asks of its change: whether the file was modified. -/
def counted (change : Option Change) : Option Change := if change = some .modified then some .modified else none

theorem counted_eq_iff {change change' : Option Change} :
    counted change = counted change' ↔ (change = some .modified ↔ change' = some .modified) := by
  unfold counted
  by_cases h : change = some .modified
  · by_cases h' : change' = some .modified
    · simp [h, h']
    · simp [h, h']
  · by_cases h' : change' = some .modified
    · simp [h, h']
    · simp [h, h']

theorem lintTarget_counted (host : Host σ) (p : Plan) (file : String) (change : Option Change) :
    p.lintTarget host file (counted change) = p.lintTarget host file change := by
  have hlines : Git.changedLines host p.root file (counted change) p.commit =
      Git.changedLines host p.root file change p.commit := by
    unfold Git.changedLines counted
    by_cases h : change = some .modified
    · rw [if_pos h, h]
    · rw [if_neg h, if_pos (by decide), if_pos (bne_iff_ne.mpr h)]
  unfold Plan.lintTarget
  rw [hlines]

/-- Targets are linted alike whatever stands for what does not count. -/
theorem lintAll_counted (host : Host σ) (p : Plan) (ts : Targets) :
    p.lintAll host (ts.map fun t => (t.1, counted t.2)) = p.lintAll host ts := by
  unfold Plan.lintAll
  rw [List.mapM_map]
  simp only [Function.comp_def, lintTarget_counted]

/-! ## What was modified -/

/-- The changes that an account tells, by path. -/
def Git.changes (root : String) (trackedOnly : Bool) (commit : Option String) (account : String) : Git.Changed :=
  Keyed.ofList Path.order ((entries trackedOnly commit account).map fun (name, change) => (Path.join root name, change))

/-- The lines of a status account that are read list no path twice. -/
def Git.ListsOnce (root account : String) : Prop :=
  ((statusEntries account false).map fun (name, _) => Path.components (Path.join root name).toList).Nodup

instance (root account : String) : Decidable (Git.ListsOnce root account) := inferInstanceAs (Decidable (List.Nodup _))

/-- Which files were modified does not depend on what is left out. -/
theorem Git.find?_changes {root account : String} {commit : Option String} (honce : commit = none → ListsOnce root account)
    (tracked tracked' : Bool) (path : String) :
    (changes root tracked commit account).find? Path.order path = some .modified ↔
      (changes root tracked' commit account).find? Path.order path = some .modified := by
  cases commit with
  | some commit => rfl
  | none =>
    -- The entries that are left are among all entries, and those of modified files are left.
    have hall : ∀ b, (changes root b none account).find? Path.order path = some .modified ↔
        ∃ e ∈ statusEntries account false, Path.order path (Path.join root e.1) = .eq ∧ e.2 = .modified := by
      intro b
      have hdistinct : ((statusEntries account false).map fun (name, change) => (Path.join root name, change)).Pairwise
          fun e e' => Path.order e.1 e'.1 ≠ .eq :=
        List.pairwise_map.mpr ((List.pairwise_map.mp (honce rfl)).imp fun hne heq => hne (Path.order_eq_iff.mp heq))
      have hleft := statusEntries_eq_filter account b
      have hpairwise : ((statusEntries account b).map fun (name, change) => (Path.join root name, change)).Pairwise
          fun e e' => Path.order e.1 e'.1 ≠ .eq :=
        hdistinct.sublist ((hleft ▸ List.filter_sublist).map _)
      rw [changes, entries, Keyed.find?_ofList_eq_some_iff hpairwise, hleft]
      constructor
      · intro h
        obtain ⟨e', he', heq, hmodified⟩ := h
        obtain ⟨e, he, rfl⟩ := List.mem_map.mp he'
        exact ⟨e, (List.mem_filter.mp he).1, heq, hmodified⟩
      · intro h
        obtain ⟨e, he, heq, hmodified⟩ := h
        refine ⟨_, List.mem_map_of_mem (List.mem_filter.mpr ⟨he, ?_⟩), heq, hmodified⟩
        rw [hmodified]
        cases b
        · rfl
        · rfl
    rw [hall, hall]

theorem Preparation.changed_eq (host : Host σ) (options : Options) (root : String) (commit : Option String) :
    changed host options root commit = (do
      let account ← Job.adaptFailure Abort.ofFailure (Git.output host root (Git.listing commit))
      return Git.changes root options.tracked commit account) := by
  unfold changed
  rw [Git.changed_eq]
  exact adapt_return _ _ (Git.changes root options.tracked commit)

/-- Where files are named and git lists no path twice, the run is the same whether or not only tracked files count. -/
theorem tracked_has_no_effect (tracked : Bool) (hnames : options.files ≠ [])
    (honce : ∀ p s account s', p.options = options → Dated host p w s → p.commit = none →
      Ends (Git.output host p.root (Git.listing none)) s (.ok account) s' → Git.ListsOnce p.root account) :
    (run host { options with tracked := tracked } colour).runOn w = (run host options colour).runOn w := by
  refine Eq.symm (run_eq_about tracked options.files fun p s hoptions hdated => ?_)
  subst hoptions
  unfold Plan.remainder
  simp only [Preparation.changed_eq, bind_assoc, pure_bind]
  refine agree_bind fun account s₁ haccount => ?_
  refine agree_bind fun _ s₂ _ => ?_
  have hknown : ∀ found, (Preparation.known (Git.changes p.root p.options.tracked p.commit account) found).map
        (fun t => (t.1, counted t.2)) =
      (Preparation.known (Git.changes p.root tracked p.commit account) found).map fun t => (t.1, counted t.2) := by
    intro found
    rw [Preparation.known, Preparation.known, ← Keyed.ofList_map, ← Keyed.ofList_map, List.map_map, List.map_map]
    refine congrArg _ (List.map_congr_left fun path _ => Prod.ext rfl (counted_eq_iff.mpr ?_))
    refine Git.find?_changes (fun hcommit => ?_) _ _ path
    rw [hcommit] at haccount
    exact honce p s account s₁ rfl hdated hcommit (ends_adapt_ok.mp haccount)
  have hnames' : (p.options.about tracked p.options.files).files ≠ [] := hnames
  show Agree s₂ (Preparation.targets host p.options p.directory _ >>= p.lintAll host)
    (Preparation.targets host (p.options.about tracked p.options.files) p.directory _ >>= p.lintAll host)
  rw [Preparation.targets_eq_known hnames, Preparation.targets_eq_known hnames']
  simp only [bind_assoc, pure_bind]
  refine agree_bind fun found s₃ _ => ?_
  show Agree s₃ (p.lintAll host (Preparation.known (Git.changes p.root p.options.tracked p.commit account) found))
    (p.lintAll host (Preparation.known (Git.changes p.root tracked p.commit account) found))
  rw [← lintAll_counted host p (Preparation.known (Git.changes p.root p.options.tracked p.commit account) found), hknown,
    lintAll_counted]
  exact Agree.refl s₃ _

/-- Names of a file that is not tracked and of one that was modified. -/
def linkedOptions : Options := { files := ["a.py", "b.py"] }

theorem tracked_has_no_effect_linked :
    (run linkedHost { linkedOptions with tracked := true } false).runOn () = (run linkedHost linkedOptions false).runOn () ∧
    ((run linkedHost linkedOptions false).runOn ()).1.toOption = some 1 := by
  have honce : ∀ p s account s', p.options = linkedOptions → Dated linkedHost p () s → p.commit = none →
      Ends (Git.output linkedHost p.root (Git.listing none)) s (.ok account) s' → Git.ListsOnce p.root account := by
    intro p s account s' _ hdated _ haccount
    obtain ⟨directory, reply, _, top, -, hgit, htop, hroot⟩ := hdated.isRoot
    obtain ⟨reply', hlisting, -, rfl, -⟩ := Git.output_ends_ok.mp haccount
    have hreply' : (linkedHost.git p.root (Git.listing none) s.world).1 = .ok reply' := by rw [hlisting]
    cases hreply'
    cases hgit
    have htop' : Git.trimmed? (Git.decoded (Text.Utf8.encode "/r\n".toList)) = some "/r" := by decide +kernel
    cases htop.symm.trans htop'
    have hresolved : ((linkedTree.resolve "/r" "/r").map Sandbox.Tree.text).toOption = some "/r" := by decide +kernel
    have hr : p.root = "/r" := by
      rcases hroot with hreal | ⟨hsame, -⟩
      · rw [show (linkedTree.resolve "/r" "/r").map Sandbox.Tree.text = .ok p.root from hreal] at hresolved
        exact Option.some.inj hresolved
      · exact hsame
    rw [hr]
    decide +kernel
  refine ⟨tracked_has_no_effect true (List.cons_ne_nil _ _) honce, by decide +kernel⟩

end DeltaLint

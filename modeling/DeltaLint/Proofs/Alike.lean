import DeltaLint.Proofs.Stopping

/-
  DeltaLint.Proofs.Alike — targets that are linted alike.

  Two runs can differ in their systems, as long as git and the programs answer the same (`Host.ActsAlike`),
  and in the styles of their texts (`Plan.restyled`), as long as what is said of a target counts as alike
  (`Plan.SaysAlike`). What sessions that are alike have in common is a parameter. Linting a target then
  does alike, however it ends.

  Proved:
  - `lintTarget_follows_restyled`: a target is linted alike, whatever the styles.
  - `run_restyled`: runs that differ in their styles end alike.
-/

namespace DeltaLint

open Job

variable {σ τ : Type} {host : Host σ} {other : Host τ} {alike : Session σ → Session τ → Prop} {p : Plan}
  {noColour colour : Bool} {file shown : String} {change : Option Change}

/-! ## Calls -/

/-- From sessions that are alike git and the programs answer the same, and the sessions with the call are alike again. -/
structure Host.ActsAlike (host : Host σ) (other : Host τ) (alike : Session σ → Session τ → Prop) : Prop where
  git : ∀ directory arguments s t, alike s t →
    (host.git directory arguments s.world).1 = (other.git directory arguments t.world).1 ∧
      alike ⟨(host.git directory arguments s.world).2, .git directory arguments :: s.events⟩
        ⟨(other.git directory arguments t.world).2, .git directory arguments :: t.events⟩
  launch : ∀ program arguments s t, alike s t →
    (host.launch program arguments s.world).1 = (other.launch program arguments t.world).1 ∧
      alike ⟨(host.launch program arguments s.world).2, .launched program arguments :: s.events⟩
        ⟨(other.launch program arguments t.world).2, .launched program arguments :: t.events⟩

theorem Host.ActsAlike.launchesAlike (h : host.ActsAlike other alike) : host.LaunchesAlike other alike := by
  intro program arguments s t hst
  obtain ⟨hanswer, hst'⟩ := h.launch program arguments s t hst
  exact ⟨by rw [hanswer], hst'⟩

theorem Git.output_follows (h : host.ActsAlike other alike) (directory : String) (arguments : List String) :
    Follows alike (Git.output host directory arguments) (Git.output other directory arguments) := by
  refine (follows_act (h.git directory arguments)).bind fun reply => ?_
  split
  · exact follows_throw _
  · split
    · exact follows_pure _
    · exact follows_throw _

/-! ## Styles -/

namespace Plan

/-- The plan with other styles. -/
def restyled (p : Plan) (noColour colour : Bool) : Plan :=
  { p with options := { p.options with noColour := noColour }, colour := colour }

/-- Sessions that are alike stay alike when something is said of a target. -/
structure SaysAlike (p : Plan) (noColour colour : Bool) (alike : Session σ → Session τ → Prop) : Prop where
  header : ∀ path s t, alike s t →
    alike (p.say (Report.header p.colour path) s) ((p.restyled noColour colour).say (Report.header colour path) t)
  status : ∀ outcome s t, alike s t →
    alike (p.say (Report.status p.colour outcome) s) ((p.restyled noColour colour).say (Report.status colour outcome) t)

end Plan

theorem changedLines_follows (h : host.ActsAlike other alike) :
    Follows alike (p.changedLines host file change) ((p.restyled noColour colour).changedLines other file change) := by
  show Follows alike (p.changedLines host file change) (p.changedLines other file change)
  unfold Plan.changedLines
  split
  · exact follows_pure _
  · refine Follows.adapt ?_
    unfold Git.changedLines
    split
    · exact follows_pure _
    · exact (Git.output_follows h _ _).bind fun text => follows_pure _

theorem conclude_follows (h : host.ActsAlike other alike) (hsaid : p.SaysAlike noColour colour alike)
    (lines : Option (List Nat)) :
    Follows alike (p.conclude host file shown lines) ((p.restyled noColour colour).conclude other file shown lines) := by
  have hsay : ∀ outcome : Outcome, Follows alike
      (if (!p.options.json) = true then
        Job.print (Report.status p.colour outcome) >>= fun _ => pure (⟨shown, outcome⟩ : Report.Entry)
      else pure ⟨shown, outcome⟩ : Job σ Abort Report.Entry)
      (if (!(p.restyled noColour colour).options.json) = true then
        Job.print (Report.status colour outcome) >>= fun _ => pure (⟨shown, outcome⟩ : Report.Entry)
      else pure ⟨shown, outcome⟩) := by
    intro outcome s t hst r s' hends
    rw [ends_say (k := fun _ => pure (⟨shown, outcome⟩ : Report.Entry))] at hends
    obtain ⟨t', hends', hst'⟩ := follows_pure _ _ _ (hsaid.status outcome s t hst) r s' hends
    exact ⟨t', (ends_say (k := fun _ => pure (⟨shown, outcome⟩ : Report.Entry))).mpr hends', hst'⟩
  simp only [Plan.conclude]
  split
  · exact (follows_pure _).bind hsay
  · exact (h.launchesAlike.lint _).adapt.bind hsay

/-- A target is linted alike, whatever the styles. -/
theorem lintTarget_follows_restyled (h : host.ActsAlike other alike) (hsaid : p.SaysAlike noColour colour alike)
    (file : String) (change : Option Change) :
    Follows alike (p.lintTarget host file change) ((p.restyled noColour colour).lintTarget other file change) := by
  intro s t hst r s' hends
  obtain ⟨t', hends', hst'⟩ := (changedLines_follows h).bind (conclude_follows h hsaid) _ _
    (hsaid.header (Path.shown file p.directory) s t hst) r s' (lintTarget_ends_iff.mp hends)
  exact ⟨t', lintTarget_ends_iff.mpr hends', hst'⟩

/-! ## Runs -/

theorem conclusion_follows {options : Options} (noColour : Bool)
    (hprint : options.json = true → ∀ text s t, alike s t →
      alike ⟨s.world, .printed text :: s.events⟩ ⟨t.world, .printed text :: t.events⟩)
    (reports : List Report.Entry) :
    Follows alike (conclusion options reports) (conclusion { options with noColour := noColour } reports) := by
  simp only [conclusion]
  split
  · exact (follows_print (hprint ‹_› _)).bind fun _ => follows_pure _
  · exact follows_pure _

/-- The styles play no part in what is linted. -/
theorem prepare_restyled (host : Host σ) (options : Options) (noColour colour colour' : Bool) :
    prepare host { options with noColour := noColour } colour' =
      (fun prepared => (prepared.1.restyled noColour (colour' && !noColour), prepared.2)) <$> prepare host options colour := by
  rw [prepare_eq, prepare_eq]
  simp only [map_bind, map_pure]
  rfl

theorem run_eq_bind (host : Host σ) (options : Options) (colour : Bool) : run host options colour = (do
    let prepared ← prepare host options colour
    let reports ← prepared.2.mapM fun t => prepared.1.lintTarget host t.1 t.2
    conclusion options reports) := rfl

/-- Runs that differ in their styles end alike, where what they say counts as alike. -/
theorem run_restyled {host : Host σ} {alike : Session σ → Session σ → Prop} {options : Options} {colour' : Bool}
    (hrefl : ∀ s, alike s s) (hacts : host.ActsAlike host alike)
    (hsaid : ∀ p : Plan, p.options = options → p.colour = (colour && !options.noColour) →
      p.SaysAlike noColour (colour' && !noColour) alike)
    (hprint : options.json = true → ∀ text s t, alike s t →
      alike ⟨s.world, .printed text :: s.events⟩ ⟨t.world, .printed text :: t.events⟩) (w : σ) :
    ∃ r s t, (run host options colour).runOn w = (r, s) ∧
      (run host { options with noColour := noColour } colour').runOn w = (r, t) ∧ alike s t := by
  have hrun : run host { options with noColour := noColour } colour' = (do
      let prepared ← prepare host options colour
      let reports ← prepared.2.mapM fun t =>
        (prepared.1.restyled noColour (colour' && !noColour)).lintTarget host t.1 t.2
      conclusion { options with noColour := noColour } reports) := by
    rw [run_eq_bind, prepare_restyled host options noColour colour colour', bind_map_left]
  obtain ⟨r, s, hends⟩ := exists_ends (run host options colour) ⟨w, []⟩
  have hsteps := hends
  rw [run_eq_bind] at hsteps
  rcases ends_bind.mp hsteps with ⟨⟨p, ts⟩, s₀, hprepare, hrest⟩ | ⟨a, hfails, rfl⟩
  · obtain ⟨hoptions, hcolour, -⟩ := prepare_ends_ok_iff.mp hprepare
    have htarget : ∀ t : String × Option Change, Follows alike (p.lintTarget host t.1 t.2)
        ((p.restyled noColour (colour' && !noColour)).lintTarget host t.1 t.2) :=
      fun t => lintTarget_follows_restyled hacts (hsaid p hoptions hcolour) t.1 t.2
    have hfollows := (follows_mapM htarget ts).bind (conclusion_follows noColour hprint)
    obtain ⟨t, hrest', hst⟩ := hfollows s₀ s₀ (hrefl s₀) r s hrest
    refine ⟨r, s, t, hends, ?_, hst⟩
    rw [hrun]
    exact hprepare.bind hrest'
  · refine ⟨_, s, s, hends, ?_, hrefl s⟩
    rw [hrun]
    exact hfails.bind_error

end DeltaLint

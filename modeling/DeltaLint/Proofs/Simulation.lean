import DeltaLint.Proofs.Job

/-
  DeltaLint.Proofs.Simulation — jobs that do alike on sessions that are alike.

  `job.Follows alike other`: from sessions that are alike, `other` ends as `job` does, and the sessions
  they leave are alike again. Jobs made of jobs that do alike do alike. What is alike is a parameter: the
  systems may differ in what no job asks about, and the sessions in what happened before. Two jobs
  `Agree` on one session when they end alike from there.
-/

namespace DeltaLint.Job

variable {σ τ ε ε' α β : Type} {alike : Session σ → Session τ → Prop}

/-- Where one job ends, the other does so with the same result. -/
def Follows (alike : Session σ → Session τ → Prop) (job : Job σ ε α) (other : Job τ ε α) : Prop :=
  ∀ s t, alike s t → ∀ r s', Ends job s r s' → ∃ t', Ends other t r t' ∧ alike s' t'

theorem follows_pure (a : α) : Follows alike (pure a : Job σ ε α) (pure a) := by
  intro s t hst r s' h
  obtain ⟨rfl, rfl⟩ := ends_pure.mp h
  exact ⟨t, ends_pure.mpr ⟨rfl, rfl⟩, hst⟩

theorem follows_throw (e : ε) : Follows alike (throw e : Job σ ε α) (throw e) := by
  intro s t hst r s' h
  obtain ⟨rfl, rfl⟩ := ends_throw.mp h
  exact ⟨t, ends_throw.mpr ⟨rfl, rfl⟩, hst⟩

theorem Follows.bind {job : Job σ ε α} {other : Job τ ε α} {next : α → Job σ ε β} {next' : α → Job τ ε β}
    (h : Follows alike job other) (hn : ∀ a, Follows alike (next a) (next' a)) :
    Follows alike (job >>= next) (other >>= next') := by
  intro s t hst r s' he
  rcases ends_bind.mp he with ⟨a, s₁, ha, hrest⟩ | ⟨e, hfail, rfl⟩
  · obtain ⟨t₁, ha', hst₁⟩ := h s t hst _ s₁ ha
    obtain ⟨t', hrest', hst'⟩ := hn a s₁ t₁ hst₁ r s' hrest
    exact ⟨t', ends_bind.mpr (Or.inl ⟨a, t₁, ha', hrest'⟩), hst'⟩
  · obtain ⟨t', hfail', hst'⟩ := h s t hst _ s' hfail
    exact ⟨t', ends_bind.mpr (Or.inr ⟨e, hfail', rfl⟩), hst'⟩

theorem Follows.adapt {f : ε → ε'} {job : Job σ ε α} {other : Job τ ε α} (h : Follows alike job other) :
    Follows alike (job.adaptFailure f) (other.adaptFailure f) := by
  intro s t hst r s' he
  obtain ⟨q, hq, rfl⟩ := ends_adapt.mp he
  obtain ⟨t', hq', hst'⟩ := h s t hst q s' hq
  exact ⟨t', ends_adapt.mpr ⟨q, hq', rfl⟩, hst'⟩

theorem follows_act {event : Event} {action : σ → α × σ} {action' : τ → α × τ}
    (h : ∀ s t, alike s t → (action s.world).1 = (action' t.world).1 ∧
      alike ⟨(action s.world).2, event :: s.events⟩ ⟨(action' t.world).2, event :: t.events⟩) :
    Follows alike (act event action : Job σ ε α) (act event action') := by
  intro s t hst r s' he
  obtain ⟨rfl, rfl⟩ := ends_act.mp he
  obtain ⟨hanswer, hst'⟩ := h s t hst
  exact ⟨_, ends_act.mpr ⟨by rw [hanswer], rfl⟩, hst'⟩

theorem follows_print {text text' : String}
    (h : ∀ s t, alike s t → alike ⟨s.world, .printed text :: s.events⟩ ⟨t.world, .printed text' :: t.events⟩) :
    Follows alike (print text : Job σ ε Unit) (print text') := by
  intro s t hst r s' he
  obtain ⟨rfl, rfl⟩ := ends_print.mp he
  exact ⟨_, ends_print.mpr ⟨rfl, rfl⟩, h s t hst⟩

theorem follows_mapM {f : α → Job σ ε β} {g : α → Job τ ε β} (h : ∀ a, Follows alike (f a) (g a)) (as : List α) :
    Follows alike (as.mapM f) (as.mapM g) := by
  induction as with
  | nil => exact follows_pure []
  | cons a as ih =>
    rw [List.mapM_cons, List.mapM_cons]
    exact (h a).bind fun b => ih.bind fun bs => follows_pure (b :: bs)

/-- The worlds are alike, and the same happened in them. -/
def SameEvents (alike : σ → τ → Prop) (s : Session σ) (t : Session τ) : Prop :=
  alike s.world t.world ∧ s.events = t.events

/-! ## From one session -/

/-- Begun on `s`, the jobs end alike. -/
def Agree (s : Session σ) (job other : Job σ ε α) : Prop := ∀ r s', Ends job s r s' ↔ Ends other s r s'

theorem Agree.refl (s : Session σ) (job : Job σ ε α) : Agree s job job := fun _ _ => Iff.rfl

theorem agree_of_ends {job other : Job σ ε α} {s s' : Session σ} {r : Except ε α} (h : Ends job s r s')
    (h' : Ends other s r s') : Agree s job other := fun _ _ => h.eq_iff.trans h'.eq_iff.symm

/-- Jobs that agree, and agree in what comes after a good end, agree as a whole. -/
theorem Agree.bind {job other : Job σ ε α} {next next' : α → Job σ ε β} {s : Session σ} (h : Agree s job other)
    (hn : ∀ a s₁, Ends job s (.ok a) s₁ → Agree s₁ (next a) (next' a)) : Agree s (job >>= next) (other >>= next') := by
  intro r s'
  rw [ends_bind, ends_bind]
  refine or_congr (exists_congr fun a => exists_congr fun s₁ => ?_) (exists_congr fun e => ?_)
  · rw [← h (.ok a) s₁]
    exact and_congr_right fun ha => hn a s₁ ha r s'
  · rw [h]

/-- What agrees wherever a job ends well agrees after this job. -/
theorem agree_bind {job : Job σ ε α} {next next' : α → Job σ ε β} {s : Session σ}
    (h : ∀ a s₁, Ends job s (.ok a) s₁ → Agree s₁ (next a) (next' a)) : Agree s (job >>= next) (job >>= next') :=
  (Agree.refl s job).bind h

/-- Jobs that agree from the start are carried out alike. -/
theorem Agree.runOn_eq {job other : Job σ ε α} {w : σ} (h : Agree ⟨w, []⟩ job other) : job.runOn w = other.runOn w := by
  obtain ⟨r, s', hends⟩ := exists_ends job ⟨w, []⟩
  exact Eq.trans hends ((h r s').mp hends).symm

end DeltaLint.Job

import DeltaLint.Host

/-
  DeltaLint.Proofs.Job — how jobs end.

  `job.Ends s r s'`: begun on the session `s`, the job ends with `r` and leaves `s'`. What a job made of
  others ends with is read off how these end: `ends_bind` for any end, `ends_bind_ok` for a good one.
  A job `Keeps` what it leaves alone however it ends: one that is `Silent` prints nothing. It `Adds` the
  events that it leaves in any case, and fails as it `Raises`.
-/

namespace DeltaLint.Job

variable {σ ε ε' α β : Type}

/-- Begun on `s`, the job ends with `r` and leaves `s'`. -/
def Ends (job : Job σ ε α) (s : Session σ) (r : Except ε α) (s' : Session σ) : Prop := (ExceptT.run job).run s = (r, s')

/-- A job has one end from each session. -/
theorem Ends.det {job : Job σ ε α} {s s₁ s₂ : Session σ} {q r : Except ε α} (h : Ends job s q s₁) (h' : Ends job s r s₂) :
    q = r ∧ s₁ = s₂ := Prod.mk.inj (h.symm.trans h')

theorem exists_ends (job : Job σ ε α) (s : Session σ) : ∃ r s', Ends job s r s' := ⟨_, _, rfl⟩

/-- A job that gives `a` when it is carried out ends so. -/
theorem ends_of_toOption {job : Job σ ε α} {a : α} {s : Session σ}
    (h : ((ExceptT.run job).run s).1.toOption = some a) : Ends job s (.ok a) ((ExceptT.run job).run s).2 := by
  unfold Ends
  cases hrun : (ExceptT.run job).run s with
  | mk r s' =>
    rw [hrun] at h
    cases r with
    | error e => cases h
    | ok b => rw [Option.some.inj h]

/-! ## Steps -/

section
variable {s s' : Session σ} {r : Except ε α}

theorem pair_eq_iff {q r : Except ε α} {s s' : Session σ} : (q, s) = (r, s') ↔ r = q ∧ s' = s := by
  rw [Prod.mk.injEq, eq_comm, eq_comm (b := s')]

theorem ends_pure {a : α} : Ends (pure a : Job σ ε α) s r s' ↔ r = .ok a ∧ s' = s := pair_eq_iff

theorem ends_throw {e : ε} : Ends (throw e : Job σ ε α) s r s' ↔ r = .error e ∧ s' = s := pair_eq_iff

theorem ends_mk_pure {x : Except ε α} : Ends (ExceptT.mk (pure x) : Job σ ε α) s r s' ↔ r = x ∧ s' = s := pair_eq_iff

theorem ends_ask {question : σ → α} : Ends (ask question : Job σ ε α) s r s' ↔ r = .ok (question s.world) ∧ s' = s :=
  pair_eq_iff

theorem ends_act {event : Event} {action : σ → α × σ} : Ends (act event action : Job σ ε α) s r s' ↔
    r = .ok (action s.world).1 ∧ s' = ⟨(action s.world).2, event :: s.events⟩ := pair_eq_iff

theorem ends_print {text : String} {r : Except ε Unit} : Ends (print text : Job σ ε Unit) s r s' ↔
    r = .ok () ∧ s' = { s with events := .printed text :: s.events } := pair_eq_iff

end

/-- From a session where one end is known there is no other. -/
theorem Ends.eq_iff {job : Job σ ε α} {s s' s₁ : Session σ} {q r : Except ε α} (h : Ends job s q s₁) :
    Ends job s r s' ↔ r = q ∧ s' = s₁ := by
  have hrun : (ExceptT.run job).run s = (q, s₁) := h
  rw [Ends, hrun, pair_eq_iff]

/-! ## Jobs made of jobs -/

section
variable {s s' : Session σ}

/-- A job after another ends as it does after the good end of the other, or fails with the other. -/
theorem ends_bind {job : Job σ ε α} {next : α → Job σ ε β} {r : Except ε β} : Ends (job >>= next) s r s' ↔
    (∃ a s₁, Ends job s (.ok a) s₁ ∧ Ends (next a) s₁ r s') ∨ ∃ e, Ends job s (.error e) s' ∧ r = .error e := by
  have hrun : (ExceptT.run (job >>= next)).run s = match (ExceptT.run job).run s with
      | (.ok a, s₁) => (ExceptT.run (next a)).run s₁
      | (.error e, s₁) => (.error e, s₁) := by
    show (StateT.bind job (ExceptT.bindCont next)) s = _
    simp only [StateT.bind, ExceptT.run, StateT.run, bind]
    rcases job s with ⟨a | e, s₁⟩ <;> rfl
  unfold Ends
  rw [hrun]
  rcases (ExceptT.run job).run s with ⟨e | a, s₁⟩
  · constructor
    · intro h
      obtain ⟨rfl, rfl⟩ := pair_eq_iff.mp h
      exact Or.inr ⟨e, rfl, rfl⟩
    · rintro (⟨a, s₂, h, _⟩ | ⟨e', h, rfl⟩)
      · cases h
      · cases h
        rfl
  · constructor
    · intro h
      exact Or.inl ⟨a, s₁, rfl, h⟩
    · rintro (⟨a', s₂, h, h'⟩ | ⟨e, h, _⟩)
      · cases h
        exact h'
      · cases h

theorem ends_bind_ok {job : Job σ ε α} {next : α → Job σ ε β} {b : β} : Ends (job >>= next) s (.ok b) s' ↔
    ∃ a s₁, Ends job s (.ok a) s₁ ∧ Ends (next a) s₁ (.ok b) s' := by
  rw [ends_bind]
  constructor
  · rintro (h | ⟨e, _, h⟩)
    · exact h
    · cases h
  · exact Or.inl

theorem ends_bind_error {job : Job σ ε α} {next : α → Job σ ε β} {e : ε} : Ends (job >>= next) s (.error e) s' ↔
    Ends job s (.error e) s' ∨ ∃ a s₁, Ends job s (.ok a) s₁ ∧ Ends (next a) s₁ (.error e) s' := by
  rw [ends_bind]
  constructor
  · intro h
    rcases h with h | ⟨e', h, heq⟩
    · exact Or.inr h
    · cases heq
      exact Or.inl h
  · intro h
    rcases h with h | h
    · exact Or.inr ⟨e, h, rfl⟩
    · exact Or.inl h

theorem Ends.bind {job : Job σ ε α} {next : α → Job σ ε β} {a : α} {s₁ : Session σ} {r : Except ε β}
    (h : Ends job s (.ok a) s₁) (hn : Ends (next a) s₁ r s') : Ends (job >>= next) s r s' :=
  ends_bind.mpr (Or.inl ⟨a, s₁, h, hn⟩)

/-- After a good end that is known, what follows decides. -/
theorem Ends.bind_iff {job : Job σ ε α} {next : α → Job σ ε β} {a : α} {s₁ : Session σ} {r : Except ε β}
    (h : Ends job s (.ok a) s₁) : Ends (job >>= next) s r s' ↔ Ends (next a) s₁ r s' := by
  obtain ⟨q, s₂, hnext⟩ := exists_ends (next a) s₁
  rw [(h.bind hnext).eq_iff, hnext.eq_iff]

theorem Ends.bind_error {job : Job σ ε α} {next : α → Job σ ε β} {e : ε} (h : Ends job s (.error e) s') :
    Ends (job >>= next) s (.error e) s' := ends_bind_error.mpr (Or.inl h)

theorem mapError_eq_ok {f : ε → ε'} {x : Except ε α} {a : α} : x.mapError f = .ok a ↔ x = .ok a := by
  cases x with
  | ok b => exact ⟨fun h => congrArg _ (Except.ok.inj h), fun h => congrArg _ (Except.ok.inj h)⟩
  | error e => exact ⟨nofun, nofun⟩

theorem mapError_eq_error {f : ε → ε'} {x : Except ε α} {e : ε'} : x.mapError f = .error e ↔ ∃ e₀, x = .error e₀ ∧ e = f e₀ := by
  cases x with
  | ok a => exact ⟨nofun, nofun⟩
  | error e₀ =>
    constructor
    · intro h
      exact ⟨e₀, rfl, (Except.error.inj h).symm⟩
    · intro h
      obtain ⟨e₁, he, rfl⟩ := h
      rw [Except.error.inj he]
      rfl

theorem ends_adapt {f : ε → ε'} {job : Job σ ε α} {r : Except ε' α} : Ends (job.adaptFailure f) s r s' ↔
    ∃ q, Ends job s q s' ∧ r = q.mapError f := by
  have hrun : (ExceptT.run (job.adaptFailure f)).run s =
      (((ExceptT.run job).run s).1.mapError f, ((ExceptT.run job).run s).2) := rfl
  unfold Ends
  rw [hrun, pair_eq_iff]
  constructor
  · rintro ⟨h, rfl⟩
    exact ⟨_, rfl, h⟩
  · rintro ⟨q, h, rfl⟩
    rw [h]
    exact ⟨rfl, rfl⟩

theorem ends_adapt_ok {f : ε → ε'} {job : Job σ ε α} {a : α} :
    Ends (job.adaptFailure f) s (.ok a) s' ↔ Ends job s (.ok a) s' := by
  rw [ends_adapt]
  constructor
  · intro h
    obtain ⟨q, hq, heq⟩ := h
    rwa [mapError_eq_ok.mp heq.symm] at hq
  · intro h
    exact ⟨.ok a, h, rfl⟩

theorem ends_adapt_error {f : ε → ε'} {job : Job σ ε α} {e : ε'} :
    Ends (job.adaptFailure f) s (.error e) s' ↔ ∃ e₀, Ends job s (.error e₀) s' ∧ e = f e₀ := by
  rw [ends_adapt]
  constructor
  · intro h
    obtain ⟨q, hq, heq⟩ := h
    obtain ⟨e₀, rfl, he⟩ := mapError_eq_error.mp heq.symm
    exact ⟨e₀, hq, he⟩
  · intro h
    obtain ⟨e₀, h, rfl⟩ := h
    exact ⟨.error e₀, h, rfl⟩

/-- What is made of a result can be made of it before or after the failures are put another way. -/
theorem adapt_return (f : ε → ε') (job : Job σ ε α) (g : α → β) :
    adaptFailure f (do return g (← job)) = (do return g (← job.adaptFailure f)) := by
  funext s
  obtain ⟨r, s', h⟩ := exists_ends job s
  cases r with
  | error e =>
    have hleft : Ends (adaptFailure f (job >>= fun a => pure (g a))) s (.error (f e)) s' :=
      ends_adapt_error.mpr ⟨e, h.bind_error, rfl⟩
    have hright : Ends (job.adaptFailure f >>= fun a => pure (g a)) s (.error (f e)) s' :=
      (ends_adapt_error.mpr ⟨e, h, rfl⟩).bind_error
    exact hleft.trans hright.symm
  | ok a =>
    have hleft : Ends (adaptFailure f (job >>= fun a => pure (g a))) s (.ok (g a)) s' :=
      ends_adapt_ok.mpr (h.bind (ends_pure.mpr ⟨rfl, rfl⟩))
    have hright : Ends (job.adaptFailure f >>= fun a => pure (g a)) s (.ok (g a)) s' :=
      (ends_adapt_ok.mpr h).bind (ends_pure.mpr ⟨rfl, rfl⟩)
    exact hleft.trans hright.symm

theorem ends_catch {job : Job σ ε α} {handler : ε → Job σ ε α} {r : Except ε α} :
    Ends (tryCatch job handler) s r s' ↔
      (∃ a, Ends job s (.ok a) s' ∧ r = .ok a) ∨ ∃ e s₁, Ends job s (.error e) s₁ ∧ Ends (handler e) s₁ r s' := by
  have hrun : (ExceptT.run (tryCatch job handler)).run s = match (ExceptT.run job).run s with
      | (.ok a, s₁) => (.ok a, s₁)
      | (.error e, s₁) => (ExceptT.run (handler e)).run s₁ := by
    show (ExceptT.tryCatch job handler) s = _
    simp only [ExceptT.tryCatch, ExceptT.mk, ExceptT.run, StateT.run, bind, StateT.bind]
    rcases job s with ⟨a | e, s₁⟩ <;> rfl
  unfold Ends
  rw [hrun]
  rcases (ExceptT.run job).run s with ⟨e | a, s₁⟩
  · constructor
    · intro h
      exact Or.inr ⟨e, s₁, rfl, h⟩
    · rintro (⟨a, h, _⟩ | ⟨e', s₂, h, h'⟩)
      · cases h
      · cases h
        exact h'
  · constructor
    · intro h
      obtain ⟨rfl, rfl⟩ := pair_eq_iff.mp h
      exact Or.inl ⟨a, rfl, rfl⟩
    · rintro (⟨a', h, rfl⟩ | ⟨e, s₂, h, _⟩)
      · cases h
        rfl
      · cases h

theorem ends_mapM_cons_ok {f : α → Job σ ε β} {a : α} {as : List α} {bs : List β} :
    Ends ((a :: as).mapM f) s (.ok bs) s' ↔
      ∃ b s₁ rest, Ends (f a) s (.ok b) s₁ ∧ Ends (as.mapM f) s₁ (.ok rest) s' ∧ bs = b :: rest := by
  simp only [List.mapM_cons, ends_bind_ok, ends_pure, Except.ok.injEq]
  constructor
  · rintro ⟨b, s₁, hb, rest, s₂, hrest, rfl, rfl⟩
    exact ⟨b, s₁, rest, hb, hrest, rfl⟩
  · rintro ⟨b, s₁, rest, hb, hrest, rfl⟩
    exact ⟨b, s₁, hb, rest, s', hrest, rfl, rfl⟩

/-- Asking of each of a list keeps those of which it does not hold. -/
theorem ends_filterM_ask (question : σ → α → Bool) (as : List α) (s : Session σ) :
    Ends (as.filterM fun a => do return !(← ask (question · a)) : Job σ ε (List α)) s
      (.ok (as.filter fun a => !question s.world a)) s := by
  have haux : ∀ acc, Ends (as.filterAuxM (fun a => do return !(← ask (question · a))) acc : Job σ ε (List α)) s
      (.ok ((as.filter fun a => !question s.world a).reverse ++ acc)) s := by
    induction as with
    | nil => exact fun acc => ends_pure.mpr ⟨rfl, rfl⟩
    | cons a as ih =>
      intro acc
      rw [List.filterAuxM]
      have hone : Ends (do return !(← ask (question · a)) : Job σ ε Bool) s (.ok (!question s.world a)) s :=
        (ends_ask.mpr ⟨rfl, rfl⟩).bind (ends_pure.mpr ⟨rfl, rfl⟩)
      refine hone.bind ?_
      rw [List.filter_cons]
      cases question s.world a with
      | true => exact ih acc
      | false => simpa using ih (a :: acc)
  refine (haux []).bind (ends_pure.mpr ⟨?_, rfl⟩)
  simp

/-- What is made of each result can be made of all of them at the end. -/
theorem mapM_return {γ : Type} (f : α → Job σ ε β) (g : β → γ) (as : List α) :
    (as.mapM fun a => do return g (← f a)) = (do return (← as.mapM f).map g) := by
  induction as with
  | nil => rfl
  | cons a as ih => simp only [List.mapM_cons, ih, bind_assoc, pure_bind, List.map_cons]

/-- A row of jobs fails with the first that fails, after good ends of those before it. -/
theorem ends_mapM_error {f : α → Job σ ε β} {as : List α} {e : ε} : Ends (as.mapM f) s (.error e) s' ↔
    ∃ before a later bs s₁, as = before ++ a :: later ∧ Ends (before.mapM f) s (.ok bs) s₁ ∧
      Ends (f a) s₁ (.error e) s' := by
  induction as generalizing s with
  | nil =>
    constructor
    · intro h
      cases (ends_pure.mp h).1
    · intro h
      obtain ⟨before, a, later, bs, s₁, heq, -⟩ := h
      cases before <;> cases heq
  | cons a as ih =>
    rw [List.mapM_cons, ends_bind_error]
    constructor
    · intro h
      rcases h with h | ⟨b, s₁, hb, h⟩
      · exact ⟨[], a, as, [], s, rfl, ends_pure.mpr ⟨rfl, rfl⟩, h⟩
      · rcases ends_bind_error.mp h with h | ⟨bs, s₂, -, h⟩
        · obtain ⟨before, a', later, bs, s₂, rfl, hbs, h⟩ := ih.mp h
          exact ⟨a :: before, a', later, b :: bs, s₂, rfl, ends_mapM_cons_ok.mpr ⟨b, s₁, bs, hb, hbs, rfl⟩, h⟩
        · cases (ends_pure.mp h).1
    · intro h
      obtain ⟨before, a', later, bs, s₁, heq, hbs, h⟩ := h
      cases before with
      | nil =>
        cases heq
        obtain ⟨-, rfl⟩ := ends_pure.mp hbs
        exact Or.inl h
      | cons a₀ before =>
        cases heq
        obtain ⟨b, s₂, bs', hb, hbs', -⟩ := ends_mapM_cons_ok.mp hbs
        exact Or.inr ⟨b, s₂, hb, ends_bind_error.mpr (Or.inl (ih.mpr ⟨before, a', later, bs', s₁, rfl, hbs', h⟩))⟩

end

/-! ## What jobs leave alone -/

/-- The job leaves what is viewed as it is, however it ends. -/
def Keeps {ι : Type} (view : Session σ → ι) (job : Job σ ε α) : Prop := ∀ s r s', Ends job s r s' → view s' = view s

section
variable {ι : Type} {view : Session σ → ι}

theorem keeps_pure (a : α) : Keeps view (pure a : Job σ ε α) := fun _ _ _ h => by rw [(ends_pure.mp h).2]

theorem keeps_throw (e : ε) : Keeps view (throw e : Job σ ε α) := fun _ _ _ h => by rw [(ends_throw.mp h).2]

theorem keeps_ask (question : σ → α) : Keeps view (ask question : Job σ ε α) := fun _ _ _ h => by rw [(ends_ask.mp h).2]

theorem keeps_mk_pure (x : Except ε α) : Keeps view (ExceptT.mk (pure x) : Job σ ε α) :=
  fun _ _ _ h => by rw [(ends_mk_pure.mp h).2]

/-- A job that always ends where it began leaves all as it is. -/
theorem keeps_of_ends {job : Job σ ε α} (h : ∀ s, ∃ r, Ends job s r s) : Keeps view job := by
  intro s r s' he
  obtain ⟨q, hq⟩ := h s
  rw [(hq.det he).2]

theorem Keeps.bind {job : Job σ ε α} {next : α → Job σ ε β} (h : Keeps view job) (hn : ∀ a, Keeps view (next a)) :
    Keeps view (job >>= next) := by
  intro s r s' he
  rcases ends_bind.mp he with ⟨a, s₁, h1, h2⟩ | ⟨e, h1, _⟩
  · rw [hn a _ _ _ h2, h _ _ _ h1]
  · exact h _ _ _ h1

theorem Keeps.adapt {f : ε → ε'} {job : Job σ ε α} (h : Keeps view job) : Keeps view (job.adaptFailure f) := by
  intro s r s' he
  obtain ⟨q, hq, _⟩ := ends_adapt.mp he
  exact h _ _ _ hq

theorem keeps_mapM {f : α → Job σ ε β} (h : ∀ a, Keeps view (f a)) (as : List α) : Keeps view (as.mapM f) := by
  induction as with
  | nil => rw [List.mapM_nil]; exact keeps_pure []
  | cons a as ih =>
    rw [List.mapM_cons]
    exact (h a).bind fun b => ih.bind fun bs => keeps_pure (b :: bs)

end

/-- The job prints nothing. -/
abbrev Silent (job : Job σ ε α) : Prop := Keeps Session.printedLines job

/-- What a job that only looks at the system gives for each of a list is what it gives where it stood. -/
theorem ends_mapM_ok_of_keeps {f : α → Job σ ε β} {as : List α} {bs : List β} {s s' : Session σ}
    (hf : ∀ a, Keeps id (f a)) (h : Ends (as.mapM f) s (.ok bs) s') :
    s' = s ∧ (∀ b ∈ bs, ∃ a ∈ as, Ends (f a) s (.ok b) s) ∧ ∀ a ∈ as, ∃ b ∈ bs, Ends (f a) s (.ok b) s := by
  induction as generalizing bs with
  | nil =>
    rw [List.mapM_nil] at h
    obtain ⟨hbs, rfl⟩ := ends_pure.mp h
    cases hbs
    exact ⟨rfl, by simp, by simp⟩
  | cons a as ih =>
    obtain ⟨b, s₁, rest, hb, hrest, rfl⟩ := ends_mapM_cons_ok.mp h
    obtain rfl : s₁ = s := hf a _ _ _ hb
    obtain ⟨rfl, hfrom, hinto⟩ := ih hrest
    refine ⟨rfl, fun b' hb' => ?_, fun a' ha' => ?_⟩
    · rcases List.mem_cons.mp hb' with rfl | hb'
      · exact ⟨a, List.mem_cons_self, hb⟩
      · obtain ⟨a', ha', hend⟩ := hfrom b' hb'
        exact ⟨a', List.mem_cons_of_mem _ ha', hend⟩
    · rcases List.mem_cons.mp ha' with rfl | ha'
      · exact ⟨b, List.mem_cons_self, hb⟩
      · obtain ⟨b', hb', hend⟩ := hinto a' ha'
        exact ⟨b', List.mem_cons_of_mem _ hb', hend⟩

/-! ## What jobs leave behind -/

/-- However the job ends, these events were added, the last first. -/
def Adds (events : List Event) (job : Job σ ε α) : Prop := ∀ s r s', Ends job s r s' → s'.events = events ++ s.events

section
variable {events : List Event}

theorem Keeps.adds {job : Job σ ε α} (h : Keeps Session.events job) : Adds [] job := h

theorem adds_act (event : Event) (action : σ → α × σ) : Adds [event] (act event action : Job σ ε α) := by
  intro s r s' h
  rw [(ends_act.mp h).2]
  rfl

theorem adds_print (text : String) : Adds [.printed text] (print text : Job σ ε Unit) := by
  intro s r s' h
  rw [(ends_print.mp h).2]
  rfl

/-- A job that adds no event of a kind keeps the events of this kind. -/
theorem Adds.keeps {ι : Type} {pick : Event → Option ι} {job : Job σ ε α} (h : Adds events job)
    (hnone : ∀ event ∈ events, pick event = none) :
    Keeps (fun s : Session σ => s.events.reverse.filterMap pick) job := by
  intro s r s' he
  simp only [h s r s' he, List.reverse_append, List.filterMap_append, List.append_right_eq_self,
    List.filterMap_eq_nil_iff, List.mem_reverse]
  exact hnone

theorem Adds.silent {job : Job σ ε α} (h : Adds events job) (hsilent : ∀ text, .printed text ∉ events) : Silent job := by
  refine h.keeps fun event hevent => ?_
  cases event with
  | printed text => exact absurd hevent (hsilent text)
  | git => rfl
  | launched => rfl

theorem Adds.bind {job : Job σ ε α} {next : α → Job σ ε β} (h : Adds events job)
    (hn : ∀ a, Keeps Session.events (next a)) : Adds events (job >>= next) := by
  intro s r s' he
  rcases ends_bind.mp he with ⟨a, s₁, h1, h2⟩ | ⟨e, h1, _⟩
  · rw [hn a _ _ _ h2, h _ _ _ h1]
  · exact h _ _ _ h1

theorem Adds.adapt {f : ε → ε'} {job : Job σ ε α} (h : Adds events job) : Adds events (job.adaptFailure f) := by
  intro s r s' he
  obtain ⟨q, hq, _⟩ := ends_adapt.mp he
  exact h _ _ _ hq

theorem Adds.catch {job : Job σ ε α} {handler : ε → Job σ ε α} (h : Adds events job)
    (hh : ∀ e, Keeps Session.events (handler e)) : Adds events (tryCatch job handler) := by
  intro s r s' he
  rcases ends_catch.mp he with ⟨a, h1, _⟩ | ⟨e, s₁, h1, h2⟩
  · exact h _ _ _ h1
  · rw [hh e _ _ _ h2, h _ _ _ h1]

end

/-! ## How jobs fail -/

/-- Where the job fails, it does so like this. -/
def Raises (P : ε → Prop) (job : Job σ ε α) : Prop := ∀ s e s', Ends job s (.error e) s' → P e

section
variable {P : ε → Prop}

theorem raises_pure (a : α) : Raises P (pure a : Job σ ε α) := by
  intro s e s' h
  cases (ends_pure.mp h).1

theorem raises_throw {e : ε} (he : P e) : Raises P (throw e : Job σ ε α) := by
  intro s e' s' h
  cases (ends_throw.mp h).1
  exact he

theorem raises_ask (question : σ → α) : Raises P (ask question : Job σ ε α) := by
  intro s e s' h
  cases (ends_ask.mp h).1

theorem raises_act (event : Event) (action : σ → α × σ) : Raises P (act event action : Job σ ε α) := by
  intro s e s' h
  cases (ends_act.mp h).1

/-- How a job fails that always ends where it began. -/
theorem raises_of_ends {Q : ε' → Prop} {f : ε → ε'} {job : Job σ ε' α}
    (h : ∀ s, ∃ x : Except ε α, Ends job s (x.mapError f) s ∧ ∀ e, x = .error e → Q (f e)) : Raises Q job := by
  intro s e' s' he
  obtain ⟨x, hx, hQ⟩ := h s
  obtain ⟨e, hfails, rfl⟩ := mapError_eq_error.mp (hx.det he).1
  exact hQ e hfails

theorem Raises.bind {job : Job σ ε α} {next : α → Job σ ε β} (h : Raises P job) (hn : ∀ a, Raises P (next a)) :
    Raises P (job >>= next) := by
  intro s e s' he
  rcases ends_bind_error.mp he with h1 | ⟨a, s₁, -, h2⟩
  · exact h _ _ _ h1
  · exact hn a _ _ _ h2

theorem Raises.adapt {Q : ε' → Prop} {f : ε → ε'} {job : Job σ ε α} (h : Raises P job) (hf : ∀ e, P e → Q (f e)) :
    Raises Q (job.adaptFailure f) := by
  intro s e s' he
  obtain ⟨e₀, h₀, rfl⟩ := ends_adapt_error.mp he
  exact hf e₀ (h _ _ _ h₀)

theorem Raises.catch {Q : ε → Prop} {job : Job σ ε α} {handler : ε → Job σ ε α} (h : Raises Q job)
    (hh : ∀ e, Q e → Raises P (handler e)) : Raises P (tryCatch job handler) := by
  intro s e s' he
  rcases ends_catch.mp he with ⟨a, _, heq⟩ | ⟨e₀, s₁, h1, h2⟩
  · cases heq
  · exact hh e₀ (h _ _ _ h1) _ _ _ h2

theorem raises_mapM {f : α → Job σ ε β} (h : ∀ a, Raises P (f a)) (as : List α) : Raises P (as.mapM f) := by
  intro s e s' he
  obtain ⟨before, a, later, bs, s₁, -, -, ha⟩ := ends_mapM_error.mp he
  exact h a _ _ _ ha

end

end DeltaLint.Job

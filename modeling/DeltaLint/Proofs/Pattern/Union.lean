import DeltaLint.Pattern.Language
import DeltaLint.Proofs.Pattern.Modes

/-
  DeltaLint.Proofs.Pattern.Union — patterns that differ in one place, and match together what one matches.

  A pattern `Unites` others when it matches what one of them matches. That carries over from a part to the
  sequence, the choice and the group that it is in, and to a repetition that takes it once at most; `(1|2)+`
  matches `12`, which neither `1+` nor `2+` does. So it carries over to patterns that are read from one text
  with different parts in one place: `Place` keeps track of where this place is, seen from the part that is
  read last, and the tokens that follow must not repeat it (`unrepeated`).

  Proved:
  - `unites_concat` / `unites_choice` / `unites_repeated`: what carries over.
  - `Builder.pushAll_unites` / `Builder.Whole.pushAll`: what is read after the place keeps the union.
-/

namespace DeltaLint.Pattern

variable {ι : Type}

/-! ## Patterns -/

/-- The pattern matches what one of the others matches. -/
def Unites (p : Pattern) (q : ι → Pattern) : Prop := ∀ before u rest, Matches p before u rest ↔ ∃ i, Matches (q i) before u rest

/-- The patterns match one after the other. -/
def InSequence : List Pattern → Option Char → List Char → List Char → Prop
  | [], _, u, _ => u = []
  | p :: ps, before, u, rest => ∃ v w, u = v ++ w ∧ Matches p before v (w ++ rest) ∧ InSequence ps (lastOf before v) w rest

theorem matches_concat_iff {ps : List Pattern} {before : Option Char} {u rest : List Char} :
    Matches (concat ps) before u rest ↔ InSequence ps before u rest := by
  induction ps generalizing before u with
  | nil => exact matches_empty_iff
  | cons p ps ih =>
    cases ps with
    | nil =>
      constructor
      · intro h
        exact ⟨u, [], by simp, by simpa [concat] using h, rfl⟩
      · intro hrow
        obtain ⟨v, w, rfl, h, rfl⟩ := hrow
        simpa [concat] using h
    | cons p' ps =>
      show Matches (seq p (concat (p' :: ps))) before u rest ↔ _
      rw [matches_seq_iff]
      simp only [ih]
      rfl

theorem inSequence_append {ps qs : List Pattern} {before : Option Char} {u rest : List Char} :
    InSequence (ps ++ qs) before u rest ↔
      ∃ v w, u = v ++ w ∧ InSequence ps before v (w ++ rest) ∧ InSequence qs (lastOf before v) w rest := by
  induction ps generalizing before u with
  | nil =>
    constructor
    · intro h
      exact ⟨[], u, rfl, rfl, h⟩
    · rintro ⟨v, w, rfl, rfl, h⟩
      exact h
  | cons p ps ih =>
    constructor
    · rintro ⟨v, w, rfl, hp, hrest⟩
      obtain ⟨v', w', rfl, hps, hqs⟩ := ih.mp hrest
      refine ⟨v ++ v', w', (List.append_assoc _ _ _).symm, ⟨v, v', rfl, ?_, hps⟩, ?_⟩
      · rwa [List.append_assoc] at hp
      · rwa [lastOf_append]
    · rintro ⟨_, w, rfl, ⟨v, v', rfl, hp, hps⟩, hqs⟩
      refine ⟨v, v' ++ w, List.append_assoc _ _ _, ?_, ih.mpr ⟨v', w, rfl, hps, ?_⟩⟩
      · rwa [List.append_assoc]
      · rwa [← lastOf_append]

theorem matches_choice_iff {ps : List Pattern} {before : Option Char} {u rest : List Char} :
    Matches (choice ps) before u rest ↔ ∃ p ∈ ps, Matches p before u rest := by
  induction ps with
  | nil =>
    refine iff_of_false matches_nothing ?_
    simp
  | cons p ps ih =>
    cases ps with
    | nil => simp [choice]
    | cons p' ps =>
      show Matches (alt p (choice (p' :: ps))) before u rest ↔ _
      rw [matches_alt_iff, ih]
      simp

theorem unites_concat {p : Pattern} {q : ι → Pattern} (h : Unites p q) (earlier later : List Pattern) :
    Unites (concat (earlier ++ p :: later)) fun i => concat (earlier ++ q i :: later) := by
  have hrow : ∀ before u rest, InSequence (earlier ++ p :: later) before u rest ↔
      ∃ i, InSequence (earlier ++ q i :: later) before u rest := by
    induction earlier with
    | nil =>
      intro before u rest
      constructor
      · intro hrow
        obtain ⟨v, w, rfl, hp, hlater⟩ := hrow
        obtain ⟨i, hq⟩ := (h _ _ _).mp hp
        exact ⟨i, v, w, rfl, hq, hlater⟩
      · intro hrow
        obtain ⟨i, v, w, rfl, hq, hlater⟩ := hrow
        exact ⟨v, w, rfl, (h _ _ _).mpr ⟨i, hq⟩, hlater⟩
    | cons e earlier ih =>
      intro before u rest
      constructor
      · intro hrow
        obtain ⟨v, w, rfl, he, hrest⟩ := hrow
        obtain ⟨i, hi⟩ := (ih _ _ _).mp hrest
        exact ⟨i, v, w, rfl, he, hi⟩
      · intro hrow
        obtain ⟨i, v, w, rfl, he, hi⟩ := hrow
        exact ⟨v, w, rfl, he, (ih _ _ _).mpr ⟨i, hi⟩⟩
  intro before u rest
  simp only [matches_concat_iff]
  exact hrow before u rest

/-- A repetition that takes the pattern once at most. -/
theorem unites_repeated [Nonempty ι] {p : Pattern} {q : ι → Pattern} (h : Unites p q) (least : Nat) {most : Nat}
    (hmost : most ≤ 1) : Unites (repeated p least (some most)) fun i => repeated (q i) least (some most) := by
  intro before u rest
  simp only [matches_repeated_iff]
  have hrow : ∀ k ≤ 1, (InRow p k before u rest ↔ ∃ i, InRow (q i) k before u rest) := by
    intro k hk
    rcases Nat.le_one_iff_eq_zero_or_eq_one.mp hk with rfl | rfl
    · exact (exists_const ι).symm
    · simp only [InRow.one]
      exact h _ _ _
  constructor
  · intro h
    obtain ⟨k, hleast, hk, hp⟩ := h
    obtain ⟨i, hi⟩ := (hrow k (by simp at hk; omega)).mp hp
    exact ⟨i, k, hleast, hk, hi⟩
  · intro h
    obtain ⟨i, k, hleast, hk, hi⟩ := h
    exact ⟨k, hleast, hk, (hrow k (by simp at hk; omega)).mpr ⟨i, hi⟩⟩

/-! ## Parts and branches -/

/-- One of the parts matches. -/
def AnyOf (ps : List Part) (before : Option Char) (u rest : List Char) : Prop := ∃ p ∈ ps, Matches p.pattern before u rest

/-- The branches match together what one of the other lists of branches matches. -/
def UniteBranches (ps : List Part) (qs : ι → List Part) : Prop :=
  ∀ before u rest, AnyOf ps before u rest ↔ ∃ i, AnyOf (qs i) before u rest

theorem anyOf_cons {p : Part} {ps : List Part} {before : Option Char} {u rest : List Char} :
    AnyOf (p :: ps) before u rest ↔ Matches p.pattern before u rest ∨ AnyOf ps before u rest := by
  simp [AnyOf]

theorem UniteBranches.cons [Nonempty ι] {p : Part} {q : ι → Part} {ps : List Part} {qs : ι → List Part}
    (h : Unites p.pattern fun i => (q i).pattern) (hs : UniteBranches ps qs) : UniteBranches (p :: ps) fun i => q i :: qs i := by
  intro before u rest
  simp only [anyOf_cons]
  rw [h, hs]
  exact exists_or.symm

theorem unites_const [Nonempty ι] (p : Pattern) : Unites p fun _ : ι => p := fun _ _ _ => (exists_const ι).symm

theorem uniteBranches_const [Nonempty ι] (ps : List Part) : UniteBranches ps fun _ : ι => ps :=
  fun _ _ _ => (exists_const ι).symm

/-- The part, repeated. -/
def Part.repeated (p : Part) (least : Nat) (most : Option Nat) (fewFirst : Bool) : Part :=
  ⟨p.pattern.repeated least most, p.shape.repetition least most fewFirst, p.depth + 1, true⟩

namespace Group

theorem together_pattern {join : List Pattern → Pattern} (hone : ∀ p, join [p] = p) (joinShapes : List Shape → Shape)
    (ps : List Part) : (together join joinShapes ps).pattern = join (ps.map (·.pattern)) := by
  unfold together
  split
  · exact (hone _).symm
  · rfl

theorem branch_pattern (g : Group) : g.branch.pattern = concat (g.parts.reverse.map (·.pattern)) :=
  together_pattern (fun _ => rfl) _ _

theorem matches_whole {g : Group} {before : Option Char} {u rest : List Char} :
    Matches g.whole.pattern before u rest ↔ AnyOf (g.branch :: g.branches) before u rest := by
  unfold whole
  rw [together_pattern (fun _ => rfl), matches_choice_iff]
  simp only [AnyOf, List.mem_map, List.mem_reverse]
  constructor
  · intro hbranch
    obtain ⟨_, ⟨p, hp, rfl⟩, h⟩ := hbranch
    exact ⟨p, hp, h⟩
  · intro hbranch
    obtain ⟨p, hp, h⟩ := hbranch
    exact ⟨_, ⟨p, hp, rfl⟩, h⟩

/-- The group unites the others, all branches taken together. -/
structure Whole (g : Group) (k : ι → Group) : Prop where
  number : ∀ i, (k i).number = g.number
  flags : ∀ i, (k i).flags = g.flags
  branches : UniteBranches (g.branch :: g.branches) fun i => (k i).branch :: (k i).branches

theorem Whole.pattern {g : Group} {k : ι → Group} (h : Whole g k) : Unites g.whole.pattern fun i => (k i).whole.pattern := by
  intro before u rest
  simp only [matches_whole]
  exact h.branches before u rest

/-- The groups differ in an earlier branch, or in one part of the last branch; `last` says that it is the last part. -/
inductive Unites (g : Group) (k : ι → Group) : (last : Bool) → Prop
  | branches (number : ∀ i, (k i).number = g.number) (flags : ∀ i, (k i).flags = g.flags)
      (parts : ∀ i, (k i).parts = g.parts) (hbranches : UniteBranches g.branches fun i => (k i).branches) :
      Unites g k false
  | parts (later : List Part) {earlier : List Part} {p : Part} {q : ι → Part} (number : ∀ i, (k i).number = g.number)
      (flags : ∀ i, (k i).flags = g.flags) (hbranches : ∀ i, (k i).branches = g.branches)
      (hg : g.parts = later ++ p :: earlier) (hk : ∀ i, (k i).parts = later ++ q i :: earlier)
      (hpattern : Pattern.Unites p.pattern fun i => (q i).pattern) (hrepeatable : ∀ i, (q i).repeatable = p.repeatable) :
      Unites g k later.isEmpty

variable {g : Group} {k : ι → Group} {last : Bool}

theorem Unites.number (h : Unites g k last) (i : ι) : (k i).number = g.number := by
  cases h with
  | branches number _ _ _ => exact number i
  | parts _ number _ _ _ _ _ _ => exact number i

theorem Unites.flags (h : Unites g k last) (i : ι) : (k i).flags = g.flags := by
  cases h with
  | branches _ flags _ _ => exact flags i
  | parts _ _ flags _ _ _ _ _ => exact flags i

theorem branch_eq {g k : Group} (h : k.parts = g.parts) : k.branch = g.branch := by
  unfold branch
  rw [h]

theorem Unites.whole [Nonempty ι] (h : Unites g k last) : Whole g k := by
  refine ⟨h.number, h.flags, ?_⟩
  cases h with
  | branches _ _ parts hbranches =>
    refine UniteBranches.cons ?_ hbranches
    simp only [branch_eq (parts _)]
    exact unites_const _
  | @parts later earlier p q _ _ hbranches hg hk hpattern _ =>
    have hbranch : Pattern.Unites g.branch.pattern fun i => (k i).branch.pattern := by
      simp only [branch_pattern, hg, hk, List.reverse_append, List.reverse_cons, List.append_assoc, List.map_append,
        List.map_cons, List.singleton_append]
      exact unites_concat hpattern _ _
    refine UniteBranches.cons hbranch ?_
    simp only [hbranches]
    exact uniteBranches_const _

theorem Whole.newBranch (h : Whole g k) : Unites g.newBranch (fun i => (k i).newBranch) false :=
  .branches h.number h.flags (fun _ => rfl) h.branches

theorem Unites.add (h : Unites g k last) (p : Part) : Unites (g.add p) (fun i => (k i).add p) false := by
  cases h with
  | branches number flags parts hbranches =>
    exact .branches number flags (fun i => congrArg (p :: ·) (parts i)) hbranches
  | @parts later earlier p' q number flags hbranches hg hk hpattern hrepeatable =>
    exact .parts (p :: later) number flags hbranches (congrArg (p :: ·) hg) (fun i => congrArg (p :: ·) (hk i))
      hpattern hrepeatable

theorem Unites.setFlags (h : Unites g k last) (f : Flags) :
    Unites { g with flags := f } (fun i => { k i with flags := f }) last := by
  cases h with
  | branches number _ parts hbranches => exact .branches number (fun _ => rfl) parts hbranches
  | parts _ number _ hbranches hg hk hpattern hrepeatable =>
    exact .parts _ number (fun _ => rfl) hbranches hg hk hpattern hrepeatable

/-- A part that unites others, added to the same group. -/
theorem unites_add {p : Part} {q : ι → Part} (g : Group) (hpattern : Pattern.Unites p.pattern fun i => (q i).pattern)
    (hrepeatable : ∀ i, (q i).repeatable = p.repeatable) : Unites (g.add p) (fun i => g.add (q i)) true :=
  .parts [] (fun _ => rfl) (fun _ => rfl) (fun _ => rfl) rfl (fun _ => rfl) hpattern hrepeatable

/-- Repeating the last part keeps the union, unless it differs and may be taken more than once. -/
theorem Unites.repeatLast [Nonempty ι] (h : Unites g k last) {least : Nat} {most : Option Nat} (fewFirst : Bool)
    (hlast : last = true → most.any (· ≤ 1) = true) {p : Part} {ps : List Part} (hparts : g.parts = p :: ps) :
    ∃ (q : ι → Part) (qs : ι → List Part), (∀ i, (k i).parts = q i :: qs i) ∧ (∀ i, (q i).repeatable = p.repeatable) ∧
      Unites { g with parts := p.repeated least most fewFirst :: ps }
        (fun i => { k i with parts := (q i).repeated least most fewFirst :: qs i }) last := by
  cases h with
  | branches number flags parts hbranches =>
    exact ⟨fun _ => p, fun _ => ps, fun i => (parts i).trans hparts, fun _ => rfl,
      .branches number flags (fun _ => rfl) hbranches⟩
  | @parts later earlier p' q number flags hbranches hg hk hpattern hrepeatable =>
    cases later with
    | nil =>
      obtain ⟨rfl, rfl⟩ := List.cons.inj (hg.symm.trans hparts)
      obtain ⟨n, rfl, hn⟩ : ∃ n, most = some n ∧ n ≤ 1 := by simpa [Option.any_eq_true] using hlast rfl
      exact ⟨q, fun _ => earlier, hk, hrepeatable, .parts [] (p := p'.repeated least (some n) fewFirst)
        (q := fun i => (q i).repeated least (some n) fewFirst) number flags hbranches rfl (fun _ => rfl)
        (unites_repeated hpattern least hn) fun _ => rfl⟩
    | cons p₀ later =>
      obtain ⟨rfl, rfl⟩ := List.cons.inj (hg.symm.trans hparts)
      exact ⟨fun _ => p₀, fun i => later ++ q i :: earlier, hk, fun _ => rfl,
        .parts (p₀.repeated least most fewFirst :: later) number flags hbranches rfl (fun _ => rfl) hpattern
          hrepeatable⟩

end Group

/-! ## The place -/

/-- Where the parts differ: in the group so many out from the innermost, and there in the last part or before it. -/
structure Place where
  depth : Nat
  last : Bool
  deriving DecidableEq, Repr

namespace Place

/-- The place after a token. -/
def next (l : Place) : Token → Place
  | .openGroup _ _ _ => ⟨l.depth + 1, false⟩
  | .closeGroup =>
    match l.depth with
    | 0 => ⟨0, true⟩
    | n + 1 => ⟨n, false⟩
  | .repetition _ _ _ => l
  | _ => ⟨l.depth, false⟩

/-- The token does not repeat what is in the place, unless as an option. -/
def allows (l : Place) : Token → Bool
  | .repetition _ most _ => !l.last || most.any (· ≤ 1)
  | _ => true

end Place

/-- None of the tokens repeats what is in the place. -/
def unrepeated : Place → List Token → Bool
  | _, [] => true
  | l, x :: xs => l.allows x && unrepeated (l.next x) xs

namespace Builder

/-- What was read so far differs in the place, and the groups around it unite the others. -/
inductive Unites (b : Builder) (c : ι → Builder) : Place → Prop
  | inner {last : Bool} (outer : ∀ i, (c i).outer = b.outer) (groups : ∀ i, (c i).groups = b.groups)
      (names : ∀ i, (c i).names = b.names) (hinner : Group.Unites b.inner (fun i => (c i).inner) last) :
      Unites b c ⟨0, last⟩
  | outer (top : List Group) {rest : List Group} {g : Group} {k : ι → Group} {last : Bool} (inner : ∀ i, (c i).inner = b.inner)
      (groups : ∀ i, (c i).groups = b.groups) (names : ∀ i, (c i).names = b.names) (hb : b.outer = top ++ g :: rest)
      (hc : ∀ i, (c i).outer = top ++ k i :: rest) (hgroup : Group.Unites g k last) :
      Unites b c ⟨top.length + 1, false⟩

variable {b b' : Builder} {c : ι → Builder} {l : Place}

theorem Unites.groups (h : Unites b c l) (i : ι) : (c i).groups = b.groups := by
  cases h with
  | inner _ groups _ _ => exact groups i
  | outer _ _ groups _ _ _ _ => exact groups i

theorem Unites.names (h : Unites b c l) (i : ι) : (c i).names = b.names := by
  cases h with
  | inner _ _ names _ => exact names i
  | outer _ _ _ names _ _ _ => exact names i

/-- A change of the innermost group, where that keeps the union. -/
theorem Unites.mapInner (h : Unites b c l) (change : Group → Group) (next : Bool → Bool)
    (hchange : ∀ {g : Group} {k : ι → Group} {last : Bool}, Group.Unites g k last →
      Group.Unites (change g) (fun i => change (k i)) (next last)) (hnext : next false = false) :
    Unites { b with inner := change b.inner } (fun i => { c i with inner := change (c i).inner }) ⟨l.depth, next l.last⟩ := by
  cases h with
  | inner outer groups names hinner => exact .inner outer groups names (hchange hinner)
  | outer _ inner groups names hb hc hgroup =>
    rw [hnext]
    exact .outer _ (fun i => congrArg change (inner i)) groups names hb hc hgroup

theorem push_openGroup_unites (h : Unites b c l) {keeps : Bool} {name : Option (List Char)} {f : Flags}
    (hb : b.openGroup keeps name f = .ok b') :
    ∃ c' : ι → Builder, (∀ i, (c i).openGroup keeps name f = .ok (c' i)) ∧ Unites b' c' ⟨l.depth + 1, false⟩ := by
  unfold openGroup at hb
  split at hb
  · cases hb
  · rename_i hname
    cases hb
    refine ⟨fun i => ⟨.start (if keeps then some b.groups else none) f, (c i).inner :: (c i).outer,
      if keeps then b.groups + 1 else b.groups, name.toList ++ b.names⟩, fun i => ?_, ?_⟩
    · unfold openGroup
      rw [h.names, h.groups, if_neg hname]
    · cases h with
      | inner outer _ _ hinner =>
        exact .outer [] (fun _ => rfl) (fun _ => rfl) (fun _ => rfl) rfl (fun i => congrArg _ (outer i)) hinner
      | @outer top rest g k last inner _ _ hb hc hgroup =>
        exact .outer (b.inner :: top) (fun _ => rfl) (fun _ => rfl) (fun _ => rfl) (congrArg _ hb)
          (fun i => by rw [inner, hc]; rfl) hgroup

/-- The innermost group is closed. -/
theorem closeGroup_eq {g : Group} {gs : List Group} (h : b.outer = g :: gs) : b.closeGroup =
    .ok { b with
      inner := g.add ⟨b.inner.whole.pattern, b.inner.number.elim b.inner.whole.shape fun n => .group n b.inner.whole.shape,
        b.inner.whole.depth + 1, true⟩
      outer := gs } := by
  unfold closeGroup
  rw [h]

theorem closeGroup_ok (h : b.closeGroup = .ok b') : ∃ g gs, b.outer = g :: gs := by
  unfold closeGroup at h
  split at h
  · rename_i g gs hg
    exact ⟨g, gs, hg⟩
  · cases h

/-- What was read so far differs in the innermost group, which unites the others as a whole. -/
structure Whole (b : Builder) (c : ι → Builder) : Prop where
  outer : ∀ i, (c i).outer = b.outer
  groups : ∀ i, (c i).groups = b.groups
  names : ∀ i, (c i).names = b.names
  inner : Group.Whole b.inner fun i => (c i).inner

/-- Closing the group leaves the place in the last part of the one around it. -/
theorem Whole.closeGroup (h : Whole b c) (hb : b.closeGroup = .ok b') :
    ∃ c' : ι → Builder, (∀ i, (c i).closeGroup = .ok (c' i)) ∧ Unites b' c' ⟨0, true⟩ := by
  obtain ⟨g, gs, hg⟩ := closeGroup_ok hb
  rw [closeGroup_eq hg] at hb
  cases hb
  exact ⟨_, fun i => closeGroup_eq ((h.outer i).trans hg),
    .inner (fun _ => rfl) h.groups h.names (Group.unites_add g h.inner.pattern fun _ => rfl)⟩

theorem Whole.bar (h : Whole b c) :
    Unites { b with inner := b.inner.newBranch } (fun i => { c i with inner := (c i).inner.newBranch }) ⟨0, false⟩ :=
  .inner h.outer h.groups h.names h.inner.newBranch

/-- Once every group is closed, the whole text is united. -/
theorem Unites.whole [Nonempty ι] (h : Unites b c l) (houter : b.outer = []) : Whole b c := by
  cases h with
  | inner outer groups names hinner => exact ⟨outer, groups, names, hinner.whole⟩
  | outer _ _ _ _ hb _ _ =>
    rw [houter] at hb
    simp at hb

theorem push_closeGroup_unites [Nonempty ι] (h : Unites b c l) (hb : b.closeGroup = .ok b') :
    ∃ c' : ι → Builder, (∀ i, (c i).closeGroup = .ok (c' i)) ∧ Unites b' c' (l.next .closeGroup) := by
  cases h with
  | inner outer groups names hinner => exact Whole.closeGroup ⟨outer, groups, names, hinner.whole⟩ hb
  | @outer top rest g k last inner groups names houter hc hgroup =>
    cases top with
    | nil =>
      rw [closeGroup_eq houter] at hb
      cases hb
      refine ⟨_, fun i => closeGroup_eq (hc i), .inner (fun _ => rfl) groups names ?_⟩
      simp only [inner]
      exact hgroup.add _
    | cons t top =>
      rw [closeGroup_eq houter] at hb
      cases hb
      refine ⟨_, fun i => closeGroup_eq (hc i), .outer _ (fun i => ?_) groups names rfl (fun _ => rfl) hgroup⟩
      simp only [inner]

/-- The last part of the innermost group is repeated. -/
theorem repetition_eq {p : Part} {ps : List Part} {least : Nat} {most : Option Nat} {fewFirst : Bool}
    (h : b.inner.parts = p :: ps) (hp : p.repeatable = true) : b.repetition least most fewFirst =
      .ok { b with inner := { b.inner with parts := p.repeated least most fewFirst :: ps } } := by
  unfold repetition
  rw [h]
  simp [hp, Part.repeated]

theorem repetition_ok {least : Nat} {most : Option Nat} {fewFirst : Bool} (h : b.repetition least most fewFirst = .ok b') :
    ∃ p ps, b.inner.parts = p :: ps ∧ p.repeatable = true := by
  unfold repetition at h
  split at h
  · rename_i p ps hparts
    split at h
    · cases h
    · rename_i hp
      exact ⟨p, ps, hparts, by simpa using hp⟩
  · cases h

theorem push_repetition_unites [Nonempty ι] (h : Unites b c l) {least : Nat} {most : Option Nat} {fewFirst : Bool}
    (hl : l.last = true → most.any (· ≤ 1) = true) (hb : b.repetition least most fewFirst = .ok b') :
    ∃ c' : ι → Builder, (∀ i, (c i).repetition least most fewFirst = .ok (c' i)) ∧ Unites b' c' l := by
  obtain ⟨p, ps, hparts, hp⟩ := repetition_ok hb
  rw [repetition_eq hparts hp] at hb
  cases hb
  cases h with
  | outer _ inner groups names houter hc hgroup =>
    refine ⟨_, fun i => repetition_eq ((congrArg _ (inner i)).trans hparts) hp, .outer _ (fun i => ?_) groups names houter hc hgroup⟩
    simp only [inner]
  | inner outer groups names hinner =>
    obtain ⟨q, qs, hq, hrepeatable, hnext⟩ := hinner.repeatLast fewFirst hl hparts
    exact ⟨_, fun i => repetition_eq (hq i) ((hrepeatable i).trans hp), .inner outer groups names hnext⟩

/-- A token that does not repeat the place keeps the union. -/
theorem push_unites [Nonempty ι] (h : Unites b c l) {x : Token} (hx : l.allows x = true) (hb : b.push x = .ok b') :
    ∃ c' : ι → Builder, (∀ i, (c i).push x = .ok (c' i)) ∧ Unites b' c' (l.next x) := by
  cases x with
  | openGroup keeps name f => exact push_openGroup_unites h hb
  | closeGroup => exact push_closeGroup_unites h hb
  | bar =>
    cases hb
    exact ⟨_, fun _ => rfl, h.mapInner Group.newBranch (fun _ => false) (fun hg => hg.whole.newBranch) rfl⟩
  | setFlags f =>
    cases hb
    exact ⟨_, fun _ => rfl, h.mapInner (fun g => { g.add ⟨.empty, .empty, 0, false⟩ with flags := f }) (fun _ => false)
      (fun hg => (hg.add _).setFlags f) rfl⟩
  | repetition least most fewFirst =>
    refine push_repetition_unites h (fun hlast => ?_) hb
    simpa [Place.allows, hlast] using hx
  | item p depth =>
    cases hb
    exact ⟨_, fun _ => rfl, h.mapInner (·.add ⟨p, itemShape p, depth, true⟩) (fun _ => false) (fun hg => hg.add _) rfl⟩

/-- What is read after the place keeps the union, as long as it does not repeat the place. -/
theorem pushAll_unites [Nonempty ι] (h : Unites b c l) {xs : List Token} (hxs : unrepeated l xs = true)
    (hb : b.pushAll xs = .ok b') :
    ∃ (c' : ι → Builder) (l' : Place), (∀ i, (c i).pushAll xs = .ok (c' i)) ∧ Unites b' c' l' := by
  induction xs generalizing b c l with
  | nil =>
    cases hb
    exact ⟨c, l, fun _ => rfl, h⟩
  | cons x xs ih =>
    obtain ⟨d, hd, hrest⟩ := pushAll_cons.mp hb
    rw [unrepeated, Bool.and_eq_true] at hxs
    obtain ⟨e, he, hnext⟩ := push_unites h hxs.1 hd
    obtain ⟨c', l', hc', hlast⟩ := ih hnext hxs.2 hrest
    exact ⟨c', l', fun i => pushAll_cons.mpr ⟨e i, he i, hc' i⟩, hlast⟩

theorem finish_ok {p : Part} (h : b.finish = .ok p) : b.outer = [] ∧ p = b.inner.whole := by
  unfold finish at h
  split at h
  · cases h
  · rename_i houter
    split at h
    · cases h
    · cases h
      exact ⟨by simpa using houter, rfl⟩

/-- The tokens go on with the end of a branch. -/
def endsBranch : List Token → Bool
  | [] | .bar :: _ | .closeGroup :: _ => true
  | _ => false

/-- What is read after a group that unites others, from the end of its last branch on, keeps the union. -/
theorem Whole.pushAll [Nonempty ι] (h : Whole b c) {xs : List Token} (hends : endsBranch xs = true)
    (hxs : unrepeated ⟨0, false⟩ xs = true) (hb : b.pushAll xs = .ok b') (houter : b'.outer = []) :
    ∃ c' : ι → Builder, (∀ i, (c i).pushAll xs = .ok (c' i)) ∧ Whole b' c' := by
  cases xs with
  | nil =>
    cases hb
    exact ⟨c, fun _ => rfl, h⟩
  | cons x xs =>
    obtain ⟨d, hd, hrest⟩ := pushAll_cons.mp hb
    have hnext : unrepeated (Place.next ⟨0, false⟩ x) xs = true := ((Bool.and_eq_true _ _).mp hxs).2
    have hplace : ∃ e : ι → Builder, (∀ i, (c i).push x = .ok (e i)) ∧ Unites d e (Place.next ⟨0, false⟩ x) := by
      cases x with
      | bar =>
        cases hd
        exact ⟨_, fun _ => rfl, h.bar⟩
      | closeGroup => exact h.closeGroup hd
      | _ => cases hends
    obtain ⟨e, he, hunites⟩ := hplace
    obtain ⟨c', l', hc', hlast⟩ := pushAll_unites hunites hnext hrest
    exact ⟨c', fun i => pushAll_cons.mpr ⟨e i, he i, hc' i⟩, hlast.whole houter⟩

end Builder

end DeltaLint.Pattern

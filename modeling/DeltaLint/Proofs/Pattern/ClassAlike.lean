import DeltaLint.Proofs.Pattern.Length
import Mathlib.Data.List.Forall2

/-
  DeltaLint.Proofs.Pattern.ClassAlike — classes that differ only in which characters they hold.

  Whether the rest of a class can be read, and how deep the class is nested, does not depend on the sets
  that were read so far: it depends on how deep they are, and on whether they are none, one or more.
  States that agree in this are `Alike`, and what is read in one of them is read in the other, to the
  same depth (`classBody_alike`).
-/

namespace DeltaLint.Pattern

open Unicode

/-! ## Depths -/

/-- The greatest of the numbers, or 0. -/
def greatest (ns : List Nat) : Nat := ns.foldl max 0

theorem greatest_cons (n : Nat) (ns : List Nat) : greatest (n :: ns) = max n (greatest ns) := by
  have hfoldl : ∀ m, ns.foldl max m = max m (greatest ns) := by
    unfold greatest
    induction ns with
    | nil => exact fun m => (Nat.max_zero m).symm
    | cons n ns ih =>
      intro m
      rw [List.foldl_cons, List.foldl_cons, ih (max m n), ih (max 0 n)]
      omega
  rw [greatest, List.foldl_cons, hfoldl, Nat.zero_max]

theorem greatest_append (ms ns : List Nat) : greatest (ms ++ ns) = max (greatest ms) (greatest ns) := by
  induction ms with
  | nil => exact (Nat.zero_max _).symm
  | cons m ms ih => rw [List.cons_append, greatest_cons, greatest_cons, ih, Nat.max_assoc]

theorem greatest_reverse (ns : List Nat) : greatest ns.reverse = greatest ns := by
  induction ns with
  | nil => rfl
  | cons n ns ih =>
    have hnil : greatest [] = 0 := rfl
    rw [List.reverse_cons, greatest_append, ih, greatest_cons, greatest_cons, hnil]
    omega

/-! ## Open classes -/

namespace OpenClass

structure Alike (k k' : OpenClass) : Prop where
  negated : k.negated = k'.negated
  pending : k.pending.map (·.2.depth) = k'.pending.map (·.2.depth)
  deepest : greatest (k.members.map (·.depth)) = greatest (k'.members.map (·.depth))
  count : min 2 k.members.length = min 2 k'.members.length

theorem current_depth (k : OpenClass) :
    k.current.depth = (if 2 ≤ k.members.length then 1 else 0) + greatest (k.members.map (·.depth)) := by
  unfold current
  split
  · rename_i hnil
    simp [hnil, greatest]
  · rename_i m hone
    simp [hone, greatest]
  · rename_i hnil hone
    have htwo : 2 ≤ k.members.length := by
      match hms : k.members with
      | [] => exact absurd hms hnil
      | [m] => exact absurd hms (hone m)
      | _ :: _ :: ms => simp
    rw [if_pos htwo]
    rfl

variable {k k' : OpenClass}

theorem Alike.refl (k : OpenClass) : Alike k k := ⟨rfl, rfl, rfl, rfl⟩

theorem Alike.current (h : Alike k k') : k.current.depth = k'.current.depth := by
  have hcount := h.count
  rw [current_depth, current_depth, h.deepest]
  split <;> split <;> omega

theorem Alike.joined (h : Alike k k') (f : Flags) : (k.joined f).depth = (k'.joined f).depth := by
  have hcurrent := h.current
  have hpending := h.pending
  unfold OpenClass.joined
  cases hk : k.pending with
  | none =>
    rw [hk] at hpending
    rw [Option.map_eq_none_iff.mp hpending.symm]
    exact hcurrent
  | some p =>
    rw [hk] at hpending
    obtain ⟨p', hk', hdepth⟩ := Option.map_eq_some_iff.mp hpending.symm
    rw [hk']
    dsimp only at hdepth ⊢
    rw [hcurrent, hdepth]

theorem Alike.add (h : Alike k k') {m m' : Nested} (hm : m.depth = m'.depth) : Alike (k.add m) (k'.add m') := by
  have hcount := h.count
  refine ⟨h.negated, h.pending, ?_, ?_⟩
  · rw [OpenClass.add, OpenClass.add, List.map_cons, List.map_cons, greatest_cons, greatest_cons, hm, h.deepest]
  · simp only [OpenClass.add, List.length_cons]
    omega

theorem Alike.operator (h : Alike k k') (f : Flags) (o : SetOperator) : Alike (k.operator f o) (k'.operator f o) :=
  ⟨h.negated, congrArg some (h.joined f), rfl, rfl⟩

theorem Alike.close (h : Alike k k') {f : Flags} {m : Nested} (hm : k.close f = .ok m) :
    ∃ m', k'.close f = .ok m' ∧ m.depth = m'.depth := by
  have hall : ∀ s s', (∃ t, f.complement k.negated s = .ok t) → ∃ t', f.complement k'.negated s' = .ok t' := by
    intro s s' ⟨t, ht⟩
    rw [← h.negated]
    unfold Flags.complement at ht ⊢
    split
    · rename_i hn
      rw [if_pos hn] at ht
      split
      · exact ⟨_, rfl⟩
      · rename_i hu
        rw [if_neg hu] at ht
        cases ht
    · exact ⟨_, rfl⟩
  obtain ⟨t, ht, hpair⟩ := bind_eq_ok.mp hm
  obtain ⟨t', ht'⟩ := hall _ (f.fold (k'.joined f).set) ⟨t, ht⟩
  cases hpair
  refine ⟨⟨t', (k'.joined f).depth + 1⟩, ?_, by rw [h.joined f]⟩
  unfold OpenClass.close
  dsimp only
  rw [ht']
  rfl

end OpenClass

/-! ## States -/

inductive ClassState.Alike : ClassState → ClassState → Prop where
  | more {k k' : OpenClass} {outer outer' : List OpenClass} (hk : k.Alike k') (houter : List.Forall₂ OpenClass.Alike outer outer') :
      Alike (.more k outer) (.more k' outer')
  | closed {m m' : Nested} (h : m.depth = m'.depth) : Alike (.closed m) (.closed m')

variable {f : Flags} {k k' : OpenClass} {outer outer' : List OpenClass}

theorem closeClass_alike (hk : k.Alike k') (houter : List.Forall₂ OpenClass.Alike outer outer') {x : ClassState}
    (hx : closeClass f k outer = .ok x) : ∃ x', closeClass f k' outer' = .ok x' ∧ x.Alike x' := by
  obtain ⟨m, hm, rfl⟩ := map_eq_ok.mp hx
  obtain ⟨m', hm', hdepth⟩ := hk.close hm
  unfold closeClass
  rw [hm']
  cases houter with
  | nil => exact ⟨_, rfl, .closed hdepth⟩
  | cons hinner houter => exact ⟨_, rfl, .more (hinner.add hdepth) houter⟩

theorem innerClass_alike (hk : k.Alike k') (houter : List.Forall₂ OpenClass.Alike outer outer') {t rest : List Char}
    {x : ClassState} (hx : innerClass f k outer t = .ok (x, rest)) :
    ∃ x', innerClass f k' outer' t = .ok (x', rest) ∧ x.Alike x' := by
  unfold innerClass at hx ⊢
  cases hnamed : namedClass? f t with
  | none =>
    rw [hnamed] at hx
    obtain ⟨⟨inner, t'⟩, hinner, hpair⟩ := map_eq_ok.mp hx
    cases hpair
    exact ⟨.more inner (k' :: outer'), by rw [hinner]; rfl, .more (.refl inner) (.cons hk houter)⟩
  | some p =>
    obtain ⟨r, t'⟩ := p
    rw [hnamed] at hx
    obtain ⟨s, rfl, hpair⟩ := map_eq_ok.mp hx
    cases hpair
    exact ⟨.more (k'.add ⟨s, 0⟩) outer', rfl, .more (hk.add rfl) houter⟩

theorem classStep_alike (hk : k.Alike k') (houter : List.Forall₂ OpenClass.Alike outer outer') {t rest : List Char}
    {x : ClassState} (hx : classStep f k outer t = .ok (x, rest)) :
    ∃ x', classStep f k' outer' t = .ok (x', rest) ∧ x.Alike x' := by
  unfold classStep at hx ⊢
  split at hx
  · cases hx
  · exact innerClass_alike hk houter hx
  · obtain ⟨y, hy, hpair⟩ := map_eq_ok.mp hx
    cases hpair
    obtain ⟨y', hy', halike⟩ := closeClass_alike hk houter hy
    exact ⟨y', by simp only [hy']; rfl, halike⟩
  · cases hx
    exact ⟨_, rfl, .more (hk.operator f .both) houter⟩
  · cases hx
    exact ⟨_, rfl, .more (hk.operator f .minus) houter⟩
  · cases hx
    exact ⟨_, rfl, .more (hk.operator f .either) houter⟩
  · obtain ⟨⟨m, t'⟩, hm, hpair⟩ := map_eq_ok.mp hx
    cases hpair
    exact ⟨.more (k'.add m) outer', by rw [hm]; rfl, .more (hk.add rfl) houter⟩

/-- What is read of a class in one state is read in a state like it, to the same depth. -/
theorem classBody_alike {n : Nat} {t rest : List Char} {m : Nested} (hk : k.Alike k')
    (houter : List.Forall₂ OpenClass.Alike outer outer') (hm : classBody f n k outer t = .ok (m, rest)) :
    ∃ m', classBody f n k' outer' t = .ok (m', rest) ∧ m.depth = m'.depth := by
  induction n generalizing k k' outer outer' t with
  | zero => cases hm
  | succ n ih =>
    obtain ⟨⟨x, t'⟩, hx, hrest⟩ := bind_eq_ok.mp hm
    obtain ⟨x', hx', halike⟩ := classStep_alike hk houter hx
    unfold classBody
    rw [hx']
    cases halike with
    | more hk houter => exact ih hk houter hrest
    | closed hdepth =>
      cases hrest
      exact ⟨_, rfl, hdepth⟩

end DeltaLint.Pattern

import DeltaLint.Proofs.Pattern.Tokens
import DeltaLint.Proofs.Pattern.TokenHole

/-
  DeltaLint.Proofs.Pattern.Nesting — how deep a pattern is nested does not depend on the numbers in it.

  One reading covers another when whatever can be read on in the first can be read on in the second and
  is nested no deeper there. What fills a hole makes one branch or more of its group. With the numbers
  0 to 9 and 90 to 99 in it, a hole makes a branch before it and two parts after it, which covers every
  other filling with the same first and last digit (`reads_fill`).
-/

namespace DeltaLint.Pattern

open Unicode

/-! ## Depths of groups -/

/-- The greatest depth of the parts. -/
def height (ps : List Part) : Nat := greatest (ps.map (·.depth))

theorem height_cons (p : Part) (ps : List Part) : height (p :: ps) = max p.depth (height ps) := greatest_cons _ _

theorem height_append (ps qs : List Part) : height (ps ++ qs) = max (height ps) (height qs) := by
  rw [height, List.map_append, greatest_append]
  rfl

theorem height_reverse (ps : List Part) : height ps.reverse = height ps := by
  rw [height, List.map_reverse, greatest_reverse]
  rfl

theorem together_depth (join : List Pattern → Pattern) (joinShapes : List Shape → Shape) (ps : List Part) :
    (Group.together join joinShapes ps).depth = (if 2 ≤ ps.length then 1 else 0) + height ps := by
  match ps with
  | [] => rfl
  | [p] => simp [Group.together, height, greatest]
  | p :: q :: ps => simp [Group.together, height, greatest]

namespace Group

theorem branch_depth (g : Group) : g.branch.depth = (if 2 ≤ g.parts.length then 1 else 0) + height g.parts := by
  rw [branch, together_depth, List.length_reverse, height_reverse]

theorem whole_depth (g : Group) :
    g.whole.depth = (if g.branches = [] then 0 else 1) + max g.branch.depth (height g.branches) := by
  rw [whole, together_depth, List.length_reverse, height_reverse, height_cons]
  cases g.branches with
  | nil => rfl
  | cons b bs => simp

end Group

/-! ## Covering -/

/-- A part that is nested no deeper than another, and can be repeated if that can. -/
structure Part.Covers (p q : Part) : Prop where
  depth : q.depth ≤ p.depth
  repeatable : q.repeatable = p.repeatable

theorem Part.Covers.refl (p : Part) : p.Covers p := ⟨Nat.le_refl _, rfl⟩

theorem height_le {ps qs : List Part} (h : List.Forall₂ Part.Covers ps qs) : height qs ≤ height ps := by
  induction h with
  | nil => exact Nat.le_refl _
  | cons hp _ ih =>
    have := hp.depth
    rw [height_cons, height_cons]
    omega

/-- A group covers another with the same parts after the hole. Of the parts before it only the depth counts: in the
first group they are the end of a branch, and another branch is as deep as what they are in the second. -/
inductive Group.Covers : Group → Group → Prop where
  | same {g k : Group} (hflags : g.flags = k.flags) (hparts : List.Forall₂ Part.Covers g.parts k.parts)
      (hheight : height k.branches ≤ height g.branches) (hfirst : g.branches = [] → k.branches = []) : Covers g k
  | filled {g k : Group} (ps qs as bs : List Part) (hflags : g.flags = k.flags)
      (hparts : List.Forall₂ Part.Covers ps qs) (hps : ps ≠ []) (hg : g.parts = ps ++ as) (hk : k.parts = qs ++ bs)
      (has : as ≠ []) (hbranches : g.branches ≠ []) (hbs : 1 + height bs ≤ max 1 (height g.branches))
      (hheight : height k.branches ≤ max 1 (height g.branches)) : Covers g k

namespace Group.Covers

variable {g k : Group}

theorem refl (g : Group) : g.Covers g :=
  .same rfl (List.forall₂_same.mpr fun p _ => .refl p) (Nat.le_refl _) id

theorem flags (h : g.Covers k) : g.flags = k.flags := by
  cases h with
  | same hflags _ _ _ => exact hflags
  | filled _ _ _ _ hflags _ _ _ _ _ _ _ => exact hflags

theorem add (h : g.Covers k) {p q : Part} (hp : p.Covers q) : (g.add p).Covers (k.add q) := by
  cases h with
  | same hflags hparts hheight hfirst => exact .same hflags (.cons hp hparts) hheight hfirst
  | filled ps qs as bs hflags hparts _ hg hk has hbranches hbs hheight =>
    exact .filled (_ :: ps) (_ :: qs) as bs hflags (.cons hp hparts) (List.cons_ne_nil _ _) (by rw [Group.add, hg]; rfl)
      (by rw [Group.add, hk]; rfl) has hbranches hbs hheight

theorem setFlags (h : g.Covers k) (f : Flags) : Group.Covers { g with flags := f } { k with flags := f } := by
  cases h with
  | same _ hparts hheight hfirst => exact .same rfl hparts hheight hfirst
  | filled ps qs as bs _ hparts hps hg hk has hbranches hbs hheight =>
    exact .filled ps qs as bs rfl hparts hps hg hk has hbranches hbs hheight

/-- The last part may be replaced. -/
theorem replace (h : g.Covers k) {p : Part} {ps : List Part} (hp : g.parts = p :: ps) :
    ∃ q qs, k.parts = q :: qs ∧ p.Covers q ∧
      ∀ {p' q' : Part}, p'.Covers q' → Group.Covers { g with parts := p' :: ps } { k with parts := q' :: qs } := by
  cases h with
  | same hflags hparts hheight hfirst =>
    rw [hp] at hparts
    obtain ⟨q, qs, hq, hqs, hk⟩ := List.forall₂_cons_left_iff.mp hparts
    exact ⟨q, qs, hk, hq, fun hq' => .same hflags (.cons hq' hqs) hheight hfirst⟩
  | filled ps' qs' as bs hflags hparts hps hg hk has hbranches hbs hheight =>
    cases hparts with
    | nil => exact absurd rfl hps
    | @cons p₀ q ps₀ qs hq hqs =>
      rw [hp] at hg
      obtain ⟨rfl, rfl⟩ := List.cons.inj hg
      exact ⟨q, qs ++ bs, hk, hq, fun hq' => .filled _ _ as bs hflags (.cons hq' hqs) (List.cons_ne_nil _ _) rfl rfl has
        hbranches hbs hheight⟩

theorem first (h : g.Covers k) (hg : g.branches = []) : k.branches = [] := by
  cases h with
  | same _ _ _ hfirst => exact hfirst hg
  | filled _ _ _ _ _ _ _ _ _ _ hbranches _ _ => exact absurd hg hbranches

/-- No branch is nested deeper. -/
theorem heights (h : g.Covers k) : max k.branch.depth (height k.branches) ≤ max g.branch.depth (height g.branches) := by
  rw [Group.branch_depth, Group.branch_depth]
  cases h with
  | same _ hparts hheight _ =>
    have hlength := hparts.length_eq
    have hle := height_le hparts
    rw [hlength]
    omega
  | filled ps qs as bs _ hparts hps hg hk has _ hbs hheight =>
    have hle := height_le hparts
    have hpos : 1 ≤ ps.length := List.length_pos_iff.mpr hps
    have hpos' : 1 ≤ as.length := List.length_pos_iff.mpr has
    have htwo : 2 ≤ g.parts.length := by
      rw [hg, List.length_append]
      omega
    rw [if_pos htwo, hg, hk, height_append, height_append]
    split <;> omega

theorem newBranch (h : g.Covers k) : g.newBranch.Covers k.newBranch := by
  refine .same h.flags .nil ?_ fun hnil => absurd hnil (List.cons_ne_nil _ _)
  rw [Group.newBranch, Group.newBranch, height_cons, height_cons]
  exact h.heights

theorem whole (h : g.Covers k) : k.whole.depth ≤ g.whole.depth := by
  have hheights := h.heights
  have hfirst := h.first
  rw [Group.whole_depth, Group.whole_depth]
  by_cases hg : g.branches = []
  · rw [if_pos hg, if_pos (hfirst hg)]
    omega
  · rw [if_neg hg]
    split <;> omega

end Group.Covers

/-- A builder covers another group by group. -/
structure Builder.Covers (b d : Builder) : Prop where
  inner : b.inner.Covers d.inner
  outer : List.Forall₂ Group.Covers b.outer d.outer
  names : b.names = d.names

namespace Builder.Covers

variable {b d b' : Builder}

theorem refl (b : Builder) : b.Covers b := ⟨.refl _, List.forall₂_same.mpr fun g _ => .refl g, rfl⟩

theorem repetition (h : b.Covers d) {least : Nat} {most : Option Nat} {fewFirst : Bool}
    (hb : b.repetition least most fewFirst = .ok b') : ∃ d', d.repetition least most fewFirst = .ok d' ∧ b'.Covers d' := by
  unfold Builder.repetition at hb ⊢
  split at hb
  · rename_i p ps hp
    split at hb
    · cases hb
    · rename_i hrepeatable
      cases hb
      obtain ⟨q, qs, hq, hcovers, hreplace⟩ := h.inner.replace hp
      rw [hq]
      dsimp only
      rw [hcovers.repeatable, if_neg hrepeatable]
      exact ⟨_, rfl, hreplace ⟨Nat.succ_le_succ hcovers.depth, rfl⟩, h.outer, h.names⟩
  · cases hb

theorem openGroup (h : b.Covers d) {keeps : Bool} {name : Option (List Char)} {f : Flags}
    (hb : b.openGroup keeps name f = .ok b') : ∃ d', d.openGroup keeps name f = .ok d' ∧ b'.Covers d' := by
  unfold Builder.openGroup at hb ⊢
  rw [← h.names]
  split at hb
  · cases hb
  · rename_i hname
    cases hb
    rw [if_neg hname]
    exact ⟨_, rfl, .same rfl .nil (Nat.le_refl _) fun _ => rfl, .cons h.inner h.outer, rfl⟩

theorem closeGroup (h : b.Covers d) (hb : b.closeGroup = .ok b') : ∃ d', d.closeGroup = .ok d' ∧ b'.Covers d' := by
  have houter := h.outer
  have hwhole := h.inner.whole
  unfold Builder.closeGroup at hb ⊢
  split at hb
  · rename_i g gs hg
    cases hb
    rw [hg] at houter
    obtain ⟨k, ks, hk, hks, heq⟩ := List.forall₂_cons_left_iff.mp houter
    rw [heq]
    exact ⟨_, rfl, hk.add ⟨Nat.succ_le_succ hwhole, rfl⟩, hks, h.names⟩
  · cases hb

/-- What can be read on in a reading can be read on in one that it covers. -/
theorem push (h : b.Covers d) {x y : Token} (hxy : x = y ∨ x.SameDepth y) (hb : b.push x = .ok b') :
    ∃ d', d.push y = .ok d' ∧ b'.Covers d' := by
  rcases hxy with rfl | ⟨p, q, n, rfl, rfl⟩
  · cases x with
    | openGroup keeps name f => exact h.openGroup hb
    | closeGroup => exact h.closeGroup hb
    | bar =>
      cases hb
      exact ⟨_, rfl, h.inner.newBranch, h.outer, h.names⟩
    | setFlags f =>
      cases hb
      exact ⟨_, rfl, (h.inner.add (.refl _)).setFlags f, h.outer, h.names⟩
    | repetition least most fewFirst => exact h.repetition hb
    | item p n =>
      cases hb
      exact ⟨_, rfl, h.inner.add (.refl _), h.outer, h.names⟩
  · cases hb
    exact ⟨_, rfl, h.inner.add ⟨Nat.le_refl n, rfl⟩, h.outer, h.names⟩

theorem finish (h : b.Covers d) {p : Part} (hb : b.finish = .ok p) : ∃ q, d.finish = .ok q := by
  have hwhole := h.inner.whole
  have hempty : d.outer.isEmpty = b.outer.isEmpty := by
    rw [Bool.eq_iff_iff, List.isEmpty_iff_length_eq_zero, List.isEmpty_iff_length_eq_zero, h.outer.length_eq]
  unfold Builder.finish at hb ⊢
  split at hb
  · cases hb
  · rename_i houter
    split at hb
    · cases hb
    · rename_i hdepth
      rw [hempty, if_neg houter, if_neg (by omega)]
      exact ⟨_, rfl⟩

theorem reads (h : b.Covers d) {t : List Char} {p : Part} (hp : Reads b t p) : ∃ q, Reads d t q := by
  induction hp generalizing d with
  | done hskip hfinish =>
    obtain ⟨q, hq⟩ := h.finish hfinish
    rw [h.inner.flags] at hskip
    exact ⟨q, .done hskip hq⟩
  | next hskip htoken hpush _ ih =>
    obtain ⟨d', hd', hcovers⟩ := h.push (Or.inl rfl) hpush
    obtain ⟨q, hq⟩ := ih hcovers
    rw [h.inner.flags] at hskip htoken
    exact ⟨q, .next hskip htoken hd' hq⟩

end Builder.Covers

/-! ## Fillings -/

variable {h : Hole}

/-- The bounds on the parts and branches of a group that the marks in a hole keep. -/
structure Group.Bounded (g : Group) (n : Nat) : Prop where
  parts : 1 + height g.parts ≤ max 1 n
  branches : height g.branches ≤ max 1 n

theorem Group.Bounded.item {g : Group} {n : Nat} (hg : g.Bounded n) (p : Pattern) :
    (g.add ⟨p, itemShape p, 0, true⟩).Bounded n := by
  refine ⟨?_, hg.branches⟩
  rw [Group.add, height_cons, Nat.zero_max]
  exact hg.parts

theorem Group.Bounded.newBranch {g : Group} {n : Nat} (hg : g.Bounded n) : g.newBranch.Bounded n := by
  have hparts := hg.parts
  have hbranches := hg.branches
  have hbranch := g.branch_depth
  refine ⟨Nat.le_max_left 1 n, ?_⟩
  rw [Group.newBranch, height_cons]
  split at hbranch <;> omega

/-- Reading marks changes nothing but the parts and the branches of the group, and keeps their bounds. -/
theorem reads_marks {b : Builder} {n : Nat} (hb : b.inner.Bounded n) {m : List Char} (hm : ∀ c ∈ m, isMark c = true) :
    ∃ g : Group, g.Bounded n ∧ g.flags = b.inner.flags ∧
      ∀ t p, Reads b (m ++ t) p ↔ Reads { b with inner := g } t p := by
  induction m generalizing b with
  | nil => exact ⟨b.inner, hb, rfl, fun t p => Iff.rfl⟩
  | cons c m ih =>
    have hm' : ∀ c ∈ m, isMark c = true := fun c' hc' => hm c' (List.mem_cons_of_mem c hc')
    by_cases hbar : c = '|'
    · subst hbar
      obtain ⟨g, hg, hflags, hreads⟩ := ih (b := { b with inner := b.inner.newBranch }) hb.newBranch hm'
      exact ⟨g, hg, hflags, fun t p => reads_bar.trans (hreads t p)⟩
    · have hc : c.isDigit = true := by
        have := hm c List.mem_cons_self
        simpa [isMark, hbar] using this
      obtain ⟨g, hg, hflags, hreads⟩ := ih (b := { b with inner := b.inner.add (digitPart b.inner.flags c) }) (hb.item _) hm'
      exact ⟨g, hg, hflags, fun t p => (reads_digit hc).trans (hreads t p)⟩

/-- The sample with 9 in its middle covers every filling. -/
theorem reads_after_first (hmiddle : h.middle = ['9']) {b : Builder} {x p : Part} (hx : x.depth = 0) {ps : List Part}
    (hparts : b.inner.parts = x :: ps) (hp : Reads b ('|' :: (h.middle ++ h.last :: h.after)) p) {m : List Char}
    (hm : ∀ c ∈ m, isMark c = true) : ∃ q, Reads b (m ++ h.last :: h.after) q := by
  rw [hmiddle] at hp
  have hp := (reads_digit h.last_isDigit).mp ((reads_digit (c := '9') rfl).mp (reads_bar.mp hp))
  have hbound : b.inner.Bounded (max b.inner.branch.depth (height b.inner.branches)) := by
    have hbranch := b.inner.branch_depth
    rw [hparts, height_cons, hx] at hbranch
    refine ⟨?_, by omega⟩
    rw [hparts, height_cons, hx]
    cases ps with
    | nil =>
      have : height [] = 0 := rfl
      omega
    | cons y ps =>
      rw [if_pos (by simp)] at hbranch
      omega
  obtain ⟨g, hg, hflags, hreads⟩ := reads_marks hbound hm
  have hheight : height (b.inner.branch :: b.inner.branches) = max b.inner.branch.depth (height b.inner.branches) :=
    height_cons _ _
  have hcovers : Group.Covers ((b.inner.newBranch.add (digitPart b.inner.flags '9')).add (digitPart b.inner.flags h.last))
      (g.add (digitPart b.inner.flags h.last)) := by
    refine .filled [digitPart b.inner.flags h.last] [digitPart b.inner.flags h.last] [digitPart b.inner.flags '9']
      g.parts hflags.symm (.cons (.refl _) .nil) (List.cons_ne_nil _ _) rfl rfl (List.cons_ne_nil _ _)
      (List.cons_ne_nil _ _) ?_ ?_
    · show 1 + height g.parts ≤ max 1 (height (b.inner.branch :: b.inner.branches))
      rw [hheight]
      exact hg.parts
    · show height g.branches ≤ max 1 (height (b.inner.branch :: b.inner.branches))
      rw [hheight]
      exact hg.branches
  have hcovers : Builder.Covers
      { b with inner := (b.inner.newBranch.add (digitPart b.inner.flags '9')).add (digitPart b.inner.flags h.last) }
      { b with inner := g.add (digitPart b.inner.flags h.last) } :=
    ⟨hcovers, List.forall₂_same.mpr fun k _ => .refl k, rfl⟩
  obtain ⟨q, hq⟩ := hcovers.reads hp
  refine ⟨q, (hreads _ q).mpr ((reads_digit h.last_isDigit).mpr ?_)⟩
  rw [hflags]
  exact hq

/-- A text that can be read with the sample can be read with every filling that begins and ends alike. -/
theorem reads_fill (hmiddle : h.middle = ['9']) {b : Builder} {a : List Char} {p : Part} (hp : Reads b (a ++ h.sample) p)
    {m : List Char} (hm : ∀ c ∈ m, isMark c = true) : ∃ q, Reads b (a ++ h.fill m) q := by
  induction hn : a.length using Nat.strongRecOn generalizing b a with
  | _ n ih =>
    subst hn
    have hfill := h.fill_fill hm
    rcases skip_cases b.inner.flags a h.after with ⟨a', hle, ha'⟩ | ⟨past, -, hpast⟩
    · have hnext : ∀ {x rest b' q}, token b.inner.flags (a' ++ h.fill m) = .ok (x, rest) → b.push x = .ok b' →
          Reads b' rest q → Reads b (a ++ h.fill m) q := by
        intro x rest b' q htoken hpush hrest
        rw [← ha' _ hfill] at htoken
        exact reads_iff.mpr (Or.inr ⟨x, rest, b', htoken, hpush, hrest⟩)
      rw [reads_iff, ha' _ h.fill_sample] at hp
      rcases hp with ⟨hnil, -⟩ | ⟨x, rest, b', htoken, hpush, hrest⟩
      · exact absurd (List.append_eq_nil_iff.mp hnil).2 (List.cons_ne_nil _ _)
      · rcases token_readsAt b.inner.flags a' x rest htoken with ⟨a'', ha''⟩ | ⟨-, hpast⟩ | ⟨hwithin, i, rfl⟩ | ⟨-, hthrough⟩
        · -- The token ends before the hole.
          have heq := (ha'' _ h.fill_sample).symm.trans htoken
          cases heq
          have hlt := token_length htoken
          simp only [List.length_append] at hlt
          obtain ⟨q, hq⟩ := ih a''.length (by omega) hrest rfl
          exact ⟨q, hnext (ha'' _ hfill) hpush hq⟩
        · -- The token has a comment after it that goes past the hole.
          exact ⟨p, hnext (hpast _ hfill) hpush hrest⟩
        · -- The token takes the first digit.
          rw [hwithin.rest_eq htoken] at hrest
          cases hpush
          obtain ⟨q, hq⟩ := reads_after_first hmiddle rfl rfl hrest hm
          exact ⟨q, hnext (hwithin m hm) rfl hq⟩
        · -- The token is a class with the hole in it.
          obtain ⟨y, hy, hsame⟩ := hthrough m hm
          obtain ⟨d, hd, hcovers⟩ := (Builder.Covers.refl b).push (Or.inr hsame) hpush
          obtain ⟨q, hq⟩ := hcovers.reads hrest
          exact ⟨q, hnext hy hd hq⟩
    · rw [reads_iff, hpast _ h.fill_sample] at hp
      refine ⟨p, ?_⟩
      rw [reads_iff, hpast _ hfill]
      exact hp

end DeltaLint.Pattern

import DeltaLint.Pattern.Row
import DeltaLint.Pattern.Search

/-
  DeltaLint.Pattern.Language — the search finds a match exactly where there is one.

  Writing out the counts of a pattern changes nothing (`matches_unrolled`). What the marks on a pattern
  stand for are the rests of matches under way (`Marked.Rest`): whether there is an empty one is a
  question of the two neighbours (`ends_iff`), and one that goes on with a character goes on after the
  step over it (`steps_step`).

  Proved: `startsIn_iff` (the search decides `StartsIn`), `matches_unrolled`.
-/

namespace DeltaLint

namespace Pattern

/-! ## Counts written out -/

theorem matches_power {p : Unrolled} {n : Nat} {before : Option Char} {u rest : List Char} :
    Matches (p.power n).pattern before u rest ↔ InRow p.pattern n before u rest := by
  induction n using Nat.strongRecOn generalizing before u rest with
  | _ n ih =>
    rw [Unrolled.power]
    split
    · rename_i h
      subst h
      exact matches_empty_iff
    · split
      · rename_i h
        subst h
        exact InRow.one.symm
      · have hlt : n / 2 < n := by omega
        have hhalves {before u rest} : Matches (seq (p.power (n / 2)).pattern (p.power (n / 2)).pattern) before u rest ↔
            InRow p.pattern (n / 2 + n / 2) before u rest := by
          simp only [matches_seq_iff, ih _ hlt, InRow.add]
        split
        · rw [show n = n / 2 + n / 2 by omega]
          simpa [Unrolled.pattern, show (n / 2 + n / 2) / 2 = n / 2 by omega] using hhalves
        · rw [show n = (n / 2 + n / 2) + 1 by omega, InRow.add_one]
          simp only [Unrolled.pattern, show (n / 2 + n / 2 + 1) / 2 = n / 2 by omega]
          rw [matches_seq_iff]
          simp only [hhalves]

theorem InRow.eq_nil {p : Pattern} (hp : ∀ {before u rest}, Matches p before u rest → u = []) {n : Nat}
    {before : Option Char} {u rest : List Char} (h : InRow p n before u rest) : u = [] := by
  induction n generalizing before u with
  | zero => exact h
  | succ n ih =>
    obtain ⟨v, w, rfl, h1, h2⟩ := h
    simp [hp h1, ih h2]

theorem Matches.eq_nil {p : Pattern} (hp : p.onlyEmpty = true) {before : Option Char} {u rest : List Char}
    (h : Matches p before u rest) : u = [] := by
  induction p generalizing before u rest with
  | empty => exact matches_empty_iff.mp h
  | char s => simp [onlyEmpty] at hp
  | look l => exact (matches_look_iff.mp h).2
  | seq p q ihp ihq =>
    simp only [onlyEmpty, Bool.and_eq_true] at hp
    obtain ⟨v, w, rfl, h1, h2⟩ := matches_seq_iff.mp h
    simp [ihp hp.1 h1, ihq hp.2 h2]
  | alt p q ihp ihq =>
    simp only [onlyEmpty, Bool.and_eq_true] at hp
    exact (matches_alt_iff.mp h).elim (ihp hp.1) (ihq hp.2)
  | repeated p least most ih =>
    obtain ⟨k, _, hm, h⟩ := matches_repeated_iff.mp h
    simp only [onlyEmpty, Bool.or_eq_true, beq_iff_eq] at hp
    rcases hp with hp | rfl
    · exact h.eq_nil (ih hp)
    · obtain rfl : k = 0 := by simpa using hm
      exact h

/-- Where a pattern matches the empty stretch at most, more matches of it in a row are as good as one. -/
theorem InRow.succ_iff {p : Pattern} (hp : ∀ {before u rest}, Matches p before u rest → u = []) {n : Nat}
    {before : Option Char} {u rest : List Char} : InRow p (n + 1) before u rest ↔ Matches p before u rest := by
  induction n generalizing before u with
  | zero => exact InRow.one
  | succ n ih =>
    constructor
    · rintro ⟨v, w, rfl, h1, h2⟩
      obtain rfl := hp h1
      exact ih.mp h2
    · intro h
      obtain rfl := hp h
      exact ⟨[], [], rfl, h, ih.mpr h⟩

theorem matches_copies {p : Unrolled} {least : Nat} {most : Option Nat} (h : most.any (· < least) = false)
    {before : Option Char} {u rest : List Char} :
    Matches (p.copies least most).pattern before u rest ↔ Matches (repeated p.pattern least most) before u rest := by
  rw [matches_repeated_iff]
  cases most with
  | none =>
    simp only [Unrolled.copies, Unrolled.pattern, matches_seq_iff, matches_power, matches_star_iff, Option.all_none,
      true_and]
    constructor
    · rintro ⟨v, w, rfl, h1, k, h2⟩
      exact ⟨least + k, by omega, InRow.add.mpr ⟨v, w, rfl, h1, h2⟩⟩
    · rintro ⟨k, hk, h⟩
      obtain ⟨j, rfl⟩ := Nat.exists_eq_add_of_le hk
      obtain ⟨v, w, rfl, h1, h2⟩ := InRow.add.mp h
      exact ⟨v, w, rfl, h1, j, h2⟩
  | some most =>
    simp only [Option.any_some, decide_eq_false_iff_not, Nat.not_lt] at h
    simp only [Unrolled.copies, Unrolled.pattern, matches_seq_iff, matches_power, InRow.optional, Option.all_some,
      decide_eq_true_eq]
    constructor
    · rintro ⟨v, w, rfl, h1, k, hk, h2⟩
      exact ⟨least + k, by omega, by omega, InRow.add.mpr ⟨v, w, rfl, h1, h2⟩⟩
    · rintro ⟨k, hk, hm, h⟩
      obtain ⟨j, rfl⟩ := Nat.exists_eq_add_of_le hk
      obtain ⟨v, w, rfl, h1, h2⟩ := InRow.add.mp h
      exact ⟨v, w, rfl, h1, j, by omega, h2⟩

theorem matches_nothing {before : Option Char} {u rest : List Char} : ¬ Matches Unrolled.nothing.pattern before u rest := by
  rintro h
  obtain ⟨c, h, _⟩ := matches_char_iff.mp h
  simp [Unicode.CharSet.empty, Unicode.CharSet.contains, Unicode.Spans.contains] at h

/-- Writing out the counts changes nothing. -/
theorem matches_unrolled {p : Pattern} {before : Option Char} {u rest : List Char} :
    Matches p.unrolled.pattern before u rest ↔ Matches p before u rest := by
  induction p generalizing before u rest with
  | empty | char s | look l => rfl
  | seq p q ihp ihq => simp only [unrolled, Unrolled.pattern, matches_seq_iff, ihp, ihq]
  | alt p q ihp ihq => simp only [unrolled, Unrolled.pattern, matches_alt_iff, ihp, ihq]
  | repeated p least most ih =>
    have hcongr : Matches (repeated p.unrolled.pattern least most) before u rest ↔
        Matches (repeated p least most) before u rest := by
      simp only [matches_repeated_iff, InRow.congr ih]
    unfold unrolled
    split
    · rename_i h
      refine iff_of_false matches_nothing fun hr => ?_
      obtain ⟨k, hk, hm, _⟩ := matches_repeated_iff.mp hr
      cases most with
      | none => simp at h
      | some m => simp at h hm; omega
    · rename_i h
      simp only [Bool.not_eq_true] at h
      split
      · rename_i hp
        rw [matches_repeated_iff]
        split
        · rename_i h0
          subst h0
          rw [Unrolled.pattern, matches_empty_iff]
          constructor
          · rintro rfl
            exact ⟨0, Nat.le_refl 0, by cases most <;> simp, rfl⟩
          · rintro ⟨k, _, _, hk⟩
            exact hk.eq_nil (Matches.eq_nil hp)
        · rename_i h0
          rw [ih]
          constructor
          · intro hm
            refine ⟨least, Nat.le_refl _, ?_, ?_⟩
            · cases most with
              | none => simp
              | some m => simpa using h
            · obtain ⟨n, rfl⟩ := Nat.exists_eq_succ_of_ne_zero h0
              exact (InRow.succ_iff (Matches.eq_nil hp)).mpr hm
          · rintro ⟨k, hk, _, hr⟩
            obtain ⟨n, rfl⟩ := Nat.exists_eq_succ_of_ne_zero (show k ≠ 0 by omega)
            exact (InRow.succ_iff (Matches.eq_nil hp)).mp hr
      · rw [matches_copies h, hcongr]

/-! ## The empty stretch -/

theorem matches_seq_nil {p q : Pattern} {before : Option Char} {rest : List Char} :
    Matches (seq p q) before [] rest ↔ Matches p before [] rest ∧ Matches q before [] rest := by
  rw [matches_seq_iff]
  constructor
  · rintro ⟨v, w, e, hp, hq⟩
    obtain ⟨rfl, rfl⟩ := List.append_eq_nil_iff.mp e.symm
    exact ⟨hp, hq⟩
  · rintro ⟨hp, hq⟩
    exact ⟨[], [], rfl, hp, hq⟩

theorem matches_star_nil {p : Pattern} {before : Option Char} {rest : List Char} :
    Matches (repeated p 0 none) before [] rest := .done

theorem nullable_iff {p : Unrolled} {before : Option Char} {rest : List Char} :
    p.nullable before rest.head? = true ↔ Matches p.pattern before [] rest := by
  induction p with
  | empty => simp [Unrolled.nullable, Unrolled.pattern, matches_empty_iff]
  | char s => simp [Unrolled.nullable, Unrolled.pattern, matches_char_iff]
  | look l => simp [Unrolled.nullable, Unrolled.pattern, matches_look_iff]
  | seq p q ihp ihq => simp [Unrolled.nullable, Unrolled.pattern, matches_seq_nil, ihp, ihq]
  | alt p q ihp ihq => simp [Unrolled.nullable, Unrolled.pattern, matches_alt_iff, ihp, ihq]
  | star p _ => simp [Unrolled.nullable, Unrolled.pattern, matches_star_nil]

/-! ## The first character -/

theorem matches_seq_cons {p q : Pattern} {before : Option Char} {c : Char} {u rest : List Char} :
    Matches (seq p q) before (c :: u) rest ↔
      (∃ v w, u = v ++ w ∧ Matches p before (c :: v) (w ++ rest) ∧ Matches q (lastOf (some c) v) w rest) ∨
        (Matches p before [] (c :: u ++ rest) ∧ Matches q before (c :: u) rest) := by
  rw [matches_seq_iff]
  constructor
  · rintro ⟨v, w, e, hp, hq⟩
    cases v with
    | nil =>
      rw [List.nil_append] at e
      subst e
      exact Or.inr ⟨hp, hq⟩
    | cons d v =>
      injection e with h1 h2
      subst h1
      exact Or.inl ⟨v, w, h2, hp, hq⟩
  · rintro (⟨v, w, rfl, hp, hq⟩ | ⟨hp, hq⟩)
    · exact ⟨c :: v, w, rfl, hp, hq⟩
    · exact ⟨[], c :: u, rfl, hp, hq⟩

/-- Of matches in a row the first that is not empty begins with the first character. -/
theorem matches_star_cons {p : Pattern} {before : Option Char} {c : Char} {u rest : List Char} :
    Matches (repeated p 0 none) before (c :: u) rest ↔
      ∃ v w, u = v ++ w ∧ Matches p before (c :: v) (w ++ rest) ∧ Matches (repeated p 0 none) (lastOf (some c) v) w rest := by
  simp only [matches_star_iff]
  constructor
  · rintro ⟨k, h⟩
    induction k with
    | zero => cases h
    | succ k ih =>
      obtain ⟨v, w, e, hp, hr⟩ := h
      cases v with
      | nil =>
        rw [List.nil_append] at e
        subst e
        exact ih hr
      | cons d v =>
        injection e with h1 h2
        subst h1
        exact ⟨v, w, h2, hp, k, hr⟩
  · rintro ⟨v, w, rfl, hp, k, hr⟩
    exact ⟨k + 1, c :: v, w, rfl, hp, hr⟩

end Pattern

/-! ## Matches under way -/

namespace Marked

open Pattern

/-- `u` is the rest of a match under way. -/
def Rest : Marked → Option Char → List Char → List Char → Prop
  | idle _, _, _, _ => False
  | read _, _, u, _ => u = []
  | seq l r, before, u, rest =>
    (∃ v w, u = v ++ w ∧ Rest l before v (w ++ rest) ∧ Matches r.plain.pattern (lastOf before v) w rest) ∨
      Rest r before u rest
  | alt l r, before, u, rest => Rest l before u rest ∨ Rest r before u rest
  | star m, before, u, rest =>
    ∃ v w, u = v ++ w ∧ Rest m before v (w ++ rest) ∧ Matches (repeated m.plain.pattern 0 none) (lastOf before v) w rest

section
variable {before : Option Char} {u rest : List Char}

@[simp] theorem rest_idle {p : Unrolled} : (idle p).Rest before u rest ↔ False := Iff.rfl

@[simp] theorem rest_read {s : Unicode.CharSet} : (read s).Rest before u rest ↔ u = [] := Iff.rfl

@[simp] theorem rest_seq {l r : Marked} : (seq l r).Rest before u rest ↔
    (∃ v w, u = v ++ w ∧ l.Rest before v (w ++ rest) ∧ Matches r.plain.pattern (lastOf before v) w rest) ∨
      r.Rest before u rest := Iff.rfl

@[simp] theorem rest_alt {l r : Marked} : (alt l r).Rest before u rest ↔ l.Rest before u rest ∨ r.Rest before u rest :=
  Iff.rfl

@[simp] theorem rest_star {m : Marked} : (star m).Rest before u rest ↔
    ∃ v w, u = v ++ w ∧ m.Rest before v (w ++ rest) ∧
      Matches (repeated m.plain.pattern 0 none) (lastOf before v) w rest := Iff.rfl

end

/-- `u` is the rest of a match under way, or with `enter` a match. -/
def Goes (m : Marked) (enter : Bool) (before : Option Char) (u rest : List Char) : Prop :=
  m.Rest before u rest ∨ (enter = true ∧ Matches m.plain.pattern before u rest)

theorem not_rest_of_isIdle {m : Marked} (h : m.isIdle = true) {before : Option Char} {u rest : List Char} :
    ¬ m.Rest before u rest := by
  cases m <;> simp [isIdle] at h
  simp

/-! ### Parts put together -/

variable {l r m : Marked} {before : Option Char} {u rest : List Char}

theorem plain_join : (l.join r).plain = (seq l r).plain := by
  unfold join
  split <;> rfl

theorem rest_join : (l.join r).Rest before u rest ↔ (seq l r).Rest before u rest := by
  unfold join
  split <;> simp

theorem plain_either : (l.either r).plain = (alt l r).plain := by
  unfold either
  split <;> rfl

theorem rest_either : (l.either r).Rest before u rest ↔ (alt l r).Rest before u rest := by
  unfold either
  split <;> simp

theorem plain_loop : m.loop.plain = (star m).plain := by
  unfold loop
  split <;> rfl

theorem rest_loop : m.loop.Rest before u rest ↔ (star m).Rest before u rest := by
  unfold loop
  split <;> simp

/-! ### The end here -/

theorem rest_seq_nil {l r : Marked} {before : Option Char} {rest : List Char} :
    (seq l r).Rest before [] rest ↔ (l.Rest before [] rest ∧ Matches r.plain.pattern before [] rest) ∨ r.Rest before [] rest := by
  rw [rest_seq]
  refine or_congr ⟨?_, fun ⟨h1, h2⟩ => ⟨[], [], rfl, h1, h2⟩⟩ Iff.rfl
  rintro ⟨v, w, e, h1, h2⟩
  obtain ⟨rfl, rfl⟩ := List.append_eq_nil_iff.mp e.symm
  exact ⟨h1, h2⟩

theorem ends_iff {m : Marked} {enter : Bool} {before : Option Char} {rest : List Char} :
    m.ends enter before rest.head? = true ↔ m.Goes enter before [] rest := by
  induction m generalizing enter with
  | idle p => simp [ends, Goes, plain, nullable_iff]
  | read s => simp [ends, Goes]
  | seq l r ihl ihr =>
    simp only [ends, ihr, Goes, ihl, rest_seq_nil, plain, Unrolled.pattern, matches_seq_nil]
    constructor
    · rintro (h | ⟨h1 | ⟨h1, h2⟩, h3⟩)
      · exact Or.inl (Or.inr h)
      · exact Or.inl (Or.inl ⟨h1, h3⟩)
      · exact Or.inr ⟨h1, h2, h3⟩
    · rintro ((⟨h1, h3⟩ | h) | ⟨h1, h2, h3⟩)
      · exact Or.inr ⟨Or.inl h1, h3⟩
      · exact Or.inl h
      · exact Or.inr ⟨Or.inr ⟨h1, h2⟩, h3⟩
  | alt l r ihl ihr =>
    simp only [ends, Bool.or_eq_true, ihl, ihr, Goes, rest_alt, plain, Unrolled.pattern, matches_alt_iff]
    constructor
    · rintro ((h | ⟨h1, h2⟩) | (h | ⟨h1, h2⟩))
      · exact Or.inl (Or.inl h)
      · exact Or.inr ⟨h1, Or.inl h2⟩
      · exact Or.inl (Or.inr h)
      · exact Or.inr ⟨h1, Or.inr h2⟩
    · rintro ((h | h) | ⟨h1, h2 | h2⟩)
      · exact Or.inl (Or.inl h)
      · exact Or.inr (Or.inl h)
      · exact Or.inl (Or.inr ⟨h1, h2⟩)
      · exact Or.inr (Or.inr ⟨h1, h2⟩)
  | star m ih =>
    simp only [ends, Bool.or_eq_true, ih, Goes, rest_star, plain, Unrolled.pattern, matches_star_nil, and_true,
      Bool.false_eq_true, false_and, or_false]
    constructor
    · rintro (h | h)
      · exact Or.inr h
      · exact Or.inl ⟨[], [], rfl, h, matches_star_nil⟩
    · rintro (⟨v, w, e, h, _⟩ | h)
      · obtain ⟨rfl, rfl⟩ := List.append_eq_nil_iff.mp e.symm
        exact Or.inr h
      · exact Or.inl h

/-! ### The step over a character -/

theorem rest_seq_cons {l r : Marked} {before : Option Char} {c : Char} {u rest : List Char} :
    (seq l r).Rest before (c :: u) rest ↔
      (∃ v w, u = v ++ w ∧ l.Rest before (c :: v) (w ++ rest) ∧ Matches r.plain.pattern (lastOf (some c) v) w rest) ∨
        (l.Rest before [] (c :: u ++ rest) ∧ Matches r.plain.pattern before (c :: u) rest) ∨ r.Rest before (c :: u) rest := by
  rw [rest_seq, ← or_assoc]
  refine or_congr ?_ Iff.rfl
  constructor
  · rintro ⟨v, w, e, h1, h2⟩
    cases v with
    | nil =>
      rw [List.nil_append] at e
      subst e
      exact Or.inr ⟨h1, h2⟩
    | cons d v =>
      injection e with e1 e2
      subst e1
      exact Or.inl ⟨v, w, e2, h1, h2⟩
  · rintro (⟨v, w, rfl, h1, h2⟩ | ⟨h1, h2⟩)
    · exact ⟨c :: v, w, rfl, h1, h2⟩
    · exact ⟨[], c :: u, rfl, h1, h2⟩

/-- A step changes no more than the marks, and tells whether a match may end before it. -/
structure Steps (before : Option Char) (c : Char) (m : Marked) (enter : Bool) (next : Marked × Bool) : Prop where
  plain : next.1.plain = m.plain
  ends : next.2 = m.ends enter before (some c)
  rest : ∀ {u rest}, next.1.Rest (some c) u rest ↔ m.Goes enter before (c :: u) rest

theorem Steps.ended_iff {before : Option Char} {c : Char} {m : Marked} {enter : Bool} {next : Marked × Bool}
    (h : Steps before c m enter next) {u rest : List Char} : next.2 = true ↔ m.Goes enter before [] (c :: u ++ rest) := by
  rw [h.ends]
  exact @ends_iff m enter before (c :: u ++ rest)

theorem Steps.seq {before : Option Char} {c : Char} {l r : Marked} {enter : Bool} {l' r' : Marked × Bool}
    (hl : Steps before c l enter l') (hr : Steps before c r l'.2 r') :
    Steps before c (seq l r) enter (l'.1.join r'.1, r'.2) where
  plain := by rw [plain_join]; simp [Marked.plain, hl.plain, hr.plain]
  ends := by rw [hr.ends, hl.ends]; rfl
  rest := by
    intro u rest
    have hended : l'.2 = true ↔ l.Goes enter before [] (c :: u ++ rest) := hl.ended_iff
    rw [rest_join, Goes, rest_seq_cons]
    simp only [rest_seq, hl.rest, hr.rest, hr.plain, Goes, hended, Marked.plain,
      Unrolled.pattern, matches_seq_cons]
    constructor
    · rintro (⟨v, w, rfl, h1 | ⟨h0, h1⟩, h2⟩ | h | ⟨h1 | ⟨h0, h1⟩, h2⟩)
      · exact Or.inl (Or.inl ⟨v, w, rfl, h1, h2⟩)
      · exact Or.inr ⟨h0, Or.inl ⟨v, w, rfl, h1, h2⟩⟩
      · exact Or.inl (Or.inr (Or.inr h))
      · exact Or.inl (Or.inr (Or.inl ⟨h1, h2⟩))
      · exact Or.inr ⟨h0, Or.inr ⟨h1, h2⟩⟩
    · rintro ((⟨v, w, rfl, h1, h2⟩ | ⟨h1, h2⟩ | h) | ⟨h0, ⟨v, w, rfl, h1, h2⟩ | ⟨h1, h2⟩⟩)
      · exact Or.inl ⟨v, w, rfl, Or.inl h1, h2⟩
      · exact Or.inr (Or.inr ⟨Or.inl h1, h2⟩)
      · exact Or.inr (Or.inl h)
      · exact Or.inl ⟨v, w, rfl, Or.inr ⟨h0, h1⟩, h2⟩
      · exact Or.inr (Or.inr ⟨Or.inr ⟨h0, h1⟩, h2⟩)

theorem Steps.alt {before : Option Char} {c : Char} {l r : Marked} {enter : Bool} {l' r' : Marked × Bool}
    (hl : Steps before c l enter l') (hr : Steps before c r enter r') :
    Steps before c (alt l r) enter (l'.1.either r'.1, l'.2 || r'.2) where
  plain := by rw [plain_either]; simp [Marked.plain, hl.plain, hr.plain]
  ends := by rw [hr.ends, hl.ends]; rfl
  rest := by
    intro u rest
    rw [rest_either]
    simp only [rest_alt, hl.rest, hr.rest, Goes, Marked.plain, Unrolled.pattern, matches_alt_iff]
    constructor
    · rintro ((h | ⟨h1, h2⟩) | (h | ⟨h1, h2⟩))
      · exact Or.inl (Or.inl h)
      · exact Or.inr ⟨h1, Or.inl h2⟩
      · exact Or.inl (Or.inr h)
      · exact Or.inr ⟨h1, Or.inr h2⟩
    · rintro ((h | h) | ⟨h1, h2 | h2⟩)
      · exact Or.inl (Or.inl h)
      · exact Or.inr (Or.inl h)
      · exact Or.inl (Or.inr ⟨h1, h2⟩)
      · exact Or.inr (Or.inr ⟨h1, h2⟩)

theorem Steps.star {before : Option Char} {c : Char} {m : Marked} {enter : Bool} {m' : Marked × Bool}
    (h : Steps before c m (enter || m.ends false before (some c)) m') :
    Steps before c (star m) enter (m'.1.loop, enter || m.ends false before (some c)) where
  plain := by rw [plain_loop]; simp [Marked.plain, h.plain]
  ends := rfl
  rest := by
    intro u rest
    have hends : m.ends false before (some c) = true ↔ m.Rest before [] (c :: u ++ rest) := by
      have := @ends_iff m false before (c :: u ++ rest)
      simpa [Goes] using this
    rw [rest_loop]
    simp only [rest_star, h.rest, h.plain, Goes, Bool.or_eq_true, hends, Marked.plain, Unrolled.pattern, matches_star_cons]
    constructor
    · rintro ⟨v, w, rfl, h1 | ⟨h0 | h0, h1⟩, h2⟩
      · exact Or.inl ⟨c :: v, w, rfl, h1, h2⟩
      · exact Or.inr ⟨h0, v, w, rfl, h1, h2⟩
      · exact Or.inl ⟨[], c :: (v ++ w), rfl, h0, matches_star_cons.mpr ⟨v, w, rfl, h1, h2⟩⟩
    · rintro (⟨v, w, e, h1, h2⟩ | ⟨h0, v, w, rfl, h1, h2⟩)
      · cases v with
        | nil =>
          rw [List.nil_append] at e
          subst e
          obtain ⟨v, w, rfl, h3, h4⟩ := matches_star_cons.mp h2
          exact ⟨v, w, rfl, Or.inr ⟨Or.inr h1, h3⟩, h4⟩
        | cons d v =>
          injection e with e1 e2
          subst e1
          exact ⟨v, w, e2, Or.inl h1, h2⟩
      · exact ⟨v, w, rfl, Or.inr ⟨Or.inl h0, h1⟩, h2⟩

theorem steps_idle {before : Option Char} {c : Char} {p : Unrolled} : Steps before c (idle p) false (idle p, false) where
  plain := rfl
  ends := rfl
  rest := by simp [Goes]

/-- Patterns with the same matches under way step alike. -/
theorem Steps.congr {before : Option Char} {c : Char} {m m' : Marked} {enter : Bool} {next : Marked × Bool}
    (h : Steps before c m enter next) (hp : m.plain = m'.plain) (he : m.ends enter before (some c) = m'.ends enter before (some c))
    (hr : ∀ {u rest}, m.Rest before u rest ↔ m'.Rest before u rest) : Steps before c m' enter next where
  plain := h.plain.trans hp
  ends := h.ends.trans he
  rest := by
    intro u rest
    rw [h.rest]
    simp only [Goes, hr, hp]

theorem steps_begin {before : Option Char} {c : Char} {p : Unrolled} :
    Steps before c (idle p) true (p.begin before c) := by
  induction p with
  | empty => exact ⟨rfl, rfl, by simp [Unrolled.begin, Goes, plain, Unrolled.pattern, matches_empty_iff]⟩
  | char s =>
    refine ⟨?_, rfl, ?_⟩
    · simp only [Unrolled.begin]
      split <;> rfl
    · intro u rest
      simp only [Unrolled.begin, Goes, rest_idle, plain, Unrolled.pattern, matches_char_iff, false_or, true_and]
      split
      · rename_i h
        exact ⟨fun e => ⟨c, h, by rw [show u = [] from e]⟩, fun ⟨d, _, e⟩ => by injection e⟩
      · rename_i h
        refine iff_of_false id ?_
        rintro ⟨d, hd, e⟩
        injection e with e _
        exact h (e ▸ hd)
  | look l => exact ⟨rfl, rfl, by simp [Unrolled.begin, Goes, plain, Unrolled.pattern, matches_look_iff]⟩
  | seq p q ihp ihq =>
    refine Steps.congr (m := seq (idle p) (idle q)) ?_ rfl ?_ (by simp)
    · unfold Unrolled.begin
      split
      · rename_i l e
        rw [e] at ihp
        exact ihp.seq ihq
      · rename_i l e
        rw [e] at ihp
        exact ihp.seq steps_idle
    · simp [ends, Unrolled.nullable]
  | alt p q ihp ihq =>
    refine Steps.congr (m := alt (idle p) (idle q)) (ihp.alt ihq) rfl ?_ (by simp)
    simp [ends, Unrolled.nullable]
  | star p ih =>
    refine Steps.congr (m := star (idle p)) ?_ rfl ?_ (by simp)
    · have hstar : Steps before c (star (idle p)) true (_, _) := Steps.star (by simpa using ih)
      exact hstar
    · simp [ends, Unrolled.nullable]

theorem steps_step {before : Option Char} {c : Char} {m : Marked} {enter : Bool} :
    Steps before c m enter (m.step before c enter) := by
  induction m generalizing enter with
  | idle p =>
    cases enter with
    | true => exact steps_begin
    | false => exact steps_idle
  | read s =>
    refine ⟨?_, rfl, ?_⟩
    · simp only [step]
      split <;> rfl
    · intro u rest
      simp only [step, Goes, rest_read, plain, Unrolled.pattern, matches_char_iff, reduceCtorEq, false_or]
      split
      · rename_i h
        simp only [Bool.and_eq_true] at h
        exact ⟨fun e => ⟨h.1, c, h.2, by rw [show u = [] from e]⟩, fun ⟨_, d, _, e⟩ => by injection e⟩
      · rename_i h
        refine iff_of_false id ?_
        rintro ⟨h0, d, hd, e⟩
        injection e with e _
        exact h (by simp [h0, e, hd])
  | seq l r ihl ihr => exact ihl.seq ihr
  | alt l r ihl ihr => exact ihl.alt ihr
  | star m ih => exact ih.star

/-! ### The search -/

theorem endsIn_iff {m : Marked} {enter : Bool} {before : Option Char} {text : List Char} :
    m.endsIn enter before text = true ↔ ∃ u rest, text = u ++ rest ∧ m.Goes enter before u rest := by
  induction text generalizing m enter before with
  | nil =>
    have := @ends_iff m enter before []
    simp only [endsIn, List.head?_nil] at this ⊢
    rw [this]
    constructor
    · intro h
      exact ⟨[], [], rfl, h⟩
    · rintro ⟨u, rest, e, h⟩
      obtain ⟨rfl, rfl⟩ := List.append_eq_nil_iff.mp e.symm
      exact h
  | cons c text ih =>
    have hs : Steps before c m enter (m.step before c enter) := steps_step
    have hend : (m.step before c enter).2 = true ↔ m.Goes enter before [] ([c] ++ text) := hs.ended_iff
    have hnext : (!(m.step before c enter).1.isIdle && (m.step before c enter).1.endsIn false (some c) text) = true ↔
        ∃ u rest, text = u ++ rest ∧ m.Goes enter before (c :: u) rest := by
      rw [Bool.and_eq_true, ih]
      constructor
      · rintro ⟨_, u, rest, e, h⟩
        exact ⟨u, rest, e, hs.rest.mp (by simpa [Goes] using h)⟩
      · rintro ⟨u, rest, e, h⟩
        have h := hs.rest.mpr h
        refine ⟨?_, u, rest, e, Or.inl h⟩
        cases hidle : (m.step before c enter).1.isIdle
        · rfl
        · exact absurd h (not_rest_of_isIdle hidle)
    simp only [endsIn, Bool.or_eq_true, hend, hnext]
    constructor
    · rintro (h | ⟨u, rest, rfl, h⟩)
      · exact ⟨[], c :: text, rfl, h⟩
      · exact ⟨c :: u, rest, rfl, h⟩
    · rintro ⟨u, rest, e, h⟩
      cases u with
      | nil =>
        rw [List.nil_append] at e
        subst e
        exact Or.inl h
      | cons d u =>
        injection e with e1 e2
        subst e1
        exact Or.inr ⟨u, rest, e2, h⟩

end Marked

namespace Pattern

theorem startsIn_iff {p : Pattern} {text : List Char} : p.startsIn text = true ↔ StartsIn p text := by
  simp [startsIn, Marked.endsIn_iff, Marked.Goes, Marked.plain, matches_unrolled, StartsIn]

end Pattern

end DeltaLint

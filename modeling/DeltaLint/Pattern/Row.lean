import DeltaLint.Pattern.Basic

/-
  DeltaLint.Pattern.Row — matches in a row.

  What a pattern matches is said by its kind. A repetition matches what some allowed number of matches
  in a row matches (`matches_repeated_iff`), and matches in a row can be cut after any number of them
  (`InRow.add`).
-/

namespace DeltaLint.Pattern

/-! ## Repetition by number -/

/-- `n` matches in a row. -/
def InRow (p : Pattern) : Nat → Option Char → List Char → List Char → Prop
  | 0, _, u, _ => u = []
  | n + 1, before, u, rest =>
    ∃ v w, u = v ++ w ∧ Matches p before v (w ++ rest) ∧ InRow p n (lastOf before v) w rest

/-- A repetition has its matches in some number that is allowed. -/
theorem Matches.exists_inRow {r : Pattern} {before : Option Char} {u rest : List Char} (h : Matches r before u rest) :
    ∀ {p least most}, r = repeated p least most →
      ∃ k, least ≤ k ∧ most.all (k ≤ ·) = true ∧ InRow p k before u rest := by
  induction h with
  | done =>
    intro p least most e
    injection e with hp hl hm
    subst hl
    exact ⟨0, Nat.le_refl 0, by cases most <;> simp, rfl⟩
  | @again p' least' most' before u v rest hn hp hr _ ih =>
    intro p least most e
    injection e with hp' hl hm
    subst hp' hl hm
    obtain ⟨k, hk, hm, hrest⟩ := ih rfl
    refine ⟨k + 1, by omega, ?_, u, v, rfl, hp, hrest⟩
    cases most' with
    | none => simp
    | some m => simp at hn hm ⊢; omega
  | _ => intro p least most e; cases e

/-- What a number of matches in a row matches, a repetition that allows the number matches. -/
theorem Matches.of_inRow {p : Pattern} {k least : Nat} {most : Option Nat} {before : Option Char} {u rest : List Char}
    (hl : least ≤ k) (hm : most.all (k ≤ ·) = true) (h : InRow p k before u rest) :
    Matches (repeated p least most) before u rest := by
  induction k generalizing least most before u with
  | zero =>
    obtain rfl : least = 0 := by omega
    rw [show u = [] from h]
    exact .done
  | succ k ih =>
    obtain ⟨v, w, rfl, hp, hr⟩ := h
    refine .again ?_ hp (ih (by omega) ?_ hr)
    · rintro rfl
      simp at hm
    · cases most with
      | none => simp
      | some m => simp at hm ⊢; omega

theorem matches_repeated_iff {p : Pattern} {least : Nat} {most : Option Nat} {before : Option Char} {u rest : List Char} :
    Matches (repeated p least most) before u rest ↔
      ∃ k, least ≤ k ∧ most.all (k ≤ ·) = true ∧ InRow p k before u rest :=
  ⟨fun h => h.exists_inRow rfl, fun ⟨_, hl, hm, h⟩ => .of_inRow hl hm h⟩

theorem matches_star_iff {p : Pattern} {before : Option Char} {u rest : List Char} :
    Matches (repeated p 0 none) before u rest ↔ ∃ k, InRow p k before u rest := by
  simp [matches_repeated_iff]

theorem matches_seq_iff {p q : Pattern} {before : Option Char} {u rest : List Char} :
    Matches (seq p q) before u rest ↔
      ∃ v w, u = v ++ w ∧ Matches p before v (w ++ rest) ∧ Matches q (lastOf before v) w rest := by
  constructor
  · intro h
    cases h with
    | seq hp hq => exact ⟨_, _, rfl, hp, hq⟩
  · rintro ⟨v, w, rfl, hp, hq⟩
    exact .seq hp hq

theorem matches_alt_iff {p q : Pattern} {before : Option Char} {u rest : List Char} :
    Matches (alt p q) before u rest ↔ Matches p before u rest ∨ Matches q before u rest :=
  ⟨fun h => by cases h with | left h => exact Or.inl h | right h => exact Or.inr h, fun h => h.elim .left .right⟩

theorem matches_empty_iff {before : Option Char} {u rest : List Char} : Matches empty before u rest ↔ u = [] :=
  ⟨fun h => by cases h; rfl, fun h => by subst h; exact .empty⟩

theorem matches_char_iff {s : Unicode.CharSet} {before : Option Char} {u rest : List Char} :
    Matches (char s) before u rest ↔ ∃ c, s.contains c = true ∧ u = [c] :=
  ⟨fun h => by cases h with | char h => exact ⟨_, h, rfl⟩, fun ⟨_, h, e⟩ => by subst e; exact .char h⟩

theorem matches_look_iff {l : Look} {before : Option Char} {u rest : List Char} :
    Matches (look l) before u rest ↔ l.holds before rest.head? = true ∧ u = [] :=
  ⟨fun h => by cases h with | look h => exact ⟨h, rfl⟩, fun ⟨h, e⟩ => by subst e; exact .look h⟩

theorem lastOf_append (before : Option Char) (u v : List Char) : lastOf before (u ++ v) = lastOf (lastOf before u) v := by
  simp [lastOf]

namespace InRow

variable {p q : Pattern} {before : Option Char} {u rest : List Char}

theorem congr (h : ∀ {before u rest}, Matches p before u rest ↔ Matches q before u rest) {n : Nat} :
    InRow p n before u rest ↔ InRow q n before u rest := by
  induction n generalizing before u with
  | zero => rfl
  | succ n ih => simp only [InRow, h, ih]

theorem one : InRow p 1 before u rest ↔ Matches p before u rest := by
  constructor
  · rintro ⟨v, w, rfl, hp, rfl⟩
    simpa using hp
  · intro h
    exact ⟨u, [], by simp, by simpa using h, rfl⟩

theorem add {m n : Nat} :
    InRow p (m + n) before u rest ↔
      ∃ v w, u = v ++ w ∧ InRow p m before v (w ++ rest) ∧ InRow p n (lastOf before v) w rest := by
  induction m generalizing before u with
  | zero =>
    rw [Nat.zero_add]
    constructor
    · intro h
      exact ⟨[], u, rfl, rfl, h⟩
    · rintro ⟨v, w, rfl, rfl, h⟩
      exact h
  | succ m ih =>
    rw [Nat.succ_add]
    constructor
    · rintro ⟨v, w, rfl, hp, hr⟩
      obtain ⟨v', w', rfl, h1, h2⟩ := ih.mp hr
      exact ⟨v ++ v', w', by simp, ⟨v, v', rfl, by simpa using hp, h1⟩, by rwa [lastOf_append]⟩
    · rintro ⟨_, w, rfl, ⟨v, v', rfl, hp, h1⟩, h2⟩
      exact ⟨v, v' ++ w, by simp, by simpa using hp, ih.mpr ⟨v', w, rfl, h1, by rwa [← lastOf_append]⟩⟩

theorem add_one {n : Nat} :
    InRow p (n + 1) before u rest ↔
      ∃ v w, u = v ++ w ∧ Matches p before v (w ++ rest) ∧ InRow p n (lastOf before v) w rest := Iff.rfl

/-- Optional matches in a row are any number of matches up to that many. -/
theorem optional {n : Nat} : InRow (alt p empty) n before u rest ↔ ∃ k, k ≤ n ∧ InRow p k before u rest := by
  constructor
  · intro h
    induction n generalizing before u with
    | zero => exact ⟨0, Nat.le_refl 0, h⟩
    | succ n ih =>
      obtain ⟨v, w, rfl, hp, hr⟩ := h
      obtain ⟨k, hk, hr⟩ := ih hr
      rcases matches_alt_iff.mp hp with hp | hp
      · exact ⟨k + 1, by omega, v, w, rfl, hp, hr⟩
      · obtain rfl := matches_empty_iff.mp hp
        exact ⟨k, by omega, hr⟩
  · rintro ⟨k, hk, h⟩
    induction n generalizing k before u with
    | zero =>
      obtain rfl : k = 0 := by omega
      exact h
    | succ n ih =>
      cases k with
      | zero => exact ⟨[], u, rfl, .right .empty, ih 0 (by omega) h⟩
      | succ k =>
        obtain ⟨v, w, rfl, hp, hr⟩ := h
        exact ⟨v, w, rfl, .left hp, ih k (by omega) hr⟩

end InRow

end DeltaLint.Pattern

import DeltaLint.Pattern.Read
import DeltaLint.Proofs.Pattern.Length

/-
  DeltaLint.Proofs.Pattern.Tokens — the reading of a pattern as a row of tokens.

  `Reads b t p` says that what was read so far and the text `t` after it make the pattern `p`: token
  after token is taken from the text up to its end. It holds exactly when the reader gives `p`
  (`parse_iff`), so what is shown by induction on the tokens is shown of the reader.
-/

namespace DeltaLint.Pattern

open Unicode

inductive Reads : Builder → List Char → Part → Prop where
  | done {b : Builder} {t : List Char} {p : Part} (hskip : b.inner.flags.skip t = []) (hfinish : b.finish = .ok p) :
      Reads b t p
  | next {b b' : Builder} {t u rest : List Char} {c : Char} {x : Token} {p : Part} (hskip : b.inner.flags.skip t = c :: u)
      (htoken : token b.inner.flags (c :: u) = .ok (x, rest)) (hpush : b.push x = .ok b') (hrest : Reads b' rest p) :
      Reads b t p

theorem reads_of_readFrom {n : Nat} {b : Builder} {t : List Char} {p : Part} (hn : t.length ≤ n)
    (hp : readFrom n b t = .ok p) : Reads b t p := by
  induction n generalizing b t with
  | zero =>
    obtain rfl := List.eq_nil_of_length_eq_zero (Nat.le_zero.mp hn)
    refine .done ?_ hp
    exact List.eq_nil_of_length_eq_zero (Nat.le_zero.mp (b.inner.flags.skip_length []))
  | succ n ih =>
    unfold readFrom at hp
    cases hskip : b.inner.flags.skip t with
    | nil =>
      rw [hskip] at hp
      exact .done hskip hp
    | cons c u =>
      rw [hskip] at hp
      obtain ⟨⟨x, rest⟩, htoken, hp⟩ := bind_eq_ok.mp hp
      obtain ⟨b', hpush, hp⟩ := bind_eq_ok.mp hp
      have hlength := token_length htoken
      have hle := b.inner.flags.skip_length t
      rw [hskip] at hle
      exact .next hskip htoken hpush (ih (by omega) hp)

theorem Reads.readFrom {b : Builder} {t : List Char} {p : Part} (h : Reads b t p) {n : Nat} (hn : t.length ≤ n) :
    readFrom n b t = .ok p := by
  induction h generalizing n with
  | done hskip hfinish =>
    cases n with
    | zero => exact hfinish
    | succ n =>
      unfold Pattern.readFrom
      rw [hskip]
      exact hfinish
  | @next b b' t u rest c x p hskip htoken hpush _ ih =>
    have hlength := token_length htoken
    have hle := b.inner.flags.skip_length t
    rw [hskip] at hle
    cases n with
    | zero =>
      simp only [List.length_cons] at hle
      omega
    | succ n =>
      unfold Pattern.readFrom
      rw [hskip]
      dsimp only
      rw [htoken]
      show (b.push x >>= fun b' => Pattern.readFrom n b' rest) = _
      rw [hpush]
      exact ih (by omega)

/-- What the reader gives is what the tokens of the text make. -/
theorem parse_iff {t : List Char} {p : Part} : parse t = .ok p ↔ Reads .start t p :=
  ⟨reads_of_readFrom (Nat.le_refl _), fun h => h.readFrom (Nat.le_refl _)⟩

/-- The text is at its end, or a token stands where blanks end. -/
theorem reads_iff {b : Builder} {t : List Char} {p : Part} : Reads b t p ↔
    (b.inner.flags.skip t = [] ∧ b.finish = .ok p) ∨
      ∃ x rest b', token b.inner.flags (b.inner.flags.skip t) = .ok (x, rest) ∧ b.push x = .ok b' ∧ Reads b' rest p := by
  refine ⟨fun h => ?_, ?_⟩
  · cases h with
    | done hskip hfinish => exact Or.inl ⟨hskip, hfinish⟩
    | next hskip htoken hpush hrest =>
      rw [← hskip] at htoken
      exact Or.inr ⟨_, _, _, htoken, hpush, hrest⟩
  · rintro (⟨hskip, hfinish⟩ | ⟨x, rest, b', htoken, hpush, hrest⟩)
    · exact .done hskip hfinish
    · cases hskip : b.inner.flags.skip t with
      | nil =>
        rw [hskip] at htoken
        cases htoken
      | cons c u =>
        rw [hskip] at htoken
        exact .next hskip htoken hpush hrest

/-- The first token is the only one that the text can begin with. -/
theorem reads_next_iff {b b' : Builder} {t u rest : List Char} {c : Char} {x : Token} {p : Part}
    (hskip : b.inner.flags.skip t = c :: u) (htoken : token b.inner.flags (c :: u) = .ok (x, rest))
    (hpush : b.push x = .ok b') : Reads b t p ↔ Reads b' rest p := by
  refine ⟨fun h => ?_, .next hskip htoken hpush⟩
  cases h with
  | done hnil _ =>
    rw [hskip] at hnil
    cases hnil
  | next hskip' htoken' hpush' hrest =>
    have hcons := hskip.symm.trans hskip'
    cases hcons
    have hpair := htoken.symm.trans htoken'
    cases hpair
    have hb' := hpush.symm.trans hpush'
    cases hb'
    exact hrest

end DeltaLint.Pattern

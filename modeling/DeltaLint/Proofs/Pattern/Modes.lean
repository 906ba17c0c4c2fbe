import DeltaLint.Proofs.Pattern.TokenHole

/-
  DeltaLint.Proofs.Pattern.Modes — the tokens of a text, before anything is made of them.

  How a text is cut into tokens depends on the modes in force and on those of the groups around it, and on
  nothing else that was read before. So the tokens can be listed first and put together afterwards
  (`reads_tokens`), and what stands before a hole is cut alike whatever fills the hole (`reads_hole`).
-/

namespace DeltaLint.Pattern

open Unicode

/-- The modes in force, and those of the groups around, the innermost first. -/
structure Modes where
  inner : Flags
  outer : List Flags
  deriving DecidableEq, Repr

namespace Modes

def start : Modes := ⟨{}, []⟩

def next (m : Modes) : Token → Modes
  | .openGroup _ _ f => ⟨f, m.inner :: m.outer⟩
  | .closeGroup =>
    match m.outer with
    | f :: fs => ⟨f, fs⟩
    | [] => m
  | .setFlags f => ⟨f, m.outer⟩
  | _ => m

end Modes

/-- Takes tokens up to where no more than `left` characters are left; `n` bounds their number. -/
def tokens (left : Nat) : Nat → Modes → Reader (List Token)
  | 0, _, text => .ok ([], text)
  | n + 1, m, text =>
    let text := m.inner.skip text
    if text.length ≤ left then .ok ([], text)
    else do
      let (x, rest) ← token m.inner text
      let (xs, rest) ← tokens left n (m.next x) rest
      return (x :: xs, rest)

/-! ## Tokens put together -/

namespace Builder

def modes (b : Builder) : Modes := ⟨b.inner.flags, b.outer.map (·.flags)⟩

def pushAll (b : Builder) (xs : List Token) : Except Fault Builder := xs.foldlM push b

theorem pushAll_cons {b b' : Builder} {x : Token} {xs : List Token} :
    b.pushAll (x :: xs) = .ok b' ↔ ∃ d, b.push x = .ok d ∧ d.pushAll xs = .ok b' := by
  unfold pushAll
  rw [List.foldlM_cons]
  exact bind_eq_ok

theorem push_modes {b b' : Builder} {x : Token} (h : b.push x = .ok b') : b'.modes = b.modes.next x := by
  cases x with
  | openGroup keeps name f =>
    have h : b.openGroup keeps name f = .ok b' := h
    unfold openGroup at h
    split at h
    · cases h
    · cases h
      rfl
  | closeGroup =>
    have h : b.closeGroup = .ok b' := h
    unfold closeGroup at h
    split at h
    · rename_i g gs hg
      cases h
      simp [modes, Modes.next, hg, Group.add]
    · cases h
  | repetition least most fewFirst =>
    have h : b.repetition least most fewFirst = .ok b' := h
    unfold repetition at h
    split at h
    · split at h
      · cases h
      · cases h
        rfl
    · cases h
  | bar =>
    cases h
    rfl
  | setFlags f =>
    cases h
    rfl
  | item p n =>
    cases h
    rfl

end Builder

/-! ## Reading by the list of tokens -/

theorem tokens_succ_eq_ok {left n : Nat} {m : Modes} {t rest : List Char} {xs : List Token} :
    tokens left (n + 1) m t = .ok (xs, rest) ↔
      ((m.inner.skip t).length ≤ left ∧ xs = [] ∧ rest = m.inner.skip t) ∨
        (left < (m.inner.skip t).length ∧ ∃ x u ys, token m.inner (m.inner.skip t) = .ok (x, u) ∧
          tokens left n (m.next x) u = .ok (ys, rest) ∧ xs = x :: ys) := by
  rw [tokens]
  dsimp only
  by_cases hle : (m.inner.skip t).length ≤ left
  · rw [if_pos hle]
    constructor
    · intro h
      cases h
      exact Or.inl ⟨hle, rfl, rfl⟩
    · rintro (⟨-, rfl, rfl⟩ | ⟨hlt, -⟩)
      · rfl
      · omega
  · rw [if_neg hle]
    constructor
    · intro h
      obtain ⟨⟨x, u⟩, hx, h⟩ := bind_eq_ok.mp h
      obtain ⟨⟨ys, rest'⟩, hys, h⟩ := bind_eq_ok.mp h
      cases h
      exact Or.inr ⟨by omega, x, u, ys, hx, hys, rfl⟩
    · rintro (⟨hle', -⟩ | ⟨-, x, u, ys, hx, hys, rfl⟩)
      · omega
      · exact bind_eq_ok.mpr ⟨(x, u), hx, bind_eq_ok.mpr ⟨(ys, rest), hys, rfl⟩⟩

theorem tokens_length {left n : Nat} {m : Modes} {t rest : List Char} {xs : List Token}
    (h : tokens left n m t = .ok (xs, rest)) : rest.length ≤ t.length := by
  induction n generalizing m t xs with
  | zero =>
    cases h
    exact Nat.le_refl _
  | succ n ih =>
    have hskip := m.inner.skip_length t
    rcases tokens_succ_eq_ok.mp h with ⟨-, -, rfl⟩ | ⟨-, x, u, ys, hx, hys, -⟩
    · exact hskip
    · have hlt := token_length hx
      have hle := ih hys
      omega

/-- Where a token can be taken, the reader takes it and reads on. -/
theorem reads_token_iff {b : Builder} {t rest : List Char} {x : Token} {p : Part}
    (htoken : token b.inner.flags (b.inner.flags.skip t) = .ok (x, rest)) :
    Reads b t p ↔ ∃ b', b.push x = .ok b' ∧ Reads b' rest p := by
  rw [reads_iff]
  constructor
  · rintro (⟨hnil, -⟩ | ⟨y, u, b', hy, hpush, hrest⟩)
    · rw [hnil] at htoken
      cases htoken
    · rw [htoken] at hy
      cases hy
      exact ⟨b', hpush, hrest⟩
  · rintro ⟨b', hpush, hrest⟩
    exact Or.inr ⟨x, rest, b', htoken, hpush, hrest⟩

/-- Where nothing but what has no meaning is left, the reader is done. -/
theorem reads_end_iff {b : Builder} {t : List Char} {p : Part} (hnil : b.inner.flags.skip t = []) :
    Reads b t p ↔ b.finish = .ok p := by
  rw [reads_iff, hnil]
  constructor
  · rintro (⟨-, hfinish⟩ | ⟨x, u, b', hx, -⟩)
    · exact hfinish
    · cases hx
  · intro hfinish
    exact Or.inl ⟨rfl, hfinish⟩

/-- What the tokens of a text make is what the reader makes of it. -/
theorem reads_tokens {n : Nat} {b : Builder} {t : List Char} {xs : List Token} {p : Part}
    (h : tokens 0 n b.modes t = .ok (xs, [])) :
    Reads b t p ↔ ∃ b', b.pushAll xs = .ok b' ∧ b'.finish = .ok p := by
  have hnone : ∀ {b : Builder}, (∃ b', b.pushAll [] = .ok b' ∧ b'.finish = .ok p) ↔ b.finish = .ok p := by
    intro b
    constructor
    · rintro ⟨b', hb', hfinish⟩
      cases hb'
      exact hfinish
    · intro hfinish
      exact ⟨b, rfl, hfinish⟩
  induction n generalizing b t xs with
  | zero =>
    cases h
    rw [hnone]
    exact reads_end_iff (List.eq_nil_of_length_eq_zero (Nat.le_zero.mp (b.inner.flags.skip_length [])))
  | succ n ih =>
    rcases tokens_succ_eq_ok.mp h with ⟨-, rfl, hnil⟩ | ⟨-, x, u, ys, hx, hys, rfl⟩
    · rw [hnone]
      exact reads_end_iff hnil.symm
    · have hnext : ∀ {d}, b.push x = .ok d → (Reads d u p ↔ ∃ b', d.pushAll ys = .ok b' ∧ b'.finish = .ok p) := by
        intro d hd
        rw [← Builder.push_modes hd] at hys
        exact ih hys
      rw [reads_token_iff hx]
      constructor
      · rintro ⟨d, hd, hrest⟩
        obtain ⟨b', hb', hfinish⟩ := (hnext hd).mp hrest
        exact ⟨b', Builder.pushAll_cons.mpr ⟨d, hd, hb'⟩, hfinish⟩
      · rintro ⟨b', hb', hfinish⟩
        obtain ⟨d, hd, hb'⟩ := Builder.pushAll_cons.mp hb'
        exact ⟨d, hd, (hnext hd).mpr ⟨b', hb', hfinish⟩⟩

/-! ## Up to a hole -/

variable {h : Hole}

theorem sample_length (h : Hole) : h.after.length < ('|' :: (h.middle ++ h.last :: h.after)).length := by
  simp only [List.length_cons, List.length_append]
  omega

/-- If the tokens before a hole end at the hole when the sample fills it, then they do so whatever fills it. -/
theorem reads_hole {n : Nat} {b : Builder} {a : List Char} {xs : List Token}
    (hxs : tokens h.sample.length n b.modes (a ++ h.sample) = .ok (xs, h.sample)) {v : List Char} (hv : Fill h.after v)
    {p : Part} : Reads b (a ++ v) p ↔ ∃ b', b.pushAll xs = .ok b' ∧ Reads b' v p := by
  have hnone : ∀ {b : Builder}, (∃ b', b.pushAll [] = .ok b' ∧ Reads b' v p) ↔ Reads b v p := by
    intro b
    constructor
    · rintro ⟨b', hb', hrest⟩
      cases hb'
      exact hrest
    · intro hrest
      exact ⟨b, rfl, hrest⟩
  have hlength : h.sample.length = ('|' :: (h.middle ++ h.last :: h.after)).length + 1 := rfl
  have hafter := sample_length h
  induction n generalizing b a xs with
  | zero =>
    obtain ⟨rfl, ha⟩ := Prod.mk.inj (Except.ok.inj hxs)
    obtain rfl : a = [] := by simpa using ha
    exact hnone.symm
  | succ n ih =>
    rcases skip_cases b.modes.inner a h.after with ⟨a', -, ha'⟩ | ⟨past, hle, hpast⟩
    · rcases tokens_succ_eq_ok.mp hxs with ⟨-, rfl, hrest⟩ | ⟨hlt, x, u, ys, hx, hys, rfl⟩
      · -- Nothing but blanks stands before the hole.
        have hskip := (ha' _ h.fill_sample).symm.trans hrest.symm
        obtain rfl : a' = [] := by simpa using hskip
        rw [hnone, reads_iff, show b.inner.flags.skip (a ++ v) = v from ha' v hv, reads_iff (t := v), hv.skip]
      · have hcut : ∃ a'', (∀ v, Fill h.after v → token b.inner.flags (a' ++ v) = .ok (x, a'' ++ v)) ∧ u = a'' ++ h.sample := by
          have hle := tokens_length hys
          rw [ha' _ h.fill_sample] at hx
          rcases token_readsAt b.inner.flags a' x u hx with ⟨a'', ha''⟩ | ⟨hshort, -⟩ | ⟨hwithin, -⟩ | ⟨hshort, -⟩
          · have heq := (ha'' _ h.fill_sample).symm.trans hx
            cases heq
            exact ⟨a'', ha'', rfl⟩
          · omega
          · rw [hwithin.rest_eq hx] at hle
            omega
          · omega
        obtain ⟨a'', ha'', rfl⟩ := hcut
        have hnext : ∀ {d}, b.push x = .ok d → (Reads d (a'' ++ v) p ↔ ∃ b', d.pushAll ys = .ok b' ∧ Reads b' v p) := by
          intro d hd
          rw [← Builder.push_modes hd] at hys
          exact ih hys
        have htoken : token b.inner.flags (b.inner.flags.skip (a ++ v)) = .ok (x, a'' ++ v) := by
          rw [show b.inner.flags.skip (a ++ v) = a' ++ v from ha' v hv]
          exact ha'' v hv
        rw [reads_token_iff htoken]
        constructor
        · rintro ⟨d, hd, hrest⟩
          obtain ⟨b', hb', hrest⟩ := (hnext hd).mp hrest
          exact ⟨b', Builder.pushAll_cons.mpr ⟨d, hd, hb'⟩, hrest⟩
        · rintro ⟨b', hb', hrest⟩
          obtain ⟨d, hd, hb'⟩ := Builder.pushAll_cons.mp hb'
          exact ⟨d, hd, (hnext hd).mpr ⟨b', hb', hrest⟩⟩
    · -- A comment that goes past the hole leaves too little.
      rcases tokens_succ_eq_ok.mp hxs with ⟨-, -, hrest⟩ | ⟨hlt, -⟩
      · rw [hpast _ h.fill_sample] at hrest
        rw [← hrest] at hle
        omega
      · rw [hpast _ h.fill_sample] at hlt
        omega

end DeltaLint.Pattern

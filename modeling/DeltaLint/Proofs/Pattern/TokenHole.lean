import DeltaLint.Proofs.Pattern.ClassHole
import DeltaLint.Proofs.Pattern.GroupHole
import DeltaLint.Proofs.Pattern.Tokens

/-
  DeltaLint.Proofs.Pattern.TokenHole — the token at a hole.

  A token of a text with a hole is read before the hole or past it (in a comment), takes the first digit
  of the hole, or is a class around it (`token_readsAt`).
-/

namespace DeltaLint.Pattern

open Unicode

variable {h : Hole}

/-- Two items that are nested equally deep. -/
def Token.SameDepth (x x' : Token) : Prop := ∃ p p' d, x = .item p d ∧ x' = .item p' d

/-- What the token at a hole may do with it: it takes the first digit and is an item that is not nested, or it is an
item around the hole. -/
def Taken (h : Hole) (f : Flags) (a : List Char) (x : Token) (rest : List Char) : Prop :=
  (Within h (token f) a x ∧ ∃ p, x = .item p 0) ∨ Through h Token.SameDepth (token f) a x rest

/-- A character that stands for itself. -/
def isPlain (c : Char) : Bool := !(['(', ')', '|', '[', '?', '*', '+', '\x7b', '\\', '.', '^', '$'].contains c)

theorem token_plain {f : Flags} {c : Char} {t : List Char} (hc : isPlain c = true) :
    token f (c :: t) = .ok (.item ((Atom.literal c).pattern f) 0, t) := by
  simp only [isPlain, List.contains_cons, List.contains_nil, Bool.or_false, Bool.not_eq_true', Bool.or_eq_false_iff,
    beq_eq_false_iff_ne] at hc
  unfold token
  split
  all_goals simp_all

theorem isPlain_of_isDigit {d : Char} (hd : d.isDigit = true) : isPlain d = true := Text.of_isDigit hd (by decide)

theorem bracketToken_readsAt (f : Flags) (a : List Char) : ReadsAt h (Taken h f ('[' :: a)) (token f) ('[' :: a) := by
  have hform : ∀ t, token f ('[' :: t) = bracketClass f t >>= fun p => .ok (.item (.char p.1.set) p.1.depth, p.2) := by
    intro t
    show (bracketClass f t).map _ = _
    cases bracketClass f t <;> rfl
  have hclass : ReadsAt h (fun x rest => Through h Token.SameDepth (token f) ('[' :: a) x rest)
      (fun t => bracketClass f t >>= fun p => .ok (Token.item (.char p.1.set) p.1.depth, p.2)) a := by
    refine ReadsAt.bind (s := fun k t => .ok (Token.item (.char k.set) k.depth, t)) (bracketClass_readsAt f a)
      (fun k a' _ => (localAt_ok _).readsAt) ?_ ?_
    · intro k t x t' hx
      cases hx
      exact Nat.le_refl _
    · intro k rest _ hthrough x rest' hx
      cases hx
      refine ⟨hthrough.1, fun m hm => ?_⟩
      obtain ⟨k', hk', hdepth⟩ := hthrough.2 m hm
      refine ⟨.item (.char k'.set) k'.depth, ?_, .char k.set, .char k'.set, k.depth, rfl, by rw [hdepth]⟩
      rw [List.cons_append, hform, hk']
      rfl
  exact (hclass.mono fun x rest hthrough => Or.inr hthrough).of_eq fun v _ => hform (a ++ v)

theorem token_readsAt (f : Flags) (a : List Char) : ReadsAt h (Taken h f a) (token f) a := by
  cases a with
  | nil =>
    have hfirst : Within h (token f) [] (.item ((Atom.literal h.first).pattern f) 0) := fun m _ =>
      token_plain (isPlain_of_isDigit h.first_isDigit)
    intro x rest hx
    have heq := (hfirst _ h.sample_isMark).symm.trans hx
    cases heq
    exact Or.inr (Or.inr (Or.inl ⟨hfirst, _, rfl⟩))
  | cons c a =>
    by_cases hplain : isPlain c = true
    · exact ReadsAt.of_before (x := .item ((Atom.literal c).pattern f) 0) (b := a) fun v _ => token_plain hplain
    · simp only [isPlain, Bool.not_eq_true, Bool.not_eq_false', List.contains_iff_mem, List.mem_cons, List.not_mem_nil,
        or_false] at hplain
      rcases hplain with rfl | rfl | rfl | rfl | rfl | rfl | rfl | rfl | rfl | rfl | rfl | rfl
      · exact (group_local f a).readsAt.of_eq fun v _ => rfl
      · exact (localAt_ok Token.closeGroup).readsAt.of_eq (b := a) fun v _ => rfl
      · exact (localAt_ok Token.bar).readsAt.of_eq (b := a) fun v _ => rfl
      · exact bracketToken_readsAt f a
      · exact (repetition_local f 0 (some 1) a).readsAt.of_eq fun v _ => rfl
      · exact (repetition_local f 0 none a).readsAt.of_eq fun v _ => rfl
      · exact (repetition_local f 1 none a).readsAt.of_eq fun v _ => rfl
      · exact (counted_local f a).readsAt.of_eq fun v _ => rfl
      · refine ReadsAt.mono ((escape_near f a).image (g := fun x => Token.item (x.pattern f) 0) fun v _ => rfl) ?_
        rintro x _ ⟨hwithin, y, rfl⟩
        exact Or.inl ⟨hwithin, _, rfl⟩
      · refine (localAt_value (f.dot.map fun s => Token.item (.char s) 0)).readsAt.of_eq (b := a) fun v _ => ?_
        show f.dot.map _ = _
        cases f.dot <;> rfl
      · exact (localAt_ok (Token.item (.look f.caret) 0)).readsAt.of_eq (b := a) fun v _ => rfl
      · exact (localAt_ok (Token.item (.look f.dollar) 0)).readsAt.of_eq (b := a) fun v _ => rfl

/-! ## Marks as tokens -/

/-- The part that a digit is. -/
def digitPart (f : Flags) (c : Char) : Part :=
  ⟨(Atom.literal c).pattern f, itemShape ((Atom.literal c).pattern f), 0, true⟩

theorem reads_digit {b : Builder} {c : Char} {t : List Char} {p : Part} (hc : c.isDigit = true) :
    Reads b (c :: t) p ↔ Reads { b with inner := b.inner.add (digitPart b.inner.flags c) } t p :=
  reads_next_iff (Flags.skip_of_isMark (by simp [isMark, hc]) t) (token_plain (isPlain_of_isDigit hc)) rfl

theorem reads_bar {b : Builder} {t : List Char} {p : Part} :
    Reads b ('|' :: t) p ↔ Reads { b with inner := b.inner.newBranch } t p :=
  reads_next_iff (Flags.skip_of_isMark rfl t) rfl rfl

end DeltaLint.Pattern

import DeltaLint.Proofs.Membership

/-
  DeltaLint.Proofs.Pattern.Literal — text that stands for itself in a pattern.

  Outside the verbose mode a character without a meaning of its own (`isPlain`) is read as itself, so such text
  matches itself and nothing else. In brackets with a caret it is read as every character but this one, and
  repeated as a text that this character is not in.

  Proved:
  - `reads_plain` / `inSequence_plain`: how text is read, and what it matches.
  - `token_complement` / `matches_repeated_complement`: the same for `[^c]` and for what it repeats.
  - `matches_numberPattern`: a number matches its decimal digits.
-/

namespace DeltaLint.Pattern

open Unicode

/-! ## Text -/

/-- Where no modes are set, the token that the text begins with is read. -/
theorem reads_token {b b' : Builder} (hflags : b.inner.flags = {}) {t rest : List Char} {x : Token}
    (htoken : token {} t = .ok (x, rest)) (hpush : b.push x = .ok b') {p : Part} : Reads b t p ↔ Reads b' rest p := by
  have hskip : token b.inner.flags (b.inner.flags.skip t) = .ok (x, rest) := by
    rw [hflags]
    exact htoken
  rw [reads_token_iff hskip]
  constructor
  · rintro ⟨d, hd, hrest⟩
    obtain rfl := Except.ok.inj (hd.symm.trans hpush)
    exact hrest
  · intro hrest
    exact ⟨b', hpush, hrest⟩

/-- Characters without a meaning of their own are read one after the other. -/
theorem reads_plain {b : Builder} (hflags : b.inner.flags = {}) {u t : List Char} (hu : ∀ c ∈ u, isPlain c = true) {p : Part} :
    Reads b (u ++ t) p ↔ Reads { b with inner := b.inner.digits u } t p := by
  induction u generalizing b with
  | nil => rfl
  | cons c u ih =>
    have hpush : b.push (.item ((Atom.literal c).pattern {}) 0) = .ok { b with inner := b.inner.add (digitPart {} c) } := rfl
    have hrest := ih (b := { b with inner := b.inner.add (digitPart {} c) }) hflags fun d hd => hu d (List.mem_cons_of_mem c hd)
    rw [List.cons_append, reads_token hflags (token_plain (hu c List.mem_cons_self)) hpush, hrest]
    simp [Group.digits, Group.add, hflags]

theorem contains_one {c d : Char} : (CharSet.one c).contains d = true ↔ d = c := by
  have hspan : (CharSet.one c).contains d = true ↔ d.toNat = c.toNat := by
    simp only [CharSet.one, CharSet.span, CharSet.contains, Spans.contains]
    split
    · simp; omega
    · split
      · simp [Nat.mod_one]; omega
      · simp; omega
  rw [hspan, Char.toNat_inj]

/-- Text matches itself. -/
theorem inSequence_plain {text : List Char} {before : Option Char} {u rest : List Char} :
    InSequence (text.map fun c => (digitPart {} c).pattern) before u rest ↔ u = text := by
  have hchar : ∀ {c before u rest}, Matches (digitPart {} c).pattern before u rest ↔ u = [c] := by
    intro c before u rest
    refine matches_char_iff.trans ⟨?_, fun hu => ⟨c, contains_one.mpr rfl, hu⟩⟩
    rintro ⟨d, hd, rfl⟩
    rw [contains_one.mp hd]
  induction text generalizing before u with
  | nil => rfl
  | cons c text ih =>
    constructor
    · rintro ⟨v, w, rfl, hc, hrest⟩
      rw [hchar.mp hc, ih.mp hrest]
      rfl
    · rintro rfl
      exact ⟨[c], text, rfl, hchar.mpr rfl, ih.mpr rfl⟩

theorem matches_numberPattern {n : Nat} {before : Option Char} {u rest : List Char} :
    Matches (Group.numberPattern {} n) before u rest ↔ u = Text.decimal n :=
  matches_concat_iff.trans inSequence_plain

/-! ## All characters but one -/

section
variable {c : Char}

theorem openClass_plain (hhyphen : c ≠ '-') (hbracket : c ≠ ']') (t : List Char) :
    openClass {} ('^' :: c :: t) = .ok (⟨true, none, []⟩, c :: t) := by
  have hhyphens : leadingHyphens {} ⟨true, none, []⟩ (c :: t).length (c :: t) = (⟨true, none, []⟩, c :: t) := by
    unfold leadingHyphens
    split <;> simp_all
  have hfirst : leadingBracket {} ⟨true, none, []⟩ (c :: t) = .ok (⟨true, none, []⟩, c :: t) := by
    unfold leadingBracket
    split <;> simp_all
  show leadingBracket {} (leadingHyphens {} ⟨true, none, []⟩ (c :: t).length (c :: t)).1
    (leadingHyphens {} ⟨true, none, []⟩ (c :: t).length (c :: t)).2 = _
  rw [hhyphens, hfirst]

/-- Before the closing bracket, a character without a meaning of its own is a member. -/
theorem classStep_plain (hc : isPlain c = true) (hbracket : c ≠ ']') (k : OpenClass) (outer : List OpenClass) (t : List Char) :
    classStep {} k outer (c :: ']' :: t) = .ok (.more (k.add ⟨.one c, 0⟩) outer, ']' :: t) := by
  have hatom : classAtom {} (c :: ']' :: t) = .ok (.literal c, ']' :: t) := by
    unfold classAtom
    split <;> simp_all [isPlain]
  have hmember : classMember {} (c :: ']' :: t) = .ok (⟨.one c, 0⟩, ']' :: t) := by
    rw [classMember, hatom]
    rfl
  unfold classStep
  split
  case h_7 =>
    rw [hmember]
    rfl
  all_goals simp_all [isPlain]

theorem token_complement (hc : isPlain c = true) (t : List Char) :
    token {} ('[' :: '^' :: c :: ']' :: t) = .ok (.item (.char (.not (.one c))) 1, t) := by
  by_cases hhyphen : c = '-'
  · subst hhyphen
    rfl
  · by_cases hbracket : c = ']'
    · subst hbracket
      rfl
    · have hbody : bracketClass {} ('^' :: c :: ']' :: t) = classBody {} (t.length + 3) ⟨true, none, []⟩ [] (c :: ']' :: t) := by
        unfold bracketClass
        rw [openClass_plain hhyphen hbracket]
        rfl
      have hclass : bracketClass {} ('^' :: c :: ']' :: t) = .ok (⟨.not (.one c), 1⟩, t) := by
        rw [hbody, classBody]
        show (classStep {} ⟨true, none, []⟩ [] (c :: ']' :: t) >>= _) = _
        rw [classStep_plain hc hbracket]
        rfl
      show (bracketClass {} ('^' :: c :: ']' :: t)).map _ = _
      rw [hclass]
      rfl

end

/-- The part that a class of all characters but one is. -/
def complementPart (c : Char) : Part := ⟨.char (.not (.one c)), itemShape (.char (.not (.one c))), 1, true⟩

theorem reads_repeated_complement {c d : Char} (hc : isPlain c = true) (hd : d ≠ '?') {b : Builder} (hflags : b.inner.flags = {})
    {t : List Char} {p : Part} : Reads b ('[' :: '^' :: c :: ']' :: '+' :: d :: t) p ↔
      Reads { b with inner := b.inner.add ((complementPart c).repeated 1 none false) } (d :: t) p := by
  have hplus : token {} ('+' :: d :: t) = .ok (.repetition 1 none false, d :: t) := by
    show Except.ok (repetition {} 1 none (d :: t)) = _
    unfold repetition
    split
    · rename_i heq
      exact absurd (List.cons.inj heq).1 hd
    · rfl
  have hclass : b.push (.item (.char (.not (.one c))) 1) = .ok { b with inner := b.inner.add (complementPart c) } := rfl
  let once : Builder := { b with inner := b.inner.add (complementPart c) }
  have hrepeat : once.repetition 1 none false =
      .ok { b with inner := b.inner.add ((complementPart c).repeated 1 none false) } := Builder.repetition_eq rfl rfl
  have honce : once.inner.flags = {} := hflags
  rw [reads_token hflags (token_complement hc _) hclass]
  exact reads_token honce hplus hrepeat

/-- What is repeated once or more is a text without the character. -/
theorem matches_repeated_complement {c : Char} {before : Option Char} {u rest : List Char} :
    Matches (repeated (char (.not (.one c))) 1 none) before u rest ↔ u ≠ [] ∧ c ∉ u := by
  have hone : ∀ {before v rest}, Matches (char (.not (.one c))) before v rest ↔ ∃ d, d ≠ c ∧ v = [d] := by
    intro before v rest
    rw [matches_char_iff]
    simp only [CharSet.contains, Bool.not_eq_true', Bool.eq_false_iff, ne_eq, contains_one]
  have hrow : ∀ {k before u}, InRow (char (.not (.one c))) k before u rest ↔ u.length = k ∧ c ∉ u := by
    intro k
    induction k with
    | zero =>
      intro before u
      constructor
      · rintro rfl
        exact ⟨rfl, List.not_mem_nil⟩
      · intro h
        exact List.eq_nil_of_length_eq_zero h.1
    | succ k ih =>
      intro before u
      constructor
      · rintro ⟨v, w, rfl, hv, hw⟩
        obtain ⟨d, hd, rfl⟩ := hone.mp hv
        obtain ⟨hlength, hmem⟩ := ih.mp hw
        exact ⟨congrArg (· + 1) hlength, List.not_mem_cons_of_ne_of_not_mem hd.symm hmem⟩
      · rintro ⟨hlength, hmem⟩
        obtain ⟨d, w, rfl⟩ := List.exists_cons_of_length_eq_add_one hlength
        rw [List.mem_cons, not_or] at hmem
        exact ⟨[d], w, rfl, hone.mpr ⟨d, Ne.symm hmem.1, rfl⟩, ih.mpr ⟨Nat.succ.inj hlength, hmem.2⟩⟩
  rw [matches_repeated_iff]
  simp only [hrow, Option.all_none, true_and]
  constructor
  · rintro ⟨k, hk, hlength, hmem⟩
    exact ⟨List.length_pos_iff.mp (by omega), hmem⟩
  · rintro ⟨hne, hmem⟩
    exact ⟨u.length, List.length_pos_iff.mpr hne, rfl, hmem⟩

/-! ## Groups -/

/-- The part that a group is. -/
def Group.closed (g : Group) : Part :=
  ⟨g.whole.pattern, g.number.elim g.whole.shape fun n => .group n g.whole.shape, g.whole.depth + 1, true⟩

/-- A group of numbers in parentheses. -/
theorem reads_group {b : Builder} (hflags : b.inner.flags = {}) {ns : List Nat} (hns : ns ≠ []) {t : List Char} {p : Part} :
    Reads b ('(' :: (LineFilter.branches ns ++ ')' :: t)) p ↔
      Reads { b with
        inner := b.inner.add ((Group.start (some b.groups) {}).numbers ns).closed
        groups := b.groups + 1 } t p := by
  have hopen : token {} ('(' :: (LineFilter.branches ns ++ ')' :: t)) =
      .ok (.openGroup true none {}, LineFilter.branches ns ++ ')' :: t) := by
    obtain ⟨-, ⟨d, u, hu, hd⟩, -⟩ := LineFilter.branches_ends hns
    rw [hu]
    show group {} (d :: (u ++ ')' :: t)) = _
    unfold group
    split
    · rename_i heq
      obtain ⟨rfl, -⟩ := List.cons.inj heq
      cases hd
    · rfl
  let inside : Builder := ⟨(Group.start (some b.groups) {}).numbers ns, b.inner :: b.outer, b.groups + 1, b.names⟩
  have hclose : inside.closeGroup = .ok { b with
      inner := b.inner.add ((Group.start (some b.groups) {}).numbers ns).closed
      groups := b.groups + 1 } := Builder.closeGroup_eq rfl
  have hinside : inside.inner.flags = {} := Group.numbers_flags ns
  rw [reads_token hflags hopen rfl, reads_numbers]
  exact reads_token (x := .closeGroup) hinside rfl hclose

namespace Group

variable {g : Group}

/-- A group of one branch is this branch. -/
theorem whole_eq_branch (h : g.branches = []) : g.whole = g.branch := by
  have hrepeatable : g.branch.repeatable = true := by
    unfold branch together
    split <;> rfl
  rw [whole, h]
  show { g.branch with repeatable := true } = g.branch
  rw [← hrepeatable]

theorem Bounded.digits {n : Nat} (h : g.Bounded n) (ds : List Char) : (g.digits ds).Bounded n := by
  induction ds generalizing g with
  | nil => exact h
  | cons d ds ih =>
    have hrest := ih (h.item ((Atom.literal d).pattern g.flags))
    simpa [Group.digits, Group.add, digitPart] using hrest

theorem Bounded.numbers {n : Nat} (h : g.Bounded n) (ns : List Nat) : (g.numbers ns).Bounded n := by
  induction ns generalizing g with
  | nil => exact h
  | cons m ns ih =>
    cases ns with
    | nil => exact h.digits _
    | cons m' ns => exact ih (h.digits _).newBranch

theorem closed_numbers_depth (number : Option Nat) (ns : List Nat) : ((start number {}).numbers ns).closed.depth ≤ 3 := by
  have hstart : (start number {}).Bounded 1 := ⟨Nat.le_refl 1, Nat.zero_le _⟩
  have hnumbers := hstart.numbers ns
  have hparts := hnumbers.parts
  have hbranches := hnumbers.branches
  have hwhole := whole_depth ((start number {}).numbers ns)
  have hbranch := branch_depth ((start number {}).numbers ns)
  show (whole _).depth + 1 ≤ 3
  split at hwhole <;> split at hbranch <;> omega

end Group

end DeltaLint.Pattern

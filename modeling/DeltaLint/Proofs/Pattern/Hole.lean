import DeltaLint.Proofs.Pattern.Length
import DeltaLint.Proofs.Text

/-
  DeltaLint.Proofs.Pattern.Hole — reading a text with a hole that numbers fill.

  The numbers of lines and the bars between them stand in one place of the text of a pattern, between
  what comes before and what comes after. What a reader makes of one filling with a bar, the sample,
  tells what it makes of others (`ReadsAt`): it stops before the hole, whatever fills it, or skips the
  hole in a comment, or does with the hole what `W` says. A reader of which the last cannot be is
  `LocalAt`; one that takes a first digit and nothing more is `Within` the hole.

  Such readers are put together from such readers (`ReadsAt.bind`, `ReadsAt.skip`, `ReadsAt.of_eq`).
-/

namespace DeltaLint.Pattern

open Unicode

variable {α β : Type}

/-! ## Fillings -/

/-- A character of the numbers and the bars between them. -/
def isMark (c : Char) : Bool := c.isDigit || c == '|'

/-- The text from the hole on, filled with marks of which the first is a digit. -/
def Fill (after v : List Char) : Prop :=
  ∃ d m, d.isDigit = true ∧ (∀ c ∈ m, isMark c = true) ∧ v = d :: (m ++ after)

/-- The first and the last digit of what fills a hole, and what stands after it. The sample has a bar after the first
digit, and then what is in the middle. -/
structure Hole where
  first : Char
  middle : List Char
  last : Char
  after : List Char
  first_isDigit : first.isDigit = true
  last_isDigit : last.isDigit = true
  middle_isMark : ∀ c ∈ middle, isMark c = true

namespace Hole

/-- The text from the hole on, with these marks between the first digit and the last. -/
def fill (h : Hole) (m : List Char) : List Char := h.first :: (m ++ h.last :: h.after)

def sample (h : Hole) : List Char := h.fill ('|' :: h.middle)

theorem fill_fill (h : Hole) {m : List Char} (hm : ∀ c ∈ m, isMark c = true) : Fill h.after (h.fill m) := by
  refine ⟨h.first, m ++ [h.last], h.first_isDigit, ?_, by simp [fill]⟩
  intro c hc
  rcases List.mem_append.mp hc with hc | hc
  · exact hm c hc
  · rw [List.mem_singleton.mp hc, isMark, h.last_isDigit]
    rfl

theorem sample_isMark (h : Hole) : ∀ c ∈ '|' :: h.middle, isMark c = true := by
  intro c hc
  rcases List.mem_cons.mp hc with rfl | hc
  · rfl
  · exact h.middle_isMark c hc

theorem fill_sample (h : Hole) : Fill h.after h.sample := h.fill_fill h.sample_isMark

end Hole

theorem Fill.cons {after v : List Char} (h : Fill after v) : ∃ d v', v = d :: v' ∧ d.isDigit = true := by
  obtain ⟨d, m, hd, -, rfl⟩ := h
  exact ⟨d, m ++ after, rfl, hd⟩

/-- A digit is none of the characters that mean anything to a reader. -/
theorem ne_of_isDigit {d c : Char} (h : d.isDigit = true) (hc : c.isDigit = false) : d ≠ c := by
  rintro rfl
  rw [h] at hc
  cases hc

/-- What follows begins with a character or with a digit. -/
theorem head?_append_ne {h : Hole} {a v : List Char} {c : Char} (hc : c.isDigit = false) (ha : a.head? ≠ some c)
    (hv : Fill h.after v) : (a ++ v).head? ≠ some c := by
  cases a with
  | nil =>
    obtain ⟨d, v', rfl, hd⟩ := hv.cons
    simpa using ne_of_isDigit hd hc
  | cons c' a => exact ha

theorem ne_of_isMark {c d : Char} (h : isMark c = true) (hc' : isMark d = false) : c ≠ d := by
  rintro rfl
  rw [h] at hc'
  cases hc'

/-- What holds of the digits and the bar. -/
@[elab_as_elim]
theorem of_isMark {P : Char → Prop} {c : Char} (hc : isMark c = true) (hdigits : ∀ n < 10, P (Char.ofNat (0x30 + n)))
    (hbar : P '|') : P c := by
  simp only [isMark, Bool.or_eq_true, beq_iff_eq] at hc
  rcases hc with hc | rfl
  · exact Text.of_isDigit hc hdigits
  · exact hbar

theorem toNat_of_isMark {c : Char} (h : isMark c = true) : c.toNat < 0x80 := of_isMark h (by decide) (by decide)

theorem not_blank_of_isMark {c : Char} (h : isMark c = true) : isBlank c = false := of_isMark h (by decide) (by decide)

/-! ## White space and comments -/

/-- A comment goes on to the end of its line, past every filling. -/
theorem Fill.skipBlank_comment {after v : List Char} (h : Fill after v) : skipBlank true v = skipBlank true after := by
  have hmark : ∀ {c : Char} (t : List Char), isMark c = true → skipBlank true (c :: t) = skipBlank true t := by
    intro c t hc
    have hc : (c != '\n') = true := by simpa using ne_of_isMark hc rfl
    rw [skipBlank, if_pos rfl, hc]
  obtain ⟨d, m, hd, hm, rfl⟩ := h
  rw [hmark _ (by simp [isMark, hd])]
  induction m with
  | nil => rfl
  | cons c m ih =>
    rw [List.cons_append, hmark _ (hm c List.mem_cons_self)]
    exact ih fun c' hc' => hm c' (List.mem_cons_of_mem c hc')

theorem skipBlank_of_isMark {c : Char} (h : isMark c = true) (text : List Char) : skipBlank false (c :: text) = c :: text := by
  rw [skipBlank, if_neg Bool.false_ne_true, not_blank_of_isMark h, if_neg Bool.false_ne_true, if_neg (ne_of_isMark h rfl)]

theorem Flags.skip_of_isMark {f : Flags} {c : Char} (h : isMark c = true) (text : List Char) :
    f.skip (c :: text) = c :: text := by
  unfold Flags.skip
  split
  · exact skipBlank_of_isMark h text
  · rfl

theorem Fill.skip {f : Flags} {after v : List Char} (h : Fill after v) : f.skip v = v := by
  obtain ⟨d, v', rfl, hd⟩ := h.cons
  exact Flags.skip_of_isMark (by simp [isMark, hd]) v'

/-- Skipping ends before the hole, or passes it in a comment. -/
theorem skipBlank_cases (inComment : Bool) (a after : List Char) :
    (∃ a', a'.length ≤ a.length ∧ ∀ v, Fill after v → skipBlank inComment (a ++ v) = a' ++ v) ∨
      ∃ rest, rest.length ≤ after.length ∧ ∀ v, Fill after v → skipBlank inComment (a ++ v) = rest := by
  induction a generalizing inComment with
  | nil =>
    cases inComment with
    | true => exact Or.inr ⟨skipBlank true after, skipBlank_length true after, fun v hv => hv.skipBlank_comment⟩
    | false =>
      refine Or.inl ⟨[], Nat.le_refl _, fun v hv => ?_⟩
      obtain ⟨d, v', rfl, hd⟩ := hv.cons
      exact skipBlank_of_isMark (by simp [isMark, hd]) v'
  | cons c a ih =>
    have hlater : ∀ {ic : Bool}, (∀ v, skipBlank inComment (c :: (a ++ v)) = skipBlank ic (a ++ v)) →
        (∃ a', a'.length ≤ (c :: a).length ∧ ∀ v, Fill after v → skipBlank inComment (c :: a ++ v) = a' ++ v) ∨
          ∃ rest, rest.length ≤ after.length ∧ ∀ v, Fill after v → skipBlank inComment (c :: a ++ v) = rest := by
      intro ic hstep
      simp only [List.cons_append, hstep]
      rcases ih ic with ⟨a', hle, ha'⟩ | hrest
      · exact Or.inl ⟨a', Nat.le_succ_of_le hle, ha'⟩
      · exact Or.inr hrest
    by_cases hic : inComment = true
    · exact hlater fun v => by rw [skipBlank, if_pos hic]
    · by_cases hblank : isBlank c = true
      · exact hlater fun v => by rw [skipBlank, if_neg hic, if_pos hblank]
      · by_cases hhash : c = '#'
        · exact hlater fun v => by rw [skipBlank, if_neg hic, if_neg hblank, if_pos hhash]
        · exact Or.inl ⟨c :: a, Nat.le_refl _, fun v _ => by
            rw [List.cons_append, skipBlank, if_neg hic, if_neg hblank, if_neg hhash]⟩

theorem skip_cases (f : Flags) (a after : List Char) :
    (∃ a', a'.length ≤ a.length ∧ ∀ v, Fill after v → f.skip (a ++ v) = a' ++ v) ∨
      ∃ rest, rest.length ≤ after.length ∧ ∀ v, Fill after v → f.skip (a ++ v) = rest := by
  unfold Flags.skip
  cases f.verbose with
  | false => exact Or.inl ⟨a, Nat.le_refl _, fun v _ => rfl⟩
  | true => exact skipBlank_cases false a after

theorem trimLeft_cases (a after : List Char) :
    ∃ a', a'.length ≤ a.length ∧ ∀ v, Fill after v → trimLeft (a ++ v) = a' ++ v := by
  induction a with
  | nil =>
    refine ⟨[], Nat.le_refl _, fun v hv => ?_⟩
    obtain ⟨d, v', rfl, hd⟩ := hv.cons
    have := not_blank_of_isMark (c := d) (by simp [isMark, hd])
    simp [trimLeft, this]
  | cons c a ih =>
    by_cases hc : isBlank c = true
    · obtain ⟨a', hle, ha'⟩ := ih
      refine ⟨a', Nat.le_succ_of_le hle, fun v hv => ?_⟩
      rw [← ha' v hv, List.cons_append, trimLeft, List.dropWhile_cons_of_pos hc]
      rfl
    · exact ⟨c :: a, Nat.le_refl _, fun v _ => by simp [trimLeft, hc]⟩

/-! ## Readers at a hole -/

/-- The reader stops before the hole, whatever fills it. -/
def Before (h : Hole) (r : Reader α) (a : List Char) (x : α) : Prop :=
  ∃ a', ∀ v, Fill h.after v → r (a ++ v) = .ok (x, a' ++ v)

/-- The reader passes the hole in a comment, whatever fills it. -/
def Past (h : Hole) (r : Reader α) (a : List Char) (x : α) (rest : List Char) : Prop :=
  rest.length ≤ h.after.length ∧ ∀ v, Fill h.after v → r (a ++ v) = .ok (x, rest)

/-- The reader takes the first digit of the hole and stops there. -/
def Within (h : Hole) (r : Reader α) (a : List Char) (x : α) : Prop :=
  ∀ m, (∀ c ∈ m, isMark c = true) → r (a ++ h.fill m) = .ok (x, m ++ h.last :: h.after)

/-- The reader passes the hole, and what it reads is the same in what counts, whatever stands between the first digit
of the hole and the last. -/
def Through (h : Hole) (same : α → α → Prop) (r : Reader α) (a : List Char) (x : α) (rest : List Char) : Prop :=
  rest.length ≤ h.after.length ∧
    ∀ m, (∀ c ∈ m, isMark c = true) → ∃ x', r (a ++ h.fill m) = .ok (x', rest) ∧ same x x'

/-- What the reader makes of `a` with the sample in the hole, it makes of `a` with other fillings, or `W` holds. -/
def ReadsAt (h : Hole) (W : α → List Char → Prop) (r : Reader α) (a : List Char) : Prop :=
  ∀ x rest, r (a ++ h.sample) = .ok (x, rest) → Before h r a x ∨ Past h r a x rest ∨ W x rest

/-- The reader takes no part of the hole. -/
def LocalAt (h : Hole) (r : Reader α) (a : List Char) : Prop := ReadsAt h (fun _ _ => False) r a

section
variable {h : Hole} {a : List Char} {r : Reader α} {W : α → List Char → Prop} {W' : β → List Char → Prop}

theorem Within.rest_eq {x y : α} {rest : List Char} (hr : Within h r a x) (hs : r (a ++ h.sample) = .ok (y, rest)) :
    rest = '|' :: (h.middle ++ h.last :: h.after) := by
  have := (hr _ h.sample_isMark).symm.trans hs
  cases this
  rfl

theorem Through.of_eq {same : α → α → Prop} {k : Reader α} {b : List Char} {x : α} {rest : List Char}
    (hk : Through h same k b x rest) (heq : ∀ v, Fill h.after v → r (a ++ v) = k (b ++ v)) :
    Through h same r a x rest := by
  refine ⟨hk.1, fun m hm => ?_⟩
  rw [heq _ (h.fill_fill hm)]
  exact hk.2 m hm

theorem ReadsAt.mono {V : α → List Char → Prop} (hr : ReadsAt h W r a) (hW : ∀ x rest, W x rest → V x rest) :
    ReadsAt h V r a := by
  intro x rest hx
  rcases hr x rest hx with hbefore | hpast | hw
  · exact Or.inl hbefore
  · exact Or.inr (Or.inl hpast)
  · exact Or.inr (Or.inr (hW x rest hw))

theorem LocalAt.readsAt (hr : LocalAt h r a) : ReadsAt h W r a := ReadsAt.mono hr fun _ _ hf => hf.elim

theorem ReadsAt.of_before {x : α} {b : List Char} (hr : ∀ v, Fill h.after v → r (a ++ v) = .ok (x, b ++ v)) :
    ReadsAt h W r a := by
  intro y rest hy
  have := (hr _ h.fill_sample).symm.trans hy
  cases this
  exact Or.inl ⟨b, hr⟩

theorem ReadsAt.of_error {e : Fault} (hr : r (a ++ h.sample) = .error e) : ReadsAt h W r a := by
  intro x rest hx
  rw [hr] at hx
  cases hx

theorem ReadsAt.of_within {x : α} (hr : Within h r a x) : ReadsAt h (fun x _ => Within h r a x) r a := by
  intro y rest hy
  have := (hr _ h.sample_isMark).symm.trans hy
  cases this
  exact Or.inr (Or.inr hr)

/-- A reader that does at `a` what another does at `a'`. -/
theorem ReadsAt.of_eq {k : Reader α} {b : List Char} (hk : ReadsAt h W k b)
    (heq : ∀ v, Fill h.after v → r (a ++ v) = k (b ++ v)) : ReadsAt h W r a := by
  intro x rest hx
  rw [heq _ h.fill_sample] at hx
  rcases hk x rest hx with ⟨a'', ha''⟩ | ⟨hle, hpast⟩ | hW
  · exact Or.inl ⟨a'', fun v hv => by rw [heq v hv, ha'' v hv]⟩
  · exact Or.inr (Or.inl ⟨hle, fun v hv => by rw [heq v hv, hpast v hv]⟩)
  · exact Or.inr (Or.inr hW)

theorem Within.of_eq {k : Reader α} {b : List Char} {x : α} (hk : Within h k b x)
    (heq : ∀ v, Fill h.after v → r (a ++ v) = k (b ++ v)) : Within h r a x := by
  intro m hm
  rw [heq _ (h.fill_fill hm)]
  exact hk m hm

/-- Reading on where a reader has stopped. -/
theorem ReadsAt.bind {s : α → Reader β} (hr : ReadsAt h W r a)
    (hs : ∀ x a', (∀ v, Fill h.after v → r (a ++ v) = .ok (x, a' ++ v)) → ReadsAt h W' (s x) a')
    (hlength : ∀ x t y t', s x t = .ok (y, t') → t'.length ≤ t.length)
    (hw : ∀ x rest, r (a ++ h.sample) = .ok (x, rest) → W x rest → ∀ y rest', s x rest = .ok (y, rest') → W' y rest') :
    ReadsAt h W' (fun t => r t >>= fun p => s p.1 p.2) a := by
  have hthen : ∀ {t rest : List Char} {x : α}, r t = .ok (x, rest) → (r t >>= fun p => s p.1 p.2) = s x rest := by
    intro t rest x hx
    rw [hx]
    rfl
  intro y rest' hy
  obtain ⟨⟨x, rest⟩, hx, hy⟩ := bind_eq_ok.mp hy
  dsimp only at hy
  rcases hr x rest hx with ⟨a', ha'⟩ | ⟨hle, hpast⟩ | hW
  · have hrest := (ha' _ h.fill_sample).symm.trans hx
    cases hrest
    rcases hs x a' ha' y rest' hy with ⟨a'', ha''⟩ | ⟨hle, hpast⟩ | hW'
    · exact Or.inl ⟨a'', fun v hv => (hthen (ha' v hv)).trans (ha'' v hv)⟩
    · exact Or.inr (Or.inl ⟨hle, fun v hv => (hthen (ha' v hv)).trans (hpast v hv)⟩)
    · exact Or.inr (Or.inr hW')
  · have hle' := hlength x rest y rest' hy
    exact Or.inr (Or.inl ⟨Nat.le_trans hle' hle, fun v hv => (hthen (hpast v hv)).trans hy⟩)
  · exact Or.inr (Or.inr (hw x rest hx hW y rest' hy))

theorem LocalAt.bind {s : α → Reader β} (hr : LocalAt h r a)
    (hs : ∀ x a', (∀ v, Fill h.after v → r (a ++ v) = .ok (x, a' ++ v)) → ReadsAt h W' (s x) a')
    (hlength : ∀ x t y t', s x t = .ok (y, t') → t'.length ≤ t.length) :
    ReadsAt h W' (fun t => r t >>= fun p => s p.1 p.2) a :=
  ReadsAt.bind hr hs hlength fun _ _ _ hf => hf.elim

theorem LocalAt.map {g : α → β} (hr : LocalAt h r a) : LocalAt h (fun t => (r t).map fun p => (g p.1, p.2)) a := by
  have hbind : (fun t => (r t).map fun p => (g p.1, p.2)) = fun t => r t >>= fun p => .ok (g p.1, p.2) := by
    funext t
    cases r t <;> rfl
  rw [hbind]
  refine LocalAt.bind (s := fun x t => .ok (g x, t)) hr (fun x a' _ => .of_before fun v _ => rfl) ?_
  intro x t y t' hy
  cases hy
  exact Nat.le_refl _

/-- Reading after what has no meaning is dropped. -/
theorem ReadsAt.skip {f : Flags} (hr : ∀ a', a'.length ≤ a.length → (∀ v, Fill h.after v → f.skip (a ++ v) = a' ++ v) →
      ReadsAt h W r a') (hlength : ∀ t x t', r t = .ok (x, t') → t'.length ≤ t.length) :
    ReadsAt h W (fun t => r (f.skip t)) a := by
  rcases skip_cases f a h.after with ⟨a', hle, ha'⟩ | ⟨past, hle, hpast⟩
  · exact (hr a' hle ha').of_eq fun v hv => by rw [ha' v hv]
  · intro x rest hx
    dsimp only [Past] at hx ⊢
    rw [hpast _ h.fill_sample] at hx
    have hle' := hlength past x rest hx
    exact Or.inr (Or.inl ⟨Nat.le_trans hle' hle, fun v hv => by rw [hpast v hv, hx]⟩)

theorem localAt_ok (x : α) : LocalAt h (fun t => .ok (x, t)) a := ReadsAt.of_before fun _ _ => rfl

/-- What does not depend on the text. -/
theorem localAt_value (x : Except Fault α) : LocalAt h (fun t => x.map (·, t)) a := by
  cases x with
  | error e => exact ReadsAt.of_error (e := e) rfl
  | ok x => exact localAt_ok x

theorem localAt_skip (f : Flags) (x : α) : LocalAt h (fun t => .ok (x, f.skip t)) a := by
  refine ReadsAt.skip (r := fun t => .ok (x, t)) (fun _ _ _ => localAt_ok x) ?_
  intro t y t' ht
  cases ht
  exact Nat.le_refl _

/-! ## Readers that take a digit at most -/

/-- The reader takes no part of the hole but perhaps its first digit. -/
def NearAt (h : Hole) (r : Reader α) (a : List Char) : Prop := ReadsAt h (fun x _ => Within h r a x) r a

theorem LocalAt.near (hr : LocalAt h r a) : NearAt h r a := hr.readsAt

theorem NearAt.of_eq {k : Reader α} {b : List Char} (hk : NearAt h k b)
    (heq : ∀ v, Fill h.after v → r (a ++ v) = k (b ++ v)) : NearAt h r a :=
  (ReadsAt.mono hk fun _ _ hw => hw.of_eq heq).of_eq heq

theorem NearAt.skip {f : Flags} (hr : ∀ a', a'.length ≤ a.length → NearAt h r a')
    (hlength : ∀ t x t', r t = .ok (x, t') → t'.length ≤ t.length) : NearAt h (fun t => r (f.skip t)) a :=
  ReadsAt.skip (fun a' hle ha' => (hr a' hle).mono fun _ _ hw => hw.of_eq fun v hv => by rw [ha' v hv]) hlength

/-- What stands after the first digit begins with a mark. -/
theorem Hole.after_first (h : Hole) {m : List Char} (hm : ∀ c ∈ m, isMark c = true) :
    ∃ c t, m ++ h.last :: h.after = c :: t ∧ isMark c = true := by
  cases m with
  | nil => exact ⟨h.last, h.after, rfl, by simp [isMark, h.last_isDigit]⟩
  | cons c m => exact ⟨c, m ++ h.last :: h.after, rfl, hm c List.mem_cons_self⟩

/-- Reading on where a reader has stopped, with a reader that takes no mark. -/
theorem NearAt.bind {s : α → Reader β} (hr : NearAt h r a)
    (hs : ∀ x a', (∀ v, Fill h.after v → r (a ++ v) = .ok (x, a' ++ v)) → NearAt h (s x) a')
    (hlength : ∀ x t y t', s x t = .ok (y, t') → t'.length ≤ t.length)
    (hstop : ∀ x y c t t', isMark c = true → s x (c :: t) = .ok (y, t') →
      ∀ c' u, isMark c' = true → s x (c' :: u) = .ok (y, c' :: u)) : NearAt h (fun t => r t >>= fun p => s p.1 p.2) a := by
  have hthen : ∀ {x : α} {y : β} {t : List Char → List Char}, (∀ m, (∀ c ∈ m, isMark c = true) → r (a ++ h.fill m) = .ok (x, t m)) →
      (∀ m, (∀ c ∈ m, isMark c = true) → s x (t m) = .ok (y, m ++ h.last :: h.after)) →
      Within h (fun t => r t >>= fun p => s p.1 p.2) a y := by
    intro x y t hx hy m hm
    dsimp only
    rw [hx m hm]
    exact hy m hm
  refine ReadsAt.bind hr (fun x a' ha' => (hs x a' ha').mono fun y rest hw => ?_) hlength ?_
  · exact hthen (fun m hm => ha' _ (h.fill_fill hm)) hw
  · intro x rest hx hw y rest' hy
    rw [hw.rest_eq hx] at hy
    refine hthen hw fun m hm => ?_
    obtain ⟨c, t, hct, hc⟩ := h.after_first hm
    rw [hct]
    exact hstop x y '|' _ rest' rfl hy c t hc

theorem NearAt.value {g : α → Except Fault β} (hr : NearAt h r a) :
    NearAt h (fun t => r t >>= fun p => (g p.1).map (·, p.2)) a := by
  have hg : ∀ {x : α} {t t' : List Char} {y : β}, (g x).map (·, t) = .ok (y, t') → g x = .ok y ∧ t' = t := by
    intro x t t' y hy
    obtain ⟨y', hy', hpair⟩ := map_eq_ok.mp hy
    cases hpair
    exact ⟨hy', rfl⟩
  refine NearAt.bind (s := fun x t => (g x).map (·, t)) hr ?_ ?_ ?_
  · intro x a' _ y rest hy
    obtain ⟨hy, -⟩ := hg hy
    exact Or.inl ⟨a', fun v _ => by rw [hy]; rfl⟩
  · intro x t y t' hy
    exact Nat.le_of_eq (congrArg List.length (hg hy).2)
  · intro x y c t t' _ hy c' u _
    rw [(hg hy).1]
    rfl

theorem NearAt.map {g : α → β} (hr : NearAt h r a) : NearAt h (fun t => (r t).map fun p => (g p.1, p.2)) a := by
  refine (NearAt.value (g := fun x => .ok (g x)) hr).of_eq fun v _ => ?_
  cases r (a ++ v) <;> rfl

/-- What is made of what such a reader reads. -/
theorem NearAt.image {k : Reader β} {b : List Char} {g : α → β} (hr : NearAt h r b)
    (heq : ∀ v, Fill h.after v → k (a ++ v) = (r (b ++ v)).map fun p => (g p.1, p.2)) :
    ReadsAt h (fun y _ => Within h k a y ∧ ∃ x, y = g x) k a := by
  intro y rest hy
  rcases (NearAt.map hr).of_eq heq y rest hy with hbefore | hpast | hwithin
  · exact Or.inl hbefore
  · exact Or.inr (Or.inl hpast)
  · rw [heq _ h.fill_sample] at hy
    obtain ⟨⟨x, t⟩, -, hpair⟩ := map_eq_ok.mp hy
    exact Or.inr (Or.inr ⟨hwithin, x, (Prod.mk.inj hpair).1.symm⟩)

end

end DeltaLint.Pattern

import DeltaLint.Config.Builtin
import DeltaLint.Config.Entry
import DeltaLint.Proofs.LineFilter
import DeltaLint.Proofs.Pattern.Union
import DeltaLint.Proofs.Selection
import Mathlib

/-
  DeltaLint.Proofs.Membership — filters that keep a line of the output exactly if it is about one of the lines.

  The numbers of the lines are put into the text of the pattern with bars between them, and how far a bar reaches depends
  on what stands around it. In `^Line %(lines)s:` it reaches over the rest of the pattern, so that `Line 10: a` is kept for
  the lines 1 and 2. Where the numbers are branches of their own and are not repeated (`stands`), the pattern unites
  those for each number alone.

  Proved: `kept_by_membership`; the filters that are built in stand (`builtin_stands`).
-/

namespace DeltaLint

namespace Pattern

/-! ## Reading the numbers -/

namespace Group

def digits (g : Group) (ds : List Char) : Group := { g with parts := (ds.map (digitPart g.flags)).reverse ++ g.parts }

/-- The group after numbers with bars between them. -/
def numbers (g : Group) : List Nat → Group
  | [] => g
  | [n] => g.digits (Text.decimal n)
  | n :: ns => (g.digits (Text.decimal n)).newBranch.numbers ns

end Group

theorem reads_digits {b : Builder} {ds t : List Char} {p : Part} (hds : ∀ c ∈ ds, c.isDigit = true) :
    Reads b (ds ++ t) p ↔ Reads { b with inner := b.inner.digits ds } t p := by
  induction ds generalizing b with
  | nil => rfl
  | cons d ds ih =>
    rw [List.cons_append, reads_digit (hds d List.mem_cons_self), ih fun c hc => hds c (List.mem_cons_of_mem d hc)]
    simp [Group.digits, Group.add]

theorem reads_numbers {b : Builder} {lines : List Nat} {t : List Char} {p : Part} :
    Reads b (LineFilter.branches lines ++ t) p ↔ Reads { b with inner := b.inner.numbers lines } t p := by
  induction lines generalizing b with
  | nil => rfl
  | cons n lines ih =>
    have hdecimal : ∀ c ∈ Text.decimal n, c.isDigit = true := fun c hc => Text.isDigit_of_mem_decimal hc
    cases lines with
    | nil =>
      have hone : LineFilter.branches [n] = Text.decimal n := by simp [LineFilter.branches, Text.glue]
      rw [hone]
      exact reads_digits hdecimal
    | cons n' lines =>
      have hcons : LineFilter.branches (n :: n' :: lines) ++ t =
          Text.decimal n ++ '|' :: (LineFilter.branches (n' :: lines) ++ t) := by
        simp [LineFilter.branches, Text.glue]
      rw [hcons, reads_digits hdecimal, reads_bar, ih]
      rfl

namespace Group

variable {g : Group}

theorem numbers_number (lines : List Nat) : (g.numbers lines).number = g.number := by
  induction lines generalizing g with
  | nil => rfl
  | cons n lines ih =>
    cases lines with
    | nil => rfl
    | cons n' lines => exact ih

theorem numbers_flags (lines : List Nat) : (g.numbers lines).flags = g.flags := by
  induction lines generalizing g with
  | nil => rfl
  | cons n lines ih =>
    cases lines with
    | nil => rfl
    | cons n' lines => exact ih

/-- The digits of a number, one after the other. -/
def numberPattern (f : Flags) (n : Nat) : Pattern := concat ((Text.decimal n).map fun c => (digitPart f c).pattern)

theorem digits_branch (hparts : g.parts = []) (n : Nat) :
    (g.digits (Text.decimal n)).branch.pattern = numberPattern g.flags n := by
  rw [branch_pattern]
  simp [digits, hparts, numberPattern, Function.comp_def]

/-- In a branch of their own, the numbers are branches. -/
theorem anyOf_numbers (hparts : g.parts = []) {lines : List Nat} (hlines : lines ≠ []) {before : Option Char}
    {u rest : List Char} : AnyOf ((g.numbers lines).branch :: (g.numbers lines).branches) before u rest ↔
      (∃ n ∈ lines, Matches (numberPattern g.flags n) before u rest) ∨ AnyOf g.branches before u rest := by
  induction lines generalizing g with
  | nil => exact absurd rfl hlines
  | cons n lines ih =>
    have hone : AnyOf ((g.digits (Text.decimal n)).branch :: (g.digits (Text.decimal n)).branches) before u rest ↔
        Matches (numberPattern g.flags n) before u rest ∨ AnyOf g.branches before u rest := by
      rw [anyOf_cons, digits_branch hparts]
      rfl
    cases lines with
    | nil =>
      simp only [List.mem_singleton, exists_eq_left]
      exact hone
    | cons n' lines =>
      have hrest := ih (g := (g.digits (Text.decimal n)).newBranch) rfl (List.cons_ne_nil _ _)
      have hfirst : AnyOf (g.digits (Text.decimal n)).newBranch.branches before u rest ↔ _ := hone
      rw [List.exists_mem_cons_iff, or_assoc]
      exact hrest.trans ((or_congr_right hfirst).trans or_left_comm)

theorem numbers_whole (hparts : g.parts = []) {lines : List Nat} (hlines : lines ≠ []) :
    Whole (g.numbers lines) fun i : { n // n ∈ lines } => g.numbers [i.1] := by
  refine ⟨fun i => ?_, fun i => ?_, fun before u rest => ?_⟩
  · rw [numbers_number, numbers_number]
  · rw [numbers_flags, numbers_flags]
  · obtain ⟨n, hn⟩ := List.exists_mem_of_ne_nil lines hlines
    have hone : ∀ i : { n // n ∈ lines }, AnyOf ((g.numbers [i.1]).branch :: (g.numbers [i.1]).branches) before u rest ↔
        Matches (numberPattern g.flags i.1) before u rest ∨ AnyOf g.branches before u rest := by
      intro i
      simpa using anyOf_numbers hparts (List.cons_ne_nil i.1 [])
    simp only [hone]
    rw [anyOf_numbers hparts hlines]
    constructor
    · intro hany
      rcases hany with ⟨m, hm, hmatch⟩ | hbranches
      · exact ⟨⟨m, hm⟩, Or.inl hmatch⟩
      · exact ⟨⟨n, hn⟩, Or.inr hbranches⟩
    · intro hany
      rcases hany with ⟨⟨m, hm⟩, hmatch | hbranches⟩
      · exact Or.inl ⟨m, hm, hmatch⟩
      · exact Or.inr hbranches

end Group

end Pattern

namespace LineFilter

open Pattern

/-! ## Where the numbers stand -/

theorem ok_of_toOption {ε α : Type} {r : Except ε α} {a : α} (h : r.toOption = some a) : r = .ok a := by
  cases r with
  | error e => cases h
  | ok a' => exact congrArg _ (Option.some.inj h)

/-- What is read before the placeholder and the tokens after it, unless a token goes over the place. -/
def frame (template : String) : Option (Builder × List Token) := do
  let [a, after] := parts template | none
  let sample := branches [1, 2] ++ after
  let (xs, rest) ← (tokens sample.length a.length .start (a ++ sample)).toOption
  if rest ≠ sample then none
  let b ← (Builder.start.pushAll xs).toOption
  let (ys, rest) ← (tokens 0 after.length b.modes after).toOption
  if rest ≠ [] then none
  return (b, ys)

/-- The numbers are branches of their own, and are taken once at most. -/
def stands (template : String) : Bool :=
  (frame template).any fun (b, ys) => b.inner.parts.isEmpty && Builder.endsBranch ys && unrepeated ⟨0, false⟩ ys

theorem frame_eq_some {template : String} {b : Builder} {ys : List Token} (h : frame template = some (b, ys)) :
    ∃ a after xs, parts template = [a, after] ∧
      tokens (branches [1, 2] ++ after).length a.length .start (a ++ (branches [1, 2] ++ after)) =
        .ok (xs, branches [1, 2] ++ after) ∧
      Builder.start.pushAll xs = .ok b ∧ tokens 0 after.length b.modes after = .ok (ys, []) := by
  unfold frame at h
  split at h
  · rename_i a after hparts
    obtain ⟨⟨xs, rest⟩, hbefore, h⟩ := Option.bind_eq_some_iff.mp h
    dsimp only at h
    split at h
    · cases h
    · rename_i hrest
      obtain ⟨b', hpush, h⟩ := Option.bind_eq_some_iff.mp h
      obtain ⟨⟨ys', rest'⟩, hafter, h⟩ := Option.bind_eq_some_iff.mp h
      dsimp only at h
      split at h
      · cases h
      · rename_i hrest'
        cases h
        obtain rfl := not_not.mp hrest
        obtain rfl := not_not.mp hrest'
        exact ⟨a, after, xs, hparts, ok_of_toOption hbefore, ok_of_toOption hpush, ok_of_toOption hafter⟩
  · cases h

/-- What is read for the lines: the tokens before the placeholder, the numbers, and the tokens after it. -/
theorem parse_of_frame {template : String} {b : Builder} {ys : List Token} (h : frame template = some (b, ys))
    {lines : List Nat} (hlines : lines ≠ []) {p : Part} : parse (expand template lines) = .ok p ↔
      ∃ b', { b with inner := b.inner.numbers lines }.pushAll ys = .ok b' ∧ b'.finish = .ok p := by
  obtain ⟨a, after, xs, hparts, hbefore, hpush, hafter⟩ := frame_eq_some h
  let hole : Hole := ⟨'1', [], '2', after, rfl, rfl, List.forall_mem_nil _⟩
  have hsample : branches [1, 2] ++ after = hole.sample :=
    congrArg (· ++ after) (show branches [1, 2] = ['1', '|', '2'] by decide)
  rw [hsample] at hbefore
  have hfill : Fill hole.after (branches lines ++ after) := by
    obtain ⟨hmarks, ⟨d, u, hu, hd⟩, -⟩ := branches_ends hlines
    rw [hu] at hmarks ⊢
    exact ⟨d, u, hd, fun c hc => hmarks c (List.mem_cons_of_mem d hc), rfl⟩
  have hmodes : ({ b with inner := b.inner.numbers lines } : Builder).modes = b.modes := by
    simp [Builder.modes, Group.numbers_flags]
  rw [parse_iff, expand_of_parts hparts, reads_hole (h := hole) hbefore hfill]
  rw [← hmodes] at hafter
  constructor
  · intro hreads
    obtain ⟨d, hd, hrest⟩ := hreads
    obtain rfl := Except.ok.inj (hpush.symm.trans hd)
    exact (reads_tokens hafter).mp (reads_numbers.mp hrest)
  · intro hrest
    exact ⟨b, hpush, reads_numbers.mpr ((reads_tokens hafter).mpr hrest)⟩

/-! ## Membership -/

/-- Where the numbers are branches of their own, the pattern for the lines unites those for each line alone. -/
theorem unites_of_stands {template : String} (h : stands template = true) {lines : List Nat} (hlines : lines ≠ []) {p : Part}
    (hp : parse (expand template lines) = .ok p) {q : { n // n ∈ lines } → Part}
    (hq : ∀ i, parse (expand template [i.1]) = .ok (q i)) : Unites p.pattern fun i => (q i).pattern := by
  obtain ⟨⟨b, ys⟩, hframe, h⟩ := (Option.any_eq_true _ _).mp h
  simp only [Bool.and_eq_true, List.isEmpty_iff] at h
  obtain ⟨⟨hparts, hends⟩, hunrepeated⟩ := h
  obtain ⟨n, hn⟩ := List.exists_mem_of_ne_nil lines hlines
  have : Nonempty { n // n ∈ lines } := ⟨⟨n, hn⟩⟩
  have hwhole : Builder.Whole { b with inner := b.inner.numbers lines }
      fun i : { n // n ∈ lines } => { b with inner := b.inner.numbers [i.1] } :=
    ⟨fun _ => rfl, fun _ => rfl, fun _ => rfl, Group.numbers_whole hparts hlines⟩
  obtain ⟨b', hb', hp⟩ := (parse_of_frame hframe hlines).mp hp
  obtain ⟨houter, rfl⟩ := Builder.finish_ok hp
  obtain ⟨c', hc', hunited⟩ := hwhole.pushAll hends hunrepeated hb' houter
  have hone : ∀ i, q i = (c' i).inner.whole := by
    intro i
    obtain ⟨d, hd, hqi⟩ := (parse_of_frame hframe (List.cons_ne_nil _ _)).mp (hq i)
    obtain rfl := Except.ok.inj ((hc' i).symm.trans hd)
    exact (Builder.finish_ok hqi).2
  simp only [hone]
  exact hunited.inner.pattern

/-- The filter keeps the line of an output when it is asked for these lines of the file. -/
def Keeps (template : String) (lines : List Nat) (line : List Char) : Prop :=
  ∃ p, pattern template lines = .ok p ∧ p.StartsIn line

instance decidableKeeps (template : String) (lines : List Nat) (line : List Char) : Decidable (Keeps template lines line) :=
  match h : pattern template lines with
  | .ok p => decidable_of_iff (p.StartsIn line) (by simp [Keeps, h])
  | .error _ => isFalse (by simp [Keeps, h])

/-- The text of those lines of an output that have a property. -/
def having (P : List Char → Prop) [DecidablePred P] (output : String) : String :=
  String.ofList (Text.glue '\n' ((Text.pieces '\n' output.toList).filter fun line => decide (P line)))

theorem having_congr {P Q : List Char → Prop} [DecidablePred P] [DecidablePred Q] (h : ∀ line, P line ↔ Q line)
    (output : String) : having P output = having Q output := by
  simp only [having, h]

/-- Where the filter is a pattern for the lines, what is selected is what it keeps. -/
theorem select_eq_having {template : String} {lines : List Nat} (hlines : lines ≠ [])
    (h : ∃ p, pattern template lines = .ok p) (output : String) :
    select output template (some lines) = .ok (having (Keeps template lines) output) := by
  obtain ⟨n, ns, rfl⟩ := List.exists_cons_of_ne_nil hlines
  obtain ⟨p, hp⟩ := h
  have hkeeps : ∀ line, Keeps template (n :: ns) line ↔ p.StartsIn line := by
    intro line
    simp [Keeps, hp]
  have hselect : select output template (some (n :: ns)) = .ok (keep p output) := by
    simp only [select, hp]
    rfl
  rw [hselect, keep_eq, having_congr hkeeps]
  rfl

/-- A line is kept when it is selected from itself. -/
theorem keeps_iff_select {template : String} {lines : List Nat} (hlines : lines ≠ []) {line : List Char} (hline : line ≠ [])
    (hnewline : '\n' ∉ line) :
    Keeps template lines line ↔ select (String.ofList line) template (some lines) = .ok (String.ofList line) := by
  have hpieces : Text.pieces '\n' line = [line] := by
    simpa [Text.glue] using Text.pieces_glue (List.cons_ne_nil line []) (List.forall_mem_singleton.mpr hnewline)
  have hhaving : having (Keeps template lines) (String.ofList line) = String.ofList line ↔ Keeps template lines line := by
    by_cases hkeeps : Keeps template lines line
    · simp [having, hpieces, hkeeps, Text.glue]
    · simp [having, hpieces, hkeeps, Text.glue, hline]
  constructor
  · intro hkeeps
    have hpattern : ∃ p, pattern template lines = .ok p := hkeeps.imp fun _ h => h.1
    rw [select_eq_having hlines hpattern, hhaving.mpr hkeeps]
  · intro hselect
    obtain ⟨found, hfound, -⟩ := select_eq_ok_iff.mp hselect
    obtain ⟨n, ns, rfl⟩ := List.exists_cons_of_ne_nil hlines
    obtain ⟨p, hp, -⟩ := hfound
    rw [select_eq_having hlines ⟨p, hp⟩] at hselect
    exact hhaving.mp (Except.ok.inj hselect)

/-- Where the numbers are branches of their own, a line is kept exactly if one of them alone keeps it. -/
theorem keeps_iff {template : String} (h : stands template = true) {lines : List Nat} (hlines : lines ≠ [])
    (hall : ∃ p, pattern template lines = .ok p) (hone : ∀ n ∈ lines, ∃ p, pattern template [n] = .ok p) (line : List Char) :
    Keeps template lines line ↔ ∃ n ∈ lines, Keeps template [n] line := by
  obtain ⟨p, hp⟩ := hall
  obtain ⟨w, hw, rfl⟩ := parse_of_pattern hp
  choose q hq using fun i : { n // n ∈ lines } => hone i.1 i.2
  choose v hv hpattern using fun i => parse_of_pattern (hq i)
  have hunites := unites_of_stands h hlines hw hv
  simp only [hpattern] at hunites
  constructor
  · intro hkeeps
    obtain ⟨p, hp', u, rest, rfl, hmatch⟩ := hkeeps
    obtain rfl := Except.ok.inj (hp.symm.trans hp')
    obtain ⟨i, hi⟩ := (hunites none u rest).mp hmatch
    exact ⟨i.1, i.2, q i, hq i, u, rest, rfl, hi⟩
  · intro hkeeps
    obtain ⟨n, hn, p, hp', u, rest, rfl, hmatch⟩ := hkeeps
    obtain rfl := Except.ok.inj ((hq ⟨n, hn⟩).symm.trans hp')
    exact ⟨w.pattern, hp, u, rest, rfl, (hunites none u rest).mpr ⟨⟨n, hn⟩, hmatch⟩⟩

/-- A filter in which the numbers are branches of their own, and are not repeated, keeps a line of the output exactly if
it keeps it for one of the lines of the file alone. So neither the order of these lines nor how often they are given
matters. -/
theorem kept_by_membership {template : String} (h : stands template = true) {lines : List Nat} (hlines : lines ≠ [])
    (hall : ∃ p, pattern template lines = .ok p) (hone : ∀ n ∈ lines, ∃ p, pattern template [n] = .ok p) :
    (∀ line, Keeps template lines line ↔ ∃ n ∈ lines, Keeps template [n] line) ∧
    (∀ output, select output template (some lines) = .ok (having (fun line => ∃ n ∈ lines, Keeps template [n] line) output)) ∧
    (∀ n ∈ lines, ∀ output, select output template (some [n]) = .ok (having (Keeps template [n]) output)) ∧
    ∀ lines', (∀ n, n ∈ lines' ↔ n ∈ lines) → (∃ p, pattern template lines' = .ok p) →
      ∀ output, select output template (some lines') = select output template (some lines) := by
  have hkeeps := keeps_iff h hlines hall hone
  refine ⟨hkeeps, fun output => ?_, fun n hn => ?_, fun lines' hmem hall' output => ?_⟩
  · rw [select_eq_having hlines hall, having_congr hkeeps]
  · exact select_eq_having (List.cons_ne_nil _ _) (hone n hn)
  · have hlines' : lines' ≠ [] := by
      obtain ⟨n, hn⟩ := List.exists_mem_of_ne_nil lines hlines
      exact List.ne_nil_of_mem ((hmem n).mpr hn)
    have hkeeps' := keeps_iff h hlines' hall' fun n hn => hone n ((hmem n).mp hn)
    rw [select_eq_having hlines hall, select_eq_having hlines' hall']
    refine congrArg _ (having_congr (fun line => ?_) output)
    rw [hkeeps', hkeeps]
    simp only [hmem]

/-- The numbers in parentheses. -/
theorem kept_by_membership_group :
    (∀ line, Keeps "^Line (%(lines)s):" [3, 5, 7] line ↔ ∃ n ∈ [3, 5, 7], Keeps "^Line (%(lines)s):" [n] line) ∧
    select "Line 1: 1\nLine 5: 5\nLine 7: 7\nLine 9: 9" "^Line (%(lines)s):" (some [3, 5, 7]) = .ok "Line 5: 5\nLine 7: 7" := by
  have hpattern : ∀ lines, (pattern "^Line (%(lines)s):" lines).toOption.isSome = true →
      ∃ p, pattern "^Line (%(lines)s):" lines = .ok p := by
    intro lines h
    obtain ⟨p, hp⟩ := Option.isSome_iff_exists.mp h
    exact ⟨p, ok_of_toOption hp⟩
  have hstands : stands "^Line (%(lines)s):" = true := by decide +kernel
  refine ⟨(kept_by_membership hstands (List.cons_ne_nil _ _) (hpattern _ (by cbv)) ?_).1, by cbv⟩
  intro n hn
  simp only [List.mem_cons, List.not_mem_nil, or_false] at hn
  rcases hn with rfl | rfl | rfl
  · exact hpattern _ (by cbv)
  · exact hpattern _ (by cbv)
  · exact hpattern _ (by cbv)

/-- In the filters of the built-in linters the numbers are branches of their own. -/
theorem builtin_stands : ∀ e ∈ Config.builtin.entries, ∀ l ∈ e.2, stands l.filter = true := by decide +kernel

/-- The numbers without parentheses: of 1 and 2, the second is a branch without what stands before the placeholder. -/
def bareEntry : Config.Entry := ⟨[".t"], "l", [], "^Line %(lines)s:", none⟩

theorem accepted_bare_keeps_others : bareEntry.check "l" = .ok () ∧
    select "Line 10: a\nLine 2: b" bareEntry.filter (some [1, 2]) = .ok "Line 10: a" ∧
    select "Line 10: a\nLine 2: b" bareEntry.filter (some [1]) = .ok "" ∧
    select "Line 10: a\nLine 2: b" bareEntry.filter (some [2]) = .ok "Line 2: b" ∧
    ¬∀ line, Keeps bareEntry.filter [1, 2] line ↔ ∃ n ∈ [1, 2], Keeps bareEntry.filter [n] line := by
  refine ⟨by cbv, by cbv, by cbv, by cbv, fun h => ?_⟩
  have hkeeps : ∀ {lines}, lines ≠ [] → (Keeps bareEntry.filter lines "Line 10: a".toList ↔
      select "Line 10: a" bareEntry.filter (some lines) = .ok "Line 10: a") :=
    fun hlines => keeps_iff_select hlines (by decide) (by decide)
  have hone : select "Line 10: a" bareEntry.filter (some [1]) = .ok "" := by cbv
  have htwo : select "Line 10: a" bareEntry.filter (some [2]) = .ok "" := by cbv
  obtain ⟨n, hn, hn'⟩ := (h "Line 10: a".toList).mp ((hkeeps (List.cons_ne_nil _ _)).mpr (by cbv))
  rw [hkeeps (List.cons_ne_nil _ _)] at hn'
  simp only [List.mem_cons, List.not_mem_nil, or_false] at hn
  rcases hn with rfl | rfl
  · exact absurd (Except.ok.inj (hone.symm.trans hn')) (by decide)
  · exact absurd (Except.ok.inj (htwo.symm.trans hn')) (by decide)

end LineFilter

end DeltaLint

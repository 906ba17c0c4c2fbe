import DeltaLint.Proofs.Linting
import DeltaLint.Proofs.Pattern.Footprint
import DeltaLint.Proofs.Pattern.Literal
import DeltaLint.Proofs.Text

/-
  DeltaLint.Proofs.Tagged — filters that look for the number of a line between two texts.

  Linters write the number of a line behind a text that is always the same, or behind the name of a file and a character
  that ends the name, and before a text that does not begin with a digit. A filter for such lines (`Tagging.filter`)
  selects exactly those that have one of the numbers there. As the name ends with the first such character and the
  number with the last digit, a line has one number there at most, so 1 does not select 10, nor 10 select 1.

  Such a filter always describes a pattern, but a text can be so long, or the numbers so many, that the pattern takes
  too much memory. Then nothing can be selected of any output.

  Proved: `tagged_lines_selected`; a long text before the number is refused (`long_text_refused`).
-/

namespace DeltaLint

namespace LineFilter

open Pattern

/-! ## The parts of the filter -/

/-- In a parenthesis that is the first of the text, the placeholder is the first. -/
theorem cut_placeholder {a : List Char} (ha : '(' ∉ a) (b : List Char) :
    Text.cut placeholder.toList (a ++ '(' :: (placeholder.toList ++ b)) = (a ++ ['(']) :: Text.cut placeholder.toList b := by
  have hmark : placeholder.toList = '%' :: '(' :: "lines)s".toList := by decide
  have hstep : ∀ {c : Char} {t : List Char}, placeholder.toList.isPrefixOf (c :: t) = false →
      Text.cut placeholder.toList (c :: t) =
        (c :: (Text.cut placeholder.toList t).headD []) :: (Text.cut placeholder.toList t).tail := by
    intro c t hprefix
    rw [Text.cut, Text.cutFrom, hprefix, if_neg Bool.false_ne_true]
    rfl
  induction a with
  | nil =>
    rw [List.nil_append, hstep (by simp [hmark, List.isPrefixOf]), hmark, Text.cut_mark]
    rfl
  | cons c a ih =>
    rw [List.mem_cons, not_or] at ha
    rw [List.cons_append, hstep, ih ha.2]
    · rfl
    · rw [hmark]
      cases a with
      | nil => simp [List.isPrefixOf]
      | cons d a =>
        have hd : '(' ≠ d := fun h => ha.2 (h ▸ List.mem_cons_self)
        simp [List.isPrefixOf, hd]

/-- What stands before the number: a text, or one character or more without `c` and then a text that begins with it. -/
inductive Lead where
  | text (a : List Char)
  | upTo (c : Char) (a : List Char)

namespace Lead

/-- How a filter asks for it. -/
def source : Lead → List Char
  | text a => a
  | upTo c a => '[' :: '^' :: c :: ']' :: '+' :: c :: a

/-- The characters that stand for themselves. -/
def literal : Lead → List Char
  | text a => a
  | upTo c a => c :: a

/-- The text is what stands before the number. -/
def Stands : Lead → List Char → Prop
  | text a, u => u = a
  | upTo c a, u => ∃ v, v ≠ [] ∧ c ∉ v ∧ u = v ++ c :: a

instance decidableStands (l : Lead) (u : List Char) : Decidable (l.Stands u) :=
  match l with
  | text a => inferInstanceAs (Decidable (u = a))
  | upTo c a => decidable_of_iff (∃ v ∈ u.inits, v ≠ [] ∧ c ∉ v ∧ u = v ++ c :: a) <| by
      constructor
      · rintro ⟨v, -, h⟩
        exact ⟨v, h⟩
      · rintro ⟨v, hne, hc, rfl⟩
        exact ⟨v, (List.mem_inits _ _).mpr (List.prefix_append v _), hne, hc, rfl⟩

end Lead

/-- Where the number of a line stands: after `lead`, and before a text that does not begin with a digit. -/
structure Tagging where
  lead : Lead
  stop : Char
  rest : List Char
  lead_isPlain : ∀ c ∈ lead.literal, isPlain c = true
  follow_isPlain : ∀ c ∈ stop :: rest, isPlain c = true
  stop_isDigit : stop.isDigit = false

/-- The parts that are read of it. -/
def Lead.parts : Lead → List Part
  | text a => a.map (digitPart {})
  | upTo c a => (complementPart c).repeated 1 none false :: (c :: a).map (digitPart {})

theorem reads_lead {l : Lead} (hl : ∀ c ∈ l.literal, isPlain c = true) {b : Builder} (hflags : b.inner.flags = {})
    {t : List Char} {p : Part} : Reads b (l.source ++ t) p ↔
      Reads { b with inner := { b.inner with parts := l.parts.reverse ++ b.inner.parts } } t p := by
  cases l with
  | text a =>
    have hplain : ∀ c ∈ a, isPlain c = true := hl
    rw [Lead.source, reads_plain hflags hplain]
    simp [Lead.parts, Group.digits, hflags]
  | upTo c a =>
    have hc : isPlain c = true := hl c List.mem_cons_self
    have hquestion : c ≠ '?' := by
      rintro rfl
      cases hc
    let next : Builder := { b with inner := b.inner.add ((complementPart c).repeated 1 none false) }
    have hnext : next.inner.flags = {} := hflags
    have hrest : Reads next (c :: a ++ t) p ↔ Reads { next with inner := next.inner.digits (c :: a) } t p :=
      reads_plain hnext hl
    refine (reads_repeated_complement hc hquestion hflags).trans (hrest.trans ?_)
    simp [Lead.parts, Group.digits, Group.add, hflags, next]

namespace Tagging

/-- What stands after the number. -/
def follow (t : Tagging) : List Char := t.stop :: t.rest

/-- The filter that asks for the numbers there. -/
def filter (t : Tagging) : String :=
  String.ofList ('^' :: t.lead.source ++ '(' :: (placeholder.toList ++ ')' :: t.follow))

/-- The line has the number there. -/
def Tags (t : Tagging) (n : Nat) (line : List Char) : Prop :=
  ∃ u rest, t.lead.Stands u ∧ line = u ++ (Text.decimal n ++ (t.follow ++ rest))

instance decidableTags (t : Tagging) (n : Nat) (line : List Char) : Decidable (t.Tags n line) :=
  decidable_of_iff (∃ u ∈ line.inits, t.lead.Stands u ∧ u ++ (Text.decimal n ++ t.follow) <+: line) <| by
    constructor
    · rintro ⟨u, -, hu, rest, rfl⟩
      exact ⟨u, rest, hu, by simp⟩
    · rintro ⟨u, rest, hu, rfl⟩
      exact ⟨u, (List.mem_inits _ _).mpr (List.prefix_append u _), hu, rest, by simp⟩

variable {t : Tagging}

/-- A line has one number there at most. -/
theorem Tags.eq {m n : Nat} {line : List Char} (hm : t.Tags m line) (hn : t.Tags n line) : m = n := by
  have hnumber : ∀ {r r' : List Char}, Text.decimal m ++ (t.follow ++ r) = Text.decimal n ++ (t.follow ++ r') → m = n := by
    intro r r' h
    obtain ⟨hdecimal, -⟩ := Text.append_inj_of_stop (p := Char.isDigit) (fun _ => Text.isDigit_of_mem_decimal) t.stop_isDigit
      (fun _ => Text.isDigit_of_mem_decimal) t.stop_isDigit h
    rw [← Nat.ofDigitChars_ten_toDigits (n := m), ← Nat.ofDigitChars_ten_toDigits (n := n)]
    exact congrArg (Nat.ofDigitChars 10 · 0) hdecimal
  obtain ⟨u, r, hu, rfl⟩ := hm
  obtain ⟨u', r', hu', heq⟩ := hn
  cases hlead : t.lead with
  | text a =>
    rw [hlead] at hu hu'
    obtain rfl : u = a := hu
    obtain rfl : u' = u := hu'
    exact hnumber (List.append_cancel_left heq)
  | upTo c a =>
    rw [hlead] at hu hu'
    obtain ⟨v, -, hv, rfl⟩ := hu
    obtain ⟨v', -, hv', rfl⟩ := hu'
    have hstretch : ∀ {w : List Char}, c ∉ w → ∀ d ∈ w, (d != c) = true := by
      intro w hw d hd
      rw [bne_iff_ne]
      exact ne_of_mem_of_not_mem hd hw
    rw [List.append_assoc, List.append_assoc, List.cons_append, List.cons_append] at heq
    obtain ⟨-, hrest⟩ := Text.append_inj_of_stop (p := (· != c)) (hstretch hv) (by simp) (hstretch hv') (by simp) heq
    exact hnumber (List.append_cancel_left (List.cons.inj hrest).2)

/-! ## Reading the filter -/

theorem not_mem_follow (t : Tagging) : '(' ∉ t.follow := by
  intro h
  cases t.follow_isPlain _ h

theorem not_mem_source (t : Tagging) : '(' ∉ t.lead.source := by
  have hplain : '(' ∉ t.lead.literal := by
    intro h
    cases t.lead_isPlain _ h
  cases hlead : t.lead with
  | text a =>
    rw [hlead] at hplain
    exact hplain
  | upTo c a =>
    rw [hlead] at hplain
    simpa [Lead.source, Lead.literal] using hplain

theorem expand_filter (t : Tagging) (ns : List Nat) :
    expand t.filter ns = '^' :: (t.lead.source ++ '(' :: (branches ns ++ ')' :: t.follow)) := by
  have hopen : '(' ∉ '^' :: t.lead.source := by
    simp [t.not_mem_source]
  have hclose : Text.cut placeholder.toList (')' :: t.follow) = [')' :: t.follow] :=
    Text.cut_of_not_mem (d := '(') (by decide) (by simp [t.not_mem_follow])
  have hparts : parts t.filter = ['^' :: t.lead.source ++ ['('], ')' :: t.follow] := by
    rw [parts, filter, String.toList_ofList, cut_placeholder hopen, hclose]
  rw [expand_of_parts hparts]
  simp

/-- The caret that a filter begins with. -/
def startPart : Part := ⟨.look .textStart, .look .textStart, 0, true⟩

/-- What the filter for the numbers is made of. -/
def parts (t : Tagging) (ns : List Nat) : List Part :=
  startPart :: (t.lead.parts ++ ((Group.start (some 0) {}).numbers ns).closed :: t.follow.map (digitPart {}))

/-- What is read of the filter for the numbers. -/
def whole (t : Tagging) (ns : List Nat) : Part := Group.together concat .concat (t.parts ns)

theorem whole_depth_le (t : Tagging) (ns : List Nat) : (t.whole ns).depth ≤ depthLimit := by
  have hliteral : ∀ u : List Char, height (u.map (digitPart {})) = 0 := by
    intro u
    induction u with
    | nil => rfl
    | cons c u ih =>
      rw [List.map_cons, height_cons, ih]
      rfl
  have hlead : height t.lead.parts ≤ 2 := by
    cases t.lead with
    | text a => simp [Lead.parts, hliteral]
    | upTo c a =>
      rw [Lead.parts, height_cons, hliteral]
      exact Nat.le_refl 2
  have hnumbers := Group.closed_numbers_depth (some 0) ns
  have hheight : height (t.parts ns) ≤ 3 := by
    have hstart : startPart.depth = 0 := rfl
    rw [parts, height_cons, height_append, height_cons, hliteral]
    omega
  rw [whole, together_depth, depthLimit]
  split <;> omega

theorem parse_filter (t : Tagging) {ns : List Nat} (hns : ns ≠ []) : parse (expand t.filter ns) = .ok (t.whole ns) := by
  let g : Group := ⟨none, {}, (t.follow.map (digitPart {})).reverse ++ ((Group.start (some 0) {}).numbers ns).closed ::
    (t.lead.parts.reverse ++ [startPart]), []⟩
  have hparts : g.parts.reverse = t.parts ns := by
    simp [g, parts]
  have hwhole : g.whole = t.whole ns := by
    rw [Group.whole_eq_branch rfl, Group.branch, hparts, whole]
  have hfinish : ∀ n names, Builder.finish ⟨g, [], n, names⟩ = .ok (t.whole ns) := by
    intro n names
    simp [Builder.finish, hwhole, Nat.not_lt.mpr (t.whole_depth_le ns)]
  have hfollow : ∀ b : Builder, b.inner.flags = {} → ∀ {p}, Reads b t.follow p ↔
      Reads { b with inner := b.inner.digits t.follow } [] p := by
    intro b hflags p
    have hplain := reads_plain hflags (t := []) (p := p) t.follow_isPlain
    rwa [List.append_nil] at hplain
  rw [parse_iff, t.expand_filter ns, reads_token (b := .start) rfl (x := .item (.look .textStart) 0) rfl rfl,
    reads_lead t.lead_isPlain rfl, reads_group rfl hns, hfollow _ rfl, reads_end_iff rfl]
  exact hfinish _ _

/-! ## What the filter matches -/

theorem matches_numbers {ns : List Nat} (hns : ns ≠ []) {before : Option Char} {u rest : List Char} :
    Matches ((Group.start (some 0) {}).numbers ns).closed.pattern before u rest ↔ ∃ n ∈ ns, u = Text.decimal n := by
  have hnone : ¬AnyOf [] before u rest := by simp [AnyOf]
  show Matches (Group.whole _).pattern before u rest ↔ _
  rw [Group.matches_whole, Group.anyOf_numbers rfl hns]
  simp only [Group.start, hnone, or_false, matches_numberPattern]

theorem inSequence_lead {l : Lead} {before : Option Char} {u rest : List Char} :
    InSequence (l.parts.map (·.pattern)) before u rest ↔ l.Stands u := by
  cases l with
  | text a =>
    rw [Lead.parts, List.map_map]
    exact inSequence_plain
  | upTo c a =>
    rw [Lead.parts, List.map_cons, List.map_map]
    constructor
    · rintro ⟨v, w, rfl, hv, hw⟩
      obtain ⟨hne, hmem⟩ := matches_repeated_complement.mp hv
      exact ⟨v, hne, hmem, congrArg (v ++ ·) (inSequence_plain.mp hw)⟩
    · rintro ⟨v, hne, hmem, rfl⟩
      exact ⟨v, c :: a, rfl, matches_repeated_complement.mpr ⟨hne, hmem⟩, inSequence_plain.mpr rfl⟩

theorem startsIn_whole (t : Tagging) {ns : List Nat} (hns : ns ≠ []) {line : List Char} :
    (t.whole ns).pattern.StartsIn line ↔ ∃ n ∈ ns, t.Tags n line := by
  have hpattern : (t.whole ns).pattern = concat ((t.parts ns).map (·.pattern)) := Group.together_pattern (fun _ => rfl) _ _
  have hmatches : ∀ {u rest}, Matches (t.whole ns).pattern none u rest ↔
      ∃ v, t.lead.Stands v ∧ ∃ n ∈ ns, u = v ++ (Text.decimal n ++ t.follow) := by
    intro u rest
    rw [hpattern, matches_concat_iff, parts, List.map_cons, List.map_append, List.map_cons, List.map_map]
    constructor
    · rintro ⟨v, w, rfl, hstart, hrest⟩
      obtain ⟨-, rfl⟩ := matches_look_iff.mp hstart
      obtain ⟨v, w, rfl, hlead, x, y, rfl, hnumbers, hfollow⟩ := inSequence_append.mp hrest
      obtain ⟨n, hn, rfl⟩ := (matches_numbers hns).mp hnumbers
      exact ⟨v, inSequence_lead.mp hlead, n, hn, by rw [inSequence_plain.mp hfollow]; rfl⟩
    · rintro ⟨v, hv, n, hn, rfl⟩
      refine ⟨[], _, rfl, matches_look_iff.mpr ⟨rfl, rfl⟩, inSequence_append.mpr ⟨v, _, rfl, inSequence_lead.mpr hv, ?_⟩⟩
      exact ⟨Text.decimal n, t.follow, rfl, (matches_numbers hns).mpr ⟨n, hn, rfl⟩, inSequence_plain.mpr rfl⟩
  simp only [StartsIn, hmatches]
  constructor
  · rintro ⟨_, rest, rfl, v, hv, n, hn, rfl⟩
    exact ⟨n, hn, v, rest, hv, by simp⟩
  · rintro ⟨n, hn, v, rest, hv, rfl⟩
    exact ⟨_, rest, by simp, v, hv, n, hn, rfl⟩

/-! ## The lines that are selected -/

/-- Of an output, the lines that have one of the numbers are selected. -/
theorem select_eq_having_tags (t : Tagging) {ns : List Nat} (hns : ns ≠ []) (hfits : (t.whole ns).shape.fits = true)
    (output : String) :
    select output t.filter (some ns) = .ok (having (fun line => ∃ n ∈ ns, t.Tags n line) output) := by
  have hread := read_of_parse (t.parse_filter hns)
  rw [if_pos hfits] at hread
  have hpattern : pattern t.filter ns = .ok (t.whole ns).pattern := by
    rw [pattern, hread]
    rfl
  rw [select_eq_having hns ⟨_, hpattern⟩]
  refine congrArg _ (having_congr (fun line => ?_) output)
  rw [← t.startsIn_whole hns]
  simp [Keeps, hpattern]

theorem select_eq_tooLarge (t : Tagging) {ns : List Nat} (hns : ns ≠ []) (hfits : (t.whole ns).shape.fits = false)
    (output : String) : select output t.filter (some ns) = .error (.pattern t.filter .tooLarge) := by
  have hread := read_of_parse (t.parse_filter hns)
  rw [hfits, if_neg Bool.false_ne_true] at hread
  exact select_eq_error_iff.mpr ⟨ns, .tooLarge, rfl, hns, hread, rfl⟩

/-- Of a line with a number, whether it has one of those asked for is whether its number is one of them. -/
theorem tags_any_iff (t : Tagging) {m : Nat} {line : List Char} (hm : t.Tags m line) (ns : List Nat) :
    (∃ n ∈ ns, t.Tags n line) ↔ m ∈ ns := by
  constructor
  · rintro ⟨n, hn, htags⟩
    rwa [hm.eq htags]
  · intro hmem
    exact ⟨m, hmem, hm⟩

end Tagging

/-- The number between the first two colons. -/
def colonTagging : Tagging := ⟨.upTo ':' [], ':', [], List.all_eq_true.mp rfl, List.all_eq_true.mp rfl, rfl⟩

/-- The number between the words after the first colon and a comma. -/
def wordsTagging : Tagging :=
  ⟨.upTo ':' " line ".toList, ',', [], List.all_eq_true.mp rfl, List.all_eq_true.mp rfl, rfl⟩

/-- The filters of the built-in linters find the number behind the name of the file and a colon. -/
theorem builtin_taggings : ∀ e ∈ Config.builtin.entries, ∀ l ∈ e.2, ∃ t : Tagging, t.filter = l.filter := by
  have hfilters : ∀ e ∈ Config.builtin.entries, ∀ l ∈ e.2,
      colonTagging.filter = l.filter ∨ wordsTagging.filter = l.filter := by decide +kernel
  intro e he l hl
  rcases hfilters e he l hl with h | h
  · exact ⟨colonTagging, h⟩
  · exact ⟨wordsTagging, h⟩

/-- A filter that asks for numbers between two texts selects exactly the lines that have one of them there, unless its
pattern takes too much memory. -/
theorem tagged_lines_selected :
    (∀ e ∈ Config.builtin.entries, ∀ l ∈ e.2, ∃ t : Tagging, t.filter = l.filter) ∧
    ∀ (t : Tagging) (ns : List Nat), ns ≠ [] →
      (∀ m line, t.Tags m line → ((∃ n ∈ ns, t.Tags n line) ↔ m ∈ ns)) ∧
      ∃ whole, parse (expand t.filter ns) = .ok whole ∧
        (whole.shape.fits = true → ∀ output,
          select output t.filter (some ns) = .ok (having (fun line => ∃ n ∈ ns, t.Tags n line) output)) ∧
        (whole.shape.fits = false → ∀ output, select output t.filter (some ns) = .error (.pattern t.filter .tooLarge)) := by
  refine ⟨builtin_taggings, fun t ns hns => ⟨fun m line hm => t.tags_any_iff hm ns, t.whole ns, t.parse_filter hns, ?_, ?_⟩⟩
  · exact fun hfits output => t.select_eq_having_tags hns hfits output
  · exact fun hfits output => t.select_eq_tooLarge hns hfits output

def cssOutput : String := "a.css: line 1, b\na.css: line 10, a\na.css: line 3"

theorem tagged_lines_selected_words : [10, 3, 10] ≠ [] ∧ wordsTagging.filter = Config.csslint.filter ∧
    (∃ whole, parse (expand wordsTagging.filter [10, 3, 10]) = .ok whole ∧ whole.shape.fits = true) ∧
    wordsTagging.Tags 10 "a.css: line 10, a".toList ∧ (∃ n ∈ [10, 3, 10], wordsTagging.Tags n "a.css: line 10, a".toList) ∧
    select cssOutput wordsTagging.filter (some [10, 3, 10]) = .ok "a.css: line 10, a" := by
  have hfilter : wordsTagging.filter = Config.csslint.filter := by decide
  obtain ⟨hunique, whole, hwhole, hselect, hrefuse⟩ := tagged_lines_selected.2 wordsTagging [10, 3, 10] (by decide)
  have hfits : whole.shape.fits = true := by
    by_contra hfits
    have hrefuse := hrefuse (Bool.eq_false_iff.mpr hfits) ""
    have hempty : select "" Config.csslint.filter (some [10, 3, 10]) = .ok "" := by cbv
    rw [hfilter, hempty] at hrefuse
    cases hrefuse
  have htags : wordsTagging.Tags 10 "a.css: line 10, a".toList := by decide
  refine ⟨by decide, hfilter, ⟨whole, hwhole, hfits⟩, htags, (hunique 10 _ htags).mpr (by decide), ?_⟩
  rw [hselect hfits]
  exact congrArg _ (by decide +kernel)

/-- A text of `n` letters stands before the number. -/
def longTagging (n : Nat) : Tagging where
  lead := .text (List.replicate n 'a')
  stop := ':'
  rest := []
  lead_isPlain := by
    intro c hc
    obtain rfl := List.eq_of_mem_replicate hc
    rfl
  follow_isPlain := List.all_eq_true.mp rfl
  stop_isDigit := rfl

theorem not_fits_long {n : Nat} (h : Footprint.limit < 32 * n) (ns : List Nat) : ((longTagging n).whole ns).shape.fits = false := by
  have hletter : Shape.ofSet (.one 'a') = .literal [0x61] := by cbv
  have hletters : ((longTagging n).lead.parts.map (·.shape)).flatMap Shape.parts =
      (List.replicate n 0x61).map fun b => .literal [b] := by
    have hlead : (longTagging n).lead.parts.map (·.shape) = List.replicate n (.literal [0x61]) := by
      show ((List.replicate n 'a').map (digitPart {})).map (·.shape) = _
      rw [List.map_replicate, List.map_replicate]
      exact congrArg _ hletter
    rw [hlead, List.map_replicate, List.flatMap_replicate]
    exact List.flatten_replicate_singleton
  have hshape : ((longTagging n).whole ns).shape = Shape.concat (((longTagging n).parts ns).map (·.shape)) := by
    unfold Tagging.whole Group.together
    split
    · rename_i p hp
      simp [Tagging.parts] at hp
    · rfl
  rw [hshape, Shape.concat, Tagging.parts, List.map_cons, List.map_append, List.flatMap_cons, List.flatMap_append, hletters]
  exact Shape.not_fits_of_length (by rwa [List.length_replicate]) _ _

/-- A text of 400000 letters takes too much memory, so even of a line that has the number nothing is selected. -/
theorem long_text_refused : (longTagging 400000).Tags 1 (List.replicate 400000 'a' ++ "1:".toList) ∧
    (∀ output, select output (longTagging 400000).filter (some [1]) = .error (.pattern (longTagging 400000).filter .tooLarge)) ∧
    ¬∀ (t : Tagging) (ns : List Nat), ns ≠ [] → ∀ output,
      select output t.filter (some ns) = .ok (having (fun line => ∃ n ∈ ns, t.Tags n line) output) := by
  have htags : (longTagging 400000).Tags 1 (List.replicate 400000 'a' ++ "1:".toList) :=
    ⟨List.replicate 400000 'a', [], rfl, by rw [List.append_nil]; rfl⟩
  have hrefused : ∀ output, select output (longTagging 400000).filter (some [1]) =
      .error (.pattern (longTagging 400000).filter .tooLarge) :=
    (longTagging 400000).select_eq_tooLarge (List.cons_ne_nil 1 []) (not_fits_long (by decide) [1])
  refine ⟨htags, hrefused, fun h => ?_⟩
  have hselect := h (longTagging 400000) [1] (List.cons_ne_nil 1 []) ""
  rw [hrefused] at hselect
  cases hselect

end LineFilter

end DeltaLint

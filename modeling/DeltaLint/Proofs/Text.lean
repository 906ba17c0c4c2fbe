import DeltaLint.Text.Digits
import DeltaLint.Text.Pieces
import DeltaLint.Unicode.Blank
import Mathlib.Data.List.DropRight
import Mathlib.Data.List.Infix
import Mathlib.Data.List.TakeWhile

/-
  DeltaLint.Proofs.Text — how often a mark occurs in a text, which texts are blank, the lines of a text that
  line feeds end, and numbers in decimal digits.

  A mark whose first character does not come again in it cannot overlap itself, so a text is cut at
  every place where the mark begins. Cut at line feeds, a text has a piece after the last of them; it
  has no line there, as a line feed ends a line and begins none (`rows`).

  Proved:
  - `cut_length`: there is one piece more than places where the mark begins.
  - `intercalate_cut` / `not_infix_of_mem_cut`: the pieces make up the text again, and none has the mark in it.
  - `not_infix_intercalate`: nor has what is made of them with another separator, if it shares no character with the mark.
  - `trim_eq_nil_iff`: trimming leaves nothing of a text exactly if it is white space alone.
  - `trimRight_eq_self_iff`: trimming leaves a text as it is exactly if it does not end in white space.
  - `pieces_splitOn`: what is read apart on both sides of every separator is read piece by piece.
  - `getLast?_pieces_eq_nil_iff`: nothing follows the last line feed exactly if it ends the text.
  - `pieces_eq_rows`: the pieces of a text are its lines, and what follows the last line feed.
  - `isLines_iff`: the lines that are read, without the carriage return that stands before a line feed.
  - `lines_append`: the lines of a text that is cut after a line feed are those of both parts.
  - `digits?_decimal`: the digits of a number are read as that number.
-/

namespace DeltaLint

namespace Text

/-! ## Marks -/

/-- At how many places of the text the mark begins. -/
def occurrences (mark text : List Char) : Nat := text.tails.countP mark.isPrefixOf

theorem occurrences_cons (mark : List Char) (c : Char) (text : List Char) :
    occurrences mark (c :: text) = occurrences mark text + if mark.isPrefixOf (c :: text) then 1 else 0 := by
  rw [occurrences, List.tails_cons, List.countP_cons, occurrences]

theorem occurrences_append {m : Char} {ms u : List Char} (h : m ∉ u) (text : List Char) :
    occurrences (m :: ms) (u ++ text) = occurrences (m :: ms) text := by
  induction u with
  | nil => rfl
  | cons c u ih =>
    rw [List.mem_cons, not_or] at h
    have hc : (m :: ms).isPrefixOf (c :: (u ++ text)) = false := by simp [List.isPrefixOf, h.1]
    rw [List.cons_append, occurrences_cons, hc, ih h.2]
    rfl

theorem cutFrom_length {m : Char} {ms : List Char} (h : m ∉ ms) (skip : Nat) (text : List Char) :
    (cutFrom (m :: ms) skip text).length = occurrences (m :: ms) (text.drop skip) + 1 := by
  induction text generalizing skip with
  | nil => simp [cutFrom, occurrences]
  | cons c text ih =>
    cases skip with
    | succ skip => exact ih skip
    | zero =>
      rw [List.drop_zero, occurrences_cons]
      unfold cutFrom
      split
      · rename_i hmark
        -- The mark does not begin within itself.
        obtain ⟨rest, hrest⟩ := List.isPrefixOf_iff_prefix.mp hmark
        obtain ⟨rfl, rfl⟩ : m = c ∧ ms ++ rest = text := List.cons.inj hrest
        have hdrop : (ms ++ rest).drop ((m :: ms).length - 1) = rest := by simp
        rw [List.length_cons, ih, hdrop, occurrences_append h]
      · have hlength := ih 0
        rw [List.drop_zero] at hlength
        rw [List.length_cons, List.length_tail, hlength]
        omega

/-- A text is cut at all places where the mark begins. -/
theorem cut_length {m : Char} {ms : List Char} (h : m ∉ ms) (text : List Char) :
    (cut (m :: ms) text).length = occurrences (m :: ms) text + 1 := cutFrom_length h 0 text

theorem cutFrom_ne_nil (mark : List Char) (skip : Nat) (text : List Char) : cutFrom mark skip text ≠ [] := by
  induction text generalizing skip with
  | nil => simp [cutFrom]
  | cons c text ih =>
    cases skip with
    | succ skip => exact ih skip
    | zero =>
      unfold cutFrom
      split
      · exact List.cons_ne_nil _ _
      · exact List.cons_ne_nil _ _

theorem intercalate_cons_char (mark : List Char) (c : Char) (p : List Char) (ps : List (List Char)) :
    List.intercalate mark ((c :: p) :: ps) = c :: List.intercalate mark (p :: ps) := by
  cases ps with
  | nil => simp [List.intercalate]
  | cons q ps => simp [List.intercalate]

theorem intercalate_cutFrom {m : Char} {ms : List Char} (skip : Nat) (text : List Char) :
    List.intercalate (m :: ms) (cutFrom (m :: ms) skip text) = text.drop skip := by
  induction text generalizing skip with
  | nil => simp [cutFrom]
  | cons c text ih =>
    cases skip with
    | succ skip => exact ih skip
    | zero =>
      unfold cutFrom
      split
      · rename_i hmark
        obtain ⟨rest, hrest⟩ := List.isPrefixOf_iff_prefix.mp hmark
        obtain ⟨rfl, rfl⟩ : m = c ∧ ms ++ rest = text := List.cons.inj hrest
        rw [List.intercalate_cons_of_ne_nil (cutFrom_ne_nil _ _ _), ih]
        simp
      · obtain ⟨p, ps, hps⟩ := List.exists_cons_of_ne_nil (cutFrom_ne_nil (m :: ms) 0 text)
        have hrest := ih 0
        rw [hps] at hrest ⊢
        show List.intercalate (m :: ms) ((c :: p) :: ps) = c :: text
        rw [intercalate_cons_char, hrest, List.drop_zero]

/-- The stretches between the marks, with the marks between them, are the text. -/
theorem intercalate_cut {m : Char} {ms : List Char} (text : List Char) :
    List.intercalate (m :: ms) (cut (m :: ms) text) = text := intercalate_cutFrom 0 text

theorem prefix_of_cut {m : Char} {ms text p : List Char} {ps : List (List Char)} (h : cut (m :: ms) text = p :: ps) :
    p <+: text := by
  rw [← intercalate_cut text, h]
  cases ps with
  | nil => simp
  | cons q ps =>
    rw [List.intercalate_cons_cons, List.append_assoc]
    exact List.prefix_append _ _

/-- Between the marks there is none. -/
theorem not_infix_of_mem_cut {m : Char} {ms p text : List Char} (h : p ∈ cut (m :: ms) text) : ¬(m :: ms) <:+: p := by
  have hnil : ¬(m :: ms) <:+: [] := by simp
  rw [cut] at h
  generalize 0 = skip at h
  induction text generalizing skip p with
  | nil =>
    rw [cutFrom, List.mem_singleton] at h
    exact h ▸ hnil
  | cons c text ih =>
    cases skip with
    | succ skip => exact ih _ h
    | zero =>
      unfold cutFrom at h
      split at h
      · rcases List.mem_cons.mp h with rfl | h
        · exact hnil
        · exact ih _ h
      · rename_i hmark
        obtain ⟨q, qs, hqs⟩ := List.exists_cons_of_ne_nil (cutFrom_ne_nil (m :: ms) 0 text)
        rw [hqs] at h
        rcases List.mem_cons.mp h with rfl | h
        · -- The first stretch begins the text, and the mark does not.
          have hbegins : c :: q <+: c :: text := List.cons_prefix_cons.mpr ⟨rfl, prefix_of_cut hqs⟩
          rw [List.headD_cons, List.infix_cons_iff]
          rintro (hfirst | hlater)
          · exact hmark (List.isPrefixOf_iff_prefix.mpr (hfirst.trans hbegins))
          · exact ih 0 (hqs ▸ List.mem_cons_self) hlater
        · exact ih 0 (hqs ▸ List.mem_cons_of_mem q h)

/-- A mark that shares no character with the separator is on one side of it. -/
theorem infix_or_infix_of_disjoint {mark u sep v : List Char} (hsep : sep ≠ []) (hapart : mark.Disjoint sep)
    (h : mark <:+: u ++ sep ++ v) : mark <:+: u ∨ mark <:+: v := by
  have hnil : ∀ {part : List Char}, part ⊆ mark → part ⊆ sep → part = [] := by
    intro part hmark hpart
    exact List.eq_nil_iff_forall_not_mem.mpr fun c hc => hapart (hmark hc) (hpart hc)
  rw [List.append_assoc, List.infix_append_iff, List.infix_append_iff] at h
  rcases h with hu | (hs | hv | ⟨a, b, rfl, ha, hb⟩) | ⟨a, b, rfl, ha, hb⟩
  · exact Or.inl hu
  · rw [hnil (List.Subset.refl mark) hs.subset]
    exact Or.inl List.nil_infix
  · exact Or.inr hv
  · obtain rfl := hnil (List.subset_append_left a b) ha.subset
    exact Or.inr hb.isInfix
  · rcases List.prefix_or_prefix_of_prefix hb (List.prefix_append sep v) with hb | hs
    · obtain rfl := hnil (List.subset_append_right a b) hb.subset
      rw [List.append_nil]
      exact Or.inl ha.isInfix
    · exact absurd (hnil (List.Subset.trans hs.subset (List.subset_append_right a b)) (List.Subset.refl sep)) hsep

theorem not_infix_intercalate {mark sep : List Char} {parts : List (List Char)} (hsome : mark ≠ []) (hsep : sep ≠ [])
    (hapart : mark.Disjoint sep) (h : ∀ p ∈ parts, ¬mark <:+: p) : ¬mark <:+: List.intercalate sep parts := by
  induction parts with
  | nil => simpa using hsome
  | cons p parts ih =>
    cases parts with
    | nil => simpa using h p List.mem_cons_self
    | cons q parts =>
      rw [List.intercalate_cons_cons]
      intro hmark
      rcases infix_or_infix_of_disjoint hsep hapart hmark with hp | hrest
      · exact h p List.mem_cons_self hp
      · exact ih (fun p' hp' => h p' (List.mem_cons_of_mem p hp')) hrest

theorem cut_of_not_mem {mark text : List Char} {d : Char} (hmark : d ∈ mark) (htext : d ∉ text) : cut mark text = [text] := by
  induction text with
  | nil => rfl
  | cons c text ih =>
    have hprefix : mark.isPrefixOf (c :: text) = false := by
      rw [Bool.eq_false_iff]
      intro h
      exact htext ((List.isPrefixOf_iff_prefix.mp h).subset hmark)
    have hrest := ih fun hd => htext (List.mem_cons_of_mem c hd)
    rw [cut] at hrest ⊢
    rw [cutFrom, hprefix, if_neg Bool.false_ne_true, hrest]
    rfl

theorem cutFrom_length_append (mark u text : List Char) : cutFrom mark u.length (u ++ text) = cut mark text := by
  induction u with
  | nil => rfl
  | cons c u ih => exact ih

/-- A text that begins with the mark is cut there. -/
theorem cut_mark {m : Char} {ms : List Char} (text : List Char) :
    cut (m :: ms) ((m :: ms) ++ text) = [] :: cut (m :: ms) text := by
  have hprefix : (m :: ms).isPrefixOf (m :: (ms ++ text)) = true := List.isPrefixOf_iff_prefix.mpr ⟨text, rfl⟩
  rw [List.cons_append, cut, cutFrom, hprefix, if_pos rfl]
  exact congrArg _ (cutFrom_length_append (m :: ms) ms text)

/-- A mark that is at one place of a text parts it in one way. -/
theorem eq_of_occurrences_eq_one {mark text a b a' b' : List Char} (h : occurrences mark text = 1)
    (htext : text = a ++ mark ++ b) (htext' : text = a' ++ mark ++ b') : a = a' ∧ b = b' := by
  have hmem : ∀ {u v : List Char}, text = u ++ mark ++ v → mark ++ v ∈ text.tails.filter mark.isPrefixOf := by
    intro u v huv
    refine List.mem_filter.mpr ⟨(List.mem_tails _ _).mpr ⟨u, ?_⟩, List.isPrefixOf_iff_prefix.mpr (List.prefix_append mark v)⟩
    rw [huv, List.append_assoc]
  rw [occurrences, List.countP_eq_length_filter] at h
  obtain ⟨t, ht⟩ := List.length_eq_one_iff.mp h
  have hone : mark ++ b = t := List.mem_singleton.mp (ht ▸ hmem htext)
  have hother : mark ++ b' = t := List.mem_singleton.mp (ht ▸ hmem htext')
  obtain rfl : b = b' := List.append_cancel_left (hone.trans hother.symm)
  rw [htext, List.append_assoc, List.append_assoc] at htext'
  exact ⟨List.append_cancel_right htext', rfl⟩

/-- Two texts that are alike are alike up to the first character without the property, and after it. -/
theorem append_inj_of_stop {p : Char → Bool} {u v x y : List Char} {c d : Char} (hu : ∀ a ∈ u, p a = true) (hc : p c = false)
    (hv : ∀ a ∈ v, p a = true) (hd : p d = false) (h : u ++ c :: x = v ++ d :: y) : u = v ∧ c :: x = d :: y := by
  have htake : ∀ {w z : List Char} {e : Char}, (∀ a ∈ w, p a = true) → p e = false → (w ++ e :: z).takeWhile p = w := by
    intro w z e hw he
    rw [List.takeWhile_append_of_pos hw, List.takeWhile_cons_of_neg (by simp [he]), List.append_nil]
  have huv : u = v := by
    rw [← htake hu hc, h, htake hv hd]
  subst huv
  exact ⟨rfl, List.append_cancel_left h⟩

/-! ## Pieces -/

section
variable {α : Type} [DecidableEq α] {b : α} {sep : Char} {f : List α → List Char}

theorem splitOn_append (b : α) (u v : List α) : (u ++ b :: v).splitOn b = u.splitOn b ++ v.splitOn b :=
  List.splitOnP_append_cons u v (beq_self_eq_true _)

/-- What is read apart on both sides of every separator is read piece by piece. -/
theorem pieces_splitOn (happend : ∀ u v, f (u ++ b :: v) = f u ++ sep :: f v) (hapart : ∀ u, b ∉ u → sep ∉ f u)
    (xs : List α) : pieces sep (f xs) = (xs.splitOn b).map f := by
  have hone : ∀ u, b ∉ u → pieces sep (f u) = (u.splitOn b).map f := by
    intro u hu
    have hwhole : u.splitOn b = [u] :=
      List.splitOnP_eq_singleton fun _ hx => beq_false_of_ne (ne_of_mem_of_not_mem hx hu)
    rw [pieces_of_not_mem (hapart u hu), hwhole]
    rfl
  -- From one separator to the next.
  induction hlength : xs.length using Nat.strongRecOn generalizing xs with
  | ind n ih =>
    by_cases hmem : b ∈ xs
    · obtain ⟨u, v, rfl, hu⟩ := List.eq_append_cons_of_mem hmem
      have hrest := ih v.length (by simp at hlength; omega) v rfl
      rw [happend, pieces_append, hone u hu, hrest, splitOn_append, List.map_append]
    · exact hone xs hmem

theorem pieces_eq_splitOn (sep : Char) (text : List Char) : pieces sep text = text.splitOn sep := by
  have hread : pieces sep (id text) = (text.splitOn sep).map id := pieces_splitOn (fun _ _ => rfl) (fun _ h => h) text
  rwa [List.map_id] at hread

end

/-! ## Lines -/

/-- The lines of a text, each of which a line feed ends; the last may lack it. -/
def rows (text : List Char) : List (List Char) :=
  if (pieces '\n' text).getLast? = some [] then (pieces '\n' text).dropLast else pieces '\n' text

theorem getLast?_pieces_eq_nil_iff {text : List Char} :
    (pieces '\n' text).getLast? = some [] ↔ text = [] ∨ text.getLast? = some '\n' := by
  constructor
  · intro h
    obtain ⟨before, hpieces⟩ := List.getLast?_eq_some_iff.mp h
    have htext := glue_pieces '\n' text
    rw [hpieces] at htext
    cases before with
    | nil => exact Or.inl htext.symm
    | cons p before =>
      rw [glue_append '\n' (List.cons_ne_nil p before) (List.cons_ne_nil [] [])] at htext
      refine Or.inr ?_
      rw [← htext]
      simp [glue]
  · rintro (rfl | h)
    · rfl
    · obtain ⟨before, rfl⟩ := List.getLast?_eq_some_iff.mp h
      rw [pieces_append]
      simp [pieces_nil]

theorem glue_eq_nil_iff {parts : List (List Char)} : glue '\n' parts = [] ↔ parts = [] ∨ parts = [[]] := by
  match parts with
  | [] => simp [glue]
  | [p] => simp [glue]
  | p :: q :: rest => simp [glue, List.intercalate_cons_cons]

/-- What is kept of the sole piece of an empty text makes an empty text. -/
theorem glue_filter_pieces_nil (p : List Char → Bool) : glue '\n' ((pieces '\n' []).filter p) = [] :=
  glue_eq_nil_iff.mpr (List.sublist_singleton.mp List.filter_sublist)

/-- The pieces of a text are its lines, and an empty piece where nothing follows the last line feed. -/
theorem pieces_eq_rows (text : List Char) :
    pieces '\n' text = rows text ++ if (pieces '\n' text).getLast? = some [] then [[]] else [] := by
  unfold rows
  split
  · rename_i hlast
    exact (List.dropLast_append_getLast? [] (Option.mem_def.mpr hlast)).symm
  · exact (List.append_nil _).symm

/-! ## Lines that are read -/

/-- A line feed ends a line, and one carriage return before it goes with it. The last line may lack both. -/
inductive IsLines : List Char → List (List Char) → Prop
  | none : IsLines [] []
  | unended {line : List Char} (hline : '\n' ∉ line) (hne : line ≠ []) : IsLines line [line]
  | ended {line rest : List Char} {ls : List (List Char)} (hline : '\n' ∉ line) (hreturn : line.getLast? ≠ some '\r')
      (hrest : IsLines rest ls) : IsLines (line ++ '\n' :: rest) (line :: ls)
  | returned {line rest : List Char} {ls : List (List Char)} (hline : '\n' ∉ line) (hrest : IsLines rest ls) :
      IsLines (line ++ '\r' :: '\n' :: rest) (line :: ls)

theorem lines_break (a b : List Char) : lines (a ++ '\n' :: b) = (pieces '\n' a).map dropReturn ++ lines b := by
  have hb : pieces '\n' b ≠ [] := pieces_ne_nil '\n' b
  simp only [lines, pieces_append, List.dropLast_append_of_ne_nil hb, List.getLast?_append_of_ne_nil _ hb, List.map_append,
    List.append_assoc]

/-- The lines of a text that is cut after a line feed are those of both parts. -/
theorem lines_append (a b : List Char) : lines (a ++ '\n' :: b) = lines (a ++ ['\n']) ++ lines b := by
  rw [lines_break a b, lines_break a [], show lines [] = [] from rfl, List.append_nil]

theorem lines_row {line : List Char} (h : '\n' ∉ line) (rest : List Char) :
    lines (line ++ '\n' :: rest) = dropReturn line :: lines rest := by
  rw [lines_break, pieces_of_not_mem h]
  rfl

theorem lines_of_not_mem {line : List Char} (h : '\n' ∉ line) (hne : line ≠ []) : lines line = [line] := by
  simp [lines, pieces_of_not_mem h, hne]

theorem lines_rows {ls : List (List Char)} (h : ∀ l ∈ ls, '\n' ∉ l) :
    lines (ls.flatMap (· ++ ['\n'])) = ls.map dropReturn := by
  induction ls with
  | nil => rfl
  | cons l ls ih =>
    rw [List.flatMap_cons, List.append_assoc, List.singleton_append, lines_row (h l List.mem_cons_self),
      ih fun l' hl' => h l' (List.mem_cons_of_mem l hl'), List.map_cons]

theorem isLines_lines (text : List Char) : IsLines text (lines text) := by
  -- The rows of the text are read one after the other, so the induction is on its pieces.
  have hglue : ∀ ps : List (List Char), ps ≠ [] → (∀ p ∈ ps, '\n' ∉ p) → IsLines (glue '\n' ps) (lines (glue '\n' ps)) := by
    intro ps hne hps
    induction ps with
    | nil => exact absurd rfl hne
    | cons p ps ih =>
      have hp : '\n' ∉ p := hps p List.mem_cons_self
      cases ps with
      | nil =>
        rw [show glue '\n' [p] = p by simp [glue]]
        by_cases hempty : p = []
        · subst hempty
          exact .none
        · rw [lines_of_not_mem hp hempty]
          exact .unended hp hempty
      | cons q qs =>
        have hrest := ih (List.cons_ne_nil q qs) fun r hr => hps r (List.mem_cons_of_mem p hr)
        rw [show glue '\n' (p :: q :: qs) = p ++ '\n' :: glue '\n' (q :: qs) by simp [glue], lines_row hp]
        by_cases hreturn : p.getLast? = some '\r'
        · obtain ⟨line, rfl⟩ := List.getLast?_eq_some_iff.mp hreturn
          rw [show dropReturn (line ++ ['\r']) = line by simp [dropReturn], List.append_assoc]
          exact .returned (fun hmem => hp (List.mem_append_left _ hmem)) hrest
        · rw [dropReturn, if_neg hreturn]
          exact .ended hp hreturn hrest
  have htext := hglue (pieces '\n' text) (pieces_ne_nil '\n' text) fun p hp => not_mem_of_mem_pieces hp
  rwa [glue_pieces] at htext

theorem isLines_iff {text : List Char} {ls : List (List Char)} : IsLines text ls ↔ ls = lines text := by
  constructor
  · intro h
    induction h with
    | none => rfl
    | unended hline hne => rw [lines_of_not_mem hline hne]
    | ended hline hreturn _ ih => rw [lines_row hline, dropReturn, if_neg hreturn, ← ih]
    | @returned line rest ls hline _ ih =>
      have hrow : '\n' ∉ line ++ ['\r'] := by simp [hline]
      have hlines := lines_row hrow rest
      rw [List.append_assoc] at hlines
      rw [show '\r' :: '\n' :: rest = ['\r'] ++ '\n' :: rest from rfl, hlines, ← ih]
      simp [dropReturn]
  · rintro rfl
    exact isLines_lines text

/-! ## Numbers -/

/-- What holds of the ten digits. -/
@[elab_as_elim]
theorem of_isDigit {P : Char → Prop} {c : Char} (hc : c.isDigit = true) (h : ∀ n < 10, P (Char.ofNat (0x30 + n))) : P c := by
  have hbounds : 0x30 ≤ c.toNat ∧ c.toNat ≤ 0x39 := by
    simp only [Char.isDigit, Bool.and_eq_true, decide_eq_true_eq] at hc
    exact hc
  have hdigit := h (c.toNat - 0x30) (by omega)
  rwa [show 0x30 + (c.toNat - 0x30) = c.toNat by omega, Char.ofNat_toNat] at hdigit

theorem isDigit_of_mem_decimal {n : Nat} {c : Char} (hc : c ∈ decimal n) : c.isDigit = true :=
  Nat.isDigit_of_mem_toDigits (by decide) (by decide) hc

theorem digit?_of_isDigit {c : Char} (h : c.isDigit = true) : digit? 10 c = some (c.toNat - '0'.toNat) :=
  of_isDigit h (by decide)

/-- The digits of a number are read as that number. -/
theorem digits?_decimal (n : Nat) : digits? 10 (decimal n) = some n := by
  have hfold : ∀ (text : List Char) (k : Nat), (∀ c ∈ text, c.isDigit = true) →
      text.foldlM (fun n c => (digit? 10 c).map (n * 10 + ·)) k = some (Nat.ofDigitChars 10 text k) := by
    intro text
    induction text with
    | nil => intro k _; rfl
    | cons c text ih =>
      intro k htext
      rw [List.foldlM_cons, digit?_of_isDigit (htext c List.mem_cons_self), Option.map_some]
      refine (ih _ fun d hd => htext d (List.mem_cons_of_mem c hd)).trans ?_
      rw [Nat.ofDigitChars_cons, Nat.mul_comm]
  have hne : decimal n ≠ [] := Nat.toDigits_ne_nil
  rw [digits?, if_neg hne, hfold _ 0 fun c hc => isDigit_of_mem_decimal hc]
  exact congrArg some Nat.ofDigitChars_ten_toDigits

theorem decimal_injective : Function.Injective decimal := by
  intro n n' h
  have hread := congrArg (digits? 10) h
  rw [digits?_decimal, digits?_decimal] at hread
  exact Option.some.inj hread

theorem decimal?_decimal_eq_some_iff {bound m n : Nat} : decimal? bound (decimal m) = some n ↔ m = n ∧ n ≤ bound := by
  rw [decimal?, digits?_decimal, Option.filter_eq_some_iff, Option.some_inj, decide_eq_true_iff]

end Text

namespace Unicode

theorem trim_eq_nil_iff {text : List Char} : trim text = [] ↔ ∀ c ∈ text, isBlank c = true := by
  have hleft : (∀ c ∈ trimLeft text, isBlank c = true) ↔ trimLeft text = [] := by
    unfold trimLeft
    cases hrest : text.dropWhile isBlank with
    | nil => simp
    | cons c rest =>
      have hc : isBlank c = false := by
        have hhead := List.head?_dropWhile_not isBlank text
        rw [hrest] at hhead
        simpa using hhead
      simp [hc]
  calc
    trim text = [] ↔ ∀ c ∈ trimLeft text, isBlank c = true := by
      rw [trim, trimRight, List.reverse_eq_nil_iff, List.dropWhile_eq_nil_iff]
      simp only [List.mem_reverse]
    _ ↔ trimLeft text = [] := hleft
    _ ↔ ∀ c ∈ text, isBlank c = true := by rw [trimLeft, List.dropWhile_eq_nil_iff]

theorem trimRight_eq_self_iff {text : List Char} :
    trimRight text = text ↔ ∀ c, text.getLast? = some c → isBlank c = false := by
  show text.rdropWhile isBlank = text ↔ _
  rw [List.rdropWhile_eq_self_iff]
  constructor
  · intro h c hlast
    obtain ⟨before, rfl⟩ := List.getLast?_eq_some_iff.mp hlast
    simpa using h (by simp)
  · intro h hne
    simpa using h _ (List.getLast?_eq_some_getLast hne)

/-- Of a text that begins with no white space, white space is only taken off at the end. -/
theorem trim_concat {c b : Char} (hc : isBlank c = false) (hb : isBlank b = true) (text : List Char) :
    trim (c :: text ++ [b]) = trimRight (c :: text) := by
  have hleft : trimLeft (c :: text ++ [b]) = c :: text ++ [b] :=
    List.dropWhile_cons_of_neg (by simp [hc])
  rw [trim, hleft]
  exact List.rdropWhile_concat_pos isBlank (c :: text) b hb

end Unicode

end DeltaLint

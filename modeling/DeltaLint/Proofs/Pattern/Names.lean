import DeltaLint.Pattern.Token

/-
  DeltaLint.Proofs.Pattern.Names — no name in a pattern has a bar in it.

  The bar that stands between two numbers is in no name of a property, a value or a group, and no named
  class has a digit in its name. So what fills a hole makes no name that is known.

  Proved:
  - `propertySet_of_bar`: no property has a bar in its name.
  - `not_isNameChar_bar`: no group has one.
  - `className?_of_digit`: no named class has a digit.
-/

namespace DeltaLint

open Unicode

/-! ## Tables -/

namespace Unicode.Spans

theorem read_cons (row : String) (rows : List String) :
    read (row :: rows) = (Text.pieces ' ' row.toList).filterMap Span.read? ++ read rows := by
  rw [read, Text.words, List.flatMap_cons, List.filterMap_append]
  rfl

/-- Where a span begins after the code point, the search goes no further. -/
theorem contains_append {s t : Spans} {n : Nat} (h : s.any (n < ·.first) = true) : contains (s ++ t) n = contains s n := by
  induction s with
  | nil => cases h
  | cons x s ih =>
    rw [List.cons_append, contains, contains]
    by_cases hx : n < x.first
    · rw [if_pos hx, if_pos hx]
    · rw [List.any_cons, decide_eq_false hx, Bool.false_or] at h
      rw [ih h]

/-- A code point that the first row of a table goes past without listing it is not in the table. -/
theorem not_contains_read {row : String} {first : List Char} {rows : List String} {n : Nat} (hrow : row.toList = first)
    (hpast : ((Text.pieces ' ' first).filterMap Span.read?).any (n < ·.first) = true)
    (hnone : contains ((Text.pieces ' ' first).filterMap Span.read?) n = false) : contains (read (row :: rows)) n = false := by
  rw [read_cons, hrow, contains_append hpast]
  exact hnone

end Unicode.Spans

variable {α : Type}

/-- A key with a mark that no key of the table has is not in the table. -/
theorem lookup_eq_none {marked : String → Bool} {table : List (String × α)} {key : String}
    (htable : (table.all fun e => !marked e.1) = true) (hkey : marked key = true) : table.lookup key = none := by
  rw [List.lookup_eq_none_iff]
  intro e he
  have hname := List.all_eq_true.mp htable e he
  rw [bne_iff_ne]
  rintro rfl
  rw [hkey] at hname
  cases hname

theorem not_contains_of_marked {marked : String → Bool} {names : List String} {key : String}
    (hnames : (names.all fun name => !marked name) = true) (hkey : marked key = true) : names.contains key = false := by
  by_cases hc : names.contains key = true
  · have := List.all_eq_true.mp hnames key (List.contains_iff_mem.mp hc)
    rw [hkey] at this
    cases this
  · exact Bool.eq_false_iff.mpr hc

namespace Unicode

/-- The text has a bar in it, which is one byte. The bytes of a table's names are quicker to look through than their
characters. -/
def hasBar (s : String) : Bool := s.toByteArray.data.toList.contains 0x7C

theorem hasBar_of_mem {s : String} (h : '|' ∈ s.toList) : hasBar s = true := by
  rw [hasBar, ← String.utf8Encode_toList, List.utf8Encode, List.data_toByteArray]
  exact List.contains_iff_mem.mpr (List.mem_flatMap.mpr ⟨'|', h, by decide⟩)

/-! ## Properties -/

theorem Query.bar_mem_loose {name : List Char} (h : '|' ∈ name) : '|' ∈ Query.loose name := by
  have hbare : ∀ cs : List Char, '|' ∈ cs →
      '|' ∈ (cs.filter fun c => c.toNat < 0x80 && c != ' ' && c != '_' && c != '-').map Char.toLower := by
    intro cs hcs
    exact List.mem_map.mpr ⟨'|', List.mem_filter.mpr ⟨hcs, by decide⟩, by decide⟩
  unfold Query.loose
  split
  · rename_i i s r
    simp only
    split
    · rename_i his
      have hr : '|' ∈ r := by
        rcases List.mem_cons.mp h with rfl | h
        · exact absurd his.1 (by decide)
        · rcases List.mem_cons.mp h with rfl | h
          · exact absurd his.2 (by decide)
          · exact h
      split
      · rename_i hc
        have := hbare r hr
        rw [hc] at this
        exact absurd this (by decide)
      · exact hbare r hr
    · exact hbare _ h
  · exact hbare _ h

theorem Query.hasBar_loose {name : List Char} (h : '|' ∈ name) : hasBar (String.ofList (Query.loose name)) = true := by
  refine hasBar_of_mem ?_
  rw [String.toList_ofList]
  exact Query.bar_mem_loose h

theorem Script.named?_of_bar {name : String} (h : hasBar name = true) : Script.named? name = none := by
  have hall : ((Script.common :: Script.inherited :: Script.written).all fun s =>
      s.names.all fun name => !hasBar name) = true := by decide +kernel
  unfold Script.named?
  rw [List.find?_eq_none]
  intro s hs
  rw [not_contains_of_marked (List.all_eq_true.mp hall s hs) h]
  exact Bool.false_ne_true

theorem Break.named?_of_bar {name : String} {parts : List Break.Part}
    (hparts : (parts.all fun p => p.names.all fun name => !hasBar name) = true)
    (h : hasBar name = true) : Break.named? name parts = none := by
  have hfind : parts.find? (·.names.contains name) = none := by
    rw [List.find?_eq_none]
    intro p hp
    rw [not_contains_of_marked (List.all_eq_true.mp hparts p hp) h]
    exact Bool.false_ne_true
  rw [Break.named?, hfind]
  rfl

theorem Version.assignedBy?_of_bar {name : String} {versions : List Version}
    (hversions : (versions.all fun v => v.names.all fun name => !hasBar name) = true)
    (h : hasBar name = true) : Version.assignedBy? name versions = none := by
  induction versions with
  | nil => rfl
  | cons v later ih =>
    rw [List.all_cons, Bool.and_eq_true] at hversions
    rw [Version.assignedBy?, not_contains_of_marked hversions.1 h, if_neg Bool.false_ne_true, ih hversions.2]
    rfl

theorem lookup_categories_of_bar {name : String} (h : hasBar name = true) :
    Property.categories.lookup name = none := lookup_eq_none (by decide +kernel) h

theorem Query.named?_of_bar {name : List Char} (h : '|' ∈ name) : Query.named? name = none := by
  have hkey := Query.hasBar_loose h
  unfold Query.named?
  simp only
  rw [lookup_eq_none (by decide +kernel) hkey, lookup_categories_of_bar hkey, Script.named?_of_bar hkey]
  rfl

theorem Query.valued?_of_bar {property value : List Char} (h : '|' ∈ property ∨ '|' ∈ value) :
    Query.valued? property value = none := by
  unfold Query.valued?
  simp only
  rcases h with h | h
  · have hkey := Query.hasBar_loose h
    split
    all_goals first
      | rfl
      | rename_i hp
        rw [hp] at hkey
        exact absurd hkey (by decide +kernel)
  · have hkey := Query.hasBar_loose h
    split
    · exact lookup_categories_of_bar hkey
    · exact lookup_categories_of_bar hkey
    · rw [Script.named?_of_bar hkey]
      rfl
    · rw [Script.named?_of_bar hkey]
      rfl
    · rw [Script.named?_of_bar hkey]
      rfl
    · rw [Script.named?_of_bar hkey]
      rfl
    · exact Version.assignedBy?_of_bar (by decide +kernel) hkey
    · exact Break.named?_of_bar (by decide +kernel) hkey
    · exact Break.named?_of_bar (by decide +kernel) hkey
    · exact Break.named?_of_bar (by decide +kernel) hkey
    · exact Break.named?_of_bar (by decide +kernel) hkey
    · exact Break.named?_of_bar (by decide +kernel) hkey
    · exact Break.named?_of_bar (by decide +kernel) hkey
    · rfl

end Unicode

namespace Pattern

theorem mem_of_splitAt? {mark name p v : List Char} (h : splitAt? mark name = some (p, v)) {c : Char} (hc : c ∈ name)
    (hmark : c ∉ mark) : c ∈ p ∨ c ∈ v := by
  induction name generalizing p with
  | nil => cases h
  | cons d rest ih =>
    unfold splitAt? at h
    split at h
    · rename_i hp
      obtain ⟨t, ht⟩ := List.isPrefixOf_iff_prefix.mp hp
      cases h
      rw [← ht] at hc ⊢
      rw [List.drop_left]
      rcases List.mem_append.mp hc with hc | hc
      · exact absurd hc hmark
      · exact Or.inr hc
    · obtain ⟨⟨p', v'⟩, hsplit, hpair⟩ := Option.map_eq_some_iff.mp h
      cases hpair
      rcases List.mem_cons.mp hc with rfl | hc
      · exact Or.inl List.mem_cons_self
      · rcases ih hsplit hc with hp | hv
        · exact Or.inl (List.mem_cons_of_mem d hp)
        · exact Or.inr hv

theorem propertyOf_of_bar {name : List Char} (h : '|' ∈ name) : (propertyOf name).2 = none := by
  unfold propertyOf
  split
  · rename_i p v hsplit
    exact Query.valued?_of_bar (mem_of_splitAt? hsplit h (by decide))
  · split
    · rename_i p v hsplit
      refine Query.valued?_of_bar ?_
      cases hcolon : splitAt? [':'] name with
      | none =>
        rw [hcolon] at hsplit
        exact mem_of_splitAt? hsplit h (by decide)
      | some pv =>
        rw [hcolon] at hsplit
        cases hsplit
        exact mem_of_splitAt? hcolon h (by decide)
    · exact Query.named?_of_bar h

theorem propertySet_of_bar (f : Flags) (negated : Bool) {name : List Char} (h : '|' ∈ name) :
    ∃ e, propertySet f negated name = .error e := by
  have hnone := propertyOf_of_bar h
  unfold propertySet
  by_cases hu : f.unicode = true
  · refine ⟨.unknownProperty, ?_⟩
    simp only [hu, hnone]
    rfl
  · refine ⟨.notUnicode, ?_⟩
    simp only [hu]
    rfl

/-! ## Groups and classes -/

theorem not_isNameChar_bar : isNameChar '|' = false := by
  simp only [isNameChar, Newer.alphanumeric, Newer.alphabetic, Property.alphabetic, CharSet.ofCategories, Category.letters,
    Category.numbers, List.map_cons, List.map_nil, CharSet.union, CharSet.contains, Bool.or_eq_false_iff]
  refine ⟨⟨⟨⟨by decide, by decide⟩, by decide⟩, by decide⟩, ?_⟩
  -- Each table begins with ASCII or beyond, so its first row goes past the bar.
  and_intros
  all_goals exact Spans.not_contains_read String.toList_ofList (by decide +kernel) (by decide +kernel)

def hasDigit (s : String) : Bool := s.toList.any Char.isDigit

/-- No named class has a digit in its name. -/
theorem className?_of_digit {f : Flags} {negated : Bool} {t : List Char} {d : Char} (hd : d.isDigit = true)
    (h : d ∈ t.takeWhile (· != ':')) : className? f negated t = none := by
  have hkey : hasDigit (String.ofList (t.takeWhile (· != ':'))) = true := by
    rw [hasDigit, String.toList_ofList]
    exact List.any_eq_true.mpr ⟨d, h, hd⟩
  unfold className?
  split
  · rw [lookup_eq_none (by decide +kernel) hkey]
    rfl
  · rfl

end Pattern

end DeltaLint

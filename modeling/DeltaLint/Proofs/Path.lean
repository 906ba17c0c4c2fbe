import DeltaLint.Path
import DeltaLint.Proofs.Keyed
import Mathlib.Data.List.TakeWhile

/-
  DeltaLint.Proofs.Path — what is left of a path.

  Paths are read as segments between slashes, of which the idle ones do not count (`names`). What is left
  of an absolute path after a base names the components that the base does not (`components_of_relative`),
  so it tells paths apart.

  Proved:
  - the order of paths is transitive (an instance).
  - `components_join`: a name in a directory has the components of both.
  - `components_of_relative`: a path is its base and what is left after it.
  - `components_eq_of_left_eq`: what is left of a path, or else the path, tells its components.
  - `mem_of_mem_relative`: nothing but slashes comes to what is left.
  - `Canonical.eq`: canonical paths with the same components are the same text.
-/

namespace DeltaLint

instance : Std.TransCmp Component.order :=
  (inferInstance : Std.TransCmp (compareLex (compareOn fun a : Component => a.rank.1)
    (compareOn fun a : Component => a.rank.2.map (·.toNat))))

namespace Path

/-! ## The order -/

theorem orderOf_eq_compareLex : orderOf = List.compareLex Component.order := by
  funext as
  induction as with
  | nil =>
    funext bs
    cases bs <;> rfl
  | cons a as ih =>
    funext bs
    cases bs with
    | nil => rfl
    | cons b bs => rw [orderOf, List.compareLex_cons_cons, ih]

instance : Std.TransCmp orderOf := by
  rw [orderOf_eq_compareLex]
  infer_instance

instance : Std.TransCmp order where
  eq_swap := (inferInstance : Std.TransCmp orderOf).eq_swap
  isLE_trans := (inferInstance : Std.TransCmp orderOf).isLE_trans

/-! ## Segments -/

/-- The components that the segments name. -/
def names (ss : List (List Char)) : List Component := (ss.filter (!isIdle ·)).map component

theorem names_cons_idle {s : List Char} (h : isIdle s = true) (ss : List (List Char)) : names (s :: ss) = names ss := by
  simp [names, h]

theorem names_cons {s : List Char} (h : isIdle s = false) (ss : List (List Char)) :
    names (s :: ss) = component s :: names ss := by
  simp [names, h]

theorem names_append (ss ts : List (List Char)) : names (ss ++ ts) = names ss ++ names ts := by
  simp [names]

theorem names_of_idle {ss : List (List Char)} (h : ∀ s ∈ ss, isIdle s = true) : names ss = [] := by
  simp only [names, List.map_eq_nil_iff, List.filter_eq_nil_iff]
  intro s hs
  simp [h s hs]

theorem names_dropWhile (ss : List (List Char)) : names (ss.dropWhile isIdle) = names ss := by
  induction ss with
  | nil => rfl
  | cons s ss ih =>
    rw [List.dropWhile_cons]
    split
    · rename_i hidle
      rw [ih, names_cons_idle hidle]
    · rfl

theorem names_trimEnd (ss : List (List Char)) : names (trimEnd ss) = names ss := by
  have hsplit : ss = trimEnd ss ++ (ss.reverse.takeWhile isIdle).reverse := by
    rw [trimEnd, ← List.reverse_append, List.takeWhile_append_dropWhile, List.reverse_reverse]
  have hidle : names (ss.reverse.takeWhile isIdle).reverse = [] :=
    names_of_idle fun s hs => List.mem_takeWhile_imp (List.mem_reverse.mp hs)
  calc
    names (trimEnd ss) = names (trimEnd ss) ++ names (ss.reverse.takeWhile isIdle).reverse := by rw [hidle, List.append_nil]
    _ = names ss := by rw [← names_append, ← hsplit]

theorem names_dropComponents (n : Nat) (ss : List (List Char)) : names (dropComponents n ss) = (names ss).drop n := by
  induction n generalizing ss with
  | zero => exact names_dropWhile ss
  | succ n ih =>
    rw [dropComponents, ih, ← names_dropWhile ss]
    cases hrest : ss.dropWhile isIdle with
    | nil => simp [names]
    | cons s rest =>
      have hs : isIdle s = false := by
        have hhead := List.head?_dropWhile_not isIdle ss
        rw [hrest] at hhead
        simpa using hhead
      rw [names_cons hs]
      rfl

/-- Where what is left begins, there is a name. -/
theorem head_dropComponents (n : Nat) (ss : List (List Char)) : ∀ s ∈ (dropComponents n ss).head?, isIdle s = false := by
  induction n generalizing ss with
  | zero =>
    intro s hs
    have hhead := List.head?_dropWhile_not isIdle ss
    rw [dropComponents] at hs
    rw [hs] at hhead
    simpa using hhead
  | succ n ih => exact ih _

theorem dropComponents_suffix (n : Nat) (ss : List (List Char)) : dropComponents n ss <:+ ss := by
  induction n generalizing ss with
  | zero => exact List.dropWhile_suffix isIdle
  | succ n ih => exact (ih _).trans ((List.drop_suffix 1 _).trans (List.dropWhile_suffix isIdle))

theorem prefix_trimEnd (ss : List (List Char)) : trimEnd ss <+: ss := by
  have hsuffix : ss.reverse.dropWhile isIdle <:+ ss.reverse := List.dropWhile_suffix isIdle
  have hprefix := List.reverse_prefix.mpr hsuffix
  rwa [List.reverse_reverse] at hprefix

theorem head_of_prefix {P : List Char → Prop} {ss ts : List (List Char)} (h : ss <+: ts) (hts : ∀ s ∈ ts.head?, P s) :
    ∀ s ∈ ss.head?, P s := by
  obtain ⟨rest, rfl⟩ := h
  cases ss with
  | nil => simp
  | cons s ss => exact hts

/-! ## Texts of segments -/

theorem isAbsolute_glue {ss : List (List Char)} (hsep : ∀ s ∈ ss, '/' ∉ s) (hhead : ∀ s ∈ ss.head?, isIdle s = false) :
    isAbsolute (Text.glue '/' ss) = false := by
  cases ss with
  | nil => rfl
  | cons s ss =>
    have hs := hhead s rfl
    cases s with
    | nil => cases hs
    | cons c s =>
      have hc : c ≠ '/' := fun hc => hsep _ List.mem_cons_self (hc ▸ List.mem_cons_self)
      cases ss with
      | nil => simpa [isAbsolute, Text.glue, List.intercalate] using hc
      | cons t ss => simpa [isAbsolute, Text.glue, List.intercalate] using hc

/-- The segments, glued to a text, name their components. -/
theorem names_segments_glue {ss : List (List Char)} (hsep : ∀ s ∈ ss, '/' ∉ s) :
    names (segments (Text.glue '/' ss)) = names ss := by
  cases ss with
  | nil => rfl
  | cons s ss => rw [segments, Text.pieces_glue (List.cons_ne_nil s ss) hsep]

theorem components_glue {ss : List (List Char)} (hsep : ∀ s ∈ ss, '/' ∉ s) (hhead : ∀ s ∈ ss.head?, isIdle s = false) :
    components (Text.glue '/' ss) = names ss := by
  have hdot : (segments (Text.glue '/' ss)).head? ≠ some ['.'] := by
    cases ss with
    | nil => decide
    | cons s ss =>
      rw [segments, Text.pieces_glue (List.cons_ne_nil s ss) hsep]
      intro hs
      cases Option.some.inj hs
      cases hhead ['.'] rfl
  rw [components, start, isAbsolute_glue hsep hhead, if_neg hdot]
  exact names_segments_glue hsep

theorem segments_of_isAbsolute {path : List Char} (h : isAbsolute path = true) :
    segments path = [] :: (segments path).drop 1 := by
  cases path with
  | nil => cases h
  | cons c path =>
    obtain rfl : c = '/' := by simpa [isAbsolute] using h
    simp [segments, Text.pieces_cons]

theorem components_of_isAbsolute {path : List Char} (h : isAbsolute path = true) :
    components path = .root :: names ((segments path).drop 1) := by
  rw [components, start, if_pos h]
  show .root :: names (segments path) = _
  rw [segments_of_isAbsolute h]
  exact congrArg _ (names_cons_idle rfl _)

theorem not_mem_segments {path : List Char} {s : List Char} (h : s ∈ segments path) : '/' ∉ s :=
  Text.not_mem_of_mem_pieces h

/-! ## Names in a directory -/

theorem isAbsolute_append {path : List Char} (h : isAbsolute path = true) (more : List Char) :
    isAbsolute (path ++ more) = true := by
  cases path with
  | nil => cases h
  | cons c path => exact h

theorem isAbsolute_join {base : String} (h : isAbsolute base.toList = true) (name : String) :
    isAbsolute (join base name).toList = true := by
  unfold join
  split
  · assumption
  · split
    · rw [String.toList_append]
      exact isAbsolute_append h _
    · rw [String.toList_append, String.toList_append]
      exact isAbsolute_append (isAbsolute_append h _) _

theorem body_append (a b : List Char) : body (a ++ '/' :: b) = body a ++ body b := by
  show names (segments (a ++ '/' :: b)) = names (segments a) ++ names (segments b)
  rw [segments, Text.pieces_append, names_append]
  rfl

theorem components_append {base : List Char} (h : isAbsolute base = true) (name : List Char) :
    components (base ++ '/' :: name) = components base ++ body name := by
  rw [components, components, start, start, if_pos h, if_pos (isAbsolute_append h _), body_append, List.append_assoc]

/-- A name that is no absolute path stands for its components in the directory. -/
theorem components_join {base name : String} (h : isAbsolute base.toList = true)
    (hname : isAbsolute name.toList = false) :
    components (join base name).toList = components base.toList ++ body name.toList := by
  have hbase : base.toList ≠ [] := by
    intro hnil
    rw [hnil] at h
    cases h
  unfold join
  rw [if_neg (by simp [hname])]
  by_cases hslash : base.toList.getLast? = some '/'
  · rw [if_pos (by simp [hslash]), String.toList_append]
    -- The slash that ends the directory begins no component.
    obtain ⟨parent, hparent⟩ := List.getLast?_eq_some_iff.mp hslash
    have hbody : body (parent ++ ['/']) = body parent := by
      rw [body_append]
      exact List.append_nil _
    have hstart : start (parent ++ '/' :: name.toList) = start (parent ++ ['/']) := by
      rw [hparent] at h
      have habsolute := isAbsolute_append h name.toList
      rw [List.append_assoc, List.singleton_append] at habsolute
      rw [start, start, if_pos h, if_pos habsolute]
    rw [hparent, List.append_assoc, List.singleton_append, components, components, hstart, hbody, body_append,
      List.append_assoc]
  · rw [if_neg (by simpa [hslash] using hbase), String.toList_append, String.toList_append, List.append_assoc]
    exact components_append h _

/-! ## What is left -/

/-- The text of an absolute path without what is idle at its end has the same components. -/
theorem components_trimmed {path : List Char} (h : isAbsolute path = true) :
    components (trimmed path) = components path := by
  have hsep : ∀ s ∈ trimEnd ((segments path).drop 1), '/' ∉ s := fun s hs =>
    not_mem_segments (List.mem_of_mem_drop ((prefix_trimEnd _).subset hs))
  have htext : trimmed path = '/' :: Text.glue '/' (trimEnd ((segments path).drop 1)) := by
    rw [trimmed, start, if_pos h]
  rw [htext, components_of_isAbsolute rfl, components_of_isAbsolute h]
  show .root :: names (segments (Text.glue '/' (trimEnd ((segments path).drop 1)))) = _
  rw [names_segments_glue hsep, names_trimEnd]

theorem relative?_of_isAbsolute {path base : String} (h : isAbsolute path.toList = true) :
    relative? path base = if (components base.toList).isPrefixOf (components path.toList) then
      if (components base.toList).isEmpty then some (String.ofList (trimmed path.toList))
      else some (String.ofList (Text.glue '/'
        (trimEnd (dropComponents ((components base.toList).length - 1) ((segments path.toList).drop 1)))))
    else none := by
  have hstart : start path.toList = [.root] := by rw [start, if_pos h]
  simp only [relative?, hstart]
  rfl

theorem not_mem_left {path : List Char} {n : Nat} :
    ∀ s ∈ trimEnd (dropComponents n ((segments path).drop 1)), '/' ∉ s := fun _ hs =>
  not_mem_segments (List.mem_of_mem_drop ((dropComponents_suffix _ _).subset ((prefix_trimEnd _).subset hs)))

theorem head_left {path : List Char} {n : Nat} :
    ∀ s ∈ (trimEnd (dropComponents n ((segments path).drop 1))).head?, isIdle s = false :=
  head_of_prefix (prefix_trimEnd _) (head_dropComponents _ _)

/-- An absolute path is its base and what is left after it. -/
theorem components_of_relative {path base left : String} (h : isAbsolute path.toList = true)
    (hleft : relative? path base = some left) :
    components path.toList = components base.toList ++ components left.toList := by
  rw [relative?_of_isAbsolute h] at hleft
  split at hleft
  · rename_i hprefix
    obtain ⟨rest, hrest⟩ := List.isPrefixOf_iff_prefix.mp hprefix
    split at hleft
    · rename_i hempty
      obtain rfl := Option.some.inj hleft
      rw [List.isEmpty_iff.mp hempty, String.toList_ofList, components_trimmed h]
      rfl
    · rename_i hsome
      obtain rfl := Option.some.inj hleft
      obtain ⟨first, more, hbase⟩ := List.exists_cons_of_ne_nil (fun hnil => hsome (List.isEmpty_iff.mpr hnil))
      have hnamed : names ((segments path.toList).drop 1) = more ++ rest := by
        rw [components_of_isAbsolute h, hbase] at hrest
        exact (List.cons.inj hrest).2.symm
      rw [String.toList_ofList, components_glue not_mem_left head_left, names_trimEnd, names_dropComponents, hnamed,
        ← hrest, hbase]
      simp
  · cases hleft

/-- What is left after a base is no absolute path. -/
theorem isAbsolute_left {path base left : String} (h : isAbsolute path.toList = true)
    (hbase : components base.toList ≠ []) (hleft : relative? path base = some left) : isAbsolute left.toList = false := by
  rw [relative?_of_isAbsolute h, if_neg (fun hempty => hbase (List.isEmpty_iff.mp hempty))] at hleft
  split at hleft
  · obtain rfl := Option.some.inj hleft
    rw [String.toList_ofList]
    exact isAbsolute_glue not_mem_left head_left
  · cases hleft

/-- Where nothing is left of one path and the other is what is left of it, the base is empty. -/
theorem components_eq_of_relative_eq_self {path base : String} {other : String} (h : isAbsolute path.toList = true)
    (hother : isAbsolute other.toList = true) (hleft : relative? path base = some other) :
    components path.toList = components other.toList := by
  by_cases hbase : components base.toList = []
  · rw [components_of_relative h hleft, hbase]
    rfl
  · rw [isAbsolute_left h hbase hleft] at hother
    cases hother

/-- What an absolute path is shown as, but for the backslashes, tells its components. -/
theorem components_eq_of_left_eq {a b base : String} (ha : isAbsolute a.toList = true) (hb : isAbsolute b.toList = true)
    (h : (relative? a base).getD a = (relative? b base).getD b) : components a.toList = components b.toList := by
  cases hleft : relative? a base with
  | none =>
    cases hright : relative? b base with
    | none =>
      rw [hleft, hright] at h
      obtain rfl : a = b := h
      rfl
    | some right =>
      rw [hleft, hright] at h
      obtain rfl : a = right := h
      exact (components_eq_of_relative_eq_self hb ha hright).symm
  | some left =>
    cases hright : relative? b base with
    | none =>
      rw [hleft, hright] at h
      obtain rfl : left = b := h
      exact components_eq_of_relative_eq_self ha hb hleft
    | some right =>
      rw [hleft, hright] at h
      obtain rfl : left = right := h
      rw [components_of_relative ha hleft, components_of_relative hb hright]

theorem mem_of_mem_glue {sep c : Char} {parts : List (List Char)} (h : c ∈ Text.glue sep parts) :
    c = sep ∨ ∃ part ∈ parts, c ∈ part := by
  induction parts with
  | nil => cases h
  | cons part parts ih =>
    cases parts with
    | nil => exact Or.inr ⟨part, List.mem_cons_self, by simpa [Text.glue, List.intercalate] using h⟩
    | cons part' parts =>
      have hsplit : Text.glue sep (part :: part' :: parts) = part ++ sep :: Text.glue sep (part' :: parts) := by
        simp [Text.glue]
      rw [hsplit, List.mem_append, List.mem_cons] at h
      rcases h with h | h | h
      · exact Or.inr ⟨part, List.mem_cons_self, h⟩
      · exact Or.inl h
      · refine (ih h).imp_right fun hlater => ?_
        obtain ⟨p, hp, hc⟩ := hlater
        exact ⟨p, List.mem_cons_of_mem _ hp, hc⟩

theorem mem_of_mem_segments {path s : List Char} {c : Char} (hs : s ∈ segments path) (hc : c ∈ s) : c ∈ path := by
  unfold segments at hs
  induction path generalizing s with
  | nil =>
    rw [Text.pieces_nil, List.mem_singleton] at hs
    exact hs ▸ hc
  | cons d path ih =>
    obtain ⟨q, qs, hq⟩ := List.exists_cons_of_ne_nil (Text.pieces_ne_nil '/' path)
    rw [Text.pieces_cons, hq] at hs
    rw [hq] at ih
    split at hs
    · rcases List.mem_cons.mp hs with rfl | hs
      · cases hc
      · exact List.mem_cons_of_mem _ (ih hs hc)
    · rcases List.mem_cons.mp hs with rfl | hs
      · rcases List.mem_cons.mp hc with rfl | hc
        · exact List.mem_cons_self
        · exact List.mem_cons_of_mem _ (ih List.mem_cons_self hc)
      · exact List.mem_cons_of_mem _ (ih (List.mem_cons_of_mem _ hs) hc)

/-- What is left of an absolute path holds no character that the path does not, but for slashes. -/
theorem mem_of_mem_relative {path base left : String} {c : Char} (h : isAbsolute path.toList = true)
    (hleft : relative? path base = some left) (hc : c ∈ left.toList) (hslash : c ≠ '/') : c ∈ path.toList := by
  have hpart : ∀ {ss : List (List Char)}, (∀ s ∈ ss, s ∈ segments path.toList) → c ∈ Text.glue '/' ss → c ∈ path.toList := by
    intro ss hss hglue
    rcases mem_of_mem_glue hglue with rfl | ⟨s, hs, hcs⟩
    · exact absurd rfl hslash
    · exact mem_of_mem_segments (hss s hs) hcs
  rw [relative?_of_isAbsolute h] at hleft
  split at hleft
  · split at hleft
    · obtain rfl := Option.some.inj hleft
      rw [String.toList_ofList, trimmed, start, if_pos h] at hc
      rcases List.mem_cons.mp hc with rfl | hc
      · exact absurd rfl hslash
      · exact hpart (fun s hs => List.mem_of_mem_drop ((prefix_trimEnd _).subset hs)) hc
    · obtain rfl := Option.some.inj hleft
      rw [String.toList_ofList] at hc
      exact hpart (fun s hs => List.mem_of_mem_drop ((dropComponents_suffix _ _).subset ((prefix_trimEnd _).subset hs))) hc
  · cases hleft

/-! ## Canonical paths -/

/-- A stretch between slashes that is a name and stands for nothing else. -/
structure IsName (s : List Char) : Prop where
  no_slash : '/' ∉ s
  not_idle : isIdle s = false
  not_parent : s ≠ ['.', '.']

/-- The path begins with a slash, and single slashes part its names. -/
def Canonical (path : List Char) : Prop := ∃ ss : List (List Char), path = '/' :: Text.glue '/' ss ∧ ∀ s ∈ ss, IsName s

theorem components_of_canonical {ss : List (List Char)} (h : ∀ s ∈ ss, IsName s) :
    components ('/' :: Text.glue '/' ss) = .root :: ss.map .name := by
  have hnames : names ss = ss.map .name := by
    have hall : ss.filter (!isIdle ·) = ss := List.filter_eq_self.mpr fun s hs => by simp [(h s hs).not_idle]
    rw [names, hall]
    exact List.map_congr_left fun s hs => if_neg (h s hs).not_parent
  have hsegments : (segments ('/' :: Text.glue '/' ss)).drop 1 = segments (Text.glue '/' ss) := by
    simp [segments, Text.pieces_cons]
  rw [components_of_isAbsolute rfl, hsegments, names_segments_glue fun s hs => (h s hs).no_slash, hnames]

/-- Canonical paths with the same components are the same text. -/
theorem Canonical.eq {a b : List Char} (ha : Canonical a) (hb : Canonical b) (h : components a = components b) : a = b := by
  obtain ⟨ss, rfl, hss⟩ := ha
  obtain ⟨ts, rfl, hts⟩ := hb
  rw [components_of_canonical hss, components_of_canonical hts] at h
  rw [(List.map_inj_right fun _ _ => Component.name.inj).mp (List.cons.inj h).2]

end Path

end DeltaLint

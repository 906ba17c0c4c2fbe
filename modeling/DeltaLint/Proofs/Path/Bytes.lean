import DeltaLint.Proofs.Path
import DeltaLint.Proofs.Text
import DeltaLint.Proofs.Utf8

/-
  DeltaLint.Proofs.Path.Bytes — what is shown of a path that is text.

  Slashes and dots are bytes of their own and come from no other characters. So the bytes of a text, taken for
  a character each (`spread`), have the segments and the components of the text with their names spread,
  and what is left of them after a base is what is left of the text. Text is shown as it is, but for backslashes;
  without these, what is shown tells the components of the path.

  Proved:
  - `components_spread`: the bytes of a path have its components.
  - `exists_encoded_left`: what is left of text is text, after any base.
  - `shown_eq`: of text that is shown nothing is lost but backslashes.
  - `components_eq_of_shown_eq`: without backslashes only one path is shown like this.
  - `shown_apart`: of paths in order no two are shown alike, but for those with backslashes.
-/

namespace DeltaLint

/-- The component with another name, where it has one. -/
def Component.map (f : List Char → List Char) : Component → Component
  | name s => name (f s)
  | root => root
  | here => here
  | parent => parent

theorem Component.map_injective {f : List Char → List Char} (h : Function.Injective f) :
    Function.Injective (Component.map f) := by
  intro a b hab
  cases a <;> cases b <;> simp_all only [Component.map, Component.name.injEq, reduceCtorEq]
  exact h hab

namespace Path

open Text

/-! ## The bytes of a text -/

/-- The bytes of a text, each as a character. -/
def spread (text : List Char) : List Char := Text.ofBytes (Utf8.encode text)

theorem toList_ofBytes_encoded (path : String) : (ofBytes (encoded path)).toList = spread path.toList :=
  String.toList_ofList

theorem spread_append (a b : List Char) : spread (a ++ b) = spread a ++ spread b := by
  rw [spread, Utf8.encode_append, Text.ofBytes, List.map_append]
  rfl

theorem spread_cons {c : Char} (h : c.toNat < 0x80) (text : List Char) : spread (c :: text) = c :: spread text := by
  have hchar : Char.ofNat c.toNat.toUInt8.toNat = c := by rw [Utf8.toNat_toUInt8 (by omega), Char.ofNat_toNat]
  rw [spread, Utf8.encode_cons, Utf8.encodeChar_of_lt h, Text.ofBytes, List.singleton_append, List.map_cons, hchar]
  rfl

theorem spread_injective : Function.Injective spread :=
  ofBytes_injective.comp (Function.LeftInverse.injective Utf8.decode_encode)

theorem spread_slash (a b : List Char) : spread (a ++ '/' :: b) = spread a ++ '/' :: spread b := by
  rw [spread_append, spread_cons (by decide)]

/-- A character of ASCII comes from no other. -/
theorem not_mem_spread {c : Char} (hc : c.toNat < 0x80) {text : List Char} (h : c ∉ text) : c ∉ spread text := by
  intro hmem
  obtain ⟨b, hb, rfl⟩ := List.mem_map.mp hmem
  obtain ⟨d, hd, hbd⟩ := List.mem_flatMap.mp hb
  have hlt : b.toNat < 256 := b.toNat_lt
  rw [Utf8.toNat_ofNat (by omega)] at hc
  by_cases hascii : d.toNat < 0x80
  · rw [Utf8.encodeChar_of_lt hascii, List.mem_singleton] at hbd
    rw [hbd, Utf8.toNat_toUInt8 (by omega), Char.ofNat_toNat] at h
    exact h hd
  · exact absurd (Utf8.le_of_mem_encodeChar (Nat.not_lt.mp hascii) hbd) (by omega)

/-! ## Segments and components -/

theorem segments_spread (path : List Char) : segments (spread path) = (segments path).map spread := by
  rw [segments, segments, pieces_eq_splitOn '/' path]
  exact pieces_splitOn spread_slash (fun _ => not_mem_spread (by decide)) path

theorem spread_glue {ss : List (List Char)} (h : ∀ s ∈ ss, '/' ∉ s) : spread (glue '/' ss) = glue '/' (ss.map spread) := by
  cases ss with
  | nil => rfl
  | cons s ss =>
    have hpieces := segments_spread (glue '/' (s :: ss))
    rw [segments, segments, pieces_glue (List.cons_ne_nil s ss) h] at hpieces
    rw [← glue_pieces '/' (spread _), hpieces]

theorem isIdle_spread (s : List Char) : isIdle (spread s) = isIdle s := by
  have hempty : spread s = [] ↔ s = [] := spread_injective.eq_iff' rfl
  have hdot : spread s = ['.'] ↔ s = ['.'] := spread_injective.eq_iff' rfl
  rw [isIdle, isIdle, Bool.eq_iff_iff]
  simp only [Bool.or_eq_true, beq_iff_eq, hempty, hdot]

theorem component_spread (s : List Char) : component (spread s) = (component s).map spread := by
  have hparent : spread s = ['.', '.'] ↔ s = ['.', '.'] := spread_injective.eq_iff' rfl
  rw [component, component]
  by_cases hs : s = ['.', '.']
  · rw [if_pos (hparent.mpr hs), if_pos hs]
    rfl
  · rw [if_neg (hparent.not.mpr hs), if_neg hs]
    rfl

theorem isIdle_comp_spread : isIdle ∘ spread = isIdle := funext isIdle_spread

theorem names_spread (ss : List (List Char)) : names (ss.map spread) = (names ss).map (Component.map spread) := by
  have hidle : ((!isIdle ·) ∘ spread) = (!isIdle ·) := funext fun s => congrArg not (isIdle_spread s)
  rw [names, names, List.filter_map, hidle, List.map_map, List.map_map]
  exact List.map_congr_left fun s _ => component_spread s

theorem isAbsolute_spread (path : List Char) : isAbsolute (spread path) = isAbsolute path := by
  cases path with
  | nil => rfl
  | cons c path =>
    by_cases hc : c = '/'
    · rw [hc, spread_cons (by decide)]
      rfl
    · -- The bytes of a character that is no slash begin with none.
      have hapart : '/' ∉ spread [c] := not_mem_spread (by decide) (by simpa using Ne.symm hc)
      obtain ⟨d, ds, hd⟩ := List.exists_cons_of_ne_nil (spread_injective.ne (List.cons_ne_nil c []))
      rw [← List.singleton_append, spread_append, hd]
      rw [hd] at hapart
      simp only [isAbsolute, List.cons_append, List.head?_cons]
      rw [beq_false_of_ne (by simpa using Ne.symm (List.ne_of_not_mem_cons hapart)), beq_false_of_ne (by simpa using hc)]

theorem start_spread (path : List Char) : start (spread path) = start path := by
  have hdot : (segments (spread path)).head? = some ['.'] ↔ (segments path).head? = some ['.'] := by
    rw [segments_spread, List.head?_map]
    exact (Option.map_injective spread_injective).eq_iff' rfl
  rw [start, start, isAbsolute_spread]
  simp only [hdot]

theorem map_start (f : List Char → List Char) (path : List Char) : (start path).map (Component.map f) = start path := by
  unfold start
  split
  · rfl
  · split
    · rfl
    · rfl

theorem body_spread (path : List Char) : body (spread path) = (body path).map (Component.map spread) := by
  show names (segments (spread path)) = _
  rw [segments_spread, names_spread]
  rfl

/-- The bytes of a path have its components. -/
theorem components_spread (path : List Char) :
    components (spread path) = (components path).map (Component.map spread) := by
  rw [components, components, start_spread, body_spread, List.map_append, map_start]

/-! ## What is left -/

theorem dropComponents_spread (n : Nat) (ss : List (List Char)) :
    dropComponents n (ss.map spread) = (dropComponents n ss).map spread := by
  induction n generalizing ss with
  | zero => rw [dropComponents, dropComponents, List.dropWhile_map, isIdle_comp_spread]
  | succ n ih =>
    rw [dropComponents, dropComponents, List.dropWhile_map, isIdle_comp_spread, ← List.map_drop, ih]

theorem trimEnd_spread (ss : List (List Char)) : trimEnd (ss.map spread) = (trimEnd ss).map spread := by
  rw [trimEnd, trimEnd, ← List.map_reverse, List.dropWhile_map, isIdle_comp_spread, List.map_reverse]

/-- The text of a path after its first `n` components. -/
def remainder (n : Nat) (path : List Char) : List Char :=
  if n = 0 then trimmed path
  else glue '/' (trimEnd (dropComponents (n - (start path).length)
    (if (start path).isEmpty then segments path else (segments path).drop 1)))

theorem relative?_eq (path base : String) : relative? path base =
    if (components base.toList).isPrefixOf (components path.toList) then
      some (String.ofList (remainder (components base.toList).length path.toList))
    else none := by
  simp only [relative?, remainder, List.length_eq_zero_iff, List.isEmpty_iff]
  split
  · split
    · rfl
    · rfl
  · rfl

theorem no_slash_of_prefix {path : List Char} {ss : List (List Char)} (h : ∀ s ∈ ss, s ∈ segments path) :
    ∀ s ∈ trimEnd ss, '/' ∉ s := fun _ hs => not_mem_segments (h _ ((prefix_trimEnd ss).subset hs))

theorem trimmed_spread (path : List Char) : trimmed (spread path) = spread (trimmed path) := by
  have hdrop : ∀ s ∈ trimEnd ((segments path).drop 1), '/' ∉ s :=
    no_slash_of_prefix fun s hs => List.mem_of_mem_drop hs
  have hall : ∀ s ∈ trimEnd (segments path), '/' ∉ s := no_slash_of_prefix fun s hs => hs
  rw [trimmed, trimmed, start_spread, segments_spread, ← List.map_drop, trimEnd_spread, trimEnd_spread]
  split
  · rw [spread_cons (by decide), spread_glue hdrop]
  · rw [spread_glue (List.forall_mem_cons.mpr ⟨by decide, hdrop⟩)]
    rfl
  · rw [spread_glue hall]

theorem remainder_spread (n : Nat) (path : List Char) : remainder n (spread path) = spread (remainder n path) := by
  have hdrop : ∀ k (ss : List (List Char)), (∀ s ∈ ss, s ∈ segments path) →
      ∀ s ∈ trimEnd (dropComponents k ss), '/' ∉ s := fun k ss hss =>
    no_slash_of_prefix fun s hs => hss s ((dropComponents_suffix k ss).subset hs)
  rw [remainder, remainder]
  split
  · exact trimmed_spread path
  · rw [start_spread, segments_spread, ← List.map_drop, ← apply_ite (List.map spread), dropComponents_spread,
      trimEnd_spread, spread_glue (hdrop _ _ ?_)]
    split
    · exact fun s hs => hs
    · exact fun s hs => List.mem_of_mem_drop hs

/-- What is left of the bytes of a text are the bytes of a text. -/
theorem exists_encoded_left (path : String) (base : List UInt8) :
    ∃ left : String, leftBytes (encoded path) base = encoded left := by
  unfold leftBytes
  rw [relative?_eq, toList_ofBytes_encoded, remainder_spread]
  split
  · rename_i left hleft
    split at hleft
    · obtain rfl := Option.some.inj hleft
      refine ⟨String.ofList (remainder (components (ofBytes base).toList).length path.toList), ?_⟩
      rw [String.toList_ofList, spread, toBytes_ofBytes, encoded, String.toList_ofList]
    · cases hleft
  · exact ⟨path, rfl⟩

/-- What is left of the bytes of a text after those of another are the bytes of what is left of it. -/
theorem leftBytes_encoded (path base : String) :
    leftBytes (encoded path) (encoded base) = encoded ((relative? path base).getD path) := by
  have hprefix : (components (spread base.toList)).isPrefixOf (components (spread path.toList)) =
      (components base.toList).isPrefixOf (components path.toList) := by
    rw [Bool.eq_iff_iff, List.isPrefixOf_iff_prefix, List.isPrefixOf_iff_prefix, components_spread, components_spread]
    exact List.prefix_map_iff_of_injective (Component.map_injective spread_injective)
  have hlength : (components (spread base.toList)).length = (components base.toList).length := by
    rw [components_spread, List.length_map]
  unfold leftBytes
  rw [relative?_eq, relative?_eq, toList_ofBytes_encoded, toList_ofBytes_encoded, hprefix, hlength, remainder_spread]
  split
  · rename_i left hleft
    split at hleft
    · rename_i hbelow
      obtain rfl := Option.some.inj hleft
      rw [if_pos hbelow, String.toList_ofList, spread, toBytes_ofBytes, Option.getD_some, encoded, String.toList_ofList]
    · cases hleft
  · rename_i hnone
    split at hnone
    · cases hnone
    · rename_i helsewhere
      rw [if_neg helsewhere]
      rfl

/-! ## What is shown -/

theorem normalize_eq (path : String) :
    normalize path = String.ofList (path.toList.map fun c => if c = '\\' then '/' else c) := by
  rw [normalize, normalizeBytes, encoded, Utf8.decode_encode]

/-- Of text that is shown nothing is lost but backslashes. -/
theorem shown_eq (path base : String) : shown path base = normalize ((relative? path base).getD path) := by
  rw [shown, shownBytes, leftBytes_encoded]
  rfl

theorem map_eq_self {text : List Char} (h : '\\' ∉ text) : text.map (fun c => if c = '\\' then '/' else c) = text := by
  refine (List.map_congr_left fun c hc => if_neg ?_).trans (List.map_id _)
  rintro rfl
  exact h hc

theorem shown_eq_of_no_backslash {path base : String} (h : isAbsolute path.toList = true) (hback : '\\' ∉ path.toList) :
    shown path base = (relative? path base).getD path := by
  have hleft : '\\' ∉ ((relative? path base).getD path).toList := by
    cases hleft : relative? path base with
    | none => exact hback
    | some left => exact fun hc => hback (mem_of_mem_relative h hleft hc (by decide))
  rw [shown_eq, normalize_eq, map_eq_self hleft, String.ofList_toList]

/-- Absolute paths without backslashes that are shown alike have the same components. -/
theorem components_eq_of_shown_eq {a b base : String} (ha : isAbsolute a.toList = true) (hb : isAbsolute b.toList = true)
    (hbacka : '\\' ∉ a.toList) (hbackb : '\\' ∉ b.toList) (h : shown a base = shown b base) :
    components a.toList = components b.toList := by
  rw [shown_eq_of_no_backslash ha hbacka, shown_eq_of_no_backslash hb hbackb] at h
  exact components_eq_of_left_eq ha hb h

/-- The path begins with a slash and holds no backslash. -/
structure Plain (path : String) : Prop where
  absolute : isAbsolute path.toList = true
  no_backslash : '\\' ∉ path.toList

/-- Paths in order stand for different files, so no two plain ones are shown alike. -/
theorem shown_apart {α : Type} {m : Keyed String α} (h : Keyed.Increasing order m) (base : String) :
    m.Pairwise fun e e' => Plain e.1 → Plain e'.1 → shown e.1 base ≠ shown e'.1 base := by
  refine List.Pairwise.imp ?_ h
  intro e e' hlt he he' hshown
  have hsame := components_eq_of_shown_eq he.absolute he'.absolute he.no_backslash he'.no_backslash hshown
  rw [order_eq_iff.mpr hsame] at hlt
  cases hlt

end Path

end DeltaLint

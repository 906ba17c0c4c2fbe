import DeltaLint.Proofs.Report.Json

/-
  DeltaLint.Proofs.Report.JsonText — what can be read back from the text of reports.

  The text of a JSON value ends itself: wherever it stands, no text of another value stands, and it ends
  where it ends (`EndsItself`). For a string this is so as no character is escaped to a text that begins with
  a quote, and each can be read back from its escape; for items between brackets, as what follows an item
  tells whether there is another. So the text of reports tells which outcome each path has, and nothing
  else about the reports.

  Proved:
  - `row_inj`: texts in a row are told apart when each ends itself and none begins like what ends the row.
  - `unescape?_escapedChar`: a character is read back from its escape.
  - `write_endsItself`: the text of a value ends itself, over several lines or on one.
  - `ofOutcome_inj`: outcomes are told apart.
  - `json_eq_json_iff`: two lists of reports have one text exactly if the same outcome counts for each path.
-/

namespace DeltaLint.Report

namespace Json

/-- Where the text of `a` stands, no other text of the kind does, and it ends there. -/
def EndsItself {α : Type} (text : α → List Char) (a : α) : Prop :=
  ∀ a' rest rest', text a ++ rest = text a' ++ rest' → a = a' ∧ rest = rest'

/-- Texts in a row are told apart, and where the row ends, when each ends itself and none begins like what ends the row. -/
theorem row_inj {α : Type} {text : α → List Char} {stop : List Char} {as as' : List α} {rest rest' : List Char}
    (hstop : ∀ a x y, text a ++ x ≠ stop ++ y) (h : ∀ a ∈ as, EndsItself text a)
    (heq : as.flatMap text ++ (stop ++ rest) = as'.flatMap text ++ (stop ++ rest')) : as = as' ∧ rest = rest' := by
  induction as generalizing as' with
  | nil =>
    cases as' with
    | nil => exact ⟨rfl, List.append_cancel_left heq⟩
    | cons a' as' =>
      rw [List.flatMap_cons, List.append_assoc] at heq
      exact absurd heq.symm (hstop a' _ _)
  | cons a as ih =>
    rw [List.flatMap_cons, List.append_assoc] at heq
    cases as' with
    | nil => exact absurd heq (hstop a _ _)
    | cons a' as' =>
      rw [List.flatMap_cons, List.append_assoc] at heq
      obtain ⟨ha, has⟩ := List.forall_mem_cons.mp h
      obtain ⟨rfl, hmore⟩ := ha a' _ _ heq
      obtain ⟨rfl, hrest⟩ := ih has hmore
      exact ⟨rfl, hrest⟩

/-! ## Strings -/

/-- What the letter after a backslash stands for. -/
def escapeOf? : Char → Option Char
  | '"' => some '"'
  | '\\' => some '\\'
  | 'b' => some '\x08'
  | 't' => some '\t'
  | 'n' => some '\n'
  | 'f' => some '\x0c'
  | 'r' => some '\r'
  | _ => none

/-- The first character of a text with escapes, and what follows it. -/
def unescape? : List Char → Option (Char × List Char)
  | '\\' :: 'u' :: '0' :: '0' :: a :: b :: rest => (Text.digits? 16 [a, b]).map fun n => (Char.ofNat n, rest)
  | '\\' :: c :: rest => (escapeOf? c).map fun d => (d, rest)
  | c :: rest => some (c, rest)
  | [] => none

/-- A control character is written with two digits. -/
theorem hexDigits_of_lt {n : Nat} (h : n < 0x20) : ∃ a b, (if n < 0x10 then ['0'] else []) ++ Text.hex n = [a, b] ∧
    Text.digits? 16 [a, b] = some n := by
  have hlength : ∀ n < 0x20, ((if n < 0x10 then ['0'] else []) ++ Text.hex n).length = 2 := by decide
  have hdigits : ∀ n < 0x20, Text.digits? 16 ((if n < 0x10 then ['0'] else []) ++ Text.hex n) = some n := by decide
  obtain ⟨a, b, hab⟩ := List.length_eq_two.mp (hlength n h)
  exact ⟨a, b, hab, hab ▸ hdigits n h⟩

/-- A character is read back from its escape, whatever follows. -/
theorem unescape?_escapedChar (c : Char) (rest : List Char) : unescape? (escapedChar c ++ rest) = some (c, rest) := by
  unfold escapedChar
  split
  · rfl
  · rfl
  · rfl
  · rfl
  · rfl
  · rfl
  · rfl
  · rename_i hback _ _ _ _ _
    split
    · rename_i hcontrol
      obtain ⟨a, b, hab, hdigits⟩ := hexDigits_of_lt hcontrol
      rw [List.append_assoc ['\\', 'u', '0', '0'], hab]
      show (Text.digits? 16 [a, b]).map _ = _
      rw [hdigits, Option.map_some, Char.ofNat_toNat]
      rfl
    · rw [List.singleton_append, unescape?]
      · exact fun _ _ _ h _ => hback h
      · exact fun _ _ h _ => hback h

theorem escapedChar_endsItself (c : Char) : EndsItself escapedChar c := by
  intro d rest rest' h
  have hread := unescape?_escapedChar c rest
  rw [h, unescape?_escapedChar d rest'] at hread
  obtain ⟨hchar, hrest⟩ := Prod.mk.inj (Option.some.inj hread)
  exact ⟨hchar.symm, hrest.symm⟩

/-- No escape begins like the end of a string. -/
theorem escapedChar_ne_quote (c : Char) (x y : List Char) : escapedChar c ++ x ≠ ['"'] ++ y := by
  intro h
  have hread := unescape?_escapedChar c x
  rw [h] at hread
  obtain rfl : '"' = c := (Prod.mk.inj (Option.some.inj hread)).1
  cases h

theorem quotedText_endsItself (s : String) : EndsItself quotedText s := by
  intro s' rest rest' h
  have hrow : s.toList.flatMap escapedChar ++ (['"'] ++ rest) = s'.toList.flatMap escapedChar ++ (['"'] ++ rest') := by
    simpa [quotedText] using h
  obtain ⟨hchars, hrest⟩ := row_inj escapedChar_ne_quote (fun c _ => escapedChar_endsItself c) hrow
  exact ⟨String.toList_inj.mp hchars, hrest⟩

/-! ## Items between brackets -/

/-- The items after the first, and the closing bracket. -/
def moreItems (l : Layout) (closing : Char) (items : List (List Char)) : List Char :=
  items.flatMap (fun item => ',' :: (newline (deeper l) ++ item)) ++ (newline l ++ [closing])

theorem bracketed_cons (l : Layout) (opening closing : Char) (item : List Char) (items : List (List Char)) :
    bracketed l opening closing (item :: items) =
      opening :: (newline (deeper l) ++ (item ++ moreItems l closing items)) := by
  have hitems : ∀ (item : List Char), List.intercalate [','] ((item :: items).map (newline (deeper l) ++ ·)) =
      newline (deeper l) ++ (item ++ items.flatMap fun item => ',' :: (newline (deeper l) ++ item)) := by
    induction items with
    | nil => intro item; simp
    | cons next items ih =>
      intro item
      rw [List.map_cons, List.map_cons, List.intercalate_cons_cons, ← List.map_cons, ih next]
      simp
  unfold bracketed
  rw [if_neg (by simp), hitems]
  simp [moreItems]

theorem moreItems_inj {α : Type} {text : α → List Char} {l : Layout} {closing : Char} {as as' : List α}
    {rest rest' : List Char} (hcomma : closing ≠ ',') (h : ∀ a ∈ as, EndsItself text a)
    (heq : moreItems l closing (as.map text) ++ rest = moreItems l closing (as'.map text) ++ rest') :
    as = as' ∧ rest = rest' := by
  have hends : ∀ a ∈ as, EndsItself (fun a => ',' :: (newline (deeper l) ++ text a)) a := by
    intro a ha a' x y hitem
    simp only [List.cons_append, List.append_assoc] at hitem
    exact h a ha a' x y (List.append_cancel_left (List.cons.inj hitem).2)
  have hrow : as.flatMap (fun a => ',' :: (newline (deeper l) ++ text a)) ++ (newline l ++ [closing] ++ rest) =
      as'.flatMap (fun a => ',' :: (newline (deeper l) ++ text a)) ++ (newline l ++ [closing] ++ rest') := by
    simpa [moreItems, List.flatMap_map] using heq
  refine row_inj ?_ hends hrow
  -- After the last item there is no comma.
  intro a x y hcommon
  cases l with
  | none => exact hcomma (List.cons.inj hcommon).1.symm
  | some depth => exact absurd (List.cons.inj hcommon).1 (by decide)

/-- Items between brackets end themselves when each item does, and none begins like the closing bracket. -/
theorem bracketed_inj {α : Type} {text : α → List Char} {l : Layout} {opening closing : Char} {as as' : List α}
    {rest rest' : List Char} (hcomma : closing ≠ ',') (hline : closing ≠ '\n')
    (hbegin : ∀ a x y, text a ++ x ≠ closing :: y) (h : ∀ a ∈ as, EndsItself text a)
    (heq : bracketed l opening closing (as.map text) ++ rest = bracketed l opening closing (as'.map text) ++ rest') :
    as = as' ∧ rest = rest' := by
  have hsome : ∀ a x y, newline (deeper l) ++ (text a ++ x) ≠ closing :: y := by
    intro a x y
    cases l with
    | none => exact hbegin a x y
    | some depth => exact fun h => hline (List.cons.inj h).1.symm
  have hnone : bracketed l opening closing [] = [opening, closing] := rfl
  cases as with
  | nil =>
    cases as' with
    | nil => exact ⟨rfl, List.append_cancel_left heq⟩
    | cons a' as' =>
      rw [List.map_nil, hnone, List.map_cons, bracketed_cons] at heq
      simp only [List.cons_append, List.append_assoc, List.nil_append] at heq
      exact absurd (List.cons.inj heq).2.symm (hsome a' _ _)
  | cons a as =>
    cases as' with
    | nil =>
      rw [List.map_nil, hnone, List.map_cons, bracketed_cons] at heq
      simp only [List.cons_append, List.append_assoc, List.nil_append] at heq
      exact absurd (List.cons.inj heq).2 (hsome a _ _)
    | cons a' as' =>
      obtain ⟨ha, has⟩ := List.forall_mem_cons.mp h
      rw [List.map_cons, List.map_cons, bracketed_cons, bracketed_cons] at heq
      simp only [List.cons_append, List.append_assoc] at heq
      obtain ⟨rfl, hmore⟩ := ha a' _ _ (List.append_cancel_left (List.cons.inj heq).2)
      obtain ⟨rfl, hrest⟩ := moreItems_inj hcomma has hmore
      exact ⟨rfl, hrest⟩

/-! ## Values -/

/-- What holds of strings, and of arrays and objects when it holds of what they hold, holds of all values. -/
@[elab_as_elim]
theorem induct {P : Json → Prop} (string : ∀ s, P (.string s)) (array : ∀ items, (∀ j ∈ items, P j) → P (.array items))
    (object : ∀ fields, (∀ f ∈ fields, P f.2) → P (.object fields)) : ∀ j, P j
  | .string s => string s
  | .array items => array items fun j _ => induct string array object j
  | .object fields => object fields fun f _ => induct string array object f.2
termination_by j => sizeOf j
decreasing_by
  · have := List.sizeOf_lt_of_mem ‹_ ∈ items›
    simp
    omega
  · have := List.sizeOf_lt_of_mem ‹_ ∈ fields›
    have : sizeOf f.2 < sizeOf f := by
      obtain ⟨k, j⟩ := f
      simp
    simp
    omega

/-- The text of a field. -/
def fieldText (l : Layout) (f : String × Json) : List Char := quotedText f.1 ++ colon l ++ write l f.2

theorem write_array (l : Layout) (items : List Json) :
    write l (.array items) = bracketed l '[' ']' (items.map (write (deeper l))) := by
  have hitems : ∀ l, write.writeItems l items = items.map (write l) := by
    intro l
    induction items with
    | nil => rfl
    | cons j items ih => rw [write.writeItems, ih, List.map_cons]
  rw [write, hitems]

theorem write_object (l : Layout) (fields : List (String × Json)) :
    write l (.object fields) = bracketed l '\x7b' '\x7d' (fields.map (fieldText (deeper l))) := by
  have hfields : ∀ l, write.writeFields l fields = fields.map (fieldText l) := by
    intro l
    induction fields with
    | nil => rfl
    | cons f fields ih =>
      rw [write.writeFields, ih, List.map_cons]
      rfl
  rw [write, hfields]

/-- What the text of a value begins with. -/
def opening : Json → Char
  | .string _ => '"'
  | .array _ => '['
  | .object _ => '\x7b'

theorem write_begins (l : Layout) (j : Json) : ∃ text, write l j = opening j :: text := by
  have hbracketed : ∀ first last items, ∃ text, bracketed l first last items = first :: text := by
    intro first last items
    cases items with
    | nil => exact ⟨_, rfl⟩
    | cons item items => exact ⟨_, bracketed_cons l first last item items⟩
  cases j with
  | string s => exact ⟨_, rfl⟩
  | array items =>
    rw [write_array]
    exact hbracketed '[' ']' _
  | object fields =>
    rw [write_object]
    exact hbracketed '\x7b' '\x7d' _

theorem opening_eq {l : Layout} {j j' : Json} {rest rest' : List Char} (h : write l j ++ rest = write l j' ++ rest') :
    opening j = opening j' := by
  obtain ⟨text, htext⟩ := write_begins l j
  obtain ⟨text', htext'⟩ := write_begins l j'
  rw [htext, htext'] at h
  exact (List.cons.inj h).1

theorem write_ne_closing (l : Layout) (j : Json) (x y : List Char) : write l j ++ x ≠ ']' :: y := by
  obtain ⟨text, htext⟩ := write_begins l j
  rw [htext]
  intro h
  have hopening : opening j = ']' := (List.cons.inj h).1
  cases j with
  | string s => exact absurd hopening (by decide : '"' ≠ ']')
  | array items => exact absurd hopening (by decide : '[' ≠ ']')
  | object fields => exact absurd hopening (by decide : '\x7b' ≠ ']')

theorem fieldText_ne_closing (l : Layout) (f : String × Json) (x y : List Char) : fieldText l f ++ x ≠ '\x7d' :: y :=
  fun h => absurd (List.cons.inj h).1 (by decide)

theorem fieldText_endsItself {l : Layout} {f : String × Json} (h : EndsItself (write l) f.2) :
    EndsItself (fieldText l) f := by
  intro f' rest rest' heq
  simp only [fieldText, List.append_assoc] at heq
  obtain ⟨hkey, hvalue⟩ := quotedText_endsItself f.1 f'.1 _ _ heq
  obtain ⟨hjson, hrest⟩ := h f'.2 _ _ (List.append_cancel_left hvalue)
  exact ⟨Prod.ext hkey hjson, hrest⟩

/-- The text of a value ends itself, over several lines or on one. -/
theorem write_endsItself (l : Layout) (j : Json) : EndsItself (write l) j := by
  induction j using induct generalizing l with
  | string s =>
    intro j' rest rest' heq
    have hopening := opening_eq heq
    cases j' with
    | string s' =>
      obtain ⟨rfl, hrest⟩ := quotedText_endsItself s s' rest rest' heq
      exact ⟨rfl, hrest⟩
    | array items => exact absurd hopening (by decide : '"' ≠ '[')
    | object fields => exact absurd hopening (by decide : '"' ≠ '\x7b')
  | array items ih =>
    intro j' rest rest' heq
    have hopening := opening_eq heq
    cases j' with
    | string s => exact absurd hopening (by decide : '[' ≠ '"')
    | array items' =>
      rw [write_array, write_array] at heq
      obtain ⟨rfl, hrest⟩ := bracketed_inj (by decide) (by decide) (write_ne_closing _) (fun j hj => ih j hj _) heq
      exact ⟨rfl, hrest⟩
    | object fields => exact absurd hopening (by decide : '[' ≠ '\x7b')
  | object fields ih =>
    intro j' rest rest' heq
    have hopening := opening_eq heq
    cases j' with
    | string s => exact absurd hopening (by decide : '\x7b' ≠ '"')
    | array items => exact absurd hopening (by decide : '\x7b' ≠ '[')
    | object fields' =>
      rw [write_object, write_object] at heq
      obtain ⟨rfl, hrest⟩ := bracketed_inj (by decide) (by decide) (fieldText_ne_closing _)
        (fun f hf => fieldText_endsItself (ih f hf _)) heq
      exact ⟨rfl, hrest⟩

theorem write_inj {l : Layout} {j j' : Json} : write l j = write l j' ↔ j = j' := by
  constructor
  · intro h
    exact (write_endsItself l j j' [] [] (by rw [h])).1
  · exact congrArg _

/-! ## Outcomes -/

/-- The comments are the lines of them with a line feed between two. -/
theorem intercalate_commentLines (comments : String) : "\n".intercalate (commentLines comments) = comments := by
  have hlines : (commentLines comments).map String.toList = Text.pieces '\n' comments.toList := by
    rw [commentLines, List.map_map]
    exact (List.map_congr_left fun line _ => String.toList_ofList).trans (List.map_id _)
  refine String.toList_inj.mp ?_
  rw [String.toList_intercalate, hlines]
  exact Text.glue_pieces '\n' comments.toList

theorem ofOutcome_inj {o o' : Outcome} (h : ofOutcome o = ofOutcome o') : o = o' := by
  cases o with
  | ok =>
    cases o' with
    | ok => rfl
    | skipped extension => simp [ofOutcome] at h
    | issues comments => simp [ofOutcome] at h
  | skipped extension =>
    cases o' with
    | ok => simp [ofOutcome] at h
    | skipped extension' => simpa [ofOutcome] using h
    | issues comments => simp [ofOutcome] at h
  | issues comments =>
    cases o' with
    | ok => simp [ofOutcome] at h
    | skipped extension => simp [ofOutcome] at h
    | issues comments' =>
      have hlines : (commentLines comments).map string = (commentLines comments').map string := by
        simpa [ofOutcome] using h
      have hsame := (List.map_inj_right fun _ _ => string.inj).mp hlines
      rw [← intercalate_commentLines comments, hsame, intercalate_commentLines]

end Json

/-! ## Reports -/

/-- The outcome that counts for a path is that of its last report. -/
def outcome? (reports : List Entry) (path : String) : Option Outcome :=
  (reports.reverse.find? (·.path == path)).map (·.outcome)

theorem outcome?_eq_some_iff {reports : List Entry} {path : String} {outcome : Outcome} :
    outcome? reports path = some outcome ↔ Last reports ⟨path, outcome⟩ := by
  constructor
  · intro h
    obtain ⟨r, hr, rfl⟩ := Option.map_eq_some_iff.mp h
    obtain ⟨hpath, after, before, hreports, hafter⟩ := List.find?_eq_some_iff_append.mp hr
    obtain rfl : r.path = path := by simpa using hpath
    refine ⟨before.reverse, after.reverse, ?_, fun r' hr' => by simpa using hafter r' (List.mem_reverse.mp hr')⟩
    rw [← List.reverse_reverse reports, hreports]
    simp
  · intro h
    obtain ⟨before, after, rfl, hafter⟩ := h
    refine Option.map_eq_some_iff.mpr ⟨⟨path, outcome⟩, ?_, rfl⟩
    refine List.find?_eq_some_iff_append.mpr ⟨beq_self_eq_true path, after.reverse, before.reverse, by simp, ?_⟩
    intro r' hr'
    simpa using hafter r' (List.mem_reverse.mp hr')

/-- When the paths are all different, each report is the last of its path. -/
theorem last_iff_mem {reports : List Entry} (h : (reports.map (·.path)).Nodup) {r : Entry} :
    Last reports r ↔ r ∈ reports := by
  rw [← mem_byPath_iff, (perm_byPath_iff.mpr h).mem_iff, List.mem_map]
  constructor
  · intro hmem
    obtain ⟨r', hr', heq⟩ := hmem
    cases r'
    cases heq
    exact hr'
  · intro hmem
    exact ⟨r, hmem, rfl⟩

/-- The text tells which report is the last of each path, and nothing else. -/
theorem json_eq_iff_last {pretty : Bool} {reports reports' : List Entry} :
    json pretty reports = json pretty reports' ↔ ∀ r, Last reports r ↔ Last reports' r := by
  have hreports : Json.ofReports reports = Json.ofReports reports' ↔ byPath reports = byPath reports' := by
    constructor
    · intro h
      refine (List.map_inj_right fun e e' heq => ?_).mp (Json.object.inj h)
      obtain ⟨hpath, houtcome⟩ := Prod.mk.inj heq
      exact Prod.ext hpath (Json.ofOutcome_inj houtcome)
    · intro h
      rw [Json.ofReports, Json.ofReports, h]
  rw [json, json, String.ofList_inj, Json.write_inj, hreports]
  constructor
  · intro h r
    rw [← mem_byPath_iff, ← mem_byPath_iff, h]
  · intro h
    exact (increasing_byPath reports).ext (increasing_byPath reports') fun e => by
      rw [mem_byPath_iff, mem_byPath_iff, h]

theorem json_eq_iff_outcome? {pretty : Bool} {reports reports' : List Entry} :
    json pretty reports = json pretty reports' ↔ ∀ path, outcome? reports path = outcome? reports' path := by
  rw [json_eq_iff_last]
  constructor
  · intro h path
    refine Option.ext fun outcome => ?_
    rw [outcome?_eq_some_iff, outcome?_eq_some_iff, h]
  · intro h r
    rw [← outcome?_eq_some_iff, ← outcome?_eq_some_iff, h]

/-- Two lists of reports have one text, on one line as over several, exactly if the same outcome counts for each path in both.
So it does not matter how the reports of one path stand between those of others, and not in which order they stand when all
paths are different. No two outcomes have one text, and the comments of one are the lines in its array, with a line feed
between two. -/
theorem json_eq_json_iff (pretty : Bool) (reports reports' : List Entry) :
    (json pretty reports = json pretty reports' ↔ ∀ path, outcome? reports path = outcome? reports' path) ∧
    ((∀ path, reports.filter (·.path == path) = reports'.filter (·.path == path)) →
      json pretty reports = json pretty reports') ∧
    (reports.Perm reports' → (reports.map (·.path)).Nodup → json pretty reports = json pretty reports') ∧
    (∀ l o o', (Json.ofOutcome o).write l = (Json.ofOutcome o').write l ↔ o = o') ∧
    ∀ comments, ∃ ls : List String, "\n".intercalate ls = comments ∧
      Json.ofOutcome (.issues comments) = .object [("comments", .array (ls.map .string)), ("status", .string "issues")] := by
  refine ⟨json_eq_iff_outcome?, fun hpaths => ?_, fun hperm hnodup => ?_, fun l o o' => ?_, fun comments => ?_⟩
  · refine json_eq_iff_outcome?.mpr fun path => ?_
    rw [outcome?, outcome?, ← List.head?_filter, ← List.head?_filter, List.filter_reverse, List.filter_reverse, hpaths]
  · have hnodup' := (hperm.map (·.path)).nodup_iff.mp hnodup
    refine json_eq_iff_last.mpr fun r => ?_
    rw [last_iff_mem hnodup, last_iff_mem hnodup', hperm.mem_iff]
  · rw [Json.write_inj]
    exact ⟨Json.ofOutcome_inj, congrArg _⟩
  · exact ⟨commentLines comments, Json.intercalate_commentLines comments, rfl⟩

end DeltaLint.Report

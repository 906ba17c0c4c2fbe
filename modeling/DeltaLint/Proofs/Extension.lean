import DeltaLint.Proofs.Linting
import DeltaLint.Proofs.Path
import Mathlib.Data.List.Basic

/-
  DeltaLint.Proofs.Extension — the extension of a file, as the text of its path has it.

  A path ends in the name of a file when what stands before the name is empty or ends in a slash
  (`IsParent`), and what follows it is idle: slashes, and single dots after them (`IsIdleEnd`). The
  extension is what the name has from its last dot on, if that is not its first character. So an
  extension has one dot and no slash, and linters that are only listed under others are not run.

  Proved:
  - `idle_or_ends`: a path is idle, or has a last segment that is not.
  - `extension_eq_iff`: the extension of a path is read off what it ends in (`HasExtension`).
  - `extension_from_last_dot`: the extensions of all paths, and the linters that are started on none.
-/

namespace DeltaLint

namespace Path

/-! ## What a path ends in -/

/-- The text can stand before a name. -/
def IsParent (text : List Char) : Prop := text = [] ∨ text.getLast? = some '/'

/-- The text can stand after a name and changes nothing. -/
inductive IsIdleEnd : List Char → Prop
  | none : IsIdleEnd []
  | slash {text : List Char} (h : IsIdleEnd text) : IsIdleEnd ('/' :: text)
  | dot {text : List Char} (h : IsIdleEnd text) : IsIdleEnd ('/' :: '.' :: text)

/-- All segments after the first are idle. -/
theorem segments_append_idleEnd {u text : List Char} (hu : '/' ∉ u) (h : IsIdleEnd text) :
    ∃ ss, segments (u ++ text) = u :: ss ∧ ∀ s ∈ ss, isIdle s = true := by
  induction h generalizing u with
  | none => exact ⟨[], by rw [List.append_nil, segments, Text.pieces_of_not_mem hu], by simp⟩
  | slash _ ih =>
    obtain ⟨ss, hss, hidle⟩ := ih (u := []) (by simp)
    refine ⟨[] :: ss, ?_, List.forall_mem_cons.mpr ⟨rfl, hidle⟩⟩
    rw [segments, Text.pieces_append, Text.pieces_of_not_mem hu]
    exact congrArg _ hss
  | dot _ ih =>
    obtain ⟨ss, hss, hidle⟩ := ih (u := ['.']) (by simp)
    refine ⟨['.'] :: ss, ?_, List.forall_mem_cons.mpr ⟨rfl, hidle⟩⟩
    rw [segments, Text.pieces_append, Text.pieces_of_not_mem hu]
    exact congrArg _ hss

theorem isIdleEnd_flatMap {ss : List (List Char)} (h : ∀ s ∈ ss, isIdle s = true) :
    IsIdleEnd (ss.flatMap ('/' :: ·)) := by
  induction ss with
  | nil => exact .none
  | cons s ss ih =>
    obtain ⟨hs, hss⟩ := List.forall_mem_cons.mp h
    have hcases : s = [] ∨ s = ['.'] := by simpa [isIdle] using hs
    rcases hcases with rfl | rfl
    · exact .slash (ih hss)
    · exact .dot (ih hss)

theorem glue_cons_flatMap (s : List Char) (ss : List (List Char)) :
    Text.glue '/' (s :: ss) = s ++ ss.flatMap ('/' :: ·) := by
  induction ss generalizing s with
  | nil => simp [Text.glue]
  | cons t ss ih =>
    have hsplit := Text.glue_append '/' (List.cons_ne_nil s []) (List.cons_ne_nil t ss)
    rw [List.singleton_append, ih t] at hsplit
    rw [hsplit]
    simp [Text.glue]

/-- The last component of a path is that of the segment after which all are idle. -/
theorem getLast?_components {d name tail : List Char} (hd : IsParent d) (hname : '/' ∉ name)
    (hidle : isIdle name = false) (htail : IsIdleEnd tail) :
    (components (d ++ name ++ tail)).getLast? = some (component name) := by
  obtain ⟨ss, hss, hrest⟩ := segments_append_idleEnd hname htail
  have hlast : names (segments (name ++ tail)) = [component name] := by
    rw [hss, names_cons hidle, names_of_idle hrest]
  have hbody : ∃ before, body (d ++ name ++ tail) = before ++ [component name] := by
    rcases hd with rfl | hd
    · exact ⟨[], hlast⟩
    · obtain ⟨parent, rfl⟩ := List.getLast?_eq_some_iff.mp hd
      refine ⟨body parent, ?_⟩
      rw [List.append_assoc, List.append_assoc, List.singleton_append, body_append]
      exact congrArg _ hlast
  obtain ⟨before, hbefore⟩ := hbody
  rw [components, hbefore, ← List.append_assoc, List.getLast?_concat]

/-- Of a row the last member with the property has none after it. -/
theorem exists_of_getLast?_filter {α : Type} {p : α → Bool} {as : List α} {a : α}
    (h : (as.filter p).getLast? = some a) :
    ∃ before after, as = before ++ a :: after ∧ p a = true ∧ ∀ b ∈ after, p b = false := by
  obtain ⟨front, hfront⟩ := List.getLast?_eq_some_iff.mp h
  obtain ⟨xs, ys, rfl, -, hys⟩ := List.filter_eq_append_iff.mp hfront
  obtain ⟨between, after, rfl, -, ha, hafter⟩ := List.filter_eq_cons_iff.mp hys
  refine ⟨xs ++ between, after, by simp, ha, ?_⟩
  simpa [List.filter_eq_nil_iff] using hafter

/-- A path is idle as a whole, or it has a last segment that is not. -/
theorem idle_or_ends (path : List Char) :
    (∃ s tail, path = s ++ tail ∧ isIdle s = true ∧ IsIdleEnd tail) ∨
      ∃ d name tail, path = d ++ name ++ tail ∧ IsParent d ∧ '/' ∉ name ∧ isIdle name = false ∧ IsIdleEnd tail := by
  have hpath := Text.glue_pieces '/' path
  rw [← segments] at hpath
  cases hlast : ((segments path).filter (!isIdle ·)).getLast? with
  | none =>
    have hidle : ∀ s ∈ segments path, isIdle s = true := by
      simpa [List.filter_eq_nil_iff] using List.getLast?_eq_none_iff.mp hlast
    obtain ⟨s, ss, hsegments⟩ := List.exists_cons_of_ne_nil (Text.pieces_ne_nil '/' path)
    change segments path = s :: ss at hsegments
    rw [hsegments] at hpath hidle
    rw [glue_cons_flatMap] at hpath
    obtain ⟨hs, hss⟩ := List.forall_mem_cons.mp hidle
    exact Or.inl ⟨s, _, hpath.symm, hs, isIdleEnd_flatMap hss⟩
  | some name =>
    obtain ⟨before, after, hsegments, hname, hafter⟩ := exists_of_getLast?_filter hlast
    have hmem : name ∈ segments path := by
      rw [hsegments]
      simp
    have hslash := not_mem_segments hmem
    have htail : IsIdleEnd (after.flatMap ('/' :: ·)) := isIdleEnd_flatMap fun s hs => by simpa using hafter s hs
    have hidle : isIdle name = false := by simpa using hname
    rw [hsegments] at hpath
    cases before with
    | nil =>
      rw [List.nil_append, glue_cons_flatMap] at hpath
      exact Or.inr ⟨[], name, _, hpath.symm, Or.inl rfl, hslash, hidle, htail⟩
    | cons b before =>
      rw [Text.glue_append '/' (List.cons_ne_nil b before) (List.cons_ne_nil name after),
        glue_cons_flatMap name after] at hpath
      refine Or.inr ⟨Text.glue '/' (b :: before) ++ ['/'], name, _, ?_, Or.inr (by simp), hslash, hidle, htail⟩
      rw [← hpath]
      simp

/-! ## The names of files -/

theorem fileName?_of_isName {d name tail : List Char} (hd : IsParent d) (hname : IsName name) (htail : IsIdleEnd tail) :
    fileName? (d ++ name ++ tail) = some name := by
  rw [fileName?, getLast?_components hd hname.no_slash hname.not_idle htail, component, if_neg hname.not_parent]

theorem fileName?_parent {d tail : List Char} (hd : IsParent d) (htail : IsIdleEnd tail) :
    fileName? (d ++ ['.', '.'] ++ tail) = none := by
  rw [fileName?, getLast?_components hd (by decide) (by decide) htail]
  rfl

theorem fileName?_idle {s tail : List Char} (hs : isIdle s = true) (htail : IsIdleEnd tail) :
    fileName? (s ++ tail) = none := by
  have hslash : '/' ∉ s := by
    have hcases : s = [] ∨ s = ['.'] := by simpa [isIdle] using hs
    rcases hcases with rfl | rfl
    · decide
    · decide
  obtain ⟨ss, hsegments, hidle⟩ := segments_append_idleEnd hslash htail
  have hbody : body (s ++ tail) = [] := by
    show names (segments (s ++ tail)) = []
    rw [hsegments]
    exact names_of_idle (List.forall_mem_cons.mpr ⟨hs, hidle⟩)
  -- What a path begins with is no name.
  rw [fileName?, components, hbody, List.append_nil, start]
  split_ifs
  · rfl
  · rfl
  · rfl

/-- The extension of a name: what it has from its last dot on, if that is not its first character. -/
inductive Extends : List Char → List Char → Prop
  | last {stem ext : List Char} (hstem : stem ≠ []) (hext : '.' ∉ ext) : Extends (stem ++ '.' :: ext) ('.' :: ext)
  | hidden {rest : List Char} (hrest : '.' ∉ rest) : Extends ('.' :: rest) []
  | plain {name : List Char} (hname : '.' ∉ name) : Extends name []

theorem exists_extends (name : List Char) : ∃ ext, Extends name ext := by
  by_cases hdot : '.' ∈ name
  · obtain ⟨rest, stem, hname, hrest⟩ := List.eq_append_cons_of_mem (List.mem_reverse.mpr hdot)
    have hsplit : name = stem.reverse ++ '.' :: rest.reverse := by
      rw [← List.reverse_reverse name, hname]
      simp
    have hext : '.' ∉ rest.reverse := fun hmem => hrest (List.mem_reverse.mp hmem)
    rw [hsplit]
    by_cases hstem : stem.reverse = []
    · rw [hstem]
      exact ⟨[], .hidden hext⟩
    · exact ⟨_, .last hstem hext⟩
  · exact ⟨[], .plain hdot⟩

theorem extension_of_fileName? {path : String} {name ext : List Char} (hname : fileName? path.toList = some name)
    (h : Extends name ext) : (extension path).toList = ext := by
  have hall : ∀ {tail : List Char}, '.' ∉ tail → ∀ c ∈ tail.reverse, (c != '.') = true := by
    intro tail htail c hc
    rw [bne_iff_ne]
    rintro rfl
    exact htail (List.mem_reverse.mp hc)
  have htake : ∀ (stem : List Char) {tail : List Char}, '.' ∉ tail →
      ((stem ++ '.' :: tail).reverse.takeWhile (· != '.')).reverse = tail := by
    intro stem tail htail
    rw [List.reverse_append, List.reverse_cons, List.append_assoc, List.takeWhile_append_of_pos (hall htail)]
    simp
  simp only [extension, hname]
  cases h with
  | last hstem hext =>
    have hlength := List.length_pos_iff.mpr hstem
    rw [htake _ hext, if_pos (by rw [List.length_append, List.length_cons]; omega), String.toList_ofList]
  | hidden hrest =>
    have htail := htake [] hrest
    rw [List.nil_append] at htail
    rw [htail, if_neg (by simp)]
    rfl
  | plain hplain =>
    rw [List.takeWhile_eq_self_iff.mpr (hall hplain), List.reverse_reverse, if_neg (by omega)]
    rfl

theorem extension_of_no_fileName {path : String} (h : fileName? path.toList = none) : extension path = "" := by
  simp only [extension, h]

/-! ## The extension of a path -/

/-- The extension of a path, by what it ends in. -/
inductive HasExtension : List Char → List Char → Prop
  | name {d name tail ext : List Char} (hd : IsParent d) (hname : IsName name) (htail : IsIdleEnd tail)
      (hext : Extends name ext) : HasExtension (d ++ name ++ tail) ext
  | parent {d tail : List Char} (hd : IsParent d) (htail : IsIdleEnd tail) : HasExtension (d ++ ['.', '.'] ++ tail) []
  /-- No path at all, a single dot or the root. -/
  | idle {s tail : List Char} (hs : isIdle s = true) (htail : IsIdleEnd tail) : HasExtension (s ++ tail) []

theorem exists_hasExtension (path : List Char) : ∃ ext, HasExtension path ext := by
  rcases idle_or_ends path with ⟨s, tail, rfl, hs, htail⟩ | ⟨d, name, tail, rfl, hd, hslash, hidle, htail⟩
  · exact ⟨[], .idle hs htail⟩
  · by_cases hparent : name = ['.', '.']
    · subst hparent
      exact ⟨[], .parent hd htail⟩
    · obtain ⟨ext, hext⟩ := exists_extends name
      exact ⟨ext, .name hd ⟨hslash, hidle, hparent⟩ htail hext⟩

theorem HasExtension.extension_eq {path : String} {ext : List Char} (h : HasExtension path.toList ext) :
    (extension path).toList = ext := by
  generalize hp : path.toList = p at h
  cases h with
  | name hd hname htail hext => exact extension_of_fileName? (hp ▸ fileName?_of_isName hd hname htail) hext
  | parent hd htail => rw [extension_of_no_fileName (hp ▸ fileName?_parent hd htail)]; rfl
  | idle hs htail => rw [extension_of_no_fileName (hp ▸ fileName?_idle hs htail)]; rfl

theorem extension_eq_iff {path ext : String} : extension path = ext ↔ HasExtension path.toList ext.toList := by
  constructor
  · rintro rfl
    obtain ⟨ext, hext⟩ := exists_hasExtension path.toList
    rwa [hext.extension_eq]
  · intro h
    exact String.toList_inj.mp h.extension_eq

/-- An extension is empty, or a dot and then what has neither dots nor slashes. -/
theorem HasExtension.shape {path ext : List Char} (h : HasExtension path ext) :
    ext = [] ∨ ∃ rest, '.' ∉ rest ∧ '/' ∉ rest ∧ ext = '.' :: rest := by
  cases h with
  | name hd hname htail hext =>
    cases hext with
    | @last stem rest hstem hrest =>
      refine Or.inr ⟨rest, hrest, fun hslash => hname.no_slash ?_, rfl⟩
      exact List.mem_append_right _ (List.mem_cons_of_mem _ hslash)
    | hidden hrest => exact Or.inl rfl
    | plain hplain => exact Or.inl rfl
  | parent hd htail => exact Or.inl rfl
  | idle hs htail => exact Or.inl rfl

theorem extension_shape (path : String) : (extension path).toList = [] ∨
    ∃ rest, '.' ∉ rest ∧ '/' ∉ rest ∧ (extension path).toList = '.' :: rest := (extension_eq_iff.mp rfl).shape

/-- The linter stands under no extension but such as have a slash or more than one dot. -/
def Misplaced (registry : Registry) (l : Linter) : Prop :=
  ∀ extension ls, registry.get? extension = some ls → l ∈ ls →
    '/' ∈ extension.toList ∨ 2 ≤ extension.toList.count '.'

theorem Misplaced.not_mem {registry : Registry} {l : Linter} (h : Misplaced registry l) (path : String) :
    l ∉ (registry.get? (extension path)).getD [] := by
  intro hmem
  cases hget : registry.get? (extension path) with
  | none =>
    rw [hget] at hmem
    cases hmem
  | some ls =>
    rw [hget] at hmem
    have hodd := h _ _ hget hmem
    rcases extension_shape path with hempty | ⟨rest, hdot, hslash, hext⟩
    · simp [hempty] at hodd
    · rw [hext] at hodd
      rcases hodd with hodd | hodd
      · simp [hslash] at hodd
      · simp [List.count_eq_zero_of_not_mem hdot] at hodd

/-- A name without a dot but for one that begins it has no extension. -/
theorem extends_nil_of {name : String}
    (h : '.' ∉ name.toList ∨ ∃ rest : String, '.' ∉ rest.toList ∧ name = "." ++ rest) : Extends name.toList [] := by
  rcases h with hplain | ⟨rest, hrest, rfl⟩
  · exact .plain hplain
  · have hhidden := Extends.hidden hrest
    simpa using hhidden

/-- The extension of a path is what its last name has from the last dot on, as it is written. A path that ends in a
stem, a dot and a text without dots, with nothing after them but slashes and single dots, has the dot and the text for
its extension; one that ends in a name without a dot, or with one at its beginning alone, or in two dots has the empty
one, and so has one without a name. No extension has a second dot or a slash, and a linter that stands only under such
is started on no file. -/
theorem extension_from_last_dot :
    (∀ path ext : String, extension path = ext ↔ HasExtension path.toList ext.toList) ∧
    (∀ d stem ext tail : String, IsParent d.toList → stem ≠ "" → '/' ∉ stem.toList → '.' ∉ ext.toList →
      '/' ∉ ext.toList → IsIdleEnd tail.toList → stem ++ "." ++ ext ≠ ".." →
      extension (d ++ (stem ++ "." ++ ext) ++ tail) = "." ++ ext) ∧
    (∀ d name tail : String, IsParent d.toList → name ≠ "" → name ≠ "." → '/' ∉ name.toList → IsIdleEnd tail.toList →
      ('.' ∉ name.toList ∨ ∃ rest : String, '.' ∉ rest.toList ∧ name = "." ++ rest) ∨ name = ".." →
      extension (d ++ name ++ tail) = "") ∧
    (∀ tail : String, IsIdleEnd tail.toList → extension tail = "" ∧ extension ("." ++ tail) = "") ∧
    (∀ path, extension path = "" ∨ ∃ ext : String, '.' ∉ ext.toList ∧ '/' ∉ ext.toList ∧ extension path = "." ++ ext) ∧
    ∀ (registry : Registry) (l : Linter), Misplaced registry l →
      ∀ {σ : Type} (host : Host σ) (file : String) (lines : Option (List Nat)) (s s' : Session σ)
        (r : Except Failure Outcome), Job.Ends (lint host registry file lines) s r s' →
        ∃ started, started <+: (registry.get? (extension file)).getD [] ∧ l ∉ started ∧
          s'.events = (started.map (·.start file)).reverse ++ s.events := by
  refine ⟨fun path ext => extension_eq_iff, ?dotted, ?bare, ?unnamed, ?shape, ?lint⟩
  case dotted =>
    intro d stem ext tail hd hstem hstemslash hdot hslash htail hparent
    have hname : IsName (stem.toList ++ '.' :: ext.toList) := by
      refine ⟨by simp [hstemslash, hslash], ?_, fun heq => hparent (String.toList_inj.mp (by simpa using heq))⟩
      obtain ⟨c, cs, hcs⟩ := List.exists_cons_of_ne_nil fun hnil => hstem (String.toList_eq_nil_iff.mp hnil)
      rw [hcs]
      simp [isIdle]
    have hext : Extends (stem.toList ++ '.' :: ext.toList) ('.' :: ext.toList) :=
      .last (fun hnil => hstem (String.toList_eq_nil_iff.mp hnil)) hdot
    have hpath := HasExtension.name hd hname htail hext
    rw [extension_eq_iff]
    simpa using hpath
  case bare =>
    intro d name tail hd hempty hsole hslash htail hbare
    rw [extension_eq_iff, String.toList_append, String.toList_append]
    by_cases hparent : name = ".."
    · subst hparent
      exact .parent hd htail
    · have hname : IsName name.toList := by
        refine ⟨hslash, ?_, fun heq => hparent (String.toList_inj.mp heq)⟩
        have hdot : name.toList ≠ ['.'] := fun heq => hsole (String.toList_inj.mp heq)
        simp [isIdle, hempty, hdot]
      exact .name hd hname htail (extends_nil_of (hbare.resolve_right hparent))
  case unnamed =>
    intro tail htail
    have hnone : HasExtension ([] ++ tail.toList) [] := .idle rfl htail
    have hdot : HasExtension (['.'] ++ tail.toList) [] := .idle rfl htail
    exact ⟨extension_eq_iff.mpr hnone, extension_eq_iff.mpr (by rwa [String.toList_append])⟩
  case shape =>
    intro path
    rcases extension_shape path with hempty | ⟨rest, hdot, hslash, hext⟩
    · exact Or.inl (String.toList_eq_nil_iff.mp hempty)
    · refine Or.inr ⟨String.ofList rest, by simpa using hdot, by simpa using hslash, String.toList_inj.mp ?_⟩
      simpa using hext
  case lint =>
    intro registry l hl σ host file lines s s' r hends
    obtain ⟨started, hstarted, hevents⟩ := lint_started hends
    exact ⟨started, hstarted, fun hmem => hl.not_mem file (hstarted.subset hmem), hevents⟩

example : extension "src.d/./archive.tar.gz/." = ".gz" := by decide +kernel

end Path

end DeltaLint

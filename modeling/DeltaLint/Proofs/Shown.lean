import DeltaLint.Proofs.Decoding
import DeltaLint.Proofs.Named
import DeltaLint.Proofs.Path.Bytes

/-
  DeltaLint.Proofs.Shown — when the path that is shown says which file it is.

  A path is bytes. It is shown as what is left of it after the directory of the reader, or else as it is,
  both as text: where that is no UTF-8, U+FFFD stands for what is lost (`decode_left`). What is left is a relative
  path whose first component is a name or goes up, so the directory and what is shown give the file again exactly
  if what is left is text (`joined_iff`). Only components count: whether anything is left and which components it has
  is the same however many slashes part them, and a directory is no part of another one that merely begins with the
  same letters.

  Proved:
  - `leftBytes_cases`: what is left has the components that the directory has not, or is the path.
  - `body_spread_decode_iff`: the components outlive decoding exactly if all bytes are text.
  - `joined_iff`: in the directory, what is shown stands for the file exactly if what is left is text.
  - `shown_identifies`: all of this, and that no two files whose paths are text without backslashes are shown alike.
  - `stray_files_shown_alike`: two files whose names are no text are.
-/

namespace DeltaLint

open Text

/-! ## Bytes that are text -/

/-- The bytes are those of a text. -/
def Text.Utf8.IsText (bytes : List UInt8) : Prop := ∃ text, bytes = encode text

theorem Text.Utf8.isText_iff {bytes : List UInt8} : IsText bytes ↔ encode (decode bytes) = bytes := by
  constructor
  · rintro ⟨text, rfl⟩
    rw [decode_encode]
  · exact fun h => ⟨_, h.symm⟩

namespace Path

variable {path base : List UInt8}

/-- The components of a path. -/
def parts (path : List UInt8) : List Component := components (ofBytes path).toList

/-- The components of what a name stands for in a directory. -/
def partsIn (base name : List UInt8) : List Component := components (join (ofBytes base) (ofBytes name)).toList

theorem toList_ofBytes (path : List UInt8) : (ofBytes path).toList = Text.ofBytes path := String.toList_ofList

theorem isAbsolute_ofBytes_iff : isAbsolute (ofBytes path).toList = true ↔ path.head? = some 0x2F := by
  rw [toList_ofBytes]
  cases path with
  | nil => simp [Text.ofBytes, isAbsolute]
  | cons b path =>
    have hslash : Char.ofNat b.toNat = '/' ↔ b = 0x2F := char_injective.eq_iff' rfl
    simp [Text.ofBytes, isAbsolute, hslash]

/-! ## What is left -/

theorem parts_ne_nil (h : base.head? = some 0x2F) : parts base ≠ [] := by
  rw [parts, components_of_isAbsolute (isAbsolute_ofBytes_iff.mpr h)]
  exact List.cons_ne_nil _ _

theorem relative?_isSome_iff {path base : String} :
    (relative? path base).isSome = true ↔ components base.toList <+: components path.toList := by
  rw [relative?_eq, ← List.isPrefixOf_iff_prefix]
  split
  · rename_i hbelow
    simp [hbelow]
  · rename_i hbelow
    simp [hbelow]

/-- What is left begins with a name or goes up. -/
theorem components_left {path base left : String} (h : isAbsolute path.toList = true) (hbase : components base.toList ≠ [])
    (hleft : relative? path base = some left) : components left.toList = body left.toList := by
  rw [relative?_of_isAbsolute h, if_neg (fun hempty => hbase (List.isEmpty_iff.mp hempty))] at hleft
  split at hleft
  · obtain rfl := Option.some.inj hleft
    rw [String.toList_ofList, components_glue not_mem_left head_left]
    exact (names_segments_glue not_mem_left).symm
  · cases hleft

/-- What is left are bytes of the path. -/
theorem ofBytes_leftBytes {left : String} (h : path.head? = some 0x2F)
    (hleft : relative? (ofBytes path) (ofBytes base) = some left) : ofBytes (leftBytes path base) = left := by
  have hbytes : ∀ c ∈ left.toList, c.toNat < 256 := by
    intro c hc
    by_cases hslash : c = '/'
    · rw [hslash]
      decide
    · have hmem := mem_of_mem_relative (isAbsolute_ofBytes_iff.mpr h) hleft hc hslash
      rw [toList_ofBytes] at hmem
      exact lt_of_mem_ofBytes hmem
  rw [leftBytes, hleft, ofBytes]
  show String.ofList (Text.ofBytes (toBytes left.toList)) = left
  rw [ofBytes_toBytes hbytes, String.ofList_toList]

/-- What is left has the components that the directory has not, or else is the path. -/
theorem leftBytes_cases (hpath : path.head? = some 0x2F) (hbase : base.head? = some 0x2F) :
    (parts path = parts base ++ parts (leftBytes path base) ∧ (leftBytes path base).head? ≠ some 0x2F ∧
      parts (leftBytes path base) = body (ofBytes (leftBytes path base)).toList) ∨
    (¬parts base <+: parts path ∧ leftBytes path base = path) := by
  have habsolute := isAbsolute_ofBytes_iff.mpr hpath
  cases hleft : relative? (ofBytes path) (ofBytes base) with
  | some left =>
    have hbytes := ofBytes_leftBytes hpath hleft
    have hrelative := isAbsolute_left habsolute (parts_ne_nil hbase) hleft
    rw [← hbytes] at hleft hrelative
    refine Or.inl ⟨components_of_relative habsolute hleft, fun hhead => ?_, components_left habsolute (parts_ne_nil hbase) hleft⟩
    rw [isAbsolute_ofBytes_iff.mpr hhead] at hrelative
    cases hrelative
  | none =>
    refine Or.inr ⟨fun hbelow => ?_, ?_⟩
    · rw [parts, parts, ← relative?_isSome_iff, hleft] at hbelow
      cases hbelow
    · rw [leftBytes, hleft]

theorem isText_leftBytes (h : Utf8.IsText path) (base : List UInt8) : Utf8.IsText (leftBytes path base) := by
  obtain ⟨text, rfl⟩ := h
  obtain ⟨left, hleft⟩ := exists_encoded_left (String.ofList text) base
  rw [encoded, String.toList_ofList] at hleft
  exact ⟨left.toList, hleft⟩

/-! ## What decoding does to components -/

/-- A slash begins the text exactly if it begins the bytes. -/
theorem isAbsolute_decode_iff : isAbsolute (Utf8.decode path) = true ↔ path.head? = some 0x2F := by
  constructor
  · intro h
    have hdecodes : Utf8.Decodes path (Utf8.decode path) := Utf8.decodes_iff.mpr rfl
    generalize Utf8.decode path = text at h hdecodes
    cases hdecodes with
    | done => cases h
    | char c _ =>
      obtain rfl : c = '/' := by simpa [isAbsolute] using h
      rfl
    | broken => cases h
    | stray => cases h
  · intro h
    obtain ⟨rest, rfl⟩ := List.head?_eq_some_iff.mp h
    have hslash : '/'.toNat < 0x80 := by decide
    have hdecode : Utf8.decode (0x2F :: rest) = '/' :: Utf8.decode rest := Utf8.decode_append_ascii hslash [] rest
    rw [hdecode]
    rfl

/-- Text that does not need U+FFFD comes from its own bytes alone. -/
theorem decode_eq_iff {bytes : List UInt8} {text : List Char} (h : '\uFFFD' ∉ text) :
    Utf8.decode bytes = text ↔ bytes = Utf8.encode text := by
  constructor
  · intro hdecode
    have hdecodes : Utf8.Decodes bytes text := Utf8.decodes_iff.mpr hdecode.symm
    clear hdecode
    induction hdecodes with
    | done => rfl
    | char c _ ih => rw [ih (List.not_mem_of_not_mem_cons h), Utf8.encode_cons]
    | broken => exact absurd List.mem_cons_self h
    | stray => exact absurd List.mem_cons_self h
  · rintro rfl
    exact Utf8.decode_encode text

/-- A segment that is idle or goes up is decoded to itself, and no other to it. -/
theorem spread_decode_eq_iff {part : List UInt8} {text : List Char} (h : '\uFFFD' ∉ text) (hascii : spread text = text) :
    spread (Utf8.decode part) = text ↔ Text.ofBytes part = text := by
  have hdecode : spread (Utf8.decode part) = text ↔ Utf8.decode part = text := by
    constructor
    · intro heq
      exact spread_injective (heq.trans hascii.symm)
    · intro heq
      rw [heq, hascii]
  have hbytes : Text.ofBytes part = text ↔ part = Utf8.encode text := by
    constructor
    · intro heq
      exact ofBytes_injective (heq.trans hascii.symm)
    · rintro rfl
      exact hascii
  rw [hdecode, hbytes, decode_eq_iff h]

theorem isIdle_spread_decode (part : List UInt8) : isIdle (spread (Utf8.decode part)) = isIdle (Text.ofBytes part) := by
  have hempty : spread (Utf8.decode part) = [] ↔ Text.ofBytes part = [] := spread_decode_eq_iff (by decide) rfl
  have hdot : spread (Utf8.decode part) = ['.'] ↔ Text.ofBytes part = ['.'] := spread_decode_eq_iff (by decide) rfl
  rw [isIdle, isIdle, Bool.eq_iff_iff]
  simp only [Bool.or_eq_true, beq_iff_eq, hempty, hdot]

/-- An idle segment is text. -/
theorem spread_decode_of_isIdle {part : List UInt8} (h : isIdle (Text.ofBytes part) = true) :
    spread (Utf8.decode part) = Text.ofBytes part := by
  rcases Bool.or_eq_true_iff.mp h with hempty | hdot
  · rw [beq_iff_eq.mp hempty]
    exact (spread_decode_eq_iff (by decide) rfl).mpr (beq_iff_eq.mp hempty)
  · rw [beq_iff_eq.mp hdot]
    exact (spread_decode_eq_iff (by decide) rfl).mpr (beq_iff_eq.mp hdot)

/-- A segment whose component outlives decoding is text. -/
theorem spread_decode_of_component_eq {part : List UInt8}
    (h : component (spread (Utf8.decode part)) = component (Text.ofBytes part)) :
    spread (Utf8.decode part) = Text.ofBytes part := by
  have hparent : spread (Utf8.decode part) = ['.', '.'] ↔ Text.ofBytes part = ['.', '.'] :=
    spread_decode_eq_iff (by decide) rfl
  unfold component at h
  by_cases hgoesUp : Text.ofBytes part = ['.', '.']
  · rw [hgoesUp, hparent, hgoesUp]
  · rw [if_neg hgoesUp, if_neg (hparent.not.mpr hgoesUp)] at h
    exact Component.name.inj h

/-- Segments whose components outlive decoding are text. -/
theorem decoded_of_names_eq {ps : List (List UInt8)}
    (h : names (ps.map fun p => spread (Utf8.decode p)) = names (ps.map Text.ofBytes)) :
    ∀ p ∈ ps, Utf8.encode (Utf8.decode p) = p := by
  intro p hp
  -- It is enough that the characters are the same.
  suffices hsame : spread (Utf8.decode p) = Text.ofBytes p from ofBytes_injective hsame
  induction ps with
  | nil => cases hp
  | cons q ps ih =>
    rw [List.map_cons, List.map_cons] at h
    cases hq : isIdle (Text.ofBytes q) with
    | true =>
      rw [names_cons_idle ((isIdle_spread_decode q).trans hq), names_cons_idle hq] at h
      rcases List.mem_cons.mp hp with rfl | hp
      · exact spread_decode_of_isIdle hq
      · exact ih h hp
    | false =>
      rw [names_cons ((isIdle_spread_decode q).trans hq), names_cons hq] at h
      obtain ⟨hfirst, hrest⟩ := List.cons.inj h
      rcases List.mem_cons.mp hp with rfl | hp
      · exact spread_decode_of_component_eq hfirst
      · exact ih hrest hp

/-- The components of a path outlive decoding exactly if all its bytes are text. -/
theorem body_spread_decode_iff (bytes : List UInt8) :
    body (spread (Utf8.decode bytes)) = body (Text.ofBytes bytes) ↔ Utf8.IsText bytes := by
  have hslash : ∀ u v : List UInt8, Text.ofBytes (u ++ 0x2F :: v) = Text.ofBytes u ++ '/' :: Text.ofBytes v := fun u v =>
    List.map_append
  have hread : segments (spread (Utf8.decode bytes)) = (bytes.splitOn 0x2F).map fun p => spread (Utf8.decode p) := by
    rw [segments_spread, segments, Utf8.pieces_decode (by decide) bytes, List.map_map]
    rfl
  have hbytes : segments (Text.ofBytes bytes) = (bytes.splitOn 0x2F).map Text.ofBytes :=
    pieces_splitOn hslash (fun u hu hmem => hu (mem_ofBytes_iff.mp hmem)) bytes
  rw [Utf8.isText_iff]
  constructor
  · intro h
    have hall : ∀ p ∈ bytes.splitOn 0x2F, Utf8.encode (Utf8.decode p) = p := by
      refine decoded_of_names_eq ?_
      rw [← hread, ← hbytes]
      exact h
    have hsame : segments (spread (Utf8.decode bytes)) = segments (Text.ofBytes bytes) := by
      rw [hread, hbytes]
      exact List.map_congr_left fun p hp => congrArg Text.ofBytes (hall p hp)
    have hglued : spread (Utf8.decode bytes) = Text.ofBytes bytes := by
      rw [← glue_pieces '/' (spread (Utf8.decode bytes)), ← glue_pieces '/' (Text.ofBytes bytes)]
      exact congrArg (glue '/') hsame
    exact ofBytes_injective hglued
  · intro h
    rw [spread, h]

/-! ## What is shown -/

/-- The path begins with a slash and holds no backslash. -/
structure PlainBytes (path : List UInt8) : Prop where
  absolute : path.head? = some 0x2F
  no_backslash : 0x5C ∉ path

/-- Without backslashes what is left is shown as text, and nothing else is done to it. -/
theorem decode_left (hpath : PlainBytes path) (base : List UInt8) :
    (shownBytes path base).toList = Utf8.decode (leftBytes path base) := by
  have hback : 0x5C ∉ leftBytes path base := by
    cases hleft : relative? (ofBytes path) (ofBytes base) with
    | none =>
      rw [leftBytes, hleft]
      exact hpath.no_backslash
    | some left =>
      intro hmem
      have hchar : '\\' ∈ left.toList := by
        rw [← ofBytes_leftBytes hpath.absolute hleft, toList_ofBytes]
        exact mem_ofBytes_iff.mpr hmem
      have hin := mem_of_mem_relative (isAbsolute_ofBytes_iff.mpr hpath.absolute) hleft hchar (by decide)
      rw [toList_ofBytes] at hin
      exact hpath.no_backslash (mem_ofBytes_iff.mp hin)
  rw [shownBytes, normalizeBytes, map_eq_self (Utf8.not_mem_decode (by decide) hback), String.toList_ofList]

/-- A relative path is shown exactly for files below the directory. -/
theorem isAbsolute_shownBytes_iff (hpath : PlainBytes path) (hbase : base.head? = some 0x2F) :
    isAbsolute (shownBytes path base).toList = false ↔ parts base <+: parts path := by
  rw [decode_left hpath, ← Bool.not_eq_true, isAbsolute_decode_iff]
  rcases leftBytes_cases hpath.absolute hbase with ⟨hsplit, hrelative, -⟩ | ⟨helsewhere, hleft⟩
  · exact iff_of_true hrelative ⟨_, hsplit.symm⟩
  · rw [hleft]
    exact iff_of_false (not_not_intro hpath.absolute) helsewhere

theorem toList_ofBytes_shown (hpath : PlainBytes path) (base : List UInt8) :
    (ofBytes (encoded (shownBytes path base))).toList = spread (Utf8.decode (leftBytes path base)) := by
  rw [toList_ofBytes_encoded, decode_left hpath]

/-- In the directory, what is shown stands for the file exactly if what is left is text. -/
theorem joined_iff (hpath : PlainBytes path) (hbase : base.head? = some 0x2F) :
    partsIn base (encoded (shownBytes path base)) = parts path ↔ Utf8.IsText (leftBytes path base) := by
  have hshown := toList_ofBytes_shown hpath base
  have hshownBytes : isAbsolute (ofBytes (encoded (shownBytes path base))).toList = true ↔
      (leftBytes path base).head? = some 0x2F := by
    rw [hshown, isAbsolute_spread, isAbsolute_decode_iff]
  rw [← body_spread_decode_iff, partsIn]
  rcases leftBytes_cases hpath.absolute hbase with ⟨hsplit, hrelative, hbody⟩ | ⟨-, hleft⟩
  · have hname : isAbsolute (ofBytes (encoded (shownBytes path base))).toList = false := by
      rw [← Bool.not_eq_true, hshownBytes]
      exact hrelative
    have hjoined := components_join (isAbsolute_ofBytes_iff.mpr hbase) hname
    rw [hjoined, hshown, hsplit, hbody, toList_ofBytes (leftBytes path base), parts, List.append_cancel_left_eq]
  · have habsolute : isAbsolute (ofBytes (encoded (shownBytes path base))).toList = true := by
      rw [hshownBytes, hleft]
      exact hpath.absolute
    have hpathAbsolute := isAbsolute_ofBytes_iff.mpr hpath.absolute
    rw [join, if_pos habsolute]
    rw [hshown] at habsolute ⊢
    rw [toList_ofBytes] at hpathAbsolute
    rw [parts, toList_ofBytes, components, components, start, start, if_pos habsolute, if_pos hpathAbsolute, hleft,
      List.append_cancel_left_eq]

/-- What is left of a path, or else the path, tells its components. -/
theorem parts_eq_of_leftBytes_eq {other : List UInt8} (hpath : path.head? = some 0x2F) (hother : other.head? = some 0x2F)
    (h : leftBytes path base = leftBytes other base) : parts path = parts other := by
  have hgetD : ∀ {p : List UInt8}, p.head? = some 0x2F →
      (relative? (ofBytes p) (ofBytes base)).getD (ofBytes p) = ofBytes (leftBytes p base) := by
    intro p hp
    cases hleft : relative? (ofBytes p) (ofBytes base) with
    | some left => exact (ofBytes_leftBytes hp hleft).symm
    | none =>
      rw [leftBytes, hleft]
      rfl
  have hsame : (relative? (ofBytes path) (ofBytes base)).getD (ofBytes path) =
      (relative? (ofBytes other) (ofBytes base)).getD (ofBytes other) := by
    rw [hgetD hpath, hgetD hother, h]
  exact components_eq_of_left_eq (isAbsolute_ofBytes_iff.mpr hpath) (isAbsolute_ofBytes_iff.mpr hother) hsame

/-- Paths of which text is left are shown alike only where they have the same components. -/
theorem parts_eq_of_shownBytes_eq {other : List UInt8} (hpath : PlainBytes path) (hother : PlainBytes other)
    (htext : Utf8.IsText (leftBytes path base)) (htextOther : Utf8.IsText (leftBytes other base))
    (h : shownBytes path base = shownBytes other base) : parts path = parts other := by
  have hleft : leftBytes path base = leftBytes other base := by
    rw [← Utf8.isText_iff.mp htext, ← Utf8.isText_iff.mp htextOther, ← decode_left hpath, ← decode_left hother, h]
  exact parts_eq_of_leftBytes_eq hpath.absolute hother.absolute hleft

end Path

/-! ## The files of a run -/

variable {σ : Type} {host : Host σ} {w : σ}

/-- All targets are absolute paths, where what is resolved is and git prints the root as one. -/
theorem isAbsolute_targets {options : Options} {colour : Bool} {p : Plan} {ts : Targets} {s : Session σ}
    (hcanonical : host.CanonicalPaths) (hprints : host.PrintsRoot w)
    (h : (prepare host options colour).runOn w = (.ok (p, ts), s)) : ∀ t ∈ ts, Path.isAbsolute t.1.toList = true := by
  obtain ⟨hoptions, -, htargets⟩ := prepare_ends_ok_iff.mp h
  by_cases hnames : options.files = []
  · obtain ⟨account, es, s₀, s₁, -, -, -, hcovers⟩ := htargets.covers (by rw [hoptions, hnames]) hprints
    exact hcovers.absolute
  · obtain ⟨changed, s₁, -, hlisted⟩ := (prepare_ends_ok h).listed
    intro t ht
    obtain ⟨-, name, -, hresolved⟩ := hlisted.named hnames t ht
    obtain ⟨ss, hpath, -⟩ := hcanonical _ _ _ hresolved
    rw [hpath]
    rfl

/-- What is shown of a plain path in a directory is what is left of it, as text. It is relative exactly where the
components of the directory begin those of the path, and then has the others, so neither more slashes nor names that
begin alike make a difference; elsewhere it is the path. In the directory it stands for a path with the same components
exactly if what is left is UTF-8, so it does wherever the path is UTF-8; and then it is the path itself elsewhere.
Hence no two paths of which UTF-8 is left are shown alike unless they have the same components, and no two files of a
run whose paths, which are text there, hold no backslash. -/
theorem shown_identifies {path base : List UInt8} (hpath : Path.PlainBytes path) (hbase : base.head? = some 0x2F) :
    (Path.isAbsolute (Path.shownBytes path base).toList = false ↔ Path.parts base <+: Path.parts path) ∧
    (Path.partsIn base (Path.encoded (Path.shownBytes path base)) = Path.parts path ↔
      Utf8.IsText (Path.leftBytes path base)) ∧
    (Path.shownBytes path base).toList = Utf8.decode (Path.leftBytes path base) ∧
    (Path.parts base <+: Path.parts path → Path.parts path = Path.parts base ++ Path.parts (Path.leftBytes path base)) ∧
    (¬Path.parts base <+: Path.parts path → Path.leftBytes path base = path) ∧
    (Utf8.IsText path → Utf8.IsText (Path.leftBytes path base) ∧
      (¬Path.parts base <+: Path.parts path → Path.encoded (Path.shownBytes path base) = path)) ∧
    (∀ other, Path.PlainBytes other → Utf8.IsText (Path.leftBytes path base) → Utf8.IsText (Path.leftBytes other base) →
      Path.shownBytes path base = Path.shownBytes other base → Path.parts path = Path.parts other) ∧
    ∀ {σ : Type} {host : Host σ} {w : σ} {options : Options} {colour : Bool} {p : Plan} {ts : Targets} {s : Session σ},
      host.CanonicalPaths → host.PrintsRoot w → (prepare host options colour).runOn w = (.ok (p, ts), s) →
      ts.Pairwise fun t t' => '\\' ∉ t.1.toList → '\\' ∉ t'.1.toList →
        Path.shown t.1 p.directory ≠ Path.shown t'.1 p.directory := by
  have helsewhere : ¬Path.parts base <+: Path.parts path → Path.leftBytes path base = path := by
    intro hnot
    rcases Path.leftBytes_cases hpath.absolute hbase with ⟨hsplit, -, -⟩ | ⟨-, hleft⟩
    · exact absurd ⟨_, hsplit.symm⟩ hnot
    · exact hleft
  refine ⟨Path.isAbsolute_shownBytes_iff hpath hbase, Path.joined_iff hpath hbase, Path.decode_left hpath base,
    fun hbelow => ?_, helsewhere, fun htext => ⟨Path.isText_leftBytes htext base, fun hnot => ?_⟩,
    fun other hother htext htextOther h => Path.parts_eq_of_shownBytes_eq hpath hother htext htextOther h,
    fun {σ host w options colour p ts s} hcanonical hprints h => ?_⟩
  · rcases Path.leftBytes_cases hpath.absolute hbase with ⟨hsplit, -, -⟩ | ⟨hnot, -⟩
    · exact hsplit
    · exact absurd hbelow hnot
  · rw [Path.encoded, Path.decode_left hpath, helsewhere hnot, Utf8.isText_iff.mp htext]
  · obtain ⟨-, -, htargets⟩ := prepare_ends_ok_iff.mp h
    have habsolute := isAbsolute_targets hcanonical hprints h
    refine (Path.shown_apart htargets.increasing p.directory).imp_of_mem fun {t t'} ht ht' hapart hback hback' => ?_
    exact hapart ⟨habsolute t ht, hback⟩ ⟨habsolute t' ht', hback'⟩

theorem linked_printsRoot : linkedHost.PrintsRoot () := by
  have htop : Git.trimmed? (Git.decoded (Text.Utf8.encode "/r\n".toList)) = some "/r" := by decide +kernel
  refine ⟨fun directory reply w' top _ hgit htrimmed => ?_, fun w' top real _ hreal => ?_⟩
  · cases hgit
    cases htop.symm.trans htrimmed
    decide
  · obtain ⟨ss, hpath, -⟩ := linked_canonicalPaths _ _ _ hreal
    rw [hpath]
    rfl

/-- A file in the directory `/r` whose name has a byte that is no text. -/
def strayFile (b : UInt8) : List UInt8 := Path.encoded "/r/" ++ b :: Path.encoded ".py"

theorem strayFile_plain {b : UInt8} (h : b ≠ 0x5C) : Path.PlainBytes (strayFile b) := by
  refine ⟨rfl, ?_⟩
  have hrest : 0x5C ∉ Path.encoded "/r/" ∧ 0x5C ∉ Path.encoded ".py" := by decide
  rw [strayFile, List.mem_append, List.mem_cons, not_or, not_or]
  exact ⟨hrest.1, Ne.symm h, hrest.2⟩

/-- Two files that are shown alike, and what is shown stands for neither of them. -/
theorem stray_files_shown_alike :
    Path.PlainBytes (strayFile 0xFE) ∧ Path.PlainBytes (strayFile 0xFF) ∧
    Path.parts (strayFile 0xFE) ≠ Path.parts (strayFile 0xFF) ∧
    Path.shownBytes (strayFile 0xFE) (Path.encoded "/r") = "\uFFFD.py" ∧
    Path.shownBytes (strayFile 0xFF) (Path.encoded "/r") = "\uFFFD.py" ∧
    Path.partsIn (Path.encoded "/r") (Path.encoded "\uFFFD.py") ≠ Path.parts (strayFile 0xFE) ∧
    Path.partsIn (Path.encoded "/r") (Path.encoded "\uFFFD.py") ≠ Path.parts (strayFile 0xFF) :=
  ⟨strayFile_plain (by decide), strayFile_plain (by decide), by decide +kernel, by decide +kernel, by decide +kernel,
    by decide +kernel, by decide +kernel⟩

/-- Slashes to spare, a directory that another one begins like, a directory whose name is no text, and a run about two
files. -/
theorem shown_identifies_linked :
    (Path.partsIn (Path.encoded "/project/")
        (Path.encoded (Path.shownBytes (Path.encoded "/project//src/./a.py") (Path.encoded "/project/"))) =
      Path.parts (Path.encoded "/project//src/./a.py")) ∧
    Path.encoded (Path.shownBytes (Path.encoded "/project2/a.py") (Path.encoded "/project")) =
      Path.encoded "/project2/a.py" ∧
    (Path.shownBytes (strayFile 0xFE ++ Path.encoded "/a") (strayFile 0xFE) = "a" ∧
      Path.partsIn (strayFile 0xFE) (Path.encoded "a") = Path.parts (strayFile 0xFE ++ Path.encoded "/a")) ∧
    ∃ p ts s, (prepare linkedHost {} false).runOn () = (.ok (p, ts), s) ∧
      (ts.map fun t => Path.shown t.1 p.directory) = ["a.py", "b.py"] ∧
      ts.Pairwise fun t t' => '\\' ∉ t.1.toList → '\\' ∉ t'.1.toList →
        Path.shown t.1 p.directory ≠ Path.shown t'.1 p.directory := by
  have hbelow : Path.PlainBytes (Path.encoded "/project//src/./a.py") := ⟨by decide, by decide⟩
  have hbeside : Path.PlainBytes (Path.encoded "/project2/a.py") := ⟨by decide, by decide⟩
  have hstray : Path.PlainBytes (strayFile 0xFE ++ Path.encoded "/a") := ⟨by decide, by decide⟩
  have hbase : (Path.encoded "/project/").head? = some 0x2F := by decide
  have hbase' : (Path.encoded "/project").head? = some 0x2F := by decide
  have hbaseStray : (strayFile 0xFE).head? = some 0x2F := by decide
  have hshown : Path.shownBytes (strayFile 0xFE ++ Path.encoded "/a") (strayFile 0xFE) = "a" := by decide +kernel
  have hleft : Path.leftBytes (strayFile 0xFE ++ Path.encoded "/a") (strayFile 0xFE) = Utf8.encode ['a'] := by decide +kernel
  obtain ⟨-, hjoined, -, -, -, htext, -, hruns⟩ := shown_identifies hbelow hbase
  obtain ⟨-, -, -, -, -, htext', -, -⟩ := shown_identifies hbeside hbase'
  obtain ⟨-, hjoinedStray, -⟩ := shown_identifies hstray hbaseStray
  rw [hshown] at hjoinedStray
  refine ⟨hjoined.mpr (htext ⟨_, rfl⟩).1, (htext' ⟨_, rfl⟩).2 (by decide +kernel),
    ⟨hshown, hjoinedStray.mpr ⟨['a'], hleft⟩⟩, ?_⟩
  have htargets : ((prepare linkedHost {} false).runOn ()).1.toOption.map
      (fun r => r.2.map fun t => Path.shown t.1 r.1.directory) = some ["a.py", "b.py"] := by decide +kernel
  generalize hend : (prepare linkedHost {} false).runOn () = q at htargets
  rcases q with ⟨e | ⟨p, ts⟩, s⟩
  · cases htargets
  · exact ⟨p, ts, s, rfl, Option.some.inj htargets, hruns linked_canonicalPaths linked_printsRoot hend⟩

end DeltaLint

import DeltaLint.Proofs.Pattern.Hole
import DeltaLint.Proofs.Pattern.Names

/-
  DeltaLint.Proofs.Pattern.EscapeHole — escapes at a hole.

  An escape that reads a number or the name of a property in braces fails at the bar of the sample, so
  the hole is in none. Outside braces it may take the first digit of the hole for its last
  (`escape_near`).
-/

namespace DeltaLint.Pattern

open Unicode

variable {h : Hole}

/-! ## Characters by number -/

theorem isDigit_sixteen {d : Char} (hd : d.isDigit = true) : Text.isDigit 16 d = true :=
  Text.of_isDigit hd (by decide)

theorem hexDigits_near (f : Flags) (n : Nat) (a : List Char) : NearAt h (hexDigits f n) a := by
  induction n generalizing a with
  | zero => exact ReadsAt.of_before fun v _ => rfl
  | succ n ih =>
    cases a with
    | nil =>
      -- The first digit of the hole is taken, and no more can follow it.
      have hfirst : ∀ m, (∀ c ∈ m, isMark c = true) → hexDigits f (n + 1) (h.fill m) =
          hexDigits f n (m ++ h.last :: h.after) >>= fun p => .ok (h.first :: p.1, p.2) := by
        intro m hm
        obtain ⟨c, t, hct, hc⟩ := h.after_first hm
        rw [Hole.fill, hct, hexDigits, isDigit_sixteen h.first_isDigit, Flags.skip_of_isMark hc]
        rfl
      cases n with
      | zero => exact ReadsAt.of_within (x := [h.first]) hfirst
      | succ n =>
        refine ReadsAt.of_error (e := .badHex) ?_
        rw [List.nil_append, Hole.sample, hfirst _ h.sample_isMark]
        rfl
    | cons c a =>
      by_cases hc : Text.isDigit 16 c = true
      · have hnext : ∀ t, hexDigits f (n + 1) (c :: t) =
            hexDigits f n (f.skip t) >>= fun p => (Except.ok (c :: p.1)).map (·, p.2) := by
          intro t
          rw [hexDigits, hc]
          rfl
        have hrest : NearAt h (fun t => hexDigits f n (f.skip t)) a :=
          NearAt.skip (fun a' _ => ih a') fun t x t' ht => hexDigits_length ht
        exact (NearAt.map (g := (c :: ·)) hrest).of_eq fun v _ => hnext (a ++ v)
      · refine ReadsAt.of_error (e := .badHex) ?_
        rw [List.cons_append, hexDigits, Bool.eq_false_iff.mpr hc]
        rfl

theorem hexBraced_cons {f : Flags} {c : Char} {t : List Char} (hc : c ≠ '\x7d') (hdigit : Text.isDigit 16 c = true) :
    hexBraced f ((c :: t).length + 1) (c :: t) =
      (hexBraced f ((f.skip t).length + 1) (f.skip t)).map fun p => (c :: p.1, p.2) := by
  have hskip := f.skip_length t
  rw [hexBraced, if_neg hc, hdigit, List.length_cons,
    hexBraced_fuel (m := (f.skip t).length + 1) (Nat.lt_succ_of_le hskip) (Nat.lt_succ_self _)]
  cases hexBraced f ((f.skip t).length + 1) (f.skip t) <;> rfl

theorem hexBraced_local (f : Flags) (a : List Char) : LocalAt h (fun t => hexBraced f (t.length + 1) t) a := by
  induction hn : a.length using Nat.strongRecOn generalizing a with
  | _ n ih =>
    subst hn
    cases a with
    | nil =>
      -- The digit is read, the bar is not.
      refine ReadsAt.of_error (e := .badHex) ?_
      rw [List.nil_append, Hole.sample, Hole.fill,
        hexBraced_cons (ne_of_isDigit h.first_isDigit rfl) (isDigit_sixteen h.first_isDigit), List.cons_append,
        Flags.skip_of_isMark rfl]
      rfl
    | cons c a =>
      by_cases hbrace : c = '\x7d'
      · subst hbrace
        exact (localAt_skip f []).of_eq fun v _ => rfl
      · by_cases hdigit : Text.isDigit 16 c = true
        · have hrest : LocalAt h (fun t => hexBraced f ((f.skip t).length + 1) (f.skip t)) a :=
            ReadsAt.skip (r := fun t => hexBraced f (t.length + 1) t)
              (fun a' hle _ => ih a'.length (Nat.lt_succ_of_le hle) a' rfl) fun t x t' ht => hexBraced_length ht
          exact (LocalAt.map (g := (c :: ·)) hrest).of_eq fun v _ => hexBraced_cons hbrace hdigit
        · refine ReadsAt.of_error (e := .badHex) ?_
          rw [List.cons_append, List.length_cons, hexBraced, if_neg hbrace, Bool.eq_false_iff.mpr hdigit]
          rfl

/-- A number outside braces is short when it has two digits. -/
theorem hexEscape_unbraced (f : Flags) (count : Nat) (a : List Char) (ha : a.head? ≠ some '\x7b') :
    NearAt h (fun t => hexText f count t >>= fun p =>
      (hexValue f (count == 2 && t.head? != some '\x7b') p.1).map (·, p.2)) a := by
  refine (NearAt.value (g := hexValue f (count == 2 && true)) (hexDigits_near f count a)).of_eq fun v hv => ?_
  have hhead := head?_append_ne rfl ha hv
  have htext : hexText f count (a ++ v) = hexDigits f count (a ++ v) := by
    unfold hexText
    split
    · rename_i t ht
      rw [ht] at hhead
      exact absurd rfl hhead
    · rfl
  rw [htext, bne_iff_ne.mpr hhead]

theorem hexEscape_near (f : Flags) (count : Nat) (a : List Char) : NearAt h (hexEscape f count) a := by
  have hform : hexEscape f count = fun t => hexText f count (f.skip t) >>= fun p =>
      (hexValue f (count == 2 && (f.skip t).head? != some '\x7b') p.1).map (·, p.2) := by
    funext t
    refine bind_congr fun ⟨ds, rest⟩ => ?_
    dsimp only
    cases hexValue f (count == 2 && (f.skip t).head? != some '\x7b') ds <;> rfl
  rw [hform]
  refine NearAt.skip (r := fun t => hexText f count t >>= fun p =>
    (hexValue f (count == 2 && t.head? != some '\x7b') p.1).map (·, p.2)) (fun a' _ => ?_) ?_
  · by_cases ha : a'.head? = some '\x7b'
    · obtain ⟨a'', rfl⟩ := List.head?_eq_some_iff.mp ha
      have hbraced : LocalAt h (fun t => hexBraced f ((f.skip t).length + 1) (f.skip t)) a'' :=
        ReadsAt.skip (r := fun t => hexBraced f (t.length + 1) t) (fun a' _ _ => hexBraced_local f a') fun t x t' ht =>
          hexBraced_length ht
      refine (NearAt.value (g := hexValue f (count == 2 && false)) hbraced.near).of_eq fun v _ => ?_
      have hskip := f.skip_length (a'' ++ v)
      rw [List.cons_append, hexText, List.length_cons,
        hexBraced_fuel (m := (f.skip (a'' ++ v)).length + 1) (by omega) (Nat.lt_succ_self _)]
      rfl
    · exact hexEscape_unbraced f count a' ha
  · intro t c t' ht
    obtain ⟨p, hp, hvalue⟩ := bind_eq_ok.mp ht
    obtain ⟨c', -, hpair⟩ := map_eq_ok.mp hvalue
    cases hpair
    exact hexText_length hp

/-! ## Properties -/

theorem braced_cons {f : Flags} {c : Char} {t : List Char} (hc : c ≠ '\x7d') :
    braced f ((c :: t).length + 1) (c :: t) =
      (braced f ((f.skip t).length + 1) (f.skip t)).map fun p => (c :: p.1, p.2) := by
  have hskip := f.skip_length t
  rw [braced, if_neg hc, List.length_cons,
    braced_fuel (m := (f.skip t).length + 1) (Nat.lt_succ_of_le hskip) (Nat.lt_succ_self _)]
  cases braced f ((f.skip t).length + 1) (f.skip t) <;> rfl

/-- A name that does not end before the hole has the bar of the sample in it. -/
theorem braced_readsAt (f : Flags) (a : List Char) :
    ReadsAt h (fun name _ => '|' ∈ name) (fun t => braced f (t.length + 1) t) a := by
  induction hn : a.length using Nat.strongRecOn generalizing a with
  | _ n ih =>
    subst hn
    cases a with
    | nil =>
      intro name rest hname
      refine Or.inr (Or.inr ?_)
      rw [List.nil_append, Hole.sample, Hole.fill, List.cons_append] at hname
      dsimp only at hname
      rw [braced_cons (ne_of_isDigit h.first_isDigit rfl), Flags.skip_of_isMark rfl, braced_cons (by decide)] at hname
      obtain ⟨p, hp, hpair⟩ := map_eq_ok.mp hname
      obtain ⟨p', -, hpair'⟩ := map_eq_ok.mp hp
      cases hpair'
      cases hpair
      exact List.mem_cons_of_mem _ List.mem_cons_self
    | cons c a =>
      by_cases hbrace : c = '\x7d'
      · subst hbrace
        exact (localAt_ok []).readsAt.of_eq fun v _ => rfl
      · have hrest : ReadsAt h (fun name _ => '|' ∈ name) (fun t => braced f ((f.skip t).length + 1) (f.skip t)) a :=
          ReadsAt.skip (r := fun t => braced f (t.length + 1) t)
            (fun a' hle _ => ih a'.length (Nat.lt_succ_of_le hle) a' rfl) fun t x t' ht => braced_length ht
        have hcons : ReadsAt h (fun name _ => '|' ∈ name)
            (fun t => braced f ((f.skip t).length + 1) (f.skip t) >>= fun p => .ok (c :: p.1, p.2)) a := by
          refine ReadsAt.bind (s := fun cs t => .ok (c :: cs, t)) hrest (fun cs a' _ => (localAt_ok (c :: cs)).readsAt) ?_ ?_
          · intro cs t x t' ht
            cases ht
            exact Nat.le_refl _
          · intro cs t _ hbar x t' ht
            cases ht
            exact List.mem_cons_of_mem c hbar
        refine hcons.of_eq fun v _ => ?_
        rw [List.cons_append, braced_cons hbrace]
        cases braced f ((f.skip (a ++ v)).length + 1) (f.skip (a ++ v)) <;> rfl

theorem propertyName_length {f : Flags} {t rest name : List Char} (hname : propertyName f t = .ok (name, rest)) :
    rest.length ≤ t.length := by
  unfold propertyName at hname
  split at hname
  · cases hname
  · rename_i t'
    have hskip := f.skip_length t'
    have := braced_length hname
    simp only [List.length_cons]
    omega
  · cases hname
  · rename_i c t' _ _
    have hskip := f.skip_length t'
    cases hname
    simp only [List.length_cons]
    omega

theorem propertyName_letter {f : Flags} {c : Char} {t : List Char} (hbrace : c ≠ '\x7b') (hback : c ≠ '\\') :
    propertyName f (c :: t) = .ok ([c], f.skip t) := by
  simp [propertyName]

theorem propertyEscape_near (f : Flags) (negated : Bool) (a : List Char) : NearAt h (propertyEscape f negated) a := by
  have hform : propertyEscape f negated = fun t => propertyName f (f.skip t) >>= fun p =>
      (propertySet f negated p.1).map (·, p.2) := by
    funext t
    refine bind_congr fun ⟨name, rest⟩ => ?_
    dsimp only
    cases propertySet f negated name <;> rfl
  rw [hform]
  refine NearAt.skip (r := fun t => propertyName f t >>= fun p => (propertySet f negated p.1).map (·, p.2))
    (fun a' _ => ?_) ?_
  · cases a' with
    | nil =>
      have hname : NearAt h (propertyName f) [] := by
        refine ReadsAt.of_within (x := [h.first]) fun m hm => ?_
        obtain ⟨c, t, hct, hc⟩ := h.after_first hm
        rw [List.nil_append, Hole.fill, hct, propertyName_letter (ne_of_isDigit h.first_isDigit rfl)
          (ne_of_isDigit h.first_isDigit rfl), Flags.skip_of_isMark hc]
      exact NearAt.value hname
    | cons c a' =>
      by_cases hbrace : c = '\x7b'
      · subst hbrace
        have hbraced : ReadsAt h (fun name _ => '|' ∈ name) (fun t => braced f ((f.skip t).length + 1) (f.skip t)) a' :=
          ReadsAt.skip (r := fun t => braced f (t.length + 1) t) (fun a'' _ _ => braced_readsAt f a'') fun t x t' ht =>
            braced_length ht
        have hset : LocalAt h (fun t => braced f ((f.skip t).length + 1) (f.skip t) >>= fun p =>
            (propertySet f negated p.1).map (·, p.2)) a' := by
          refine ReadsAt.bind (s := fun name t => (propertySet f negated name).map (·, t)) hbraced ?_ ?_ ?_
          · intro name a'' _ s rest hs
            obtain ⟨s', hs', hpair⟩ := map_eq_ok.mp hs
            cases hpair
            exact Or.inl ⟨a'', fun v _ => by rw [hs']; rfl⟩
          · intro name t s t' hs
            obtain ⟨s', -, hpair⟩ := map_eq_ok.mp hs
            cases hpair
            exact Nat.le_refl _
          · intro name rest _ hbar s t' hs
            obtain ⟨e, he⟩ := propertySet_of_bar f negated hbar
            rw [he] at hs
            cases hs
        refine hset.near.of_eq fun v _ => ?_
        have hskip := f.skip_length (a' ++ v)
        rw [List.cons_append, propertyName, List.length_cons,
          braced_fuel (m := (f.skip (a' ++ v)).length + 1) (by omega) (Nat.lt_succ_self _)]
      · by_cases hback : c = '\\'
        · subst hback
          exact ReadsAt.of_error (e := .unknownProperty) rfl
        · have hletter : LocalAt h (fun t => .ok ([c], f.skip t)) a' := localAt_skip f [c]
          refine (NearAt.value (g := propertySet f negated) hletter.near).of_eq fun v _ => ?_
          rw [List.cons_append, propertyName_letter hbrace hback]
  · intro t s t' ht
    obtain ⟨p, hp, hset⟩ := bind_eq_ok.mp ht
    obtain ⟨s', -, hpair⟩ := map_eq_ok.mp hset
    cases hpair
    exact propertyName_length hp

/-! ## Looks -/

theorem not_isEdgeNameChar_of_isDigit {d : Char} (hd : d.isDigit = true) : isEdgeNameChar d = false :=
  Text.of_isDigit hd (by decide)

theorem edgeName_local (f : Flags) (a : List Char) : LocalAt h (fun t => .ok (edgeName f t.length t)) a := by
  induction hn : a.length using Nat.strongRecOn generalizing a with
  | _ n ih =>
    subst hn
    cases a with
    | nil =>
      refine ReadsAt.of_before (x := []) (b := []) fun v hv => ?_
      obtain ⟨d, v', rfl, hd⟩ := hv.cons
      simp [edgeName, not_isEdgeNameChar_of_isDigit hd]
    | cons c a =>
      by_cases hc : isEdgeNameChar c = true
      · have hrest : LocalAt h (fun t => .ok (edgeName f (f.skip t).length (f.skip t))) a :=
          ReadsAt.skip (r := fun t => .ok (edgeName f t.length t))
            (fun a' hle _ => ih a'.length (Nat.lt_succ_of_le hle) a' rfl) fun t x t' ht => by
              have := edgeName_length f t.length t
              rwa [Except.ok.inj ht] at this
        refine (LocalAt.map (g := (c :: ·)) hrest).of_eq fun v _ => ?_
        have hskip := f.skip_length (a ++ v)
        rw [List.cons_append, List.length_cons, edgeName, if_pos hc, edgeName_fuel hskip (Nat.le_refl _)]
        rfl
      · refine ReadsAt.of_before (x := []) (b := c :: a) fun v _ => ?_
        rw [List.cons_append, List.length_cons, edgeName, if_neg hc]

theorem closeEdge_local (f : Flags) (name a : List Char) : LocalAt h (closeEdge f name) a := by
  cases a with
  | nil =>
    refine ReadsAt.of_error (e := .unknownBoundary) ?_
    have := ne_of_isDigit h.first_isDigit (c := '\x7d') rfl
    simp [Hole.sample, Hole.fill, closeEdge, this]
  | cons c a =>
    by_cases hc : c = '\x7d'
    · subst hc
      cases he : namedEdge? name with
      | none => exact ReadsAt.of_error (e := .unknownBoundary) (by simp [closeEdge, he])
      | some e => exact ReadsAt.of_before (x := .edge e f.word) (b := a) fun v _ => by simp [closeEdge, he]
    · exact ReadsAt.of_error (e := .unknownBoundary) (by simp [closeEdge, hc])

/-- After a brace, what comes next decides between a name and a count. -/
theorem boundaryEscape_brace {f : Flags} {c : Char} {t rest : List Char} (hskip : f.skip t = c :: rest) :
    boundaryEscape f ('\x7b' :: t) =
      if isEdgeNameChar c then closeEdge f (edgeName f (c :: rest).length (c :: rest)).1 (edgeName f (c :: rest).length (c :: rest)).2
      else .ok (.edge .boundary f.word, '\x7b' :: t) := by
  simp only [boundaryEscape, hskip, List.length_cons]

theorem boundaryEscape_local (f : Flags) (a : List Char) : LocalAt h (boundaryEscape f) a := by
  have hcount : ∀ {a : List Char}, (∀ v, Fill h.after v → boundaryEscape f (a ++ v) = .ok (.edge .boundary f.word, a ++ v)) →
      LocalAt h (boundaryEscape f) a := fun ha => ReadsAt.of_before ha
  cases a with
  | nil =>
    refine hcount fun v hv => ?_
    obtain ⟨d, v', rfl, hd⟩ := hv.cons
    have := ne_of_isDigit hd (c := '\x7b') rfl
    simp [boundaryEscape, this]
  | cons c a =>
    by_cases hbrace : c = '\x7b'
    · subst hbrace
      rcases skip_cases f a h.after with ⟨a', -, ha'⟩ | ⟨past, hle, hpast⟩
      · cases a' with
        | nil =>
          refine hcount fun v hv => ?_
          obtain ⟨d, v', rfl, hd⟩ := hv.cons
          rw [List.cons_append, boundaryEscape_brace (ha' _ hv), not_isEdgeNameChar_of_isDigit hd]
          rfl
        | cons c a' =>
          by_cases hc : isEdgeNameChar c = true
          · have hname : LocalAt h (fun t => (Except.ok (edgeName f t.length t) : Except Fault _) >>= fun p =>
                closeEdge f p.1 p.2) (c :: a') :=
              LocalAt.bind (edgeName_local f _) (fun name a'' _ => closeEdge_local f name a'') fun name t l t' hl =>
                closeEdge_length hl
            refine hname.of_eq fun v hv => ?_
            rw [List.cons_append, boundaryEscape_brace (ha' v hv), if_pos hc]
            rfl
          · refine hcount fun v hv => ?_
            rw [List.cons_append, boundaryEscape_brace (ha' v hv), if_neg hc]
      · cases past with
        | nil => exact ReadsAt.of_error (e := .unexpectedEnd) (by simp [boundaryEscape, hpast _ h.fill_sample])
        | cons c past =>
          by_cases hc : isEdgeNameChar c = true
          · intro l rest hl
            have hform : ∀ v, Fill h.after v → boundaryEscape f ('\x7b' :: a ++ v) =
                closeEdge f (edgeName f (c :: past).length (c :: past)).1 (edgeName f (c :: past).length (c :: past)).2 := by
              intro v hv
              rw [List.cons_append, boundaryEscape_brace (hpast v hv), if_pos hc]
            rw [hform _ h.fill_sample] at hl
            have h1 := edgeName_length f (c :: past).length (c :: past)
            have h2 := closeEdge_length hl
            exact Or.inr (Or.inl ⟨by omega, fun v hv => (hform v hv).trans hl⟩)
          · refine hcount fun v hv => ?_
            rw [List.cons_append, boundaryEscape_brace (hpast v hv), if_neg hc]
    · exact hcount fun v _ => by simp [boundaryEscape, hbrace]

/-! ## All escapes -/

theorem escape_near (f : Flags) (a : List Char) : NearAt h (escape f) a := by
  cases a with
  | nil =>
    refine ReadsAt.of_error (e := .backReference) ?_
    simp [Hole.sample, Hole.fill, escape, h.first_isDigit]
  | cons c a =>
    by_cases hdigit : c.isDigit = true
    · exact ReadsAt.of_error (e := .backReference) (by simp [escape, hdigit])
    · by_cases hx : c = 'x'
      · subst hx
        exact (NearAt.map (hexEscape_near f 2 a)).of_eq fun v _ => rfl
      by_cases hu : c = 'u'
      · subst hu
        exact (NearAt.map (hexEscape_near f 4 a)).of_eq fun v _ => rfl
      by_cases hU : c = 'U'
      · subst hU
        exact (NearAt.map (hexEscape_near f 8 a)).of_eq fun v _ => rfl
      by_cases hp : c = 'p'
      · subst hp
        exact (NearAt.map (propertyEscape_near f false a)).of_eq fun v _ => rfl
      by_cases hP : c = 'P'
      · subst hP
        exact (NearAt.map (propertyEscape_near f true a)).of_eq fun v _ => rfl
      by_cases hb : c = 'b'
      · subst hb
        exact (NearAt.map (boundaryEscape_local f a).near).of_eq fun v _ => rfl
      refine (localAt_value (plainEscape f c)).near.of_eq (b := a) fun v _ => ?_
      simp [escape, hdigit]

end DeltaLint.Pattern

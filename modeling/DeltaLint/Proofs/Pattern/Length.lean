import DeltaLint.Pattern.Token

/-
  DeltaLint.Proofs.Pattern.Length — readers take what they read from the front.

  What a reader leaves is no longer than what it was given, and what follows a token is shorter. So a
  reader that is given as many steps as its text has characters never runs out of them: the number of
  its steps does not matter (`hexBraced_fuel`, `braced_fuel`, `countDigits_fuel`, `edgeName_fuel`,
  `leadingHyphens_fuel`, `classBody_fuel`).
-/

namespace DeltaLint.Pattern

open Unicode

theorem skipBlank_length (inComment : Bool) (t : List Char) : (skipBlank inComment t).length ≤ t.length := by
  induction t generalizing inComment with
  | nil => exact Nat.le_refl _
  | cons c t ih =>
    unfold skipBlank
    split
    · exact Nat.le_succ_of_le (ih _)
    · split
      · exact Nat.le_succ_of_le (ih _)
      · split
        · exact Nat.le_succ_of_le (ih _)
        · exact Nat.le_refl _

theorem Flags.skip_length (f : Flags) (t : List Char) : (f.skip t).length ≤ t.length := by
  unfold Flags.skip
  split
  · exact skipBlank_length false t
  · exact Nat.le_refl _

/-! ## Escapes -/

theorem hexDigits_length {f : Flags} {n : Nat} {t rest ds : List Char} (h : hexDigits f n t = .ok (ds, rest)) :
    rest.length ≤ t.length := by
  induction n generalizing t ds with
  | zero =>
    cases h
    exact Nat.le_refl _
  | succ n ih =>
    cases t with
    | nil => cases h
    | cons c t =>
      simp only [hexDigits] at h
      split at h
      · cases h
      · obtain ⟨p, hp, hrest⟩ := bind_eq_ok.mp h
        cases hrest
        have := ih hp
        have := f.skip_length t
        simp only [List.length_cons]
        omega

theorem hexBraced_length {f : Flags} {n : Nat} {t rest ds : List Char} (h : hexBraced f n t = .ok (ds, rest)) :
    rest.length ≤ t.length := by
  induction n generalizing t ds with
  | zero => cases h
  | succ n ih =>
    cases t with
    | nil => cases h
    | cons c t =>
      have hskip := f.skip_length t
      simp only [hexBraced] at h
      split at h
      · cases h
        simp only [List.length_cons]
        omega
      · split at h
        · cases h
        · obtain ⟨p, hp, hrest⟩ := bind_eq_ok.mp h
          cases hrest
          have := ih hp
          simp only [List.length_cons]
          omega

theorem hexBraced_fuel {f : Flags} {n m : Nat} {t : List Char} (hn : t.length < n) (hm : t.length < m) :
    hexBraced f n t = hexBraced f m t := by
  induction n generalizing m t with
  | zero => omega
  | succ n ih =>
    cases m with
    | zero => omega
    | succ m =>
      cases t with
      | nil => rfl
      | cons c t =>
        have hskip := f.skip_length t
        simp only [List.length_cons] at hn hm
        simp only [hexBraced, ih (m := m) (t := f.skip t) (by omega) (by omega)]

theorem hexText_length {f : Flags} {count : Nat} {t rest ds : List Char} (h : hexText f count t = .ok (ds, rest)) :
    rest.length ≤ t.length := by
  unfold hexText at h
  split at h
  · rename_i t
    have hskip := f.skip_length t
    have := hexBraced_length h
    simp only [List.length_cons]
    omega
  · exact hexDigits_length h

theorem hexEscape_length {f : Flags} {count : Nat} {t rest : List Char} {c : Char}
    (h : hexEscape f count t = .ok (c, rest)) : rest.length ≤ t.length := by
  have hskip := f.skip_length t
  obtain ⟨p, hp, hvalue⟩ := bind_eq_ok.mp h
  obtain ⟨c', -, hpair⟩ := bind_eq_ok.mp hvalue
  have hlength := hexText_length hp
  cases hpair
  omega

theorem braced_length {f : Flags} {n : Nat} {t rest name : List Char} (h : braced f n t = .ok (name, rest)) :
    rest.length ≤ t.length := by
  induction n generalizing t name with
  | zero => cases h
  | succ n ih =>
    cases t with
    | nil => cases h
    | cons c t =>
      have hskip := f.skip_length t
      simp only [braced] at h
      split at h
      · cases h
        exact Nat.le_succ _
      · obtain ⟨p, hp, hrest⟩ := bind_eq_ok.mp h
        cases hrest
        have := ih hp
        simp only [List.length_cons]
        omega

theorem braced_fuel {f : Flags} {n m : Nat} {t : List Char} (hn : t.length < n) (hm : t.length < m) :
    braced f n t = braced f m t := by
  induction n generalizing m t with
  | zero => omega
  | succ n ih =>
    cases m with
    | zero => omega
    | succ m =>
      cases t with
      | nil => rfl
      | cons c t =>
        have hskip := f.skip_length t
        simp only [List.length_cons] at hn hm
        simp only [braced, ih (m := m) (t := f.skip t) (by omega) (by omega)]

theorem propertyEscape_length {f : Flags} {negated : Bool} {t rest : List Char} {s : CharSet}
    (h : propertyEscape f negated t = .ok (s, rest)) : rest.length ≤ t.length := by
  have hskip := f.skip_length t
  obtain ⟨⟨name, rest'⟩, hname, hset⟩ := bind_eq_ok.mp h
  obtain ⟨s', -, hpair⟩ := bind_eq_ok.mp hset
  cases hpair
  unfold propertyName at hname
  split at hname
  · cases hname
  · rename_i t' ht
    have hskip' := f.skip_length t'
    have := braced_length hname
    rw [ht] at hskip
    simp only [List.length_cons] at hskip
    omega
  · cases hname
  · rename_i c t' _ _ ht
    have hskip' := f.skip_length t'
    cases hname
    rw [ht] at hskip
    simp only [List.length_cons] at hskip
    omega

theorem edgeName_length (f : Flags) (n : Nat) (t : List Char) : (edgeName f n t).2.length ≤ t.length := by
  induction n generalizing t with
  | zero => exact Nat.le_refl _
  | succ n ih =>
    cases t with
    | nil => exact Nat.le_refl _
    | cons c t =>
      have hskip := f.skip_length t
      have := ih (f.skip t)
      unfold edgeName
      split
      · simp only [List.length_cons]
        omega
      · exact Nat.le_refl _

theorem edgeName_fuel {f : Flags} {n m : Nat} {t : List Char} (hn : t.length ≤ n) (hm : t.length ≤ m) :
    edgeName f n t = edgeName f m t := by
  induction n generalizing m t with
  | zero =>
    obtain rfl := List.eq_nil_of_length_eq_zero (Nat.le_zero.mp hn)
    cases m <;> rfl
  | succ n ih =>
    cases m with
    | zero =>
      obtain rfl := List.eq_nil_of_length_eq_zero (Nat.le_zero.mp hm)
      rfl
    | succ m =>
      cases t with
      | nil => rfl
      | cons c t =>
        have hskip := f.skip_length t
        simp only [List.length_cons] at hn hm
        simp only [edgeName, ih (m := m) (t := f.skip t) (by omega) (by omega)]

theorem closeEdge_length {f : Flags} {name t rest : List Char} {l : Look} (h : closeEdge f name t = .ok (l, rest)) :
    rest.length ≤ t.length := by
  unfold closeEdge at h
  split at h
  · split at h
    · cases h
      exact Nat.le_succ _
    · cases h
  · cases h

theorem boundaryEscape_length {f : Flags} {t rest : List Char} {l : Look} (h : boundaryEscape f t = .ok (l, rest)) :
    rest.length ≤ t.length := by
  unfold boundaryEscape at h
  split at h
  · rename_i t
    have hskip := f.skip_length t
    split at h
    · cases h
    · rename_i c t' hc
      split at h
      · have hname := edgeName_length f (t'.length + 1) (c :: t')
        have hclose := Nat.le_trans (closeEdge_length h) hname
        rw [hc] at hskip
        exact Nat.le_succ_of_le (Nat.le_trans hclose hskip)
      · cases h
        exact Nat.le_refl _
  · cases h
    exact Nat.le_refl _

theorem escape_length {f : Flags} {t rest : List Char} {x : Atom} (h : escape f t = .ok (x, rest)) :
    rest.length < t.length := by
  cases t with
  | nil => cases h
  | cons c t =>
    refine Nat.lt_succ_of_le ?_
    have hmap : ∀ {α : Type} {r : Except Fault (α × List Char)} {g : α → Atom},
        (r.map fun p => (g p.1, p.2)) = .ok (x, rest) → ∃ y, r = .ok (y, rest) := by
      intro α r g hr
      obtain ⟨p, hp, hpair⟩ := map_eq_ok.mp hr
      cases hpair
      exact ⟨p.1, hp⟩
    simp only [escape] at h
    split at h
    · cases h
    · split at h
      · obtain ⟨y, hy⟩ := hmap h
        exact hexEscape_length hy
      · obtain ⟨y, hy⟩ := hmap h
        exact hexEscape_length hy
      · obtain ⟨y, hy⟩ := hmap h
        exact hexEscape_length hy
      · obtain ⟨y, hy⟩ := hmap h
        exact propertyEscape_length hy
      · obtain ⟨y, hy⟩ := hmap h
        exact propertyEscape_length hy
      · obtain ⟨y, hy⟩ := hmap h
        exact boundaryEscape_length hy
      · obtain ⟨y, -, hpair⟩ := map_eq_ok.mp h
        cases hpair
        exact Nat.le_refl _

/-! ## Groups and repetitions -/

theorem Flags.read_length {f g : Flags} {on : Bool} {seen t rest : List Char} (h : f.read on seen t = .ok (g, rest)) :
    rest.length ≤ t.length := by
  induction t generalizing f on seen with
  | nil => cases h
  | cons c t ih =>
    unfold Flags.read at h
    split at h
    · split at h
      · cases h
      · cases h
        exact Nat.le_refl _
    · split at h
      · cases h
      · split at h
        · exact Nat.le_succ_of_le (ih h)
        · split at h
          · exact Nat.le_succ_of_le (ih h)
          · cases h

theorem groupName_length {t rest name : List Char} (h : groupName t = .ok (name, rest)) : rest.length ≤ t.length := by
  have hdrop : (t.dropWhile (· != '>')).length ≤ t.length := (List.dropWhile_sublist _).length_le
  simp only [groupName] at h
  split at h
  · rename_i hrest
    split at h
    · cases h
      rw [hrest] at hdrop
      exact Nat.le_of_succ_le hdrop
    · cases h
  · cases h

theorem closeFlags_length {leftOut : Bool} {g : Flags} {t rest : List Char} {x : Token}
    (h : closeFlags leftOut g t = .ok (x, rest)) : rest.length ≤ t.length := by
  unfold closeFlags at h
  split at h
  · cases h
    exact Nat.le_succ _
  · split at h
    · cases h
    · cases h
      exact Nat.le_succ _
  · cases h

theorem groupKind_length {f : Flags} {t rest : List Char} {x : Token} (h : groupKind f t = .ok (x, rest)) :
    rest.length ≤ t.length := by
  have hname : ∀ {t' : List Char} {g : List Char → Token},
      ((groupName t').map fun p => (g p.1, p.2)) = .ok (x, rest) → rest.length ≤ t'.length := by
    intro t' g hr
    obtain ⟨p, hp, hpair⟩ := map_eq_ok.mp hr
    cases hpair
    exact groupName_length hp
  unfold groupKind at h
  split at h
  · cases h
  · cases h
  · cases h
  · cases h
  · exact Nat.le_succ_of_le (Nat.le_succ_of_le (hname (g := fun name => .openGroup true (some name) f) h))
  · exact Nat.le_succ_of_le (hname (g := fun name => .openGroup true (some name) f) h)
  · obtain ⟨⟨g, rest'⟩, hflags, hrest⟩ := bind_eq_ok.mp h
    exact Nat.le_trans (closeFlags_length hrest) (Flags.read_length hflags)

theorem group_length {f : Flags} {t rest : List Char} {x : Token} (h : group f t = .ok (x, rest)) :
    rest.length ≤ t.length := by
  have hskip := f.skip_length t
  unfold group at h
  split at h
  · rename_i t' ht
    have := groupKind_length h
    rw [ht] at hskip
    simp only [List.length_cons] at hskip
    omega
  · cases h
    exact hskip

theorem trimLeft_length (t : List Char) : (trimLeft t).length ≤ t.length := (List.dropWhile_sublist _).length_le

theorem countDigits_length (f : Flags) (n : Nat) (t : List Char) : (countDigits f n t).2.length ≤ t.length := by
  induction n generalizing t with
  | zero => exact Nat.le_refl _
  | succ n ih =>
    cases t with
    | nil => exact Nat.le_refl _
    | cons c t =>
      have hskip := f.skip_length t
      have := ih (f.skip t)
      unfold countDigits
      split
      · simp only [List.length_cons]
        omega
      · exact Nat.le_refl _

theorem countDigits_fuel {f : Flags} {n m : Nat} {t : List Char} (hn : t.length ≤ n) (hm : t.length ≤ m) :
    countDigits f n t = countDigits f m t := by
  induction n generalizing m t with
  | zero =>
    obtain rfl := List.eq_nil_of_length_eq_zero (Nat.le_zero.mp hn)
    cases m <;> rfl
  | succ n ih =>
    cases m with
    | zero =>
      obtain rfl := List.eq_nil_of_length_eq_zero (Nat.le_zero.mp hm)
      rfl
    | succ m =>
      cases t with
      | nil => rfl
      | cons c t =>
        have hskip := f.skip_length t
        simp only [List.length_cons] at hn hm
        simp only [countDigits, ih (m := m) (t := f.skip t) (by omega) (by omega)]

theorem someCount_length {f : Flags} {t rest : List Char} {n : Nat} (h : someCount f t = .ok (n, rest)) :
    rest.length ≤ t.length := by
  obtain ⟨⟨n', rest'⟩, hcount, hsome⟩ := bind_eq_ok.mp h
  have hrest : rest'.length ≤ t.length := by
    have h1 := trimLeft_length t
    have h2 := countDigits_length f (trimLeft t).length (trimLeft t)
    have h3 := trimLeft_length (countDigits f (trimLeft t).length (trimLeft t)).2
    simp only [count] at hcount
    split at hcount
    · cases hcount
      omega
    · split at hcount
      · cases hcount
        omega
      · cases hcount
  cases n' with
  | none => cases hsome
  | some n' =>
    cases hsome
    exact hrest

theorem upperCount_length {f : Flags} {least : Nat} {t rest : List Char} {most : Option Nat}
    (h : upperCount f least t = .ok (most, rest)) : rest.length ≤ t.length := by
  unfold upperCount at h
  split at h
  · rename_i t
    have hskip := f.skip_length t
    unfold mostCount at h
    split at h
    · cases h
    · cases h
      exact Nat.le_succ_of_le hskip
    · obtain ⟨p, hp, hpair⟩ := map_eq_ok.mp h
      have := someCount_length hp
      cases hpair
      simp only [List.length_cons]
      omega
  · cases h
    exact Nat.le_refl _

theorem repetition_length (f : Flags) (least : Nat) (most : Option Nat) (t : List Char) :
    (repetition f least most t).2.length ≤ t.length := by
  unfold repetition
  split
  · exact Nat.le_succ _
  · exact Nat.le_refl _

theorem closeCount_length {f : Flags} {least : Nat} {most : Option Nat} {t rest : List Char} {x : Token}
    (h : closeCount f least most t = .ok (x, rest)) : rest.length ≤ t.length := by
  unfold closeCount at h
  split at h
  · rename_i t'
    split at h
    · cases h
    · have hskip := f.skip_length t'
      have hrepetition := repetition_length f least most (f.skip t')
      rw [Except.ok.inj h] at hrepetition
      exact Nat.le_succ_of_le (Nat.le_trans hrepetition hskip)
  · cases h

theorem counted_length {f : Flags} {t rest : List Char} {x : Token} (h : counted f t = .ok (x, rest)) :
    rest.length ≤ t.length := by
  have hskip := f.skip_length t
  simp only [counted] at h
  split at h
  · cases h
  · obtain ⟨⟨least, t1⟩, hleast, h⟩ := bind_eq_ok.mp h
    obtain ⟨⟨most, t2⟩, hmost, h⟩ := bind_eq_ok.mp h
    exact Nat.le_trans (closeCount_length h)
      (Nat.le_trans (upperCount_length hmost) (Nat.le_trans (someCount_length hleast) hskip))

/-! ## Classes -/

theorem negation_length (t : List Char) : (negation t).2.length ≤ t.length := by
  unfold negation
  split
  · exact Nat.le_succ _
  · exact Nat.le_refl _

theorem namedClass?_length {f : Flags} {t rest : List Char} {s : Except Fault CharSet}
    (h : namedClass? f t = some (s, rest)) : rest.length ≤ t.length := by
  unfold namedClass? at h
  split at h
  · rename_i t
    have h1 := negation_length t
    have h2 := (List.dropWhile_sublist (· != ':') (l := (negation t).2)).length_le
    unfold className? at h
    split at h
    · rename_i t' ht
      obtain ⟨s', -, hpair⟩ := Option.map_eq_some_iff.mp h
      cases hpair
      rw [ht] at h2
      simp only [List.length_cons] at h2 ⊢
      omega
    · cases h
  · cases h

theorem leadingHyphens_length (f : Flags) (k : OpenClass) (n : Nat) (t : List Char) :
    (leadingHyphens f k n t).2.length ≤ t.length := by
  induction n generalizing k t with
  | zero => exact Nat.le_refl _
  | succ n ih =>
    unfold leadingHyphens
    split
    · rename_i n' t hn
      cases hn
      have hskip := f.skip_length t
      have := ih (k.add ⟨.one '-', 0⟩) (f.skip t)
      simp only [List.length_cons]
      omega
    · exact Nat.le_refl _

theorem leadingHyphens_fuel {f : Flags} {k : OpenClass} {n m : Nat} {t : List Char} (hn : t.length ≤ n)
    (hm : t.length ≤ m) : leadingHyphens f k n t = leadingHyphens f k m t := by
  induction n generalizing k m t with
  | zero =>
    obtain rfl := List.eq_nil_of_length_eq_zero (Nat.le_zero.mp hn)
    cases m <;> rfl
  | succ n ih =>
    cases m with
    | zero =>
      obtain rfl := List.eq_nil_of_length_eq_zero (Nat.le_zero.mp hm)
      rfl
    | succ m =>
      cases t with
      | nil => rfl
      | cons c t =>
        have hskip := f.skip_length t
        simp only [List.length_cons] at hn hm
        by_cases hc : c = '-'
        · subst hc
          exact ih (by omega) (by omega)
        · simp [leadingHyphens, hc]

theorem openClass_length {f : Flags} {t rest : List Char} {k : OpenClass} (h : openClass f t = .ok (k, rest)) :
    rest.length ≤ t.length := by
  have hskip := f.skip_length t
  have hnegation := negation_length (f.skip t)
  have hbracket : ∀ {k' : OpenClass} {t' : List Char}, leadingBracket f k' t' = .ok (k, rest) → rest.length ≤ t'.length := by
    intro k' t' hr
    unfold leadingBracket at hr
    split at hr
    · cases hr
    · rename_i t'
      have := f.skip_length t'
      split at hr
      · cases hr
        exact Nat.le_refl _
      · split at hr
        · cases hr
        · cases hr
          simp only [List.length_cons]
          omega
    · cases hr
      exact Nat.le_refl _
  have hskip' : ((if (negation (f.skip t)).1 then f.skip (negation (f.skip t)).2 else (negation (f.skip t)).2)).length ≤
      t.length := by
    have := f.skip_length (negation (f.skip t)).2
    split <;> omega
  exact Nat.le_trans (hbracket h) (Nat.le_trans (leadingHyphens_length _ _ _ _) hskip')

theorem classAtom_length {f : Flags} {t rest : List Char} {x : Atom} (h : classAtom f t = .ok (x, rest)) :
    rest.length < t.length := by
  unfold classAtom at h
  split at h
  · cases h
  · exact Nat.lt_succ_of_lt (escape_length h)
  · cases h
    exact Nat.lt_succ_self _

theorem classRange_length {f : Flags} {first : Atom} {t rest : List Char} {m : Nested}
    (h : classRange f first t = .ok (m, rest)) : rest.length ≤ t.length := by
  unfold classRange at h
  split at h
  · cases h
  · rename_i t
    split at h
    · obtain ⟨m', -, hpair⟩ := map_eq_ok.mp h
      cases hpair
      exact Nat.le_refl _
    · obtain ⟨⟨last, t'⟩, hlast, h⟩ := bind_eq_ok.mp h
      obtain ⟨m', -, hpair⟩ := bind_eq_ok.mp h
      have hskip := f.skip_length t
      have := classAtom_length hlast
      cases hpair
      simp only [List.length_cons]
      omega
  · obtain ⟨m', -, hpair⟩ := map_eq_ok.mp h
    cases hpair
    exact Nat.le_refl _

theorem classMember_length {f : Flags} {t rest : List Char} {m : Nested} (h : classMember f t = .ok (m, rest)) :
    rest.length < t.length := by
  obtain ⟨⟨first, t'⟩, hfirst, hrange⟩ := bind_eq_ok.mp h
  have hskip := f.skip_length t'
  have h1 := classAtom_length hfirst
  have h2 := classRange_length hrange
  omega

theorem classStep_length {f : Flags} {k : OpenClass} {outer : List OpenClass} {t rest : List Char} {state : ClassState}
    (h : classStep f k outer t = .ok (state, rest)) : rest.length < t.length := by
  unfold classStep at h
  split at h
  · cases h
  · refine Nat.lt_succ_of_le ?_
    unfold innerClass at h
    split at h
    · rename_i hnamed
      obtain ⟨s, -, hpair⟩ := map_eq_ok.mp h
      cases hpair
      exact namedClass?_length hnamed
    · obtain ⟨p, hp, hpair⟩ := map_eq_ok.mp h
      cases hpair
      exact openClass_length hp
  · obtain ⟨s, -, hpair⟩ := map_eq_ok.mp h
    cases hpair
    exact Nat.lt_succ_self _
  · cases h
    exact Nat.lt_succ_of_lt (Nat.lt_succ_self _)
  · cases h
    exact Nat.lt_succ_of_lt (Nat.lt_succ_self _)
  · cases h
    exact Nat.lt_succ_of_lt (Nat.lt_succ_self _)
  · obtain ⟨p, hp, hpair⟩ := map_eq_ok.mp h
    cases hpair
    exact classMember_length hp

theorem classBody_length {f : Flags} {n : Nat} {k : OpenClass} {outer : List OpenClass} {t rest : List Char} {m : Nested}
    (h : classBody f n k outer t = .ok (m, rest)) : rest.length ≤ t.length := by
  induction n generalizing k outer t with
  | zero => cases h
  | succ n ih =>
    obtain ⟨⟨state, t'⟩, hstep, h⟩ := bind_eq_ok.mp h
    have hskip := f.skip_length t
    have := classStep_length hstep
    cases state with
    | more k outer =>
      have := ih h
      omega
    | closed m =>
      cases h
      omega

theorem classBody_fuel {f : Flags} {n m : Nat} {k : OpenClass} {outer : List OpenClass} {t : List Char}
    (hn : t.length < n) (hm : t.length < m) : classBody f n k outer t = classBody f m k outer t := by
  induction n generalizing m k outer t with
  | zero => omega
  | succ n ih =>
    cases m with
    | zero => omega
    | succ m =>
      unfold classBody
      cases hstep : classStep f k outer (f.skip t) with
      | error e => rfl
      | ok p =>
        obtain ⟨state, rest⟩ := p
        have hskip := f.skip_length t
        have hlength := classStep_length hstep
        cases state with
        | more k outer => exact ih (by omega) (by omega)
        | closed m => rfl

theorem bracketClass_length {f : Flags} {t rest : List Char} {m : Nested} (h : bracketClass f t = .ok (m, rest)) :
    rest.length ≤ t.length := by
  obtain ⟨⟨k, t'⟩, hopen, hbody⟩ := bind_eq_ok.mp h
  exact Nat.le_trans (classBody_length hbody) (openClass_length hopen)

/-! ## Tokens -/

theorem token_length {f : Flags} {t rest : List Char} {x : Token} (h : token f t = .ok (x, rest)) :
    rest.length < t.length := by
  unfold token at h
  split at h
  · cases h
  · exact Nat.lt_succ_of_le (group_length h)
  · cases h
    exact Nat.lt_succ_self _
  · cases h
    exact Nat.lt_succ_self _
  · obtain ⟨p, hp, hpair⟩ := map_eq_ok.mp h
    cases hpair
    exact Nat.lt_succ_of_le (bracketClass_length hp)
  · refine Nat.lt_succ_of_le ?_
    rename_i t
    have := repetition_length f 0 (some 1) t
    rw [Except.ok.inj h] at this
    exact this
  · refine Nat.lt_succ_of_le ?_
    rename_i t
    have := repetition_length f 0 none t
    rw [Except.ok.inj h] at this
    exact this
  · refine Nat.lt_succ_of_le ?_
    rename_i t
    have := repetition_length f 1 none t
    rw [Except.ok.inj h] at this
    exact this
  · exact Nat.lt_succ_of_le (counted_length h)
  · obtain ⟨p, hp, hpair⟩ := map_eq_ok.mp h
    cases hpair
    exact Nat.lt_succ_of_lt (escape_length hp)
  · obtain ⟨s, -, hpair⟩ := map_eq_ok.mp h
    cases hpair
    exact Nat.lt_succ_self _
  · cases h
    exact Nat.lt_succ_self _
  · cases h
    exact Nat.lt_succ_self _
  · cases h
    exact Nat.lt_succ_self _

end DeltaLint.Pattern

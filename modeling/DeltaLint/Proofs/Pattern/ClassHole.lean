import DeltaLint.Proofs.Pattern.ClassAlike
import DeltaLint.Proofs.Pattern.EscapeHole

/-
  DeltaLint.Proofs.Pattern.ClassHole — classes with a hole.

  What opens a class and what joins its members is read as everywhere. A member may take the first digit
  of the hole: as its escape's last, as the end of a range, or as a member of its own.
-/

namespace DeltaLint.Pattern

open Unicode

variable {h : Hole}

/-! ## Openings -/

theorem negation_cases (a : List Char) :
    ∃ n a', a'.length ≤ a.length ∧ ∀ v, Fill h.after v → negation (a ++ v) = (n, a' ++ v) := by
  by_cases hmark : a.head? = some '^'
  · obtain ⟨a', rfl⟩ := List.head?_eq_some_iff.mp hmark
    exact ⟨true, a', Nat.le_succ _, fun v _ => rfl⟩
  · refine ⟨false, a, Nat.le_refl _, fun v hv => ?_⟩
    have hhead := head?_append_ne rfl hmark hv
    unfold negation
    split
    · rename_i hcons
      rw [hcons] at hhead
      exact absurd rfl hhead
    · rfl

/-- The name of a class ends before the hole, or there is none. -/
theorem className?_cases (f : Flags) (negated : Bool) (a : List Char) :
    (∃ s a', ∀ v, Fill h.after v → className? f negated (a ++ v) = some (s, a' ++ v)) ∨
      ∀ v, Fill h.after v → className? f negated (a ++ v) = none := by
  by_cases hcolon : ':' ∈ a
  · obtain ⟨p, q, rfl, hp⟩ := List.eq_append_cons_of_mem hcolon
    have hne : ∀ c ∈ p, (c != ':') = true := by
      intro c hc
      rw [bne_iff_ne]
      rintro rfl
      exact hp hc
    have htake : ∀ v, (p ++ ':' :: q ++ v).takeWhile (· != ':') = p := by
      intro v
      rw [List.append_assoc, List.takeWhile_append_of_pos hne]
      simp
    have hdrop : ∀ v, (p ++ ':' :: q ++ v).dropWhile (· != ':') = ':' :: (q ++ v) := by
      intro v
      rw [List.append_assoc, List.dropWhile_append_of_pos hne]
      simp
    by_cases hbracket : q.head? = some ']'
    · obtain ⟨q, rfl⟩ := List.head?_eq_some_iff.mp hbracket
      cases hs : Ascii.named.lookup (String.ofList p) with
      | none => exact Or.inr fun v _ => by rw [className?, hdrop, htake, hs]; rfl
      | some s => exact Or.inl ⟨f.complement negated (f.fold s), q, fun v _ => by rw [className?, hdrop, htake, hs]; rfl⟩
    · refine Or.inr fun v hv => ?_
      have hhead := head?_append_ne rfl hbracket hv
      unfold className?
      rw [hdrop]
      split
      · rename_i hcons
        rw [(List.cons.inj hcons).2] at hhead
        exact absurd rfl hhead
      · rfl
  · refine Or.inr fun v hv => ?_
    obtain ⟨d, v', rfl, hd⟩ := hv.cons
    refine className?_of_digit hd ?_
    have hne : ∀ c ∈ a, (c != ':') = true := by
      intro c hc
      rw [bne_iff_ne]
      rintro rfl
      exact hcolon hc
    rw [List.takeWhile_append_of_pos hne]
    exact List.mem_append_right a (by simp [ne_of_isDigit hd (c := ':') rfl])

theorem namedClass?_cases (f : Flags) (a : List Char) :
    (∃ s a', ∀ v, Fill h.after v → namedClass? f (a ++ v) = some (s, a' ++ v)) ∨
      ∀ v, Fill h.after v → namedClass? f (a ++ v) = none := by
  by_cases hcolon : a.head? = some ':'
  · obtain ⟨a, rfl⟩ := List.head?_eq_some_iff.mp hcolon
    obtain ⟨n, a', -, ha'⟩ := negation_cases (h := h) a
    rcases className?_cases (h := h) f n a' with ⟨s, a'', ha''⟩ | hnone
    · exact Or.inl ⟨s, a'', fun v hv => by rw [List.cons_append, namedClass?, ha' v hv, ha'' v hv]⟩
    · exact Or.inr fun v hv => by rw [List.cons_append, namedClass?, ha' v hv, hnone v hv]
  · refine Or.inr fun v hv => ?_
    have hhead := head?_append_ne rfl hcolon hv
    unfold namedClass?
    split
    · rename_i hcons
      rw [hcons] at hhead
      exact absurd rfl hhead
    · rfl

theorem leadingHyphens_plain {f : Flags} {k : OpenClass} {n : Nat} {t : List Char} (ht : t.head? ≠ some '-') :
    leadingHyphens f k n t = (k, t) := by
  unfold leadingHyphens
  split
  · exact absurd rfl ht
  · rfl

theorem leadingHyphens_local (f : Flags) (k : OpenClass) (a : List Char) :
    LocalAt h (fun t => .ok (leadingHyphens f k t.length t)) a := by
  induction hn : a.length using Nat.strongRecOn generalizing k a with
  | _ n ih =>
    subst hn
    by_cases hhyphen : a.head? = some '-'
    · obtain ⟨a, rfl⟩ := List.head?_eq_some_iff.mp hhyphen
      have hrest : LocalAt h (fun t => .ok (leadingHyphens f (k.add ⟨.one '-', 0⟩) (f.skip t).length (f.skip t))) a :=
        ReadsAt.skip (r := fun t => .ok (leadingHyphens f (k.add ⟨.one '-', 0⟩) t.length t))
          (fun a' hle _ => ih a'.length (Nat.lt_succ_of_le hle) _ a' rfl) fun t x t' ht => by
            have := leadingHyphens_length f (k.add ⟨.one '-', 0⟩) t.length t
            rwa [Except.ok.inj ht] at this
      refine hrest.of_eq fun v _ => ?_
      rw [List.cons_append, List.length_cons, leadingHyphens, leadingHyphens_fuel (f.skip_length _) (Nat.le_refl _)]
    · exact ReadsAt.of_before (x := k) (b := a) fun v hv => by
        rw [leadingHyphens_plain (head?_append_ne rfl hhyphen hv)]

theorem leadingBracket_length {f : Flags} {k k' : OpenClass} {t rest : List Char}
    (hk : leadingBracket f k t = .ok (k', rest)) : rest.length ≤ t.length := by
  unfold leadingBracket at hk
  split at hk
  · cases hk
  · rename_i t'
    have hskip := f.skip_length t'
    split at hk
    · cases hk
      exact Nat.le_refl _
    · split at hk
      · cases hk
      · cases hk
        exact Nat.le_succ_of_le hskip
  · cases hk
    exact Nat.le_refl _

theorem leadingBracket_local (f : Flags) (k : OpenClass) (a : List Char) : LocalAt h (leadingBracket f k) a := by
  by_cases hbracket : a.head? = some ']'
  · obtain ⟨a, rfl⟩ := List.head?_eq_some_iff.mp hbracket
    by_cases hfirst : k.members.isEmpty = true
    · have hrest : LocalAt h (fun t => if (f.skip t).isEmpty then .error .unclosedClass
          else .ok (k.add ⟨.one ']', 0⟩, f.skip t)) a := by
        refine ReadsAt.skip (r := fun t => if t.isEmpty then .error .unclosedClass else .ok (k.add ⟨.one ']', 0⟩, t))
          (fun a' _ _ => ?_) ?_
        · refine (localAt_ok (k.add ⟨.one ']', 0⟩)).of_eq (b := a') fun v hv => ?_
          obtain ⟨d, v', rfl, -⟩ := hv.cons
          cases a' <;> rfl
        · intro t x t' hx
          split at hx
          · cases hx
          · cases hx
            exact Nat.le_refl _
      exact hrest.of_eq fun v _ => by simp [leadingBracket, hfirst]
    · exact ReadsAt.of_before (x := k) (b := ']' :: a) fun v _ => by simp [leadingBracket, hfirst]
  · refine ReadsAt.of_before (x := k) (b := a) fun v hv => ?_
    have hhead := head?_append_ne rfl hbracket hv
    unfold leadingBracket
    split
    · rename_i hnil
      obtain ⟨d, v', rfl, -⟩ := hv.cons
      cases a <;> cases hnil
    · rename_i hcons
      rw [hcons] at hhead
      exact absurd rfl hhead
    · rfl

theorem openClass_local (f : Flags) (a : List Char) : LocalAt h (openClass f) a := by
  have hopen : ∀ (n : Bool) (b : List Char), LocalAt h (fun t =>
      (Except.ok (leadingHyphens f ⟨n, none, []⟩ t.length t) : Except Fault _) >>= fun p => leadingBracket f p.1 p.2) b :=
    fun n b => LocalAt.bind (leadingHyphens_local f _ b) (fun k b' _ => leadingBracket_local f k b') fun k t x t' hx =>
      leadingBracket_length hx
  have hlength : ∀ {n : Bool} {t t' : List Char} {x : OpenClass},
      ((Except.ok (leadingHyphens f ⟨n, none, []⟩ t.length t) : Except Fault _) >>= fun p => leadingBracket f p.1 p.2) =
        .ok (x, t') → t'.length ≤ t.length :=
    fun hx => Nat.le_trans (leadingBracket_length hx) (leadingHyphens_length _ _ _ _)
  -- The text is skipped again only after the mark of a complement.
  have hskip : ∀ (n : Bool) (b : List Char), LocalAt h (fun t =>
      (Except.ok (leadingHyphens f ⟨n, none, []⟩ (if n then f.skip t else t).length (if n then f.skip t else t)) :
        Except Fault _) >>= fun p => leadingBracket f p.1 p.2) b := by
    intro n b
    cases n with
    | false => exact hopen false b
    | true =>
      exact ReadsAt.skip (r := fun t => (Except.ok (leadingHyphens f ⟨true, none, []⟩ t.length t) : Except Fault _) >>=
        fun p => leadingBracket f p.1 p.2) (fun b' _ _ => hopen true b') fun t x t' hx => hlength hx
  refine ReadsAt.skip (r := fun t =>
    (Except.ok (leadingHyphens f ⟨(negation t).1, none, []⟩
      (if (negation t).1 then f.skip (negation t).2 else (negation t).2).length
      (if (negation t).1 then f.skip (negation t).2 else (negation t).2)) : Except Fault _) >>=
      fun p => leadingBracket f p.1 p.2) (fun b _ _ => ?_) ?_
  · obtain ⟨n, b', -, hb'⟩ := negation_cases (h := h) b
    exact (hskip n b').of_eq fun v hv => by rw [hb' v hv]
  · intro t x t' hx
    have h1 := hlength hx
    have h2 := negation_length t
    have h3 := f.skip_length (negation t).2
    split at h1 <;> omega

/-! ## Members -/

theorem classAtom_near (f : Flags) (a : List Char) : NearAt h (classAtom f) a := by
  have hliteral : ∀ {c : Char} {t : List Char}, c ≠ '\\' → classAtom f (c :: t) = .ok (.literal c, t) := by
    intro c t hc
    simp [classAtom]
  cases a with
  | nil => exact ReadsAt.of_within (x := Atom.literal h.first) fun m _ => hliteral (ne_of_isDigit h.first_isDigit rfl)
  | cons c a =>
    by_cases hc : c = '\\'
    · subst hc
      exact (escape_near f a).of_eq fun v _ => rfl
    · exact ReadsAt.of_before (x := Atom.literal c) (b := a) fun v _ => hliteral hc

theorem head?_cases (a : List Char) : (∃ c, ∀ v, Fill h.after v → (a ++ v).head? = some c) ∨
    ∀ v, Fill h.after v → ∃ d, d.isDigit = true ∧ (a ++ v).head? = some d := by
  cases a with
  | nil =>
    refine Or.inr fun v hv => ?_
    obtain ⟨d, v', rfl, hd⟩ := hv.cons
    exact ⟨d, hd, rfl⟩
  | cons c a => exact Or.inl ⟨c, fun v _ => rfl⟩

theorem afterHyphen_cases (f : Flags) (a : List Char) : (∃ c, ∀ v, Fill h.after v → afterHyphen f (a ++ v) = some c) ∨
    ∀ v, Fill h.after v → ∃ d, d.isDigit = true ∧ afterHyphen f (a ++ v) = some d := by
  by_cases hverbose : f.verbose = true
  · obtain ⟨a', -, ha'⟩ := trimLeft_cases a h.after
    by_cases hhash : a'.head? = some '#'
    · obtain ⟨a'', rfl⟩ := List.head?_eq_some_iff.mp hhash
      obtain ⟨b, -, hb⟩ := trimLeft_cases a'' h.after
      have hcomment : ∀ v, Fill h.after v → afterHyphen f (a ++ v) = (b ++ v).head? := by
        intro v hv
        rw [afterHyphen, if_pos hverbose, ha' v hv]
        exact congrArg List.head? (hb v hv)
      rcases head?_cases (h := h) b with ⟨c, hc⟩ | hd
      · exact Or.inl ⟨c, fun v hv => (hcomment v hv).trans (hc v hv)⟩
      · exact Or.inr fun v hv => by rw [hcomment v hv]; exact hd v hv
    · have hplain : ∀ v, Fill h.after v → afterHyphen f (a ++ v) = (a' ++ v).head? := by
        intro v hv
        have hhead := head?_append_ne rfl hhash hv
        rw [afterHyphen, if_pos hverbose, ha' v hv]
        split
        · rename_i hcons
          rw [hcons] at hhead
          exact absurd rfl hhead
        · rfl
      rcases head?_cases (h := h) a' with ⟨c, hc⟩ | hd
      · exact Or.inl ⟨c, fun v hv => (hplain v hv).trans (hc v hv)⟩
      · exact Or.inr fun v hv => by rw [hplain v hv]; exact hd v hv
  · have hplain : ∀ v, afterHyphen f (a ++ v) = (a ++ v).head? := fun v => by rw [afterHyphen, if_neg hverbose]
    rcases head?_cases (h := h) a with ⟨c, hc⟩ | hd
    · exact Or.inl ⟨c, fun v hv => (hplain v).trans (hc v hv)⟩
    · exact Or.inr fun v hv => by rw [hplain v]; exact hd v hv

/-- A hyphen stands for itself whatever fills the hole, or never. -/
theorem isLoneHyphen_eq (f : Flags) (a : List Char) {v : List Char} (hv : Fill h.after v) :
    isLoneHyphen f (a ++ v) = isLoneHyphen f (a ++ h.sample) := by
  unfold isLoneHyphen
  rcases afterHyphen_cases (h := h) f a with ⟨c, hc⟩ | hdigit
  · rw [hc v hv, hc _ h.fill_sample]
  · have hfalse : ∀ u, Fill h.after u → (afterHyphen f (a ++ u) == some ']' || afterHyphen f (a ++ u) == some '-') = false := by
      intro u hu
      obtain ⟨d, hd, hafter⟩ := hdigit u hu
      simp [hafter, ne_of_isDigit hd (c := ']') rfl, ne_of_isDigit hd (c := '-') rfl]
    rw [hfalse v hv, hfalse _ h.fill_sample]

theorem classRange_plain {f : Flags} {first : Atom} {c : Char} {t : List Char} (hc : c ≠ '-') :
    classRange f first (c :: t) = (first.single f).map (·, c :: t) := by
  simp [classRange, hc]

theorem classRange_hyphen (f : Flags) (first : Atom) (t : List Char) :
    classRange f first ('-' :: t) =
      if isLoneHyphen f t then (first.single f).map (·, '-' :: t)
      else classAtom f (f.skip t) >>= fun p => (first.rangeTo f p.1).map (·, p.2) := by
  rw [classRange]
  split
  · rfl
  · refine bind_congr fun ⟨last, rest⟩ => ?_
    dsimp only
    cases first.rangeTo f last <;> rfl

theorem classRange_near (f : Flags) (first : Atom) (a : List Char) : NearAt h (classRange f first) a := by
  have hsingle : ∀ {b : List Char}, (∀ v, Fill h.after v → classRange f first (b ++ v) = (first.single f).map (·, b ++ v)) →
      NearAt h (classRange f first) b := by
    intro b hb
    exact (localAt_value (first.single f)).near.of_eq (b := b) hb
  cases a with
  | nil =>
    refine hsingle fun v hv => ?_
    obtain ⟨d, v', rfl, hd⟩ := hv.cons
    exact classRange_plain (ne_of_isDigit hd rfl)
  | cons c a =>
    by_cases hc : c = '-'
    · subst hc
      by_cases hlone : isLoneHyphen f (a ++ h.sample) = true
      · refine hsingle fun v hv => ?_
        rw [List.cons_append, classRange_hyphen, isLoneHyphen_eq f a hv, if_pos hlone]
      · have hlast : NearAt h (fun t => classAtom f (f.skip t)) a :=
          NearAt.skip (fun a' _ => classAtom_near f a') fun t x t' hx => Nat.le_of_lt (classAtom_length hx)
        refine (NearAt.value (g := first.rangeTo f) hlast).of_eq fun v hv => ?_
        rw [List.cons_append, classRange_hyphen, isLoneHyphen_eq f a hv, if_neg hlone]
    · exact hsingle fun v _ => classRange_plain hc

theorem classMember_near (f : Flags) (a : List Char) : NearAt h (classMember f) a := by
  refine NearAt.bind (s := fun first t => classRange f first (f.skip t)) (classAtom_near f a) (fun first a' _ => ?_) ?_ ?_
  · exact NearAt.skip (fun b _ => classRange_near f first b) fun t x t' hx => classRange_length hx
  · intro first t m t' hx
    exact Nat.le_trans (classRange_length hx) (f.skip_length t)
  · intro first m c t t' hc hx c' u hc'
    have hmark : ∀ {c : Char}, isMark c = true → c ≠ '-' := by
      rintro c hc rfl
      exact absurd hc (by decide)
    rw [Flags.skip_of_isMark hc, classRange_plain (hmark hc)] at hx
    obtain ⟨m', hm', hpair⟩ := map_eq_ok.mp hx
    cases hpair
    rw [Flags.skip_of_isMark hc', classRange_plain (hmark hc'), hm']
    rfl

/-! ## Steps -/

theorem innerClass_local (f : Flags) (k : OpenClass) (outer : List OpenClass) (a : List Char) :
    LocalAt h (innerClass f k outer) a := by
  rcases namedClass?_cases (h := h) f a with ⟨s, a', ha'⟩ | hnone
  · refine (localAt_value (s.map fun s => ClassState.more (k.add ⟨s, 0⟩) outer)).of_eq (b := a') fun v hv => ?_
    rw [innerClass, ha' v hv]
    cases s <;> rfl
  · refine (LocalAt.map (g := fun inner => ClassState.more inner (k :: outer)) (openClass_local f a)).of_eq fun v hv => ?_
    rw [innerClass, hnone v hv]

/-- The two characters of an operator. -/
def operator? : Char → Option SetOperator
  | '&' => some .both
  | '-' => some .minus
  | '~' => some .either
  | _ => none

theorem operator?_of_isDigit {d : Char} (hd : d.isDigit = true) : operator? d = none := by
  unfold operator?
  split
  all_goals first
    | exact absurd hd (by decide)
    | rfl

theorem classStep_operator {f : Flags} {k : OpenClass} {outer : List OpenClass} {c : Char} {o : SetOperator}
    (ho : operator? c = some o) (t : List Char) :
    classStep f k outer (c :: c :: t) = .ok (.more (k.operator f o) outer, t) := by
  unfold operator? at ho
  split at ho
  all_goals cases ho
  all_goals rfl

theorem classStep_member {f : Flags} {k : OpenClass} {outer : List OpenClass} {c : Char} {t : List Char}
    (hopen : c ≠ '[') (hclose : c ≠ ']') (ho : operator? c = none ∨ t.head? ≠ some c) :
    classStep f k outer (c :: t) = (classMember f (c :: t)).map fun p => (.more (k.add p.1) outer, p.2) := by
  unfold classStep
  split
  all_goals simp_all [operator?]

/-- A step that takes the first digit of the hole reads a member. -/
theorem classStep_readsAt (f : Flags) (k : OpenClass) (outer : List OpenClass) (a : List Char) :
    ReadsAt h (fun x _ => Within h (classStep f k outer) a x ∧ ∃ m, x = .more (k.add m) outer) (classStep f k outer) a := by
  have hmember : (∀ v, Fill h.after v →
      classStep f k outer (a ++ v) = (classMember f (a ++ v)).map fun p => (.more (k.add p.1) outer, p.2)) →
      ReadsAt h (fun x _ => Within h (classStep f k outer) a x ∧ ∃ m, x = .more (k.add m) outer) (classStep f k outer) a :=
    fun heq => (classMember_near f a).image heq
  cases a with
  | nil =>
    refine hmember fun v hv => ?_
    obtain ⟨d, v', rfl, hd⟩ := hv.cons
    exact classStep_member (ne_of_isDigit hd rfl) (ne_of_isDigit hd rfl) (Or.inl (operator?_of_isDigit hd))
  | cons c a =>
    by_cases hopen : c = '['
    · subst hopen
      exact (innerClass_local f k outer a).readsAt.of_eq fun v _ => rfl
    by_cases hclose : c = ']'
    · subst hclose
      exact (localAt_value (closeClass f k outer)).readsAt.of_eq (b := a) fun v _ => rfl
    cases ho : operator? c with
    | none => exact hmember fun v _ => classStep_member hopen hclose (Or.inl ho)
    | some o =>
      by_cases ha : a.head? = some c
      · obtain ⟨a', rfl⟩ := List.head?_eq_some_iff.mp ha
        exact (localAt_ok (a := a') (ClassState.more (k.operator f o) outer)).readsAt.of_eq fun v _ => classStep_operator ho _
      · have hc : c.isDigit = false := by
          by_cases hc : c.isDigit = true
          · rw [operator?_of_isDigit hc] at ho
            cases ho
          · exact Bool.eq_false_iff.mpr hc
        exact hmember fun v hv => classStep_member hopen hclose (Or.inr (head?_append_ne hc ha hv))

/-! ## Classes -/

/-- Reads on in the state, if the outermost class is still open. -/
def classFrom (f : Flags) : ClassState → Reader Nested
  | .more k outer, t => classBody f (t.length + 1) k outer t
  | .closed m, t => .ok (m, t)

theorem classFrom_length {f : Flags} {x : ClassState} {t rest : List Char} {m : Nested}
    (hm : classFrom f x t = .ok (m, rest)) : rest.length ≤ t.length := by
  cases x with
  | more k outer => exact classBody_length hm
  | closed m =>
    cases hm
    exact Nat.le_refl _

theorem classBody_eq (f : Flags) (k : OpenClass) (outer : List OpenClass) (t : List Char) :
    classBody f (t.length + 1) k outer t = classStep f k outer (f.skip t) >>= fun p => classFrom f p.1 p.2 := by
  unfold classBody
  cases hstep : classStep f k outer (f.skip t) with
  | error e => rfl
  | ok p =>
    obtain ⟨x, rest⟩ := p
    have hskip := f.skip_length t
    have hlength := classStep_length hstep
    cases x with
    | more k outer => exact classBody_fuel (by omega) (Nat.lt_succ_self _)
    | closed m => rfl

/-- Before another mark, a mark is a member. -/
theorem classStep_mark {f : Flags} {k : OpenClass} {outer : List OpenClass} {c c' : Char} {t : List Char}
    (hc : isMark c = true) (hc' : isMark c' = true) :
    classStep f k outer (f.skip (c :: c' :: t)) = .ok (.more (k.add ⟨.one c, 0⟩) outer, c' :: t) := by
  have hoperator : operator? c = none := by
    simp only [isMark, Bool.or_eq_true, beq_iff_eq] at hc
    rcases hc with hc | rfl
    · exact operator?_of_isDigit hc
    · rfl
  have hatom : classAtom f (c :: c' :: t) = .ok (.literal c, c' :: t) := by
    simp [classAtom, ne_of_isMark hc (d := '\\') rfl]
  have hsingle : (Atom.literal c).single f = .ok ⟨.one c, 0⟩ := by
    simp [Atom.single, Atom.member, toNat_of_isMark hc, Except.map]
  rw [Flags.skip_of_isMark hc, classStep_member (ne_of_isMark hc rfl) (ne_of_isMark hc rfl) (Or.inl hoperator), classMember,
    hatom]
  show (classRange f (.literal c) (f.skip (c' :: t))).map _ = _
  rw [Flags.skip_of_isMark hc', classRange_plain (ne_of_isMark hc' rfl), hsingle]
  rfl

/-- The members that the marks between the first digit of the hole and the last are. -/
theorem classFrom_marks (f : Flags) (k : OpenClass) (outer : List OpenClass) {m : List Char}
    (hm : ∀ c ∈ m, isMark c = true) : ∃ k' : OpenClass, k'.negated = k.negated ∧ k'.pending = k.pending ∧
      greatest (k'.members.map (·.depth)) = greatest (k.members.map (·.depth)) ∧ k.members.length ≤ k'.members.length ∧
      classFrom f (.more k outer) (m ++ h.last :: h.after) = classFrom f (.more k' outer) (h.last :: h.after) := by
  induction m generalizing k with
  | nil => exact ⟨k, rfl, rfl, rfl, Nat.le_refl _, rfl⟩
  | cons c m ih =>
    have hm' : ∀ c ∈ m, isMark c = true := fun c' hc' => hm c' (List.mem_cons_of_mem c hc')
    obtain ⟨k', hnegated, hpending, hdeepest, hlength, heq⟩ := ih (k.add ⟨.one c, 0⟩) hm'
    refine ⟨k', hnegated, hpending, ?_, ?_, ?_⟩
    · rw [hdeepest, OpenClass.add, List.map_cons, greatest_cons]
      exact Nat.zero_max _
    · exact Nat.le_of_succ_le hlength
    · obtain ⟨c', t, hct, hc'⟩ := h.after_first hm'
      rw [List.cons_append, ← heq, hct]
      show classBody f ((c :: c' :: t).length + 1) k outer (c :: c' :: t) = _
      rw [classBody_eq, classStep_mark (hm c List.mem_cons_self) hc']
      rfl

/-- After the first digit of the hole, how the class goes on does not depend on what comes before the last. -/
theorem classFrom_through {f : Flags} {k : OpenClass} {outer : List OpenClass} (hk : k.members ≠ []) {x : Nested}
    {rest : List Char} (hx : classFrom f (.more k outer) ('|' :: (h.middle ++ h.last :: h.after)) = .ok (x, rest)) :
    rest.length ≤ h.after.length ∧ ∀ m, (∀ c ∈ m, isMark c = true) →
      ∃ x', classFrom f (.more k outer) (m ++ h.last :: h.after) = .ok (x', rest) ∧ x.depth = x'.depth := by
  have hlast : isMark h.last = true := by simp [isMark, h.last_isDigit]
  have hstep : ∀ k' : OpenClass, classFrom f (.more k' outer) (h.last :: h.after) =
      (classMember f (h.last :: h.after)).map (fun p => (ClassState.more (k'.add p.1) outer, p.2)) >>=
        fun p => classFrom f p.1 p.2 := by
    intro k'
    show classBody f ((h.last :: h.after).length + 1) k' outer (h.last :: h.after) = _
    rw [classBody_eq, Flags.skip_of_isMark hlast, classStep_member (ne_of_isMark hlast rfl) (ne_of_isMark hlast rfl)
      (Or.inl (operator?_of_isDigit h.last_isDigit))]
  have hpos : 1 ≤ k.members.length := List.length_pos_iff.mpr hk
  obtain ⟨k₁, hnegated₁, hpending₁, hdeepest₁, hlength₁, heq₁⟩ := classFrom_marks f k outer h.sample_isMark
  rw [show '|' :: (h.middle ++ h.last :: h.after) = '|' :: h.middle ++ h.last :: h.after from rfl, heq₁, hstep] at hx
  obtain ⟨⟨y, t⟩, hy, hx⟩ := bind_eq_ok.mp hx
  obtain ⟨⟨m₀, t'⟩, hm₀, hpair⟩ := map_eq_ok.mp hy
  cases hpair
  have ht : t'.length ≤ h.after.length := Nat.le_of_lt_succ (classMember_length hm₀)
  refine ⟨Nat.le_trans (classFrom_length hx) ht, fun m hm => ?_⟩
  obtain ⟨k₂, hnegated₂, hpending₂, hdeepest₂, hlength₂, heq₂⟩ := classFrom_marks f k outer hm
  rw [heq₂, hstep, hm₀]
  -- Both classes have two members by now, of which the deepest are equally deep.
  have halike : (k₁.add m₀).Alike (k₂.add m₀) := by
    refine ⟨hnegated₁.trans hnegated₂.symm, congrArg _ (hpending₁.trans hpending₂.symm), ?_, ?_⟩
    · simp only [OpenClass.add, List.map_cons, greatest_cons, hdeepest₁, hdeepest₂]
    · simp only [OpenClass.add, List.length_cons]
      omega
  exact classBody_alike halike (List.forall₂_same.mpr fun k' _ => .refl k') hx

/-- A class is read before the hole or past it, or with the hole in it to the same depth. -/
theorem classFrom_readsAt (f : Flags) (x : ClassState) (a : List Char) :
    ReadsAt h (fun m rest => Through h (·.depth = ·.depth) (classFrom f x) a m rest) (classFrom f x) a := by
  induction hn : a.length using Nat.strongRecOn generalizing x a with
  | _ n ih =>
    subst hn
    cases x with
    | closed m => exact (localAt_ok m).readsAt
    | more k outer =>
      have hform : classFrom f (.more k outer) = fun t => classStep f k outer (f.skip t) >>= fun p => classFrom f p.1 p.2 := by
        funext t
        exact classBody_eq f k outer t
      have hstep : ReadsAt h (fun x _ => Within h (fun t => classStep f k outer (f.skip t)) a x ∧
          ∃ m, x = .more (k.add m) outer) (fun t => classStep f k outer (f.skip t)) a := by
        refine ReadsAt.skip (fun a' _ ha' => (classStep_readsAt f k outer a').mono ?_) fun t x t' hx =>
          Nat.le_of_lt (classStep_length hx)
        intro x _ hw
        exact ⟨hw.1.of_eq fun v hv => by rw [ha' v hv], hw.2⟩
      rw [hform]
      refine ReadsAt.bind (s := classFrom f) hstep (fun x a' ha' => ?_) (fun x t m t' hm => classFrom_length hm) ?_
      · have hlt : a'.length < a.length := by
          have hlength := classStep_length (ha' _ h.fill_sample)
          have hskip := f.skip_length (a ++ h.sample)
          simp only [List.length_append] at hlength hskip
          omega
        refine (ih a'.length hlt x a' rfl).mono fun m rest hm => hm.of_eq fun v hv => ?_
        rw [ha' v hv]
        rfl
      · rintro x rest hx ⟨hwithin, m₀, rfl⟩ m rest' hm
        rw [hwithin.rest_eq hx] at hm
        obtain ⟨hle, hthrough⟩ := classFrom_through (List.cons_ne_nil m₀ k.members) hm
        refine ⟨hle, fun u hu => ?_⟩
        have hfirst : classStep f k outer (f.skip (a ++ h.fill u)) = _ := hwithin u hu
        dsimp only
        rw [hfirst]
        exact hthrough u hu

theorem bracketClass_readsAt (f : Flags) (a : List Char) :
    ReadsAt h (fun m rest => Through h (·.depth = ·.depth) (bracketClass f) a m rest) (bracketClass f) a := by
  have hform : bracketClass f = fun t => openClass f t >>= fun p => classFrom f (.more p.1 []) p.2 := rfl
  rw [hform]
  refine LocalAt.bind (s := fun k => classFrom f (.more k [])) (openClass_local f a) (fun k a' ha' => ?_)
    fun k t m t' hm => classFrom_length hm
  refine (classFrom_readsAt f (.more k []) a').mono fun m rest hm => hm.of_eq fun v hv => ?_
  rw [ha' v hv]
  rfl

end DeltaLint.Pattern

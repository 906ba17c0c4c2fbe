import DeltaLint.Proofs.Pattern.Hole
import DeltaLint.Proofs.Pattern.Names

/-
  DeltaLint.Proofs.Pattern.GroupHole — openings of groups and repetitions at a hole.

  Neither a digit nor a bar is a mode, no name of a group has a bar in it, and a count is followed by a
  comma or a brace. So the readers of all these are local.
-/

namespace DeltaLint.Pattern

open Unicode

variable {h : Hole}

/-! ## Groups -/

theorem Flags.switch_of_isDigit (f : Flags) (on : Bool) {d : Char} (hd : d.isDigit = true) : f.switch on d = none := by
  have hne : ∀ {c : Char}, c.isDigit = false → d ≠ c := ne_of_isDigit hd
  unfold Flags.switch
  split
  all_goals first
    | exact absurd rfl (hne rfl)
    | rfl

theorem Flags.read_of_isDigit (f : Flags) (on : Bool) (seen : List Char) {d : Char} (hd : d.isDigit = true)
    (t : List Char) : f.read on seen (d :: t) = .error .badFlags := by
  have hcolon : d ≠ ':' := ne_of_isDigit hd rfl
  have hclose : d ≠ ')' := ne_of_isDigit hd rfl
  have hhyphen : d ≠ '-' := ne_of_isDigit hd rfl
  simp [Flags.read, hcolon, hclose, hhyphen, f.switch_of_isDigit on hd]

theorem Flags.read_local (f : Flags) (on : Bool) (seen a : List Char) : LocalAt h (f.read on seen) a := by
  induction a generalizing f on seen with
  | nil => exact ReadsAt.of_error (f.read_of_isDigit on seen h.first_isDigit _)
  | cons c a ih =>
    by_cases hend : c = ':' ∨ c = ')'
    · by_cases hhyphen : seen.head? = some '-'
      · exact ReadsAt.of_error (e := .badFlags) (by simp [Flags.read, hend, hhyphen])
      · exact ReadsAt.of_before (x := f) (b := c :: a) fun v _ => by simp [Flags.read, hend, hhyphen]
    · by_cases hseen : seen.contains c = true
      · refine ReadsAt.of_error (e := .badFlags) ?_
        rw [List.cons_append, Flags.read, if_neg hend, if_pos hseen]
      · by_cases hhyphen : c = '-'
        · refine (ih f false (c :: seen)).of_eq fun v _ => ?_
          rw [List.cons_append, Flags.read, if_neg hend, if_neg hseen, if_pos hhyphen]
        · cases hswitch : f.switch on c with
          | none =>
            refine ReadsAt.of_error (e := .badFlags) ?_
            rw [List.cons_append, Flags.read, if_neg hend, if_neg hseen, if_neg hhyphen, hswitch]
          | some g =>
            refine (ih g on (c :: seen)).of_eq fun v _ => ?_
            rw [List.cons_append, Flags.read, if_neg hend, if_neg hseen, if_neg hhyphen, hswitch]

/-- Modes are read up to a colon or a closing parenthesis. -/
theorem Flags.read_stops {f g : Flags} {on : Bool} {seen t rest : List Char} (hread : f.read on seen t = .ok (g, rest)) :
    ∃ c rest', rest = c :: rest' ∧ (c = ':' ∨ c = ')') := by
  induction t generalizing f on seen with
  | nil => cases hread
  | cons c t ih =>
    unfold Flags.read at hread
    split at hread
    · rename_i hend
      split at hread
      · cases hread
      · cases hread
        exact ⟨c, t, rfl, hend⟩
    · split at hread
      · cases hread
      · split at hread
        · exact ih hread
        · split at hread
          · exact ih hread
          · cases hread

/-- The name of a group is what stands before the first `>`. -/
theorem groupName_append {p t : List Char} (hp : '>' ∉ p) :
    (p ++ '>' :: t).takeWhile (· != '>') = p ∧ (p ++ '>' :: t).dropWhile (· != '>') = '>' :: t := by
  have hne : ∀ c ∈ p, (c != '>') = true := by
    intro c hc
    rw [bne_iff_ne]
    rintro rfl
    exact hp hc
  rw [List.takeWhile_append_of_pos hne, List.dropWhile_append_of_pos hne]
  simp

theorem groupName_local (a : List Char) : LocalAt h groupName a := by
  by_cases hend : '>' ∈ a
  · obtain ⟨p, q, rfl, hp⟩ := List.eq_append_cons_of_mem hend
    have hname : ∀ v, groupName (p ++ '>' :: q ++ v) = groupName (p ++ ['>']) >>= fun r => .ok (r.1, q ++ v) := by
      intro v
      rw [List.append_assoc, List.cons_append]
      unfold groupName
      simp only [(groupName_append (t := q ++ v) hp).1, (groupName_append (t := q ++ v) hp).2,
        (groupName_append (t := []) hp).1, (groupName_append (t := []) hp).2]
      cases p with
      | nil => rfl
      | cons c cs =>
        dsimp only
        split <;> rfl
    cases hp' : groupName (p ++ ['>']) with
    | error e => exact ReadsAt.of_error (e := e) (by rw [hname, hp']; rfl)
    | ok r => exact ReadsAt.of_before (x := r.1) (b := q) fun v _ => by rw [hname, hp']; rfl
  · -- The name goes on into the hole, and no name has a bar in it.
    have hne : ∀ c ∈ a ++ [h.first, '|'], (c != '>') = true := by
      intro c hc
      rw [bne_iff_ne]
      rintro rfl
      rcases List.mem_append.mp hc with hc | hc
      · exact hend hc
      · rcases List.mem_cons.mp hc with hc | hc
        · exact absurd hc.symm (ne_of_isDigit h.first_isDigit rfl)
        · exact absurd (List.mem_singleton.mp hc) (by decide)
    have hsample : a ++ h.sample = a ++ [h.first, '|'] ++ (h.middle ++ h.last :: h.after) := by
      simp [Hole.sample, Hole.fill]
    obtain ⟨c, cs, hcs, hbar⟩ : ∃ c cs, (a ++ h.sample).takeWhile (· != '>') = c :: cs ∧ '|' ∈ cs := by
      rw [hsample, List.takeWhile_append_of_pos hne]
      cases a with
      | nil => exact ⟨h.first, _, rfl, List.mem_cons_self⟩
      | cons c a => exact ⟨c, _, rfl, by simp⟩
    have hall : cs.all isNameChar = false := by
      by_cases hall : cs.all isNameChar = true
      · have := List.all_eq_true.mp hall '|' hbar
        rw [not_isNameChar_bar] at this
        cases this
      · exact Bool.eq_false_iff.mpr hall
    refine ReadsAt.of_error (e := .badGroupName) ?_
    unfold groupName
    simp only [hcs]
    split
    · rename_i heq _
      cases heq
      rw [hall, Bool.and_false]
      rfl
    · rfl

theorem closeFlags_local (leftOut : Bool) (g : Flags) (c : Char) (a : List Char) :
    LocalAt h (closeFlags leftOut g) (c :: a) := by
  by_cases hc : c = ':'
  · subst hc
    exact (localAt_ok (Token.openGroup false none g)).of_eq fun v _ => rfl
  · cases leftOut with
    | true => exact ReadsAt.of_error (e := .nothingToRepeat) (by simp [closeFlags])
    | false => exact ReadsAt.of_before (x := Token.setFlags g) (b := a) fun v _ => by simp [closeFlags]

theorem groupFlags_local (f : Flags) (a : List Char) : LocalAt h (groupFlags f) a := by
  cases a with
  | nil =>
    refine ReadsAt.of_error (e := .badFlags) ?_
    rw [List.nil_append, Hole.sample, Hole.fill, groupFlags, f.read_of_isDigit true [] h.first_isDigit]
    rfl
  | cons c a =>
    have hflags : LocalAt h (fun t => f.read true [] t >>= fun p => closeFlags (some c == some ')') p.1 p.2) (c :: a) := by
      refine LocalAt.bind (f.read_local true [] (c :: a)) (fun g a' ha' => ?_) fun g t x t' hx => closeFlags_length hx
      cases a' with
      | nil =>
        obtain ⟨c', rest', hrest, hend⟩ := Flags.read_stops (ha' _ h.fill_sample)
        cases hrest
        rcases hend with hend | hend
        · exact absurd hend (ne_of_isDigit h.first_isDigit rfl)
        · exact absurd hend (ne_of_isDigit h.first_isDigit rfl)
      | cons d a' => exact closeFlags_local _ g d a'
    exact hflags.of_eq fun v _ => rfl

theorem groupKind_flags {f : Flags} {c : Char} {t : List Char} (hequal : c ≠ '=') (hbang : c ≠ '!') (hless : c ≠ '<')
    (hP : c ≠ 'P' ∨ t.head? ≠ some '<') : groupKind f (c :: t) = groupFlags f (c :: t) := by
  unfold groupKind
  split
  all_goals simp_all

theorem groupKind_name {f : Flags} {t : List Char} (hequal : t.head? ≠ some '=') (hbang : t.head? ≠ some '!') :
    groupKind f ('<' :: t) = (groupName t).map fun p => (.openGroup true (some p.1) f, p.2) := by
  unfold groupKind
  split
  all_goals simp_all

theorem groupKind_local (f : Flags) (a : List Char) : LocalAt h (groupKind f) a := by
  have hname : ∀ a, LocalAt h (fun t => (groupName t).map fun p => (Token.openGroup true (some p.1) f, p.2)) a :=
    fun a => LocalAt.map (g := fun name => Token.openGroup true (some name) f) (groupName_local a)
  cases a with
  | nil =>
    refine (groupFlags_local f []).of_eq fun v hv => ?_
    obtain ⟨d, v', rfl, hd⟩ := hv.cons
    exact groupKind_flags (ne_of_isDigit hd rfl) (ne_of_isDigit hd rfl) (ne_of_isDigit hd rfl)
      (Or.inl (ne_of_isDigit hd rfl))
  | cons c a =>
    by_cases hequal : c = '='
    · subst hequal
      exact ReadsAt.of_error (e := .lookAround) rfl
    by_cases hbang : c = '!'
    · subst hbang
      exact ReadsAt.of_error (e := .lookAround) rfl
    by_cases hless : c = '<'
    · subst hless
      by_cases hequal : a.head? = some '='
      · obtain ⟨a', rfl⟩ := List.head?_eq_some_iff.mp hequal
        exact ReadsAt.of_error (e := .lookAround) rfl
      by_cases hbang : a.head? = some '!'
      · obtain ⟨a', rfl⟩ := List.head?_eq_some_iff.mp hbang
        exact ReadsAt.of_error (e := .lookAround) rfl
      exact (hname a).of_eq fun v hv => groupKind_name (head?_append_ne rfl hequal hv) (head?_append_ne rfl hbang hv)
    by_cases hP : c = 'P' ∧ a.head? = some '<'
    · obtain ⟨rfl, ha⟩ := hP
      obtain ⟨a', rfl⟩ := List.head?_eq_some_iff.mp ha
      exact (hname a').of_eq fun v _ => rfl
    · refine (groupFlags_local f (c :: a)).of_eq fun v hv => groupKind_flags hequal hbang hless ?_
      by_cases hc : c = 'P'
      · exact Or.inr (head?_append_ne rfl (fun ha => hP ⟨hc, ha⟩) hv)
      · exact Or.inl hc

/-- What an opening parenthesis starts, once the white space after it is skipped. -/
def groupStart (f : Flags) : Reader Token := fun text =>
  match text with
  | '?' :: rest => groupKind f rest
  | rest => .ok (.openGroup true none f, rest)

theorem groupStart_plain {f : Flags} {t : List Char} (h : t.head? ≠ some '?') :
    groupStart f t = .ok (.openGroup true none f, t) := by
  unfold groupStart
  split
  · exact absurd rfl h
  · rfl

theorem group_local (f : Flags) (a : List Char) : LocalAt h (group f) a := by
  refine ReadsAt.skip (r := groupStart f) (fun a' _ _ => ?_) ?_
  · cases a' with
    | nil =>
      refine ReadsAt.of_before (x := Token.openGroup true none f) (b := []) fun v hv => groupStart_plain ?_
      obtain ⟨d, v', rfl, hd⟩ := hv.cons
      exact fun heq => ne_of_isDigit hd rfl (Option.some.inj heq)
    | cons c a' =>
      by_cases hc : c = '?'
      · subst hc
        exact (groupKind_local f a').of_eq fun v _ => rfl
      · exact ReadsAt.of_before (x := Token.openGroup true none f) (b := c :: a') fun v _ =>
          groupStart_plain fun heq => hc (Option.some.inj heq)
  · intro t x t' hx
    unfold groupStart at hx
    split at hx
    · exact Nat.le_succ_of_le (groupKind_length hx)
    · cases hx
      exact Nat.le_refl _

/-! ## Repetitions -/

theorem repetition_local (f : Flags) (least : Nat) (most : Option Nat) (a : List Char) :
    LocalAt h (fun t => .ok (repetition f least most t)) a := by
  have hplain : ∀ {t : List Char}, t.head? ≠ some '?' → repetition f least most t = (.repetition least most f.fewFirst, t) := by
    intro t ht
    unfold repetition
    split
    · exact absurd rfl ht
    · rfl
  by_cases hmark : a.head? = some '?'
  · obtain ⟨a', rfl⟩ := List.head?_eq_some_iff.mp hmark
    exact ReadsAt.of_before (x := Token.repetition least most !f.fewFirst) (b := a') fun v _ => rfl
  · refine ReadsAt.of_before (x := Token.repetition least most f.fewFirst) (b := a) fun v hv => ?_
    rw [hplain (head?_append_ne rfl hmark hv)]

/-- The digits of a count go on to the bar of the sample, where the count fails. -/
theorem countDigits_readsAt (f : Flags) (a : List Char) :
    ReadsAt h (fun _ rest => rest.head? = some '|') (fun t => .ok (countDigits f t.length t)) a := by
  induction hn : a.length using Nat.strongRecOn generalizing a with
  | _ n ih =>
    subst hn
    cases a with
    | nil =>
      intro ds rest hx
      refine Or.inr (Or.inr ?_)
      rw [List.nil_append, Hole.sample, Hole.fill, List.cons_append] at hx
      dsimp only at hx
      rw [List.length_cons, countDigits, if_pos h.first_isDigit, Flags.skip_of_isMark rfl] at hx
      cases hx
      rfl
    | cons c a =>
      by_cases hc : c.isDigit = true
      · have hrest : ReadsAt h (fun _ rest => rest.head? = some '|')
            (fun t => .ok (countDigits f (f.skip t).length (f.skip t))) a :=
          ReadsAt.skip (r := fun t => .ok (countDigits f t.length t))
            (fun a' hle _ => ih a'.length (Nat.lt_succ_of_le hle) a' rfl) fun t x t' ht => by
              have := countDigits_length f t.length t
              rwa [Except.ok.inj ht] at this
        have hcons : ReadsAt h (fun _ rest => rest.head? = some '|') (fun t =>
            (Except.ok (countDigits f (f.skip t).length (f.skip t)) : Except Fault _) >>= fun p => .ok (c :: p.1, p.2)) a := by
          refine ReadsAt.bind (s := fun ds t => .ok (c :: ds, t)) hrest (fun ds a' _ => (localAt_ok (c :: ds)).readsAt) ?_ ?_
          · intro ds t x t' hx
            cases hx
            exact Nat.le_refl _
          · intro ds t _ hbar x t' hx
            cases hx
            exact hbar
        refine hcons.of_eq fun v _ => ?_
        rw [List.cons_append, List.length_cons, countDigits, if_pos hc, countDigits_fuel (f.skip_length _) (Nat.le_refl _)]
        rfl
      · refine ReadsAt.of_before (x := []) (b := c :: a) fun v _ => ?_
        rw [List.cons_append, List.length_cons, countDigits, if_neg hc]

/-- The number that the digits stand for. -/
def countValue (ds : List Char) : Except Fault Nat :=
  if ds.isEmpty then .error .emptyCount
  else match Text.decimal? Text.word32 ds with
    | some n => .ok n
    | none => .error .badCount

theorem someCount_eq (f : Flags) (t : List Char) :
    someCount f t = (countValue (countDigits f (trimLeft t).length (trimLeft t)).1).map
      (·, trimLeft (countDigits f (trimLeft t).length (trimLeft t)).2) := by
  simp only [someCount, count, countValue]
  rcases countDigits f (trimLeft t).length (trimLeft t) with ⟨ds, rest⟩
  dsimp only
  split
  · rfl
  · cases Text.decimal? Text.word32 ds <;> rfl

theorem someCount_readsAt (f : Flags) (a : List Char) :
    ReadsAt h (fun _ rest => rest.head? = some '|') (someCount f) a := by
  obtain ⟨a', -, ha'⟩ := trimLeft_cases a h.after
  have hvalue : ReadsAt h (fun _ rest => rest.head? = some '|') (fun t =>
      (Except.ok (countDigits f t.length t) : Except Fault _) >>= fun p => (countValue p.1).map (·, trimLeft p.2)) a' := by
    refine ReadsAt.bind (s := fun ds t => (countValue ds).map (·, trimLeft t)) (countDigits_readsAt f a') ?_ ?_ ?_
    · intro ds a'' _ n rest hn
      obtain ⟨b, -, hb⟩ := trimLeft_cases a'' h.after
      obtain ⟨n', hn', hpair⟩ := map_eq_ok.mp hn
      cases hpair
      exact Or.inl ⟨b, fun v hv => by dsimp only; rw [hn', hb v hv]; rfl⟩
    · intro ds t n t' hn
      obtain ⟨n', -, hpair⟩ := map_eq_ok.mp hn
      cases hpair
      exact trimLeft_length t
    · intro ds rest _ hbar n rest' hn
      obtain ⟨n', -, hpair⟩ := map_eq_ok.mp hn
      cases hpair
      obtain ⟨t, rfl⟩ := List.head?_eq_some_iff.mp hbar
      rw [trimLeft, List.dropWhile_cons_of_neg (by decide)]
      rfl
  refine hvalue.of_eq fun v hv => ?_
  rw [someCount_eq, ha' v hv]
  rfl

theorem mostCount_readsAt (f : Flags) (a : List Char) :
    ReadsAt h (fun _ rest => rest.head? = some '|') (mostCount f) a := by
  by_cases hbrace : a.head? = some '\x7d'
  · obtain ⟨a', rfl⟩ := List.head?_eq_some_iff.mp hbrace
    exact ReadsAt.of_before (x := none) (b := '\x7d' :: a') fun v _ => rfl
  · have hsome : ReadsAt h (fun _ rest => rest.head? = some '|') (fun t => someCount f t >>= fun p => .ok (some p.1, p.2)) a := by
      refine ReadsAt.bind (s := fun n t => .ok (some n, t)) (someCount_readsAt f a)
        (fun n a' _ => (localAt_ok (some n)).readsAt) ?_ ?_
      · intro n t x t' hx
        cases hx
        exact Nat.le_refl _
      · intro n t _ hbar x t' hx
        cases hx
        exact hbar
    refine hsome.of_eq fun v hv => ?_
    have hhead := head?_append_ne rfl hbrace hv
    unfold mostCount
    split
    · rename_i hnil
      obtain ⟨d, v', rfl, hd⟩ := hv.cons
      cases a <;> cases hnil
    · rename_i hcons
      rw [hcons] at hhead
      exact absurd rfl hhead
    · cases someCount f (a ++ v) <;> rfl

theorem mostCount_length {f : Flags} {t rest : List Char} {most : Option Nat} (hmost : mostCount f t = .ok (most, rest)) :
    rest.length ≤ t.length := by
  unfold mostCount at hmost
  split at hmost
  · cases hmost
  · cases hmost
    exact Nat.le_refl _
  · obtain ⟨p, hp, hpair⟩ := map_eq_ok.mp hmost
    cases hpair
    exact someCount_length hp

theorem upperCount_plain {f : Flags} {least : Nat} {t : List Char} (ht : t.head? ≠ some ',') :
    upperCount f least t = .ok (some least, t) := by
  unfold upperCount
  split
  · exact absurd rfl ht
  · rfl

theorem upperCount_readsAt (f : Flags) (least : Nat) (a : List Char) :
    ReadsAt h (fun _ rest => rest.head? = some '|') (upperCount f least) a := by
  by_cases hcomma : a.head? = some ','
  · obtain ⟨a', rfl⟩ := List.head?_eq_some_iff.mp hcomma
    have hmost : ReadsAt h (fun _ rest => rest.head? = some '|') (fun t => mostCount f (f.skip t)) a' :=
      ReadsAt.skip (fun b _ _ => mostCount_readsAt f b) fun t most t' ht => mostCount_length ht
    exact hmost.of_eq fun v _ => rfl
  · exact ReadsAt.of_before (x := some least) (b := a) fun v hv => upperCount_plain (head?_append_ne rfl hcomma hv)

theorem closeCount_fails {f : Flags} {least : Nat} {most : Option Nat} {t : List Char} (ht : t.head? ≠ some '\x7d') :
    closeCount f least most t = .error .unclosedCount := by
  unfold closeCount
  split
  · exact absurd rfl ht
  · rfl

theorem closeCount_local (f : Flags) (least : Nat) (most : Option Nat) (a : List Char) :
    LocalAt h (closeCount f least most) a := by
  by_cases hbrace : a.head? = some '\x7d'
  · obtain ⟨a', rfl⟩ := List.head?_eq_some_iff.mp hbrace
    by_cases hmost : most.any (· < least) = true
    · exact ReadsAt.of_error (e := .badCount) (by simp [closeCount, hmost])
    · have hrepetition : LocalAt h (fun t => .ok (repetition f least most (f.skip t))) a' :=
        ReadsAt.skip (r := fun t => .ok (repetition f least most t)) (fun b _ _ => repetition_local f least most b)
          fun t x t' ht => by
            have := repetition_length f least most t
            rwa [Except.ok.inj ht] at this
      exact hrepetition.of_eq fun v _ => by simp [closeCount, hmost]
  · exact ReadsAt.of_error (closeCount_fails (head?_append_ne rfl hbrace h.fill_sample))

theorem counted_local (f : Flags) (a : List Char) : LocalAt h (counted f) a := by
  have hbounds : ∀ b : List Char, LocalAt h (fun t => someCount f t >>= fun p =>
      upperCount f p.1 p.2 >>= fun q => closeCount f p.1 q.1 q.2) b := by
    intro b
    refine ReadsAt.bind (s := fun least t => upperCount f least t >>= fun q => closeCount f least q.1 q.2)
      (someCount_readsAt f b) (fun least b' _ => ?_) ?_ ?_
    · refine ReadsAt.bind (upperCount_readsAt f least b') (fun most b'' _ => closeCount_local f least most b'')
        (fun most t x t' hx => closeCount_length hx) ?_
      intro most rest _ hbar x t' hx
      rw [closeCount_fails (by rw [hbar]; decide)] at hx
      cases hx
    · intro least t x t' hx
      obtain ⟨⟨most, t''⟩, hmost, hclose⟩ := bind_eq_ok.mp hx
      exact Nat.le_trans (closeCount_length hclose) (upperCount_length hmost)
    · intro least rest _ hbar x t' hx
      rw [upperCount_plain (by rw [hbar]; decide)] at hx
      have hx : closeCount f least (some least) rest = .ok (x, t') := hx
      rw [closeCount_fails (by rw [hbar]; decide)] at hx
      cases hx
  refine ReadsAt.skip (r := fun t => if t.isEmpty then .error .unclosedCount else someCount f t >>= fun p =>
      upperCount f p.1 p.2 >>= fun q => closeCount f p.1 q.1 q.2) (fun b _ _ => ?_) ?_
  · refine (hbounds b).of_eq fun v hv => ?_
    obtain ⟨d, v', rfl, -⟩ := hv.cons
    cases b <;> rfl
  · intro t x t' hx
    split at hx
    · cases hx
    · obtain ⟨⟨least, t1⟩, hleast, hx⟩ := bind_eq_ok.mp hx
      obtain ⟨⟨most, t2⟩, hmost, hclose⟩ := bind_eq_ok.mp hx
      exact Nat.le_trans (closeCount_length hclose) (Nat.le_trans (upperCount_length hmost) (someCount_length hleast))

end DeltaLint.Pattern

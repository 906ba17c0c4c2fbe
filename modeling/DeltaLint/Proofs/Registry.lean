import DeltaLint.Linter
import DeltaLint.Proofs.Keyed
import DeltaLint.Proofs.Utf8

/-
  DeltaLint.Proofs.Registry — a registry is what was added to it, in order.

  A registry that was filled linter by linter answers from the log of what was added: the linters of an
  extension are those added under it, in order (`under`), and an extension without any is not there. Of
  the linters that run a program the first is the one of the smallest extension, and there the oldest
  (`FirstRunning`).

  Proved:
  - `ordered_ofList`: extensions increase, and none is without linters.
  - `get?_ofList_eq_some_iff` / `get?_ofList_eq_none_iff`: what is there for an extension.
  - `firstRunning?_eq_some_iff`: which linter is taken for the one that runs a program.
  - `answers_ofList`: every question is answered from the log.
  - `ofList_answers_log`: how a log mixes the linters of several extensions does not matter.
-/

namespace DeltaLint.Registry

/-- The extensions increase, and each has linters. -/
structure Ordered (r : Registry) : Prop where
  increasing : Keyed.Increasing compare r.entries
  full : ∀ e ∈ r.entries, e.2 ≠ []

/-- The linters that a log adds under an extension, in order. -/
def under (log : List (String × Linter)) (extension : String) : List Linter :=
  (log.filter (·.1 == extension)).map (·.2)

/-! ## Adding -/

theorem ordered_empty : empty.Ordered := ⟨List.Pairwise.nil, by simp [empty]⟩

theorem Ordered.add {r : Registry} (h : r.Ordered) (extension : String) (l : Linter) : (r.add extension l).Ordered := by
  refine ⟨Keyed.increasing_alter extension _ h.increasing, fun e he => ?_⟩
  rcases Keyed.mem_alter he with he | ⟨-, hnew | ⟨e', -, hnew⟩⟩
  · exact h.full e he
  · simp [hnew]
  · simp [hnew]

theorem get?_add {r : Registry} (h : r.Ordered) (extension extension' : String) (l : Linter) :
    (r.add extension l).get? extension' =
      if extension' = extension then some ((r.get? extension).getD [] ++ [l]) else r.get? extension' := by
  simp only [get?, Registry.add, Keyed.find?_alter _ _ _ h.increasing, Std.LawfulEqOrd.compare_eq_iff_eq]
  split
  · rename_i heq
    rw [heq]
  · rfl

/-! ## The log -/

theorem ofList_concat (log : List (String × Linter)) (extension : String) (l : Linter) :
    ofList (log ++ [(extension, l)]) = (ofList log).add extension l := by
  simp [ofList]

theorem under_concat (log : List (String × Linter)) (extension extension' : String) (l : Linter) :
    under (log ++ [(extension', l)]) extension =
      under log extension ++ if extension = extension' then [l] else [] := by
  by_cases h : extension = extension'
  · simp [under, h]
  · simp [under, h, Ne.symm h]

theorem ordered_ofList (log : List (String × Linter)) : (ofList log).Ordered := by
  induction log using List.reverseRecOn with
  | nil => exact ordered_empty
  | append_singleton log e ih =>
    rw [ofList_concat]
    exact ih.add e.1 e.2

theorem get?_ofList (log : List (String × Linter)) (extension : String) :
    (ofList log).get? extension = if under log extension = [] then none else some (under log extension) := by
  induction log using List.reverseRecOn with
  | nil => rfl
  | append_singleton log e ih =>
    obtain ⟨extension', l⟩ := e
    rw [ofList_concat, get?_add (ordered_ofList log), under_concat]
    by_cases h : extension = extension'
    · subst h
      rw [if_pos rfl, if_pos rfl, if_neg (by simp), ih]
      split
      · rename_i hnil
        simp [hnil]
      · rfl
    · rw [if_neg h, if_neg h, List.append_nil, ih]

/-- The linters of an extension are those added under it, in order, and at least one. -/
theorem get?_ofList_eq_some_iff {log : List (String × Linter)} {extension : String} {ls : List Linter} :
    (ofList log).get? extension = some ls ↔ ls = under log extension ∧ ls ≠ [] := by
  rw [get?_ofList]
  split
  · rename_i hnil
    simp [hnil]
  · rename_i hsome
    constructor
    · intro h
      obtain rfl := Option.some.inj h
      exact ⟨rfl, hsome⟩
    · rintro ⟨rfl, -⟩
      rfl

theorem get?_ofList_eq_none_iff {log : List (String × Linter)} {extension : String} :
    (ofList log).get? extension = none ↔ ∀ e ∈ log, e.1 ≠ extension := by
  have hnil : under log extension = [] ↔ ∀ e ∈ log, e.1 ≠ extension := by
    simp [under, List.filter_eq_nil_iff]
  rw [get?_ofList, ← hnil]
  split
  · rename_i h
    exact iff_of_true rfl h
  · rename_i h
    exact iff_of_false (by simp) h

/-! ## Entries -/

/-- An extension that has linters stands among the entries with them. -/
theorem mem_entries_of_get? {r : Registry} {extension : String} {ls : List Linter} (h : r.get? extension = some ls) :
    (extension, ls) ∈ r.entries := by
  obtain ⟨e, he, rfl⟩ := Option.map_eq_some_iff.mp h
  have hkey := List.find?_some he
  rw [beq_iff_eq, Std.LawfulEqOrd.compare_eq_iff_eq] at hkey
  rw [hkey]
  exact List.mem_of_find?_eq_some he

theorem Ordered.get?_of_mem {r : Registry} (h : r.Ordered) {e : String × List Linter} (he : e ∈ r.entries) :
    r.get? e.1 = some e.2 := Keyed.find?_eq_some_of_mem h.increasing he

/-! ## The linters that run a program -/

/-- The linter runs the program, and no linter before it does: none of a smaller extension, and none before it among those
of its own. -/
def FirstRunning (r : Registry) (program : String) (l : Linter) : Prop :=
  ∃ extension before after, r.get? extension = some (before ++ l :: after) ∧ l.program = program ∧
    (∀ l' ∈ before, l'.program ≠ program) ∧
    ∀ smaller ls, compare smaller extension = .lt → r.get? smaller = some ls → ∀ l' ∈ ls, l'.program ≠ program

/-- The first of a row of rows is the first of a row, before which there is none. -/
theorem find?_flatMap_eq_some_iff {α β : Type} {f : α → List β} {P : β → Bool} {as : List α} {b : β} :
    (as.flatMap f).find? P = some b ↔
      ∃ before a after, as = before ++ a :: after ∧ (f a).find? P = some b ∧ ∀ a' ∈ before, ∀ b' ∈ f a', P b' = false := by
  induction as with
  | nil => simp
  | cons a as ih =>
    rw [List.flatMap_cons, List.find?_append]
    cases hfirst : (f a).find? P with
    | some b₁ =>
      constructor
      · intro h
        exact ⟨[], a, as, rfl, hfirst.trans h, by simp⟩
      · rintro ⟨before, a', after, heq, hfound, hbefore⟩
        cases before with
        | nil =>
          cases heq
          exact hfirst.symm.trans hfound
        | cons a₀ before =>
          cases heq
          have hnone := hbefore a List.mem_cons_self b₁ (List.mem_of_find?_eq_some hfirst)
          rw [List.find?_some hfirst] at hnone
          cases hnone
    | none =>
      have hnone : ∀ b' ∈ f a, P b' = false := by simpa using hfirst
      rw [Option.none_or, ih]
      constructor
      · rintro ⟨before, a', after, rfl, hfound, hbefore⟩
        exact ⟨a :: before, a', after, rfl, hfound, List.forall_mem_cons.mpr ⟨hnone, hbefore⟩⟩
      · rintro ⟨before, a', after, heq, hfound, hbefore⟩
        cases before with
        | nil =>
          cases heq
          rw [hfirst] at hfound
          cases hfound
        | cons a₀ before =>
          cases heq
          exact ⟨before, a', after, rfl, hfound, (List.forall_mem_cons.mp hbefore).2⟩

theorem firstRunning?_eq_some_iff {r : Registry} (h : r.Ordered) {program : String} {l : Linter} :
    r.firstRunning? program = some l ↔ r.FirstRunning program l := by
  rw [firstRunning?, find?_flatMap_eq_some_iff]
  constructor
  · rintro ⟨before, ⟨extension, ls⟩, after, hentries, hfound, hbefore⟩
    have hmem : (extension, ls) ∈ r.entries := by simp [hentries]
    obtain ⟨hprogram, older, newer, rfl, holder⟩ := List.find?_eq_some_iff_append.mp hfound
    refine ⟨extension, older, newer, h.get?_of_mem (e := (extension, _)) hmem, by simpa using hprogram, fun l' hl' => by simpa using holder l' hl', ?_⟩
    intro smaller ls' hlt hget l' hl'
    -- An entry of a smaller extension stands before.
    have hin : (smaller, ls') ∈ before := by
      have hsmaller := mem_entries_of_get? hget
      have hpairwise := h.increasing
      rw [hentries] at hsmaller hpairwise
      obtain ⟨-, hlater, -⟩ := List.pairwise_append.mp hpairwise
      rcases List.mem_append.mp hsmaller with hin | hin
      · exact hin
      · rcases List.mem_cons.mp hin with heq | hin
        · cases heq
          simp at hlt
        · have hgt := (List.pairwise_cons.mp hlater).1 _ hin
          rw [Std.OrientedCmp.gt_of_lt hgt] at hlt
          cases hlt
    simpa using hbefore _ hin l' hl'
  · rintro ⟨extension, older, newer, hget, hprogram, holder, hsmaller⟩
    obtain ⟨before, after, hentries⟩ := List.append_of_mem (mem_entries_of_get? hget)
    refine ⟨before, _, after, hentries, ?_, fun e he l' hl' => ?_⟩
    · refine List.find?_eq_some_iff_append.mpr ⟨by simpa using hprogram, older, newer, rfl, fun l' hl' => ?_⟩
      simpa using holder l' hl'
    · have hpairwise := h.increasing
      rw [hentries] at hpairwise
      have hlt := (List.pairwise_append.mp hpairwise).2.2 e he _ List.mem_cons_self
      have hmem : e ∈ r.entries := by simp [hentries, he]
      simpa using hsmaller e.1 e.2 hlt (h.get?_of_mem hmem) l' hl'

/-! ## What is answered from the log -/

/-- What a registry answers when these linters were added, in this order. -/
structure Answers (r : Registry) (log : List (String × Linter)) : Prop where
  /-- The linters of an extension are those added under it, in order. -/
  linters : ∀ extension ls, r.get? extension = some ls ↔ ls = under log extension ∧ ls ≠ []
  absent : ∀ extension, r.get? extension = none ↔ ∀ e ∈ log, e.1 ≠ extension
  /-- The bytes of the extensions increase. -/
  increasing : (r.extensions.map fun extension => Text.Utf8.encode extension.toList).Pairwise (· < ·)
  extensions : ∀ extension, extension ∈ r.extensions ↔ ∃ l, (extension, l) ∈ log
  isEmpty : r.isEmpty = true ↔ log = []
  /-- Of the linters that run a program the first by extension, and by age under one extension. -/
  firstRunning : ∀ program, r.firstRunning? program =
    (r.extensions.flatMap (under log)).find? (·.program == program)

theorem entry_of_log {log : List (String × Linter)} {e : String × List Linter} (he : e ∈ (ofList log).entries) :
    e.2 = under log e.1 := (get?_ofList_eq_some_iff.mp ((ordered_ofList log).get?_of_mem he)).1

theorem mem_extensions_iff {log : List (String × Linter)} {extension : String} :
    extension ∈ (ofList log).extensions ↔ ∃ l, (extension, l) ∈ log := by
  have hlisted : extension ∈ (ofList log).extensions ↔ (ofList log).get? extension ≠ none := by
    constructor
    · intro hmem
      obtain ⟨e, he, rfl⟩ := List.mem_map.mp hmem
      simp [(ordered_ofList log).get?_of_mem he]
    · intro hsome
      obtain ⟨ls, hget⟩ := Option.ne_none_iff_exists'.mp hsome
      exact List.mem_map.mpr ⟨_, mem_entries_of_get? hget, rfl⟩
  rw [hlisted, ne_eq, get?_ofList_eq_none_iff]
  simp

theorem answers_ofList (log : List (String × Linter)) : (ofList log).Answers log where
  linters _ _ := get?_ofList_eq_some_iff
  absent _ := get?_ofList_eq_none_iff
  increasing := by
    rw [extensions, List.map_map, List.pairwise_map]
    exact (ordered_ofList log).increasing.imp Text.Utf8.compare_eq_lt_iff.mp
  extensions _ := mem_extensions_iff
  isEmpty := by
    constructor
    · intro hempty
      cases log with
      | nil => rfl
      | cons e log =>
        have hmem : e.1 ∈ (ofList (e :: log)).extensions := mem_extensions_iff.mpr ⟨e.2, List.mem_cons_self⟩
        rw [extensions, List.isEmpty_iff.mp hempty] at hmem
        cases hmem
    · rintro rfl
      rfl
  firstRunning program := by
    rw [firstRunning?, extensions, List.flatMap_map]
    exact congrArg _ (List.flatMap_congr fun e he => entry_of_log he)

/-- Registries are the same when the same was added under each extension, in the same order. -/
theorem ofList_eq_iff {log log' : List (String × Linter)} :
    ofList log = ofList log' ↔ ∀ extension, under log extension = under log' extension := by
  constructor
  · intro heq extension
    have hget := congrArg (·.get? extension) heq
    simp only [get?_ofList] at hget
    split at hget
    · rename_i hnil
      split at hget
      · rename_i hnil'
        rw [hnil, hnil']
      · cases hget
    · split at hget
      · cases hget
      · exact Option.some.inj hget
  · intro hunder
    have hget : ∀ extension, (ofList log).get? extension = (ofList log').get? extension := fun extension => by
      rw [get?_ofList, get?_ofList, hunder]
    have hmem : ∀ {log log' : List (String × Linter)},
        (∀ extension, (ofList log).get? extension = (ofList log').get? extension) →
        ∀ e ∈ (ofList log).entries, e ∈ (ofList log').entries := by
      intro log log' hget e he
      have hfound := (ordered_ofList log).get?_of_mem he
      rw [hget] at hfound
      exact mem_entries_of_get? hfound
    have hentries : (ofList log).entries = (ofList log').entries :=
      (ordered_ofList log).increasing.ext (ordered_ofList log').increasing fun e =>
        ⟨hmem hget e, hmem (fun extension => (hget extension).symm) e⟩
    exact congrArg Registry.mk hentries

/-- A registry that was filled by adding linters one after the other answers from the log of what was added. So two logs
that have the same under each extension, in the same order, make the same registry, wherever they put what they have under
other extensions. -/
theorem ofList_answers_log (log : List (String × Linter)) :
    (ofList log).Answers log ∧
    (∀ extension l, (ofList log).add extension l = ofList (log ++ [(extension, l)])) ∧
    ∀ log', (∀ extension, under log extension = under log' extension) ↔ ofList log = ofList log' :=
  ⟨answers_ofList log, fun extension l => (ofList_concat log extension l).symm, fun _ => ofList_eq_iff.symm⟩

end DeltaLint.Registry

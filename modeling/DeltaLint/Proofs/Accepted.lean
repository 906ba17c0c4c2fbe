import DeltaLint.Proofs.Config
import DeltaLint.Proofs.LineFilter
import DeltaLint.Proofs.Linting

/-
  DeltaLint.Proofs.Accepted — the filters of a configuration that was accepted.

  A configuration is accepted when its entries pass their checks (`ofText_eq_ok_iff`), so the filter of
  each of its linters has one placeholder and is a pattern for the lines 1 and 2. That is not enough to be one for
  all lines: `^[%(lines)s-3]` is accepted and is no pattern for line 5. It is one for all lines exactly if
  it is one for the trials (`accepted_filters_compile_iff`).
-/

namespace DeltaLint

open Job LineFilter

variable {σ : Type}

/-! ## Accepted linters -/

/-- The linter is one of the registry. -/
def Registry.Lists (r : Registry) (l : Linter) : Prop := ∃ e ∈ r.entries, l ∈ e.2

theorem Registry.lists_of_get? {r : Registry} {extension : String} {ls : List Linter} {l : Linter}
    (h : r.get? extension = some ls) (hl : l ∈ ls) : r.Lists l := by
  obtain ⟨e, he, rfl⟩ := Keyed.exists_mem_of_find? h
  exact ⟨e, he, hl⟩

namespace Config

theorem lists_registered {es : List (String × Entry)} {l : Linter} (h : (registered es).Lists l) :
    ∃ e ∈ es, l = e.2.linter e.1 := by
  obtain ⟨⟨extension, ls⟩, hmem, hl⟩ := h
  have hget : (registered es).get? extension = some ls := (ordered_registered es).get?_of_mem (e := (extension, ls)) hmem
  obtain ⟨rfl, -⟩ := get?_registered_eq_some_iff.mp hget
  obtain ⟨e, he, hl⟩ := List.mem_flatMap.mp hl
  exact ⟨e, he, (List.mem_replicate.mp hl).2⟩

/-- An entry that passes its checks has one placeholder in its filter, which is a pattern for the lines 1 and 2. -/
theorem Entry.filter_of_check {name : String} {e : Entry} (h : e.check name = .ok ()) :
    placeholders e.filter = 1 ∧ ∃ p, LineFilter.pattern e.filter [1, 2] = .ok p := by
  have husable := check_eq_ok_iff.mp h
  exact ⟨(placeholders_eq e.filter).trans husable.onePlace, husable.compiles⟩

/-- The filter of an accepted linter has one placeholder and is a pattern for the lines 1 and 2. -/
theorem filter_of_ofText {text : String} {registry : Registry} (h : ofText text = .ok registry) {l : Linter}
    (hl : registry.Lists l) : placeholders l.filter = 1 ∧ ∃ p, LineFilter.pattern l.filter [1, 2] = .ok p := by
  obtain ⟨es, -, hchecks, rfl⟩ := ofText_eq_ok_iff.mp h
  obtain ⟨e, he, rfl⟩ := lists_registered hl
  exact Entry.filter_of_check (hchecks e he)

end Config

/-! ## Patterns that fail while linting -/

variable {host : Host σ} {file : String} {s s' : Session σ}

theorem compiles_of_pattern {template : String} {lines : List Nat} {p : Pattern}
    (h : LineFilter.pattern template lines = .ok p) : Compiles template lines := by
  obtain ⟨w, hw, -⟩ := parse_of_pattern h
  exact ⟨w, hw⟩

/-- A filter that is a pattern for the lines can only fail for its size. -/
theorem tooLarge_of_compiles {template : String} {lines : List Nat} {e : Pattern.Fault} (h : Compiles template lines)
    (he : Pattern.read (expand template lines) = .error e) : e = .tooLarge := by
  obtain ⟨p, hp⟩ := h
  unfold Pattern.read at he
  rw [hp] at he
  change (if p.shape.fits = true then _ else _) = _ at he
  split at he
  · cases he
  · cases he
    rfl

/-- When linting fails with a pattern, it is that of a linter of the registry for the given lines. -/
theorem lint_ends_pattern {registry : Registry} {lines : Option (List Nat)} {t : String} {e : Pattern.Fault}
    (h : Ends (lint host registry file lines) s (.error (.pattern t e)) s') :
    ∃ l ns, registry.Lists l ∧ lines = some ns ∧ ns ≠ [] ∧ t = l.filter ∧ Pattern.read (expand t ns) = .error e := by
  cases hget : registry.get? (Path.extension file) with
  | none => cases ((lint_ends_of_none hget).mp h).1
  | some ls =>
    obtain ⟨before, l, later, _, _, rfl, -, hstuck⟩ := (lint_ends_error hget).mp h
    cases hstuck with
    | unfiltered _ hlines hne hfilter =>
      exact ⟨l, _, Registry.lists_of_get? hget (by simp), hlines, hne, rfl, hfilter⟩

/-- The filter of a linter that gave its lines is a pattern for those that it was asked about. -/
theorem Remarked.compiles {ls : List Linter} {l : Linter} {lines : List Nat} {found : List (List (List Char))}
    (h : Remarked host file (some lines) ls s found s') (hlines : lines ≠ []) (hl : l ∈ ls) : Compiles l.filter lines := by
  obtain ⟨n, ns, rfl⟩ := List.exists_cons_of_ne_nil hlines
  induction h with
  | done s => cases hl
  | next _ hselects _ ih =>
    rcases List.mem_cons.mp hl with rfl | hl
    · obtain ⟨p, hp, -⟩ := hselects
      exact compiles_of_pattern hp
    · exact ih hl

/-- When every program can be started, linting fails with a pattern if the filter of one linter is none. -/
theorem lint_fails (hlaunch : ∀ program arguments w, ∃ captured w', host.launch program arguments w = (.ok captured, w'))
    {registry : Registry} {ls : List Linter} {l : Linter} (hget : registry.get? (Path.extension file) = some ls)
    (hl : l ∈ ls) {lines : List Nat} (hlines : lines ≠ []) (hfails : ¬Compiles l.filter lines) (s : Session σ) :
    ∃ t e s', Ends (lint host registry file (some lines)) s (.error (.pattern t e)) s' := by
  obtain ⟨r, s', hends⟩ := exists_ends (lint host registry file (some lines)) s
  cases (lint_ends_iff hget).mp hends with
  | done hfound => exact absurd (hfound.compiles hlines hl) hfails
  | stopped _ _ hstuck =>
    cases hstuck with
    | unstarted hunstarted =>
      obtain ⟨captured, w, hstarted⟩ := hlaunch _ _ _
      cases hunstarted.symm.trans hstarted
    | unfiltered _ _ _ _ => exact ⟨_, _, _, hends⟩

/-- The filter of an accepted linter is a pattern for all lines exactly if it is one for the trials. If all filters are,
linting fails with no pattern, whatever the file, its lines and what the linters write, but one that is too large; and
where one is not, linting a file of its extension can fail. -/
theorem accepted_filters_compile_iff {text : String} {registry : Registry} (h : Config.ofText text = .ok registry) :
    (∀ l, registry.Lists l → ((∀ lines ≠ [], (∀ n ∈ lines, n ≤ Text.word32) → Compiles l.filter lines) ↔
      ∀ lines ∈ trials, Compiles l.filter lines)) ∧
    ((∀ l, registry.Lists l → ∀ lines ∈ trials, Compiles l.filter lines) →
      ∀ {σ : Type} (host : Host σ) (file : String) (lines : Option (List Nat)) (s s' : Session σ) (t : String)
        (e : Pattern.Fault), Ends (lint host registry file lines) s (.error (.pattern t e)) s' → e = .tooLarge) ∧
    ∀ file ls l, registry.get? (Path.extension file) = some ls → l ∈ ls → ∀ lines ∈ trials, ¬Compiles l.filter lines →
      ∀ {σ : Type} (host : Host σ),
        (∀ program arguments w, ∃ captured w', host.launch program arguments w = (.ok captured, w')) →
        ∀ s, ∃ t e s', Ends (lint host registry file (some lines)) s (.error (.pattern t e)) s' := by
  have hone : ∀ l, registry.Lists l → placeholders l.filter = 1 := fun l hl => (Config.filter_of_ofText h hl).1
  refine ⟨fun l hl => ⟨fun hall lines hlines => ?_, fun htrials lines hne _ => ?_⟩, ?_, ?_⟩
  · exact hall lines (ne_nil_of_mem_trials hlines) (le_word32_of_mem_trials hlines)
  · exact compiles_of_trials (hone l hl) htrials hne
  · intro htrials σ host file lines s s' t e hends
    obtain ⟨l, ns, hl, -, hne, rfl, hread⟩ := lint_ends_pattern hends
    exact tooLarge_of_compiles (compiles_of_trials (hone l hl) (htrials l hl) hne) hread
  · intro file ls l hget hl lines hlines hfails σ host hlaunch s
    exact lint_fails hlaunch hget hl (ne_nil_of_mem_trials hlines) hfails s

/-- The numbers in parentheses: a pattern for all lines. -/
def groupText : String := "l:\n  extensions: [.t]\n  command: l\n  filter: (%(lines)s)\n"

def groupEntry : Config.Entry := ⟨[".t"], "l", [], "(%(lines)s)", none⟩

theorem accepted_filters_compile_group : Config.ofText groupText = .ok (Config.registered [("l", groupEntry)]) ∧
    ∀ lines ≠ [], (∀ n ∈ lines, n ≤ Text.word32) → Compiles "(%(lines)s)" lines := by
  have hdescribed : Config.described groupText = some [("l", groupEntry)] := by decide +kernel
  have hcheck : groupEntry.check "l" = .ok () := by cbv
  have haccepted : Config.ofText groupText = .ok (Config.registered [("l", groupEntry)]) :=
    Config.ofText_eq_ok_iff.mpr ⟨_, hdescribed, by simp [hcheck], rfl⟩
  have hlists : (Config.registered [("l", groupEntry)]).Lists (groupEntry.linter "l") :=
    ⟨(".t", [groupEntry.linter "l"]), by decide +kernel, by decide +kernel⟩
  have htrials : (trials.all fun lines => (Pattern.parse (expand "(%(lines)s)" lines)).toOption.isSome) = true := by
    decide +kernel
  refine ⟨haccepted, ((accepted_filters_compile_iff haccepted).1 _ hlists).mpr fun lines hlines => ?_⟩
  have hsome := List.all_eq_true.mp htrials lines hlines
  cases hp : Pattern.parse (expand "(%(lines)s)" lines) with
  | error e =>
    rw [hp] at hsome
    cases hsome
  | ok p => exact ⟨p, hp⟩

/-- The numbers in a class, where the last digit begins a range. -/
def rangeText : String := "l:\n  extensions: [.t]\n  command: l\n  filter: '^[%(lines)s-3]'\n"

def rangeEntry : Config.Entry := ⟨[".t"], "l", [], "^[%(lines)s-3]", none⟩

theorem accepted_range_fails : Config.ofText rangeText = .ok (Config.registered [("l", rangeEntry)]) ∧
    (Config.registered [("l", rangeEntry)]).Lists (rangeEntry.linter "l") ∧ ¬Compiles (rangeEntry.linter "l").filter [5] := by
  have hdescribed : Config.described rangeText = some [("l", rangeEntry)] := by decide +kernel
  have hcheck : rangeEntry.check "l" = .ok () := by cbv
  refine ⟨Config.ofText_eq_ok_iff.mpr ⟨_, hdescribed, by simp [hcheck], rfl⟩,
    ⟨(".t", [rangeEntry.linter "l"]), by decide +kernel, by decide +kernel⟩, ?_⟩
  rintro ⟨p, hp⟩
  have hfails : (Pattern.parse (expand "^[%(lines)s-3]" [5])).toOption.isSome = false := by decide +kernel
  rw [show (rangeEntry.linter "l").filter = "^[%(lines)s-3]" from rfl] at hp
  rw [hp] at hfails
  cases hfails

end DeltaLint

import DeltaLint.Config.Document
import DeltaLint.Proofs.Registry
import DeltaLint.Proofs.Text
import Mathlib

/-
  DeltaLint.Proofs.Config — which configurations are accepted, and what an accepted one says.

  A configuration is a mapping of names to entries (`mapping`). It is accepted when each entry describes a
  linter that can be used (`Entry.Usable`), and then lists under each extension the linters of the
  entries, in order and as often as the entry has the extension (`linters`). Else its failure is that of the
  first entry with a fault (`Offends`), and there of the first check that fails (`Entry.Fails`).

  Proved:
  - `check_eq_ok_iff` / `check_eq_error_iff`: which entries pass their checks, and how the others fail.
  - `ofEntries_eq_error_iff`: a mapping fails as its first entry with a fault.
  - `get?_registered_eq_some_iff` / `get?_registered_eq_none_iff`: what is listed under an extension.
  - `ofText_describes_mapping`: what becomes of a text that holds a mapping.
-/

namespace DeltaLint.Config

open Yaml (Value)

/-! ## The checks of an entry -/

namespace Entry

/-- The command is more than white space. -/
def HasCommand (e : Entry) : Prop := ∃ c ∈ e.command.toList, Unicode.isBlank c = false

/-- An extension as it has to be. -/
def Dotted (extension : String) : Prop := extension.toList.head? = some '.'

/-- How often the filter has the placeholder in it. -/
def places (e : Entry) : Nat := Text.occurrences placeholder.toList e.filter.toList

/-- The entry describes a linter that can be used. -/
structure Usable (e : Entry) : Prop where
  command : e.HasCommand
  extensions : e.extensions ≠ []
  dotted : ∀ extension ∈ e.extensions, Dotted extension
  onePlace : e.places = 1
  compiles : ∃ p, LineFilter.pattern e.filter [1, 2] = .ok p

/-- The first check that fails, with its failure; the checks before it do not. -/
inductive Fails (name : String) (e : Entry) : Failure → Prop
  | command (hcommand : ¬e.HasCommand) : Fails name e (.config (.emptyCommand name))
  | extensions (hcommand : e.HasCommand) (hnone : e.extensions = []) : Fails name e (.config (.noExtensions name))
  /-- Of several extensions without their dot the first is told. -/
  | undotted {before after : List String} {extension : String} (hcommand : e.HasCommand)
      (hextensions : e.extensions = before ++ extension :: after) (hbefore : ∀ other ∈ before, Dotted other)
      (hundotted : ¬Dotted extension) : Fails name e (.config (.badExtension name extension))
  | places (hcommand : e.HasCommand) (hsome : e.extensions ≠ []) (hdotted : ∀ extension ∈ e.extensions, Dotted extension)
      (hplaces : e.places ≠ 1) : Fails name e (.config (.placeholderCount name e.places))
  | filter {fault : Pattern.Fault} (hcommand : e.HasCommand) (hsome : e.extensions ≠ [])
      (hdotted : ∀ extension ∈ e.extensions, Dotted extension) (hplaces : e.places = 1)
      (hfilter : Pattern.read (LineFilter.expand e.filter [1, 2]) = .error fault) :
      Fails name e (.pattern e.filter fault)

theorem placeholders_eq (template : String) :
    LineFilter.placeholders template = Text.occurrences placeholder.toList template.toList := by
  have hcut := Text.cut_length (show '%' ∉ "(lines)s".toList by decide) template.toList
  show (Text.cut placeholder.toList template.toList).length - 1 = _
  rw [show placeholder.toList = '%' :: "(lines)s".toList from by decide, hcut, Nat.add_sub_cancel]

/-- The checks one after the other. -/
theorem check_eq (name : String) (e : Entry) : e.check name =
    if (Unicode.trim e.command.toList).isEmpty then .error (.config (.emptyCommand name))
    else if e.extensions.isEmpty then .error (.config (.noExtensions name))
    else match e.extensions.find? (·.toList.head? != some '.') with
      | some extension => .error (.config (.badExtension name extension))
      | none =>
        if e.places != 1 then .error (.config (.placeholderCount name e.places))
        else (LineFilter.pattern e.filter [1, 2]).map fun _ => () := by
  unfold check
  rw [places, ← placeholders_eq]
  dsimp only
  split
  · rfl
  split
  · rfl
  cases e.extensions.find? (·.toList.head? != some '.') with
  | some extension => rfl
  | none =>
    dsimp only
    split
    · rfl
    cases LineFilter.pattern e.filter [1, 2] with
    | error f => rfl
    | ok p => rfl

theorem hasCommand_iff {e : Entry} : e.HasCommand ↔ (Unicode.trim e.command.toList).isEmpty = false := by
  rw [List.isEmpty_eq_false_iff, ne_eq, Unicode.trim_eq_nil_iff, HasCommand]
  simp

theorem find?_undotted_eq_none_iff {extensions : List String} :
    extensions.find? (·.toList.head? != some '.') = none ↔ ∀ extension ∈ extensions, Dotted extension := by
  simp [List.find?_eq_none, Dotted]

theorem find?_undotted_eq_some_iff {extensions : List String} {extension : String} :
    extensions.find? (·.toList.head? != some '.') = some extension ↔
      ∃ before after, extensions = before ++ extension :: after ∧ (∀ other ∈ before, Dotted other) ∧ ¬Dotted extension := by
  rw [List.find?_eq_some_iff_append]
  constructor
  · rintro ⟨hundotted, before, after, heq, hbefore⟩
    refine ⟨before, after, heq, fun other hother => ?_, by simpa [Dotted] using hundotted⟩
    simpa [Dotted] using hbefore other hother
  · rintro ⟨before, after, heq, hbefore, hundotted⟩
    refine ⟨by simpa [Dotted] using hundotted, before, after, heq, fun other hother => ?_⟩
    simpa [Dotted] using hbefore other hother

theorem Usable.check_eq {e : Entry} (h : e.Usable) (name : String) : e.check name = .ok () := by
  obtain ⟨p, hp⟩ := h.compiles
  rw [Entry.check_eq, if_neg (by simp [hasCommand_iff.mp h.command]), if_neg (by simpa using h.extensions),
    find?_undotted_eq_none_iff.mpr h.dotted]
  simp [h.onePlace, hp, Except.map]

theorem Fails.check_eq {name : String} {e : Entry} {f : Failure} (h : e.Fails name f) : e.check name = .error f := by
  rw [Entry.check_eq]
  cases h with
  | command hcommand =>
    rw [hasCommand_iff, Bool.not_eq_false] at hcommand
    rw [if_pos hcommand]
  | extensions hcommand hnone => rw [if_neg (by simp [hasCommand_iff.mp hcommand]), if_pos (by simp [hnone])]
  | undotted hcommand hextensions hbefore hundotted =>
    rw [if_neg (by simp [hasCommand_iff.mp hcommand]), if_neg (by simp [hextensions]),
      find?_undotted_eq_some_iff.mpr ⟨_, _, hextensions, hbefore, hundotted⟩]
  | places hcommand hsome hdotted hplaces =>
    rw [if_neg (by simp [hasCommand_iff.mp hcommand]), if_neg (by simpa using hsome),
      find?_undotted_eq_none_iff.mpr hdotted]
    simp [hplaces]
  | filter hcommand hsome hdotted hplaces hfilter =>
    rw [if_neg (by simp [hasCommand_iff.mp hcommand]), if_neg (by simpa using hsome),
      find?_undotted_eq_none_iff.mpr hdotted]
    simp [hplaces, LineFilter.pattern, hfilter, Except.map, Except.mapError]

/-- An entry describes a linter that can be used, or a check fails. -/
theorem usable_or_fails (name : String) (e : Entry) : e.Usable ∨ ∃ f, e.Fails name f := by
  by_cases hcommand : e.HasCommand
  swap
  · exact Or.inr ⟨_, .command hcommand⟩
  by_cases hsome : e.extensions = []
  · exact Or.inr ⟨_, .extensions hcommand hsome⟩
  cases hfind : e.extensions.find? (·.toList.head? != some '.') with
  | some extension =>
    obtain ⟨before, after, hextensions, hbefore, hundotted⟩ := find?_undotted_eq_some_iff.mp hfind
    exact Or.inr ⟨_, .undotted hcommand hextensions hbefore hundotted⟩
  | none =>
    have hdotted := find?_undotted_eq_none_iff.mp hfind
    by_cases hplaces : e.places = 1
    swap
    · exact Or.inr ⟨_, .places hcommand hsome hdotted hplaces⟩
    cases hfilter : Pattern.read (LineFilter.expand e.filter [1, 2]) with
    | error fault => exact Or.inr ⟨_, .filter hcommand hsome hdotted hplaces hfilter⟩
    | ok p => exact Or.inl ⟨hcommand, hsome, hdotted, hplaces, p, by rw [LineFilter.pattern, hfilter]; rfl⟩

theorem check_eq_ok_iff {name : String} {e : Entry} : e.check name = .ok () ↔ e.Usable := by
  constructor
  · intro h
    rcases usable_or_fails name e with husable | ⟨f, hfails⟩
    · exact husable
    · cases h.symm.trans hfails.check_eq
  · exact fun h => h.check_eq name

theorem check_eq_error_iff {name : String} {e : Entry} {f : Failure} : e.check name = .error f ↔ e.Fails name f := by
  constructor
  · intro h
    rcases usable_or_fails name e with husable | ⟨f', hfails⟩
    · cases h.symm.trans (husable.check_eq name)
    · cases h.symm.trans hfails.check_eq
      exact hfails
  · exact Fails.check_eq

end Entry

/-! ## The entries of a mapping -/

/-- The entry under a key, unchecked, with the name that the key gives it. -/
def entry? (pair : Value × Value) : Option (String × Entry) := do
  let name ← pair.1.string?
  let e ← (Entry.ofValue pair.2).toOption
  return (String.ofList name, e)

/-- The entries that a text describes, unchecked. -/
def described (text : String) : Option (List (String × Entry)) :=
  if (Unicode.trim text.toList).isEmpty then some []
  else (Yaml.Document.entries text.toList).toOption.bind (·.mapM entry?)

/-- The registry of the entries. -/
def registered (es : List (String × Entry)) : Registry := es.foldl (fun r e => addEntry r e.1 e.2) .empty

theorem namedEntry_eq_ok_iff {key value : Value} {e : String × Entry} :
    namedEntry key value = .ok e ↔ entry? (key, value) = some e ∧ e.2.check e.1 = .ok () := by
  unfold namedEntry entry?
  cases key.string? with
  | none =>
    constructor
    · intro h
      cases h
    · rintro ⟨h, -⟩
      cases h
  | some name =>
    cases hvalue : Entry.ofValue value with
    | error f =>
      constructor
      · intro h
        cases h
      · rintro ⟨h, -⟩
        cases h
    | ok e' =>
      constructor
      · intro h
        obtain ⟨⟨⟩, hcheck, hpair⟩ := bind_eq_ok.mp (show (e'.check (String.ofList name) >>= fun _ => .ok _) = _ from h)
        cases hpair
        exact ⟨rfl, hcheck⟩
      · rintro ⟨hpair, hcheck⟩
        cases hpair
        show (e'.check (String.ofList name) >>= fun _ => .ok (String.ofList name, e')) = _
        rw [hcheck]
        rfl

/-- A registry with one more entry of a mapping. -/
def addPair (r : Registry) (pair : Value × Value) : Except Failure Registry := do
  let (name, e) ← namedEntry pair.1 pair.2
  return addEntry r name e

theorem ofEntries_eq_ok_iff {entries : List (Value × Value)} {registry : Registry} :
    ofEntries entries = .ok registry ↔
      ∃ es, entries.mapM entry? = some es ∧ (∀ e ∈ es, e.2.check e.1 = .ok ()) ∧ registry = registered es := by
  have hfold : ∀ r : Registry, entries.foldlM addPair r = .ok registry ↔
      ∃ es, entries.mapM entry? = some es ∧ (∀ e ∈ es, e.2.check e.1 = .ok ()) ∧
        registry = es.foldl (fun r e => addEntry r e.1 e.2) r := by
    induction entries with
    | nil =>
      intro r
      constructor
      · intro h
        cases h
        exact ⟨[], rfl, by simp, rfl⟩
      · rintro ⟨es, hes, -, rfl⟩
        cases hes
        rfl
    | cons pair entries ih =>
      obtain ⟨key, value⟩ := pair
      intro r
      rw [List.foldlM_cons, List.mapM_cons]
      constructor
      · intro h
        obtain ⟨r', hr', h⟩ := bind_eq_ok.mp h
        obtain ⟨⟨name, e⟩, hnamed, hadd⟩ := bind_eq_ok.mp hr'
        cases hadd
        obtain ⟨hentry, hcheck⟩ := namedEntry_eq_ok_iff.mp hnamed
        obtain ⟨es, hes, hall, rfl⟩ := (ih _).mp h
        refine ⟨(name, e) :: es, by rw [hentry, hes]; rfl, ?_, rfl⟩
        exact List.forall_mem_cons.mpr ⟨hcheck, hall⟩
      · rintro ⟨es, hes, hall, rfl⟩
        obtain ⟨e, hentry, hes⟩ := Option.bind_eq_some_iff.mp hes
        obtain ⟨es', hes', hpair⟩ := Option.bind_eq_some_iff.mp hes
        cases hpair
        obtain ⟨hcheck, hall⟩ := List.forall_mem_cons.mp hall
        refine bind_eq_ok.mpr ⟨addEntry r e.1 e.2, ?_, (ih _).mpr ⟨es', hes', hall, rfl⟩⟩
        exact bind_eq_ok.mpr ⟨e, namedEntry_eq_ok_iff.mpr ⟨hentry, hcheck⟩, rfl⟩
  exact hfold .empty

/-- A configuration is accepted when all entries that it describes pass their checks. -/
theorem ofText_eq_ok_iff {text : String} {registry : Registry} : ofText text = .ok registry ↔
    ∃ es, described text = some es ∧ (∀ e ∈ es, e.2.check e.1 = .ok ()) ∧ registry = registered es := by
  unfold ofText described
  split
  · constructor
    · intro h
      cases h
      exact ⟨[], rfl, by simp, rfl⟩
    · rintro ⟨es, hes, -, rfl⟩
      cases hes
      rfl
  · cases hentries : Yaml.Document.entries text.toList with
    | error f =>
      constructor
      · intro h
        cases h
      · rintro ⟨es, hes, -⟩
        cases hes
    | ok entries => exact ofEntries_eq_ok_iff

/-! ## Faults -/

/-- What a text maps to entries: nothing when it is blank, and else what its document does. -/
def mapping (text : String) : Except Failure (List (Value × Value)) :=
  if (Unicode.trim text.toList).isEmpty then .ok []
  else (Yaml.Document.entries text.toList).mapError (.configParse ∘ .document)

theorem ofText_eq (text : String) : ofText text = mapping text >>= ofEntries := by
  unfold ofText mapping
  split
  · rfl
  · rfl

/-- The key is a text, and under it stands an entry of a linter that can be used. -/
def Sound (pair : Value × Value) : Prop := ∃ name e, entry? pair = some (name, e) ∧ e.Usable

/-- The first fault of an entry, with its failure: of its name, of its fields, or of what they say. -/
inductive Offends : Value × Value → Failure → Prop
  | name {key value : Value} (hname : key.string? = none) : Offends (key, value) (.config (.nameNotText key))
  | fields {key value : Value} {name : List Char} {fault : EntryFault} (hname : key.string? = some name)
      (hvalue : Entry.ofValue value = .error fault) : Offends (key, value) (.configParse (.entry fault))
  | check {key value : Value} {name : String} {e : Entry} {f : Failure} (hentry : entry? (key, value) = some (name, e))
      (hfails : e.Fails name f) : Offends (key, value) f

theorem sound_iff {key value : Value} : Sound (key, value) ↔ ∃ e, namedEntry key value = .ok e := by
  constructor
  · rintro ⟨name, e, hentry, husable⟩
    exact ⟨(name, e), namedEntry_eq_ok_iff.mpr ⟨hentry, husable.check_eq name⟩⟩
  · rintro ⟨⟨name, e⟩, h⟩
    obtain ⟨hentry, hcheck⟩ := namedEntry_eq_ok_iff.mp h
    exact ⟨name, e, hentry, Entry.check_eq_ok_iff.mp hcheck⟩

theorem namedEntry_eq_error_iff {key value : Value} {f : Failure} :
    namedEntry key value = .error f ↔ Offends (key, value) f := by
  constructor
  · intro h
    unfold namedEntry at h
    cases hname : key.string? with
    | none =>
      rw [hname] at h
      cases h
      exact .name hname
    | some name =>
      rw [hname] at h
      cases hvalue : Entry.ofValue value with
      | error fault =>
        rw [hvalue] at h
        cases h
        exact .fields hname hvalue
      | ok e =>
        rw [hvalue] at h
        have hentry : entry? (key, value) = some (String.ofList name, e) := by
          simp [ entry?, hname, hvalue, Except.toOption]
        rcases bind_eq_error.mp (show (e.check (String.ofList name) >>= fun _ => .ok _) = _ from h) with hcheck | ⟨_, -, h⟩
        · exact .check hentry (Entry.check_eq_error_iff.mp hcheck)
        · cases h
  · intro h
    unfold namedEntry
    cases h with
    | name hname =>
      rw [hname]
      rfl
    | fields hname hvalue =>
      rw [hname, hvalue]
      rfl
    | @check _ _ name e _ hentry hfails =>
      cases hname : key.string? with
      | none => simp [ entry?, hname] at hentry
      | some chars =>
        cases hvalue : Entry.ofValue value with
        | error fault => simp [ entry?, hname, hvalue, Except.toOption] at hentry
        | ok e' =>
          simp only [ entry?, hname, hvalue, Except.toOption] at hentry
          cases hentry
          show (e.check (String.ofList chars) >>= fun _ => .ok _) = _
          rw [hfails.check_eq]
          rfl

/-- A mapping fails as its first entry with a fault. -/
theorem ofEntries_eq_error_iff {entries : List (Value × Value)} {f : Failure} :
    ofEntries entries = .error f ↔
      ∃ before pair after, entries = before ++ pair :: after ∧ (∀ other ∈ before, Sound other) ∧ Offends pair f := by
  have hfold : ∀ r : Registry, entries.foldlM addPair r = .error f ↔
      ∃ before pair after, entries = before ++ pair :: after ∧ (∀ other ∈ before, Sound other) ∧ Offends pair f := by
    induction entries with
    | nil =>
      intro r
      constructor
      · intro h
        cases h
      · rintro ⟨before, pair, after, h, -⟩
        simp at h
    | cons first entries ih =>
      obtain ⟨key, value⟩ := first
      intro r
      rw [List.foldlM_cons]
      constructor
      · intro h
        rcases bind_eq_error.mp h with hfirst | ⟨r', hfirst, hrest⟩
        · rcases bind_eq_error.mp hfirst with hnamed | ⟨_, -, hadd⟩
          · exact ⟨[], _, entries, rfl, by simp, namedEntry_eq_error_iff.mp hnamed⟩
          · cases hadd
        · obtain ⟨e, hnamed, -⟩ := bind_eq_ok.mp hfirst
          obtain ⟨before, pair, after, rfl, hbefore, hoffends⟩ := (ih r').mp hrest
          exact ⟨(key, value) :: before, pair, after, rfl,
            List.forall_mem_cons.mpr ⟨sound_iff.mpr ⟨e, hnamed⟩, hbefore⟩, hoffends⟩
      · rintro ⟨before, pair, after, heq, hbefore, hoffends⟩
        cases before with
        | nil =>
          cases heq
          exact bind_eq_error.mpr (Or.inl (bind_eq_error.mpr (Or.inl (namedEntry_eq_error_iff.mpr hoffends))))
        | cons first before =>
          cases heq
          obtain ⟨hfirst, hbefore⟩ := List.forall_mem_cons.mp hbefore
          obtain ⟨e, hnamed⟩ := sound_iff.mp hfirst
          refine bind_eq_error.mpr (Or.inr ⟨addEntry r e.1 e.2, bind_eq_ok.mpr ⟨e, hnamed, rfl⟩, ?_⟩)
          exact (ih _).mpr ⟨before, pair, after, rfl, hbefore, hoffends⟩
  exact hfold .empty

/-- The linters that the entries put under an extension, each as often as its entry has the extension. -/
def linters (es : List (String × Entry)) (extension : String) : List Linter :=
  es.flatMap fun (name, e) =>
    List.replicate (e.extensions.count extension) ⟨name, e.command, e.arguments, e.filter, e.installation⟩

/-- What the entries add to a registry, in order. -/
def log (es : List (String × Entry)) : List (String × Linter) :=
  es.flatMap fun (name, e) => e.extensions.map (·, e.linter name)

theorem registered_eq (es : List (String × Entry)) : registered es = Registry.ofList (log es) := by
  unfold registered Registry.ofList log
  rw [List.foldl_flatMap]
  congr 1
  funext r e
  rw [List.foldl_map]
  rfl

theorem ordered_registered (es : List (String × Entry)) : (registered es).Ordered := by
  rw [registered_eq]
  exact Registry.ordered_ofList _

theorem under_log (es : List (String × Entry)) (extension : String) :
    Registry.under (log es) extension = linters es extension := by
  unfold Registry.under log linters
  rw [List.filter_flatMap, List.map_flatMap]
  congr 1
  funext e
  have hkeys : ((·.1 == extension) ∘ (·, e.2.linter e.1)) = (· == extension) := rfl
  rw [List.filter_map, hkeys, List.filter_beq, List.map_map, List.map_replicate]
  rfl

theorem get?_registered_eq_some_iff {es : List (String × Entry)} {extension : String} {ls : List Linter} :
    (registered es).get? extension = some ls ↔ ls = linters es extension ∧ ls ≠ [] := by
  rw [registered_eq, Registry.get?_ofList_eq_some_iff, under_log]

end DeltaLint.Config

import DeltaLint.Git.Changes
import DeltaLint.Proofs.Text

/-
  DeltaLint.Proofs.Git.Status — the grammars of git's accounts of changes, and that what is read of an account is what
  its grammar says.

  A line of a status account that tells of a change is one of six codes, a space and a name (`IsEntry`). A
  line of an account of a commit that does so is one of two letters, a white space and a name (`IsTreeEntry`).
  All other lines tell of nothing: codes for what was deleted, renamed or conflicts, codes with other white space
  than spaces, codes without a name (`Told`). The grammars know nothing of how lines are read.

  Proved:
  - `statusLine?_eq_some_iff` / `treeLine?_eq_some_iff`: a line is read as an entry exactly if it is one.
  - `told_iff`: so the lines of an account are read as what they tell.
  - `statusEntries_eq_filter`: leaving out what is not tracked leaves the other entries in order.
  - `statusEntries_grammar`: an account is read line by line as the grammar says, part after part.
  - `commitEntries_iff`: so is an account of a commit.
-/

namespace DeltaLint.Git

open Text

/-- The codes that count. -/
def statusCodes : List (List Char × Change) :=
  [(['M', ' '], .modified), ([' ', 'M'], .modified), (['M', 'M'], .modified), (['A', ' '], .added), (['A', 'M'], .added),
    (['?', '?'], .untracked)]

/-- The line tells of a change: a code, a space and a name, which may be quoted. -/
def IsEntry (line : List Char) (e : String × Change) : Prop :=
  ∃ code name, (code, e.2) ∈ statusCodes ∧ name ≠ [] ∧ line = code ++ ' ' :: name ∧ e.1 = String.ofList (unquote name)

/-- The letters that count in an account of a commit. -/
def treeLetters : List (Char × Change) := [('A', .added), ('M', .modified)]

/-- The line tells of a change that a commit made: a letter, a white space and a name, which may be quoted. -/
def IsTreeEntry (line : List Char) (e : String × Change) : Prop :=
  ∃ letter gap name, (letter, e.2) ∈ treeLetters ∧ Unicode.isBlank gap = true ∧ name ≠ [] ∧ line = letter :: gap :: name ∧
    e.1 = String.ofList (unquote name)

/-- What lines tell by a grammar of entries, in order. -/
inductive Told (entry : List Char → String × Change → Prop) : List (List Char) → List (String × Change) → Prop
  | nothing : Told entry [] []
  | entry {line : List Char} {ls : List (List Char)} {e : String × Change} {es : List (String × Change)}
      (hline : entry line e) (hrest : Told entry ls es) : Told entry (line :: ls) (e :: es)
  | other {line : List Char} {ls : List (List Char)} {es : List (String × Change)}
      (hline : ∀ e, ¬ entry line e) (hrest : Told entry ls es) : Told entry (line :: ls) es

/-- What the lines of a status account tell. -/
def Tells : List (List Char) → List (String × Change) → Prop := Told IsEntry

theorem changeOfCode?_eq_some_iff {x y : Char} {change : Change} :
    changeOfCode? x y = some change ↔ ([x, y], change) ∈ statusCodes := by
  constructor
  · intro h
    unfold changeOfCode? at h
    split at h
    case h_7 => cases h
    all_goals
      cases h
      decide
  · intro h
    simp only [statusCodes, List.mem_cons, Prod.mk.injEq, List.cons.injEq, and_true, List.not_mem_nil, or_false] at h
    rcases h with ⟨⟨rfl, rfl⟩, rfl⟩ | ⟨⟨rfl, rfl⟩, rfl⟩ | ⟨⟨rfl, rfl⟩, rfl⟩ | ⟨⟨rfl, rfl⟩, rfl⟩ | ⟨⟨rfl, rfl⟩, rfl⟩ |
      ⟨⟨rfl, rfl⟩, rfl⟩ <;> rfl

theorem exists_pair_of_mem {code : List Char} {change : Change} (h : (code, change) ∈ statusCodes) :
    ∃ x y, code = [x, y] := by
  have hlength : statusCodes.all (fun c => c.1.length == 2) = true := by decide
  exact List.length_eq_two.mp (beq_iff_eq.mp (List.all_eq_true.mp hlength _ h))

/-- A line is read as an entry exactly if it is one. -/
theorem statusLine?_eq_some_iff {line : List Char} {e : String × Change} : statusLine? line = some e ↔ IsEntry line e := by
  constructor
  · intro h
    unfold statusLine? at h
    split at h
    · rename_i x y c rest
      split at h
      · obtain ⟨change, hchange, rfl⟩ := Option.map_eq_some_iff.mp h
        exact ⟨[x, y], c :: rest, changeOfCode?_eq_some_iff.mp hchange, List.cons_ne_nil c rest, rfl, rfl⟩
      · cases h
    · cases h
  · rintro ⟨code, name, hcode, hname, rfl, hread⟩
    obtain ⟨x, y, rfl⟩ := exists_pair_of_mem hcode
    obtain ⟨c, rest, rfl⟩ := List.exists_cons_of_ne_nil hname
    have hline : statusLine? ([x, y] ++ ' ' :: c :: rest) = (changeOfCode? x y).map (named (c :: rest)) :=
      statusLine?_code x y c rest
    rw [hline, changeOfCode?_eq_some_iff.mpr hcode, Option.map_some, named, ← hread]

/-- The change that a letter tells is the one that it is read as. -/
theorem mem_treeLetters_iff {letter : Char} {change : Change} : (letter, change) ∈ treeLetters ↔
    (letter == 'A' || letter == 'M') = true ∧ change = if letter = 'A' then .added else .modified := by
  simp only [treeLetters, List.mem_cons, Prod.mk.injEq, List.not_mem_nil, or_false, Bool.or_eq_true, beq_iff_eq]
  constructor
  · rintro (⟨rfl, rfl⟩ | ⟨rfl, rfl⟩)
    · exact ⟨Or.inl rfl, rfl⟩
    · exact ⟨Or.inr rfl, rfl⟩
  · rintro ⟨rfl | rfl, rfl⟩
    · exact Or.inl ⟨rfl, rfl⟩
    · exact Or.inr ⟨rfl, rfl⟩

/-- A line of an account of a commit is read as an entry exactly if it is one. -/
theorem treeLine?_eq_some_iff {line : List Char} {e : String × Change} : treeLine? line = some e ↔ IsTreeEntry line e := by
  constructor
  · intro h
    unfold treeLine? at h
    split at h
    · rename_i letter gap c rest
      split at h
      · rename_i hboth
        obtain ⟨hletter, hgap⟩ := Bool.and_eq_true_iff.mp hboth
        obtain rfl := Option.some.inj h
        exact ⟨letter, gap, c :: rest, mem_treeLetters_iff.mpr ⟨hletter, rfl⟩, hgap, List.cons_ne_nil c rest, rfl, rfl⟩
      · cases h
    · cases h
  · rintro ⟨letter, gap, name, hletter, hgap, hname, rfl, hread⟩
    obtain ⟨hletter, hchange⟩ := mem_treeLetters_iff.mp hletter
    obtain ⟨c, rest, rfl⟩ := List.exists_cons_of_ne_nil hname
    rw [treeLine?, hletter, hgap, named, ← hread, ← hchange]
    rfl

/-- Lines that are read one by one as entries are read as what they tell. -/
theorem told_iff {entry : List Char → String × Change → Prop} {read? : List Char → Option (String × Change)}
    (hread : ∀ {line e}, read? line = some e ↔ entry line e) {ls : List (List Char)} {es : List (String × Change)} :
    Told entry ls es ↔ es = ls.filterMap read? := by
  constructor
  · intro h
    induction h with
    | nothing => rfl
    | entry hline _ ih => rw [List.filterMap_cons_some (hread.mpr hline), ← ih]
    | other hline _ ih =>
      have hnone := Option.eq_none_iff_forall_ne_some.mpr fun e he => hline e (hread.mp he)
      rw [List.filterMap_cons_none hnone, ← ih]
  · rintro rfl
    induction ls with
    | nil => exact .nothing
    | cons line ls ih =>
      cases hline : read? line with
      | some e =>
        rw [List.filterMap_cons_some hline]
        exact .entry (hread.mp hline) ih
      | none =>
        rw [List.filterMap_cons_none hline]
        refine .other (fun e he => ?_) ih
        rw [hread.mpr he] at hline
        cases hline

theorem tells_iff {ls : List (List Char)} {es : List (String × Change)} : Tells ls es ↔ es = ls.filterMap statusLine? :=
  told_iff statusLine?_eq_some_iff

/-! ## Accounts -/

/-- What is left out are entries of the whole account. -/
theorem statusEntries_eq_filter (account : String) (tracked : Bool) : statusEntries account tracked =
    (statusEntries account false).filter fun e => !(tracked && e.2 == .untracked) := by
  simp [statusEntries]

theorem statusEntries_all (account : String) : statusEntries account false = (lines account.toList).filterMap statusLine? := by
  simp [statusEntries]

theorem statusEntries_append (before after : String) (tracked : Bool) :
    statusEntries (before ++ "\n" ++ after) tracked = statusEntries (before ++ "\n") tracked ++ statusEntries after tracked := by
  have hlines : lines (before ++ "\n" ++ after).toList = lines (before ++ "\n").toList ++ lines after.toList := by
    rw [String.toList_append, String.toList_append, List.append_assoc]
    exact lines_append before.toList after.toList
  rw [statusEntries, hlines, List.filterMap_append, List.filter_append]
  rfl

/-- What is read of an account is what its lines tell, in order; where only tracked files count, without those that are
not. What is read after a line feed does not depend on what stands before it. -/
theorem statusEntries_grammar (account : String) :
    (∀ es, es = statusEntries account false ↔ ∃ ls, IsLines account.toList ls ∧ Tells ls es) ∧
    statusEntries account true = (statusEntries account false).filter (·.2 != .untracked) ∧
    ∀ after tracked, statusEntries (account ++ "\n" ++ after) tracked =
      statusEntries (account ++ "\n") tracked ++ statusEntries after tracked := by
  refine ⟨fun es => ?_, statusEntries_eq_filter account true, fun after tracked => statusEntries_append account after tracked⟩
  simp only [isLines_iff, tells_iff, exists_eq_left, statusEntries_all]

/-- What is read of an account of a commit is what its lines tell, in order. -/
theorem commitEntries_iff {account : String} {es : List (String × Change)} :
    es = commitEntries account ↔ ∃ ls, IsLines account.toList ls ∧ Told IsTreeEntry ls es := by
  simp only [isLines_iff, told_iff treeLine?_eq_some_iff, exists_eq_left]
  rfl

-- A file that was deleted tells of nothing.
example : commitEntries "M\tsrc/a.py\nA\tb.py\nD\tc.py\n" = [("src/a.py", .modified), ("b.py", .added)] := by
  decide +kernel

end DeltaLint.Git

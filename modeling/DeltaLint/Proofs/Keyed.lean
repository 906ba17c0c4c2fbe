import DeltaLint.Keyed
import Mathlib.Data.List.Induction

/-
  DeltaLint.Proofs.Keyed — the laws of finite maps under an order of the keys.

  Entries stay in strictly increasing order, so no two keys are of equal order. What counts under a key
  is the last entry that was put in for it.

  Proved:
  - `increasing_alter` / `increasing_ofList`: the keys increase.
  - `find?_alter`: a change concerns what is found under its key and nothing else.
  - `mem_ofList_iff`: an entry is there when none was put in later under a key of equal order.
  - `perm_ofList_iff`: all entries are there exactly when no two have keys of equal order.
  - `Increasing.ext`: maps with the same entries are the same.
  - `find?_ofList_eq_some_iff`: among entries without keys of equal order, each is found under its key.
-/

namespace DeltaLint.Keyed

variable {κ α : Type} {cmp : κ → κ → Ordering}

/-- The keys increase from entry to entry. -/
def Increasing (cmp : κ → κ → Ordering) (m : Keyed κ α) : Prop := m.Pairwise fun e e' => cmp e.1 e'.1 = .lt

/-- What is there after a change was there before, or stands under the key with what came of the old value. -/
theorem mem_alter {k : κ} {f : Option α → α} {m : Keyed κ α} {e : κ × α} (h : e ∈ alter cmp k f m) :
    e ∈ m ∨ e.1 = k ∧ (e.2 = f none ∨ ∃ e' ∈ m, e.2 = f (some e'.2)) := by
  induction m with
  | nil =>
    rw [alter, List.mem_singleton] at h
    exact Or.inr (by simp [h])
  | cons e' m ih =>
    unfold alter at h
    split at h
    · rcases List.mem_cons.mp h with rfl | h
      · exact Or.inr ⟨rfl, Or.inl rfl⟩
      · exact Or.inl h
    · rcases List.mem_cons.mp h with rfl | h
      · exact Or.inr ⟨rfl, Or.inr ⟨e', List.mem_cons_self, rfl⟩⟩
      · exact Or.inl (List.mem_cons_of_mem _ h)
    · rcases List.mem_cons.mp h with rfl | h
      · exact Or.inl List.mem_cons_self
      · rcases ih h with hm | ⟨hkey, hnew | ⟨e'', he'', heq⟩⟩
        · exact Or.inl (List.mem_cons_of_mem _ hm)
        · exact Or.inr ⟨hkey, Or.inl hnew⟩
        · exact Or.inr ⟨hkey, Or.inr ⟨e'', List.mem_cons_of_mem _ he'', heq⟩⟩

theorem exists_mem_of_find? {k : κ} {m : Keyed κ α} {v : α}
    (h : find? cmp k m = some v) : ∃ e ∈ m, e.2 = v := by
  obtain ⟨e, he, rfl⟩ := Option.map_eq_some_iff.mp h
  exact ⟨e, List.mem_of_find?_eq_some he, rfl⟩

theorem find?_cons (k k' : κ) (v : α) (m : Keyed κ α) :
    find? cmp k ((k', v) :: m) = if cmp k k' = .eq then some v else find? cmp k m := by
  by_cases h : cmp k k' = .eq
  · simp [find?, h]
  · simp [find?, h]

theorem find?_eq_none {k : κ} {m : Keyed κ α} (h : ∀ e ∈ m, cmp k e.1 ≠ .eq) : find? cmp k m = none := by
  simpa [find?, List.find?_eq_none] using h

theorem ofList_concat (entries : List (κ × α)) (k : κ) (v : α) :
    ofList cmp (entries ++ [(k, v)]) = insert cmp k v (ofList cmp entries) := by
  simp [ofList]

/-- Without the key in the map, an entry is put in between the others. -/
theorem perm_insert {k : κ} {v : α} {m : Keyed κ α} (h : ∀ e ∈ m, cmp k e.1 ≠ .eq) :
    (insert cmp k v m).Perm ((k, v) :: m) := by
  unfold insert
  induction m with
  | nil => rfl
  | cons e m ih =>
    unfold alter
    split
    · rfl
    · rename_i heq
      exact absurd heq (h e List.mem_cons_self)
    · exact ((ih fun e' he' => h e' (List.mem_cons_of_mem _ he')).cons e).trans (List.Perm.swap (k, v) e m)

/-- Values can be put another way before or after. -/
theorem ofList_map {β : Type} (f : α → β) (entries : List (κ × α)) :
    ofList cmp (entries.map fun e => (e.1, f e.2)) = (ofList cmp entries).map fun e => (e.1, f e.2) := by
  have hinsert : ∀ (k : κ) (v : α) (m : Keyed κ α),
      insert cmp k (f v) (m.map fun e => (e.1, f e.2)) = (insert cmp k v m).map fun e => (e.1, f e.2) := by
    intro k v m
    unfold insert
    induction m with
    | nil => rfl
    | cons e m ih =>
      simp only [List.map_cons, alter]
      cases cmp k e.1 with
      | lt => rfl
      | eq => rfl
      | gt => rw [List.map_cons, ← ih]
  induction entries using List.reverseRecOn with
  | nil => rfl
  | append_singleton entries e ih => rw [List.map_append, List.map_singleton, ofList_concat, ofList_concat, ih, hinsert]

variable [Std.TransCmp cmp]

theorem increasing_alter (k : κ) (f : Option α → α) {m : Keyed κ α} (h : Increasing cmp m) :
    Increasing cmp (alter cmp k f m) := by
  induction m with
  | nil => exact List.pairwise_singleton _ _
  | cons e m ih =>
    obtain ⟨hfirst, hrest⟩ := List.pairwise_cons.mp h
    unfold alter
    split
    · rename_i hlt
      refine List.pairwise_cons.mpr ⟨fun e' he' => ?_, h⟩
      rcases List.mem_cons.mp he' with rfl | he'
      · exact hlt
      · exact Std.TransCmp.lt_trans hlt (hfirst e' he')
    · rename_i heq
      exact List.pairwise_cons.mpr ⟨fun e' he' => Std.TransCmp.lt_of_eq_of_lt heq (hfirst e' he'), hrest⟩
    · rename_i hgt
      refine List.pairwise_cons.mpr ⟨fun e' he' => ?_, ih hrest⟩
      rcases mem_alter he' with he' | ⟨hkey, -⟩
      · exact hfirst e' he'
      · rw [hkey]
        exact Std.OrientedCmp.gt_iff_lt.mp hgt

/-- A change concerns what is found under its key and nothing else. -/
theorem find?_alter (k k' : κ) (f : Option α → α) {m : Keyed κ α} (h : Increasing cmp m) :
    find? cmp k (alter cmp k' f m) = if cmp k k' = .eq then some (f (find? cmp k m)) else find? cmp k m := by
  induction m with
  | nil => exact find?_cons k k' (f none) []
  | cons e m ih =>
    obtain ⟨k₁, v⟩ := e
    obtain ⟨hfirst, hrest⟩ := List.pairwise_cons.mp h
    unfold alter
    split
    · rename_i hlt
      rw [find?_cons]
      by_cases heq : cmp k k' = .eq
      · -- All keys of the map lie beyond the one looked up.
        have hnone : find? cmp k ((k₁, v) :: m) = none := find?_eq_none fun e he => by
          have hbeyond : cmp k' e.1 = .lt := by
            rcases List.mem_cons.mp he with rfl | he
            · exact hlt
            · exact Std.TransCmp.lt_trans hlt (hfirst e he)
          simp [Std.TransCmp.lt_of_eq_of_lt heq hbeyond]
        rw [if_pos heq, if_pos heq, hnone]
      · rw [if_neg heq, if_neg heq]
    · rename_i hsame
      rw [find?_cons, find?_cons]
      by_cases heq : cmp k k' = .eq
      · rw [if_pos heq, if_pos heq, if_pos (Std.TransCmp.eq_trans heq hsame)]
      · have hne : cmp k k₁ ≠ .eq := fun h₁ => heq (Std.TransCmp.eq_trans h₁ (Std.OrientedCmp.eq_symm hsame))
        rw [if_neg heq, if_neg heq, if_neg hne]
    · rename_i hgt
      rw [find?_cons, find?_cons, ih hrest]
      by_cases h₁ : cmp k k₁ = .eq
      · have hne : cmp k k' ≠ .eq := fun heq => by
          have hsame := Std.TransCmp.eq_trans (Std.OrientedCmp.eq_symm heq) h₁
          rw [hgt] at hsame
          cases hsame
        rw [if_pos h₁, if_neg hne, if_pos h₁]
      · rw [if_neg h₁, if_neg h₁]

/-- What is found under a key is the value of the entry that stands there. -/
theorem find?_eq_some_of_mem {m : Keyed κ α} (h : Increasing cmp m) {e : κ × α} (he : e ∈ m) :
    find? cmp e.1 m = some e.2 := by
  induction m with
  | nil => cases he
  | cons e' m ih =>
    obtain ⟨hfirst, hrest⟩ := List.pairwise_cons.mp h
    rw [find?_cons]
    rcases List.mem_cons.mp he with rfl | he
    · rw [if_pos Std.ReflCmp.compare_self]
    · have hne : cmp e.1 e'.1 ≠ .eq := fun heq => by
        have hlt := hfirst e he
        rw [Std.OrientedCmp.eq_symm heq] at hlt
        cases hlt
      rw [if_neg hne, ih hrest he]

theorem increasing_ofList (entries : List (κ × α)) : Increasing cmp (ofList cmp entries) := by
  induction entries using List.reverseRecOn with
  | nil => exact List.Pairwise.nil
  | append_singleton entries e ih =>
    obtain ⟨k, v⟩ := e
    rw [ofList_concat]
    exact increasing_alter k _ ih

/-- After an entry was put in, there are this entry and those with other keys. -/
theorem mem_insert_iff {k : κ} {v : α} {m : Keyed κ α} (h : Increasing cmp m) {e : κ × α} :
    e ∈ insert cmp k v m ↔ e = (k, v) ∨ e ∈ m ∧ cmp k e.1 ≠ .eq := by
  unfold insert
  induction m with
  | nil => simp [alter]
  | cons e' m ih =>
    obtain ⟨hfirst, hrest⟩ := List.pairwise_cons.mp h
    have hlater : ∀ {o : Ordering}, cmp k e'.1 = o → o ≠ .gt → ∀ e ∈ m, cmp k e.1 = .lt := by
      intro o ho hne e he
      cases o with
      | lt => exact Std.TransCmp.lt_trans ho (hfirst e he)
      | eq => exact Std.TransCmp.lt_of_eq_of_lt ho (hfirst e he)
      | gt => exact absurd rfl hne
    unfold alter
    split
    · rename_i hlt
      have hne : ∀ e ∈ e' :: m, cmp k e.1 ≠ .eq := by
        intro e he
        rcases List.mem_cons.mp he with rfl | he
        · simp [hlt]
        · simp [hlater hlt (by decide) e he]
      rw [List.mem_cons]
      exact or_congr_right ⟨fun he => ⟨he, hne e he⟩, And.left⟩
    · rename_i heq
      rw [List.mem_cons]
      refine or_congr_right ⟨fun he => ⟨List.mem_cons_of_mem _ he, ?_⟩, fun he => ?_⟩
      · simp [hlater heq (by decide) e he]
      · rcases List.mem_cons.mp he.1 with rfl | hin
        · exact absurd heq he.2
        · exact hin
    · rename_i hgt
      rw [List.mem_cons, ih hrest, List.mem_cons]
      constructor
      · intro he
        rcases he with rfl | rfl | he
        · exact Or.inr ⟨Or.inl rfl, by simp [hgt]⟩
        · exact Or.inl rfl
        · exact Or.inr ⟨Or.inr he.1, he.2⟩
      · intro he
        rcases he with rfl | ⟨rfl | he, hne⟩
        · exact Or.inr (Or.inl rfl)
        · exact Or.inl rfl
        · exact Or.inr (Or.inr ⟨he, hne⟩)

/-- An entry is there when it was put in, and none later under a key of equal order. -/
theorem mem_ofList_iff {entries : List (κ × α)} {e : κ × α} : e ∈ ofList cmp entries ↔
    ∃ before after, entries = before ++ e :: after ∧ ∀ e' ∈ after, cmp e'.1 e.1 ≠ .eq := by
  induction entries using List.reverseRecOn with
  | nil => simp [ofList]
  | append_singleton entries last ih =>
    obtain ⟨k, v⟩ := last
    rw [ofList_concat, mem_insert_iff (increasing_ofList entries), ih]
    constructor
    · intro h
      rcases h with rfl | ⟨⟨before, after, rfl, hafter⟩, hne⟩
      · exact ⟨entries, [], rfl, by simp⟩
      · refine ⟨before, after ++ [(k, v)], by simp, fun e' he' => ?_⟩
        rcases List.mem_append.mp he' with he' | he'
        · exact hafter e' he'
        · rw [List.mem_singleton.mp he']
          exact hne
    · intro h
      obtain ⟨before, after, heq, hafter⟩ := h
      rcases List.eq_nil_or_concat after with rfl | ⟨after, last, rfl⟩
      · obtain ⟨-, hlast⟩ := List.append_inj' heq rfl
        exact Or.inl (List.singleton_inj.mp hlast).symm
      · have hsplit : entries ++ [(k, v)] = (before ++ e :: after) ++ [last] := by simpa using heq
        obtain ⟨rfl, hlast⟩ := List.append_inj' hsplit rfl
        obtain rfl := List.singleton_inj.mp hlast
        exact Or.inr ⟨⟨before, after, rfl, fun e' he' => hafter e' (by simp [he'])⟩, hafter (k, v) (by simp)⟩

/-- All entries are there exactly when no two of them have keys of equal order. -/
theorem perm_ofList_iff {entries : List (κ × α)} :
    (ofList cmp entries).Perm entries ↔ entries.Pairwise fun e e' => cmp e.1 e'.1 ≠ .eq := by
  constructor
  · intro h
    have hpairwise : (ofList cmp entries).Pairwise fun e e' => cmp e.1 e'.1 ≠ .eq :=
      (increasing_ofList entries).imp fun hlt => by simp [hlt]
    exact h.pairwise hpairwise fun hne heq => hne (Std.OrientedCmp.eq_symm heq)
  · induction entries using List.reverseRecOn with
    | nil => exact fun _ => .refl _
    | append_singleton entries last ih =>
      obtain ⟨k, v⟩ := last
      intro h
      obtain ⟨hentries, -, hlast⟩ := List.pairwise_append.mp h
      have hperm := ih hentries
      rw [ofList_concat]
      refine (perm_insert fun e he heq => ?_).trans ((hperm.cons (k, v)).trans (List.perm_append_singleton _ _).symm)
      exact hlast e (hperm.mem_iff.mp he) (k, v) List.mem_cons_self (Std.OrientedCmp.eq_symm heq)

/-- Where keys of equal order come with equal entries, what is there is what was put in. -/
theorem mem_ofList_iff_mem {entries : List (κ × α)} {e : κ × α}
    (h : ∀ e ∈ entries, ∀ e' ∈ entries, cmp e.1 e'.1 = .eq → e = e') : e ∈ ofList cmp entries ↔ e ∈ entries := by
  constructor
  · exact mem_of_mem_ofList
  · intro he
    induction entries using List.reverseRecOn with
    | nil => cases he
    | append_singleton entries last ih =>
      obtain ⟨k, v⟩ := last
      have hlast : (k, v) ∈ entries ++ [(k, v)] := by simp
      rw [ofList_concat, mem_insert_iff (increasing_ofList entries)]
      by_cases heq : cmp k e.1 = .eq
      · exact Or.inl (h (k, v) hlast e he heq).symm
      · have hold : e ∈ entries := by
          rcases List.mem_append.mp he with hold | hnew
          · exact hold
          · rw [List.mem_singleton.mp hnew] at heq
            exact absurd Std.ReflCmp.compare_self heq
        have hentries : ∀ e ∈ entries, ∀ e' ∈ entries, cmp e.1 e'.1 = .eq → e = e' :=
          fun e he e' he' => h e (List.mem_append_left _ he) e' (List.mem_append_left _ he')
        exact Or.inr ⟨ih hentries hold, heq⟩

/-- Maps with the same entries are the same. -/
theorem Increasing.ext {m m' : Keyed κ α} (h : Increasing cmp m) (h' : Increasing cmp m') (hmem : ∀ e, e ∈ m ↔ e ∈ m') :
    m = m' := by
  have hnodup : ∀ {m : Keyed κ α}, Increasing cmp m → m.Nodup := by
    intro m hm
    refine hm.imp fun {e e'} hlt heq => ?_
    have hself : cmp e'.1 e'.1 = .eq := Std.ReflCmp.compare_self
    rw [heq, hself] at hlt
    cases hlt
  have hperm : m.Perm m' := (List.perm_ext_iff_of_nodup (hnodup h) (hnodup h')).mpr hmem
  refine List.Perm.eq_of_pairwise (fun e e' _ _ hlt hgt => ?_) h h' hperm
  rw [Std.OrientedCmp.gt_iff_lt.mpr hlt] at hgt
  cases hgt

/-- What is found under a key stands in an entry whose key is of equal order. -/
theorem find?_eq_some_iff {k : κ} {v : α} {m : Keyed κ α} (h : Increasing cmp m) :
    find? cmp k m = some v ↔ ∃ e ∈ m, cmp k e.1 = .eq ∧ e.2 = v := by
  constructor
  · intro hfound
    obtain ⟨e, he, hvalue⟩ := Option.map_eq_some_iff.mp hfound
    have hkey := List.find?_some he
    rw [beq_iff_eq] at hkey
    exact ⟨e, List.mem_of_find?_eq_some he, hkey, hvalue⟩
  · intro hmem
    obtain ⟨e, he, hkey, rfl⟩ := hmem
    have hsame : ∀ k', cmp k k' = cmp e.1 k' := fun k' => Std.TransCmp.congr_left hkey
    rw [← find?_eq_some_of_mem h he, find?, find?]
    simp only [hsame]

/-- Among entries of which no two have keys of equal order, each is found under its key. -/
theorem find?_ofList_eq_some_iff {k : κ} {v : α} {entries : List (κ × α)}
    (h : entries.Pairwise fun e e' => cmp e.1 e'.1 ≠ .eq) :
    find? cmp k (ofList cmp entries) = some v ↔ ∃ e ∈ entries, cmp k e.1 = .eq ∧ e.2 = v := by
  rw [find?_eq_some_iff (increasing_ofList entries)]
  simp only [(perm_ofList_iff.mpr h).mem_iff]

end DeltaLint.Keyed

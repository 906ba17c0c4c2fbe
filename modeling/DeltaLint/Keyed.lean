/-
  DeltaLint.Keyed — finite maps as lists of entries in increasing order of their keys.

  Two keys with equal order are one key. A new entry under a known key takes the place of the old one.

  Proved:
  - `mem_of_mem_ofList` / `exists_mem_ofList`: the entries of a map were put in, and each key that was put
    in is among its keys.
-/

namespace DeltaLint

/-- Entries in increasing order of their keys. -/
abbrev Keyed (κ α : Type) := List (κ × α)

namespace Keyed

variable {κ α : Type}

/-- Puts under `k` what `f` makes of the value that stood there, if one did. -/
def alter (cmp : κ → κ → Ordering) (k : κ) (f : Option α → α) : Keyed κ α → Keyed κ α
  | [] => [(k, f none)]
  | (k', v) :: rest =>
    match cmp k k' with
    | .lt => (k, f none) :: (k', v) :: rest
    | .eq => (k, f (some v)) :: rest
    | .gt => (k', v) :: alter cmp k f rest

def insert (cmp : κ → κ → Ordering) (k : κ) (v : α) (m : Keyed κ α) : Keyed κ α := alter cmp k (fun _ => v) m

/-- The entries put in one after the other. -/
def ofList (cmp : κ → κ → Ordering) (entries : List (κ × α)) : Keyed κ α :=
  entries.foldl (fun m (k, v) => insert cmp k v m) []

theorem mem_insert {cmp : κ → κ → Ordering} {k : κ} {v : α} {m : Keyed κ α} {e : κ × α} (h : e ∈ insert cmp k v m) :
    e = (k, v) ∨ e ∈ m := by
  unfold insert at h
  induction m with
  | nil => simpa [alter] using h
  | cons e' m ih =>
    unfold alter at h
    split at h
    · simpa using h
    · rcases List.mem_cons.mp h with rfl | h
      · exact Or.inl rfl
      · exact Or.inr (List.mem_cons_of_mem _ h)
    · rcases List.mem_cons.mp h with rfl | h
      · exact Or.inr List.mem_cons_self
      · exact (ih h).imp_right (List.mem_cons_of_mem _)

theorem mem_insert_self (cmp : κ → κ → Ordering) (k : κ) (v : α) (m : Keyed κ α) : (k, v) ∈ insert cmp k v m := by
  unfold insert
  induction m with
  | nil => simp [alter]
  | cons e' m ih =>
    unfold alter
    split
    · exact List.mem_cons_self
    · exact List.mem_cons_self
    · exact List.mem_cons_of_mem _ ih

/-- An entry stays, unless it makes way for one under the same key. -/
theorem mem_insert_of_mem (cmp : κ → κ → Ordering) (k : κ) (v : α) {m : Keyed κ α} {e : κ × α} (h : e ∈ m) :
    e ∈ insert cmp k v m ∨ cmp k e.1 = .eq := by
  unfold insert
  induction m with
  | nil => cases h
  | cons e' m ih =>
    unfold alter
    split
    · exact Or.inl (List.mem_cons_of_mem _ h)
    · rename_i heq
      rcases List.mem_cons.mp h with rfl | h
      · exact Or.inr heq
      · exact Or.inl (List.mem_cons_of_mem _ h)
    · rcases List.mem_cons.mp h with rfl | h
      · exact Or.inl List.mem_cons_self
      · exact (ih h).imp_left (List.mem_cons_of_mem _)

theorem mem_of_mem_ofList {cmp : κ → κ → Ordering} {entries : List (κ × α)} {e : κ × α} (h : e ∈ ofList cmp entries) :
    e ∈ entries := by
  have hfold : ∀ m : Keyed κ α, e ∈ entries.foldl (fun m (k, v) => insert cmp k v m) m → e ∈ entries ∨ e ∈ m := by
    clear h
    induction entries with
    | nil => exact fun m h => Or.inr h
    | cons e' entries ih =>
      intro m h
      rcases ih _ h with h | h
      · exact Or.inl (List.mem_cons_of_mem _ h)
      · rcases mem_insert h with rfl | h
        · exact Or.inl List.mem_cons_self
        · exact Or.inr h
  rcases hfold [] h with h | h
  · exact h
  · cases h

/-- Each key put in is there, as a key with the same view where it is the view that keys are told apart by. -/
theorem exists_mem_ofList {cmp : κ → κ → Ordering} {entries : List (κ × α)} {e : κ × α} {ι : Type} (view : κ → ι)
    (hview : ∀ k k', cmp k k' = .eq ↔ view k = view k') (h : e ∈ entries) :
    ∃ e' ∈ ofList cmp entries, view e'.1 = view e.1 := by
  have hfold : ∀ m : Keyed κ α, e ∈ entries ∨ (∃ e' ∈ m, view e'.1 = view e.1) →
      ∃ e' ∈ entries.foldl (fun m (k, v) => insert cmp k v m) m, view e'.1 = view e.1 := by
    clear h
    induction entries with
    | nil => exact fun m h => h.resolve_left (by simp)
    | cons last entries ih =>
      intro m h
      refine ih _ ?_
      rcases h with h | ⟨e', he', hsame⟩
      · rcases List.mem_cons.mp h with rfl | h
        · exact Or.inr ⟨e, mem_insert_self _ _ _ _, rfl⟩
        · exact Or.inl h
      · rcases mem_insert_of_mem cmp last.1 last.2 he' with hin | heq
        · exact Or.inr ⟨e', hin, hsame⟩
        · exact Or.inr ⟨last, mem_insert_self _ _ _ _, ((hview _ _).mp heq).trans hsame⟩
  exact hfold [] (Or.inl h)

def find? (cmp : κ → κ → Ordering) (k : κ) (m : Keyed κ α) : Option α :=
  (List.find? (fun (k', _) => cmp k k' == .eq) m).map (·.2)

end Keyed

end DeltaLint

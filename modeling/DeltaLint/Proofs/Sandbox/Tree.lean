import DeltaLint.Proofs.Path
import DeltaLint.Sandbox.Tree

/-
  DeltaLint.Proofs.Sandbox.Tree — the places that paths lead to.

  A walk over the tree goes down by names and up by two dots; through a link it goes on with the segments of
  the link. So the place where it ends has a canonical path, whatever the spelling of the path it followed.

  Proved:
  - `names_of_walk`: a step of a walk keeps to names, and so does the walk.
  - `canonical_of_resolve`: what a path is resolved to is canonical.
-/

namespace DeltaLint.Sandbox.Tree

variable {t : Tree}

/-- All that leads to the place are names. -/
def Proper (p : Place) : Prop := ∀ s ∈ p, Path.IsName s.toList

theorem Proper.parent {p : Place} (h : Proper p) : Proper p.dropLast := fun s hs =>
  h s ((List.dropLast_sublist p).subset hs)

theorem Proper.child {p : Place} {s : String} (h : Proper p) (hs : Path.IsName s.toList) : Proper (p ++ [s]) := by
  intro s' h'
  rcases List.mem_append.mp h' with h' | h'
  · exact h s' h'
  · rw [List.mem_singleton.mp h']
    exact hs

theorem no_slash_of_mem_segments {path s : String} (h : s ∈ segments path) : '/' ∉ s.toList := by
  obtain ⟨segment, hsegment, rfl⟩ := List.mem_map.mp h
  rw [String.toList_ofList]
  exact Path.not_mem_segments hsegment

/-- A segment that a walk neither passes over nor goes up by is a name. -/
theorem isName_of_segment {s : String} (hslash : '/' ∉ s.toList) (hidle : (s == "" || s == ".") = false)
    (hparent : (s == "..") = false) : Path.IsName s.toList := by
  have hne : ∀ {a b : String}, (a == b) = false → a.toList ≠ b.toList := fun h heq =>
    beq_eq_false_iff_ne.mp h (String.toList_inj.mp heq)
  obtain ⟨hempty, hdot⟩ := Bool.or_eq_false_iff.mp hidle
  refine ⟨hslash, ?_, hne hparent⟩
  exact Bool.or_eq_false_iff.mpr ⟨beq_eq_false_iff_ne.mpr (hne hempty), beq_eq_false_iff_ne.mpr (hne hdot)⟩

/-- A walk over segments, from a place that names lead to, ends at one. -/
theorem names_of_walk {fuel links : Nat} {here place : Place} {ss : List String} (hhere : Proper here)
    (hss : ∀ s ∈ ss, '/' ∉ s.toList) (h : t.walk fuel links here ss = .ok place) : Proper place := by
  induction fuel generalizing links here ss with
  | zero => cases h
  | succ n ih =>
    cases ss with
    | nil =>
      cases h
      exact hhere
    | cons s rest =>
      obtain ⟨hslash, hrest⟩ := List.forall_mem_cons.mp hss
      have hlinked : ∀ target, ∀ s ∈ segments target ++ rest, '/' ∉ s.toList := by
        intro target s' h'
        rcases List.mem_append.mp h' with h' | h'
        · exact no_slash_of_mem_segments h'
        · exact hrest s' h'
      unfold walk at h
      split at h
      · cases h
      · split at h
        · exact ih hhere hrest h
        rename_i hidle
        split at h
        · exact ih hhere.parent hrest h
        rename_i hparent
        split at h
        · cases h
        have hname := isName_of_segment hslash (by simpa using hidle) (by simpa using hparent)
        split at h
        · cases h
        · split at h
          · cases h
          · split at h
            · cases h
            split at h
            · exact ih (fun _ hs => absurd hs List.not_mem_nil) (hlinked _) h
            · exact ih hhere (hlinked _) h
        · exact ih (hhere.child hname) hrest h
      · cases h

theorem canonical_text {p : Place} (h : Proper p) : Path.Canonical (text p).toList := by
  refine ⟨p.map (·.toList), ?_, fun s hs => ?_⟩
  · simp [text, Text.glue, String.toList_intercalate]
  · obtain ⟨name, hname, rfl⟩ := List.mem_map.mp hs
    exact h name hname

/-- What a path is resolved to is canonical. -/
theorem canonical_of_resolve {directory path real : String} (h : (t.resolve directory path).map text = .ok real) :
    Path.Canonical real.toList := by
  cases hplace : t.resolve directory path with
  | error fault =>
    rw [hplace] at h
    cases h
  | ok place =>
    rw [hplace] at h
    cases h
    refine canonical_text ?_
    unfold resolve at hplace
    split at hplace
    · cases hplace
    split at hplace
    · cases hplace
    split at hplace
    · cases hplace
    exact names_of_walk (fun _ hs => absurd hs List.not_mem_nil) (fun s hs => no_slash_of_mem_segments hs) hplace

end DeltaLint.Sandbox.Tree

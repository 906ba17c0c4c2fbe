import DeltaLint.Pattern.Footprint

/-
  DeltaLint.Proofs.Pattern.Footprint — patterns that take too much memory.

  A text takes a state of 32 bytes for each of its bytes, so there is a length that no tally leaves room for. A piece
  of an automaton without room overflows wherever it comes, and so does what has it as a part.

  Proved: `not_fits_of_length` (a text that is too long does not fit behind a look).
-/

namespace DeltaLint

namespace Footprint

variable {α β : Type}

/-- There is no room for the piece, whatever there is before it. -/
def Overflows (x : Build α) : Prop := ∀ t, x t = none

theorem overflows_bind_left {x : Build α} (h : Overflows x) (f : α → Build β) : Overflows (x >>= f) := by
  intro t
  show (x t).bind _ = none
  rw [h t]
  rfl

theorem overflows_bind_right (x : Build α) {f : α → Build β} (h : ∀ a, Overflows (f a)) : Overflows (x >>= f) := by
  intro t
  show (x t).bind (fun p => f p.1 p.2) = none
  cases x t with
  | none => rfl
  | some p => exact h p.1 p.2

/-- The states of a text. -/
abbrev textState : Build Ending := do
  state
  return .state

theorem textState_eq_some {t t' : Tally} {e : Ending} (h : textState t = some (e, t')) :
    e = .state ∧ t'.bytes = t.bytes + 32 ∧ t'.bytes ≤ limit := by
  have hgrow : textState t = if (t.add 0).bytes ≤ limit then some (.state, t.add 0) else none := by
    show (if (t.add 0).bytes ≤ limit then some ((), t.add 0) else none).bind _ = _
    split <;> rfl
  rw [hgrow] at h
  split at h
  · rename_i hle
    cases h
    exact ⟨rfl, rfl, hle⟩
  · cases h

theorem row_textState {n : Nat} {t t' : Tally} {e : Ending} (h : row textState (n + 1) t = some (e, t')) :
    t.bytes + 32 * (n + 1) ≤ limit := by
  induction n generalizing t with
  | zero =>
    have hstep : ∃ p, textState t = some p ∧ more textState 0 p.1 p.2 = some (e, t') := Option.bind_eq_some_iff.mp h
    obtain ⟨⟨first, t₁⟩, hstate, -⟩ := hstep
    obtain ⟨-, hbytes, hle⟩ := textState_eq_some hstate
    omega
  | succ n ih =>
    have hstep : ∃ p, textState t = some p ∧ more textState (n + 1) p.1 p.2 = some (e, t') := Option.bind_eq_some_iff.mp h
    obtain ⟨⟨first, t₁⟩, hstate, hmore⟩ := hstep
    obtain ⟨rfl, hbytes, -⟩ := textState_eq_some hstate
    -- No edge leads from a state to what comes after it, so what follows is a row again.
    have hrest : t₁.bytes + 32 * (n + 1) ≤ limit := ih hmore
    omega

/-- A text that takes more than the limit alone. -/
theorem overflows_row {n : Nat} (h : limit < 32 * n) : Overflows (row textState n) := by
  intro t
  cases n with
  | zero => exact absurd h (Nat.not_lt_zero _)
  | succ n =>
    rw [Option.eq_none_iff_forall_ne_some]
    rintro ⟨e, t'⟩ hrow
    have hle := row_textState hrow
    omega

/-- The states of the shape. -/
def piece (backward : Bool) (s : Shape) : Build Ending := whole backward s (branches backward s)

theorem overflows_literal {bytes : List UInt8} (h : limit < 32 * bytes.length) (backward : Bool) :
    Overflows (piece backward (.literal bytes)) := overflows_row h

theorem overflows_seq {backward : Bool} {s t : Shape} (h : Overflows (piece backward s) ∨ Overflows (piece backward t)) :
    Overflows (piece backward (.seq s t)) := by
  have hrow : ∀ {x y : Build Ending}, Overflows x ∨ Overflows y → Overflows (inRow x y) := by
    intro x y hxy
    rcases hxy with hx | hy
    · exact overflows_bind_left hx _
    · exact overflows_bind_right x fun e => overflows_bind_left hy _
  cases backward with
  | false => exact hrow h
  | true => exact hrow h.symm

/-- A sequence overflows with one of its parts. -/
theorem overflows_ofParts {backward : Bool} {s : Shape} (hs : Overflows (piece backward s)) {ss : List Shape} (h : s ∈ ss) :
    Overflows (piece backward (Shape.ofParts ss)) := by
  induction ss with
  | nil => cases h
  | cons s' ss ih =>
    cases ss with
    | nil =>
      obtain rfl := List.mem_singleton.mp h
      exact hs
    | cons s'' ss =>
      refine overflows_seq ?_
      rcases List.mem_cons.mp h with rfl | h
      · exact Or.inl hs
      · exact Or.inr (ih h)

theorem overflows_automaton {backward : Bool} {s : Shape} (h : Overflows (piece backward s)) :
    Overflows (automaton backward s) := by
  unfold automaton
  cases backward with
  | true =>
    simp only [if_true]
    split <;> exact overflows_bind_right _ fun _ => overflows_bind_left h _
  | false =>
    simp only [Bool.false_eq_true, if_false]
    split <;> exact overflows_bind_right _ fun _ => overflows_bind_right state fun _ => overflows_bind_left h _

theorem not_fits {s : Shape} (hlist : isWordList s = false) (h : ∀ backward, Overflows (piece backward s)) : s.fits = false := by
  have hrun : ∀ backward, (automaton backward s).run ⟨0, 0⟩ = none := fun backward => overflows_automaton (h backward) _
  simp [Shape.fits, hlist, hrun]

end Footprint

namespace Shape

open Footprint

/-- Texts that come one after the other are one text. -/
theorem joinLiterals_literals {bytes : List UInt8} (h : bytes ≠ []) (ss : List Shape) :
    ∃ rest ss', joinLiterals (bytes.map (fun b => literal [b]) ++ ss) = literal (bytes ++ rest) :: ss' := by
  induction bytes with
  | nil => exact absurd rfl h
  | cons b bytes ih =>
    rw [List.map_cons, List.cons_append, joinLiterals]
    cases bytes with
    | nil =>
      split
      · exact ⟨_, _, rfl⟩
      · exact ⟨[], _, rfl⟩
    | cons b' bytes =>
      obtain ⟨rest, ss', heq⟩ := ih (List.cons_ne_nil _ _)
      rw [heq]
      exact ⟨rest, ss', rfl⟩

/-- A text that is too long does not fit behind a look. -/
theorem not_fits_of_length {bytes : List UInt8} (h : limit < 32 * bytes.length) (l : Look) (ss : List Shape) :
    (ofParts (joinLiterals (look l :: (bytes.map (fun b => literal [b]) ++ ss)))).fits = false := by
  have hne : bytes ≠ [] := by
    rintro rfl
    exact absurd h (Nat.not_lt_zero _)
  obtain ⟨more, ss', heq⟩ := joinLiterals_literals hne ss
  rw [joinLiterals, heq]
  · refine not_fits rfl fun backward => ?_
    refine overflows_ofParts (s := literal (bytes ++ more)) (overflows_literal ?_ backward) (by simp)
    rw [List.length_append]
    omega
  · intro bytes hlook
    cases hlook

end Shape

end DeltaLint

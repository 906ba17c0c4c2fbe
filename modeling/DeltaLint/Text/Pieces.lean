/-
  DeltaLint.Text.Pieces — cutting a text at a character and gluing the pieces again.

  A text with `n` occurrences of the separator has `n + 1` pieces, so the empty text has one, and a
  separator at either end leaves an empty piece there. Lines in the sense of `lines` differ: a line
  feed ends a line, so none follows the last one, and one carriage return before it goes with it.

  Proved:
  - `glue_pieces` / `pieces_glue`: gluing undoes cutting, and cutting undoes gluing of one or more parts
    without the separator.
  - `pieces_append`: a text that is cut at a separator first has the pieces of both sides.
  - `pieces_ne_nil` / `not_mem_of_mem_pieces`: there is a piece, and none holds the separator.
  - `glue_append` / `glue_map_glue`: parts can be glued group by group.
  - `lines_flatMap`: lines that are ended by line feeds are read as they are.
-/

namespace DeltaLint.Text

/-- The stretches between the occurrences of `sep`. -/
def pieces (sep : Char) (text : List Char) : List (List Char) :=
  text.foldr (fun c ps => if c = sep then [] :: ps else (c :: ps.headD []) :: ps.tail) [[]]

/-- The parts, one after the other, with `sep` between neighbours. -/
def glue (sep : Char) (parts : List (List Char)) : List Char := List.intercalate [sep] parts

/-- The stretches between the occurrences of `mark`, found from left to right without overlap. `skip` characters
still belong to the occurrence before. -/
def cutFrom (mark : List Char) : Nat → List Char → List (List Char)
  | _, [] => [[]]
  | skip + 1, _ :: rest => cutFrom mark skip rest
  | 0, c :: rest =>
    if mark.isPrefixOf (c :: rest) then [] :: cutFrom mark (mark.length - 1) rest
    else
      let ps := cutFrom mark 0 rest
      (c :: ps.headD []) :: ps.tail

def cut (mark text : List Char) : List (List Char) := cutFrom mark 0 text

/-- The text has `part` in it. -/
def hasPart (part : List Char) : List Char → Bool
  | [] => part.isEmpty
  | c :: rest => part.isPrefixOf (c :: rest) || hasPart part rest

/-- Drops one carriage return at the end. -/
def dropReturn (line : List Char) : List Char :=
  if line.getLast? = some '\r' then line.dropLast else line

/-- The lines of a text. The last one may lack its line feed, and then keeps its carriage return. -/
def lines (text : List Char) : List (List Char) :=
  let ps := pieces '\n' text
  ps.dropLast.map dropReturn ++ (if ps.getLast? = some [] then [] else ps.getLast?.toList)

/-- The words of the rows of a table, which single spaces part. -/
def words (rows : List String) : List (List Char) := rows.flatMap fun row => pieces ' ' row.toList

theorem pieces_nil (sep : Char) : pieces sep [] = [[]] := rfl

theorem pieces_cons (sep c : Char) (r : List Char) : pieces sep (c :: r) =
    if c = sep then [] :: pieces sep r else (c :: (pieces sep r).headD []) :: (pieces sep r).tail := rfl

theorem pieces_ne_nil (sep : Char) (text : List Char) : pieces sep text ≠ [] := by
  cases text with
  | nil => simp [pieces_nil]
  | cons c r => rw [pieces_cons]; split <;> simp

theorem glue_cons_cons (sep c : Char) (p : List Char) (ps : List (List Char)) :
    glue sep ((c :: p) :: ps) = c :: glue sep (p :: ps) := by
  cases ps <;> simp [glue, List.intercalate]

theorem glue_append (sep : Char) {ps qs : List (List Char)} (hp : ps ≠ []) (hq : qs ≠ []) :
    glue sep (ps ++ qs) = glue sep ps ++ sep :: glue sep qs := by
  induction ps with
  | nil => exact absurd rfl hp
  | cons p ps ih =>
    cases ps with
    | nil =>
      obtain ⟨q, qs, rfl⟩ := List.exists_cons_of_ne_nil hq
      simp [glue]
    | cons p' ps =>
      have ih := ih (List.cons_ne_nil p' ps)
      simp only [glue, List.cons_append, List.intercalate_cons_cons] at ih ⊢
      simp [ih]

/-- Texts glued from parts, glued again. -/
theorem glue_map_glue (sep : Char) {groups : List (List (List Char))} (h : ∀ ps ∈ groups, ps ≠ []) :
    glue sep (groups.map (glue sep)) = glue sep groups.flatten := by
  induction groups with
  | nil => rfl
  | cons ps groups ih =>
    have ih := ih fun qs hq => h qs (List.mem_cons_of_mem ps hq)
    cases groups with
    | nil => simp [glue]
    | cons qs groups =>
      have hps : ps ≠ [] := h ps List.mem_cons_self
      have hrest : (qs :: groups).flatten ≠ [] := by simp [h qs (by simp)]
      rw [List.flatten_cons, glue_append sep hps hrest, ← ih]
      simp [glue]

theorem glue_pieces (sep : Char) (text : List Char) : glue sep (pieces sep text) = text := by
  induction text with
  | nil => rfl
  | cons c r ih =>
    rw [pieces_cons]
    obtain ⟨p, ps, h⟩ := List.exists_cons_of_ne_nil (pieces_ne_nil sep r)
    rw [h] at ih ⊢
    split
    · rename_i hc
      subst hc
      simpa [glue, List.intercalate] using ih
    · simpa [glue_cons_cons] using ih

theorem not_mem_of_mem_pieces {sep : Char} {text p : List Char} (h : p ∈ pieces sep text) : sep ∉ p := by
  induction text generalizing p with
  | nil => simp_all [pieces_nil]
  | cons c r ih =>
    rw [pieces_cons] at h
    obtain ⟨q, qs, hq⟩ := List.exists_cons_of_ne_nil (pieces_ne_nil sep r)
    rw [hq] at h ih
    split at h
    · rcases List.mem_cons.mp h with rfl | h
      · simp
      · exact ih h
    · rename_i hc
      simp only [List.headD_cons, List.tail_cons] at h
      rcases List.mem_cons.mp h with rfl | h
      · have := ih List.mem_cons_self
        simp [this, Ne.symm hc]
      · exact ih (List.mem_cons_of_mem _ h)

theorem pieces_of_not_mem {sep : Char} {text : List Char} (h : sep ∉ text) : pieces sep text = [text] := by
  induction text with
  | nil => rfl
  | cons c r ih =>
    simp only [List.mem_cons, not_or] at h
    rw [pieces_cons, if_neg (Ne.symm h.1), ih h.2]
    rfl

theorem pieces_append (sep : Char) (a b : List Char) : pieces sep (a ++ sep :: b) = pieces sep a ++ pieces sep b := by
  induction a with
  | nil => simp [pieces_cons, pieces_nil]
  | cons c r ih =>
    obtain ⟨p, ps, h⟩ := List.exists_cons_of_ne_nil (pieces_ne_nil sep r)
    rw [List.cons_append, pieces_cons, pieces_cons, ih, h]
    split <;> simp

theorem pieces_glue {sep : Char} {parts : List (List Char)} (hne : parts ≠ []) (h : ∀ p ∈ parts, sep ∉ p) :
    pieces sep (glue sep parts) = parts := by
  induction parts with
  | nil => exact absurd rfl hne
  | cons p ps ih =>
    have hp : sep ∉ p := h p List.mem_cons_self
    cases ps with
    | nil => simpa [glue, List.intercalate] using pieces_of_not_mem hp
    | cons q qs =>
      have hg : glue sep (p :: q :: qs) = p ++ sep :: glue sep (q :: qs) := by simp [glue, List.intercalate]
      rw [hg, pieces_append, pieces_of_not_mem hp,
        ih (List.cons_ne_nil q qs) (fun r hr => h r (List.mem_cons_of_mem p hr))]
      rfl

/-- Lines that are ended by line feeds are read as they are. -/
theorem lines_flatMap {ls : List (List Char)} (h : ∀ l ∈ ls, '\n' ∉ l ∧ l.getLast? ≠ some '\r') :
    lines (ls.flatMap (· ++ ['\n'])) = ls := by
  have hpieces : pieces '\n' (ls.flatMap (· ++ ['\n'])) = ls ++ [[]] := by
    induction ls with
    | nil => rfl
    | cons l ls ih =>
      rw [List.flatMap_cons, List.append_assoc, List.singleton_append, pieces_append,
        pieces_of_not_mem (h l List.mem_cons_self).1, ih fun l' hl' => h l' (List.mem_cons_of_mem l hl')]
      rfl
  have hreturns : ls.map dropReturn = ls := by
    rw [List.map_congr_left (g := id), List.map_id]
    intro l hl
    rw [dropReturn, if_neg (h l hl).2, id]
  simp [lines, hpieces, hreturns]

end DeltaLint.Text

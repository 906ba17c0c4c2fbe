import DeltaLint.Text.Utf8
import Mathlib.Data.List.Lex
import Mathlib.Data.String.Basic

/-
  DeltaLint.Proofs.Utf8 — the order of texts, by their characters and by their bytes.

  The lead byte of a longer sequence is greater, and sequences of one length are in the order of what their
  bits make. So texts are in the same order by their characters and by their bytes.

  Proved:
  - `encodeChar_lt`: the bytes of characters are in the order of the characters, whatever follows them.
  - `compare_eq_lt_iff`: a text comes before another when its bytes do.
-/

namespace DeltaLint.Text.Utf8

theorem cons_lt_of_lt {m n : Nat} (hlt : m < n) (hn : n < 256) (x y : List UInt8) : m.toUInt8 :: x < n.toUInt8 :: y := by
  refine List.cons_lt_cons_iff.mpr (Or.inl ?_)
  rwa [UInt8.lt_iff_toNat_lt, toNat_toUInt8 (by omega), toNat_toUInt8 hn]

theorem cons_lt_of_le {m n : Nat} (hle : m ≤ n) (hn : n < 256) {x y : List UInt8} (hrest : m = n → x < y) :
    m.toUInt8 :: x < n.toUInt8 :: y := by
  rcases Nat.lt_or_eq_of_le hle with hlt | rfl
  · exact cons_lt_of_lt hlt hn x y
  · exact List.cons_lt_cons_iff.mpr (Or.inr ⟨rfl, hrest rfl⟩)

/-- The bytes of characters are in the order of the characters, whatever follows them. -/
theorem encodeChar_lt {c d : Char} (h : c < d) (x y : List UInt8) : encodeChar c ++ x < encodeChar d ++ y := by
  have hlt : c.toNat < d.toNat := h
  have hvalid : d.toNat < 0xD800 ∨ 0xDFFF < d.toNat ∧ d.toNat < 0x110000 := d.valid
  unfold encodeChar
  -- By the length of the first sequence. A longer one has a greater lead; of one length, the bytes that differ first decide.
  by_cases hc1 : c.toNat < 0x80
  · simp only [hc1, if_true]
    split_ifs
    · exact cons_lt_of_lt (by omega) (by omega) _ _
    · exact cons_lt_of_lt (by omega) (by omega) _ _
    · exact cons_lt_of_lt (by omega) (by omega) _ _
    · exact cons_lt_of_lt (by omega) (by omega) _ _
  have hd1 : ¬d.toNat < 0x80 := by omega
  by_cases hc2 : c.toNat < 0x800
  · simp only [hc1, hc2, hd1, if_true, if_false]
    split_ifs
    · exact cons_lt_of_le (by omega) (by omega) fun _ => cons_lt_of_lt (by omega) (by omega) _ _
    · exact cons_lt_of_lt (by omega) (by omega) _ _
    · exact cons_lt_of_lt (by omega) (by omega) _ _
  have hd2 : ¬d.toNat < 0x800 := by omega
  by_cases hc3 : c.toNat < 0x10000
  · simp only [hc1, hc2, hc3, hd1, hd2, if_true, if_false]
    split_ifs
    · exact cons_lt_of_le (by omega) (by omega) fun _ => cons_lt_of_le (by omega) (by omega) fun _ =>
        cons_lt_of_lt (by omega) (by omega) _ _
    · exact cons_lt_of_lt (by omega) (by omega) _ _
  have hd3 : ¬d.toNat < 0x10000 := by omega
  simp only [hc1, hc2, hc3, hd1, hd2, hd3, if_false]
  exact cons_lt_of_le (by omega) (by omega) fun _ => cons_lt_of_le (by omega) (by omega) fun _ =>
    cons_lt_of_le (by omega) (by omega) fun _ => cons_lt_of_lt (by omega) (by omega) _ _

theorem encodeChar_ne_nil (c : Char) : encodeChar c ≠ [] := by
  unfold encodeChar
  dsimp only
  split_ifs
  · exact List.cons_ne_nil _ _
  · exact List.cons_ne_nil _ _
  · exact List.cons_ne_nil _ _
  · exact List.cons_ne_nil _ _

theorem encode_lt {a b : List Char} (h : a < b) : encode a < encode b := by
  induction h with
  | @nil c b =>
    obtain ⟨byte, bytes, hbytes⟩ := List.exists_cons_of_ne_nil (encodeChar_ne_nil c)
    rw [encode_cons, hbytes]
    exact List.nil_lt_cons _ _
  | rel h =>
    rw [encode_cons, encode_cons]
    exact encodeChar_lt h _ _
  | cons _ ih =>
    rw [encode_cons, encode_cons]
    exact List.append_left_lt ih

theorem encode_lt_encode_iff {a b : List Char} : encode a < encode b ↔ a < b := by
  constructor
  · intro h
    rcases lt_trichotomy a b with hlt | rfl | hgt
    · exact hlt
    · exact absurd h (List.lt_irrefl _)
    · exact absurd h (List.lt_asymm (encode_lt hgt))
  · exact encode_lt

/-- A text comes before another when its bytes do. -/
theorem compare_eq_lt_iff {a b : String} : compare a b = .lt ↔ encode a.toList < encode b.toList := by
  rw [encode_lt_encode_iff, compare_lt_iff_lt, String.lt_iff_toList_lt]

end DeltaLint.Text.Utf8

import DeltaLint.Text.Utf8

/-
  DeltaLint.Text.Bytes — bytes as text with one character for each of them.

  Characters of ASCII are bytes of their own, in UTF-8 as well as here. So what looks for such characters only
  finds them in bytes that need not be text: the shell its quotes and blanks, a path its slashes and dots.

  Proved:
  - `toBytes_ofBytes` / `ofBytes_toBytes`: the bytes come back, and so do characters that stand for bytes.
  - `mem_ofBytes_iff`: a byte is found where its character is.
-/

namespace DeltaLint.Text

def ofBytes (bytes : List UInt8) : List Char := bytes.map fun b => Char.ofNat b.toNat

def toBytes (text : List Char) : List UInt8 := text.map fun c => c.toNat.toUInt8

theorem toNat_char (b : UInt8) : (Char.ofNat b.toNat).toNat = b.toNat := by
  have hlt : b.toNat < 256 := b.toNat_lt
  exact Utf8.toNat_ofNat (by omega)

theorem toBytes_ofBytes (bytes : List UInt8) : toBytes (ofBytes bytes) = bytes := by
  have hbyte : ∀ b : UInt8, (Char.ofNat b.toNat).toNat.toUInt8 = b := by
    intro b
    rw [toNat_char]
    exact UInt8.ofNat_toNat
  rw [toBytes, ofBytes, List.map_map]
  exact (List.map_congr_left fun b _ => hbyte b).trans (List.map_id bytes)

theorem ofBytes_injective : Function.Injective ofBytes := Function.LeftInverse.injective toBytes_ofBytes

theorem ofBytes_toBytes {text : List Char} (h : ∀ c ∈ text, c.toNat < 256) : ofBytes (toBytes text) = text := by
  have hchar : ∀ c ∈ text, Char.ofNat c.toNat.toUInt8.toNat = c := by
    intro c hc
    rw [Utf8.toNat_toUInt8 (h c hc), Char.ofNat_toNat]
  rw [ofBytes, toBytes, List.map_map]
  exact (List.map_congr_left hchar).trans (List.map_id text)

theorem lt_of_mem_ofBytes {bytes : List UInt8} {c : Char} (h : c ∈ ofBytes bytes) : c.toNat < 256 := by
  obtain ⟨b, -, rfl⟩ := List.mem_map.mp h
  rw [toNat_char]
  exact b.toNat_lt

theorem char_injective : Function.Injective fun b : UInt8 => Char.ofNat b.toNat := by
  intro a b h
  have hnat : (Char.ofNat a.toNat).toNat = (Char.ofNat b.toNat).toNat := congrArg Char.toNat h
  rw [toNat_char, toNat_char] at hnat
  exact UInt8.toNat_inj.mp hnat

/-- A byte is found where its character is. -/
theorem mem_ofBytes_iff {b : UInt8} {bytes : List UInt8} : Char.ofNat b.toNat ∈ ofBytes bytes ↔ b ∈ bytes := by
  constructor
  · intro h
    obtain ⟨b', hb', heq⟩ := List.mem_map.mp h
    rwa [← char_injective heq]
  · exact fun h => List.mem_map_of_mem h

end DeltaLint.Text

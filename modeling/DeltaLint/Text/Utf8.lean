/-
  DeltaLint.Text.Utf8 — characters as bytes, and bytes as characters.

  Decoding reads byte after byte. A lead byte says how many bytes follow and bounds the first of
  them; each later one lies in 80–BF. Where a sequence breaks off, everything read of it stands for
  one replacement character and the byte that broke it is read anew, so that each maximal part that
  is not well formed gives exactly one U+FFFD.

  Proved:
  - `encodeChar_of_lt` / `le_of_mem_encodeChar`: the bytes of ASCII stand for characters of ASCII, one each.
  - `foldl_encodeChar`: between characters, the bytes of a character are read as that character.
  - `decode_encode`: text that was encoded is decoded to itself.
-/

namespace DeltaLint.Text.Utf8

/-- A sequence under way: the bits read, how many bytes are missing, and the bounds of the next. -/
structure Partial where
  bits : Nat
  missing : Nat
  low : Nat
  high : Nat
  deriving DecidableEq, Repr

structure Decoder where
  /-- The characters decoded, last first. -/
  decoded : List Char
  pending : Option Partial
  /-- No byte so far was out of place. -/
  clean : Bool
  deriving DecidableEq, Repr

namespace Decoder

def start : Decoder := ⟨[], none, true⟩

def put (d : Decoder) (c : Char) : Decoder := { d with decoded := c :: d.decoded }

/-- Gives up the sequence under way. -/
def replace (d : Decoder) : Decoder := ⟨'\uFFFD' :: d.decoded, none, false⟩

/-- Reads a byte where no sequence is under way. -/
def lead (d : Decoder) (b : Nat) : Decoder :=
  if b < 0x80 then d.put (Char.ofNat b)
  else if 0xC2 ≤ b ∧ b ≤ 0xDF then { d with pending := some ⟨b - 0xC0, 1, 0x80, 0xBF⟩ }
  else if b = 0xE0 then { d with pending := some ⟨0, 2, 0xA0, 0xBF⟩ }
  else if b = 0xED then { d with pending := some ⟨0xD, 2, 0x80, 0x9F⟩ }
  else if 0xE1 ≤ b ∧ b ≤ 0xEF then { d with pending := some ⟨b - 0xE0, 2, 0x80, 0xBF⟩ }
  else if b = 0xF0 then { d with pending := some ⟨0, 3, 0x90, 0xBF⟩ }
  else if 0xF1 ≤ b ∧ b ≤ 0xF3 then { d with pending := some ⟨b - 0xF0, 3, 0x80, 0xBF⟩ }
  else if b = 0xF4 then { d with pending := some ⟨4, 3, 0x80, 0x8F⟩ }
  else d.replace

def feed (d : Decoder) (byte : UInt8) : Decoder :=
  let b := byte.toNat
  match d.pending with
  | none => d.lead b
  | some p =>
    if p.low ≤ b ∧ b ≤ p.high then
      let bits := p.bits * 64 + (b - 0x80)
      if p.missing = 1 then { d with decoded := Char.ofNat bits :: d.decoded, pending := none }
      else { d with pending := some ⟨bits, p.missing - 1, 0x80, 0xBF⟩ }
    else d.replace.lead b

/-- The input has ended. -/
def finish (d : Decoder) : Decoder := if d.pending.isSome then d.replace else d

end Decoder

def run (bytes : List UInt8) : Decoder := (bytes.foldl Decoder.feed Decoder.start).finish

/-- The text with one U+FFFD for every maximal part that is not well formed. -/
def decode (bytes : List UInt8) : List Char := (run bytes).decoded.reverse

/-- The text, when every byte is in place. -/
def decode? (bytes : List UInt8) : Option (List Char) :=
  let d := run bytes
  if d.clean then some d.decoded.reverse else none

def encodeChar (c : Char) : List UInt8 :=
  let n := c.toNat
  if n < 0x80 then [n.toUInt8]
  else if n < 0x800 then [(0xC0 + n / 64).toUInt8, (0x80 + n % 64).toUInt8]
  else if n < 0x10000 then [(0xE0 + n / 4096).toUInt8, (0x80 + n / 64 % 64).toUInt8, (0x80 + n % 64).toUInt8]
  else [(0xF0 + n / 262144).toUInt8, (0x80 + n / 4096 % 64).toUInt8, (0x80 + n / 64 % 64).toUInt8,
    (0x80 + n % 64).toUInt8]

def encode (text : List Char) : List UInt8 := text.flatMap encodeChar

theorem toNat_ofNat {n : Nat} (h : n < 0xD800 ∨ 0xDFFF < n ∧ n < 0x110000) : (Char.ofNat n).toNat = n := by
  have hvalid : n.isValidChar := h
  rw [Char.ofNat, dif_pos hvalid]
  rfl

theorem toNat_toUInt8 {n : Nat} (h : n < 256) : n.toUInt8.toNat = n := by simpa using Nat.mod_eq_of_lt h

theorem encode_cons (c : Char) (text : List Char) : encode (c :: text) = encodeChar c ++ encode text := List.flatMap_cons

theorem encode_append (text rest : List Char) : encode (text ++ rest) = encode text ++ encode rest := List.flatMap_append

theorem encodeChar_of_lt {c : Char} (h : c.toNat < 0x80) : encodeChar c = [c.toNat.toUInt8] := if_pos h

/-- The bytes of a character that is not of ASCII are no bytes of ASCII either. -/
theorem le_of_mem_encodeChar {c : Char} (h : 0x80 ≤ c.toNat) {b : UInt8} (hb : b ∈ encodeChar c) : 0x80 ≤ b.toNat := by
  have hvalid : c.toNat < 0xD800 ∨ 0xDFFF < c.toNat ∧ c.toNat < 0x110000 := c.valid
  have hall : ∀ ns : List Nat, (∀ n ∈ ns, 0x80 ≤ n ∧ n < 256) → b ∈ ns.map Nat.toUInt8 → 0x80 ≤ b.toNat := by
    intro ns hns hmem
    obtain ⟨n, hn, rfl⟩ := List.mem_map.mp hmem
    rw [toNat_toUInt8 (hns n hn).2]
    exact (hns n hn).1
  unfold encodeChar at hb
  simp only [if_neg (Nat.not_lt.mpr h)] at hb
  split at hb
  · exact hall [0xC0 + c.toNat / 64, 0x80 + c.toNat % 64] (by simp; omega) hb
  · split at hb
    · exact hall [0xE0 + c.toNat / 4096, 0x80 + c.toNat / 64 % 64, 0x80 + c.toNat % 64] (by simp; omega) hb
    · exact hall [0xF0 + c.toNat / 262144, 0x80 + c.toNat / 4096 % 64, 0x80 + c.toNat / 64 % 64, 0x80 + c.toNat % 64]
        (by simp; omega) hb

/-! ## Encoded text is decoded to itself -/

open Decoder

theorem feed_of_none {d : Decoder} {n : Nat} (hd : d.pending = none) (h : n < 256) : d.feed n.toUInt8 = d.lead n := by
  simp only [feed, hd, toNat_toUInt8 h]

/-- A byte within its bounds that is not the last of a character. -/
theorem feed_more {d : Decoder} {bits missing low high n : Nat} (hd : d.pending = some ⟨bits, missing + 2, low, high⟩)
    (h : low ≤ n ∧ n ≤ high) (hn : n < 256) :
    d.feed n.toUInt8 = { d with pending := some ⟨bits * 64 + (n - 0x80), missing + 1, 0x80, 0xBF⟩ } := by
  simp only [feed, hd, toNat_toUInt8 hn]
  rw [if_pos h, if_neg (by omega)]
  rfl

/-- A byte within its bounds that ends a character. -/
theorem feed_last {d : Decoder} {bits low high n : Nat} (hd : d.pending = some ⟨bits, 1, low, high⟩)
    (h : low ≤ n ∧ n ≤ high) (hn : n < 256) :
    d.feed n.toUInt8 = { d with decoded := Char.ofNat (bits * 64 + (n - 0x80)) :: d.decoded, pending := none } := by
  simp only [feed, hd, toNat_toUInt8 hn]
  rw [if_pos h, if_pos trivial]

theorem lead_two {d : Decoder} {n : Nat} (h : 0x80 ≤ n ∧ n < 0x800) :
    d.lead (0xC0 + n / 64) = { d with pending := some ⟨n / 64, 1, 0x80, 0xBF⟩ } := by
  unfold lead
  rw [if_neg (by omega), if_pos (by omega), Nat.add_sub_cancel_left]

/-- The lead of three bytes bounds the second so that what they make is no shorter character and no surrogate. -/
theorem lead_three {d : Decoder} {k : Nat} (h : k < 16) :
    ∃ low high, d.lead (0xE0 + k) = { d with pending := some ⟨k, 2, low, high⟩ } ∧
      ∀ b, low ≤ b ∧ b ≤ high ↔ 0x80 ≤ b ∧ b ≤ 0xBF ∧ 0x20 ≤ k * 64 + (b - 0x80) ∧
        (k * 64 + (b - 0x80) < 0x360 ∨ 0x37F < k * 64 + (b - 0x80)) := by
  unfold lead
  rw [if_neg (by omega), if_neg (by omega)]
  by_cases h0 : k = 0
  · subst h0
    rw [if_pos rfl]
    exact ⟨_, _, rfl, by omega⟩
  · rw [if_neg (by omega)]
    by_cases hD : k = 0xD
    · subst hD
      rw [if_pos rfl]
      exact ⟨_, _, rfl, by omega⟩
    · rw [if_neg (by omega), if_pos (by omega), Nat.add_sub_cancel_left]
      exact ⟨_, _, rfl, by omega⟩

/-- The lead of four bytes bounds the second so that what they make is no shorter character and not too great. -/
theorem lead_four {d : Decoder} {k : Nat} (h : k < 5) :
    ∃ low high, d.lead (0xF0 + k) = { d with pending := some ⟨k, 3, low, high⟩ } ∧
      ∀ b, low ≤ b ∧ b ≤ high ↔ 0x80 ≤ b ∧ b ≤ 0xBF ∧ 0x10 ≤ k * 64 + (b - 0x80) ∧ k * 64 + (b - 0x80) < 0x110 := by
  unfold lead
  rw [if_neg (by omega), if_neg (by omega), if_neg (by omega), if_neg (by omega), if_neg (by omega)]
  by_cases h0 : k = 0
  · subst h0
    rw [if_pos rfl]
    exact ⟨_, _, rfl, by omega⟩
  · rw [if_neg (by omega)]
    by_cases h4 : k = 4
    · subst h4
      rw [if_neg (by omega), if_pos rfl]
      exact ⟨_, _, rfl, by omega⟩
    · rw [if_pos (by omega), Nat.add_sub_cancel_left]
      exact ⟨_, _, rfl, by omega⟩

/-- Between characters, the bytes of a character are read as that character. -/
theorem foldl_encodeChar {d : Decoder} (hd : d.pending = none) (c : Char) : (encodeChar c).foldl feed d = d.put c := by
  have hvalid : c.toNat < 0xD800 ∨ 0xDFFF < c.toNat ∧ c.toNat < 0x110000 := c.valid
  have hput : ∀ n, n = c.toNat → ({ d with decoded := Char.ofNat n :: d.decoded } : Decoder) = d.put c := by
    rintro _ rfl
    rw [Char.ofNat_toNat, put]
  have hend : ∀ n, n = c.toNat → ({ d with decoded := Char.ofNat n :: d.decoded, pending := none } : Decoder) = d.put c := by
    intro n hn
    rw [← hput n hn, hd]
  have hbounds : ∀ n, 0x80 ≤ 0x80 + n % 64 ∧ 0x80 + n % 64 ≤ 0xBF := by omega
  unfold encodeChar
  by_cases h1 : c.toNat < 0x80
  · simp only [h1, if_true, List.foldl_cons, List.foldl_nil]
    rw [feed_of_none hd (by omega), lead, if_pos h1]
    exact hput _ rfl
  by_cases h2 : c.toNat < 0x800
  · simp only [h1, h2, if_true, if_false, List.foldl_cons, List.foldl_nil]
    rw [feed_of_none hd (by omega), lead_two (by omega), feed_last rfl (hbounds _) (by omega)]
    exact hend _ (by omega)
  by_cases h3 : c.toNat < 0x10000
  · simp only [h1, h2, h3, if_true, if_false, List.foldl_cons, List.foldl_nil]
    obtain ⟨low, high, hlead, hsecond⟩ := lead_three (d := d) (k := c.toNat / 4096) (by omega)
    have hinside := (hsecond (0x80 + c.toNat / 64 % 64)).mpr (by omega)
    rw [feed_of_none hd (by omega), hlead, feed_more rfl hinside (by omega), feed_last rfl (hbounds _) (by omega)]
    exact hend _ (by omega)
  · simp only [h1, h2, h3, if_false, List.foldl_cons, List.foldl_nil]
    obtain ⟨low, high, hlead, hsecond⟩ := lead_four (d := d) (k := c.toNat / 262144) (by omega)
    have hinside := (hsecond (0x80 + c.toNat / 4096 % 64)).mpr (by omega)
    rw [feed_of_none hd (by omega), hlead, feed_more rfl hinside (by omega), feed_more rfl (hbounds (c.toNat / 64)) (by omega),
      feed_last rfl (hbounds _) (by omega)]
    exact hend _ (by omega)

/-- Text that was encoded is decoded to itself. -/
theorem decode_encode (text : List Char) : decode (encode text) = text := by
  have hfold : ∀ d : Decoder, d.pending = none →
      (encode text).foldl feed d = { d with decoded := text.reverse ++ d.decoded } := by
    induction text with
    | nil => intro d _; rfl
    | cons c text ih =>
      intro d hd
      rw [encode, List.flatMap_cons, List.foldl_append, foldl_encodeChar hd]
      have hrest := ih (d.put c) hd
      rw [encode] at hrest
      rw [hrest]
      simp [put]
  rw [decode, run, hfold start rfl]
  simp [start, finish]

end DeltaLint.Text.Utf8

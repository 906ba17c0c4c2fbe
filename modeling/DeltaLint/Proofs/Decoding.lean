import DeltaLint.Proofs.Selection
import DeltaLint.Proofs.Text
import Mathlib.Tactic.SplitIfs

/-
  DeltaLint.Proofs.Decoding — bytes that may be no text, read as text line by line.

  What bytes stand for is said without a decoder (`Decodes`): a whole character stands for itself, and
  what breaks off before it is one, as far as it goes, for U+FFFD. The decoder reads exactly that. A character
  of ASCII is one byte that is part of no other, so what breaks off ends before it and nothing reaches
  across it: cut at one, such as a line feed, the text has the pieces of the bytes, each decoded on its own.

  Proved:
  - `decodes_iff`: the decoder gives the text that the bytes stand for.
  - `decode_append_ascii`: what stands before a character of ASCII is decoded apart from what stands after it.
  - `pieces_decode`: the pieces of the text are the pieces of the bytes, decoded one by one.
  - `lines_kept_by_own_bytes`: so a filter keeps a line by the bytes of that line alone.
-/

namespace DeltaLint.Text.Utf8

open Decoder

/-! ## What bytes stand for -/

/-- The bytes begin a character, or are one. -/
def Begins (u : List UInt8) : Prop := ∃ c, u <+: encodeChar c

/-- The text that the bytes stand for. -/
inductive Decodes : List UInt8 → List Char → Prop
  | done : Decodes [] []
  | char (c : Char) {rest : List UInt8} {text : List Char} (hrest : Decodes rest text) :
      Decodes (encodeChar c ++ rest) (c :: text)
  /-- Bytes that begin a character and are none, and do not begin one with the next byte either. -/
  | broken {u rest : List UInt8} {text : List Char} (hne : u ≠ []) (hbegins : Begins u) (hpart : ∀ c, u ≠ encodeChar c)
      (hends : ∀ b ∈ rest.head?, ¬Begins (u ++ [b])) (hrest : Decodes rest text) :
      Decodes (u ++ rest) ('\uFFFD' :: text)
  /-- A byte that begins no character. -/
  | stray {b : UInt8} {rest : List UInt8} {text : List Char} (hb : ¬Begins [b]) (hrest : Decodes rest text) :
      Decodes (b :: rest) ('\uFFFD' :: text)

/-- Bytes that begin a character go on as long as they do. -/
theorem exists_longest {u : List UInt8} (hu : Begins u) (rest : List UInt8) :
    ∃ more left, more ++ left = rest ∧ Begins (u ++ more) ∧ ∀ b ∈ left.head?, ¬Begins (u ++ more ++ [b]) := by
  induction rest generalizing u with
  | nil => exact ⟨[], [], rfl, by rwa [List.append_nil], fun b hb => by cases hb⟩
  | cons b rest ih =>
    by_cases hb : Begins (u ++ [b])
    · obtain ⟨more, left, rfl, hbegins, hends⟩ := ih hb
      rw [List.append_assoc] at hbegins hends
      exact ⟨b :: more, left, rfl, hbegins, hends⟩
    · refine ⟨[], b :: rest, rfl, by rwa [List.append_nil], fun b' hb' => ?_⟩
      obtain rfl : b = b' := Option.some.inj hb'
      rwa [List.append_nil]

/-- All bytes stand for some text. -/
theorem exists_decodes (bytes : List UInt8) : ∃ text, Decodes bytes text := by
  induction hlength : bytes.length using Nat.strongRecOn generalizing bytes with
  | ind n ih =>
    subst hlength
    cases bytes with
    | nil => exact ⟨[], .done⟩
    | cons b rest =>
      by_cases hb : Begins [b]
      · obtain ⟨more, left, rfl, hbegins, hends⟩ := exists_longest hb rest
        have hshorter : left.length < (b :: (more ++ left)).length := by
          rw [List.length_cons, List.length_append]
          omega
        obtain ⟨text, htext⟩ := ih left.length hshorter left rfl
        show ∃ text, Decodes ([b] ++ more ++ left) text
        by_cases hchar : ∃ c, [b] ++ more = encodeChar c
        · obtain ⟨c, hc⟩ := hchar
          rw [hc]
          exact ⟨_, .char c htext⟩
        · exact ⟨_, .broken (List.cons_ne_nil b more) hbegins (fun c hc => hchar ⟨c, hc⟩) hends htext⟩
      · obtain ⟨text, htext⟩ := ih rest.length (Nat.lt_succ_self _) rest rfl
        exact ⟨_, .stray hb htext⟩

/-! ## Bytes that begin a character -/

theorem toUInt8_eq {b : UInt8} {n : Nat} (h : n = b.toNat) : n.toUInt8 = b := by
  rw [h]
  simp

theorem Begins.of_append {u v : List UInt8} (h : Begins (u ++ v)) : Begins u := by
  obtain ⟨c, hc⟩ := h
  exact ⟨c, (List.prefix_append u v).trans hc⟩

theorem Begins.of_eq {c : Char} {u : List UInt8} (h : encodeChar c = u) : Begins u := ⟨c, h ▸ List.prefix_rfl⟩

theorem begins_one {n : Nat} (h : n < 0x80) : Begins [n.toUInt8] := by
  have hn : (Char.ofNat n).toNat = n := toNat_ofNat (by omega)
  have hbytes : encodeChar (Char.ofNat n) = [n.toUInt8] := by
    rw [encodeChar_of_lt (by omega), hn]
  exact .of_eq hbytes

theorem begins_two {n : Nat} (h : 0x80 ≤ n ∧ n < 0x800) : Begins [(0xC0 + n / 64).toUInt8, (0x80 + n % 64).toUInt8] := by
  have hn : (Char.ofNat n).toNat = n := toNat_ofNat (by omega)
  have hbytes : encodeChar (Char.ofNat n) = [(0xC0 + n / 64).toUInt8, (0x80 + n % 64).toUInt8] := by
    rw [encodeChar, hn, if_neg (by omega), if_pos h.2]
  exact .of_eq hbytes

theorem begins_three {n : Nat} (h : 0x800 ≤ n ∧ n < 0x10000) (hvalid : n < 0xD800 ∨ 0xDFFF < n) :
    Begins [(0xE0 + n / 4096).toUInt8, (0x80 + n / 64 % 64).toUInt8, (0x80 + n % 64).toUInt8] := by
  have hn : (Char.ofNat n).toNat = n := toNat_ofNat (by omega)
  have hbytes : encodeChar (Char.ofNat n) =
      [(0xE0 + n / 4096).toUInt8, (0x80 + n / 64 % 64).toUInt8, (0x80 + n % 64).toUInt8] := by
    rw [encodeChar, hn, if_neg (by omega), if_neg (by omega), if_pos h.2]
  exact .of_eq hbytes

theorem begins_four {n : Nat} (h : 0x10000 ≤ n ∧ n < 0x110000) :
    Begins [(0xF0 + n / 262144).toUInt8, (0x80 + n / 4096 % 64).toUInt8, (0x80 + n / 64 % 64).toUInt8,
      (0x80 + n % 64).toUInt8] := by
  have hn : (Char.ofNat n).toNat = n := toNat_ofNat (by omega)
  have hbytes : encodeChar (Char.ofNat n) = [(0xF0 + n / 262144).toUInt8, (0x80 + n / 4096 % 64).toUInt8,
      (0x80 + n / 64 % 64).toUInt8, (0x80 + n % 64).toUInt8] := by
    rw [encodeChar, hn, if_neg (by omega), if_neg (by omega), if_neg (by omega)]
  exact .of_eq hbytes

/-- Between characters, a byte that begins none is given up at once. -/
theorem feed_stray {b : UInt8} (hb : ¬Begins [b]) : start.feed b = start.replace := by
  have hlt : b.toNat < 256 := b.toNat_lt
  have hbegins : ∀ {n : Nat} {v : List UInt8}, n = b.toNat → ¬Begins (n.toUInt8 :: v) := by
    rintro n v hn h
    rw [toUInt8_eq hn] at h
    exact hb (Begins.of_append (v := v) h)
  show start.lead b.toNat = start.replace
  unfold lead
  split_ifs
  · exact absurd (begins_one (n := b.toNat) (by omega)) (hbegins rfl)
  · exact absurd (begins_two (n := (b.toNat - 0xC0) * 64) (by omega)) (hbegins (by omega))
  · exact absurd (begins_three (n := 0x800) (by omega) (by omega)) (hbegins (by omega))
  · exact absurd (begins_three (n := 0xD000) (by omega) (by omega)) (hbegins (by omega))
  · exact absurd (begins_three (n := (b.toNat - 0xE0) * 4096) (by omega) (by omega)) (hbegins (by omega))
  · exact absurd (begins_four (n := 0x10000) (by omega)) (hbegins (by omega))
  · exact absurd (begins_four (n := (b.toNat - 0xF0) * 262144) (by omega)) (hbegins (by omega))
  · exact absurd (begins_four (n := 0x100000) (by omega)) (hbegins (by omega))
  · rfl

/-- After these bytes the decoder waits for the rest of a character, and what is within its bounds goes on with one. -/
def Awaits (u : List UInt8) : Prop :=
  ∃ p, u.foldl feed start = ⟨[], some p, true⟩ ∧ ∀ m, p.low ≤ m ∧ m ≤ p.high → Begins (u ++ [m.toUInt8])

theorem awaits_two {n : Nat} (h : 0x80 ≤ n ∧ n < 0x800) : Awaits [(0xC0 + n / 64).toUInt8] := by
  refine ⟨⟨n / 64, 1, 0x80, 0xBF⟩, ?_, fun m (hm : 0x80 ≤ m ∧ m ≤ 0xBF) => ?_⟩
  · rw [List.foldl_cons, feed_of_none rfl (by omega), lead_two h]
    rfl
  · have hbegins := begins_two (n := n / 64 * 64 + (m - 0x80)) (by omega)
    rwa [show (n / 64 * 64 + (m - 0x80)) / 64 = n / 64 by omega,
      show 0x80 + (n / 64 * 64 + (m - 0x80)) % 64 = m by omega] at hbegins

theorem awaits_three {k : Nat} (h : k < 16) : Awaits [(0xE0 + k).toUInt8] := by
  obtain ⟨low, high, hlead, hbounds⟩ := lead_three (d := start) h
  refine ⟨⟨k, 2, low, high⟩, ?_, fun m hm => ?_⟩
  · rw [List.foldl_cons, feed_of_none rfl (by omega), hlead]
    rfl
  · have hinside := (hbounds m).mp hm
    have hbegins := begins_three (n := (k * 64 + (m - 0x80)) * 64) (by omega) (by omega)
    rw [show (k * 64 + (m - 0x80)) * 64 / 4096 = k by omega,
      show 0x80 + (k * 64 + (m - 0x80)) * 64 / 64 % 64 = m by omega] at hbegins
    exact Begins.of_append (v := [_]) hbegins

theorem awaits_three_more {k : Nat} (h : 0x20 ≤ k ∧ k < 0x400) (hvalid : k < 0x360 ∨ 0x37F < k) :
    Awaits [(0xE0 + k / 64).toUInt8, (0x80 + k % 64).toUInt8] := by
  obtain ⟨low, high, hlead, hbounds⟩ := lead_three (d := start) (k := k / 64) (by omega)
  refine ⟨⟨k / 64 * 64 + (0x80 + k % 64 - 0x80), 1, 0x80, 0xBF⟩, ?_, fun m (hm : 0x80 ≤ m ∧ m ≤ 0xBF) => ?_⟩
  · have hinside := (hbounds (0x80 + k % 64)).mpr (by omega)
    rw [List.foldl_cons, List.foldl_cons, feed_of_none (d := start) rfl (by omega), hlead,
      feed_more rfl hinside (by omega)]
    rfl
  · have hbegins := begins_three (n := k * 64 + (m - 0x80)) (by omega) (by omega)
    rwa [show (k * 64 + (m - 0x80)) / 4096 = k / 64 by omega, show (k * 64 + (m - 0x80)) / 64 = k by omega,
      show 0x80 + (k * 64 + (m - 0x80)) % 64 = m by omega] at hbegins

theorem awaits_four {k : Nat} (h : k < 5) : Awaits [(0xF0 + k).toUInt8] := by
  obtain ⟨low, high, hlead, hbounds⟩ := lead_four (d := start) h
  refine ⟨⟨k, 3, low, high⟩, ?_, fun m hm => ?_⟩
  · rw [List.foldl_cons, feed_of_none rfl (by omega), hlead]
    rfl
  · have hinside := (hbounds m).mp hm
    have hbegins := begins_four (n := (k * 64 + (m - 0x80)) * 4096) (by omega)
    rw [show (k * 64 + (m - 0x80)) * 4096 / 262144 = k by omega,
      show 0x80 + (k * 64 + (m - 0x80)) * 4096 / 4096 % 64 = m by omega] at hbegins
    exact Begins.of_append (v := [_, _]) hbegins

theorem awaits_four_more {k : Nat} (h : 0x10 ≤ k ∧ k < 0x110) :
    Awaits [(0xF0 + k / 64).toUInt8, (0x80 + k % 64).toUInt8] := by
  obtain ⟨low, high, hlead, hbounds⟩ := lead_four (d := start) (k := k / 64) (by omega)
  refine ⟨⟨k / 64 * 64 + (0x80 + k % 64 - 0x80), 2, 0x80, 0xBF⟩, ?_, fun m (hm : 0x80 ≤ m ∧ m ≤ 0xBF) => ?_⟩
  · have hinside := (hbounds (0x80 + k % 64)).mpr (by omega)
    rw [List.foldl_cons, List.foldl_cons, feed_of_none (d := start) rfl (by omega), hlead,
      feed_more rfl hinside (by omega)]
    rfl
  · have hbegins := begins_four (n := (k * 64 + (m - 0x80)) * 64) (by omega)
    rw [show (k * 64 + (m - 0x80)) * 64 / 262144 = k / 64 by omega,
      show (k * 64 + (m - 0x80)) * 64 / 4096 = k by omega,
      show 0x80 + (k * 64 + (m - 0x80)) * 64 / 64 % 64 = m by omega] at hbegins
    exact Begins.of_append (v := [_]) hbegins

theorem awaits_four_last {k : Nat} (h : 0x400 ≤ k ∧ k < 0x4400) :
    Awaits [(0xF0 + k / 4096).toUInt8, (0x80 + k / 64 % 64).toUInt8, (0x80 + k % 64).toUInt8] := by
  obtain ⟨low, high, hlead, hbounds⟩ := lead_four (d := start) (k := k / 4096) (by omega)
  refine ⟨⟨(k / 4096 * 64 + (0x80 + k / 64 % 64 - 0x80)) * 64 + (0x80 + k % 64 - 0x80), 1, 0x80, 0xBF⟩, ?_,
    fun m (hm : 0x80 ≤ m ∧ m ≤ 0xBF) => ?_⟩
  · have hinside := (hbounds (0x80 + k / 64 % 64)).mpr (by omega)
    have hmore : 0x80 ≤ 0x80 + k % 64 ∧ 0x80 + k % 64 ≤ 0xBF := by omega
    rw [List.foldl_cons, List.foldl_cons, List.foldl_cons, feed_of_none (d := start) rfl (by omega), hlead,
      feed_more rfl hinside (by omega), feed_more rfl hmore (by omega)]
    rfl
  · have hbegins := begins_four (n := k * 64 + (m - 0x80)) (by omega)
    rwa [show (k * 64 + (m - 0x80)) / 262144 = k / 4096 by omega, show (k * 64 + (m - 0x80)) / 4096 = k / 64 by omega,
      show (k * 64 + (m - 0x80)) / 64 = k by omega, show 0x80 + (k * 64 + (m - 0x80)) % 64 = m by omega] at hbegins

/-- What begins a character and is none yet awaits the rest. -/
theorem awaits_of_begins {u : List UInt8} (hne : u ≠ []) (hbegins : Begins u) (hpart : ∀ c, u ≠ encodeChar c) :
    Awaits u := by
  obtain ⟨c, hpre⟩ := hbegins
  have hvalid : c.toNat < 0xD800 ∨ 0xDFFF < c.toNat ∧ c.toNat < 0x110000 := c.valid
  have hpart := hpart c
  unfold encodeChar at hpre hpart
  dsimp only at hpre hpart
  split_ifs at hpre hpart with h1 h2 h3
  · simp only [List.prefix_cons_iff, List.prefix_nil] at hpre
    rcases hpre with rfl | ⟨_, rfl, rfl⟩
    · exact absurd rfl hne
    · exact absurd rfl hpart
  · simp only [List.prefix_cons_iff, List.prefix_nil] at hpre
    rcases hpre with rfl | ⟨_, rfl, rfl | ⟨_, rfl, rfl⟩⟩
    · exact absurd rfl hne
    · exact awaits_two (by omega)
    · exact absurd rfl hpart
  · simp only [List.prefix_cons_iff, List.prefix_nil] at hpre
    rcases hpre with rfl | ⟨_, rfl, rfl | ⟨_, rfl, rfl | ⟨_, rfl, rfl⟩⟩⟩
    · exact absurd rfl hne
    · exact awaits_three (by omega)
    · rw [show c.toNat / 4096 = c.toNat / 64 / 64 by omega]
      exact awaits_three_more (by omega) (by omega)
    · exact absurd rfl hpart
  · simp only [List.prefix_cons_iff, List.prefix_nil] at hpre
    rcases hpre with rfl | ⟨_, rfl, rfl | ⟨_, rfl, rfl | ⟨_, rfl, rfl | ⟨_, rfl, rfl⟩⟩⟩⟩
    · exact absurd rfl hne
    · exact awaits_four (by omega)
    · rw [show c.toNat / 262144 = c.toNat / 4096 / 64 by omega]
      exact awaits_four_more (by omega)
    · rw [show c.toNat / 262144 = c.toNat / 64 / 4096 by omega, show c.toNat / 4096 = c.toNat / 64 / 64 by omega]
      exact awaits_four_last (by omega)
    · exact absurd rfl hpart

/-! ## The decoder -/

/-- What was decoded before plays no part in what is read next. -/
theorem lead_onto (d : Decoder) (before : List Char) (clean : Bool) (b : Nat) :
    ∃ clean', lead ⟨d.decoded ++ before, d.pending, clean⟩ b =
      ⟨(d.lead b).decoded ++ before, (d.lead b).pending, clean'⟩ := by
  unfold lead
  split_ifs
  all_goals exact ⟨_, rfl⟩

theorem feed_onto (d : Decoder) (before : List Char) (clean : Bool) (b : UInt8) :
    ∃ clean', feed ⟨d.decoded ++ before, d.pending, clean⟩ b =
      ⟨(d.feed b).decoded ++ before, (d.feed b).pending, clean'⟩ := by
  obtain ⟨decoded, pending, wasClean⟩ := d
  cases pending with
  | none => exact lead_onto ⟨decoded, none, wasClean⟩ before clean b.toNat
  | some p =>
    simp only [feed]
    split_ifs
    · exact ⟨_, rfl⟩
    · exact ⟨_, rfl⟩
    · exact lead_onto (replace ⟨decoded, some p, wasClean⟩) before false b.toNat

theorem finish_onto (bytes : List UInt8) (d : Decoder) (before : List Char) (clean : Bool) :
    (bytes.foldl feed ⟨d.decoded ++ before, d.pending, clean⟩).finish.decoded =
      (bytes.foldl feed d).finish.decoded ++ before := by
  induction bytes generalizing d clean with
  | nil =>
    cases h : d.pending with
    | none => simp [finish, h]
    | some p => simp [finish, replace, h]
  | cons b bytes ih =>
    obtain ⟨clean', hfeed⟩ := feed_onto d before clean b
    rw [List.foldl_cons, List.foldl_cons, hfeed]
    exact ih (d.feed b) clean'

/-- Where the decoder is between characters it reads what follows as if it began there. -/
theorem decode_append_of_foldl {u : List UInt8} {before : List Char} {clean : Bool}
    (h : u.foldl feed start = ⟨before, none, clean⟩) (rest : List UInt8) :
    decode (u ++ rest) = before.reverse ++ decode rest := by
  rw [decode, run, List.foldl_append, h, decode, run, ← List.reverse_append]
  exact congrArg List.reverse (finish_onto rest start before clean)

theorem decode_encodeChar_append (c : Char) (rest : List UInt8) : decode (encodeChar c ++ rest) = c :: decode rest := by
  have hstate : (encodeChar c).foldl feed start = ⟨[c], none, true⟩ := foldl_encodeChar rfl c
  exact decode_append_of_foldl hstate rest

theorem decode_stray {b : UInt8} (hb : ¬Begins [b]) (rest : List UInt8) : decode (b :: rest) = '\uFFFD' :: decode rest := by
  have hstate : [b].foldl feed start = ⟨['\uFFFD'], none, false⟩ := feed_stray hb
  exact decode_append_of_foldl hstate rest

/-- What is waited for does not come, and is given up where the next byte is read or the input ends. -/
theorem decode_broken {u rest : List UInt8} (hu : Awaits u) (hends : ∀ b ∈ rest.head?, ¬Begins (u ++ [b])) :
    decode (u ++ rest) = '\uFFFD' :: decode rest := by
  obtain ⟨p, hstate, hbounds⟩ := hu
  cases rest with
  | nil =>
    rw [List.append_nil, decode, run, hstate]
    rfl
  | cons b rest =>
    have hout : ¬(p.low ≤ b.toNat ∧ b.toNat ≤ p.high) := by
      intro hin
      have hbegins := hbounds b.toNat hin
      rw [toUInt8_eq rfl] at hbegins
      exact hends b rfl hbegins
    have hfeed : feed ⟨[], some p, true⟩ b = feed ⟨['\uFFFD'], none, false⟩ b := by
      unfold feed
      exact if_neg hout
    rw [decode, run, List.foldl_append, hstate, List.foldl_cons, hfeed]
    exact (congrArg List.reverse (finish_onto (b :: rest) start ['\uFFFD'] false)).trans List.reverse_append

theorem Decodes.decode_eq {bytes : List UInt8} {text : List Char} (h : Decodes bytes text) : decode bytes = text := by
  induction h with
  | done => rfl
  | char c _ ih => rw [decode_encodeChar_append, ih]
  | broken hne hbegins hpart hends _ ih => rw [decode_broken (awaits_of_begins hne hbegins hpart) hends, ih]
  | stray hb _ ih => rw [decode_stray hb, ih]

/-- The decoder gives the text that the bytes stand for. -/
theorem decodes_iff {bytes : List UInt8} {text : List Char} : Decodes bytes text ↔ text = decode bytes := by
  constructor
  · exact fun h => h.decode_eq.symm
  · rintro rfl
    obtain ⟨text, htext⟩ := exists_decodes bytes
    rwa [htext.decode_eq]

-- Two of three bytes are one part of a character, and a line feed ends it.
example : decode [0x61, 0xE2, 0x82, 0x0A, 0xFF, 0x62] = ['a', '\uFFFD', '\n', '\uFFFD', 'b'] := by decide

/-! ## Characters of one byte -/

variable {sep : Char} (hsep : sep.toNat < 0x80)

include hsep

/-- A character of ASCII goes on with no other. -/
theorem not_begins_ascii {u : List UInt8} (hne : u ≠ []) : ¬Begins (u ++ [sep.toNat.toUInt8]) := by
  rintro ⟨c, hc⟩
  by_cases hascii : c.toNat < 0x80
  · rw [encodeChar_of_lt hascii] at hc
    exact hne (by simpa using hc.length_le)
  · have hmem := hc.subset (List.mem_append_right u (List.mem_singleton_self _))
    have hle := le_of_mem_encodeChar (Nat.not_lt.mp hascii) hmem
    rw [toNat_toUInt8 (by omega)] at hle
    omega

/-- Text before a character of ASCII and text after it. -/
theorem Decodes.append_ascii {a b : List UInt8} {s t : List Char} (ha : Decodes a s) (hb : Decodes b t) :
    Decodes (a ++ sep.toNat.toUInt8 :: b) (s ++ sep :: t) := by
  induction ha with
  | done =>
    have hchar := Decodes.char sep hb
    rwa [encodeChar_of_lt hsep] at hchar
  | char c _ ih =>
    rw [List.append_assoc]
    exact .char c ih
  | @broken u rest text hne hbegins hpart hends _ ih =>
    rw [List.append_assoc]
    refine .broken hne hbegins hpart (fun b' hb' => ?_) ih
    cases rest with
    | nil =>
      obtain rfl := Option.some.inj hb'
      exact not_begins_ascii hsep hne
    | cons r rest => exact hends b' hb'
  | stray hstray _ ih => exact .stray hstray ih

/-- A character of ASCII comes from no other byte than its own. -/
theorem Decodes.not_mem_ascii {bytes : List UInt8} {text : List Char} (h : Decodes bytes text)
    (hbytes : sep.toNat.toUInt8 ∉ bytes) : sep ∉ text := by
  have hreplaced : sep ≠ '\uFFFD' := by
    rintro rfl
    exact absurd hsep (by decide)
  induction h with
  | done => exact List.not_mem_nil
  | char c _ ih =>
    rw [List.mem_append, not_or] at hbytes
    refine List.not_mem_cons_of_ne_of_not_mem ?_ (ih hbytes.2)
    rintro rfl
    exact hbytes.1 (by rw [encodeChar_of_lt hsep]; exact List.mem_singleton_self _)
  | broken _ _ _ _ _ ih =>
    rw [List.mem_append, not_or] at hbytes
    exact List.not_mem_cons_of_ne_of_not_mem hreplaced (ih hbytes.2)
  | stray _ _ ih => exact List.not_mem_cons_of_ne_of_not_mem hreplaced (ih (List.not_mem_of_not_mem_cons hbytes))

theorem not_mem_decode {bytes : List UInt8} (h : sep.toNat.toUInt8 ∉ bytes) : sep ∉ decode bytes :=
  (decodes_iff.mpr rfl : Decodes bytes (decode bytes)).not_mem_ascii hsep h

theorem decode_append_ascii (a b : List UInt8) :
    decode (a ++ sep.toNat.toUInt8 :: b) = decode a ++ sep :: decode b :=
  ((decodes_iff.mpr rfl).append_ascii hsep (decodes_iff.mpr rfl)).decode_eq

/-- The pieces of the text are the pieces of the bytes, decoded one by one. -/
theorem pieces_decode (bytes : List UInt8) :
    pieces sep (decode bytes) = (bytes.splitOn sep.toNat.toUInt8).map decode :=
  pieces_splitOn (decode_append_ascii hsep) (fun _ => not_mem_decode hsep) bytes

end DeltaLint.Text.Utf8

namespace DeltaLint.LineFilter

open Text.Utf8

variable {p : Pattern}

/-- The lines of the bytes at whose start the pattern matches, each decoded on its own. -/
def keptBytes (p : Pattern) (bytes : List UInt8) : List (List UInt8) :=
  (bytes.splitOn 0x0A).filter fun line => decide (p.StartsIn (decode line))

theorem lines_decode (bytes : List UInt8) : Text.pieces '\n' (decode bytes) = (bytes.splitOn 0x0A).map decode :=
  pieces_decode (by decide) bytes

theorem kept_decode (p : Pattern) (bytes : List UInt8) :
    kept p (String.ofList (decode bytes)) = (keptBytes p bytes).map decode := by
  rw [kept, String.toList_ofList, lines_decode, List.filter_map]
  rfl

theorem keptBytes_append (p : Pattern) (a b : List UInt8) :
    keptBytes p (a ++ 0x0A :: b) = keptBytes p a ++ keptBytes p b := by
  rw [keptBytes, Text.splitOn_append, List.filter_append]
  rfl

/-- The decoder gives the text that the bytes stand for. Its lines are those of the bytes, decoded one by one. So a filter
keeps each line by what its own bytes stand for, and no bytes of a line change what is kept of those before and after it. -/
theorem lines_kept_by_own_bytes (bytes : List UInt8) (template : String) (n : Nat) (ns : List Nat) :
    (∀ text, Decodes bytes text ↔ text = decode bytes) ∧
    Text.pieces '\n' (decode bytes) = (bytes.splitOn 0x0A).map decode ∧
    select (String.ofList (decode bytes)) template (some (n :: ns)) =
      (pattern template (n :: ns)).map (fun p => String.ofList (Text.glue '\n' ((keptBytes p bytes).map decode))) ∧
    ∀ p before after, keptBytes p (before ++ 0x0A :: (bytes ++ 0x0A :: after)) =
      keptBytes p before ++ (keptBytes p bytes ++ keptBytes p after) := by
  refine ⟨fun text => decodes_iff, lines_decode bytes, ?_, fun p before after => ?_⟩
  · have hkeep : (keep · (String.ofList (decode bytes))) =
        fun p => String.ofList (Text.glue '\n' ((keptBytes p bytes).map decode)) := by
      funext p
      rw [keep_eq, kept_decode]
    rw [select, hkeep]
    exact List.cons_ne_nil n ns
  · rw [keptBytes_append, keptBytes_append]

end DeltaLint.LineFilter

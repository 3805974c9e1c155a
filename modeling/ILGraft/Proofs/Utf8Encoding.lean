import ILGraft.Text.Utf8
import Mathlib.Tactic.SplitIfs

/-!
# Encoded text

Every character is encoded in one to four bytes that the decoder accepts, and it reads back the
character they were made from. So an encoded text is well-formed and decodes to itself.
-/

namespace ILGraft.Text.Utf8

/-- A small number is the value of its byte. -/
theorem toNat_byte {n : Nat} (hlt : n < 256) : (UInt8.ofNat n).toNat = n :=
  UInt8.toNat_ofNat_of_lt' hlt

/-- Bytes are ordered as their values. -/
theorem byte_le_byte {n m : Nat} (hle : n ≤ m) (hlt : m < 256) :
    UInt8.ofNat n ≤ UInt8.ofNat m := by
  rw [UInt8.le_iff_toNat_le, toNat_byte hlt, toNat_byte (by omega)]
  exact hle

/-- Bytes are strictly ordered as their values. -/
theorem byte_lt_byte {n m : Nat} (hnm : n < m) (hlt : m < 256) :
    UInt8.ofNat n < UInt8.ofNat m := by
  rw [UInt8.lt_iff_toNat_lt, toNat_byte hlt, toNat_byte (by omega)]
  exact hnm

/-- What is left of a lead byte without the bits that mark it. -/
theorem toNat_byte_sub {n : Nat} (mark : Nat) (hle : mark ≤ n) (hlt : n < 256) :
    (UInt8.ofNat n - UInt8.ofNat mark).toNat = n - mark := by
  rw [UInt8.toNat_sub_of_le _ _ (byte_le_byte hle hlt), toNat_byte hlt, toNat_byte (by omega)]

/-- Which bytes can stand second: any continuation byte, except behind the four leads that leave
out overlong forms, surrogates and code points that are too large. -/
theorem continuesLead_iff {lead second : UInt8} :
    continuesLead lead second = true ↔
      (0x80 ≤ second.toNat ∧ second.toNat ≤ 0xbf) ∧
      (lead.toNat = 0xe0 → 0xa0 ≤ second.toNat) ∧ (lead.toNat = 0xed → second.toNat ≤ 0x9f) ∧
      (lead.toNat = 0xf0 → 0x90 ≤ second.toNat) ∧ (lead.toNat = 0xf4 → second.toNat ≤ 0x8f) := by
  simp only [continuesLead, Bool.and_eq_true, decide_eq_true_eq, UInt8.le_iff_toNat_le,
    ← UInt8.toNat_inj, apply_ite UInt8.toNat, UInt8.reduceToNat]
  split_ifs <;> omega

/-- Six bits make a continuation byte. -/
theorem continues_sixBits (n : Nat) : continues (UInt8.ofNat (n % 64 + 128)) = true := by
  have hbyte : (UInt8.ofNat (n % 64 + 128)).toNat = n % 64 + 128 := toNat_byte (by omega)
  simp only [continues, Bool.and_eq_true, decide_eq_true_eq, UInt8.le_iff_toNat_le, hbyte,
    UInt8.reduceToNat]
  omega

section Sequences

variable (place : Nat) {a b c d : UInt8} (rest : List UInt8)

/-- An ASCII byte is a sequence of its own. -/
theorem decodeFrom_one (ha : a < 0x80) :
    decodeFrom place (a :: rest) =
      (decodeFrom (place + 1) rest).map (Char.ofNat a.toNat :: ·) := by
  rw [decodeFrom.eq_def]
  dsimp only
  rw [if_pos ha]
  cases decodeFrom (place + 1) rest <;> rfl

/-- A sequence of two bytes. -/
theorem decodeFrom_two (hlow : 0xc2 ≤ a) (hhigh : a < 0xe0) (hb : continuesLead a b = true) :
    decodeFrom place (a :: b :: rest) =
      (decodeFrom (place + 2) rest).map (assemble (a - 0xc0) [b] :: ·) := by
  have hascii : ¬ a < 0x80 := by grind
  have hlead : ¬ (a < 0xc2 ∨ 0xf4 < a) := by grind
  rw [decodeFrom.eq_def]
  dsimp only
  rw [if_neg hascii, if_neg hlead, hb, Bool.not_true, if_neg Bool.false_ne_true, if_pos hhigh]
  cases decodeFrom (place + 2) rest <;> rfl

/-- A sequence of three bytes. -/
theorem decodeFrom_three (hlow : 0xe0 ≤ a) (hhigh : a < 0xf0) (hb : continuesLead a b = true)
    (hc : continues c = true) :
    decodeFrom place (a :: b :: c :: rest) =
      (decodeFrom (place + 3) rest).map (assemble (a - 0xe0) [b, c] :: ·) := by
  have hascii : ¬ a < 0x80 := by grind
  have hlead : ¬ (a < 0xc2 ∨ 0xf4 < a) := by grind
  have htwo : ¬ a < 0xe0 := by grind
  rw [decodeFrom.eq_def]
  dsimp only
  rw [if_neg hascii, if_neg hlead, hb, hc, Bool.not_true, if_neg Bool.false_ne_true, if_neg htwo,
    if_pos hhigh]
  cases decodeFrom (place + 3) rest <;> rfl

/-- A sequence of four bytes. -/
theorem decodeFrom_four (hlow : 0xf0 ≤ a) (hhigh : a ≤ 0xf4) (hb : continuesLead a b = true)
    (hc : continues c = true) (hd : continues d = true) :
    decodeFrom place (a :: b :: c :: d :: rest) =
      (decodeFrom (place + 4) rest).map (assemble (a - 0xf0) [b, c, d] :: ·) := by
  have hascii : ¬ a < 0x80 := by grind
  have hlead : ¬ (a < 0xc2 ∨ 0xf4 < a) := by grind
  have htwo : ¬ a < 0xe0 := by grind
  have hthree : ¬ a < 0xf0 := by grind
  rw [decodeFrom.eq_def]
  dsimp only
  rw [if_neg hascii, if_neg hlead, hb, hc, hd, Bool.not_true, if_neg Bool.false_ne_true,
    if_neg htwo, if_neg hthree]
  cases decodeFrom (place + 4) rest <;> rfl

end Sequences

section Characters

variable (place : Nat) {v : Nat} (rest : List UInt8)

/-- The two bytes of a code point below U+0800. -/
private theorem decodeFrom_twoBytes (hlow : 0x7f < v) (hhigh : v ≤ 0x7ff) :
    decodeFrom place (UInt8.ofNat (v / 64 % 32 + 192) :: UInt8.ofNat (v % 64 + 128) :: rest) =
      (decodeFrom (place + 2) rest).map (Char.ofNat v :: ·) := by
  have ha : (UInt8.ofNat (v / 64 % 32 + 192)).toNat = v / 64 % 32 + 192 := toNat_byte (by omega)
  have hb : (UInt8.ofNat (v % 64 + 128)).toNat = v % 64 + 128 := toNat_byte (by omega)
  have hpayload : (UInt8.ofNat (v / 64 % 32 + 192) - 0xc0).toNat = v / 64 % 32 + 192 - 192 :=
    toNat_byte_sub 192 (by omega) (by omega)
  have hvalue : 64 * (v / 64 % 32 + 192 - 192) + (v % 64 + 128 - 0x80) = v := by omega
  have hsecond : continuesLead (UInt8.ofNat (v / 64 % 32 + 192)) (UInt8.ofNat (v % 64 + 128))
      = true := by
    rw [continuesLead_iff, ha, hb]
    omega
  rw [decodeFrom_two place rest (byte_le_byte (n := 0xc2) (by omega) (by omega))
    (byte_lt_byte (m := 0xe0) (by omega) (by decide)) hsecond]
  rw [assemble, List.foldl_cons, List.foldl_nil, hpayload, hb, hvalue]

/-- The three bytes of a code point below U+10000 that is no surrogate. -/
private theorem decodeFrom_threeBytes (hlow : 0x7ff < v) (hhigh : v ≤ 0xffff)
    (hscalar : v < 0xd800 ∨ 0xdfff < v) :
    decodeFrom place (UInt8.ofNat (v / 4096 % 16 + 224) :: UInt8.ofNat (v / 64 % 64 + 128)
        :: UInt8.ofNat (v % 64 + 128) :: rest) =
      (decodeFrom (place + 3) rest).map (Char.ofNat v :: ·) := by
  have ha : (UInt8.ofNat (v / 4096 % 16 + 224)).toNat = v / 4096 % 16 + 224 :=
    toNat_byte (by omega)
  have hb : (UInt8.ofNat (v / 64 % 64 + 128)).toNat = v / 64 % 64 + 128 := toNat_byte (by omega)
  have hc : (UInt8.ofNat (v % 64 + 128)).toNat = v % 64 + 128 := toNat_byte (by omega)
  have hpayload : (UInt8.ofNat (v / 4096 % 16 + 224) - 0xe0).toNat = v / 4096 % 16 + 224 - 224 :=
    toNat_byte_sub 224 (by omega) (by omega)
  have hvalue : 64 * (64 * (v / 4096 % 16 + 224 - 224) + (v / 64 % 64 + 128 - 0x80))
      + (v % 64 + 128 - 0x80) = v := by omega
  have hsecond : continuesLead (UInt8.ofNat (v / 4096 % 16 + 224))
      (UInt8.ofNat (v / 64 % 64 + 128)) = true := by
    rw [continuesLead_iff, ha, hb]
    omega
  rw [decodeFrom_three place rest (byte_le_byte (n := 0xe0) (by omega) (by omega))
    (byte_lt_byte (m := 0xf0) (by omega) (by decide)) hsecond (continues_sixBits v)]
  rw [assemble, List.foldl_cons, List.foldl_cons, List.foldl_nil, hpayload, hb, hc, hvalue]

/-- The four bytes of a code point from U+10000 on. -/
private theorem decodeFrom_fourBytes (hlow : 0xffff < v) (hhigh : v < 0x110000) :
    decodeFrom place (UInt8.ofNat (v / 262144 % 8 + 240) :: UInt8.ofNat (v / 4096 % 64 + 128)
        :: UInt8.ofNat (v / 64 % 64 + 128) :: UInt8.ofNat (v % 64 + 128) :: rest) =
      (decodeFrom (place + 4) rest).map (Char.ofNat v :: ·) := by
  have ha : (UInt8.ofNat (v / 262144 % 8 + 240)).toNat = v / 262144 % 8 + 240 :=
    toNat_byte (by omega)
  have hb : (UInt8.ofNat (v / 4096 % 64 + 128)).toNat = v / 4096 % 64 + 128 :=
    toNat_byte (by omega)
  have hc : (UInt8.ofNat (v / 64 % 64 + 128)).toNat = v / 64 % 64 + 128 := toNat_byte (by omega)
  have hd : (UInt8.ofNat (v % 64 + 128)).toNat = v % 64 + 128 := toNat_byte (by omega)
  have hpayload : (UInt8.ofNat (v / 262144 % 8 + 240) - 0xf0).toNat = v / 262144 % 8 + 240 - 240 :=
    toNat_byte_sub 240 (by omega) (by omega)
  have hvalue : 64 * (64 * (64 * (v / 262144 % 8 + 240 - 240) + (v / 4096 % 64 + 128 - 0x80))
      + (v / 64 % 64 + 128 - 0x80)) + (v % 64 + 128 - 0x80) = v := by omega
  have hsecond : continuesLead (UInt8.ofNat (v / 262144 % 8 + 240))
      (UInt8.ofNat (v / 4096 % 64 + 128)) = true := by
    rw [continuesLead_iff, ha, hb]
    omega
  rw [decodeFrom_four place rest (byte_le_byte (n := 0xf0) (by omega) (by omega))
    (byte_le_byte (m := 0xf4) (by omega) (by decide)) hsecond (continues_sixBits (v / 64))
    (continues_sixBits v)]
  rw [assemble, List.foldl_cons, List.foldl_cons, List.foldl_cons, List.foldl_nil, hpayload, hb,
    hc, hd, hvalue]

end Characters

/-- Code points are no surrogates, and not too large. -/
private theorem scalar (c : Char) : c.val.toNat < 0xd800 ∨
    0xdfff < c.val.toNat ∧ c.val.toNat < 0x110000 := c.valid

/-- The encoding of a character is read as that character. -/
theorem decodeFrom_utf8EncodeChar (place : Nat) (c : Char) (rest : List UInt8) :
    decodeFrom place (String.utf8EncodeChar c ++ rest) =
      (decodeFrom (place + (String.utf8EncodeChar c).length) rest).map (c :: ·) := by
  have hscalar := scalar c
  have hchar : Char.ofNat c.val.toNat = c := Char.ofNat_toNat c
  rw [String.utf8EncodeChar]
  split_ifs with hone htwo hthree
  · have hbyte := toNat_byte (n := c.val.toNat) (by omega)
    have hascii : UInt8.ofNat c.val.toNat < 0x80 :=
      byte_lt_byte (m := 0x80) (by omega) (by decide)
    rw [List.singleton_append, decodeFrom_one place rest hascii, hbyte, hchar,
      List.length_singleton]
  · have hbytes := decodeFrom_twoBytes place rest (Nat.not_le.mp hone) htwo
    rw [hchar] at hbytes
    exact hbytes
  · have hbytes := decodeFrom_threeBytes place rest (Nat.not_le.mp htwo) hthree (by omega)
    rw [hchar] at hbytes
    exact hbytes
  · have hbytes := decodeFrom_fourBytes place rest (Nat.not_le.mp hthree) (by omega)
    rw [hchar] at hbytes
    exact hbytes

/-- Encoded text decodes to itself, wherever it begins. -/
theorem decodeFrom_encode (place : Nat) (text : List Char) :
    decodeFrom place (encode text) = .ok text := by
  induction text generalizing place with
  | nil => rfl
  | cons c text ih =>
    have hrest := ih (place + (String.utf8EncodeChar c).length)
    rw [encode] at hrest
    rw [encode, List.flatMap_cons, decodeFrom_utf8EncodeChar, hrest, Except.map]

/-- Encoded text decodes to itself. -/
theorem decode_encode (text : List Char) : decode (encode text) = .ok text :=
  decodeFrom_encode 0 text

end ILGraft.Text.Utf8

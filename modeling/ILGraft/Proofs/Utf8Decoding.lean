import ILGraft.Proofs.Results
import ILGraft.Proofs.Utf8Encoding

/-!
# Bytes that decode

The decoder accepts exactly the encodings of texts. Any other bytes have a first ill-formed
sequence: an encoded text stands in front of it, and no encoded character begins where it does.
There is one such place only, and it is the place that the decoder reports.
-/

namespace ILGraft.Text.Utf8

/-- The place where the first ill-formed sequence of bytes begins. -/
structure FirstFlaw (bytes : List UInt8) (place : Nat) : Prop where
  /-- There are bytes from this place on. -/
  lt : place < bytes.length
  /-- The bytes in front of it are an encoded text. -/
  front : ∃ text, bytes.take place = encode text
  /-- No encoded character begins there. -/
  stuck : ∀ c, ¬String.utf8EncodeChar c <+: bytes.drop place

section Sequences

variable {a b c d : UInt8}

/-- A code point that is neither a surrogate nor too large is the one of its character. -/
private theorem toNat_val_ofNat {v : Nat} (hscalar : v < 0xd800 ∨ 0xdfff < v ∧ v < 0x110000) :
    (Char.ofNat v).val.toNat = v := by
  rw [Char.ofNat, dif_pos hscalar]
  rfl

/-- The payload of a lead byte is what exceeds the bits that mark it. -/
private theorem toNat_payload {mark : UInt8} (hmark : mark ≤ a) :
    (a - mark).toNat = a.toNat - mark.toNat :=
  UInt8.toNat_sub_of_le _ _ hmark

/-- A byte is known by its value. -/
private theorem ofNat_eq {n : Nat} (hn : n = a.toNat) : UInt8.ofNat n = a := by
  rw [hn, UInt8.ofNat_toNat]

/-- Continuation bytes are those from `0x80` up to `0xbf`. -/
theorem continues_iff : continues a = true ↔ 0x80 ≤ a.toNat ∧ a.toNat ≤ 0xbf := by
  simp only [continues, Bool.and_eq_true, decide_eq_true_eq, UInt8.le_iff_toNat_le,
    UInt8.reduceToNat]

/-- An ASCII byte encodes its character. -/
theorem utf8EncodeChar_one (ha : a < 0x80) :
    String.utf8EncodeChar (Char.ofNat a.toNat) = [a] := by
  have hlt : a.toNat < 0x80 := UInt8.lt_iff_toNat_lt.mp ha
  have hvalue : (Char.ofNat a.toNat).val.toNat = a.toNat := toNat_val_ofNat (by omega)
  unfold String.utf8EncodeChar
  simp only [hvalue]
  rw [if_pos (by omega), UInt8.ofNat_toNat]

/-- Two bytes that fit together encode the character they are read as. -/
theorem utf8EncodeChar_two (hlow : 0xc2 ≤ a) (hhigh : a < 0xe0)
    (hb : continuesLead a b = true) :
    String.utf8EncodeChar (assemble (a - 0xc0) [b]) = [a, b] := by
  obtain ⟨hsecond, -⟩ := continuesLead_iff.mp hb
  have hlow' : 0xc2 ≤ a.toNat := UInt8.le_iff_toNat_le.mp hlow
  have hhigh' : a.toNat < 0xe0 := UInt8.lt_iff_toNat_lt.mp hhigh
  have hpayload : (a - 0xc0).toNat = a.toNat - 0xc0 :=
    toNat_payload (UInt8.le_trans (by decide) hlow)
  have hvalue : (assemble (a - 0xc0) [b]).val.toNat =
      64 * (a.toNat - 0xc0) + (b.toNat - 0x80) := by
    simp only [assemble, List.foldl_cons, List.foldl_nil, hpayload]
    apply toNat_val_ofNat
    omega
  unfold String.utf8EncodeChar
  simp only [hvalue]
  rw [if_neg (by omega), if_pos (by omega), ofNat_eq (a := a) (by omega),
    ofNat_eq (a := b) (by omega)]

/-- Three bytes that fit together encode the character they are read as. -/
theorem utf8EncodeChar_three (hlow : 0xe0 ≤ a) (hhigh : a < 0xf0)
    (hb : continuesLead a b = true) (hc : continues c = true) :
    String.utf8EncodeChar (assemble (a - 0xe0) [b, c]) = [a, b, c] := by
  obtain ⟨hsecond, hshortest, hsurrogate, -⟩ := continuesLead_iff.mp hb
  have hthird := continues_iff.mp hc
  have hlow' : 0xe0 ≤ a.toNat := UInt8.le_iff_toNat_le.mp hlow
  have hhigh' : a.toNat < 0xf0 := UInt8.lt_iff_toNat_lt.mp hhigh
  have hpayload : (a - 0xe0).toNat = a.toNat - 0xe0 := toNat_payload hlow
  have hvalue : (assemble (a - 0xe0) [b, c]).val.toNat =
      64 * (64 * (a.toNat - 0xe0) + (b.toNat - 0x80)) + (c.toNat - 0x80) := by
    simp only [assemble, List.foldl_cons, List.foldl_nil, hpayload]
    apply toNat_val_ofNat
    omega
  unfold String.utf8EncodeChar
  simp only [hvalue]
  rw [if_neg (by omega), if_neg (by omega), if_pos (by omega), ofNat_eq (a := a) (by omega),
    ofNat_eq (a := b) (by omega), ofNat_eq (a := c) (by omega)]

/-- Four bytes that fit together encode the character they are read as. -/
theorem utf8EncodeChar_four (hlow : 0xf0 ≤ a) (hhigh : a ≤ 0xf4)
    (hb : continuesLead a b = true) (hc : continues c = true) (hd : continues d = true) :
    String.utf8EncodeChar (assemble (a - 0xf0) [b, c, d]) = [a, b, c, d] := by
  obtain ⟨hsecond, -, -, hshortest, hlargest⟩ := continuesLead_iff.mp hb
  have hthird := continues_iff.mp hc
  have hfourth := continues_iff.mp hd
  have hlow' : 0xf0 ≤ a.toNat := UInt8.le_iff_toNat_le.mp hlow
  have hhigh' : a.toNat ≤ 0xf4 := UInt8.le_iff_toNat_le.mp hhigh
  have hpayload : (a - 0xf0).toNat = a.toNat - 0xf0 := toNat_payload hlow
  have hvalue : (assemble (a - 0xf0) [b, c, d]).val.toNat =
      64 * (64 * (64 * (a.toNat - 0xf0) + (b.toNat - 0x80)) + (c.toNat - 0x80))
        + (d.toNat - 0x80) := by
    simp only [assemble, List.foldl_cons, List.foldl_nil, hpayload]
    apply toNat_val_ofNat
    omega
  unfold String.utf8EncodeChar
  simp only [hvalue]
  rw [if_neg (by omega), if_neg (by omega), if_neg (by omega), ofNat_eq (a := a) (by omega),
    ofNat_eq (a := b) (by omega), ofNat_eq (a := c) (by omega), ofNat_eq (a := d) (by omega)]

end Sequences

/-- Bytes whose front encodes a character begin with an encoded character. -/
private theorem begins_of_eq {c : Char} {front : List UInt8}
    (hfront : String.utf8EncodeChar c = front) (rest : List UInt8) :
    ∃ c rest', front ++ rest = String.utf8EncodeChar c ++ rest' :=
  ⟨c, rest, by rw [hfront]⟩

/-- Bytes that are left begin with an encoded character, or they are refused where they begin. -/
theorem decodeFrom_cases (place : Nat) {bytes : List UInt8} (hne : bytes ≠ []) :
    (∃ c rest, bytes = String.utf8EncodeChar c ++ rest) ∨
      ∃ malformed, decodeFrom place bytes = .error malformed ∧ malformed.offset = place := by
  obtain ⟨a, bytes, rfl⟩ := List.exists_cons_of_ne_nil hne
  -- The cases are those of the decoder: whenever it asks for one more byte, it may be missing or
  -- not fit.
  rw [decodeFrom.eq_def]
  dsimp only
  split
  · next hascii => exact .inl (begins_of_eq (utf8EncodeChar_one hascii) bytes)
  split
  · exact .inr ⟨_, rfl, rfl⟩
  next hlead =>
  obtain ⟨hlow, hhigh⟩ := not_or.mp hlead
  split
  · exact .inr ⟨_, rfl, rfl⟩
  next b bytes =>
  split
  · exact .inr ⟨_, rfl, rfl⟩
  next hsecond =>
  have hb : continuesLead a b = true := by simpa using hsecond
  split
  · next htwo =>
    exact .inl (begins_of_eq (utf8EncodeChar_two (UInt8.not_lt.mp hlow) htwo hb) bytes)
  next htwo =>
  split
  · exact .inr ⟨_, rfl, rfl⟩
  next c bytes =>
  split
  · exact .inr ⟨_, rfl, rfl⟩
  next hthird =>
  have hc : continues c = true := by simpa using hthird
  split
  · next hthree =>
    exact .inl (begins_of_eq (utf8EncodeChar_three (UInt8.not_lt.mp htwo) hthree hb hc) bytes)
  next hthree =>
  split
  · exact .inr ⟨_, rfl, rfl⟩
  next d bytes =>
  split
  · exact .inr ⟨_, rfl, rfl⟩
  next hfourth =>
  have hd : continues d = true := by simpa using hfourth
  exact .inl (begins_of_eq (utf8EncodeChar_four (UInt8.not_lt.mp hthree) (UInt8.not_lt.mp hhigh)
    hb hc hd) bytes)

/-- No character is encoded in no bytes. -/
theorem length_utf8EncodeChar_pos (c : Char) : 0 < (String.utf8EncodeChar c).length :=
  List.length_pos_iff.mpr String.utf8EncodeChar_ne_nil

/-- The first character of a text is encoded first. -/
theorem encode_cons (c : Char) (text : List Char) :
    encode (c :: text) = String.utf8EncodeChar c ++ encode text :=
  List.flatMap_cons

/-- Texts are encoded one behind the other. -/
theorem encode_append (front back : List Char) :
    encode (front ++ back) = encode front ++ encode back :=
  List.flatMap_append

/-- Bytes are read character by character, until they end or are refused. -/
@[elab_as_elim]
theorem bytesInduction {motive : Nat → List UInt8 → Prop} (nil : ∀ place, motive place [])
    (character : ∀ place c rest, motive (place + (String.utf8EncodeChar c).length) rest →
      motive place (String.utf8EncodeChar c ++ rest))
    (refused : ∀ place bytes malformed, bytes ≠ [] →
      decodeFrom place bytes = .error malformed → malformed.offset = place → motive place bytes)
    (place : Nat) (bytes : List UInt8) : motive place bytes := by
  induction hlength : bytes.length using Nat.strongRecOn generalizing place bytes with
  | _ length ih =>
    subst hlength
    by_cases hne : bytes = []
    · rw [hne]
      exact nil place
    · rcases decodeFrom_cases place hne with ⟨c, rest, rfl⟩ | ⟨malformed, herror, hplace⟩
      · have hpositive := length_utf8EncodeChar_pos c
        apply character
        apply ih rest.length _ _ _ rfl
        rw [List.length_append]
        omega
      · exact refused place bytes malformed hne herror hplace

/-- Only an encoded text decodes, and to itself. -/
theorem eq_encode_of_decodeFrom {place : Nat} {bytes : List UInt8} {text : List Char}
    (hok : decodeFrom place bytes = .ok text) : bytes = encode text := by
  induction place, bytes using bytesInduction generalizing text with
  | nil place =>
    cases hok
    rfl
  | character place c rest ih =>
    rw [decodeFrom_utf8EncodeChar] at hok
    cases hrest : decodeFrom (place + (String.utf8EncodeChar c).length) rest with
    | error malformed => simp only [hrest, Except.map, reduceCtorEq] at hok
    | ok more =>
      rw [hrest] at hok
      cases hok
      rw [encode_cons, ih hrest]
  | refused place bytes malformed _ herror =>
    rw [herror] at hok
    cases hok

/-- Bytes decode to a text exactly if they are its encoding. -/
theorem decode_eq_ok_iff {bytes : List UInt8} {text : List Char} :
    decode bytes = .ok text ↔ bytes = encode text := by
  constructor
  · exact eq_encode_of_decodeFrom
  · rintro rfl
    exact decode_encode text

/-- An encoded text in front is read before the bytes behind it. -/
theorem decodeFrom_encode_append (place : Nat) (text : List Char) (rest : List UInt8) :
    decodeFrom place (encode text ++ rest) =
      (decodeFrom (place + (encode text).length) rest).map (text ++ ·) := by
  induction text generalizing place with
  | nil => cases hrest : decodeFrom place rest <;> simp [encode, hrest, Except.map]
  | cons c text ih =>
    rw [encode_cons, List.append_assoc, decodeFrom_utf8EncodeChar, ih, List.length_append,
      ← Nat.add_assoc]
    cases decodeFrom (place + (String.utf8EncodeChar c).length + (encode text).length) rest <;> rfl

/-- No refusal reports a place in front of the bytes. -/
theorem place_le_offset {place : Nat} {bytes : List UInt8} {malformed : Malformed}
    (herror : decodeFrom place bytes = .error malformed) : place ≤ malformed.offset := by
  induction place, bytes using bytesInduction with
  | nil place => cases herror
  | character place c rest ih =>
    rw [decodeFrom_utf8EncodeChar, map_eq_error_iff] at herror
    have hbehind := ih herror
    omega
  | refused place bytes other _ hother hplace =>
    rw [hother] at herror
    cases herror
    omega

namespace FirstFlaw

variable {bytes : List UInt8} {place : Nat}

/-- An encoded text in front moves the first ill-formed sequence. -/
theorem encode_append (text : List Char) (hflaw : FirstFlaw bytes place) :
    FirstFlaw (encode text ++ bytes) ((encode text).length + place) := by
  obtain ⟨hlt, ⟨front, hfront⟩, hstuck⟩ := hflaw
  constructor
  · rw [List.length_append]
    omega
  · refine ⟨text ++ front, ?_⟩
    rw [List.take_length_add_append, hfront, Utf8.encode_append]
  · rwa [List.drop_length_add_append]

/-- The place that a refusal reports is the first ill-formed sequence. -/
theorem of_error {malformed : Malformed}
    (herror : decodeFrom place bytes = .error malformed) :
    FirstFlaw bytes (malformed.offset - place) := by
  induction place, bytes using bytesInduction with
  | nil place => cases herror
  | character place c rest ih =>
    rw [decodeFrom_utf8EncodeChar, map_eq_error_iff] at herror
    have hle := place_le_offset herror
    have hmoved := (ih herror).encode_append [c]
    have hsingle : encode [c] = String.utf8EncodeChar c := List.append_nil _
    have hplace : (encode [c]).length +
        (malformed.offset - (place + (String.utf8EncodeChar c).length)) =
          malformed.offset - place := by
      rw [hsingle]
      omega
    rwa [hplace, hsingle] at hmoved
  | refused place bytes other hne hother hplace =>
    rw [hother] at herror
    cases herror
    rw [hplace, Nat.sub_self]
    refine ⟨List.length_pos_iff.mpr hne, ⟨[], rfl⟩, fun c hbegins => ?_⟩
    -- Had the character been read, the refusal would report a place behind it.
    obtain ⟨rest, rfl⟩ := hbegins
    rw [decodeFrom_utf8EncodeChar, map_eq_error_iff] at hother
    have hle := place_le_offset hother
    have hpositive := length_utf8EncodeChar_pos c
    omega

/-- Bytes with an ill-formed sequence are refused there. -/
theorem exists_error (hflaw : FirstFlaw bytes place) :
    ∃ malformed, decode bytes = .error malformed ∧ malformed.offset = place := by
  obtain ⟨hlt, ⟨text, htext⟩, hstuck⟩ := hflaw
  have hne : bytes.drop place ≠ [] := by
    rw [ne_eq, List.drop_eq_nil_iff]
    omega
  have hlength : 0 + (encode text).length = place := by
    rw [← htext, List.length_take]
    omega
  rcases decodeFrom_cases place hne with ⟨c, rest, hrest⟩ | ⟨malformed, herror, hplace⟩
  · exact absurd ⟨rest, hrest.symm⟩ (hstuck c)
  · refine ⟨malformed, ?_, hplace⟩
    rw [decode, ← List.take_append_drop place bytes, htext, decodeFrom_encode_append, hlength,
      map_eq_error_iff]
    exact herror

/-- There is at most one first ill-formed sequence. -/
theorem unique {other : Nat} (hflaw : FirstFlaw bytes place) (hother : FirstFlaw bytes other) :
    place = other := by
  obtain ⟨one, hone, rfl⟩ := hflaw.exists_error
  obtain ⟨two, htwo, rfl⟩ := hother.exists_error
  rw [hone] at htwo
  rw [Except.error.inj htwo]

/-- Bytes with an ill-formed sequence are no encoded text. -/
theorem ne_encode (hflaw : FirstFlaw bytes place) (text : List Char) : bytes ≠ encode text := by
  obtain ⟨malformed, herror, -⟩ := hflaw.exists_error
  intro hbytes
  rw [decode_eq_ok_iff.mpr hbytes] at herror
  cases herror

end FirstFlaw

end ILGraft.Text.Utf8

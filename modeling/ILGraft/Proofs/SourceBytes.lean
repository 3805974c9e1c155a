import ILGraft.Proofs.Utf8Decoding
import ILGraft.Proofs.WrittenPaths
import Mathlib.Data.List.Basic

/-!
# Bytes of source files

A source file is accepted if its bytes, less a byte order mark in front of them, are an encoded
text, and it is read as that text with unified line endings. Besides, a file that ends inside the
mark is accepted and reads as empty. Every other file is refused, with the place of its first
ill-formed sequence. That place is counted from behind the mark, so in the file itself the sequence
begins three bytes later if the mark is there.
-/

namespace ILGraft

namespace Text

/-- The bytes of a byte order mark. -/
def markBytes : List UInt8 := [0xef, 0xbb, 0xbf]

/-- The bytes behind a byte order mark; all of them if there is none in front. -/
def behindMark (bytes : List UInt8) : List UInt8 :=
  (markBytes.isPrefixOf? bytes).getD bytes

/-- How many bytes a byte order mark takes up in front. -/
def markLength (bytes : List UInt8) : Nat :=
  bytes.length - (behindMark bytes).length

/-- Bytes that end inside a byte order mark. -/
def EndsInMark (bytes : List UInt8) : Prop :=
  bytes = [0xef] ∨ bytes = [0xef, 0xbb]

instance : DecidablePred EndsInMark :=
  fun bytes => inferInstanceAs (Decidable (bytes = [0xef] ∨ bytes = [0xef, 0xbb]))

/-- Bytes have no byte order mark in front, or they are the mark and what is behind it. -/
theorem behindMark_cases (bytes : List UInt8) :
    behindMark bytes = bytes ∨ bytes = markBytes ++ behindMark bytes := by
  rw [behindMark]
  cases hmark : markBytes.isPrefixOf? bytes with
  | none => exact .inl rfl
  | some rest => exact .inr (List.isPrefixOf?_eq_some_iff_append_eq.mp hmark).symm

/-- A byte order mark takes up three bytes, or none if it is not there. -/
theorem markLength_eq (bytes : List UInt8) :
    markLength bytes = if behindMark bytes = bytes then 0 else 3 := by
  rw [markLength]
  by_cases hsame : behindMark bytes = bytes
  · rw [if_pos hsame, hsame, Nat.sub_self]
  · have hlength := congrArg List.length ((behindMark_cases bytes).resolve_left hsame)
    rw [List.length_append] at hlength
    rw [if_neg hsame, hlength]
    exact Nat.add_sub_cancel _ _

/-- A file is decoded behind its byte order mark, unless it ends inside the mark. -/
theorem ofFile_eq (bytes : List UInt8) :
    ofFile bytes =
      if EndsInMark bytes then .ok [] else (Utf8.decode (behindMark bytes)).map unifyNewlines := by
  unfold ofFile
  split
  · rfl
  · rfl
  · rfl
  · next hone htwo hmark =>
    have hopen : ¬EndsInMark bytes := not_or.mpr ⟨hone, htwo⟩
    have hunmarked : behindMark bytes = bytes :=
      (behindMark_cases bytes).resolve_right fun hbytes => hmark _ hbytes
    rw [if_neg hopen, hunmarked]
    rfl

/-- Bytes that end inside a byte order mark are ill-formed from the first of them on. -/
theorem EndsInMark.firstFlaw {bytes : List UInt8} (hends : EndsInMark bytes) :
    Utf8.FirstFlaw bytes 0 := by
  have herror : ∃ malformed, Utf8.decode bytes = .error malformed ∧ malformed.offset = 0 := by
    rcases hends with rfl | rfl <;> exact ⟨_, rfl, rfl⟩
  obtain ⟨malformed, herror, hplace⟩ := herror
  have hflaw := Utf8.FirstFlaw.of_error herror
  rwa [hplace] at hflaw

/-- Bytes that end inside a byte order mark have none. -/
theorem EndsInMark.behindMark_eq {bytes : List UInt8} (hends : EndsInMark bytes) :
    behindMark bytes = bytes := by
  rcases hends with rfl | rfl <;> rfl

/-- A byte order mark is well-formed, so the first ill-formed sequence lies behind it. -/
theorem firstFlaw_of_behindMark {bytes : List UInt8} {place : Nat}
    (hflaw : Utf8.FirstFlaw (behindMark bytes) place) :
    Utf8.FirstFlaw bytes (markLength bytes + place) := by
  rw [markLength_eq]
  by_cases hunmarked : behindMark bytes = bytes
  · rw [if_pos hunmarked, Nat.zero_add]
    rwa [hunmarked] at hflaw
  · have hbytes := (behindMark_cases bytes).resolve_left hunmarked
    have hmark : Utf8.encode ['\uFEFF'] = markBytes := rfl
    have hmoved := hflaw.encode_append ['\uFEFF']
    rw [hmark, ← hbytes] at hmoved
    rw [if_neg hunmarked]
    exact hmoved

/-- A file has a text exactly if it ends inside a byte order mark or is an encoded text behind it. -/
theorem ofFile_eq_ok_iff {bytes : List UInt8} {chars : List Char} :
    ofFile bytes = .ok chars ↔
      (EndsInMark bytes ∧ chars = []) ∨
        ∃ decoded, behindMark bytes = Utf8.encode decoded ∧ chars = unifyNewlines decoded := by
  rw [ofFile_eq]
  by_cases hends : EndsInMark bytes
  · have hnone (decoded : List Char) : behindMark bytes ≠ Utf8.encode decoded := by
      rw [hends.behindMark_eq]
      exact hends.firstFlaw.ne_encode decoded
    simp only [hends, hnone, if_true, true_and, false_and, exists_false, or_false,
      Except.ok.injEq, eq_comm]
  · simp only [hends, if_false, false_and, false_or, ← Utf8.decode_eq_ok_iff]
    cases Utf8.decode (behindMark bytes) with
    | error malformed => simp [Except.map]
    | ok decoded => simp [Except.map, eq_comm]

/-- A file without a text is refused at the first ill-formed sequence behind its mark. -/
theorem firstFlaw_of_ofFile {bytes : List UInt8} {malformed : Utf8.Malformed}
    (herror : ofFile bytes = .error malformed) :
    Utf8.FirstFlaw (behindMark bytes) malformed.offset := by
  rw [ofFile_eq] at herror
  split at herror
  · cases herror
  · exact Utf8.FirstFlaw.of_error (map_eq_error_iff.mp herror)

end Text

namespace Source

/-- Why a file that is not UTF-8 is refused: the flaw of a sequence and its place. -/
def undecodable (flaw : Text.Utf8.Flaw) (place : Nat) : String :=
  "not valid UTF-8 (" ++ flaw.reason ++ " at byte " ++ Text.numeral place ++ ")"

variable {tree : FileTree} {file : String} {bytes : List UInt8}

/-- A file whose text can be read is loaded as it is. -/
theorem load_of_ofFile_ok {chars : List Char}
    (hread : tree.readBytes (Path.ofString file) = .ok bytes)
    (htext : Text.ofFile bytes = .ok chars) :
    load file (reader tree file) = .ok (String.ofList chars) := by
  rw [reader, FileTree.readText_of_readBytes hread, htext]
  rfl

/-- A file that is not UTF-8 is refused with the place of its flaw. -/
theorem load_of_ofFile_error {malformed : Text.Utf8.Malformed}
    (hread : tree.readBytes (Path.ofString file) = .ok bytes)
    (htext : Text.ofFile bytes = .error malformed) :
    load file (reader tree file) =
      .error (.fault (.unavailable file (undecodable malformed.flaw malformed.offset))) := by
  rw [reader, FileTree.readText_of_readBytes hread, htext]
  rfl

/-- A file is loaded exactly if it has a text. -/
theorem load_eq_ok_iff (hread : tree.readBytes (Path.ofString file) = .ok bytes) {text : String} :
    load file (reader tree file) = .ok text ↔
      ∃ chars, Text.ofFile bytes = .ok chars ∧ text = String.ofList chars := by
  cases htext : Text.ofFile bytes with
  | error malformed => simp [load_of_ofFile_error hread htext]
  | ok chars => simp [load_of_ofFile_ok hread htext, eq_comm]

/-- A file is loaded exactly if it ends inside a byte order mark, as the empty text, or if what is
behind its mark is an encoded text, as that text with unified line endings. A file that is not loaded
is refused with the place of its first ill-formed sequence, counted from behind the mark: this is its
place in the file exactly if there is no mark. A file that ends inside a mark is ill-formed from its
first byte on. -/
theorem load_reads_utf8 (hread : tree.readBytes (Path.ofString file) = .ok bytes) :
    (∀ text, load file (reader tree file) = .ok text ↔
      (Text.EndsInMark bytes ∧ text = "") ∨
        ∃ chars, Text.behindMark bytes = Text.Utf8.encode chars ∧
          text = String.ofList (Text.unifyNewlines chars)) ∧
    ((∀ text, load file (reader tree file) ≠ .ok text) →
      ∃ flaw place, load file (reader tree file) =
          .error (.fault (.unavailable file (undecodable flaw place))) ∧
        Text.Utf8.FirstFlaw (Text.behindMark bytes) place ∧
        (∀ index, Text.Utf8.FirstFlaw bytes index ↔ index = Text.markLength bytes + place) ∧
        (Text.Utf8.FirstFlaw bytes place ↔ Text.behindMark bytes = bytes)) ∧
    (Text.EndsInMark bytes → Text.Utf8.FirstFlaw bytes 0) := by
  refine ⟨fun text => ?_, fun hrefused => ?_, Text.EndsInMark.firstFlaw⟩
  · rw [load_eq_ok_iff hread]
    constructor
    · rintro ⟨chars, hchars, rfl⟩
      rcases Text.ofFile_eq_ok_iff.mp hchars with ⟨hends, rfl⟩ | ⟨decoded, hbytes, rfl⟩
      · exact .inl ⟨hends, rfl⟩
      · exact .inr ⟨decoded, hbytes, rfl⟩
    · rintro (⟨hends, rfl⟩ | ⟨decoded, hbytes, rfl⟩)
      · exact ⟨[], Text.ofFile_eq_ok_iff.mpr (.inl ⟨hends, rfl⟩), rfl⟩
      · exact ⟨_, Text.ofFile_eq_ok_iff.mpr (.inr ⟨decoded, hbytes, rfl⟩), rfl⟩
  · cases htext : Text.ofFile bytes with
    | ok chars => exact absurd (load_of_ofFile_ok hread htext) (hrefused _)
    | error malformed =>
      have hflaw := Text.firstFlaw_of_ofFile htext
      have hindex := Text.firstFlaw_of_behindMark hflaw
      refine ⟨malformed.flaw, malformed.offset, load_of_ofFile_error hread htext, hflaw,
        fun index => ⟨fun hother => hother.unique hindex, fun heq => heq ▸ hindex⟩, ?_⟩
      rw [Text.markLength_eq] at hindex
      constructor
      · intro hplace
        have hsame := hplace.unique hindex
        by_contra hmarked
        rw [if_neg hmarked] at hsame
        omega
      · intro hunmarked
        rwa [hunmarked] at hflaw

/-- A tree with one source file. -/
def oneSource (bytes : List UInt8) : FileTree where
  working := ["w"]
  entries := [(["w"], .directory), (["w", "A.cs"], .file bytes)]

/-- A file with a mark, one letter and a byte that begins no character is refused with the place of
that byte behind the mark, which is three less than its place in the file. -/
theorem load_reads_utf8_marked :
    (oneSource [0xef, 0xbb, 0xbf, 0x41, 0xff]).readBytes (Path.ofString "A.cs") =
        .ok [0xef, 0xbb, 0xbf, 0x41, 0xff] ∧
      ∃ flaw place, load "A.cs" (reader (oneSource [0xef, 0xbb, 0xbf, 0x41, 0xff]) "A.cs") =
          .error (.fault (.unavailable "A.cs" (undecodable flaw place))) ∧
        ∀ index, Text.Utf8.FirstFlaw [0xef, 0xbb, 0xbf, 0x41, 0xff] index ↔ index = 3 + place := by
  have hread : (oneSource [0xef, 0xbb, 0xbf, 0x41, 0xff]).readBytes (Path.ofString "A.cs") =
      .ok [0xef, 0xbb, 0xbf, 0x41, 0xff] := by
    decide +kernel
  have hrefused (text : String) :
      load "A.cs" (reader (oneSource [0xef, 0xbb, 0xbf, 0x41, 0xff]) "A.cs") ≠ .ok text := by
    intro hload
    obtain ⟨chars, hchars, -⟩ := (load_eq_ok_iff hread).mp hload
    cases hchars
  obtain ⟨-, hrefuses, -⟩ := load_reads_utf8 hread
  obtain ⟨flaw, place, hload, -, hindex, -⟩ := hrefuses hrefused
  exact ⟨hread, flaw, place, hload, hindex⟩

/-- A file that consists of the first byte of a mark is read as the empty text, although it is
ill-formed; and behind a mark a flaw is reported at another place than it has in the file. -/
theorem exists_misread_mark :
    load "A.cs" (reader (oneSource [0xef]) "A.cs") = .ok "" ∧
      Text.Utf8.FirstFlaw (Text.behindMark [0xef]) 0 ∧
      load "A.cs" (reader (oneSource [0xef, 0xbb, 0xbf, 0x41, 0xff]) "A.cs") =
        .error (.fault (.unavailable "A.cs" "not valid UTF-8 (invalid start byte at byte 1)")) ∧
      Text.Utf8.FirstFlaw [0xef, 0xbb, 0xbf, 0x41, 0xff] 4 := by
  refine ⟨by decide +kernel, ?_, by decide +kernel, ?_⟩
  · exact Text.EndsInMark.firstFlaw (.inl rfl)
  · have herror : Text.ofFile [0xef, 0xbb, 0xbf, 0x41, 0xff] =
        .error ⟨1, 1, 0xff, .invalidStart⟩ := rfl
    exact Text.firstFlaw_of_behindMark (Text.firstFlaw_of_ofFile herror)

end Source

end ILGraft

import ILGraft.Config
import ILGraft.Proofs.LowerCasing
import ILGraft.Proofs.MarkerText
import ILGraft.Proofs.WrittenPaths

/-!
# Extensions of files and keys

A file has the extension that its last part ends in, whatever the separators and the directories in
front of that part are. The key of a language stands for the extension that it spells, with or
without a dot in front. Both are lower-cased with a dot in front of them, and nothing else makes
them differ: neither the dot nor the case of ASCII letters changes what becomes of the other
characters.
-/

namespace ILGraft

namespace Text

/-! ## The case of ASCII letters -/

private theorem letters_alike : ∀ ranges ∈ [caseIgnorableRanges, casedRanges], ∀ letter < 26,
    (ranges.any fun range => range.1 ≤ 65 + letter && 65 + letter ≤ range.2) =
      ranges.any fun range => range.1 ≤ 97 + letter && 97 + letter ≤ range.2 := by
  decide +kernel

/-- The capitals of ASCII are cased as the small letters are. -/
private theorem inRanges_toLower {ranges : List (Nat × Nat)}
    (hranges : ranges ∈ [caseIgnorableRanges, casedRanges]) (c : Char) :
    inRanges ranges c.toLower = inRanges ranges c := by
  rcases toLower_cases c with ⟨hlow, hhigh, hmoved⟩ | ⟨-, hstays⟩
  · have halike := letters_alike ranges hranges (c.toNat - 65) (by omega)
    rw [show 65 + (c.toNat - 65) = c.toNat by omega,
      show 97 + (c.toNat - 65) = c.toLower.toNat by omega] at halike
    exact halike.symm
  · rw [hstays]

/-- A cased character is met whatever the case of ASCII letters is. -/
theorem meetsCased_map_toLower (text : List Char) :
    meetsCased (text.map Char.toLower) = meetsCased text := by
  induction text with
  | nil => rfl
  | cons c rest ih =>
    rw [List.map_cons, meetsCased_cons, meetsCased_cons, ih,
      inRanges_toLower List.mem_cons_self, inRanges_toLower (List.mem_cons_of_mem _ (by simp))]

/-- A small letter of ASCII is lower-cased as its capital is. -/
theorem lowerChar_toLower (c : Char) : lowerChar c.toLower = lowerChar c := by
  rcases toLower_cases c with ⟨hlow, hhigh, hmoved⟩ | ⟨-, hstays⟩
  · have hsmall : IsLowered c.toLower := .of_ascii (by omega) (by omega)
    rw [hsmall.1, lowerChar, if_pos (by omega)]
  · rw [hstays]

private theorem toLower_eq_sigma_iff (c : Char) : c.toLower = 'Σ' ↔ c = 'Σ' := by
  rcases toLower_cases c with ⟨hlow, hhigh, hmoved⟩ | ⟨-, hstays⟩
  · have hsigma : 'Σ'.toNat = 0x3a3 := rfl
    refine iff_of_false ?_ ?_
    · intro heq
      rw [heq] at hmoved
      omega
    · rintro rfl
      omega
  · rw [hstays]

private theorem lowerAfter_map_toLower (before text : List Char) :
    lowerAfter (before.map Char.toLower) (text.map Char.toLower) = lowerAfter before text := by
  induction text generalizing before with
  | nil => rfl
  | cons c rest ih =>
    have hrest := ih (c :: before)
    rw [List.map_cons] at hrest
    rw [List.map_cons, lowerAfter, lowerAfter, hrest, meetsCased_map_toLower,
      meetsCased_map_toLower, lowerChar_toLower]
    simp only [toLower_eq_sigma_iff]

/-- Texts that differ in nothing but the case of ASCII letters. -/
def SameLetters (text other : List Char) : Prop :=
  text.map Char.toLower = other.map Char.toLower

/-- The case of ASCII letters is lost when a text is lower-cased, and it has no effect on the other
characters. -/
theorem SameLetters.lower_eq {text other : List Char} (hsame : SameLetters text other) :
    lower text = lower other := by
  rw [lower, lower, ← lowerAfter_map_toLower [] text, ← lowerAfter_map_toLower [] other, hsame]

/-- A dot in front of a text does not change its lower-case form. -/
theorem lower_dot (text : List Char) : lower ('.' :: text) = '.' :: lower text := by
  have hdot : IsLowered '.' := .of_steady (by decide)
  have hbefore : meetsCased ['.'] = meetsCased [] := by decide +kernel
  rw [lower, lowerAfter_cons_of_isLowered hdot, lowerAfter_congr hbefore, lower]

/-- Lower-casing puts no dot in front of a text. -/
theorem head?_lower_ne_dot {text : List Char} (htext : text.head? ≠ some '.') :
    (lower text).head? ≠ some '.' := by
  cases text with
  | nil => exact nofun
  | cons c rest =>
    obtain ⟨d, more, hlowered, hhead⟩ := exists_lowerAfter_head [] c rest
    rw [lower, hlowered, List.head?_cons]
    intro hdot
    obtain rfl := Option.some.inj hdot
    exact htext (by rw [List.head?_cons, ← hhead (by decide)])

end Text

/-! ## Keys -/

namespace Config

/-- A key without the dot that it may begin with. -/
def withoutDot : List Char → List Char
  | '.' :: rest => rest
  | text => text

/-- How an extension is known: lower-cased, with a dot in front. -/
def dotted (extension : List Char) : String :=
  String.ofList ('.' :: Text.lower extension)

/-- Two extensions are known alike exactly if their lower-case forms are the same. -/
theorem dotted_inj {extension other : List Char} :
    dotted extension = dotted other ↔ Text.lower extension = Text.lower other := by
  rw [dotted, dotted, String.ofList_inj, List.cons_inj_right]

/-- A key stands for the extension that it is without its dot. -/
theorem extensionOfKey_eq (key : String) :
    extensionOfKey key = dotted (withoutDot key.toList) := by
  by_cases hdot : key.toList.head? = some '.'
  · obtain ⟨rest, hkey⟩ := List.head?_eq_some_iff.mp hdot
    rw [extensionOfKey, dotted, hkey, withoutDot, Text.lower_dot, List.head?_cons, if_pos rfl]
  · have hkey : withoutDot key.toList = key.toList := by
      unfold withoutDot
      split
      · next rest hrest => exact absurd (by rw [hrest, List.head?_cons]) hdot
      · rfl
    rw [extensionOfKey, dotted, hkey, if_neg (Text.head?_lower_ne_dot hdot)]

end Config

/-! ## Files -/

/-- Whether a character separates the parts of a file name: both slashes do. -/
def isSeparator (c : Char) : Bool :=
  c == '/' || c == '\\'

/-- A file whose last part is a stem, a dot and an extension, neither of them empty and the
extension without a dot. -/
structure HasExtension (file : String) (extension : List Char) : Prop where
  /-- The last part stands behind the last separator. -/
  lastPart : ∃ directory stem, file.toList = directory ++ (stem ++ '.' :: extension) ∧
    (∀ c ∈ directory.getLast?, isSeparator c = true) ∧ stem ≠ [] ∧
    ∀ c ∈ stem ++ extension, isSeparator c = false
  /-- The extension is not empty. -/
  nonempty : extension ≠ []
  /-- No dot stands in the extension. -/
  dotFree : '.' ∉ extension

namespace Path

/-- The suffix of a stem, a dot and an extension is the dot and the extension. -/
theorem suffixOfName_append {stem extension : List Char} (hstem : stem ≠ [])
    (hnonempty : extension ≠ []) (hdotFree : '.' ∉ extension) :
    suffixOfName (stem ++ '.' :: extension) = '.' :: extension := by
  have hreverse : (stem ++ '.' :: extension).reverse =
      extension.reverse ++ '.' :: stem.reverse := by simp
  have htake : (extension.reverse ++ '.' :: stem.reverse).takeWhile (· ≠ '.') =
      extension.reverse := by
    rw [List.takeWhile_append_of_pos, List.takeWhile_cons_of_neg (by simp), List.append_nil]
    intro c hc
    have hne : c ≠ '.' := by
      rintro rfl
      exact hdotFree (List.mem_reverse.mp hc)
    simpa using hne
  have hlength : (stem ++ '.' :: extension).length - extension.length - 1 = stem.length := by
    rw [List.length_append, List.length_cons]
    omega
  have hlonger : extension.length ≠ (stem ++ '.' :: extension).length := by
    rw [List.length_append, List.length_cons]
    omega
  simp only [suffixOfName, hreverse, htake, List.reverse_reverse, hlength, List.take_left, hstem,
    hnonempty, hlonger, or_self, if_false]

/-- The last part of a path is its name, if it is more than a dot. -/
theorem name_ofString {front last : List Char} (hfront : ∀ c ∈ front.getLast?, c = '/')
    (hlast : '/' ∉ last) (hne : last ≠ []) (hdot : last ≠ ['.']) :
    (ofString (String.ofList (front ++ last))).name = String.ofList last := by
  have hpieces : ∃ pieces, Text.splitOn '/' (front ++ last) = pieces ++ [last] := by
    rcases List.eq_nil_or_concat front with rfl | ⟨front, c, rfl⟩
    · refine ⟨[], ?_⟩
      rw [Text.splitOn_eq, List.nil_append, List.splitOn_eq_singleton hlast, List.nil_append]
    · obtain rfl : c = '/' := hfront c (by simp)
      refine ⟨Text.splitOn '/' front, ?_⟩
      rw [Text.splitOn_eq, Text.splitOn_eq, List.concat_append, List.splitOn_append_cons_self,
        List.splitOn_eq_singleton hlast]
  obtain ⟨pieces, hpieces⟩ := hpieces
  have hkept : keptPieces (front ++ last) =
      (pieces.filter fun piece => piece ≠ [] ∧ piece ≠ ['.']) ++ [last] := by
    rw [keptPieces, hpieces, List.filter_append, List.filter_cons_of_pos (by simp [hne, hdot]),
      List.filter_nil]
  have hparts : (ofString (String.ofList (front ++ last))).parts =
      (keptPieces (front ++ last)).map String.ofList := by
    rw [ofString, String.toList_ofList, keptPieces]
  rw [name, hparts, hkept, List.map_append, List.map_singleton, List.getLastD_concat]

end Path

/-- A file is known by the extension that it has. -/
theorem LanguageTable.extensionOf_eq {file : String} {extension : List Char}
    (hextension : HasExtension file extension) :
    extensionOf file = Config.dotted extension := by
  obtain ⟨⟨directory, stem, hfile, hdirectory, hstem, hplain⟩, hnonempty, hdotFree⟩ := hextension
  have hseparator (c : Char) (hc : c ∈ stem ++ '.' :: extension) : c ≠ '/' ∧ c ≠ '\\' := by
    have hother : isSeparator c = false := by
      rcases List.mem_append.mp hc with hstem | hrest
      · exact hplain c (List.mem_append_left _ hstem)
      · rcases List.mem_cons.mp hrest with rfl | hextension
        · decide
        · exact hplain c (List.mem_append_right _ hextension)
    simpa [isSeparator] using hother
  have hslashed : Text.replaceChar '\\' ['/'] file.toList =
      Text.replaceChar '\\' ['/'] directory ++ (stem ++ '.' :: extension) := by
    rw [hfile, Text.replaceChar, List.flatMap_append]
    congr 1
    exact Marker.replaceChar_of_not_mem fun hmem => (hseparator _ hmem).2 rfl
  have hfront : ∀ c ∈ (Text.replaceChar '\\' ['/'] directory).getLast?, c = '/' := by
    rcases List.eq_nil_or_concat directory with rfl | ⟨front, c, rfl⟩
    · intro c hc
      cases hc
    · have hc : isSeparator c = true := hdirectory c (by simp)
      rw [isSeparator, Bool.or_eq_true, beq_iff_eq, beq_iff_eq] at hc
      rw [Text.replaceChar, List.concat_eq_append, List.flatMap_append]
      rcases hc with rfl | rfl <;> simp
  have hlast : '/' ∉ stem ++ '.' :: extension := fun hmem => (hseparator _ hmem).1 rfl
  have hlong : 2 ≤ (stem ++ '.' :: extension).length := by
    have hpos := List.length_pos_of_ne_nil hstem
    rw [List.length_append, List.length_cons]
    omega
  have hname := Path.name_ofString hfront hlast (by rintro hnil; simp [hnil] at hlong)
    (by rintro hdot; simp [hdot] at hlong)
  simp only [extensionOf, hslashed, Path.suffix, hname, String.toList_ofList,
    Path.suffixOfName_append hstem hnonempty hdotFree, Text.lower_dot, Config.dotted]

end ILGraft

import ILGraft.Proofs.MarkerRoundTrip
import ILGraft.Proofs.SourceMap

/-!
# Annotated lines

The annotated form of a snippet has a header, and then two lines for each line of code: its
annotation and the line itself, unchanged. Whatever the file is called, the annotations read as the
source lines that they were written for, except in front of lines that are no statements and at the
number of hidden sequence points.
-/

namespace ILGraft

namespace Snippet

/-- Where the annotation of a line of code stands in the annotated form of its snippet. -/
theorem annotated_getElem?_marker {snippet : Snippet} {before after : List String}
    {line : String} (hraw : snippet.raw = before ++ line :: after) :
    snippet.annotated[2 * before.length + 1]? =
      some (Snippet.annotation snippet.file (snippet.first + before.length) line) := by
  have hlength := length_annotate snippet.file snippet.first before
  rw [annotated, hraw, annotate_append, List.getElem?_cons_succ, ← hlength, annotate,
    List.getElem?_append_right (Nat.le_refl _), Nat.sub_self, List.getElem?_cons_zero]

/-- The header of a snippet gives no source line, whatever its file is called. -/
theorem lineNumber_header (snippet : Snippet) :
    ∃ header, snippet.annotated[0]? = some header ∧ Marker.lineNumber header.toList = .ok 0 := by
  refine ⟨_, rfl, ?_⟩
  have htext : ("// Snippet from " ++ snippet.file ++ ":" ++ Text.numeral snippet.first).toList =
      '/' :: ("/ Snippet from ".toList ++ (snippet.file.toList ++ (":".toList
        ++ (Text.numeral snippet.first).toList))) := by
    simp only [String.toList_append, List.append_assoc]
    rfl
  rw [htext]
  exact Marker.lineNumber_comment _

/-- An annotation gives the source line that it is written for, in front of a statement, and
otherwise none. -/
theorem lineNumber_annotated (file : String) {number : Nat} (hwritable : Marker.Writable number)
    (line : String) :
    Marker.lineNumber (Snippet.annotation file number line).toList =
      .ok (if isStatement line ∧ number ≠ Marker.hiddenLine then number else 0) := by
  rw [Snippet.annotation]
  by_cases hstatement : isStatement line = true
  · have hshort : (Nat.toDigits 10 number).length ≤ Text.maxNumeralDigits := hwritable
    have hread := Marker.lineNumber_write file hshort number 1 (line.length + 1)
    rw [if_pos hstatement]
    refine hread.trans ?_
    by_cases hhidden : number = Marker.hiddenLine
    · rw [if_pos hhidden, if_neg fun hboth => hboth.2 hhidden]
    · rw [if_neg hhidden, if_pos ⟨hstatement, hhidden⟩]
  · rw [if_neg hstatement, if_neg fun hboth => hstatement hboth.1]
    exact Marker.lineNumber_comment _

/-- Lines of code can be annotated if the numbers of their source lines can be written. -/
theorem checkLines_of_writable {number : Int} {raw : List String}
    (hnumbers : ∀ other : Int, number ≤ other → other < number + raw.length →
      Text.Writable other) :
    checkLines number raw = .ok () := by
  induction raw generalizing number with
  | nil => rfl
  | cons line rest ih =>
    rw [List.length_cons] at hnumbers
    have hhere := Text.writeNumeral_of_writable (hnumbers number (Int.le_refl _) (by omega))
    have hrest := @ih (number + 1) fun other hfirst hlast =>
      hnumbers other (by omega) (by omega)
    rw [checkLines, hhere, hrest]
    split <;> rfl

/-- The annotated form of a snippet can be written if the numbers of its first and its last line
can. -/
theorem checkNumerals_of_writable {snippet : Snippet} (hfirst : Text.Writable snippet.first)
    (hlast : Text.Writable snippet.last) : snippet.checkNumerals = .ok () := by
  have hcovers := snippet.covers
  have hlines : checkLines snippet.first snippet.raw = .ok () :=
    checkLines_of_writable fun other hlow hhigh => hfirst.of_between hlast hlow (by omega)
  rw [checkNumerals, Text.writeNumeral_of_writable hfirst, hlines]
  rfl

section Numbered

variable {snippet : Snippet} (hfirst : 0 ≤ snippet.first)
  (hstart : Marker.Writable snippet.first.toNat) (hlast : Marker.Writable snippet.last.toNat)
include hfirst hstart hlast

/-- A line of code has a number that can be written. -/
theorem exists_number {before after : List String} {line : String}
    (hraw : snippet.raw = before ++ line :: after) :
    ∃ number : Nat, snippet.first + before.length = number ∧ Marker.Writable number := by
  obtain ⟨number, hnumber⟩ : ∃ number : Nat, snippet.first + before.length = number :=
    Int.eq_ofNat_of_zero_le (by omega)
  have hcovers := snippet.covers
  rw [hraw, List.length_append, List.length_cons] at hcovers
  exact ⟨number, hnumber, Text.Writable.of_between hstart hlast (by omega) (by omega)⟩

/-- The annotated form of a snippet has a header that gives no source line, and then each line of
code unchanged, behind an annotation that gives its source line if it is a statement, and spans all
its columns. -/
theorem annotated_reads_back :
    snippet.checkNumerals = .ok () ∧
    snippet.annotated.length = 2 * snippet.raw.length + 1 ∧
    (∃ header, snippet.annotated[0]? = some header ∧ Marker.lineNumber header.toList = .ok 0) ∧
    ∀ before line after, snippet.raw = before ++ line :: after →
      snippet.annotated[2 * before.length + 2]? = some line ∧
      ∃ (number : Nat) (text : String), (number : Int) = snippet.first + before.length ∧
        snippet.annotated[2 * before.length + 1]? = some text ∧
        Marker.lineNumber text.toList =
          .ok (if isStatement line ∧ number ≠ Marker.hiddenLine then number else 0) ∧
        (isStatement line →
          text = Marker.write snippet.file number number 1 (line.length + 1)) := by
  have hlast' : Text.Writable snippet.last := by
    have hcovers := snippet.covers
    have hempty : Text.Writable (-1) := by decide
    exact hempty.of_between hlast (by omega) (by omega)
  have hfirst' : Text.Writable snippet.first := by
    rwa [Marker.Writable, Int.toNat_of_nonneg hfirst] at hstart
  refine ⟨checkNumerals_of_writable hfirst' hlast', snippet.length_annotated,
    snippet.lineNumber_header, fun before line after hraw => ⟨annotated_getElem? hraw, ?_⟩⟩
  obtain ⟨number, hnumber, hnumeral⟩ := exists_number hfirst hstart hlast hraw
  have hplace := annotated_getElem?_marker hraw
  rw [hnumber] at hplace
  exact ⟨number, _, hnumber.symm, hplace, lineNumber_annotated snippet.file hnumeral line,
    fun hstatement => if_pos hstatement⟩

end Numbered

/-- Two statements and a comment; the second is at the number of hidden sequence points. -/
def hiddenSnippet : Snippet :=
  ⟨"it's", 16707565, 16707567, ["ldarg.0", "ret", "// end"], by decide⟩

/-- Of three lines the first gives its source line, the second is taken for hidden, and the third is
a comment. -/
theorem annotated_reads_back_hiddenSnippet :
    (0 ≤ hiddenSnippet.first ∧ Marker.Writable hiddenSnippet.first.toNat ∧
      Marker.Writable hiddenSnippet.last.toNat) ∧
    hiddenSnippet.annotated.length = 7 ∧
    (∃ text, hiddenSnippet.annotated[1]? = some text ∧
      Marker.lineNumber text.toList = .ok 16707565) ∧
    (∃ text, hiddenSnippet.annotated[3]? = some text ∧ Marker.lineNumber text.toList = .ok 0) ∧
    ∃ text, hiddenSnippet.annotated[5]? = some text ∧ Marker.lineNumber text.toList = .ok 0 := by
  have hfirst : 0 ≤ hiddenSnippet.first := by decide
  have hlast : Marker.Writable hiddenSnippet.last.toNat := by
    unfold Marker.Writable
    decide +kernel
  have hstart : Marker.Writable hiddenSnippet.first.toNat := by
    unfold Marker.Writable
    decide +kernel
  obtain ⟨-, hlength, -, hlines⟩ := annotated_reads_back hfirst hstart hlast
  refine ⟨⟨hfirst, hstart, hlast⟩, hlength, ?_, ?_, ?_⟩
  · obtain ⟨-, number, text, hnumber, hplace, hread, -⟩ := hlines [] _ _ rfl
    rw [show number = 16707565 from Int.ofNat.inj hnumber] at hread
    exact ⟨text, hplace, hread⟩
  · obtain ⟨-, number, text, hnumber, hplace, hread, -⟩ := hlines ["ldarg.0"] _ _ rfl
    rw [show number = Marker.hiddenLine from Int.ofNat.inj hnumber] at hread
    exact ⟨text, hplace, hread⟩
  · obtain ⟨-, number, text, hnumber, hplace, hread, -⟩ := hlines ["ldarg.0", "ret"] _ _ rfl
    exact ⟨text, hplace, hread⟩

end Snippet

end ILGraft

import ILGraft.Proofs.MergedLayout

/-!
# Reading annotated snippets back

The annotated form of a snippet is read as it was meant: every annotation gives the source line of
the code behind it and switches to the snippet's file, and no other line says anything. For this
the path must survive the writing, the code must not look like markers itself, and the numerals
must not be too long.
-/

namespace ILGraft

/-- A marker that says nothing. -/
def Marker.silent : Marker := ⟨none, 0⟩

/-- A text reads as a marker. -/
def Marker.Reads (text : String) (marker : Marker) : Prop :=
  Marker.read text = .ok marker

namespace Snippet

/-- A snippet whose annotated form is read as it was meant. -/
structure Plain (snippet : Snippet) : Prop where
  /-- The path holds no backslash, which markers would double. -/
  path : '\\' ∉ snippet.file.toList
  /-- No line of code is itself a marker. -/
  code : ∀ line ∈ snippet.raw, Marker.Reads line Marker.silent
  /-- No source line has a numeral that is too long to be read. -/
  numerals : ∀ number : Int, snippet.first ≤ number → number ≤ snippet.last →
    (Nat.toDigits 10 number.natAbs).length ≤ Text.maxNumeralDigits

/-- The number that a written source line is read as; the number of hidden lines is no source
line. -/
def readBack (number : Int) : Nat :=
  if number.toNat = Marker.hiddenLine then 0 else number.toNat

/-- The marker that the annotation of a line of code is read as. -/
def annotationMarker (file : String) (number : Int) (line : String) : Marker :=
  if isStatement line then ⟨some file, readBack number⟩ else Marker.silent

/-- The markers of lines of code that begin at a source line, each behind its annotation. -/
def codeMarkers (file : String) : Int → List String → List Marker
  | _, [] => []
  | number, line :: rest =>
    annotationMarker file number line :: Marker.silent :: codeMarkers file (number + 1) rest

/-- The markers of the annotated form of a snippet, line by line. -/
def markers (snippet : Snippet) : List Marker :=
  Marker.silent :: codeMarkers snippet.file snippet.first snippet.raw

/-- Annotated code may be cut between two of its lines. -/
theorem annotate_append (file : String) (number : Int) (raw more : List String) :
    annotate file number (raw ++ more) =
      annotate file number raw ++ annotate file (number + raw.length) more := by
  induction raw generalizing number with
  | nil => simp [annotate]
  | cons line rest ih =>
    have hnumber : number + 1 + (rest.length : Int) = number + ((line :: rest).length : Int) := by
      rw [List.length_cons]
      omega
    rw [List.cons_append, annotate, annotate, ih, hnumber, List.cons_append, List.cons_append]

/-- The markers of code may be cut between two of its lines. -/
theorem codeMarkers_append (file : String) (number : Int) (raw more : List String) :
    codeMarkers file number (raw ++ more) =
      codeMarkers file number raw ++ codeMarkers file (number + raw.length) more := by
  induction raw generalizing number with
  | nil => simp [codeMarkers]
  | cons line rest ih =>
    have hnumber : number + 1 + (rest.length : Int) = number + ((line :: rest).length : Int) := by
      rw [List.length_cons]
      omega
    rw [List.cons_append, codeMarkers, codeMarkers, ih, hnumber, List.cons_append,
      List.cons_append]

/-- Annotating doubles the number of lines. -/
theorem length_annotate (file : String) (number : Int) (raw : List String) :
    (annotate file number raw).length = 2 * raw.length := by
  induction raw generalizing number with
  | nil => rfl
  | cons line rest ih =>
    rw [annotate, List.length_cons, List.length_cons, ih, List.length_cons]
    omega

/-- The annotated form has two lines for every line of code, and one in front. -/
theorem length_annotated (snippet : Snippet) :
    snippet.annotated.length = 2 * snippet.raw.length + 1 := by
  unfold annotated
  rw [List.length_cons, length_annotate]

/-- Annotated code has two markers for each of its lines. -/
theorem length_codeMarkers (file : String) (number : Int) (raw : List String) :
    (codeMarkers file number raw).length = 2 * raw.length := by
  induction raw generalizing number with
  | nil => rfl
  | cons line rest ih =>
    rw [codeMarkers, List.length_cons, List.length_cons, ih, List.length_cons]
    omega

/-- There is a marker for every line of the annotated form. -/
theorem length_markers (snippet : Snippet) : snippet.markers.length = snippet.annotated.length := by
  rw [markers, annotated, List.length_cons, List.length_cons, length_codeMarkers, length_annotate]

/-- A marker of code switches to the file of the code, if to any. -/
theorem file_of_mem_codeMarkers {file : String} {number : Int} {raw : List String}
    {marker : Marker} (hmem : marker ∈ codeMarkers file number raw) :
    ∀ switched ∈ marker.file?, switched = file := by
  induction raw generalizing number with
  | nil => cases hmem
  | cons line rest ih =>
    rcases List.mem_cons.mp hmem with rfl | hlater
    · rw [annotationMarker]
      split
      · rintro _ ⟨⟩
        rfl
      · rintro _ ⟨⟩
    · rcases List.mem_cons.mp hlater with rfl | hrest
      · rintro _ ⟨⟩
      · exact ih hrest

/-- A marker of an annotated snippet switches to the snippet's file, if to any. -/
theorem file_of_mem_markers {snippet : Snippet} {marker : Marker}
    (hmem : marker ∈ snippet.markers) : ∀ switched ∈ marker.file?, switched = snippet.file := by
  rcases List.mem_cons.mp hmem with rfl | hcode
  · rintro _ ⟨⟩
  · exact file_of_mem_codeMarkers hcode

/-- A comment without a quote says nothing. -/
private theorem reads_comment {text : String} {rest : List Char} (htext : text.toList = '/' :: rest)
    (hquote : '\'' ∉ text.toList) : Marker.Reads text Marker.silent := by
  rw [Marker.Reads, Marker.read, Marker.fileSwitch?_eq_none hquote, htext,
    Marker.lineNumber_comment]
  rfl

/-- A written marker switches to its path and gives its first number. -/
private theorem reads_write {path : String} (hne : path.toList ≠ []) (hquote : '\'' ∉ path.toList)
    (hpath : '\\' ∉ path.toList) {number : Nat}
    (hshort : (Nat.toDigits 10 number).length ≤ Text.maxNumeralDigits) (b c d : Nat) :
    Marker.Reads (Marker.write path number b c d) ⟨some path, readBack number⟩ := by
  rw [Marker.Reads, Marker.read, Marker.lineNumber_write path hshort,
    Marker.fileSwitch?_write hne hquote, Marker.escaped_eq_self_iff.mpr hpath]
  simp only [Bind.bind, Except.bind, Pure.pure, Except.pure, Option.map_some, String.ofList_toList,
    readBack, Int.toNat_natCast]

private theorem reads_annotated {file : String} (hne : file.toList ≠ [])
    (hquote : '\'' ∉ file.toList) (hpath : '\\' ∉ file.toList) {number : Int} (hpos : 0 < number)
    (hshort : (Nat.toDigits 10 number.natAbs).length ≤ Text.maxNumeralDigits) {text line : String}
    (htext : text = annotation file number line) :
    Marker.Reads text (annotationMarker file number line) := by
  rw [htext]
  unfold annotation annotationMarker
  split
  · obtain ⟨n, rfl⟩ := Int.eq_ofNat_of_zero_le (Int.le_of_lt hpos)
    exact reads_write hne hquote hpath hshort n 1 (line.length + 1)
  · exact reads_comment rfl (by decide +kernel)

private theorem reads_annotate {file : String} (hne : file.toList ≠ [])
    (hquote : '\'' ∉ file.toList) (hpath : '\\' ∉ file.toList) {number : Int} (hpos : 0 < number)
    {raw : List String} (hcode : ∀ line ∈ raw, Marker.Reads line Marker.silent)
    (hshort : ∀ other : Int, number ≤ other → other < number + raw.length →
      (Nat.toDigits 10 other.natAbs).length ≤ Text.maxNumeralDigits) :
    List.Forall₂ Marker.Reads (annotate file number raw) (codeMarkers file number raw) := by
  induction raw generalizing number with
  | nil => exact .nil
  | cons line rest ih =>
    rw [List.length_cons] at hshort
    have hhere := hshort number (Int.le_refl _) (by omega)
    have hnext : 0 < number + 1 := by omega
    have hrest := ih hnext
      (fun other hother => hcode other (List.mem_cons_of_mem _ hother))
      (fun other hfirst hlast => hshort other (by omega) (by omega))
    exact .cons (reads_annotated hne hquote hpath hpos hhere rfl)
      (.cons (hcode line List.mem_cons_self) hrest)

/-- The annotated form of a plain snippet from a source file reads as its markers. -/
theorem Plain.reads {snippet : Snippet} (hplain : snippet.Plain) (hpos : 0 < snippet.first)
    (hne : snippet.file.toList ≠ []) (hquote : '\'' ∉ snippet.file.toList) :
    List.Forall₂ Marker.Reads snippet.annotated snippet.markers := by
  have hcovers := snippet.covers
  have hdigits (n : Nat) : '\'' ∉ Nat.toDigits 10 n := fun hmem =>
    absurd (Text.isDigit_of_mem_toDigits hmem) (by decide)
  have hheader : Marker.Reads ("// Snippet from " ++ snippet.file ++ ":"
      ++ Text.numeral snippet.first) Marker.silent := by
    obtain ⟨n, hn⟩ := Int.eq_ofNat_of_zero_le (Int.le_of_lt hpos)
    have htext : ("// Snippet from " ++ snippet.file ++ ":" ++ Text.numeral snippet.first).toList =
        '/' :: ("/ Snippet from ".toList ++ (snippet.file.toList ++ (":".toList
          ++ Nat.toDigits 10 n))) := by
      simp only [hn, String.toList_append, Text.toList_numeral_natCast, List.append_assoc]
      rfl
    refine reads_comment htext ?_
    rw [htext]
    simp [hquote, hdigits n]
  exact .cons hheader (reads_annotate hne hquote hplain.path hpos hplain.code
    fun number hfirst hlast => hplain.numerals number hfirst (by omega))

end Snippet

namespace Document

/-- Lines that all read as markers make a document with these markers. -/
theorem exists_ofLines {texts : List String} {markers : List Marker}
    (hreads : List.Forall₂ Marker.Reads texts markers) :
    ∃ document, ofLines texts = .ok document ∧ document.texts = texts ∧
      document.markers = markers := by
  have hlines : ∃ lines, texts.mapM MarkedLine.ofText = .ok lines ∧
      lines.map MarkedLine.text = texts ∧ lines.map MarkedLine.marker = markers := by
    induction hreads with
    | nil => exact ⟨[], rfl, rfl, rfl⟩
    | @cons text marker _ _ hread _ ih =>
      obtain ⟨lines, hlines, htexts, hmarkers⟩ := ih
      have hline : MarkedLine.ofText text = .ok ⟨text, marker, hread⟩ := by
        rw [MarkedLine.ofText]
        split
        · next found hfound =>
          cases hread.symm.trans hfound
          rfl
        · next fault hfault => cases hread.symm.trans hfault
      refine ⟨⟨text, marker, hread⟩ :: lines, ?_, ?_, ?_⟩
      · rw [List.mapM_cons, hline, hlines]
        rfl
      · rw [List.map_cons, htexts]
      · rw [List.map_cons, hmarkers]
  obtain ⟨lines, hlines, htexts, hmarkers⟩ := hlines
  exact ⟨⟨lines⟩, by rw [ofLines, hlines]; rfl, htexts, hmarkers⟩

/-- The texts of a document read as its markers. -/
theorem reads (document : Document) :
    List.Forall₂ Marker.Reads document.texts document.markers := by
  rw [texts, markers, List.forall₂_map_left_iff, List.forall₂_map_right_iff]
  exact List.forall₂_same.mpr fun line _ => line.reads

end Document

/-- Merged lines with plain snippets are read as the markers of the document with the markers of
the snippets woven in. -/
theorem Placed.exists_ofLines {document : Document} {placements : List Placement}
    (hplaced : Placed document placements)
    (hplain : ∀ placement ∈ placements, placement.snippet.Plain) :
    ∃ merged, Document.ofLines (Splice.weave Snippet.annotated placements document.texts) =
        .ok merged ∧
      merged.texts = Splice.weave Snippet.annotated placements document.texts ∧
      merged.markers = Splice.weave Snippet.markers placements document.markers := by
  refine Document.exists_ofLines (Splice.forall₂_weave (fun placement hmem => ?_) document.reads)
  have hsnippet := List.mem_map_of_mem (f := Placement.snippet) hmem
  obtain ⟨hne, hquote⟩ :=
    Document.path_of_mem_sourceFiles (hplaced.discovered.named _ hsnippet)
  exact (hplain placement hmem).reads (hplaced.discovered.first_pos _ hsnippet) hne hquote

/-- The snippets of the two blocks are plain. -/
theorem Injection.plain_twoPlacements :
    ∀ placement ∈ twoPlacements, placement.snippet.Plain := by
  have hplain (first : Int) (line : String) (hnatAbs : first.natAbs < 10)
      (hcovers : (([line] : List String).length : Int) = first - first + 1)
      (hread : Marker.Reads line Marker.silent) :
      (⟨"A.cs", first, first, [line], hcovers⟩ : Snippet).Plain := by
    have hpath : '\\' ∉ "A.cs".toList := by decide
    refine ⟨hpath, fun other hother => List.mem_singleton.mp hother ▸ hread, ?_⟩
    intro number hfirst hlast
    have hnumber : number = first := by
      dsimp only at hfirst hlast
      omega
    rw [hnumber, Nat.toDigits_of_lt_base hnatAbs, List.length_singleton]
    decide
  intro placement hmem
  rcases List.mem_cons.mp hmem with rfl | hmem
  · exact hplain 3 "add" (by decide) _ (by unfold Marker.Reads; decide +kernel)
  · rw [List.mem_singleton.mp hmem]
    exact hplain 6 "// b" (by decide) _ (by unfold Marker.Reads; decide +kernel)

end ILGraft

import ILGraft.Proofs.AnnotatedReading

/-!
# Merging keeps the source map

The source map of a document gives for every line the file that it belongs to and the mark that
governs it. Annotations switch to the file of the line that their snippet stands before, and that
line gives a source line itself. So the lines of the document keep their file and their mark, and
injected code is governed by its own annotation.
-/

namespace ILGraft

namespace Weaving

variable {document : Document} {snippets : List Snippet} {merged : List String}

/-- A line of the document stands at a place among the merged lines. -/
def Moves (weaving : Weaving document snippets merged) (position place : Nat) : Prop :=
  ∃ front text back, weaving.pieces = front ++ .original position text :: back ∧
    place = (front.flatMap Piece.lines).length

/-- The copy of a snippet begins at a place among the merged lines. -/
def Holds (weaving : Weaving document snippets merged) (snippet : Snippet) (place : Nat) : Prop :=
  ∃ front back, weaving.pieces = front ++ .copy snippet :: back ∧
    place = (front.flatMap Piece.lines).length

end Weaving

namespace Placed

variable {document : Document} {placements : List Placement}

/-- No snippet is placed in front of the document. -/
theorem index_nonneg (hplaced : Placed document placements) :
    ∀ placement ∈ placements, 0 ≤ placement.index :=
  fun placement hmem => (hplaced.sited placement hmem).lt_length.1

/-- The markers up to a line of the document. -/
private theorem take_markers {marker : Marker} {front back : List Marker}
    (hmarkers : document.markers = front ++ marker :: back) :
    document.markers.take (front.length + 1) = front ++ [marker] := by
  rw [hmarkers, List.append_cons, List.take_left' (by simp)]

/-- Nothing is placed behind the last line of the document. -/
theorem weave_markers (hplaced : Placed document placements) :
    Splice.weave Snippet.markers placements document.markers =
      Splice.thread Snippet.markers placements 0 document.markers := by
  have hnone : Splice.copiesAt Snippet.markers placements document.markers.length = [] :=
    Splice.copiesAt_eq_nil fun placement hmem => by
      have := (hplaced.sited placement hmem).lt_length
      omega
  rw [Splice.weave, hnone, List.append_nil]

/-- A snippet is placed before a line of its own file that gives a source line. -/
theorem site {marker : Marker} {front back : List Marker} (hplaced : Placed document placements)
    (hmarkers : document.markers = front ++ marker :: back) {placement : Placement}
    (hmem : placement ∈ placements) (hindex : placement.index = (front.length : Int)) :
    marker.number ≠ 0 ∧ marker.file?.getD (Marker.lastFile front) = placement.snippet.file := by
  obtain ⟨position, found, hposition, hfound, hnumber, hfile⟩ :=
    (hplaced.sited placement hmem).exists_marker
  have hsame : position = front.length := by omega
  rw [hsame, hmarkers, List.getElem?_append_right (Nat.le_refl _), Nat.sub_self,
    List.getElem?_cons_zero, Option.some.injEq] at hfound
  rw [hsame, Document.fileAt, take_markers hmarkers, Marker.lastFile_append_singleton] at hfile
  exact ⟨hfound ▸ hnumber, hfile⟩

/-- Copies in front of a line of the document leave it in its file. -/
theorem getD_fileAfter_copiesAt {marker : Marker} {front back : List Marker}
    (hplaced : Placed document placements)
    (hmarkers : document.markers = front ++ marker :: back) :
    marker.file?.getD (Marker.fileAfter (Marker.lastFile front)
        (Splice.copiesAt Snippet.markers placements front.length)) =
      marker.file?.getD (Marker.lastFile front) := by
  cases hswitch : marker.file? with
  | some file => rw [Option.getD_some, Option.getD_some]
  | none =>
    rw [Option.getD_none, Option.getD_none]
    refine Marker.fileAfter_eq_self fun copied hcopied switched hswitched => ?_
    obtain ⟨placement, hmem, hindex, hcopy⟩ := Splice.mem_copiesAt.mp hcopied
    have hsite := (hplaced.site hmarkers hmem hindex).2
    rw [hswitch, Option.getD_none] at hsite
    rw [Snippet.file_of_mem_markers hcopy switched hswitched, hsite]

/-- Behind a line of the document the same file holds as before the merge. -/
theorem lastFile_thread {front back : List Marker} (hplaced : Placed document placements)
    (hmarkers : document.markers = front ++ back) :
    Marker.lastFile (Splice.thread Snippet.markers placements 0 front) =
      Marker.lastFile front := by
  induction front using List.reverseRecOn generalizing back with
  | nil => rfl
  | append_singleton front marker ih =>
    rw [List.append_assoc, List.singleton_append] at hmarkers
    rw [Splice.thread_append_singleton, Marker.lastFile_append_singleton,
      Marker.lastFile_append_singleton, Marker.lastFile_append, ih hmarkers,
      hplaced.getD_fileAfter_copiesAt hmarkers]

/-- Behind a line of the document the same line gives the source line as before the merge. -/
theorem lastNumbered_thread {front back : List Marker} (hplaced : Placed document placements)
    (hmarkers : document.markers = front ++ back) :
    Marker.lastNumbered (Splice.thread Snippet.markers placements 0 front) =
      (Marker.lastNumbered front).map (Splice.moved placements) := by
  induction front using List.reverseRecOn generalizing back with
  | nil => rfl
  | append_singleton front marker ih =>
    rw [List.append_assoc, List.singleton_append] at hmarkers
    rw [Splice.thread_append_singleton, Marker.lastNumbered_append_singleton,
      Marker.lastNumbered_append_singleton]
    by_cases hnumber : marker.number = 0
    · have hcopies : Splice.copiesAt Snippet.markers placements front.length = [] :=
        Splice.copiesAt_eq_nil fun placement hmem hindex =>
          (hplaced.site hmarkers hmem hindex).1 hnumber
      rw [if_pos hnumber, if_pos hnumber, hcopies, List.append_nil, ih hmarkers]
    · have hlength := Splice.length_thread_append_copiesAt Snippet.length_markers
        hplaced.index_nonneg front
      rw [if_neg hnumber, if_neg hnumber, hlength, Option.map_some]

/-- A line of the document with the markers in front of it and behind it. -/
private theorem exists_markers {position : Nat} (hlt : position < document.markers.length) :
    ∃ front marker back, document.markers = front ++ marker :: back ∧ front.length = position := by
  refine ⟨document.markers.take position, document.markers[position],
    document.markers.drop (position + 1), ?_, List.length_take_of_le (Nat.le_of_lt hlt)⟩
  rw [List.getElem_cons_drop, List.take_append_drop]

/-- The merged markers up to a line of the document. -/
private theorem take_weave {front back : List Marker} {marker : Marker}
    (hplaced : Placed document placements) :
    (Splice.weave Snippet.markers placements (front ++ marker :: back)).take
        (Splice.moved placements front.length + 1) =
      Splice.thread Snippet.markers placements 0 (front ++ [marker]) := by
  have hlength := Splice.length_thread_append_copiesAt Snippet.length_markers
    hplaced.index_nonneg front
  rw [List.append_cons, Splice.weave_append, List.append_assoc, List.take_left']
  rw [Splice.thread_append_singleton, List.length_append, hlength, List.length_singleton]

variable {merged : Document}

/-- A line of the document keeps its file. -/
theorem fileAt_moved (hplaced : Placed document placements)
    (hmerged : merged.markers = Splice.weave Snippet.markers placements document.markers)
    {position : Nat} (hlt : position < document.markers.length) :
    merged.fileAt (Splice.moved placements position) = document.fileAt position := by
  obtain ⟨front, marker, back, hmarkers, rfl⟩ := exists_markers hlt
  rw [Document.fileAt, Document.fileAt, take_markers hmarkers, hmerged, hmarkers,
    hplaced.take_weave]
  exact hplaced.lastFile_thread (hmarkers.trans (List.append_cons front marker back))

/-- A line of the document is still governed by the same mark. -/
theorem markAt_moved (hplaced : Placed document placements)
    (hmerged : merged.markers = Splice.weave Snippet.markers placements document.markers)
    {position : Nat} (hlt : position < document.markers.length) :
    merged.markAt (Splice.moved placements position) =
      (document.markAt position).map (Splice.moved placements) := by
  obtain ⟨front, marker, back, hmarkers, rfl⟩ := exists_markers hlt
  rw [Document.markAt, Document.markAt, take_markers hmarkers, hmerged, hmarkers,
    hplaced.take_weave]
  exact hplaced.lastNumbered_thread (hmarkers.trans (List.append_cons front marker back))

/-- A line of the document stands where `moved` says. -/
theorem moves_moved (hplaced : Placed document placements) {position : Nat}
    (hlt : position < document.texts.length) :
    hplaced.weaving.Moves position (Splice.moved placements position) := by
  obtain ⟨back, hpieces⟩ :=
    Splice.piecesOf_eq_append_original placements (List.getElem?_eq_getElem hlt)
  have hlength := Splice.length_thread_append_copiesAt (fun _ => rfl) hplaced.index_nonneg
    (document.texts.take position)
  rw [List.length_take_of_le (Nat.le_of_lt hlt)] at hlength
  refine ⟨_, _, back, hpieces, ?_⟩
  rw [Splice.flatMap_lines_upto, hlength]

/-- The copy of a placed snippet begins at the same place among the merged lines and among their
markers. -/
theorem exists_holds (hplaced : Placed document placements)
    (hmerged : merged.markers = Splice.weave Snippet.markers placements document.markers)
    {snippet : Snippet} (hsnippet : snippet ∈ placements.map Placement.snippet) :
    ∃ front back, hplaced.weaving.Holds snippet front.length ∧
      merged.markers = front ++ snippet.markers ++ back := by
  obtain ⟨placement, hmem, rfl⟩ := List.mem_map.mp hsnippet
  obtain ⟨before, after, rfl⟩ := List.append_of_mem hmem
  obtain ⟨position, _, hindex, hfound, -⟩ := (hplaced.sited placement hmem).exists_marker
  have hlt := (List.getElem?_eq_some_iff.mp hfound).1
  have hle := Nat.le_of_lt hlt
  obtain ⟨back, hmarkers⟩ := Splice.weave_eq_append_copy Snippet.markers before after hindex hle
  rw [← Document.length_texts] at hlt
  obtain ⟨rest, hpieces⟩ :=
    Splice.piecesOf_eq_append_copy before after hindex (List.getElem?_eq_getElem hlt)
  rw [List.append_assoc, List.cons_append] at hpieces
  refine ⟨_, back, ⟨_, _, hpieces, ?_⟩, hmerged.trans hmarkers⟩
  rw [Splice.flatMap_lines_upto, List.length_append, List.length_append,
    Splice.length_thread (fun _ => rfl) hplaced.index_nonneg,
    Splice.length_thread Snippet.length_markers hplaced.index_nonneg,
    Splice.length_copiesAt (fun _ => rfl), Splice.length_copiesAt Snippet.length_markers,
    List.length_take_of_le hle, List.length_take_of_le (Nat.le_of_lt hlt)]

end Placed

namespace Snippet

/-- Where a line of code stands in the annotated form of its snippet. -/
theorem annotated_getElem? {snippet : Snippet} {before after : List String} {line : String}
    (hraw : snippet.raw = before ++ line :: after) :
    snippet.annotated[2 * before.length + 2]? = some line := by
  have hlength := length_annotate snippet.file snippet.first before
  rw [annotated, hraw, annotate_append, List.getElem?_cons_succ, ← hlength, annotate,
    List.getElem?_append_right (Nat.le_succ _), Nat.succ_sub (Nat.le_refl _), Nat.sub_self]
  rfl

/-- Where the annotation of a line of code stands among the markers of its snippet. -/
theorem markers_eq_append {snippet : Snippet} {before after : List String} {line : String}
    (hraw : snippet.raw = before ++ line :: after) :
    ∃ upto rest, snippet.markers =
        upto ++ [annotationMarker snippet.file (snippet.first + before.length) line]
          ++ [Marker.silent] ++ rest ∧
      upto.length = 2 * before.length + 1 := by
  refine ⟨Marker.silent :: codeMarkers snippet.file snippet.first before,
    codeMarkers snippet.file (snippet.first + before.length + 1) after, ?_, ?_⟩
  · rw [markers, hraw, codeMarkers_append, codeMarkers]
    simp only [List.append_assoc, List.cons_append, List.nil_append]
  · rw [List.length_cons, length_codeMarkers]

end Snippet

namespace Document

/-- A line of code behind its annotation, in a document that holds a copy of its snippet, is
governed by that annotation. -/
theorem governed_of_markers {merged : Document} {front back : List Marker} {snippet : Snippet}
    (hmarkers : merged.markers = front ++ snippet.markers ++ back) {before after : List String}
    {line : String} (hraw : snippet.raw = before ++ line :: after)
    (hstatement : isStatement line = true) (hpos : 0 < snippet.first)
    (hhidden : snippet.first + before.length ≠ Marker.hiddenLine) :
    merged.fileAt (front.length + 2 * before.length + 2) = snippet.file ∧
      ∃ mark marker, merged.markAt (front.length + 2 * before.length + 2) = some mark ∧
        merged.markers[mark]? = some marker ∧
        (marker.number : Int) = snippet.first + before.length := by
  obtain ⟨n, hn⟩ : ∃ n : Nat, snippet.first + before.length = n :=
    Int.eq_ofNat_of_zero_le (by omega)
  have hannotation : Snippet.annotationMarker snippet.file (snippet.first + before.length) line =
      ⟨some snippet.file, n⟩ := by
    have hne : n ≠ Marker.hiddenLine := by omega
    rw [Snippet.annotationMarker, if_pos hstatement, hn, Snippet.readBack, Int.toNat_natCast,
      if_neg hne]
  obtain ⟨upto, rest, hcopy, hlength⟩ := Snippet.markers_eq_append hraw
  have hsplit : merged.markers =
      (front ++ upto) ++ [⟨some snippet.file, n⟩] ++ [Marker.silent] ++ (rest ++ back) := by
    rw [hmarkers, hcopy, hannotation]
    simp only [List.append_assoc]
  have htake : merged.markers.take (front.length + 2 * before.length + 2 + 1) =
      (front ++ upto) ++ [⟨some snippet.file, n⟩] ++ [Marker.silent] := by
    rw [hsplit, List.take_left']
    simp only [List.length_append, List.length_singleton, hlength]
    omega
  have hsilent : Marker.silent.number = 0 := rfl
  have hspeaks : (⟨some snippet.file, n⟩ : Marker).number ≠ 0 := by
    dsimp only
    omega
  refine ⟨?_, (front ++ upto).length, ⟨some snippet.file, n⟩, ?_, ?_, hn.symm⟩
  · rw [fileAt, htake, Marker.lastFile_append_singleton, Marker.lastFile_append_singleton]
    rfl
  · rw [markAt, htake, Marker.lastNumbered_append_singleton,
      Marker.lastNumbered_append_singleton, if_pos hsilent, if_neg hspeaks]
  · rw [hsplit, List.append_assoc, List.append_assoc, List.getElem?_append_right (Nat.le_refl _),
      Nat.sub_self]
    rfl

end Document

namespace Injection

/-- In merged lines every line of the document has its file and its mark as before, and injected
statements are governed by their own source lines under the file of their snippet. -/
theorem run_keeps_sources {document : Document} {read : Reader} {table : LanguageTable}
    {lines : List String} {placements : List Placement} {warnings : List Diagnostic}
    (hrun : run document read table = .ok (.merged lines placements warnings))
    (hplain : ∀ placement ∈ placements, placement.snippet.Plain) :
    ∃ (merged : Document) (weaving : Weaving document (placements.map Placement.snippet) lines)
      (place : Nat → Nat),
      Document.ofLines lines = .ok merged ∧
      (∀ snippet ∈ placements.map Placement.snippet, weaving.Settles snippet) ∧
      (∀ position < document.texts.length, weaving.Moves position (place position) ∧
        merged.fileAt (place position) = document.fileAt position ∧
        merged.markAt (place position) = (document.markAt position).map place) ∧
      ∀ snippet ∈ placements.map Placement.snippet, ∃ start, weaving.Holds snippet start ∧
        ∀ before line after, snippet.raw = before ++ line :: after → isStatement line = true →
          snippet.first + before.length ≠ Marker.hiddenLine →
          merged.texts[start + 2 * before.length + 2]? = some line ∧
          merged.fileAt (start + 2 * before.length + 2) = snippet.file ∧
          ∃ mark marker, merged.markAt (start + 2 * before.length + 2) = some mark ∧
            merged.markers[mark]? = some marker ∧
            (marker.number : Int) = snippet.first + before.length := by
  obtain ⟨collection, hcollection, hplacements, rfl, -⟩ := eq_merged_of_run hrun
  have hplaced := placed_of_locateAll hcollection hplacements
  obtain ⟨merged, hofLines, htexts, hmarkers⟩ := hplaced.exists_ofLines hplain
  refine ⟨merged, hplaced.weaving, Splice.moved placements, hofLines,
    fun _ hsnippet => hplaced.weaving_settles hsnippet, ?_, ?_⟩
  · intro position hlt
    have hmarker := hlt
    rw [Document.length_texts] at hmarker
    exact ⟨hplaced.moves_moved hlt, hplaced.fileAt_moved hmarkers hmarker,
      hplaced.markAt_moved hmarkers hmarker⟩
  · intro snippet hsnippet
    obtain ⟨front, back, hholds, hcopy⟩ := hplaced.exists_holds hmarkers hsnippet
    refine ⟨front.length, hholds, fun before line after hraw hstatement hhidden => ⟨?_, ?_⟩⟩
    · obtain ⟨ahead, behind, hpieces, hlength⟩ := hholds
      have hlines := hplaced.weaving.merged_eq
      rw [hpieces, List.flatMap_append, List.flatMap_cons, Piece.lines] at hlines
      have hinside : 2 * before.length + 2 < snippet.annotated.length :=
        (List.getElem?_eq_some_iff.mp (Snippet.annotated_getElem? hraw)).1
      rw [htexts, hlines, Nat.add_assoc, hlength,
        List.getElem?_append_right (Nat.le_add_right _ _), Nat.add_sub_cancel_left,
        List.getElem?_append_left hinside]
      exact Snippet.annotated_getElem? hraw
    · exact Document.governed_of_markers hcopy hraw hstatement
        (hplaced.discovered.first_pos snippet hsnippet) hhidden

/-- The line behind the two blocks keeps its file and its mark. -/
theorem run_keeps_sources_twoBlocks :
    run twoMarks twoBlocks [] = .ok (.merged twoCopies twoPlacements []) ∧
    (∀ placement ∈ twoPlacements, placement.snippet.Plain) ∧
    ∃ (merged : Document)
      (weaving : Weaving twoMarks (twoPlacements.map Placement.snippet) twoCopies)
      (place : Nat → Nat), Document.ofLines twoCopies = .ok merged ∧
      weaving.Moves 3 (place 3) ∧ merged.fileAt (place 3) = "A.cs" ∧
      merged.markAt (place 3) = some (place 2) := by
  refine ⟨run_twoBlocks, plain_twoPlacements, ?_⟩
  obtain ⟨merged, weaving, place, hofLines, -, horiginal, -⟩ :=
    run_keeps_sources run_twoBlocks plain_twoPlacements
  obtain ⟨hmoves, hfile, hmark⟩ := horiginal 3 (by decide)
  exact ⟨merged, weaving, place, hofLines, hmoves, hfile, hmark⟩

end Injection

end ILGraft

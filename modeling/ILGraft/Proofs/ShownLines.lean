import ILGraft.Proofs.SourceMap

/-!
# What a search sees in merged lines

A search for a snippet sees the source lines of its own file only. In merged lines it sees those
that the document gives, and for every copy of a snippet of that file an ascending run of lines in
the range of that snippet.
-/

namespace ILGraft

namespace Snippet

/-- The numbers that a search for a file sees in the annotated form of a snippet. -/
def shown (wanted : String) (snippet : Snippet) : List Nat :=
  snippet.markers.map fun marker => if snippet.file = wanted then marker.number else 0

/-- Whether a statement of a snippet gets a marker with its source line. -/
def Bears (snippet : Snippet) : Prop :=
  ∃ before line after, snippet.raw = before ++ line :: after ∧ isStatement line = true ∧
    snippet.first + before.length ≠ Marker.hiddenLine

/-- An annotation that gives a source line gives that of the code behind it, and switches to its
file. -/
theorem annotationMarker_of_number_ne_zero {file : String} {number : Int} {line : String}
    (hnumber : (annotationMarker file number line).number ≠ 0) :
    isStatement line = true ∧ number ≠ Marker.hiddenLine ∧
      (annotationMarker file number line).file? = some file ∧
      ((annotationMarker file number line).number : Int) = number := by
  rw [annotationMarker] at hnumber ⊢
  by_cases hstatement : isStatement line = true
  · rw [if_pos hstatement] at hnumber ⊢
    dsimp only at hnumber ⊢
    rw [readBack] at hnumber ⊢
    by_cases hhidden : number.toNat = Marker.hiddenLine
    · rw [if_pos hhidden] at hnumber
      exact absurd rfl hnumber
    · rw [if_neg hhidden] at hnumber ⊢
      exact ⟨hstatement, by omega, rfl, by omega⟩
  · rw [if_neg hstatement] at hnumber
    exact absurd rfl hnumber

/-- The annotation of a statement gives its source line, unless it is hidden. -/
theorem number_annotationMarker {file : String} {number : Int} {line : String}
    (hstatement : isStatement line = true) (hpos : 0 < number)
    (hhidden : number ≠ Marker.hiddenLine) :
    ((annotationMarker file number line).number : Int) = number := by
  rw [annotationMarker, if_pos hstatement, readBack, if_neg (by omega)]
  exact Int.toNat_of_nonneg (Int.le_of_lt hpos)

private theorem of_mem_codeMarkers {file : String} {number : Int} {raw : List String}
    {marker : Marker} (hmem : marker ∈ codeMarkers file number raw) (hnumber : marker.number ≠ 0) :
    marker.file? = some file ∧ ∃ before line after, raw = before ++ line :: after ∧
      isStatement line = true ∧ number + before.length ≠ Marker.hiddenLine ∧
      (marker.number : Int) = number + before.length := by
  induction raw generalizing number with
  | nil => cases hmem
  | cons line rest ih =>
    rcases List.mem_cons.mp hmem with rfl | hmem
    · obtain ⟨hstatement, hhidden, hfile, heq⟩ := annotationMarker_of_number_ne_zero hnumber
      refine ⟨hfile, [], line, rest, rfl, hstatement, ?_, ?_⟩
      · rwa [List.length_nil, Int.natCast_zero, Int.add_zero]
      · rw [heq, List.length_nil, Int.natCast_zero, Int.add_zero]
    · rcases List.mem_cons.mp hmem with rfl | hmem
      · exact absurd rfl hnumber
      · obtain ⟨hfile, before, found, after, hraw, hstatement, hhidden, heq⟩ := ih hmem
        have hlength : (((line :: before).length : Nat) : Int) = before.length + 1 := by
          rw [List.length_cons, Int.natCast_succ]
        refine ⟨hfile, line :: before, found, after, ?_, hstatement, ?_, ?_⟩
        · rw [hraw, List.cons_append]
        · omega
        · omega

/-- A marker of an annotated snippet that gives a source line switches to the snippet's file and
gives a line in the snippet's range. -/
theorem of_mem_markers {snippet : Snippet} {marker : Marker} (hmem : marker ∈ snippet.markers)
    (hnumber : marker.number ≠ 0) :
    marker.file? = some snippet.file ∧ snippet.first ≤ (marker.number : Int) ∧
      (marker.number : Int) ≤ snippet.last ∧ snippet.Bears := by
  rcases List.mem_cons.mp hmem with rfl | hmem
  · exact absurd rfl hnumber
  · obtain ⟨hfile, before, line, after, hraw, hstatement, hhidden, heq⟩ :=
      of_mem_codeMarkers hmem hnumber
    have hcovers := snippet.covers
    have hlength := congrArg List.length hraw
    rw [List.length_append, List.length_cons] at hlength
    exact ⟨hfile, by omega, by omega, before, line, after, hraw, hstatement, hhidden⟩

private theorem pairwise_codeMarkers (file : String) (number : Int) (raw : List String) :
    (codeMarkers file number raw).Pairwise fun one other =>
      one.number ≠ 0 → other.number ≠ 0 → one.number < other.number := by
  induction raw generalizing number with
  | nil => exact .nil
  | cons line rest ih =>
    refine .cons (fun other hother hone hother' => ?_) (.cons (fun _ _ hsilent => ?_) (ih _))
    · have heq := (annotationMarker_of_number_ne_zero hone).2.2.2
      rcases List.mem_cons.mp hother with rfl | hmem
      · exact absurd rfl hother'
      · obtain ⟨-, before, -, -, -, -, -, hlater⟩ := of_mem_codeMarkers hmem hother'
        omega
    · exact absurd rfl hsilent

/-- A search sees a number for every line of the annotated form. -/
theorem length_shown (wanted : String) (snippet : Snippet) :
    (snippet.shown wanted).length = snippet.annotated.length := by
  rw [shown, List.length_map, length_markers]

/-- A search sees a snippet's source lines only if it is for the snippet's file, and only lines in
the snippet's range. -/
theorem of_mem_shown {wanted : String} {snippet : Snippet} {number : Nat}
    (hmem : number ∈ snippet.shown wanted) (hnumber : number ≠ 0) :
    snippet.file = wanted ∧ snippet.first ≤ (number : Int) ∧ (number : Int) ≤ snippet.last ∧
      snippet.Bears := by
  obtain ⟨marker, hmarker, rfl⟩ := List.mem_map.mp hmem
  split at hnumber
  · next hfile =>
    rw [if_pos hfile]
    exact ⟨hfile, (of_mem_markers hmarker hnumber).2⟩
  · exact absurd rfl hnumber

/-- The source lines that a search sees in a snippet ascend. -/
theorem pairwise_shown (wanted : String) (snippet : Snippet) :
    (snippet.shown wanted).Pairwise fun one other => one ≠ 0 → other ≠ 0 → one < other := by
  rw [shown, List.pairwise_map, markers]
  have hcode := pairwise_codeMarkers snippet.file snippet.first snippet.raw
  refine .cons (fun other _ hsilent => ?_) (hcode.imp fun {one other} hlt hone hother => ?_)
  · exact absurd (ite_self 0) hsilent
  · split at hone
    · next hfile =>
      rw [if_pos hfile] at hother ⊢
      rw [if_pos hfile]
      exact hlt hone hother
    · exact absurd rfl hone

/-- A search for its own file sees a source line in every snippet that bears one. -/
theorem Bears.exists_shown {snippet : Snippet} (hbears : snippet.Bears)
    (hpos : 0 < snippet.first) :
    ∃ number ∈ snippet.shown snippet.file, number ≠ 0 := by
  obtain ⟨before, line, after, hraw, hstatement, hhidden⟩ := hbears
  obtain ⟨marker, hmarker⟩ : ∃ marker, marker =
    annotationMarker snippet.file (snippet.first + before.length) line := ⟨_, rfl⟩
  have hnumber : (marker.number : Int) = snippet.first + before.length := by
    rw [hmarker, number_annotationMarker hstatement (by omega) hhidden]
  have hmem : marker ∈ snippet.markers := by
    rw [markers, hraw, codeMarkers_append, codeMarkers, ← hmarker]
    simp
  refine ⟨marker.number, List.mem_map.mpr ⟨marker, hmem, if_pos rfl⟩, by omega⟩

end Snippet

namespace Marker

/-- In markers that give the lines of one file only, a search sees all of their numbers or none. -/
theorem visible_eq_map {file : String} (wanted state : String) {markers : List Marker}
    (hfile : ∀ marker ∈ markers, marker.number ≠ 0 → marker.file? = some file) :
    visible wanted state markers =
      markers.map fun marker => if file = wanted then marker.number else 0 := by
  induction markers generalizing state with
  | nil => rfl
  | cons marker rest ih =>
    have hrest := ih (marker.file?.getD state) fun other hother =>
      hfile other (List.mem_cons_of_mem _ hother)
    rw [visible, hrest, List.map_cons]
    by_cases hnumber : marker.number = 0
    · rw [hnumber, ite_self, ite_self]
    · rw [hfile marker List.mem_cons_self hnumber, Option.getD_some]

/-- What a search sees in copies does not depend on the lines in front of them. -/
theorem visible_copiesAt (wanted state : String) (placements : List Placement) (position : Nat) :
    visible wanted state (Splice.copiesAt Snippet.markers placements position) =
      Splice.copiesAt (Snippet.shown wanted) placements position := by
  rw [Splice.copiesAt, Splice.copiesAt]
  induction placements.filter fun placement => placement.index = (position : Int)
    generalizing state with
  | nil => rfl
  | cons placement rest ih =>
    rw [List.flatMap_cons, List.flatMap_cons, visible_append, ih, Snippet.shown,
      visible_eq_map wanted state fun marker hmem hnumber =>
        (Snippet.of_mem_markers hmem hnumber).1]

end Marker

namespace Placed

variable {document : Document} {placements : List Placement}

/-- A search sees the lines of the document as before the merge, behind what it sees in the copies
in front of them. -/
theorem visible_thread {front back : List Marker} (hplaced : Placed document placements)
    (hmarkers : document.markers = front ++ back) (wanted : String) :
    Marker.visible wanted "" (Splice.thread Snippet.markers placements 0 front) =
      Splice.thread (Snippet.shown wanted) placements 0 (Marker.visible wanted "" front) := by
  induction front using List.reverseRecOn generalizing back with
  | nil => rfl
  | append_singleton front marker ih =>
    rw [List.append_assoc, List.singleton_append] at hmarkers
    rw [Splice.thread_append_singleton, List.append_assoc, Marker.visible_append, ih hmarkers,
      Marker.fileAfter_empty, hplaced.lastFile_thread hmarkers, Marker.visible_append,
      Marker.visible_copiesAt, Marker.visible_append, Marker.fileAfter_empty, Marker.visible,
      Marker.visible, Marker.visible, Marker.visible, hplaced.getD_fileAfter_copiesAt hmarkers,
      Splice.thread_append_singleton, Marker.length_visible, List.append_assoc]

/-- What a search sees in merged lines is what it sees in the document, with what it sees in the
copies woven in. -/
theorem visible_weave (hplaced : Placed document placements) (wanted : String) :
    Marker.visible wanted "" (Splice.weave Snippet.markers placements document.markers) =
      Splice.thread (Snippet.shown wanted) placements 0
        (Marker.visible wanted "" document.markers) := by
  rw [hplaced.weave_markers]
  exact hplaced.visible_thread (List.append_nil _).symm wanted

end Placed

end ILGraft

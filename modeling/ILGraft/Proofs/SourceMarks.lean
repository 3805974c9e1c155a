import ILGraft.Placement

/-!
# Marks of a source file and the pairs around a snippet

A line of a document belongs to the file that the last switch at or before it names. The marks of
a file are its lines that give a source line. Placing a snippet looks for two consecutive marks of
its file on both sides of its range; this file says so without the search, and proves that the
search finds exactly these pairs.
-/

namespace ILGraft

namespace Marker

/-- The file that the last switch in a run of markers names; empty if there is no switch. -/
def lastFile (markers : List Marker) : String :=
  (markers.filterMap Marker.file?).getLast?.getD ""

/-- The position of the last marker in a run that gives a source line. -/
def lastNumbered (markers : List Marker) : Option Nat :=
  (markers.zipIdx.filterMap fun (marker, position) =>
    if marker.number = 0 then none else some position).getLast?

/-- The numbers that a search for one file sees, line by line, behind lines of some file. It sees
zero where a line belongs to another file or gives no number. -/
def visible (wanted : String) : String → List Marker → List Nat
  | _, [] => []
  | file, marker :: rest =>
    (if marker.file?.getD file = wanted then marker.number else 0)
      :: visible wanted (marker.file?.getD file) rest

/-- The file that holds behind markers, given the file that holds in front of them. -/
def fileAfter (file : String) (markers : List Marker) : String :=
  markers.foldl (fun file marker => marker.file?.getD file) file

/-- A switch decides the file of its own line. -/
theorem lastFile_append_singleton (markers : List Marker) (marker : Marker) :
    lastFile (markers ++ [marker]) = marker.file?.getD (lastFile markers) := by
  cases hfile : marker.file? with
  | none => simp [lastFile, hfile]
  | some file => simp [lastFile, hfile]

/-- More markers go on from the file that the last switch before them named. -/
theorem lastFile_append (markers more : List Marker) :
    lastFile (markers ++ more) = fileAfter (lastFile markers) more := by
  induction more generalizing markers with
  | nil => rw [List.append_nil, fileAfter, List.foldl_nil]
  | cons marker rest ih =>
    rw [List.append_cons, ih, lastFile_append_singleton, fileAfter, fileAfter, List.foldl_cons]

/-- At the start of a document no file holds. -/
theorem fileAfter_empty (markers : List Marker) : fileAfter "" markers = lastFile markers :=
  (lastFile_append [] markers).symm

/-- Markers that switch to no other file leave the file as it is. -/
theorem fileAfter_eq_self {file : String} {markers : List Marker}
    (hfile : ∀ marker ∈ markers, ∀ switched ∈ marker.file?, switched = file) :
    fileAfter file markers = file := by
  induction markers with
  | nil => rfl
  | cons marker rest ih =>
    have hhere : marker.file?.getD file = file := by
      cases hswitch : marker.file? with
      | none => rfl
      | some switched => exact hfile marker List.mem_cons_self switched hswitch
    have hrest := ih fun other hother => hfile other (List.mem_cons_of_mem _ hother)
    rw [fileAfter] at hrest
    rw [fileAfter, List.foldl_cons, hhere, hrest]

/-- A line that gives a source line is the last one that does. -/
theorem lastNumbered_append_singleton (markers : List Marker) (marker : Marker) :
    lastNumbered (markers ++ [marker]) =
      if marker.number = 0 then lastNumbered markers else some markers.length := by
  by_cases hnumber : marker.number = 0 <;>
    simp [lastNumbered, List.zipIdx_append, List.filterMap_append, hnumber]

/-- A search through more lines goes on behind the lines it has seen. -/
theorem visible_append (wanted file : String) (markers more : List Marker) :
    visible wanted file (markers ++ more) =
      visible wanted file markers ++ visible wanted (fileAfter file markers) more := by
  induction markers generalizing file with
  | nil => rfl
  | cons marker rest ih => rw [List.cons_append, visible, visible, ih, List.cons_append]; rfl

/-- A search sees a number for every line. -/
theorem length_visible (wanted file : String) (markers : List Marker) :
    (visible wanted file markers).length = markers.length := by
  induction markers generalizing file with
  | nil => rfl
  | cons marker rest ih => rw [visible, List.length_cons, List.length_cons, ih]

end Marker

/-- A line that gives a source line. -/
structure Mark where
  /-- How many lines of the document stand before it. -/
  position : Nat
  /-- The source line. -/
  number : Nat
deriving Repr, DecidableEq

/-- Whether a pair of marks lies around a snippet: the first gives a line before it and the second
a line behind it. -/
def Snippet.isAmid (snippet : Snippet) (pair : Mark × Mark) : Bool :=
  (pair.1.number : Int) < snippet.first && snippet.last < (pair.2.number : Int)

namespace Document

/-- The markers of a document, line by line. -/
def markers (document : Document) : List Marker :=
  document.lines.map MarkedLine.marker

/-- The source file of a line: the one that the last switch at or before the line names. -/
def fileAt (document : Document) (position : Nat) : String :=
  Marker.lastFile (document.markers.take (position + 1))

/-- The position of the last line at or before a position that gives a source line. -/
def markAt (document : Document) (position : Nat) : Option Nat :=
  Marker.lastNumbered (document.markers.take (position + 1))

/-- The marks of a source file, in order. -/
def marksOf (document : Document) (file : String) : List Mark :=
  document.markers.zipIdx.filterMap fun (marker, position) =>
    if document.fileAt position = file ∧ marker.number ≠ 0 then some ⟨position, marker.number⟩
    else none

/-- The pairs of consecutive marks of a snippet's file that lie around the snippet. -/
def straddling (document : Document) (snippet : Snippet) : List (Mark × Mark) :=
  ((document.marksOf snippet.file).zip (document.marksOf snippet.file).tail).filter snippet.isAmid

/-- A mark of a file stands on a line of that file and gives its number, which is not zero. -/
theorem of_mem_marksOf {document : Document} {file : String} {mark : Mark}
    (hmark : mark ∈ document.marksOf file) :
    ∃ marker, document.markers[mark.position]? = some marker ∧ marker.number = mark.number ∧
      mark.number ≠ 0 ∧ document.fileAt mark.position = file := by
  obtain ⟨⟨marker, position⟩, hmem, hsome⟩ := List.mem_filterMap.mp hmark
  dsimp only at hsome
  split at hsome
  · next hvisible =>
    cases hsome
    exact ⟨marker, List.mem_zipIdx_iff_getElem?.mp hmem, rfl, hvisible.2, hvisible.1⟩
  · cases hsome

/-- The marks of a file are listed by their positions. -/
theorem marksOf_pairwise (document : Document) (file : String) :
    (document.marksOf file).Pairwise fun one other => one.position < other.position := by
  have hpositions : document.markers.zipIdx.Pairwise fun one other => one.2 < other.2 := by
    rw [← List.pairwise_map (f := Prod.snd), List.zipIdx_map_snd]
    exact List.pairwise_lt_range'
  rw [marksOf, List.pairwise_filterMap]
  refine hpositions.imp fun {one other} hlt mark hmark next hnext => ?_
  have hposition {entry : Marker × Nat} {found : Mark}
      (hfound : (if document.fileAt entry.2 = file ∧ entry.1.number ≠ 0 then
        some (⟨entry.2, entry.1.number⟩ : Mark) else none) = some found) :
      found.position = entry.2 := by
    split at hfound
    · cases hfound
      rfl
    · cases hfound
  rw [hposition hmark, hposition hnext]
  exact hlt

/-- A pair of neighbours splits its list. -/
theorem mem_zip_tail_iff {α : Type} {list : List α} {pair : α × α} :
    pair ∈ list.zip list.tail ↔ ∃ front back, list = front ++ pair.1 :: pair.2 :: back := by
  constructor
  · intro hpair
    induction list with
    | nil => cases hpair
    | cons first rest ih =>
      cases rest with
      | nil => cases hpair
      | cons second rest =>
        rcases List.mem_cons.mp hpair with rfl | hlater
        · exact ⟨[], rest, rfl⟩
        · obtain ⟨front, back, hrest⟩ := ih hlater
          exact ⟨first :: front, back, by rw [hrest, List.cons_append]⟩
  · rintro ⟨front, back, rfl⟩
    induction front with
    | nil => exact List.mem_cons_self
    | cons first front ih =>
      cases front with
      | nil => exact List.mem_cons_of_mem _ ih
      | cons second front => exact List.mem_cons_of_mem _ ih

private theorem rel_of_mem_zip_tail {α : Type} {R : α → α → Prop} {list : List α}
    (hlist : list.Pairwise R) {pair : α × α} (hpair : pair ∈ list.zip list.tail) :
    R pair.1 pair.2 := by
  obtain ⟨front, back, rfl⟩ := mem_zip_tail_iff.mp hpair
  obtain ⟨-, hback, -⟩ := List.pairwise_append.mp hlist
  exact (List.pairwise_cons.mp hback).1 pair.2 List.mem_cons_self

/-- The two marks of a straddling pair belong to the snippet's file, follow one another in the
document, and give a line before the snippet and one behind it. -/
theorem of_mem_straddling {document : Document} {snippet : Snippet} {pair : Mark × Mark}
    (hpair : pair ∈ document.straddling snippet) :
    pair.1 ∈ document.marksOf snippet.file ∧ pair.2 ∈ document.marksOf snippet.file ∧
      pair.1.position < pair.2.position ∧
      (pair.1.number : Int) < snippet.first ∧ snippet.last < (pair.2.number : Int) := by
  obtain ⟨hzip, hamid⟩ := List.mem_filter.mp hpair
  have hmem := List.of_mem_zip (a := pair.1) (b := pair.2) hzip
  refine ⟨hmem.1, List.mem_of_mem_tail hmem.2, ?_, ?_⟩
  · exact rel_of_mem_zip_tail (document.marksOf_pairwise snippet.file) hzip
  · simpa only [Snippet.isAmid, Bool.and_eq_true, decide_eq_true_eq] using hamid

end Document

namespace Placement

/-- The positions at which numbers, seen from a position on, get from before a snippet to behind
it, given the number seen last. -/
def crossings (snippet : Snippet) : Nat → Option Nat → List Nat → List Nat
  | _, _, [] => []
  | position, latest?, number :: rest =>
    if number = 0 then crossings snippet (position + 1) latest? rest
    else (if straddles snippet latest? number then [position] else [])
      ++ crossings snippet (position + 1) (some number) rest

/-- What becomes of a snippet that fits in front of some lines. -/
def outcome (snippet : Snippet) : List Nat → Except Fault Nat
  | [] => .error (.unplaced snippet)
  | [place] => .ok place
  | first :: second :: _ => .error (.ambiguous snippet first second)

/-- The search ends by what it has found and the crossings that are still ahead of it. -/
theorem locateFrom_eq_outcome (snippet : Snippet) (position : Nat) (file : String)
    (latest? found? : Option Nat) (lines : List MarkedLine) :
    locateFrom snippet position file latest? found? lines =
      outcome snippet (found?.toList ++ crossings snippet position latest?
        (Marker.visible snippet.file file (lines.map MarkedLine.marker))) := by
  induction lines generalizing position file latest? found? with
  | nil => cases found? <;> rfl
  | cons line rest ih =>
    rw [locateFrom.eq_def, List.map_cons, Marker.visible]
    dsimp only
    by_cases hskip : line.marker.file?.getD file ≠ snippet.file ∨ line.marker.number = 0
    · have hnone : (if line.marker.file?.getD file = snippet.file then line.marker.number else 0)
          = 0 := by
        rcases hskip with hfile | hnumber
        · rw [if_neg hfile]
        · rw [hnumber, ite_self]
      rw [if_pos hskip, ih, hnone, crossings, if_pos rfl]
    · obtain ⟨hfile, hnumber⟩ := not_or.mp hskip
      rw [if_neg hskip, if_pos (Decidable.not_not.mp hfile), crossings, if_neg hnumber]
      by_cases hcross : straddles snippet latest? line.marker.number = true
      · rw [if_pos hcross, if_pos hcross]
        cases found? with
        | none => exact ih _ _ _ _
        | some found => rfl
      · rw [if_neg hcross, if_neg hcross, ih, List.nil_append]

/-- Marks, as a list of numbers shows them from a position on. -/
private def marksFrom (position : Nat) (numbers : List Nat) : List Mark :=
  (numbers.zipIdx position).filterMap fun (number, position) =>
    if number = 0 then none else some ⟨position, number⟩

private theorem marksFrom_cons (position number : Nat) (rest : List Nat) :
    marksFrom position (number :: rest) =
      (if number = 0 then [] else [⟨position, number⟩]) ++ marksFrom (position + 1) rest := by
  by_cases hnumber : number = 0 <;> simp [marksFrom, hnumber]

private theorem marksFrom_visible (wanted : String) (before rest : List Marker) :
    marksFrom before.length (Marker.visible wanted (Marker.lastFile before) rest) =
      (rest.zipIdx before.length).filterMap fun (marker, position) =>
        if Marker.lastFile ((before ++ rest).take (position + 1)) = wanted ∧ marker.number ≠ 0
        then some ⟨position, marker.number⟩ else none := by
  induction rest generalizing before with
  | nil => rfl
  | cons marker rest ih =>
    have hnext := ih (before ++ [marker])
    have hfile := Marker.lastFile_append_singleton before marker
    have hhere : (before ++ marker :: rest).take (before.length + 1) = before ++ [marker] := by
      rw [List.append_cons, List.take_left' (by simp)]
    rw [hfile, List.append_assoc, List.singleton_append, List.length_append,
      List.length_singleton] at hnext
    rw [Marker.visible, marksFrom_cons, hnext, List.zipIdx_cons, List.filterMap_cons]
    simp only [hhere, hfile]
    by_cases hwanted : marker.file?.getD (Marker.lastFile before) = wanted
    · by_cases hnumber : marker.number = 0 <;> simp [hwanted, hnumber]
    · simp [hwanted]

/-- The marks of a file are the numbers that a search for it sees. -/
private theorem marksOf_eq_marksFrom (document : Document) (file : String) :
    document.marksOf file = marksFrom 0 (Marker.visible file "" document.markers) :=
  (marksFrom_visible file [] document.markers).symm

private theorem crossings_eq_pairs (snippet : Snippet) (position : Nat) (latest? : Option Mark)
    (numbers : List Nat) :
    crossings snippet position (latest?.map Mark.number) numbers =
      (((latest?.toList ++ marksFrom position numbers).zip
        (latest?.toList ++ marksFrom position numbers).tail).filter snippet.isAmid).map
        fun pair => pair.2.position := by
  induction numbers generalizing position latest? with
  | nil => cases latest? <;> simp [crossings, marksFrom]
  | cons number rest ih =>
    rw [crossings, marksFrom_cons]
    by_cases hnumber : number = 0
    · simp only [if_pos hnumber, List.nil_append, ih]
    · have hnext := ih (position + 1) (some ⟨position, number⟩)
      simp only [Option.map_some, Option.toList_some, List.singleton_append, List.tail_cons]
        at hnext
      rw [if_neg hnumber, if_neg hnumber, hnext]
      cases latest? with
      | none => simp [straddles]
      | some latest =>
        have hamid : straddles snippet ((some latest).map Mark.number) number =
            snippet.isAmid (latest, ⟨position, number⟩) := rfl
        rw [hamid]
        simp only [Option.toList_some, List.singleton_append, List.tail_cons, List.zip_cons_cons]
        by_cases hcross : snippet.isAmid (latest, ⟨position, number⟩) = true
        · rw [if_pos hcross, List.filter_cons_of_pos hcross, List.map_cons, List.singleton_append]
        · rw [if_neg hcross, List.filter_cons_of_neg hcross, List.nil_append]

/-- The crossings of a snippet in a document are the second marks of its straddling pairs. -/
theorem crossings_document (document : Document) (snippet : Snippet) :
    crossings snippet 0 none (Marker.visible snippet.file "" document.markers) =
      (document.straddling snippet).map fun pair => pair.2.position := by
  rw [Document.straddling, marksOf_eq_marksFrom]
  exact crossings_eq_pairs snippet 0 none _

/-- A snippet is placed by its crossings in what a search for its file sees. -/
theorem locate_eq_outcome_crossings (document : Document) (snippet : Snippet) :
    locate document snippet = outcome snippet
      (crossings snippet 0 none (Marker.visible snippet.file "" document.markers)) := by
  rw [locate, locateFrom_eq_outcome]
  rfl

/-- A snippet is placed by the pairs that straddle it: one pair decides the place, several are
ambiguous, and without a pair there is no place. -/
theorem locate_eq_outcome (document : Document) (snippet : Snippet) :
    locate document snippet =
      outcome snippet ((document.straddling snippet).map fun pair => pair.2.position) := by
  rw [locate_eq_outcome_crossings, crossings_document]

/-- A snippet that has a place has one straddling pair, and stands before its second mark. -/
theorem straddling_of_locate {document : Document} {snippet : Snippet} {place : Nat}
    (hplace : locate document snippet = .ok place) :
    ∃ pair, document.straddling snippet = [pair] ∧ pair.2.position = place := by
  rw [locate_eq_outcome] at hplace
  match hpairs : document.straddling snippet, hplace with
  | [pair], hplace => exact ⟨pair, rfl, Except.ok.inj hplace⟩

end Placement

end ILGraft

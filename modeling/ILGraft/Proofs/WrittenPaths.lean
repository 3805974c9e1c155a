import ILGraft.Proofs.FileContents
import ILGraft.Source

/-!
# Paths as they are written

A path in normal form is what was written, less some of its slashes and single dots. So its text is
no longer, it holds a null character exactly if what was written does, and it leads to the same
place wherever the written path leads to one. A file that is found by the path as it is written can
therefore be read.
-/

namespace ILGraft

namespace Text

/-- A part of a text is no larger than the text. -/
theorem utf8ByteSize_ofList_le {part text : List Char} (hpart : part.Sublist text) :
    (String.ofList part).utf8ByteSize ≤ (String.ofList text).utf8ByteSize := by
  induction hpart with
  | slnil => exact Nat.le_refl _
  | cons c _ ih =>
    rw [String.ofList_cons, String.utf8ByteSize_append]
    omega
  | cons_cons c _ ih =>
    rw [String.ofList_cons, String.ofList_cons, String.utf8ByteSize_append,
      String.utf8ByteSize_append]
    omega

/-- Leaving out pieces leaves out characters of what they are joined to. -/
theorem intercalate_sublist (separator : List Char) {few many : List (List Char)}
    (hfew : few.Sublist many) :
    (separator.intercalate few).Sublist (separator.intercalate many) := by
  induction hfew with
  | slnil => exact List.Sublist.refl _
  | @cons few many piece _ ih =>
    cases many with
    | nil =>
      rw [List.intercalate_nil] at ih
      exact ih.trans (List.nil_sublist _)
    | cons second rest =>
      rw [List.intercalate_cons_cons]
      exact ih.trans (List.sublist_append_right _ _)
  | @cons_cons few many piece hfew ih =>
    cases few with
    | nil =>
      rw [List.intercalate_singleton]
      cases many with
      | nil => simp only [List.intercalate_singleton, List.Sublist.refl]
      | cons second rest =>
        rw [List.intercalate_cons_cons, List.append_assoc]
        exact List.sublist_append_left _ _
    | cons first more =>
      obtain ⟨second, rest, rfl⟩ := List.exists_cons_of_ne_nil
        (show many ≠ [] from fun hnil => by rw [hnil] at hfew; cases hfew)
      rw [List.intercalate_cons_cons, List.intercalate_cons_cons]
      exact (List.Sublist.refl _).append ih

/-- A character that is no separator stands in one of the pieces that are joined. -/
theorem mem_intercalate_iff {separator c : Char} (hc : c ≠ separator) (pieces : List (List Char)) :
    c ∈ [separator].intercalate pieces ↔ ∃ piece ∈ pieces, c ∈ piece := by
  induction pieces with
  | nil => simp
  | cons piece rest ih =>
    cases rest with
    | nil => simp
    | cons second rest =>
      rw [List.intercalate_cons_cons, List.append_assoc, List.mem_append, List.mem_append, ih,
        List.mem_singleton]
      simp only [hc, false_or, List.mem_cons, exists_eq_or_imp]

/-- A character that is no separator stands in one of the pieces between separators. -/
theorem mem_splitOn_iff {separator c : Char} (hc : c ≠ separator) (text : List Char) :
    c ∈ text ↔ ∃ piece ∈ splitOn separator text, c ∈ piece := by
  rw [splitOn_eq, ← mem_intercalate_iff hc, List.intercalate_splitOn]

end Text

namespace Path

/-- The pieces of a written path that a path in normal form keeps. -/
def keptPieces (text : List Char) : List (List Char) :=
  (Text.splitOn '/' text).filter fun piece => piece ≠ [] ∧ piece ≠ ['.']

/-- A slash in front of a path adds no piece that is kept. -/
theorem keptPieces_slash (text : List Char) : keptPieces ('/' :: text) = keptPieces text := by
  rw [keptPieces, Text.splitOn, if_pos rfl, List.filter_cons_of_neg (by simp)]
  rfl

/-- The pieces that are kept, joined by slashes, are what was written, less some of its
characters. -/
theorem intercalate_keptPieces_sublist (text : List Char) :
    (['/'].intercalate (keptPieces text)).Sublist text := by
  have hfewer := Text.intercalate_sublist ['/']
    (List.filter_sublist (p := fun piece => piece ≠ [] ∧ piece ≠ ['.'])
      (l := Text.splitOn '/' text))
  rwa [Text.splitOn_eq, List.intercalate_splitOn, ← Text.splitOn_eq] at hfewer

/-- The text of a path that is read from a text. -/
theorem toList_toString_ofString (text : String) :
    (ofString text).toString.toList =
      if rootOf text.toList = .working ∧ keptPieces text.toList = [] then ['.']
      else (rootOf text.toList).text.toList ++ ['/'].intercalate (keptPieces text.toList) := by
  have hpath : ofString text =
      ⟨rootOf text.toList, (keptPieces text.toList).map String.ofList⟩ := rfl
  have hlists : ((keptPieces text.toList).map String.ofList).map String.toList =
      keptPieces text.toList := by
    rw [List.map_map]
    simp
  rw [hpath, toString]
  by_cases hempty : rootOf text.toList = .working ∧ keptPieces text.toList = []
  · rw [if_pos hempty, if_pos ⟨hempty.1, by rw [hempty.2, List.map_nil]⟩]
    rfl
  · rw [if_neg hempty, if_neg fun hnone => hempty ⟨hnone.1, List.map_eq_nil_iff.mp hnone.2⟩,
      String.toList_append, String.toList_intercalate, hlists]
    rfl

/-- A path that starts from the top is written with a slash in front. -/
theorem exists_of_rootOf_top {text : List Char} (hroot : rootOf text = .top) :
    ∃ rest, text = '/' :: rest := by
  unfold rootOf at hroot
  split at hroot
  · exact ⟨_, rfl⟩
  · cases hroot
  · exact ⟨_, rfl⟩
  · cases hroot

/-- A path with the doubled root is written with two slashes in front. -/
theorem exists_of_rootOf_doubled {text : List Char} (hroot : rootOf text = .doubled) :
    ∃ rest, text = '/' :: '/' :: rest := by
  unfold rootOf at hroot
  split at hroot
  · cases hroot
  · exact ⟨_, rfl⟩
  · cases hroot
  · cases hroot

/-- A path that starts from the working directory is written without a slash in front. -/
theorem ne_slash_of_rootOf_working {c : Char} {rest : List Char}
    (hroot : rootOf (c :: rest) = .working) : c ≠ '/' := by
  rintro rfl
  unfold rootOf at hroot
  split at hroot
  · cases hroot
  · cases hroot
  · cases hroot
  · next hnone => exact hnone rest rfl

/-- A relative path of which no piece is kept is written with a dot. -/
theorem dot_mem_of_keptPieces_eq_nil {text : List Char} (hne : text ≠ [])
    (hroot : rootOf text = .working) (hnone : keptPieces text = []) : '.' ∈ text := by
  obtain ⟨c, rest, rfl⟩ := List.exists_cons_of_ne_nil hne
  have hc := ne_slash_of_rootOf_working hroot
  obtain ⟨piece, more, hpieces⟩ : ∃ piece more, Text.splitOn '/' (c :: rest) =
      (c :: piece) :: more := by
    rw [Text.splitOn, if_neg hc]
    split
    · exact ⟨[], [], rfl⟩
    · next piece more _ => exact ⟨piece, more, rfl⟩
  rw [keptPieces, hpieces, List.filter_eq_nil_iff] at hnone
  have hdropped := hnone _ List.mem_cons_self
  have hdot : c :: piece = ['.'] := by simpa using hdropped
  rw [(List.cons.inj hdot).1]
  exact List.mem_cons_self

/-- The text of a path is what was written, less some of its characters. -/
theorem toString_ofString_sublist {text : String} (hne : text ≠ "") :
    (ofString text).toString.toList.Sublist text.toList := by
  have hchars : text.toList ≠ [] := fun hnil => hne (String.toList_eq_nil_iff.mp hnil)
  rw [toList_toString_ofString]
  split
  · -- The single dot that stands for the empty path was written as such.
    next hempty =>
    exact List.singleton_sublist.mpr (dot_mem_of_keptPieces_eq_nil hchars hempty.1 hempty.2)
  · cases hroot : rootOf text.toList with
    | working => exact intercalate_keptPieces_sublist _
    | top =>
      obtain ⟨rest, hrest⟩ := exists_of_rootOf_top hroot
      rw [hrest, keptPieces_slash]
      exact (intercalate_keptPieces_sublist rest).cons_cons '/'
    | doubled =>
      obtain ⟨rest, hrest⟩ := exists_of_rootOf_doubled hroot
      rw [hrest, keptPieces_slash, keptPieces_slash]
      exact ((intercalate_keptPieces_sublist rest).cons_cons '/').cons_cons '/'

/-- A character that is neither a slash nor a dot stands in the text of a path exactly if it was
written. -/
theorem mem_toString_ofString_iff {c : Char} (hslash : c ≠ '/') (hdot : c ≠ '.')
    (text : String) : c ∈ (ofString text).toString.toList ↔ c ∈ text.toList := by
  constructor
  · intro hmem
    by_cases hne : text = ""
    · have htext : (ofString text).toString.toList = ['.'] := by rw [hne]; rfl
      rw [htext] at hmem
      exact absurd (List.mem_singleton.mp hmem) hdot
    · exact (toString_ofString_sublist hne).subset hmem
  · intro hmem
    obtain ⟨piece, hpiece, hc⟩ := (Text.mem_splitOn_iff hslash text.toList).mp hmem
    have hkept : piece ∈ keptPieces text.toList := by
      refine List.mem_filter.mpr ⟨hpiece, decide_eq_true ⟨List.ne_nil_of_mem hc, ?_⟩⟩
      rintro rfl
      exact hdot (List.mem_singleton.mp hc)
    rw [toList_toString_ofString, if_neg fun hempty => List.ne_nil_of_mem hkept hempty.2]
    exact List.mem_append_right _ ((Text.mem_intercalate_iff hslash _).mpr ⟨piece, hkept, hc⟩)

end Path

namespace FileTree

variable {tree : FileTree}

/-- A walk that goes through passes over single dots. -/
theorem walk_filter {start place : Location} {parts : List String}
    (hwalk : tree.walk start parts = .ok place) :
    tree.walk start (parts.filter (· ≠ ".")) = .ok place := by
  induction parts generalizing start with
  | nil => exact hwalk
  | cons part rest ih =>
    rw [walk] at hwalk
    split at hwalk
    · cases hwalk
    · cases hwalk
    · next hdirectory =>
      split at hwalk
      · cases hwalk
      · next hshort =>
        by_cases hdot : part = "."
        · rw [hdot, step, if_pos rfl] at hwalk
          rw [hdot, List.filter_cons_of_neg (by simp)]
          exact ih hwalk
        · rw [List.filter_cons_of_pos (by simpa using hdot), walk, hdirectory]
          simp only [if_neg hshort]
          exact ih hwalk

/-- The parts of a path are those that are written, less the single dots. -/
theorem filter_writtenParts (text : String) :
    (writtenParts text.toList).filter (· ≠ ".") = (Path.ofString text).parts := by
  have hpieces (pieces : List (List Char)) :
      ((pieces.filter (· ≠ [])).map String.ofList).filter (· ≠ ".") =
        (pieces.filter fun piece => piece ≠ [] ∧ piece ≠ ['.']).map String.ofList := by
    have hdot (piece : List Char) : String.ofList piece = "." ↔ piece = ['.'] := by
      rw [← String.toList_inj, String.toList_ofList]
      rfl
    rw [List.filter_map, List.filter_filter]
    congr 1
    refine List.filter_congr fun piece _ => ?_
    simp only [Function.comp_apply, ne_eq, hdot, Bool.decide_and, Bool.and_comm]
  rw [writtenParts, Path.ofString]
  split
  · rw [List.filter_append, hpieces, List.filter_cons_of_neg (by simp), List.filter_nil,
      List.append_nil]
  · exact hpieces _

/-- A path in normal form can be handed to the system if it can be as it is written. -/
theorem checkText_toString_ofString {text : String} (hne : text ≠ "")
    (hchecked : checkText text = .ok ()) :
    checkText (Path.ofString text).toString = .ok () := by
  have hsmaller : (Path.ofString text).toString.utf8ByteSize ≤ text.utf8ByteSize := by
    have hsize := Text.utf8ByteSize_ofList_le (Path.toString_ofString_sublist hne)
    rwa [String.ofList_toList, String.ofList_toList] at hsize
  have hnull := Path.mem_toString_ofString_iff (c := '\x00') (by decide) (by decide) text
  rw [checkText] at hchecked ⊢
  split at hchecked
  · cases hchecked
  · next hnone =>
    split at hchecked
    · cases hchecked
    · next hshort =>
      rw [if_neg, if_neg (by omega)]
      rwa [List.contains_iff_mem, hnull, ← List.contains_iff_mem]

/-- A file that stands where a path leads to as it is written can be read. -/
theorem readBytes_of_status {text : String} {bytes : List UInt8}
    (hstatus : tree.status text = .ok (.file bytes)) :
    tree.readBytes (Path.ofString text) = .ok bytes := by
  obtain ⟨accepted, hchecked, hfound⟩ := of_bind_ok hstatus
  split at hfound
  · cases hfound
  · next hne =>
    obtain ⟨place, hwalk, hentry⟩ := of_bind_ok hfound
    have hlocate : tree.locate (Path.ofString text) = .ok place := by
      rw [locate, checkText_toString_ofString hne hchecked, ← filter_writtenParts]
      exact walk_filter hwalk
    split at hentry
    · next entry hheld =>
      obtain rfl := Except.ok.inj hentry
      rw [readBytes, hlocate]
      simp only [Bind.bind, Except.bind, hheld]
      rfl
    · cases hentry

/-- No walk meets a null character. -/
theorem walk_ne_nullInName (tree : FileTree) (start : Location) (parts : List String) :
    tree.walk start parts ≠ .error .nullInName := by
  intro hwalk
  induction parts generalizing start with
  | nil => cases hwalk
  | cons part rest ih =>
    rw [walk] at hwalk
    split at hwalk
    · cases hwalk
    · cases hwalk
    · split at hwalk
      · cases hwalk
      · exact ih _ hwalk

/-- A file is refused for a null character exactly if there is one in the text of its path. -/
theorem readBytes_eq_nullInName_iff (tree : FileTree) (path : Path) :
    tree.readBytes path = .error .nullInName ↔ '\x00' ∈ path.toString.toList := by
  constructor
  · intro hread
    rcases of_bind_error hread with hlocate | ⟨place, -, hentry⟩
    · rcases of_bind_error hlocate with hchecked | ⟨accepted, -, hwalk⟩
      · rw [checkText] at hchecked
        split at hchecked
        · next hnull => exact List.contains_iff_mem.mp hnull
        · split at hchecked <;> cases hchecked
      · exact absurd hwalk (walk_ne_nullInName tree _ _)
    · split at hentry <;> cases hentry
  · intro hnull
    have hchecked : checkText path.toString = .error .nullInName := by
      rw [checkText, if_pos (List.contains_iff_mem.mpr hnull)]
    rw [readBytes, locate, hchecked]
    rfl

/-- A file that is refused has no text. -/
theorem readText_of_refused {path : Path} {error : FileError}
    (hread : tree.readBytes path = .error error) : tree.readText path = .error (.file error) := by
  rw [readText, hread]
  rfl

/-- The text of a file is that of its bytes. -/
theorem readText_of_readBytes {path : Path} {bytes : List UInt8}
    (hread : tree.readBytes path = .ok bytes) :
    tree.readText path = ((Text.ofFile bytes).mapError .encoding).map String.ofList := by
  rw [readText, hread]
  cases htext : Text.ofFile bytes with
  | error malformed => simp only [Except.mapError, Bind.bind, Except.bind, Except.map, htext]
  | ok text => simp only [Except.mapError, Bind.bind, Except.bind, Except.map, htext]; rfl

end FileTree

/-- A source has no answer for its name exactly if there is a null character in it. -/
theorem Source.reader_eq_nullInName_iff (tree : FileTree) (file : String) :
    reader tree file = .error .nullInName ↔ '\x00' ∈ file.toList := by
  have hwritten := Path.mem_toString_ofString_iff (c := '\x00') (by decide) (by decide) file
  rw [← hwritten, ← FileTree.readBytes_eq_nullInName_iff tree, reader]
  cases hread : tree.readBytes (Path.ofString file) with
  | error error =>
    rw [FileTree.readText_of_refused hread]
    cases error <;> simp [Except.mapError, unreadable]
  | ok bytes =>
    rw [FileTree.readText_of_readBytes hread]
    cases Text.ofFile bytes <;> simp [Except.mapError, Except.map, unreadable]

end ILGraft

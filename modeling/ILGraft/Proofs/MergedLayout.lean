import ILGraft.Proofs.OnePassMerge
import ILGraft.Proofs.Sites

/-!
# The layout of merged lines

Merged lines are the lines of the document, in order and unchanged, with one contiguous copy of
each snippet between them. A copy stands before the second mark of the pair around its snippet,
and only copies of later snippets of the same file and place come between the two.
-/

namespace ILGraft

/-- One stretch of merged lines. -/
inductive Piece
  /-- A line of the document, with its position there. -/
  | original (position : Nat) (text : String)
  /-- All that a snippet adds. -/
  | copy (snippet : Snippet)
deriving DecidableEq

namespace Piece

/-- The lines of a piece. -/
def lines : Piece → List String
  | original _ text => [text]
  | copy snippet => snippet.annotated

/-- The line of the document that a piece is, with its position. -/
def original? : Piece → Option (String × Nat)
  | original position text => some (text, position)
  | copy _ => none

/-- The snippet that a piece is a copy of. -/
def copy? : Piece → Option Snippet
  | original .. => none
  | copy snippet => some snippet

end Piece

/-- A way to read merged lines as the lines of a document with copies of snippets between them. -/
structure Weaving (document : Document) (snippets : List Snippet) (merged : List String) where
  /-- The pieces, in order. -/
  pieces : List Piece
  /-- The merged lines are the lines of the pieces, and nothing else. -/
  merged_eq : merged = pieces.flatMap Piece.lines
  /-- The lines of the document come in order and unchanged, each once. -/
  originals : pieces.filterMap Piece.original? = document.texts.zipIdx
  /-- There is one copy for each of the snippets. -/
  copies : (pieces.filterMap Piece.copy?).Perm snippets

/-- The copy of a snippet stands before the second mark of the only pair around the snippet. Nothing
comes between the two but copies of snippets that belong there too and come later in the file. -/
def Weaving.Settles {document : Document} {snippets : List Snippet} {merged : List String}
    (weaving : Weaving document snippets merged) (snippet : Snippet) : Prop :=
  ∃ x y front between text back, document.straddling snippet = [(x, y)] ∧
    weaving.pieces = front ++ .copy snippet :: between ++ .original y.position text :: back ∧
    ∀ piece ∈ between, ∃ other w, piece = .copy other ∧ other.file = snippet.file ∧
      snippet.last < other.first ∧ document.straddling other = [(w, y)]

namespace Splice

/-- The lines of a document as pieces. -/
def originals (texts : List String) : List Piece :=
  texts.zipIdx.map fun (text, position) => .original position text

/-- The copy of a snippet as the piece that it is. -/
def copied (snippet : Snippet) : List Piece :=
  [.copy snippet]

/-- The pieces of merged lines. -/
def piecesOf (placements : List Placement) (texts : List String) : List Piece :=
  weave copied placements (originals texts)

private theorem flatMap_lines_copiesAt (placements : List Placement) (position : Nat) :
    (copiesAt copied placements position).flatMap Piece.lines =
      copiesAt Snippet.annotated placements position := by
  rw [copiesAt, copiesAt, List.flatMap_assoc]
  simp only [copied, List.flatMap_cons, List.flatMap_nil, List.append_nil, Piece.lines]

private theorem flatMap_lines_thread (placements : List Placement) (position : Nat)
    (texts : List String) :
    (thread copied placements position
        ((texts.zipIdx position).map fun (text, position) => Piece.original position text)).flatMap
        Piece.lines =
      thread Snippet.annotated placements position texts := by
  induction texts generalizing position with
  | nil => rfl
  | cons text rest ih =>
    rw [List.zipIdx_cons, List.map_cons, thread, List.flatMap_append, List.flatMap_cons, ih, thread,
      flatMap_lines_copiesAt]
    rfl

/-- The pieces in front of a line of the document are the merged lines in front of it. -/
theorem flatMap_lines_upto (placements before : List Placement) (texts : List String)
    (position : Nat) :
    (thread copied placements 0 (originals texts)
        ++ copiesAt copied before position).flatMap Piece.lines =
      thread Snippet.annotated placements 0 texts ++ copiesAt Snippet.annotated before position := by
  rw [List.flatMap_append, originals, flatMap_lines_thread, flatMap_lines_copiesAt]

/-- The lines of the pieces are the merged lines. -/
theorem piecesOf_flatMap_lines (placements : List Placement) (texts : List String) :
    (piecesOf placements texts).flatMap Piece.lines =
      weave Snippet.annotated placements texts := by
  have hlength : (originals texts).length = texts.length := by
    rw [originals, List.length_map, List.length_zipIdx]
  rw [piecesOf, weave, flatMap_lines_upto, hlength, weave]

/-- The lines of the document are all there, in order. -/
theorem piecesOf_filterMap_original? (placements : List Placement) (texts : List String) :
    (piecesOf placements texts).filterMap Piece.original? = texts.zipIdx := by
  have hcopies (position : Nat) :
      (copiesAt copied placements position).filterMap
        Piece.original? = [] := by
    rw [List.filterMap_eq_nil_iff]
    intro piece hpiece
    obtain ⟨placement, _, _, hcopy⟩ := mem_copiesAt.mp hpiece
    rw [List.mem_singleton.mp hcopy, Piece.original?]
  have hthread (position : Nat) (pieces : List Piece) :
      (thread copied placements position pieces).filterMap
        Piece.original? = pieces.filterMap Piece.original? := by
    induction pieces generalizing position with
    | nil => rfl
    | cons piece rest ih =>
      rw [thread, List.filterMap_append, hcopies, List.nil_append, List.filterMap_cons,
        List.filterMap_cons, ih]
  have horiginals : (originals texts).filterMap Piece.original? = texts.zipIdx := by
    rw [originals, List.filterMap_map]
    exact List.filterMap_some
  rw [piecesOf, weave, List.filterMap_append, hthread, hcopies, List.append_nil, horiginals]

private theorem filterMap_copy?_copiesAt (placements : List Placement) (position : Nat) :
    (copiesAt copied placements position).filterMap Piece.copy? =
      (placements.filter fun placement => placement.index = (position : Int)).map
        Placement.snippet := by
  rw [copiesAt]
  induction placements.filter fun placement => placement.index = (position : Int) with
  | nil => rfl
  | cons placement rest ih =>
    rw [List.flatMap_cons, List.filterMap_append, ih, List.map_cons]
    rfl

/-- Each placement puts in one copy, if all of them lie inside the document. -/
theorem piecesOf_filterMap_copy? {placements : List Placement} {texts : List String}
    (hfits : ∀ placement ∈ placements, fits texts.length placement = true) :
    ((piecesOf placements texts).filterMap Piece.copy?).Perm
      (placements.map Placement.snippet) := by
  have hindex : ∀ placement ∈ placements,
      0 ≤ placement.index ∧ placement.index ≤ (texts.length : Int) := by
    intro placement hmem
    simpa only [fits, Bool.and_eq_true, decide_eq_true_eq] using hfits placement hmem
  have hupto (pieces : List Piece) (hpieces : pieces.filterMap Piece.copy? = []) :
      ((thread copied placements 0 pieces ++
          copiesAt copied placements pieces.length).filterMap
        Piece.copy?).Perm
        ((placements.filter fun placement => placement.index ≤ (pieces.length : Int)).map
          Placement.snippet) := by
    induction pieces using List.reverseRecOn with
    | nil =>
      have hsame : (placements.filter fun placement => placement.index = ((0 : Nat) : Int)) =
          placements.filter fun placement => placement.index ≤ ((0 : Nat) : Int) := by
        apply List.filter_congr
        intro placement hmem
        have := hindex placement hmem
        rw [decide_eq_decide]
        omega
      rw [thread, List.nil_append, List.length_nil, filterMap_copy?_copiesAt, hsame]
    | append_singleton pieces piece ih =>
      rw [List.filterMap_append, List.append_eq_nil_iff] at hpieces
      have hbefore : (placements.filter fun placement =>
          placement.index < ((pieces ++ [piece]).length : Int)) =
          placements.filter fun placement => placement.index ≤ (pieces.length : Int) := by
        apply List.filter_congr
        intro placement _
        rw [List.length_append, List.length_singleton, decide_eq_decide]
        omega
      have hsplit := (filter_le_perm placements (pieces ++ [piece]).length).map Placement.snippet
      rw [hbefore, List.map_append] at hsplit
      rw [thread_append_singleton, List.filterMap_append, List.filterMap_append, hpieces.2,
        List.append_nil, filterMap_copy?_copiesAt]
      exact ((ih hpieces.1).append_right _).trans hsplit.symm
  have hnone : (originals texts).filterMap Piece.copy? = [] := by
    rw [List.filterMap_eq_nil_iff]
    intro piece hpiece
    obtain ⟨_, _, rfl⟩ := List.mem_map.mp hpiece
    rfl
  have hall : (placements.filter fun placement =>
      placement.index ≤ ((originals texts).length : Int)) = placements := by
    rw [List.filter_eq_self]
    intro placement hmem
    rw [originals, List.length_map, List.length_zipIdx, decide_eq_true_eq]
    exact (hindex placement hmem).2
  have hperm := hupto (originals texts) hnone
  rwa [hall] at hperm

private theorem originals_eq_append {texts : List String} {position : Nat} {text : String}
    (htext : texts[position]? = some text) :
    ∃ rest, originals texts =
        originals (texts.take position) ++ .original position text :: rest ∧
      (originals (texts.take position)).length = position := by
  obtain ⟨hlt, htext⟩ := List.getElem?_eq_some_iff.mp htext
  refine ⟨((texts.drop (position + 1)).zipIdx (position + 1)).map
    fun (text, position) => Piece.original position text, ?_, ?_⟩
  · conv_lhs =>
      rw [← List.take_append_drop position texts, List.drop_eq_getElem_cons hlt, htext]
    simp only [originals, List.zipIdx_append, List.zipIdx_cons, List.map_append, List.map_cons,
      List.length_take_of_le (Nat.le_of_lt hlt), Nat.zero_add]
  · rw [originals, List.length_map, List.length_zipIdx, List.length_take_of_le (Nat.le_of_lt hlt)]

/-- Where a line of the document stands among the pieces. -/
theorem piecesOf_eq_append_original (placements : List Placement) {texts : List String}
    {position : Nat} {text : String} (htext : texts[position]? = some text) :
    ∃ back, piecesOf placements texts =
      thread copied placements 0 (originals (texts.take position))
        ++ copiesAt copied placements position ++ .original position text :: back := by
  obtain ⟨rest, hsplit, hlength⟩ := originals_eq_append htext
  rw [piecesOf, hsplit, weave_append, hlength, beyond]
  exact ⟨_, rfl⟩

/-- Where the copy of a placed snippet stands among the pieces. Only copies of later placements at
the same line come between it and that line. -/
theorem piecesOf_eq_append_copy (before after : List Placement) {placement : Placement}
    {texts : List String} {position : Nat} {text : String}
    (hindex : placement.index = (position : Int)) (htext : texts[position]? = some text) :
    ∃ back, piecesOf (before ++ placement :: after) texts =
      thread copied (before ++ placement :: after) 0 (originals (texts.take position))
        ++ copiesAt copied before position
        ++ .copy placement.snippet ::
          ((after.filter fun later => later.index = (position : Int)).map
            fun later => .copy later.snippet)
        ++ .original position text :: back := by
  obtain ⟨back, hpieces⟩ := piecesOf_eq_append_original (before ++ placement :: after) htext
  have hlater : copiesAt copied after position =
      (after.filter fun later => later.index = (position : Int)).map
        fun later => Piece.copy later.snippet :=
    List.map_eq_flatMap.symm
  refine ⟨back, ?_⟩
  rw [hpieces, copiesAt_append_cons copied before after hindex, hlater, copied]
  simp only [List.append_assoc, List.cons_append, List.nil_append]

end Splice

namespace Document

/-- A document has as many texts as markers. -/
theorem length_texts (document : Document) : document.texts.length = document.markers.length := by
  rw [texts, markers, List.length_map, List.length_map]

end Document

namespace Placed

/-- Placed snippets stand inside the document. -/
theorem fits {document : Document} {placements : List Placement}
    (hplaced : Placed document placements) :
    ∀ placement ∈ placements, Splice.fits document.texts.length placement = true := by
  intro placement hmem
  obtain ⟨hnonneg, hlt⟩ := (hplaced.sited placement hmem).lt_length
  simp only [Splice.fits, Document.length_texts, Bool.and_eq_true, decide_eq_true_eq]
  omega

/-- The merged lines of placed snippets, in pieces. -/
def weaving {document : Document} {placements : List Placement}
    (hplaced : Placed document placements) :
    Weaving document (placements.map Placement.snippet)
      (Splice.weave Snippet.annotated placements document.texts) where
  pieces := Splice.piecesOf placements document.texts
  merged_eq := (Splice.piecesOf_flatMap_lines placements document.texts).symm
  originals := Splice.piecesOf_filterMap_original? placements document.texts
  copies := Splice.piecesOf_filterMap_copy? hplaced.fits

/-- Each placed snippet has its copy in the right place. -/
theorem weaving_settles {document : Document} {placements : List Placement}
    (hplaced : Placed document placements) {snippet : Snippet}
    (hsnippet : snippet ∈ placements.map Placement.snippet) :
    hplaced.weaving.Settles snippet := by
  obtain ⟨placement, hmem, rfl⟩ := List.mem_map.mp hsnippet
  obtain ⟨before, after, rfl⟩ := List.append_of_mem hmem
  obtain ⟨⟨x, y⟩, hpair, hindex⟩ := hplaced.sited placement hmem
  obtain ⟨-, hsecond, -⟩ := Document.of_mem_straddling (hpair ▸ List.mem_singleton_self (x, y))
  obtain ⟨_, hmarker, _, _, hfile⟩ := Document.of_mem_marksOf hsecond
  have hlt := (List.getElem?_eq_some_iff.mp hmarker).1
  rw [← Document.length_texts] at hlt
  obtain ⟨back, hpieces⟩ :=
    Splice.piecesOf_eq_append_copy before after hindex (List.getElem?_eq_getElem hlt)
  refine ⟨x, y, _, _, _, back, hpair, hpieces, fun piece hpiece => ?_⟩
  obtain ⟨later, hlater, rfl⟩ := List.mem_map.mp hpiece
  obtain ⟨hafter, hsame⟩ := List.mem_filter.mp hlater
  have hlatermem : later ∈ before ++ placement :: after :=
    List.mem_append_right _ (List.mem_cons_of_mem _ hafter)
  obtain ⟨⟨w, z⟩, hlaterpair, hlaterindex⟩ := hplaced.sited later hlatermem
  obtain ⟨-, hlatersecond, -⟩ :=
    Document.of_mem_straddling (hlaterpair ▸ List.mem_singleton_self (w, z))
  have hposition : z.position = y.position := by
    have hat := of_decide_eq_true hsame
    dsimp only at hlaterindex hat
    omega
  obtain ⟨_, hlatermarker, hlaternumber, _, hlaterfile⟩ := Document.of_mem_marksOf hlatersecond
  have hz : z = y := by
    cases z
    cases y
    simp_all
  have hsamefile : later.snippet.file = placement.snippet.file := by
    rw [← hlaterfile, ← hfile, hposition]
  have hordered := hplaced.discovered.ordered
  rw [List.map_append, List.map_cons, List.pairwise_append, List.pairwise_cons] at hordered
  have hprecedes := hordered.2.1.1 later.snippet (List.mem_map_of_mem hafter) hsamefile.symm
  exact ⟨later.snippet, w, rfl, hsamefile, by omega, hz ▸ hlaterpair⟩

end Placed

namespace Injection

variable {document : Document} {read : Reader} {table : LanguageTable}

/-- Collected snippets that have all been located are placed. -/
theorem placed_of_locateAll {collection : Collection} {placements : List Placement}
    (hcollection : Collection.ofDocument (m := Id) document table read = .ok collection)
    (hplacements : Placement.locateAll document collection.snippets = .ok placements) :
    Placed document placements :=
  .of_locateAll (Collection.discovered hcollection) hplacements

/-- Once all snippets are located, nothing can go wrong: their copies are woven in. -/
theorem run_of_locateAll {collection : Collection} {placements : List Placement}
    (hcollection : Collection.ofDocument (m := Id) document table read = .ok collection)
    (hplacements : Placement.locateAll document collection.snippets = .ok placements) :
    run document read table =
      .ok (.merged (Splice.weave Snippet.annotated placements document.texts) placements
        collection.warnings) := by
  have hplaced := placed_of_locateAll hcollection hplacements
  simp only [run, hcollection, ofCollection, hplacements, Splice.merge_eq_weave hplaced.fits]

/-- A run that merges has collected its snippets and located all of them. -/
theorem eq_merged_of_run {lines : List String} {placements : List Placement}
    {warnings : List Diagnostic}
    (hrun : run document read table = .ok (.merged lines placements warnings)) :
    ∃ collection, Collection.ofDocument (m := Id) document table read = .ok collection ∧
      Placement.locateAll document collection.snippets = .ok placements ∧
      lines = Splice.weave Snippet.annotated placements document.texts ∧
      warnings = collection.warnings := by
  cases hcollection : Collection.ofDocument (m := Id) document table read with
  | error stop => cases stop <;> simp only [run, hcollection, Except.ok.injEq, reduceCtorEq] at hrun
  | ok collection =>
    cases hplacements : Placement.locateAll document collection.snippets with
    | error fault =>
      simp only [run, hcollection, ofCollection, hplacements, Except.ok.injEq, reduceCtorEq] at hrun
    | ok found =>
      rw [run_of_locateAll hcollection hplacements] at hrun
      simp only [Except.ok.injEq, merged.injEq] at hrun
      obtain ⟨rfl, rfl, rfl⟩ := hrun
      exact ⟨collection, rfl, hplacements, rfl, rfl⟩

/-- No run refuses a placement that it has made itself. -/
theorem run_ne_outOfRange (fault : OutOfRange) :
    run document read table ≠ .error (.outOfRange fault) := by
  intro hrun
  cases hcollection : Collection.ofDocument (m := Id) document table read with
  | error stop => cases stop <;> simp [run, hcollection] at hrun
  | ok collection =>
    cases hplacements : Placement.locateAll document collection.snippets with
    | error misplaced => simp [run, hcollection, ofCollection, hplacements] at hrun
    | ok placements =>
      rw [run_of_locateAll hcollection hplacements] at hrun
      cases hrun

/-- A document with two marks of one source file. -/
def twoMarks : Document where
  lines := [
    ⟨".line 1,1 : 1,2 'A.cs'", ⟨some "A.cs", 1⟩, by decide +kernel⟩,
    ⟨"nop", ⟨none, 0⟩, by decide +kernel⟩,
    ⟨".line 9,9 : 1,2 ''", ⟨none, 9⟩, by decide +kernel⟩,
    ⟨"ret", ⟨none, 0⟩, by decide +kernel⟩]

/-- A source with two blocks between the lines that these marks give. -/
def twoBlocks : Reader := fun _ => .ok "a\n#if IL\nadd\n#endif\n#if IL\n// b\n#endif\n"

/-- Both blocks belong before the second mark. -/
def twoPlacements : List Placement :=
  [⟨⟨"A.cs", 3, 3, ["add"], by decide⟩, 2⟩, ⟨⟨"A.cs", 6, 6, ["// b"], by decide⟩, 2⟩]

/-- The lines with both blocks spliced in. -/
def twoCopies : List String :=
  [".line 1,1 : 1,2 'A.cs'", "nop",
    "// Snippet from A.cs:3", ".line 3,3 : 1,4 'A.cs'", "add",
    "// Snippet from A.cs:6", "// skip sequence marker", "// b",
    ".line 9,9 : 1,2 ''", "ret"]

/-- Both blocks are merged. -/
theorem run_twoBlocks :
    run twoMarks twoBlocks [] = .ok (.merged twoCopies twoPlacements []) := by
  have hcollection : Collection.ofDocument (m := Id) twoMarks [] twoBlocks =
      .ok ⟨twoPlacements.map Placement.snippet, []⟩ := rfl
  have hplacements : Placement.locateAll twoMarks (twoPlacements.map Placement.snippet) =
      .ok twoPlacements := rfl
  have hlines : Splice.weave Snippet.annotated twoPlacements twoMarks.texts = twoCopies := by
    decide +kernel
  rw [← hlines]
  exact run_of_locateAll hcollection hplacements

/-- Merged lines are the lines of the document with one copy of every block of every source file,
each in its right place. Merging itself never fails. -/
theorem run_weaves (document : Document) (read : Reader) (table : LanguageTable) :
    (∀ lines placements warnings,
      run document read table = .ok (.merged lines placements warnings) →
      ∃ (blocks : String → List Snippet)
        (weaving : Weaving document (document.sourceFiles.flatMap blocks) lines),
        (∀ file ∈ document.sourceFiles, ∃ text language, read file = .ok text ∧
          table.scannedAs file = some language ∧
          Block.scan text file language = .ok (blocks file)) ∧
        (document.sourceFiles.flatMap blocks).Nodup ∧
        ∀ snippet ∈ document.sourceFiles.flatMap blocks, weaving.Settles snippet) ∧
    ∀ fault, run document read table ≠ .error (.outOfRange fault) := by
  refine ⟨fun lines placements warnings hrun => ?_, fun fault => run_ne_outOfRange fault⟩
  obtain ⟨collection, hcollection, hplacements, rfl, -⟩ := eq_merged_of_run hrun
  obtain ⟨hscanned, hblocks⟩ := Collection.ofFiles_ok hcollection
  have hplaced := placed_of_locateAll hcollection hplacements
  have hsnippets : placements.map Placement.snippet =
      document.sourceFiles.flatMap (Collection.blocksOf table read) := by
    rw [(Placement.locateAll_ok hplacements).1, hblocks]
  have hwoven : ∃ weaving : Weaving document (placements.map Placement.snippet)
      (Splice.weave Snippet.annotated placements document.texts),
      (placements.map Placement.snippet).Nodup ∧
        ∀ snippet ∈ placements.map Placement.snippet, weaving.Settles snippet :=
    ⟨hplaced.weaving, hplaced.discovered.nodup, fun _ hsnippet => hplaced.weaving_settles hsnippet⟩
  rw [hsnippets] at hwoven
  obtain ⟨weaving, hnodup, hsettles⟩ := hwoven
  exact ⟨Collection.blocksOf table read, weaving, hscanned, hnodup, hsettles⟩

/-- The two blocks settle in the document of two marks. -/
theorem run_weaves_twoBlocks :
    run twoMarks twoBlocks [] = .ok (.merged twoCopies twoPlacements []) ∧
    ∃ (blocks : String → List Snippet)
      (weaving : Weaving twoMarks (twoMarks.sourceFiles.flatMap blocks) twoCopies),
      ∀ snippet ∈ twoMarks.sourceFiles.flatMap blocks, weaving.Settles snippet := by
  refine ⟨run_twoBlocks, ?_⟩
  obtain ⟨blocks, weaving, -, -, hsettles⟩ :=
    (run_weaves twoMarks twoBlocks []).1 twoCopies twoPlacements [] run_twoBlocks
  exact ⟨blocks, weaving, hsettles⟩

end Injection

end ILGraft

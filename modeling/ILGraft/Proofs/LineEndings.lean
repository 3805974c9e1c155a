import ILGraft.Proofs.RenderedDocuments
import ILGraft.Proofs.Utf8Encoding
import ILGraft.Proofs.WrittenPaths

/-!
# Line endings and byte order marks

A source file may spell its lines in several ways: with any of three endings, with or without an
ending behind the last line, and with or without a byte order mark. Reading drops the mark and
unifies the endings, so every line keeps its number. Blocks are therefore found in the same lines
however the file is spelled, and a block that is left open is reported by the same line.
-/

namespace ILGraft

namespace Text

/-- How the lines of a text end. -/
inductive LineEnding
  /-- By a line feed. -/
  | lineFeed
  /-- By a carriage return. -/
  | carriageReturn
  /-- By a carriage return and a line feed. -/
  | both
deriving Repr, DecidableEq

/-- The characters of an ending. -/
def LineEnding.chars : LineEnding → List Char
  | .lineFeed => ['\n']
  | .carriageReturn => ['\r']
  | .both => ['\r', '\n']

/-- The text of lines that all end alike. The last one may be left without its ending. -/
def joinLines (ending : LineEnding) (terminated : Bool) : List String → List Char
  | [] => []
  | [line] => line.toList ++ if terminated then ending.chars else []
  | line :: next :: rest =>
    line.toList ++ (ending.chars ++ joinLines ending terminated (next :: rest))

/-- The character that a byte order mark encodes. -/
def orderMark : Char := '\uFEFF'

/-- The bytes of a file with the given lines, behind a byte order mark or without one. -/
def spell (marked : Bool) (ending : LineEnding) (terminated : Bool) (lines : List String) :
    List UInt8 :=
  (if marked then [0xef, 0xbb, 0xbf] else []) ++ Utf8.encode (joinLines ending terminated lines)

/-- Text without carriage returns stays as it is when line endings are unified. -/
theorem unifyNewlines_append {front : List Char} (hreturn : '\r' ∉ front) (rest : List Char) :
    unifyNewlines (front ++ rest) = front ++ unifyNewlines rest := by
  induction front with
  | nil => rfl
  | cons c front ih =>
    obtain ⟨hc, hfront⟩ := not_or.mp (mt List.mem_cons.mpr hreturn)
    rw [List.cons_append, unifyNewlines.eq_4 c _ (fun _ heq => absurd heq.symm hc) (Ne.symm hc),
      ih hfront, List.cons_append]

/-- Every ending becomes a line feed. A carriage return must not be taken for the first half of an
ending, which it is in front of a line feed. -/
theorem unifyNewlines_chars (ending : LineEnding) {rest : List Char}
    (hrest : ending = .carriageReturn → '\n' ∉ rest) :
    unifyNewlines (ending.chars ++ rest) = '\n' :: unifyNewlines rest := by
  cases ending with
  | lineFeed =>
    apply unifyNewlines.eq_4
    · intro _ hreturn
      exact absurd hreturn (by decide)
    · decide
  | carriageReturn =>
    apply unifyNewlines.eq_3
    rintro _ rfl
    exact hrest rfl List.mem_cons_self
  | both => rfl

/-- Lines that end by carriage returns alone hold no line feed. -/
theorem lineFeed_not_mem_joinLines {terminated : Bool} {lines : List String}
    (hlines : ∀ line ∈ lines, Document.OneLine line) :
    '\n' ∉ joinLines .carriageReturn terminated lines := by
  have hending : '\n' ∉ LineEnding.carriageReturn.chars := by decide
  induction lines with
  | nil => exact List.not_mem_nil
  | cons line rest ih =>
    obtain ⟨⟨-, hfeed⟩, hrest⟩ := List.forall_mem_cons.mp hlines
    cases rest with
    | nil => cases terminated <;> simp [joinLines, hfeed, hending]
    | cons next rest =>
      have hlater := ih hrest
      simp [joinLines, hfeed, hending, hlater]

/-- Whatever ending lines have, they end by line feeds once endings are unified. -/
theorem unifyNewlines_joinLines (ending : LineEnding) (terminated : Bool) {lines : List String}
    (hlines : ∀ line ∈ lines, Document.OneLine line) :
    unifyNewlines (joinLines ending terminated lines) = joinLines .lineFeed terminated lines := by
  induction lines with
  | nil => rfl
  | cons line rest ih =>
    obtain ⟨⟨hreturn, -⟩, hrest⟩ := List.forall_mem_cons.mp hlines
    cases rest with
    | nil =>
      rw [joinLines, joinLines, unifyNewlines_append hreturn]
      cases terminated with
      | false => rfl
      | true =>
        have hlast : unifyNewlines (ending.chars ++ []) = ['\n'] :=
          unifyNewlines_chars ending fun _ => List.not_mem_nil
        rw [List.append_nil] at hlast
        rw [if_pos rfl, if_pos rfl, hlast]
        rfl
    | cons next rest =>
      have hfeed (hending : ending = .carriageReturn) :
          '\n' ∉ joinLines ending terminated (next :: rest) := by
        rw [hending]
        exact lineFeed_not_mem_joinLines hrest
      rw [joinLines, joinLines, unifyNewlines_append hreturn,
        unifyNewlines_chars ending hfeed, ih hrest]
      rfl

/-- A line without line breaks is a text of one line, if it is not empty. -/
theorem lines_eq_singleton {line : List Char} (hne : line ≠ []) (hreturn : '\r' ∉ line)
    (hfeed : '\n' ∉ line) : lines line = [line] := by
  induction line with
  | nil => exact absurd rfl hne
  | cons c rest ih =>
    obtain ⟨hc, hrest⟩ := not_or.mp (mt List.mem_cons.mpr hreturn)
    obtain ⟨hc', hrest'⟩ := not_or.mp (mt List.mem_cons.mpr hfeed)
    rw [lines.eq_5 c _ (fun _ heq => absurd heq.symm hc) (Ne.symm hc) (Ne.symm hc')]
    cases rest with
    | nil => rfl
    | cons next rest => rw [ih (List.cons_ne_nil _ _) hrest hrest']

/-- Lines that end by line feeds are the lines of their text. The last one needs its ending if it is
empty. -/
theorem lines_joinLines {terminated : Bool} {lines : List String}
    (hlines : ∀ line ∈ lines, Document.OneLine line)
    (hlast : terminated = false → lines.getLast? ≠ some "") :
    Text.lines (joinLines .lineFeed terminated lines) = lines.map String.toList := by
  induction lines with
  | nil => rfl
  | cons line rest ih =>
    obtain ⟨⟨hreturn, hfeed⟩, hrest⟩ := List.forall_mem_cons.mp hlines
    cases rest with
    | nil =>
      rw [joinLines, List.map_singleton]
      cases terminated with
      | false =>
        have hne : line.toList ≠ [] := by
          intro hempty
          apply hlast rfl
          rw [List.getLast?_singleton, String.toList_eq_nil_iff.mp hempty]
        rw [if_neg Bool.false_ne_true, List.append_nil, lines_eq_singleton hne hreturn hfeed]
      | true => exact lines_append_lineFeed hreturn hfeed []
    | cons next rest =>
      have hlater : Text.lines (joinLines .lineFeed terminated (next :: rest)) =
          (next :: rest).map String.toList := by
        apply ih hrest
        intro hterminated
        rw [← List.getLast?_cons_cons (a := line)]
        exact hlast hterminated
      rw [joinLines, List.map_cons, ← hlater]
      exact lines_append_lineFeed hreturn hfeed _

/-- Unifying line endings leaves the lines of a text as they are. -/
theorem lines_unifyNewlines (text : List Char) : lines (unifyNewlines text) = lines text := by
  fun_induction unifyNewlines text with
  | case1 => rfl
  | case2 rest ih => rw [lines.eq_4, lines.eq_2, ih]
  | case3 rest hreturn ih => rw [lines.eq_4, lines.eq_3 rest hreturn, ih]
  | case4 c rest hboth hreturn ih =>
    by_cases hfeed : c = '\n'
    · rw [hfeed, lines.eq_4, lines.eq_4, ih]
    · rw [lines.eq_5 c rest hboth hreturn hfeed,
        lines.eq_5 c _ (fun _ heq => absurd heq hreturn) hreturn hfeed, ih]

/-- A file is read with unified line endings, unless its text begins with what would be taken for a
byte order mark. -/
theorem ofFile_encode {text : List Char} (hmark : text.head? ≠ some orderMark) :
    ofFile (Utf8.encode text) = .ok (unifyNewlines text) := by
  have hdecode := Utf8.decode_encode text
  unfold ofFile
  split
  · next hbytes =>
    rw [hbytes] at hdecode
    cases hdecode
  · next hbytes =>
    rw [hbytes] at hdecode
    cases hdecode
  · next rest hbytes =>
    rw [hbytes, Utf8.decode, Utf8.decodeFrom_three 0 rest (by decide) (by decide) (by decide)
      (by decide)] at hdecode
    cases hrest : Utf8.decodeFrom 3 rest with
    | error malformed => rw [hrest] at hdecode; cases hdecode
    | ok more =>
      rw [hrest] at hdecode
      cases hdecode
      exact absurd rfl hmark
  · rw [hdecode]
    rfl

/-- A byte order mark is dropped. -/
theorem ofFile_marked (text : List Char) :
    ofFile ([0xef, 0xbb, 0xbf] ++ Utf8.encode text) = .ok (unifyNewlines text) := by
  have hdecode := Utf8.decode_encode text
  simp only [List.cons_append, List.nil_append, ofFile, hdecode]
  rfl

/-- Joined lines begin with a byte order mark only if the first of them does. -/
theorem head?_joinLines_ne {ending : LineEnding} {terminated : Bool} {lines : List String}
    (hfirst : ∀ line ∈ lines.head?, line.toList.head? ≠ some orderMark) :
    (joinLines ending terminated lines).head? ≠ some orderMark := by
  have hending (rest : List Char) : (ending.chars ++ rest).head? ≠ some orderMark := by
    cases ending <;> simp [LineEnding.chars, orderMark]
  have hbegins {line : String} {rest : List Char} (hline : line.toList.head? ≠ some orderMark)
      (hrest : rest.head? ≠ some orderMark) : (line.toList ++ rest).head? ≠ some orderMark := by
    cases hchars : line.toList with
    | nil => exact hrest
    | cons c more => rwa [hchars] at hline
  cases lines with
  | nil => exact fun hnone => nomatch hnone
  | cons line rest =>
    have hline := hfirst line rfl
    cases rest with
    | nil =>
      apply hbegins hline
      cases terminated with
      | false => exact fun hnone => nomatch hnone
      | true => exact List.append_nil ending.chars ▸ hending []
    | cons next rest => exact hbegins hline (hending _)

/-- However a file spells its lines, it is read as these lines, each ended by a line feed. -/
theorem ofFile_spell (marked : Bool) (ending : LineEnding) (terminated : Bool)
    {lines : List String} (hlines : ∀ line ∈ lines, Document.OneLine line)
    (hfirst : ∀ line ∈ lines.head?, line.toList.head? ≠ some orderMark) :
    ofFile (spell marked ending terminated lines) = .ok (joinLines .lineFeed terminated lines) := by
  have hunified := unifyNewlines_joinLines ending terminated hlines
  rw [← hunified]
  cases marked with
  | false => exact ofFile_encode (head?_joinLines_ne hfirst)
  | true => exact ofFile_marked _

end Text

namespace Block

/-- A scan goes by the lines of a text alone. -/
theorem scan_congr {text other : String}
    (hlines : Text.lines text.toList = Text.lines other.toList) (file : String)
    (language : Language) : scan text file language = scan other file language := by
  rw [scan, scan, hlines]

/-- A file that holds lines without line breaks is read and scanned with one and the same outcome,
that of its lines numbered from one, whichever ending they have, whether the last one has it or
not, and whether a byte order mark stands in front. Of any text, mixed endings included, a scan
has the same outcome before and after the endings are unified. -/
theorem scan_spell :
    (∀ lines : List String, (∀ line ∈ lines, Document.OneLine line) →
      (∀ line ∈ lines.head?, line.toList.head? ≠ some Text.orderMark) →
      ∀ (tree : FileTree) (file : String) (language : Language) (marked : Bool)
        (ending : Text.LineEnding) (terminated : Bool),
        (terminated = false → lines.getLast? ≠ some "") →
        tree.readBytes (Path.ofString file) = .ok (Text.spell marked ending terminated lines) →
        ∃ text, tree.readText (Path.ofString file) = .ok text ∧
          scan text file language = scanFrom file language 1 none lines) ∧
    ∀ (text file : String) (language : Language),
      scan (String.ofList (Text.unifyNewlines text.toList)) file language =
        scan text file language := by
  constructor
  · intro lines hlines hfirst tree file language marked ending terminated hlast hbytes
    have hread := Text.ofFile_spell marked ending terminated hlines hfirst
    have hsplit := Text.lines_joinLines hlines hlast
    refine ⟨String.ofList (Text.joinLines .lineFeed terminated lines), ?_, ?_⟩
    · rw [FileTree.readText_of_readBytes hbytes, hread]
      rfl
    · have hsame : String.ofList ∘ String.toList = id := by
        funext line
        exact String.ofList_toList
      rw [scan, String.toList_ofList, hsplit, List.map_map, hsame, List.map_id]
  · intro text file language
    apply scan_congr
    rw [String.toList_ofList, Text.lines_unifyNewlines]

/-- The lines of a source with one block. -/
def blockLines : List String :=
  ["a", "#if IL", "nop", "#endif"]

/-- A tree with that source, behind a byte order mark and without an ending of its last line. -/
def markedSource : FileTree where
  working := ["w"]
  entries := [(["w"], .directory), (["w", "A.cs"], .file (Text.spell true .both false blockLines))]

/-- The block is found in the third line, where it stands. -/
theorem scan_spell_markedSource :
    (∀ line ∈ blockLines, Document.OneLine line) ∧
      (∀ line ∈ blockLines.head?, line.toList.head? ≠ some Text.orderMark) ∧
      blockLines.getLast? ≠ some "" ∧
      markedSource.readBytes (Path.ofString "A.cs") =
        .ok (Text.spell true .both false blockLines) ∧
      ∃ text, markedSource.readText (Path.ofString "A.cs") = .ok text ∧
        scan text "A.cs" Language.csharp = .ok [⟨"A.cs", 3, 3, ["nop"], by decide⟩] := by
  have hlines : ∀ line ∈ blockLines, Document.OneLine line := by decide
  have hfirst : ∀ line ∈ blockLines.head?, line.toList.head? ≠ some Text.orderMark := by decide
  have hlast : blockLines.getLast? ≠ some "" := by decide
  have hbytes : markedSource.readBytes (Path.ofString "A.cs") =
      .ok (Text.spell true .both false blockLines) := rfl
  obtain ⟨text, htext, hscan⟩ := scan_spell.1 blockLines hlines hfirst markedSource "A.cs"
    Language.csharp true .both false (fun _ => hlast) hbytes
  have hblock : scanFrom "A.cs" Language.csharp 1 none blockLines =
      .ok [⟨"A.cs", 3, 3, ["nop"], by decide⟩] := rfl
  exact ⟨hlines, hfirst, hlast, hbytes, text, htext, hscan.trans hblock⟩

end Block

end ILGraft

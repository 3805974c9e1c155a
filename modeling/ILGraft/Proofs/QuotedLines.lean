import ILGraft.Proofs.AllOrNothing
import ILGraft.Proofs.BlockOutcomes
import ILGraft.Proofs.LineCaches

/-!
# Source lines that diagnostics quote

A source file is read twice, by the scanner and by the renderer of diagnostics. Both number its
lines alike, so what is quoted of a snippet without a single place is its own code: the first line,
and the last one behind it if there are several. A snippet without code is shown by the marker that
closes its block, and a block that is left open by the marker that opens it.
-/

namespace ILGraft

/-- The range that a report points at, if it concerns a file. -/
def FaultReport.span (report : FaultReport) : Span :=
  ⟨report.file, report.first, 1, max report.first report.last, 1⟩

/-- Whatever keeps a snippet from its place is reported of its lines, with one of two codes. -/
theorem PlaceFault.report {document : Document} {snippet : Snippet} {fault : Fault}
    (hfault : PlaceFault document snippet fault) :
    fault.report.file = snippet.file ∧ fault.report.first = snippet.first ∧
      fault.report.last = snippet.last ∧
      (fault.diagnostic.code = "E202" ∨ fault.diagnostic.code = "E203") := by
  cases hfault with
  | unplaced hpairs => exact ⟨rfl, rfl, rfl, .inr rfl⟩
  | ambiguous hpairs => exact ⟨rfl, rfl, rfl, .inl rfl⟩

namespace Renderer

/-- A numbered line is found by its number. -/
theorem lineAt?_of_mem {lines : List String} {line : String} {number : Nat}
    (hmem : (line, number) ∈ lines.zipIdx 1) : lineAt? lines number = some line := by
  obtain ⟨hle, hline⟩ := List.mk_mem_zipIdx_iff_le_and_getElem?_sub.mp hmem
  have hindex : ((number : Int) - 1).toNat = number - 1 := by omega
  rw [lineAt?, if_pos (by omega), hindex]
  exact hline

/-- The lines of a file that is read are those of its text. -/
theorem linesOf_of_readText {tree : FileTree} {file text : String}
    (hread : tree.readText (Path.ofString file) = .ok text) :
    linesOf tree file = (Text.lines text.toList).map String.ofList := by
  delta linesOf
  rw [hread]

section Quotes

variable {palette : Palette} {lines : List String} {span : Span} {text : String}

/-- The first line of a span is quoted if it is found. -/
theorem firstQuote_of_line (hline : lineAt? lines span.firstLine = some text) :
    firstQuote palette lines span = [quote palette span.firstLine text] := by
  simp only [firstQuote, hline]

/-- Nothing else is quoted of a span that ends where it begins, or before. -/
theorem lastQuote_of_le (hle : span.lastLine ≤ span.firstLine) :
    lastQuote palette lines span = [] := by
  rw [lastQuote, if_pos hle]

/-- The last line of a longer span is quoted if it is found, behind dots if there are lines between
it and the first one. -/
theorem lastQuote_of_line (hlt : span.firstLine < span.lastLine)
    (hline : lineAt? lines span.lastLine = some text) :
    lastQuote palette lines span =
      (if span.firstLine + 1 < span.lastLine then [framed palette " ..."] else []) ++
        [quote palette span.lastLine text] := by
  simp only [lastQuote, if_neg (Int.not_le.mpr hlt), hline]

/-- What is quoted of a span. -/
def quotes (palette : Palette) (lines : List String) (span : Span) : List String :=
  firstQuote palette lines span ++ lastQuote palette lines span

/-- A span within one line is quoted by it. -/
theorem quotes_of_le (hle : span.lastLine ≤ span.firstLine)
    (hline : lineAt? lines span.firstLine = some text) :
    quotes palette lines span = [quote palette span.firstLine text] := by
  rw [quotes, firstQuote_of_line hline, lastQuote_of_le hle, List.append_nil]

end Quotes

/-- The two lines above what is quoted of a file from a line on. -/
def place (palette : Palette) (file : String) (number : Int) : List String :=
  [framed palette "-->" ++ " " ++ file ++ ":" ++ Text.numeral number ++ ":1",
    framed palette "   |"]

/-- What is quoted of code that begins and ends at given source lines: its first line, and its last
one behind it, with dots between them if there are others. Where there is no code, the marker behind
it is quoted. -/
def quoteCode (palette : Palette) (first last : Int) (closer : String) : List String → List String
  | [] => [quote palette first closer]
  | [only] => [quote palette first only]
  | top :: second :: more =>
    quote palette first top ::
      ((if first + 1 < last then [framed palette " ..."] else []) ++
        [quote palette last ((second :: more).getLast (List.cons_ne_nil second more))])

end Renderer

namespace Block

open Renderer

/-- The range of a snippet is quoted by its code, or by the marker that closes it. -/
theorem quotes_of_split {lines front back code : List String} {opener closer file : String}
    {snippet : Snippet} {span : Span} (palette : Palette)
    (hlines : lines = front ++ opener :: (code ++ closer :: back))
    (hsnippet : snippet = codeBlock file (1 + front.length) code)
    (hbegins : span.firstLine = snippet.first)
    (hends : span.lastLine = max snippet.first snippet.last) :
    quotes palette lines span =
      quoteCode palette snippet.first snippet.last closer snippet.raw := by
  have hfirst : snippet.first = (1 + front.length : Nat) + 1 := by
    rw [hsnippet, codeBlock_first]
  have hlast : snippet.last = (1 + front.length : Nat) + code.length := by
    rw [hsnippet, codeBlock_last]
  have hraw : snippet.raw = code := by
    rw [hsnippet, codeBlock_raw]
  have hline {number : Int} {index : Nat} {line : String}
      (hget : (code ++ closer :: back)[index]? = some line)
      (hnumber : number = snippet.first + index) : lineAt? lines number = some line := by
    have hplace : number = (front.length + 2 + index : Nat) := by omega
    rw [hplace]
    refine lineAt?_of_mem (List.mk_mem_zipIdx_iff_le_and_getElem?_sub.mpr ⟨by omega, ?_⟩)
    have hindex : front.length + 2 + index - 1 - front.length = index + 1 := by omega
    rw [hlines, List.getElem?_append_right (by omega), hindex, List.getElem?_cons_succ, hget]
  rw [hraw, ← hbegins]
  cases code with
  | nil =>
    rw [List.length_nil] at hlast
    have hcloser : lineAt? lines span.firstLine = some closer :=
      hline List.getElem?_cons_zero (by omega)
    rw [quotes_of_le (by omega) hcloser, quoteCode]
  | cons top rest =>
    have htop : lineAt? lines span.firstLine = some top :=
      hline List.getElem?_cons_zero (by omega)
    cases rest with
    | nil =>
      rw [List.length_singleton] at hlast
      rw [quotes_of_le (by omega) htop, quoteCode]
    | cons second more =>
      simp only [List.length_cons] at hlast
      have hmax : span.lastLine = snippet.last := by omega
      have hbottom : lineAt? lines span.lastLine =
          some ((second :: more).getLast (List.cons_ne_nil second more)) := by
        have hget : (top :: second :: more ++ closer :: back)[more.length + 1]? =
            some ((second :: more).getLast (List.cons_ne_nil second more)) := by
          rw [List.cons_append, List.getElem?_cons_succ, List.getElem?_append_left (by simp),
            List.getLast_eq_getElem]
          simp
        exact hline hget (by omega)
      rw [quotes, firstQuote_of_line htop, lastQuote_of_line (by omega) hbottom, hmax, quoteCode,
        List.singleton_append]

end Block

namespace Renderer

/-- What a fresh renderer shows of a report that concerns a file: the header, what is quoted of the
file, and the notes. -/
theorem render_report (tree : FileTree) (palette : Palette) {report : FaultReport}
    (hnamed : report.file ≠ "") :
    (render tree palette [] report.diagnostic).1 = "\n".intercalate
      (header palette report.diagnostic :: place palette report.file report.first ++
        quotes palette (linesOf tree report.file) report.span ++
        report.notes.map (showNote palette)) := by
  have hlabels : report.diagnostic.labels = [⟨report.span, ""⟩] := by
    simp only [FaultReport.diagnostic, if_neg hnamed, FaultReport.span]
  have hnotes : report.diagnostic.notes = report.notes := by
    simp only [FaultReport.diagnostic]
  have hcolumn : ":" ++ Text.numeral 1 = ":1" := by decide
  have hshown : labelLines tree palette report.diagnostic = place palette report.file report.first ++
      quotes palette (linesOf tree report.file) report.span := by
    unfold labelLines
    rw [hlabels]
    simp [showLabel, place, quotes, Span.start, FaultReport.span, String.append_assoc, hcolumn]
  rw [(render_of_faithful (faithful_nil tree) palette report.diagnostic).1, hshown, hnotes]
  simp only [List.cons_append, List.append_assoc]

/-- Of a source file that is read and divides into blocks, a snippet without a single place is shown
by its own code, at the number of its first line, or by the marker that closes it if it has none. Of
a file that does not, the opening marker is shown that stays open first. -/
theorem render_quotes_source {tree : FileTree} {file text : String}
    (hread : tree.readText (Path.ofString file) = .ok text) (hnamed : file ≠ "")
    (language : Language) (palette : Palette) :
    (∀ snippets, Block.scan text file language = .ok snippets → ∀ snippet ∈ snippets,
      ∀ document fault, Placement.locate document snippet = .error fault →
        (fault.diagnostic.code = "E202" ∨ fault.diagnostic.code = "E203") ∧
        ∃ closer number, (closer, number) ∈ Block.numberedLines text ∧
          (number : Int) = snippet.last + 1 ∧ Block.Closes language closer ∧
          (render tree palette [] fault.diagnostic).1 = "\n".intercalate
            (header palette fault.diagnostic :: place palette file snippet.first ++
              quoteCode palette snippet.first snippet.last closer snippet.raw ++
              fault.diagnostic.notes.map (showNote palette))) ∧
    ∀ block, Block.scan text file language = .error block →
      ∃ opener number, (opener, number) ∈ Block.numberedLines text ∧
        Block.FirstOpen language (Block.numberedLines text) number ∧
        Block.Opens language opener ∧ block.first = number + 1 ∧
        (Fault.unterminated block).diagnostic.code = "E204" ∧
        (render tree palette [] (Fault.unterminated block).diagnostic).1 = "\n".intercalate
          (header palette (Fault.unterminated block).diagnostic :: place palette file number ++
            [quote palette number opener]) := by
  have hlines := linesOf_of_readText hread
  refine ⟨fun snippets hscan snippet hmem document fault hlocate => ?_, fun block hscan => ?_⟩
  · have hblocks := Block.scanFrom_eq_ok_iff.mp hscan
    obtain ⟨front, opener, code, closer, back, hsplit, hcloses, hsnippet⟩ :=
      (hblocks.block snippet hmem).exists_split
    obtain ⟨hfile, hfirst, hlast, hcode⟩ := (Placement.locate_error_iff.mp hlocate).report
    rw [hblocks.file snippet hmem] at hfile hsnippet
    have hbehind : (Text.lines text.toList).map String.ofList =
        (front ++ opener :: code) ++ closer :: back := by
      rw [hsplit, List.append_assoc, List.cons_append]
    have hcloser := Block.mem_zipIdx_of_split hbehind 1
    refine ⟨hcode, closer, _, hcloser, ?_, hcloses, ?_⟩
    · rw [hsnippet, Block.codeBlock_last, List.length_append, List.length_cons]
      omega
    · have hreported : fault.report.file ≠ "" := hfile ▸ hnamed
      have hends : fault.report.span.lastLine = max snippet.first snippet.last := by
        rw [FaultReport.span, hfirst, hlast]
      have hquotes := Block.quotes_of_split palette (hlines.trans hsplit) hsnippet hfirst hends
      have hshown := render_report tree palette hreported
      rw [hfile, hfirst, hquotes] at hshown
      exact hshown
  · obtain ⟨before, hopen, rfl⟩ := Block.scan_error_iff.mp hscan
    have hfirst := hopen.firstOpen 1
    obtain ⟨opener, code, rest, hsplit, -, hopens, -, -⟩ := hopen
    have hopener := Block.mem_zipIdx_of_split hsplit 1
    have hnumber : ((before.length + 2 : Nat) : Int) - 1 = (1 + before.length : Nat) := by omega
    have hline : lineAt? (linesOf tree file) (1 + before.length : Nat) = some opener := by
      rw [hlines]
      exact lineAt?_of_mem hopener
    have hreported : (Fault.unterminated ⟨file, language, before.length + 2⟩).report.file ≠ "" :=
      hnamed
    have hshown := render_report tree palette hreported
    simp only [Fault.report, FaultReport.span, hnumber] at hshown
    rw [quotes_of_le (by simp) hline] at hshown
    refine ⟨opener, 1 + before.length, hopener, hfirst, hopens, by dsimp only; omega, rfl, ?_⟩
    simpa only [Fault.diagnostic, Fault.report, hnumber, List.map_nil, List.append_nil] using hshown

/-- The text of a source with a block of three lines and an empty one. -/
def quotedText : String :=
  "a\n#if IL\nnop\n\nret\n#endif\n #if il\n#EndIf\n"

/-- A tree with that source. -/
def quotedSource : FileTree where
  working := ["w"]
  entries := [(["w"], .directory), (["w", "a.cs"], .file (Text.Utf8.encode quotedText.toList))]

/-- The first and the last line of the code are quoted, and the marker behind no code. -/
theorem render_quotes_source_unplaced :
    (render quotedSource Palette.plain []
        (Fault.unplaced ⟨"a.cs", 3, 5, ["nop", "", "ret"], by decide⟩).diagnostic).1 =
      "\n".intercalate
        ["error[E203]: can't find where to place snippet in file 'a.cs' at range (3,5)",
          "  --> a.cs:3:1", "     |", "     3 | nop", "   ...", "     5 | ret",
          "  = note: no pair of consecutive .line markers brackets the snippet; it needs compiled "
            ++ "code both before and after it"] ∧
      (render quotedSource Palette.plain []
          (Fault.unplaced ⟨"a.cs", 8, 7, [], by decide⟩).diagnostic).1 =
        "\n".intercalate
          ["error[E203]: can't find where to place snippet in file 'a.cs' at range (8,7)",
            "  --> a.cs:8:1", "     |", "     8 | #EndIf",
            "  = note: no pair of consecutive .line markers brackets the snippet; it needs compiled "
              ++ "code both before and after it"] := by
  have hread : quotedSource.readText (Path.ofString "a.cs") = .ok quotedText := by
    decide +kernel
  have hscan : Block.scan quotedText "a.cs" Language.csharp =
      .ok [⟨"a.cs", 3, 5, ["nop", "", "ret"], by decide⟩, ⟨"a.cs", 8, 7, [], by decide⟩] := by
    decide +kernel
  have hquoted :=
    (render_quotes_source hread (by decide) Language.csharp Palette.plain).1 _ hscan
  obtain ⟨-, closer, number, -, -, -, hcode⟩ :=
    hquoted _ List.mem_cons_self Document.empty _ rfl
  obtain ⟨-, marker, last, hmem, hlast, -, hempty⟩ :=
    hquoted _ (List.mem_cons_of_mem _ List.mem_cons_self) Document.empty _ rfl
  have hmarker : ∀ entry ∈ Block.numberedLines quotedText, (entry.2 : Int) = 8 →
      entry.1 = "#EndIf" := by
    decide +kernel
  obtain rfl : marker = "#EndIf" := hmarker _ hmem hlast
  simp only [quoteCode] at hcode hempty
  exact ⟨hcode.trans (by decide +kernel), hempty.trans (by decide +kernel)⟩

end Renderer

end ILGraft

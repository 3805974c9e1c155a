import ILGraft.Proofs.CodeListings
import ILGraft.Proofs.ColouredText
import ILGraft.Proofs.LineCaches

/-!
# Colours of diagnostics

The colours of a rendered diagnostic are control sequences between its parts. Whatever the messages,
remarks, notes and quoted lines are, as long as no escape is among their characters, the coloured
text without its control sequences is the plain text, and the renderer remembers the same lines.
-/

namespace ILGraft

open Text.Ansi

/-- A palette of control sequences: none of its entries shows. -/
structure Palette.Invisible (palette : Palette) : Prop where
  /-- What introduces a severity does not show. -/
  severity (severity : Severity) : Recolours (palette.severity severity) ""
  /-- What introduces bold text does not show. -/
  bold : Recolours palette.bold ""
  /-- What introduces the frame does not show. -/
  frame : Recolours palette.frame ""
  /-- What ends coloured text does not show. -/
  reset : Recolours palette.reset ""

/-- The colours of a terminal do not show. -/
theorem Palette.invisible_terminal : Palette.terminal.Invisible where
  severity
    | .error => .of_sequence "1;31".toList rfl rfl
    | .warning => .of_sequence "1;33".toList rfl rfl
    | .note => .of_sequence "1;36".toList rfl rfl
  bold := .of_sequence "1".toList rfl rfl
  frame := .of_sequence "1;34".toList rfl rfl
  reset := .of_sequence "0".toList rfl rfl

namespace Renderer

variable {palette : Palette}

/-- The source lines that are quoted for a span: its first one, and its last one if the span is
longer than a line. -/
def quotedLines (lines : List String) (span : Span) : List String :=
  (lineAt? lines span.firstLine).toList ++
    if span.lastLine ≤ span.firstLine then [] else (lineAt? lines span.lastLine).toList

/-- No string that a diagnostic brings or quotes holds an escape. -/
structure EscapeFreeOver (lines : String → List String) (diagnostic : Diagnostic) : Prop where
  /-- The code holds none. -/
  code : EscapeFree diagnostic.code
  /-- The message holds none. -/
  message : EscapeFree diagnostic.message
  /-- The files that labels name, and their remarks, hold none. -/
  labels : ∀ label ∈ diagnostic.labels,
    EscapeFree label.span.file ∧ EscapeFree label.message
  /-- The quoted lines hold none. -/
  quoted : ∀ label ∈ diagnostic.labels,
    ∀ line ∈ quotedLines (lines label.span.file) label.span, EscapeFree line
  /-- The notes hold none. -/
  notes : ∀ note ∈ diagnostic.notes, EscapeFree note

/-- Numerals hold no escape. -/
theorem escapeFree_numeral (number : Int) : EscapeFree (Text.numeral number) :=
  fun hmem => (Text.isOpenEnded_of_mem_numeral hmem).plain.ne_escape rfl

/-- Numerals behind spaces hold no escape. -/
theorem escapeFree_paddedNumeral (width : Nat) (number : Int) :
    EscapeFree (Text.paddedNumeral width number) := by
  refine EscapeFree.append ?_ (escapeFree_numeral number)
  unfold EscapeFree
  rw [String.toList_ofList, List.mem_replicate]
  rintro ⟨-, hspace⟩
  exact absurd hspace (by decide)

/-- A frame is coloured around its mark. -/
theorem recolours_framed (hpalette : palette.Invisible) {mark : String} (hmark : EscapeFree mark) :
    Recolours (framed palette mark) (framed .plain mark) := by
  have hspace : EscapeFree "  " := by decide
  exact (((Recolours.of_plain hspace).append hpalette.frame).append
    (Recolours.of_plain hmark)).append hpalette.reset

/-- The word for a severity holds no escape. -/
theorem escapeFree_word (severity : Severity) : EscapeFree severity.word := by
  cases severity <;> decide

/-- The first line of a diagnostic is coloured. -/
theorem recolours_header (hpalette : palette.Invisible) {diagnostic : Diagnostic}
    (hcode : EscapeFree diagnostic.code) (hmessage : EscapeFree diagnostic.message) :
    Recolours (header palette diagnostic) (header .plain diagnostic) := by
  have hkind : EscapeFree (diagnostic.severity.word ++ "[" ++ diagnostic.code ++ "]") :=
    (((escapeFree_word _).append (by decide)).append hcode).append (by decide)
  have hsaid : EscapeFree (": " ++ diagnostic.message) := EscapeFree.append (by decide) hmessage
  have hline := ((((hpalette.severity diagnostic.severity).append (.of_plain hkind)).append
    hpalette.reset).append hpalette.bold).append ((Recolours.of_plain hsaid).append hpalette.reset)
  simpa only [header, Palette.plain, String.append_assoc] using hline

/-- A quoted line is coloured in its frame. -/
theorem recolours_quote (hpalette : palette.Invisible) (number : Int) {text : String}
    (htext : EscapeFree text) :
    Recolours (quote palette number text) (quote .plain number text) := by
  have hmark := (escapeFree_paddedNumeral 4 number).append (show EscapeFree " |" by decide)
  have hspace : EscapeFree " " := by decide
  exact ((recolours_framed hpalette hmark).append (.of_plain hspace)).append (.of_plain htext)

/-- The first quoted line of a span is coloured. -/
theorem recolours_firstQuote (hpalette : palette.Invisible) {lines : List String} {span : Span}
    (hquoted : ∀ line ∈ quotedLines lines span, EscapeFree line) :
    List.Forall₂ Recolours (firstQuote palette lines span) (firstQuote .plain lines span) := by
  unfold firstQuote
  cases hline : lineAt? lines span.firstLine with
  | none => exact .nil
  | some text =>
    have hmem : text ∈ quotedLines lines span := by
      rw [quotedLines, hline]
      exact List.mem_append_left _ (List.mem_singleton_self text)
    exact .cons (recolours_quote hpalette _ (hquoted text hmem)) .nil

/-- The last quoted line of a span is coloured, and so are the dots in front of it. -/
theorem recolours_lastQuote (hpalette : palette.Invisible) {lines : List String} {span : Span}
    (hquoted : ∀ line ∈ quotedLines lines span, EscapeFree line) :
    List.Forall₂ Recolours (lastQuote palette lines span) (lastQuote .plain lines span) := by
  unfold lastQuote
  by_cases hlong : span.lastLine ≤ span.firstLine
  · rw [if_pos hlong, if_pos hlong]
    exact .nil
  · rw [if_neg hlong, if_neg hlong]
    cases hline : lineAt? lines span.lastLine with
    | none => exact .nil
    | some text =>
      have hmem : text ∈ quotedLines lines span := by
        rw [quotedLines, if_neg hlong, hline]
        exact List.mem_append_right _ (List.mem_singleton_self text)
      have hquote := recolours_quote hpalette span.lastLine (hquoted text hmem)
      have hdots := recolours_framed hpalette (show EscapeFree " ..." by decide)
      by_cases hgap : span.firstLine + 1 < span.lastLine
      · simp only [if_pos hgap]
        exact .cons hdots (.cons hquote .nil)
      · simp only [if_neg hgap]
        exact .cons hquote .nil

/-- The lines that show a label are coloured. -/
theorem recolours_showLabel (hpalette : palette.Invisible) (severity : Severity)
    {lines : List String} {label : Label} (hfile : EscapeFree label.span.file)
    (hmessage : EscapeFree label.message)
    (hquoted : ∀ line ∈ quotedLines lines label.span, EscapeFree line) :
    List.Forall₂ Recolours (showLabel palette severity lines label)
      (showLabel .plain severity lines label) := by
  have hbar := recolours_framed hpalette (show EscapeFree "   |" by decide)
  have hstart : EscapeFree (" " ++ label.span.start) :=
    EscapeFree.append (by decide) ((((hfile.append (by decide)).append
      (escapeFree_numeral _)).append (by decide)).append (escapeFree_numeral _))
  have harrow := (recolours_framed hpalette (show EscapeFree "-->" by decide)).append
    (.of_plain hstart)
  have hspace : EscapeFree "   " := by decide
  have hremark := (((hbar.append (.of_plain hspace)).append (hpalette.severity severity)).append
    (.of_plain hmessage)).append hpalette.reset
  rw [← String.append_assoc, ← String.append_assoc] at harrow
  have hremarks : List.Forall₂ Recolours
      (if label.message = "" then []
        else [framed palette "   |" ++ "   " ++ palette.severity severity ++ label.message
          ++ palette.reset])
      (if label.message = "" then []
        else [framed .plain "   |" ++ "   " ++ Palette.plain.severity severity ++ label.message
          ++ Palette.plain.reset]) := by
    split
    · exact .nil
    · exact .cons hremark .nil
  exact List.rel_append (List.rel_append (List.rel_append (.cons harrow (.cons hbar .nil))
    (recolours_firstQuote hpalette hquoted)) (recolours_lastQuote hpalette hquoted)) hremarks

/-- The line that shows a note is coloured. -/
theorem recolours_showNote (hpalette : palette.Invisible) {note : String}
    (hnote : EscapeFree note) : Recolours (showNote palette note) (showNote .plain note) := by
  have hword : EscapeFree " note: " := by decide
  exact ((recolours_framed hpalette (show EscapeFree "=" by decide)).append
    (.of_plain hword)).append (.of_plain hnote)

/-- A diagnostic over the lines of files is coloured. -/
theorem recolours_textOver (hpalette : palette.Invisible) {lines : String → List String}
    {diagnostic : Diagnostic} (hplain : EscapeFreeOver lines diagnostic) :
    Recolours (textOver palette lines diagnostic) (textOver .plain lines diagnostic) := by
  have hlabels := Recolours.flatMap fun label hlabel =>
    recolours_showLabel hpalette diagnostic.severity (hplain.labels label hlabel).1
      (hplain.labels label hlabel).2 (hplain.quoted label hlabel)
  have hnotes := Recolours.map fun note hnote =>
    recolours_showNote hpalette (hplain.notes note hnote)
  exact Recolours.intercalate (by decide)
    (.cons (recolours_header hpalette hplain.code hplain.message) (List.rel_append hlabels hnotes))

/-- Colours change nothing but colours: if no string that a diagnostic brings or quotes holds an
escape, the coloured text without its control sequences is the plain one, and the renderer
remembers the same. -/
theorem strip_render_coloured (tree : FileTree) (cache : LineCache) (diagnostic : Diagnostic)
    (hplain : EscapeFreeOver (seen tree cache) diagnostic) :
    strip (render tree (.ofColor true) cache diagnostic).1.toList =
        (render tree (.ofColor false) cache diagnostic).1.toList ∧
      (render tree (.ofColor true) cache diagnostic).2 =
        (render tree (.ofColor false) cache diagnostic).2 := by
  refine ⟨?_, ?_⟩
  · rw [(render_eq _ _ _ _).1, (render_eq _ _ _ _).1]
    exact (recolours_textOver Palette.invisible_terminal hplain).strip_eq
  · exact (snd_showLabels _ _ _ _ _).trans (snd_showLabels _ _ _ _ _).symm

/-- A warning whose strings begin with what could go on a control sequence. -/
def digitsBehindColours : Diagnostic where
  severity := .warning
  code := "1m"
  message := ";31m"
  labels := [⟨⟨"0m.cs", 1, 1, 3, 1⟩, "7m"⟩]
  notes := ["[0m"]

/-- The file that the warning points at. -/
def digitFiles : FileTree :=
  ⟨["w"], [(["w"], .directory), (["w", "0m.cs"], .file (Text.Utf8.encode "m\nnop\n;1m\n".toList))]⟩

/-- Nothing of those strings is lost with the colours. -/
theorem strip_render_coloured_digits :
    strip (render digitFiles (.ofColor true) [] digitsBehindColours).1.toList =
      ("warning[1m]: ;31m\n  --> 0m.cs:1:1\n     |\n     1 | m\n   ...\n     3 | ;1m\n" ++
        "     |   7m\n  = note: [0m").toList := by
  have hplain : EscapeFreeOver (seen digitFiles []) digitsBehindColours :=
    ⟨by decide, by decide, by decide, by decide +kernel, by decide⟩
  rw [(strip_render_coloured digitFiles [] digitsBehindColours hplain).1]
  decide +kernel

end Renderer

end ILGraft

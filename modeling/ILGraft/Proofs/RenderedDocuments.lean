import ILGraft.Proofs.AnnotatedReading
import ILGraft.Proofs.LowerCasing
import ILGraft.Proofs.Results

/-!
# Rendered documents

Lines that are rendered for the assembler and read again stay where they were: none is joined to
another, none is split, and each gives the same source line as before. Only declarations of the
stack size are gone, and directives name their files in lower case.
-/

namespace ILGraft

namespace Text

/-- A line without line breaks ends at the line feed behind it. -/
theorem lines_append_lineFeed {line : List Char} (hreturn : '\r' ∉ line) (hfeed : '\n' ∉ line)
    (rest : List Char) : lines (line ++ '\n' :: rest) = line :: lines rest := by
  induction line with
  | nil => rfl
  | cons c line ih =>
    obtain ⟨hc, hline⟩ := not_or.mp (mt List.mem_cons.mpr hreturn)
    obtain ⟨hc', hline'⟩ := not_or.mp (mt List.mem_cons.mpr hfeed)
    rw [List.cons_append, lines.eq_5 c _ (fun _ heq => absurd heq.symm hc) (Ne.symm hc)
      (Ne.symm hc'), ih hline hline']

/-- A text keeps what stands in front of the blanks at its end. -/
theorem prefix_trimRight {literal text : List Char} (hbegins : literal <+: text)
    (hlast : literal.getLast?.any isBlank = false) : literal <+: trimRight text := by
  obtain ⟨rest, rfl⟩ := hbegins
  have hkeep : literal.reverse.dropWhile isBlank = literal.reverse := by
    cases hreverse : literal.reverse with
    | nil => rfl
    | cons c more =>
      have hc : isBlank c = false := by
        rw [List.getLast?_eq_head?_reverse, hreverse] at hlast
        exact hlast
      rw [List.dropWhile_cons_of_neg (by simp [hc])]
  rw [trimRight, List.reverse_append, List.dropWhile_append]
  split
  · simp only [hkeep, List.reverse_reverse, List.prefix_refl]
  · rw [List.reverse_append, List.reverse_reverse]
    exact List.prefix_append _ _

end Text

namespace Document

/-- A line begins with a literal exactly if the literal stands behind the blanks in front. -/
theorem beginsWith_iff {literal line : String}
    (hlast : literal.toList.getLast?.any Text.isBlank = false) :
    beginsWith literal line = true ↔ literal.toList <+: Text.trimLeft line.toList := by
  rw [beginsWith, List.isPrefixOf_iff_prefix, Text.trim]
  constructor
  · intro hbegins
    have hsuffix := List.dropWhile_suffix (l := (Text.trimLeft line.toList).reverse) Text.isBlank
    refine hbegins.trans ?_
    rw [Text.trimRight, ← List.reverse_suffix, List.reverse_reverse]
    exact hsuffix
  · exact fun hbegins => Text.prefix_trimRight hbegins hlast

/-- A line that begins with a directive, apart from the blanks in front of it. -/
theorem exists_of_directive {line : String} (hline : beginsWith ".line" line = true) :
    ∃ front rest, (∀ c ∈ front, Text.isBlank c = true) ∧
      line.toList = front ++ (".line".toList ++ rest) := by
  obtain ⟨rest, hrest⟩ := (beginsWith_iff (by decide)).mp hline
  refine ⟨line.toList.takeWhile Text.isBlank, rest, List.all_eq_true.mp List.all_takeWhile, ?_⟩
  rw [hrest, Text.trimLeft, List.takeWhile_append_dropWhile]

/-- A line begins with a directive or with a declaration of the stack size, not with both. -/
theorem not_stackSize_of_directive {line : String} (hline : beginsWith ".line" line = true) :
    beginsWith ".maxstack" line = false := by
  rw [Bool.eq_false_iff]
  intro hstack
  have hdirective := (beginsWith_iff (by decide)).mp hline
  have hdeclaration := (beginsWith_iff (by decide)).mp hstack
  have hbegins : ".line".toList <+: ".maxstack".toList :=
    List.prefix_of_prefix_length_le hdirective hdeclaration (by decide)
  revert hbegins
  decide

end Document

namespace Text

private theorem isLowered_directive : ∀ c ∈ ".line".toList, IsLowered c :=
  List.all_iff_forall_prop.mp (by decide)

/-- A directive is lower-cased behind its name. -/
theorem lower_directive {front : List Char} (hfront : ∀ c ∈ front, isBlank c = true)
    (rest : List Char) : ∃ before, lower (front ++ (".line".toList ++ rest)) =
      front ++ (".line".toList ++ lowerAfter before rest) := by
  refine ⟨".line".toList.reverse ++ (front.reverse ++ []), ?_⟩
  have hblanks : ∀ c ∈ front, IsLowered c := fun c hc =>
    .of_steady (isSteady_of_isBlank (hfront c hc))
  rw [lower, lowerAfter_append_of_isLowered hblanks,
    lowerAfter_append_of_isLowered isLowered_directive]

end Text

namespace Marker

/-- The blanks in front of a directive are passed over. -/
theorem trimLeft_directive {front : List Char} (hfront : ∀ c ∈ front, Text.isBlank c = true)
    (rest : List Char) :
    Text.trimLeft (front ++ (".line".toList ++ rest)) = ".line".toList ++ rest := by
  rw [Text.trimLeft, List.dropWhile_append_of_pos hfront]
  rfl

/-- What follows a steady literal is found in lower-cased text, lower-cased. -/
theorem after?_lowerAfter (literal : String)
    (hliteral : ∀ c ∈ literal.toList, Text.isSteady c = true) (before text : List Char) :
    ∃ before', after? literal (Text.lowerAfter before text) =
      (after? literal text).map (Text.lowerAfter before') :=
  ⟨_, Text.isPrefixOf?_lowerAfter hliteral before text⟩

/-- What follows the digits is found in lower-cased text, lower-cased. -/
theorem afterDigits?_lowerAfter (before text : List Char) :
    ∃ before', afterDigits? (Text.lowerAfter before text) =
      (afterDigits? text).map (Text.lowerAfter before') := by
  obtain ⟨htake, hdrop⟩ := Text.span_lowerAfter (fun _ => Text.isSteady_of_isDigit) before text
  refine ⟨(text.takeWhile Text.isDigit).reverse ++ before, ?_⟩
  rw [afterDigits?, htake, hdrop, afterDigits?]
  split <;> rfl

/-- The digits of a source line are those of the directive as it was before it was lower-cased. -/
theorem lineDigits?_lower {line : String} (hline : Document.beginsWith ".line" line = true) :
    lineDigits? (Text.lower line.toList) = lineDigits? line.toList := by
  obtain ⟨front, rest, hfront, htext⟩ := Document.exists_of_directive hline
  obtain ⟨before, hlower⟩ := Text.lower_directive hfront rest
  have hname (text : List Char) : after? ".line " (".line".toList ++ text) = after? " " text := rfl
  obtain ⟨before', hspace⟩ :=
    after?_lowerAfter " " (List.all_iff_forall_prop.mp (by decide)) before rest
  rw [htext, hlower, lineDigits?, lineDigits?, trimLeft_directive hfront,
    trimLeft_directive hfront, hname, hname, hspace]
  cases after? " " rest with
  | none => rfl
  | some text =>
    obtain ⟨htake, -⟩ := Text.span_lowerAfter (fun _ => Text.isSteady_of_isDigit) before' text
    obtain ⟨before, hdigits⟩ := afterDigits?_lowerAfter before' text
    simp only [Option.map_some, Option.bind_eq_bind, Option.bind_some, hdigits, htake]
    cases afterDigits? text with
    | none => rfl
    | some rest =>
      obtain ⟨before', hcomma⟩ := after?_lowerAfter ","
        (List.all_iff_forall_prop.mp (by decide)) before rest
      simp only [Option.map_some, Option.bind_some, hcomma]
      cases after? "," rest <;> rfl

/-- Only a directive gives a source line. -/
theorem directive_of_lineDigits? {line : String} {digits : List Char}
    (hdigits : lineDigits? line.toList = some digits) :
    Document.beginsWith ".line" line = true := by
  simp only [lineDigits?, Option.bind_eq_bind, Option.bind_eq_some_iff] at hdigits
  obtain ⟨text, hafter, -⟩ := hdigits
  rw [Document.beginsWith_iff (by decide), after?_eq_some_iff.mp hafter]
  have hname : ".line ".toList = ".line".toList ++ [' '] := rfl
  rw [hname, List.append_assoc]
  exact List.prefix_append _ _

/-- The text of a switch: the numbers, the path in quotes, and what follows. -/
def switchText (a b c d path rest : List Char) : List Char :=
  "line ".toList ++ (a ++ (",".toList ++ (b ++ (" : ".toList ++ (c ++ (",".toList ++
    (d ++ (" '".toList ++ (path ++ '\'' :: rest)))))))))

/-- The text of a directive: a switch behind blanks and a dot, and blanks again. -/
def spelled (front a b c d path back : List Char) : List Char :=
  front ++ '.' :: switchText a b c d path back

/-- A line that holds the directive `.line a,b : c,d 'path'` and nothing else but blanks. -/
inductive Holds (line : String) (path : List Char) : Prop
  /-- The line is the text of a directive. -/
  | intro {front a b c d back : List Char} (hfront : ∀ x ∈ front, Text.isBlank x = true)
      (hback : ∀ x ∈ back, Text.isBlank x = true) (ha : IsDigits a) (hb : IsDigits b)
      (hc : IsDigits c) (hd : IsDigits d) (hpath : '\'' ∉ path)
      (hline : line.toList = spelled front a b c d path back) : Holds line path

/-- A switch begins with an `l`, so whatever holds none is passed over. -/
theorem fileSwitch?_append {front : List Char} (hfront : 'l' ∉ front) (rest : List Char) :
    fileSwitch? (front ++ rest) = fileSwitch? rest := by
  induction front with
  | nil => rfl
  | cons c front ih =>
    obtain ⟨hc, hmore⟩ := not_or.mp (mt List.mem_cons.mpr hfront)
    have hhere : fileSwitchHere? (c :: (front ++ rest)) = none := by
      rw [Option.eq_none_iff_forall_not_mem]
      intro path hpath
      obtain ⟨_, _, _, _, _, _, _, _, _, _, _, htext⟩ := fileSwitchHere?_eq_some_iff.mp hpath
      exact hc (List.cons.inj htext).1.symm
    rw [List.cons_append, fileSwitch?, hhere, ih hmore]
    rfl

/-- With an empty path and no further switch behind it, no file is named. -/
theorem fileSwitch?_switchText_nil {a b c d rest : List Char} (ha : IsDigits a) (hb : IsDigits b)
    (hc : IsDigits c) (hd : IsDigits d) (hrest : 'l' ∉ rest) :
    fileSwitch? (switchText a b c d [] rest) = none := by
  have hcomma : ",".toList.head?.any (!Text.isDigit ·) = true := by decide
  have hcolon : " : ".toList.head?.any (!Text.isDigit ·) = true := by decide
  have hquoted : " '".toList.head?.any (!Text.isDigit ·) = true := by decide
  have hhere : fileSwitchHere? (switchText a b c d [] rest) = none := by
    simp only [switchText, fileSwitchHere?, Option.bind_eq_bind, Option.bind_some,
      after?_append "line ", after?_append ",", after?_append " : ", after?_append " '",
      afterDigits?_append_literal ha hcomma, afterDigits?_append_literal hb hcolon,
      afterDigits?_append_literal hc hcomma, afterDigits?_append_literal hd hquoted]
    rfl
  have hdigits {chars : List Char} (hchars : IsDigits chars) : 'l' ∉ chars :=
    fun hmem => absurd (hchars.2 'l' hmem) (by decide)
  obtain ⟨behind, hbehind, hnone⟩ :
      ∃ behind, switchText a b c d [] rest = 'l' :: behind ∧ 'l' ∉ behind := by
    have hl : "line ".toList = 'l' :: "ine ".toList := rfl
    refine ⟨_, by rw [switchText, hl, List.cons_append], ?_⟩
    have hine : 'l' ∉ "ine ".toList := by decide
    have hcomma : 'l' ∉ ",".toList := by decide
    have hcolon : 'l' ∉ " : ".toList := by decide
    have hquote : 'l' ∉ " '".toList := by decide
    simp only [List.mem_append, List.mem_cons, List.nil_append, hine, hcomma, hcolon, hquote,
      hdigits ha, hdigits hb, hdigits hc, hdigits hd, hrest, Char.reduceEq, or_self,
      not_false_eq_true]
  have hmore := fileSwitch?_append hnone []
  rw [List.append_nil] at hmore
  rw [hbehind] at hhere ⊢
  rw [fileSwitch?, hhere, hmore]
  rfl

section Spelled

variable {front a b c d path back : List Char} (hfront : ∀ x ∈ front, Text.isBlank x = true)
  (hback : ∀ x ∈ back, Text.isBlank x = true) (ha : IsDigits a) (hb : IsDigits b)
  (hc : IsDigits c) (hd : IsDigits d)
include hfront hback ha hb hc hd

/-- Only the path of a directive is changed when it is lower-cased, and it is lower-cased as if it
stood by itself. -/
theorem lower_spelled (path : List Char) :
    Text.lower (spelled front a b c d path back) =
      spelled front a b c d (Text.lower path) back := by
  have hblank {chars : List Char} (hchars : ∀ x ∈ chars, Text.isBlank x = true) :
      ∀ x ∈ chars, Text.IsLowered x :=
    fun x hx => .of_steady (Text.isSteady_of_isBlank (hchars x hx))
  have hdigits {chars : List Char} (hchars : IsDigits chars) : ∀ x ∈ chars, Text.IsLowered x :=
    fun x hx => .of_steady (Text.isSteady_of_isDigit (hchars.2 x hx))
  have hdot : Text.IsLowered '.' := by decide
  have hname : ∀ x ∈ "line ".toList, Text.IsLowered x := List.all_iff_forall_prop.mp (by decide)
  have hcomma : ∀ x ∈ ",".toList, Text.IsLowered x := List.all_iff_forall_prop.mp (by decide)
  have hcolon : ∀ x ∈ " : ".toList, Text.IsLowered x := List.all_iff_forall_prop.mp (by decide)
  have hquote : ∀ x ∈ " '".toList, Text.IsLowered x := List.all_iff_forall_prop.mp (by decide)
  have htail : ∀ x ∈ '\'' :: back, Text.IsLowered x :=
    List.forall_mem_cons.mpr ⟨by decide, hblank hback⟩
  -- No cased character is met on either side of the path: there are only its quotes and blanks.
  have hbehind : Text.meetsCased ('\'' :: back) = false := by
    have hblanks : Text.meetsCased back = false := by
      cases back with
      | nil => rfl
      | cons x rest => exact Text.meetsCased_cons_of_isBlank (hback x List.mem_cons_self) rest
    rw [Text.meetsCased_cons, hblanks]
    decide
  have hbefore (before : List Char) : Text.meetsCased (" '".toList.reverse ++ before) = false := by
    change Text.meetsCased ('\'' :: ' ' :: before) = false
    rw [Text.meetsCased_cons, Text.meetsCased_cons_of_isBlank (by decide)]
    decide
  have hpath (before : List Char) :
      Text.lowerAfter (" '".toList.reverse ++ before) path = Text.lower path :=
    Text.lowerAfter_congr (hbefore before) path
  rw [spelled, switchText, Text.lower, Text.lowerAfter_append_of_isLowered (hblank hfront),
    Text.lowerAfter_cons_of_isLowered hdot, Text.lowerAfter_append_of_isLowered hname,
    Text.lowerAfter_append_of_isLowered (hdigits ha),
    Text.lowerAfter_append_of_isLowered hcomma, Text.lowerAfter_append_of_isLowered (hdigits hb),
    Text.lowerAfter_append_of_isLowered hcolon, Text.lowerAfter_append_of_isLowered (hdigits hc),
    Text.lowerAfter_append_of_isLowered hcomma, Text.lowerAfter_append_of_isLowered (hdigits hd),
    Text.lowerAfter_append_of_isLowered hquote, Text.lowerAfter_append hbehind, hpath,
    Text.lowerAfter_of_isLowered htail]
  rfl

/-- A directive switches to its path, unless that is empty. -/
theorem fileSwitch?_spelled (hpath : '\'' ∉ path) :
    fileSwitch? (spelled front a b c d path back) = if path = [] then none else some path := by
  have hdot : 'l' ∉ front ++ ['.'] := by
    rw [List.mem_append]
    exact not_or.mpr ⟨fun hmem => absurd (hfront 'l' hmem) (by decide), by decide⟩
  have hsplit : spelled front a b c d path back =
      (front ++ ['.']) ++ switchText a b c d path back := by
    rw [spelled, List.append_assoc, List.singleton_append]
  rw [hsplit, fileSwitch?_append hdot]
  split_ifs with hempty
  · rw [hempty]
    exact fileSwitch?_switchText_nil ha hb hc hd fun hmem => absurd (hback 'l' hmem) (by decide)
  · exact fileSwitch?_of_here (fileSwitchHere?_eq_some_iff.mpr
      ⟨a, b, c, d, back, ha, hb, hc, hd, hempty, hpath, rfl⟩)

end Spelled

end Marker

namespace Document

/-- A line that holds no line break. -/
def OneLine (line : String) : Prop :=
  '\r' ∉ line.toList ∧ '\n' ∉ line.toList

instance : DecidablePred OneLine := fun line =>
  inferInstanceAs (Decidable ('\r' ∉ line.toList ∧ '\n' ∉ line.toList))

/-- A line whose numeral is not too long to be read, if it gives a source line. -/
def Legible (line : String) : Prop :=
  ∀ digits ∈ Marker.lineDigits? line.toList, digits.length ≤ Text.maxNumeralDigits

instance : DecidablePred Legible := fun line =>
  inferInstanceAs (Decidable (∀ digits ∈ Marker.lineDigits? line.toList,
    digits.length ≤ Text.maxNumeralDigits))

/-- What a line is once it has been rendered and read again: declarations of the stack size are
removed and directives lower-cased. -/
def reloaded (line : String) : String :=
  if beginsWith ".maxstack" line then stackSizeRemoved
  else if beginsWith ".line" line then String.ofList (Text.lower line.toList)
  else line

/-- A directive is still one when it is lower-cased. -/
theorem directive_lower {line : String} (hline : beginsWith ".line" line = true) :
    beginsWith ".line" (String.ofList (Text.lower line.toList)) = true := by
  obtain ⟨front, rest, hfront, htext⟩ := exists_of_directive hline
  obtain ⟨before, hlower⟩ := Text.lower_directive hfront rest
  have hlowered : (String.ofList (Text.lower line.toList)).toList =
      front ++ (".line".toList ++ Text.lowerAfter before rest) := by
    rw [htext, hlower]
    exact String.toList_ofList
  rw [beginsWith_iff (by decide), hlowered, Marker.trimLeft_directive hfront]
  exact List.prefix_append _ _

/-- Reading a rendered line reloads it. -/
theorem admitLine_renderLine (line : String) : admitLine (renderLine line) = reloaded line := by
  rw [renderLine, reloaded]
  by_cases hline : beginsWith ".line" line = true
  · rw [if_pos hline, not_stackSize_of_directive hline, if_neg Bool.false_ne_true,
      admitLine, not_stackSize_of_directive (directive_lower hline), if_neg Bool.false_ne_true]
  · rw [if_neg hline, admitLine]

/-- Unless it is a declaration of the stack size, a reloaded line is rendered as the line was. -/
theorem renderLine_reloaded {line : String} (hline : beginsWith ".maxstack" line = false) :
    renderLine (reloaded line) = renderLine line := by
  rw [reloaded, hline, if_neg Bool.false_ne_true]
  split
  · next hdirective =>
    rw [renderLine, renderLine, if_pos (directive_lower hdirective), if_pos hdirective,
      String.toList_ofList, Text.lower_lower]
  · rfl

/-- A reloaded line gives the same source line as before. -/
theorem lineNumber_reloaded (line : String) :
    Marker.lineNumber (reloaded line).toList = Marker.lineNumber line.toList := by
  have hdigits : Marker.lineDigits? (reloaded line).toList = Marker.lineDigits? line.toList := by
    rw [reloaded]
    split
    · next hstack =>
      have hnone : Marker.lineDigits? line.toList = none := by
        cases hfound : Marker.lineDigits? line.toList with
        | none => rfl
        | some digits =>
          have hline := Marker.directive_of_lineDigits? hfound
          rw [not_stackSize_of_directive hline] at hstack
          cases hstack
      rw [hnone]
      rfl
    · split
      · next hline => rw [String.toList_ofList, Marker.lineDigits?_lower hline]
      · rfl
  rw [Marker.lineNumber, Marker.lineNumber, hdigits]

/-- A legible line gives a source line, or none. -/
theorem Legible.exists_lineNumber {line : String} (hline : Legible line) :
    ∃ number, Marker.lineNumber line.toList = .ok number := by
  rw [Marker.lineNumber]
  cases hdigits : Marker.lineDigits? line.toList with
  | none => exact ⟨0, rfl⟩
  | some digits =>
    have hlength : (digits.filterMap Text.digitValue?).length ≤ Text.maxNumeralDigits :=
      Nat.le_trans (List.length_filterMap_le _ _) (hline digits hdigits)
    simp only [Text.readNumeral, if_pos hlength]
    exact ⟨_, rfl⟩

/-- A rendered line holds no line break if the line holds none. -/
theorem OneLine.renderLine {line : String} (hline : OneLine line) :
    OneLine (Document.renderLine line) := by
  have hreturn : Text.isSteady '\r' = true := by decide
  have hfeed : Text.isSteady '\n' = true := by decide
  rw [Document.renderLine]
  split
  · rw [OneLine, String.toList_ofList, Text.lower, Text.mem_lowerAfter_iff hreturn,
      Text.mem_lowerAfter_iff hfeed]
    exact hline
  · exact hline

/-- The lines of a rendered text are the rendered lines. -/
theorem linesOfText_render {lines : List String} (hlines : ∀ line ∈ lines, OneLine line) :
    linesOfText (render lines) = lines.map renderLine := by
  induction lines with
  | nil => rfl
  | cons line rest ih =>
    obtain ⟨hline, hrest⟩ := List.forall_mem_cons.mp hlines
    obtain ⟨hreturn, hfeed⟩ := hline.renderLine
    have htext : (render (line :: rest)).toList =
        (renderLine line).toList ++ '\n' :: (render rest).toList := by
      rw [render, List.map_cons, String.join_cons, String.toList_append, String.toList_append,
        List.append_assoc]
      rfl
    rw [linesOfText] at ih
    rw [linesOfText, htext, Text.lines_append_lineFeed hreturn hfeed, List.map_cons, ih hrest,
      String.ofList_toList, List.map_cons]

/-- Lines that all read make a document. -/
theorem exists_ofLines_of_reads {texts : List String}
    (hreads : ∀ text ∈ texts, ∃ marker, Marker.Reads text marker) :
    ∃ document, ofLines texts = .ok document ∧ document.texts = texts := by
  obtain ⟨markers, hmarkers⟩ : ∃ markers, List.Forall₂ Marker.Reads texts markers := by
    induction texts with
    | nil => exact ⟨[], .nil⟩
    | cons text rest ih =>
      obtain ⟨htext, hrest⟩ := List.forall_mem_cons.mp hreads
      obtain ⟨marker, hmarker⟩ := htext
      obtain ⟨markers, hmarkers⟩ := ih hrest
      exact ⟨marker :: markers, .cons hmarker hmarkers⟩
  obtain ⟨document, hdocument, htexts, -⟩ := exists_ofLines hmarkers
  exact ⟨document, hdocument, htexts⟩

/-- A line with a directive switches to its path in lower case, once it has been reloaded. -/
theorem fileSwitch?_reloaded {line : String} {path : List Char} (hline : Marker.Holds line path) :
    Marker.fileSwitch? (reloaded line).toList =
      if path = [] then none else some (Text.lower path) := by
  obtain ⟨hfront, hback, ha, hb, hc, hd, hpath, htext⟩ := hline
  have hdirective : beginsWith ".line" line = true := by
    have hname (text : List Char) :
        '.' :: ("line ".toList ++ text) = ".line".toList ++ (' ' :: text) := rfl
    rw [beginsWith_iff (by decide), htext, Marker.spelled, Marker.switchText, hname,
      Marker.trimLeft_directive hfront]
    exact List.prefix_append _ _
  have hquote : '\'' ∉ Text.lower path := by
    rw [Text.lower, Text.mem_lowerAfter_iff (by decide)]
    exact hpath
  have hnil : Text.lower path = [] ↔ path = [] := by
    constructor
    · intro hempty
      cases path with
      | nil => rfl
      | cons c rest =>
        obtain ⟨d, more, hlowered, -⟩ := Text.exists_lowerAfter_head [] c rest
        rw [Text.lower, hlowered] at hempty
        cases hempty
    · rintro rfl
      rfl
  rw [reloaded, not_stackSize_of_directive hdirective, if_neg Bool.false_ne_true,
    if_pos hdirective, String.toList_ofList, htext,
    Marker.lower_spelled hfront hback ha hb hc hd,
    Marker.fileSwitch?_spelled hfront hback ha hb hc hd hquote]
  simp only [hnil]

/-- What a line that has been reloaded reads as: the source line is the same, and a directive names
its file in lower case. -/
theorem of_reads_reloaded {line : String} {marker : Marker}
    (hreads : Marker.Reads (reloaded line) marker) :
    Marker.lineNumber line.toList = .ok marker.number ∧
      ∀ path, Marker.Holds line path → marker.file? =
        if path = [] then none else some (String.ofList (Text.lower path)) := by
  obtain ⟨number, hnumber, hmarker⟩ := of_bind_ok hreads
  obtain rfl := Except.ok.inj hmarker
  rw [lineNumber_reloaded] at hnumber
  refine ⟨hnumber, fun path hpath => ?_⟩
  rw [fileSwitch?_reloaded hpath]
  split <;> rfl

/-- Rendered lines are read as a document of as many lines. Each stands at its place, with its
declaration of the stack size removed or its directive lower-cased; it gives the same source line;
and a directive switches to its path in lower case. Without declarations of the stack size, the
document is rendered as the lines were. -/
theorem ofText_render {lines : List String} (hlines : ∀ line ∈ lines, OneLine line)
    (hlegible : ∀ line ∈ lines, Legible line) :
    ∃ document, ofText (render lines) = .ok document ∧
      document.lines.length = lines.length ∧
      (∀ (index : Nat) (line : String), lines[index]? = some line →
        ∃ loaded, document.lines[index]? = some loaded ∧ loaded.text = reloaded line ∧
          Marker.lineNumber line.toList = .ok loaded.marker.number ∧
          ∀ path, Marker.Holds line path → loaded.marker.file? =
            if path = [] then none else some (String.ofList (Text.lower path))) ∧
      ((∀ line ∈ lines, beginsWith ".maxstack" line = false) →
        render document.texts = render lines) := by
  have hadmitted : (linesOfText (render lines)).map admitLine = lines.map reloaded := by
    rw [linesOfText_render hlines, List.map_map]
    refine List.map_congr_left fun line _ => ?_
    rw [Function.comp_apply, admitLine_renderLine]
  have hreads : ∀ text ∈ lines.map reloaded, ∃ marker, Marker.Reads text marker := by
    intro text htext
    obtain ⟨line, hline, rfl⟩ := List.mem_map.mp htext
    obtain ⟨number, hnumber⟩ := (hlegible line hline).exists_lineNumber
    rw [← lineNumber_reloaded] at hnumber
    refine ⟨⟨(Marker.fileSwitch? (reloaded line).toList).map String.ofList, number⟩, ?_⟩
    rw [Marker.Reads, Marker.read, hnumber]
    rfl
  obtain ⟨document, hdocument, htexts⟩ := exists_ofLines_of_reads hreads
  refine ⟨document, by rw [ofText, hadmitted, hdocument], ?_, ?_, ?_⟩
  · rw [← List.length_map (f := MarkedLine.text), ← texts, htexts, List.length_map]
  · intro index line hline
    have htext : document.texts[index]? = some (reloaded line) := by
      rw [htexts, List.getElem?_map, hline, Option.map_some]
    rw [texts, List.getElem?_map, Option.map_eq_some_iff] at htext
    obtain ⟨loaded, hloaded, htext⟩ := htext
    exact ⟨loaded, hloaded, htext, of_reads_reloaded (htext ▸ loaded.reads)⟩
  · intro hstack
    have hrendered : lines.map ((fun line => renderLine line ++ "\n") ∘ reloaded) =
        lines.map fun line => renderLine line ++ "\n" := by
      refine List.map_congr_left fun line hline => ?_
      rw [Function.comp_apply, renderLine_reloaded (hstack line hline)]
    rw [htexts, render, render, List.map_map, hrendered]

/-- A declaration of the stack size, a directive whose path ends in a capital sigma, and code. -/
def greekLines : List String :=
  [" .maxstack 8", "\u3000.line 7,7 : 1,2 'C:\\ΑΣ' ", "nop"]

/-- These lines are read again as three lines. The second one still gives the seventh source line,
and its path ends in a final sigma. -/
theorem ofText_render_greekLines :
    (∀ line ∈ greekLines, OneLine line) ∧ (∀ line ∈ greekLines, Legible line) ∧
      ∃ document, ofText (render greekLines) = .ok document ∧ document.lines.length = 3 ∧
        ∃ loaded, document.lines[1]? = some loaded ∧
          loaded.marker.file? = some "c:\\ας" ∧ loaded.marker.number = 7 := by
  have hlines : ∀ line ∈ greekLines, OneLine line := by decide
  have hlegible : ∀ line ∈ greekLines, Legible line := by decide
  obtain ⟨document, hdocument, hlength, hplaces, -⟩ := ofText_render hlines hlegible
  obtain ⟨loaded, hloaded, -, hnumber, hfile⟩ := hplaces 1 _ rfl
  have hdigit {digit : Char} (hdigit : Text.isDigit digit = true) : Marker.IsDigits [digit] :=
    ⟨List.cons_ne_nil _ _, List.forall_mem_singleton.mpr hdigit⟩
  have hholds : Marker.Holds "\u3000.line 7,7 : 1,2 'C:\\ΑΣ' " "C:\\ΑΣ".toList :=
    .intro (List.forall_mem_singleton.mpr rfl : ∀ x ∈ ['\u3000'], Text.isBlank x = true)
      (List.forall_mem_singleton.mpr rfl : ∀ x ∈ [' '], Text.isBlank x = true)
      (hdigit (rfl : Text.isDigit '7' = true)) (hdigit (rfl : Text.isDigit '7' = true))
      (hdigit (rfl : Text.isDigit '1' = true)) (hdigit (rfl : Text.isDigit '2' = true))
      (by decide) rfl
  have hpath : loaded.marker.file? = some "c:\\ας" := by
    rw [hfile _ hholds]
    decide +kernel
  have hseventh : (.ok 7 : Except Text.LongNumeral Nat) = .ok loaded.marker.number := by
    rw [← hnumber]
    decide +kernel
  exact ⟨hlines, hlegible, document, hdocument, hlength, loaded, hloaded, hpath,
    (Except.ok.inj hseventh).symm⟩

end Document

end ILGraft

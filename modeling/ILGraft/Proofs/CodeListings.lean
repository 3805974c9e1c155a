import ILGraft.CommandLine.Listing
import ILGraft.Proofs.AnnotatedReading
import ILGraft.Proofs.ControlSequences
import ILGraft.Proofs.DisplayLines
import ILGraft.Proofs.RenderedDocuments

/-!
# Listings of code

The annotated lines of a snippet are joined to be shown, and the text is broken again into the
lines of a listing. An annotated line is a line of code, or it holds the name of the file in a frame
of characters that neither break a line nor take part in control sequences. The annotated lines are
thus listed one by one exactly if no break stands in the name of the file or in the code, and the
code does not end with an empty line.
-/

namespace ILGraft

namespace Text

/-- A printable character of ASCII. -/
def IsPlain (c : Char) : Prop :=
  0x20 ≤ c.toNat ∧ c.toNat ≤ 0x7e

/-- A printable character of ASCII that completes no control sequence. -/
def IsOpenEnded (c : Char) : Prop :=
  0x20 ≤ c.toNat ∧ c.toNat ≤ 0x3f

instance : DecidablePred IsPlain := fun c =>
  inferInstanceAs (Decidable (0x20 ≤ c.toNat ∧ c.toNat ≤ 0x7e))

instance : DecidablePred IsOpenEnded := fun c =>
  inferInstanceAs (Decidable (0x20 ≤ c.toNat ∧ c.toNat ≤ 0x3f))

/-- Characters that complete no control sequence are plain. -/
theorem IsOpenEnded.plain {c : Char} (hc : IsOpenEnded c) : IsPlain c := by
  unfold IsPlain IsOpenEnded at *
  omega

/-- A plain character breaks no line. -/
theorem IsPlain.isLineBreak {c : Char} (hc : IsPlain c) : isLineBreak c = false := by
  unfold IsPlain at hc
  simp only [Text.isLineBreak, Bool.or_eq_false_iff, Bool.and_eq_false_iff, decide_eq_false_iff_not,
    beq_eq_false_iff_ne]
  omega

/-- A plain character begins no control sequence. -/
theorem IsPlain.ne_escape {c : Char} (hc : IsPlain c) : c ≠ Ansi.escape := by
  rintro rfl
  exact absurd hc (by decide)

/-- A character that is open ended completes no control sequence. -/
theorem IsOpenEnded.isFinal {c : Char} (hc : IsOpenEnded c) : Ansi.isFinal c = false := by
  unfold IsOpenEnded at hc
  rw [Bool.eq_false_iff, ne_eq, (Ansi.class_iff c).2.2]
  omega

/-- The characters of a numeral are open ended. -/
theorem isOpenEnded_of_mem_numeral {number : Int} {c : Char} (hmem : c ∈ (numeral number).toList) :
    IsOpenEnded c := by
  have hdigits {n : Nat} (hdigit : c ∈ Nat.toDigits 10 n) : IsOpenEnded c := by
    have hrange := range_of_isDigit (Nat.isDigit_of_mem_toDigits (by decide) (by decide) hdigit)
    unfold IsOpenEnded
    omega
  cases number with
  | ofNat n =>
    simp only [numeral, String.toList_ofList] at hmem
    exact hdigits hmem
  | negSucc n =>
    simp only [numeral, String.toList_ofList, List.mem_cons] at hmem
    rcases hmem with rfl | hdigit
    · decide
    · exact hdigits hdigit

/-- A line with a part of its own in a frame of plain characters. -/
def Framed (line inner : List Char) : Prop :=
  ∃ front back, line = front ++ (inner ++ back) ∧ (∀ c ∈ front, IsPlain c) ∧
    ∀ c ∈ back, IsOpenEnded c

/-- A framed line breaks where what is framed does. -/
theorem Framed.unbroken_iff {line inner : List Char} (hframed : Framed line inner) :
    Unbroken line ↔ Unbroken inner := by
  obtain ⟨front, back, rfl, hfront, hback⟩ := hframed
  have hbefore : Unbroken front := fun c hc => (hfront c hc).isLineBreak
  have hbehind : Unbroken back := fun c hc => (hback c hc).plain.isLineBreak
  rw [unbroken_append, unbroken_append, and_iff_right hbefore, and_iff_left hbehind]

/-- A frame is no part of control sequences. -/
theorem Framed.holdsSequence {line inner : List Char} (hframed : Framed line inner)
    (hholds : Ansi.HoldsSequence line) : Ansi.HoldsSequence inner := by
  obtain ⟨front, back, rfl, hfront, hback⟩ := hframed
  refine (hholds.of_append_left fun hmem => ?_).of_append_right (fun hmem => ?_)
    fun c hc => (hback c hc).isFinal
  · exact (hfront _ hmem).ne_escape rfl
  · exact (hback _ hmem).plain.ne_escape rfl

/-- A frame holds no carriage return. -/
theorem Framed.return_mem {line inner : List Char} (hframed : Framed line inner)
    (hmem : '\r' ∈ line) : '\r' ∈ inner := by
  obtain ⟨front, back, rfl, hfront, hback⟩ := hframed
  rcases List.mem_append.mp hmem with hbefore | hlater
  · exact absurd (hfront _ hbefore) (by decide)
  · rcases List.mem_append.mp hlater with hinside | hbehind
    · exact hinside
    · exact absurd (hback _ hbehind) (by decide)

/-- A text with its backslashes doubled, as markers write paths. -/
def doubled (text : List Char) : List Char :=
  replaceChar '\\' ['\\', '\\'] text

/-- A backslash is doubled. -/
theorem doubled_backslash (text : List Char) :
    doubled ('\\' :: text) = '\\' :: '\\' :: doubled text := by
  unfold doubled replaceChar
  rw [List.flatMap_cons, if_pos rfl, List.cons_append, List.singleton_append]

/-- Any other character stays. -/
theorem doubled_cons {c : Char} (hc : c ≠ '\\') (text : List Char) :
    doubled (c :: text) = c :: doubled text := by
  unfold doubled replaceChar
  rw [List.flatMap_cons, if_neg hc, List.singleton_append]

/-- Doubling backslashes brings in no other character. -/
theorem mem_of_mem_doubled {c : Char} {text : List Char} (hmem : c ∈ doubled text) : c ∈ text := by
  unfold doubled replaceChar at hmem
  obtain ⟨d, hd, hc⟩ := List.mem_flatMap.mp hmem
  split at hc
  · next hback =>
    have hsame : c = d := by simpa [hback] using hc
    exact hsame ▸ hd
  · exact List.mem_singleton.mp hc ▸ hd

/-- Up to its first backslash, that one included, a text goes on as it does with its backslashes
doubled. -/
theorem exists_of_doubled_eq {front text tail : List Char} {last : Char} (hfront : '\\' ∉ front)
    (htext : doubled text = front ++ last :: tail) : ∃ rest, text = front ++ last :: rest := by
  induction front generalizing text with
  | nil =>
    cases text with
    | nil => cases htext
    | cons c text =>
      refine ⟨text, ?_⟩
      by_cases hc : c = '\\'
      · rw [hc, doubled_backslash] at htext
        rw [hc, (List.cons.inj htext).1, List.nil_append]
      · rw [doubled_cons hc] at htext
        rw [(List.cons.inj htext).1, List.nil_append]
  | cons c front ih =>
    obtain ⟨hc, hrest⟩ := not_or.mp (mt List.mem_cons.mpr hfront)
    cases text with
    | nil => cases htext
    | cons d text =>
      by_cases hd : d = '\\'
      · rw [hd, doubled_backslash] at htext
        exact absurd (List.cons.inj htext).1 hc
      · rw [doubled_cons hd] at htext
        obtain ⟨rfl, hlater⟩ := List.cons.inj htext
        obtain ⟨rest, rfl⟩ := ih hrest hlater
        exact ⟨rest, rfl⟩

/-- What completes a control sequence with backslashes doubled completes one without: a backslash
can only be its final character, and then the first of two is. -/
theorem exists_afterSequence?_of_doubled {text tail : List Char}
    (htail : Ansi.afterSequence? (doubled text) = some tail) :
    ∃ rest, Ansi.afterSequence? text = some rest := by
  obtain ⟨parameters, intermediates, last, htext, hparameters, hintermediates, hlast⟩ :=
    Ansi.afterSequence?_eq_some_iff.mp htail
  have hback : '\\' ∉ '[' :: (parameters ++ intermediates) := by
    rw [List.mem_cons, List.mem_append]
    rintro (hbracket | hparameter | hintermediate)
    · exact absurd hbracket (by decide)
    · exact absurd (hparameters _ hparameter) (by decide)
    · exact absurd (hintermediates _ hintermediate) (by decide)
  have hdoubled : doubled text = ('[' :: (parameters ++ intermediates)) ++ last :: tail := by
    rw [htext, List.cons_append, List.append_assoc]
  obtain ⟨rest, rfl⟩ := exists_of_doubled_eq hback hdoubled
  refine ⟨rest, Ansi.afterSequence?_eq_some_iff.mpr
    ⟨parameters, intermediates, last, ?_, hparameters, hintermediates, hlast⟩⟩
  rw [List.cons_append, List.append_assoc]

/-- Doubling backslashes makes no control sequence. -/
theorem holdsSequence_of_doubled {text : List Char}
    (hholds : Ansi.HoldsSequence (doubled text)) : Ansi.HoldsSequence text := by
  induction text with
  | nil => exact hholds
  | cons c text ih =>
    apply Ansi.holdsSequence_cons.mpr
    by_cases hc : c = '\\'
    · have hplain : Ansi.escape ∉ ['\\', '\\'] := by decide
      rw [hc, doubled_backslash] at hholds
      exact .inr (ih (Ansi.HoldsSequence.of_append_left hplain hholds))
    · rw [doubled_cons hc] at hholds
      rcases Ansi.holdsSequence_cons.mp hholds with ⟨hescape, tail, htail⟩ | hlater
      · exact .inl ⟨hescape, exists_afterSequence?_of_doubled htail⟩
      · exact .inr (ih hlater)

/-- The text of a marker frames the path with its backslashes doubled. -/
theorem Framed.write (path : String) (a b c d : Int) :
    Framed (Marker.write path a b c d).toList (doubled path.toList) := by
  refine ⟨".line ".toList ++ (numeral a).toList ++ ",".toList ++ (numeral b).toList ++
    " : ".toList ++ (numeral c).toList ++ ",".toList ++ (numeral d).toList ++ " '".toList,
    "'".toList, ?_, ?_, List.all_iff_forall_prop.mp (by decide)⟩
  · delta Marker.write
    simp only [doubled, String.toList_append, String.toList_ofList, List.append_assoc]
  · have hnumeral (number : Int) : ∀ c ∈ (numeral number).toList, IsPlain c :=
      fun c hmem => (isOpenEnded_of_mem_numeral hmem).plain
    have hliteral : ∀ literal ∈ [".line ", ",", " : ", " '"],
        ∀ c ∈ literal.toList, IsPlain c := by
      simp only [← List.all_iff_forall_prop]
      decide
    simp only [List.forall_mem_cons] at hliteral
    obtain ⟨hdirective, hcomma, hcolon, hquote, -⟩ := hliteral
    simp only [List.forall_mem_append]
    exact ⟨⟨⟨⟨⟨⟨⟨⟨hdirective, hnumeral a⟩, hcomma⟩, hnumeral b⟩, hcolon⟩, hnumeral c⟩, hcomma⟩,
      hnumeral d⟩, hquote⟩

end Text

namespace Snippet

open Text

/-- The first annotated line frames the name of the file. -/
theorem framed_header (snippet : Snippet) :
    Framed ("// Snippet from " ++ snippet.file ++ ":" ++ numeral snippet.first).toList
      snippet.file.toList := by
  refine ⟨"// Snippet from ".toList, ":".toList ++ (numeral snippet.first).toList, ?_,
    List.all_iff_forall_prop.mp (by decide), ?_⟩
  · simp only [String.toList_append, List.append_assoc]
  · rw [List.forall_mem_append]
    exact ⟨List.all_iff_forall_prop.mp (by decide), fun c hmem => isOpenEnded_of_mem_numeral hmem⟩

/-- What stands between the lines of code frames nothing or the path in a marker. -/
theorem framed_between (file : String) (number : Int) (line : String) :
    Framed (String.toList <| annotation file number line) [] ∨
      Framed (String.toList <| annotation file number line) (doubled file.toList) := by
  unfold annotation
  split
  · exact .inr (Framed.write _ _ _ _ _)
  · exact .inl ⟨markerSkipped.toList, [], by simp, List.all_iff_forall_prop.mp (by decide), by simp⟩

/-- What holds of the lines of code, and of whatever frames nothing or the path in a marker, holds
of all annotated code. -/
theorem forall_mem_annotate {P : String → Prop} {file : String} {raw : List String}
    (hraw : ∀ line ∈ raw, P line)
    (hframed : ∀ line : String,
      Framed line.toList [] ∨ Framed line.toList (doubled file.toList) → P line) (number : Int) :
    ∀ line ∈ annotate file number raw, P line := by
  induction raw generalizing number with
  | nil => simp [annotate]
  | cons line raw ih =>
    obtain ⟨hline, hrest⟩ := List.forall_mem_cons.mp hraw
    unfold annotate
    rw [List.forall_mem_cons, List.forall_mem_cons]
    exact ⟨hframed _ (framed_between file number line), hline, ih hrest (number + 1)⟩

/-- Lines of code are among the annotated ones. -/
theorem mem_annotate {line : String} {raw : List String} (hmem : line ∈ raw) (file : String)
    (number : Int) : line ∈ annotate file number raw := by
  induction raw generalizing number with
  | nil => cases hmem
  | cons first raw ih =>
    unfold annotate
    rw [List.mem_cons, List.mem_cons]
    rcases List.mem_cons.mp hmem with rfl | hlater
    · exact .inr (.inl rfl)
    · exact .inr (.inr (ih hlater (number + 1)))

/-- Annotated code ends with the last line of code. -/
theorem getLast?_annotate (file : String) (number : Int) (raw : List String) :
    (annotate file number raw).getLast? = raw.getLast? := by
  induction raw generalizing number with
  | nil => simp [annotate]
  | cons line raw ih =>
    unfold annotate
    cases raw with
    | nil => simp [annotate]
    | cons second raw =>
      have hmore := ih (number + 1)
      simp only [annotate, List.getLast?_cons_cons] at hmore ⊢
      exact hmore

/-- No annotated line is broken exactly if neither the name of the file nor any code is. -/
theorem unbroken_annotated_iff (snippet : Snippet) :
    (∀ line ∈ snippet.annotated, Unbroken line.toList) ↔
      Unbroken snippet.file.toList ∧ ∀ line ∈ snippet.raw, Unbroken line.toList := by
  unfold annotated
  rw [List.forall_mem_cons, snippet.framed_header.unbroken_iff]
  refine and_congr_right fun hfile => ⟨fun hlines line hmem => ?_, fun hraw => ?_⟩
  · exact hlines line (mem_annotate hmem _ _)
  · refine forall_mem_annotate hraw (fun line hline => ?_) _
    rcases hline with hnothing | hpath
    · exact hnothing.unbroken_iff.mpr (by simp [Unbroken])
    · exact hpath.unbroken_iff.mpr fun c hmem => hfile c (mem_of_mem_doubled hmem)

/-- Annotating brings in no carriage return. -/
theorem return_not_mem_annotated {snippet : Snippet} (hfile : '\r' ∉ snippet.file.toList)
    (hraw : ∀ line ∈ snippet.raw, '\r' ∉ line.toList) :
    ∀ line ∈ snippet.annotated, '\r' ∉ line.toList := by
  unfold annotated
  rw [List.forall_mem_cons]
  refine ⟨fun hmem => hfile (snippet.framed_header.return_mem hmem),
    forall_mem_annotate hraw (fun line hline hmem => ?_) _⟩
  rcases hline with hnothing | hpath
  · exact absurd (hnothing.return_mem hmem) (List.not_mem_nil)
  · exact hfile (mem_of_mem_doubled (hpath.return_mem hmem))

/-- Annotating brings in no control sequence. -/
theorem not_holdsSequence_annotated {snippet : Snippet}
    (hfile : ¬Ansi.HoldsSequence snippet.file.toList)
    (hraw : ∀ line ∈ snippet.raw, ¬Ansi.HoldsSequence line.toList) :
    ∀ line ∈ snippet.annotated, ¬Ansi.HoldsSequence line.toList := by
  unfold annotated
  rw [List.forall_mem_cons]
  refine ⟨fun hholds => hfile (snippet.framed_header.holdsSequence hholds),
    forall_mem_annotate hraw (fun line hline hholds => ?_) _⟩
  rcases hline with hnothing | hpath
  · exact Ansi.not_holdsSequence List.not_mem_nil (hnothing.holdsSequence hholds)
  · exact hfile (holdsSequence_of_doubled (hpath.holdsSequence hholds))

/-- The lines that are listed of a snippet: the segments of its annotated lines, less an empty one
at the end. -/
def listing (snippet : Snippet) : List String :=
  (withoutEmptyLast ((snippet.annotated.map String.toList).flatMap segments)).map String.ofList

/-- The annotated lines are listed as they are exactly if nothing in the name of the file or in the
code breaks a line of a listing, and the last line of code is not empty. -/
theorem listing_eq_annotated_iff (snippet : Snippet) :
    snippet.listing = snippet.annotated ↔
      Unbroken snippet.file.toList ∧ (∀ line ∈ snippet.raw, Unbroken line.toList) ∧
        snippet.raw.getLast? ≠ some "" := by
  have hlast : (snippet.annotated.map String.toList).getLast? = some [] ↔
      snippet.raw.getLast? = some "" := by
    unfold annotated
    rw [List.getLast?_map, List.getLast?_cons, getLast?_annotate]
    cases snippet.raw.getLast? with
    | none => simp
    | some line => simp
  have hlines : snippet.listing = snippet.annotated ↔
      withoutEmptyLast ((snippet.annotated.map String.toList).flatMap segments) =
        snippet.annotated.map String.toList := by
    unfold listing
    constructor
    · intro hsame
      have hchars := congrArg (List.map String.toList) hsame
      simpa only [List.map_map, String.toList_comp_ofList, List.map_id] using hchars
    · intro hsame
      rw [hsame, List.map_map]
      simp
  rw [hlines, Text.listing_eq_self_iff, ne_eq, hlast, List.forall_mem_map, unbroken_annotated_iff,
    and_assoc]

end Snippet

namespace CommandLine

open Text

section Piped

variable [Host] (hkeeps : Host.KeepsText) {stream : Stream}
  (hpiped : Host.isTerminal stream = false)
include hkeeps hpiped

/-- A line without control sequences is listed as it is. -/
theorem shown_say_listed {line : String} (hline : ¬Ansi.HoldsSequence line.toList) :
    (say stream ("   :" ++ line)).shown = "   :" ++ line ++ "\n" := by
  have hplain : ¬Ansi.HoldsSequence ("   :" ++ line ++ "\n").toList := by
    intro hholds
    rw [String.toList_append, String.toList_append, List.append_assoc] at hholds
    have hbehind := hholds.of_append_left (by decide)
    exact hline (hbehind.of_append_right (by decide) (List.all_iff_forall_prop.mp (by decide)))
  unfold Echo.shown say
  simp only [hpiped, Bool.false_eq_true, if_false]
  rw [hkeeps.strip_eq_self _ hplain, String.ofList_toList]

/-- On a stream that is no terminal, a snippet whose file and code are lines without control
sequences is announced, and then its listing is shown line by line. The listing is the annotated
form, two lines for every line of code and one in front, exactly if none of its lines breaks and
the last line of code is not empty. -/
theorem showSnippet_listing {snippet : Snippet} (hfile : Document.OneLine snippet.file)
    (hraw : ∀ line ∈ snippet.raw, Document.OneLine line)
    (hplainFile : ¬Ansi.HoldsSequence snippet.file.toList)
    (hplainRaw : ∀ line ∈ snippet.raw, ¬Ansi.HoldsSequence line.toList)
    (index? : Option Int) :
    (∃ place, (showSnippet stream snippet index?).head? =
        some (say stream ("found: " ++ snippet.describe ++ place))) ∧
      (showSnippet stream snippet index?).tail.map Echo.shown =
        snippet.listing.map (fun line => "   :" ++ line ++ "\n") ∧
      snippet.annotated.length = 2 * snippet.raw.length + 1 ∧
      (snippet.listing = snippet.annotated ↔
        Unbroken snippet.file.toList ∧ (∀ line ∈ snippet.raw, Unbroken line.toList) ∧
          snippet.raw.getLast? ≠ some "") := by
  refine ⟨⟨_, rfl⟩, ?_, snippet.length_annotated, snippet.listing_eq_annotated_iff⟩
  have hreturn : ∀ line ∈ snippet.annotated.map String.toList, '\r' ∉ line := by
    rw [List.forall_mem_map]
    exact Snippet.return_not_mem_annotated hfile.1 fun line hmem => (hraw line hmem).1
  have hjoined : ("\n".intercalate snippet.annotated).toList =
      ['\n'].intercalate (snippet.annotated.map String.toList) := by
    rw [String.toList_intercalate]
    rfl
  have hechoes : (showSnippet stream snippet index?).tail =
      snippet.listing.map fun line => say stream ("   :" ++ line) := by
    unfold showSnippet Highlight.code Snippet.listing
    simp only [hpiped]
    rw [List.map_map, ← displayLines_intercalate hreturn, ← hjoined]
    simp
  have hlisted : ∀ line ∈ snippet.listing, ¬Ansi.HoldsSequence line.toList := by
    intro line hmem hholds
    obtain ⟨segment, hsegment, rfl⟩ := List.mem_map.mp hmem
    obtain ⟨_, hwhole, hpart⟩ := List.mem_flatMap.mp (mem_of_mem_withoutEmptyLast hsegment)
    obtain ⟨whole, hannotated, rfl⟩ := List.mem_map.mp hwhole
    rw [String.toList_ofList] at hholds
    exact Snippet.not_holdsSequence_annotated hplainFile hplainRaw whole hannotated
      (hholds.of_infix (of_mem_segments hpart).1)
  rw [hechoes, List.map_map]
  exact List.map_congr_left fun line hmem => shown_say_listed hkeeps hpiped (hlisted line hmem)

end Piped

/-- A snippet of three lines, a blank one among them. -/
def blankedSnippet : Snippet := ⟨"src\\a.cs", 2, 4, ["nop", "", "ret"], by decide⟩

/-- Blank code is listed if other code follows. -/
theorem showSnippet_listing_blanked :
    (showSnippet .output blankedSnippet none).tail.map Echo.shown =
      blankedSnippet.annotated.map fun line => "   :" ++ line ++ "\n" := by
  have hfile : Document.OneLine blankedSnippet.file := by decide
  have hlines : ∀ line ∈ blankedSnippet.raw, Document.OneLine line := by decide
  have hescapes : Ansi.escape ∉ blankedSnippet.file.toList ∧
      ∀ line ∈ blankedSnippet.raw, Ansi.escape ∉ line.toList := by decide
  have hpiped : Host.isTerminal .output = false := rfl
  obtain ⟨-, hshown, -, hsame⟩ :=
    showSnippet_listing Host.collecting_stripsSequences.toKeepsText hpiped hfile hlines
      (Ansi.not_holdsSequence hescapes.1)
      (fun line hmem => Ansi.not_holdsSequence (hescapes.2 line hmem)) none
  rw [hshown, hsame.mpr (by decide)]

/-- A form feed in a line of code breaks the line in two, and an empty line at the end of the code
is not listed at all, though both files hold one block. -/
theorem exists_listing_ne_annotated :
    ∃ broken shortened : Snippet,
      Block.scan "#if IL\nnop\x0cret\n#endif\n" "a.cs" Language.csharp = .ok [broken] ∧
      (showSnippet .output broken none).map Echo.shown =
        ["found: snippet in file 'a.cs' at range (2,2)\n", "   :// Snippet from a.cs:2\n",
          "   :.line 2,2 : 1,8 'a.cs'\n", "   :nop\n", "   :ret\n"] ∧
      broken.annotated =
        ["// Snippet from a.cs:2", ".line 2,2 : 1,8 'a.cs'", "nop\x0cret"] ∧
      Block.scan "#if IL\nnop\n\n#endif\n" "a.cs" Language.csharp = .ok [shortened] ∧
      ((showSnippet .output shortened none).tail.map Echo.shown).length = 4 ∧
      shortened.annotated.length = 5 := by
  refine ⟨⟨"a.cs", 2, 2, ["nop\x0cret"], by decide⟩, ⟨"a.cs", 2, 3, ["nop", ""], by decide⟩,
    ?_, ?_, ?_, ?_, ?_, ?_⟩ <;> decide +kernel

end CommandLine

end ILGraft

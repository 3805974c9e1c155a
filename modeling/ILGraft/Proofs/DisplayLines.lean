import ILGraft.Text.Line
import Mathlib.Data.Bool.AllAny
import Mathlib.Data.List.Basic

/-!
# The lines of a listing

A listing breaks a text at more characters than those that end the lines of a source. Joined lines
are therefore listed by the segments between such breaks, and of the whole an empty last line is
lost.
-/

namespace ILGraft

namespace Text

/-- The segments of a line between the breaks of a listing. -/
def segments (line : List Char) : List (List Char) :=
  line.splitOnP isLineBreak

/-- Lines less an empty one at their end. -/
def withoutEmptyLast (lines : List (List Char)) : List (List Char) :=
  if lines.getLast? = some [] then lines.dropLast else lines

/-- Nothing in a line breaks it in a listing. -/
def Unbroken (line : List Char) : Prop :=
  ∀ c ∈ line, isLineBreak c = false

instance : DecidablePred Unbroken := fun line =>
  decidable_of_iff (line.all fun c => isLineBreak c = false) List.all_iff_forall_prop

/-- An unbroken line is one with unbroken parts. -/
theorem unbroken_append {front back : List Char} :
    Unbroken (front ++ back) ↔ Unbroken front ∧ Unbroken back := by
  simp only [Unbroken, List.mem_append, or_imp, forall_and]

/-- A line has a segment at least. -/
theorem segments_ne_nil (line : List Char) : segments line ≠ [] :=
  List.splitOnP_ne_nil _ _

/-- A break ends an empty segment. -/
theorem segments_break {c : Char} (hbreak : isLineBreak c = true) (rest : List Char) :
    segments (c :: rest) = [] :: segments rest := by
  unfold segments
  rw [List.splitOnP_cons_eq_if_modifyHead, if_pos hbreak]

/-- Any other character belongs to the segment that follows it. -/
theorem segments_plain {c : Char} (hplain : isLineBreak c = false) {rest first : List Char}
    {more : List (List Char)} (hrest : segments rest = first :: more) :
    segments (c :: rest) = (c :: first) :: more := by
  unfold segments at hrest ⊢
  rw [List.splitOnP_cons_eq_if_modifyHead, if_neg (by simp [hplain]), hrest, List.modifyHead_cons]

/-- An unbroken line is its only segment. -/
theorem segments_of_unbroken {line : List Char} (hline : Unbroken line) :
    segments line = [line] := by
  induction line with
  | nil => simp [segments]
  | cons c line ih =>
    obtain ⟨hc, hrest⟩ := List.forall_mem_cons.mp hline
    exact segments_plain hc (ih hrest)

/-- Segments are unbroken parts of the line, the first one at its start. -/
theorem segments_of_eq_cons {line first : List Char} {more : List (List Char)}
    (hsegments : segments line = first :: more) :
    (first <+: line ∧ Unbroken first) ∧ ∀ segment ∈ more, segment <:+: line ∧ Unbroken segment := by
  induction line generalizing first more with
  | nil =>
    have hempty : segments [] = [[]] := by simp [segments]
    obtain ⟨rfl, rfl⟩ := List.cons.inj (hempty.symm.trans hsegments)
    simp [Unbroken]
  | cons c line ih =>
    obtain ⟨start, later, hline⟩ := List.exists_cons_of_ne_nil (segments_ne_nil line)
    obtain ⟨⟨hstart, hwhole⟩, hlater⟩ := ih hline
    have hbehind : ∀ segment ∈ later, segment <:+: c :: line ∧ Unbroken segment :=
      fun segment hmem =>
        ⟨(hlater segment hmem).1.trans (List.suffix_cons c line).isInfix, (hlater segment hmem).2⟩
    cases hbreak : isLineBreak c with
    | true =>
      obtain ⟨rfl, rfl⟩ := List.cons.inj ((segments_break hbreak line).symm.trans hsegments)
      refine ⟨⟨List.nil_prefix, by simp [Unbroken]⟩, ?_⟩
      intro segment hmem
      rw [hline] at hmem
      rcases List.mem_cons.mp hmem with rfl | hother
      · exact ⟨hstart.isInfix.trans (List.suffix_cons c line).isInfix, hwhole⟩
      · exact hbehind segment hother
    | false =>
      obtain ⟨rfl, rfl⟩ := List.cons.inj ((segments_plain hbreak hline).symm.trans hsegments)
      exact ⟨⟨List.cons_prefix_cons.mpr ⟨rfl, hstart⟩, List.forall_mem_cons.mpr ⟨hbreak, hwhole⟩⟩,
        hbehind⟩

/-- A segment is an unbroken part of the line. -/
theorem of_mem_segments {line segment : List Char} (hmem : segment ∈ segments line) :
    segment <:+: line ∧ Unbroken segment := by
  obtain ⟨first, more, hline⟩ := List.exists_cons_of_ne_nil (segments_ne_nil line)
  obtain ⟨⟨hfirst, hwhole⟩, hmore⟩ := segments_of_eq_cons hline
  rw [hline] at hmem
  rcases List.mem_cons.mp hmem with rfl | hother
  · exact ⟨hfirst.isInfix, hwhole⟩
  · exact hmore segment hother

/-- Only the last line can be lost. -/
theorem withoutEmptyLast_append (lines : List (List Char)) {more : List (List Char)}
    (hmore : more ≠ []) :
    withoutEmptyLast (lines ++ more) = lines ++ withoutEmptyLast more := by
  unfold withoutEmptyLast
  rw [List.getLast?_append_of_ne_nil lines hmore, List.dropLast_append_of_ne_nil hmore]
  split <;> rfl

/-- Nothing is lost exactly if the last line is not empty. -/
theorem withoutEmptyLast_eq_self_iff {lines : List (List Char)} :
    withoutEmptyLast lines = lines ↔ lines.getLast? ≠ some [] := by
  unfold withoutEmptyLast
  constructor
  · intro hsame hlast
    have hlength := congrArg List.length hsame
    have hne : lines ≠ [] := by
      rintro rfl
      cases hlast
    have hpositive := List.length_pos_of_ne_nil hne
    rw [if_pos hlast, List.length_dropLast] at hlength
    omega
  · exact fun hlast => if_neg hlast

/-- What is kept is among the lines. -/
theorem mem_of_mem_withoutEmptyLast {lines : List (List Char)} {line : List Char}
    (hmem : line ∈ withoutEmptyLast lines) : line ∈ lines := by
  unfold withoutEmptyLast at hmem
  split at hmem
  · exact (List.dropLast_sublist lines).mem hmem
  · exact hmem

/-- A break that does not go on ends an empty line of a listing. -/
theorem displayLines_break {c : Char} (hbreak : isLineBreak c = true) (hreturn : c ≠ '\r')
    (rest : List Char) : displayLines (c :: rest) = [] :: displayLines rest := by
  have hkept : displayLinesKeepingEnds (c :: rest) = [c] :: displayLinesKeepingEnds rest := by
    rw [displayLinesKeepingEnds.eq_3 c rest fun _ heq _ => hreturn heq, if_pos hbreak]
  simp [displayLines, hkept, hbreak]

/-- Any other character belongs to the line of the listing that follows it. -/
theorem displayLines_plain {c : Char} (hplain : isLineBreak c = false) (rest : List Char) :
    displayLines (c :: rest) =
      (c :: (displayLines rest).headD []) :: (displayLines rest).tail := by
  have hreturn : c ≠ '\r' := by
    rintro rfl
    exact absurd hplain (by decide)
  unfold displayLines
  rw [displayLinesKeepingEnds.eq_3 c rest fun _ heq _ => hreturn heq, if_neg (by simp [hplain])]
  cases displayLinesKeepingEnds rest <;> simp [hplain]

/-- A text is listed by its segments, less an empty one at its end. -/
theorem displayLines_eq {text : List Char} (hreturn : '\r' ∉ text) :
    displayLines text = withoutEmptyLast (segments text) := by
  induction text with
  | nil => simp [displayLines, displayLinesKeepingEnds, segments, withoutEmptyLast]
  | cons c rest ih =>
    obtain ⟨hc, hrest⟩ := not_or.mp (mt List.mem_cons.mpr hreturn)
    cases hbreak : isLineBreak c with
    | true =>
      rw [displayLines_break hbreak (Ne.symm hc), segments_break hbreak, ih hrest]
      exact (withoutEmptyLast_append [[]] (segments_ne_nil rest)).symm
    | false =>
      obtain ⟨first, more, hsegments⟩ := List.exists_cons_of_ne_nil (segments_ne_nil rest)
      rw [displayLines_plain hbreak, ih hrest, hsegments, segments_plain hbreak hsegments]
      cases more with
      | nil => cases first <;> simp [withoutEmptyLast]
      | cons second more =>
        have hkept (line : List Char) : withoutEmptyLast (line :: second :: more) =
            line :: withoutEmptyLast (second :: more) :=
          withoutEmptyLast_append [line] (List.cons_ne_nil second more)
        rw [hkept, hkept, List.headD_cons, List.tail_cons]

/-- A line in front of a line feed is listed by its segments. -/
theorem displayLines_append_lineFeed {line : List Char} (hreturn : '\r' ∉ line)
    (rest : List Char) :
    displayLines (line ++ '\n' :: rest) = segments line ++ displayLines rest := by
  induction line with
  | nil => exact displayLines_break (by decide) (by decide) rest
  | cons c line ih =>
    obtain ⟨hc, hline⟩ := not_or.mp (mt List.mem_cons.mpr hreturn)
    rw [List.cons_append]
    cases hbreak : isLineBreak c with
    | true =>
      rw [displayLines_break hbreak (Ne.symm hc), segments_break hbreak, ih hline,
        List.cons_append]
    | false =>
      obtain ⟨first, more, hsegments⟩ := List.exists_cons_of_ne_nil (segments_ne_nil line)
      rw [displayLines_plain hbreak, ih hline, hsegments, segments_plain hbreak hsegments,
        List.cons_append, List.headD_cons, List.tail_cons, List.cons_append]

/-- Joined lines are listed by their segments, less an empty one at the end of all. -/
theorem displayLines_intercalate {lines : List (List Char)}
    (hreturn : ∀ line ∈ lines, '\r' ∉ line) :
    displayLines (['\n'].intercalate lines) = withoutEmptyLast (lines.flatMap segments) := by
  induction lines with
  | nil => simp [displayLines, displayLinesKeepingEnds, withoutEmptyLast]
  | cons line more ih =>
    obtain ⟨hline, hmore⟩ := List.forall_mem_cons.mp hreturn
    cases more with
    | nil => simp [displayLines_eq hline]
    | cons second more =>
      have hne : (second :: more).flatMap segments ≠ [] := by
        simp [segments_ne_nil]
      rw [List.intercalate_cons_cons, List.append_assoc, List.singleton_append,
        displayLines_append_lineFeed hline, ih hmore]
      exact (withoutEmptyLast_append _ hne).symm

/-- Lines are listed as they are exactly if none is broken and the last one is not empty. -/
theorem listing_eq_self_iff {lines : List (List Char)} :
    withoutEmptyLast (lines.flatMap segments) = lines ↔
      (∀ line ∈ lines, Unbroken line) ∧ lines.getLast? ≠ some [] := by
  have hflat : (∀ line ∈ lines, Unbroken line) → lines.flatMap segments = lines := by
    intro hlines
    rw [List.flatMap_congr fun line hmem => segments_of_unbroken (hlines line hmem)]
    simp
  constructor
  · intro hsame
    have hlines : ∀ line ∈ lines, Unbroken line := by
      intro line hmem
      rw [← hsame] at hmem
      obtain ⟨whole, -, hsegment⟩ := List.mem_flatMap.mp (mem_of_mem_withoutEmptyLast hmem)
      exact (of_mem_segments hsegment).2
    rw [hflat hlines, withoutEmptyLast_eq_self_iff] at hsame
    exact ⟨hlines, hsame⟩
  · rintro ⟨hlines, hlast⟩
    rw [hflat hlines, withoutEmptyLast_eq_self_iff]
    exact hlast

end Text

end ILGraft

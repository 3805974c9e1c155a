import ILGraft.Proofs.AnnotatedLines
import ILGraft.Text.Word

/-!
# Sequence points

A directive belongs in front of an instruction and in front of nothing else. Which lines get one is
decided by how they begin, while the introducers of exception handlers are words, and there are more
of them than are looked for. So the two agree on every line but two kinds: a line that begins with
one of the overlooked introducers gets a directive, and an instruction whose first word only begins
like one that is looked for gets none.
-/

namespace ILGraft

/-- The word that a line begins with, behind the blanks in front of it. -/
def firstWord (line : String) : List Char :=
  (Text.trim line.toList).takeWhile Text.isWord

/-- The words that introduce a handler of exceptions. -/
def handlerWords : List String := ["catch", "filter", "finally", "fault"]

/-- A line that is neither blank nor a single character, no comment, no directive and no brace. -/
def IsCode (line : String) : Prop :=
  1 < (Text.trim line.toList).length ∧ ¬"//".toList <+: Text.trim line.toList ∧
    (Text.trim line.toList).head? ∉ [some '.', some '\x7b', some '\x7d']

/-- A line of code that introduces no handler. -/
def IsInstruction (line : String) : Prop :=
  IsCode line ∧ ∀ word ∈ handlerWords, firstWord line ≠ word.toList

/-- A line that begins with an introducer that is not looked for. -/
def Overlooked (line : String) : Prop :=
  ∃ word ∈ handlerWords, word ∉ handlerIntroducers ∧ firstWord line = word.toList

/-- A line whose first word begins like an introducer that is looked for, and is another word. -/
def Mistaken (line : String) : Prop :=
  ∃ word ∈ handlerIntroducers, word.toList <+: firstWord line ∧ firstWord line ≠ word.toList

instance : DecidablePred IsCode := fun _ => inferInstanceAs (Decidable (_ ∧ _ ∧ _))

instance : DecidablePred IsInstruction := fun _ => inferInstanceAs (Decidable (_ ∧ _))

instance : DecidablePred Overlooked := fun _ => inferInstanceAs (Decidable (∃ word ∈ _, _ ∧ _))

instance : DecidablePred Mistaken := fun _ => inferInstanceAs (Decidable (∃ word ∈ _, _ ∧ _))

variable {line : String}

/-- A line begins with a word exactly if its first word does. -/
theorem prefix_firstWord_iff {word : List Char} (hword : word.all Text.isWord = true) :
    word <+: firstWord line ↔ word <+: Text.trim line.toList := by
  constructor
  · intro hbegins
    exact hbegins.trans (List.takeWhile_prefix _)
  · rintro ⟨rest, hrest⟩
    rw [firstWord, ← hrest, List.takeWhile_append_of_pos (List.all_eq_true.mp hword)]
    exact List.prefix_append _ _

/-- A line is taken for a statement exactly if it is code whose first word begins with none of the
introducers that are looked for. -/
theorem isStatement_iff :
    isStatement line = true ↔
      IsCode line ∧ ∀ word ∈ handlerIntroducers, ¬word.toList <+: firstWord line := by
  have hwords : ∀ word ∈ handlerIntroducers, word.toList.all Text.isWord = true := by
    decide
  have hintroducers : (∀ word ∈ handlerIntroducers, ¬word.toList <+: firstWord line) ↔
      ∀ word ∈ handlerIntroducers, ¬word.toList <+: Text.trim line.toList :=
    forall₂_congr fun word hword => not_congr (prefix_firstWord_iff (hwords word hword))
  rw [hintroducers, isStatement, IsCode]
  cases (Text.trim line.toList).head? <;>
    simp [← List.isPrefixOf_iff_prefix, and_assoc]

/-- A line that begins like an introducer is code. -/
theorem isCode_of_begins {word : String} (hword : word ∈ handlerWords)
    (hbegins : word.toList <+: firstWord line) : IsCode line := by
  obtain ⟨rest, hrest⟩ := hbegins.trans (List.takeWhile_prefix _)
  rw [IsCode, ← hrest]
  simp only [handlerWords, List.mem_cons, List.not_mem_nil, or_false] at hword
  rcases hword with rfl | rfl | rfl | rfl <;> simp

/-- A line is overlooked only if it is no instruction, and is then taken for a statement. -/
theorem Overlooked.isStatement (hline : Overlooked line) :
    isStatement line = true ∧ ¬IsInstruction line := by
  obtain ⟨word, hword, hother, hfirst⟩ := hline
  have hnone : ∀ word ∈ handlerWords, word ∉ handlerIntroducers →
      ∀ introducer ∈ handlerIntroducers, ¬introducer.toList <+: word.toList := by
    decide
  constructor
  · rw [isStatement_iff]
    refine ⟨isCode_of_begins hword (hfirst ▸ List.prefix_rfl), ?_⟩
    rw [hfirst]
    exact hnone word hword hother
  · rintro ⟨-, hinstruction⟩
    exact hinstruction word hword hfirst

/-- A line is mistaken for an introducer only if it is an instruction, and is then not taken for a
statement. -/
theorem Mistaken.not_isStatement (hline : Mistaken line) :
    ¬isStatement line = true ∧ IsInstruction line := by
  obtain ⟨word, hword, hbegins, hne⟩ := hline
  have hknown : ∀ word ∈ handlerIntroducers, word ∈ handlerWords := by decide
  have hapart : ∀ word ∈ handlerIntroducers, ∀ other ∈ handlerWords,
      word.toList <+: other.toList → other.toList = word.toList := by
    decide
  constructor
  · rw [isStatement_iff]
    rintro ⟨-, hnone⟩
    exact hnone word hword hbegins
  · refine ⟨isCode_of_begins (hknown word hword) hbegins, fun other hother hfirst => hne ?_⟩
    rw [hfirst] at hbegins ⊢
    exact hapart word hword other hother hbegins

/-- On any other line, to be taken for a statement and to be an instruction are the same. -/
theorem isStatement_iff_isInstruction (hseen : ¬Overlooked line) (hright : ¬Mistaken line) :
    isStatement line = true ↔ IsInstruction line := by
  rw [isStatement_iff, IsInstruction]
  refine and_congr_right fun _ => ⟨fun hnone word hword hfirst => ?_,
    fun hnone word hword hbegins => ?_⟩
  · by_cases hlooked : word ∈ handlerIntroducers
    · exact hnone word hlooked (hfirst ▸ List.prefix_rfl)
    · exact hseen ⟨word, hword, hlooked, hfirst⟩
  · have hknown : ∀ word ∈ handlerIntroducers, word ∈ handlerWords := by decide
    exact hright ⟨word, hword, hbegins, hnone word (hknown word hword)⟩

namespace Snippet

/-- A directive is not the stand-in for one. -/
theorem write_ne_markerSkipped (path : String) (a b c d : Int) :
    Marker.write path a b c d ≠ markerSkipped := by
  have hfirst : (Marker.write path a b c d).toList.head? = some '.' := by
    delta Marker.write
    simp only [String.toList_append, List.append_assoc]
    rfl
  intro heq
  rw [heq] at hfirst
  exact absurd hfirst (by decide)

/-- In front of each line of code stands a directive for the whole line, or the stand-in for one. A
line that begins with an overlooked introducer has a directive, although it is no instruction; a
line that is mistaken for an introducer has none, although it is an instruction; and any other line
has one exactly if it is an instruction. -/
theorem directive_iff_isInstruction {snippet : Snippet} {before after : List String}
    (hraw : snippet.raw = before ++ line :: after) :
    let number := snippet.first + before.length
    let directive := Marker.write snippet.file number number 1 (line.length + 1)
    let text? := snippet.annotated[2 * before.length + 1]?
    snippet.annotated[2 * before.length + 2]? = some line ∧
    (text? = some directive ∨ text? = some markerSkipped) ∧ directive ≠ markerSkipped ∧
    (Overlooked line → text? = some directive ∧ ¬IsInstruction line) ∧
    (Mistaken line → text? = some markerSkipped ∧ IsInstruction line) ∧
    (¬Overlooked line → ¬Mistaken line → (text? = some directive ↔ IsInstruction line)) := by
  intro number directive text?
  have hdirective : isStatement line = true → text? = some directive := fun hstatement =>
    (annotated_getElem?_marker hraw).trans (congrArg some (if_pos hstatement))
  have hskipped : ¬isStatement line = true → text? = some markerSkipped := fun hother =>
    (annotated_getElem?_marker hraw).trans (congrArg some (if_neg hother))
  have hapart : directive ≠ markerSkipped := write_ne_markerSkipped _ _ _ _ _
  refine ⟨annotated_getElem? hraw, ?_, hapart, fun hline => ?_, fun hline => ?_,
    fun hseen hright => ?_⟩
  · by_cases hstatement : isStatement line = true
    · exact .inl (hdirective hstatement)
    · exact .inr (hskipped hstatement)
  · exact ⟨hdirective hline.isStatement.1, hline.isStatement.2⟩
  · exact ⟨hskipped hline.not_isStatement.1, hline.not_isStatement.2⟩
  · rw [← isStatement_iff_isInstruction hseen hright]
    refine ⟨fun htext => ?_, hdirective⟩
    by_contra hother
    exact hapart (Option.some.inj (htext.symm.trans (hskipped hother)))

/-- The beginning of a handler, and an instruction in it. -/
def handlerSnippet : Snippet :=
  ⟨"a.cs", 5, 6, ["catch [lib]E", "pop"], by decide⟩

/-- The handler has no directive, and the instruction in it has one. -/
theorem directive_iff_isInstruction_handlerSnippet :
    handlerSnippet.annotated[1]? = some markerSkipped ∧
      handlerSnippet.annotated[3]? = some (Marker.write "a.cs" 6 6 1 4) := by
  obtain ⟨-, hcatch, -, -, -, hcatchIff⟩ :=
    directive_iff_isInstruction (show handlerSnippet.raw = [] ++ _ :: _ from rfl)
  obtain ⟨-, -, -, -, -, hpopIff⟩ :=
    directive_iff_isInstruction (show handlerSnippet.raw = ["catch [lib]E"] ++ _ :: _ from rfl)
  constructor
  · refine hcatch.resolve_left fun hdirective => ?_
    exact absurd ((hcatchIff (by decide +kernel) (by decide +kernel)).mp hdirective)
      (by decide +kernel)
  · exact (hpopIff (by decide +kernel) (by decide +kernel)).mpr (by decide +kernel)

/-- A handler can have a directive, and an instruction none. -/
theorem exists_misplaced_directive :
    ∃ snippet : Snippet, snippet.raw = ["finally", "filter_end: nop"] ∧
      ¬IsInstruction "finally" ∧ IsInstruction "filter_end: nop" ∧
      snippet.annotated = ["// Snippet from a.cs:5", ".line 5,5 : 1,8 'a.cs'", "finally",
        markerSkipped, "filter_end: nop"] :=
  ⟨⟨"a.cs", 5, 6, ["finally", "filter_end: nop"], by decide⟩, by decide +kernel⟩

end Snippet

end ILGraft

import ILGraft.Proofs.ControlSequences
import Mathlib.Data.List.Forall2

/-!
# Coloured text

A coloured text is a plain one with control sequences put in between its parts. Each sequence is
complete before the text goes on, so stripping it takes nothing of what follows: not even a digit, a
semicolon or a letter that could have belonged to a sequence. Coloured texts may therefore be put
together piece by piece.
-/

namespace ILGraft.Text.Ansi

/-! ## What takes no part in control sequences -/

/-- A character that neither begins a control sequence nor stands in one. -/
def IsInert (c : Char) : Prop :=
  c ≠ escape ∧ isParameter c = false ∧ isIntermediate c = false ∧ isFinal c = false

/-- An inert character at the end completes no control sequence, and belongs to none. -/
theorem afterSequence?_append_inert {c : Char} (hc : IsInert c) (text : List Char) :
    afterSequence? (text ++ [c]) = (afterSequence? text).map (· ++ [c]) := by
  obtain ⟨-, hparameter, hintermediate, hfinal⟩ := hc
  have hdrop (p : Char → Bool) (hp : p c = false) (front : List Char) :
      (front ++ [c]).dropWhile p = front.dropWhile p ++ [c] := by
    rw [List.dropWhile_append]
    split
    · next hempty => rw [List.isEmpty_iff.mp hempty, List.dropWhile_cons_of_neg (by simp [hp])]; rfl
    · rfl
  -- The bracket that goes on a control sequence is none: it could end one.
  have hbracket : c ≠ '[' := by
    rintro rfl
    cases hfinal
  have hnone {d : Char} {rest : List Char} (hd : d ≠ '[') : afterSequence? (d :: rest) = none :=
    afterSequence?.eq_2 _ fun _ heq => hd (List.cons.inj heq).1
  cases text with
  | nil => exact hnone hbracket
  | cons d rest =>
    by_cases hd : d = '['
    · subst hd
      simp only [List.cons_append, afterSequence?, hdrop isParameter hparameter,
        hdrop isIntermediate hintermediate]
      cases (rest.dropWhile isParameter).dropWhile isIntermediate with
      | nil => simp [hfinal]
      | cons last tail => cases hlast : isFinal last <;> simp [hlast]
    · rw [List.cons_append, hnone hd, hnone hd, Option.map_none]

/-- Stripping leaves an inert character at the end alone. -/
theorem strip_append_inert {c : Char} (hc : IsInert c) (text : List Char) :
    strip (text ++ [c]) = strip text ++ [c] := by
  induction text using strip.induct with
  | case1 =>
    rw [List.nil_append, strip_cons fun hescape => absurd hescape hc.1, strip]
    rfl
  | case2 rest tail htail ih =>
    have hafter := afterSequence?_append_inert hc rest
    rw [htail] at hafter
    rw [List.cons_append, strip_sequence hafter, strip_sequence htail, ih]
  | case3 rest hnone ih =>
    have hafter := afterSequence?_append_inert hc rest
    rw [hnone] at hafter
    rw [List.cons_append, strip_cons fun _ => hafter, strip_cons fun _ => hnone, ih,
      List.cons_append]
  | case4 d rest hplain ih =>
    rw [List.cons_append, strip_cons fun hescape => absurd hescape hplain,
      strip_cons fun hescape => absurd hescape hplain, ih, List.cons_append]

/-! ## Coloured texts -/

/-- A text that is another one with control sequences put in: whatever follows it, stripping leaves
the other one. -/
def Colours (coloured plain : List Char) : Prop :=
  ∀ rest, strip (coloured ++ rest) = plain ++ strip rest

namespace Colours

variable {coloured plain more others : List Char}

/-- Nothing colours nothing. -/
theorem nil : Colours [] [] :=
  fun _ => rfl

/-- A text without escapes is its own coloured form. -/
theorem of_plain (hplain : escape ∉ plain) : Colours plain plain :=
  strip_append hplain

/-- Coloured texts follow one another. -/
theorem append (hfirst : Colours coloured plain) (hsecond : Colours more others) :
    Colours (coloured ++ more) (plain ++ others) := by
  intro rest
  rw [List.append_assoc, List.append_assoc, hfirst, hsecond]

/-- A control sequence colours nothing. -/
theorem of_sequence {parameters intermediates : List Char} {last : Char}
    (hparameters : ∀ c ∈ parameters, isParameter c = true)
    (hintermediates : ∀ c ∈ intermediates, isIntermediate c = true)
    (hlast : isFinal last = true) :
    Colours (escape :: '[' :: (parameters ++ (intermediates ++ [last]))) [] := by
  intro rest
  have hafter : afterSequence? (('[' :: (parameters ++ (intermediates ++ [last]))) ++ rest) =
      some rest := by
    refine afterSequence?_eq_some_iff.mpr
      ⟨parameters, intermediates, last, ?_, hparameters, hintermediates, hlast⟩
    simp only [List.cons_append, List.append_assoc, List.nil_append]
  exact strip_sequence hafter

/-- Stripping a coloured text leaves the plain one. -/
theorem strip_eq (hcolours : Colours coloured plain) : strip coloured = plain := by
  have hstrip := hcolours []
  rwa [List.append_nil, strip, List.append_nil] at hstrip

/-- Rows of coloured texts are put together. -/
theorem flatMap {α : Type} {items : List α} {dress undress : α → List Char}
    (hitems : ∀ item ∈ items, Colours (dress item) (undress item)) :
    Colours (items.flatMap dress) (items.flatMap undress) := by
  induction items with
  | nil => exact nil
  | cons item rest ih =>
    obtain ⟨hitem, hrest⟩ := List.forall_mem_cons.mp hitems
    rw [List.flatMap_cons, List.flatMap_cons]
    exact hitem.append (ih hrest)

/-- Rows of coloured texts are joined by what is plain. -/
theorem intercalate {separator : List Char} (hseparator : escape ∉ separator)
    {rows undressed : List (List Char)} (hrows : List.Forall₂ Colours rows undressed) :
    Colours (separator.intercalate rows) (separator.intercalate undressed) := by
  induction hrows with
  | nil => exact nil
  | cons hrow hmore ih =>
    cases hmore with
    | nil => simpa using hrow
    | cons hnext hmore =>
      rw [List.intercalate_cons_cons, List.intercalate_cons_cons]
      exact (hrow.append (of_plain hseparator)).append ih

end Colours

/-- A string that is another one with control sequences put in. -/
def Recolours (coloured plain : String) : Prop :=
  Colours coloured.toList plain.toList

/-- A string without escapes. -/
def EscapeFree (text : String) : Prop :=
  escape ∉ text.toList

instance : DecidablePred EscapeFree := fun text =>
  inferInstanceAs (Decidable (escape ∉ text.toList))

/-- Strings without escapes are put together. -/
theorem EscapeFree.append {front back : String} (hfront : EscapeFree front)
    (hback : EscapeFree back) : EscapeFree (front ++ back) := by
  unfold EscapeFree at *
  rw [String.toList_append, List.mem_append, not_or]
  exact ⟨hfront, hback⟩

namespace Recolours

variable {coloured plain more others : String}

/-- A string without escapes is its own coloured form. -/
theorem of_plain (hplain : EscapeFree plain) : Recolours plain plain :=
  Colours.of_plain hplain

/-- Coloured strings follow one another. -/
theorem append (hfirst : Recolours coloured plain) (hsecond : Recolours more others) :
    Recolours (coloured ++ more) (plain ++ others) := by
  unfold Recolours
  rw [String.toList_append, String.toList_append]
  exact Colours.append hfirst hsecond

/-- A code of parameters and a final letter colours nothing. -/
theorem of_sequence {code : String} (parameters : List Char)
    (hcode : code.toList = escape :: '[' :: (parameters ++ ['m']))
    (hparameters : parameters.all isParameter = true) : Recolours code "" := by
  unfold Recolours
  rw [hcode]
  exact @Colours.of_sequence parameters [] 'm' (List.all_eq_true.mp hparameters)
    (List.forall_mem_nil _) rfl

/-- Rows of coloured lines, one for each item. -/
theorem map {α : Type} {items : List α} {dress undress : α → String}
    (hitems : ∀ item ∈ items, Recolours (dress item) (undress item)) :
    List.Forall₂ Recolours (items.map dress) (items.map undress) := by
  rw [List.forall₂_map_left_iff, List.forall₂_map_right_iff, List.forall₂_same]
  exact hitems

/-- Rows of coloured lines, some for each item. -/
theorem flatMap {α : Type} {items : List α} {dress undress : α → List String}
    (hitems : ∀ item ∈ items, List.Forall₂ Recolours (dress item) (undress item)) :
    List.Forall₂ Recolours (items.flatMap dress) (items.flatMap undress) := by
  induction items with
  | nil => exact .nil
  | cons item rest ih =>
    obtain ⟨hitem, hrest⟩ := List.forall_mem_cons.mp hitems
    rw [List.flatMap_cons, List.flatMap_cons]
    exact List.rel_append hitem (ih hrest)

/-- Stripping a coloured string leaves the plain one. -/
theorem strip_eq (hcolours : Recolours coloured plain) :
    strip coloured.toList = plain.toList :=
  Colours.strip_eq hcolours

/-- Coloured lines are joined by what is plain. -/
theorem intercalate {separator : String} (hseparator : EscapeFree separator)
    {rows undressed : List String} (hrows : List.Forall₂ Recolours rows undressed) :
    Recolours (separator.intercalate rows) (separator.intercalate undressed) := by
  unfold Recolours
  rw [String.toList_intercalate, String.toList_intercalate]
  refine Colours.intercalate hseparator ?_
  rw [List.forall₂_map_left_iff, List.forall₂_map_right_iff]
  exact hrows

end Recolours

end ILGraft.Text.Ansi

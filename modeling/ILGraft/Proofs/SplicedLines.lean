import ILGraft.Injection
import ILGraft.Proofs.AnnotatedLines
import ILGraft.Proofs.OnePassMerge
import ILGraft.Proofs.Results
import Mathlib.Data.List.Basic

/-!
# Lines with snippets spliced in

Snippets are spliced in from the last place to the first. The first placement outside the lines is
refused. Otherwise the result is the one pass over the lines that puts in front of each line the
copies placed there, so the order of the placements matters among those of one place only. Numbers
that are too long to be written stand in the way of both: placements inside the lines do not suffice
for a result.
-/

namespace ILGraft

namespace Snippet

/-- Lines of code are refused for one reason. -/
theorem eq_unwritable_of_checkLines {number : Int} {code : List String} {fault : Text.LongNumeral}
    (hfault : checkLines number code = .error fault) : fault = .unwritable := by
  induction code generalizing number with
  | nil => cases hfault
  | cons line rest ih =>
    unfold checkLines at hfault
    split at hfault
    · rcases of_bind_error hfault with hnumber | ⟨numeral, -, hrest⟩
      · exact Text.eq_unwritable_of_writeNumeral hnumber
      · exact ih hrest
    · exact ih hfault

/-- A snippet can be written, or it is refused for one reason. -/
theorem checkNumerals_cases (snippet : Snippet) :
    snippet.checkNumerals = .ok () ∨ snippet.checkNumerals = .error .unwritable := by
  cases hchecked : snippet.checkNumerals with
  | ok done => exact .inl rfl
  | error fault =>
    right
    rcases of_bind_error hchecked with hfirst | ⟨numeral, -, hlines⟩
    · rw [Text.eq_unwritable_of_writeNumeral hfirst]
    · rw [eq_unwritable_of_checkLines hlines]

/-- A snippet is refused if the number of its first line cannot be written. -/
theorem checkNumerals_of_not_writable {snippet : Snippet}
    (hfirst : ¬Text.Writable snippet.first) : snippet.checkNumerals = .error .unwritable := by
  rw [checkNumerals, Text.writeNumeral, if_neg hfirst]
  rfl

end Snippet

namespace OutOfRange

/-- A placement outside the lines is named if its numbers can be written. -/
theorem tryMessage_of_writable {fault : OutOfRange}
    (hnumbers : ∀ number ∈ fault.placement.numerals, Text.Writable number) :
    fault.tryMessage = .ok fault.message := by
  rw [tryMessage, Text.checkNumerals_of_writable hnumbers]
  rfl

/-- A placement outside the lines cannot be named if one of its numbers cannot be written. -/
theorem tryMessage_of_not_writable {fault : OutOfRange}
    (hnumbers : ∃ number ∈ fault.placement.numerals, ¬Text.Writable number) :
    fault.tryMessage = .error .unwritable := by
  rw [tryMessage, Text.checkNumerals_of_not_writable hnumbers]
  rfl

end OutOfRange

namespace Splice

/-- A placement stands in front of a line, or behind the last one. -/
def Inside (size : Nat) (placement : Placement) : Prop :=
  0 ≤ placement.index ∧ placement.index ≤ (size : Int)

instance (size : Nat) (placement : Placement) : Decidable (Inside size placement) :=
  inferInstanceAs (Decidable (_ ∧ _))

/-- A fault names the first placement that is not inside. -/
structure FirstOutside (size : Nat) (placements : List Placement) (fault : OutOfRange) : Prop where
  /-- The placement that the fault names is outside. -/
  outside : ¬Inside size fault.placement
  /-- All placements in front of it are inside. -/
  first : ∃ before after, placements = before ++ fault.placement :: after ∧
    ∀ earlier ∈ before, Inside size earlier
  /-- The fault gives the number of lines. -/
  size_eq : fault.size = size

/-- The same placements in an order that differs among those of different places only. -/
structure Reordered (placements others : List Placement) : Prop where
  /-- They are the same placements. -/
  perm : others.Perm placements
  /-- Those of one place come in the same order. -/
  same_order : ∀ index : Int, (others.filter fun placement => placement.index = index) =
    placements.filter fun placement => placement.index = index

variable {lines : List String} {placements others : List Placement}

/-- The check of a placement decides whether it is inside. -/
theorem fits_iff {size : Nat} {placement : Placement} :
    fits size placement = true ↔ Inside size placement := by
  simp only [fits, Inside, Bool.and_eq_true, decide_eq_true_eq]

/-- The first placement outside is refused. -/
theorem merge_eq_error_iff {fault : OutOfRange} :
    merge lines placements = .error fault ↔ FirstOutside lines.length placements fault := by
  unfold merge
  constructor
  · intro hfault
    split at hfault
    · next placement hfound =>
      cases hfault
      obtain ⟨houtside, before, after, hplacements, hbefore⟩ :=
        List.find?_eq_some_iff_append.mp hfound
      simp only [Bool.not_eq_true', ← Bool.not_eq_true, fits_iff, not_not] at houtside hbefore
      exact ⟨houtside, ⟨before, after, hplacements, hbefore⟩, rfl⟩
    · cases hfault
  · rintro ⟨houtside, ⟨before, after, hplacements, hbefore⟩, hsize⟩
    have hfound : (placements.find? fun placement => !fits lines.length placement) =
        some fault.placement := by
      rw [List.find?_eq_some_iff_append]
      simp only [Bool.not_eq_true', ← Bool.not_eq_true, fits_iff, not_not]
      exact ⟨houtside, before, after, hplacements, hbefore⟩
    rw [hfound, ← hsize]

/-- Placements inside the lines are carried out in one pass. -/
theorem merge_of_inside (hinside : ∀ placement ∈ placements, Inside lines.length placement) :
    merge lines placements = .ok (weave Snippet.annotated placements lines) :=
  merge_eq_weave fun placement hmem => fits_iff.mpr (hinside placement hmem)

/-- Some placement is the first one outside exactly if one is outside. -/
theorem exists_firstOutside_iff {size : Nat} :
    (∃ fault, FirstOutside size placements fault) ↔
      ∃ placement ∈ placements, ¬Inside size placement := by
  constructor
  · rintro ⟨fault, houtside, ⟨before, after, rfl, -⟩, -⟩
    exact ⟨fault.placement, List.mem_append_right _ List.mem_cons_self, houtside⟩
  · intro houtside
    induction placements with
    | nil =>
      obtain ⟨placement, hmem, -⟩ := houtside
      cases hmem
    | cons head rest ih =>
      by_cases hhead : Inside size head
      · have hrest : ∃ placement ∈ rest, ¬Inside size placement :=
          (List.or_exists_of_exists_mem_cons houtside).resolve_left (not_not.mpr hhead)
        obtain ⟨fault, hfault, ⟨before, after, rfl, hbefore⟩, hsize⟩ := ih hrest
        exact ⟨fault, hfault,
          ⟨head :: before, after, rfl, List.forall_mem_cons.mpr ⟨hhead, hbefore⟩⟩, hsize⟩
      · exact ⟨⟨head, size⟩, hhead, ⟨[], rest, rfl, List.forall_mem_nil _⟩, rfl⟩

/-- The one pass over the lines does not depend on the order among different places. -/
theorem Reordered.weave_eq {α : Type} (hreordered : Reordered placements others)
    (copy : Snippet → List α) (lines : List α) :
    weave copy others lines = weave copy placements lines := by
  apply weave_congr
  intro position
  rw [copiesAt, copiesAt, hreordered.same_order]

end Splice

namespace Injection

open Splice

variable {lines : List String} {placements others : List Placement}

/-- What becomes of a splice of placements into lines. -/
inductive SpliceOutcome (lines : List String) (placements : List Placement) :
    Except Abort (List String) → Prop
  /-- The first placement outside the lines is refused. -/
  | outside {fault : OutOfRange} (houtside : FirstOutside lines.length placements fault)
    (hnamed : ∀ number ∈ fault.placement.numerals, Text.Writable number) :
    SpliceOutcome lines placements (.error (.outOfRange fault))
  /-- The first placement outside the lines is not even named. -/
  | unnamed {fault : OutOfRange} (houtside : FirstOutside lines.length placements fault)
    (hunnamed : ∃ number ∈ fault.placement.numerals, ¬Text.Writable number) :
    SpliceOutcome lines placements (.error (.longNumeral .unwritable))
  /-- All placements are inside the lines, and the snippets are woven in. -/
  | woven (hinside : ∀ placement ∈ placements, Inside lines.length placement)
    (hwritten : ∀ placement ∈ placements, placement.snippet.checkNumerals = .ok ()) :
    SpliceOutcome lines placements (.ok (weave Snippet.annotated placements lines))
  /-- All placements are inside the lines, but a snippet cannot be written. -/
  | unwritten (hinside : ∀ placement ∈ placements, Inside lines.length placement)
    (hunwritten : ∃ placement ∈ placements,
      placement.snippet.checkNumerals = .error .unwritable) :
    SpliceOutcome lines placements (.error (.longNumeral .unwritable))

private theorem checkAll_of_written
    (hwritten : ∀ placement ∈ placements, placement.snippet.checkNumerals = .ok ()) :
    (placements.forM fun placement => placement.snippet.checkNumerals.mapError Abort.longNumeral) =
      .ok () := by
  induction placements with
  | nil => rfl
  | cons placement rest ih =>
    obtain ⟨hplacement, hrest⟩ := List.forall_mem_cons.mp hwritten
    rw [List.forM, hplacement, ← ih hrest]
    rfl

private theorem checkAll_of_unwritten
    (hunwritten : ∃ placement ∈ placements, placement.snippet.checkNumerals ≠ .ok ()) :
    (placements.forM fun placement => placement.snippet.checkNumerals.mapError Abort.longNumeral) =
      .error (.longNumeral .unwritable) := by
  induction placements with
  | nil =>
    obtain ⟨placement, hmem, -⟩ := hunwritten
    cases hmem
  | cons placement rest ih =>
    rw [List.forM]
    rcases placement.snippet.checkNumerals_cases with hplacement | hplacement
    · have hrest : ∃ other ∈ rest, other.snippet.checkNumerals ≠ .ok () :=
        (List.or_exists_of_exists_mem_cons hunwritten).resolve_left (not_not.mpr hplacement)
      rw [hplacement, ← ih hrest]
      rfl
    · rw [hplacement]
      rfl

/-- Placements inside the lines are carried out in one pass, if all snippets can be written. -/
theorem splice_of_written
    (hinside : ∀ placement ∈ placements, Inside lines.length placement)
    (hwritten : ∀ placement ∈ placements, placement.snippet.checkNumerals = .ok ()) :
    splice lines placements = .ok (weave Snippet.annotated placements lines) := by
  rw [splice, merge_of_inside hinside, checkAll_of_written hwritten]
  rfl

/-- Placements inside the lines are refused if a snippet cannot be written. -/
theorem splice_of_unwritten
    (hinside : ∀ placement ∈ placements, Inside lines.length placement)
    (hunwritten : ∃ placement ∈ placements, placement.snippet.checkNumerals ≠ .ok ()) :
    splice lines placements = .error (.longNumeral .unwritable) := by
  rw [splice, merge_of_inside hinside, checkAll_of_unwritten hunwritten]
  rfl

/-- The first placement outside the lines is refused whatever the other snippets are. -/
theorem splice_of_outside {fault : OutOfRange}
    (houtside : FirstOutside lines.length placements fault)
    (hnamed : ∀ number ∈ fault.placement.numerals, Text.Writable number) :
    splice lines placements = .error (.outOfRange fault) := by
  rw [splice, merge_eq_error_iff.mpr houtside]
  dsimp only
  rw [OutOfRange.tryMessage_of_writable hnamed]
  rfl

/-- The first placement outside the lines is refused without its name if that cannot be written. -/
theorem splice_of_unnamed {fault : OutOfRange}
    (houtside : FirstOutside lines.length placements fault)
    (hunnamed : ∃ number ∈ fault.placement.numerals, ¬Text.Writable number) :
    splice lines placements = .error (.longNumeral .unwritable) := by
  rw [splice, merge_eq_error_iff.mpr houtside]
  dsimp only
  rw [OutOfRange.tryMessage_of_not_writable hunnamed]
  rfl

/-- A splice has one of its four outcomes. -/
theorem outcome_splice (lines : List String) (placements : List Placement) :
    SpliceOutcome lines placements (splice lines placements) := by
  by_cases hinside : ∀ placement ∈ placements, Inside lines.length placement
  · by_cases hwritten : ∀ placement ∈ placements, placement.snippet.checkNumerals = .ok ()
    · rw [splice_of_written hinside hwritten]
      exact .woven hinside hwritten
    · push Not at hwritten
      rw [splice_of_unwritten hinside hwritten]
      obtain ⟨placement, hmem, hunwritten⟩ := hwritten
      have hrefused := placement.snippet.checkNumerals_cases.resolve_left hunwritten
      exact .unwritten hinside ⟨placement, hmem, hrefused⟩
  · push Not at hinside
    obtain ⟨fault, hfault⟩ := exists_firstOutside_iff.mpr hinside
    by_cases hnamed : ∀ number ∈ fault.placement.numerals, Text.Writable number
    · rw [splice_of_outside hfault hnamed]
      exact .outside hfault hnamed
    · push Not at hnamed
      rw [splice_of_unnamed hfault hnamed]
      exact .unnamed hfault hnamed

section Writable

variable (hwritable : ∀ placement ∈ placements, ∀ number ∈ placement.numerals,
  Text.Writable number)
include hwritable

/-- The snippets of placements whose numbers can be written can be written. -/
theorem checkNumerals_of_mem {placement : Placement} (hmem : placement ∈ placements) :
    placement.snippet.checkNumerals = .ok () := by
  have hnumbers := hwritable placement hmem
  exact Snippet.checkNumerals_of_writable (hnumbers _ (by simp [Placement.numerals]))
    (hnumbers _ (by simp [Placement.numerals]))

/-- A placement whose numbers can be written is named if it is the first one outside. -/
theorem splice_of_firstOutside {fault : OutOfRange}
    (houtside : FirstOutside lines.length placements fault) :
    splice lines placements = .error (.outOfRange fault) := by
  obtain ⟨before, after, hplacements, -⟩ := houtside.first
  have hmem : fault.placement ∈ placements :=
    hplacements ▸ List.mem_append_right _ List.mem_cons_self
  exact splice_of_outside houtside (hwritable _ hmem)

/-- Placements inside the lines are carried out in one pass. -/
theorem splice_of_inside (hinside : ∀ placement ∈ placements, Inside lines.length placement) :
    splice lines placements = .ok (weave Snippet.annotated placements lines) :=
  splice_of_written hinside fun _ => checkNumerals_of_mem hwritable

/-- A splice is refused exactly if there is a first placement outside the lines, and names it. -/
theorem splice_eq_error_iff {abort : Abort} :
    splice lines placements = .error abort ↔
      ∃ fault, FirstOutside lines.length placements fault ∧ abort = .outOfRange fault := by
  constructor
  · intro habort
    by_cases hinside : ∀ placement ∈ placements, Inside lines.length placement
    · rw [splice_of_inside hwritable hinside] at habort
      cases habort
    · push Not at hinside
      obtain ⟨fault, hfault⟩ := exists_firstOutside_iff.mpr hinside
      rw [splice_of_firstOutside hwritable hfault] at habort
      exact ⟨fault, hfault, (Except.error.inj habort).symm⟩
  · rintro ⟨fault, hfault, rfl⟩
    exact splice_of_firstOutside hwritable hfault

/-- A splice is refused exactly if a placement is outside the lines. -/
theorem exists_error_iff :
    (∃ abort, splice lines placements = .error abort) ↔
      ∃ placement ∈ placements, ¬Inside lines.length placement := by
  simp only [splice_eq_error_iff hwritable, ← exists_firstOutside_iff]
  constructor
  · rintro ⟨abort, fault, hfault, -⟩
    exact ⟨fault, hfault⟩
  · rintro ⟨fault, hfault⟩
    exact ⟨_, fault, hfault, rfl⟩

/-- The outcomes of a splice of placements whose numbers can be written. The first placement outside
the lines is refused, and none is if all of them are inside. Then the result is the one pass over
the lines, with the copies of each place in front of its line and in the order of the placements. So
another order leads to the same if it differs among different places only. -/
theorem splice_outcomes (lines : List String) :
    (∀ abort, splice lines placements = .error abort ↔
      ∃ fault, FirstOutside lines.length placements fault ∧ abort = .outOfRange fault) ∧
    ((∃ abort, splice lines placements = .error abort) ↔
      ∃ placement ∈ placements, ¬Inside lines.length placement) ∧
    ((∀ placement ∈ placements, Inside lines.length placement) →
      splice lines placements = .ok (weave Snippet.annotated placements lines)) ∧
    ∀ others, Reordered placements others →
      ((∀ placement ∈ placements, Inside lines.length placement) →
        splice lines others = splice lines placements) ∧
      ((∃ abort, splice lines others = .error abort) ↔
        ∃ abort, splice lines placements = .error abort) := by
  refine ⟨fun _ => splice_eq_error_iff hwritable, exists_error_iff hwritable,
    splice_of_inside hwritable, fun others hreordered => ?_⟩
  have hwritable' : ∀ placement ∈ others, ∀ number ∈ placement.numerals,
      Text.Writable number := fun placement hmem =>
    hwritable placement (hreordered.perm.mem_iff.mp hmem)
  constructor
  · intro hinside
    have hinside' : ∀ placement ∈ others, Inside lines.length placement := fun placement hmem =>
      hinside placement (hreordered.perm.mem_iff.mp hmem)
    rw [splice_of_inside hwritable hinside, splice_of_inside hwritable' hinside',
      hreordered.weave_eq]
  · simp only [exists_error_iff hwritable, exists_error_iff hwritable', hreordered.perm.mem_iff]

end Writable

/-- Two placements at one place, and one in front of it that comes first in the document and last in
the list. -/
def scattered : List Placement := [
  ⟨⟨"A.cs", 7, 7, ["add"], by decide⟩, 2⟩,
  ⟨⟨"A.cs", 9, 8, [], by decide⟩, 2⟩,
  ⟨⟨"B.cs", 4, 4, ["// mul"], by decide⟩, 0⟩]

/-- The same placements in the order of their places. -/
def gathered : List Placement := scattered.drop 2 ++ scattered.take 2

/-- The copies of one place keep their order. Among fewer lines, the first placement is refused. -/
theorem splice_outcomes_scattered :
    (∀ placement ∈ scattered, ∀ number ∈ placement.numerals, Text.Writable number) ∧
    (∀ placement ∈ scattered, Inside 2 placement) ∧ Reordered scattered gathered ∧
    splice ["nop", "ret"] gathered = .ok [
      "// Snippet from B.cs:4", "// skip sequence marker", "// mul",
      "nop", "ret",
      "// Snippet from A.cs:7", ".line 7,7 : 1,4 'A.cs'", "add",
      "// Snippet from A.cs:9"] ∧
    splice ["nop"] scattered =
      .error (.outOfRange ⟨⟨⟨"A.cs", 7, 7, ["add"], by decide⟩, 2⟩, 1⟩) := by
  have hwritable : ∀ placement ∈ scattered, ∀ number ∈ placement.numerals,
      Text.Writable number := by
    decide
  have hinside : ∀ placement ∈ scattered, Inside 2 placement := by
    decide
  have hreordered : Reordered scattered gathered := by
    constructor
    · exact List.perm_append_comm
    · intro index
      simp only [gathered, scattered, List.drop, List.take, List.filter_append, List.filter_cons,
        List.filter_nil, decide_eq_true_eq]
      split_ifs <;> first | rfl | omega
  obtain ⟨-, -, hwoven, hsame⟩ := splice_outcomes hwritable ["nop", "ret"]
  obtain ⟨hrefused, -⟩ := splice_outcomes hwritable ["nop"]
  refine ⟨hwritable, hinside, hreordered, ?_, ?_⟩
  · rw [(hsame gathered hreordered).1 hinside, hwoven hinside]
    decide +kernel
  · rw [hrefused]
    exact ⟨_, ⟨by decide, ⟨[], _, rfl, List.forall_mem_nil _⟩, rfl⟩, rfl⟩

/-- A statement at the first line whose number cannot be written. -/
def farSnippet : Snippet where
  file := "a.cs"
  first := (10 ^ Text.maxNumeralDigits : Nat)
  last := (10 ^ Text.maxNumeralDigits : Nat)
  raw := ["nop"]
  covers := by rw [Int.sub_self]; rfl

/-- The place of that statement in an empty document. -/
def farPlacement : Placement :=
  ⟨farSnippet, 0⟩

/-- A placement inside the lines does not suffice for a result. -/
theorem splice_farPlacement_unwritten :
    (∀ placement ∈ [farPlacement], Inside ([] : List String).length placement) ∧
      splice [] [farPlacement] = .error (.longNumeral .unwritable) := by
  have hinside : ∀ placement ∈ [farPlacement], Inside ([] : List String).length placement := by
    intro placement hmem
    obtain rfl := List.mem_singleton.mp hmem
    exact ⟨Int.le_refl _, Int.le_refl _⟩
  have hrefused : farSnippet.checkNumerals = .error .unwritable :=
    Snippet.checkNumerals_of_not_writable Text.not_writable_limit
  refine ⟨hinside, splice_of_unwritten hinside ⟨_, List.mem_singleton_self _, ?_⟩⟩
  intro hwritten
  cases hrefused.symm.trans hwritten

end Injection

end ILGraft

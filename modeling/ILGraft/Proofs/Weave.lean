import ILGraft.Splice
import Mathlib.Data.List.Forall2

/-!
# Merging in one pass

Placements are carried out from the end of a document to its start. The result is the one pass
over the document that puts in front of every line the copies placed there, in the order of the
placements. The pass is stated for any kind of copy, so that the same facts hold of the texts of a
merged document, of its markers, and of what a search sees in it.
-/

namespace ILGraft.Splice

variable {α β : Type}

/-- What the placements at one position put in, in their order. -/
def copiesAt (copy : Snippet → List α) (placements : List Placement) (position : Nat) : List α :=
  (placements.filter fun placement => placement.index = (position : Int)).flatMap
    fun placement => copy placement.snippet

/-- Lines that begin at a position, each behind the copies placed there. -/
def thread (copy : Snippet → List α) (placements : List Placement) : Nat → List α → List α
  | _, [] => []
  | position, line :: rest =>
    copiesAt copy placements position ++ line :: thread copy placements (position + 1) rest

/-- Lines that begin at a position, each in front of the copies placed behind it. -/
def beyond (copy : Snippet → List α) (placements : List Placement) : Nat → List α → List α
  | _, [] => []
  | position, line :: rest =>
    line :: (copiesAt copy placements (position + 1)
      ++ beyond copy placements (position + 1) rest)

/-- All lines in one pass, with the copies placed in front of each and at the end. -/
def weave (copy : Snippet → List α) (placements : List Placement) (lines : List α) : List α :=
  thread copy placements 0 lines ++ copiesAt copy placements lines.length

/-- How many lines placements put in. -/
def added (placements : List Placement) : Nat :=
  (placements.flatMap fun placement => placement.snippet.annotated).length

/-- Where a line of the document stands in the merged lines: behind all copies that are placed at
its position or before it. -/
def moved (placements : List Placement) (position : Nat) : Nat :=
  position + added (placements.filter fun placement => placement.index ≤ (position : Int))

/-- Copies of several placements follow one another. -/
theorem copiesAt_append (copy : Snippet → List α) (placements more : List Placement)
    (position : Nat) :
    copiesAt copy (placements ++ more) position =
      copiesAt copy placements position ++ copiesAt copy more position := by
  simp only [copiesAt, List.filter_append, List.flatMap_append]

/-- A placement adds its copy at its own position. -/
theorem copiesAt_singleton (copy : Snippet → List α) (placement : Placement) (position : Nat) :
    copiesAt copy [placement] position =
      if placement.index = (position : Int) then copy placement.snippet else [] := by
  by_cases hindex : placement.index = (position : Int) <;> simp [copiesAt, hindex]

/-- One copy with those in front of it and those behind it. -/
theorem copiesAt_append_cons (copy : Snippet → List α) (before after : List Placement)
    {placement : Placement} {position : Nat} (hindex : placement.index = (position : Int)) :
    copiesAt copy (before ++ placement :: after) position =
      copiesAt copy before position ++ copy placement.snippet ++ copiesAt copy after position := by
  rw [← List.singleton_append, copiesAt_append, copiesAt_append, copiesAt_singleton,
    if_pos hindex, List.append_assoc]

/-- Where nothing is placed there are no copies. -/
theorem copiesAt_eq_nil {copy : Snippet → List α} {placements : List Placement} {position : Nat}
    (hnone : ∀ placement ∈ placements, placement.index ≠ (position : Int)) :
    copiesAt copy placements position = [] := by
  have hfilter : (placements.filter fun placement => placement.index = (position : Int)) = [] := by
    rw [List.filter_eq_nil_iff]
    intro placement hmem
    simpa using hnone placement hmem
  rw [copiesAt, hfilter, List.flatMap_nil]

/-- Whatever stands in a copy at a position comes from a placement there. -/
theorem mem_copiesAt {copy : Snippet → List α} {placements : List Placement} {position : Nat}
    {line : α} :
    line ∈ copiesAt copy placements position ↔
      ∃ placement ∈ placements, placement.index = (position : Int) ∧
        line ∈ copy placement.snippet := by
  simp only [copiesAt, List.mem_flatMap, List.mem_filter, decide_eq_true_eq, and_assoc]

/-- Threading goes on behind the lines it has done. -/
theorem thread_append (copy : Snippet → List α) (placements : List Placement) (position : Nat)
    (lines more : List α) :
    thread copy placements position (lines ++ more) =
      thread copy placements position lines
        ++ thread copy placements (position + lines.length) more := by
  induction lines generalizing position with
  | nil => rfl
  | cons line rest ih =>
    rw [List.cons_append, thread, thread, ih, List.append_assoc, List.cons_append,
      List.length_cons, Nat.add_assoc, Nat.add_comm 1]

/-- One more line comes behind the copies placed in front of it. -/
theorem thread_append_singleton (copy : Snippet → List α) (placements : List Placement)
    (lines : List α) (line : α) :
    thread copy placements 0 (lines ++ [line]) =
      thread copy placements 0 lines ++ copiesAt copy placements lines.length ++ [line] := by
  rw [thread_append, thread, thread, Nat.zero_add, List.append_assoc]

/-- Copies may be counted to the line in front of them or to the line behind them. -/
theorem thread_append_copiesAt (copy : Snippet → List α) (placements : List Placement)
    (position : Nat) (lines : List α) :
    thread copy placements position lines
        ++ copiesAt copy placements (position + lines.length) =
      copiesAt copy placements position ++ beyond copy placements position lines := by
  induction lines generalizing position with
  | nil => simp [thread, beyond]
  | cons line rest ih =>
    have hnext := ih (position + 1)
    rw [show position + 1 + rest.length = position + (line :: rest).length by
      rw [List.length_cons]; omega] at hnext
    rw [thread, beyond, ← hnext, List.append_assoc, List.cons_append]

/-- A merged document up to a line, the copies in front of that line, and the rest. -/
theorem weave_append (copy : Snippet → List α) (placements : List Placement)
    (lines more : List α) :
    weave copy placements (lines ++ more) =
      thread copy placements 0 lines ++ copiesAt copy placements lines.length
        ++ beyond copy placements lines.length more := by
  rw [weave, thread_append, Nat.zero_add, List.length_append, List.append_assoc,
    thread_append_copiesAt, List.append_assoc]

/-- Where the copy of one placement stands in a merged document. -/
theorem weave_eq_append_copy (copy : Snippet → List α) (before after : List Placement)
    {placement : Placement} {lines : List α} {position : Nat}
    (hindex : placement.index = (position : Int)) (hle : position ≤ lines.length) :
    ∃ back, weave copy (before ++ placement :: after) lines =
      thread copy (before ++ placement :: after) 0 (lines.take position)
        ++ copiesAt copy before position ++ copy placement.snippet ++ back := by
  have hlines := (List.take_append_drop position lines).symm
  have hlength := List.length_take_of_le hle
  refine ⟨copiesAt copy after position
    ++ beyond copy (before ++ placement :: after) position (lines.drop position), ?_⟩
  conv_lhs => rw [hlines, weave_append, hlength, copiesAt_append_cons copy before after hindex]
  simp only [List.append_assoc]

/-- Placements of which no copy lies at the positions of some lines leave these lines alone. -/
theorem thread_eq_self {copy : Snippet → List α} {placements : List Placement} {position : Nat}
    {lines : List α}
    (hnone : ∀ placement ∈ placements, (position + lines.length : Nat) ≤ placement.index) :
    thread copy placements position lines = lines := by
  induction lines generalizing position with
  | nil => rfl
  | cons line rest ih =>
    simp only [List.length_cons] at hnone
    have hhere : copiesAt copy placements position = [] := copiesAt_eq_nil fun placement hmem => by
      have := hnone placement hmem
      omega
    have hrest : thread copy placements (position + 1) rest = rest := ih fun placement hmem => by
      have := hnone placement hmem
      omega
    rw [thread, hhere, hrest, List.nil_append]

/-- Without placements the lines stay as they are. -/
theorem weave_nil (copy : Snippet → List α) (lines : List α) : weave copy [] lines = lines := by
  rw [weave, thread_eq_self (List.forall_mem_nil _), copiesAt_eq_nil (List.forall_mem_nil _),
    List.append_nil]

/-- What is threaded depends on the copies at the positions of the lines only. -/
theorem thread_congr {copy : Snippet → List α} {placements others : List Placement}
    {position : Nat} {lines : List α}
    (hsame : ∀ k, position ≤ k → k < position + lines.length →
      copiesAt copy placements k = copiesAt copy others k) :
    thread copy placements position lines = thread copy others position lines := by
  induction lines generalizing position with
  | nil => rfl
  | cons line rest ih =>
    simp only [List.length_cons] at hsame
    rw [thread, thread, hsame position (Nat.le_refl _) (by omega),
      ih fun k hfirst hlast => hsame k (by omega) (by omega)]

/-- What lies beyond a position depends on the copies behind it only. -/
theorem beyond_congr {copy : Snippet → List α} {placements others : List Placement}
    {position : Nat} {lines : List α}
    (hsame : ∀ k, position < k → copiesAt copy placements k = copiesAt copy others k) :
    beyond copy placements position lines = beyond copy others position lines := by
  induction lines generalizing position with
  | nil => rfl
  | cons line rest ih =>
    rw [beyond, beyond, hsame (position + 1) (by omega), ih fun k hlt => hsame k (by omega)]

/-- What is woven depends on the copies at each position only. -/
theorem weave_congr {copy : Snippet → List α} {placements others : List Placement}
    {lines : List α}
    (hsame : ∀ k, copiesAt copy placements k = copiesAt copy others k) :
    weave copy placements lines = weave copy others lines := by
  rw [weave, weave, hsame, thread_congr fun k _ _ => hsame k]

/-- Two ways of copying that agree line by line weave to documents that agree line by line. -/
theorem forall₂_weave {R : α → β → Prop} {copy : Snippet → List α} {copy' : Snippet → List β}
    {placements : List Placement} {lines : List α} {lines' : List β}
    (hcopies : ∀ placement ∈ placements,
      List.Forall₂ R (copy placement.snippet) (copy' placement.snippet))
    (hlines : List.Forall₂ R lines lines') :
    List.Forall₂ R (weave copy placements lines) (weave copy' placements lines') := by
  have hat (position : Nat) :
      List.Forall₂ R (copiesAt copy placements position) (copiesAt copy' placements position) := by
    rw [copiesAt, copiesAt]
    induction placements with
    | nil => exact .nil
    | cons placement rest ih =>
      have hrest := ih fun other hother => hcopies other (List.mem_cons_of_mem _ hother)
      rw [List.filter_cons]
      split
      · rw [List.flatMap_cons, List.flatMap_cons]
        exact List.rel_append (hcopies placement List.mem_cons_self) hrest
      · exact hrest
  have hthread (position : Nat) :
      List.Forall₂ R (thread copy placements position lines)
        (thread copy' placements position lines') := by
    induction hlines generalizing position with
    | nil => exact .nil
    | cons hline _ ih => exact List.rel_append (hat position) (.cons hline (ih (position + 1)))
  rw [weave, weave, hlines.length_eq]
  exact List.rel_append (hthread 0) (hat _)

end ILGraft.Splice

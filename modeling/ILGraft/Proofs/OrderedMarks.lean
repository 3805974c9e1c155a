import ILGraft.Proofs.StraddlingPairs
import Mathlib.Data.List.Basic

/-!
# Marks in the order of their source lines

Where no mark of its file lies in the range of a snippet, every mark is in front of the range or
behind it, so a search meets a straddling pair as soon as it gets from one side to the other. Where
the marks come in the order of their source lines, that happens once at most, and snippets are
placed in the order of their ranges.
-/

namespace ILGraft

namespace Document

/-- No mark of a snippet's file gives a line in the range of the snippet. -/
def RangeFree (document : Document) (snippet : Snippet) : Prop :=
  ∀ mark, document.HasMark snippet.file mark →
    ¬(snippet.first ≤ (mark.number : Int) ∧ (mark.number : Int) ≤ snippet.last)

/-- The marks of a file come in the order of their source lines. Several may give the same line. -/
def Ascends (document : Document) (file : String) : Prop :=
  ∀ one other, document.HasMark file one → document.HasMark file other →
    one.position < other.position → one.number ≤ other.number

instance (document : Document) (snippet : Snippet) : Decidable (document.RangeFree snippet) :=
  decidable_of_iff (∀ mark ∈ document.marksOf snippet.file,
    ¬(snippet.first ≤ (mark.number : Int) ∧ (mark.number : Int) ≤ snippet.last)) (by
      simp only [mem_marksOf_iff, RangeFree])

instance (document : Document) (file : String) : Decidable (document.Ascends file) :=
  decidable_of_iff (∀ one ∈ document.marksOf file, ∀ other ∈ document.marksOf file,
    one.position < other.position → one.number ≤ other.number) (by
      simp only [mem_marksOf_iff, Ascends]
      constructor
      · intro h one other hone hother
        exact h one hone other hother
      · intro h one hone other hother
        exact h one other hone hother)

variable {document : Document} {snippet : Snippet} {file : String}

/-- A mark of a snippet's file is in front of a range that is free of marks, or behind it. -/
theorem RangeFree.sides (hfree : document.RangeFree snippet) {mark : Mark}
    (hmark : document.HasMark snippet.file mark) :
    (mark.number : Int) < snippet.first ∨ snippet.last < (mark.number : Int) := by
  have := hfree mark hmark
  omega

/-- Where the marks get from one side of a free range to the other, two consecutive ones do. -/
theorem RangeFree.exists_straddles (hfree : document.RangeFree snippet) {one other : Mark}
    (hone : document.HasMark snippet.file one) (hother : document.HasMark snippet.file other)
    (hlt : one.position < other.position) (hbefore : (one.number : Int) < snippet.first)
    (hbehind : snippet.last < (other.number : Int)) : ∃ pair, document.Straddles snippet pair := by
  -- A mark between the two halves the way: it can stand for the one on its own side.
  induction hdistance : other.position - one.position using Nat.strongRecOn
    generalizing one other with
  | _ distance ih =>
    by_cases hbetween : ∃ mark, document.HasMark snippet.file mark ∧
        one.position < mark.position ∧ mark.position < other.position
    · obtain ⟨mark, hmark, hleft, hright⟩ := hbetween
      rcases hfree.sides hmark with hfront | hback
      · exact ih (other.position - mark.position) (by omega) hmark hother hright hfront hbehind rfl
      · exact ih (mark.position - one.position) (by omega) hone hmark hleft hbefore hback rfl
    · refine ⟨(one, other), ⟨hone, hother, hlt, fun mark hmark hleft => ?_⟩, hbefore, hbehind⟩
      by_contra hright
      exact hbetween ⟨mark, hmark, hleft, Nat.lt_of_not_le hright⟩

/-- Consecutive marks are known by the second of them. -/
theorem Consecutive.eq_of_second {pair other : Mark × Mark}
    (hpair : document.Consecutive file pair) (hother : document.Consecutive file other)
    (hsecond : pair.2 = other.2) : pair = other := by
  have hpairOrdered := hpair.ordered
  have hotherOrdered := hother.ordered
  have hposition : pair.1.position = other.1.position := by
    by_contra hne
    rcases Nat.lt_or_gt_of_ne hne with hlt | hlt
    · have := hpair.nothing_between other.1 hother.first hlt
      rw [hsecond] at this
      omega
    · have := hother.nothing_between pair.1 hpair.first hlt
      rw [← hsecond] at this
      omega
  exact Prod.ext (hpair.first.eq_of_position hother.first hposition) hsecond

/-- A mark at an earlier position, or at the same one, gives no later line. -/
theorem Ascends.number_le (hascends : document.Ascends file) {one other : Mark}
    (hone : document.HasMark file one) (hother : document.HasMark file other)
    (hle : one.position ≤ other.position) : one.number ≤ other.number := by
  rcases Nat.lt_or_eq_of_le hle with hlt | heq
  · exact hascends one other hone hother hlt
  · exact Nat.le_of_eq (congrArg Mark.number (hone.eq_of_position hother heq))

/-- If marks ascend, a pair around one snippet and a pair around another one, which does not begin
before the first begins, do not stand in the opposite order. -/
theorem Ascends.second_le (hascends : document.Ascends snippet.file) {other : Snippet}
    {pair next : Mark × Mark} (hfile : other.file = snippet.file)
    (hfirst : snippet.first ≤ other.first) (hpair : document.Straddles snippet pair)
    (hnext : document.Straddles other next) : pair.2.position ≤ next.2.position := by
  have hmark : document.HasMark snippet.file next.2 := hfile ▸ hnext.second
  by_contra hlt
  have hle : next.2.position ≤ pair.1.position := by
    by_contra hbehind
    have := hpair.nothing_between next.2 hmark (by omega)
    omega
  have hnumber := hascends.number_le hmark hpair.first hle
  have hbefore := hpair.before
  have hbehind := hnext.behind
  have hcovers := other.covers
  omega

/-- If marks ascend, a single pair at most straddles a snippet. -/
theorem Ascends.straddles_unique (hascends : document.Ascends snippet.file)
    {pair other : Mark × Mark} (hpair : document.Straddles snippet pair)
    (hother : document.Straddles snippet other) : pair = other := by
  have hle := hascends.second_le rfl (Int.le_refl _) hpair hother
  have hge := hascends.second_le rfl (Int.le_refl _) hother hpair
  apply hpair.toConsecutive.eq_of_second hother.toConsecutive
  exact hpair.second.eq_of_position hother.second (Nat.le_antisymm hle hge)

/-- If marks ascend, those outside a straddling pair are outside the range of the snippet. -/
theorem Ascends.rangeFree_of_straddles (hascends : document.Ascends snippet.file)
    {pair : Mark × Mark} (hpair : document.Straddles snippet pair) :
    document.RangeFree snippet := by
  rintro mark hmark ⟨hfirst, hlast⟩
  have hbefore := hpair.before
  have hbehind := hpair.behind
  by_cases hfront : mark.position ≤ pair.1.position
  · have := hascends.number_le hmark hpair.first hfront
    omega
  · have hback := hpair.nothing_between mark hmark (by omega)
    have := hascends.number_le hpair.second hmark hback
    omega

/-- If marks ascend, a pair straddles a snippet exactly if there are marks on both sides of its
range and none inside. -/
theorem Ascends.exists_straddles_iff (hascends : document.Ascends snippet.file) :
    (∃ pair, document.Straddles snippet pair) ↔
      (∃ mark, document.HasMark snippet.file mark ∧ (mark.number : Int) < snippet.first) ∧
      (∃ mark, document.HasMark snippet.file mark ∧ snippet.last < (mark.number : Int)) ∧
      document.RangeFree snippet := by
  constructor
  · rintro ⟨pair, hpair⟩
    exact ⟨⟨pair.1, hpair.first, hpair.before⟩, ⟨pair.2, hpair.second, hpair.behind⟩,
      hascends.rangeFree_of_straddles hpair⟩
  · rintro ⟨⟨one, hone, hbefore⟩, ⟨other, hother, hbehind⟩, hfree⟩
    have hlt : one.position < other.position := by
      by_contra hge
      have hnumber := hascends.number_le hother hone (by omega)
      have hcovers := snippet.covers
      omega
    exact hfree.exists_straddles hone hother hlt hbefore hbehind

end Document

namespace Placement

/-- Marks in the order of their source lines, with a line of another file between them. -/
def risingMarks : Document where
  lines := [
    ⟨".line 1,1 : 1,2 'A.cs'", ⟨some "A.cs", 1⟩, rfl⟩,
    ⟨".line 3,3 : 1,2 'B.cs'", ⟨some "B.cs", 3⟩, rfl⟩,
    ⟨".line 5,5 : 1,2 'A.cs'", ⟨some "A.cs", 5⟩, rfl⟩,
    ⟨"ldarg.0", ⟨none, 0⟩, rfl⟩,
    ⟨".line 8,8 : 1,2 ''", ⟨none, 8⟩, rfl⟩]

/-- Code between the lines of the first two marks, and no code between those of the last two. -/
def earlierAndLater : Snippet × Snippet :=
  (⟨"A.cs", 3, 4, ["add", "pop"], by decide⟩, ⟨"A.cs", 7, 6, [], by decide⟩)

end Placement

end ILGraft

import ILGraft.Proofs.SourceMarks
import Mathlib.Data.List.Induction

/-!
# Crossings in runs of numbers

A search counts a crossing wherever the numbers that it sees get from before a snippet to behind
it. An ascending run between two numbers leaves a crossing between them, if it has no number in the
range of the snippet, and takes it away otherwise.
-/

namespace ILGraft

namespace Placement

/-- The last number that is not zero, given the one in front of all. -/
def latest (latest? : Option Nat) : List Nat → Option Nat
  | [] => latest?
  | number :: rest => latest (if number = 0 then latest? else some number) rest

/-- The last number of two runs is that of the second, if it has one. -/
theorem latest_append (latest? : Option Nat) (numbers more : List Nat) :
    latest latest? (numbers ++ more) = latest (latest latest? numbers) more := by
  induction numbers generalizing latest? with
  | nil => rfl
  | cons number rest ih => rw [List.cons_append, latest, latest, ih]

/-- Zeros leave the last number as it is. -/
theorem latest_of_zeros {latest? : Option Nat} {numbers : List Nat}
    (hzeros : ∀ number ∈ numbers, number = 0) : latest latest? numbers = latest? := by
  induction numbers with
  | nil => rfl
  | cons number rest ih =>
    rw [latest, if_pos (hzeros number List.mem_cons_self),
      ih fun other hother => hzeros other (List.mem_cons_of_mem _ hother)]

/-- Crossings in more numbers are found from the last number before them. -/
theorem crossings_append (snippet : Snippet) (position : Nat) (latest? : Option Nat)
    (numbers more : List Nat) :
    crossings snippet position latest? (numbers ++ more) =
      crossings snippet position latest? numbers
        ++ crossings snippet (position + numbers.length) (latest latest? numbers) more := by
  induction numbers generalizing position latest? with
  | nil => rfl
  | cons number rest ih =>
    have hlength : position + (number :: rest).length = position + 1 + rest.length := by
      rw [List.length_cons]
      omega
    rw [List.cons_append, crossings, crossings, latest, hlength]
    by_cases hnumber : number = 0
    · rw [if_pos hnumber, if_pos hnumber, if_pos hnumber, ih]
    · rw [if_neg hnumber, if_neg hnumber, if_neg hnumber, ih, List.append_assoc]

/-- A single number is a crossing if it lies behind the snippet and the number before it in
front. -/
theorem crossings_singleton (snippet : Snippet) (position : Nat) (latest? : Option Nat)
    (number : Nat) :
    crossings snippet position latest? [number] =
      if number ≠ 0 ∧ straddles snippet latest? number = true then [position] else [] := by
  rw [crossings, crossings, crossings]
  by_cases hnumber : number = 0
  · simp [hnumber]
  · by_cases hcross : straddles snippet latest? number = true <;> simp [hnumber, hcross]

/-- Crossings lie at the positions of the numbers. -/
theorem of_mem_crossings {snippet : Snippet} {position : Nat} {latest? : Option Nat}
    {numbers : List Nat} {place : Nat}
    (hmem : place ∈ crossings snippet position latest? numbers) :
    position ≤ place ∧ place < position + numbers.length := by
  induction numbers generalizing position latest? with
  | nil => cases hmem
  | cons number rest ih =>
    rw [List.length_cons]
    rw [crossings] at hmem
    split at hmem
    · have := ih hmem
      omega
    · rcases List.mem_append.mp hmem with hhere | hlater
      · split at hhere
        · rw [List.mem_singleton.mp hhere]
          omega
        · cases hhere
      · have := ih hlater
        omega

/-- A crossing is a number that straddles the snippet with the last number before it. -/
theorem straddles_of_mem_crossings {snippet : Snippet} {front back : List Nat} {number : Nat}
    (hmem : front.length ∈ crossings snippet 0 none (front ++ number :: back)) :
    number ≠ 0 ∧ straddles snippet (latest none front) number = true := by
  rw [List.append_cons, crossings_append, crossings_append, crossings_singleton,
    Nat.zero_add, List.length_append, List.length_singleton] at hmem
  rcases List.mem_append.mp hmem with hupto | hbehind
  · rcases List.mem_append.mp hupto with hfront | hhere
    · have := of_mem_crossings hfront
      omega
    · split at hhere
      · assumption
      · cases hhere
  · have := of_mem_crossings hbehind
    omega

/-- What it takes for two numbers to straddle a snippet. -/
theorem straddles_iff {snippet : Snippet} {latest? : Option Nat} {number : Nat} :
    straddles snippet latest? number = true ↔
      ∃ before, latest? = some before ∧ (before : Int) < snippet.first ∧
        snippet.last < (number : Int) := by
  cases latest? with
  | none => simp [straddles]
  | some before => simp [straddles]

/-- Numbers in front of a snippet change nothing for the number behind them, if the number before
them is in front of the snippet as well. -/
theorem crossings_of_below {snippet : Snippet} {position : Nat} {latest? : Option Nat}
    {numbers : List Nat} {number : Nat}
    (hbelow : ∀ other ∈ numbers, other ≠ 0 → (other : Int) < snippet.first ∧
      ∃ before, latest? = some before ∧ (before : Int) < snippet.first) :
    crossings snippet position latest? (numbers ++ [number]) =
      crossings snippet (position + numbers.length) latest? [number] := by
  induction numbers generalizing position latest? with
  | nil => rfl
  | cons other rest ih =>
    have hlength : position + (other :: rest).length = position + 1 + rest.length := by
      rw [List.length_cons]
      omega
    rw [List.cons_append, crossings, hlength]
    by_cases hother : other = 0
    · rw [if_pos hother, ih fun next hnext => hbelow next (List.mem_cons_of_mem _ hnext)]
    · obtain ⟨hlow, before, rfl, hbefore⟩ := hbelow other List.mem_cons_self hother
      have hcovers := snippet.covers
      have hcross : ¬ straddles snippet (some before) other = true := by
        rw [straddles_iff]
        rintro ⟨_, -, -, hlast⟩
        omega
      have hsame : straddles snippet (some other) number = straddles snippet (some before) number :=
        by simp [straddles, hlow, hbefore]
      rw [if_neg hother, if_neg hcross, List.nil_append, ih, crossings_singleton,
        crossings_singleton, hsame]
      intro next hnext hne
      exact ⟨(hbelow next (List.mem_cons_of_mem _ hnext) hne).1, other, rfl, hlow⟩

/-- An ascending run between the number before it and the number behind it. -/
structure Between (latest? : Option Nat) (numbers : List Nat) (number : Nat) : Prop where
  /-- The run ascends, zeros apart. -/
  ascends : numbers.Pairwise fun one other => one ≠ 0 → other ≠ 0 → one < other
  /-- There is a smaller number before the run, if the run is not all zeros. -/
  above : ∀ other ∈ numbers, other ≠ 0 → ∃ before, latest? = some before ∧ before < other
  /-- The number behind the run is larger. -/
  below : ∀ other ∈ numbers, other ≠ 0 → other < number

/-- Whether no number of a run lies in the range of a snippet. -/
def Avoids (snippet : Snippet) (numbers : List Nat) : Prop :=
  ∀ number ∈ numbers, number ≠ 0 → (number : Int) < snippet.first ∨ snippet.last < (number : Int)

instance (snippet : Snippet) (numbers : List Nat) : Decidable (Avoids snippet numbers) :=
  inferInstanceAs (Decidable (∀ number ∈ numbers, number ≠ 0 →
    (number : Int) < snippet.first ∨ snippet.last < (number : Int)))

/-- What is left of a run behind its first number is a run. -/
theorem Between.tail {latest? : Option Nat} {other number : Nat} {rest : List Nat}
    (hbetween : Between latest? (other :: rest) number) :
    Between (if other = 0 then latest? else some other) rest number := by
  obtain ⟨hfirst, hrest⟩ := List.pairwise_cons.mp hbetween.ascends
  refine ⟨hrest, fun next hnext hne => ?_, fun next hnext hne =>
    hbetween.below next (List.mem_cons_of_mem _ hnext) hne⟩
  by_cases hother : other = 0
  · rw [if_pos hother]
    exact hbetween.above next (List.mem_cons_of_mem _ hnext) hne
  · rw [if_neg hother]
    exact ⟨other, rfl, hfirst next hnext hother hne⟩

private theorem length_crossings_singleton {snippet : Snippet} {position before number : Nat}
    (hnumber : number ≠ 0) :
    (crossings snippet position (some before) [number]).length =
      if (before : Int) < snippet.first ∧ snippet.last < (number : Int) then 1 else 0 := by
  have hcross : straddles snippet (some before) number = true ↔
      (before : Int) < snippet.first ∧ snippet.last < (number : Int) := by
    simp [straddles]
  rw [crossings_singleton]
  by_cases hamid : (before : Int) < snippet.first ∧ snippet.last < (number : Int)
  · rw [if_pos hamid, if_pos ⟨hnumber, hcross.mpr hamid⟩, List.length_singleton]
  · rw [if_neg hamid, if_neg fun h => hamid (hcross.mp h.2), List.length_nil]

private theorem length_crossings_cons {snippet : Snippet} {position before other : Nat}
    {rest : List Nat} (hother : other ≠ 0) :
    (crossings snippet position (some before) (other :: rest)).length =
      (if (before : Int) < snippet.first ∧ snippet.last < (other : Int) then 1 else 0)
        + (crossings snippet (position + 1) (some other) rest).length := by
  have hhere : (crossings snippet position (some before) [other]).length =
      if (before : Int) < snippet.first ∧ snippet.last < (other : Int) then 1 else 0 :=
    length_crossings_singleton hother
  rw [← List.singleton_append, crossings_append, List.length_append, hhere, latest, latest,
    if_neg hother, List.length_singleton]

/-- A run outside the range of a snippet leaves it as many crossings as there were without it. -/
theorem length_crossings_of_avoids {snippet : Snippet} {position : Nat} (place : Nat)
    {latest? : Option Nat} {numbers : List Nat} {number : Nat}
    (hbetween : Between latest? numbers number) (havoids : Avoids snippet numbers) :
    (crossings snippet position latest? (numbers ++ [number])).length =
      (crossings snippet place latest? [number]).length := by
  induction numbers generalizing position latest? with
  | nil =>
    rw [List.nil_append, crossings_singleton, crossings_singleton]
    split <;> rfl
  | cons other rest ih =>
    have htail := hbetween.tail
    have hrest : Avoids snippet rest := fun next hnext =>
      havoids next (List.mem_cons_of_mem _ hnext)
    by_cases hother : other = 0
    · rw [if_pos hother] at htail
      rw [List.cons_append, crossings, if_pos hother, ih htail hrest]
    · rw [if_neg hother] at htail
      obtain ⟨before, rfl, hbefore⟩ := hbetween.above other List.mem_cons_self hother
      have hnumber := hbetween.below other List.mem_cons_self hother
      have hpos : number ≠ 0 := by omega
      have hcovers := snippet.covers
      rw [List.cons_append, length_crossings_cons hother, ih htail hrest,
        length_crossings_singleton hpos, length_crossings_singleton hpos]
      rcases havoids other List.mem_cons_self hother with hlow | hhigh
      · have hhere : ¬ ((before : Int) < snippet.first ∧ snippet.last < (other : Int)) := by omega
        rw [if_neg hhere, Nat.zero_add]
        congr 1
        simp only [eq_iff_iff]
        omega
      · -- the crossing is at the run itself and no longer at the number behind it
        have hlater : ¬ ((other : Int) < snippet.first ∧ snippet.last < (number : Int)) := by omega
        rw [if_neg hlater, Nat.add_zero]
        congr 1
        simp only [eq_iff_iff]
        omega

/-- A run with a number in the range of a snippet leaves it no crossing. -/
theorem crossings_of_not_avoids {snippet : Snippet} {position : Nat} {latest? : Option Nat}
    {numbers : List Nat} {number : Nat}
    (hbetween : Between latest? numbers number) (hinside : ¬ Avoids snippet numbers) :
    crossings snippet position latest? (numbers ++ [number]) = [] := by
  rw [← List.length_eq_zero_iff]
  induction numbers generalizing position latest? with
  | nil => exact absurd (List.forall_mem_nil _) hinside
  | cons other rest ih =>
    have htail := hbetween.tail
    by_cases hother : other = 0
    · rw [if_pos hother] at htail
      rw [List.cons_append, crossings, if_pos hother, ih htail]
      intro hrest
      refine hinside fun next hnext hne => ?_
      rcases List.mem_cons.mp hnext with rfl | hnext
      · exact absurd hother hne
      · exact hrest next hnext hne
    · rw [if_neg hother] at htail
      obtain ⟨before, rfl, hbefore⟩ := hbetween.above other List.mem_cons_self hother
      have hnumber := hbetween.below other List.mem_cons_self hother
      have hpos : number ≠ 0 := by omega
      rw [List.cons_append, length_crossings_cons hother]
      by_cases hrest : Avoids snippet rest
      · have hin : snippet.first ≤ (other : Int) ∧ (other : Int) ≤ snippet.last := by
          by_contra hout
          refine hinside fun next hnext hne => ?_
          rcases List.mem_cons.mp hnext with rfl | hnext
          · omega
          · exact hrest next hnext hne
        rw [length_crossings_of_avoids 0 htail hrest, length_crossings_singleton hpos,
          if_neg (by omega), if_neg (by omega)]
      · have hlow : ¬ snippet.last < (other : Int) := by
          intro hhigh
          refine hrest fun next hnext hne => ?_
          have := (List.pairwise_cons.mp hbetween.ascends).1 next hnext hother hne
          omega
        rw [ih htail hrest, if_neg (by omega)]

end Placement

end ILGraft

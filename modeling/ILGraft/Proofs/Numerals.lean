import ILGraft.Text.Numeral
import Mathlib.Algebra.Group.Nat.Defs

/-!
# Written numerals

A numeral is written in ASCII digits. Every character of it is a digit to the reader, and reading
it gives the number back, as long as it is not too long to be read.
-/

namespace ILGraft.Text

/-- The ASCII digits are told by their code points. -/
theorem range_of_isDigit {c : Char} (hc : c.isDigit = true) :
    0x30 ≤ c.toNat ∧ c.toNat ≤ 0x39 := by
  simp only [Char.isDigit, Bool.and_eq_true, decide_eq_true_eq, ge_iff_le,
    UInt32.le_iff_toNat_le] at hc
  exact hc

/-- An ASCII digit has the value of its distance from zero. -/
theorem digitValue?_of_isDigit {c : Char} (hc : c.isDigit = true) :
    digitValue? c = some (c.toNat - 48) := by
  have hdigit := range_of_isDigit hc
  have hascii : c.toNat < 0x80 := by omega
  rw [digitValue?, if_pos hascii, if_pos hdigit]

/-- The characters of a written number are digits. -/
theorem isDigit_of_mem_toDigits {n : Nat} {c : Char} (hc : c ∈ Nat.toDigits 10 n) :
    isDigit c = true := by
  have hdigit := Nat.isDigit_of_mem_toDigits (by decide) (by decide) hc
  rw [isDigit, digitValue?_of_isDigit hdigit, Option.isSome_some]

/-- The digit values of a written number, one for each character. -/
theorem filterMap_digitValue?_toDigits (n : Nat) :
    (Nat.toDigits 10 n).filterMap digitValue? = (Nat.toDigits 10 n).map (·.toNat - 48) := by
  have hvalue : ∀ c ∈ Nat.toDigits 10 n, digitValue? c = some (c.toNat - 48) := fun c hc =>
    digitValue?_of_isDigit (Nat.isDigit_of_mem_toDigits (by decide) (by decide) hc)
  generalize Nat.toDigits 10 n = digits at hvalue
  induction digits with
  | nil => rfl
  | cons c digits ih =>
    have hc := hvalue c List.mem_cons_self
    have hrest := ih fun d hd => hvalue d (List.mem_cons_of_mem _ hd)
    rw [List.filterMap_cons_some hc, hrest, List.map_cons]

/-- The digit values of a written number stand for that number. -/
theorem valueOfDigits_toDigits (n : Nat) :
    valueOfDigits ((Nat.toDigits 10 n).map (·.toNat - 48)) = n := by
  rw [valueOfDigits, List.foldl_map]
  exact Nat.ofDigitChars_toDigits (by decide) (by decide)

/-- Reading a written number gives it back, if it does not have too many digits. -/
theorem readNumeral_toDigits {n : Nat}
    (hshort : (Nat.toDigits 10 n).length ≤ maxNumeralDigits) :
    readNumeral (Nat.toDigits 10 n) = .ok n := by
  rw [readNumeral, filterMap_digitValue?_toDigits]
  simp only [List.length_map, if_pos hshort, valueOfDigits_toDigits]

/-- A natural number is written by its digits. -/
theorem toList_numeral_natCast (n : Nat) : (numeral (n : Int)).toList = Nat.toDigits 10 n := by
  simp only [numeral, String.toList_ofList]

/-! ## Numbers that can be written -/

/-- A number can be written exactly if it is below the first power of ten that is too long. -/
theorem writable_iff {value : Int} : Writable value ↔ value.natAbs < 10 ^ maxNumeralDigits := by
  have hpos : 0 < maxNumeralDigits := by decide
  rw [Writable, Nat.length_toDigits_le_iff (by decide) hpos]

/-- A number between two that can be written can be written. -/
theorem Writable.of_between {low high value : Int} (hlow : Writable low) (hhigh : Writable high)
    (hleft : low ≤ value) (hright : value ≤ high) : Writable value := by
  rw [writable_iff] at *
  omega

/-- A number that can be written is written. -/
theorem writeNumeral_of_writable {value : Int} (hvalue : Writable value) :
    writeNumeral value = .ok (numeral value) :=
  if_pos hvalue

/-- The first power of ten that is too long cannot be written. -/
theorem not_writable_limit : ¬Writable (10 ^ maxNumeralDigits : Nat) := by
  rw [writable_iff, Int.natAbs_natCast]
  exact Nat.lt_irrefl _

/-- A number that is refused is refused for one reason. -/
theorem eq_unwritable_of_writeNumeral {value : Int} {fault : LongNumeral}
    (hfault : writeNumeral value = .error fault) : fault = .unwritable := by
  unfold writeNumeral at hfault
  split at hfault
  · cases hfault
  · exact (Except.error.inj hfault).symm

/-- Numbers pass if all of them can be written. -/
theorem checkNumerals_of_writable {values : List Int}
    (hvalues : ∀ value ∈ values, Writable value) : checkNumerals values = .ok () :=
  if_pos hvalues

/-- Numbers are refused if one of them cannot be written. -/
theorem checkNumerals_of_not_writable {values : List Int}
    (hvalues : ∃ value ∈ values, ¬Writable value) :
    checkNumerals values = .error .unwritable := by
  refine if_neg fun hall => ?_
  obtain ⟨value, hmem, hlong⟩ := hvalues
  exact hlong (hall value hmem)

end ILGraft.Text

import ILGraft.Text.Blank
import ILGraft.Text.Digit
import ILGraft.Text.Lower
import Mathlib.Data.Bool.AllAny
import Mathlib.Data.List.Basic
import Mathlib.Tactic.SplitIfs

/-!
# Lower-cased text

Lower-casing leaves blanks, digits and ASCII punctuation alone and makes none of them out of
another character, so whatever is recognised by them is recognised in lower-cased text as well. A
text that is lower-cased already stays as it is. Only the form of a capital sigma depends on what
stands around it, and there a blank is as good as the end of the text.
-/

namespace ILGraft.Text

/-- Whether a character is a blank, a digit of any script, or an ASCII character that is no
letter. -/
def isSteady (c : Char) : Bool :=
  isBlank c || isDigit c || (c.toNat < 0x80 && !c.isAlpha)

/-- The blanks as ranges of code points. -/
def blankRanges : List (Nat × Nat) :=
  [(0x09, 0x0d), (0x1c, 0x20), (0x85, 0x85), (0xa0, 0xa0), (0x1680, 0x1680), (0x2000, 0x200a),
   (0x2028, 0x2029), (0x202f, 0x202f), (0x205f, 0x205f), (0x3000, 0x3000)]

/-- The blanks and the digits as ranges of code points. -/
def steadyRanges : List (Nat × Nat) :=
  blankRanges ++ digitZeros.map fun first => (first, first + 9)

/-- Whether two stretches of code points have none in common. -/
def apart (first last otherFirst otherLast : Nat) : Bool :=
  last.blt otherFirst || otherLast.blt first

theorem apart_iff {first last otherFirst otherLast : Nat} :
    apart first last otherFirst otherLast = true ↔ last < otherFirst ∨ otherLast < first := by
  rw [apart, Bool.or_eq_true, Nat.blt_eq, Nat.blt_eq]

theorem inRanges_iff {ranges : List (Nat × Nat)} {c : Char} :
    inRanges ranges c = true ↔ ∃ range ∈ ranges, range.1 ≤ c.toNat ∧ c.toNat ≤ range.2 := by
  simp only [inRanges, List.any_eq_true, Bool.and_eq_true, decide_eq_true_eq]

/-! ## Steady characters -/

/-- Blanks are steady. -/
theorem isSteady_of_isBlank {c : Char} (hblank : isBlank c = true) : isSteady c = true := by
  rw [isSteady, hblank, Bool.true_or, Bool.true_or]

/-- Digits are steady. -/
theorem isSteady_of_isDigit {c : Char} (hdigit : isDigit c = true) : isSteady c = true := by
  rw [isSteady, hdigit, Bool.or_true, Bool.true_or]

/-- The blanks lie in their ranges. -/
theorem inRanges_of_isBlank {c : Char} (hblank : isBlank c = true) :
    inRanges blankRanges c = true := by
  simp only [isBlank, Bool.or_eq_true, Bool.and_eq_true, decide_eq_true_eq, beq_iff_eq] at hblank
  simp only [inRanges, blankRanges, List.any_cons, List.any_nil, Bool.or_eq_true, Bool.and_eq_true,
    decide_eq_true_eq, Bool.or_false]
  omega

/-- The digits lie in the ranges that begin at the zeros. -/
theorem inRanges_of_isDigit {c : Char} (hdigit : isDigit c = true) :
    inRanges (digitZeros.map fun first => (first, first + 9)) c = true := by
  rw [isDigit, digitValue?] at hdigit
  obtain ⟨first, hfirst, hlow, hhigh⟩ :
      ∃ first ∈ digitZeros, first ≤ c.toNat ∧ c.toNat ≤ first + 9 := by
    split at hdigit
    · split at hdigit
      · exact ⟨0x30, List.mem_cons_self, by omega, by omega⟩
      · cases hdigit
    · rw [Option.isSome_map, List.find?_isSome] at hdigit
      obtain ⟨first, hfirst, hrange⟩ := hdigit
      simp only [Bool.and_eq_true, decide_eq_true_eq] at hrange
      exact ⟨first, hfirst, hrange.1, by omega⟩
  exact inRanges_iff.mpr ⟨_, List.mem_map_of_mem hfirst, hlow, hhigh⟩

/-- The letters of ASCII by their code points. -/
theorem isAlpha_iff {c : Char} :
    c.isAlpha = true ↔ 65 ≤ c.toNat ∧ c.toNat ≤ 90 ∨ 97 ≤ c.toNat ∧ c.toNat ≤ 122 := by
  change (decide (65 ≤ c.val ∧ c.val ≤ 90) ||
    (decide (97 ≤ c.val) && decide (c.val ≤ 122))) = true ↔ _
  simp only [Bool.or_eq_true, Bool.and_eq_true, decide_eq_true_eq, UInt32.le_iff_toNat_le]
  rfl

private theorem steadyRanges_apart_letters : (steadyRanges.all fun range =>
    apart range.1 range.2 65 90 && apart range.1 range.2 97 122) = true := by
  decide +kernel

/-- A steady character is no letter of ASCII, and above ASCII it lies in one of the ranges. -/
theorem steady_cases {c : Char} (hsteady : isSteady c = true) :
    c.isAlpha = false ∧ (0x80 ≤ c.toNat → inRanges steadyRanges c = true) := by
  have hranges (hmem : inRanges steadyRanges c = true) :
      c.isAlpha = false ∧ (0x80 ≤ c.toNat → inRanges steadyRanges c = true) := by
    refine ⟨?_, fun _ => hmem⟩
    obtain ⟨range, hrange, hlow, hhigh⟩ := inRanges_iff.mp hmem
    have hletters := List.all_eq_true.mp steadyRanges_apart_letters range hrange
    rw [Bool.and_eq_true, apart_iff, apart_iff] at hletters
    rw [Bool.eq_false_iff]
    intro halpha
    have hletter := isAlpha_iff.mp halpha
    omega
  rw [isSteady, Bool.or_eq_true, Bool.or_eq_true] at hsteady
  rcases hsteady with (hblank | hdigit) | hascii
  · apply hranges
    rw [inRanges, steadyRanges, List.any_append, Bool.or_eq_true]
    exact .inl (inRanges_of_isBlank hblank)
  · apply hranges
    rw [inRanges, steadyRanges, List.any_append, Bool.or_eq_true]
    exact .inr (inRanges_of_isDigit hdigit)
  · simp only [Bool.and_eq_true, decide_eq_true_eq, Bool.not_eq_true'] at hascii
    exact ⟨hascii.2, fun hhigh => absurd hascii.1 (by omega)⟩

/-! ## Runs of the table -/

namespace CaseRun

/-- The code point that the run maps a code point to. -/
def image (run : CaseRun) (n : Nat) : Nat :=
  ((n : Int) + run.shift).toNat

/-- Whether a run maps no character to one that another run would map again: the stretches lie
apart, or one takes the even and the other the odd code points. -/
def leaves (run other : CaseRun) : Bool :=
  apart (run.image run.first) (run.image run.last) other.first other.last ||
    (Nat.beq other.step 2 && (Nat.beq run.step 2 || Nat.beq run.first run.last) &&
      Nat.beq ((run.image run.first + other.first) % 2) 1)

/-- Whether a run begins above ASCII and maps to characters, none of them in ASCII but the letter
that the sign for Kelvin becomes, and none of them the capital I with a dot. -/
def isSound (run : CaseRun) : Bool :=
  Nat.blt 0x7f run.first &&
    (Nat.beq (run.image run.first) 0x6b && Nat.beq (run.image run.last) 0x6b ||
      Nat.blt 0x7f (run.image run.first)) &&
    (Nat.blt (run.image run.last) 0xd800 ||
      Nat.blt 0xdfff (run.image run.first) && Nat.blt (run.image run.last) 0x110000) &&
    apart 0x130 0x130 (run.image run.first) (run.image run.last)

/-- Whether a run neither holds a character of a range nor maps to one. -/
def misses (run : CaseRun) (range : Nat × Nat) : Bool :=
  apart range.1 range.2 run.first run.last &&
    apart range.1 range.2 (run.image run.first) (run.image run.last)

end CaseRun

private theorem all_isSound : lowerRuns.all CaseRun.isSound = true := by
  decide +kernel

private theorem all_leaves : (lowerRuns.all fun run => lowerRuns.all run.leaves) = true := by
  decide +kernel

private theorem all_misses : (lowerRuns.all fun run => steadyRanges.all run.misses) = true := by
  decide +kernel

section Runs

variable {run other : CaseRun} {c : Char}

private theorem sound_of_mem (hrun : run ∈ lowerRuns) :
    0x7f < run.first ∧
      (run.image run.first = 0x6b ∧ run.image run.last = 0x6b ∨ 0x7f < run.image run.first) ∧
      (run.image run.last < 0xd800 ∨
        0xdfff < run.image run.first ∧ run.image run.last < 0x110000) ∧
      (0x130 < run.image run.first ∨ run.image run.last < 0x130) := by
  have hsound := List.all_eq_true.mp all_isSound run hrun
  simpa only [CaseRun.isSound, Bool.and_eq_true, Bool.or_eq_true, Nat.blt_eq, Nat.beq_eq,
    apart_iff, and_assoc] using hsound

/-- A run holds code points between its ends, in steps from the first. -/
theorem CaseRun.bounds_of_holds (hholds : run.holds c = true) :
    run.first ≤ c.toNat ∧ c.toNat ≤ run.last ∧ (c.toNat - run.first) % run.step = 0 := by
  simpa only [holds, Bool.and_eq_true, decide_eq_true_eq, beq_iff_eq, and_assoc] using hholds

/-- The image of a held character lies between the images of the ends. -/
theorem CaseRun.image_bounds (hholds : run.holds c = true) :
    run.image run.first ≤ run.image c.toNat ∧ run.image c.toNat ≤ run.image run.last := by
  obtain ⟨hfirst, hlast, -⟩ := bounds_of_holds hholds
  unfold image
  omega

/-- A character goes to the one at its image. -/
theorem CaseRun.toNat_map (hrun : run ∈ lowerRuns) (hholds : run.holds c = true) :
    (run.map c).toNat = run.image c.toNat := by
  obtain ⟨-, -, hvalid, -⟩ := sound_of_mem hrun
  have hbounds := image_bounds hholds
  have hchar : (run.image c.toNat).isValidChar := by
    unfold Nat.isValidChar
    omega
  change (Char.ofNat (run.image c.toNat)).toNat = run.image c.toNat
  rw [Char.ofNat, dif_pos hchar]
  rfl

/-- What one run has mapped, no run maps again. -/
theorem CaseRun.not_holds_map (hrun : run ∈ lowerRuns) (hother : other ∈ lowerRuns)
    (hholds : run.holds c = true) : other.holds (run.map c) = false := by
  have hleaves : run.leaves other = true :=
    List.all_eq_true.mp (List.all_eq_true.mp all_leaves run hrun) other hother
  have himage := image_bounds hholds
  obtain ⟨hlow, hhigh, hheld⟩ := bounds_of_holds hholds
  rw [Bool.eq_false_iff]
  intro hagain
  obtain ⟨hfirst, hlast, heven⟩ := bounds_of_holds hagain
  rw [toNat_map hrun hholds] at hfirst hlast heven
  simp only [leaves, Bool.or_eq_true, Bool.and_eq_true, Nat.beq_eq, apart_iff] at hleaves
  rcases hleaves with (hbelow | habove) | ⟨⟨hstep, hparity⟩, hodd⟩
  · omega
  · omega
  · -- Both stretches go in steps of two and begin at code points of different parity.
    obtain ⟨-, hpositive, -⟩ := sound_of_mem hrun
    rw [hstep] at heven
    unfold image at *
    rcases hparity with htwo | hone
    · rw [htwo] at hheld
      omega
    · omega

end Runs

/-- A character goes where a run maps it, or no run holds it and it stays. -/
theorem mapByRuns_cases (c : Char) :
    (∃ run ∈ lowerRuns, run.holds c = true ∧ mapByRuns lowerRuns c = run.map c) ∨
      (∀ run ∈ lowerRuns, run.holds c = false) ∧ mapByRuns lowerRuns c = c := by
  cases hfind : lowerRuns.find? (·.holds c) with
  | some run =>
    have hholds : run.holds c = true := by simpa using List.find?_some hfind
    exact .inl ⟨run, List.mem_of_find?_eq_some hfind, hholds, by rw [mapByRuns, hfind]⟩
  | none =>
    refine .inr ⟨fun run hrun => ?_, by rw [mapByRuns, hfind]⟩
    exact Bool.eq_false_iff.mpr (List.find?_eq_none.mp hfind run hrun)

/-! ## Single characters -/

/-- A character that is its own lower-case form, whatever stands around it. -/
def IsLowered (c : Char) : Prop :=
  lowerChar c = [c] ∧ c ≠ 'Σ'

instance : DecidablePred IsLowered := fun c =>
  inferInstanceAs (Decidable (lowerChar c = [c] ∧ c ≠ 'Σ'))

/-- Lower-casing moves the capitals of ASCII by 32 and nothing else there. -/
theorem toLower_cases (c : Char) :
    65 ≤ c.toNat ∧ c.toNat ≤ 90 ∧ c.toLower.toNat = c.toNat + 32 ∨
      (c.toNat < 65 ∨ 90 < c.toNat) ∧ c.toLower = c := by
  by_cases hupper : c.val ≥ 65 ∧ c.val ≤ 90
  · have hbounds : 65 ≤ c.toNat ∧ c.toNat ≤ 90 := by
      rwa [ge_iff_le, UInt32.le_iff_toNat_le, UInt32.le_iff_toNat_le] at hupper
    have hmoved : c.toLower.toNat = (c.val + 32).toNat := by
      rw [show c.toLower = _ from dif_pos hupper]
      rfl
    refine .inl ⟨hbounds.1, hbounds.2, ?_⟩
    rw [hmoved, UInt32.toNat_add]
    change (c.toNat + 32) % 4294967296 = c.toNat + 32
    omega
  · have hstays : c.toLower = c := dif_neg hupper
    rw [ge_iff_le, UInt32.le_iff_toNat_le, UInt32.le_iff_toNat_le] at hupper
    have hbounds : ¬(65 ≤ c.toNat ∧ c.toNat ≤ 90) := hupper
    exact .inr ⟨by omega, hstays⟩

private theorem ne_of_toNat {c d : Char} (hne : c.toNat ≠ d.toNat) : c ≠ d :=
  fun heq => hne (congrArg Char.toNat heq)

/-- An ASCII character that is no capital is its own lower-case form. -/
theorem IsLowered.of_ascii {c : Char} (hascii : c.toNat < 0x80)
    (hupper : c.toNat < 65 ∨ 90 < c.toNat) : IsLowered c := by
  have hsigma : 'Σ'.toNat = 0x3a3 := rfl
  refine ⟨?_, ne_of_toNat (by omega)⟩
  rcases toLower_cases c with hmoved | ⟨-, hstays⟩
  · omega
  · rw [lowerChar, if_pos hascii, hstays]

/-- Above ASCII, a character that no run holds is its own lower-case form. -/
theorem IsLowered.of_no_run {c : Char} (hhigh : 0x80 ≤ c.toNat) (hdotted : c ≠ 'İ')
    (hnone : ∀ run ∈ lowerRuns, run.holds c = false) : IsLowered c := by
  constructor
  · rcases mapByRuns_cases c with ⟨run, hrun, hholds, -⟩ | ⟨-, hstays⟩
    · rw [hnone run hrun] at hholds
      cases hholds
    · rw [lowerChar, if_neg (Nat.not_lt.mpr hhigh), if_neg hdotted, hstays]
  · rintro rfl
    have hsigma : ∃ run ∈ lowerRuns, run.holds 'Σ' = true := by decide
    obtain ⟨run, hrun, hholds⟩ := hsigma
    rw [hnone run hrun] at hholds
    cases hholds

/-- Steady characters are their own lower-case forms. -/
theorem IsLowered.of_steady {c : Char} (hsteady : isSteady c = true) : IsLowered c := by
  obtain ⟨halpha, hranges⟩ := steady_cases hsteady
  by_cases hascii : c.toNat < 0x80
  · rw [Bool.eq_false_iff, ne_eq, isAlpha_iff] at halpha
    exact .of_ascii hascii (by omega)
  · have hdotted : c ≠ 'İ' := by
      rintro rfl
      exact absurd hsteady (by decide)
    obtain ⟨range, hrange, hlow, hhigh⟩ := inRanges_iff.mp (hranges (Nat.not_lt.mp hascii))
    refine .of_no_run (Nat.not_lt.mp hascii) hdotted fun run hrun => ?_
    have hmisses : run.misses range = true :=
      List.all_eq_true.mp (List.all_eq_true.mp all_misses run hrun) range hrange
    rw [CaseRun.misses, Bool.and_eq_true, apart_iff] at hmisses
    rw [Bool.eq_false_iff]
    intro hholds
    obtain ⟨hfirst, hlast, -⟩ := CaseRun.bounds_of_holds hholds
    omega

/-- What a character is lower-cased to is its own lower-case form. -/
theorem IsLowered.of_mem_lowerChar {c d : Char} (hd : d ∈ lowerChar c) : IsLowered d := by
  rw [lowerChar] at hd
  split at hd
  · next hascii =>
    obtain rfl := List.mem_singleton.mp hd
    rcases toLower_cases c with ⟨hlow, hhigh, hmoved⟩ | ⟨hupper, hstays⟩
    · exact .of_ascii (by omega) (by omega)
    · rw [hstays]
      exact .of_ascii hascii hupper
  · next hhigh =>
    split at hd
    · have hdot : ∀ d ∈ ['i', '\u0307'], IsLowered d := List.all_iff_forall_prop.mp (by decide)
      exact hdot d hd
    · next hdotted =>
      obtain rfl := List.mem_singleton.mp hd
      rcases mapByRuns_cases c with ⟨run, hrun, hholds, hmap⟩ | ⟨hnone, hstays⟩
      · rw [hmap]
        obtain ⟨-, himage, -, hdot⟩ := sound_of_mem hrun
        have hbounds := CaseRun.image_bounds hholds
        rw [← CaseRun.toNat_map hrun hholds] at hbounds
        by_cases hascii : (run.map c).toNat < 0x80
        · exact .of_ascii hascii (by omega)
        · have htarget : 'İ'.toNat = 0x130 := rfl
          refine .of_no_run (Nat.not_lt.mp hascii) (ne_of_toNat (by omega)) ?_
          exact fun other hother => CaseRun.not_holds_map hrun hother hholds
      · rw [hstays]
        exact .of_no_run (Nat.not_lt.mp hhigh) hdotted hnone

/-- Only a steady character itself is lower-cased to it. -/
theorem eq_of_mem_lowerChar {c d : Char} (hd : d ∈ lowerChar c) (hsteady : isSteady d = true) :
    d = c := by
  obtain ⟨halpha, hranges⟩ := steady_cases hsteady
  rw [Bool.eq_false_iff, ne_eq, isAlpha_iff] at halpha
  rw [lowerChar] at hd
  split at hd
  · obtain rfl := List.mem_singleton.mp hd
    rcases toLower_cases c with ⟨hlow, hhigh, hmoved⟩ | ⟨-, hstays⟩
    · omega
    · exact hstays
  · split at hd
    · have hnone : ∀ d ∈ ['i', '\u0307'], isSteady d = false :=
        List.all_iff_forall_prop.mp (by decide)
      rw [hnone d hd] at hsteady
      cases hsteady
    · obtain rfl := List.mem_singleton.mp hd
      rcases mapByRuns_cases c with ⟨run, hrun, hholds, hmap⟩ | ⟨-, hstays⟩
      · rw [hmap] at halpha hranges
        obtain ⟨-, himage, -⟩ := sound_of_mem hrun
        have hbounds := CaseRun.image_bounds hholds
        rw [← CaseRun.toNat_map hrun hholds] at hbounds
        have hhigh : 0x80 ≤ (run.map c).toNat := by omega
        obtain ⟨range, hrange, hlow, hlast⟩ := inRanges_iff.mp (hranges hhigh)
        have hmisses : run.misses range = true :=
          List.all_eq_true.mp (List.all_eq_true.mp all_misses run hrun) range hrange
        rw [CaseRun.misses, Bool.and_eq_true, apart_iff, apart_iff] at hmisses
        omega
      · exact hstays

/-! ## Texts -/

/-- A lowered character is left alone. -/
theorem lowerAfter_cons_of_isLowered {c : Char} (hc : IsLowered c) (before rest : List Char) :
    lowerAfter before (c :: rest) = c :: lowerAfter (c :: before) rest := by
  rw [lowerAfter, if_neg hc.2, hc.1, List.singleton_append]

/-- A character that is not steady turns into lowered ones, none of them steady. -/
theorem exists_lowerAfter_cons {c : Char} (hc : isSteady c = false) (before rest : List Char) :
    ∃ d more, lowerAfter before (c :: rest) = d :: more ++ lowerAfter (c :: before) rest ∧
      ∀ e ∈ d :: more, IsLowered e ∧ isSteady e = false := by
  by_cases hsigma : c = 'Σ'
  · have hforms : ∀ e ∈ ['ς', 'σ'], IsLowered e ∧ isSteady e = false :=
      List.all_iff_forall_prop.mp (by decide)
    refine ⟨if meetsCased before && !meetsCased rest then 'ς' else 'σ', [], ?_, fun e he => ?_⟩
    · rw [lowerAfter, if_pos hsigma]
    · obtain rfl := List.mem_singleton.mp he
      apply hforms
      split_ifs <;> decide
  · have hne : lowerChar c ≠ [] := by
      rw [lowerChar]
      split_ifs <;> exact List.cons_ne_nil _ _
    obtain ⟨d, more, hlowered⟩ := List.exists_cons_of_ne_nil hne
    refine ⟨d, more, by rw [lowerAfter, if_neg hsigma, hlowered], fun e he => ?_⟩
    rw [← hlowered] at he
    refine ⟨.of_mem_lowerChar he, ?_⟩
    rw [Bool.eq_false_iff]
    intro hsteady
    rw [← eq_of_mem_lowerChar he hsteady, hsteady] at hc
    cases hc

/-- A lower-cased text begins with a steady character only if the text does. -/
theorem exists_lowerAfter_head (before : List Char) (c : Char) (rest : List Char) :
    ∃ d more, lowerAfter before (c :: rest) = d :: more ∧ (isSteady d = true → d = c) := by
  cases hc : isSteady c with
  | true => exact ⟨c, _, lowerAfter_cons_of_isLowered (.of_steady hc) _ _, fun _ => rfl⟩
  | false =>
    obtain ⟨d, more, hsplit, hlowered⟩ := exists_lowerAfter_cons hc before rest
    refine ⟨d, _, by rw [hsplit, List.cons_append], fun hd => ?_⟩
    rw [(hlowered d List.mem_cons_self).2] at hd
    cases hd

/-- Every character of a lower-cased text is lowered. -/
theorem isLowered_of_mem_lowerAfter {before text : List Char} {d : Char}
    (hd : d ∈ lowerAfter before text) : IsLowered d := by
  induction text generalizing before with
  | nil => cases hd
  | cons c rest ih =>
    cases hc : isSteady c with
    | true =>
      rw [lowerAfter_cons_of_isLowered (.of_steady hc)] at hd
      rcases List.mem_cons.mp hd with rfl | hrest
      · exact .of_steady hc
      · exact ih hrest
    | false =>
      obtain ⟨e, more, hsplit, hlowered⟩ := exists_lowerAfter_cons hc before rest
      rw [hsplit] at hd
      rcases List.mem_append.mp hd with hhere | hrest
      · exact (hlowered d hhere).1
      · exact ih hrest

/-- Lower-casing neither takes a steady character from a text nor brings one in. -/
theorem mem_lowerAfter_iff {c : Char} (hc : isSteady c = true) {before text : List Char} :
    c ∈ lowerAfter before text ↔ c ∈ text := by
  induction text generalizing before with
  | nil => rfl
  | cons d rest ih =>
    cases hd : isSteady d with
    | true => rw [lowerAfter_cons_of_isLowered (.of_steady hd), List.mem_cons, List.mem_cons, ih]
    | false =>
      obtain ⟨e, more, hsplit, hlowered⟩ := exists_lowerAfter_cons hd before rest
      have hhere : c ∉ e :: more := fun hmem => by
        rw [(hlowered c hmem).2] at hc
        cases hc
      have hother : c ≠ d := by
        rintro rfl
        rw [hd] at hc
        cases hc
      rw [hsplit, List.mem_append, or_iff_right hhere, ih, List.mem_cons, or_iff_right hother]

/-- Lowered characters in front of a text are left alone. -/
theorem lowerAfter_append_of_isLowered {front : List Char} (hfront : ∀ c ∈ front, IsLowered c)
    (before rest : List Char) :
    lowerAfter before (front ++ rest) = front ++ lowerAfter (front.reverse ++ before) rest := by
  induction front generalizing before with
  | nil => rfl
  | cons c front ih =>
    obtain ⟨hc, hrest⟩ := List.forall_mem_cons.mp hfront
    rw [List.cons_append, lowerAfter_cons_of_isLowered hc, ih hrest, List.reverse_cons,
      List.append_assoc, List.singleton_append, List.cons_append]

/-- A text of lowered characters is left alone. -/
theorem lowerAfter_of_isLowered {text : List Char} (htext : ∀ c ∈ text, IsLowered c)
    (before : List Char) : lowerAfter before text = text := by
  have hfixed := lowerAfter_append_of_isLowered htext before []
  rwa [List.append_nil, lowerAfter, List.append_nil] at hfixed

/-- A lower-cased text stays as it is when it is lower-cased once more. -/
theorem lower_lower (text : List Char) : lower (lower text) = lower text :=
  lowerAfter_of_isLowered (fun _ => isLowered_of_mem_lowerAfter) []

section Classes

variable {p : Char → Bool} (hp : ∀ c, p c = true → isSteady c = true)
include hp

/-- A class of steady characters covers as much of the lower-cased text as of the text, and what
follows is the rest of the text, lower-cased. -/
theorem span_lowerAfter (before text : List Char) :
    (lowerAfter before text).takeWhile p = text.takeWhile p ∧
      (lowerAfter before text).dropWhile p =
        lowerAfter ((text.takeWhile p).reverse ++ before) (text.dropWhile p) := by
  induction text generalizing before with
  | nil => exact ⟨rfl, rfl⟩
  | cons c rest ih =>
    cases hc : p c with
    | true =>
      obtain ⟨htake, hdrop⟩ := ih (c :: before)
      rw [lowerAfter_cons_of_isLowered (.of_steady (hp c hc)), List.takeWhile_cons_of_pos hc,
        List.takeWhile_cons_of_pos hc, List.dropWhile_cons_of_pos hc, List.dropWhile_cons_of_pos hc,
        htake, hdrop, List.reverse_cons, List.append_assoc, List.singleton_append]
      exact ⟨rfl, rfl⟩
    | false =>
      obtain ⟨d, more, hlowered, hhead⟩ := exists_lowerAfter_head before c rest
      have hd : p d = false := by
        rw [Bool.eq_false_iff]
        intro hd
        rw [← hhead (hp d hd), hd] at hc
        cases hc
      have hc' : ¬p c = true := Bool.eq_false_iff.mp hc
      have hd' : ¬p d = true := Bool.eq_false_iff.mp hd
      rw [List.takeWhile_cons_of_neg hc', List.dropWhile_cons_of_neg hc', List.reverse_nil,
        List.nil_append, hlowered, List.takeWhile_cons_of_neg hd', List.dropWhile_cons_of_neg hd']
      exact ⟨rfl, rfl⟩

end Classes

/-- A literal of steady characters stands in front of the lower-cased text exactly if it stands in
front of the text. -/
theorem isPrefixOf?_lowerAfter {literal : List Char} (hliteral : ∀ c ∈ literal, isSteady c = true)
    (before text : List Char) :
    literal.isPrefixOf? (lowerAfter before text) =
      (literal.isPrefixOf? text).map (lowerAfter (literal.reverse ++ before)) := by
  induction literal generalizing before text with
  | nil => rfl
  | cons l literal ih =>
    obtain ⟨hl, hrest⟩ := List.forall_mem_cons.mp hliteral
    cases text with
    | nil => rfl
    | cons c rest =>
      rw [List.isPrefixOf?, List.reverse_cons, List.append_assoc, List.singleton_append]
      by_cases hc : l = c
      · rw [← hc, lowerAfter_cons_of_isLowered (.of_steady hl), List.isPrefixOf?, BEq.rfl,
          if_pos rfl, if_pos rfl, ih hrest]
      · obtain ⟨d, more, hlowered, hhead⟩ := exists_lowerAfter_head before c rest
        have hd : l ≠ d := by
          rintro rfl
          exact hc (hhead hl)
        rw [hlowered, List.isPrefixOf?, beq_false_of_ne hc, beq_false_of_ne hd]
        rfl

/-! ## What stands around a text -/

/-- A cased character is met at the first character that is not passed over. -/
theorem meetsCased_cons (c : Char) (text : List Char) :
    meetsCased (c :: text) =
      if inRanges caseIgnorableRanges c then meetsCased text else inRanges casedRanges c := by
  rw [meetsCased, List.dropWhile_cons]
  split_ifs <;> rfl

/-- What stands behind a text does not matter if no cased character is met there. -/
theorem meetsCased_append {back : List Char} (hback : meetsCased back = false)
    (text : List Char) : meetsCased (text ++ back) = meetsCased text := by
  induction text with
  | nil => exact hback
  | cons c rest ih => rw [List.cons_append, meetsCased_cons, meetsCased_cons, ih]

private theorem blank_apart_from_cases : (blankRanges.all fun range =>
    (caseIgnorableRanges ++ casedRanges).all fun other =>
      apart range.1 range.2 other.1 other.2) = true := by
  decide +kernel

/-- No cased character is met in front of a blank. -/
theorem meetsCased_cons_of_isBlank {c : Char} (hblank : isBlank c = true) (text : List Char) :
    meetsCased (c :: text) = false := by
  obtain ⟨range, hrange, hlow, hhigh⟩ := inRanges_iff.mp (inRanges_of_isBlank hblank)
  have hapart := List.all_eq_true.mp (List.all_eq_true.mp blank_apart_from_cases range hrange)
  have hnone (ranges : List (Nat × Nat))
      (hsub : ∀ other ∈ ranges, other ∈ caseIgnorableRanges ++ casedRanges) :
      inRanges ranges c = false := by
    rw [Bool.eq_false_iff, ne_eq, inRanges_iff]
    rintro ⟨other, hother, hfirst, hlast⟩
    have hdisjoint := apart_iff.mp (hapart other (hsub other hother))
    omega
  rw [meetsCased_cons, hnone _ fun _ => List.mem_append_left _, if_neg Bool.false_ne_true,
    hnone _ fun _ => List.mem_append_right _]

/-- What stands in front of a text matters to its lower-case form only by the cased character that
is met there first. -/
theorem lowerAfter_congr {before other : List Char} (hsame : meetsCased before = meetsCased other)
    (text : List Char) : lowerAfter before text = lowerAfter other text := by
  induction text generalizing before other with
  | nil => rfl
  | cons c rest ih =>
    have hcons : meetsCased (c :: before) = meetsCased (c :: other) := by
      rw [meetsCased_cons, meetsCased_cons, hsame]
    rw [lowerAfter, lowerAfter, hsame, ih hcons]

/-- A text is lower-cased by itself if no cased character is met behind it. -/
theorem lowerAfter_append {back : List Char} (hback : meetsCased back = false)
    (before text : List Char) :
    lowerAfter before (text ++ back) =
      lowerAfter before text ++ lowerAfter (text.reverse ++ before) back := by
  induction text generalizing before with
  | nil => rfl
  | cons c rest ih =>
    rw [List.cons_append, lowerAfter, meetsCased_append hback, ih, lowerAfter, List.append_assoc,
      List.reverse_cons, List.append_assoc, List.singleton_append]

end ILGraft.Text

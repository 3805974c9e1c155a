import ILGraft.Proofs.MarkerText
import Mathlib.Data.List.Forall2
import Mathlib.Data.Nat.Digits.Defs

/-!
# The grammar of markers

Markers are described here by splits of a line alone, without any scan: what stands in front of a
switch or a directive, the runs of digits, the path, and what is left. The search for a switch finds
the one with the shortest front, and it fails only if there is no split at all. A source line is
read exactly from a directive behind blanks, in the digits of any script.
-/

namespace ILGraft

/-! ## Numbers in the digits of any script -/

namespace Text

/-- A decimal digit, by its distance from the zero of its script. -/
def IsDigitOf (c : Char) (value : Nat) : Prop :=
  value < 10 ∧ ∃ first ∈ digitZeros, c.toNat = first + value

/-- A run of decimal digits and the number that it stands for in base ten, the most significant
digit first. -/
def Spells (digits : List Char) (number : Nat) : Prop :=
  ∃ values, List.Forall₂ IsDigitOf digits values ∧ number = Nat.ofDigits 10 values.reverse

/-- Only one of the zeros is an ASCII character. -/
theorem eq_or_le_of_mem_digitZeros : ∀ first ∈ digitZeros, first = 0x30 ∨ 0x80 ≤ first := by
  decide

/-- The digits of two scripts do not overlap. -/
theorem eq_of_mem_digitZeros : ∀ one ∈ digitZeros, ∀ two ∈ digitZeros,
    one < two + 10 → two < one + 10 → one = two := by
  decide +kernel

/-- The zero that is found for a character is the one that it is less than ten behind. -/
theorem find?_digitZeros_eq_some_iff {code first : Nat} :
    (digitZeros.find? fun first => first ≤ code && code < first + 10) = some first ↔
      first ∈ digitZeros ∧ first ≤ code ∧ code < first + 10 := by
  have hrange {found : Nat}
      (hfound : (digitZeros.find? fun first => first ≤ code && code < first + 10) = some found) :
      found ∈ digitZeros ∧ found ≤ code ∧ code < found + 10 := by
    have hholds := List.find?_some hfound
    rw [Bool.and_eq_true, decide_eq_true_eq, decide_eq_true_eq] at hholds
    exact ⟨List.mem_of_find?_eq_some hfound, hholds⟩
  refine ⟨hrange, ?_⟩
  rintro ⟨hfirst, hle, hlt⟩
  obtain ⟨found, hfound⟩ :
      ∃ found, (digitZeros.find? fun first => first ≤ code && code < first + 10) = some found := by
    rw [← Option.isSome_iff_exists, List.find?_isSome]
    exact ⟨first, hfirst, by simp [hle, hlt]⟩
  obtain ⟨hmem, hle', hlt'⟩ := hrange hfound
  rw [hfound, eq_of_mem_digitZeros found hmem first hfirst (by omega) (by omega)]

/-- A character has the value of its distance from the zero of its script, if that is less than
ten. -/
theorem digitValue?_eq_some_iff {c : Char} {value : Nat} :
    digitValue? c = some value ↔ IsDigitOf c value := by
  constructor
  · intro hvalue
    rw [digitValue?] at hvalue
    split at hvalue
    · split at hvalue
      · next hrange =>
        cases hvalue
        exact ⟨by omega, 0x30, by decide, by omega⟩
      · cases hvalue
    · obtain ⟨first, hfound, rfl⟩ := Option.map_eq_some_iff.mp hvalue
      obtain ⟨hfirst, hle, hlt⟩ := find?_digitZeros_eq_some_iff.mp hfound
      exact ⟨by omega, first, hfirst, by omega⟩
  · rintro ⟨hlt, first, hfirst, hc⟩
    rw [digitValue?]
    rcases eq_or_le_of_mem_digitZeros first hfirst with rfl | hle
    · rw [if_pos (by omega), if_pos (by omega), Option.some_inj]
      omega
    · have hfound := find?_digitZeros_eq_some_iff.mpr
        ⟨hfirst, (by omega : first ≤ c.toNat), (by omega : c.toNat < first + 10)⟩
      rw [if_neg (by omega), hfound, Option.map_some, Option.some_inj]
      omega

/-- Digits are the characters that have a value. -/
theorem isDigit_iff {c : Char} : isDigit c = true ↔ ∃ value, IsDigitOf c value := by
  simp only [isDigit, Option.isSome_iff_exists, digitValue?_eq_some_iff]

/-- The values that are read from digits are theirs. -/
theorem forall₂_filterMap_digitValue? {digits : List Char}
    (hdigits : ∀ c ∈ digits, isDigit c = true) :
    List.Forall₂ IsDigitOf digits (digits.filterMap digitValue?) := by
  induction digits with
  | nil => exact .nil
  | cons c rest ih =>
    obtain ⟨hc, hrest⟩ := List.forall_mem_cons.mp hdigits
    obtain ⟨value, hvalue⟩ := isDigit_iff.mp hc
    rw [List.filterMap_cons_some (digitValue?_eq_some_iff.mpr hvalue)]
    exact .cons hvalue (ih hrest)

/-- No other values are theirs. -/
theorem filterMap_digitValue?_eq {digits : List Char} {values : List Nat}
    (hvalues : List.Forall₂ IsDigitOf digits values) :
    digits.filterMap digitValue? = values := by
  induction hvalues with
  | nil => rfl
  | cons hvalue _ ih => rw [List.filterMap_cons_some (digitValue?_eq_some_iff.mpr hvalue), ih]

/-- The value of a run of digits is the number with these digits in base ten. -/
theorem valueOfDigits_eq_ofDigits (values : List Nat) :
    valueOfDigits values = Nat.ofDigits 10 values.reverse := by
  rw [valueOfDigits, Nat.ofDigits_eq_foldr, List.foldr_reverse]
  simp only [Nat.cast_id, Nat.add_comm]

/-- Digits are read as the number that they stand for, if they are not too many. -/
theorem readNumeral_eq_ok_iff {digits : List Char} {number : Nat}
    (hdigits : ∀ c ∈ digits, isDigit c = true) :
    readNumeral digits = .ok number ↔
      digits.length ≤ maxNumeralDigits ∧ Spells digits number := by
  have hvalues := forall₂_filterMap_digitValue? hdigits
  have hspells : Spells digits number ↔ valueOfDigits (digits.filterMap digitValue?) = number := by
    rw [valueOfDigits_eq_ofDigits]
    constructor
    · rintro ⟨values, hsame, rfl⟩
      rw [filterMap_digitValue?_eq hsame]
    · intro hnumber
      exact ⟨_, hvalues, hnumber.symm⟩
  rw [readNumeral, ← hvalues.length_eq, hspells]
  by_cases hshort : digits.length ≤ maxNumeralDigits
  · rw [if_pos hshort, Except.ok.injEq, and_iff_right hshort]
  · rw [if_neg hshort]
    exact iff_of_false (by rintro ⟨⟩) fun hboth => hshort hboth.1

end Text

namespace Marker

/-! ## Switches -/

/-- A text with a switch to a path behind its front. -/
def SwitchesBehind (text front path : List Char) : Prop :=
  ∃ switch, text = front ++ switch ∧ BeginsWithSwitch switch path

/-- The first switch of a text. -/
structure FirstSwitch (text front path : List Char) : Prop where
  /-- A switch to the path stands behind the front. -/
  switches : SwitchesBehind text front path
  /-- No switch stands behind a shorter front. -/
  shortest : ∀ front' path', SwitchesBehind text front' path' → front.length ≤ front'.length

/-- There is nothing to find in an empty text. -/
theorem not_switchesBehind_nil (front path : List Char) : ¬SwitchesBehind [] front path := by
  rintro ⟨switch, hsplit, hswitch⟩
  rw [(List.append_eq_nil_iff.mp hsplit.symm).2] at hswitch
  cases fileSwitchHere?_eq_some_iff.mpr hswitch

/-- A switch stands at the start of a text or behind its first character. -/
theorem switchesBehind_cons_iff {c : Char} {rest front path : List Char} :
    SwitchesBehind (c :: rest) front path ↔
      (front = [] ∧ BeginsWithSwitch (c :: rest) path) ∨
        ∃ front', front = c :: front' ∧ SwitchesBehind rest front' path := by
  constructor
  · rintro ⟨switch, hsplit, hswitch⟩
    cases front with
    | nil => exact .inl ⟨rfl, hsplit ▸ hswitch⟩
    | cons d front' =>
      obtain ⟨rfl, hrest⟩ := List.cons.inj hsplit
      exact .inr ⟨front', rfl, switch, hrest, hswitch⟩
  · rintro (⟨rfl, hswitch⟩ | ⟨front', rfl, switch, rfl, hswitch⟩)
    · exact ⟨_, rfl, hswitch⟩
    · exact ⟨switch, rfl, hswitch⟩

/-- A text begins with at most one switch. -/
theorem BeginsWithSwitch.path_eq {text path path' : List Char} (hone : BeginsWithSwitch text path)
    (htwo : BeginsWithSwitch text path') : path = path' := by
  rw [← fileSwitchHere?_eq_some_iff] at hone htwo
  exact Option.some.inj (hone.symm.trans htwo)

/-- A text has at most one first switch. -/
theorem FirstSwitch.unique {text front front' path path' : List Char}
    (hone : FirstSwitch text front path) (htwo : FirstSwitch text front' path') :
    front = front' ∧ path = path' := by
  have hlength : front.length = front'.length :=
    Nat.le_antisymm (hone.shortest _ _ htwo.switches) (htwo.shortest _ _ hone.switches)
  obtain ⟨switch, hsplit, hswitch⟩ := hone.switches
  obtain ⟨switch', hsplit', hswitch'⟩ := htwo.switches
  obtain ⟨rfl, rfl⟩ := List.append_inj (hsplit.symm.trans hsplit') hlength
  exact ⟨rfl, hswitch.path_eq hswitch'⟩

/-- A switch at the start is the first one. -/
theorem FirstSwitch.of_begins {c : Char} {rest path : List Char}
    (hswitch : BeginsWithSwitch (c :: rest) path) : FirstSwitch (c :: rest) [] path :=
  ⟨switchesBehind_cons_iff.mpr (.inl ⟨rfl, hswitch⟩), fun _ _ _ => Nat.zero_le _⟩

/-- The first switch is behind the first character if the text does not begin with one. -/
theorem FirstSwitch.cons {c : Char} {rest front path : List Char}
    (hfirst : FirstSwitch rest front path) (hnone : ∀ path', ¬BeginsWithSwitch (c :: rest) path') :
    FirstSwitch (c :: rest) (c :: front) path := by
  refine ⟨switchesBehind_cons_iff.mpr (.inr ⟨front, rfl, hfirst.switches⟩), ?_⟩
  intro front' path' hother
  rcases switchesBehind_cons_iff.mp hother with ⟨-, hswitch⟩ | ⟨front'', rfl, hbehind⟩
  · exact absurd hswitch (hnone path')
  · exact Nat.succ_le_succ (hfirst.shortest front'' path' hbehind)

/-- The search finds a first switch, or there is none. -/
theorem fileSwitch?_decides (text : List Char) :
    (∃ front path, fileSwitch? text = some path ∧ FirstSwitch text front path) ∨
      (fileSwitch? text = none ∧ ∀ front path, ¬SwitchesBehind text front path) := by
  induction text with
  | nil => exact .inr ⟨rfl, not_switchesBehind_nil⟩
  | cons c rest ih =>
    rw [fileSwitch?]
    cases hhere : fileSwitchHere? (c :: rest) with
    | some path =>
      exact .inl ⟨[], path, rfl, .of_begins (fileSwitchHere?_eq_some_iff.mp hhere)⟩
    | none =>
      have hnone (path : List Char) : ¬BeginsWithSwitch (c :: rest) path := by
        rw [← fileSwitchHere?_eq_some_iff, hhere]
        exact (Option.some_ne_none path).symm
      -- Splits of the rest become splits of the whole, and there are no others.
      rcases ih with ⟨front, path, hfound, hfirst⟩ | ⟨hfound, hnowhere⟩
      · exact .inl ⟨c :: front, path, hfound, hfirst.cons hnone⟩
      · refine .inr ⟨hfound, fun front path hbehind => ?_⟩
        rcases switchesBehind_cons_iff.mp hbehind with ⟨-, hswitch⟩ | ⟨front', -, hrest⟩
        · exact hnone path hswitch
        · exact hnowhere front' path hrest

/-- The path that is found is the one of the first switch. -/
theorem fileSwitch?_eq_some_iff {text path : List Char} :
    fileSwitch? text = some path ↔ ∃ front, FirstSwitch text front path := by
  rcases fileSwitch?_decides text with ⟨front, found, hfound, hfirst⟩ | ⟨hfound, hnowhere⟩
  · rw [hfound, Option.some_inj]
    constructor
    · rintro rfl
      exact ⟨front, hfirst⟩
    · rintro ⟨front', hother⟩
      exact (hfirst.unique hother).2
  · rw [hfound]
    refine iff_of_false (Option.some_ne_none path).symm ?_
    rintro ⟨front, hfirst⟩
    exact hnowhere front path hfirst.switches

/-- No path is found exactly if no switch stands anywhere. -/
theorem fileSwitch?_eq_none_iff {text : List Char} :
    fileSwitch? text = none ↔ ∀ front path, ¬SwitchesBehind text front path := by
  rcases fileSwitch?_decides text with ⟨front, found, hfound, hfirst⟩ | hnone
  · rw [hfound]
    exact iff_of_false (Option.some_ne_none found) fun hnowhere =>
      hnowhere front found hfirst.switches
  · exact iff_of_true hnone.1 hnone.2

/-! ## Source lines -/

/-- A text of the form `.line n,` behind blanks, with the digits of its number. -/
def GivesDigits (text digits : List Char) : Prop :=
  ∃ blanks rest, (∀ c ∈ blanks, Text.isBlank c = true) ∧ IsDigits digits ∧
    text = blanks ++ (".line ".toList ++ (digits ++ (",".toList ++ rest)))

/-- Blanks in front of a directive do not count. -/
theorem lineDigits?_append {blanks : List Char} (hblanks : ∀ c ∈ blanks, Text.isBlank c = true)
    (text : List Char) : lineDigits? (blanks ++ text) = lineDigits? text := by
  have htrim : Text.trimLeft (blanks ++ text) = Text.trimLeft text := by
    rw [Text.trimLeft, List.dropWhile_append_of_pos hblanks, Text.trimLeft]
  rw [lineDigits?, htrim, lineDigits?]

/-- The digits that are found are those of a directive. -/
theorem lineDigits?_eq_some_iff {text digits : List Char} :
    lineDigits? text = some digits ↔ GivesDigits text digits := by
  constructor
  · intro hfound
    simp only [lineDigits?, Option.bind_eq_bind, Option.bind_eq_some_iff, after?_eq_some_iff,
      Option.pure_def, Option.some_inj] at hfound
    obtain ⟨_, htrim, _, hafter, rest, rfl, rfl⟩ := hfound
    obtain ⟨digits, hdigits, rfl⟩ := eq_append_of_afterDigits? hafter
    rw [takeWhile_isDigit_append hdigits (by rintro _ ⟨⟩; decide)]
    refine ⟨text.takeWhile Text.isBlank, rest, ?_, hdigits, ?_⟩
    · exact fun c hc => List.all_eq_true.mp List.all_takeWhile c hc
    · rw [← htrim, Text.trimLeft, List.takeWhile_append_dropWhile]
  · rintro ⟨blanks, rest, hblanks, hdigits, rfl⟩
    rw [lineDigits?_append hblanks]
    exact lineDigits?_directive hdigits rest

/-- A text gives a number other than zero exactly if its digits are read as that number, and it is
not the one of hidden sequence points. -/
theorem lineNumber_eq_ok_iff {text : List Char} {number : Nat} (hne : number ≠ 0) :
    lineNumber text = .ok number ↔
      ∃ digits, lineDigits? text = some digits ∧ Text.readNumeral digits = .ok number ∧
        number ≠ hiddenLine := by
  rw [lineNumber]
  cases lineDigits? text with
  | none => simp only [Except.ok.injEq, hne.symm, reduceCtorEq, false_and, exists_false]
  | some digits =>
    simp only [Option.some_inj, exists_eq_left']
    cases Text.readNumeral digits with
    | error fault => exact iff_of_false (by rintro ⟨⟩) (by rintro ⟨⟨⟩, -⟩)
    | ok value =>
      change Except.ok (if value = hiddenLine then 0 else value) = Except.ok number ↔ _
      rw [Except.ok.injEq, Except.ok.injEq]
      split
      · next hhidden =>
        exact iff_of_false hne.symm fun hboth => hboth.2 (hboth.1 ▸ hhidden)
      · next hshown => exact ⟨fun hvalue => ⟨hvalue, hvalue ▸ hshown⟩, And.left⟩

/-- A line switches to a path exactly if it splits around a switch to that path with the shortest
front of all splits, and to none exactly if it does not split so at all. It gives a source line
exactly if it is a directive behind blanks, with at most 4300 digits that stand for the number of
the source line and not for that of hidden sequence points. -/
theorem recognises_grammar (line : String) :
    (∀ path, fileSwitch? line.toList = some path ↔
      ∃ front, FirstSwitch line.toList front path) ∧
    (fileSwitch? line.toList = none ↔ ∀ front path, ¬SwitchesBehind line.toList front path) ∧
    ∀ number, number ≠ 0 →
      (lineNumber line.toList = .ok number ↔
        ∃ digits, GivesDigits line.toList digits ∧ digits.length ≤ Text.maxNumeralDigits ∧
          Text.Spells digits number ∧ number ≠ hiddenLine) := by
  refine ⟨fun path => fileSwitch?_eq_some_iff, fileSwitch?_eq_none_iff, fun number hne => ?_⟩
  rw [lineNumber_eq_ok_iff hne]
  refine exists_congr fun digits => ?_
  rw [lineDigits?_eq_some_iff]
  refine and_congr_right fun hgives => ?_
  obtain ⟨-, -, -, hdigits, -⟩ := hgives
  rw [Text.readNumeral_eq_ok_iff hdigits.2, and_assoc]

/-- A directive that is broken off by a switch to an empty path, and two whole switches. -/
def nestedSwitches : String :=
  "\u3000.line ٣٤,7 : 1,line 1,1 : 2,2 '' line 3,3 : 4,4 'a.cs' line 5,5 : 6,6 'b.cs'"

/-- The first whole switch is the one that counts, and the number is read from Arabic digits. -/
theorem recognises_grammar_nestedSwitches :
    (∃ front, FirstSwitch nestedSwitches.toList front "a.cs".toList) ∧
      34 ≠ 0 ∧ lineNumber nestedSwitches.toList = .ok 34 := by
  obtain ⟨hswitch, -, hnumber⟩ := recognises_grammar nestedSwitches
  have hfirst := (hswitch "a.cs".toList).mp (by decide +kernel)
  have hthree : Text.IsDigitOf '٣' 3 := ⟨by decide, 0x0660, by decide, rfl⟩
  have hfour : Text.IsDigitOf '٤' 4 := ⟨by decide, 0x0660, by decide, rfl⟩
  have hspells : Text.Spells ['٣', '٤'] 34 := ⟨[3, 4], .cons hthree (.cons hfour .nil), rfl⟩
  have hrun : ∀ c ∈ ['٣', '٤'], Text.isDigit c = true :=
    List.forall_mem_cons.mpr ⟨Text.isDigit_iff.mpr ⟨3, hthree⟩,
      List.forall_mem_singleton.mpr (Text.isDigit_iff.mpr ⟨4, hfour⟩)⟩
  have hdigits : GivesDigits nestedSwitches.toList ['٣', '٤'] :=
    ⟨['\u3000'], nestedSwitches.toList.drop 10, List.forall_mem_singleton.mpr rfl,
      ⟨List.cons_ne_nil _ _, hrun⟩, by decide⟩
  exact ⟨hfirst, by decide,
    (hnumber 34 (by decide)).mpr ⟨_, hdigits, by decide, hspells, by decide⟩⟩

end Marker

end ILGraft

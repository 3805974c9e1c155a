import ILGraft.Host
import Mathlib.Data.List.Basic

/-!
# Control sequences in a text

Stripping a text of its control sequences leaves it alone exactly if it holds none. What is said on
a stream is therefore what was meant for it, unless an escape in it begins a control sequence.
-/

namespace ILGraft

namespace Text.Ansi

/-- A text that holds a control sequence: an escape somewhere, and behind it what completes one. -/
def HoldsSequence (text : List Char) : Prop :=
  ∃ before rest tail, text = before ++ escape :: rest ∧ afterSequence? rest = some tail

/-- A text holds a control sequence at its start or behind its first character. -/
theorem holdsSequence_cons {c : Char} {rest : List Char} :
    HoldsSequence (c :: rest) ↔
      (c = escape ∧ ∃ tail, afterSequence? rest = some tail) ∨ HoldsSequence rest := by
  constructor
  · rintro ⟨before, behind, tail, htext, htail⟩
    cases before with
    | nil =>
      obtain ⟨rfl, rfl⟩ := List.cons.inj htext
      exact .inl ⟨rfl, tail, htail⟩
    | cons first before =>
      obtain ⟨-, rfl⟩ := List.cons.inj htext
      exact .inr ⟨before, behind, tail, rfl, htail⟩
  · rintro (⟨rfl, tail, htail⟩ | ⟨before, behind, tail, rfl, htail⟩)
    · exact ⟨[], rest, tail, rfl, htail⟩
    · exact ⟨c :: before, behind, tail, rfl, htail⟩

/-- A control sequence at the start is left out. -/
theorem strip_sequence {rest tail : List Char} (htail : afterSequence? rest = some tail) :
    strip (escape :: rest) = strip tail := by
  rw [strip, if_pos rfl]
  split
  · next other hother =>
    rw [htail] at hother
    rw [Option.some.inj hother]
  · next hnone =>
    rw [htail] at hnone
    cases hnone

/-- A character that begins no control sequence stays. -/
theorem strip_cons {c : Char} {rest : List Char}
    (hplain : c = escape → afterSequence? rest = none) : strip (c :: rest) = c :: strip rest := by
  rw [strip]
  by_cases hescape : c = escape
  · have hnone := hplain hescape
    rw [if_pos hescape]
    split
    · next other hother =>
      rw [hnone] at hother
      cases hother
    · rfl
  · rw [if_neg hescape]

/-- Characters in front that are no escapes stay. -/
theorem strip_append {front : List Char} (hplain : escape ∉ front) (text : List Char) :
    strip (front ++ text) = front ++ strip text := by
  induction front with
  | nil => rfl
  | cons c front ih =>
    rw [List.mem_cons, not_or] at hplain
    rw [List.cons_append, List.cons_append, strip_cons fun hescape => absurd hescape.symm hplain.1,
      ih hplain.2]

/-- Stripping makes no text longer. -/
theorem length_strip_le (text : List Char) : (strip text).length ≤ text.length := by
  induction text using strip.induct with
  | case1 => simp only [strip, Nat.le_refl]
  | case2 rest tail htail ih =>
    have hshorter := length_afterSequence? htail
    rw [strip_sequence htail, List.length_cons]
    omega
  | case3 rest hnone ih =>
    rw [strip_cons fun _ => hnone, List.length_cons, List.length_cons]
    omega
  | case4 c rest hplain ih =>
    rw [strip_cons fun hescape => absurd hescape hplain, List.length_cons, List.length_cons]
    omega

/-- Stripping leaves a text alone exactly if it holds no control sequence. -/
theorem strip_eq_self_iff (text : List Char) : strip text = text ↔ ¬HoldsSequence text := by
  induction text with
  | nil =>
    refine iff_of_true (by rw [strip]) ?_
    rintro ⟨before, rest, tail, htext, -⟩
    cases before <;> cases htext
  | cons c rest ih =>
    rw [holdsSequence_cons]
    by_cases hbegins : c = escape ∧ ∃ tail, afterSequence? rest = some tail
    · -- What is left of the text is too short to be the text itself.
      obtain ⟨rfl, tail, htail⟩ := hbegins
      refine iff_of_false (fun hstrip => ?_) fun hnone => hnone (.inl ⟨rfl, tail, htail⟩)
      have hstripped := length_strip_le tail
      have hshorter := length_afterSequence? htail
      rw [strip_sequence htail] at hstrip
      rw [hstrip, List.length_cons] at hstripped
      omega
    · have hplain : c = escape → afterSequence? rest = none := by
        intro hescape
        rw [Option.eq_none_iff_forall_not_mem]
        exact fun tail htail => hbegins ⟨hescape, tail, htail⟩
      rw [strip_cons hplain, List.cons.injEq, ih]
      simp only [true_and, hbegins, false_or]

/-- The three classes of characters in a control sequence are told apart by their code points. -/
theorem class_iff (c : Char) :
    (isParameter c = true ↔ 0x30 ≤ c.toNat ∧ c.toNat ≤ 0x3f) ∧
      (isIntermediate c = true ↔ 0x20 ≤ c.toNat ∧ c.toNat ≤ 0x2f) ∧
      (isFinal c = true ↔ 0x40 ≤ c.toNat ∧ c.toNat ≤ 0x7e) := by
  simp only [isParameter, isIntermediate, isFinal, Bool.and_eq_true, decide_eq_true_eq,
    Char.le_def, UInt32.le_iff_toNat_le]
  exact ⟨Iff.rfl, Iff.rfl, Iff.rfl⟩

/-- What completes a control sequence: a bracket, parameters, intermediate characters and a final
one. -/
theorem afterSequence?_eq_some_iff {text tail : List Char} :
    afterSequence? text = some tail ↔
      ∃ parameters intermediates last,
        text = '[' :: (parameters ++ (intermediates ++ last :: tail)) ∧
        (∀ c ∈ parameters, isParameter c = true) ∧
        (∀ c ∈ intermediates, isIntermediate c = true) ∧ isFinal last = true := by
  constructor
  · intro htail
    unfold afterSequence? at htail
    split at htail
    · next rest =>
      split at htail
      · next last tail' hdrop =>
        split at htail
        · next hlast =>
          obtain rfl := Option.some.inj htail
          refine ⟨rest.takeWhile isParameter,
            (rest.dropWhile isParameter).takeWhile isIntermediate, last, ?_,
            List.all_eq_true.mp List.all_takeWhile, List.all_eq_true.mp List.all_takeWhile, hlast⟩
          rw [← hdrop, List.takeWhile_append_dropWhile, List.takeWhile_append_dropWhile]
        · cases htail
      · cases htail
    · cases htail
  · rintro ⟨parameters, intermediates, last, rfl, hparameters, hintermediates, hlast⟩
    -- Neither the intermediate characters nor the final one could be taken for parameters.
    have hafter : (intermediates ++ last :: tail).dropWhile isParameter =
        intermediates ++ last :: tail := by
      cases intermediates with
      | nil =>
        have hfinal := (class_iff last).2.2.mp hlast
        have hno : ¬isParameter last = true := by
          rw [(class_iff last).1]
          omega
        rw [List.nil_append, List.dropWhile_cons_of_neg hno]
      | cons c more =>
        have hc := (class_iff c).2.1.mp (hintermediates c List.mem_cons_self)
        have hno : ¬isParameter c = true := by
          rw [(class_iff c).1]
          omega
        rw [List.cons_append, List.dropWhile_cons_of_neg hno]
    have hfinal := (class_iff last).2.2.mp hlast
    have hno : ¬isIntermediate last = true := by
      rw [(class_iff last).2.1]
      omega
    simp only [afterSequence?, List.dropWhile_append_of_pos hparameters, hafter,
      List.dropWhile_append_of_pos hintermediates, List.dropWhile_cons_of_neg hno, hlast, if_true]

/-- A text without escapes holds no control sequence. -/
theorem not_holdsSequence {text : List Char} (hplain : escape ∉ text) : ¬HoldsSequence text := by
  rintro ⟨before, rest, tail, rfl, -⟩
  exact hplain (List.mem_append_right _ List.mem_cons_self)

/-- A control sequence in a part of a text is one in the text. -/
theorem HoldsSequence.of_infix {part text : List Char} (hpart : part <:+: text)
    (hholds : HoldsSequence part) : HoldsSequence text := by
  obtain ⟨front, back, rfl⟩ := hpart
  obtain ⟨before, rest, tail, rfl, htail⟩ := hholds
  obtain ⟨parameters, intermediates, last, rfl, hcomplete⟩ := afterSequence?_eq_some_iff.mp htail
  refine ⟨front ++ before, '[' :: (parameters ++ (intermediates ++ last :: (tail ++ back))),
    tail ++ back, ?_, ?_⟩
  · simp only [List.append_assoc, List.cons_append]
  · exact afterSequence?_eq_some_iff.mpr ⟨parameters, intermediates, last, rfl, hcomplete⟩

/-- Text in front that holds no escape has no part in control sequences. -/
theorem HoldsSequence.of_append_left {front text : List Char} (hfront : escape ∉ front)
    (hholds : HoldsSequence (front ++ text)) : HoldsSequence text := by
  induction front with
  | nil => exact hholds
  | cons c front ih =>
    obtain ⟨hc, hrest⟩ := not_or.mp (mt List.mem_cons.mpr hfront)
    rw [List.cons_append, holdsSequence_cons] at hholds
    rcases hholds with ⟨hescape, -⟩ | hlater
    · exact absurd hescape.symm hc
    · exact ih hrest hlater

/-- Text behind that could neither begin nor end a control sequence has no part in any. -/
theorem HoldsSequence.of_append_right {text back : List Char} (hescape : escape ∉ back)
    (hfinal : ∀ c ∈ back, isFinal c = false) (hholds : HoldsSequence (text ++ back)) :
    HoldsSequence text := by
  induction text with
  | nil => exact absurd hholds (not_holdsSequence hescape)
  | cons c text ih =>
    rw [List.cons_append, holdsSequence_cons] at hholds
    rcases hholds with ⟨hc, tail, htail⟩ | hlater
    · refine holdsSequence_cons.mpr (.inl ⟨hc, ?_⟩)
      obtain ⟨parameters, intermediates, last, htext, hparameters, hintermediates, hlast⟩ :=
        afterSequence?_eq_some_iff.mp htail
      have hclosed : text ++ back = ('[' :: (parameters ++ intermediates)) ++ last :: tail := by
        rw [htext, List.cons_append, List.append_assoc]
      have hinside : last ∉ back := by
        intro hmem
        rw [hfinal last hmem] at hlast
        cases hlast
      -- As the final character lies in the text, all of the sequence does.
      rcases List.append_eq_append_iff.mp hclosed with ⟨middle, -, hback⟩ | ⟨middle, hmiddle, hback⟩
      · exact absurd (hback ▸ List.mem_append_right middle List.mem_cons_self) hinside
      · cases middle with
        | nil =>
          have hmem : last ∈ [] ++ back := hback ▸ List.mem_cons_self
          exact absurd hmem hinside
        | cons first more =>
          obtain ⟨rfl, rfl⟩ := List.cons.inj hback
          refine ⟨more, afterSequence?_eq_some_iff.mpr ⟨parameters, intermediates, last, ?_,
            hparameters, hintermediates, hlast⟩⟩
          rw [hmiddle, List.cons_append, List.append_assoc]
    · exact holdsSequence_cons.mpr (.inr (ih hlater))

end Text.Ansi

namespace Host

/-- On a stream that is no terminal, a host leaves out nothing but control sequences. It need not
know all of them. -/
structure KeepsText [Host] : Prop where
  /-- A text without control sequences is left alone. -/
  strip_eq_self : ∀ text, ¬Text.Ansi.HoldsSequence text → strip text = text
  /-- Characters in front that are no escapes stay. -/
  strip_append : ∀ front text, Text.Ansi.escape ∉ front →
    strip (front ++ text) = front ++ strip text

/-- A host that leaves out something of every text with a control sequence, and nothing else. -/
structure StripsSequences [Host] : Prop extends KeepsText where
  /-- A text with a control sequence is not left alone. -/
  strip_ne_self : ∀ text, Text.Ansi.HoldsSequence text → strip text ≠ text

/-- Such a host leaves a text alone exactly if it holds no control sequence. -/
theorem StripsSequences.strip_eq_self_iff [Host] (hstrips : StripsSequences) (text : List Char) :
    strip text = text ↔ ¬Text.Ansi.HoldsSequence text :=
  ⟨fun hself hholds => hstrips.strip_ne_self text hholds hself, hstrips.strip_eq_self text⟩

/-- A host that collects what is said leaves out control sequences. -/
theorem collecting_stripsSequences : collecting.StripsSequences where
  strip_eq_self text := (Text.Ansi.strip_eq_self_iff text).mpr
  strip_append _ text hplain := Text.Ansi.strip_append hplain text
  strip_ne_self text hholds hself := (Text.Ansi.strip_eq_self_iff text).mp hself hholds

end Host

end ILGraft

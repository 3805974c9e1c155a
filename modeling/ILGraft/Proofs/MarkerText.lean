import ILGraft.Marker
import ILGraft.Proofs.Numerals
import Mathlib.Data.List.Basic

/-!
# The text of markers

A file switch is recognised by its form alone. Written markers have that form, so reading one gives
back its first number and its path as it is written, with every backslash doubled.
-/

namespace ILGraft.Marker

/-- A run of decimal digits of any script, at least one. -/
def IsDigits (digits : List Char) : Prop :=
  digits ≠ [] ∧ ∀ c ∈ digits, Text.isDigit c = true

/-- A text that begins with `line a,b : c,d 'path'`. -/
def BeginsWithSwitch (text path : List Char) : Prop :=
  ∃ a b c d rest, IsDigits a ∧ IsDigits b ∧ IsDigits c ∧ IsDigits d ∧
    path ≠ [] ∧ '\'' ∉ path ∧
    text = "line ".toList ++ (a ++ (",".toList ++ (b ++ (" : ".toList ++ (c ++ (",".toList ++
      (d ++ (" '".toList ++ (path ++ '\'' :: rest)))))))))

/-- The digits of a written number are a run of digits. -/
theorem isDigits_toDigits (n : Nat) : IsDigits (Nat.toDigits 10 n) :=
  ⟨Nat.toDigits_ne_nil, fun _ => Text.isDigit_of_mem_toDigits⟩

/-- What follows a literal, and when there is something to follow. -/
theorem after?_eq_some_iff {literal : String} {text rest : List Char} :
    after? literal text = some rest ↔ text = literal.toList ++ rest := by
  rw [after?, List.isPrefixOf?_eq_some_iff_append_eq, eq_comm]

/-- A literal at the start of a text is followed by what stands behind it. -/
theorem after?_append (literal : String) (text : List Char) :
    after? literal (literal.toList ++ text) = some text :=
  after?_eq_some_iff.mpr rfl

/-- Digits in front of something else are taken as a whole. -/
theorem takeWhile_isDigit_append {digits rest : List Char} (hdigits : IsDigits digits)
    (hrest : ∀ c ∈ rest.head?, Text.isDigit c = false) :
    (digits ++ rest).takeWhile Text.isDigit = digits := by
  have hstop : rest.takeWhile Text.isDigit = [] := by
    cases rest with
    | nil => rfl
    | cons c rest =>
      have hc : Text.isDigit c = false := hrest c rfl
      rw [List.takeWhile_cons_of_neg (by simp [hc])]
  rw [List.takeWhile_append_of_pos hdigits.2, hstop, List.append_nil]

/-- What follows the digits in front of something else. -/
theorem afterDigits?_append {digits rest : List Char} (hdigits : IsDigits digits)
    (hrest : ∀ c ∈ rest.head?, Text.isDigit c = false) :
    afterDigits? (digits ++ rest) = some rest := by
  have htake := takeWhile_isDigit_append hdigits hrest
  have hsplit := List.takeWhile_append_dropWhile (p := Text.isDigit) (l := digits ++ rest)
  rw [htake] at hsplit
  rw [afterDigits?, htake, if_neg hdigits.1, List.append_cancel_left hsplit]

/-- What follows the digits in front of a literal that does not begin with a digit. -/
theorem afterDigits?_append_literal {digits text : List Char} {literal : String}
    (hdigits : IsDigits digits)
    (hliteral : literal.toList.head?.any (!Text.isDigit ·) = true) :
    afterDigits? (digits ++ (literal.toList ++ text)) = some (literal.toList ++ text) := by
  apply afterDigits?_append hdigits
  intro c hc
  cases hchars : literal.toList with
  | nil => simp [hchars] at hliteral
  | cons first rest =>
    have hfirst : c = first := by simpa [hchars, eq_comm] using hc
    simpa [hchars, hfirst] using hliteral

/-- Whatever is found behind digits has digits in front of it. -/
theorem eq_append_of_afterDigits? {text rest : List Char} (hafter : afterDigits? text = some rest) :
    ∃ digits, IsDigits digits ∧ text = digits ++ rest := by
  rw [afterDigits?] at hafter
  split at hafter
  · cases hafter
  · next hne =>
    cases hafter
    refine ⟨text.takeWhile Text.isDigit, ⟨hne, fun c hc => ?_⟩, ?_⟩
    · exact List.all_eq_true.mp List.all_takeWhile c hc
    · exact List.takeWhile_append_dropWhile.symm

/-- A file switch is found at the start of a text exactly if the text begins with one. -/
theorem fileSwitchHere?_eq_some_iff {text path : List Char} :
    fileSwitchHere? text = some path ↔ BeginsWithSwitch text path := by
  constructor
  · intro hswitch
    simp only [fileSwitchHere?, Option.bind_eq_bind, Option.bind_eq_some_iff,
      after?_eq_some_iff] at hswitch
    obtain ⟨_, rfl, _, ha, _, rfl, _, hb, _, rfl, _, hc, _, rfl, _, hd, quoted, rfl, hpath⟩ :=
      hswitch
    obtain ⟨a, hadigits, rfl⟩ := eq_append_of_afterDigits? ha
    obtain ⟨b, hbdigits, rfl⟩ := eq_append_of_afterDigits? hb
    obtain ⟨c, hcdigits, rfl⟩ := eq_append_of_afterDigits? hc
    obtain ⟨d, hddigits, rfl⟩ := eq_append_of_afterDigits? hd
    split at hpath
    · cases hpath
    · next hclosed =>
      cases hpath
      obtain ⟨hne, hquote⟩ := not_or.mp hclosed
      obtain ⟨close, rest, hrest⟩ := List.exists_cons_of_ne_nil hquote
      have hend : close = '\'' := by
        have hhead := List.head_dropWhile_not _ hquote
        simp only [hrest, List.head_cons] at hhead
        simpa using hhead
      refine ⟨a, b, c, d, rest, hadigits, hbdigits, hcdigits, hddigits, hne, ?_, ?_⟩
      · intro hmem
        simpa using List.all_eq_true.mp List.all_takeWhile _ hmem
      · rw [← hend, ← hrest, hend, List.takeWhile_append_dropWhile]
  · rintro ⟨a, b, c, d, rest, ha, hb, hc, hd, hne, hquote, rfl⟩
    have hpath : ∀ x ∈ path, decide (x ≠ '\'') = true := fun x hx => by
      have : x ≠ '\'' := fun heq => hquote (heq ▸ hx)
      simpa using this
    have htake : (path ++ '\'' :: rest).takeWhile (· ≠ '\'') = path := by
      rw [List.takeWhile_append_of_pos hpath, List.takeWhile_cons_of_neg (by simp),
        List.append_nil]
    have hdrop : (path ++ '\'' :: rest).dropWhile (· ≠ '\'') = '\'' :: rest := by
      rw [List.dropWhile_append_of_pos hpath, List.dropWhile_cons_of_neg (by simp)]
    have hcomma : ",".toList.head?.any (!Text.isDigit ·) = true := by decide
    have hcolon : " : ".toList.head?.any (!Text.isDigit ·) = true := by decide
    have hquoted : " '".toList.head?.any (!Text.isDigit ·) = true := by decide
    simp only [fileSwitchHere?, Option.bind_eq_bind, after?_append, Option.bind_some,
      afterDigits?_append_literal ha hcomma, afterDigits?_append_literal hb hcolon,
      afterDigits?_append_literal hc hcomma, afterDigits?_append_literal hd hquoted,
      htake, hdrop, hne, reduceCtorEq, or_self, if_false]

/-- The path that a text names has characters, none of them a quote. -/
theorem path_of_fileSwitch? {text path : List Char} (hswitch : fileSwitch? text = some path) :
    path ≠ [] ∧ '\'' ∉ path := by
  induction text with
  | nil => cases hswitch
  | cons c rest ih =>
    rw [fileSwitch?] at hswitch
    cases hhere : fileSwitchHere? (c :: rest) with
    | none => exact ih (by simpa [hhere] using hswitch)
    | some found =>
      obtain ⟨_, _, _, _, _, _, _, _, _, hne, hquote, _⟩ := fileSwitchHere?_eq_some_iff.mp hhere
      have hpath : found = path := by simpa [hhere] using hswitch
      exact hpath ▸ ⟨hne, hquote⟩

/-- A file switch at the start of a text is the first one. -/
theorem fileSwitch?_of_here {text path : List Char} (hhere : fileSwitchHere? text = some path) :
    fileSwitch? text = some path := by
  cases text with
  | nil => cases hhere
  | cons c rest =>
    rw [fileSwitch?, hhere]
    rfl

/-- A text without a quote switches to no file. -/
theorem fileSwitch?_eq_none {text : List Char} (hquote : '\'' ∉ text) :
    fileSwitch? text = none := by
  induction text with
  | nil => rfl
  | cons c rest ih =>
    have hrest := ih fun hmem => hquote (List.mem_cons_of_mem _ hmem)
    rw [fileSwitch?, hrest]
    cases hhere : fileSwitchHere? (c :: rest) with
    | none => rfl
    | some path =>
      obtain ⟨_, _, _, _, _, _, _, _, _, _, _, htext⟩ := fileSwitchHere?_eq_some_iff.mp hhere
      exact absurd (by simp [htext]) hquote

/-- A text whose first character is no blank gives a source line only if it begins with a
directive. -/
theorem lineDigits?_eq_none {c : Char} {rest : List Char} (hblank : Text.isBlank c = false)
    (hdot : c ≠ '.') : lineDigits? (c :: rest) = none := by
  have htrim : Text.trimLeft (c :: rest) = c :: rest := by
    rw [Text.trimLeft, List.dropWhile_cons_of_neg (by simp [hblank])]
  have hafter : after? ".line " (c :: rest) = none := by
    rw [Option.eq_none_iff_forall_not_mem]
    intro text htext
    have heq := after?_eq_some_iff.mp htext
    exact hdot (List.cons.inj heq).1
  simp only [lineDigits?, htrim, hafter, Option.bind_eq_bind, Option.bind_none]

/-- A comment gives no source line. -/
theorem lineNumber_comment (text : List Char) : lineNumber ('/' :: text) = .ok 0 := by
  rw [lineNumber, lineDigits?_eq_none (by decide) (by decide)]

/-- A path as markers write it, with its backslashes doubled. -/
def escaped (path : String) : String :=
  String.ofList (Text.replaceChar '\\' ['\\', '\\'] path.toList)

private theorem length_doubled (text : List Char) :
    (Text.replaceChar '\\' ['\\', '\\'] text).length = text.length + text.count '\\' := by
  induction text with
  | nil => rfl
  | cons c rest ih =>
    rw [Text.replaceChar] at ih
    rw [Text.replaceChar, List.flatMap_cons, List.length_append, ih, List.length_cons,
      List.count_cons]
    by_cases hc : c = '\\'
    · simp only [hc, if_true, List.length_cons, List.length_nil, BEq.rfl]
      omega
    · simp only [if_neg hc, List.length_singleton, beq_false_of_ne hc, Bool.false_eq_true, if_false]
      omega

/-- Replacing a character that does not occur changes nothing. -/
theorem replaceChar_of_not_mem {old : Char} {new text : List Char} (hold : old ∉ text) :
    Text.replaceChar old new text = text := by
  induction text with
  | nil => rfl
  | cons c rest ih =>
    obtain ⟨hc, hrest⟩ := not_or.mp (mt List.mem_cons.mpr hold)
    have htail := ih hrest
    rw [Text.replaceChar] at htail
    rw [Text.replaceChar, List.flatMap_cons, htail, if_neg (Ne.symm hc), List.singleton_append]

/-- Exactly the paths without a backslash are written as they are. -/
theorem escaped_eq_self_iff {path : String} : escaped path = path ↔ '\\' ∉ path.toList := by
  constructor
  · intro hsame hmem
    have hlength := length_doubled path.toList
    rw [← String.toList_ofList (l := Text.replaceChar _ _ _)] at hlength
    have hcount := List.count_pos_iff.mpr hmem
    rw [← escaped, hsame] at hlength
    omega
  · intro hpath
    rw [escaped, replaceChar_of_not_mem hpath, String.ofList_toList]

/-- A path that markers can name is still one when its backslashes are doubled. -/
theorem path_of_escaped {path : String} (hne : path.toList ≠ []) (hquote : '\'' ∉ path.toList) :
    (escaped path).toList ≠ [] ∧ '\'' ∉ (escaped path).toList := by
  rw [escaped, String.toList_ofList]
  constructor
  · intro hempty
    have hlength := length_doubled path.toList
    rw [hempty, List.length_nil] at hlength
    exact hne (List.eq_nil_of_length_eq_zero (by omega))
  · rw [Text.replaceChar, List.mem_flatMap]
    rintro ⟨c, hc, hmem⟩
    split at hmem
    · simp at hmem
    · exact hquote (List.mem_singleton.mp hmem ▸ hc)

/-- The text of a written marker. -/
theorem toList_write (path : String) (a b c d : Nat) :
    (write path a b c d).toList = '.' :: ("line ".toList ++ (Nat.toDigits 10 a ++ (",".toList ++
      (Nat.toDigits 10 b ++ (" : ".toList ++ (Nat.toDigits 10 c ++ (",".toList ++
        (Nat.toDigits 10 d ++ (" '".toList ++ ((escaped path).toList ++ '\'' :: [])))))))))) := by
  delta write
  simp only [escaped, String.toList_append, Text.toList_numeral_natCast, String.toList_ofList,
    List.append_assoc]
  rfl

/-- A written marker switches to its path as it is written, if that is a path that markers can
name. -/
theorem fileSwitch?_write {path : String} (hne : path.toList ≠ []) (hquote : '\'' ∉ path.toList)
    (a b c d : Nat) : fileSwitch? (write path a b c d).toList = some (escaped path).toList := by
  obtain ⟨hwritten, hclosed⟩ := path_of_escaped hne hquote
  rw [toList_write, fileSwitch?]
  have hskip (text : List Char) : fileSwitchHere? ('.' :: text) = none := rfl
  have hhere := fileSwitchHere?_eq_some_iff.mpr ⟨_, _, _, _, [], isDigits_toDigits a,
    isDigits_toDigits b, isDigits_toDigits c, isDigits_toDigits d, hwritten, hclosed, rfl⟩
  rw [hskip, fileSwitch?_of_here hhere]
  rfl

/-- A directive gives the digits in front of its first comma. -/
theorem lineDigits?_directive {digits : List Char} (hdigits : IsDigits digits)
    (text : List Char) :
    lineDigits? ('.' :: ("line ".toList ++ (digits ++ (",".toList ++ text)))) = some digits := by
  have htrim (text : List Char) : Text.trimLeft ('.' :: text) = '.' :: text := rfl
  have hcomma : ",".toList.head?.any (!Text.isDigit ·) = true := by decide
  have hline (text : List Char) : after? ".line " ('.' :: ("line ".toList ++ text)) = some text :=
    after?_eq_some_iff.mpr rfl
  have htake : (digits ++ (",".toList ++ text)).takeWhile Text.isDigit = digits :=
    takeWhile_isDigit_append hdigits (by rintro _ ⟨⟩; decide)
  simp only [lineDigits?, htrim, hline, htake, Option.bind_eq_bind, Option.bind_some,
    afterDigits?_append_literal hdigits hcomma, after?_append, pure]

/-- A written marker gives its first number as the source line, unless that is the number of
hidden sequence points. -/
theorem lineNumber_write (path : String) {a : Nat}
    (hshort : (Nat.toDigits 10 a).length ≤ Text.maxNumeralDigits) (b c d : Nat) :
    lineNumber (write path a b c d).toList = .ok (if a = hiddenLine then 0 else a) := by
  have hdigits : lineDigits? (write path a b c d).toList = some (Nat.toDigits 10 a) := by
    rw [toList_write]
    exact lineDigits?_directive (isDigits_toDigits a) _
  rw [lineNumber, hdigits]
  simp only [Text.readNumeral_toDigits hshort]
  rfl

end ILGraft.Marker

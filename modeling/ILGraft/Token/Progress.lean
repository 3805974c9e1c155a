import ILGraft.Token.Rule

/-!
# Every rule advances

A rule that applies takes at least one character and no more than there are, in every mode and
whatever stands in front of the text. So lexing by the rules comes to the end of every text. At a
line feed some rule always applies, so no line feed is stray.
-/

namespace ILGraft.LexRule

/-- Whatever is taken of a text is at least one character, and no more than there are. -/
def Advances (taken : List Char → Option Nat) : Prop :=
  ∀ text n, taken text = some n → 0 < n ∧ n ≤ text.length

/-! ## What rules are made of -/

/-- The characters with a property are part of the text. -/
theorem width_le (p : Char → Bool) (text : List Char) : width p text ≤ text.length :=
  (List.takeWhile_sublist p).length_le

/-- A run has a character. -/
theorem advances_run (p : Char → Bool) : Advances (run p) := by
  intro text n hn
  have hfits := width_le p text
  unfold run at hn
  split at hn
  · cases hn
  · cases hn
    omega

/-- One character is a character. -/
theorem advances_one (p : Char → Bool) : Advances (one p) := by
  intro text n hn
  unfold one at hn
  split at hn
  · cases hn
  · split at hn
    · cases hn
      simp
    · cases hn

/-- A character begins what goes on behind it. -/
theorem advances_startedBy (first p : Char → Bool) : Advances (startedBy first p) := by
  intro text n hn
  unfold startedBy at hn
  split at hn
  · cases hn
  · next c rest =>
    have hfits := width_le p rest
    split at hn
    · cases hn
      rw [List.length_cons]
      omega
    · cases hn

/-- An ending is reached within the text. -/
theorem advances_through {ending : List Char} (hending : ending ≠ []) :
    Advances (through ending) := by
  intro text n hn
  induction text generalizing n with
  | nil =>
    simp only [through, List.isPrefixOf_iff_prefix, List.prefix_nil, hending, if_false] at hn
    cases hn
  | cons c rest ih =>
    unfold through at hn
    split at hn
    · next hbegins =>
      cases hn
      exact ⟨List.length_pos_iff.mpr hending,
        (List.isPrefixOf_iff_prefix.mp hbegins).length_le⟩
    · obtain ⟨m, hm, rfl⟩ := Option.map_eq_some_iff.mp hn
      have hrest := ih m hm
      rw [List.length_cons]
      omega

/-- What is taken behind some first characters is taken of the text that these begin. -/
theorem Advances.behind {taken : List Char → Option Nat} (htaken : Advances taken) {first n : Nat}
    {rest : List Char} (hn : behind first (taken rest) = some n) :
    0 < n ∧ n ≤ first + rest.length := by
  obtain ⟨m, hm, rfl⟩ := Option.map_eq_some_iff.mp hn
  have hrest := htaken rest m hm
  omega

/-- A condition on what follows only refuses. -/
theorem Advances.of_filter {taken : List Char → Option Nat} (htaken : Advances taken)
    {p : Nat → Bool} {text : List Char} {n : Nat} (hn : (taken text).filter p = some n) :
    0 < n ∧ n ≤ text.length :=
  htaken text n (Option.filter_eq_some_iff.mp hn).1

/-! ## The rules -/

/-- A comment to the end of the line begins with two slashes. -/
theorem advances_lineComment : Advances lineComment := by
  intro text n hn
  unfold lineComment at hn
  split at hn
  · next rest =>
    have hfits := width_le (· ≠ '\n') rest
    cases hn
    rw [List.length_cons, List.length_cons]
    omega
  · cases hn

/-- A comment between delimiters ends within the text. -/
theorem advances_blockComment : Advances blockComment := by
  intro text n hn
  unfold blockComment at hn
  split at hn
  · next rest =>
    have hrest := (advances_through (by decide)).behind hn
    rw [List.length_cons, List.length_cons]
    omega
  · cases hn

/-- The directive of a marker is there. -/
theorem advances_lineDirective : Advances lineDirective := by
  intro text n hn
  unfold lineDirective at hn
  split at hn
  · next hbegins =>
    rw [Bool.and_eq_true, List.isPrefixOf_iff_prefix] at hbegins
    cases hn
    exact ⟨by decide, hbegins.1.length_le⟩
  · cases hn

/-- A directive is a dot and a word. -/
theorem advances_directive : Advances directive := by
  intro text n hn
  unfold directive at hn
  split at hn
  · next rest =>
    obtain ⟨m, hm, rfl⟩ := Option.map_eq_some_iff.mp hn
    have hword := (advances_run _).of_filter hm
    rw [List.length_cons]
    omega
  · cases hn

/-- A text in single quotes ends within the text. -/
theorem advances_quoted : Advances quoted := by
  intro text n hn
  unfold quoted at hn
  split at hn
  · next rest =>
    have hrest := (advances_through (by decide)).behind hn
    rw [List.length_cons]
    omega
  · cases hn

/-- A label is a name. -/
theorem advances_label : Advances label := by
  intro text n hn
  exact (advances_startedBy _ _).of_filter hn

/-- A word for a type is a word. -/
theorem advances_typeWord (previous? : Option Char) : Advances (typeWord previous?) := by
  intro text n hn
  simp only [typeWord] at hn
  split at hn
  · cases hn
  · split at hn
    · next hknown =>
      cases hn
      refine ⟨List.length_pos_iff.mpr ?_, width_le Text.isWord text⟩
      intro hempty
      rw [hempty] at hknown
      exact absurd hknown (by decide)
    · cases hn

/-- A hexadecimal number has a digit. -/
theorem advances_hexadecimal : Advances hexadecimal := by
  intro text n hn
  unfold hexadecimal at hn
  split at hn
  · next rest =>
    have hrest := (advances_run _).behind hn
    rw [List.length_cons, List.length_cons]
    omega
  · cases hn

/-- An integer has a digit. -/
theorem advances_integer : Advances integer := by
  intro text n hn
  unfold integer at hn
  split at hn
  · next rest =>
    have hrest := (advances_run _).behind hn
    rw [List.length_cons]
    omega
  · exact advances_run _ text n hn

/-- A number with a fraction begins with an integer. -/
theorem advances_fraction : Advances fraction := by
  intro text n hn
  obtain ⟨whole, hwhole, hn⟩ := Option.bind_eq_some_iff.mp hn
  have hinteger := advances_integer text whole hwhole
  unfold fractionBehind at hn
  split at hn
  · next rest hrest =>
    have hdigits := (advances_run _).behind hn
    have hdropped := congrArg List.length hrest
    rw [List.length_drop, List.length_cons] at hdropped
    omega
  · cases hn

/-- What continues an instruction is part of the text. -/
theorem opcodeTail_le (text : List Char) : opcodeTail text ≤ text.length := by
  fun_induction opcodeTail text with
  | case1 c rest hc ih => grind
  | case2 c rest hc => exact Nat.zero_le _
  | case3 c rest hno hc ih => grind
  | case4 c rest hno hc => exact Nat.zero_le _
  | case5 => exact Nat.zero_le _

/-- An instruction begins with a letter. -/
theorem advances_opcode : Advances opcode := by
  intro text n hn
  unfold opcode at hn
  split at hn
  · next c rest =>
    have htail := opcodeTail_le rest
    split at hn
    · cases hn
      rw [List.length_cons]
      omega
    · cases hn
  · cases hn

/-- The name of an assembly ends within the text. -/
theorem advances_scope : Advances scope := by
  intro text n hn
  unfold scope at hn
  split at hn
  · next rest =>
    have hrest := (advances_through (by decide)).behind hn
    rw [List.length_cons]
    omega
  · cases hn

/-- An operator is one sign or two colons. -/
theorem advances_operator : Advances operator := by
  intro text n hn
  unfold operator at hn
  split at hn
  · next hbegins =>
    cases hn
    exact ⟨by decide, (List.isPrefixOf_iff_prefix.mp hbegins).length_le⟩
  · exact advances_one _ text n hn

/-- An escape is a backslash and a character. -/
theorem advances_escape : Advances escape := by
  intro text n hn
  unfold escape at hn
  split at hn
  · split at hn
    · cases hn
    · cases hn
      simp
  · cases hn

/-- In every mode, a rule that applies takes at least one character and no more than there are. -/
theorem advances_of_mem {mode : LexMode} {rule : LexRule} (hrule : rule ∈ ofMode mode)
    (previous? : Option Char) : Advances (rule.length previous?) := by
  cases mode with
  | code =>
    simp only [ofMode, codeRules, List.mem_cons, List.not_mem_nil, or_false] at hrule
    rcases hrule with rfl | rfl | rfl | rfl | rfl | rfl | rfl | rfl | rfl | rfl | rfl | rfl | rfl |
      rfl | rfl | rfl | rfl
    · exact advances_run _
    · exact advances_lineComment
    · exact advances_blockComment
    · exact advances_lineDirective
    · exact advances_directive
    · exact advances_one _
    · exact advances_quoted
    · exact advances_label
    · exact advances_typeWord previous?
    · exact advances_hexadecimal
    · exact advances_fraction
    · exact advances_integer
    · exact advances_opcode
    · exact advances_scope
    · exact advances_startedBy _ _
    · exact advances_operator
    · exact advances_one _
  | marker =>
    simp only [ofMode, markerRules, List.mem_cons, List.not_mem_nil, or_false] at hrule
    rcases hrule with rfl | rfl | rfl | rfl | rfl | rfl
    · exact advances_run _
    · exact advances_run _
    · exact advances_one _
    · exact advances_quoted
    · exact advances_one _
    · exact advances_one _
  | string =>
    simp only [ofMode, stringRules, List.mem_cons, List.not_mem_nil, or_false] at hrule
    rcases hrule with rfl | rfl | rfl
    · exact advances_escape
    · exact advances_run _
    · exact advances_one _

/-- In every mode some rule takes a line feed. -/
theorem exists_takes_line_feed (mode : LexMode) (previous? : Option Char) (rest : List Char) :
    ∃ rule ∈ ofMode mode, rule.length previous? ('\n' :: rest) ≠ none := by
  have hrun {p : Char → Bool} (hp : p '\n' = true) : run p ('\n' :: rest) ≠ none := by
    simp [run, width, hp]
  cases mode with
  | code =>
    refine ⟨⟨fun _ => run Text.isBlank, .text, .code⟩, by simp [ofMode, codeRules], ?_⟩
    exact hrun (p := Text.isBlank) rfl
  | marker =>
    refine ⟨⟨fun _ => one (· == '\n'), .text, .code⟩, by simp [ofMode, markerRules], ?_⟩
    simp [one]
  | string =>
    refine ⟨⟨fun _ => run (fun c => c != '"' && c != '\\'), .string, .string⟩,
      by simp [ofMode, stringRules], ?_⟩
    exact hrun (p := fun c => c != '"' && c != '\\') rfl

/-- No rule calls what it takes stray. -/
theorem kind_ne_stray {mode : LexMode} {rule : LexRule} (hrule : rule ∈ ofMode mode) :
    rule.kind ≠ .stray := by
  have hkinds : TokenKind.stray ∉ (ofMode mode).map LexRule.kind := by
    cases mode <;> decide
  rintro hstray
  exact hkinds (hstray ▸ List.mem_map_of_mem hrule)

end ILGraft.LexRule

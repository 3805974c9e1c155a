import ILGraft.Token.Progress

/-!
# Lexing

Every character of a text belongs to exactly one token. A character at which no rule applies is
a stray token by itself. Lexing ends because every rule advances.
-/

namespace ILGraft.Lexer

/-- A token that begins a text: its length, what it is, and how the text behind it is read. -/
structure Match where
  /-- How many characters the token has. -/
  length : Nat
  /-- What the token is. -/
  kind : TokenKind
  /-- How the text behind the token is read. -/
  next : LexMode
deriving Repr, DecidableEq

/-- What a rule takes of a text, if it applies. -/
def taken? (previous? : Option Char) (text : List Char) (rule : LexRule) : Option Match :=
  (rule.length previous? text).map (⟨·, rule.kind, rule.next⟩)

/-- The token that begins a text, by the first rule that applies. -/
def matchOf? (mode : LexMode) (previous? : Option Char) (text : List Char) : Option Match :=
  (LexRule.ofMode mode).findSome? (taken? previous? text)

/-- A token that begins a text has a character, and is part of the text. -/
theorem bounds_of_matchOf? {mode : LexMode} {previous? : Option Char} {text : List Char}
    {found : Match} (hfound : matchOf? mode previous? text = some found) :
    0 < found.length ∧ found.length ≤ text.length := by
  obtain ⟨rule, hrule, htaken⟩ := List.exists_of_findSome?_eq_some hfound
  obtain ⟨length, hlength, rfl⟩ := Option.map_eq_some_iff.mp htaken
  exact LexRule.advances_of_mem hrule previous? text length hlength

/-- The tokens of a text, given the character in front of it. -/
def tokensFrom (mode : LexMode) (previous? : Option Char) (text : List Char) : List Token :=
  match _hfound : matchOf? mode previous? text with
  | some found =>
    let piece := text.take found.length
    ⟨found.kind, piece⟩ ::
      tokensFrom found.next (piece.getLast?.or previous?) (text.drop found.length)
  | none =>
    match text with
    | [] => []
    | c :: rest => ⟨.stray, [c]⟩ :: tokensFrom mode (some c) rest
termination_by text.length
decreasing_by
  · -- A rule that took nothing would be tried again at the same place for ever.
    have hbounds := bounds_of_matchOf? _hfound
    rw [List.length_drop]
    omega
  · exact Nat.lt_succ_self _

/-- The tokens of a text, taken as it is. -/
def tokens (text : List Char) : List Token :=
  tokensFrom .code none text

end ILGraft.Lexer

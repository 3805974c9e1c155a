import ILGraft.Token.Lexer
import Mathlib.Data.List.Basic

/-!
# Lexing loses nothing

The tokens of a text are what the first rule takes that applies, piece after piece, and single
characters where none does. Nothing in this says that a piece has a character, or that pieces come
to an end: both hold because every rule advances. The pieces put together are the text, whatever it
leaves open.
-/

namespace ILGraft.Lexer

open LexRule

/-- How a text is cut into tokens: the first rule that applies takes a piece, which may be empty as
far as this goes, and a character to which none applies is stray. Rules look back at the character
in front of the text. -/
inductive Cuts : LexMode → Option Char → List Char → List Token → Prop
  /-- No rule applies to what is left, and nothing is left. -/
  | done {mode : LexMode} {previous? : Option Char}
      (hnone : ∀ rule ∈ ofMode mode, rule.length previous? [] = none) :
      Cuts mode previous? [] []
  /-- The first rule that applies takes a piece. -/
  | taken {mode : LexMode} {previous? : Option Char} {piece rest : List Char}
      {before after : List LexRule} {rule : LexRule} {tokens : List Token}
      (hrules : ofMode mode = before ++ rule :: after)
      (hbefore : ∀ earlier ∈ before, earlier.length previous? (piece ++ rest) = none)
      (hlength : rule.length previous? (piece ++ rest) = some piece.length)
      (hrest : Cuts rule.next (piece.getLast?.or previous?) rest tokens) :
      Cuts mode previous? (piece ++ rest) (⟨rule.kind, piece⟩ :: tokens)
  /-- No rule applies to a character. -/
  | stray {mode : LexMode} {previous? : Option Char} {c : Char} {rest : List Char}
      {tokens : List Token}
      (hnone : ∀ rule ∈ ofMode mode, rule.length previous? (c :: rest) = none)
      (hrest : Cuts mode (some c) rest tokens) :
      Cuts mode previous? (c :: rest) (⟨.stray, [c]⟩ :: tokens)

/-- A token of code is not empty, and it is no stray line feed. -/
def Sound (token : Token) : Prop :=
  token.text ≠ [] ∧ (token.kind = .stray → token.text ≠ ['\n'])

/-- Tokens are pieces of the text, put together they are all of it, and none is empty. -/
theorem Cuts.lossless {mode : LexMode} {previous? : Option Char} {text : List Char}
    {tokens : List Token} (hcuts : Cuts mode previous? text tokens) :
    tokens.flatMap Token.text = text ∧ ∀ token ∈ tokens, Sound token := by
  induction hcuts with
  | done hnone => exact ⟨rfl, List.forall_mem_nil _⟩
  | @taken mode previous? piece rest before after rule tokens hrules hbefore hlength hrest ih =>
    obtain ⟨hflat, hsound⟩ := ih
    have hrule : rule ∈ ofMode mode := hrules ▸ List.mem_append_right _ List.mem_cons_self
    have hadvances := advances_of_mem hrule previous? _ _ hlength
    have hpiece : Sound ⟨rule.kind, piece⟩ :=
      ⟨List.length_pos_iff.mp hadvances.1, fun hstray => absurd hstray (kind_ne_stray hrule)⟩
    refine ⟨?_, List.forall_mem_cons.mpr ⟨hpiece, hsound⟩⟩
    rw [List.flatMap_cons, hflat]
  | @stray mode previous? c rest tokens hnone hrest ih =>
    obtain ⟨hflat, hsound⟩ := ih
    have hfeed : c ≠ '\n' := by
      rintro rfl
      obtain ⟨rule, hrule, htakes⟩ := exists_takes_line_feed mode previous? rest
      exact htakes (hnone rule hrule)
    have hpiece : Sound ⟨.stray, [c]⟩ :=
      ⟨List.cons_ne_nil _ _, fun _ hsame => hfeed (List.singleton_inj.mp hsame)⟩
    refine ⟨?_, List.forall_mem_cons.mpr ⟨hpiece, hsound⟩⟩
    rw [List.flatMap_cons, hflat, List.singleton_append]

/-! ## The lexer cuts -/

/-- A rule takes nothing exactly if it does not apply. -/
theorem taken?_eq_none_iff {previous? : Option Char} {text : List Char} {rule : LexRule} :
    taken? previous? text rule = none ↔ rule.length previous? text = none :=
  Option.map_eq_none_iff

/-- No token begins a text exactly if no rule applies. -/
theorem matchOf?_eq_none_iff {mode : LexMode} {previous? : Option Char} {text : List Char} :
    matchOf? mode previous? text = none ↔
      ∀ rule ∈ ofMode mode, rule.length previous? text = none := by
  simp only [matchOf?, List.findSome?_eq_none_iff, taken?_eq_none_iff]

/-- The token that begins a text is what the first rule takes that applies. -/
theorem matchOf?_eq_some_iff {mode : LexMode} {previous? : Option Char} {text : List Char}
    {found : Match} :
    matchOf? mode previous? text = some found ↔
      ∃ before rule after, ofMode mode = before ++ rule :: after ∧
        (∀ earlier ∈ before, earlier.length previous? text = none) ∧
        rule.length previous? text = some found.length ∧
        found = ⟨found.length, rule.kind, rule.next⟩ := by
  simp only [matchOf?, List.findSome?_eq_some_iff, taken?_eq_none_iff]
  constructor
  · rintro ⟨before, rule, after, hrules, htaken, hbefore⟩
    obtain ⟨length, hlength, rfl⟩ := Option.map_eq_some_iff.mp htaken
    exact ⟨before, rule, after, hrules, hbefore, hlength, rfl⟩
  · rintro ⟨before, rule, after, hrules, hbefore, hlength, hfound⟩
    exact ⟨before, rule, after, hrules,
      Option.map_eq_some_iff.mpr ⟨found.length, hlength, hfound.symm⟩, hbefore⟩

/-- A text goes on behind its first token. -/
theorem tokensFrom_of_some {mode : LexMode} {previous? : Option Char} {text : List Char}
    {found : Match} (hfound : matchOf? mode previous? text = some found) :
    tokensFrom mode previous? text = ⟨found.kind, text.take found.length⟩ ::
      tokensFrom found.next ((text.take found.length).getLast?.or previous?)
        (text.drop found.length) := by
  rw [tokensFrom]
  split
  · next other hother =>
    obtain rfl := Option.some.inj (hother.symm.trans hfound)
    rfl
  · next hnone => rw [hfound] at hnone; cases hnone

/-- A character that begins no token is stray. -/
theorem tokensFrom_cons_of_none {mode : LexMode} {previous? : Option Char} {c : Char}
    {rest : List Char} (hnone : matchOf? mode previous? (c :: rest) = none) :
    tokensFrom mode previous? (c :: rest) = ⟨.stray, [c]⟩ :: tokensFrom mode (some c) rest := by
  rw [tokensFrom]
  split
  · next found hfound => rw [hnone] at hfound; cases hfound
  · rfl

/-- An empty text that begins no token has none. -/
theorem tokensFrom_nil_of_none {mode : LexMode} {previous? : Option Char}
    (hnone : matchOf? mode previous? [] = none) : tokensFrom mode previous? [] = [] := by
  rw [tokensFrom]
  split
  · next found hfound => rw [hnone] at hfound; cases hfound
  · rfl

/-- The tokens of a text are cut from it. -/
theorem cuts_tokensFrom (mode : LexMode) (previous? : Option Char) (text : List Char) :
    Cuts mode previous? text (tokensFrom mode previous? text) := by
  induction hsize : text.length using Nat.strongRecOn generalizing mode previous? text with
  | ind size ih =>
  cases hfound : matchOf? mode previous? text with
  | some found =>
    rw [tokensFrom_of_some hfound]
    obtain ⟨before, rule, after, hrules, hbefore, hlength, hsame⟩ :=
      matchOf?_eq_some_iff.mp hfound
    -- The piece is as long as the rule says, for the rule takes no more than there is, and what is
    -- left is shorter, for it takes something.
    have hbounds := bounds_of_matchOf? hfound
    have hpiece := List.length_take_of_le hbounds.2
    have hcut : text.take found.length ++ text.drop found.length = text :=
      List.take_append_drop found.length text
    have hrest := ih (text.drop found.length).length (by rw [List.length_drop]; omega) rule.next
      ((text.take found.length).getLast?.or previous?) (text.drop found.length) rfl
    rw [← hcut] at hbefore hlength
    have htaken := Cuts.taken hrules hbefore (by rw [hlength, hpiece]) hrest
    rw [hcut] at htaken
    rw [hsame]
    exact htaken
  | none =>
    have hnone := matchOf?_eq_none_iff.mp hfound
    cases text with
    | nil =>
      rw [tokensFrom_nil_of_none hfound]
      exact .done hnone
    | cons c rest =>
      rw [tokensFrom_cons_of_none hfound]
      exact .stray hnone (ih rest.length (by rw [← hsize]; exact Nat.lt_succ_self _) _ _ _ rfl)

/-- There is one way to cut a text. -/
theorem Cuts.eq_tokensFrom {mode : LexMode} {previous? : Option Char} {text : List Char}
    {tokens : List Token} (hcuts : Cuts mode previous? text tokens) :
    tokens = tokensFrom mode previous? text := by
  induction hcuts with
  | done hnone => rw [tokensFrom_nil_of_none (matchOf?_eq_none_iff.mpr hnone)]
  | @taken mode previous? piece rest before after rule tokens hrules hbefore hlength hrest ih =>
    have hfound : matchOf? mode previous? (piece ++ rest) =
        some ⟨piece.length, rule.kind, rule.next⟩ :=
      matchOf?_eq_some_iff.mpr ⟨before, rule, after, hrules, hbefore, hlength, rfl⟩
    rw [tokensFrom_of_some hfound, ih, List.take_left, List.drop_left]
  | @stray mode previous? c rest tokens hnone hrest ih =>
    rw [tokensFrom_cons_of_none (matchOf?_eq_none_iff.mpr hnone), ih]

/-- Cutting a text in the mode of code ends, and with its tokens only. -/
theorem cuts_iff (text : List Char) (tokens : List Token) :
    Cuts .code none text tokens ↔ tokens = Lexer.tokens text := by
  constructor
  · exact Cuts.eq_tokensFrom
  · rintro rfl
    exact cuts_tokensFrom .code none text

end ILGraft.Lexer

import ILGraft.Highlight
import ILGraft.Proofs.ColouredText
import ILGraft.Proofs.LineEndings
import ILGraft.Proofs.Lexing

/-!
# Coloured code

Code in colours is the code: without the control sequences, what is shown of some lines is their
text less the line feeds around it. Each token is cut into lines, and each of these is wrapped in
the colour of its kind by itself, so the colours never reach over a line feed.
-/

namespace ILGraft

open Text.Ansi

namespace Text

/-- Line feeds stand behind all else in a line of a listing. -/
def FeedsLast (line : List Char) : Prop :=
  line.filter (· ≠ '\n') ++ line.filter (· = '\n') = line

/-- A character that is no line feed may stand in front. -/
theorem FeedsLast.cons {c : Char} {line : List Char} (hc : c ≠ '\n') (hline : FeedsLast line) :
    FeedsLast (c :: line) := by
  unfold FeedsLast at *
  simpa [hc] using hline

/-- A character by itself has its line feed last. -/
theorem feedsLast_singleton (c : Char) : FeedsLast [c] := by
  unfold FeedsLast
  by_cases hc : c = '\n' <;> simp [hc]

/-- The lines of a listing, put together, are the text. -/
theorem flatten_displayLinesKeepingEnds (text : List Char) :
    (displayLinesKeepingEnds text).flatten = text := by
  fun_induction displayLinesKeepingEnds text with
  | case1 => rfl
  | case2 rest ih => rw [List.flatten_cons, ih]; rfl
  | case3 c rest hno hbreak ih => rw [List.flatten_cons, ih]; rfl
  | case4 c rest hno hplain hlines ih =>
    rw [hlines] at ih
    rw [← ih]
    rfl
  | case5 c rest hno hplain line more hlines ih =>
    rw [hlines, List.flatten_cons] at ih
    rw [List.flatten_cons, List.cons_append, ih]

/-- A line of a listing is not empty, and its line feed is at its end. -/
theorem of_mem_displayLinesKeepingEnds {text line : List Char}
    (hmem : line ∈ displayLinesKeepingEnds text) : line ≠ [] ∧ FeedsLast line := by
  fun_induction displayLinesKeepingEnds text generalizing line with
  | case1 => cases hmem
  | case2 rest ih =>
    rcases List.mem_cons.mp hmem with rfl | hlater
    · exact ⟨List.cons_ne_nil _ _, (feedsLast_singleton '\n').cons (by decide)⟩
    · exact ih hlater
  | case3 c rest hno hbreak ih =>
    rcases List.mem_cons.mp hmem with rfl | hlater
    · exact ⟨List.cons_ne_nil _ _, feedsLast_singleton c⟩
    · exact ih hlater
  | case4 c rest hno hplain hlines ih =>
    obtain rfl := List.mem_singleton.mp hmem
    exact ⟨List.cons_ne_nil _ _, feedsLast_singleton c⟩
  | case5 c rest hno hplain first more hlines ih =>
    rw [hlines] at ih
    rcases List.mem_cons.mp hmem with rfl | hlater
    · have hfeed : c ≠ '\n' := by
        rintro rfl
        exact hplain rfl
      exact ⟨List.cons_ne_nil _ _, (ih List.mem_cons_self).2.cons hfeed⟩
    · exact ih (List.mem_cons_of_mem _ hlater)

end Text

namespace Highlight

/-! ## Colours of tokens -/

/-- The colour of a kind of token does not show. -/
theorem recolours_colorOf (kind : TokenKind) : Recolours (colorOf kind) "" := by
  have hunderlined : Recolours "\x1b[04m" "" := .of_sequence "04".toList rfl rfl
  have hcyan : Recolours "\x1b[36m" "" := .of_sequence "36".toList rfl rfl
  have hred : Recolours "\x1b[91m" "" := .of_sequence "91".toList rfl rfl
  cases kind with
  | lineComment | blockComment | marker => exact .of_sequence "37".toList rfl rfl
  | typeWord | opcode => exact hcyan
  | directive | hexadecimal | fraction | integer => exact .of_sequence "34".toList rfl rfl
  | string | quoted | escape => exact .of_sequence "33".toList rfl rfl
  | scope =>
    have hcodes : colorOf .scope = "\x1b[04m" ++ "\x1b[36m" := by decide
    rw [hcodes]
    simpa only [String.append_empty] using hunderlined.append hcyan
  | stray =>
    have hcodes : colorOf .stray = "\x1b[04m" ++ "\x1b[91m" := by decide
    rw [hcodes]
    simpa only [String.append_empty] using hunderlined.append hred
  | text | name | label | operator | punctuation => exact .of_plain (by decide)

/-- What switches a colour off does not show. -/
theorem recolours_reset : Recolours reset "" :=
  .of_sequence "39;49;00".toList rfl rfl

/-- A piece of a token is wrapped in its colour, its line feed apart. -/
theorem colours_showPiece (kind : TokenKind) {piece : List Char} (hplain : escape ∉ piece)
    (hfeeds : Text.FeedsLast piece) : Colours (showPiece kind piece) piece := by
  have hshown : Colours (piece.filter (· ≠ '\n')) (piece.filter (· ≠ '\n')) :=
    .of_plain fun hmem => hplain (List.mem_of_mem_filter hmem)
  have hending : Colours (piece.filter (· = '\n')) (piece.filter (· = '\n')) :=
    .of_plain fun hmem => hplain (List.mem_of_mem_filter hmem)
  have hcoloured : Colours (showPiece kind piece)
      (piece.filter (· ≠ '\n') ++ piece.filter (· = '\n')) := by
    unfold showPiece
    split
    · exact hshown.append hending
    · have hwrapped := ((Colours.append (recolours_colorOf kind) hshown).append
        recolours_reset).append hending
      simpa using hwrapped
  rwa [hfeeds] at hcoloured

/-- A token is shown in its colour. -/
theorem colours_showToken {token : Token} (hplain : escape ∉ token.text) :
    Colours (showToken token) token.text := by
  have hlines := Text.flatten_displayLinesKeepingEnds token.text
  have hpieces : Colours (showToken token)
      ((Text.displayLinesKeepingEnds token.text).flatMap id) := by
    refine Colours.flatMap fun piece hpiece => ?_
    refine colours_showPiece token.kind (fun hmem => hplain ?_)
      (Text.of_mem_displayLinesKeepingEnds hpiece).2
    rw [← hlines]
    exact List.mem_flatten_of_mem hpiece hmem
  rwa [List.flatMap_id, hlines] at hpieces

/-- Tokens are shown in their colours. -/
theorem colours_tokens {tokens : List Token} (hplain : escape ∉ tokens.flatMap Token.text) :
    Colours (tokens.flatMap showToken) (tokens.flatMap Token.text) :=
  Colours.flatMap fun token htoken =>
    colours_showToken fun hmem => hplain (List.mem_flatMap.mpr ⟨token, htoken, hmem⟩)

/-! ## The end of what is shown -/

/-- Where filled items end with a character, and each shown item ends as it does, all that is shown
ends with it. -/
theorem getLast?_flatMap {α : Type} {items : List α} {chars shown : α → List Char} {c : Char}
    (hfilled : ∀ item ∈ items, chars item ≠ [])
    (hshown : ∀ item ∈ items, (chars item).getLast? = some c → (shown item).getLast? = some c)
    (hlast : (items.flatMap chars).getLast? = some c) :
    (items.flatMap shown).getLast? = some c := by
  rcases List.eq_nil_or_concat items with rfl | ⟨before, last, rfl⟩
  · cases hlast
  · rw [List.concat_eq_append] at *
    have hmem : last ∈ before ++ [last] := List.mem_append_right _ (List.mem_singleton_self last)
    obtain ⟨d, hd⟩ := Option.isSome_iff_exists.mp
      (List.getLast?_isSome.mpr (hfilled last hmem))
    rw [List.flatMap_append, List.flatMap_singleton, List.getLast?_append, hd,
      Option.some_or] at hlast
    have hend := hshown last hmem (hd.trans hlast)
    rw [List.flatMap_append, List.flatMap_singleton, List.getLast?_append, hend, Option.some_or]

/-- A line feed stays behind the colours of the piece that it ends. -/
theorem getLast?_showPiece (kind : TokenKind) {piece : List Char}
    (hlast : piece.getLast? = some '\n') : (showPiece kind piece).getLast? = some '\n' := by
  obtain ⟨inner, rfl⟩ := List.getLast?_eq_some_iff.mp hlast
  have hending : (inner ++ ['\n']).filter (· = '\n') = inner.filter (· = '\n') ++ ['\n'] := by
    rw [List.filter_append]
    rfl
  simp only [showPiece, hending]
  split <;> simp

/-- A token that ends with a line feed is shown with the line feed last. -/
theorem getLast?_showToken {token : Token} (hlast : token.text.getLast? = some '\n') :
    (showToken token).getLast? = some '\n' := by
  have hlines := Text.flatten_displayLinesKeepingEnds token.text
  rw [← hlines, ← List.flatMap_id] at hlast
  exact getLast?_flatMap (fun piece hpiece => (Text.of_mem_displayLinesKeepingEnds hpiece).1)
    (fun piece _ => getLast?_showPiece token.kind) hlast

/-- The text without the line feeds behind it. -/
def trimFeedsRight (text : List Char) : List Char :=
  (text.reverse.dropWhile (· == '\n')).reverse

/-- A text that does not end with a line feed has none to lose. -/
theorem trimFeedsRight_eq_self {text : List Char} (hlast : text.getLast? ≠ some '\n') :
    trimFeedsRight text = text := by
  unfold trimFeedsRight
  rcases List.eq_nil_or_concat text with rfl | ⟨front, c, rfl⟩
  · rfl
  · rw [List.concat_eq_append, List.getLast?_concat, ne_eq, Option.some.injEq] at hlast
    rw [List.concat_eq_append, List.reverse_concat,
      List.dropWhile_cons_of_neg (by simpa using hlast), List.reverse_cons, List.reverse_reverse]

/-- A line feed at the end is lost. -/
theorem trimFeedsRight_append_feed (text : List Char) :
    trimFeedsRight (text ++ ['\n']) = trimFeedsRight text := by
  unfold trimFeedsRight
  rw [List.reverse_concat, List.dropWhile_cons_of_pos rfl]

/-- What is left does not end with a line feed. -/
theorem getLast?_trimFeedsRight (text : List Char) :
    (trimFeedsRight text).getLast? ≠ some '\n' := by
  unfold trimFeedsRight
  rw [List.getLast?_reverse]
  intro hhead
  have hfirst := List.head?_dropWhile_not (· == '\n') text.reverse
  rw [hhead] at hfirst
  cases hfirst

/-- A coloured text that ends with a line feed is shown without it, and stripping it then leaves the
plain text without it. -/
theorem strip_trimFeedsRight {shown plain : List Char} (hcolours : Colours shown (plain ++ ['\n']))
    (hshown : shown.getLast? = some '\n') (hplain : plain.getLast? ≠ some '\n') :
    strip (trimFeedsRight shown) = plain := by
  have hfeed : IsInert '\n' := ⟨by decide, rfl, rfl, rfl⟩
  obtain ⟨front, rfl⟩ := List.getLast?_eq_some_iff.mp hshown
  have hstrip := hcolours.strip_eq
  rw [strip_append_inert hfeed] at hstrip
  have hfront := List.append_cancel_right hstrip
  -- A second line feed in front of the last one would be left in the plain text.
  have hlast : front.getLast? ≠ some '\n' := by
    intro hsecond
    obtain ⟨inner, rfl⟩ := List.getLast?_eq_some_iff.mp hsecond
    rw [strip_append_inert hfeed] at hfront
    rw [← hfront, List.getLast?_concat] at hplain
    exact hplain rfl
  rw [trimFeedsRight_append_feed, trimFeedsRight_eq_self hlast, hfront]

/-- Without carriage returns and a byte order mark, a listing is the text less the line feeds around
it, and one line feed. -/
theorem listing_eq {text : List Char} (hreturn : '\r' ∉ text)
    (hmark : text.head? ≠ some '\ufeff') : listing text = trimLineFeeds text ++ ['\n'] := by
  have hunified := Text.unifyNewlines_append hreturn []
  rw [List.append_nil, Text.unifyNewlines, List.append_nil] at hunified
  have hdropped : dropMark text = text :=
    dropMark.eq_2 text fun rest htext => hmark (htext ▸ rfl)
  rw [listing, hdropped, hunified]

/-- The text without the line feeds around it is part of the text. -/
theorem trimLineFeeds_subset (text : List Char) : trimLineFeeds text ⊆ text := by
  intro c hmem
  unfold trimLineFeeds at hmem
  rw [List.mem_reverse] at hmem
  have hbehind := (List.dropWhile_sublist _).mem hmem
  rw [List.mem_reverse] at hbehind
  exact (List.dropWhile_sublist _).mem hbehind

/-- Highlighting is lossless. Lines whose text holds no escape and no carriage return and does not
begin with a byte order mark are shown in colours as that text, control sequences apart, less the
line feeds around it. In every mode a rule that applies takes at least one character and no more
than there are. So any text at all is cut into pieces by the first rules that apply, stray
characters between them, in one way that comes to an end, and these pieces, of which none is empty
or a stray line feed, are all of the text in order. -/
theorem strip_code (lines : List String)
    (hplain : escape ∉ ("\n".intercalate lines).toList)
    (hreturn : '\r' ∉ ("\n".intercalate lines).toList)
    (hmark : ("\n".intercalate lines).toList.head? ≠ some '\ufeff') :
    strip (code true lines).toList = trimLineFeeds ("\n".intercalate lines).toList ∧
      (∀ mode, ∀ rule ∈ LexRule.ofMode mode, ∀ previous?,
        LexRule.Advances (rule.length previous?)) ∧
      ∀ text, (∀ tokens, Lexer.Cuts .code none text tokens ↔ tokens = Lexer.tokens text) ∧
        (Lexer.tokens text).flatMap Token.text = text ∧
        ∀ token ∈ Lexer.tokens text, Lexer.Sound token := by
  have hlexed (text : List Char) := ((Lexer.cuts_iff text _).mpr rfl).lossless
  refine ⟨?_, fun mode rule => LexRule.advances_of_mem,
    fun text => ⟨Lexer.cuts_iff text, hlexed text⟩⟩
  generalize htext : ("\n".intercalate lines).toList = text at *
  obtain ⟨hflat, hsound⟩ := hlexed (trimLineFeeds text ++ ['\n'])
  have hshown : (code true lines).toList =
      trimFeedsRight ((tokens text).flatMap showToken) := by
    simp only [code, if_true, htext, String.toList_ofList]
    rfl
  have hescape : escape ∉ (Lexer.tokens (trimLineFeeds text ++ ['\n'])).flatMap Token.text := by
    rw [hflat, List.mem_append, not_or]
    exact ⟨fun hmem => hplain (trimLineFeeds_subset text hmem), by decide⟩
  have hcolours := colours_tokens hescape
  rw [hflat] at hcolours
  rw [hshown, tokens, listing_eq hreturn hmark]
  refine strip_trimFeedsRight hcolours ?_ (getLast?_trimFeedsRight _)
  have hfilled (token : Token) (htoken : token ∈ Lexer.tokens (trimLineFeeds text ++ ['\n'])) :
      token.text ≠ [] := (hsound token htoken).1
  refine getLast?_flatMap hfilled (fun token _ => getLast?_showToken) ?_
  rw [hflat, List.getLast?_concat]

/-- Code in which a string, a quoted text and a comment are left open, and where an escape sequence
would be, had it its escape. -/
def openCode : List String :=
  ["", "ldstr \"[31m", "\\", "", "x\" // 0m", ".line 1,'a", "@ [mscorlib", "/* end", ""]

/-- Nothing of that code is lost but the empty lines around it. -/
theorem strip_code_open :
    strip (code true openCode).toList = ("\n".intercalate (openCode.drop 1).dropLast).toList := by
  rw [(strip_code openCode (by decide) (by decide) (by decide)).1]
  decide

end Highlight

end ILGraft

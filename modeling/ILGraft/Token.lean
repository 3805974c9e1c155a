/-!
# Tokens of the assembler language
-/

namespace ILGraft

/-- What a token is. -/
inductive TokenKind
  /-- Blanks, and what has no meaning inside a marker. -/
  | text
  /-- A comment up to the end of its line. -/
  | lineComment
  /-- A comment between delimiters. -/
  | blockComment
  /-- The word that begins a sequence-point marker. -/
  | marker
  /-- A directive. -/
  | directive
  /-- A word for a type, a modifier or a handler. -/
  | typeWord
  /-- A part of a string. -/
  | string
  /-- A text in single quotes. -/
  | quoted
  /-- An escaped character of a string. -/
  | escape
  /-- A name. -/
  | name
  /-- A label. -/
  | label
  /-- An instruction. -/
  | opcode
  /-- The name of an assembly, in brackets. -/
  | scope
  /-- A hexadecimal number. -/
  | hexadecimal
  /-- A number with a fraction. -/
  | fraction
  /-- An integer. -/
  | integer
  /-- An operator. -/
  | operator
  /-- A punctuation mark. -/
  | punctuation
  /-- A character that begins no token. -/
  | stray
deriving Repr, DecidableEq

/-- A piece of text with what it is. -/
structure Token where
  /-- What the token is. -/
  kind : TokenKind
  /-- The characters of the token. -/
  text : List Char
deriving Repr, DecidableEq

/-- Tokens with the number of characters in front of each, counted from a place. -/
def Token.withOffsets (place : Nat) : List Token → List (Nat × Token)
  | [] => []
  | token :: rest => (place, token) :: withOffsets (place + token.text.length) rest

end ILGraft

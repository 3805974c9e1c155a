import ILGraft.Text.Blank
import ILGraft.Text.Digit
import ILGraft.Text.Word
import ILGraft.Token

/-!
# Lexical rules

A rule says how many characters at the start of a text form a token of its kind, given the
character in front of the text, or that the text begins with no such token. A rule could also take
no characters at all; that none of the rules here does is a fact about them, on which lexing rests.
In each mode the first rule that applies decides. Markers and strings are read in modes of their
own.
-/

namespace ILGraft

/-- What a text is read as. -/
inductive LexMode
  /-- Code. -/
  | code
  /-- The rest of a sequence-point marker, up to the end of its line. -/
  | marker
  /-- The inside of a string. -/
  | string
deriving Repr, DecidableEq

/-- A lexical rule. -/
structure LexRule where
  /-- How many characters the rule takes, if it applies. -/
  length : Option Char → List Char → Option Nat
  /-- What they are. -/
  kind : TokenKind
  /-- How the text behind them is read. -/
  next : LexMode

namespace LexRule

/-- How many characters at the start of a text have a property. -/
def width (p : Char → Bool) (text : List Char) : Nat :=
  (text.takeWhile p).length

/-- All characters at the start of a text that have a property, one of them at least. -/
def run (p : Char → Bool) (text : List Char) : Option Nat :=
  if width p text = 0 then none else some (width p text)

/-- One character of a class. -/
def one (p : Char → Bool) : List Char → Option Nat
  | [] => none
  | c :: _ => if p c then some 1 else none

/-- One character of a class, and all behind it that have a property. -/
def startedBy (first p : Char → Bool) : List Char → Option Nat
  | [] => none
  | c :: rest => if first c then some (1 + width p rest) else none

/-- What reaches through the first occurrence of an ending. -/
def through (ending text : List Char) : Option Nat :=
  if ending.isPrefixOf text then some ending.length
  else match text with
    | [] => none
    | _ :: rest => (through ending rest).map (1 + ·)

/-- What is taken behind some characters that come first. -/
def behind (first : Nat) (length? : Option Nat) : Option Nat :=
  length?.map (first + ·)

/-- Whether `c` is a lower-case ASCII letter. -/
def isLower (c : Char) : Bool := 'a' ≤ c && c ≤ 'z'

/-- Whether `c` begins a name: an ASCII letter or the underscore. -/
def isNameStart (c : Char) : Bool := c.isAlpha || c == '_'

/-- Whether `c` is an ASCII hexadecimal digit. -/
def isHexDigit (c : Char) : Bool :=
  Text.isAsciiDigit c || ('a' ≤ c && c ≤ 'f') || ('A' ≤ c && c ≤ 'F')

/-- Whether `c` stands inside an instruction. -/
def isOpcodeChar (c : Char) : Bool := isLower c || Text.isAsciiDigit c

/-- A comment from two slashes to the end of the line. -/
def lineComment : List Char → Option Nat
  | '/' :: '/' :: rest => some (2 + width (· ≠ '\n') rest)
  | _ => none

/-- A comment between delimiters, which may span lines. -/
def blockComment : List Char → Option Nat
  | '/' :: '*' :: rest => behind 2 (through ['*', '/'] rest)
  | _ => none

/-- The directive that begins a marker. -/
def lineDirective (text : List Char) : Option Nat :=
  if ".line".toList.isPrefixOf text && Text.startsOutsideWord (text.drop 5) then some 5 else none

/-- A dot and a word of lower-case letters and underscores. -/
def directive : List Char → Option Nat
  | '.' :: rest =>
    behind 1 ((run (fun c => isLower c || c == '_') rest).filter fun length =>
      Text.startsOutsideWord (rest.drop length))
  | _ => none

/-- A text in single quotes. -/
def quoted : List Char → Option Nat
  | '\'' :: rest => behind 1 (through ['\''] rest)
  | _ => none

/-- Whether a single colon comes next, blanks allowed in front of it. -/
def startsWithColon (text : List Char) : Bool :=
  match text.dropWhile Text.isBlank with
  | ':' :: ':' :: _ => false
  | ':' :: _ => true
  | _ => false

/-- A name, dots allowed inside, that a single colon follows. -/
def label (text : List Char) : Option Nat :=
  (startedBy isNameStart (fun c => Text.isWord c || c == '.') text).filter fun length =>
    startsWithColon (text.drop length)

/-- The words for types, modifiers and handlers. -/
def typeWords : List String :=
  ["catch", "filter", "finally", "fault", "init", "instance", "static", "class", "valuetype",
   "void", "bool", "char", "string", "object", "int8", "int16", "int32", "int64", "uint8",
   "uint16", "uint32", "uint64", "float32", "float64", "native", "int"]

/-- A whole word that is one of the type words. -/
def typeWord (previous? : Option Char) (text : List Char) : Option Nat :=
  let word := text.takeWhile Text.isWord
  if previous?.any Text.isWord then none
  else if typeWords.any fun known => known.toList = word then some word.length
  else none

/-- A hexadecimal number. -/
def hexadecimal : List Char → Option Nat
  | '0' :: 'x' :: rest => behind 2 (run isHexDigit rest)
  | _ => none

/-- ASCII digits. -/
def digits (text : List Char) : Option Nat := run Text.isAsciiDigit text

/-- Digits, a sign allowed in front of them. -/
def integer : List Char → Option Nat
  | '-' :: rest => behind 1 (digits rest)
  | text => digits text

/-- A point and more digits, behind an integer. -/
def fractionBehind (whole : Nat) : List Char → Option Nat
  | '.' :: rest => behind (whole + 1) (digits rest)
  | _ => none

/-- An integer, a point and more digits. -/
def fraction (text : List Char) : Option Nat :=
  (integer text).bind fun whole => fractionBehind whole (text.drop whole)

/-- What continues an instruction: letters, digits, and dots in front of them. -/
def opcodeTail : List Char → Nat
  | '.' :: c :: rest => if isOpcodeChar c then opcodeTail rest + 2 else 0
  | c :: rest => if isOpcodeChar c then opcodeTail rest + 1 else 0
  | [] => 0

/-- An instruction. -/
def opcode : List Char → Option Nat
  | c :: rest => if isLower c then some (1 + opcodeTail rest) else none
  | [] => none

/-- The name of an assembly, in brackets. -/
def scope : List Char → Option Nat
  | '[' :: rest => behind 1 (through [']'] rest)
  | _ => none

/-- A name; grave accents introduce the arity of generic types. -/
def name : List Char → Option Nat :=
  startedBy isNameStart fun c => Text.isWord c || c == '\x60'

/-- A pair of colons, or one of three signs. -/
def operator (text : List Char) : Option Nat :=
  if "::".toList.isPrefixOf text then some 2
  else one (fun c => c == '=' || c == '&' || c == '*') text

/-- The punctuation marks of code. -/
def punctuationMarks : List Char := "(),:<>\x7b\x7d.".toList

/-- A backslash with the character behind it; a line feed cannot be escaped. -/
def escape : List Char → Option Nat
  | '\\' :: c :: _ => if c = '\n' then none else some 2
  | _ => none

/-- The rules of code. -/
def codeRules : List LexRule :=
  [⟨fun _ => run Text.isBlank, .text, .code⟩,
   ⟨fun _ => lineComment, .lineComment, .code⟩,
   ⟨fun _ => blockComment, .blockComment, .code⟩,
   ⟨fun _ => lineDirective, .marker, .marker⟩,
   ⟨fun _ => directive, .directive, .code⟩,
   ⟨fun _ => one (· == '"'), .string, .string⟩,
   ⟨fun _ => quoted, .quoted, .code⟩,
   ⟨fun _ => label, .label, .code⟩,
   ⟨typeWord, .typeWord, .code⟩,
   ⟨fun _ => hexadecimal, .hexadecimal, .code⟩,
   ⟨fun _ => fraction, .fraction, .code⟩,
   ⟨fun _ => integer, .integer, .code⟩,
   ⟨fun _ => opcode, .opcode, .code⟩,
   ⟨fun _ => scope, .scope, .code⟩,
   ⟨fun _ => name, .name, .code⟩,
   ⟨fun _ => operator, .operator, .code⟩,
   ⟨fun _ => one punctuationMarks.contains, .punctuation, .code⟩]

/-- The rules of a marker behind its directive. -/
def markerRules : List LexRule :=
  [⟨fun _ => run (fun c => c == ' ' || c == '\t'), .text, .marker⟩,
   ⟨fun _ => digits, .integer, .marker⟩,
   ⟨fun _ => one (fun c => c == ',' || c == ':'), .punctuation, .marker⟩,
   ⟨fun _ => quoted, .quoted, .marker⟩,
   ⟨fun _ => one (· == '\n'), .text, .code⟩,
   ⟨fun _ => one (· != '\n'), .text, .marker⟩]

/-- The rules of a string behind its opening quote. -/
def stringRules : List LexRule :=
  [⟨fun _ => escape, .escape, .string⟩,
   ⟨fun _ => run (fun c => c != '"' && c != '\\'), .string, .string⟩,
   ⟨fun _ => one (· == '"'), .string, .code⟩]

/-- The rules of a mode, in the order in which they are tried. -/
def ofMode : LexMode → List LexRule
  | .code => codeRules
  | .marker => markerRules
  | .string => stringRules

end LexRule

end ILGraft

import ILGraft.Toml.Flaw
import ILGraft.Toml.Value

/-!
# Keys, texts and numbers

Each reader takes a value from the start of a text and returns it with the rest.
-/

namespace ILGraft.Toml

/-- Refuses a text because of a flaw right where the given rest of it begins. -/
def refuse {α : Type} (flaw : Flaw) (rest : List Char) : Except Refusal α :=
  .error (.flawed flaw rest.length)

/-- Whether `c` is a blank inside a line. -/
def isSpace (c : Char) : Bool := c == ' ' || c == '\t'

/-- Whether `c` is a blank or a line feed. -/
def isSpaceOrNewline (c : Char) : Bool := isSpace c || c == '\n'

/-- Whether `c` is a control character that neither texts nor comments may hold. -/
def isControl (c : Char) : Bool :=
  (c.toNat < 0x20 && c != '\t') || c.toNat == 0x7f

/-- Whether `c` may stand in a key without quotes. -/
def isBareKeyChar (c : Char) : Bool :=
  c.isAlphanum || c == '-' || c == '_'

/-- The text without the blanks in front of it. -/
def skipSpace (text : List Char) : List Char := text.dropWhile isSpace

/-- Whether `c` is an ASCII hexadecimal digit. -/
def isHexDigit (c : Char) : Bool :=
  Text.isAsciiDigit c || ('a' ≤ c && c ≤ 'f') || ('A' ≤ c && c ≤ 'F')

/-- The value of a hexadecimal digit. -/
def hexValue (c : Char) : Nat :=
  if Text.isAsciiDigit c then c.toNat - '0'.toNat else c.toLower.toNat - 'a'.toNat + 10

/-- The number that digits stand for in a base. -/
def valueInBase (base : Nat) (digits : List Char) : Nat :=
  digits.foldl (fun value digit => base * value + hexValue digit) 0

/-- The text up to an ending, and what follows the ending. -/
def splitAt? (ending : List Char) : List Char → Option (List Char × List Char)
  | [] => none
  | c :: rest =>
    match ending.isPrefixOf? (c :: rest) with
    | some behind => some ([], behind)
    | none => (splitAt? ending rest).map fun (before, behind) => (c :: before, behind)

/-- Refuses a text that begins with characters among which one is not allowed. -/
def checkCharacters (allowed : Char → Bool) : List Char → List Char → Except Refusal Unit
  | [], _ => .ok ()
  | c :: more, text =>
    if allowed c then checkCharacters allowed more text.tail
    else refuse (.invalidCharacter c) text

/-- Reads what follows the opening quote of a text without escapes. -/
def readLiteral (text : List Char) : Except Refusal (String × List Char) :=
  match splitAt? ['\''] text with
  | none => refuse (.expectedQuote "'") []
  | some (content, rest) => do
    checkCharacters (!isControl ·) content text
    return (String.ofList content, rest)

/-- The quotes that still belong to a text of several lines: at most two in front of the three
that close it. -/
def takeExtraQuotes (quote : Char) (content : List Char) : List Char → String × List Char
  | c :: d :: rest =>
    if c ≠ quote then (String.ofList content, c :: d :: rest)
    else if d ≠ quote then (String.ofList (content ++ [quote]), d :: rest)
    else (String.ofList (content ++ [quote, quote]), rest)
  | [c] =>
    if c ≠ quote then (String.ofList content, [c]) else (String.ofList (content ++ [quote]), [])
  | [] => (String.ofList content, [])

/-- The text without a line feed in front of it. -/
def dropNewline : List Char → List Char
  | '\n' :: rest => rest
  | text => text

/-- Reads what follows the opening quotes of a text of several lines without escapes. -/
def readLongLiteral (text : List Char) : Except Refusal (String × List Char) :=
  let text := dropNewline text
  match splitAt? ['\'', '\'', '\''] text with
  | none => refuse (.expectedQuote "'''") []
  | some (content, rest) => do
    checkCharacters (fun c => c == '\n' || !isControl c) content text
    return takeExtraQuotes '\'' content rest

/-- The character of a simple escape. -/
def simpleEscape? : Char → Option Char
  | 'b' => some '\x08'
  | 't' => some '\t'
  | 'n' => some '\n'
  | 'f' => some '\x0c'
  | 'r' => some '\r'
  | '"' => some '"'
  | '\\' => some '\\'
  | _ => none

/-- The character that hexadecimal digits name; `here` begins with the digits. -/
def escapedCharacter (digits here : List Char) : Except Refusal Char :=
  if digits.all isHexDigit then
    let code := valueInBase 16 digits
    if code ≤ 0xd7ff ∨ (0xe000 ≤ code ∧ code ≤ 0x10ffff) then .ok (Char.ofNat code)
    else refuse .noCharacter (here.drop digits.length)
  else refuse .invalidHexadecimal here

/-- Reads what follows the opening quotes of a text with escapes, in one line or in several.
Behind a backslash at the end of a line, blanks and line feeds are skipped. -/
def readBasic (long skipping : Bool) : List Char → Except Refusal (List Char × List Char)
  | [] => refuse .unterminatedText []
  | '"' :: rest =>
    if !long then .ok ([], rest)
    else match rest with
      | '"' :: '"' :: rest => .ok ([], rest)
      | _ => do
        let (content, rest) ← readBasic long false rest
        return ('"' :: content, rest)
  | '\\' :: 'u' :: a :: b :: c :: d :: rest => do
    let escaped ← escapedCharacter [a, b, c, d] (a :: b :: c :: d :: rest)
    let (content, rest) ← readBasic long false rest
    return (escaped :: content, rest)
  | '\\' :: 'U' :: a :: b :: c :: d :: e :: f :: g :: h :: rest => do
    let escaped ← escapedCharacter [a, b, c, d, e, f, g, h]
      (a :: b :: c :: d :: e :: f :: g :: h :: rest)
    let (content, rest) ← readBasic long false rest
    return (escaped :: content, rest)
  | '\\' :: c :: rest =>
    if long && isSpaceOrNewline c then
      match skipSpace (c :: rest) with
      | [] => refuse .unterminatedText []
      | d :: more =>
        if d = '\n' then readBasic long true rest
        else refuse .unescapedBackslash (d :: more)
    else if c = 'u' ∨ c = 'U' then refuse .invalidHexadecimal rest
    else match simpleEscape? c with
      | some escaped => do
        let (content, rest) ← readBasic long false rest
        return (escaped :: content, rest)
      | none => refuse .unescapedBackslash rest
  | ['\\'] => refuse .unescapedBackslash []
  | c :: rest =>
    if skipping && isSpaceOrNewline c then readBasic long true rest
    else if isControl c && !(long && c == '\n') then refuse (.illegalCharacter c) (c :: rest)
    else do
      let (content, rest) ← readBasic long false rest
      return (c :: content, rest)

/-- Reads a text behind its first quote, in any of the four notations. -/
def readText (quote : Char) (rest : List Char) : Except Refusal (String × List Char) :=
  if quote = '\'' then
    match rest with
    | '\'' :: '\'' :: rest => readLongLiteral rest
    | _ => readLiteral rest
  else
    match rest with
    | '"' :: '"' :: rest => do
      let (content, rest) ← readBasic true false (dropNewline rest)
      return takeExtraQuotes '"' content rest
    | _ => do
      let (content, rest) ← readBasic false false rest
      return (String.ofList content, rest)

/-- Reads one part of a key. -/
def readKeyPart : List Char → Except Refusal (String × List Char)
  | '\'' :: rest => readLiteral rest
  | '"' :: rest => do
    let (content, rest) ← readBasic false false rest
    return (String.ofList content, rest)
  | text =>
    if text.takeWhile isBareKeyChar = [] then refuse .invalidKey text
    else .ok (String.ofList (text.takeWhile isBareKeyChar), text.dropWhile isBareKeyChar)

/-- Reads a key of at most so many parts, and the blanks behind it. -/
def readKeyParts : Nat → List Char → Except Refusal (List String × List Char)
  | 0, text => refuse .invalidKey text
  | bound + 1, text => do
    let (part, rest) ← readKeyPart text
    match skipSpace rest with
    | '.' :: rest =>
      let (parts, rest) ← readKeyParts bound (skipSpace rest)
      return (part :: parts, rest)
    | rest => return ([part], rest)

/-- Reads a key, its parts separated by dots, and the blanks behind it. -/
def readKey (text : List Char) : Except Refusal (List String × List Char) :=
  readKeyParts (text.length + 1) text

/-- Reads digits of a class, the first of which is given, with single underscores between
them. -/
def digitRun (p : Char → Bool) : List Char → List Char × List Char
  | '_' :: c :: rest =>
    if p c then
      let (digits, rest) := digitRun p rest
      (c :: digits, rest)
    else ([], '_' :: c :: rest)
  | c :: rest =>
    if p c then
      let (digits, rest) := digitRun p rest
      (c :: digits, rest)
    else ([], c :: rest)
  | [] => ([], [])

/-- Reads at least one digit of a class, with single underscores between digits. -/
def digits? (p : Char → Bool) : List Char → Option (List Char × List Char)
  | c :: rest =>
    if p c then
      let (digits, rest) := digitRun p rest
      some (c :: digits, rest)
    else none
  | [] => none

/-- Reads an integer in a base other than ten. -/
def prefixed? : List Char → Option (Int × List Char)
  | '0' :: 'x' :: rest =>
    (digits? isHexDigit rest).map fun (digits, rest) => (valueInBase 16 digits, rest)
  | '0' :: 'b' :: rest =>
    (digits? (fun c => c == '0' || c == '1') rest).map fun (digits, rest) =>
      (valueInBase 2 digits, rest)
  | '0' :: 'o' :: rest =>
    (digits? (fun c => '0' ≤ c && c ≤ '7') rest).map fun (digits, rest) =>
      (valueInBase 8 digits, rest)
  | _ => none

/-- Reads the sign of a number. -/
def sign : List Char → Bool × List Char
  | '-' :: rest => (true, rest)
  | '+' :: rest => (false, rest)
  | text => (false, text)

/-- Reads the whole part of a decimal number: a zero, or digits that do not begin with one. -/
def wholePart? : List Char → Option (List Char × List Char)
  | '0' :: rest => some (['0'], rest)
  | text => digits? Text.isAsciiDigit text

/-- Reads the fraction of a decimal number; no digits if there is none. -/
def fractionPart : List Char → List Char × List Char
  | '.' :: rest =>
    match digits? Text.isAsciiDigit rest with
    | some found => found
    | none => ([], '.' :: rest)
  | text => ([], text)

/-- Reads the exponent of a decimal number, if there is one. -/
def exponentPart? (text : List Char) : Option (Int × List Char) :=
  match text with
  | c :: rest =>
    if c = 'e' ∨ c = 'E' then
      let (negative, rest) := sign rest
      (digits? Text.isAsciiDigit rest).map fun (digits, rest) =>
        let size : Int := valueInBase 10 digits
        (if negative then -size else size, rest)
    else none
  | [] => none

/-- Reads a decimal number: an integer, or a floating-point number if it has a fraction or an
exponent. -/
def decimal? (text : List Char) : Option (Except Refusal (Value × List Char)) := do
  let (negative, rest) := sign text
  let (whole, rest) ← wholePart? rest
  let (fraction, rest) := fractionPart rest
  match fraction, exponentPart? rest with
  | [], none =>
    return do
      let size ← (Text.readNumeral whole).mapError Refusal.longNumeral
      return (Value.integer (if negative then -(size : Int) else size), rest)
  | _, exponent? =>
    let (exponent, rest) := exponent?.getD (0, rest)
    let digits := valueInBase 10 (whole ++ fraction)
    return .ok (.number (.ofDecimal negative digits (exponent - fraction.length)), rest)

/-- Reads the number that has no digits: an infinity or what is no number. -/
def special? (text : List Char) : Option (Value × List Char) :=
  let (negative, rest) := sign text
  match "inf".toList.isPrefixOf? rest, "nan".toList.isPrefixOf? rest with
  | some rest, _ => some (.number (.infinite negative), rest)
  | none, some rest => some (.number .notANumber, rest)
  | none, none => none

/-- Reads a number, a date or a time. -/
def readScalar (text : List Char) : Except Refusal (Value × List Char) :=
  match Moment.read? text with
  | some (moment, rest) =>
    if moment.isValid then .ok (.moment moment, rest) else refuse .invalidMoment text
  | none =>
    match prefixed? text with
    | some (integer, rest) => .ok (.integer integer, rest)
    | none =>
      match decimal? text with
      | some reading => reading
      | none =>
        match special? text with
        | some found => .ok found
        | none => refuse .invalidValue text

end ILGraft.Toml

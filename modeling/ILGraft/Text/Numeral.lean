import ILGraft.Text.Digit

/-!
# Decimal numerals

Numbers are written in ASCII digits and read in the digits of any script. A numeral of more
than 4300 digits is refused, leading zeros counted when it is read.

A number that is given from outside is checked before it is written, also in a message. Counts of
what is at hand, such as lines and columns, never have so many digits and are written as they are.
-/

namespace ILGraft.Text

/-- The decimal numeral of an integer. -/
def numeral : Int → String
  | .ofNat n => String.ofList (Nat.toDigits 10 n)
  | .negSucc n => String.ofList ('-' :: Nat.toDigits 10 (n + 1))

/-- The numeral, with spaces in front of it up to a width. -/
def paddedNumeral (width : Nat) (value : Int) : String :=
  String.ofList (List.replicate (width - (numeral value).length) ' ') ++ numeral value

/-- The numeral of a natural number, with zeros in front of it up to a width. -/
def zeroPadded (width value : Nat) : String :=
  let digits := Nat.toDigits 10 value
  String.ofList (List.replicate (width - digits.length) '0' ++ digits)

/-- The number that a run of digit values stands for, the most significant first. -/
def valueOfDigits (digits : List Nat) : Nat :=
  digits.foldl (fun value digit => 10 * value + digit) 0

/-- The largest number of digits that a numeral may have. -/
def maxNumeralDigits : Nat := 4300

/-- What is wrong with a numeral of too many digits. -/
inductive LongNumeral
  /-- It is not read, because it has so many digits. -/
  | unreadable (digits : Nat)
  /-- It is not written. -/
  | unwritable
deriving Repr, DecidableEq

/-- The wording of the refusal; only the length of a numeral that was there to read is given. -/
def LongNumeral.message (fault : LongNumeral) : String :=
  let size :=
    match fault with
    | .unreadable digits => ": value has " ++ numeral digits ++ " digits"
    | .unwritable => ""
  "Exceeds the limit (4300 digits) for integer string conversion" ++ size
    ++ "; use sys.set_int_max_str_digits() to increase the limit"

/-- Whether an integer has few enough digits to be written. -/
def Writable (value : Int) : Prop :=
  (Nat.toDigits 10 value.natAbs).length ≤ maxNumeralDigits

instance (value : Int) : Decidable (Writable value) :=
  inferInstanceAs (Decidable (_ ≤ _))

/-- The decimal numeral of an integer, unless it has too many digits. -/
def writeNumeral (value : Int) : Except LongNumeral String :=
  if Writable value then .ok (numeral value) else .error .unwritable

/-- Refuses integers of which one has too many digits to be written. -/
def checkNumerals (values : List Int) : Except LongNumeral Unit :=
  if ∀ value ∈ values, Writable value then .ok () else .error .unwritable

/-- The value of a run of digits of any script; characters that are no digits are passed over. -/
def readNumeral (digits : List Char) : Except LongNumeral Nat :=
  let values := digits.filterMap digitValue?
  if values.length ≤ maxNumeralDigits then .ok (valueOfDigits values)
  else .error (.unreadable values.length)

end ILGraft.Text

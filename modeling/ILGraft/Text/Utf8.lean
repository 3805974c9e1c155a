import ILGraft.Text.Numeral
import ILGraft.Text.Quoted

/-!
# UTF-8

A strict decoder: overlong forms, surrogates and code points above U+10FFFF are ill-formed. The
first ill-formed sequence is reported with its place and its length.
-/

namespace ILGraft.Text.Utf8

/-- What makes a sequence ill-formed. -/
inductive Flaw
  /-- The first byte begins no sequence. -/
  | invalidStart
  /-- A byte that cannot continue the sequence stands inside it. -/
  | invalidContinuation
  /-- The bytes end inside the sequence. -/
  | truncated
deriving Repr, DecidableEq

/-- The wording of a flaw. -/
def Flaw.reason : Flaw → String
  | .invalidStart => "invalid start byte"
  | .invalidContinuation => "invalid continuation byte"
  | .truncated => "unexpected end of data"

/-- The first ill-formed sequence of a byte string. -/
structure Malformed where
  /-- The place of its first byte. -/
  offset : Nat
  /-- How many bytes belong to it. -/
  length : Nat
  /-- Its first byte. -/
  lead : UInt8
  /-- What is wrong with it. -/
  flaw : Flaw
deriving Repr, DecidableEq

/-- The wording of the refusal: the sequence, its place and its flaw. -/
def Malformed.message (malformed : Malformed) : String :=
  let first := malformed.offset
  let sequence :=
    if malformed.length = 1 then
      "byte 0x" ++ String.ofList (hexDigits 2 malformed.lead.toNat) ++ " in position "
        ++ numeral first
    else "bytes in position " ++ numeral first ++ "-" ++ numeral (first + malformed.length - 1 : Nat)
  "'utf-8' codec can't decode " ++ sequence ++ ": " ++ malformed.flaw.reason

/-- Whether a byte can stand second after `lead`: the leads of three and four bytes leave out
overlong forms, surrogates and code points above U+10FFFF. -/
def continuesLead (lead second : UInt8) : Bool :=
  let low : UInt8 := if lead = 0xe0 then 0xa0 else if lead = 0xf0 then 0x90 else 0x80
  let high : UInt8 := if lead = 0xed then 0x9f else if lead = 0xf4 then 0x8f else 0xbf
  low ≤ second && second ≤ high

/-- Whether a byte can stand third or fourth in a sequence. -/
def continues (byte : UInt8) : Bool :=
  0x80 ≤ byte && byte ≤ 0xbf

/-- The character that a lead's payload and its continuation bytes stand for. -/
def assemble (payload : UInt8) (continuations : List UInt8) : Char :=
  Char.ofNat (continuations.foldl (fun value byte => 64 * value + (byte.toNat - 0x80))
    payload.toNat)

/-- Decodes bytes that begin at a place. -/
def decodeFrom (place : Nat) : List UInt8 → Except Malformed (List Char)
  | [] => .ok []
  | a :: rest =>
    let refuse (length : Nat) (flaw : Flaw) : Except Malformed (List Char) :=
      .error ⟨place, length, a, flaw⟩
    if a < 0x80 then
      return Char.ofNat a.toNat :: (← decodeFrom (place + 1) rest)
    else if a < 0xc2 ∨ 0xf4 < a then
      refuse 1 .invalidStart
    else match rest with
      | [] => refuse 1 .truncated
      | b :: rest =>
        if !continuesLead a b then
          refuse 1 .invalidContinuation
        else if a < 0xe0 then
          return assemble (a - 0xc0) [b] :: (← decodeFrom (place + 2) rest)
        else match rest with
          | [] => refuse 2 .truncated
          | c :: rest =>
            if !continues c then
              refuse 2 .invalidContinuation
            else if a < 0xf0 then
              return assemble (a - 0xe0) [b, c] :: (← decodeFrom (place + 3) rest)
            else match rest with
              | [] => refuse 3 .truncated
              | d :: rest =>
                if !continues d then
                  refuse 3 .invalidContinuation
                else
                  return assemble (a - 0xf0) [b, c, d] :: (← decodeFrom (place + 4) rest)

/-- Decodes a byte string. -/
def decode (bytes : List UInt8) : Except Malformed (List Char) :=
  decodeFrom 0 bytes

/-- Encodes a text. -/
def encode (text : List Char) : List UInt8 :=
  text.flatMap String.utf8EncodeChar

end ILGraft.Text.Utf8

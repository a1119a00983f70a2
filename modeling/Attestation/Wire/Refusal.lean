import Attestation.Wire.Json

/-!
# Refused numbers

A reader of whole numbers that meets something else has looked at a part of it by the time it
refuses. The scanners of this module return what such a reader leaves unread. A number with a
fraction or an exponent is read to its end; a malformed literal, word or string up to and including
the byte that gives it away; an array or object is not entered.
-/

namespace Attestation.Json

/-- The largest exponent that a reader of numbers keeps. -/
def exponentLimit : Nat := 2147483647

/-- What is left of a text behind the digits of an exponent. A number that is not zero and outgrows
every exponent is refused at the digit with which it does so. -/
def afterExponentDigits (outgrows : Bool) (exponent : Nat) : Bytes → Bytes
  | [] => []
  | b :: rest =>
    if isDigit b then
      let exponent := 10 * exponent + (b.toNat - 0x30)
      if exponentLimit < exponent then
        if outgrows then rest else rest.dropWhile isDigit
      else afterExponentDigits outgrows exponent rest
    else b :: rest

/-- What is left of a text behind an exponent, if there is a mark. -/
def afterExponent (isZero : Bool) : Bytes → Bytes
  | [] => []
  | mark :: rest =>
    if mark = 0x65 ∨ mark = 0x45 then
      let (negative, rest) :=
        match rest with
        | 0x2b :: rest => (false, rest)
        | 0x2d :: rest => (true, rest)
        | rest => (false, rest)
      match rest with
      | [] => []
      | b :: _ =>
        if isDigit b then afterExponentDigits (!isZero && !negative) 0 rest else rest.tail
    else mark :: rest

/-- What is left of a text behind a fraction, if there is a point, and an exponent. -/
def afterFraction (isZero : Bool) : Bytes → Bytes
  | 0x2e :: rest =>
    match rest.span isDigit with
    | ([], rest) => rest
    | (digits, rest) => afterExponent (isZero && digits.all (· = 0x30)) rest
  | rest => afterExponent isZero rest

/-- What is left of a text behind a number without its sign. A leading zero stands alone. -/
def afterUnsigned : Bytes → Bytes
  | [] => []
  | 0x30 :: b :: rest => if isDigit b then b :: rest else afterFraction true (b :: rest)
  | b :: rest =>
    if isDigit b then afterFraction (b = 0x30) (rest.dropWhile isDigit) else rest

/-- What is left of a text behind the rest of a word. -/
def afterWord : (word : Bytes) → Bytes → Bytes
  | [], s => s
  | _ :: _, [] => []
  | a :: word, b :: rest => if a = b then afterWord word rest else rest

/-- What is left of a text behind the rest of a string. Surrogates have to come in pairs. -/
def afterString : Bytes → Bytes
  | [] => []
  | 0x22 :: rest => rest
  | 0x5c :: 0x75 :: a :: b :: c :: d :: rest =>
    match hex4? a b c d with
    | none => rest
    | some high =>
      if 0xd800 ≤ high ∧ high < 0xdc00 then
        match rest with
        | 0x5c :: 0x75 :: e :: f :: g :: h :: rest =>
          match hex4? e f g h with
          | none => rest
          | some low => if 0xdc00 ≤ low ∧ low < 0xe000 then afterString rest else rest
        | 0x5c :: 0x75 :: _ => []
        | 0x5c :: _ :: rest => rest
        | _ :: rest => rest
        | [] => []
      else if 0xdc00 ≤ high ∧ high < 0xe000 then rest
      else afterString rest
  | 0x5c :: 0x75 :: _ => []
  | 0x5c :: b :: rest => if (escaped? b).isSome then afterString rest else rest
  | b :: rest => if b < 0x20 ∨ b = 0x5c then rest else afterString rest

/-- What a reader of whole numbers leaves of a text when it refuses the value in front of it. -/
def afterRefused (s : Bytes) : Bytes :=
  match skipBlanks s with
  | 0x2d :: rest => afterUnsigned rest
  | 0x6e :: rest => afterWord [0x75, 0x6c, 0x6c] rest
  | 0x74 :: rest => afterWord [0x72, 0x75, 0x65] rest
  | 0x66 :: rest => afterWord [0x61, 0x6c, 0x73, 0x65] rest
  | 0x22 :: rest => afterString rest
  | b :: rest => if isDigit b then afterUnsigned (b :: rest) else b :: rest
  | [] => []

end Attestation.Json

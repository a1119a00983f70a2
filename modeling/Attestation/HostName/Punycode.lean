import Attestation.Bytes

/-!
# Labels in ASCII

A label with characters beyond ASCII is written in ASCII as its characters within ASCII, a hyphen,
and numbers, one for each other character in the order of their code points. A number says how many
places and code points to go on before the next character is inserted. Its digits, the lowest first,
are letters and decimal digits, and it ends with the first digit below a threshold; the thresholds
follow the size of the numbers read so far, their `bias`. All numbers stay below 2³².
-/

namespace Attestation.HostName.Punycode

/-- Numbers stay below this one. -/
def limit : Nat := 4294967296

/-- The value of a digit. -/
def digit? (c : Char) : Option Nat :=
  if 'a' ≤ c && c ≤ 'z' then some (c.toNat - 'a'.toNat)
  else if '0' ≤ c && c ≤ '9' then some (c.toNat - '0'.toNat + 26)
  else none

/-- The digit below which a number ends, at a place that counts up from 36 in steps of 36. -/
def threshold (place bias : Nat) : Nat :=
  if place ≤ bias then 1 else if bias + 26 ≤ place then 26 else place - bias

/-- Scales a number down below 456, with 36 for each step. -/
def scaleDown (delta scale : Nat) : Nat × Nat :=
  if 455 < delta then scaleDown (delta / 35) (scale + 36) else (delta, scale)
termination_by delta
decreasing_by omega

/-- The bias behind a number, given how many characters there are then. The first number is taken
for much too large. -/
def nextBias (delta count : Nat) (isFirst : Bool) : Nat :=
  let halved := if isFirst then delta / 700 else delta / 2
  let (scaled, scale) := scaleDown (halved + halved / count) 0
  scale + 36 * scaled / (scaled + 38)

/-- What is known while the digits are read. -/
structure Reading where
  /-- The characters so far. -/
  text : List Char
  /-- The code point that was inserted last. -/
  code : Nat := 128
  /-- The place behind the last insertion, which the current number is added to. -/
  start : Nat := 0
  /-- The sum of the place and the digits read of the current number. -/
  sum : Nat := 0
  /-- What the next digit counts. -/
  weight : Nat := 1
  /-- The place of the next digit; 36 between numbers. -/
  place : Nat := 36
  /-- The bias. -/
  bias : Nat := 72

namespace Reading

/-- Whether a code point is that of a character. -/
def isCharacter (code : Nat) : Bool :=
  code < 0xd800 || (0xdfff < code && code < 0x110000)

/-- Inserts the character that the sum at the end of a number stands for. -/
def insert? (r : Reading) (sum : Nat) : Option Reading :=
  let count := r.text.length + 1
  let code := r.code + sum / count
  let place := sum % count
  if isCharacter code then
    some {
      text := r.text.take place ++ Char.ofNat code :: r.text.drop place
      code
      start := place + 1
      sum := place + 1
      bias := nextBias (sum - r.start) count (r.start = 0) }
  else none

/-- Reads a digit. -/
def read? (r : Reading) (c : Char) : Option Reading :=
  match digit? c with
  | none => none
  | some digit =>
    let sum := r.sum + digit * r.weight
    let least := threshold r.place r.bias
    if limit ≤ sum then none
    else if digit < least then r.insert? sum
    else
      let weight := r.weight * (36 - least)
      if limit ≤ weight then none else some { r with sum, weight, place := r.place + 36 }

/-- Whether no number has been begun. -/
def isComplete (r : Reading) : Bool := r.place = 36

end Reading

/-- The characters in front of the last hyphen, and the digits behind it. A hyphen at the start
separates nothing. -/
def splitDigits (text : List Char) : List Char × List Char :=
  let digits := (text.reverse.takeWhile (· ≠ '-')).reverse
  let front := text.take (text.length - digits.length)
  if front.length ≤ 1 then ([], text) else (front.dropLast, digits)

/-- The label that a text in ASCII spells. -/
def decode? (text : List Char) : Option (List Char) :=
  let (basic, digits) := splitDigits text
  match digits.foldlM Reading.read? { text := basic } with
  | none => none
  | some r => if r.isComplete then some r.text else none

end Attestation.HostName.Punycode

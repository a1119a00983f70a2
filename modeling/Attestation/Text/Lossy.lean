import Attestation.Bytes

/-!
# Text of arbitrary bytes

Bytes that are not well-formed UTF-8 still have a text: every longest start of a sequence that
cannot be continued, and every byte that starts none, stands for one replacement character. The
bytes are read one at a time; what is carried on is the sequence begun so far.
-/

namespace Attestation.Text

/-- The character that stands for bytes without one. -/
def replacement : Char := '\uFFFD'

/-- A UTF-8 sequence that has begun. -/
structure OpenSequence where
  /-- The bits read so far. -/
  bits : Nat
  /-- The number of bytes that follow the next one. -/
  left : Nat
  /-- The least next byte. -/
  low : UInt8 := 0x80
  /-- The greatest next byte. -/
  high : UInt8 := 0xBF

/-- Reads a byte at which a character starts. -/
def readFirst (b : UInt8) : List Char × Option OpenSequence :=
  let n := b.toNat
  if n < 0x80 then ([Char.ofNat n], none)
  else if 0xC2 ≤ n ∧ n ≤ 0xDF then ([], some { bits := n - 0xC0, left := 0 })
  else if n = 0xE0 then ([], some { bits := 0, left := 1, low := 0xA0 })
  else if n = 0xED then ([], some { bits := 0xD, left := 1, high := 0x9F })
  else if 0xE1 ≤ n ∧ n ≤ 0xEF then ([], some { bits := n - 0xE0, left := 1 })
  else if n = 0xF0 then ([], some { bits := 0, left := 2, low := 0x90 })
  else if n = 0xF4 then ([], some { bits := 4, left := 2, high := 0x8F })
  else if 0xF1 ≤ n ∧ n ≤ 0xF3 then ([], some { bits := n - 0xF0, left := 2 })
  else ([replacement], none)

/-- Reads one byte. A byte that does not continue the sequence begun starts anew. -/
def readByte : Option OpenSequence → UInt8 → List Char × Option OpenSequence
  | none, b => readFirst b
  | some s, b =>
    if s.low ≤ b ∧ b ≤ s.high then
      let bits := 64 * s.bits + (b.toNat - 0x80)
      match s.left with
      | 0 => ([Char.ofNat bits], none)
      | left + 1 => ([], some { bits, left })
    else (replacement :: (readFirst b).1, (readFirst b).2)

/-- The characters of bytes that follow a sequence begun. -/
def lossyChars : Option OpenSequence → Bytes → List Char
  | none, [] => []
  | some _, [] => [replacement]
  | s, b :: rest => (readByte s b).1 ++ lossyChars (readByte s b).2 rest

/-- The text of arbitrary bytes. -/
def lossy (bytes : Bytes) : String := String.ofList (lossyChars none bytes)

end Attestation.Text

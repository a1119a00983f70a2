import Attestation.Bytes

/-!
# Numerals

Numbers are written in bases up to sixteen, with letters of either case for the digits from ten on.
-/

namespace Attestation.Text

/-- The number that digits of a base spell; no digits spell zero. -/
def numeral? (base : Nat) (digits : List Char) : Option Nat :=
  digits.foldlM (fun n c => do
    let d ← Bytes.hexValue? c
    if d < base then some (base * n + d) else none) 0

end Attestation.Text

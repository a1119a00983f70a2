/-!
# 64 bit words

Heights, weights and times are 64 bit words. Sums and differences that would leave the range stop
at its ends. In requests and settings words are written in decimal digits.
-/

namespace Attestation.Word

/-- The sum, or the greatest word where the sum exceeds it. -/
def add (a b : UInt64) : UInt64 :=
  if a.toNat + b.toNat < UInt64.size then a + b else UInt64.ofNat (UInt64.size - 1)

/-- The difference, or zero where it would be negative. -/
def sub (a b : UInt64) : UInt64 := if b ≤ a then a - b else 0

/-- The sum of a list, added up from the left. -/
def sum (ws : List UInt64) : UInt64 := ws.foldl add 0

/-- The greatest word of a list, zero if it is empty. -/
def maximum (ws : List UInt64) : UInt64 := ws.foldl max 0

/-- The least word of a list, zero if it is empty. -/
def minimum : List UInt64 → UInt64
  | [] => 0
  | w :: ws => ws.foldl min w

/-- The word that decimal digits spell, perhaps behind a plus sign. -/
def ofText? (text : String) : Option UInt64 :=
  let digits := match text.toList with
    | '+' :: rest => rest
    | all => all
  if digits ≠ [] ∧ digits.all Char.isDigit then
    let n := digits.foldl (fun n c => 10 * n + (c.toNat - 48)) 0
    if n < UInt64.size then some (UInt64.ofNat n) else none
  else none

end Attestation.Word

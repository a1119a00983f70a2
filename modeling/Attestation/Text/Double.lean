/-!
# Whole numbers as doubles

Doubles hold 53 binary digits. A greater whole number is rounded to the nearest one that has no
more, of two equally near ones to the even one, and is written with the fewest decimal digits that
are read back as that double.
-/

namespace Attestation.Double

/-- The distance between the doubles from `n` up to the next power of two. -/
def spacing (n : Nat) : Nat := Nat.pow 2 (n.log2 - 52)

/-- The double nearest to a whole number. -/
def round (n : Nat) : Nat :=
  let unit := spacing n
  let quotient := n / unit
  let twice := 2 * (n % unit)
  if unit < twice ∨ (twice = unit ∧ quotient % 2 = 1) then (quotient + 1) * unit
  else quotient * unit

/-- Whether a whole number is read back as the double `v`. Everything is counted in quarters; below
a power of two the doubles are twice as dense. -/
def readsBackAs (v n : Nat) : Bool :=
  let above := spacing v
  let below := if v = Nat.pow 2 v.log2 ∧ 1 < above then above / 2 else above
  let low := 4 * v - 2 * below
  let high := 4 * v + 2 * above
  if v / above % 2 = 0 then low ≤ 4 * n && 4 * n ≤ high else low < 4 * n && 4 * n < high

/-- The multiple of `10 ^ places` next to the double `v`, if it is read back as `v`. -/
def rounded? (v places : Nat) : Option Nat :=
  let unit := Nat.pow 10 places
  let down := v / unit * unit
  let up := down + unit
  match readsBackAs v down, readsBackAs v up with
  | true, true => some (if v - down < up - v then down else up)
  | true, false => some down
  | false, true => some up
  | false, false => none

/-- The whole number whose digits stand for the double `v`: as many zeros at its end as can be,
among the last `places` digits. -/
def shortest (v : Nat) : (places : Nat) → Nat
  | 0 => v
  | places + 1 => (rounded? v (places + 1)).getD (shortest v places)

/-- The written form of a whole number as a double. -/
def written (n : Nat) : String :=
  if n < 0x20000000000000 then toString n else toString (shortest (round n) n.log2)

end Attestation.Double

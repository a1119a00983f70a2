import Attestation.Bytes

/-!
# Block times

A node tells the time of a block as a date, the time of day and the difference to universal time,
`2023-11-14T22:13:20.5+01:00`. What counts is the number of whole seconds since 1970, rounded down.
-/

namespace Attestation.BlockTime

/-- Whether a year has a 29th of February. -/
def isLeapYear (year : Nat) : Bool :=
  year % 4 = 0 && (year % 100 ≠ 0 || year % 400 = 0)

/-- The number of days of a month. -/
def daysInMonth (year month : Nat) : Nat :=
  if month = 2 then (if isLeapYear year then 29 else 28)
  else if [4, 6, 9, 11].contains month then 30 else 31

/-- The number of days before a year, counted from the year 0. -/
def daysBeforeYear (year : Nat) : Nat :=
  365 * year + (year + 3) / 4 - (year + 99) / 100 + (year + 399) / 400

/-- The number of days before a date, counted from the year 0. -/
def daysBefore (year month day : Nat) : Nat :=
  daysBeforeYear year + ((List.range' 1 (month - 1)).map (daysInMonth year)).foldl (· + ·) 0 +
    (day - 1)

/-- The number that decimal digits spell. -/
def digits? (cs : List Char) : Option Nat :=
  if cs ≠ [] ∧ cs.all Char.isDigit then
    some (cs.foldl (fun n c => 10 * n + (c.toNat - 48)) 0)
  else none

/-- The minutes by which a zone is ahead of universal time. -/
def zone? : List Char → Option Int
  | ['Z'] | ['z'] => some 0
  | [sign, h₁, h₂, ':', m₁, m₂] => do
    let hours ← digits? [h₁, h₂]
    let minutes ← digits? [m₁, m₂]
    if 24 ≤ hours ∨ 60 ≤ minutes then none
    else if sign = '+' then some (60 * hours + minutes)
    else if sign = '-' then some (-(60 * hours + minutes))
    else none
  | _ => none

/-- What follows the fraction of a second, if there is one. -/
def dropFraction? : List Char → Option (List Char)
  | '.' :: rest =>
    let tail := rest.dropWhile Char.isDigit
    if tail.length < rest.length then some tail else none
  | rest => some rest

/-- The whole seconds since 1970 of a written time from the year 1 on. -/
def ofText? (text : String) : Option Int :=
  match text.toList with
  | y₁ :: y₂ :: y₃ :: y₄ :: '-' :: o₁ :: o₂ :: '-' :: d₁ :: d₂ :: t ::
      h₁ :: h₂ :: ':' :: m₁ :: m₂ :: ':' :: s₁ :: s₂ :: rest => do
    let year ← digits? [y₁, y₂, y₃, y₄]
    let month ← digits? [o₁, o₂]
    let day ← digits? [d₁, d₂]
    let hour ← digits? [h₁, h₂]
    let minute ← digits? [m₁, m₂]
    let second ← digits? [s₁, s₂]
    let zone ← dropFraction? rest >>= zone?
    if (t = 'T' ∨ t = 't') ∧ 1 ≤ month ∧ month ≤ 12 ∧ 1 ≤ day ∧ day ≤ daysInMonth year month ∧
        hour < 24 ∧ minute < 60 ∧ second < 60 then
      let minutes : Int := 60 * (24 * daysBefore year month day + hour) + minute
      let epoch : Int := 86400 * daysBefore 1970 1 1
      let start : Int := 86400 * daysBefore 1 1 1
      let seconds := 60 * (minutes - zone) + second
      if start ≤ seconds then some (seconds - epoch) else none
    else none
  | _ => none

end Attestation.BlockTime

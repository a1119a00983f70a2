import Attestation.Text.Lossy

/-!
# Percent encoding

In addresses and queries a byte may stand as `%` and two hexadecimal digits. A query is a list of
names and values in this encoding, in which a plus sign is a space.
-/

namespace Attestation.Text

/-- The value of the hexadecimal digit that a byte spells. -/
def digitValue? (b : UInt8) : Option Nat := Bytes.hexValue? (Char.ofNat b.toNat)

/-- Replaces every `%` and the two digits behind it by the byte they spell. A `%` without digits
stays. -/
def percentDecode : Bytes → Bytes
  | b :: high :: low :: rest =>
    if b = 0x25 then
      match digitValue? high, digitValue? low with
      | some h, some l => UInt8.ofNat (16 * h + l) :: percentDecode rest
      | _, _ => b :: percentDecode (high :: low :: rest)
    else b :: percentDecode (high :: low :: rest)
  | short => short

/-- The text of a name or value of a query. -/
def decodeComponent (s : String) : String :=
  lossy (percentDecode ((Bytes.ofText s).map fun b => if b = 0x2b then 0x20 else b))

/-- The names and values of a query. A name without `=` has an empty value, and nothing between two
`&` is no pair. -/
def queryPairs (query : String) : List (String × String) :=
  let pairs := (query.toList.splitOn '&').filter (· ≠ [])
  pairs.map fun pair =>
    (decodeComponent (String.ofList (pair.takeWhile (· ≠ '='))),
      decodeComponent (String.ofList ((pair.dropWhile (· ≠ '=')).drop 1)))

end Attestation.Text

import Attestation.Text.Numeral

/-!
# Sets of code points

A property of characters is a set of code points, given as ranges. The ranges are written as words
of hexadecimal digits: `5bf` is one code point, `5c1-5c2` all from the first to the last.
-/

namespace Attestation.HostName

/-- The words of a text, which blanks and line breaks separate. -/
def words (text : String) : List (List Char) :=
  (text.toList.splitOnP Char.isWhitespace).filter (· ≠ [])

/-- All code points from a first to a last one. -/
structure CodeRange where
  /-- The first code point. -/
  first : Nat
  /-- The last code point. -/
  last : Nat
deriving DecidableEq

namespace CodeRange

/-- The range that a word spells. -/
def ofWord? (word : List Char) : Option CodeRange :=
  match (word.splitOn '-').mapM (Text.numeral? 16) with
  | some [only] => some ⟨only, only⟩
  | some [first, last] => some ⟨first, last⟩
  | _ => none

/-- Whether a character lies in a range. -/
def contains (r : CodeRange) (c : Char) : Bool :=
  r.first ≤ c.toNat && c.toNat ≤ r.last

end CodeRange

/-- A set of code points. -/
structure CodeSet where
  /-- The ranges that make up the set. -/
  ranges : List CodeRange
deriving DecidableEq

namespace CodeSet

/-- The set whose ranges a text spells. -/
def ofText (text : String) : CodeSet :=
  ⟨(words text).filterMap CodeRange.ofWord?⟩

/-- Whether a character is in a set. -/
def contains (s : CodeSet) (c : Char) : Bool :=
  s.ranges.any (·.contains c)

end CodeSet

end Attestation.HostName

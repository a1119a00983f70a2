import Attestation.HostName.FoldingTable

/-!
# Folding of characters

Names that differ in case, in width or in ignored characters only are the same, so every character
is folded before names are looked at: to nothing, to one character or to several.
-/

namespace Attestation.HostName

/-- What a character is folded to; `none` for one that no host name contains. A letter of ASCII is
folded to its lower case, and other characters of ASCII stay. -/
def fold? (c : Char) : Option (List Char) :=
  if c < '\x80' then some [c.toLower]
  else if excluded.contains c then none
  else
    match foldings.find? (·.covers c) with
    | some row => some (row.fold c)
    | none => some [c]

/-- What a name is folded to. -/
def foldAll? (name : List Char) : Option (List Char) :=
  (name.mapM fold?).map List.flatten

/-- Whether a character stays as it is. -/
def isFolded (c : Char) : Bool := fold? c = some [c]

end Attestation.HostName

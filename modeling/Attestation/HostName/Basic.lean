import Attestation.HostName.Composition
import Attestation.HostName.Direction
import Attestation.HostName.Folding
import Attestation.HostName.Joining
import Attestation.HostName.Punycode

/-!
# Host names

A host name is a list of labels between dots. Its characters may be any letters and digits; what is
compared is the folded and composed form, in which a label that starts with `xn--` is the one that
the rest spells in ASCII.
-/

namespace Attestation.HostName

/-- The most characters of a label that goes beyond ASCII. -/
def maxLabelLength : Nat := 1000

/-- The most characters that spell a label in ASCII. -/
def maxSpellingLength : Nat := 2000

/-- Characters of ASCII that no label contains: blanks, control characters, the dot, and those with
a meaning in addresses. -/
def isReserved (c : Char) : Bool :=
  c ≤ ' ' || c = '\x7f' || "%#/:<>?@[\\]^|.".toList.contains c

/-- Whether all characters of a label are in ASCII. -/
def isPlain (label : List Char) : Bool := label.all (· < '\x80')

/-- What follows `xn--` at the start of a label. -/
def spelling? : List Char → Option (List Char)
  | 'x' :: 'n' :: '-' :: '-' :: rest => some rest
  | _ => none

/-- Whether a label that was spelled in ASCII needs the spelling and is in its final form. -/
def isFinal (label : List Char) : Bool :=
  !isPlain label && label.all isFolded && composed label = label && (spelling? label).isNone

/-- The label that a spelling in ASCII stands for. -/
def ofSpelling? (text : List Char) : Option (List Char) :=
  if isPlain text && text ≠ [] && text.getLast? ≠ some '-' && text.length ≤ maxSpellingLength then
    (Punycode.decode? text).filter isFinal
  else none

/-- The label that a part of a folded and composed name stands for. -/
def label? (part : List Char) : Option (List Char) :=
  match spelling? part with
  | some text => ofSpelling? text
  | none => if isPlain part || part.length ≤ maxLabelLength then some part else none

/-- Whether a label stands on its own: no reserved character, no mark at its start, and joiners only
where they may be. -/
def isLabel (label : List Char) : Bool :=
  label.all (!isReserved ·) && !label.head?.any isMark && areJoinersAllowed label

/-- The labels of a name, if it is a host name. A label may be empty. -/
def labels? (name : List Char) : Option (List (List Char)) := do
  let folded ← foldAll? name
  let labels ← ((composed folded).splitOn '.').mapM label?
  if labels.all isLabel && areUniform labels then some labels else none

end Attestation.HostName

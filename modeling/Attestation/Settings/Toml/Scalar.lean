import Attestation.Settings.Toml.Basic

/-!
# Scalars of TOML documents

Texts come in four forms, with and without escapes and on one or more lines; numbers may have
underscores between their digits; dates and times are checked, though their values are not kept.
Every reader returns what follows what it read.
-/

namespace Attestation.Toml

/-- Whether a character may stand in a comment or a text. -/
def isPlain (c : Char) : Bool := c = '\t' || (' ' ≤ c && c ≠ '\x7f')

/-- Whether a character is a blank. -/
def isBlank (c : Char) : Bool := c = ' ' || c = '\t'

/-! ### Texts -/

/-- The value of a hexadecimal digit. -/
def hexDigit? (c : Char) : Option Nat :=
  if c.isDigit then some (c.toNat - 48)
  else if 'a' ≤ c ∧ c ≤ 'f' then some (c.toNat - 87)
  else if 'A' ≤ c ∧ c ≤ 'F' then some (c.toNat - 55)
  else none

/-- The character whose number hexadecimal digits spell. -/
def codePoint? (digits : List Char) : Option Char := do
  let n ← digits.foldlM (fun n c => (hexDigit? c).map (16 * n + ·)) 0
  if n.isValidChar then some (Char.ofNat n) else none

/-- The character that stands for a letter behind a backslash. -/
def escaped? : Char → Option Char
  | 'b' => some '\x08'
  | 't' => some '\t'
  | 'n' => some '\n'
  | 'f' => some '\x0c'
  | 'r' => some '\r'
  | '"' => some '"'
  | '\\' => some '\\'
  | _ => none

/-- Reads what follows a backslash. -/
def readEscape : List Char → Option (Char × List Char)
  | 'u' :: a :: b :: c :: d :: rest => (codePoint? [a, b, c, d]).map (·, rest)
  | 'U' :: a :: b :: c :: d :: e :: f :: g :: h :: rest =>
    (codePoint? [a, b, c, d, e, f, g, h]).map (·, rest)
  | c :: rest => (escaped? c).map (·, rest)
  | [] => none

theorem length_readEscape {s rest : List Char} {c : Char} (h : readEscape s = some (c, rest)) :
    rest.length < s.length := by
  unfold readEscape at h
  split at h
  all_goals first
    | (obtain ⟨_, _, he⟩ := Option.map_eq_some_iff.1 h
       simp only [Prod.mk.injEq] at he
       obtain ⟨_, rfl⟩ := he
       simp only [List.length_cons]
       omega)
    | simp at h

/-- Reads a text up to its closing quote. -/
def readBasic (s : List Char) : Option (List Char × List Char) :=
  match s with
  | [] => none
  | '"' :: rest => some ([], rest)
  | '\\' :: rest =>
    match _h : readEscape rest with
    | some (c, rest) => (readBasic rest).map fun (cs, rest) => (c :: cs, rest)
    | none => none
  | c :: rest =>
    if isPlain c then (readBasic rest).map fun (cs, rest) => (c :: cs, rest) else none
termination_by s.length
decreasing_by
  · have := length_readEscape _h
    simp only [List.length_cons]
    omega
  · simp

/-- Reads a text without escapes up to its closing quote. -/
def readLiteral (s : List Char) : Option (List Char × List Char) :=
  match s.dropWhile fun c => isPlain c && c ≠ '\'' with
  | '\'' :: rest => some (s.takeWhile fun c => isPlain c && c ≠ '\'', rest)
  | _ => none

/-- Reads the quotes that close a text of several lines: three, behind which up to two more belong
to the text. -/
def readClosing (quote : Char) (s : List Char) : Option (List Char × List Char) :=
  let quotes := (s.take 5).takeWhile (· = quote)
  if 3 ≤ quotes.length then some (quotes.drop 3, s.drop quotes.length) else none

/-- What follows a line break. -/
def dropLineBreak? : List Char → Option (List Char)
  | '\n' :: rest => some rest
  | '\r' :: '\n' :: rest => some rest
  | _ => none

theorem length_dropLineBreak {s rest : List Char} (h : dropLineBreak? s = some rest) :
    rest.length < s.length := by
  unfold dropLineBreak? at h
  split at h
  · obtain rfl := Option.some.inj h
    simp
  · obtain rfl := Option.some.inj h
    simp only [List.length_cons]
    omega
  · simp at h

/-- Drops blanks and line breaks. -/
def dropSpace : List Char → List Char
  | '\r' :: '\n' :: rest => dropSpace rest
  | c :: rest => if isBlank c ∨ c = '\n' then dropSpace rest else c :: rest
  | [] => []

theorem length_dropSpace (s : List Char) : (dropSpace s).length ≤ s.length := by
  fun_induction dropSpace s with
  | case1 rest ih =>
    simp only [List.length_cons]
    omega
  | case2 c rest _ _ ih => exact Nat.le_trans ih (by simp)
  | case3 => exact Nat.le_refl _
  | case4 => exact Nat.le_refl _

/-- What follows the space behind a backslash at the end of a line. -/
def dropContinuation? (s : List Char) : Option (List Char) :=
  (dropLineBreak? (s.dropWhile isBlank)).map dropSpace

theorem length_dropContinuation {s rest : List Char} (h : dropContinuation? s = some rest) :
    rest.length < s.length := by
  obtain ⟨tail, ht, rfl⟩ := Option.map_eq_some_iff.1 h
  have h₁ := length_dropLineBreak ht
  have h₂ := length_dropSpace tail
  have h₃ := (List.dropWhile_suffix isBlank : s.dropWhile isBlank <:+ s).length_le
  omega

/-- Reads a text of several lines up to its closing quotes. -/
def readLines (s : List Char) : Option (List Char × List Char) :=
  match readClosing '"' s with
  | some closing => some closing
  | none =>
    match s with
    | [] => none
    | '\\' :: rest =>
      match _hc : dropContinuation? rest with
      | some rest => readLines rest
      | none =>
        match _he : readEscape rest with
        | some (c, rest) => (readLines rest).map fun (cs, rest) => (c :: cs, rest)
        | none => none
    | c :: rest =>
      match _hl : dropLineBreak? (c :: rest) with
      | some rest => (readLines rest).map fun (cs, rest) => ('\n' :: cs, rest)
      | none =>
        if isPlain c then (readLines rest).map fun (cs, rest) => (c :: cs, rest) else none
termination_by s.length
decreasing_by
  · have := length_dropContinuation _hc
    simp only [List.length_cons]
    omega
  · have := length_readEscape _he
    simp only [List.length_cons]
    omega
  · exact length_dropLineBreak _hl
  · simp

/-- Reads a text of several lines without escapes up to its closing quotes. -/
def readLiteralLines (s : List Char) : Option (List Char × List Char) :=
  match readClosing '\'' s with
  | some closing => some closing
  | none =>
    match s with
    | [] => none
    | c :: rest =>
      match _h : dropLineBreak? (c :: rest) with
      | some rest => (readLiteralLines rest).map fun (cs, rest) => ('\n' :: cs, rest)
      | none =>
        if isPlain c then (readLiteralLines rest).map fun (cs, rest) => (c :: cs, rest) else none
termination_by s.length
decreasing_by
  · exact length_dropLineBreak _h
  · simp

/-- Drops the line break behind opening quotes. -/
def dropFirstBreak (s : List Char) : List Char := (dropLineBreak? s).getD s

/-- Reads a text in any form. -/
def readText : List Char → Option (List Char × List Char)
  | '"' :: '"' :: '"' :: rest => readLines (dropFirstBreak rest)
  | '"' :: rest => readBasic rest
  | '\'' :: '\'' :: '\'' :: rest => readLiteralLines (dropFirstBreak rest)
  | '\'' :: rest => readLiteral rest
  | _ => none

/-! ### Numbers -/

/-- Splits off digits, between which single underscores may stand. -/
def splitDigits (isDigit : Char → Bool) : List Char → List Char × List Char
  | '_' :: c :: rest =>
    if isDigit c then
      let (digits, rest) := splitDigits isDigit rest
      (c :: digits, rest)
    else ([], '_' :: c :: rest)
  | c :: rest =>
    if isDigit c then
      let (digits, rest) := splitDigits isDigit rest
      (c :: digits, rest)
    else ([], c :: rest)
  | [] => ([], [])

/-- Reads digits, of which the first has no underscore in front. -/
def readDigits (isDigit : Char → Bool) (s : List Char) : Option (List Char × List Char) :=
  match s with
  | c :: _ => if isDigit c then some (splitDigits isDigit s) else none
  | [] => none

/-- The number that digits of a base spell. -/
def numeral (base : Nat) (digits : List Char) : Nat :=
  digits.foldl (fun n c => base * n + (hexDigit? c).getD 0) 0

/-- Reads a number in a base behind its marker. -/
def readBased (base : Nat) (s : List Char) : Option (Nat × List Char) :=
  (readDigits (fun c => (hexDigit? c).any (· < base)) s).map fun (digits, rest) =>
    (numeral base digits, rest)

/-- Reads a decimal number without needless zeros. -/
def readUnsigned : List Char → Option (Nat × List Char)
  | '0' :: rest => some (0, rest)
  | s => readBased 10 s

/-- Reads a decimal number, perhaps behind a sign. -/
def readDecimal : List Char → Option (Int × List Char)
  | '+' :: rest => (readUnsigned rest).map fun (n, rest) => (n, rest)
  | '-' :: rest => (readUnsigned rest).map fun (n, rest) => (-n, rest)
  | s => (readUnsigned s).map fun (n, rest) => (n, rest)

/-- Reads an integer of 64 bits. -/
def readInteger (s : List Char) : Option (Toml × List Char) := do
  let (n, rest) ← match s with
    | '0' :: 'x' :: rest => (readBased 16 rest).map fun (n, rest) => ((n : Int), rest)
    | '0' :: 'o' :: rest => (readBased 8 rest).map fun (n, rest) => ((n : Int), rest)
    | '0' :: 'b' :: rest => (readBased 2 rest).map fun (n, rest) => ((n : Int), rest)
    | _ => readDecimal s
  if -9223372036854775808 ≤ n ∧ n ≤ 9223372036854775807 then some (.integer n, rest) else none

/-- The least number nearer to infinity than to the largest double: half a unit beyond it. -/
def doubleBound : Nat := Nat.pow 2 970 * (Nat.pow 2 54 - 1)

/-- Whether the double nearest to `mantissa · 10 ^ scale` is infinite. Only for numbers of 309
digits before the point the digits themselves have to be looked at. -/
def overflowsDouble (mantissa : Nat) (scale : Int) : Bool :=
  let magnitude := (Nat.toDigits 10 mantissa).length + scale
  if mantissa = 0 ∨ magnitude < 309 then false
  else if 309 < magnitude then true
  else doubleBound * Nat.pow 10 (-scale).toNat ≤ mantissa * Nat.pow 10 scale.toNat

/-- Reads the exponent of a float. -/
def readExponent : List Char → Option (Int × List Char)
  | c :: rest =>
    if c = 'e' ∨ c = 'E' then
      match rest with
      | '+' :: rest => (readBased 10 rest).map fun (n, rest) => (n, rest)
      | '-' :: rest => (readBased 10 rest).map fun (n, rest) => (-n, rest)
      | _ => (readBased 10 rest).map fun (n, rest) => (n, rest)
    else none
  | [] => none

/-- Reads a float without sign, which needs a fraction or an exponent, as a mantissa and the power
of ten that scales it. -/
def readScaled (s : List Char) : Option ((Nat × Int) × List Char) :=
  match readUnsigned s with
  | some (whole, '.' :: rest) =>
    match readDigits Char.isDigit rest with
    | some (fraction, rest) =>
      let (exponent, rest) := (readExponent rest).getD (0, rest)
      let mantissa := whole * Nat.pow 10 fraction.length + numeral 10 fraction
      some ((mantissa, exponent - fraction.length), rest)
    | none => none
  | some (whole, rest) => (readExponent rest).map fun (exponent, rest) => ((whole, exponent), rest)
  | none => none

/-- What follows a float. A positive number beyond the largest double is refused; a negative one
stands for minus infinity. -/
def dropFloat? (s : List Char) : Option (List Char) :=
  let (negative, unsigned) :=
    match s with
    | '+' :: rest => (false, rest)
    | '-' :: rest => (true, rest)
    | _ => (false, s)
  match unsigned with
  | 'i' :: 'n' :: 'f' :: rest | 'n' :: 'a' :: 'n' :: rest => some rest
  | _ =>
    match readScaled unsigned with
    | some ((mantissa, scale), rest) =>
      if !negative && overflowsDouble mantissa scale then none else some rest
    | none => none

/-! ### Dates and times -/

/-- Reads a number of `width` digits that lies in a range. -/
def readField (width low high : Nat) (s : List Char) : Option (Nat × List Char) :=
  let digits := s.take width
  let n := numeral 10 digits
  if digits.length = width ∧ digits.all Char.isDigit ∧ low ≤ n ∧ n ≤ high then
    some (n, s.drop width)
  else none

/-- Reads a number of two digits in front of which a mark stands. -/
def readMarked (mark : Char) (low high : Nat) : List Char → Option (Nat × List Char)
  | c :: rest => if c = mark then readField 2 low high rest else none
  | [] => none

/-- The number of days of a month. -/
def daysOf (year month : Nat) : Nat :=
  if month = 2 then
    if year % 4 = 0 ∧ (year % 100 ≠ 0 ∨ year % 400 = 0) then 29 else 28
  else if month ∈ [4, 6, 9, 11] then 30 else 31

/-- What follows a date. -/
def dropDate? (s : List Char) : Option (List Char) := do
  let (year, s) ← readField 4 0 9999 s
  let (month, s) ← readMarked '-' 1 12 s
  let (_, s) ← readMarked '-' 1 (daysOf year month) s
  return s

/-- What follows a time of day. -/
def dropTime? (s : List Char) : Option (List Char) := do
  let (_, s) ← readField 2 0 23 s
  let (_, s) ← readMarked ':' 0 59 s
  let (_, s) ← readMarked ':' 0 60 s
  match s with
  | '.' :: c :: rest => return if c.isDigit then rest.dropWhile Char.isDigit else s
  | _ => return s

/-- What follows the zone of a time, if there is one. -/
def dropZone (s : List Char) : List Char :=
  match s with
  | 'Z' :: rest | 'z' :: rest => rest
  | sign :: rest =>
    if sign = '+' ∨ sign = '-' then
      match readField 2 0 23 rest with
      | some (_, minutes) =>
        match readMarked ':' 0 59 minutes with
        | some (_, rest) => rest
        | none => s
      | none => s
    else s
  | [] => s

/-- What follows a date, a time, or both. -/
def dropDateTime? (s : List Char) : Option (List Char) :=
  match dropDate? s with
  | some rest =>
    match rest with
    | c :: time =>
      if c = 'T' ∨ c = 't' ∨ c = ' ' then
        match dropTime? time with
        | some rest => some (dropZone rest)
        | none => some rest
      else some rest
    | [] => some []
  | none => dropTime? s

/-! ### Scalars -/

/-- Reads a text, a number, a date or a boolean. -/
def readScalar (s : List Char) : Option (Toml × List Char) :=
  match s with
  | '"' :: _ | '\'' :: _ => (readText s).map fun (cs, rest) => (.text (String.ofList cs), rest)
  | 't' :: 'r' :: 'u' :: 'e' :: rest => some (.other, rest)
  | 'f' :: 'a' :: 'l' :: 's' :: 'e' :: rest => some (.other, rest)
  | _ =>
    match dropDateTime? s <|> dropFloat? s with
    | some rest => some (.other, rest)
    | none => readInteger s

end Attestation.Toml

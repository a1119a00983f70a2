import Attestation.Bytes

/-!
# JSON texts

A JSON text is the written form of a tree that keeps numbers and strings as they are written, so
that a part nobody asks for is only checked for its form. Beside the writer and the reader of trees
stand the scanners of single tokens, each of which splits a token off the front of a text.
-/

namespace Attestation

/-- A JSON text as the tree of its parts. -/
inductive Json where
  | null
  | bool (value : Bool)
  /-- A number as it is written. -/
  | number (literal : Bytes)
  /-- A string as it is written between its quotes. -/
  | string (raw : Bytes)
  | array (items : List Json)
  /-- An object with its keys as written. -/
  | object (members : List (Bytes × Json))

namespace Json

/-! ### Strings -/

/-- Whether a byte is a hexadecimal digit. -/
def isHexDigit (b : UInt8) : Bool :=
  (0x30 ≤ b && b ≤ 0x39) || (0x41 ≤ b && b ≤ 0x46) || (0x61 ≤ b && b ≤ 0x66)

/-- What stands for one byte of a text between quotes: quotation mark, backslash and control
characters are escaped, all else stands for itself. -/
def escapeByte (b : UInt8) : Bytes :=
  if b = 0x22 then [0x5c, 0x22]
  else if b = 0x5c then [0x5c, 0x5c]
  else if b = 0x08 then [0x5c, 0x62]
  else if b = 0x09 then [0x5c, 0x74]
  else if b = 0x0a then [0x5c, 0x6e]
  else if b = 0x0c then [0x5c, 0x66]
  else if b = 0x0d then [0x5c, 0x72]
  else if b < 0x20 then
    [0x5c, 0x75, 0x30, 0x30] ++ (Bytes.hexDigits [b]).map fun c => UInt8.ofNat c.toNat
  else [b]

/-- What stands for a text between quotes. -/
def escape (text : Bytes) : Bytes := text.flatMap escapeByte

/-- The value of four hexadecimal digits. -/
def hex4? (a b c d : UInt8) : Option Nat :=
  match Bytes.ofHexDigits? ([a, b, c, d].map fun x => Char.ofNat x.toNat) with
  | some [high, low] => some (256 * high.toNat + low.toNat)
  | _ => none

/-- The UTF-8 bytes of a code point below `0x110000`. -/
def utf8 (n : Nat) : Bytes :=
  if n < 0x80 then [UInt8.ofNat n]
  else if n < 0x800 then [UInt8.ofNat (0xc0 + n / 64), UInt8.ofNat (0x80 + n % 64)]
  else if n < 0x10000 then
    [UInt8.ofNat (0xe0 + n / 4096), UInt8.ofNat (0x80 + n / 64 % 64), UInt8.ofNat (0x80 + n % 64)]
  else
    [UInt8.ofNat (0xf0 + n / 262144), UInt8.ofNat (0x80 + n / 4096 % 64),
      UInt8.ofNat (0x80 + n / 64 % 64), UInt8.ofNat (0x80 + n % 64)]

/-- The byte that a one-letter escape stands for. -/
def escaped? (b : UInt8) : Option UInt8 :=
  if b = 0x22 ∨ b = 0x5c ∨ b = 0x2f then some b
  else if b = 0x62 then some 0x08
  else if b = 0x66 then some 0x0c
  else if b = 0x6e then some 0x0a
  else if b = 0x72 then some 0x0d
  else if b = 0x74 then some 0x09
  else none

/-- The text that stands between quotes. Surrogates have to come in pairs. -/
def unescape? : Bytes → Option Bytes
  | [] => some []
  | 0x5c :: 0x75 :: a :: b :: c :: d :: rest => do
    let high ← hex4? a b c d
    if 0xd800 ≤ high ∧ high < 0xdc00 then
      match rest with
      | 0x5c :: 0x75 :: e :: f :: g :: h :: rest =>
        let low ← hex4? e f g h
        if 0xdc00 ≤ low ∧ low < 0xe000 then
          return utf8 (0x10000 + 1024 * (high - 0xd800) + (low - 0xdc00)) ++ (← unescape? rest)
        else none
      | _ => none
    else if 0xdc00 ≤ high ∧ high < 0xe000 then none
    else return utf8 high ++ (← unescape? rest)
  | 0x5c :: b :: rest => do return (← escaped? b) :: (← unescape? rest)
  | b :: rest => do return b :: (← unescape? rest)

/-- The text of a string as it is written between its quotes. -/
def unquote? (raw : Bytes) : Option String := unescape? raw >>= Bytes.toText?

/-! ### Numbers -/

/-- Whether a byte is a decimal digit. -/
def isDigit (b : UInt8) : Bool := 0x30 ≤ b && b ≤ 0x39

/-- The decimal digits of a number. -/
def decimal (n : Nat) : Bytes := (Nat.toDigits 10 n).map fun c => UInt8.ofNat c.toNat

/-- The number that a literal without sign, fraction and exponent stands for. A leading zero stands
alone. -/
def natural? (literal : Bytes) : Option Nat :=
  match literal with
  | [] => none
  | [0x30] => some 0
  | first :: _ =>
    if first ≠ 0x30 ∧ literal.all isDigit then
      some (literal.foldl (fun n b => 10 * n + (b.toNat - 0x30)) 0)
    else none

/-! ### Writing -/

mutual

/-- The text of a tree, without blanks. -/
def write : Json → Bytes
  | null => [0x6e, 0x75, 0x6c, 0x6c]
  | bool true => [0x74, 0x72, 0x75, 0x65]
  | bool false => [0x66, 0x61, 0x6c, 0x73, 0x65]
  | number literal => literal
  | string raw => 0x22 :: raw ++ [0x22]
  | array items => 0x5b :: writeItems items ++ [0x5d]
  | object members => 0x7b :: writeMembers members ++ [0x7d]

/-- The text of items, with commas between them. -/
def writeItems : List Json → Bytes
  | [] => []
  | [item] => write item
  | item :: items => write item ++ 0x2c :: writeItems items

/-- The text of members, with commas between them. -/
def writeMembers : List (Bytes × Json) → Bytes
  | [] => []
  | [(key, value)] => 0x22 :: key ++ 0x22 :: 0x3a :: write value
  | (key, value) :: members =>
    0x22 :: key ++ 0x22 :: 0x3a :: write value ++ 0x2c :: writeMembers members

end

/-! ### Reading -/

/-- Whether a byte is a space, a tab or a line end. -/
def isBlank (b : UInt8) : Bool := b = 0x20 || b = 0x09 || b = 0x0a || b = 0x0d

/-- A text without the blanks in front. -/
def skipBlanks (s : Bytes) : Bytes := s.dropWhile isBlank

/-- Splits a text behind an opening quote at the closing one. Control characters and unknown
escapes are refused. -/
def scanString : Bytes → Option (Bytes × Bytes)
  | [] => none
  | 0x22 :: rest => some ([], rest)
  | 0x5c :: 0x75 :: a :: b :: c :: d :: rest =>
    if isHexDigit a && isHexDigit b && isHexDigit c && isHexDigit d then
      (scanString rest).map fun (raw, rest) => (0x5c :: 0x75 :: a :: b :: c :: d :: raw, rest)
    else none
  | 0x5c :: b :: rest =>
    if (escaped? b).isSome then
      (scanString rest).map fun (raw, rest) => (0x5c :: b :: raw, rest)
    else none
  | b :: rest =>
    if b < 0x20 ∨ b = 0x5c then none else (scanString rest).map fun (raw, rest) => (b :: raw, rest)

/-- At least one digit in front of a text. -/
def scanDigits (s : Bytes) : Option (Bytes × Bytes) :=
  match s.span isDigit with
  | ([], _) => none
  | (digits, rest) => some (digits, rest)

/-- The fraction in front of a text, if there is a point. -/
def scanFraction : Bytes → Option (Bytes × Bytes)
  | 0x2e :: rest => (scanDigits rest).map fun (digits, rest) => (0x2e :: digits, rest)
  | rest => some ([], rest)

/-- The exponent in front of a text, if there is a mark. -/
def scanExponent : Bytes → Option (Bytes × Bytes)
  | [] => some ([], [])
  | mark :: rest =>
    if mark = 0x65 ∨ mark = 0x45 then
      match rest with
      | sign :: digits =>
        if sign = 0x2b ∨ sign = 0x2d then
          (scanDigits digits).map fun (digits, rest) => (mark :: sign :: digits, rest)
        else (scanDigits rest).map fun (digits, rest) => (mark :: digits, rest)
      | [] => none
    else some ([], mark :: rest)

/-- The number literal in front of a text without its sign. -/
def scanUnsigned (s : Bytes) : Option (Bytes × Bytes) := do
  let (whole, s) ←
    match s with
    | 0x30 :: rest => some ([0x30], rest)
    | _ => scanDigits s
  let (fraction, s) ← scanFraction s
  let (exponent, s) ← scanExponent s
  return (whole ++ fraction ++ exponent, s)

/-- The number literal in front of a text. -/
def scanNumber : Bytes → Option (Bytes × Bytes)
  | 0x2d :: rest => (scanUnsigned rest).map fun (literal, rest) => (0x2d :: literal, rest)
  | s => scanUnsigned s

/-- The string in front of a text, as it is written between its quotes. -/
def takeString (s : Bytes) : Option (Bytes × Bytes) :=
  match skipBlanks s with
  | 0x22 :: rest => scanString rest
  | _ => none

/-- The name of a member in front of a text, with the colon behind it. -/
def takeName (s : Bytes) : Option (Bytes × Bytes) := do
  let (name, rest) ← takeString s
  match skipBlanks rest with
  | 0x3a :: rest => return (name, rest)
  | _ => none

mutual

/-- The value in front of a text and what follows it. -/
def readValue : (fuel : Nat) → Bytes → Option (Json × Bytes)
  | 0, _ => none
  | fuel + 1, s =>
    match skipBlanks s with
    | 0x6e :: 0x75 :: 0x6c :: 0x6c :: rest => some (null, rest)
    | 0x74 :: 0x72 :: 0x75 :: 0x65 :: rest => some (bool true, rest)
    | 0x66 :: 0x61 :: 0x6c :: 0x73 :: 0x65 :: rest => some (bool false, rest)
    | 0x22 :: rest => (scanString rest).map fun (raw, rest) => (string raw, rest)
    | 0x5b :: rest =>
      match skipBlanks rest with
      | 0x5d :: rest => some (array [], rest)
      | rest => (readItems fuel rest).map fun (items, rest) => (array items, rest)
    | 0x7b :: rest =>
      match skipBlanks rest with
      | 0x7d :: rest => some (object [], rest)
      | rest => (readMembers fuel rest).map fun (members, rest) => (object members, rest)
    | s => (scanNumber s).map fun (literal, rest) => (number literal, rest)

/-- The items up to the end of an array, and what follows it. -/
def readItems : (fuel : Nat) → Bytes → Option (List Json × Bytes)
  | 0, _ => none
  | fuel + 1, s => do
    let (item, rest) ← readValue fuel s
    match skipBlanks rest with
    | 0x2c :: rest =>
      let (items, rest) ← readItems fuel rest
      return (item :: items, rest)
    | 0x5d :: rest => return ([item], rest)
    | _ => none

/-- The members up to the end of an object, and what follows it. -/
def readMembers : (fuel : Nat) → Bytes → Option (List (Bytes × Json) × Bytes)
  | 0, _ => none
  | fuel + 1, s => do
    let (key, rest) ← takeName s
    let (value, rest) ← readValue fuel rest
    match skipBlanks rest with
    | 0x2c :: rest =>
      let (members, rest) ← readMembers fuel rest
      return ((key, value) :: members, rest)
    | 0x7d :: rest => return ([(key, value)], rest)
    | _ => none

end

/-- The value in front of a text and what follows it. Every second step of the reader consumes a
byte, which bounds the steps. -/
def read? (s : Bytes) : Option (Json × Bytes) := readValue (2 * s.length + 2) s

/-! ### Building -/

/-- A string value. -/
def ofString (text : String) : Json := string (escape (Bytes.ofText text))

/-- A number value. -/
def ofNat (n : Nat) : Json := number (decimal n)

/-- An array value. -/
def ofList (items : List Json) : Json := array items

/-- An object value. -/
def ofMembers (members : List (String × Json)) : Json :=
  object (members.map fun (key, value) => (escape (Bytes.ofText key), value))

end Json

end Attestation

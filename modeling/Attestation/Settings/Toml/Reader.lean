import Attestation.Settings.Toml.Scalar

/-!
# Reading TOML documents

A document is read line by line. Values nest in brackets and braces and keys are dotted, in both
cases less than eighty deep.
-/

namespace Attestation.Toml

/-- How deep values and keys may nest. -/
def maxDepth : Nat := 79

/-! ### Keys -/

/-- Whether a character may stand in a key without quotes. -/
def isBare (c : Char) : Bool := c.isAlphanum || c = '_' || c = '-'

/-- Reads one part of a key. -/
def readPart : List Char → Option (String × List Char)
  | '"' :: rest => (readBasic rest).map fun (cs, rest) => (String.ofList cs, rest)
  | '\'' :: rest => (readLiteral rest).map fun (cs, rest) => (String.ofList cs, rest)
  | s =>
    match s.takeWhile isBare with
    | [] => none
    | part => some (String.ofList part, s.dropWhile isBare)

/-- Reads a dotted key of at most `parts` parts: the path and the last part. Blanks around the parts
do not count. -/
def readKey : (parts : Nat) → List Char → Option (List String × String × List Char)
  | 0, _ => none
  | parts + 1, s => do
    let (part, rest) ← readPart (s.dropWhile isBlank)
    match rest.dropWhile isBlank with
    | '.' :: rest =>
      let (path, key, rest) ← readKey parts rest
      return (part :: path, key, rest)
    | rest => return ([], part, rest)

/-! ### Values -/

/-- Drops blanks, line breaks and comments. -/
def dropGap (inComment : Bool) : List Char → List Char
  | '\r' :: '\n' :: rest => dropGap false rest
  | c :: rest =>
    if inComment && isPlain c then dropGap true rest
    else if isBlank c || c = '\n' then dropGap false rest
    else if c = '#' then dropGap true rest
    else c :: rest
  | [] => []

mutual

/-- Reads a value in which `depth` more brackets may be nested. -/
def readValue : (fuel depth : Nat) → List Char → Option (Toml × List Char)
  | 0, _, _ => none
  | fuel + 1, depth, s =>
    match depth, s with
    | 0, '[' :: _ | 0, '\x7b' :: _ => none
    | depth + 1, '[' :: rest =>
      (readItems fuel depth rest).map fun (items, rest) => (.array items, rest)
    | depth + 1, '\x7b' :: rest =>
      match rest.dropWhile isBlank with
      | '\x7d' :: rest => some (.table .braces [], rest)
      | _ => readPairs fuel depth (.table .braces []) rest
    | _, _ => readScalar s

/-- Reads the items of an array up to its closing bracket. A comma may follow the last one. -/
def readItems : (fuel depth : Nat) → List Char → Option (List Toml × List Char)
  | 0, _, _ => none
  | fuel + 1, depth, s =>
    match dropGap false s with
    | ']' :: rest => some ([], rest)
    | s => do
      let (item, rest) ← readValue fuel depth s
      match dropGap false rest with
      | ',' :: rest =>
        let (items, rest) ← readItems fuel depth rest
        return (item :: items, rest)
      | ']' :: rest => return ([item], rest)
      | _ => none

/-- Reads the pairs of a table in braces into the table. No comma follows the last one. -/
def readPairs : (fuel depth : Nat) → Toml → List Char → Option (Toml × List Char)
  | 0, _, _, _ => none
  | fuel + 1, depth, t, s => do
    let (path, key, rest) ← readKey maxDepth s
    match rest with
    | '=' :: rest =>
      let (value, rest) ← readValue fuel depth (rest.dropWhile isBlank)
      let t ← Toml.assign path key value t
      match rest.dropWhile isBlank with
      | ',' :: rest => readPairs fuel depth t rest
      | '\x7d' :: rest => return (t, rest)
      | _ => none
    | _ => none

end

/-! ### Lines -/

/-- What follows the end of a line, before which blanks and a comment may stand. -/
def endLine (s : List Char) : Option (List Char) :=
  let rest := match s.dropWhile isBlank with
    | '#' :: comment => comment.dropWhile isPlain
    | rest => rest
  match rest with
  | [] => some []
  | _ => dropLineBreak? rest

/-- Reads a line into a draft: a header, a pair, or nothing. -/
def readLine (d : TomlDraft) (s : List Char) : Option (TomlDraft × List Char) :=
  match s.dropWhile isBlank with
  | '[' :: '[' :: rest => do
    let (path, key, rest) ← readKey maxDepth rest
    match rest with
    | ']' :: ']' :: rest => return (← d.extendSeries path key, ← endLine rest)
    | _ => none
  | '[' :: rest => do
    let (path, key, rest) ← readKey maxDepth rest
    match rest with
    | ']' :: rest => return (← d.openTable path key, ← endLine rest)
    | _ => none
  | s =>
    match endLine s with
    | some rest => some (d, rest)
    | none => do
      let (path, key, rest) ← readKey maxDepth s
      match rest with
      | '=' :: rest =>
        let (value, rest) ← readValue (3 * s.length) maxDepth (rest.dropWhile isBlank)
        return (← d.assign path key value, ← endLine rest)
      | _ => none

/-- Reads at most `lines` lines into a draft. -/
def readLinesInto : (lines : Nat) → TomlDraft → List Char → Option TomlDraft
  | _, d, [] => some d
  | 0, _, _ => none
  | lines + 1, d, s => do
    let (d, rest) ← readLine d s
    readLinesInto lines d rest

/-- The table that a document holds. A byte order mark may stand in front. -/
def ofText? (text : String) : Option Toml :=
  let s := match text.toList with
    | '\uFEFF' :: rest => rest
    | s => s
  (readLinesInto s.length {} s).map (·.root)

end Attestation.Toml

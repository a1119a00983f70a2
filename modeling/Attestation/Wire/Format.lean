import Attestation.Wire.DecodeError
import Attestation.Wire.Refusal
import Attestation.OrderedMap

/-!
# Wire formats

A wire format says how the values of a type are written and read, both as a JSON text and in a
binary layout. Formats are built from those of the parts. In the binary layout numbers are eight
bytes, lowest first; texts, byte strings, lists and maps follow their length; the cases of a choice
follow their number in four bytes and an optional value follows one byte. Reading walks the input
in order and stops at the first thing that is wrong.
-/

namespace Attestation

/-- How the values of a type are written and read. -/
structure WireFormat (α : Type) where
  /-- The JSON tree of a value. -/
  toJson : α → Json
  /-- Reads a value from the front of a JSON text and returns what follows it. -/
  ofJson : Bytes → Except DecodeError (α × Bytes)
  /-- The value that a missing field has. -/
  absent : Option α
  /-- The binary form of a value. -/
  toBytes : α → Bytes
  /-- Reads a value from the front of a byte string and returns what follows it. -/
  ofBytes : Bytes → Except DecodeError (α × Bytes)

namespace WireFormat

variable {α β : Type}

/-- A missing value is malformed. -/
def require : Option α → Except DecodeError α
  | some a => .ok a
  | none => .error .malformed

/-- Splits off the first `n` bytes. -/
def takeBytes (n : Nat) (s : Bytes) : Except DecodeError (Bytes × Bytes) :=
  if n ≤ s.length then .ok (s.splitAt n) else .error .malformed

/-- Reads a number of `width` bytes, lowest first. -/
def takeNat (width : Nat) (s : Bytes) : Except DecodeError (Nat × Bytes) := do
  let (digits, rest) ← takeBytes width s
  return (Bytes.toNatLE digits, rest)

/-- Passes a mark of a JSON text, with the blanks in front of it. -/
def passMark (mark : UInt8) (s : Bytes) : Except DecodeError Bytes :=
  match Json.skipBlanks s with
  | b :: rest => if b = mark then .ok rest else .error .malformed
  | [] => .error .malformed

/-! ### Numbers and texts -/

/-- Reads a number below `bound` from the front of a JSON text. -/
def takeNumber (bound : Nat) (s : Bytes) : Except DecodeError (Nat × Bytes) := do
  let (literal, rest) ← require (Json.scanNumber s)
  let n ← require (Json.natural? literal)
  if n < bound then return (n, rest) else throw .malformed

/-- 64 bit words. -/
def word : WireFormat UInt64 where
  toJson w := .ofNat w.toNat
  ofJson s := do
    let (n, rest) ← takeNumber UInt64.size (Json.skipBlanks s)
    return (UInt64.ofNat n, rest)
  absent := none
  toBytes w := Bytes.ofNatLE 8 w.toNat
  ofBytes s := do
    let (n, rest) ← takeNat 8 s
    return (UInt64.ofNat n, rest)

/-- Single bytes. -/
def byte : WireFormat UInt8 where
  toJson b := .ofNat b.toNat
  ofJson s := do
    let (n, rest) ← takeNumber UInt8.size (Json.skipBlanks s)
    return (UInt8.ofNat n, rest)
  absent := none
  toBytes b := [b]
  ofBytes
    | b :: rest => return (b, rest)
    | [] => throw .malformed

/-- Byte strings behind their length. -/
def writeBlock (bytes : Bytes) : Bytes := Bytes.ofNatLE 8 bytes.length ++ bytes

/-- Reads a byte string behind its length. -/
def takeBlock (s : Bytes) : Except DecodeError (Bytes × Bytes) := do
  let (n, rest) ← takeNat 8 s
  takeBytes n rest

/-- Texts. -/
def text : WireFormat String where
  toJson t := .ofString t
  ofJson s := do
    let (raw, rest) ← require (Json.takeString s)
    return (← require (Json.unquote? raw), rest)
  absent := none
  toBytes t := writeBlock (Bytes.ofText t)
  ofBytes s := do
    let (bytes, rest) ← takeBlock s
    return (← require (Bytes.toText? bytes), rest)

/-! ### Lists -/

/-- Reads a list of `n` values. -/
def takeMany (f : WireFormat α) : (n : Nat) → Bytes → Except DecodeError (List α × Bytes)
  | 0, s => .ok ([], s)
  | n + 1, s => do
    let (a, rest) ← f.ofBytes s
    let (as, rest) ← takeMany f n rest
    return (a :: as, rest)

/-- Reads the items of an array up to its end. -/
def takeItems (f : WireFormat α) : (fuel : Nat) → Bytes → Except DecodeError (List α × Bytes)
  | 0, _ => .error .malformed
  | fuel + 1, s => do
    let (a, rest) ← f.ofJson s
    match Json.skipBlanks rest with
    | 0x2c :: rest =>
      let (as, rest) ← takeItems f fuel rest
      return (a :: as, rest)
    | 0x5d :: rest => return ([a], rest)
    | _ => throw .malformed

/-- Reads an array. Each item takes a byte, which bounds their number. -/
def takeArray (f : WireFormat α) (s : Bytes) : Except DecodeError (List α × Bytes) := do
  let rest ← passMark 0x5b s
  match Json.skipBlanks rest with
  | 0x5d :: rest => return ([], rest)
  | rest => takeItems f rest.length rest

/-- Lists. -/
def list (f : WireFormat α) : WireFormat (List α) where
  toJson as := .ofList (as.map f.toJson)
  ofJson := f.takeArray
  absent := none
  toBytes as := Bytes.ofNatLE 8 as.length ++ as.flatMap f.toBytes
  ofBytes s := do
    let (n, rest) ← takeNat 8 s
    f.takeMany n rest

/-- Reads `n` bytes, each behind a comma. -/
def takeFurther : (n : Nat) → Bytes → Except DecodeError (Bytes × Bytes)
  | 0, s => .ok ([], s)
  | n + 1, s => do
    let (b, rest) ← byte.ofJson (← passMark 0x2c s)
    let (bytes, rest) ← takeFurther n rest
    return (b :: bytes, rest)

/-- Passes what stands between the last byte of an array and its end. A further byte is refused; a
further item that is no byte is passed over as far as it has been looked at. -/
def passSurplus (s : Bytes) : Except DecodeError Bytes :=
  match Json.skipBlanks s with
  | 0x2c :: rest =>
    match byte.ofJson rest with
    | .ok _ => .error .malformed
    | .error _ => passMark 0x5d (Json.afterRefused rest)
  | rest => passMark 0x5d rest

/-- Reads an array of `n` bytes. -/
def takeByteArray (n : Nat) (s : Bytes) : Except DecodeError (Bytes × Bytes) := do
  let rest ← passMark 0x5b s
  match n with
  | 0 => return ([], ← passMark 0x5d rest)
  | n + 1 =>
    let (b, rest) ← byte.ofJson rest
    let (bytes, rest) ← takeFurther n rest
    return (b :: bytes, ← passSurplus rest)

/-- Byte strings of a fixed length: a text of hexadecimal digits, or an array of numbers. -/
def fixed (n : Nat) : WireFormat (FixedBytes n) where
  toJson a := .ofString a.toHex
  ofJson s :=
    match Json.skipBlanks s with
    | 0x5b :: _ => do
      let (bytes, rest) ← takeByteArray n s
      return (← require (FixedBytes.ofBytes? n bytes), rest)
    | _ => do
      let (digits, rest) ← text.ofJson s
      return (← require (Bytes.ofHex? digits >>= FixedBytes.ofBytes? n), rest)
  absent := none
  toBytes a := writeBlock a.toBytes
  ofBytes s := do
    let (bytes, rest) ← takeBlock s
    return (← require (FixedBytes.ofBytes? n bytes), rest)

/-! ### Optional values and views -/

/-- Values that may be absent. -/
def optional (f : WireFormat α) : WireFormat (Option α) where
  toJson
    | none => .null
    | some a => f.toJson a
  ofJson s :=
    match Json.skipBlanks s with
    | 0x6e :: 0x75 :: 0x6c :: 0x6c :: rest => return (none, rest)
    | rest => do
      let (a, rest) ← f.ofJson rest
      return (some a, rest)
  absent := some none
  toBytes
    | none => [0]
    | some a => 1 :: f.toBytes a
  ofBytes
    | 0 :: rest => return (none, rest)
    | 1 :: rest => do
      let (a, rest) ← f.ofBytes rest
      return (some a, rest)
    | _ => throw .malformed

/-- Values that are written as values of another type, and checked when they are read. -/
def refine (f : WireFormat α) (check : α → Except DecodeError β) (view : β → α) :
    WireFormat β where
  toJson b := f.toJson (view b)
  ofJson s := do
    let (a, rest) ← f.ofJson s
    return (← check a, rest)
  absent := none
  toBytes b := f.toBytes (view b)
  ofBytes s := do
    let (a, rest) ← f.ofBytes s
    return (← check a, rest)

/-- Values that are written as values of another type. -/
def view (f : WireFormat α) (make : α → β) (view : β → α) : WireFormat β :=
  f.refine (fun a => .ok (make a)) view

/-! ### Records -/

/-- The fields of a record in their order. A JSON object fills the slots in any order. -/
structure Fields (α : Type) where
  /-- The fields read so far. -/
  Slots : Type
  /-- No field read. -/
  start : Slots
  /-- Reads the field of a name from the front of a JSON text into its slot and returns what follows
  it; there may be no such field, which is `none`. -/
  fill : String → Bytes → Slots → Except DecodeError (Option (Slots × Bytes))
  /-- The record, once all fields have been read. -/
  finish : Slots → Except DecodeError α
  /-- Reads the fields as items of an array; all but the first of an array stand behind a comma. -/
  ofItems : (first : Bool) → Bytes → Except DecodeError (α × Bytes)
  /-- The fields with their names. -/
  toMembers : α → List (String × Json)
  /-- The binary forms of the fields one after the other. -/
  toBytes : α → Bytes
  /-- Reads the fields one after the other. -/
  ofBytes : Bytes → Except DecodeError (α × Bytes)

namespace Fields

/-- No fields. -/
def nil : Fields Unit where
  Slots := Unit
  start := ()
  fill _ _ _ := .ok none
  finish _ := .ok ()
  ofItems _ s := .ok ((), s)
  toMembers _ := []
  toBytes _ := []
  ofBytes s := .ok ((), s)

/-- A field in front of others. A field that comes twice is refused. -/
def cons (name : String) (f : WireFormat α) (fs : Fields β) : Fields (α × β) where
  Slots := Option α × fs.Slots
  start := (none, fs.start)
  fill key s slots :=
    if key = name then
      match slots.1 with
      | some _ => .error .malformed
      | none => do
        let (a, rest) ← f.ofJson s
        return some ((some a, slots.2), rest)
    else do return (← fs.fill key s slots.2).map fun (others, rest) => ((slots.1, others), rest)
  finish slots := do
    let a ← require (slots.1 <|> f.absent)
    return (a, ← fs.finish slots.2)
  ofItems first s := do
    let s ← if first then .ok s else passMark 0x2c s
    let (a, rest) ← f.ofJson s
    let (b, rest) ← fs.ofItems false rest
    return ((a, b), rest)
  toMembers a := (name, f.toJson a.1) :: fs.toMembers a.2
  toBytes a := f.toBytes a.1 ++ fs.toBytes a.2
  ofBytes s := do
    let (a, rest) ← f.ofBytes s
    let (b, rest) ← fs.ofBytes rest
    return ((a, b), rest)

/-- Reads one member of an object into its slot. An unknown member is skipped if its form is
right. -/
def fillOne (fs : Fields α) (s : Bytes) (slots : fs.Slots) :
    Except DecodeError (fs.Slots × Bytes) := do
  let (name, s) ← require (Json.takeName s)
  match ← fs.fill (← require (Json.unquote? name)) s slots with
  | some filled => return filled
  | none =>
    let (_, rest) ← require (Json.read? s)
    return (slots, rest)

/-- Reads the members of an object up to its end into their slots. -/
def fillAll (fs : Fields α) : (fuel : Nat) → Bytes → fs.Slots →
    Except DecodeError (fs.Slots × Bytes)
  | 0, _, _ => .error .malformed
  | fuel + 1, s, slots => do
    let (slots, rest) ← fs.fillOne s slots
    match Json.skipBlanks rest with
    | 0x2c :: rest => fs.fillAll fuel rest slots
    | 0x7d :: rest => return (slots, rest)
    | _ => throw .malformed

/-- Reads an object. Each member takes a byte, which bounds their number. -/
def ofMembers (fs : Fields α) (s : Bytes) : Except DecodeError (α × Bytes) := do
  let s ← passMark 0x7b s
  let (slots, rest) ←
    match Json.skipBlanks s with
    | 0x7d :: rest => .ok (fs.start, rest)
    | s => fs.fillAll s.length s fs.start
  return (← fs.finish slots, rest)

end Fields

/-- Records: objects, or arrays of all fields in order. -/
def record (fs : Fields α) : WireFormat α where
  toJson a := .ofMembers (fs.toMembers a)
  ofJson s :=
    match Json.skipBlanks s with
    | 0x5b :: rest => do
      let (a, rest) ← fs.ofItems true rest
      return (a, ← passMark 0x5d rest)
    | _ => fs.ofMembers s
  absent := none
  toBytes a := fs.toBytes a
  ofBytes s := fs.ofBytes s

/-! ### Choices -/

/-- One case of a choice. A case without content may be written as its bare name. -/
structure Case (α : Type) where
  /-- The name of the case. -/
  name : String
  /-- The content of the case. -/
  content : WireFormat α
  /-- The content, if the case has none. -/
  bare : Option α

namespace Case

/-- A case without content. -/
def unit (name : String) : Case Unit where
  name
  content :=
    { toJson := fun _ => .null
      ofJson := fun s =>
        match Json.skipBlanks s with
        | 0x6e :: 0x75 :: 0x6c :: 0x6c :: rest => .ok ((), rest)
        | _ => .error .malformed
      absent := none
      toBytes := fun _ => []
      ofBytes := fun s => .ok ((), s) }
  bare := some ()

/-- A case with fields. -/
def fields (name : String) (fs : Fields α) : Case α where
  name
  content := record fs
  bare := none

/-- The JSON tree of a case. -/
def toJson (c : Case α) (a : α) : Json :=
  if c.bare.isSome then .ofString c.name else .ofMembers [(c.name, c.content.toJson a)]

end Case

/-- A choice between two cases: an object with one member, or the bare name. -/
def choice (left : Case α) (right : Case β) : WireFormat (α ⊕ β) where
  toJson
    | .inl a => left.toJson a
    | .inr b => right.toJson b
  ofJson s :=
    match Json.skipBlanks s with
    | 0x7b :: rest => do
      let (raw, rest) ← require (Json.takeName rest)
      let name ← require (Json.unquote? raw)
      if name = left.name then
        let (a, rest) ← left.content.ofJson rest
        return (.inl a, ← passMark 0x7d rest)
      else if name = right.name then
        let (b, rest) ← right.content.ofJson rest
        return (.inr b, ← passMark 0x7d rest)
      else throw .malformed
    | _ => do
      let (name, rest) ← text.ofJson s
      if name = left.name then return (.inl (← require left.bare), rest)
      else if name = right.name then return (.inr (← require right.bare), rest)
      else throw .malformed
  absent := none
  toBytes
    | .inl a => Bytes.ofNatLE 4 0 ++ left.content.toBytes a
    | .inr b => Bytes.ofNatLE 4 1 ++ right.content.toBytes b
  ofBytes s := do
    let (index, rest) ← takeNat 4 s
    if index = 0 then
      let (a, rest) ← left.content.ofBytes rest
      return (.inl a, rest)
    else if index = 1 then
      let (b, rest) ← right.content.ofBytes rest
      return (.inr b, rest)
    else throw .malformed

/-! ### Maps -/

/-- Reads the members up to the end of an object whose keys are numbers. -/
def takeNumbered (f : WireFormat α) : (fuel : Nat) → Bytes →
    Except DecodeError (List (UInt64 × α) × Bytes)
  | 0, _ => .error .malformed
  | fuel + 1, s => do
    let (key, rest) ← takeNumber UInt64.size (← passMark 0x22 s)
    match rest with
    | 0x22 :: rest =>
      let (a, rest) ← f.ofJson (← passMark 0x3a rest)
      match Json.skipBlanks rest with
      | 0x2c :: rest =>
        let (entries, rest) ← takeNumbered f fuel rest
        return ((UInt64.ofNat key, a) :: entries, rest)
      | 0x7d :: rest => return ([(UInt64.ofNat key, a)], rest)
      | _ => throw .malformed
    | _ => throw .malformed

/-- Reads `n` entries. -/
def takeEntries (f : WireFormat α) : (n : Nat) → Bytes →
    Except DecodeError (List (UInt64 × α) × Bytes)
  | 0, s => .ok ([], s)
  | n + 1, s => do
    let (k, rest) ← word.ofBytes s
    let (a, rest) ← f.ofBytes rest
    let (entries, rest) ← f.takeEntries n rest
    return ((k, a) :: entries, rest)

/-- Maps from words: objects whose keys are decimal numbers. Of two entries under one key the later
one stands. -/
def map (f : WireFormat α) : WireFormat (OrderedMap UInt64 α) where
  toJson m := .object (m.toList.map fun (k, a) => (Json.decimal k.toNat, f.toJson a))
  ofJson s := do
    let s ← passMark 0x7b s
    match Json.skipBlanks s with
    | 0x7d :: rest => return (.empty, rest)
    | s =>
      let (entries, rest) ← f.takeNumbered s.length s
      return (.ofList entries, rest)
  absent := none
  toBytes m :=
    Bytes.ofNatLE 8 m.size ++ m.toList.flatMap fun (k, a) => word.toBytes k ++ f.toBytes a
  ofBytes s := do
    let (n, rest) ← takeNat 8 s
    let (entries, rest) ← f.takeEntries n rest
    return (.ofList entries, rest)

end WireFormat

end Attestation

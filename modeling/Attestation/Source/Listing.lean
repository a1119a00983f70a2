import Attestation.Source.Error
import Attestation.Source.Protobuf
import Attestation.Text.Lossy

/-!
# Listings of a store

A node lists the entries under a prefix of its store as a message of pairs, field 1, each of which
holds a key, field 1, and a value, field 2. A field that is missing is empty, the last one counts
where it comes twice, and all others are skipped.
-/

namespace Attestation.Listing

open Protobuf

/-- How deep the groups of a listing may be nested, the pairs included. -/
def maxDepth : Nat := 100

/-- An entry of a store. -/
structure Entry where
  /-- The key. -/
  key : Bytes := []
  /-- The value. -/
  value : Bytes := []
deriving DecidableEq

/-- Sets the field of an entry. -/
def Entry.set (e : Entry) (field : Field) : Option Entry :=
  match field.number, field.value with
  | 1, .block key => some { e with key }
  | 2, .block value => some { e with value }
  | 1, .skipped | 2, .skipped => none
  | _, _ => some e

/-- The entry that a pair spells. -/
def Entry.ofPair? (pair : Bytes) : Option Entry :=
  match fields? (maxDepth - 1) pair with
  | some fields => fields.foldlM Entry.set {}
  | none => none

/-- The entry of a field of the listing, if it has one. -/
def entry? (field : Field) : Option (Option Entry) :=
  match field.number, field.value with
  | 1, .block pair => (Entry.ofPair? pair).map some
  | 1, .skipped => none
  | _, _ => some none

/-- The entries of a listing. -/
def entries? (payload : Bytes) : Option (List Entry) :=
  match fields? maxDepth payload with
  | some fields => (fields.mapM entry?).map fun entries => entries.filterMap id
  | none => none

/-- The packet of an entry. The error names the key. -/
def Entry.packet (hash : Bytes → Digest) (e : Entry) : Except SourceError Packet :=
  (Packet.ofEntry hash e.key e.value).mapError fun cause =>
    .invalidData (.length (Text.lossy e.key) cause)

/-- The packets of a listing. -/
def packets (hash : Bytes → Digest) (payload : Bytes) : Except SourceError (List Packet) :=
  match entries? payload with
  | some entries => entries.mapM (Entry.packet hash)
  | none => .error (.invalidData .unreadable)

end Attestation.Listing

import Attestation.OrderedMap
import Attestation.Bytes

/-!
# The store of the registry

Clients live in a key-value store whose keys are byte strings in lexicographic order. A client has
one key for its state and one per trusted root, whose last eight bytes are the height, highest byte
first, so that the keys of a client sort by height.
-/

namespace Attestation

/-- A key-value store. -/
abbrev Store := OrderedMap Bytes Bytes

namespace Store

/-- The keys that start with a stem, in increasing order. They stand side by side behind all keys
below the stem, so that the scan may end at the first key that does not start with it. -/
def keysUnder (store : Store) (stem : Bytes) : List Bytes :=
  (store.keysFrom stem).takeWhile stem.isPrefixOf

/-- The key of a client's state. -/
def stateKey (clientId : String) : Bytes :=
  Bytes.ofText "clients/" ++ Bytes.ofText clientId ++ Bytes.ofText "/clientState"

/-- What the keys of a client's trusted roots start with. -/
def historyStem (clientId : String) : Bytes :=
  Bytes.ofText "clients/" ++ Bytes.ofText clientId ++ Bytes.ofText "/consensusStates/"

/-- The key of a client's trusted root at a height. -/
def historyKey (clientId : String) (height : UInt64) : Bytes :=
  historyStem clientId ++ Bytes.ofNatBE 8 height.toNat

end Store

end Attestation

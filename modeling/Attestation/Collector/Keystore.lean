import Attestation.Collector.Signer
import Attestation.Hash.Sha256
import Attestation.OrderedMap

/-!
# Keystores

A keystore is a file that holds the key of an attestor, sealed under a password. The password is
stretched with a keyed digest, so it opens the file exactly if its key block is that of the password
the file was sealed under. Files are named by paths that start at the directory of the keystores.
-/

namespace Attestation

/-- A key sealed under a password. -/
structure SealedKey where
  /-- The key block of the password that opens it. -/
  lock : Bytes
  /-- The key. -/
  key : SecretKey

/-- The key block of a password. -/
def SealedKey.lockOf (password : String) : Bytes := Sha256.keyBlock (Bytes.ofText password)

/-- Seals a key under a password. -/
def SealedKey.seal (password : String) (key : SecretKey) : SealedKey := ⟨lockOf password, key⟩

/-- The key, for a password that opens it. -/
def SealedKey.open? (s : SealedKey) (password : String) : Option SecretKey :=
  if lockOf password = s.lock then some s.key else none

/-- Where a path leads: a number of directories up, and the file there. -/
structure KeystorePath where
  /-- How many directories the file lies above the directory of the keystores. -/
  up : Nat
  /-- The name of the file. -/
  file : String
deriving DecidableEq

namespace KeystorePath

/-- Whether a file may have a name. Names have at most 255 bytes. -/
def isFileName (name : String) : Bool :=
  name ≠ "" && name ≠ "." && name ≠ ".." && !name.toList.contains '/' &&
    !name.toList.contains '\x00' && (Bytes.ofText name).length ≤ 255

/-- Where the segments of a path lead. No directory is below that of the keystores, so every segment
but the last one stays or goes up. -/
def ofSegments? (up : Nat) : List String → Option KeystorePath
  | [] => none
  | [file] => if isFileName file then some ⟨up, file⟩ else none
  | segment :: segments =>
    if segment = "" ∨ segment = "." then ofSegments? up segments
    else if segment = ".." then ofSegments? (up + 1) segments
    else none

/-- Where a path leads. It has to start at the directory of the keystores. -/
def ofText? (path : String) : Option KeystorePath :=
  if path.startsWith "/" then none else ofSegments? 0 (path.splitOn "/")

/-- The shortest path that leads to a place. -/
def toText (p : KeystorePath) : String := String.join (List.replicate p.up "../") ++ p.file

end KeystorePath

/-- The keystores under their shortest paths. -/
abbrev KeystoreDirectory := OrderedMap String SealedKey

namespace KeystoreDirectory

/-- Writes a keystore into the file that a path leads to. -/
def write? (d : KeystoreDirectory) (path password : String) (key : SecretKey) :
    Option KeystoreDirectory :=
  (KeystorePath.ofText? path).map fun place => d.insert place.toText (.seal password key)

/-- The key in the file that a path leads to. -/
def read? (d : KeystoreDirectory) (path password : String) : Option SecretKey := do
  (← d.get? (← KeystorePath.ofText? path).toText).open? password

end KeystoreDirectory

/-- The signer whose key is in a keystore. -/
def ClaimSigner.ofKeystore (d : KeystoreDirectory) (name password attestorId : String) :
    Except SigningError ClaimSigner :=
  match d.read? name password with
  | some key => .ok ⟨key, attestorId⟩
  | none => .error .unavailable

end Attestation

import Attestation.Bytes
import Attestation.Settings.Error
import Attestation.Settings.LogLevel
import Attestation.Settings.Toml.Reader

/-!
# Settings of the services

Both services read a TOML document with a table `server` and a list `chains`; the attesting service
also reads a table `signer`. Values that are left out have defaults, and unknown ones are ignored.
Settings are checked in their order, and the first defect counts.
-/

namespace Attestation

/-! ### Values -/

namespace Toml

/-- The values under keys. They may also be listed in the order of the keys. -/
def values? (keys : List String) : Toml → Option (List (Option Toml))
  | .table _ entries => some (keys.map (find? · entries))
  | .array items | .series items => some (keys.zipIdx.map fun (_, i) => items[i]?)
  | _ => none

/-- A text. -/
def text? : Toml → Option String
  | .text value => some value
  | _ => none

/-- A number below `bound`. -/
def below? (bound : Nat) : Toml → Option Nat
  | .integer (.ofNat n) => if n < bound then some n else none
  | _ => none

/-- A port. -/
def port? (t : Toml) : Option UInt16 := (t.below? UInt16.size).map UInt16.ofNat

/-- A word. -/
def word? (t : Toml) : Option UInt64 := (t.below? UInt64.size).map UInt64.ofNat

/-- The items of a list. -/
def items? : Toml → Option (List Toml)
  | .array items | .series items => some items
  | _ => none

/-- A value, or a default where there is none. -/
def orDefault {α : Type} (read : Toml → Option α) (default : α) : Option Toml → Option α
  | some t => read t
  | none => some default

end Toml

/-! ### Parts -/

/-- Where a service listens and what it logs. -/
structure ServerSettings where
  /-- The address. -/
  address : String
  /-- The port. -/
  port : UInt16
  /-- What is logged. -/
  logLevel : String
  /-- The port of a further server for metrics. -/
  metricsPort : Option UInt16
deriving DecidableEq

/-- What is logged. -/
def ServerSettings.level (s : ServerSettings) : LogLevel := .ofText s.logLevel

/-- The server settings of a value. -/
def ServerSettings.ofToml? (t : Toml) (withMetrics : Bool) : Option ServerSettings := do
  let [address, port, logLevel, metricsPort] ←
    t.values? ["address", "port", "log_level", "metrics_port"] | none
  return {
    address := ← address >>= Toml.text?
    port := ← port >>= Toml.port?
    logLevel := ← Toml.orDefault Toml.text? "" logLevel
    metricsPort :=
      ← if withMetrics then Toml.orDefault (fun t => t.port?.map some) none metricsPort
        else some none }

/-- Where the key of an attestor is kept. -/
structure SignerSettings where
  /-- The file of the key. -/
  keystorePath : String
  /-- What opens it. -/
  keystorePassword : String
  /-- The id of the attestor. -/
  attestorId : String
deriving DecidableEq

/-- The signer settings of a value. -/
def SignerSettings.ofToml? (t : Toml) : Option SignerSettings := do
  let [path, password, attestorId] ←
    t.values? ["keystore_path", "keystore_password", "attestor_id"] | none
  return {
    keystorePath := ← path >>= Toml.text?
    keystorePassword := ← Toml.orDefault Toml.text? "" password
    attestorId := ← attestorId >>= Toml.text? }

/-- How a chain is polled. -/
structure ChainSettings where
  /-- The chain. -/
  chainId : String
  /-- The address of its node. -/
  nodeAddress : String
  /-- The store that holds the commitments. -/
  store : String
  /-- What the keys of commitments start with. -/
  stem : String
  /-- The milliseconds between collections. -/
  pollInterval : UInt64
  /-- The milliseconds that a call may take. -/
  timeout : UInt64
  /-- How many claims are kept. -/
  historySize : UInt64
deriving DecidableEq

/-- The chain settings of a table. -/
def ChainSettings.ofToml? (t : Toml) (withHistory : Bool) : Option ChainSettings :=
  match t with
  | .table _ entries => do
    let value (key : String) := Toml.find? key entries
    return {
      chainId := ← value "chain_id" >>= Toml.text?
      nodeAddress := ← value "rpc_url" >>= Toml.text?
      store := ← Toml.orDefault Toml.text? "ibc" (value "store_prefix")
      stem := ← Toml.orDefault Toml.text? "commitments/" (value "commitment_prefix")
      pollInterval := ← Toml.orDefault Toml.word? 5000 (value "poll_interval_ms")
      timeout := ← Toml.orDefault Toml.word? 3000 (value "timeout_ms")
      historySize :=
        ← Toml.orDefault Toml.word? 100 (if withHistory then value "history_size" else none) }
  | _ => none

/-- Fails with a defect unless a condition holds. -/
def ensure (condition : Bool) (defect : SettingsDefect) : Except SettingsDefect Unit :=
  if condition then .ok () else .error defect

/-- Checks chains one after the other; `check` sees the ids of the chains before. -/
def checkChains (check : List String → ChainSettings → Except SettingsDefect Unit) :
    (seen : List String) → List ChainSettings → Except SettingsDefect Unit
  | _, [] => .ok ()
  | seen, c :: rest => do
    check seen c
    checkChains check (c.chainId :: seen) rest

/-! ### The attesting service -/

/-- The settings of the attesting service. -/
structure AttestingSettings where
  /-- Where it listens. -/
  server : ServerSettings
  /-- Where its key is kept. -/
  signer : SignerSettings
  /-- The chains it attests. -/
  chains : List ChainSettings
deriving DecidableEq

namespace AttestingSettings

/-- The settings that a document holds. -/
def ofToml? (t : Toml) : Option AttestingSettings := do
  let [server, signer, chains] ← t.values? ["server", "signer", "chains"] | none
  return {
    server := ← server >>= (ServerSettings.ofToml? · true)
    signer := ← signer >>= SignerSettings.ofToml?
    chains := ← chains >>= Toml.items? >>= List.mapM (ChainSettings.ofToml? · true) }

/-- Checks a chain behind those of some ids. -/
def checkChain (seen : List String) (c : ChainSettings) : Except SettingsDefect Unit := do
  ensure (c.chainId ≠ "") .noChainId
  ensure (c.nodeAddress ≠ "") (.noNodeAddress c.chainId)
  ensure (100 ≤ c.pollInterval && c.pollInterval ≤ 600000)
    (.outside c.chainId "poll_interval_ms" 100 600000)
  ensure (100 ≤ c.timeout && c.timeout ≤ 60000) (.outside c.chainId "timeout_ms" 100 60000)
  ensure (0 < c.historySize) (.noHistory c.chainId)
  ensure (!seen.contains c.chainId) (.twice c.chainId)

/-- Checks that the signer and at least one chain are given, and the chains. -/
def validate (s : AttestingSettings) : Except SettingsDefect Unit := do
  ensure (s.signer.attestorId ≠ "") .noAttestorId
  ensure (s.signer.keystorePath ≠ "") .noKeystore
  ensure (!s.chains.isEmpty) .noChains
  checkChains checkChain [] s.chains

end AttestingSettings

/-! ### The proving service -/

/-- The settings of the proving service. -/
structure ProvingSettings where
  /-- Where it listens. -/
  server : ServerSettings
  /-- The chains it proves. -/
  chains : List ChainSettings
deriving DecidableEq

namespace ProvingSettings

/-- The settings that a document holds. -/
def ofToml? (t : Toml) : Option ProvingSettings := do
  let [server, chains] ← t.values? ["server", "chains"] | none
  return {
    server := ← server >>= (ServerSettings.ofToml? · false)
    chains := ← chains >>= Toml.items? >>= List.mapM (ChainSettings.ofToml? · false) }

/-- Checks a chain behind those of some ids. -/
def checkChain (seen : List String) (c : ChainSettings) : Except SettingsDefect Unit := do
  ensure (!seen.contains c.chainId) (.twice c.chainId)
  ensure (100 ≤ c.pollInterval) (.below c.chainId "poll_interval_ms" 100)
  ensure (100 ≤ c.timeout) (.below c.chainId "timeout_ms" 100)

/-- Checks that at least one chain is given, and the chains. -/
def validate (s : ProvingSettings) : Except SettingsDefect Unit := do
  ensure (!s.chains.isEmpty) .noChains
  checkChains checkChain [] s.chains

end ProvingSettings

/-! ### Files -/

/-- The settings in a file, which may be missing. -/
def settingsOfFile {σ : Type} (ofToml? : Toml → Option σ)
    (validate : σ → Except SettingsDefect Unit) (file : Option Bytes) : Except SettingsError σ :=
  match file >>= Bytes.toText? with
  | none => .error .unreadable
  | some text =>
    match Toml.ofText? text >>= ofToml? with
    | none => .error .malformed
    | some settings =>
      match validate settings with
      | .ok () => .ok settings
      | .error defect => .error (.invalid defect)

/-- The settings of the attesting service in a file. -/
def AttestingSettings.ofFile : Option Bytes → Except SettingsError AttestingSettings :=
  settingsOfFile ofToml? validate

/-- The settings of the proving service in a file. -/
def ProvingSettings.ofFile : Option Bytes → Except SettingsError ProvingSettings :=
  settingsOfFile ofToml? validate

end Attestation

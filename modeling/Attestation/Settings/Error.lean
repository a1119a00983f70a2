/-!
# Why settings are refused

The file of the settings cannot be read, does not spell settings, or spells settings that make no
sense.
-/

namespace Attestation

/-- What makes no sense about settings. -/
inductive SettingsDefect where
  | noAttestorId
  | noKeystore
  | noChains
  | noChainId
  | noNodeAddress (chainId : String)
  /-- The number under a key is outside a range. -/
  | outside (chainId key : String) (low high : Nat)
  /-- The number under a key is too small. -/
  | below (chainId key : String) (low : Nat)
  | noHistory (chainId : String)
  /-- Two chains have one id. -/
  | twice (chainId : String)
deriving DecidableEq

/-- What the defect is, in words. -/
def SettingsDefect.reason : SettingsDefect → String
  | noAttestorId => "signer.attestor_id must be set"
  | noKeystore => "signer.keystore_path must be set"
  | noChains => "at least one chain must be configured"
  | noChainId => "chain_id must be set"
  | noNodeAddress chainId => s!"chain `{chainId}` has no rpc_url"
  | outside chainId key low high => s!"chain `{chainId}` {key} must be within {low}..={high}"
  | below chainId key low => s!"chain `{chainId}` {key} must be at least {low}"
  | noHistory chainId => s!"chain `{chainId}` history_size must be positive"
  | twice chainId => s!"chain `{chainId}` is configured twice"

/-- Why settings are refused. -/
inductive SettingsError where
  /-- There is no such file, or it holds no text. -/
  | unreadable
  /-- The file is no document, or lacks a value, or has a value of another type. -/
  | malformed
  | invalid (defect : SettingsDefect)
deriving DecidableEq

/-- The text of the error. -/
def SettingsError.message : SettingsError → String
  | unreadable => "settings cannot be read"
  | malformed => "invalid TOML in config"
  | invalid defect => s!"invalid config: {defect.reason}"

end Attestation

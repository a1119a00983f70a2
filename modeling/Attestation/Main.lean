import Attestation.Registry.Basic
import Attestation.Service.Routes
import Attestation.Settings.Basic
import Attestation.Settings.CommandLine
import Attestation.Source.Node
import Attestation.Source.NodeAddress

/-!
# The command line

The first word names the service, `attestor` or `prover`, and the words behind it are a command
line of that service. The settings it names are read and checked, and the chains are told, or the
reason why the settings are refused.
-/

open Attestation

/-- The content of a file, if it can be read. -/
def readFile? (path : String) : IO (Option Bytes) := do
  try
    return some (← IO.FS.readBinFile path).data.toList
  catch _ =>
    return none

/-- Tells the chains of settings, or why the settings are refused. -/
def report {σ : Type} (chains : σ → List ChainSettings) (settings : Except SettingsError σ) :
    IO UInt32 := do
  match settings with
  | .ok settings =>
    for chain in chains settings do
      IO.println s!"{chain.chainId} {chain.nodeAddress}"
    return 0
  | .error e =>
    IO.eprintln e.message
    return 1

/-- Says that a command line is not understood. -/
def refuse : IO UInt32 := do
  IO.eprintln "usage: (attestor | prover) server --config FILE"
  return 2

/-- Runs a command line. -/
def main (words : List String) : IO UInt32 := do
  match words with
  | "attestor" :: words =>
    match CommandLine.AttestingCommand.ofWords words with
    | .ok (.server config) =>
      report AttestingSettings.chains (AttestingSettings.ofFile (← readFile? config))
    | _ => refuse
  | "prover" :: words =>
    match CommandLine.ProvingCommand.ofWords words with
    | .ok command =>
      report ProvingSettings.chains (ProvingSettings.ofFile (← readFile? command.config))
    | .error _ => refuse
  | _ => refuse

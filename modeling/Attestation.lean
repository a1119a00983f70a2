import Attestation.Address
import Attestation.Bisection
import Attestation.Bytes
import Attestation.Claim
import Attestation.Client.Aggregate
import Attestation.Client.AttestorSet
import Attestation.Client.Basic
import Attestation.Client.Error
import Attestation.Client.Membership
import Attestation.Client.QuorumPolicy
import Attestation.Client.State
import Attestation.Client.Tally
import Attestation.Collector.Claims
import Attestation.Collector.History
import Attestation.Collector.Keystore
import Attestation.Collector.Proofs
import Attestation.Collector.Signer
import Attestation.ErrorCategory
import Attestation.Hash.Keccak
import Attestation.Hash.Sha256
import Attestation.HostName.Basic
import Attestation.HostName.CodeSet
import Attestation.HostName.CombiningClass
import Attestation.HostName.Composition
import Attestation.HostName.Direction
import Attestation.HostName.Folding
import Attestation.HostName.FoldingTable
import Attestation.HostName.Joining
import Attestation.HostName.Punycode
import Attestation.Main
import Attestation.Merkle.AuditPath
import Attestation.Merkle.Proof
import Attestation.Merkle.Tree
import Attestation.OrderedMap
import Attestation.Packet
import Attestation.Proofs.Bytes
import Attestation.Proofs.Client.Agreement
import Attestation.Proofs.Client.Freezing
import Attestation.Proofs.Client.Head
import Attestation.Proofs.Client.InPlace
import Attestation.Proofs.Client.Invariant
import Attestation.Proofs.Client.Lifecycle
import Attestation.Proofs.Client.Membership
import Attestation.Proofs.Client.Misbehaviour
import Attestation.Proofs.Client.MoreClaims
import Attestation.Proofs.Client.Refusal
import Attestation.Proofs.Client.Registration
import Attestation.Proofs.Client.Replay
import Attestation.Proofs.Client.Retention
import Attestation.Proofs.Client.Safety
import Attestation.Proofs.Client.SameClaims
import Attestation.Proofs.Client.Signers
import Attestation.Proofs.Client.Support
import Attestation.Proofs.Client.Tally
import Attestation.Proofs.Client.Unanimity
import Attestation.Proofs.Client.Update
import Attestation.Proofs.Client.Verdict
import Attestation.Proofs.Client.Weight
import Attestation.Proofs.Collector.Bundles
import Attestation.Proofs.Collector.Consistency
import Attestation.Proofs.Collector.History
import Attestation.Proofs.Collector.Records
import Attestation.Proofs.Collector.Serving
import Attestation.Proofs.Except
import Attestation.Proofs.InPlace
import Attestation.Proofs.Merkle.Binding
import Attestation.Proofs.Merkle.Completeness
import Attestation.Proofs.Merkle.Lengths
import Attestation.Proofs.Merkle.Listing
import Attestation.Proofs.Merkle.Messages
import Attestation.Proofs.Merkle.Sides
import Attestation.Proofs.Merkle.Soundness
import Attestation.Proofs.Merkle.Splitting
import Attestation.Proofs.Pipeline
import Attestation.Proofs.Registry.Calls
import Attestation.Proofs.Registry.InPlace
import Attestation.Proofs.Registry.Keys
import Attestation.Proofs.Registry.Refinement
import Attestation.Proofs.Registry.Saving
import Attestation.Proofs.Registry.Scanning
import Attestation.Proofs.Registry.Storage
import Attestation.Proofs.Snapshot
import Attestation.Proofs.Wire.Binary
import Attestation.Proofs.Wire.Canonical
import Attestation.Proofs.Wire.Checked
import Attestation.Proofs.Wire.Drafts
import Attestation.Proofs.Wire.Map
import Attestation.Proofs.Wire.Messages
import Attestation.Proofs.Wire.RoundTrip
import Attestation.Proofs.Wire.Text
import Attestation.Proofs.Wire.Tokens
import Attestation.Registry.Basic
import Attestation.Registry.Store
import Attestation.Service.Attesting
import Attestation.Service.Http
import Attestation.Service.Metrics
import Attestation.Service.Polling
import Attestation.Service.Proving
import Attestation.Service.Routes
import Attestation.Settings.Basic
import Attestation.Settings.CommandLine
import Attestation.Settings.Error
import Attestation.Settings.LogLevel
import Attestation.Settings.Toml.Basic
import Attestation.Settings.Toml.Reader
import Attestation.Settings.Toml.Scalar
import Attestation.Signature.Curve
import Attestation.Signature.Ecdsa
import Attestation.Snapshot
import Attestation.Source.BlockTime
import Attestation.Source.Error
import Attestation.Source.Listing
import Attestation.Source.Node
import Attestation.Source.NodeAddress
import Attestation.Source.Observation
import Attestation.Source.Protobuf
import Attestation.Source.Simulated
import Attestation.Text.Double
import Attestation.Text.Lossy
import Attestation.Text.Numeral
import Attestation.Text.Percent
import Attestation.Wire.DecodeError
import Attestation.Wire.Format
import Attestation.Wire.Json
import Attestation.Wire.Messages
import Attestation.Wire.Refusal
import Attestation.Word

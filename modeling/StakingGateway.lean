import StakingGateway.Main
import StakingGateway.Operation.Emitter
import StakingGateway.Node.Script
import StakingGateway.Node.Endpoint
import StakingGateway.Proofs.Bytes.Bech32
import StakingGateway.Proofs.Bytes.Text
import StakingGateway.Proofs.Bytes.Bech32.Spelling
import StakingGateway.Proofs.Address
import StakingGateway.Proofs.Address.Spelling
import StakingGateway.Proofs.Cbor.Record
import StakingGateway.Proofs.Cbor.Canonical
import StakingGateway.Proofs.Cbor.Nesting
import StakingGateway.Proofs.Quantity
import StakingGateway.Proofs.Transaction.Basic
import StakingGateway.Proofs.Transaction.Envelope
import StakingGateway.Proofs.Transaction.Wire
import StakingGateway.Proofs.Operation.Numbering
import StakingGateway.Proofs.Operation.Description
import StakingGateway.Proofs.Operation.Grammar
import StakingGateway.Proofs.Operation.RoundTrip
import StakingGateway.Proofs.Operation.Ledger
import StakingGateway.Proofs.Operation.Reproduction
import StakingGateway.Proofs.Operation.Spelling
import StakingGateway.Proofs.Stateful
import StakingGateway.Proofs.Node.Exchange
import StakingGateway.Proofs.Node.Interleaving
import StakingGateway.Proofs.Node.ConnectionSafety
import StakingGateway.Proofs.Gateway.Basic
import StakingGateway.Proofs.Gateway.Construction
import StakingGateway.Proofs.Gateway.Signing
import StakingGateway.Proofs.Gateway.Rebuilding
import StakingGateway.Proofs.Gateway.Snapshot
import StakingGateway.Proofs.Replay.Contents
import StakingGateway.Proofs.Replay.Index
import StakingGateway.Proofs.Replay.Run
import StakingGateway.Proofs.Replay.Invariant
import StakingGateway.Proofs.Replay.Rows
import StakingGateway.Proofs.Replay.Outcome
import StakingGateway.Proofs.Replay.Independence
import StakingGateway.Proofs.Replay.Accounting
import StakingGateway.Proofs.Replay.Origin
import StakingGateway.Proofs.Gateway.Submission
import StakingGateway.Proofs.Gateway.Admission
import StakingGateway.Proofs.Gateway.Guarding
import StakingGateway.Proofs.Gateway.Offline
import StakingGateway.Proofs.Node.Blocks
import StakingGateway.Proofs.Gateway.Height
import StakingGateway.Proofs.Replay.FailedFee
import StakingGateway.Proofs.Gateway.Reencoding
import StakingGateway.Proofs.Gateway.Mempool
import StakingGateway.Proofs.Double
import StakingGateway.Proofs.Operation.Gas
import StakingGateway.Proofs.Operation.Emitter
import StakingGateway.Proofs.Quantity.Bytes
import StakingGateway.Proofs.Quantity.Decimal
import StakingGateway.Proofs.Gateway.Escrow
import StakingGateway.Proofs.Gateway.Bounds
import StakingGateway.Proofs.Node.Wire
import StakingGateway.Proofs.Json.Rearrangement
import StakingGateway.Proofs.Json.Faithful
import StakingGateway.Proofs.Json.Strings
import StakingGateway.Proofs.Json.Text
import StakingGateway.Proofs.Api.Faithful
import StakingGateway.Proofs.Operation.Plain
import StakingGateway.Proofs.Gateway.Resending

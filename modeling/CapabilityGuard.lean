import CapabilityGuard.Octets.Basic
import CapabilityGuard.Octets.BigEndian
import CapabilityGuard.Text.Digit
import CapabilityGuard.Octets.Lemmas
import CapabilityGuard.Octets.Hex
import CapabilityGuard.Wire.Error
import CapabilityGuard.Wire.Format
import CapabilityGuard.Wire.Text
import CapabilityGuard.Identifiers
import CapabilityGuard.UidSet
import CapabilityGuard.UidSet.Action
import CapabilityGuard.Key.Basic
import CapabilityGuard.Key.Source
import CapabilityGuard.Mac.Blake3
import CapabilityGuard.Mac.Basic
import CapabilityGuard.Token.Capability
import CapabilityGuard.Token.Credential
import CapabilityGuard.Token.Lemmas
import CapabilityGuard.Message.Request
import CapabilityGuard.Message.Reply
import CapabilityGuard.Store.Error
import CapabilityGuard.Store.Basic
import CapabilityGuard.Store.Backend
import CapabilityGuard.Store.Action
import CapabilityGuard.Guard
import CapabilityGuard.Server
import CapabilityGuard.Transport.Basic
import CapabilityGuard.Transport.Direct
import CapabilityGuard.Transport.Scripted
import CapabilityGuard.Json.Value
import CapabilityGuard.Json.Form
import CapabilityGuard.Json.Records
import CapabilityGuard.Toml.Value
import CapabilityGuard.Toml.Text
import CapabilityGuard.Toml.Scalar
import CapabilityGuard.Toml.Document
import CapabilityGuard.Settings.LogLevel
import CapabilityGuard.Settings.Basic
import CapabilityGuard.Proofs.Message.Fields
import CapabilityGuard.Proofs.Message.Spelling
import CapabilityGuard.Proofs.Wire.Text
import CapabilityGuard.Proofs.Message.Reply
import CapabilityGuard.Proofs.Guard.Demand
import CapabilityGuard.Proofs.Store.Frame
import CapabilityGuard.Proofs.Store.History
import CapabilityGuard.Server.Event
import CapabilityGuard.Proofs.Server.Isolation
import CapabilityGuard.Proofs.Store.Serial
import CapabilityGuard.Proofs.UidSet.Members
import CapabilityGuard.Proofs.Store.Lookup
import CapabilityGuard.Proofs.Store.Content
import CapabilityGuard.Proofs.Guard.Exchange
import CapabilityGuard.Proofs.Guard.Errand
import CapabilityGuard.Proofs.Server.Decision
import CapabilityGuard.Proofs.Server.Silence
import CapabilityGuard.Proofs.Store.Refusal
import CapabilityGuard.Proofs.Transport.Conclusion
import CapabilityGuard.Proofs.Transport.Direct
import CapabilityGuard.Proofs.Server.Effect
import CapabilityGuard.Proofs.Server.Bootstrap
import CapabilityGuard.Proofs.UidSet.Order
import CapabilityGuard.Proofs.Server.Distinct
import CapabilityGuard.Proofs.Store.Edit
import CapabilityGuard.Proofs.Server.Edits
import CapabilityGuard.Proofs.Server.Retry
import CapabilityGuard.Proofs.Store.Txns
import CapabilityGuard.Proofs.Store.Commit
import CapabilityGuard.Proofs.Store.Commute
import CapabilityGuard.Proofs.Wire.Stable
import CapabilityGuard.Proofs.Message.Truncation
import CapabilityGuard.Proofs.Wire.Shortfall
import CapabilityGuard.Proofs.Token.Tamper
import CapabilityGuard.Proofs.Server.Batch
import CapabilityGuard.Proofs.Wire.Defects
import CapabilityGuard.Proofs.Text.Digit
import CapabilityGuard.Proofs.Octets.Hex
import CapabilityGuard.Proofs.Wire.Counted
import CapabilityGuard.Proofs.Message.Elements
import CapabilityGuard.Proofs.UidSet.Refinement
import CapabilityGuard.Proofs.Message.Width
import CapabilityGuard.Proofs.Key.Hex
import CapabilityGuard.Proofs.Store.Message
import CapabilityGuard.Proofs.Transport.Cause
import CapabilityGuard.Proofs.UidSet.Collapse

import CentralSystem.Config.Format
import CentralSystem.Event.Bus
import CentralSystem.Handshake
import CentralSystem.Hub
import CentralSystem.Main
import CentralSystem.Timer
import CentralSystem.Proofs.Registry
import CentralSystem.Proofs.Ledger.Change
import CentralSystem.Proofs.Ledger.Answer
import CentralSystem.Proofs.Plant
import CentralSystem.Proofs.Ledger.Backed
import CentralSystem.Proofs.Ledger.Load
import CentralSystem.Proofs.Run
import CentralSystem.Proofs.Mirror
import CentralSystem.Proofs.Tiers
import CentralSystem.Proofs.Ledger.Alike
import CentralSystem.Proofs.Ledger.Simulation
import CentralSystem.Proofs.Switchboard
import CentralSystem.Proofs.Restart
import CentralSystem.Proofs.Ledger.Course
import CentralSystem.Proofs.Service
import CentralSystem.Proofs.Json.Text
import CentralSystem.Proofs.Decimal
import CentralSystem.Proofs.Frame
import CentralSystem.Proofs.Message.Call
import CentralSystem.Proofs.Answering
import CentralSystem.Proofs.Numbering
import CentralSystem.Proofs.Watch
import CentralSystem.Proofs.Profile
import CentralSystem.Proofs.Errands
import CentralSystem.Proofs.Commands
import CentralSystem.Proofs.Sessions
import CentralSystem.Proofs.Isolation
import CentralSystem.Proofs.Commutation
import CentralSystem.Proofs.Ledger.Bounds
import CentralSystem.Proofs.Bounds
import CentralSystem.Proofs.Details
import CentralSystem.Proofs.Calls
import CentralSystem.Proofs.Confirmation
import CentralSystem.Proofs.Sharing
import CentralSystem.Proofs.Ledger.Closing
import CentralSystem.Proofs.Ledger.Refusal
import CentralSystem.Proofs.Ledger.Links
import CentralSystem.Proofs.Freeing
import CentralSystem.Proofs.Ledger.Opening
import CentralSystem.Proofs.Ledger.FirstId
import CentralSystem.Proofs.Frame.Grammar
import CentralSystem.Proofs.Authorization
import CentralSystem.Proofs.Samples
import CentralSystem.Proofs.Config
import CentralSystem.Proofs.Message.Blame
import CentralSystem.Proofs.Path
import CentralSystem.Proofs.Total
import CentralSystem.Proofs.Negotiation
import CentralSystem.Proofs.Event.Bus
import CentralSystem.Proofs.Polling

import Waystation.Config.Loader
import Waystation.Hook.Script
import Waystation.Log.Filter
import Waystation.Runner.Basic
import Waystation.Proofs.Broker.Isolation
import Waystation.Proofs.Correlation.Slots
import Waystation.Proofs.Envelope.Faithful
import Waystation.Proofs.Envelope.Framing
import Waystation.Proofs.Envelope.Limits
import Waystation.Proofs.Messaging.Outcome
import Waystation.Proofs.Pipeline.Shape
import Waystation.Proofs.Pipeline.Correlated
import Waystation.Proofs.Runner.Handlers
import Waystation.Proofs.Runner.Correlation
import Waystation.Proofs.Runner.Responses
import Waystation.Proofs.Runner.Cancellation
import Waystation.Proofs.Correlation.Standing
import Waystation.Proofs.Broker.Departures
import Waystation.Proofs.Runner.Waiters
import Waystation.Proofs.Subscriber.Order
import Waystation.Proofs.Broker.Ledger
import Waystation.Proofs.Config.Loading
import Waystation.Proofs.Config.Overriding
import Waystation.Proofs.Config.Sources
import Waystation.Proofs.Settings.Shadowing
import Waystation.Proofs.Runner.Seeding
import Waystation.Proofs.Subject.Matching
import Waystation.Proofs.Text.Trimming
import Waystation.Proofs.Broker.Refusals
import Waystation.Proofs.Broker.Rotation
import Waystation.Proofs.Subject.DurableName

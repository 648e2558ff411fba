import SubscriptionGateway.Execution.Script
import SubscriptionGateway.Main
import SubscriptionGateway.Proofs.Execution.Interceptors
import SubscriptionGateway.Proofs.Greeting.Documents
import SubscriptionGateway.Proofs.Json.Overlay
import SubscriptionGateway.Proofs.Operation.Callers
import SubscriptionGateway.Proofs.Operation.Stretch
import SubscriptionGateway.Proofs.Outbound.Closing
import SubscriptionGateway.Proofs.Server.Drain
import SubscriptionGateway.Proofs.Server.Shutdown
import SubscriptionGateway.Proofs.Server.Startup
import SubscriptionGateway.Proofs.Server.Wakeups
import SubscriptionGateway.Proofs.Session.CloseText
import SubscriptionGateway.Proofs.Session.KeepAlive
import SubscriptionGateway.Proofs.Session.OperationMessages
import SubscriptionGateway.Proofs.Session.Overflow
import SubscriptionGateway.Proofs.Session.Reuse
import SubscriptionGateway.Proofs.Settings.Overrides
import SubscriptionGateway.Proofs.Wire.Classification
import SubscriptionGateway.Server.Address
import SubscriptionGateway.Server.Rehearsal
import SubscriptionGateway.Transport.Channel

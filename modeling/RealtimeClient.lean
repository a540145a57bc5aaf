import RealtimeClient.Main
import RealtimeClient.Transport.Faulty
import RealtimeClient.Proofs.Codec.Attachments
import RealtimeClient.Proofs.Codec.Reencoding
import RealtimeClient.Proofs.Codec.Connecting
import RealtimeClient.Proofs.Codec.Namespaces
import RealtimeClient.Proofs.Engine.Closing
import RealtimeClient.Proofs.Engine.Sessions
import RealtimeClient.Proofs.Engine.Retries
import RealtimeClient.Proofs.Engine.TimerUse
import RealtimeClient.Proofs.Engine.Faults
import RealtimeClient.Proofs.Socket.Emissions
import RealtimeClient.Proofs.Timers.Histories
import RealtimeClient.Proofs.Transport.Protocol
import RealtimeClient.Proofs.Client.Delivery
import RealtimeClient.Proofs.Client.Assembly
import RealtimeClient.Proofs.Client.Feedback
import RealtimeClient.Proofs.Client.Isolation
import RealtimeClient.Proofs.Client.Requests
import RealtimeClient.Proofs.Client.Shutdown
import RealtimeClient.Proofs.Client.Wire
import RealtimeClient.Proofs.Client.Gauges
import RealtimeClient.Proofs.Client.Overtaking
import RealtimeClient.Proofs.ReconnectPolicy
import RealtimeClient.Proofs.Request
import RealtimeClient.Proofs.Codec.Guarantees
import RealtimeClient.Proofs.Codec.Numbering
import RealtimeClient.Proofs.Codec.Substitution
import RealtimeClient.Proofs.Console.Line
import RealtimeClient.Proofs.Endpoint
import RealtimeClient.Proofs.Settings

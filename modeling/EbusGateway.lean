import EbusGateway.PassiveGaps
import EbusGateway.SessionStream
import EbusGateway.Mux.AbsorbBarrier
import EbusGateway.Mux.LatestIntent
import EbusGateway.Mux.ClientCancel
import EbusGateway.Mux.StartWaiters
import EbusGateway.Mux.OutcomeOrder
import EbusGateway.Reconstructor.Provenance
import EbusGateway.Shadow.Freshness
import EbusGateway.EscapePair.Safety
import EbusGateway.Semhub.Fencing
import EbusGateway.RuntimeState.Durability
import EbusGateway.RuntimeState.Isolation
import EbusGateway.DriverManager.Quarantine
import EbusGateway.B503.Gate
import EbusGateway.GenerationTasks.Fencing
import EbusGateway.EchoTracker.Lockstep
import EbusGateway.WirePhase.Bound
import EbusGateway.WirePhase.Telegram
import EbusGateway.Arbitration.Selection
import EbusGateway.Mux.RegrantFence
import EbusGateway.BroadcastHub.Fanout
import EbusGateway.SemanticOperations.Replays
import EbusGateway.EbusControl.Handover
import EbusGateway.BroadcastSupervisor
import EbusGateway.PassiveTap
import EbusGateway.Shadow.CircuitBreaker
import EbusGateway.Shadow.SingleFlight
import EbusGateway.Semhub.Subscription
import EbusGateway.Shadow.Compaction
import EbusGateway.Shadow.Precedence
import EbusGateway.RuntimeControl.Events
import EbusGateway.RuntimeState.Revalidation
import EbusGateway.RuntimeState.Slots
import EbusGateway.CumulativeCounter
import EbusGateway.EchoWatchdog
import EbusGateway.OutputCadence

import RadioLink.Link.Faulty
import RadioLink.Link.ScriptedBoard
import RadioLink.Link.Traced
import RadioLink.Main
import RadioLink.Proofs.Delivery.Commands
import RadioLink.Proofs.Delivery.Events
import RadioLink.Proofs.Delivery.Turns
import RadioLink.Proofs.Frame.Encoding
import RadioLink.Proofs.Frame.QueueRuns
import RadioLink.Proofs.Json.RoundTrip
import RadioLink.Proofs.Link.Accesses
import RadioLink.Proofs.Link.Refinement
import RadioLink.Proofs.Link.Settling
import RadioLink.Proofs.Link.Simulation
import RadioLink.Proofs.Radio.Chronicle
import RadioLink.Proofs.Radio.Counters
import RadioLink.Proofs.Radio.Cycle
import RadioLink.Proofs.Radio.Drain
import RadioLink.Proofs.Radio.RoundTrip
import RadioLink.Proofs.Radio.StaleStorage
import RadioLink.Proofs.Shared.Commands
import RadioLink.Proofs.Shared.Edges
import RadioLink.Proofs.Shared.Release
import RadioLink.Proofs.Shared.Serial
import RadioLink.Proofs.Simulation.Outcome
import RadioLink.Proofs.Simulation.Progress
import RadioLink.Proofs.Text.HexRoundTrip
import RadioLink.Proofs.Transfer.Calls
import RadioLink.Proofs.Transport.Backpressure
import RadioLink.Proofs.Transport.FailedOperations
import RadioLink.Proofs.Transport.LostRequest
import RadioLink.Proofs.Transport.Overflow
import RadioLink.Proofs.Transport.Recovery
import RadioLink.Proofs.Transport.RequestLevel
import RadioLink.Proofs.Transport.RestingPhase
import RadioLink.Proofs.Transport.Statistics
import RadioLink.Proofs.Transport.StoredEvents
import RadioLink.Shared.History

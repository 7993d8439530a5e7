import Sinkhole.Config.Reader
import Sinkhole.Rules.LinearScan
import Sinkhole.Simulation.EngineRun
import Sinkhole.Tunnel.Descriptor
import Sinkhole.Proofs.Proxy.Decision
import Sinkhole.Proofs.Rules.Normal
import Sinkhole.Proofs.Rules.PlainPattern
import Sinkhole.Proofs.Cache.Decisions
import Sinkhole.Proofs.Proxy.BlockedNames
import Sinkhole.Proofs.Proxy.Questions
import Sinkhole.Proofs.Session.Run
import Sinkhole.Proofs.Session.Ledger
import Sinkhole.Proofs.Session.Correlation
import Sinkhole.Proofs.Tunnel.Mapping
import Sinkhole.Proofs.Proxy.Transports
import Sinkhole.Proofs.Forwarding.Fates
import Sinkhole.Proofs.Forwarding.Callbacks
import Sinkhole.Proofs.Lifecycle.Statuses
import Sinkhole.Proofs.Lifecycle.Stopping
import Sinkhole.Proofs.Lifecycle.Networks
import Sinkhole.Proofs.Lifecycle.Endurance
import Sinkhole.Proofs.Lifecycle.Hearing
import Sinkhole.Proofs.Lifecycle.Disturbances
import Sinkhole.Proofs.Lifecycle.Delivery
import Sinkhole.Proofs.Dns.Reading
import Sinkhole.Proofs.Lifecycle.Spacing
import Sinkhole.Proofs.Dns.Writing
import Sinkhole.Proofs.Dns.Carrying
import Sinkhole.Proofs.Dns.RoundTrip
import Sinkhole.Proofs.Proxy.LocalAnswers
import Sinkhole.Proofs.Cache.Transparency
import Sinkhole.Proofs.Config.Patterns
import Sinkhole.Proofs.Packet.Lengths
import Sinkhole.Proofs.Packet.Checksums
import Sinkhole.Proofs.Rules.Precedence
import Sinkhole.Proofs.Forwarding.Admission
import Sinkhole.Proofs.Forwarding.Scratch
import Sinkhole.Proofs.Packet.Truncation
import Sinkhole.Proofs.Packet.Trailer
import Sinkhole.Proofs.Lifecycle.Backoff
import Sinkhole.Proofs.Lifecycle.Idling
import Sinkhole.Proofs.Lifecycle.Cancelling
import Sinkhole.Proofs.Lifecycle.Polling
import Sinkhole.Proofs.Packet.Capacity
import Sinkhole.Proofs.Tunnel.Calls
import Sinkhole.Proofs.Tunnel.Finding
import Sinkhole.Proofs.Forwarding.Permits
import Sinkhole.Proofs.Cache.Logging
import Sinkhole.Proofs.Simulation.EngineRuns

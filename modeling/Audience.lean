import Audience.Broker
import Audience.Main
import Audience.Proofs.Covering
import Audience.Proofs.Levels
import Audience.Proofs.SoundLedger
import Audience.Proofs.Turns
import Audience.Proofs.History
import Audience.Proofs.Upkeep
import Audience.Proofs.Run
import Audience.Proofs.Watching
import Audience.Proofs.Counts
import Audience.Proofs.Transitions
import Audience.Proofs.Retention
import Audience.Proofs.Promptness
import Audience.Proofs.Answers
import Audience.Proofs.Stopping
import Audience.Proofs.BrokerRun
import Audience.Proofs.Clients
import Audience.Proofs.Gate
import Audience.Proofs.Documents
import Audience.Proofs.Layering
import Audience.Proofs.Agreement
import Audience.Proofs.Paths
import Audience.Proofs.Precedence
import Audience.Proofs.Accepted
import Audience.Proofs.Replays
import Audience.Proofs.Scripts
import Audience.Proofs.Cadence
import Audience.Proofs.Moments
import Audience.Proofs.Repeats
import Audience.Proofs.Consulted
import Audience.Proofs.Templates
import Audience.Proofs.Interchange
import Audience.Proofs.Closing
import Audience.Proofs.Grammar
import Audience.Proofs.Names
import Audience.Proofs.Sweeping
import Audience.Proofs.Addresses
import Audience.Proofs.CatchingUp
import Audience.Proofs.Lines
import Audience.Proofs.Commands
import Audience.Proofs.Rounding
import Audience.Proofs.Spans
import Audience.Proofs.Leaves
import Audience.Proofs.Reporting
import Audience.Proofs.Fanout
import Audience.Proofs.IdleMarks

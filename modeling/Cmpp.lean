import Cmpp.Proofs.Receiving
import Cmpp.Proofs.Senders
import Cmpp.Scenario.Pair
import Cmpp.Proofs.Sizes
import Cmpp.Proofs.Streams
import Cmpp.Proofs.Calls
import Cmpp.Proofs.Turns
import Cmpp.Proofs.Completion
import Cmpp.Proofs.Intake
import Cmpp.Proofs.Receivers
import Cmpp.Proofs.Isolation
import Cmpp.Proofs.Link
import Cmpp.Proofs.Posting
import Cmpp.Proofs.Delivery
import Cmpp.Proofs.Outcomes
import Cmpp.Proofs.Closing
import Cmpp.Proofs.Shutdown
import Cmpp.Proofs.Recovery
import Cmpp.Proofs.Obliging
import Cmpp.Proofs.Progress
import Cmpp.Proofs.Comparison
import Cmpp.Proofs.Lifecycle
import Cmpp.Proofs.Numbering
import Cmpp.Proofs.Tenures
import Cmpp.Proofs.Mirrors
import Cmpp.Proofs.Directions
import Cmpp.Proofs.Duplex
import Cmpp.Proofs.Incremental
import Cmpp.Proofs.Truncation
import Cmpp.Proofs.Limits
import Cmpp.Proofs.Closer
import Cmpp.Proofs.Ceilings
import Cmpp.Proofs.TextFields
import Cmpp.Proofs.StatusReports
import Cmpp.Proofs.Remains
import Cmpp.Proofs.Effort
import Cmpp.Proofs.Tails
import Cmpp.Proofs.Dispatch
import Cmpp.Proofs.Watching
import Cmpp.Proofs.Habits

import Duet.Main
import Duet.Proofs.CommandLine.Assignment
import Duet.Proofs.Fault
import Duet.Proofs.Run.Accounting
import Duet.Proofs.Run.Confinement
import Duet.Proofs.Run.Indifference
import Duet.Proofs.Run.Injection
import Duet.Proofs.Run.Logging
import Duet.Proofs.Run.Precedence
import Duet.Proofs.Run.WholeLines
import Duet.Proofs.Sink.Delivery
import Duet.Proofs.Sink.Greetings
import Duet.Proofs.Sink.Sharing
import Duet.Proofs.Summary.Acceptance
import Duet.Proofs.Summary.Display
import Duet.Proofs.Summary.Exactness
import Duet.Proofs.Summary.RoundTrip
import Duet.Proofs.Summary.Status
import Duet.Proofs.Tool.ExitCode
import Duet.Proofs.Tool.Notices
import Duet.Proofs.Tool.Repetition
import Duet.Proofs.Tool.Reporting
import Duet.Proofs.Worker.Joining
import Duet.Summary.Reader
import Duet.Tool.Host
import Duet.Worker.Crew

import Turtle.Main
import Turtle.Program.Dictionary
import Turtle.Proofs.Abreast
import Turtle.Proofs.Accounts
import Turtle.Proofs.Attribution
import Turtle.Proofs.Cancellation
import Turtle.Proofs.CommandLines
import Turtle.Proofs.Costs
import Turtle.Proofs.ExitStatus
import Turtle.Proofs.Indentation
import Turtle.Proofs.Joining
import Turtle.Proofs.Refinement
import Turtle.Proofs.Rejections
import Turtle.Proofs.Replay
import Turtle.Proofs.RoundTrip
import Turtle.Proofs.Stopping
import Turtle.Proofs.Tickets
import Turtle.Proofs.Wakeups
import Turtle.Session.Basic
import Turtle.Proofs.LineByLine
import Turtle.Proofs.Announcements
import Turtle.Proofs.Observation
import Turtle.Proofs.Refusals
import Turtle.Proofs.Traces
import Turtle.Proofs.Nesting
import Turtle.Proofs.Renaming
import Turtle.Proofs.Invocations
import Turtle.Proofs.Path
import Turtle.Proofs.Portions
import Turtle.Proofs.Tracebacks
import Turtle.Proofs.Activations
import Turtle.Proofs.Heights
import Turtle.Proofs.Conversations
import Turtle.Proofs.Registries
import Turtle.Proofs.Respelling

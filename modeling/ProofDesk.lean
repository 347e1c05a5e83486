import ProofDesk.Main
import ProofDesk.Paths
import ProofDesk.Proofs.Agreement.Conversation
import ProofDesk.Proofs.Document.Counters
import ProofDesk.Proofs.Document.Exact
import ProofDesk.Proofs.Document.Extension
import ProofDesk.Proofs.Document.WholeText
import ProofDesk.Proofs.Json.Lines
import ProofDesk.Proofs.Markup.Followed
import ProofDesk.Proofs.Markup.RoundTrip
import ProofDesk.Proofs.Prover.Calls
import ProofDesk.Proofs.Prover.Delivery
import ProofDesk.Proofs.Prover.Replies
import ProofDesk.Proofs.Sentence.Tiling
import ProofDesk.Proofs.Session.Ambiguity
import ProofDesk.Proofs.Session.Blocking
import ProofDesk.Proofs.Session.Cancelled
import ProofDesk.Proofs.Session.Cursor
import ProofDesk.Proofs.Session.Faults
import ProofDesk.Proofs.Session.Goals
import ProofDesk.Proofs.Session.Highlights
import ProofDesk.Proofs.Session.Idle
import ProofDesk.Proofs.Session.Shifting
import ProofDesk.Proofs.Session.Soundness
import ProofDesk.Proofs.Session.Steering
import ProofDesk.Proofs.Session.Timeouts
import ProofDesk.Proofs.Text.Position
import ProofDesk.Proofs.Viewer.Latest
import ProofDesk.Proofs.Workspace.Focus
import ProofDesk.Proofs.Workspace.Notices
import ProofDesk.Viewer.Screen

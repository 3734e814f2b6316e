import StraightLine.Code.Machine
import StraightLine.Main
import StraightLine.Program.Meaning
import StraightLine.Proofs.Position
import StraightLine.Proofs.Text.Blank
import StraightLine.Proofs.Text.Words
import StraightLine.Proofs.Text.Lines
import StraightLine.Proofs.Text.Form
import StraightLine.Proofs.Token.Pattern
import StraightLine.Proofs.Token.Match
import StraightLine.Proofs.Token.Reading
import StraightLine.Proofs.Token.Partition
import StraightLine.Proofs.Token.Order
import StraightLine.Proofs.Token.Stepping
import StraightLine.Proofs.Token.Place
import StraightLine.Proofs.Token.Legal
import StraightLine.Proofs.Token.Spacing
import StraightLine.Proofs.Program.Relocation
import StraightLine.Proofs.Token.Joint
import StraightLine.Proofs.Program.Statement
import StraightLine.Proofs.Program.Grammar
import StraightLine.Proofs.Program.Violation
import StraightLine.Proofs.Program.Segment
import StraightLine.Proofs.Program.Recovery
import StraightLine.Proofs.Program.Location
import StraightLine.Proofs.Program.Slot
import StraightLine.Proofs.Program.Operation
import StraightLine.Proofs.Program.Execution
import StraightLine.Proofs.Symbol.Relocation
import StraightLine.Proofs.Symbol.Simulation
import StraightLine.Proofs.Symbol.Revision
import StraightLine.Proofs.Symbol.Index
import StraightLine.Proofs.Code.Lowering
import StraightLine.Proofs.Code.Listing
import StraightLine.Proofs.Code.Disturbance
import StraightLine.Proofs.Token.Reserved
import StraightLine.Proofs.Token.Longest
import StraightLine.Proofs.Token.Writing
import StraightLine.Proofs.Token.Checked
import StraightLine.Proofs.Report.Outcome
import StraightLine.Proofs.Report.Spacing
import StraightLine.Proofs.Report.Listing
import StraightLine.Proofs.Report.Lines
import StraightLine.Proofs.Report.Course
import StraightLine.Proofs.Report.Definedness
import StraightLine.Proofs.Code.Closing
import StraightLine.Proofs.Report.Closing
import StraightLine.Proofs.Report.Tree
import StraightLine.Proofs.Report.Tokens
import StraightLine.Proofs.Report.Trace
import StraightLine.Proofs.Report.Indentation
import StraightLine.Proofs.Session.Conversation
import StraightLine.Proofs.Command.Agreement
import StraightLine.Proofs.Command.Interruption

import PenScript.Block
import PenScript.Calc.Builtin
import PenScript.Calc.Datum
import PenScript.Calc.Eval
import PenScript.Calc.Fault
import PenScript.Calc.Node
import PenScript.Calc.Real
import PenScript.Calc.Token
import PenScript.Command.Basic
import PenScript.Command.Configure
import PenScript.Command.Error
import PenScript.Command.Name
import PenScript.Command.Params
import PenScript.Command.Prepare
import PenScript.Console.FileTree
import PenScript.Console.Options
import PenScript.Console.Run
import PenScript.Decimal.Binary
import PenScript.Decimal.Layout
import PenScript.Decimal.Read
import PenScript.Decimal.Shortest
import PenScript.Formula.Eval
import PenScript.Formula.Pieces
import PenScript.Formula.Reading
import PenScript.Keyword
import PenScript.Machine.Basic
import PenScript.Machine.Event
import PenScript.Machine.Execute
import PenScript.Machine.Stroke
import PenScript.Main
import PenScript.Paint
import PenScript.Program
import PenScript.Proofs.Accepted
import PenScript.Proofs.Atomic
import PenScript.Proofs.Attempt
import PenScript.Proofs.BlockTree
import PenScript.Proofs.Bookkeeping
import PenScript.Proofs.CallDiscipline
import PenScript.Proofs.CallStack
import PenScript.Proofs.Failure
import PenScript.Proofs.LoopEntry
import PenScript.Proofs.Matching
import PenScript.Proofs.Operations
import PenScript.Proofs.Prediction
import PenScript.Proofs.Rejected
import PenScript.Proofs.Resolver
import PenScript.Proofs.Steps
import PenScript.Proofs.StoreTypes
import PenScript.Proofs.Structured
import PenScript.Proofs.Transition
import PenScript.Proofs.Writes
import PenScript.Report
import PenScript.Script.Error
import PenScript.Script.Line
import PenScript.Script.Session
import PenScript.Store
import PenScript.Text.Alphabetic
import PenScript.Text.Blank
import PenScript.Text.Case
import PenScript.Text.CaseIgnorable
import PenScript.Text.CaseShift
import PenScript.Text.Cased
import PenScript.Text.CodeRange
import PenScript.Text.Extending
import PenScript.Text.Integer
import PenScript.Text.Letter
import PenScript.Text.LowerShifts
import PenScript.Text.Numeric
import PenScript.Text.Quoted
import PenScript.Text.Unprintable
import PenScript.Text.UpperShifts
import PenScript.Value.Basic
import PenScript.Value.Cells
import PenScript.Value.Convert
import PenScript.Value.Error
import PenScript.Value.Type
import PenScript.Proofs.StoreTyping
import PenScript.Proofs.LineText
import PenScript.Proofs.Listing
import PenScript.Proofs.Limit
import PenScript.Proofs.History
import PenScript.Proofs.BlockSearch
import PenScript.Proofs.Frame
import PenScript.Proofs.Counter
import PenScript.Proofs.Reentry
import PenScript.Proofs.Rounds
import PenScript.Proofs.RunningLoops
import PenScript.Proofs.Literals
import PenScript.Proofs.Pieces
import PenScript.Proofs.Scanning
import PenScript.Proofs.Copying
import PenScript.Proofs.Substitution
import PenScript.Proofs.LoopExit
import PenScript.Proofs.NormalForm
import PenScript.Proofs.Harmless
import PenScript.Proofs.Spacing
import PenScript.Proofs.Strokes
import PenScript.Proofs.Footprint
import PenScript.Proofs.Cutting
import PenScript.Proofs.Parameters
import PenScript.Proofs.PlainNumbers
import PenScript.Proofs.Assignments
import PenScript.Proofs.StoreLaws

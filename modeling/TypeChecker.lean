import TypeChecker.Config.Settings
import TypeChecker.Edit.Tracker
import TypeChecker.Report
import TypeChecker.Proofs.Binding.Exports
import TypeChecker.Proofs.Binding.Jumps
import TypeChecker.Proofs.Condition.Version
import TypeChecker.Proofs.Config.Complaints
import TypeChecker.Proofs.Diagnostic.Sink
import TypeChecker.Proofs.Docstring.Blocks
import TypeChecker.Proofs.Edit.ImportSort
import TypeChecker.Proofs.Edit.NameDeletion
import TypeChecker.Proofs.Infer.Aliases
import TypeChecker.Proofs.Message.Templates
import TypeChecker.Proofs.Token.Iterations
import TypeChecker.Proofs.Token.Lines
import TypeChecker.Proofs.Token.CarriageReturns
import TypeChecker.Proofs.Token.Values
import TypeChecker.Proofs.Parser.Captures
import TypeChecker.Proofs.Path.Pattern
import TypeChecker.Proofs.Types.Linearization
import TypeChecker.Proofs.Types.Integers
import TypeChecker.Proofs.Types.Positional
import TypeChecker.Proofs.Types.Lengths

import Formula.Base64
import Formula.Bindings
import Formula.Builder
import Formula.Calendar
import Formula.Conversion
import Formula.Datum
import Formula.Declaration
import Formula.Expression
import Formula.Input
import Formula.Lexicon
import Formula.Main
import Formula.Rule
import Formula.Scanner
import Formula.Session
import Formula.Symbol
import Formula.Warning
import Formula.Command.Arguments
import Formula.Command.Request
import Formula.Command.Run
import Formula.Decimal.Arithmetic
import Formula.Decimal.Basic
import Formula.Decimal.Integral
import Formula.Decimal.Order
import Formula.Decimal.Rounding
import Formula.Decimal.Text
import Formula.Double.Function
import Formula.Double.NearOne
import Formula.Double.Rounding
import Formula.Double.Shortest
import Formula.Double.Text
import Formula.Function.Standard
import Formula.Operator.Standard
import Formula.Program.Evaluation
import Formula.Program.Mixed
import Formula.Program.Validation
import Formula.Program.ValueStack
import Formula.Rule.Stock
import Formula.Text.Class
import Formula.Text.HiddenTable
import Formula.Text.LetterTable
import Formula.Text.Lower
import Formula.Text.Quoted
import Formula.Token.Basic
import Formula.Token.Read
import Formula.Yaml.Assembly
import Formula.Yaml.Cursor
import Formula.Yaml.Form
import Formula.Yaml.Graph
import Formula.Yaml.Numeral
import Formula.Yaml.ReadError
import Formula.Yaml.Store
import Formula.Yaml.Tag
import Formula.Yaml.Timestamp
import Formula.Yaml.Token
import Formula.Yaml.TokenStream
import Formula.Yaml.Scalar.Block
import Formula.Yaml.Scalar.Plain
import Formula.Yaml.Scalar.Quoted
import Formula.Proofs.Program.Run
import Formula.Proofs.Tree
import Formula.Proofs.Builder
import Formula.Proofs.Conversion.Pending
import Formula.Proofs.Grammar.Arrangement
import Formula.Proofs.Program.Agreement
import Formula.Proofs.Conversion.Order
import Formula.Proofs.Program.Postorder
import Formula.Proofs.Conversion.Brackets
import Formula.Proofs.Decimal.Text
import Formula.Proofs.Scanner.Rewritten
import Formula.Proofs.Scanner.Partition
import Formula.Proofs.Conversion.Substitution
import Formula.Proofs.Names
import Formula.Proofs.Conversion.Blanks
import Formula.Proofs.Program.Substitution
import Formula.Proofs.Scanner.Calls
import Formula.Proofs.Grammar.Chain
import Formula.Proofs.Grammar.Leading
import Formula.Proofs.Grammar.Trailing
import Formula.Proofs.Grammar.Arguments
import Formula.Proofs.Builder.Warnings
import Formula.Proofs.Builder.Order
import Formula.Proofs.Session
import Formula.Proofs.Command
import Formula.Proofs.Grammar.Signs
import Formula.Proofs.Literal.Dangling
import Formula.Proofs.Scanner.Numbers
import Formula.Proofs.Conversion.Position
import Formula.Proofs.Program.StackCalls
import Formula.Proofs.Program.Complaints
import Formula.Proofs.Scanner.Resolution
import Formula.Proofs.Scanner.Declared
import Formula.Proofs.Relevance
import Formula.Proofs.Entries
import Formula.Proofs.Loading
import Formula.Proofs.Binding
import Formula.Proofs.Assignment
import Formula.Proofs.Grammar.Wrapping
import Formula.Proofs.Decimal.Arithmetic

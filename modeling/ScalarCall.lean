import ScalarCall.Arrow.Basic
import ScalarCall.Arrow.Bridge
import ScalarCall.BridgedType
import ScalarCall.Call.Argument
import ScalarCall.Call.Block
import ScalarCall.Call.Error
import ScalarCall.Call.Statement
import ScalarCall.Conversion
import ScalarCall.Expression
import ScalarCall.Function.Basic
import ScalarCall.Function.Overload
import ScalarCall.Function.Resolution
import ScalarCall.Json.Token
import ScalarCall.Json.Value
import ScalarCall.Literal
import ScalarCall.LogFilter
import ScalarCall.Number.Binary
import ScalarCall.Number.Decimal
import ScalarCall.Number.Shortest
import ScalarCall.Registry
import ScalarCall.RuntimeClass
import ScalarCall.Session
import ScalarCall.Settings.Basic
import ScalarCall.Settings.Override
import ScalarCall.Settings.Stored
import ScalarCall.SqlType.Basic
import ScalarCall.SqlType.Classes
import ScalarCall.SqlType.Display
import ScalarCall.Text.Blank
import ScalarCall.Text.Extending
import ScalarCall.Text.Fragment
import ScalarCall.Text.Hex
import ScalarCall.Text.Ignorable
import ScalarCall.Text.Printable
import ScalarCall.Text.Quoted
import ScalarCall.Text.Term
import ScalarCall.Registry.Growth
import ScalarCall.Proofs.Conversion.Support
import ScalarCall.Proofs.RuntimeClass.Component
import ScalarCall.Proofs.SqlType.OfClass
import ScalarCall.Proofs.Call.Argument
import ScalarCall.Proofs.Call.Block
import ScalarCall.Proofs.Call.Folding
import ScalarCall.Proofs.Call.Outcome
import ScalarCall.Proofs.Call.Growth
import ScalarCall.Proofs.Registry.Names
import ScalarCall.Proofs.Registry.Alignment
import ScalarCall.Proofs.Call.Assigned
import ScalarCall.Proofs.Text.Fragment
import ScalarCall.Call.Tree
import ScalarCall.Proofs.Call.Trace
import ScalarCall.Proofs.Call.Nesting
import ScalarCall.Proofs.Arrow.Bridge
import ScalarCall.Proofs.Arrow.ThroughColumn
import ScalarCall.Proofs.Arrow.ThroughSqlType
import ScalarCall.Proofs.Call.Failure
import ScalarCall.Proofs.Call.Returned
import ScalarCall.Proofs.Call.Locals
import ScalarCall.Proofs.Registry.Mints
import ScalarCall.Proofs.Session.Names
import ScalarCall.Proofs.Call.Again
import ScalarCall.Proofs.Registry.Lasting
import ScalarCall.Proofs.Call.OwnType
import ScalarCall.Proofs.SqlType.Primitive
import ScalarCall.Proofs.Function.Selection
import ScalarCall.Proofs.Function.Boxing
import ScalarCall.Proofs.Settings.Valid
import ScalarCall.Proofs.Registry.Spelling
import ScalarCall.Proofs.Session.Spelling
import ScalarCall.Proofs.Json.Written
import ScalarCall.Proofs.Settings.Stored
import ScalarCall.Proofs.Call.Passed
import ScalarCall.Proofs.SqlType.Nesting
import ScalarCall.Proofs.Call.Declared
import ScalarCall.Proofs.Call.Asked
import ScalarCall.Proofs.Number.Decimal
import ScalarCall.Proofs.Settings.Override
import ScalarCall.Proofs.SqlType.Display
import ScalarCall.Proofs.SqlType.ArrayClasses
import ScalarCall.Proofs.Call.Invocation

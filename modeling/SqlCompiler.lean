import SqlCompiler.CommandLine.Arguments
import SqlCompiler.CommandLine.Report
import SqlCompiler.CommandLine.Run
import SqlCompiler.Compilation.Event
import SqlCompiler.Compilation.Expr
import SqlCompiler.Compilation.Relation
import SqlCompiler.Decimal.Layout
import SqlCompiler.Decimal.Magnitude
import SqlCompiler.Decimal.Shortest
import SqlCompiler.Dialect.Basic
import SqlCompiler.Dialect.BuiltIn
import SqlCompiler.Document
import SqlCompiler.Expr.Basic
import SqlCompiler.Expr.Json
import SqlCompiler.Fragment
import SqlCompiler.Json.Fault
import SqlCompiler.Json.Number
import SqlCompiler.Json.Reader.Basic
import SqlCompiler.Json.Reader.Record
import SqlCompiler.Json.Reader.Skip
import SqlCompiler.Json.Reader.Variant
import SqlCompiler.Json.Token
import SqlCompiler.Json.Value
import SqlCompiler.Main
import SqlCompiler.Operator.Map
import SqlCompiler.Operator.Table
import SqlCompiler.Problem
import SqlCompiler.Proofs.CommandLine.Stages
import SqlCompiler.Proofs.CommandLine.Verbosity
import SqlCompiler.Proofs.Compilation.Agreement
import SqlCompiler.Proofs.Compilation.Bracketing
import SqlCompiler.Proofs.Compilation.Composition
import SqlCompiler.Proofs.Compilation.Erasure
import SqlCompiler.Proofs.Compilation.Extension
import SqlCompiler.Proofs.Compilation.LetterCase
import SqlCompiler.Proofs.Compilation.Log
import SqlCompiler.Proofs.Compilation.Passes
import SqlCompiler.Proofs.Compilation.Precedence
import SqlCompiler.Proofs.Compilation.Quoting
import SqlCompiler.Proofs.Compilation.Relabeling
import SqlCompiler.Proofs.Dialect
import SqlCompiler.Proofs.Document.Layout
import SqlCompiler.Proofs.Document.RoundTrip
import SqlCompiler.Proofs.Fragment
import SqlCompiler.Proofs.Fragment.Term
import SqlCompiler.Proofs.Json.Entries
import SqlCompiler.Proofs.Json.Fields
import SqlCompiler.Proofs.Json.Layout
import SqlCompiler.Proofs.Json.Number
import SqlCompiler.Proofs.Json.Reading
import SqlCompiler.Proofs.Json.Record
import SqlCompiler.Proofs.Json.Token
import SqlCompiler.Proofs.Json.Value
import SqlCompiler.Proofs.Operator.History
import SqlCompiler.Proofs.Operator.Layering
import SqlCompiler.Proofs.Operator.Map
import SqlCompiler.Proofs.Operator.RoundTrip
import SqlCompiler.Proofs.Operator.Validation
import SqlCompiler.Proofs.Reading.Chain
import SqlCompiler.Proofs.Reading.Expr
import SqlCompiler.Proofs.Reading.Query
import SqlCompiler.Proofs.Reading.Redundancy
import SqlCompiler.Proofs.Reading.Relation
import SqlCompiler.Proofs.Reading.Token
import SqlCompiler.Proofs.Text.ByteOrder
import SqlCompiler.Proofs.Text.Integer
import SqlCompiler.Proofs.Text.Parentheses
import SqlCompiler.Relation.Basic
import SqlCompiler.Relation.Json
import SqlCompiler.Text

import SqlAssembly.Value.JsonText
import SqlAssembly.Session
import SqlAssembly.Binding
import SqlAssembly.Proofs.Layout
import SqlAssembly.Proofs.Layout.Clauses
import SqlAssembly.Proofs.Layout.Statement
import SqlAssembly.Proofs.Shape
import SqlAssembly.Proofs.Numbering
import SqlAssembly.Proofs.Layout.Texts
import SqlAssembly.Proofs.Placeholders
import SqlAssembly.Proofs.Run.Reading
import SqlAssembly.Proofs.SameRows
import SqlAssembly.Proofs.Parentheses
import SqlAssembly.Proofs.PlainText
import SqlAssembly.Proofs.Operands
import SqlAssembly.Proofs.Json.RoundTrip
import SqlAssembly.Proofs.ListOperators
import SqlAssembly.Proofs.Soundness
import SqlAssembly.Proofs.Delivery
import SqlAssembly.Proofs.UpperCase
import SqlAssembly.Proofs.PrintedOperators
import SqlAssembly.Proofs.Identifiers
import SqlAssembly.Proofs.TableNames
import SqlAssembly.Proofs.ConditionWords
import SqlAssembly.Proofs.Numeric.Magnitude
import SqlAssembly.Proofs.Numeric.NearMiddles
import SqlAssembly.Proofs.Numeric.Widening
import SqlAssembly.Proofs.SingleBinding
import SqlAssembly.Proofs.QuotedIdentifiers
import SqlAssembly.Proofs.PartRuns
import SqlAssembly.Proofs.BoundBytes
import SqlAssembly.Proofs.AcceptedTypes
import SqlAssembly.Proofs.Numeric.ShortestDigits
import SqlAssembly.Proofs.SingleDisplay
import SqlAssembly.Proofs.ReadableLiterals
import SqlAssembly.Proofs.StringTokens
import SqlAssembly.Proofs.ByteCut
import SqlAssembly.Proofs.Pages
import SqlAssembly.Proofs.Emission
import SqlAssembly.Proofs.BoundParameters
